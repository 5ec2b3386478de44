import Overseer.Proofs.Output.Feeding

namespace Overseer.Output

open Overseer.Text

-- How much of a line a scanner holds, at rest and while it deals with a chunk,
-- and what it can still tell of the part that it dropped.

namespace Scanner

-- The scanners that a chunk takes a scanner through, from the one that is given
-- the chunk to the one that is done with it.
def stages (scanner : Scanner) : List UInt8 → List Scanner
  | [] => [scanner, scanner.trim]
  | byte :: bytes =>
      scanner ::
        if byte = newline then
          if scanner.lineHit || scanner.lineHasMarker then
            [{ scanner with line := #[], matched := true }]
          else stages { scanner with line := #[] } bytes
        else stages { scanner with line := scanner.line.push byte } bytes

def feedStages (scanner : Scanner) (chunk : List UInt8) : List Scanner :=
  if scanner.matched then [scanner] else scanner.stages chunk

theorem getLast?_stages (scanner : Scanner) (bytes : List UInt8) :
    (scanner.stages bytes).getLast? = some (scanner.scan bytes).2 := by
  induction bytes generalizing scanner with
  | nil => rfl
  | cons byte bytes ih =>
      have hmore : ∀ next : Scanner,
          (scanner :: next.stages bytes).getLast? = some (next.scan bytes).2 := by
        intro next
        rw [List.getLast?_cons, ih next]
        rfl
      rw [stages, scan]
      split_ifs
      · rfl
      · exact hmore _
      · exact hmore _

theorem getLast?_feedStages (scanner : Scanner) (chunk : List UInt8) :
    (scanner.feedStages chunk).getLast? = some (scanner.feed chunk).2 := by
  unfold feedStages feed
  split
  · rfl
  · exact scanner.getLast?_stages chunk

-- A scanner of the same make, which holds no more than some number of bytes.
structure Holds (scanner stage : Scanner) (most : Nat) : Prop where
  marker : stage.marker = scanner.marker
  maxLine : stage.maxLine = scanner.maxLine
  size_le : stage.line.size ≤ most

theorem holds_trim (scanner : Scanner) : scanner.Holds scanner.trim scanner.line.size := by
  unfold trim
  split
  · refine ⟨rfl, rfl, ?_⟩
    rw [Array.size_extract]
    omega
  · exact ⟨rfl, rfl, Nat.le_refl _⟩

-- With every byte a scanner holds at most one more.
theorem holds_of_mem_stages {scanner stage : Scanner} {bytes : List UInt8}
    (h : stage ∈ scanner.stages bytes) :
    scanner.Holds stage (scanner.line.size + bytes.length) := by
  have hself : ∀ most, scanner.Holds scanner (scanner.line.size + most) :=
    fun _ => ⟨rfl, rfl, Nat.le_add_right _ _⟩
  induction bytes generalizing scanner with
  | nil =>
      obtain rfl | rfl : stage = scanner ∨ stage = scanner.trim := by simpa [stages] using h
      · exact hself 0
      · exact scanner.holds_trim
  | cons byte bytes ih =>
      have hnext : ∀ line : Array UInt8, line.size ≤ scanner.line.size + 1 →
          stage ∈ stages { scanner with line := line } bytes →
          scanner.Holds stage (scanner.line.size + (byte :: bytes).length) := by
        intro line hline hmem
        have hheld := ih hmem fun _ => ⟨rfl, rfl, Nat.le_add_right _ _⟩
        refine ⟨hheld.marker, hheld.maxLine, Nat.le_trans hheld.size_le ?_⟩
        simp only [List.length_cons]
        omega
      rw [stages, List.mem_cons] at h
      rcases h with rfl | h
      · exact hself _
      · split_ifs at h with hbyte hseen
        · rw [List.mem_singleton.mp h]
          exact ⟨rfl, rfl, Nat.zero_le _⟩
        · exact hnext #[] (Nat.zero_le _) h
        · exact hnext _ (by rw [Array.size_push]) h

theorem holds_of_mem_feedStages {scanner stage : Scanner} {chunk : List UInt8}
    (h : stage ∈ scanner.feedStages chunk) :
    scanner.Holds stage (scanner.line.size + chunk.length) := by
  unfold feedStages at h
  split at h
  · rw [List.mem_singleton.mp h]
    exact ⟨rfl, rfl, Nat.le_add_right _ _⟩
  · exact holds_of_mem_stages h

-- Once it is done with a chunk it is back within its limit, if the limit leaves
-- room for the marker.
theorem size_trim_le {scanner : Scanner} (hroom : scanner.marker.length ≤ scanner.maxLine) :
    scanner.trim.line.size ≤ scanner.maxLine := by
  unfold trim
  split
  · rw [Array.size_extract]
    omega
  · rename_i hshort
    exact Nat.not_lt.mp hshort

theorem size_scan_le {scanner : Scanner} (hroom : scanner.marker.length ≤ scanner.maxLine)
    (bytes : List UInt8) : (scanner.scan bytes).2.line.size ≤ scanner.maxLine := by
  induction bytes generalizing scanner with
  | nil => exact size_trim_le hroom
  | cons byte bytes ih =>
      rw [scan]
      split_ifs
      · exact Nat.zero_le _
      · exact ih hroom
      · exact ih hroom

-- A scanner that has its make from `new` and is at rest.
structure Resting (marker : String) (maxLine : Nat) (scanner : Scanner) : Prop where
  looksFor : scanner.marker = Utf8.encode marker
  limit : scanner.maxLine = max maxLine (Utf8.encode marker).length
  size_le : scanner.line.size ≤ scanner.maxLine
  -- Nothing is held once the marker was found.
  emptied : scanner.matched = true → scanner.line = #[]

theorem resting_new (marker : String) (maxLine : Nat) :
    Resting marker maxLine (new marker maxLine) :=
  ⟨rfl, rfl, Nat.zero_le _, fun _ => rfl⟩

theorem emptied_scan {scanner : Scanner} {bytes : List UInt8} (hopen : scanner.matched = false)
    (h : (scanner.scan bytes).2.matched = true) : (scanner.scan bytes).2.line = #[] := by
  induction bytes generalizing scanner with
  | nil =>
      have hsame : scanner.trim.matched = scanner.matched := by
        unfold trim
        split <;> rfl
      have h : scanner.trim.matched = true := h
      rw [hsame, hopen] at h
      cases h
  | cons byte bytes ih =>
      simp only [scan] at h ⊢
      split_ifs at h ⊢
      · rfl
      · exact ih hopen h
      · exact ih hopen h

theorem Resting.feed {marker : String} {maxLine : Nat} {scanner : Scanner}
    (h : Resting marker maxLine scanner) (chunk : List UInt8) :
    Resting marker maxLine (scanner.feed chunk).2 := by
  have hheld := holds_of_mem_feedStages (List.mem_of_getLast? (scanner.getLast?_feedStages chunk))
  have hroom : scanner.marker.length ≤ scanner.maxLine := by
    rw [h.looksFor, h.limit]
    exact Nat.le_max_right _ _
  refine ⟨hheld.marker.trans h.looksFor, hheld.maxLine.trans h.limit, ?_, ?_⟩
  · rw [hheld.maxLine]
    unfold Scanner.feed
    split
    · exact h.size_le
    · exact size_scan_le hroom chunk
  · intro hmatched
    unfold Scanner.feed at hmatched ⊢
    split_ifs at hmatched ⊢ with hdone
    · exact h.emptied hdone
    · exact emptied_scan (by simpa using hdone) hmatched

theorem resting_after (marker : String) (maxLine : Nat) (chunks : List (List UInt8)) :
    Resting marker maxLine ((new marker maxLine).after chunks) := by
  induction chunks using List.reverseRecOn with
  | nil => exact resting_new marker maxLine
  | append_singleton chunks chunk ih =>
      rw [after_concat]
      exact ih.feed chunk

-- What can be said of the buffer of a scanner that was fed some bytes.
structure Buffered (scanner : Scanner) (marker : List UInt8) (maxLine : Nat)
    (bytes : List UInt8) : Prop where
  -- It is the end of the line that the bytes leave unfinished.
  tail : scanner.matched = false →
    scanner.line.toList <:+ openLine bytes ∧ newline ∉ scanner.line.toList
  bounded : scanner.line.size ≤ max maxLine marker.length
  -- What was dropped is too far back for a marker that is not complete.
  enough : scanner.matched = false → scanner.line.toList ≠ openLine bytes →
    marker.length - 1 ≤ scanner.line.size
  seen : scanner.matched = false →
    ((scanner.lineHit || scanner.lineHasMarker) = true ↔
      marker ≠ [] ∧ marker <:+: openLine bytes)
  -- A chunk adds no more to it than its own length, and whenever it has grown too
  -- long there is something to drop.
  within : ∀ chunk, ∀ stage ∈ scanner.feedStages chunk,
    stage.line.size ≤ max maxLine marker.length + chunk.length ∧
      (stage.maxLine < stage.line.size → stage.marker.length - 1 ≤ stage.line.size)
  finished : scanner.matched = true →
    scanner.line = #[] ∧ ∀ chunk, scanner.feed chunk = (false, scanner)

-- Whatever a scanner is fed, its buffer stays small, and with what it remembers
-- of the rest it is as good as the whole line.
theorem buffer_stands_for_line (marker : String) (maxLine : Nat) (chunks : List (List UInt8)) :
    Buffered ((new marker maxLine).after chunks) (Utf8.encode marker) maxLine chunks.flatten := by
  have hfed := fed_after marker maxLine chunks
  have hresting := resting_after marker maxLine chunks
  have hfollows : ((new marker maxLine).after chunks).matched = false →
      ((new marker maxLine).after chunks).Follows (Utf8.encode marker) chunks.flatten := by
    intro hopen
    refine hfed.follows fun hmarked => ?_
    simp [hfed.matched hmarked] at hopen
  refine ⟨?_, ?_, ?_, ?_, ?_, ?_⟩
  · intro hopen
    obtain ⟨-, -, -, hunbroken⟩ := openLine_split chunks.flatten
    have hkept := (hfollows hopen).kept
    exact ⟨hkept, fun hmem => hunbroken (hkept.subset hmem)⟩
  · rw [← hresting.limit]
    exact hresting.size_le
  · intro hopen hdropped
    have hlong := (hfollows hopen).enough.resolve_left hdropped
    omega
  · exact fun hopen => (hfollows hopen).seen
  · intro chunk stage hstage
    have hheld := holds_of_mem_feedStages hstage
    have hsize := hresting.size_le
    refine ⟨?_, fun hover => ?_⟩
    · rw [← hresting.limit]
      exact Nat.le_trans hheld.size_le (Nat.add_le_add_right hsize _)
    · rw [hheld.maxLine, hresting.limit] at hover
      rw [hheld.marker, hresting.looksFor]
      omega
  · intro hdone
    exact ⟨hresting.emptied hdone, fun chunk => by simp [Scanner.feed, hdone]⟩

end Scanner

end Overseer.Output
