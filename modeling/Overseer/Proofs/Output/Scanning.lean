import Mathlib.Data.List.Induction
import Overseer.Output.Scanner

namespace Overseer.Output

-- What it means that a stream has shown the marker, and why a scanner that
-- keeps only a part of the unfinished line finds out.

-- A line that has come to its newline and holds the marker.
structure MarkedLine (marker bytes before line after : List UInt8) : Prop where
  split : bytes = before ++ line ++ newline :: after
  begins : before = [] ∨ ∃ earlier, before = earlier ++ [newline]
  unbroken : newline ∉ line
  nonempty : marker ≠ []
  holds : marker <:+: line

def HasMarkedLine (marker bytes : List UInt8) : Prop :=
  ∃ before line after, MarkedLine marker bytes before line after

def openLine (bytes : List UInt8) : List UInt8 :=
  bytes.foldl (fun line byte => if byte = newline then [] else line ++ [byte]) []

theorem openLine_concat (bytes : List UInt8) (byte : UInt8) :
    openLine (bytes ++ [byte]) = if byte = newline then [] else openLine bytes ++ [byte] := by
  simp [openLine]

-- Reading back from the end of the bytes there is a newline or their beginning.
theorem openLine_split (bytes : List UInt8) :
    ∃ before, bytes = before ++ openLine bytes ∧
      (before = [] ∨ ∃ earlier, before = earlier ++ [newline]) ∧ newline ∉ openLine bytes := by
  induction bytes using List.reverseRecOn with
  | nil => exact ⟨[], rfl, .inl rfl, by simp [openLine]⟩
  | append_singleton bytes byte ih =>
      obtain ⟨before, hsplit, hbegins, hunbroken⟩ := ih
      rw [openLine_concat]
      by_cases hbyte : byte = newline
      · subst hbyte
        exact ⟨bytes ++ [newline], by simp, .inr ⟨bytes, rfl⟩, by simp⟩
      · refine ⟨before, ?_, hbegins, ?_⟩
        · rw [if_neg hbyte, ← List.append_assoc, ← hsplit]
        · simpa [hbyte, eq_comm] using hunbroken

theorem openLine_of_unbroken {before line : List UInt8}
    (hbegins : before = [] ∨ ∃ earlier, before = earlier ++ [newline]) (hline : newline ∉ line) :
    openLine (before ++ line) = line := by
  induction line using List.reverseRecOn with
  | nil =>
      rcases hbegins with rfl | ⟨earlier, rfl⟩
      · rfl
      · rw [List.append_nil, openLine_concat, if_pos rfl]
  | append_singleton line byte ih =>
      obtain ⟨hbyte, hline⟩ : byte ≠ newline ∧ newline ∉ line := by
        simpa [eq_comm, and_comm] using hline
      rw [← List.append_assoc, openLine_concat, if_neg hbyte, ih hline]

namespace HasMarkedLine

variable {marker bytes : List UInt8}

theorem append (h : HasMarkedLine marker bytes) (more : List UInt8) :
    HasMarkedLine marker (bytes ++ more) := by
  obtain ⟨before, line, after, hline⟩ := h
  exact ⟨before, line, after ++ more, by simp [hline.split], hline.begins, hline.unbroken,
    hline.nonempty, hline.holds⟩

theorem not_nil : ¬HasMarkedLine marker [] := by
  rintro ⟨before, line, after, hline⟩
  simpa using hline.split

-- A marked line is complete from one byte to the next only by a newline.
theorem concat_iff {byte : UInt8} :
    HasMarkedLine marker (bytes ++ [byte]) ↔
      HasMarkedLine marker bytes ∨
        byte = newline ∧ marker ≠ [] ∧ marker <:+: openLine bytes := by
  constructor
  · rintro ⟨before, line, after, hline⟩
    have hsplit := hline.split
    rcases List.eq_nil_or_concat after with rfl | ⟨after, last, rfl⟩
    · obtain ⟨rfl, hbyte⟩ := List.append_inj' hsplit rfl
      obtain rfl : byte = newline := by simpa using hbyte
      rw [openLine_of_unbroken hline.begins hline.unbroken]
      exact .inr ⟨rfl, hline.nonempty, hline.holds⟩
    · refine .inl ⟨before, line, after, ?_, hline.begins, hline.unbroken, hline.nonempty,
        hline.holds⟩
      rw [List.concat_eq_append, ← List.cons_append, ← List.append_assoc] at hsplit
      exact (List.append_inj' hsplit rfl).1
  · rintro (h | ⟨rfl, hnonempty, hholds⟩)
    · exact h.append [byte]
    · obtain ⟨before, hsplit, hbegins, hunbroken⟩ := openLine_split bytes
      refine ⟨before, openLine bytes, [], ?_, hbegins, hunbroken, hnonempty, hholds⟩
      rw [← hsplit]

-- A marker that could only be found across two lines is never found.
theorem unbroken (h : HasMarkedLine marker bytes) : newline ∉ marker := by
  obtain ⟨before, line, after, hline⟩ := h
  exact fun hmem => hline.unbroken (hline.holds.subset hmem)

end HasMarkedLine

theorem occurs_iff_infix {word bytes : List UInt8} :
    occurs word bytes = true ↔ word <:+: bytes := by
  induction bytes with
  | nil => simp [occurs]
  | cons byte bytes ih => simp [occurs, ih, List.infix_cons_iff]

namespace Scanner

theorem lineHasMarker_iff {scanner : Scanner} :
    scanner.lineHasMarker = true ↔
      scanner.marker ≠ [] ∧ scanner.marker <:+: scanner.line.toList := by
  simp [lineHasMarker, occurs_iff_infix]

-- What a scanner knows of the unfinished line. It keeps the end of the line,
-- and of a line that it does not keep as a whole it keeps enough for a marker
-- that began in the dropped part.
structure Follows (scanner : Scanner) (marker bytes : List UInt8) : Prop where
  looksFor : scanner.marker = marker
  room : marker.length ≤ scanner.maxLine
  unmatched : scanner.matched = false
  kept : scanner.line.toList <:+ openLine bytes
  enough : scanner.line.toList = openLine bytes ∨ marker.length ≤ scanner.line.size + 1
  seen : (scanner.lineHit || scanner.lineHasMarker) = true ↔
    marker ≠ [] ∧ marker <:+: openLine bytes

theorem follows_new (marker : String) (maxLine : Nat) :
    (Scanner.new marker maxLine).Follows (Text.Utf8.encode marker) [] where
  looksFor := rfl
  room := Nat.le_max_right _ _
  unmatched := rfl
  kept := List.suffix_rfl
  enough := .inl rfl
  seen := by
    rw [Bool.or_eq_true, lineHasMarker_iff]
    simp [Scanner.new, openLine]

namespace Follows

variable {scanner : Scanner} {marker bytes : List UInt8}

-- A marker that ends in the newest byte lies within what is kept.
theorem suffix_iff (h : scanner.Follows marker bytes) (byte : UInt8) :
    marker <:+ openLine bytes ++ [byte] ↔ marker <:+ scanner.line.toList ++ [byte] := by
  have hsuffix : scanner.line.toList ++ [byte] <:+ openLine bytes ++ [byte] := by
    obtain ⟨dropped, hdropped⟩ := h.kept
    exact ⟨dropped, by rw [← hdropped, List.append_assoc]⟩
  constructor
  · intro hmarker
    rcases h.enough with hwhole | hlong
    · rwa [hwhole]
    · exact List.suffix_of_suffix_length_le hmarker hsuffix (by simpa using hlong)
  · exact fun hmarker => hmarker.trans hsuffix

theorem push (h : scanner.Follows marker bytes) {byte : UInt8} (hbyte : byte ≠ newline) :
    ({ scanner with line := scanner.line.push byte } : Scanner).Follows marker
      (bytes ++ [byte]) := by
  have hline : openLine (bytes ++ [byte]) = openLine bytes ++ [byte] := by
    rw [openLine_concat, if_neg hbyte]
  refine ⟨h.looksFor, h.room, h.unmatched, ?_, ?_, ?_⟩
  · obtain ⟨dropped, hdropped⟩ := h.kept
    exact ⟨dropped, by rw [hline, ← hdropped]; simp⟩
  · rcases h.enough with hwhole | hlong
    · exact .inl (by simp [hline, hwhole])
    · exact .inr (by simp only [Array.size_push]; omega)
  · have hseen := h.seen
    rw [Bool.or_eq_true, lineHasMarker_iff, h.looksFor] at hseen ⊢
    rw [hline, Array.toList_push, List.infix_concat_iff, List.infix_concat_iff, h.suffix_iff]
    by_cases hnonempty : marker = []
    · simpa [hnonempty] using hseen
    · simp only [ne_eq, hnonempty, not_false_eq_true, true_and] at hseen ⊢
      rw [← hseen]
      exact or_left_comm

theorem newline (h : scanner.Follows marker bytes)
    (hunseen : (scanner.lineHit || scanner.lineHasMarker) = false) :
    ({ scanner with line := #[] } : Scanner).Follows marker (bytes ++ [Output.newline]) := by
  have hline : openLine (bytes ++ [Output.newline]) = [] := by rw [openLine_concat, if_pos rfl]
  have hhit : scanner.lineHit = false := (Bool.or_eq_false_iff.mp hunseen).1
  refine ⟨h.looksFor, h.room, h.unmatched, ?_, .inl hline.symm, ?_⟩
  · exact List.nil_suffix
  · rw [Bool.or_eq_true, lineHasMarker_iff, hline, h.looksFor, hhit]
    simp

-- What is dropped is remembered as far as it matters.
theorem trim (h : scanner.Follows marker bytes) : scanner.trim.Follows marker bytes := by
  unfold Scanner.trim
  split
  · rename_i hover
    have hroom := h.room
    have hkept : (scanner.line.extract (scanner.line.size - (scanner.marker.length - 1))
        scanner.line.size).toList <:+ scanner.line.toList := by
      rw [Array.toList_extract, List.extract_eq_take_drop, List.take_of_length_le (by simp)]
      exact List.drop_suffix _ _
    refine ⟨h.looksFor, h.room, h.unmatched, hkept.trans h.kept, .inr ?_, ?_⟩
    · rw [h.looksFor, Array.size_extract]
      omega
    · rw [← h.seen]
      simp only [Bool.or_eq_true, lineHasMarker_iff]
      exact ⟨fun hseen => hseen.elim id fun ⟨hnonempty, hholds⟩ =>
          .inr ⟨hnonempty, hholds.trans hkept.isInfix⟩, .inl⟩
  · exact h

-- The scanner gives the alarm for the piece that completes the first marked
-- line, and otherwise knows as much of the longer stream.
theorem scan (h : scanner.Follows marker bytes) (hnone : ¬HasMarkedLine marker bytes)
    (piece : List UInt8) :
    ((scanner.scan piece).1 = true ↔ HasMarkedLine marker (bytes ++ piece)) ∧
      ((scanner.scan piece).1 = false →
        (scanner.scan piece).2.Follows marker (bytes ++ piece)) := by
  induction piece generalizing scanner bytes with
  | nil => simpa [Scanner.scan, hnone] using h.trim
  | cons byte piece ih =>
      have hsplit : bytes ++ byte :: piece = (bytes ++ [byte]) ++ piece := by simp
      rw [Scanner.scan, hsplit]
      by_cases hbyte : byte = Output.newline
      · subst hbyte
        rw [if_pos rfl]
        cases hseen : scanner.lineHit || scanner.lineHasMarker with
        | true =>
            have hmarked : HasMarkedLine marker (bytes ++ [Output.newline]) :=
              HasMarkedLine.concat_iff.mpr (.inr ⟨rfl, h.seen.mp hseen⟩)
            simpa using hmarked.append piece
        | false =>
            have hunmarked : ¬HasMarkedLine marker (bytes ++ [Output.newline]) := by
              rw [HasMarkedLine.concat_iff, ← h.seen, hseen]
              simpa using hnone
            exact ih (h.newline hseen) hunmarked
      · have hunmarked : ¬HasMarkedLine marker (bytes ++ [byte]) := by
          rw [HasMarkedLine.concat_iff]
          simp [hnone, hbyte]
        rw [if_neg hbyte]
        exact ih (h.push hbyte) hunmarked

end Follows

end Scanner

end Overseer.Output
