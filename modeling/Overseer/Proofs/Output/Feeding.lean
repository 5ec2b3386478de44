import Mathlib.Data.List.Induction
import Mathlib.Data.Nat.Find
import Overseer.Proofs.Output.Scanning

namespace Overseer.Output

-- A scanner that is fed chunk by chunk gives the alarm for the chunk with the
-- newline of the first marked line, wherever the stream is cut.

-- The place of a newline whose line holds the marker.
def MarkedAt (marker bytes : List UInt8) (position : Nat) : Prop :=
  ∃ before line after, MarkedLine marker bytes before line after ∧
    position = (before ++ line).length

structure FirstMarked (marker bytes : List UInt8) (position : Nat) : Prop where
  marked : MarkedAt marker bytes position
  first : ∀ earlier < position, ¬MarkedAt marker bytes earlier

variable {marker bytes : List UInt8} {position : Nat}

theorem MarkedAt.lt_length (h : MarkedAt marker bytes position) : position < bytes.length := by
  obtain ⟨before, line, after, hline, rfl⟩ := h
  rw [hline.split]
  simp

theorem markedAt_append (h : position < bytes.length) (more : List UInt8) :
    MarkedAt marker (bytes ++ more) position ↔ MarkedAt marker bytes position := by
  constructor
  · rintro ⟨before, line, after, hline, rfl⟩
    have hsplit := hline.split
    have hwhole : before ++ line ++ [newline] <+: bytes ++ more := ⟨after, by simp [hsplit]⟩
    have hfront : before ++ line ++ [newline] <+: bytes :=
      List.prefix_of_prefix_length_le hwhole (List.prefix_append bytes more)
        (by simp only [List.length_append, List.length_singleton] at h ⊢; omega)
    obtain ⟨rest, hrest⟩ := hfront
    exact ⟨before, line, rest, ⟨by simp [← hrest], hline.begins, hline.unbroken, hline.nonempty,
      hline.holds⟩, rfl⟩
  · rintro ⟨before, line, after, hline, rfl⟩
    exact ⟨before, line, after ++ more, ⟨by simp [hline.split], hline.begins, hline.unbroken,
      hline.nonempty, hline.holds⟩, rfl⟩

theorem MarkedAt.hasMarkedLine (h : MarkedAt marker bytes position) :
    HasMarkedLine marker bytes := by
  obtain ⟨before, line, after, hline, -⟩ := h
  exact ⟨before, line, after, hline⟩

theorem HasMarkedLine.exists_first (h : HasMarkedLine marker bytes) :
    ∃ position, FirstMarked marker bytes position := by
  classical
  obtain ⟨before, line, after, hline⟩ := h
  have hmarked : ∃ position, MarkedAt marker bytes position :=
    ⟨_, before, line, after, hline, rfl⟩
  exact ⟨Nat.find hmarked, Nat.find_spec hmarked, fun _ => Nat.find_min hmarked⟩

-- A beginning of the stream shows the marker once it has the first marked line.
theorem hasMarkedLine_iff (bytes more : List UInt8) :
    HasMarkedLine marker bytes ↔
      ∃ position, FirstMarked marker (bytes ++ more) position ∧ position < bytes.length := by
  constructor
  · intro h
    obtain ⟨position, hmarked, hfirst⟩ := h.exists_first
    have hlt := hmarked.lt_length
    refine ⟨position, ⟨(markedAt_append hlt more).mpr hmarked, fun earlier hearlier => ?_⟩, hlt⟩
    rw [markedAt_append (Nat.lt_trans hearlier hlt)]
    exact hfirst earlier hearlier
  · rintro ⟨position, hfirst, hlt⟩
    exact ((markedAt_append hlt more).mp hfirst.marked).hasMarkedLine

namespace Scanner

def after (scanner : Scanner) (chunks : List (List UInt8)) : Scanner :=
  chunks.foldl (fun scanner chunk => (scanner.feed chunk).2) scanner

@[simp] theorem after_concat (scanner : Scanner) (chunks : List (List UInt8))
    (chunk : List UInt8) :
    scanner.after (chunks ++ [chunk]) = ((scanner.after chunks).feed chunk).2 := by
  simp [after]

theorem matched_of_scan {scanner : Scanner} {chunk : List UInt8}
    (h : (scanner.scan chunk).1 = true) : (scanner.scan chunk).2.matched = true := by
  induction chunk generalizing scanner with
  | nil => cases h
  | cons byte chunk ih =>
      simp only [scan] at h ⊢
      split_ifs at h ⊢ with hbyte hhit
      · rfl
      · exact ih h
      · exact ih h

structure Fed (scanner : Scanner) (marker bytes : List UInt8) : Prop where
  matched : HasMarkedLine marker bytes → scanner.matched = true
  follows : ¬HasMarkedLine marker bytes → scanner.Follows marker bytes

theorem Fed.matched_iff {scanner : Scanner} (h : scanner.Fed marker bytes) :
    scanner.matched = true ↔ HasMarkedLine marker bytes := by
  refine ⟨fun hmatched => ?_, h.matched⟩
  by_contra hnone
  simp [(h.follows hnone).unmatched] at hmatched

theorem fed_new (marker : String) (maxLine : Nat) :
    (new marker maxLine).Fed (Text.Utf8.encode marker) [] where
  matched := fun h => absurd h HasMarkedLine.not_nil
  follows := fun _ => follows_new marker maxLine

-- A chunk gives the alarm if the stream shows the marker with it and not before.
theorem Fed.feed {scanner : Scanner} (h : scanner.Fed marker bytes) (chunk : List UInt8) :
    ((scanner.feed chunk).1 = true ↔
        ¬HasMarkedLine marker bytes ∧ HasMarkedLine marker (bytes ++ chunk)) ∧
      (scanner.feed chunk).2.Fed marker (bytes ++ chunk) := by
  by_cases hmarked : HasMarkedLine marker bytes
  · have hmatched := h.matched hmarked
    simp only [Scanner.feed, hmatched, if_true, hmarked, not_true_eq_false, false_and]
    exact ⟨by simp, fun _ => hmatched, fun hnone => absurd (hmarked.append chunk) hnone⟩
  · have hfollows := h.follows hmarked
    obtain ⟨hhit, hnext⟩ := hfollows.scan hmarked chunk
    simp only [Scanner.feed, hfollows.unmatched, Bool.false_eq_true, if_false, hmarked,
      not_false_eq_true, true_and]
    refine ⟨hhit, fun hlonger => matched_of_scan (hhit.mpr hlonger), fun hnone => hnext ?_⟩
    rwa [← hhit, Bool.not_eq_true] at hnone

theorem fed_after (marker : String) (maxLine : Nat) (chunks : List (List UInt8)) :
    ((new marker maxLine).after chunks).Fed (Text.Utf8.encode marker) chunks.flatten := by
  induction chunks using List.reverseRecOn with
  | nil => exact fed_new marker maxLine
  | append_singleton chunks chunk ih =>
      rw [after_concat, List.flatten_concat]
      exact (ih.feed chunk).2

-- What a new scanner says of a stream that comes in chunks.
structure Reports (marker : String) (maxLine : Nat) (chunks : List (List UInt8)) : Prop where
  -- The alarm is given for the chunk with the newline of the first marked line,
  -- and for no other.
  alarm : ∀ earlier chunk later, chunks = earlier ++ chunk :: later →
    ((((new marker maxLine).after earlier).feed chunk).1 = true ↔
      ∃ position, FirstMarked (Text.Utf8.encode marker) chunks.flatten position ∧
        earlier.flatten.length ≤ position ∧ position < earlier.flatten.length + chunk.length)
  -- It is remembered from then on.
  matched : ∀ earlier later, chunks = earlier ++ later →
    (((new marker maxLine).after earlier).matched = true ↔
      ∃ position, FirstMarked (Text.Utf8.encode marker) chunks.flatten position ∧
        position < earlier.flatten.length)
  silent : (∀ position, ¬FirstMarked (Text.Utf8.encode marker) chunks.flatten position) →
    ∀ earlier chunk later, chunks = earlier ++ chunk :: later →
      (((new marker maxLine).after earlier).feed chunk).1 = false
  -- Another limit changes no answer, and other cuts do not change the last word.
  unlimited : ∀ limit earlier chunk later, chunks = earlier ++ chunk :: later →
    (((new marker limit).after earlier).feed chunk).1 =
      (((new marker maxLine).after earlier).feed chunk).1
  uncut : ∀ limit other, other.flatten = chunks.flatten →
    ((new marker limit).after other).matched = ((new marker maxLine).after chunks).matched

theorem feed_iff (marker : String) (maxLine : Nat) (earlier later : List (List UInt8))
    (chunk : List UInt8) :
    (((new marker maxLine).after earlier).feed chunk).1 = true ↔
      ∃ position,
        FirstMarked (Text.Utf8.encode marker) (earlier ++ chunk :: later).flatten position ∧
          earlier.flatten.length ≤ position ∧
          position < earlier.flatten.length + chunk.length := by
  have hsplit : (earlier ++ chunk :: later).flatten =
      earlier.flatten ++ chunk ++ later.flatten := by simp
  rw [((fed_after marker maxLine earlier).feed chunk).1,
    hasMarkedLine_iff (earlier.flatten ++ chunk) later.flatten,
    hasMarkedLine_iff earlier.flatten (chunk ++ later.flatten), hsplit, List.append_assoc,
    List.length_append]
  constructor
  · rintro ⟨hbefore, position, hfirst, hlt⟩
    exact ⟨position, hfirst, Nat.not_lt.mp fun hearly => hbefore ⟨position, hfirst, hearly⟩, hlt⟩
  · rintro ⟨position, hfirst, hle, hlt⟩
    refine ⟨?_, position, hfirst, hlt⟩
    rintro ⟨other, hother, hearly⟩
    exact hfirst.first other (Nat.lt_of_lt_of_le hearly hle) hother.marked

theorem matched_after_iff (marker : String) (maxLine : Nat) (earlier later : List (List UInt8)) :
    ((new marker maxLine).after earlier).matched = true ↔
      ∃ position, FirstMarked (Text.Utf8.encode marker) (earlier ++ later).flatten position ∧
        position < earlier.flatten.length := by
  rw [(fed_after marker maxLine earlier).matched_iff, hasMarkedLine_iff _ later.flatten,
    List.flatten_append]

-- Wherever the stream is cut, and however much of a line may be kept, the scanner
-- finds the first marked line and nothing else.
theorem reports_first_marked_line (marker : String) (maxLine : Nat)
    (chunks : List (List UInt8)) : Reports marker maxLine chunks where
  alarm := by
    rintro earlier chunk later rfl
    exact feed_iff marker maxLine earlier later chunk
  matched := by
    rintro earlier later rfl
    exact matched_after_iff marker maxLine earlier later
  silent := by
    rintro hnone earlier chunk later rfl
    rw [← Bool.not_eq_true, feed_iff marker maxLine earlier later chunk]
    rintro ⟨position, hfirst, -⟩
    exact hnone position hfirst
  unlimited := by
    rintro limit earlier chunk later rfl
    rw [Bool.eq_iff_iff, feed_iff marker limit earlier later chunk,
      feed_iff marker maxLine earlier later chunk]
  uncut := by
    intro limit other hother
    rw [Bool.eq_iff_iff, (fed_after marker limit other).matched_iff,
      (fed_after marker maxLine chunks).matched_iff, hother]

end Scanner

end Overseer.Output
