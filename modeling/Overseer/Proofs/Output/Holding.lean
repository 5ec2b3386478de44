import Mathlib.Data.List.Induction
import Overseer.Proofs.Output.Decoding

-- What a decoder holds back: the beginning of a character at the end of the
-- bytes, and nothing if they do not end within a character.

namespace Overseer.Text.Utf8

open String (utf8EncodeChar)

variable {lead : UInt8} {ranges : List Range}

-- No byte that begins a longer sequence continues one.
theorem not_contains_lead {other : UInt8} {range : Range} {more others : List Range}
    (hlead : following lead = some (range :: more)) (hother : following other = some others) :
    ∀ range ∈ others, range.contains lead = false := by
  intro range hrange
  have hhigh := ((row_of_following hother).bounds range hrange).2
  have hlow : 0xC2 ≤ lead := by
    cases row_of_following hlead with
    | two hlow => exact hlow
    | three hlow => grind
    | four hlow => grind
  grind [Range.contains]

end Overseer.Text.Utf8

namespace Overseer.Output

open Overseer.Text
open String (utf8EncodeChar)

namespace Decoder

variable {lead : UInt8} {got bytes pending : List UInt8}

-- Unfinished bytes are the beginning of a character that lacks something yet.
theorem unfinished_cons_iff :
    Unfinished (lead :: got) ↔
      ∃ (c : Char) (more : List UInt8), more ≠ [] ∧ utf8EncodeChar c = lead :: (got ++ more) := by
  constructor
  · rintro ⟨ranges, hfollowing, hshort, hgot⟩
    obtain ⟨c, more, hmore⟩ := Utf8.beginning_cons_iff.mpr ⟨ranges, hfollowing, hgot⟩
    rw [List.cons_append] at hmore
    refine ⟨c, more, ?_, hmore.symm⟩
    rintro rfl
    obtain ⟨ranges', hrow, hfits⟩ := Utf8.row_of_encode hmore.symm
    obtain rfl : ranges' = ranges := by simpa using hrow.following_eq.symm.trans hfollowing
    have hlength := hfits.length_eq
    rw [List.append_nil] at hlength
    omega
  · rintro ⟨c, more, hmore, hencode⟩
    obtain ⟨ranges, hfollowing, hgot⟩ := Utf8.beginning_cons_iff.mp ⟨c, more, hencode.symm⟩
    obtain ⟨ranges', hrow, hfits⟩ := Utf8.row_of_encode hencode
    obtain rfl : ranges' = ranges := by simpa using hrow.following_eq.symm.trans hfollowing
    have hlength := hfits.length_eq
    have hpos := List.length_pos_iff.mpr hmore
    rw [List.length_append] at hlength
    exact ⟨ranges', hfollowing, by omega, hgot⟩

theorem Unfinished.of_append {more : List UInt8} (h : Unfinished (lead :: (got ++ more))) :
    Unfinished (lead :: got) := by
  obtain ⟨c, rest, hrest, hencode⟩ := unfinished_cons_iff.mp h
  rw [List.append_assoc] at hencode
  exact unfinished_cons_iff.mpr ⟨c, more ++ rest, by simp [hrest], hencode⟩

theorem lossy_of_unfinished (h : Unfinished (lead :: got)) :
    Utf8.lossy (lead :: got) = [Utf8.replacement] := by
  obtain ⟨ranges, hfollowing, hshort, hgot⟩ := h
  rw [Utf8.lossy_cons_of_some hfollowing, hgot, if_neg (Nat.ne_of_lt hshort), List.drop_length,
    Utf8.lossy_nil]

def held (pending bytes : List UInt8) : List UInt8 :=
  bytes.foldl (fun pending byte => (advance pending byte).2) pending

theorem pending_decode (decoder : Decoder) (bytes : List UInt8) :
    (decoder.decode bytes).2.pending = held decoder.pending bytes := by
  have hfold : ∀ text pending,
      (bytes.foldl absorb (text, pending)).2 = held pending bytes := by
    induction bytes with
    | nil => exact fun _ _ => rfl
    | cons byte bytes ih => exact fun _ _ => ih _ _
  exact hfold "" decoder.pending

theorem held_append (pending first second : List UInt8) :
    held pending (first ++ second) = held (held pending first) second :=
  List.foldl_append

theorem unfinished_held (h : Unfinished pending) (bytes : List UInt8) :
    Unfinished (held pending bytes) := by
  induction bytes generalizing pending with
  | nil => exact h
  | cons byte bytes ih => exact ih (unfinished_advance h byte)

theorem advance_suffix (pending : List UInt8) (byte : UInt8) :
    (advance pending byte).2 <:+ pending ++ [byte] := by
  have hstart : (start byte).2 <:+ [byte] := by
    unfold start
    split <;> simp
  have hpending : (start byte).2 <:+ pending ++ [byte] :=
    hstart.trans (List.suffix_append pending [byte])
  unfold advance
  split
  · exact hpending
  · split
    · exact hpending
    · split
      · split
        · exact List.nil_suffix
        · exact List.suffix_rfl
      · exact hpending

theorem held_suffix (pending bytes : List UInt8) : held pending bytes <:+ pending ++ bytes := by
  induction bytes generalizing pending with
  | nil => simp [held]
  | cons byte bytes ih =>
      have hnext : (advance pending byte).2 ++ bytes <:+ pending ++ [byte] ++ bytes := by
        obtain ⟨front, hfront⟩ := advance_suffix pending byte
        exact ⟨front, by rw [← List.append_assoc, hfront]⟩
      rw [List.append_cons]
      exact (ih (advance pending byte).2).trans hnext

-- A byte that begins a longer sequence is held back, whatever was before it.
theorem advance_lead {range : Utf8.Range} {more : List Utf8.Range} (h : Unfinished pending)
    (hlead : Utf8.following lead = some (range :: more)) : (advance pending lead).2 = [lead] := by
  have hstart : (start lead).2 = [lead] := by simp [start, hlead]
  cases pending with
  | nil => exact hstart
  | cons other got =>
      obtain ⟨ranges, hfollowing, hshort, -⟩ := h
      obtain ⟨range', more', hdrop, -⟩ := drop_of_unfinished hshort
      have hmem : range' ∈ ranges := List.mem_of_mem_drop (i := got.length) (by simp [hdrop])
      rw [advance_of_unfit hfollowing hdrop (Utf8.not_contains_lead hlead hfollowing range' hmem)]
      exact hstart

-- And so is everything after it that continues it.
theorem held_of_unfinished (h : Unfinished (lead :: got)) : held [lead] got = lead :: got := by
  induction got using List.reverseRecOn with
  | nil => rfl
  | append_singleton got byte ih =>
      have hheld := ih h.of_append
      obtain ⟨ranges', hfollowing', hshorter, hgot⟩ := h.of_append
      obtain ⟨ranges, hfollowing, hshort, hfits⟩ := h
      obtain rfl : ranges' = ranges := by simpa using hfollowing'.symm.trans hfollowing
      obtain ⟨range, more, hdrop, hlength⟩ := drop_of_unfinished hshorter
      have hcontains : range.contains byte = true := by
        rw [Utf8.fitting_append hgot, hdrop, List.length_append] at hfits
        by_contra hunfit
        simp [Utf8.fitting, hunfit] at hfits
      have hmore : more ≠ [] := by
        rintro rfl
        simp at hshort hlength
        omega
      rw [held_append, hheld]
      show (advance (lead :: got) byte).2 = _
      rw [advance_of_fits hfollowing hdrop hcontains, if_neg hmore]

-- So the beginning of a character that the bytes end in is what is held back,
-- whatever was before it.
theorem held_append_of_unfinished (hpending : Unfinished pending) (h : Unfinished (lead :: got))
    (front : List UInt8) : held pending (front ++ lead :: got) = lead :: got := by
  have hheld := held_of_unfinished h
  obtain ⟨ranges, hfollowing, hshort, -⟩ := h
  obtain ⟨range, rest, rfl⟩ := List.exists_cons_of_length_pos (Nat.zero_lt_of_lt hshort)
  have hlead := advance_lead (unfinished_held hpending front) hfollowing
  rw [held_append]
  show held (advance (held pending front) lead).2 got = _
  rw [hlead, hheld]

-- The bytes end in the beginning of a character that is not complete.
def EndsWithin (bytes : List UInt8) : Prop :=
  ∃ (c : Char) (tail more : List UInt8), tail ≠ [] ∧ more ≠ [] ∧
    utf8EncodeChar c = tail ++ more ∧ tail <:+ bytes

theorem pending_ne_nil_iff (bytes : List UInt8) :
    (empty.decode bytes).2.pending ≠ [] ↔ EndsWithin bytes := by
  have hstart : Unfinished [] := True.intro
  rw [pending_decode]
  constructor
  · intro hsome
    obtain ⟨lead, got, htail⟩ := List.exists_cons_of_ne_nil hsome
    have hunfinished : Unfinished (lead :: got) := htail ▸ unfinished_held hstart bytes
    obtain ⟨c, more, hmore, hencode⟩ := unfinished_cons_iff.mp hunfinished
    exact ⟨c, lead :: got, more, by simp, hmore, hencode, htail ▸ held_suffix [] bytes⟩
  · rintro ⟨c, tail, more, htail, hmore, hencode, front, rfl⟩
    obtain ⟨lead, got, rfl⟩ := List.exists_cons_of_ne_nil htail
    have hunfinished := unfinished_cons_iff.mpr ⟨c, more, hmore, hencode⟩
    show held [] (front ++ lead :: got) ≠ []
    rw [held_append_of_unfinished hstart hunfinished front]
    exact List.cons_ne_nil _ _

end Decoder

end Overseer.Output
