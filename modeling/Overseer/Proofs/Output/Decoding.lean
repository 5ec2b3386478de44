import Overseer.Output.Reader
import Overseer.Proofs.Text.Sequences

-- Decoding piece by piece gives the text of the whole. What the decoder holds
-- back is always the beginning of a character that may still be completed, so
-- nothing it settles depends on what comes later.

namespace Overseer.Output

open Overseer.Text

namespace Decoder

-- The beginning of a character: a lead byte and some, but not all, of the bytes
-- it asks for.
def Unfinished : List UInt8 → Prop
  | [] => True
  | lead :: got =>
      ∃ ranges, Utf8.following lead = some ranges ∧ got.length < ranges.length ∧
        Utf8.fitting ranges got = got.length

theorem unfinished_start (byte : UInt8) : Unfinished (start byte).2 := by
  cases hfollowing : Utf8.following byte with
  | none => simp [start, hfollowing, Unfinished]
  | some ranges =>
      cases ranges with
      | nil => simp [start, hfollowing, Unfinished]
      | cons range more =>
          simp only [start, hfollowing]
          exact ⟨range :: more, hfollowing, by simp, by simp [Utf8.fitting]⟩

theorem lossy_start (byte : UInt8) (rest : List UInt8) :
    Utf8.lossy (byte :: rest) = (start byte).1 ++ Utf8.lossy ((start byte).2 ++ rest) := by
  cases hfollowing : Utf8.following byte with
  | none => simp [start, hfollowing, Utf8.lossy_cons_of_none hfollowing]
  | some ranges =>
      cases ranges with
      | nil => simp [start, hfollowing, Utf8.lossy_cons_of_some hfollowing, Utf8.fitting]
      | cons range more => simp [start, hfollowing]

section Advance

variable {lead byte : UInt8} {got : List UInt8} {ranges more : List Utf8.Range} {range : Utf8.Range}

-- The byte that is awaited, or any other, by the range that it has to be from.
theorem advance_of_fits (hfollowing : Utf8.following lead = some ranges)
    (hdrop : ranges.drop got.length = range :: more) (hfits : range.contains byte = true) :
    advance (lead :: got) byte =
      if more = [] then ([Utf8.scalar lead (got ++ [byte])], [])
      else ([], lead :: (got ++ [byte])) := by
  simp [advance, hfollowing, hdrop, hfits]

theorem advance_of_unfit (hfollowing : Utf8.following lead = some ranges)
    (hdrop : ranges.drop got.length = range :: more) (hunfit : range.contains byte = false) :
    advance (lead :: got) byte = (Utf8.replacement :: (start byte).1, (start byte).2) := by
  simp [advance, hfollowing, hdrop, hunfit]

theorem drop_of_unfinished (hshort : got.length < ranges.length) :
    ∃ range more, ranges.drop got.length = range :: more ∧
      ranges.length = got.length + 1 + more.length := by
  obtain ⟨range, more, hdrop⟩ := List.exists_cons_of_length_pos
    (show 0 < (ranges.drop got.length).length by simp only [List.length_drop]; omega)
  have hlength := congrArg List.length hdrop
  simp only [List.length_drop, List.length_cons] at hlength
  exact ⟨range, more, hdrop, by omega⟩

end Advance

theorem unfinished_advance {pending : List UInt8} (h : Unfinished pending) (byte : UInt8) :
    Unfinished (advance pending byte).2 := by
  cases pending with
  | nil => exact unfinished_start byte
  | cons lead got =>
      obtain ⟨ranges, hfollowing, hshort, hgot⟩ := h
      obtain ⟨range, more, hdrop, hlength⟩ := drop_of_unfinished hshort
      cases hfits : range.contains byte with
      | false =>
          rw [advance_of_unfit hfollowing hdrop hfits]
          exact unfinished_start byte
      | true =>
          rw [advance_of_fits hfollowing hdrop hfits]
          by_cases hmore : more = []
          · simp [hmore, Unfinished]
          · have hpos := List.length_pos_iff.mpr hmore
            rw [if_neg hmore]
            refine ⟨ranges, hfollowing, ?_, ?_⟩
            · simp only [List.length_append, List.length_singleton]
              omega
            · rw [Utf8.fitting_append hgot, hdrop]
              simp [Utf8.fitting, hfits]

-- What one byte settles is what decoding everything at once begins with.
theorem lossy_advance {pending : List UInt8} (h : Unfinished pending) (byte : UInt8)
    (rest : List UInt8) :
    Utf8.lossy (pending ++ byte :: rest) =
      (advance pending byte).1 ++ Utf8.lossy ((advance pending byte).2 ++ rest) := by
  cases pending with
  | nil => exact lossy_start byte rest
  | cons lead got =>
      obtain ⟨ranges, hfollowing, hshort, hgot⟩ := h
      obtain ⟨range, more, hdrop, hlength⟩ := drop_of_unfinished hshort
      have hcount := Utf8.fitting_append hgot (byte :: rest)
      rw [hdrop] at hcount
      rw [List.cons_append, Utf8.lossy_cons_of_some hfollowing]
      cases hfits : range.contains byte with
      | false =>
          have hbroken : Utf8.fitting ranges (got ++ byte :: rest) = got.length := by
            simpa [Utf8.fitting, hfits] using hcount
          rw [advance_of_unfit hfollowing hdrop hfits, hbroken, if_neg (by omega),
            List.drop_left, lossy_start]
          rfl
      | true =>
          rw [advance_of_fits hfollowing hdrop hfits]
          by_cases hmore : more = []
          -- Either the byte was the last one awaited or the sequence is held back with it.
          · have hwhole : Utf8.fitting ranges (got ++ byte :: rest) = ranges.length := by
              simpa [Utf8.fitting, hfits, hmore, hlength] using hcount
            have hsplit : got ++ byte :: rest = (got ++ [byte]) ++ rest := by simp
            have htaken : ranges.length = (got ++ [byte]).length := by simp [hlength, hmore]
            rw [if_pos hwhole, if_pos hmore, hsplit, htaken, List.take_left, List.drop_left]
            rfl
          · rw [if_neg hmore, List.nil_append, ← Utf8.lossy_cons_of_some hfollowing]
            simp

theorem toList_foldl_push (chars : List Char) (text : String) :
    (chars.foldl String.push text).toList = text.toList ++ chars := by
  induction chars generalizing text with
  | nil => simp
  | cons char chars ih => simp [ih]

theorem foldl_absorb (bytes rest : List UInt8) (text : String) {pending : List UInt8}
    (h : Unfinished pending) :
    Unfinished (bytes.foldl absorb (text, pending)).2 ∧
      text.toList ++ Utf8.lossy (pending ++ bytes ++ rest) =
        (bytes.foldl absorb (text, pending)).1.toList ++
          Utf8.lossy ((bytes.foldl absorb (text, pending)).2 ++ rest) := by
  induction bytes generalizing text pending with
  | nil => exact ⟨h, by simp⟩
  | cons byte bytes ih =>
      obtain ⟨hunfinished, htext⟩ :=
        ih ((advance pending byte).1.foldl String.push text) (unfinished_advance h byte)
      refine ⟨hunfinished, ?_⟩
      have hbyte := lossy_advance h byte (bytes ++ rest)
      rw [toList_foldl_push, List.append_assoc, List.append_assoc, ← hbyte] at htext
      simpa [absorb] using htext

-- A piece of a stream settles the beginning of what is to come, whatever that
-- is.
theorem decode_spec {decoder : Decoder} (h : Unfinished decoder.pending)
    (bytes rest : List UInt8) :
    Unfinished (decoder.decode bytes).2.pending ∧
      Utf8.lossy (decoder.pending ++ bytes ++ rest) =
        (decoder.decode bytes).1.toList ++
          Utf8.lossy ((decoder.decode bytes).2.pending ++ rest) := by
  obtain ⟨hunfinished, htext⟩ := foldl_absorb bytes rest "" h
  exact ⟨hunfinished, by simpa [decode] using htext⟩

theorem decode_unfinished (bytes : List UInt8) : Unfinished (empty.decode bytes).2.pending :=
  have hstart : Unfinished empty.pending := True.intro
  (decode_spec hstart bytes []).1

theorem lossy_append_eq (bytes rest : List UInt8) :
    Utf8.lossy (bytes ++ rest) =
      (empty.decode bytes).1.toList ++ Utf8.lossy ((empty.decode bytes).2.pending ++ rest) :=
  have hstart : Unfinished empty.pending := True.intro
  (decode_spec hstart bytes rest).2

theorem lossy_eq (bytes : List UInt8) :
    Utf8.lossy bytes =
      (empty.decode bytes).1.toList ++ Utf8.lossy (empty.decode bytes).2.pending := by
  have hwhole := lossy_append_eq bytes []
  rwa [List.append_nil, List.append_nil] at hwhole

theorem toList_finish (decoder : Decoder) :
    (decoder.finish.1.getD "").toList = Utf8.lossy decoder.pending := by
  cases hpending : decoder.pending with
  | nil => simp [finish, hpending, Utf8.lossy_nil]
  | cons lead got => simp [finish, hpending, Utf8.text]

end Decoder

namespace Reader

def owed (reader : Reader) (bytes : List UInt8) : List Char :=
  Utf8.lossy (reader.decoder.pending ++ bytes)

theorem accept_decoder (reader : Reader) (bytes : List UInt8) :
    (reader.accept bytes).reader.decoder = (reader.decoder.decode bytes).2 := by
  unfold accept
  cases reader.scanner <;> rfl

theorem accept_output (reader : Reader) (bytes : List UInt8) :
    (reader.accept bytes).output =
      if (reader.decoder.decode bytes).1.isEmpty then none
      else some (reader.decoder.decode bytes).1 := by
  unfold accept
  cases reader.scanner <;> rfl

theorem unfinished_accept {reader : Reader} (h : Decoder.Unfinished reader.decoder.pending)
    (bytes : List UInt8) :
    Decoder.Unfinished (reader.accept bytes).reader.decoder.pending := by
  rw [accept_decoder]
  exact (Decoder.decode_spec h bytes []).1

theorem toList_accept (reader : Reader) (bytes : List UInt8) :
    ((reader.accept bytes).output.getD "").toList = (reader.decoder.decode bytes).1.toList := by
  rw [accept_output]
  by_cases hempty : (reader.decoder.decode bytes).1 = ""
  · simp [hempty]
  · simp [String.isEmpty_iff, hempty]

-- What is forwarded is taken off what is owed.
theorem owed_accept {reader : Reader} (h : Decoder.Unfinished reader.decoder.pending)
    (bytes rest : List UInt8) :
    reader.owed (bytes ++ rest) =
      ((reader.accept bytes).output.getD "").toList ++ (reader.accept bytes).reader.owed rest := by
  rw [toList_accept, owed, owed, accept_decoder, ← List.append_assoc]
  exact (Decoder.decode_spec h bytes rest).2

theorem owed_flush (reader : Reader) : reader.owed [] = (reader.flush.getD "").toList := by
  rw [owed, List.append_nil, flush, Decoder.toList_finish]

theorem accept_of_plain {reader : Reader} (h : reader.scanner = none)
    (bytes : List UInt8) :
    (reader.accept bytes).ready = false ∧ (reader.accept bytes).reader.scanner = none := by
  simp [accept, h]

theorem accept_of_ready {reader : Reader} {bytes : List UInt8}
    (h : (reader.accept bytes).ready = true) : (reader.accept bytes).reader.scanner = none := by
  cases hscanner : reader.scanner with
  | none => exact (accept_of_plain hscanner bytes).2
  | some scanner =>
      simp only [accept, hscanner] at h ⊢
      simp [h]

theorem accept_output_ne_empty {reader : Reader} {bytes : List UInt8} {text : String}
    (h : (reader.accept bytes).output = some text) : text ≠ "" := by
  rw [accept_output] at h
  split at h
  · cases h
  · rename_i hempty
    cases h
    simpa [String.isEmpty_iff] using hempty

theorem flush_ne_empty {reader : Reader} {text : String} (h : reader.flush = some text) :
    text ≠ "" := by
  rintro rfl
  cases hpending : reader.decoder.pending with
  | nil => simp [flush, Decoder.finish, hpending] at h
  | cons lead got =>
      have htext := reader.owed_flush
      rw [h, owed, List.append_nil] at htext
      exact Utf8.lossy_ne_nil (by simp [hpending]) htext

end Reader

end Overseer.Output
