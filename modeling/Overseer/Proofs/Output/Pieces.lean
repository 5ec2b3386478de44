import Overseer.Proofs.Output.Decoding
import Overseer.Proofs.Output.Scanning

-- A stream read piece by piece: what the reader has become and what it has told
-- after some pieces depends on the bytes and not on how they were cut.

namespace Overseer.Text.Utf8

variable {lead byte : UInt8} {ranges : List Range}

theorem not_contains_ascii (hfollowing : following lead = some ranges) (hbyte : byte ≤ 0x7F) :
    ∀ range ∈ ranges, range.contains byte = false := by
  intro range hrange
  have hlow := ((row_of_following hfollowing).bounds range hrange).1
  have hbelow : ¬range.low ≤ byte :=
    fun hle => absurd (UInt8.le_trans hlow (UInt8.le_trans hle hbyte)) (by decide)
  simp [Range.contains, hbelow]

theorem following_ascii (hbyte : byte ≤ 0x7F) : following byte = some [] := by
  simp [following, hbyte]

end Overseer.Text.Utf8

namespace Overseer.Output

open Overseer.Text

namespace Decoder

theorem foldl_absorb_text (bytes : List UInt8) (text : String) (pending : List UInt8) :
    (bytes.foldl absorb (text, pending)).1.toList =
        text.toList ++ (bytes.foldl absorb ("", pending)).1.toList ∧
      (bytes.foldl absorb (text, pending)).2 = (bytes.foldl absorb ("", pending)).2 := by
  induction bytes generalizing text pending with
  | nil => simp
  | cons byte bytes ih =>
      obtain ⟨htext, hpending⟩ :=
        ih ((advance pending byte).1.foldl String.push text) (advance pending byte).2
      obtain ⟨hempty, hpending'⟩ :=
        ih ((advance pending byte).1.foldl String.push "") (advance pending byte).2
      simp only [List.foldl_cons, absorb]
      refine ⟨?_, hpending.trans hpending'.symm⟩
      rw [htext, hempty, toList_foldl_push, toList_foldl_push]
      simp

theorem decode_append (decoder : Decoder) (first second : List UInt8) :
    (decoder.decode (first ++ second)).1.toList =
        (decoder.decode first).1.toList ++ ((decoder.decode first).2.decode second).1.toList ∧
      (decoder.decode (first ++ second)).2 = ((decoder.decode first).2.decode second).2 := by
  obtain ⟨htext, hpending⟩ := foldl_absorb_text second
    (first.foldl absorb ("", decoder.pending)).1 (first.foldl absorb ("", decoder.pending)).2
  simp only [decode, List.foldl_append]
  exact ⟨htext, congrArg Decoder.mk hpending⟩

-- An ASCII byte settles everything before it, and a newline is one.
theorem advance_ascii {pending : List UInt8} {byte : UInt8} (h : Unfinished pending)
    (hbyte : byte ≤ 0x7F) : (advance pending byte).2 = [] := by
  have hstart : (start byte).2 = [] := by simp [start, Utf8.following_ascii hbyte]
  cases pending with
  | nil => exact hstart
  | cons lead got =>
      obtain ⟨ranges, hfollowing, hshort, -⟩ := h
      obtain ⟨range, more, hdrop, -⟩ := drop_of_unfinished hshort
      have hmem : range ∈ ranges := by
        have hmem : range ∈ ranges.drop got.length := by simp [hdrop]
        exact List.mem_of_mem_drop hmem
      rw [advance_of_unfit hfollowing hdrop (Utf8.not_contains_ascii hfollowing hbyte range hmem)]
      exact hstart

theorem decode_ascii {decoder : Decoder} {byte : UInt8} (h : Unfinished decoder.pending)
    (hbyte : byte ≤ 0x7F) (bytes : List UInt8) :
    (decoder.decode (bytes ++ [byte])).2 = empty := by
  have hunfinished := (decode_spec h bytes []).1
  rw [(decoder.decode_append bytes [byte]).2]
  exact congrArg Decoder.mk (advance_ascii hunfinished hbyte)

-- The text of completed lines comes out whole, whatever stands after them.
theorem decode_line (line rest : List UInt8) :
    Utf8.lossy (line ++ newline :: rest) = Utf8.lossy (line ++ [newline]) ++ Utf8.lossy rest ∧
      (empty.decode (line ++ newline :: rest)).1.toList =
        Utf8.lossy (line ++ [newline]) ++ (empty.decode rest).1.toList := by
  have hstart : Unfinished empty.pending := True.intro
  have hsettled := decode_ascii hstart (by decide : newline ≤ 0x7F) line
  have htext := lossy_eq (line ++ [newline])
  have hlonger := lossy_append_eq (line ++ [newline]) rest
  rw [hsettled] at htext hlonger
  simp only [empty, List.nil_append, List.append_nil, Utf8.lossy_nil] at htext hlonger
  have hsplit : line ++ newline :: rest = (line ++ [newline]) ++ rest := by simp
  rw [hsplit, hlonger, (empty.decode_append (line ++ [newline]) rest).1, hsettled, htext]
  exact ⟨rfl, rfl⟩

end Decoder

-- What a marked line has become by the time it is complete: text that stands in
-- the decoded text as a whole.
theorem MarkedLine.decoded {marker bytes before line after : List UInt8}
    (h : MarkedLine marker bytes before line after) :
    ∃ rest, (Decoder.empty.decode bytes).1.toList =
      Utf8.lossy before ++ Utf8.lossy (line ++ [newline]) ++ rest := by
  refine ⟨(Decoder.empty.decode after).1.toList, ?_⟩
  rw [h.split, (Decoder.decode_line (before ++ line) after).2]
  congr 1
  rcases h.begins with rfl | ⟨earlier, rfl⟩
  · rw [Utf8.lossy_nil]
    rfl
  · have hsplit := (Decoder.decode_line earlier (line ++ [newline])).1
    simpa using hsplit

namespace Reader

variable {reader : Reader} {pieces : List (List UInt8)} {piece : List UInt8}

def after (reader : Reader) (pieces : List (List UInt8)) : Reader :=
  pieces.foldl (fun reader piece => (reader.accept piece).reader) reader

@[simp] theorem after_nil (reader : Reader) : reader.after [] = reader := rfl

@[simp] theorem after_concat (reader : Reader) (pieces : List (List UInt8)) (piece : List UInt8) :
    reader.after (pieces ++ [piece]) = ((reader.after pieces).accept piece).reader := by
  simp [after]

theorem after_decoder (reader : Reader) (pieces : List (List UInt8)) :
    (reader.after pieces).decoder = (reader.decoder.decode pieces.flatten).2 := by
  induction pieces using List.reverseRecOn with
  | nil => rfl
  | append_singleton pieces piece ih =>
      rw [after_concat, accept_decoder, ih, List.flatten_concat,
        (reader.decoder.decode_append pieces.flatten piece).2]

-- Until the marked line is complete the scanner follows the stream; after that
-- there is none.
theorem after_scanner (marker : String) (maxLine : Nat) (pieces : List (List UInt8)) :
    (HasMarkedLine (Utf8.encode marker) pieces.flatten →
        ((watching marker maxLine).after pieces).scanner = none) ∧
      (¬HasMarkedLine (Utf8.encode marker) pieces.flatten →
        ∃ scanner, ((watching marker maxLine).after pieces).scanner = some scanner ∧
          scanner.Follows (Utf8.encode marker) pieces.flatten) := by
  induction pieces using List.reverseRecOn with
  | nil =>
      exact ⟨fun hmarked => absurd hmarked HasMarkedLine.not_nil,
        fun _ => ⟨_, rfl, Scanner.follows_new marker maxLine⟩⟩
  | append_singleton pieces piece ih =>
      rw [after_concat, List.flatten_concat]
      by_cases hmarked : HasMarkedLine (Utf8.encode marker) pieces.flatten
      · have hplain := (accept_of_plain (ih.1 hmarked) piece).2
        exact ⟨fun _ => hplain, fun hunmarked => absurd (hmarked.append piece) hunmarked⟩
      · obtain ⟨scanner, hscanner, hfollows⟩ := ih.2 hmarked
        obtain ⟨hhit, hnext⟩ := hfollows.scan hmarked piece
        rw [← hhit]
        simp only [accept, hscanner, Scanner.feed, hfollows.unmatched]
        cases hscan : (scanner.scan piece).1 with
        | true => simp [hscan]
        | false => simpa [hscan] using hnext hscan

-- The reader has something to tell after the one piece that completes the
-- marked line.
theorem ready_iff (marker : String) (maxLine : Nat) (pieces : List (List UInt8))
    (piece : List UInt8) :
    (((watching marker maxLine).after pieces).accept piece).ready = true ↔
      ¬HasMarkedLine (Utf8.encode marker) pieces.flatten ∧
        HasMarkedLine (Utf8.encode marker) (pieces ++ [piece]).flatten := by
  obtain ⟨hdone, hopen⟩ := after_scanner marker maxLine pieces
  rw [List.flatten_concat]
  by_cases hmarked : HasMarkedLine (Utf8.encode marker) pieces.flatten
  · simp [hmarked, (accept_of_plain (hdone hmarked) piece).1]
  · obtain ⟨scanner, hscanner, hfollows⟩ := hopen hmarked
    have hhit := (hfollows.scan hmarked piece).1
    simpa [accept, hscanner, Scanner.feed, hfollows.unmatched, hmarked] using hhit

end Reader

end Overseer.Output
