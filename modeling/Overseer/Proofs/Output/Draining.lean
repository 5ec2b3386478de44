import Mathlib.Data.List.ReduceOption
import Overseer.Proofs.Output.Arrival
import Overseer.Proofs.Output.Holding
import Overseer.Proofs.Output.Pieces

namespace Overseer.Output

open Overseer.Text

-- A reader that is left alone with a stream does the same whatever the size of
-- its reads, and reads that have to be tried again make no difference.

namespace Reader

-- The reader that a stream gets, with what it is to look for, if anything.
def fresh : Option (String × Nat) → Reader
  | none => plain
  | some (marker, maxLine) => watching marker maxLine

-- The marker that is looked for stands in a line that is complete.
def Shown (readiness : Option (String × Nat)) (bytes : List UInt8) : Prop :=
  ∃ marker maxLine, readiness = some (marker, maxLine) ∧
    HasMarkedLine (Utf8.encode marker) bytes

def answers (reader : Reader) : List (List UInt8) → List (Option String)
  | [] => []
  | piece :: pieces => (reader.accept piece).output :: answers (reader.accept piece).reader pieces

def deal (state : Reader × Transcript) (piece : List UInt8) : Reader × Transcript :=
  let step := state.1.accept piece
  let outputs := state.2.outputs ++ step.output.toList
  let announced :=
    if step.ready then state.2.announced ++ [outputs.length] else state.2.announced
  (step.reader, { state.2 with outputs, announced })

-- What is left to do when nothing more can be read.
def conclude (stream : Stream) (state : Reader × Transcript) : Transcript :=
  { state.2 with
    outputs := state.2.outputs ++ if stream.ends then state.1.flush.toList else []
    unread := stream.beyond
    ended := state.2.ended || stream.ends }

theorem drain_eq (size : Nat) (reader : Reader) (stream : Stream) (done : Transcript) :
    drain size reader stream done =
      conclude stream ((stream.pieces size).foldl deal (reader, done)) := by
  fun_induction drain size reader stream done with
  | case1 reader stream done hread =>
      obtain rfl := Stream.eq_nil_of_none hread
      rw [Stream.pieces_eq, hread]
      simp [conclude, Stream.ends, Stream.beyond]
  | case2 reader stream done rest hread =>
      rw [Stream.pieces_eq, hread]
      obtain ⟨message, rfl, hend, -⟩ := Stream.eq_cons_of_ended hread
      simp [conclude, Stream.ends_cons, Stream.beyond, hend]
  | case3 reader stream done rest hread ih =>
      rw [Stream.pieces_eq, hread, ih]
      obtain rfl := Stream.eq_cons_of_again hread
      rfl
  | case4 reader stream done bytes rest hread step outputs announced ih =>
      rw [Stream.pieces_eq, hread, List.foldl_cons, ih]
      have hends := (Stream.content_of_chunk hread []).2
      rw [List.append_nil, List.append_nil] at hends
      rw [conclude, conclude, hends, Stream.beyond_of_chunk hread]
      rfl

theorem decoder_fresh (readiness : Option (String × Nat)) : (fresh readiness).decoder = .empty := by
  cases readiness <;> rfl

theorem answers_concat (reader : Reader) (pieces : List (List UInt8)) (piece : List UInt8) :
    reader.answers (pieces ++ [piece]) =
      reader.answers pieces ++ [((reader.after pieces).accept piece).output] := by
  induction pieces generalizing reader with
  | nil => rfl
  | cons first pieces ih => exact congrArg (_ :: ·) (ih _)

theorem answers_length (reader : Reader) (pieces : List (List UInt8)) :
    (reader.answers pieces).length = pieces.length := by
  induction pieces generalizing reader with
  | nil => rfl
  | cons piece pieces ih => exact congrArg (· + 1) (ih _)

theorem scanner_plain (pieces : List (List UInt8)) : (plain.after pieces).scanner = none := by
  induction pieces using List.reverseRecOn with
  | nil => rfl
  | append_singleton pieces piece ih =>
      rw [after_concat]
      exact (accept_of_plain ih piece).2

theorem ready_iff_shown (readiness : Option (String × Nat)) (pieces : List (List UInt8))
    (piece : List UInt8) :
    (((fresh readiness).after pieces).accept piece).ready = true ↔
      ¬Shown readiness pieces.flatten ∧ Shown readiness (pieces ++ [piece]).flatten := by
  rcases readiness with _ | ⟨marker, maxLine⟩
  · have hunready := (accept_of_plain (scanner_plain pieces) piece).1
    simp [fresh, Shown, hunready]
  · simpa [fresh, Shown] using ready_iff marker maxLine pieces piece

-- What a reader has done after some pieces.
structure Heard (readiness : Option (String × Nat)) (pieces : List (List UInt8))
    (state : Reader × Transcript) : Prop where
  reader : state.1 = (fresh readiness).after pieces
  answers : state.2.outputs = ((fresh readiness).answers pieces).reduceOption
  text : (String.join state.2.outputs).toList = (Decoder.empty.decode pieces.flatten).1.toList
  solid : ∀ output ∈ state.2.outputs, output ≠ ""
  told : Shown readiness pieces.flatten → state.2.announced.length = 1
  untold : ¬Shown readiness pieces.flatten → state.2.announced = []
  unended : state.2.ended = false

theorem Shown.append {readiness : Option (String × Nat)} {bytes : List UInt8}
    (h : Shown readiness bytes) (more : List UInt8) : Shown readiness (bytes ++ more) := by
  obtain ⟨marker, maxLine, hreadiness, hmarked⟩ := h
  exact ⟨marker, maxLine, hreadiness, hmarked.append more⟩

section Deal

variable (state : Reader × Transcript) (piece : List UInt8)

theorem deal_outputs :
    (deal state piece).2.outputs = state.2.outputs ++ (state.1.accept piece).output.toList := rfl

theorem deal_announced_of_ready (h : (state.1.accept piece).ready = true) :
    (deal state piece).2.announced =
      state.2.announced ++ [(deal state piece).2.outputs.length] := by
  simp [deal, h]

theorem deal_announced_of_unready (h : (state.1.accept piece).ready = false) :
    (deal state piece).2.announced = state.2.announced := by
  simp [deal, h]

end Deal

theorem Heard.deal {readiness : Option (String × Nat)} {pieces : List (List UInt8)}
    {state : Reader × Transcript} (h : Heard readiness pieces state) (piece : List UInt8) :
    Heard readiness (pieces ++ [piece]) (Reader.deal state piece) := by
  have hready := ready_iff_shown readiness pieces piece
  rw [← h.reader] at hready
  refine ⟨?_, ?_, ?_, ?_, ?_, ?_, h.unended⟩
  · rw [after_concat, ← h.reader]
    rfl
  · rw [deal_outputs, answers_concat, List.reduceOption_append, ← h.answers, ← h.reader]
    cases (state.1.accept piece).output <;> rfl
  · have hdecoder : state.1.decoder = (Decoder.empty.decode pieces.flatten).2 := by
      rw [h.reader, after_decoder, decoder_fresh]
    have hpiece := toList_accept state.1 piece
    rw [List.flatten_concat, (Decoder.decode_append _ _ _).1, ← h.text, ← hdecoder, ← hpiece,
      deal_outputs, String.toList_join, String.toList_join, List.flatMap_append]
    cases (state.1.accept piece).output <;> simp
  · rw [deal_outputs]
    intro output houtput
    rcases List.mem_append.mp houtput with hearlier | hnow
    · exact h.solid output hearlier
    · exact accept_output_ne_empty (Option.mem_toList.mp hnow)
  · intro hshown
    by_cases hearlier : Shown readiness pieces.flatten
    · have hunready : (state.1.accept piece).ready = false := by
        rw [← Bool.not_eq_true, hready]
        exact fun hnow => hnow.1 hearlier
      rw [deal_announced_of_unready state piece hunready]
      exact h.told hearlier
    · have hnow : (state.1.accept piece).ready = true := hready.mpr ⟨hearlier, hshown⟩
      rw [deal_announced_of_ready state piece hnow, h.untold hearlier]
      rfl
  · intro hunshown
    have hunready : (state.1.accept piece).ready = false := by
      rw [← Bool.not_eq_true, hready]
      exact fun hnow => hunshown hnow.2
    rw [deal_announced_of_unready state piece hunready]
    refine h.untold fun hearlier => hunshown ?_
    rw [List.flatten_concat]
    exact hearlier.append piece

theorem heard (readiness : Option (String × Nat)) (pieces : List (List UInt8)) :
    Heard readiness pieces (pieces.foldl deal (fresh readiness, .start)) := by
  induction pieces using List.reverseRecOn with
  | nil =>
      have hnothing : ¬Shown readiness [] := by
        rintro ⟨marker, maxLine, -, hmarked⟩
        exact HasMarkedLine.not_nil hmarked
      exact ⟨rfl, rfl, rfl, by simp [Transcript.start], fun hshown => absurd hshown hnothing,
        fun _ => rfl, rfl⟩
  | append_singleton pieces piece ih =>
      rw [List.foldl_append]
      exact ih.deal piece

def alone (readiness : Option (String × Nat)) (size : Nat) (stream : Stream) : Transcript :=
  drain size (fresh readiness) stream .start

section Alone

variable (readiness : Option (String × Nat)) (size : Nat) (stream : Stream)

theorem exists_heard :
    ∃ state, Heard readiness (stream.pieces size) state ∧
      alone readiness size stream = conclude stream state :=
  ⟨_, heard readiness (stream.pieces size), drain_eq size _ stream .start⟩

theorem ended_alone : (alone readiness size stream).ended = stream.ends := by
  obtain ⟨state, hstate, halone⟩ := exists_heard readiness size stream
  rw [halone, conclude, hstate.unended, Bool.false_or]

theorem unread_alone : (alone readiness size stream).unread = stream.beyond := by
  obtain ⟨state, -, halone⟩ := exists_heard readiness size stream
  rw [halone, conclude]

-- The last word is for a character that is not complete.
theorem flush_after (pieces : List (List UInt8)) :
    (Decoder.EndsWithin pieces.flatten →
        ((fresh readiness).after pieces).flush = some (String.singleton Utf8.replacement)) ∧
      (¬Decoder.EndsWithin pieces.flatten → ((fresh readiness).after pieces).flush = none) := by
  have hunfinished := Decoder.decode_unfinished pieces.flatten
  rw [← Decoder.pending_ne_nil_iff, flush, after_decoder, decoder_fresh, Decoder.finish]
  cases hpending : (Decoder.empty.decode pieces.flatten).2.pending with
  | nil => exact ⟨fun h => absurd rfl h, fun _ => rfl⟩
  | cons lead got =>
      rw [hpending] at hunfinished
      refine ⟨fun _ => ?_, fun h => absurd (List.cons_ne_nil lead got) h⟩
      simp [Utf8.text, Decoder.lossy_of_unfinished hunfinished]

theorem outputs_alone :
    (alone readiness size stream).outputs =
      ((fresh readiness).answers (stream.pieces size)).reduceOption ++
        if stream.ends then ((fresh readiness).after (stream.pieces size)).flush.toList
        else [] := by
  obtain ⟨state, hstate, halone⟩ := exists_heard readiness size stream
  rw [halone, conclude, hstate.answers, hstate.reader]

theorem text_alone :
    (String.join (alone readiness size stream).outputs).toList =
      (Decoder.empty.decode stream.content).1.toList ++
        if stream.ends then Utf8.lossy (Decoder.empty.decode stream.content).2.pending else [] := by
  obtain ⟨state, hstate, halone⟩ := exists_heard readiness size stream
  have hdecoder : state.1.decoder = (Decoder.empty.decode stream.content).2 := by
    rw [hstate.reader, after_decoder, decoder_fresh, Stream.flatten_pieces]
  have hflush := state.1.decoder.toList_finish
  have htext := hstate.text
  rw [String.toList_join, Stream.flatten_pieces] at htext
  rw [halone, conclude, String.toList_join, List.flatMap_append, htext, ← hdecoder, ← hflush]
  split
  · rw [flush]
    cases state.1.decoder.finish.1 <;> simp
  · rfl

theorem solid_alone : ∀ output ∈ (alone readiness size stream).outputs, output ≠ "" := by
  obtain ⟨state, hstate, halone⟩ := exists_heard readiness size stream
  rw [halone]
  intro output houtput
  rcases List.mem_append.mp houtput with hearlier | hlast
  · exact hstate.solid output hearlier
  · split at hlast
    · exact flush_ne_empty (Option.mem_toList.mp hlast)
    · cases hlast

theorem announced_alone :
    (Shown readiness stream.content → (alone readiness size stream).announced.length = 1) ∧
      (¬Shown readiness stream.content → (alone readiness size stream).announced = []) := by
  obtain ⟨state, hstate, halone⟩ := exists_heard readiness size stream
  rw [halone, conclude, ← Stream.flatten_pieces size]
  exact ⟨hstate.told, hstate.untold⟩

theorem announced_ne_nil_iff :
    (alone readiness size stream).announced ≠ [] ↔ Shown readiness stream.content := by
  obtain ⟨htold, huntold⟩ := announced_alone readiness size stream
  refine ⟨fun hannounced => ?_, fun hshown hnothing => ?_⟩
  · by_contra hshown
    exact hannounced (huntold hshown)
  · simpa [hnothing] using htold hshown

theorem alone_calm :
    alone readiness size stream.calm =
      { alone readiness size stream with unread := (alone readiness size stream).unread.calm } := by
  simp only [alone, drain_eq, Stream.pieces_calm, conclude, Stream.ends_calm, Stream.beyond_calm]

end Alone

-- What a reader does with a stream, and what it does not depend on.
structure Steady (readiness : Option (String × Nat)) (size : Nat) (stream : Stream) : Prop where
  -- The stream is read up to its first end or failure and no further.
  consumed : (alone readiness size stream).ended = true →
    ∃ before last, stream = before ++ last :: (alone readiness size stream).unread ∧
      last.isEnd = true ∧ ∀ message ∈ before, message.isEnd = false
  waiting : (alone readiness size stream).ended = false →
    (alone readiness size stream).unread = [] ∧ ∀ message ∈ stream, message.isEnd = false
  -- Reads of another size make no difference to the text or to the news.
  text : ∀ other, String.join (alone readiness other stream).outputs =
    String.join (alone readiness size stream).outputs
  whole : (alone readiness size stream).ended = true →
    String.join (alone readiness size stream).outputs = Utf8.text stream.content
  told : (alone readiness size stream).announced ≠ [] ↔ Shown readiness stream.content
  once : (alone readiness size stream).announced.length ≤ 1
  agreed : ∀ other, (alone readiness other stream).announced ≠ [] ↔
    (alone readiness size stream).announced ≠ []
  least : alone readiness 0 stream = alone readiness 1 stream
  -- Nor do the reads that have to be tried again.
  calm : alone readiness size stream.calm =
    { alone readiness size stream with unread := (alone readiness size stream).unread.calm }
  pieces : (stream.pieces size).flatten = stream.content ∧
    ∀ piece ∈ stream.pieces size, 0 < piece.length ∧ piece.length ≤ Stream.request size
  -- Each piece has at most one answer, and at the end there is one more for a
  -- character that is not complete.
  answered : ∃ last : Option String, (alone readiness size stream).outputs =
      ((fresh readiness).answers (stream.pieces size)).reduceOption ++ last.toList ∧
    ((fresh readiness).answers (stream.pieces size)).length = (stream.pieces size).length ∧
    (last = none ∨ last = some (String.singleton Utf8.replacement)) ∧
    (last ≠ none ↔
      (alone readiness size stream).ended = true ∧ Decoder.EndsWithin stream.content)
  solid : ∀ output ∈ (alone readiness size stream).outputs, output ≠ ""

theorem reading_is_steady (readiness : Option (String × Nat)) (size : Nat) (stream : Stream) :
    Steady readiness size stream where
  consumed := by
    rw [ended_alone, unread_alone]
    exact Stream.split_of_ends
  waiting := by
    rw [ended_alone, unread_alone]
    exact Stream.beyond_of_open
  text := by
    intro other
    rw [← String.toList_inj, text_alone, text_alone]
  whole := by
    intro hended
    rw [ended_alone] at hended
    rw [← String.toList_inj, text_alone, if_pos hended, ← Decoder.lossy_eq, Utf8.text,
      String.toList_ofList]
  told := announced_ne_nil_iff readiness size stream
  once := by
    obtain ⟨htold, huntold⟩ := announced_alone readiness size stream
    by_cases hshown : Shown readiness stream.content
    · exact Nat.le_of_eq (htold hshown)
    · simp [huntold hshown]
  agreed := by
    intro other
    rw [announced_ne_nil_iff, announced_ne_nil_iff]
  least := by
    have hrequest : Stream.request 0 = Stream.request 1 := rfl
    rw [alone, alone, drain_eq, drain_eq, Stream.pieces_of_request hrequest]
  calm := alone_calm readiness size stream
  pieces := ⟨Stream.flatten_pieces size stream, Stream.length_of_mem_pieces size stream⟩
  answered := by
    have houtputs := outputs_alone readiness size stream
    obtain ⟨hwithin, hwhole⟩ := flush_after readiness (stream.pieces size)
    rw [Stream.flatten_pieces] at hwithin hwhole
    rw [ended_alone]
    by_cases hlast : stream.ends = true ∧ Decoder.EndsWithin stream.content
    · refine ⟨some (String.singleton Utf8.replacement), ?_, answers_length _ _, .inr rfl,
        by simp [hlast]⟩
      rw [houtputs, if_pos hlast.1, hwithin hlast.2]
    · refine ⟨none, ?_, answers_length _ _, .inl rfl, by simp [hlast]⟩
      rw [houtputs]
      split
      · rename_i hended
        rw [hwhole fun hcut => hlast ⟨hended, hcut⟩]
      · rfl
  solid := solid_alone readiness size stream

end Reader

end Overseer.Output
