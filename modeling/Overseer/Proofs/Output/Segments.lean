import Overseer.Proofs.Output.Holding
import Overseer.Proofs.Output.Pieces

namespace Overseer.Output

open Overseer.Text

-- A decoder that is given a stream piece by piece and told where it ends says
-- what the stream says as a whole, and is then as good as new.

namespace Decoder

inductive Request
  | piece (bytes : List UInt8)
  | finish
deriving DecidableEq

def serve (decoder : Decoder) : Request → Option String × Decoder
  | .piece bytes => (some (decoder.decode bytes).1, (decoder.decode bytes).2)
  | .finish => decoder.finish

def serveAll (decoder : Decoder) : List Request → List (Option String) × Decoder
  | [] => ([], decoder)
  | request :: requests =>
      let (answer, decoder) := decoder.serve request
      let (answers, decoder) := decoder.serveAll requests
      (answer :: answers, decoder)

-- The requests for a stream that comes in pieces and ends.
def segment (pieces : List (List UInt8)) : List Request := pieces.map .piece ++ [.finish]

def written (answers : List (Option String)) : String :=
  String.join (answers.map fun answer => answer.getD "")

theorem serveAll_append (decoder : Decoder) (first second : List Request) :
    decoder.serveAll (first ++ second) =
      ((decoder.serveAll first).1 ++ ((decoder.serveAll first).2.serveAll second).1,
        ((decoder.serveAll first).2.serveAll second).2) := by
  induction first generalizing decoder with
  | nil => rfl
  | cons request first ih => simp [serveAll, ih]

theorem finish_snd (decoder : Decoder) : decoder.finish.2 = empty := by
  obtain ⟨pending⟩ := decoder
  cases pending <;> rfl

theorem toList_written (answers : List (Option String)) :
    (written answers).toList = answers.flatMap fun answer => (answer.getD "").toList := by
  rw [written, String.toList_join, List.flatMap_map]

theorem serveAll_pieces (decoder : Decoder) (pieces : List (List UInt8)) :
    (written (decoder.serveAll (pieces.map .piece)).1).toList =
        (decoder.decode pieces.flatten).1.toList ∧
      (decoder.serveAll (pieces.map .piece)).2 = (decoder.decode pieces.flatten).2 := by
  induction pieces generalizing decoder with
  | nil => exact ⟨rfl, rfl⟩
  | cons piece pieces ih =>
      obtain ⟨htext, hdecoder⟩ := decoder.decode_append piece pieces.flatten
      obtain ⟨htexts, hafter⟩ := ih (decoder.decode piece).2
      rw [List.flatten_cons, htext, hdecoder, ← htexts, ← hafter, toList_written, toList_written]
      exact ⟨rfl, rfl⟩

theorem written_append (first second : List (Option String)) :
    (written (first ++ second)).toList = (written first).toList ++ (written second).toList := by
  simp only [toList_written, List.flatMap_append]

theorem serveAll_segment (pieces : List (List UInt8)) :
    (written (empty.serveAll (segment pieces)).1).toList = Utf8.lossy pieces.flatten ∧
      (empty.serveAll (segment pieces)).2 = empty := by
  obtain ⟨htext, hafter⟩ := empty.serveAll_pieces pieces
  have hlast : ∀ decoder : Decoder,
      (written (decoder.serveAll [.finish]).1).toList = Utf8.lossy decoder.pending := by
    intro decoder
    rw [toList_written, ← toList_finish]
    exact List.flatMap_singleton _ _
  rw [segment, serveAll_append, written_append, htext, hafter, hlast]
  exact ⟨(lossy_eq pieces.flatten).symm, finish_snd _⟩

-- Nothing is held back at the end of a text. If it were, the rest of a character
-- could follow, which is one character with what is held back and at least one
-- more than that without.
theorem pending_of_encode (text : String) :
    (empty.decode (Utf8.encode text)).2.pending = [] := by
  cases hpending : (empty.decode (Utf8.encode text)).2.pending with
  | nil => rfl
  | cons lead got =>
      have hunfinished := decode_unfinished (Utf8.encode text)
      rw [hpending] at hunfinished
      obtain ⟨c, more, hmore, hencode⟩ := unfinished_cons_iff.mp hunfinished
      have hcharacter : Utf8.lossy (lead :: got ++ more) = [c] := by
        have hread := Utf8.lossy_encode_append c []
        rwa [hencode, List.append_nil, Utf8.lossy_nil] at hread
      have halone := lossy_eq (Utf8.encode text)
      have hfollowed := lossy_append_eq (Utf8.encode text) more
      rw [Utf8.lossy_encode, hpending, lossy_of_unfinished hunfinished] at halone
      rw [Utf8.lossy_text_append, hpending, hcharacter] at hfollowed
      have hshort := congrArg List.length halone
      have hlong := congrArg List.length hfollowed
      have hpos := List.length_pos_iff.mpr (Utf8.lossy_ne_nil hmore)
      simp only [List.length_append, List.length_singleton] at hshort hlong
      omega

theorem decode_encode (text : String) :
    (empty.decode (Utf8.encode text)).1.toList = text.toList ∧
      (empty.decode (Utf8.encode text)).2.finish.1 = none := by
  have hpending := pending_of_encode text
  have hwhole := lossy_eq (Utf8.encode text)
  rw [Utf8.lossy_encode, hpending, Utf8.lossy_nil, List.append_nil] at hwhole
  exact ⟨hwhole.symm, by simp [finish, hpending]⟩

theorem exists_segments (requests : List Request) :
    ∃ (segments : List (List (List UInt8))) (rest : List (List UInt8)),
      requests = segments.flatMap segment ++ rest.map .piece := by
  induction requests with
  | nil => exact ⟨[], [], rfl⟩
  | cons request requests ih =>
      obtain ⟨segments, rest, rfl⟩ := ih
      cases request with
      | finish => exact ⟨[] :: segments, rest, rfl⟩
      | piece bytes =>
          cases segments with
          | nil => exact ⟨[], bytes :: rest, rfl⟩
          | cons pieces segments => exact ⟨(bytes :: pieces) :: segments, rest, rfl⟩

theorem serveAll_segments (segments : List (List (List UInt8))) (requests : List Request) :
    empty.serveAll (segments.flatMap segment ++ requests) =
      (segments.flatMap (fun pieces => (empty.serveAll (segment pieces)).1) ++
        (empty.serveAll requests).1, (empty.serveAll requests).2) := by
  induction segments with
  | nil => rfl
  | cons pieces segments ih =>
      rw [List.flatMap_cons, List.append_assoc, serveAll_append, (serveAll_segment pieces).2, ih,
        List.flatMap_cons, List.append_assoc]

-- What a decoder makes of a stream that ends.
structure Seamless (pieces : List (List UInt8)) : Prop where
  text : written (empty.serveAll (segment pieces)).1 = Utf8.text pieces.flatten
  -- One replacement for each longest beginning of a character that leads nowhere.
  repaired : Utf8.Decoded pieces.flatten (written (empty.serveAll (segment pieces)).1).toList
  -- A text comes back as it was, and there is nothing more to say at the end.
  lossless : ∀ text, pieces.flatten = Utf8.encode text →
    written (empty.serveAll (pieces.map .piece)).1 = text ∧
      (empty.serveAll (pieces.map .piece)).2.finish.1 = none
  renewed : (empty.serveAll (segment pieces)).2 = empty

theorem seamless (pieces : List (List UInt8)) : Seamless pieces where
  text := by
    rw [← String.toList_inj, (serveAll_segment pieces).1, Utf8.text, String.toList_ofList]
  repaired := Utf8.decoded_iff.mpr (serveAll_segment pieces).1
  lossless := by
    intro text hpieces
    obtain ⟨htext, hafter⟩ := empty.serveAll_pieces pieces
    obtain ⟨hdecoded, hnothing⟩ := decode_encode text
    rw [hafter, ← String.toList_inj, htext, hpieces]
    exact ⟨hdecoded, hnothing⟩
  renewed := (serveAll_segment pieces).2

-- However a stream is cut, the pieces say what it says as a whole, and each of
-- several streams, one after the other, is decoded as if it were the only one.
theorem decoding_is_seamless (requests : List Request) :
    (∀ pieces, Seamless pieces) ∧
      ∃ (segments : List (List (List UInt8))) (rest : List (List UInt8)),
        requests = segments.flatMap segment ++ rest.map .piece ∧
        (empty.serveAll requests).1 =
          segments.flatMap (fun pieces => (empty.serveAll (segment pieces)).1) ++
            (empty.serveAll (rest.map .piece)).1 := by
  obtain ⟨segments, rest, hrequests⟩ := exists_segments requests
  refine ⟨seamless, segments, rest, hrequests, ?_⟩
  rw [hrequests, serveAll_segments]

end Decoder

end Overseer.Output
