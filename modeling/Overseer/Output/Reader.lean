import Overseer.Output.Decoder
import Overseer.Output.Scanner
import Overseer.Output.Stream

namespace Overseer.Output

structure Reader where
  decoder : Decoder
  scanner : Option Scanner
deriving DecidableEq

namespace Reader

def plain : Reader := ⟨.empty, none⟩

def watching (marker : String) (maxLine : Nat) : Reader := ⟨.empty, some (.new marker maxLine)⟩

structure Step where
  output : Option String
  -- The read completes the marker's line. This is told after the text is
  -- forwarded, so that the line comes before the news of it.
  ready : Bool
  reader : Reader

def accept (reader : Reader) (chunk : List UInt8) : Step :=
  let (text, decoder) := reader.decoder.decode chunk
  let output := if text.isEmpty then none else some text
  match reader.scanner with
  | none => ⟨output, false, ⟨decoder, none⟩⟩
  | some scanner =>
      let (hit, scanner) := scanner.feed chunk
      ⟨output, hit, ⟨decoder, if hit then none else some scanner⟩⟩

def flush (reader : Reader) : Option String := reader.decoder.finish.1

structure Transcript where
  outputs : List String
  announced : List Nat
  unread : Stream
  ended : Bool
deriving DecidableEq

def Transcript.start : Transcript := ⟨[], [], [], false⟩

def drain (chunkSize : Nat) (reader : Reader) (stream : Stream) (done : Transcript) :
    Transcript :=
  match _ : stream.read (Stream.request chunkSize) with
  | none => { done with unread := stream }
  | some (.ended, rest) =>
      { done with outputs := done.outputs ++ reader.flush.toList, unread := rest, ended := true }
  | some (.again, rest) => drain chunkSize reader rest done
  | some (.chunk bytes, rest) =>
      let step := reader.accept bytes
      let outputs := done.outputs ++ step.output.toList
      let announced := if step.ready then done.announced ++ [outputs.length] else done.announced
      drain chunkSize step.reader rest { done with outputs, announced }
termination_by stream.weight
decreasing_by
  all_goals
    exact Stream.weight_read_lt (Stream.request_pos chunkSize) ‹_›

end Reader

end Overseer.Output
