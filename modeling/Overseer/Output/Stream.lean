namespace Overseer.Output

-- One output stream of a process, as the reader meets it: messages in order,
-- each of which is delivered over as many reads as it takes.

inductive Message
  | data (bytes : List UInt8)
  | interrupted
  | broken
  | closed
deriving DecidableEq

inductive Reading
  | chunk (bytes : List UInt8)
  | again
  | ended
deriving DecidableEq

abbrev Stream := List Message

def Message.weight : Message → Nat
  | .data bytes => bytes.length + 1
  | _ => 1

namespace Stream

def request (chunkSize : Nat) : Nat := max chunkSize 1

theorem request_pos (chunkSize : Nat) : 0 < request chunkSize := by
  unfold request
  omega

-- The longest buffer that can be had. A reader that asks for more cannot read
-- at all.
def largestRequest : Nat := Nat.pow 2 63 - 1

def read (size : Nat) : Stream → Option (Reading × Stream)
  | [] => none
  | .data [] :: rest => some (.ended, rest)
  | .data (byte :: bytes) :: rest =>
      let left := (byte :: bytes).drop size
      some (.chunk ((byte :: bytes).take size),
        if left.isEmpty then rest else .data left :: rest)
  | .interrupted :: rest => some (.again, rest)
  | .broken :: rest => some (.ended, rest)
  | .closed :: rest => some (.ended, rest)

def weight (stream : Stream) : Nat :=
  stream.foldr (fun message rest => message.weight + rest) 0

theorem weight_read_lt {size : Nat} {stream rest : Stream} {reading : Reading}
    (hsize : 0 < size) (hread : stream.read size = some (reading, rest)) :
    rest.weight < stream.weight := by
  unfold read at hread
  split at hread
  · cases hread
  · cases hread
    simp [weight, Message.weight]
  · rename_i byte bytes tail
    cases hread
    split
    · simp [weight, Message.weight]
    · simp only [weight, List.foldr_cons, Message.weight, List.length_drop, List.length_cons]
      omega
  · cases hread
    simp [weight, Message.weight]
  · cases hread
    simp [weight, Message.weight]
  · cases hread
    simp [weight, Message.weight]

end Stream

end Overseer.Output
