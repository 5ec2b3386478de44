import Overseer.Output.Reader

namespace Overseer.Output

-- What a stream brings, whatever the size of the reads.

-- The bytes up to the first end of the stream or the first failure.
def Stream.content : Stream → List UInt8
  | [] => []
  | .data [] :: _ => []
  | .data (byte :: bytes) :: rest => byte :: bytes ++ content rest
  | .interrupted :: rest => content rest
  | .broken :: _ => []
  | .closed :: _ => []

def Stream.ends : Stream → Bool
  | [] => false
  | .data [] :: _ => true
  | .data (_ :: _) :: rest => ends rest
  | .interrupted :: rest => ends rest
  | .broken :: _ => true
  | .closed :: _ => true

namespace Stream

variable {size : Nat} {stream rest : Stream} {bytes : List UInt8}

-- What was read is the beginning of what the stream brings, and the rest brings
-- the rest, whatever arrives later.
theorem content_of_chunk (hread : stream.read size = some (.chunk bytes, rest))
    (later : Stream) :
    content (stream ++ later) = bytes ++ content (rest ++ later) ∧
      ends (stream ++ later) = ends (rest ++ later) := by
  unfold read at hread
  split at hread
  · cases hread
  · cases hread
  · rename_i byte tail messages
    cases hread
    have hsplit := List.take_append_drop size (byte :: tail)
    cases hleft : (byte :: tail).drop size with
    | nil =>
        rw [hleft, List.append_nil] at hsplit
        simp [hsplit, content, ends]
    | cons next left =>
        rw [hleft] at hsplit
        refine ⟨?_, rfl⟩
        calc content (.data (byte :: tail) :: messages ++ later)
            = (byte :: tail) ++ content (messages ++ later) := rfl
          _ = ((byte :: tail).take size ++ next :: left) ++ content (messages ++ later) := by
              rw [hsplit]
          _ = (byte :: tail).take size ++ content (.data (next :: left) :: messages ++ later) :=
              List.append_assoc _ _ _
  · cases hread
  · cases hread
  · cases hread

theorem content_of_again (hread : stream.read size = some (.again, rest)) (later : Stream) :
    content (stream ++ later) = content (rest ++ later) ∧
      ends (stream ++ later) = ends (rest ++ later) := by
  unfold read at hread
  split at hread
  all_goals cases hread
  exact ⟨rfl, rfl⟩

theorem content_of_ended (hread : stream.read size = some (.ended, rest)) (later : Stream) :
    content (stream ++ later) = [] ∧ ends (stream ++ later) = true := by
  unfold read at hread
  split at hread
  all_goals cases hread
  all_goals exact ⟨rfl, rfl⟩

-- Past its end a stream brings nothing.
theorem content_append_of_ends (hends : ends stream = true) (later : Stream) :
    content (stream ++ later) = content stream := by
  fun_induction ends stream with
  | case1 => cases hends
  | case2 | case5 | case6 => rfl
  | case3 byte bytes rest ih =>
      rw [List.cons_append, content, content, ih hends]
  | case4 rest ih =>
      rw [List.cons_append, content, content, ih hends]

end Stream

end Overseer.Output
