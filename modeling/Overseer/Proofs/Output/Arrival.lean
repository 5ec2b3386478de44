import Overseer.Proofs.Output.Content

namespace Overseer.Output

-- The pieces in which a stream arrives, and where it ends.

-- The end of the stream, or a failure that is as good as one.
def Message.isEnd : Message → Bool
  | .data [] => true
  | .data (_ :: _) => false
  | .interrupted => false
  | .broken => true
  | .closed => true

namespace Stream

variable {size : Nat} {stream rest : Stream} {bytes : List UInt8}

def beyond : Stream → Stream
  | [] => []
  | message :: rest => if message.isEnd then rest else beyond rest

def calm (stream : Stream) : Stream := stream.filter (· ≠ .interrupted)

theorem calm_cons {message : Message} (h : message ≠ .interrupted) (stream : Stream) :
    calm (message :: stream) = message :: calm stream := by
  simp [calm, h]

def pieces (size : Nat) (stream : Stream) : List (List UInt8) :=
  match _ : stream.read (request size) with
  | none => []
  | some (.ended, _) => []
  | some (.again, rest) => pieces size rest
  | some (.chunk bytes, rest) => bytes :: pieces size rest
termination_by stream.weight
decreasing_by
  all_goals exact weight_read_lt (request_pos size) ‹_›

theorem pieces_eq (size : Nat) (stream : Stream) :
    stream.pieces size =
      match stream.read (request size) with
      | none => []
      | some (.ended, _) => []
      | some (.again, rest) => rest.pieces size
      | some (.chunk bytes, rest) => bytes :: rest.pieces size := by
  rw [pieces]
  split <;> simp_all

theorem pieces_of_request {other : Nat} (h : request size = request other) (stream : Stream) :
    stream.pieces size = stream.pieces other := by
  fun_induction pieces size stream with
  | case1 stream hread => rw [pieces_eq other, ← h, hread]
  | case2 stream rest hread => rw [pieces_eq other, ← h, hread]
  | case3 stream rest hread ih => rw [pieces_eq other stream, ← h, hread, ih]
  | case4 stream bytes rest hread ih => rw [pieces_eq other stream, ← h, hread, ih]

-- A stream by what the next read of it comes to.
theorem eq_nil_of_none (hread : stream.read size = none) : stream = [] := by
  unfold read at hread
  split at hread <;> simp_all

theorem eq_cons_of_ended (hread : stream.read size = some (.ended, rest)) :
    ∃ message, stream = message :: rest ∧ message.isEnd = true ∧ message ≠ .interrupted ∧
      ∀ others : Stream, read size (message :: others) = some (.ended, others) := by
  unfold read at hread
  split at hread
  all_goals cases hread
  all_goals exact ⟨_, rfl, rfl, by simp, fun _ => rfl⟩

theorem eq_cons_of_again (hread : stream.read size = some (.again, rest)) :
    stream = .interrupted :: rest := by
  unfold read at hread
  split at hread
  all_goals cases hread
  rfl

-- A chunk is taken from the first message, and what is left of that stays in front.
theorem eq_cons_of_chunk (hread : stream.read size = some (.chunk bytes, rest)) :
    ∃ first left messages, stream = first :: messages ∧ rest = left ++ messages ∧
      (∀ message ∈ first :: left, message.isEnd = false ∧ message ≠ .interrupted) ∧
      ∀ others : Stream, read size (first :: others) = some (.chunk bytes, left ++ others) := by
  unfold read at hread
  split at hread
  · cases hread
  · cases hread
  · rename_i byte tail messages
    cases hread
    refine ⟨.data (byte :: tail),
      if ((byte :: tail).drop size).isEmpty then [] else [.data ((byte :: tail).drop size)],
      messages, rfl, ?_, ?_, fun others => ?_⟩
    · split <;> rfl
    · cases hleft : (byte :: tail).drop size <;> simp [Message.isEnd]
    · rw [read]
      split <;> rfl
  all_goals cases hread

theorem length_of_chunk (hsize : 0 < size) (hread : stream.read size = some (.chunk bytes, rest)) :
    0 < bytes.length ∧ bytes.length ≤ size := by
  unfold read at hread
  split at hread
  all_goals cases hread
  rename_i byte tail messages
  have hlength : ((byte :: tail).take size).length = min size (tail.length + 1) := List.length_take
  omega

theorem flatten_pieces (size : Nat) (stream : Stream) :
    (stream.pieces size).flatten = stream.content := by
  fun_induction pieces size stream with
  | case1 stream hread =>
      rw [eq_nil_of_none hread]
      rfl
  | case2 stream rest hread =>
      have hcontent := (content_of_ended hread []).1
      rw [List.append_nil] at hcontent
      rw [hcontent]
      rfl
  | case3 stream rest hread ih =>
      have hcontent := (content_of_again hread []).1
      rw [List.append_nil, List.append_nil] at hcontent
      rw [hcontent, ih]
  | case4 stream bytes rest hread ih =>
      have hcontent := (content_of_chunk hread []).1
      rw [List.append_nil, List.append_nil] at hcontent
      rw [hcontent, List.flatten_cons, ih]

-- No read brings nothing or more than it asks for.
theorem length_of_mem_pieces (size : Nat) (stream : Stream) :
    ∀ piece ∈ stream.pieces size, 0 < piece.length ∧ piece.length ≤ request size := by
  fun_induction pieces size stream with
  | case1 => simp
  | case2 => simp
  | case3 stream rest hread ih => exact ih
  | case4 stream bytes rest hread ih =>
      rintro piece (_ | ⟨_, hpiece⟩)
      · exact length_of_chunk (request_pos size) hread
      · exact ih piece hpiece

theorem pieces_calm (size : Nat) (stream : Stream) :
    stream.calm.pieces size = stream.pieces size := by
  fun_induction pieces size stream with
  | case1 stream hread =>
      obtain rfl := eq_nil_of_none hread
      rw [calm, List.filter_nil, pieces_eq, hread]
  | case2 stream rest hread =>
      obtain ⟨message, rfl, -, hloud, hothers⟩ := eq_cons_of_ended hread
      rw [calm_cons hloud, pieces_eq, hothers]
  | case3 stream rest hread ih =>
      obtain rfl := eq_cons_of_again hread
      exact ih
  | case4 stream bytes rest hread ih =>
      obtain ⟨first, left, messages, rfl, rfl, hdata, hothers⟩ := eq_cons_of_chunk hread
      have hleft : calm (left ++ messages) = left ++ calm messages := by
        have hkept : left.filter (· ≠ .interrupted) = left :=
          List.filter_eq_self.mpr fun message hmem => by simp [(hdata message (.tail _ hmem)).2]
        rw [calm, List.filter_append, hkept]
        rfl
      rw [calm_cons (hdata first List.mem_cons_self).2, pieces_eq, hothers, ← hleft]
      exact congrArg (bytes :: ·) ih

theorem ends_cons (message : Message) (stream : Stream) :
    ends (message :: stream) = (message.isEnd || ends stream) := by
  rcases message with (_ | _) | _ | _ | _ <;> rfl

theorem ends_calm (stream : Stream) : stream.calm.ends = stream.ends := by
  induction stream with
  | nil => rfl
  | cons message stream ih =>
      by_cases hquiet : message = .interrupted
      · subst hquiet
        exact ih
      · rw [calm_cons hquiet, ends_cons, ends_cons, ih]

theorem beyond_calm (stream : Stream) : stream.calm.beyond = stream.beyond.calm := by
  induction stream with
  | nil => rfl
  | cons message stream ih =>
      by_cases hquiet : message = .interrupted
      · subst hquiet
        exact ih
      · rw [calm_cons hquiet, beyond, beyond]
        split
        · rfl
        · exact ih

theorem beyond_of_chunk (hread : stream.read size = some (.chunk bytes, rest)) :
    stream.beyond = rest.beyond := by
  obtain ⟨first, left, messages, rfl, rfl, hdata, -⟩ := eq_cons_of_chunk hread
  have hopen : ∀ front : List Message, (∀ message ∈ front, message.isEnd = false) →
      beyond (front ++ messages) = beyond messages := by
    intro front hfront
    induction front with
    | nil => rfl
    | cons message front ih =>
        rw [List.cons_append, beyond, hfront message List.mem_cons_self]
        exact ih fun other hother => hfront other (.tail _ hother)
  rw [hopen left fun message hmem => (hdata message (.tail _ hmem)).1]
  exact hopen [first] fun message hmem => (hdata message (by simp_all)).1

theorem split_of_ends {stream : Stream} (h : stream.ends = true) :
    ∃ before last, stream = before ++ last :: stream.beyond ∧ last.isEnd = true ∧
      ∀ message ∈ before, message.isEnd = false := by
  induction stream with
  | nil => cases h
  | cons message stream ih =>
      rw [ends_cons] at h
      cases hend : message.isEnd with
      | true => exact ⟨[], message, by simp [beyond, hend], hend, by simp⟩
      | false =>
          obtain ⟨before, last, hsplit, hlast, hbefore⟩ := ih (by simpa [hend] using h)
          refine ⟨message :: before, last, ?_, hlast, ?_⟩
          · rw [beyond, hend, List.cons_append]
            exact congrArg (message :: ·) hsplit
          · rintro other (_ | ⟨_, hother⟩)
            · exact hend
            · exact hbefore other hother

theorem beyond_of_open {stream : Stream} (h : stream.ends = false) :
    stream.beyond = [] ∧ ∀ message ∈ stream, message.isEnd = false := by
  induction stream with
  | nil => exact ⟨rfl, by simp⟩
  | cons message stream ih =>
      rw [ends_cons, Bool.or_eq_false_iff] at h
      obtain ⟨hbeyond, hopen⟩ := ih h.2
      refine ⟨by rw [beyond, h.1]; exact hbeyond, ?_⟩
      rintro other (_ | ⟨_, hother⟩)
      · exact h.1
      · exact hopen other hother

end Stream

end Overseer.Output
