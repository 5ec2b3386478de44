import Overseer.Proofs.Output.Segments

-- A decoder holds back no more than it must. It goes by strict reading: what can
-- be read is settled, what nothing can save is replaced, and only what more bytes
-- may still complete is kept for the next piece.

namespace Overseer.Text.Utf8

open Output.Decoder (Unfinished)
open String (utf8EncodeChar)

-- What strict reading makes of some bytes: how many of them are text, and what
-- is the matter with those after them.
inductive Verdict
  | whole
  | cut (valid : Nat)
  -- So many bytes are no character, whatever comes after them.
  | damaged (valid length : Nat)
deriving DecidableEq

def Verdict.after (count : Nat) : Verdict → Verdict
  | .whole => .whole
  | .cut valid => .cut (count + valid)
  | .damaged valid length => .damaged (count + valid) length

def verdict : List UInt8 → Verdict
  | [] => .whole
  | lead :: rest =>
      match following lead with
      | none => .damaged 0 1
      | some ranges =>
          let count := fitting ranges rest
          if count = ranges.length then (verdict (rest.drop count)).after (count + 1)
          else if count = rest.length then .cut 0
          else .damaged 0 (count + 1)
termination_by bytes => bytes.length
decreasing_by
  simp only [List.length_cons, List.length_drop]
  omega

-- Bytes that nothing after them makes a character: one that begins none, or a
-- beginning that the next byte does not continue.
inductive Dead : List UInt8 → List UInt8 → Prop
  | stray {lead : UInt8} {rest : List UInt8} : following lead = none → Dead [lead] rest
  | refused {lead byte : UInt8} {got rest : List UInt8} {ranges more : List Range} {range : Range} :
      following lead = some ranges → fitting ranges got = got.length →
      ranges.drop got.length = range :: more → range.contains byte = false →
      Dead (lead :: got) (byte :: rest)

-- What a verdict says of the bytes.
inductive Judged : List UInt8 → Verdict → Prop
  | whole (text : String) : Judged (encode text) .whole
  | cut (text : String) {tail : List UInt8} : tail ≠ [] → Unfinished tail →
      Judged (encode text ++ tail) (.cut (encode text).length)
  | damaged (text : String) {subpart rest : List UInt8} : Dead subpart rest →
      Judged (encode text ++ (subpart ++ rest)) (.damaged (encode text).length subpart.length)

variable {bytes : List UInt8} {verdict' : Verdict}

theorem encode_singleton_append (c : Char) (text : String) :
    encode (String.singleton c ++ text) = utf8EncodeChar c ++ encode text := by
  simp [encode]

theorem Judged.after (h : Judged bytes verdict') (c : Char) :
    Judged (utf8EncodeChar c ++ bytes) (verdict'.after (utf8EncodeChar c).length) := by
  cases h with
  | whole text =>
      rw [← encode_singleton_append]
      exact .whole _
  | cut text htail hunfinished =>
      rw [← List.append_assoc, ← encode_singleton_append, Verdict.after, ← List.length_append,
        ← encode_singleton_append]
      exact .cut _ htail hunfinished
  | damaged text hdead =>
      rw [← List.append_assoc, ← encode_singleton_append, Verdict.after, ← List.length_append,
        ← encode_singleton_append]
      exact .damaged _ hdead

-- As many bytes as fit are a beginning, and the next one, if there is one, is none
-- of its bytes.
theorem dead_of_short {lead : UInt8} {rest : List UInt8} {ranges : List Range}
    (hfollowing : following lead = some ranges) (hshort : fitting ranges rest < ranges.length)
    (hmore : fitting ranges rest < rest.length) :
    Dead (lead :: rest.take (fitting ranges rest)) (rest.drop (fitting ranges rest)) := by
  obtain ⟨byte, tail, hrest⟩ := List.exists_cons_of_length_pos
    (show 0 < (rest.drop (fitting ranges rest)).length by simp only [List.length_drop]; omega)
  obtain ⟨range, more, hranges⟩ := List.exists_cons_of_length_pos
    (show 0 < (ranges.drop (fitting ranges rest)).length by
      simp only [List.length_drop]; omega)
  have hlength : (rest.take (fitting ranges rest)).length = fitting ranges rest := by
    rw [List.length_take]
    omega
  have hgot : fitting ranges (rest.take (fitting ranges rest)) =
      (rest.take (fitting ranges rest)).length := by
    rw [fitting_take, hlength]
  have hcount := fitting_append hgot (rest.drop (fitting ranges rest))
  rw [List.take_append_drop, hlength, hrest, hranges] at hcount
  rw [hrest]
  refine .refused hfollowing hgot (by rw [hlength, hranges]) ?_
  simpa [fitting] using hcount

theorem judged_verdict (bytes : List UInt8) : Judged bytes (verdict bytes) := by
  induction bytes using verdict.induct with
  | case1 =>
      rw [verdict]
      exact .whole ""
  | case2 lead rest hfollowing =>
      rw [verdict]
      simp only [hfollowing]
      exact .damaged "" (.stray hfollowing)
  | case3 lead rest ranges hfollowing count hcount ih =>
      have hencode := encode_of_fitting hfollowing hcount
      have hlength : (lead :: rest.take ranges.length).length = ranges.length + 1 := by
        have hbound := (fitting_le_length ranges rest).2
        rw [List.length_cons, List.length_take]
        omega
      have hjudged := ih.after (scalar lead (rest.take ranges.length))
      rw [hencode, hlength, show count = ranges.length from hcount, List.cons_append,
        List.take_append_drop] at hjudged
      rw [verdict]
      simp only [hfollowing]
      rwa [if_pos hcount, show fitting ranges rest = ranges.length from hcount]
  | case4 lead rest ranges hfollowing count hcount hwhole =>
      have hbound := (fitting_le_length ranges rest).1
      rw [verdict]
      simp only [hfollowing]
      rw [if_neg hcount, if_pos hwhole]
      exact .cut "" (List.cons_ne_nil _ _) ⟨ranges, hfollowing, by omega, hwhole⟩
  | case5 lead rest ranges hfollowing count hcount hwhole =>
      have hbound := fitting_le_length ranges rest
      have hshort : fitting ranges rest < ranges.length := by omega
      have hdead := dead_of_short hfollowing hshort (by omega)
      have hjudged := Judged.damaged "" hdead
      rw [List.length_cons, List.length_take, Nat.min_eq_left hbound.2, List.cons_append,
        List.take_append_drop] at hjudged
      rw [verdict]
      simp only [hfollowing]
      rw [if_neg hcount, if_neg hwhole]
      exact hjudged

end Overseer.Text.Utf8

namespace Overseer.Output

open Overseer.Text
open Overseer.Text.Utf8 (Dead)
open String (utf8EncodeChar)

namespace Decoder

variable {lead : UInt8} {got bytes pending : List UInt8}

-- A byte that begins a longer sequence starts over, whatever was before it.
theorem lossy_append_lead {range : Utf8.Range} {more : List Utf8.Range}
    (hlead : Utf8.following lead = some (range :: more)) (bytes got : List UInt8) :
    Utf8.lossy (bytes ++ lead :: got) = Utf8.lossy bytes ++ Utf8.lossy (lead :: got) := by
  have hunfinished := decode_unfinished bytes
  have hstart : start lead = ([], [lead]) := by simp [start, hlead]
  rw [lossy_append_eq bytes, lossy_eq bytes, List.append_assoc]
  congr 1
  cases hpending : (empty.decode bytes).2.pending with
  | nil => simp [Utf8.lossy_nil]
  | cons other held =>
      rw [hpending] at hunfinished
      obtain ⟨ranges, hfollowing, hshort, -⟩ := id hunfinished
      obtain ⟨range', more', hdrop, -⟩ := drop_of_unfinished hshort
      have hmem : range' ∈ ranges := List.mem_of_mem_drop (i := held.length) (by simp [hdrop])
      have hunfit := Utf8.not_contains_lead hlead hfollowing range' hmem
      rw [lossy_advance hunfinished, advance_of_unfit hfollowing hdrop hunfit, hstart,
        lossy_of_unfinished hunfinished]
      rfl

-- What was settled is what the bytes before the held ones say by themselves.
theorem decode_split (bytes : List UInt8) :
    ∃ settled, bytes = settled ++ (empty.decode bytes).2.pending ∧
      (empty.decode bytes).1.toList = Utf8.lossy settled := by
  obtain ⟨settled, hsplit⟩ := held_suffix [] bytes
  have hwhole := lossy_eq bytes
  have hunfinished := decode_unfinished bytes
  have hheld : held [] bytes = (empty.decode bytes).2.pending := (pending_decode empty bytes).symm
  rw [hheld, List.nil_append] at hsplit
  refine ⟨settled, hsplit.symm, ?_⟩
  cases hpending : (empty.decode bytes).2.pending with
  | nil =>
      rw [hpending, Utf8.lossy_nil, List.append_nil] at hwhole
      rw [hpending, List.append_nil] at hsplit
      rw [hsplit, hwhole]
  | cons lead got =>
      rw [hpending] at hwhole hunfinished hsplit
      obtain ⟨ranges, hfollowing, hshort, -⟩ := id hunfinished
      obtain ⟨range, more, rfl⟩ := List.exists_cons_of_length_pos (Nat.zero_lt_of_lt hshort)
      rw [← hsplit, lossy_append_lead hfollowing, hsplit] at hwhole
      exact (List.append_cancel_right hwhole).symm

theorem decode_of_unfinished (h : Unfinished bytes) :
    (empty.decode bytes).1.toList = [] ∧ (empty.decode bytes).2.pending = bytes := by
  have hpending : (empty.decode bytes).2.pending = bytes := by
    rw [pending_decode]
    cases bytes with
    | nil => rfl
    | cons lead got =>
        have hstart : Unfinished [] := True.intro
        exact held_append_of_unfinished hstart h []
  have hwhole := lossy_eq bytes
  rw [hpending] at hwhole
  exact ⟨List.self_eq_append_left.mp hwhole, hpending⟩

theorem decode_text_append (text : String) (rest : List UInt8) :
    (empty.decode (Utf8.encode text ++ rest)).1.toList =
        text.toList ++ (empty.decode rest).1.toList ∧
      (empty.decode (Utf8.encode text ++ rest)).2 = (empty.decode rest).2 := by
  have hsettled : (empty.decode (Utf8.encode text)).2 = empty :=
    congrArg Decoder.mk (pending_of_encode text)
  obtain ⟨htext, hafter⟩ := empty.decode_append (Utf8.encode text) rest
  rw [htext, hafter, hsettled, (decode_encode text).1]
  exact ⟨rfl, rfl⟩

theorem decode_cons (decoder : Decoder) (byte : UInt8) (bytes : List UInt8) :
    (decoder.decode (byte :: bytes)).1.toList =
        (advance decoder.pending byte).1 ++
          (decode ⟨(advance decoder.pending byte).2⟩ bytes).1.toList ∧
      (decoder.decode (byte :: bytes)).2 = (decode ⟨(advance decoder.pending byte).2⟩ bytes).2 := by
  obtain ⟨htext, hafter⟩ := decoder.decode_append [byte] bytes
  have hone : (decoder.decode [byte]).1.toList = (advance decoder.pending byte).1 := by
    show ((advance decoder.pending byte).1.foldl String.push "").toList = _
    rw [toList_foldl_push]
    rfl
  rw [hone] at htext
  exact ⟨htext, hafter⟩

-- What is replaced is replaced at once, and what comes after it is read as if
-- nothing were before it.
theorem decode_dead {subpart rest : List UInt8} (h : Dead subpart rest) :
    (empty.decode (subpart ++ rest)).1.toList =
        Utf8.replacement :: (empty.decode rest).1.toList ∧
      (empty.decode (subpart ++ rest)).2 = (empty.decode rest).2 := by
  cases h with
  | @stray lead _ hfollowing =>
      obtain ⟨htext, hafter⟩ := empty.decode_cons lead rest
      have hadvance : advance empty.pending lead = ([Utf8.replacement], []) := by
        simp only [empty, advance, start, hfollowing]
      rw [List.singleton_append, htext, hafter, hadvance]
      exact ⟨rfl, rfl⟩
  | @refused lead byte got rest ranges more range hfollowing hgot hdrop hunfit =>
      have hshort : got.length < ranges.length := by
        have hlength := congrArg List.length hdrop
        simp only [List.length_drop, List.length_cons] at hlength
        omega
      have hunfinished : Unfinished (lead :: got) := ⟨ranges, hfollowing, hshort, hgot⟩
      obtain ⟨hnothing, hheld⟩ := decode_of_unfinished hunfinished
      have hdecoder : (empty.decode (lead :: got)).2 = ⟨lead :: got⟩ := congrArg Decoder.mk hheld
      obtain ⟨htext, hafter⟩ := empty.decode_append (lead :: got) (byte :: rest)
      obtain ⟨hlate, hlater⟩ := decode_cons ⟨lead :: got⟩ byte rest
      obtain ⟨hearly, hearlier⟩ := empty.decode_cons byte rest
      rw [advance_of_unfit hfollowing hdrop hunfit] at hlate hlater
      rw [htext, hafter, hnothing, hdecoder, hlate, hlater, hearly, hearlier]
      exact ⟨rfl, rfl⟩

-- One round of reading: the text that it settles, what is left, and whether that
-- is read in turn.
structure Round where
  text : List Char
  rest : List UInt8
  again : Bool

def round (bytes : List UInt8) : Round :=
  match Utf8.verdict bytes with
  | .whole => ⟨Utf8.lossy bytes, [], false⟩
  | .cut valid => ⟨Utf8.lossy (bytes.take valid), bytes.drop valid, false⟩
  | .damaged valid length =>
      ⟨Utf8.lossy (bytes.take valid) ++ [Utf8.replacement], (bytes.drop valid).drop length, true⟩

-- What a round is by its verdict.
inductive Rounded : List UInt8 → Round → Prop
  | whole (text : String) : Rounded (Utf8.encode text) ⟨text.toList, [], false⟩
  | cut (text : String) {tail : List UInt8} : Unfinished tail →
      Rounded (Utf8.encode text ++ tail) ⟨text.toList, tail, false⟩
  | damaged (text : String) {subpart rest : List UInt8} : Dead subpart rest →
      Rounded (Utf8.encode text ++ (subpart ++ rest))
        ⟨text.toList ++ [Utf8.replacement], rest, true⟩

theorem rounded (bytes : List UInt8) : Rounded bytes (round bytes) := by
  have hjudged := Utf8.judged_verdict bytes
  unfold round
  generalize Utf8.verdict bytes = verdict at hjudged
  cases hjudged with
  | whole text =>
      rw [Utf8.lossy_encode]
      exact .whole text
  | cut text _ hunfinished =>
      dsimp only
      rw [List.take_left, List.drop_left, Utf8.lossy_encode]
      exact .cut text hunfinished
  | damaged text hdead =>
      dsimp only
      rw [List.take_left, List.drop_left, List.drop_left, Utf8.lossy_encode]
      exact .damaged text hdead

-- No round that is followed by another leaves as much as it was given.
theorem round_shortens (h : (round bytes).again = true) :
    (round bytes).rest.length < bytes.length := by
  have hrounded := rounded bytes
  generalize round bytes = result at h hrounded
  cases hrounded with
  | whole text => cases h
  | cut text _ => cases h
  | @damaged text subpart rest hdead =>
      have hpos : 0 < subpart.length := by cases hdead <;> simp
      simp only [List.length_append]
      omega

def rounds (bytes : List UInt8) : List Char × List UInt8 :=
  if _h : (round bytes).again = true then
    ((round bytes).text ++ (rounds (round bytes).rest).1, (rounds (round bytes).rest).2)
  else ((round bytes).text, (round bytes).rest)
termination_by bytes.length
decreasing_by
  all_goals exact round_shortens ‹_›

-- Byte by byte the decoder does what the rounds do.
theorem rounds_eq (bytes : List UInt8) :
    rounds bytes = ((empty.decode bytes).1.toList, (empty.decode bytes).2.pending) := by
  induction bytes using rounds.induct with
  | case1 bytes hagain ih =>
      rw [rounds, dif_pos hagain, ih]
      have hrounded := rounded bytes
      generalize round bytes = result at hagain hrounded
      cases hrounded with
      | whole text => cases hagain
      | cut text _ => cases hagain
      | @damaged text subpart rest hdead =>
          obtain ⟨htext, hafter⟩ := decode_text_append text (subpart ++ rest)
          obtain ⟨hreplaced, hrest⟩ := decode_dead hdead
          rw [htext, hafter, hreplaced, hrest]
          simp
  | case2 bytes hdone =>
      rw [rounds, dif_neg hdone]
      have hrounded := rounded bytes
      generalize round bytes = result at hdone hrounded
      cases hrounded with
      | whole text => rw [(decode_encode text).1, pending_of_encode]
      | cut text hunfinished =>
          obtain ⟨htext, hafter⟩ := decode_text_append text _
          obtain ⟨hnothing, hheld⟩ := decode_of_unfinished hunfinished
          rw [htext, hafter, hnothing, hheld, List.append_nil]
      | damaged text _ => exact absurd rfl hdone

theorem rounds_pending {decoder : Decoder} (h : Unfinished decoder.pending) (bytes : List UInt8) :
    rounds (decoder.pending ++ bytes) =
      ((decoder.decode bytes).1.toList, (decoder.decode bytes).2.pending) := by
  obtain ⟨hnothing, hheld⟩ := decode_of_unfinished h
  obtain ⟨htext, hafter⟩ := empty.decode_append decoder.pending bytes
  have hsame : (empty.decode decoder.pending).2 = decoder := congrArg Decoder.mk hheld
  rw [rounds_eq, htext, hafter, hnothing, hsame]
  rfl

theorem length_pending_le (h : Unfinished pending) : pending.length ≤ 3 := by
  cases pending with
  | nil => exact Nat.zero_le _
  | cons lead got =>
      obtain ⟨ranges, hfollowing, hshort, -⟩ := h
      have hranges : ranges.length ≤ 3 := by
        cases Utf8.row_of_following hfollowing <;> simp
      simp only [List.length_cons]
      omega

def given (pieces : List (List UInt8)) : Decoder := (empty.serveAll (pieces.map .piece)).2

def emitted (pieces : List (List UInt8)) : String :=
  written (empty.serveAll (pieces.map .piece)).1

theorem given_eq (pieces : List (List UInt8)) : given pieces = (empty.decode pieces.flatten).2 :=
  (empty.serveAll_pieces pieces).2

theorem toList_emitted (pieces : List (List UInt8)) :
    (emitted pieces).toList = (empty.decode pieces.flatten).1.toList :=
  (empty.serveAll_pieces pieces).1

theorem unfinished_given (pieces : List (List UInt8)) : Unfinished (given pieces).pending := by
  rw [given_eq]
  exact decode_unfinished pieces.flatten

-- What is kept for the next piece, and what is not.
structure Sparing (pieces : List (List UInt8)) : Prop where
  -- The beginning of a character that lacks something yet.
  beginning : (given pieces).pending = [] ∨
    (1 ≤ (given pieces).pending.length ∧ (given pieces).pending.length ≤ 3 ∧
      ∃ (c : Char) (more : List UInt8), more ≠ [] ∧
        utf8EncodeChar c = (given pieces).pending ++ more)
  settled : ∃ settled, pieces.flatten = settled ++ (given pieces).pending ∧
    emitted pieces = Utf8.text settled
  -- Whenever the bytes end in such a beginning, that is what is kept.
  least : ∀ (c : Char) (tail more : List UInt8), tail ≠ [] → more ≠ [] →
    utf8EncodeChar c = tail ++ more → tail <:+ pieces.flatten → (given pieces).pending = tail
  silent : (given pieces).finish.1 = none ↔ (given pieces).pending = []
  flushed : (given pieces).pending ≠ [] →
    (given pieces).finish.1 = some (String.singleton Utf8.replacement)
  ascii : ∀ front byte, pieces.getLast? = some (front ++ [byte]) → byte ≤ 0x7F →
    (given pieces).pending = []
  -- The next piece is read in rounds, from what was kept on.
  rounds : ∀ piece, Decoder.rounds ((given pieces).pending ++ piece) =
    (((given pieces).decode piece).1.toList, ((given pieces).decode piece).2.pending)

theorem sparing (pieces : List (List UInt8)) : Sparing pieces where
  beginning := by
    have hunfinished := unfinished_given pieces
    have hbound := length_pending_le hunfinished
    cases hpending : (given pieces).pending with
    | nil => exact .inl rfl
    | cons lead got =>
        rw [hpending] at hunfinished hbound
        obtain ⟨c, more, hmore, hencode⟩ := unfinished_cons_iff.mp hunfinished
        exact .inr ⟨by simp, hbound, c, more, hmore, hencode⟩
  settled := by
    obtain ⟨settled, hsplit, htext⟩ := decode_split pieces.flatten
    refine ⟨settled, ?_, ?_⟩
    · rw [given_eq]
      exact hsplit
    · rw [← String.toList_inj, toList_emitted, htext, Utf8.text, String.toList_ofList]
  least := by
    rintro c tail more htail hmore hencode ⟨front, hfront⟩
    obtain ⟨lead, got, rfl⟩ := List.exists_cons_of_ne_nil htail
    have hunfinished := unfinished_cons_iff.mpr ⟨c, more, hmore, hencode⟩
    have hstart : Unfinished [] := True.intro
    rw [given_eq, pending_decode, ← hfront]
    exact held_append_of_unfinished hstart hunfinished front
  silent := by
    cases hpending : (given pieces).pending <;> simp [finish, hpending]
  flushed := by
    intro hsome
    have hunfinished := unfinished_given pieces
    obtain ⟨lead, got, hpending⟩ := List.exists_cons_of_ne_nil hsome
    rw [hpending] at hunfinished
    simp only [finish, hpending, Utf8.text, lossy_of_unfinished hunfinished]
    rfl
  ascii := by
    intro front byte hlast hbyte
    obtain ⟨earlier, rfl⟩ : ∃ earlier, pieces = earlier ++ [front ++ [byte]] :=
      List.getLast?_eq_some_iff.mp hlast
    have hstart : Unfinished empty.pending := True.intro
    have hafter := decode_ascii hstart hbyte (earlier.flatten ++ front)
    rw [given_eq, List.flatten_concat, ← List.append_assoc, hafter]
    rfl
  rounds := rounds_pending (unfinished_given pieces)

-- Two bytes of three may be completed, while a sequence that is overlong is refused
-- at its second byte.
example : (given [[0xE2], [0x82]]).pending = [0xE2, 0x82] := by decide

example : (given [[0xE0], [0x80]]).pending = [] ∧ emitted [[0xE0], [0x80]] = "\uFFFD\uFFFD" := by
  decide

-- Whatever pieces a decoder is given, it keeps a few bytes at the most, and none
-- that it could settle; and reading a piece comes to an end, since every round
-- leaves less than it was given.
theorem holds_back_least (pieces : List (List UInt8)) :
    Sparing pieces ∧ ∀ bytes, (round bytes).again = true →
      (round bytes).rest.length < bytes.length :=
  ⟨sparing pieces, fun _ => round_shortens⟩

end Decoder

end Overseer.Output
