import Mathlib.Data.List.Forall2
import Overseer.Text.Utf8

-- The byte ranges that decoding goes by against the encoding of characters:
-- what they let through is the encoding of a character or the beginning of one,
-- and what is replaced are the longest such beginnings.

namespace Overseer.Text.Utf8

open String (utf8EncodeChar)

variable {ranges : List Range} {lead byte : UInt8} {bytes got rest : List UInt8}

theorem lossy_cons_of_none (h : following lead = none) (rest : List UInt8) :
    lossy (lead :: rest) = replacement :: lossy rest := by
  rw [lossy]
  simp [h]

theorem lossy_cons_of_some (h : following lead = some ranges) (rest : List UInt8) :
    lossy (lead :: rest) =
      if fitting ranges rest = ranges.length then
        scalar lead (rest.take ranges.length) :: lossy (rest.drop ranges.length)
      else replacement :: lossy (rest.drop (fitting ranges rest)) := by
  rw [lossy]
  simp only [h]
  split
  · rename_i hcount
    rw [hcount]
  · rfl

theorem lossy_nil : lossy [] = [] := by rw [lossy]

theorem lossy_ne_nil (h : bytes ≠ []) : lossy bytes ≠ [] := by
  cases bytes with
  | nil => exact absurd rfl h
  | cons lead rest =>
      cases hfollowing : following lead with
      | none =>
          rw [lossy_cons_of_none hfollowing]
          simp
      | some ranges =>
          rw [lossy_cons_of_some hfollowing]
          split <;> simp

theorem fitting_append (hgot : fitting ranges got = got.length) (rest : List UInt8) :
    fitting ranges (got ++ rest) = got.length + fitting (ranges.drop got.length) rest := by
  induction got generalizing ranges with
  | nil => simp
  | cons byte got ih =>
      cases ranges with
      | nil => simp [fitting] at hgot
      | cons range ranges =>
          by_cases hfits : range.contains byte = true
          · have hgot : fitting ranges got = got.length := by simpa [fitting, hfits] using hgot
            simp only [List.cons_append, fitting, hfits, if_true, ih hgot, List.length_cons,
              List.drop_succ_cons]
            omega
          · simp [fitting, hfits] at hgot

def Fits (ranges : List Range) (bytes : List UInt8) : Prop :=
  List.Forall₂ (fun range byte => range.contains byte = true) ranges bytes

theorem fitting_eq_length_iff :
    fitting ranges got = got.length ↔ Fits (ranges.take got.length) got := by
  induction got generalizing ranges with
  | nil => simp [Fits, fitting]
  | cons byte got ih =>
      cases ranges with
      | nil => simp [Fits, fitting]
      | cons range ranges =>
          cases hfits : range.contains byte <;> simp [Fits, fitting, hfits] at ih ⊢
          rw [ih]

theorem fitting_le_length (ranges : List Range) (bytes : List UInt8) :
    fitting ranges bytes ≤ ranges.length ∧ fitting ranges bytes ≤ bytes.length := by
  induction ranges generalizing bytes with
  | nil => simp [fitting]
  | cons range ranges ih =>
      cases bytes with
      | nil => simp [fitting]
      | cons byte bytes =>
          have htail := ih bytes
          simp only [fitting, List.length_cons]
          split <;> omega

theorem fitting_take (ranges : List Range) (bytes : List UInt8) :
    fitting ranges (bytes.take (fitting ranges bytes)) = fitting ranges bytes := by
  induction ranges generalizing bytes with
  | nil => simp [fitting]
  | cons range ranges ih =>
      cases bytes with
      | nil => simp [fitting]
      | cons byte bytes =>
          cases hfits : range.contains byte <;> simp [fitting, hfits, ih bytes]

-- What may come second where the sequence is of three or of four bytes: a
-- shorter sequence, a surrogate or a value past the last plane begins otherwise.
def secondOfThree (lead : UInt8) : Range :=
  ⟨if lead = 0xE0 then 0xA0 else 0x80, if lead = 0xED then 0x9F else 0xBF⟩

def secondOfFour (lead : UInt8) : Range :=
  ⟨if lead = 0xF0 then 0x90 else 0x80, if lead = 0xF4 then 0x8F else 0xBF⟩

-- The table of ranges, by the length of the sequence.
inductive Row (lead : UInt8) : List Range → Prop
  | one (hlead : lead ≤ 0x7F) : Row lead []
  | two (hlow : 0xC2 ≤ lead) (hhigh : lead ≤ 0xDF) : Row lead [continuation]
  | three (hlow : 0xE0 ≤ lead) (hhigh : lead ≤ 0xEF) :
      Row lead [secondOfThree lead, continuation]
  | four (hlow : 0xF0 ≤ lead) (hhigh : lead ≤ 0xF4) :
      Row lead [secondOfFour lead, continuation, continuation]

theorem row_of_following (h : following lead = some ranges) : Row lead ranges := by
  have hone : lead ≤ 0x7F → ranges = [] := by grind [following]
  have htwo : 0xC2 ≤ lead → lead ≤ 0xDF → ranges = [continuation] := by grind [following]
  have hthree : 0xE0 ≤ lead → lead ≤ 0xEF → ranges = [secondOfThree lead, continuation] := by
    grind [following, secondOfThree, continuation]
  have hfour : 0xF0 ≤ lead → lead ≤ 0xF4 →
      ranges = [secondOfFour lead, continuation, continuation] := by
    grind [following, secondOfFour, continuation]
  have hlead : lead ≤ 0x7F ∨ (0xC2 ≤ lead ∧ lead ≤ 0xDF) ∨ (0xE0 ≤ lead ∧ lead ≤ 0xEF) ∨
      (0xF0 ≤ lead ∧ lead ≤ 0xF4) := by
    grind [following]
  rcases hlead with hlead | ⟨hlow, hhigh⟩ | ⟨hlow, hhigh⟩ | ⟨hlow, hhigh⟩
  · exact hone hlead ▸ .one hlead
  · exact htwo hlow hhigh ▸ .two hlow hhigh
  · exact hthree hlow hhigh ▸ .three hlow hhigh
  · exact hfour hlow hhigh ▸ .four hlow hhigh

theorem Row.following_eq (h : Row lead ranges) : following lead = some ranges := by
  cases h with
  | one hlead => simp [following, hlead]
  | two hlow hhigh => grind [following]
  | three hlow hhigh => grind [following, secondOfThree, continuation]
  | four hlow hhigh => grind [following, secondOfFour, continuation]

section Arithmetic

variable {second : UInt8}

theorem continuation_iff :
    continuation.contains second = true ↔ 0x80 ≤ second.toNat ∧ second.toNat ≤ 0xBF := by
  simp [Range.contains, continuation, UInt8.le_iff_toNat_le]

theorem secondOfThree_iff :
    (secondOfThree lead).contains second = true ↔
      (0x80 ≤ second.toNat ∧ second.toNat ≤ 0xBF) ∧
        (lead.toNat = 0xE0 → 0xA0 ≤ second.toNat) ∧
        (lead.toNat = 0xED → second.toNat ≤ 0x9F) := by
  have hfirst : lead = 0xE0 ↔ lead.toNat = 0xE0 := UInt8.toNat_inj.symm
  have hlast : lead = 0xED ↔ lead.toNat = 0xED := UInt8.toNat_inj.symm
  simp only [Range.contains, secondOfThree, hfirst, hlast, UInt8.le_iff_toNat_le,
    Bool.and_eq_true, decide_eq_true_eq]
  split <;> split <;> simp <;> omega

theorem secondOfFour_iff :
    (secondOfFour lead).contains second = true ↔
      (0x80 ≤ second.toNat ∧ second.toNat ≤ 0xBF) ∧
        (lead.toNat = 0xF0 → 0x90 ≤ second.toNat) ∧
        (lead.toNat = 0xF4 → second.toNat ≤ 0x8F) := by
  have hfirst : lead = 0xF0 ↔ lead.toNat = 0xF0 := UInt8.toNat_inj.symm
  have hlast : lead = 0xF4 ↔ lead.toNat = 0xF4 := UInt8.toNat_inj.symm
  simp only [Range.contains, secondOfFour, hfirst, hlast, UInt8.le_iff_toNat_le,
    Bool.and_eq_true, decide_eq_true_eq]
  split <;> split <;> simp <;> omega

theorem leadBits_eq (lead : UInt8) :
    leadBits lead =
      if lead.toNat ≤ 0x7F then lead.toNat
      else if lead.toNat ≤ 0xDF then lead.toNat % 32
      else if lead.toNat ≤ 0xEF then lead.toNat % 16
      else lead.toNat % 8 := by
  simp only [leadBits, UInt8.le_iff_toNat_le, UInt8.reduceToNat]

theorem ofNat_eq_iff {n : Nat} {byte : UInt8} : UInt8.ofNat n = byte ↔ n % 256 = byte.toNat := by
  rw [← UInt8.toNat_inj, UInt8.toNat_ofNat']

theorem toNat_ofNat {n : Nat} (h : n.isValidChar) : (Char.ofNat n).val.toNat = n := by
  unfold Char.ofNat
  rw [dif_pos h]
  rfl

-- What the ranges let through is the encoding of the character that is read.
theorem encode_scalar (hrow : Row lead ranges) (hfits : Fits ranges rest) :
    utf8EncodeChar (scalar lead rest) = lead :: rest := by
  cases hrow with
  | one hlead =>
      simp only [UInt8.le_iff_toNat_le, UInt8.reduceToNat] at hlead
      obtain rfl := List.forall₂_nil_left_iff.mp hfits
      have hvalid : lead.toNat.isValidChar := by
        unfold Nat.isValidChar
        omega
      rw [scalar, List.foldl_nil, leadBits_eq, if_pos hlead, utf8EncodeChar, toNat_ofNat hvalid,
        if_pos hlead, UInt8.ofNat_toNat]
  | two hlow hhigh =>
      simp only [UInt8.le_iff_toNat_le, UInt8.reduceToNat] at hlow hhigh
      simp only [Fits, List.forall₂_cons_left_iff, List.forall₂_nil_left_iff, continuation_iff]
        at hfits
      obtain ⟨second, -, hsecond, rfl, rfl⟩ := hfits
      have hvalid : (lead.toNat % 32 * 64 + second.toNat % 64).isValidChar := by
        unfold Nat.isValidChar
        omega
      rw [scalar, List.foldl_cons, List.foldl_nil, leadBits_eq, if_neg (by omega),
        if_pos (by omega), utf8EncodeChar, toNat_ofNat hvalid, if_neg (by omega), if_pos (by omega)]
      simp only [List.cons.injEq, ofNat_eq_iff, and_true]
      omega
  | three hlow hhigh =>
      simp only [UInt8.le_iff_toNat_le, UInt8.reduceToNat] at hlow hhigh
      simp only [Fits, List.forall₂_cons_left_iff, List.forall₂_nil_left_iff, secondOfThree_iff,
        continuation_iff] at hfits
      obtain ⟨second, -, hsecond, ⟨third, -, hthird, rfl, rfl⟩, rfl⟩ := hfits
      have hvalid : ((lead.toNat % 16 * 64 + second.toNat % 64) * 64 +
          third.toNat % 64).isValidChar := by
        unfold Nat.isValidChar
        omega
      rw [scalar, List.foldl_cons, List.foldl_cons, List.foldl_nil, leadBits_eq, if_neg (by omega),
        if_neg (by omega), if_pos (by omega), utf8EncodeChar, toNat_ofNat hvalid,
        if_neg (by omega), if_neg (by omega), if_pos (by omega)]
      simp only [List.cons.injEq, ofNat_eq_iff, and_true]
      omega
  | four hlow hhigh =>
      simp only [UInt8.le_iff_toNat_le, UInt8.reduceToNat] at hlow hhigh
      simp only [Fits, List.forall₂_cons_left_iff, List.forall₂_nil_left_iff, secondOfFour_iff,
        continuation_iff] at hfits
      obtain ⟨second, -, hsecond, ⟨third, -, hthird, ⟨fourth, -, hfourth, rfl, rfl⟩, rfl⟩, rfl⟩ :=
        hfits
      have hvalid : (((lead.toNat % 8 * 64 + second.toNat % 64) * 64 + third.toNat % 64) * 64 +
          fourth.toNat % 64).isValidChar := by
        unfold Nat.isValidChar
        omega
      rw [scalar, List.foldl_cons, List.foldl_cons, List.foldl_cons, List.foldl_nil, leadBits_eq,
        if_neg (by omega), if_neg (by omega), if_neg (by omega), utf8EncodeChar,
        toNat_ofNat hvalid, if_neg (by omega), if_neg (by omega), if_neg (by omega)]
      simp only [List.cons.injEq, ofNat_eq_iff, and_true]
      omega

-- Every character's encoding is let through.
theorem exists_row (c : Char) :
    ∃ lead rest ranges, utf8EncodeChar c = lead :: rest ∧ Row lead ranges ∧ Fits ranges rest := by
  have hvalid : c.val.toNat.isValidChar := c.valid
  unfold Nat.isValidChar at hvalid
  rw [utf8EncodeChar]
  split_ifs with hone htwo hthree
  · refine ⟨_, _, _, rfl, .one ?_, .nil⟩
    simp only [UInt8.le_iff_toNat_le, UInt8.reduceToNat, UInt8.toNat_ofNat']
    omega
  · refine ⟨_, _, _, rfl, .two ?_ ?_, .cons ?_ .nil⟩
    all_goals
      simp only [UInt8.le_iff_toNat_le, UInt8.reduceToNat, continuation_iff, UInt8.toNat_ofNat']
      omega
  · refine ⟨_, _, _, rfl, .three ?_ ?_, .cons ?_ (.cons ?_ .nil)⟩
    all_goals
      simp only [UInt8.le_iff_toNat_le, UInt8.reduceToNat, secondOfThree_iff, continuation_iff,
        UInt8.toNat_ofNat']
      omega
  · refine ⟨_, _, _, rfl, .four ?_ ?_, .cons ?_ (.cons ?_ (.cons ?_ .nil))⟩
    all_goals
      simp only [UInt8.le_iff_toNat_le, UInt8.reduceToNat, secondOfFour_iff, continuation_iff,
        UInt8.toNat_ofNat']
      omega

end Arithmetic

theorem encode_injective {c d : Char} (h : utf8EncodeChar c = utf8EncodeChar d) : c = d := by
  have hc := ByteArray.utf8DecodeChar?_utf8EncodeChar_append (b := .empty) (c := c)
  have hd := ByteArray.utf8DecodeChar?_utf8EncodeChar_append (b := .empty) (c := d)
  rw [h] at hc
  exact Option.some.inj (hc.symm.trans hd)

theorem row_of_encode {c : Char} (h : utf8EncodeChar c = lead :: rest) :
    ∃ ranges, Row lead ranges ∧ Fits ranges rest := by
  obtain ⟨lead', rest', ranges, hencode, hrow, hfits⟩ := exists_row c
  obtain ⟨rfl, rfl⟩ : lead = lead' ∧ rest = rest' := by simpa using h.symm.trans hencode
  exact ⟨ranges, hrow, hfits⟩

theorem scalar_of_encode {c : Char} (h : utf8EncodeChar c = lead :: rest) :
    scalar lead rest = c := by
  obtain ⟨ranges, hrow, hfits⟩ := row_of_encode h
  exact encode_injective ((encode_scalar hrow hfits).trans h.symm)

theorem Row.contains_low (h : Row lead ranges) : ∀ range ∈ ranges, range.contains range.low := by
  have hcontinuation : continuation.contains continuation.low = true := by decide
  have hthree : (secondOfThree lead).contains (secondOfThree lead).low = true := by
    unfold secondOfThree Range.contains
    split <;> split <;> simp_all
  have hfour : (secondOfFour lead).contains (secondOfFour lead).low = true := by
    unfold secondOfFour Range.contains
    split <;> split <;> simp_all
  cases h <;> simp_all

theorem Row.bounds (h : Row lead ranges) :
    ∀ range ∈ ranges, 0x80 ≤ range.low ∧ range.high ≤ 0xBF := by
  have hthree : 0x80 ≤ (secondOfThree lead).low ∧ (secondOfThree lead).high ≤ 0xBF := by
    unfold secondOfThree
    split <;> split <;> decide
  have hfour : 0x80 ≤ (secondOfFour lead).low ∧ (secondOfFour lead).high ≤ 0xBF := by
    unfold secondOfFour
    split <;> split <;> decide
  have hcontinuation : 0x80 ≤ continuation.low ∧ continuation.high ≤ 0xBF := by decide
  cases h <;> simp_all

-- The encoding of a character as far as some byte, possibly to its end.
def Beginning (bytes : List UInt8) : Prop :=
  ∃ c : Char, bytes <+: utf8EncodeChar c

theorem beginning_cons_iff :
    Beginning (lead :: got) ↔
      ∃ ranges, following lead = some ranges ∧ fitting ranges got = got.length := by
  constructor
  · rintro ⟨c, hfront⟩
    obtain ⟨lead', rest, ranges, hencode, hrow, hfits⟩ := exists_row c
    rw [hencode, List.cons_prefix_cons] at hfront
    obtain ⟨rfl, more, rfl⟩ := hfront
    refine ⟨ranges, hrow.following_eq, fitting_eq_length_iff.mpr ?_⟩
    have htaken := List.forall₂_take got.length hfits
    rwa [List.take_left] at htaken
  · rintro ⟨ranges, hfollowing, hgot⟩
    have hrow := row_of_following hfollowing
    have hlows : Fits (ranges.drop got.length) ((ranges.drop got.length).map Range.low) := by
      rw [Fits, List.forall₂_map_right_iff, List.forall₂_same]
      exact fun range hrange => hrow.contains_low range (List.mem_of_mem_drop hrange)
    have hwhole : Fits (ranges.take got.length ++ ranges.drop got.length) _ :=
      List.rel_append (fitting_eq_length_iff.mp hgot) hlows
    rw [List.take_append_drop] at hwhole
    exact ⟨_, by rw [encode_scalar hrow hwhole]; exact ⟨_, rfl⟩⟩

theorem lossy_encode_append (c : Char) (rest : List UInt8) :
    lossy (utf8EncodeChar c ++ rest) = c :: lossy rest := by
  obtain ⟨lead, tail, ranges, hencode, hrow, hfits⟩ := exists_row c
  have hlength : ranges.length = tail.length := hfits.length_eq
  have htail : fitting ranges tail = tail.length := by
    rw [fitting_eq_length_iff, ← hlength, List.take_length]
    exact hfits
  have hcount : fitting ranges (tail ++ rest) = ranges.length := by
    rw [fitting_append htail, ← hlength, List.drop_length]
    simp [fitting]
  rw [hencode, List.cons_append, lossy_cons_of_some hrow.following_eq, if_pos hcount, hlength,
    List.take_left, List.drop_left, scalar_of_encode hencode]

-- A text is what its encoding decodes to, whatever comes after it.
theorem lossy_text_append (text : String) (rest : List UInt8) :
    lossy (encode text ++ rest) = text.toList ++ lossy rest := by
  have hchars : ∀ chars : List Char,
      lossy (chars.flatMap utf8EncodeChar ++ rest) = chars ++ lossy rest := by
    intro chars
    induction chars with
    | nil => rfl
    | cons c chars ih =>
        rw [List.flatMap_cons, List.append_assoc, lossy_encode_append, ih, List.cons_append]
  exact hchars text.toList

theorem lossy_encode (text : String) : lossy (encode text) = text.toList := by
  have hread := lossy_text_append text []
  rwa [List.append_nil, lossy_nil, List.append_nil] at hread

theorem text_encode (text : String) : Utf8.text (encode text) = text := by
  rw [Utf8.text, lossy_encode, String.ofList_toList]

theorem strict_eq_some_iff {text : String} : strict bytes = some text ↔ bytes = encode text := by
  constructor
  · intro h
    rw [strict] at h
    split at h
    · rename_i hsame
      cases h
      exact hsame.symm
    · cases h
  · rintro rfl
    rw [strict, text_encode, if_pos rfl]

-- A place where there is no character, and how much of the bytes there is
-- replaced: the longest beginning of a character, or else a single byte.
structure Broken (subpart rest : List UInt8) : Prop where
  nonempty : subpart ≠ []
  noCharacter : ∀ c : Char, ¬utf8EncodeChar c <+: subpart ++ rest
  begins : Beginning subpart ∨ subpart.length = 1
  longest : ∀ longer, longer <+: subpart ++ rest → Beginning longer →
    longer.length ≤ subpart.length

-- What a byte string says: character by character where it can be read, and one
-- replacement for each broken place.
inductive Decoded : List UInt8 → List Char → Prop
  | nil : Decoded [] []
  | character (c : Char) {rest : List UInt8} {chars : List Char} :
      Decoded rest chars → Decoded (utf8EncodeChar c ++ rest) (c :: chars)
  | replaced {subpart rest : List UInt8} {chars : List Char} :
      Broken subpart rest → Decoded rest chars → Decoded (subpart ++ rest) (replacement :: chars)

-- As many bytes as fit do begin a character, and with fewer than are asked for
-- there is none.
theorem beginning_fitting (h : following lead = some ranges) (rest : List UInt8) :
    Beginning (lead :: rest.take (fitting ranges rest)) := by
  refine beginning_cons_iff.mpr ⟨ranges, h, ?_⟩
  rw [fitting_take, List.length_take, Nat.min_eq_left (fitting_le_length ranges rest).2]

theorem encode_of_fitting (h : following lead = some ranges)
    (hcount : fitting ranges rest = ranges.length) :
    utf8EncodeChar (scalar lead (rest.take ranges.length)) = lead :: rest.take ranges.length := by
  have hlength : (rest.take ranges.length).length = ranges.length := by
    rw [List.length_take, Nat.min_eq_left (hcount ▸ (fitting_le_length ranges rest).2)]
  have htaken : fitting ranges (rest.take ranges.length) = (rest.take ranges.length).length := by
    have htaken := fitting_take ranges rest
    rw [hcount] at htaken
    rw [htaken, hlength]
  rw [fitting_eq_length_iff, hlength, List.take_length] at htaken
  exact encode_scalar (row_of_following h) htaken

theorem length_le_of_beginning (h : following lead = some ranges)
    (hfront : got <+: rest) (hbegins : Beginning (lead :: got)) :
    got.length ≤ fitting ranges rest := by
  obtain ⟨ranges', hfollowing, hgot⟩ := beginning_cons_iff.mp hbegins
  obtain rfl : ranges' = ranges := by simpa using hfollowing.symm.trans h
  obtain ⟨more, rfl⟩ := hfront
  rw [fitting_append hgot]
  omega

theorem fitting_of_encoded {c : Char} (h : following lead = some ranges)
    (hfront : utf8EncodeChar c <+: lead :: rest) : fitting ranges rest = ranges.length := by
  obtain ⟨lead', tail, ranges', hencode, hrow, hfits⟩ := exists_row c
  rw [hencode, List.cons_prefix_cons] at hfront
  obtain ⟨rfl, hfront⟩ := hfront
  obtain rfl : ranges' = ranges := by simpa using hrow.following_eq.symm.trans h
  have hlong := length_le_of_beginning h hfront ⟨c, hencode ▸ List.prefix_rfl⟩
  have hbound := (fitting_le_length ranges' rest).1
  have hlength : ranges'.length = tail.length := hfits.length_eq
  omega

theorem broken_of_none (h : following lead = none) (rest : List UInt8) : Broken [lead] rest where
  nonempty := List.cons_ne_nil _ _
  noCharacter := by
    rintro c ⟨more, hmore⟩
    obtain ⟨lead', tail, ranges, hencode, hrow, -⟩ := exists_row c
    obtain ⟨rfl, -⟩ : lead' = lead ∧ _ := by simpa [hencode] using hmore
    simp [hrow.following_eq] at h
  begins := .inr rfl
  longest := by
    rintro longer hfront hbegins
    cases longer with
    | nil => exact Nat.zero_le _
    | cons lead' got =>
        obtain ⟨ranges, hfollowing, -⟩ := beginning_cons_iff.mp hbegins
        obtain ⟨rfl, -⟩ := List.cons_prefix_cons.mp hfront
        simp [hfollowing] at h

theorem broken_of_short (h : following lead = some ranges)
    (hshort : fitting ranges rest ≠ ranges.length) :
    Broken (lead :: rest.take (fitting ranges rest)) (rest.drop (fitting ranges rest)) where
  nonempty := List.cons_ne_nil _ _
  noCharacter := by
    intro c hfront
    rw [List.cons_append, List.take_append_drop] at hfront
    exact hshort (fitting_of_encoded h hfront)
  begins := .inl (beginning_fitting h rest)
  longest := by
    intro longer hfront hbegins
    rw [List.cons_append, List.take_append_drop] at hfront
    cases longer with
    | nil => exact Nat.zero_le _
    | cons lead' got =>
        obtain ⟨rfl, htail⟩ := List.cons_prefix_cons.mp hfront
        have hlong := length_le_of_beginning h htail hbegins
        have hbound := (fitting_le_length ranges rest).2
        simp only [List.length_cons, List.length_take]
        omega

theorem lossy_of_broken {subpart : List UInt8} (h : Broken subpart rest) :
    lossy (subpart ++ rest) = replacement :: lossy rest := by
  obtain ⟨lead, got, rfl⟩ := List.exists_cons_of_ne_nil h.nonempty
  rw [List.cons_append]
  cases hfollowing : following lead with
  | none =>
      have hone : (lead :: got).length = 1 := h.begins.resolve_left fun hbegins => by
        obtain ⟨ranges, hsome, -⟩ := beginning_cons_iff.mp hbegins
        simp [hsome] at hfollowing
      obtain rfl : got = [] := by simpa using hone
      exact lossy_cons_of_none hfollowing rest
  | some ranges =>
      have hlow : got.length ≤ fitting ranges (got ++ rest) := by
        rcases h.begins with hbegins | hone
        · exact length_le_of_beginning hfollowing (List.prefix_append got rest) hbegins
        · simp only [List.length_cons] at hone
          omega
      have hhigh := h.longest (lead :: (got ++ rest).take (fitting ranges (got ++ rest)))
        (List.cons_prefix_cons.mpr ⟨rfl, List.take_prefix _ _⟩)
        (beginning_fitting hfollowing (got ++ rest))
      have hcount : fitting ranges (got ++ rest) = got.length := by
        have hbound := (fitting_le_length ranges (got ++ rest)).2
        simp only [List.length_cons, List.length_take] at hhigh
        omega
      have hshort : got.length ≠ ranges.length := by
        intro hlength
        have hwhole := encode_of_fitting hfollowing (hcount.trans hlength)
        rw [← hlength, List.take_left] at hwhole
        exact h.noCharacter (scalar lead got) (hwhole ▸ List.prefix_append _ _)
      rw [lossy_cons_of_some hfollowing, hcount, if_neg hshort, List.drop_left]

theorem decoded_lossy (bytes : List UInt8) : Decoded bytes (lossy bytes) := by
  induction bytes using lossy.induct with
  | case1 =>
      rw [lossy_nil]
      exact .nil
  | case2 lead rest hfollowing ih =>
      rw [lossy_cons_of_none hfollowing]
      exact .replaced (broken_of_none hfollowing rest) ih
  | case3 lead rest ranges hfollowing count hcount ih =>
      have hdecoded := Decoded.character (scalar lead (rest.take ranges.length)) ih
      rw [encode_of_fitting hfollowing hcount, show count = ranges.length from hcount,
        List.cons_append, List.take_append_drop] at hdecoded
      rw [lossy_cons_of_some hfollowing, if_pos hcount]
      exact hdecoded
  | case4 lead rest ranges hfollowing count hcount ih =>
      have hdecoded := Decoded.replaced (broken_of_short hfollowing hcount) ih
      rw [List.cons_append, List.take_append_drop] at hdecoded
      rw [lossy_cons_of_some hfollowing, if_neg hcount]
      exact hdecoded

theorem decoded_iff {chars : List Char} : Decoded bytes chars ↔ chars = lossy bytes := by
  constructor
  · intro h
    induction h with
    | nil => exact lossy_nil.symm
    | character c _ ih => rw [lossy_encode_append, ih]
    | replaced hbroken _ ih => rw [lossy_of_broken hbroken, ih]
  · rintro rfl
    exact decoded_lossy bytes

end Overseer.Text.Utf8
