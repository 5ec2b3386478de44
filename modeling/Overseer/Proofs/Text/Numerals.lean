import Overseer.Text.Decimal

namespace Overseer.Text

-- How numbers are written, and that reading them digit by digit within 64 bits
-- refuses only what is not written that way and what is too large as a whole.

def AllDigits (text : List Char) : Prop := ∀ c ∈ text, c.isDigit = true

-- The texts that a number is written as. Any number of zeros may lead, and one plus
-- sign before them.
inductive Numeral : List Char → Nat → Prop
  | plain {digits : List Char} : digits ≠ [] → AllDigits digits →
      Numeral digits (Nat.ofDigitChars 10 digits 0)
  | signed {digits : List Char} : digits ≠ [] → AllDigits digits →
      Numeral ('+' :: digits) (Nat.ofDigitChars 10 digits 0)

variable {value result : Nat} {c : Char} {digits : List Char} {text : String}

theorem checked_eq_some_iff :
    checked value = some result ↔ value = result ∧ result < Nat.pow 2 64 := by
  unfold checked
  split <;> rename_i hfits
  · rw [Option.some.injEq]
    exact ⟨fun heq => ⟨heq, heq ▸ hfits⟩, fun h => h.1⟩
  · refine ⟨by simp, ?_⟩
    rintro ⟨rfl, hlt⟩
    exact absurd hlt hfits

-- One step of the reader. A number that fits with its last digit fit without it,
-- so the check in between refuses nothing more.
theorem appendDigit_eq_some_iff :
    appendDigit value c = some result ↔
      c.isDigit = true ∧ Nat.ofDigitChars 10 [c] value = result ∧ result < Nat.pow 2 64 := by
  have hvalue : Nat.ofDigitChars 10 [c] value = value * 10 + digitValue c := by
    rw [Nat.ofDigitChars_cons, Nat.ofDigitChars_nil, Nat.mul_comm, digitValue]
  unfold appendDigit
  split <;> rename_i hdigit
  · simp only [Option.bind_eq_some_iff, checked_eq_some_iff, hdigit, true_and, hvalue]
    constructor
    · rintro ⟨shifted, ⟨rfl, -⟩, hread⟩
      exact hread
    · rintro ⟨hread, hfits⟩
      have hshifted : value * 10 ≤ result := hread ▸ Nat.le_add_right _ _
      exact ⟨value * 10, ⟨rfl, Nat.lt_of_le_of_lt hshifted hfits⟩, hread, hfits⟩
  · simp [hdigit]

theorem le_ofDigitChars (digits : List Char) (value : Nat) :
    value ≤ Nat.ofDigitChars 10 digits value := by
  rw [Nat.ofDigitChars_eq_ofDigitChars_zero]
  have hscale : 1 * value ≤ 10 ^ digits.length * value :=
    Nat.mul_le_mul_right value (Nat.pow_pos (by decide))
  omega

-- The digits after a number. More digits never make a number smaller, so one that is
-- too large on the way is too large in the end.
theorem appendDigits_eq_some_iff (hvalue : value < Nat.pow 2 64) :
    appendDigits value digits = some result ↔
      AllDigits digits ∧ Nat.ofDigitChars 10 digits value = result ∧ result < Nat.pow 2 64 := by
  induction digits generalizing value with
  | nil =>
      rw [appendDigits, Option.some.injEq, Nat.ofDigitChars_nil]
      exact ⟨fun heq => ⟨by simp [AllDigits], heq, heq ▸ hvalue⟩, fun h => h.2.1⟩
  | cons c digits ih =>
      have hmore : Nat.ofDigitChars 10 (c :: digits) value =
          Nat.ofDigitChars 10 digits (Nat.ofDigitChars 10 [c] value) := by
        simp only [Nat.ofDigitChars_cons, Nat.ofDigitChars_nil]
      have hall : AllDigits (c :: digits) ↔ c.isDigit = true ∧ AllDigits digits :=
        List.forall_mem_cons
      rw [appendDigits, hmore, hall]
      cases hstep : appendDigit value c with
      | some next =>
          obtain ⟨hdigit, rfl, hfits⟩ := appendDigit_eq_some_iff.mp hstep
          simp only [ih hfits, hdigit, true_and]
      | none =>
          refine ⟨by simp, ?_⟩
          rintro ⟨⟨hdigit, hdigits⟩, hresult, hfits⟩
          have hnext : Nat.ofDigitChars 10 [c] value < Nat.pow 2 64 :=
            Nat.lt_of_le_of_lt (hresult ▸ le_ofDigitChars digits _) hfits
          have hread := appendDigit_eq_some_iff.mpr ⟨hdigit, rfl, hnext⟩
          cases hstep.symm.trans hread

theorem ofDigits_eq_some_iff :
    ofDigits digits = some result ↔
      digits ≠ [] ∧ AllDigits digits ∧ Nat.ofDigitChars 10 digits 0 = result ∧
        result < Nat.pow 2 64 := by
  have hzero : 0 < Nat.pow 2 64 := by decide
  cases digits with
  | nil => simp [ofDigits]
  | cons c digits =>
      rw [ofDigits, List.isEmpty_cons, if_neg Bool.false_ne_true,
        appendDigits_eq_some_iff hzero]
      simp only [ne_eq, reduceCtorEq, not_false_eq_true, true_and]

theorem eq_withoutPlus (list : List Char) :
    list = '+' :: withoutPlus list ∨ list = withoutPlus list := by
  unfold withoutPlus
  split
  · exact .inl rfl
  · exact .inr rfl

theorem withoutPlus_of_allDigits (h : AllDigits digits) : withoutPlus digits = digits := by
  unfold withoutPlus
  split
  · exact absurd (h '+' (by simp)) (by decide)
  · rfl

-- Nothing but numerals is read, and no numeral is refused that stands for a number
-- of 64 bits.
theorem unsigned_eq_some_iff :
    unsigned text = some result ↔ Numeral text.toList result ∧ result < Nat.pow 2 64 := by
  rw [unsigned, ofDigits_eq_some_iff]
  constructor
  · rintro ⟨hsome, hdigits, rfl, hfits⟩
    refine ⟨?_, hfits⟩
    rcases eq_withoutPlus text.toList with hlist | hlist
    · have hsigned := Numeral.signed hsome hdigits
      rwa [← hlist] at hsigned
    · rw [← hlist] at hsome hdigits ⊢
      exact .plain hsome hdigits
  · rintro ⟨hnumeral, hfits⟩
    generalize text.toList = list at hnumeral ⊢
    cases hnumeral with
    | plain hsome hdigits =>
        rw [withoutPlus_of_allDigits hdigits]
        exact ⟨hsome, hdigits, rfl, hfits⟩
    | signed hsome hdigits => exact ⟨hsome, hdigits, rfl, hfits⟩

-- What only comes close to a number, and what is one too many.
example : ["", "+", "-1", "++1", " 5", "1_000", "0x10", "٣", "18446744073709551616"].map unsigned =
    List.replicate 9 none := by
  decide

theorem numeral_toString (value : Nat) : Numeral (toString value).toList value := by
  have hlist : (toString value).toList = Nat.toDigits 10 value := Nat.toList_repr
  have hdigits : AllDigits (Nat.toDigits 10 value) :=
    fun _ hmem => Nat.isDigit_of_mem_toDigits (by decide) (by decide) hmem
  have hnumeral := Numeral.plain Nat.toDigits_ne_nil hdigits
  rwa [Nat.ofDigitChars_ten_toDigits, ← hlist] at hnumeral

end Overseer.Text
