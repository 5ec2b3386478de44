import Overseer.Config
import Overseer.Proofs.Options.Variables
import Overseer.Proofs.Text.Numerals

namespace Overseer.Config

open Overseer.Text

-- The number in the environment. It counts exactly if it is written as a number
-- and is one that a size can be; nothing else about the tunables hangs on it.

def chunkVariable : String := "LAUNCHER_READ_CHUNK"

def Asks (text : String) (size : Nat) : Prop :=
  Numeral text.toList size ∧ 1 ≤ size ∧ size ≤ Nat.pow 2 64 - 1

def AgreeBut (name : String) (environment other : Environment) : Prop :=
  ∀ key, key ≠ name → environment.entries.lookup key = other.entries.lookup key

variable {environment other : Environment} {text : String} {size : Nat}

theorem asks_iff : Asks text size ↔ unsigned text = some size ∧ size ≠ 0 := by
  have hlimit : size ≤ Nat.pow 2 64 - 1 ↔ size < Nat.pow 2 64 :=
    Nat.le_sub_one_iff_lt (by decide)
  rw [Asks, unsigned_eq_some_iff, hlimit, Nat.one_le_iff_ne_zero]
  constructor
  · rintro ⟨hnumeral, hne, hlt⟩
    exact ⟨⟨hnumeral, hlt⟩, hne⟩
  · rintro ⟨⟨hnumeral, hlt⟩, hne⟩
    exact ⟨hnumeral, hne, hlt⟩

theorem chunkSize_ofEnvironment (environment : Environment) :
    (ofEnvironment environment).chunkSize =
      match (environment.text? chunkVariable).bind unsigned with
      | some size => if size = 0 then defaultChunkSize else size
      | none => defaultChunkSize :=
  rfl

theorem chunkSize_ofEnvironment_of_asks (hheld : environment.Holds chunkVariable text)
    (hasks : Asks text size) : (ofEnvironment environment).chunkSize = size := by
  obtain ⟨hread, hne⟩ := asks_iff.mp hasks
  rw [chunkSize_ofEnvironment, Environment.text?_of_holds hheld, Option.bind_some, hread]
  exact if_neg hne

theorem chunkSize_ofEnvironment_of_vain (hheld : environment.Holds chunkVariable text)
    (hvain : ∀ size, ¬Asks text size) :
    (ofEnvironment environment).chunkSize = defaultChunkSize := by
  rw [chunkSize_ofEnvironment, Environment.text?_of_holds hheld, Option.bind_some]
  cases hread : unsigned text with
  | none => rfl
  | some size =>
      by_cases hzero : size = 0
      · exact if_pos hzero
      · exact absurd (asks_iff.mpr ⟨hread, hzero⟩) (hvain size)

theorem chunkSize_ofEnvironment_of_lacks (hlacking : environment.Lacks chunkVariable) :
    (ofEnvironment environment).chunkSize = defaultChunkSize := by
  rw [chunkSize_ofEnvironment, Environment.text?_of_lacks hlacking, Option.bind_none]

theorem chunkSize_ofEnvironment_eq_iff (hheld : environment.Holds chunkVariable text) :
    (ofEnvironment environment).chunkSize = size ↔
      Asks text size ∨ size = defaultChunkSize ∧ ∀ other, ¬Asks text other := by
  constructor
  · rintro rfl
    by_cases hsome : ∃ size, Asks text size
    · obtain ⟨size, hasks⟩ := hsome
      rw [chunkSize_ofEnvironment_of_asks hheld hasks]
      exact .inl hasks
    · have hvain : ∀ size, ¬Asks text size := fun size hasks => hsome ⟨size, hasks⟩
      exact .inr ⟨chunkSize_ofEnvironment_of_vain hheld hvain, hvain⟩
  · rintro (hasks | ⟨rfl, hvain⟩)
    · exact chunkSize_ofEnvironment_of_asks hheld hasks
    · exact chunkSize_ofEnvironment_of_vain hheld hvain

theorem ofEnvironment_of_agreeBut (h : AgreeBut chunkVariable environment other) :
    ofEnvironment other =
      { ofEnvironment environment with chunkSize := (ofEnvironment other).chunkSize } := by
  have hmarker : environment.text? "LAUNCHER_READINESS_MARKER" =
      other.text? "LAUNCHER_READINESS_MARKER" := by
    rw [Environment.text?, h _ (by decide), Environment.text?]
  simp only [ofEnvironment, hmarker]

theorem asks_toString (hpos : 1 ≤ size) (hle : size ≤ Nat.pow 2 64 - 1) :
    Asks (toString size) size :=
  ⟨numeral_toString size, hpos, hle⟩

theorem holds_set (environment : Environment) (name text : String) :
    (environment.set (name, text)).Holds name text := by
  simp [Environment.Holds, Environment.set]

-- What a reader of environments makes of the variable for the size of a read.
structure ReadsSize (read : Environment → Config) : Prop where
  -- A text gives the size that it asks for. One that asks for none leaves the usual
  -- size, and no other size comes of any text.
  held : ∀ {environment text}, environment.Holds chunkVariable text → ∀ size,
    (read environment).chunkSize = size ↔
      Asks text size ∨ size = defaultChunkSize ∧ ∀ other, ¬Asks text other
  lacking : ∀ {environment}, environment.Lacks chunkVariable →
    (read environment).chunkSize = defaultChunkSize
  -- Whatever the variable is set to instead, only the size can change.
  alone : ∀ {environment other}, AgreeBut chunkVariable environment other →
    read other = { read environment with chunkSize := (read other).chunkSize }
  -- A size that is written there in the usual way is read back.
  written : ∀ (environment : Environment) (size : Nat), 1 ≤ size → size ≤ Nat.pow 2 64 - 1 →
    (read (environment.set (chunkVariable, toString size))).chunkSize = size

-- The size of a read is the number in the environment, by the grammar of numbers
-- and by nothing else.
theorem chunk_size_is_read_exactly : ReadsSize ofEnvironment where
  held := fun hheld _ => chunkSize_ofEnvironment_eq_iff hheld
  lacking := chunkSize_ofEnvironment_of_lacks
  alone := ofEnvironment_of_agreeBut
  written := fun environment size hpos hle =>
    chunkSize_ofEnvironment_of_asks (holds_set environment chunkVariable (toString size))
      (asks_toString hpos hle)

-- The largest size behind a sign and zeros, and the number after it, each beside
-- a marker.

def marked : Environment := ⟨[("LAUNCHER_READINESS_MARKER", Utf8.encode "up")]⟩

def largest : Environment := marked.set (chunkVariable, "+00018446744073709551615")

def tooLarge : Environment := marked.set (chunkVariable, "18446744073709551616")

theorem chunk_size_is_read_exactly_of_largest :
    Asks "+00018446744073709551615" (Nat.pow 2 64 - 1) ∧
      (∀ size, ¬Asks "18446744073709551616" size) ∧
      AgreeBut chunkVariable largest tooLarge ∧
      (ofEnvironment largest).chunkSize = Nat.pow 2 64 - 1 ∧
      ofEnvironment tooLarge = { ofEnvironment largest with chunkSize := defaultChunkSize } ∧
      (ofEnvironment (tooLarge.set (chunkVariable, toString (Nat.pow 2 64 - 1)))).chunkSize =
        Nat.pow 2 64 - 1 := by
  have hasks : Asks "+00018446744073709551615" (Nat.pow 2 64 - 1) := asks_iff.mpr (by decide)
  have hvain : ∀ size, ¬Asks "18446744073709551616" size := by
    have hnone : unsigned "18446744073709551616" = none := by decide
    intro size hasks
    simp [asks_iff, hnone] at hasks
  have hagree : AgreeBut chunkVariable largest tooLarge := by
    intro key hkey
    simp [largest, tooLarge, Environment.set, List.lookup_cons, beq_false_of_ne hkey]
  have hreads := chunk_size_is_read_exactly
  have hset : (ofEnvironment largest).chunkSize = Nat.pow 2 64 - 1 :=
    (hreads.held (holds_set marked _ _) _).mpr (.inl hasks)
  have hkept : (ofEnvironment tooLarge).chunkSize = defaultChunkSize :=
    (hreads.held (holds_set marked _ _) _).mpr (.inr ⟨rfl, hvain⟩)
  refine ⟨hasks, hvain, hagree, hset, ?_,
    hreads.written tooLarge (Nat.pow 2 64 - 1) (by decide) (by decide)⟩
  rw [← hkept]
  exact hreads.alone hagree

end Overseer.Config
