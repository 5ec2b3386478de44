import Mathlib.Data.List.Basic
import Overseer.Text.Blank

namespace Overseer.Text

-- The words of a text are what stands between its white space. There is one way
-- only to lay words out in a text, so whoever reads them back gets the same.

def AllBlank (text : List Char) : Prop := ∀ c ∈ text, isBlank c = true

def IsWord (text : List Char) : Prop := text ≠ [] ∧ ∀ c ∈ text, isBlank c = false

-- A text in which the given parts stand in order, with white space between each
-- two of them and, where there is any, before the first and after the last.
inductive Spaced : List (List Char) → List Char → Prop
  | blank {gap : List Char} : AllBlank gap → Spaced [] gap
  | last {lead part : List Char} : AllBlank lead → Spaced [part] (lead ++ part)
  | next {lead part rest : List Char} {c : Char} {parts : List (List Char)} :
      AllBlank lead → isBlank c = true → Spaced parts rest →
      Spaced (part :: parts) (lead ++ (part ++ c :: rest))

variable {c d : Char} {text lead word rest : List Char} {parts : List (List Char)}

theorem AllBlank.cons (hc : isBlank c = true) (h : AllBlank text) : AllBlank (c :: text) :=
  List.forall_mem_cons.mpr ⟨hc, h⟩

theorem IsWord.singleton (hc : isBlank c = false) : IsWord [c] :=
  ⟨by simp, by simpa using hc⟩

theorem IsWord.cons (hc : isBlank c = false) (h : IsWord text) : IsWord (c :: text) :=
  ⟨by simp, List.forall_mem_cons.mpr ⟨hc, h.2⟩⟩

theorem words_cons_blank (hc : isBlank c = true) (text : List Char) :
    words (c :: text) = words text :=
  if_pos hc

theorem words_singleton (hc : isBlank c = false) : words [c] = [[c]] :=
  if_neg (by simp [hc])

theorem words_cons_of_end (hc : isBlank c = false) (hd : isBlank d = true) (text : List Char) :
    words (c :: d :: text) = [c] :: words (d :: text) :=
  (if_neg (by simp [hc])).trans (if_pos hd)

theorem words_cons_of_more (hc : isBlank c = false) (hd : isBlank d = false)
    (hrest : words (d :: text) = word :: parts) :
    words (c :: d :: text) = (c :: word) :: parts := by
  refine (if_neg (by simp [hc])).trans ((if_neg (by simp [hd])).trans ?_)
  rw [hrest]

theorem words_append_of_blank (h : AllBlank lead) (text : List Char) :
    words (lead ++ text) = words text := by
  induction lead with
  | nil => rfl
  | cons c lead ih =>
      obtain ⟨hc, hlead⟩ := List.forall_mem_cons.mp h
      rw [List.cons_append, words_cons_blank hc, ih hlead]

theorem words_of_blank (h : AllBlank text) : words text = [] := by
  rw [← List.append_nil text, words_append_of_blank h]
  rfl

-- A word is read whole, up to white space or to the end.
theorem words_append_of_word (h : IsWord word) (hrest : ∀ c ∈ rest.head?, isBlank c = true) :
    words (word ++ rest) = word :: words rest := by
  obtain ⟨hsome, hplain⟩ := h
  induction word with
  | nil => exact absurd rfl hsome
  | cons c word ih =>
      obtain ⟨hc, hplain⟩ := List.forall_mem_cons.mp hplain
      cases word with
      | nil =>
          cases rest with
          | nil => exact words_singleton hc
          | cons d rest => exact words_cons_of_end hc (hrest d rfl) rest
      | cons d word =>
          have htail : words (d :: (word ++ rest)) = (d :: word) :: words rest :=
            ih (by simp) hplain
          exact words_cons_of_more hc (hplain d (by simp)) htail

theorem words_of_spaced (hwords : ∀ part ∈ parts, IsWord part) (h : Spaced parts text) :
    words text = parts := by
  induction h with
  | blank hgap => exact words_of_blank hgap
  | @last lead part hlead =>
      have hpart : words (part ++ []) = [part] :=
        words_append_of_word (hwords part (by simp)) (by simp)
      rw [words_append_of_blank hlead]
      simpa using hpart
  | @next lead part rest c parts hlead hc hrest ih =>
      obtain ⟨hpart, hparts⟩ := List.forall_mem_cons.mp hwords
      rw [words_append_of_blank hlead, words_append_of_word hpart (by simpa using hc),
        words_cons_blank hc, ih hparts]

-- Every text is laid out that way.

theorem Spaced.cons_blank (hc : isBlank c = true) (h : Spaced parts text) :
    Spaced parts (c :: text) := by
  cases h with
  | blank hgap => exact .blank (hgap.cons hc)
  | last hlead => exact .last (hlead.cons hc)
  | next hlead hd hrest => exact .next (hlead.cons hc) hd hrest

-- A character in front of a text either is a word of its own there or belongs to
-- the first one.
theorem Spaced.exists_cons (hc : isBlank c = false) (h : Spaced parts text)
    (hwords : ∀ part ∈ parts, IsWord part) :
    ∃ others, (∀ part ∈ others, IsWord part) ∧ Spaced others (c :: text) := by
  have halone : AllBlank [] := by simp [AllBlank]
  have hsingle : IsWord [c] := .singleton hc
  cases h with
  | blank hgap =>
      cases text with
      | nil => exact ⟨[[c]], by simpa using hsingle, .last halone⟩
      | cons d text =>
          obtain ⟨hd, hgap⟩ := List.forall_mem_cons.mp hgap
          exact ⟨[[c]], by simpa using hsingle, .next halone hd (.blank hgap)⟩
  | @last lead part hlead =>
      cases lead with
      | nil =>
          have hpart : IsWord (c :: part) := (hwords part (by simp)).cons hc
          exact ⟨[c :: part], by simpa using hpart, .last halone⟩
      | cons d lead =>
          obtain ⟨hd, hlead⟩ := List.forall_mem_cons.mp hlead
          exact ⟨[[c], part], List.forall_mem_cons.mpr ⟨hsingle, hwords⟩,
            .next halone hd (.last hlead)⟩
  | @next lead part rest e others hlead he hrest =>
      cases lead with
      | nil =>
          obtain ⟨hpart, hothers⟩ := List.forall_mem_cons.mp hwords
          exact ⟨(c :: part) :: others, List.forall_mem_cons.mpr ⟨hpart.cons hc, hothers⟩,
            .next halone he hrest⟩
      | cons d lead =>
          obtain ⟨hd, hlead⟩ := List.forall_mem_cons.mp hlead
          exact ⟨[c] :: part :: others, List.forall_mem_cons.mpr ⟨hsingle, hwords⟩,
            .next halone hd (.next hlead he hrest)⟩

theorem exists_spaced (text : List Char) :
    ∃ parts, (∀ part ∈ parts, IsWord part) ∧ Spaced parts text := by
  induction text with
  | nil => exact ⟨[], by simp, .blank (by simp [AllBlank])⟩
  | cons c text ih =>
      obtain ⟨parts, hwords, hspaced⟩ := ih
      cases hc : isBlank c with
      | true => exact ⟨parts, hwords, hspaced.cons_blank hc⟩
      | false => exact hspaced.exists_cons hc hwords

-- The words of a text and the one way to lay words out in it.
theorem words_eq_iff :
    words text = parts ↔ (∀ part ∈ parts, IsWord part) ∧ Spaced parts text := by
  constructor
  · rintro rfl
    obtain ⟨parts, hwords, hspaced⟩ := exists_spaced text
    rw [words_of_spaced hwords hspaced]
    exact ⟨hwords, hspaced⟩
  · rintro ⟨hwords, hspaced⟩
    exact words_of_spaced hwords hspaced

-- Without its white space a text is its words in a row.
theorem flatten_words (text : List Char) :
    (words text).flatten = text.filter fun c => !isBlank c := by
  obtain ⟨hwords, hspaced⟩ := words_eq_iff.mp (Eq.refl (words text))
  generalize words text = parts at hwords hspaced
  have hblank : ∀ {gap : List Char}, AllBlank gap → gap.filter (fun c => !isBlank c) = [] := by
    intro gap hgap
    exact List.filter_eq_nil_iff.mpr fun c hc => by simp [hgap c hc]
  have hkept : ∀ {part : List Char}, IsWord part →
      part.filter (fun c => !isBlank c) = part := by
    intro part hpart
    exact List.filter_eq_self.mpr fun c hc => by simp [hpart.2 c hc]
  induction hspaced with
  | blank hgap => rw [hblank hgap, List.flatten_nil]
  | @last lead part hlead =>
      rw [List.filter_append, hblank hlead, hkept (hwords part (by simp))]
      simp
  | @next lead part rest c parts hlead hc hrest ih =>
      obtain ⟨hpart, hparts⟩ := List.forall_mem_cons.mp hwords
      rw [List.filter_append, List.filter_append, hblank hlead, hkept hpart,
        List.filter_cons_of_neg (by simpa using hc), List.flatten_cons, ih hparts, List.nil_append]

end Overseer.Text
