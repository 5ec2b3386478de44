import Overseer.Path

namespace Overseer.Path

-- Components of joined paths. Joining adds the pieces of what is joined to the
-- components of the directory, so spellings of one directory give spellings of
-- one place.

variable {directory path : Path}

def parse (absolute : Bool) : List (List UInt8) → List Component
  | [] => []
  | first :: rest => (leading? absolute first).toList ++ rest.filterMap component?

theorem components_eq (path : Path) :
    path.components =
      (if path.isAbsolute then [Component.root] else []) ++
        parse path.isAbsolute (pieces path.bytes) := by
  cases hpieces : pieces path.bytes <;> simp [components, parse, hpieces]

theorem pieces_ne_nil (bytes : List UInt8) : pieces bytes ≠ [] := by
  cases bytes with
  | nil => simp [pieces]
  | cons byte bytes =>
      simp only [pieces]
      split
      · simp
      · split <;> simp

theorem pieces_append (front rest : List UInt8) :
    pieces (front ++ slash :: rest) = pieces front ++ pieces rest := by
  induction front with
  | nil => simp [pieces]
  | cons byte front ih =>
      simp only [List.cons_append, pieces, ih]
      by_cases hslash : byte = slash
      · simp [hslash]
      · cases hfront : pieces front with
        | nil => exact absurd hfront (pieces_ne_nil front)
        | cons piece pieces => simp [hslash]

theorem parse_append (absolute : Bool) {front : List (List UInt8)} (hfront : front ≠ [])
    (rest : List (List UInt8)) :
    parse absolute (front ++ rest) = parse absolute front ++ rest.filterMap component? := by
  cases front with
  | nil => exact absurd rfl hfront
  | cons first front => simp [parse]

theorem isAbsolute_append (front rest : List UInt8) :
    isAbsolute ⟨front ++ slash :: rest⟩ = isAbsolute ⟨front ++ [slash]⟩ := by
  cases front <;> rfl

-- What follows a slash has no say in how the path begins.
theorem components_append (front rest : List UInt8) :
    components ⟨front ++ slash :: rest⟩ =
      components ⟨front ++ [slash]⟩ ++ (pieces rest).filterMap component? := by
  have hparse : ∀ absolute, parse absolute (pieces (front ++ slash :: rest)) =
      parse absolute (pieces (front ++ [slash])) ++ (pieces rest).filterMap component? := by
    intro absolute
    rw [pieces_append, pieces_append, parse_append _ (pieces_ne_nil front),
      parse_append _ (pieces_ne_nil front)]
    simp [pieces, component?]
  rw [components_eq, components_eq, isAbsolute_append, hparse, List.append_assoc]

theorem components_closed (h : directory.bytes ≠ []) :
    components ⟨directory.bytes ++ [slash]⟩ = directory.components := by
  have habsolute : isAbsolute ⟨directory.bytes ++ [slash]⟩ = directory.isAbsolute := by
    obtain ⟨byte, rest, hbytes⟩ := List.exists_cons_of_ne_nil h
    simp [isAbsolute, hbytes]
  rw [components_eq, components_eq, habsolute, pieces_append,
    parse_append _ (pieces_ne_nil directory.bytes)]
  simp [pieces, component?]

theorem join_of_absolute (h : path.isAbsolute = true) : directory.join path = path := by
  simp [join, h]

theorem join_ne_right (hdirectory : directory.bytes ≠ []) (hpath : path.isAbsolute = false) :
    directory.join path ≠ path := by
  intro heq
  have hlength := congrArg (fun joined : Path => joined.bytes.length) heq
  have hpositive := List.length_pos_iff.mpr hdirectory
  simp only [join, hpath, List.getLast?_eq_some_getLast hdirectory, Bool.false_eq_true,
    if_false] at hlength
  split at hlength <;> simp only [List.length_append, List.length_cons] at hlength <;> omega

theorem components_join (hdirectory : directory.bytes ≠ []) (hpath : path.isAbsolute = false) :
    (directory.join path).components =
      directory.components ++ (pieces path.bytes).filterMap component? := by
  have hlast := List.getLast?_eq_some_getLast hdirectory
  rw [← components_closed hdirectory, ← components_append]
  simp only [join, hpath, hlast]
  by_cases hslash : directory.bytes.getLast hdirectory = slash
  · -- The directory has a closing slash of its own, and a second one says nothing.
    obtain ⟨front, hfront⟩ : ∃ front, directory.bytes = front ++ [slash] :=
      ⟨_, by rw [← hslash, List.dropLast_concat_getLast hdirectory]⟩
    rw [if_neg Bool.false_ne_true, if_pos hslash, hfront, List.append_assoc, List.append_assoc,
      List.singleton_append, List.singleton_append, components_append front path.bytes,
      components_append front (slash :: path.bytes)]
    simp [pieces, component?]
  · rw [if_neg Bool.false_ne_true, if_neg hslash]

theorem component?_eq_none_iff (piece : List UInt8) :
    component? piece = none ↔ piece = [] ∨ piece = [dot] := by
  unfold component?
  grind

theorem leading?_ne_none {piece : List UInt8} (h : piece ≠ []) : leading? false piece ≠ none := by
  unfold leading?
  by_cases hdot : piece = [dot]
  · simp [hdot]
  · simp [hdot, h, component?_eq_none_iff]

-- Only the empty path has no components.
theorem components_eq_nil_iff (path : Path) : path.components = [] ↔ path.bytes = [] := by
  obtain ⟨bytes⟩ := path
  constructor
  · intro hnil
    cases bytes with
    | nil => rfl
    | cons byte bytes =>
        by_cases hslash : byte = slash
        · simp [components_eq, isAbsolute, hslash] at hnil
        · obtain ⟨piece, rest, hpieces⟩ :
              ∃ piece rest, pieces (byte :: bytes) = (byte :: piece) :: rest := by
            cases hrest : pieces bytes <;> simp [pieces, hslash, hrest]
          have hrelative : isAbsolute ⟨byte :: bytes⟩ = false := by simp [isAbsolute, hslash]
          have hsome := leading?_ne_none (List.cons_ne_nil byte piece)
          simp [components_eq, hrelative, hpieces, parse, hsome] at hnil
  · rintro rfl
    rfl

theorem same_iff (a b : Path) : a.same b = true ↔ a.components = b.components := by
  simp [same]

theorem bytes_eq_nil_iff_of_components {a b : Path} (h : a.components = b.components) :
    a.bytes = [] ↔ b.bytes = [] := by
  rw [← components_eq_nil_iff, ← components_eq_nil_iff, h]

theorem components_eq_iff (a b : Path) :
    a.components = b.components ↔
      a.bytes = [] ∧ b.bytes = [] ∨
        a.bytes ≠ [] ∧ b.bytes ≠ [] ∧ a.components = b.components := by
  simp only [ne_eq, ← components_eq_nil_iff]
  grind

theorem bytes_ofText_eq_nil_iff (text : String) : (ofText text).bytes = [] ↔ text = "" := by
  simp [ofText, Text.Utf8.encode, String.utf8EncodeChar_ne_nil,
    ← List.eq_nil_iff_forall_not_mem]

-- From two spellings of one directory a path leads to one place.
theorem components_join_congr {a b : Path} (h : a.components = b.components) (path : Path) :
    (a.join path).components = (b.join path).components := by
  cases habsolute : path.isAbsolute with
  | true => rw [join_of_absolute habsolute, join_of_absolute habsolute]
  | false =>
      by_cases hempty : a.bytes = []
      · have hb : b.bytes = [] := (bytes_eq_nil_iff_of_components h).mp hempty
        simp [join, habsolute, hempty, hb]
      · have hb : b.bytes ≠ [] := mt (bytes_eq_nil_iff_of_components h).mpr hempty
        rw [components_join hempty habsolute, components_join hb habsolute, h]

-- And from two directories a relative path leads to two places.
theorem components_of_join_eq {a b : Path} (ha : a.bytes ≠ []) (hb : b.bytes ≠ [])
    (hpath : path.isAbsolute = false)
    (h : (a.join path).components = (b.join path).components) : a.components = b.components := by
  rw [components_join ha hpath, components_join hb hpath] at h
  exact List.append_cancel_right h

end Overseer.Path
