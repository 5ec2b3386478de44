import Mathlib.Data.List.Basic
import Overseer.Wire.Value

namespace Overseer.Wire

variable {α β : Type}

-- What is written is read as what it was, in whichever spelling, and whatever is
-- read can be written and comes back the same.

-- An object has all of these fields, wherever they stand in it.
def Has (given fields : List (String × Value)) : Prop :=
  ∀ field ∈ fields, given.lookup field.1 = some field.2

-- What is written as fields is read from every object that has them, and from
-- an array of their values.
structure Spelled (read : Reader α) (x : α) (fields : List (String × Value)) : Prop where
  own : Has fields fields
  object : ∀ given, Has given fields → read (.object given) = .ok x
  array : read (.array (fields.map Prod.snd)) = .ok x

-- The written form of the values of a type and its reader. Not every value can
-- be written, but every value that is read can.
structure Faithful (write : α → Option Value) (read : Reader α) (writable : α → Prop) : Prop where
  written : ∀ x, (∃ value, write x = some value) ↔ writable x
  returned : ∀ x value, write x = some value → read value = .ok x
  distinct : ∀ x y, writable x → write x = write y → x = y
  -- A variant without contents is the only object of one field.
  spelled : ∀ x fields, write x = some (.object fields) → 1 < fields.length → Spelled read x fields
  settled : ∀ value x, read value = .ok x →
    ∃ form, write x = some form ∧ read form = .ok x ∧
      ∀ again, read form = .ok again → write again = some form

theorem Faithful.of_returned {write : α → Option Value} {read : Reader α} {writable : α → Prop}
    (hwritten : ∀ x, (∃ value, write x = some value) ↔ writable x)
    (hreturned : ∀ x value, write x = some value → read value = .ok x)
    (hspelled : ∀ x fields, write x = some (.object fields) → 1 < fields.length →
      Spelled read x fields)
    (hread : ∀ value x, read value = .ok x → writable x) : Faithful write read writable where
  written := hwritten
  returned := hreturned
  distinct := by
    intro x y hx hsame
    obtain ⟨value, hvalue⟩ := (hwritten x).mpr hx
    have hleft := hreturned x value hvalue
    have hright := hreturned y value (hsame ▸ hvalue)
    exact Except.ok.inj (hleft.symm.trans hright)
  spelled := hspelled
  settled := by
    intro value x hvalue
    obtain ⟨form, hform⟩ := (hwritten x).mpr (hread value x hvalue)
    have hback := hreturned x form hform
    refine ⟨form, hform, hback, fun again hagain => ?_⟩
    obtain rfl := Except.ok.inj (hback.symm.trans hagain)
    exact hform

-- Values that can all be written.
theorem Faithful.of_total {write : α → Value} {read : Reader α}
    (hreturned : ∀ x, read (write x) = .ok x)
    (hspelled : ∀ x fields, write x = .object fields → Spelled read x fields) :
    Faithful (fun x => some (write x)) read fun _ => True :=
  .of_returned (fun x => ⟨fun _ => trivial, fun _ => ⟨write x, rfl⟩⟩)
    (fun x _ hvalue => Option.some.inj hvalue ▸ hreturned x)
    (fun x fields hvalue _ => hspelled x fields (Option.some.inj hvalue))
    fun _ _ _ => trivial

-- Values that are all written as objects.
theorem Faithful.of_objects {write : α → Value} {read : Reader α}
    (h : ∀ x, ∃ fields, write x = .object fields ∧ Spelled read x fields) :
    Faithful (fun x => some (write x)) read fun _ => True := by
  refine .of_total (fun x => ?_) fun x other hother => ?_
  · obtain ⟨fields, hfields, hspelled⟩ := h x
    rw [hfields]
    exact hspelled.object fields hspelled.own
  · obtain ⟨fields, hfields, hspelled⟩ := h x
    obtain rfl := Value.object.inj (hfields.symm.trans hother)
    exact hspelled

-- A record is read by its fields, from an object or from an array.
theorem Spelled.of_record (names : List String) {read : Reader α} {x : α}
    {written : List (String × Value)} (hnames : names = written.map Prod.fst)
    (hown : Has written written)
    (hread : ∀ value fields, readFields names value = .ok fields → Has fields.given written →
      read value = .ok x) : Spelled read x written where
  own := hown
  object := fun given hgiven => hread _ ⟨given, .missingField⟩ rfl hgiven
  array := by
    subst hnames
    have hzip : (written.map Prod.fst).zip (written.map Prod.snd) = written :=
      (List.zip_of_prod rfl rfl).symm
    refine hread _ ⟨written, fun _ => .malformed⟩ ?_ hown
    rw [readFields, if_pos (by simp), hzip]

-- The contents of a variant may be set aside until its name is known.
theorem Spelled.of_tagged {tagKey contentKey tag : String} {variants : List String} {kept : Bool}
    {body : Tagged → Except Refusal α} {content : Value} {x : α} (hkeys : contentKey ≠ tagKey)
    (hbody : ∀ kept, body ⟨tag, some content, kept⟩ = .ok x) :
    Spelled (readTagged tagKey contentKey variants kept body) x
      [(tagKey, .text tag), (contentKey, content)] where
  own := by
    have hother : (contentKey == tagKey) = false := beq_false_of_ne hkeys
    simp [Has, List.lookup_cons, hother]
  object := by
    intro given hgiven
    have htag : given.lookup tagKey = some (.text tag) := hgiven (tagKey, .text tag) (by simp)
    have hcontent : given.lookup contentKey = some content :=
      hgiven (contentKey, content) (by simp)
    rw [readTagged, htag]
    show body ⟨tag, given.lookup contentKey, true⟩ = _
    rw [hcontent]
    exact hbody true
  array := by
    show (body ⟨tag, some content, kept⟩ >>= fun value => pure value) = _
    rw [hbody]
    rfl

theorem readInt32_write (n : Int32) : readInt32 (.int n.toInt) = .ok n := by
  have hlow := n.le_toInt
  have hhigh := n.toInt_le
  have hmax : Int32.maxValue.toInt = 2147483647 := by decide
  rw [readInt32, if_pos (by simp; omega), Int32.ofInt_toInt]

theorem readUInt32_write (n : UInt32) : readUInt32 (.int n.toNat) = .ok n := by
  have hhigh := n.toNat_lt
  rw [readUInt32, if_pos (by simp; omega)]
  simp

theorem readList_write (texts : List String) :
    readList readText (.array (texts.map .text)) = .ok texts := by
  have hitems : (texts.map Value.text).mapM readText = .ok texts := by
    induction texts with
    | nil => rfl
    | cons text texts ih =>
        rw [List.map_cons, List.mapM_cons, ih]
        rfl
  exact hitems

def nullable : Option Int32 → Value
  | some n => .int n.toInt
  | none => .null

theorem readNullable_write (n : Option Int32) :
    readNullable readInt32 (nullable n) = .ok n := by
  cases n with
  | none => rfl
  | some n =>
      show some <$> readInt32 (.int n.toInt) = .ok (some n)
      rw [readInt32_write]
      rfl

theorem Fields.get?_of_given {fields : Fields} {name : String} {reader : Reader α} {value : Value}
    {x : α} (hgiven : fields.given.lookup name = some value) (hvalue : reader value = .ok x) :
    fields.get? name reader = .ok (some x) := by
  rw [Fields.get?, hgiven]
  show some <$> reader value = _
  rw [hvalue]
  rfl

theorem Fields.get?_of_absent {fields : Fields} {name : String} {reader : Reader α}
    (h : fields.given.lookup name = none) : fields.get? name reader = .ok none := by
  rw [Fields.get?, h]

-- Everything that a reading may give has a property.
def Gives (P : α → Prop) (result : Except Refusal α) : Prop := ∀ x, result = .ok x → P x

section Gives

variable {P : α → Prop} {Q : β → Prop}

theorem gives_pure {x : α} (h : P x) : Gives P (pure x) := by
  rintro _ ⟨⟩
  exact h

theorem gives_throw (refusal : Refusal) : Gives P (throw refusal) := nofun

theorem Gives.bind {result : Except Refusal α} (h : Gives P result)
    {next : α → Except Refusal β} (hnext : ∀ x, P x → Gives Q (next x)) :
    Gives Q (result >>= next) := by
  cases result with
  | error refusal => exact nofun
  | ok x => exact hnext x (h x rfl)

theorem gives_any (result : Except Refusal α) : Gives (fun _ => True) result :=
  fun _ _ => trivial

theorem gives_get? {reader : Reader α} (h : ∀ value, Gives P (reader value)) (fields : Fields)
    (name : String) : Gives (fun x? => ∀ x, x? = some x → P x) (fields.get? name reader) := by
  rw [Fields.get?]
  split
  · rintro _ ⟨⟩ x ⟨⟩
  · rename_i value _
    cases hread : reader value with
    | error refusal => exact nofun
    | ok x =>
        rintro _ ⟨⟩ _ ⟨⟩
        exact h value x hread

theorem gives_demand {x? : Option α} (h : ∀ x, x? = some x → P x) (fields : Fields)
    (name : String) : Gives P (fields.demand name x?) := by
  cases x? with
  | none => exact nofun
  | some x =>
      rintro _ ⟨⟩
      exact h x rfl

theorem gives_readTagged {tagKey contentKey : String} {variants : List String} {kept : Bool}
    {body : Tagged → Except Refusal α} (h : ∀ tagged, Gives P (body tagged)) (value : Value) :
    Gives P (readTagged tagKey contentKey variants kept body value) := by
  unfold readTagged
  split
  · split
    · exact nofun
    · exact (gives_any _).bind fun tag _ => h _
  · refine (gives_any _).bind fun tag _ => (h _).bind fun x hx => ?_
    split
    · exact gives_pure hx
    · exact gives_throw _
  · exact nofun

end Gives

end Overseer.Wire
