namespace Overseer.Wire

-- Structured data as it travels between programs, and the readers from which
-- the readers of the library's types are put together.

inductive Value
  | null
  | bool (value : Bool)
  | int (value : Int)
  | real
  | text (value : String)
  | array (items : List Value)
  | object (fields : List (String × Value))
deriving Inhabited

-- Why a value was refused. A field that is not there is told apart from
-- anything else.
inductive Refusal
  | missingField (name : String)
  | malformed
deriving DecidableEq

def Refusal.message : Refusal → Option String
  | missingField name => some ("missing field \x60" ++ name ++ "\x60")
  | malformed => none

abbrev Reader (α : Type) := Value → Except Refusal α

def readText : Reader String
  | .text value => .ok value
  | _ => .error .malformed

def readInt32 : Reader Int32
  | .int value =>
      if -2147483648 ≤ value && value ≤ 2147483647 then .ok (Int32.ofInt value)
      else .error .malformed
  | _ => .error .malformed

def readUInt32 : Reader UInt32
  | .int value =>
      if 0 ≤ value && value ≤ 4294967295 then .ok value.toNat.toUInt32 else .error .malformed
  | _ => .error .malformed

def readList (item : Reader α) : Reader (List α)
  | .array items => items.mapM item
  | _ => .error .malformed

def readNullable (item : Reader α) : Reader (Option α)
  | .null => .ok none
  | value => some <$> item value

structure Fields where
  given : List (String × Value)
  absent : String → Refusal

-- A record is an object with any fields besides its own, or an array of its
-- fields in order, which may end early but not go on.
def readFields (names : List String) : Reader Fields
  | .object fields => .ok ⟨fields, .missingField⟩
  | .array items =>
      if items.length ≤ names.length then .ok ⟨names.zip items, fun _ => .malformed⟩
      else .error .malformed
  | _ => .error .malformed

-- Reads a field if it is there. All fields are read before any is demanded,
-- so that a field of the wrong kind is told before one that is missing.
def Fields.get? (fields : Fields) (name : String) (reader : Reader α) :
    Except Refusal (Option α) :=
  match fields.given.lookup name with
  | none => .ok none
  | some value => some <$> reader value

def Fields.demand (fields : Fields) (name : String) : Option α → Except Refusal α
  | some value => .ok value
  | none => .error (fields.absent name)

def Fields.optional (fields : Fields) (name : String) :
    Option (Option α) → Except Refusal (Option α)
  | some value => .ok value
  | none =>
      match fields.absent name with
      | .missingField _ => .ok none
      | .malformed => .error .malformed

-- The name of a variant without contents: a text, or an object that gives it
-- null. Where the value was set aside before it was read (`kept`), nothing at
-- all counts as null too.
def readVariant (kept : Bool) : Reader String
  | .text name => .ok name
  | .object [(name, .null)] => .ok name
  | .object [(name, .object [])] => if kept then .ok name else .error .malformed
  | _ => .error .malformed

def choose (variants : List α) (name : α → String) (given : String) : Except Refusal α :=
  match variants.find? fun variant => name variant = given with
  | some variant => .ok variant
  | none => .error .malformed

structure Tagged where
  tag : String
  content : Option Value
  kept : Bool

-- What stands first in an array must be a variant's name as a text. Where the
-- value was set aside, the variant's place among its fellows names it as well.
def readLeading (variants : List String) (kept : Bool) : Reader String
  | .text name => .ok name
  | .int place =>
      match kept && 0 ≤ place, variants[place.toNat]? with
      | true, some name => .ok name
      | _, _ => .error .malformed
  | _ => .error .malformed

-- Written as an object with a field for each, or as an array of the two. More
-- elements than that are noticed only once the contents have been read.
def readTagged (tagKey contentKey : String) (variants : List String) (kept : Bool)
    (body : Tagged → Except Refusal α) : Reader α
  | .object fields =>
      match fields.lookup tagKey with
      | none => .error (.missingField tagKey)
      | some tag => do
          let tag ← readVariant kept tag
          body ⟨tag, fields.lookup contentKey, true⟩
  | .array (tag :: content :: further) => do
      let tag ← readLeading variants kept tag
      let value ← body ⟨tag, some content, kept⟩
      if further.isEmpty then pure value else throw .malformed
  | _ => .error .malformed

-- A variant's contents may be left out only where there are none to give.
def Tagged.demand (tagged : Tagged) (contentKey : String) : Except Refusal Value :=
  match tagged.content with
  | some content => .ok content
  | none => .error (.missingField contentKey)

def readContents : Reader Fields
  | .object fields => .ok ⟨fields, .missingField⟩
  | _ => .error .malformed

end Overseer.Wire
