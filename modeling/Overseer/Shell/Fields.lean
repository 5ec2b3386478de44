import Overseer.Shell.Expansion

namespace Overseer.Shell

open Overseer.Text

-- From words to the arguments of commands. What is not quoted is cut into
-- fields, which may still stand for the names of files.

abbrev Field := List Mark

def marked (active : Bool) (bytes : Bytes) : Field := bytes.map fun byte => ⟨byte, active⟩

def Field.text (field : Field) : Bytes := field.map Mark.byte

-- Fields while they are put together; the last one may still grow.
structure Fields where
  done : List Field
  current : Option Field

namespace Fields

def empty : Fields := ⟨[], none⟩

def add (fields : Fields) (field : Field) : Fields :=
  { fields with current := some (fields.current.getD [] ++ field) }

def addBytes (fields : Fields) (active : Bool) (bytes : Bytes) : Fields :=
  fields.add (marked active bytes)

def cut (fields : Fields) : Fields :=
  match fields.current with
  | none => fields
  | some field => ⟨fields.done ++ [field], none⟩

def isBlank (byte : UInt8) : Bool := byte = 32 || byte = 9 || byte = 10

-- Adds a text that separators cut into fields. Between two of those that are
-- not blank there is a field, even an empty one.
def split (separators : Bytes) (fields : Fields) (bytes : Bytes) : Fields :=
  bytes.foldl
    (fun fields byte =>
      if !separators.contains byte then fields.add [⟨byte, true⟩]
      else if isBlank byte then fields.cut
      else (fields.add []).cut)
    fields

def several (fields : Fields) : List Bytes → Fields
  | [] => fields
  | [last] => fields.addBytes false last
  | first :: rest => (fields.addBytes false first).cut.several rest

def finish (fields : Fields) : List Field := fields.cut.done

end Fields

def addText (quoted : Bool) (fields : Fields) (bytes : Bytes) : Expanding Fields := do
  if quoted then pure (fields.addBytes false bytes)
  else pure (fields.split (← get).separators bytes)

-- The operand that takes a parameter's place is split like a value.
def addOperand (fields : Fields) : List Piece → Expanding Fields
  | [] => pure fields
  | piece :: rest => do
      addOperand (← addText piece.isQuoted fields (← piece.expand)) rest

def Piece.addTo (fields : Fields) (piece : Piece) : Expanding Fields := do
  match piece with
  | .text bytes quoted => pure (fields.addBytes (!quoted) bytes)
  | .parameter "@" .value _ true => pure (fields.several (← get).arguments)
  | .parameter "@" .value _ false | .parameter "*" .value _ false =>
      let scope ← get
      pure (scope.arguments.foldl
        (fun fields argument => (fields.split scope.separators argument).cut) fields)
  | .parameter name (.fallback evenEmpty) operand false =>
      if isMissing evenEmpty ((← get).lookup? name) then addOperand fields operand
      else addText false fields (← piece.expand)
  | .parameter name (.instead evenEmpty) operand false =>
      if isMissing evenEmpty ((← get).lookup? name) then pure fields
      else addOperand fields operand
  | piece => addText piece.isQuoted fields (← piece.expand)

def addWord (fields : Fields) : List Piece → Expanding Fields
  | [] => pure fields
  | piece :: rest => do addWord (← piece.addTo fields) rest

def expandWords : List Word → Expanding (List Field)
  | [] => pure []
  | word :: rest => do
      let fields ← addWord .empty word
      pure (fields.finish ++ (← expandWords rest))

def expandAssigned : List Word → Expanding (List Field)
  | [] => pure []
  | word :: rest => do
      let fields ← match assignment? word with
        | some (name, value) => do
            pure [marked false (Utf8.encode name ++ 61 :: (← expandPieces value))]
        | none => do pure (← addWord .empty word).finish
      pure (fields ++ (← expandAssigned rest))

-- A command with its arguments. Once its name is known it is known whether its
-- arguments assign.
def expandCommand : List Word → Expanding (List Field)
  | [] => pure []
  | word :: rest => do
      let fields := (← addWord .empty word).finish
      match fields.head?.map fun name => Utf8.text name.text with
      | none => expandCommand rest
      | some "alias" | some "export" => pure (fields ++ (← expandAssigned rest))
      | some _ => pure (fields ++ (← expandWords rest))

-- Assignments take effect one after the other, and no fields are made there.
def assignAll : List (String × Word) → Expanding Unit
  | [] => pure ()
  | (name, word) :: rest => do
      assign name (← expandPieces word)
      assignAll rest

end Overseer.Shell
