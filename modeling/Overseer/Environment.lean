import Overseer.Text.Utf8

namespace Overseer

open Overseer.Text

structure Environment where
  entries : List (String × List UInt8)

namespace Environment

-- A value that is no text counts as unset.
def text? (environment : Environment) (name : String) : Option String :=
  (environment.entries.lookup name).bind Utf8.strict

def flag (environment : Environment) (name : String) : Bool :=
  match environment.text? name with
  | some value => value = "1" || value = "true"
  | none => false

end Environment

end Overseer
