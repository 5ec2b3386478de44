namespace Overseer.Log

inductive Level
  | error
  | warn
  | info
  | debug
  | trace
deriving DecidableEq

namespace Level

def label : Level → String
  | error => "ERROR"
  | warn => "WARN"
  | info => "INFO"
  | debug => "DEBUG"
  | trace => "TRACE"

def rank : Level → Nat
  | error => 1
  | warn => 2
  | info => 3
  | debug => 4
  | trace => 5

end Level

-- Values that differ from one execution to the next are only known to be
-- there.
inductive FieldValue
  | number (value : Nat)
  | text (value : String)
  | truth (value : Bool)
  | varying
deriving DecidableEq

abbrev LogFields := List (String × FieldValue)

structure Entry where
  level : Level
  message : String
  fields : LogFields
  span : Option LogFields
deriving DecidableEq

end Overseer.Log
