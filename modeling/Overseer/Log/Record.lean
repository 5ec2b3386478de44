import Overseer.Fault

namespace Overseer.Log

structure RunRecord where
  id : Nat
  pid : Option Pid
  exit : Option String
deriving DecidableEq

def RunRecord.new (id : Nat) : RunRecord := ⟨id, none, none⟩

end Overseer.Log
