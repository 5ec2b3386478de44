namespace Overseer

structure Exit where
  code : Option Int32
  signal : Option Int32
deriving DecidableEq

namespace Exit

def ofCode (code : Int32) : Exit := ⟨some code, none⟩

def ofSignal (signal : Int32) : Exit := ⟨none, some signal⟩

def unknown : Exit := ⟨none, none⟩

def success (exit : Exit) : Bool := exit.code = some 0

def describe (exit : Exit) : String :=
  match exit.code, exit.signal with
  | some code, _ => "exit code " ++ toString code.toInt
  | none, some signal => "killed by signal " ++ toString signal.toInt
  | none, none => "exit status unknown"

def ofWaitStatus (status : UInt32) : Exit :=
  let low := status &&& 0x7F
  { code := if low = 0 then some ((status >>> 8) &&& 0xFF).toInt32 else none
    signal := if low = 0 || low = 0x7F then none else some low.toInt32 }

end Exit

end Overseer
