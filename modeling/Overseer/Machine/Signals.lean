import Overseer.Exit

namespace Overseer.Machine

-- The signals of the system, and how processes end.

def commonNames : List String :=
  ["HUP", "INT", "QUIT", "ILL", "TRAP", "ABRT", "BUS", "FPE", "KILL", "USR1", "SEGV", "USR2",
    "PIPE", "ALRM", "TERM", "16", "CHLD", "CONT", "STOP", "TSTP", "TTIN", "TTOU", "URG", "XCPU",
    "XFSZ", "VTALRM", "PROF", "WINCH", "IO", "PWR", "SYS", "32", "33"]

def commonMeanings : List String :=
  ["Hangup", "Interrupt", "Quit", "Illegal instruction", "Trace/breakpoint trap", "Aborted",
    "Bus error", "Floating point exception", "Killed", "User defined signal 1",
    "Segmentation fault", "User defined signal 2", "Broken pipe", "Alarm clock", "Terminated",
    "Stack fault", "Child exited", "Continued", "Stopped (signal)", "Stopped",
    "Stopped (tty input)", "Stopped (tty output)", "Urgent I/O condition",
    "CPU time limit exceeded", "File size limit exceeded", "Virtual timer expired",
    "Profiling timer expired", "Window changed", "I/O possible", "Power failure",
    "Bad system call"]

def firstFree : Nat := 34

def lastSignal : Nat := 64

-- The free signals are named by how far they are from the nearer end.
def signalName (number : Nat) : String :=
  if number < firstFree then (commonNames[number - 1]?).getD ""
  else
    let above := number - firstFree
    let below := lastSignal - number
    if above = 0 then "RTMIN"
    else if below = 0 then "RTMAX"
    else if above ≤ below then "RTMIN+" ++ toString above
    else "RTMAX-" ++ toString below

def signalNumbers : List Nat := (List.range (lastSignal + 1)).drop 1

def meaning (number : Nat) : String :=
  match commonMeanings[number - 1]? with
  | some text => text
  | none =>
      if number < firstFree then "Unknown signal " ++ toString number
      else "Real-time signal " ++ toString (number - firstFree)

def interrupt : Nat := 2
def quit : Nat := 3
def busError : Nat := 7
def kill : Nat := 9
def segmentationFault : Nat := 11
def brokenPipe : Nat := 13
def terminate : Nat := 15
def childEnded : Nat := 17
def continued : Nat := 18
def stop : Nat := 19

def keyboard : List Nat := [interrupt, quit]

def signalNumber? (text : String) : Option Nat :=
  if text.all Char.isDigit then text.toNat?.filter (· ≤ lastSignal)
  else signalNumbers.find? fun number => signalName number = text.toUpper

def harmless : List Nat := [17, 18, 23, 28]

def holding : List Nat := [19, 20, 21, 22]

inductive Ending
  | code (value : Nat)
  | signal (number : Nat)
deriving DecidableEq

namespace Ending

def exited (value : Nat) : Ending := .code (value % 256)

def exit : Ending → Exit
  | code value => ⟨some (Int32.ofNat value), none⟩
  | signal number => ⟨none, some (Int32.ofNat number)⟩

def status : Ending → Nat
  | code value => value
  | signal number => 128 + number

end Ending

end Overseer.Machine
