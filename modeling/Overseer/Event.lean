namespace Overseer

inductive State
  | stopped
  | starting
  | running
  -- Termination was requested and the exit is not reported yet.
  | stopping
deriving DecidableEq

namespace State

def isActive (state : State) : Bool := state ≠ .stopped

def all : List State := [.stopped, .starting, .running, .stopping]

def label : State → String
  | .stopped => "Stopped"
  | .starting => "Starting"
  | .running => "Running"
  | .stopping => "Stopping"

end State

inductive Source
  | stdout
  | stderr
  | supervisor
deriving DecidableEq

namespace Source

def all : List Source := [.stdout, .stderr, .supervisor]

def label : Source → String
  | .stdout => "Stdout"
  | .stderr => "Stderr"
  | .supervisor => "Supervisor"

def name : Source → String
  | .stdout => "stdout"
  | .stderr => "stderr"
  | .supervisor => "supervisor"

end Source

structure Line where
  source : Source
  text : String
deriving DecidableEq

inductive Event
  | output (line : Line)
  | stateChanged (state : State)
deriving DecidableEq

inductive Signal
  | graceful
  | force
deriving DecidableEq

def Signal.number : Signal → Nat
  | .graceful => 15
  | .force => 9

end Overseer
