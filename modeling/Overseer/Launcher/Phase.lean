import Overseer.Event
import Overseer.Fault
import Overseer.Log.Entry
import Overseer.Options

namespace Overseer.Launcher

open Overseer.Log

-- The launcher's own part: it starts a server and waits for interrupts and for
-- news of the server's state, whichever comes first. The first interrupt stops
-- the server and every further one kills it; the launcher is done once it
-- hears that the server has stopped.

inductive Phase
  | serving
  | stopping
  | over
deriving DecidableEq

inductive Wake
  | interrupted
  | heard (state : State)
  | abandoned
deriving DecidableEq

structure Turn where
  phase : Phase
  request : Option Signal
  log : List Entry

def line (level : Level) (message : String) (fields : LogFields) : Entry :=
  ⟨level, message, fields, none⟩

def startingLine (options : Options) : Entry :=
  line .info "DHFS launcher starting"
    [("runtime_home", .text options.runtimeHome), ("payload", .text options.payloadPath),
      ("memory", .text options.memoryLimit)]

def precheckLine : Entry := line .info "Runtime precheck enabled" []

def startedLine : Entry := line .info "Press Ctrl+C to stop the server" []

def readyLine : Entry := line .info "Server is ready" [("pid", .varying)]

def changedLine (state : State) : Entry :=
  line .info "Server state changed" [("state", .text state.label)]

def stoppingLine : Entry := line .info "Interrupt received, stopping server" []

def killingLine : Entry := line .warn "Second interrupt, killing server" []

def exitedLine : Entry := line .warn "Server exited on its own" []

def leavingLine : Entry := line .info "DHFS launcher exiting" []

def Phase.turn : Phase → Wake → Turn
  | .serving, .interrupted => ⟨.stopping, some .graceful, [stoppingLine]⟩
  | .serving, .heard .stopped => ⟨.over, none, [exitedLine]⟩
  | .serving, .heard .running => ⟨.serving, none, [readyLine]⟩
  | .serving, .heard state => ⟨.serving, none, [changedLine state]⟩
  | .serving, .abandoned => ⟨.over, none, [exitedLine]⟩
  | .stopping, .interrupted => ⟨.stopping, some .force, [killingLine]⟩
  | .stopping, .heard .stopped => ⟨.over, none, [leavingLine]⟩
  | .stopping, .heard _ => ⟨.stopping, none, []⟩
  | .stopping, .abandoned => ⟨.over, none, [leavingLine]⟩
  | .over, _ => ⟨.over, none, []⟩

def report (fault : Fault) : String :=
  "Error: " ++ fault.code ++ "\n\n  × " ++ fault.message ++ "\n" ++
    match fault.help with
    | some help => "  help: " ++ help ++ "\n"
    | none => ""

def wantsPrecheck (environment : Environment) : Bool :=
  environment.flag "LAUNCHER_RUNTIME_PRECHECK"

end Overseer.Launcher
