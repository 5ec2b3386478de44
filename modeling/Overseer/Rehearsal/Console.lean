import Overseer.Launcher.Phase
import Overseer.Output.Scanner
import Overseer.Rehearsal.Live

namespace Overseer.Rehearsal

open Overseer.Launcher
open Overseer.Machine
open Overseer.Output
open Overseer.Text

-- The launcher at work in a directory of its own, with a script in the place
-- of the server.

structure ConsolePlan where
  home : String
  environment : Environment
  logged : Bool
  script : Option String
  library : Option (List UInt8)
  interrupts : List (List String)

structure ConsoleRun where
  live : Live
  phase : Phase
  received : Nat
  log : List Log.Entry

structure ConsoleResult where
  died : Option Nat
  fault : Option Fault
  events : List Event
  log : List Log.Entry
  interrupts : List Bool

namespace ConsoleRun

def directories (path : List UInt8) : List (List UInt8) :=
  (List.range (path.length + 1)).filterMap fun size =>
    if size = path.length || path[size]? = some Path.slash then some (path.take size) else none

-- What the server finds set as well: nothing is to be coloured, and what is to
-- be logged is said.
def settings (logged : Bool) : List (String × List UInt8) :=
  ("NO_COLOR", Utf8.encode "1") ::
    if logged then
      [("LAUNCHER_TRACE_JSON", Utf8.encode "1"), ("RUST_LOG", Utf8.encode "launcher=info")]
    else [("RUST_LOG", Utf8.encode "off")]

def files (plan : ConsolePlan) : Files :=
  let own := ["/bin", "/lib/server"].flatMap fun directory =>
    directories (Utf8.encode (plan.home ++ directory))
  let files := { Files.standard with
    entries := Files.standard.entries ++ own.eraseDups.map fun path => (path, Entry.directory)
    environment := settings plan.logged ++ plan.environment.entries }
  let content (script : String) : List UInt8 := Utf8.encode ("#!/bin/sh\n" ++ script)
  let installed := [("/bin/java", plan.script.map content, true),
    ("/lib/server/libjvm.so", plan.library, false)]
  installed.foldl
    (fun files (path, content, executable) =>
      match content with
      | some content => (files.create (Utf8.encode (plan.home ++ path)) content executable).2
      | none => files)
    files

-- The signal of which the launcher dies when it loads the runtime, if it does.
def fatalSignal? (files : Files) (options : Options) : Option Nat :=
  let loader := (Loader.new .standard).setHome (Path.ofText options.runtimeHome)
  match loader.libraryPath with
  | .error _ => none
  | .ok path =>
      match loading files path loader.layout.symbol with
      | .deadly signal => some signal
      | _ => none

def states (run : ConsoleRun) : List State :=
  run.live.events.filterMap fun event =>
    match event with
    | .stateChanged state => some state
    | .output _ => none

def wake (run : ConsoleRun) (wake : Wake) : ConsoleRun :=
  let turn := run.phase.turn wake
  let live := match turn.request with
    | some signal => run.live.request signal
    | none => run.live
  { run with live, phase := turn.phase, log := run.log ++ turn.log }

def hear (run : ConsoleRun) : ConsoleRun :=
  (run.states.drop run.received).foldl
    (fun run state =>
      if run.phase = .over then run
      else { run.wake (.heard state) with received := run.received + 1 })
    run

def pass (limit : Nat) (run : ConsoleRun) : ConsoleRun :=
  { run with live := run.live.pass limit }.hear

def passUntil (limit : Nat) (isDone : ConsoleRun → Bool) : Nat → ConsoleRun → ConsoleRun
  | 0, run => run
  | fuel + 1, run =>
      if isDone run || run.phase = .over || limit ≤ run.live.machine.clock then run
      else passUntil limit isDone fuel (run.pass limit)

def waitFor (time : Nat) (isDone : ConsoleRun → Bool) (run : ConsoleRun) : ConsoleRun :=
  passUntil (run.live.machine.clock + time) isDone (time + 1) run

def printed (events : List Event) : List UInt8 :=
  Utf8.encode (String.join (events.filterMap fun event =>
    match event with
    | .output line => if line.source = .stderr then none else some line.text
    | .stateChanged _ => none))

def shows (run : ConsoleRun) (text : String) : Bool :=
  occurs (Utf8.encode text) (printed run.live.events) ||
    run.log.any fun entry => occurs (Utf8.encode text) (Utf8.encode entry.message)

-- Sends the interrupts, each when its time has come.
def interrupt (run : ConsoleRun) : List (List String) → List Bool × ConsoleRun
  | [] => ([], run)
  | texts :: rest =>
      let run := run.waitFor (3 * Live.patience) fun run => texts.all run.shows
      let seen := run.phase ≠ .over && texts.all run.shows
      let run := run.waitFor Live.moment fun _ => false
      let run := if seen then run.wake .interrupted else run
      let (sent, run) := run.interrupt rest
      (seen :: sent, run)

def run (plan : ConsolePlan) : ConsoleResult :=
  let options := Options.ofEnvironment plan.environment
  let config := Config.ofEnvironment plan.environment
  let precheck := wantsPrecheck plan.environment
  let loader := if precheck then some (Loader.new .standard) else none
  let log := startingLine options :: if precheck then [precheckLine] else []
  let started := (Live.new config (files plan) loader).start options options.arguments
  match (if precheck then fatalSignal? (files plan) options else none), started with
  | some signal, _ => ⟨some signal, none, [], log, plan.interrupts.map fun _ => false⟩
  | none, (.error fault, live) => ⟨none, some fault, live.observe.events, log, []⟩
  | none, (.ok _, live) =>
      let run := hear ⟨live.observe, .serving, 0, log ++ [startedLine]⟩
      let (sent, run) := run.interrupt plan.interrupts
      let run := run.waitFor (3 * Live.patience) fun _ => false
      let live := (run.live.dispose.waitFor .stopped).disposeEnd
      ⟨none, none, live.events, run.log, sent⟩

end ConsoleRun

end Overseer.Rehearsal
