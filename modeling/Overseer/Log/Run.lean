import Overseer.Environment
import Overseer.Log.Filter
import Overseer.Log.Record

namespace Overseer.Log

-- The log of supervised runs: one span per run, from its start to its end,
-- with the run's identity as fields, and a line at either end.

def target : String := "dhfs_launcher::monitoring::tracer"

def threadName : String := "main"

def spanName : String := "supervised_run"

-- The form of a trace identifier: hexadecimal digits in five groups. The
-- first digit of the third group is the version, four for a random one.
def traceShape : String := "xxxxxxxx-xxxx-xxxx-xxxx-xxxxxxxxxxxx"

def traceVersion : String := "4"

def traceSpecimen : String := "6f1c9d3a-0b84-4e27-9a5d-c3e870f2b416"

namespace RunRecord

def fields (record : RunRecord) (ended : Bool) : LogFields :=
  [("trace_id", .varying), ("run_id", .number record.id)] ++
    (record.pid.map fun pid => ("pid", FieldValue.number pid.toNat)).toList ++
    (record.exit.map fun exit => ("exit", FieldValue.text exit)).toList ++
    if ended then [("duration_ms", .varying)] else []

-- The recorded values as directives compare them. The span's trace identifier
-- may be any, and of the others this much is known when its lines are written.
def values (record : RunRecord) : List (String × Recorded) :=
  [("trace_id", .text traceSpecimen), ("run_id", .number record.id)] ++
    (record.pid.map fun pid => ("pid", Recorded.number pid.toNat)).toList ++
    (record.exit.map fun exit => ("exit", Recorded.text exit)).toList

end RunRecord

def spanSite : Site :=
  ⟨target, .info, ["trace_id", "run_id", "pid", "exit", "duration_ms"]⟩

def startedFields (id : Nat) : LogFields := [("run_id", .number id), ("trace_id", .varying)]

def endedFields : LogFields :=
  [("trace_id", .varying), ("duration_ms", .varying), ("short", .truth true)]

def closedFields : LogFields := [("time.busy", .varying), ("time.idle", .varying)]

def startedMessage : String := "run started"

def endedMessage : String := "run ended shortly after start"

def closedMessage : String := "close"

def site (level : Level) (fields : LogFields) : Site :=
  ⟨target, level, "message" :: fields.map Prod.fst⟩

def runLines (filter : Filter) (record : RunRecord) : List Entry :=
  let spanned := filter.enablesSpan spanName spanSite
  let atStart := RunRecord.new record.id
  let inside (record : RunRecord) : Nat :=
    if spanned then filter.insideSpan spanName spanSite record.values else off
  let around (fields : LogFields) : Option LogFields := if spanned then some fields else none
  let started :=
    if filter.enablesEvent (site .debug (startedFields record.id)) (inside atStart) then
      [⟨.debug, startedMessage, startedFields record.id, around (atStart.fields false)⟩]
    else []
  let ended :=
    if filter.enablesEvent (site .warn endedFields) (inside record) then
      [⟨.warn, endedMessage, endedFields, around (record.fields true)⟩]
    else []
  started ++ ended

def closing (filter : Filter) (record : RunRecord) : List Entry :=
  if filter.enablesSpan spanName spanSite then
    [⟨.info, closedMessage, closedFields, some (record.fields true)⟩]
  else []

def runEntries (filter : Filter) (record : RunRecord) : List Entry :=
  runLines filter record ++ closing filter record

-- Everything below information is left out unless the environment asks
-- otherwise in well-formed directives. There is no filter if they are torn.
def filterOf? (environment : Environment) : Option Filter :=
  let usual := Filter.uniform Level.info.rank
  match (environment.text? "RUST_LOG").map Filter.parse with
  | none | some (.error .malformed) => some usual
  | some (.error .torn) => none
  | some (.ok filter) => some filter

def wantsJson (environment : Environment) : Bool := environment.flag "LAUNCHER_TRACE_JSON"

def openingMessage (json : Bool) : String :=
  if json then "Structured tracing initialized with JSON output"
  else "Structured tracing initialized"

-- The log of a program that sets logging up and supervises some short runs. A
-- program that cannot set it up does nothing more.
def session (environment : Environment) (runs : List RunRecord) : List Entry :=
  match filterOf? environment with
  | none => []
  | some filter =>
      let opening :=
        if filter.enablesEvent (site .info []) off then
          [⟨.info, openingMessage (wantsJson environment), [], none⟩]
        else []
      opening ++ runs.flatMap (runEntries filter)

end Overseer.Log
