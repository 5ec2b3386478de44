import Overseer.Event
import Overseer.Exit
import Overseer.Fault
import Overseer.Options
import Overseer.Wire.Value

namespace Overseer

open Overseer.Text
open Overseer.Wire

-- The written form of every type that travels, and its reader. Each reader
-- takes what the writer gives, and the other spellings that structured data
-- allows.

def State.key : State → String
  | .stopped => "stopped"
  | .starting => "starting"
  | .running => "running"
  | .stopping => "stopping"

def State.write (state : State) : Value := .text state.key

def State.read (kept : Bool) (value : Value) : Except Refusal State := do
  choose State.all State.key (← readVariant kept value)

def Source.write (source : Source) : Value := .text source.name

def Source.read (kept : Bool) (value : Value) : Except Refusal Source := do
  choose Source.all Source.name (← readVariant kept value)

def Line.write (line : Line) : Value :=
  .object [("source", line.source.write), ("text", .text line.text)]

def Line.read (kept : Bool) (value : Value) : Except Refusal Line := do
  let fields ← readFields ["source", "text"] value
  let source ← fields.get? "source" (Source.read kept)
  let text ← fields.get? "text" readText
  let source ← fields.demand "source" source
  let text ← fields.demand "text" text
  pure ⟨source, text⟩

def Event.write : Event → Value
  | .output line => .object [("kind", .text "output"), ("data", line.write)]
  | .stateChanged state => .object [("kind", .text "state_changed"), ("data", state.write)]

def Event.read : Value → Except Refusal Event :=
  readTagged "kind" "data" ["output", "state_changed"] false fun tagged => do
  if tagged.tag = "output" then
    pure (.output (← Line.read tagged.kept (← tagged.demand "data")))
  else if tagged.tag = "state_changed" then
    pure (.stateChanged (← State.read tagged.kept (← tagged.demand "data")))
  else throw .malformed

def Exit.write (exit : Exit) : Value :=
  let number (value : Option Int32) : Value :=
    match value with
    | some value => .int value.toInt
    | none => .null
  .object [("code", number exit.code), ("signal", number exit.signal)]

def Exit.read (value : Value) : Except Refusal Exit := do
  let fields ← readFields ["code", "signal"] value
  let code ← fields.get? "code" (readNullable readInt32)
  let signal ← fields.get? "signal" (readNullable readInt32)
  let code ← fields.optional "code" code
  let signal ← fields.optional "signal" signal
  pure ⟨code, signal⟩

def Options.write (options : Options) : Value :=
  .object
    [("runtime_home", .text options.runtimeHome),
      ("memory_limit", .text options.memoryLimit),
      ("mount_path", .text options.mountPath),
      ("data_path", .text options.dataPath),
      ("webui_path", .text options.webuiPath),
      ("payload_path", .text options.payloadPath),
      ("extra_flags", .array (options.extraFlags.map .text))]

def Options.read (value : Value) : Except Refusal Options := do
  let fields ← readFields ["runtime_home", "memory_limit", "mount_path", "data_path",
    "webui_path", "payload_path", "extra_flags"] value
  let runtimeHome ← fields.get? "runtime_home" readText
  let memoryLimit ← fields.get? "memory_limit" readText
  let mountPath ← fields.get? "mount_path" readText
  let dataPath ← fields.get? "data_path" readText
  let webuiPath ← fields.get? "webui_path" readText
  let payloadPath ← fields.get? "payload_path" readText
  let extraFlags ← fields.get? "extra_flags" (readList readText)
  let runtimeHome ← fields.demand "runtime_home" runtimeHome
  let memoryLimit ← fields.demand "memory_limit" memoryLimit
  let mountPath ← fields.demand "mount_path" mountPath
  let dataPath ← fields.demand "data_path" dataPath
  let webuiPath ← fields.demand "webui_path" webuiPath
  let payloadPath ← fields.demand "payload_path" payloadPath
  pure ⟨runtimeHome, memoryLimit, mountPath, dataPath, webuiPath, payloadPath,
    extraFlags.getD []⟩

def Path.write? (path : Path) : Option Value := (Utf8.strict path.bytes).map .text

def Path.read (value : Value) : Except Refusal Path := Path.ofText <$> readText value

def LoadFault.write? : LoadFault → Option Value
  | .homeNotSet => some (.object [("error_type", .text "home_not_set")])
  | .libraryOpen path reason => do
      let path ← path.write?
      pure (.object
        [("error_type", .text "library_open"),
          ("details", .object [("path", path), ("reason", .text reason)])])
  | .symbolMissing path symbol reason => do
      let path ← path.write?
      pure (.object
        [("error_type", .text "symbol_missing"),
          ("details", .object
            [("path", path), ("symbol", .text symbol), ("reason", .text reason)])])

def LoadFault.read (kept : Bool) : Value → Except Refusal LoadFault :=
  readTagged "error_type" "details" ["home_not_set", "library_open", "symbol_missing"] kept
    fun tagged => do
  if tagged.tag = "home_not_set" then
    match tagged.content with
    | none | some .null => pure .homeNotSet
    | some _ => throw .malformed
  else if tagged.tag = "library_open" then
    let fields ← readContents (← tagged.demand "details")
    let path ← fields.get? "path" Path.read
    let reason ← fields.get? "reason" readText
    let path ← fields.demand "path" path
    let reason ← fields.demand "reason" reason
    pure (.libraryOpen path reason)
  else if tagged.tag = "symbol_missing" then
    let fields ← readContents (← tagged.demand "details")
    let path ← fields.get? "path" Path.read
    let symbol ← fields.get? "symbol" readText
    let reason ← fields.get? "reason" readText
    let path ← fields.demand "path" path
    let symbol ← fields.demand "symbol" symbol
    let reason ← fields.demand "reason" reason
    pure (.symbolMissing path symbol reason)
  else throw .malformed

def Fault.write? : Fault → Option Value
  | .spawnFailed program reason =>
      some (.object
        [("error_type", .text "spawn_failed"),
          ("details", .object [("program", .text program), ("reason", .text reason)])])
  | .terminationFailed pid reason =>
      some (.object
        [("error_type", .text "termination_failed"),
          ("details", .object [("pid", .int pid.toNat), ("reason", .text reason)])])
  | .runtime fault => do
      let details ← fault.write?
      pure (.object [("error_type", .text "runtime"), ("details", details)])
  | .io reason =>
      some (.object [("error_type", .text "io"), ("details", .text reason)])

def Fault.read : Value → Except Refusal Fault :=
  readTagged "error_type" "details" ["spawn_failed", "termination_failed", "runtime", "io"] false
    fun tagged => do
  if tagged.tag = "spawn_failed" then
    let fields ← readContents (← tagged.demand "details")
    let program ← fields.get? "program" readText
    let reason ← fields.get? "reason" readText
    let program ← fields.demand "program" program
    let reason ← fields.demand "reason" reason
    pure (.spawnFailed program reason)
  else if tagged.tag = "termination_failed" then
    let fields ← readContents (← tagged.demand "details")
    let pid ← fields.get? "pid" readUInt32
    let reason ← fields.get? "reason" readText
    let pid ← fields.demand "pid" pid
    let reason ← fields.demand "reason" reason
    pure (.terminationFailed pid reason)
  else if tagged.tag = "runtime" then
    pure (.runtime (← LoadFault.read tagged.kept (← tagged.demand "details")))
  else if tagged.tag = "io" then
    pure (.io (← readText (← tagged.demand "details")))
  else throw .malformed

end Overseer
