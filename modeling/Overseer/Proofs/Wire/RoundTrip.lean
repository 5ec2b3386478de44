import Overseer.Proofs.Text.Sequences
import Overseer.Proofs.Wire.Readers
import Overseer.Wire.Codec

namespace Overseer

open Overseer.Text
open Overseer.Wire

-- What is written of each type that travels is read as what it was.

theorem State.read_write (kept : Bool) (state : State) :
    State.read kept state.write = .ok state := by
  cases state <;> rfl

theorem Source.read_write (kept : Bool) (source : Source) :
    Source.read kept source.write = .ok source := by
  cases source <;> rfl

theorem Line.spelled (kept : Bool) (line : Line) :
    Spelled (Line.read kept) line [("source", line.source.write), ("text", .text line.text)] := by
  refine .of_record ["source", "text"] rfl (by simp [Has, List.lookup_cons])
    fun value fields hfields hgiven => ?_
  have hsource : fields.get? "source" (Source.read kept) = .ok (some line.source) :=
    Fields.get?_of_given (hgiven ("source", line.source.write) (by simp))
      (Source.read_write kept line.source)
  have htext : fields.get? "text" readText = .ok (some line.text) :=
    Fields.get?_of_given (hgiven ("text", .text line.text) (by simp)) rfl
  simp only [Line.read, hfields, hsource, htext, bind, Except.bind]
  rfl

theorem Line.read_write (kept : Bool) (line : Line) : Line.read kept line.write = .ok line :=
  (line.spelled kept).object _ (line.spelled kept).own

theorem Event.spelled (event : Event) :
    ∃ fields, event.write = .object fields ∧ Spelled Event.read event fields := by
  cases event with
  | output line =>
      refine ⟨_, rfl, .of_tagged (by decide) fun kept => ?_⟩
      show (Event.output <$> Line.read kept line.write) = _
      rw [line.read_write kept]
      rfl
  | stateChanged state =>
      refine ⟨_, rfl, .of_tagged (by decide) fun kept => ?_⟩
      show (Event.stateChanged <$> State.read kept state.write) = _
      rw [state.read_write kept]
      rfl

theorem Exit.spelled (exit : Exit) :
    ∃ fields, exit.write = .object fields ∧ Spelled Exit.read exit fields := by
  refine ⟨[("code", nullable exit.code), ("signal", nullable exit.signal)], rfl,
    .of_record ["code", "signal"] rfl (by simp [Has, List.lookup_cons])
      fun value fields hfields hgiven => ?_⟩
  have hcode : fields.get? "code" (readNullable readInt32) = .ok (some exit.code) :=
    Fields.get?_of_given (hgiven ("code", nullable exit.code) (by simp))
      (readNullable_write exit.code)
  have hsignal : fields.get? "signal" (readNullable readInt32) = .ok (some exit.signal) :=
    Fields.get?_of_given (hgiven ("signal", nullable exit.signal) (by simp))
      (readNullable_write exit.signal)
  simp only [Exit.read, hfields, hcode, hsignal, bind, Except.bind]
  rfl

-- Of an exit, a field that is null may also be left out.
def Exit.Tells (given : List (String × Value)) (name : String) (n : Option Int32) : Prop :=
  given.lookup name = some (nullable n) ∨ given.lookup name = none ∧ n = none

theorem Exit.read_omitted (exit : Exit) {given : List (String × Value)}
    (hcode : Tells given "code" exit.code) (hsignal : Tells given "signal" exit.signal) :
    Exit.read (.object given) = .ok exit := by
  have hfield : ∀ name n, Tells given name n → ∃ n?,
      (Fields.mk given .missingField).get? name (readNullable readInt32) = .ok n? ∧
        (Fields.mk given .missingField).optional name n? = .ok n := by
    rintro name n (hgiven | ⟨habsent, rfl⟩)
    · exact ⟨some n, Fields.get?_of_given hgiven (readNullable_write n), rfl⟩
    · exact ⟨none, Fields.get?_of_absent habsent, rfl⟩
  obtain ⟨code?, hcode, hexitCode⟩ := hfield "code" exit.code hcode
  obtain ⟨signal?, hsignal, hexitSignal⟩ := hfield "signal" exit.signal hsignal
  simp only [Exit.read, readFields, hcode, hsignal, hexitCode, hexitSignal, bind, Except.bind]
  rfl

def Options.names : List String :=
  ["runtime_home", "memory_limit", "mount_path", "data_path", "webui_path", "payload_path",
    "extra_flags"]

-- The fields that may not be left out.
def Options.required (options : Options) : List (String × Value) :=
  [("runtime_home", .text options.runtimeHome), ("memory_limit", .text options.memoryLimit),
    ("mount_path", .text options.mountPath), ("data_path", .text options.dataPath),
    ("webui_path", .text options.webuiPath), ("payload_path", .text options.payloadPath)]

theorem Options.read_of_required {value : Value} {fields : Fields} {options : Options}
    {flags : Option (List String)}
    (hfields : readFields names value = .ok fields)
    (hgiven : Has fields.given options.required)
    (hflags : fields.get? "extra_flags" (readList readText) = .ok flags)
    (hdefault : flags.getD [] = options.extraFlags) : Options.read value = .ok options := by
  have hget : ∀ name text, (name, Value.text text) ∈ options.required →
      fields.get? name readText = .ok (some text) :=
    fun name text hmem => Fields.get?_of_given (hgiven _ hmem) rfl
  have hruntimeHome := hget "runtime_home" options.runtimeHome (by simp [required])
  have hmemoryLimit := hget "memory_limit" options.memoryLimit (by simp [required])
  have hmountPath := hget "mount_path" options.mountPath (by simp [required])
  have hdataPath := hget "data_path" options.dataPath (by simp [required])
  have hwebuiPath := hget "webui_path" options.webuiPath (by simp [required])
  have hpayloadPath := hget "payload_path" options.payloadPath (by simp [required])
  rw [names] at hfields
  simp only [Options.read, hfields, hruntimeHome, hmemoryLimit, hmountPath, hdataPath, hwebuiPath,
    hpayloadPath, hflags, hdefault, bind, Except.bind, Fields.demand]
  rfl

theorem Options.spelled (options : Options) :
    ∃ fields, options.write = .object fields ∧ Spelled Options.read options fields := by
  refine ⟨options.required ++ [("extra_flags", .array (options.extraFlags.map .text))], rfl,
    .of_record names rfl (by simp [Has, required, List.lookup_cons])
      fun value fields hfields hgiven => ?_⟩
  have hflags : fields.get? "extra_flags" (readList readText) = .ok (some options.extraFlags) :=
    Fields.get?_of_given (hgiven ("extra_flags", _) (by simp)) (readList_write options.extraFlags)
  have hrequired : Has fields.given options.required :=
    fun field hmem => hgiven field (List.mem_append_left _ hmem)
  exact read_of_required hfields hrequired hflags rfl

-- There are no extra flags if nothing is said of them.
theorem Options.read_omitted (options : Options) :
    (∀ given, Has given options.required → given.lookup "extra_flags" = none →
        Options.read (.object given) = .ok { options with extraFlags := [] }) ∧
      Options.read (.array (options.required.map Prod.snd)) =
        .ok { options with extraFlags := [] } := by
  have hown : Has options.required options.required := by simp [Has, required, List.lookup_cons]
  constructor
  · intro given hgiven hflags
    exact read_of_required rfl hgiven (Fields.get?_of_absent hflags) rfl
  · exact read_of_required rfl hown (Fields.get?_of_absent rfl) rfl

-- A path that is a text.
def Path.IsText (path : Path) : Prop := ∃ text, path = .ofText text

def LoadFault.IsText : LoadFault → Prop
  | .homeNotSet => True
  | .libraryOpen path _ => path.IsText
  | .symbolMissing path _ _ => path.IsText

def Fault.IsText : Fault → Prop
  | .runtime fault => fault.IsText
  | _ => True

theorem Path.write?_eq_some_iff {path : Path} {value : Value} :
    path.write? = some value ↔ ∃ text, path = .ofText text ∧ value = .text text := by
  obtain ⟨bytes⟩ := path
  rw [Path.write?, Option.map_eq_some_iff]
  constructor
  · rintro ⟨text, htext, rfl⟩
    obtain rfl := Utf8.strict_eq_some_iff.mp htext
    exact ⟨text, rfl, rfl⟩
  · rintro ⟨text, ⟨⟩, rfl⟩
    exact ⟨text, Utf8.strict_eq_some_iff.mpr rfl, rfl⟩

theorem Path.gives_read (value : Value) : Gives Path.IsText (Path.read value) := by
  intro path hpath
  cases value with
  | text text =>
      cases hpath
      exact ⟨text, rfl⟩
  | _ => cases hpath

namespace LoadFault

theorem gives_read (kept : Bool) (value : Value) : Gives IsText (LoadFault.read kept value) := by
  refine gives_readTagged (fun tagged => ?_) value
  split
  · split
    · exact gives_pure trivial
    · exact gives_pure trivial
    · exact gives_throw _
  · split
    · refine (gives_any _).bind fun contents _ => (gives_any _).bind fun fields _ => ?_
      refine (gives_get? Path.gives_read _ _).bind fun path? hpath => ?_
      refine (gives_any _).bind fun reason? _ => ?_
      refine (gives_demand hpath _ _).bind fun path hpath => ?_
      exact (gives_any _).bind fun reason _ => gives_pure hpath
    · split
      · refine (gives_any _).bind fun contents _ => (gives_any _).bind fun fields _ => ?_
        refine (gives_get? Path.gives_read _ _).bind fun path? hpath => ?_
        refine (gives_any _).bind fun symbol? _ => (gives_any _).bind fun reason? _ => ?_
        refine (gives_demand hpath _ _).bind fun path hpath => ?_
        refine (gives_any _).bind fun symbol _ => (gives_any _).bind fun reason _ => ?_
        exact gives_pure hpath
      · exact gives_throw _

-- A fault as it is written.
inductive Written : LoadFault → Value → Prop
  | homeNotSet : Written .homeNotSet (.object [("error_type", .text "home_not_set")])
  | libraryOpen (path reason : String) :
      Written (.libraryOpen (.ofText path) reason) (.object
        [("error_type", .text "library_open"),
          ("details", .object [("path", .text path), ("reason", .text reason)])])
  | symbolMissing (path symbol reason : String) :
      Written (.symbolMissing (.ofText path) symbol reason) (.object
        [("error_type", .text "symbol_missing"),
          ("details", .object
            [("path", .text path), ("symbol", .text symbol), ("reason", .text reason)])])

variable {fault : LoadFault} {value : Value}

theorem write?_eq_some_iff : fault.write? = some value ↔ Written fault value := by
  constructor
  · intro h
    cases fault with
    | homeNotSet =>
        cases h
        exact .homeNotSet
    | libraryOpen path reason =>
        obtain ⟨path, hpath, ⟨⟩⟩ := Option.bind_eq_some_iff.mp h
        obtain ⟨text, rfl, rfl⟩ := Path.write?_eq_some_iff.mp hpath
        exact .libraryOpen text reason
    | symbolMissing path symbol reason =>
        obtain ⟨path, hpath, ⟨⟩⟩ := Option.bind_eq_some_iff.mp h
        obtain ⟨text, rfl, rfl⟩ := Path.write?_eq_some_iff.mp hpath
        exact .symbolMissing text symbol reason
  · intro h
    have hpath : ∀ text, (Path.ofText text).write? = some (.text text) :=
      fun text => Path.write?_eq_some_iff.mpr ⟨text, rfl, rfl⟩
    cases h <;> simp [write?, hpath]

theorem exists_write?_iff : (∃ value, fault.write? = some value) ↔ fault.IsText := by
  simp only [write?_eq_some_iff]
  constructor
  · rintro ⟨value, _ | ⟨path, reason⟩ | ⟨path, symbol, reason⟩⟩
    · trivial
    · exact ⟨path, rfl⟩
    · exact ⟨path, rfl⟩
  · intro htext
    cases fault with
    | homeNotSet => exact ⟨_, .homeNotSet⟩
    | libraryOpen path reason =>
        obtain ⟨text, rfl⟩ := htext
        exact ⟨_, .libraryOpen text reason⟩
    | symbolMissing path symbol reason =>
        obtain ⟨text, rfl⟩ := htext
        exact ⟨_, .symbolMissing text symbol reason⟩

theorem Written.read (kept : Bool) (h : Written fault value) :
    LoadFault.read kept value = .ok fault := by
  cases h <;> rfl

theorem Written.spelled (kept : Bool) {fields : List (String × Value)}
    (h : Written fault (.object fields)) (hcontents : 1 < fields.length) :
    Spelled (LoadFault.read kept) fault fields := by
  cases h with
  | homeNotSet => exact absurd hcontents (by simp)
  | libraryOpen path reason => exact .of_tagged (by decide) fun kept => rfl
  | symbolMissing path symbol reason => exact .of_tagged (by decide) fun kept => rfl

end LoadFault

namespace Fault

theorem gives_read (value : Value) : Gives IsText (Fault.read value) := by
  refine gives_readTagged (fun tagged => ?_) value
  split
  · refine (gives_any _).bind fun contents _ => (gives_any _).bind fun fields _ => ?_
    refine (gives_any _).bind fun program? _ => (gives_any _).bind fun reason? _ => ?_
    exact (gives_any _).bind fun program _ => (gives_any _).bind fun reason _ => gives_pure trivial
  split
  · refine (gives_any _).bind fun contents _ => (gives_any _).bind fun fields _ => ?_
    refine (gives_any _).bind fun pid? _ => (gives_any _).bind fun reason? _ => ?_
    exact (gives_any _).bind fun pid _ => (gives_any _).bind fun reason _ => gives_pure trivial
  split
  · refine (gives_any _).bind fun details _ => ?_
    exact (LoadFault.gives_read _ details).bind fun fault htext => gives_pure htext
  split
  · exact (gives_any _).bind fun details _ => (gives_any _).bind fun reason _ => gives_pure trivial
  · exact gives_throw _

-- A fault as it is written.
inductive Written : Fault → Value → Prop
  | spawnFailed (program reason : String) :
      Written (.spawnFailed program reason) (.object
        [("error_type", .text "spawn_failed"),
          ("details", .object [("program", .text program), ("reason", .text reason)])])
  | terminationFailed (pid : Pid) (reason : String) :
      Written (.terminationFailed pid reason) (.object
        [("error_type", .text "termination_failed"),
          ("details", .object [("pid", .int pid.toNat), ("reason", .text reason)])])
  | runtime {fault : LoadFault} {details : Value} (hdetails : fault.Written details) :
      Written (.runtime fault) (.object [("error_type", .text "runtime"), ("details", details)])
  | io (reason : String) :
      Written (.io reason) (.object [("error_type", .text "io"), ("details", .text reason)])

variable {fault : Fault} {value : Value}

theorem write?_eq_some_iff : fault.write? = some value ↔ Written fault value := by
  constructor
  · intro h
    cases fault with
    | spawnFailed program reason =>
        cases h
        exact .spawnFailed program reason
    | terminationFailed pid reason =>
        cases h
        exact .terminationFailed pid reason
    | runtime fault =>
        obtain ⟨details, hdetails, ⟨⟩⟩ := Option.bind_eq_some_iff.mp h
        exact .runtime (LoadFault.write?_eq_some_iff.mp hdetails)
    | io reason =>
        cases h
        exact .io reason
  · intro h
    cases h with
    | runtime hdetails => simp [write?, LoadFault.write?_eq_some_iff.mpr hdetails]
    | _ => rfl

theorem exists_write?_iff : (∃ value, fault.write? = some value) ↔ fault.IsText := by
  simp only [write?_eq_some_iff]
  cases fault with
  | spawnFailed program reason =>
      exact ⟨fun _ => trivial, fun _ => ⟨_, .spawnFailed program reason⟩⟩
  | terminationFailed pid reason =>
      exact ⟨fun _ => trivial, fun _ => ⟨_, .terminationFailed pid reason⟩⟩
  | runtime fault =>
      rw [IsText, ← LoadFault.exists_write?_iff]
      constructor
      · rintro ⟨_, ⟨⟩ | ⟨⟩ | hdetails⟩
        exact ⟨_, LoadFault.write?_eq_some_iff.mpr hdetails⟩
      · rintro ⟨details, hdetails⟩
        exact ⟨_, .runtime (LoadFault.write?_eq_some_iff.mp hdetails)⟩
  | io reason => exact ⟨fun _ => trivial, fun _ => ⟨_, .io reason⟩⟩

theorem Written.spelled (h : Written fault value) :
    ∃ fields, value = .object fields ∧ Spelled Fault.read fault fields := by
  cases h with
  | spawnFailed program reason => exact ⟨_, rfl, .of_tagged (by decide) fun kept => rfl⟩
  | terminationFailed pid reason =>
      refine ⟨_, rfl, .of_tagged (by decide) fun kept => ?_⟩
      have hpid : Fields.get? ⟨[("pid", .int pid.toNat), ("reason", .text reason)], .missingField⟩
          "pid" readUInt32 = .ok (some pid) := Fields.get?_of_given rfl (readUInt32_write pid)
      show (Fields.get? _ "pid" readUInt32 >>= fun pid => _ : Except Refusal Fault) = _
      rw [hpid]
      rfl
  | runtime hdetails =>
      refine ⟨_, rfl, .of_tagged (by decide) fun kept => ?_⟩
      show (Fault.runtime <$> LoadFault.read kept _) = _
      rw [hdetails.read kept]
      rfl
  | io reason => exact ⟨_, rfl, .of_tagged (by decide) fun kept => rfl⟩

end Fault

namespace Wire

-- The types that travel. Where a value was set aside before it was read, some
-- more spellings count, and all of this holds just as well.
structure RoundTrip (kept : Bool) : Prop where
  state : Faithful (fun state => some (State.write state)) (State.read kept) fun _ => True
  source : Faithful (fun source => some (Source.write source)) (Source.read kept) fun _ => True
  line : Faithful (fun line => some (Line.write line)) (Line.read kept) fun _ => True
  event : Faithful (fun event => some (Event.write event)) Event.read fun _ => True
  exit : Faithful (fun exit => some (Exit.write exit)) Exit.read fun _ => True
  options : Faithful (fun options => some (Options.write options)) Options.read fun _ => True
  loadFault : Faithful LoadFault.write? (LoadFault.read kept) LoadFault.IsText
  fault : Faithful Fault.write? Fault.read Fault.IsText
  -- What may be left out.
  exitOmitted : ∀ exit given, Exit.Tells given "code" exit.code →
    Exit.Tells given "signal" exit.signal → Exit.read (.object given) = .ok exit
  flagsOmitted : ∀ options given, Has given (Options.required options) →
    given.lookup "extra_flags" = none →
      Options.read (.object given) = .ok { options with extraFlags := [] }
  flagsUnlisted : ∀ options, Options.read (.array ((Options.required options).map Prod.snd)) =
    .ok { options with extraFlags := [] }

theorem written_is_read_back (kept : Bool) : RoundTrip kept where
  state := .of_total (State.read_write kept) (fun state _ h => by cases h)
  source := .of_total (Source.read_write kept) (fun source _ h => by cases h)
  line := .of_objects fun line => ⟨_, rfl, line.spelled kept⟩
  event := .of_objects Event.spelled
  exit := .of_objects Exit.spelled
  options := .of_objects Options.spelled
  loadFault := .of_returned (fun _ => LoadFault.exists_write?_iff)
    (fun _ _ h => (LoadFault.write?_eq_some_iff.mp h).read kept)
    (fun _ _ h => (LoadFault.write?_eq_some_iff.mp h).spelled kept)
    (fun value fault h => LoadFault.gives_read kept value fault h)
  fault := by
    refine .of_returned (fun _ => Fault.exists_write?_iff) ?_ ?_
      (fun value fault h => Fault.gives_read value fault h)
    · intro fault value h
      obtain ⟨fields, rfl, hspelled⟩ := (Fault.write?_eq_some_iff.mp h).spelled
      exact hspelled.object _ hspelled.own
    · intro fault fields h _
      obtain ⟨fields', hfields, hspelled⟩ := (Fault.write?_eq_some_iff.mp h).spelled
      obtain rfl := Value.object.inj hfields
      exact hspelled
  exitOmitted := fun exit _ => exit.read_omitted
  flagsOmitted := fun options => options.read_omitted.1
  flagsUnlisted := fun options => options.read_omitted.2

end Wire

end Overseer
