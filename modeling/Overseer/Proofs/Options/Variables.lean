import Mathlib.Data.List.Basic
import Overseer.Options
import Overseer.Proofs.Text.Sequences
import Overseer.Proofs.Text.Words

namespace Overseer

open Overseer.Text

-- Options written into an environment and read back from it, and what is read
-- from an environment that anybody may have written.

namespace Environment

variable {environment : Environment} {name text : String} {settings : List (String × String)}

-- The variable is set to a text.
def Holds (environment : Environment) (name text : String) : Prop :=
  environment.entries.lookup name = some (Utf8.encode text)

-- The variable is not set, or it is set to bytes that are no text.
def Lacks (environment : Environment) (name : String) : Prop :=
  environment.entries.lookup name = none ∨
    ∃ bytes, environment.entries.lookup name = some bytes ∧ ∀ text, bytes ≠ Utf8.encode text

-- What is set last counts, and what was there before does not.
def set (environment : Environment) (setting : String × String) : Environment :=
  ⟨(setting.1, Utf8.encode setting.2) :: environment.entries⟩

def setAll (environment : Environment) (settings : List (String × String)) : Environment :=
  settings.foldl set environment

theorem text?_of_holds (h : environment.Holds name text) : environment.text? name = some text := by
  rw [text?, h, Option.bind_some]
  exact Utf8.strict_eq_some_iff.mpr rfl

theorem text?_of_lacks (h : environment.Lacks name) : environment.text? name = none := by
  rcases h with hunset | ⟨bytes, hset, hbytes⟩
  · rw [text?, hunset, Option.bind_none]
  · rw [text?, hset, Option.bind_some]
    cases hstrict : Utf8.strict bytes with
    | none => rfl
    | some text => exact absurd (Utf8.strict_eq_some_iff.mp hstrict) (hbytes text)

theorem lookup_setAll_of_not_mem (h : name ∉ settings.map Prod.fst) :
    (environment.setAll settings).entries.lookup name = environment.entries.lookup name := by
  induction settings generalizing environment with
  | nil => rfl
  | cons setting settings ih =>
      obtain ⟨hother, hrest⟩ : name ≠ setting.1 ∧ name ∉ settings.map Prod.fst := by
        simpa only [List.map_cons, List.mem_cons, not_or] using h
      have hset : (environment.set setting).entries.lookup name =
          environment.entries.lookup name := by
        simp [set, List.lookup_cons, beq_false_of_ne hother]
      exact (ih hrest).trans hset

-- Variables that are all different do not get in each other's way.
theorem holds_setAll (hdistinct : (settings.map Prod.fst).Nodup) (h : (name, text) ∈ settings) :
    (environment.setAll settings).Holds name text := by
  induction settings generalizing environment with
  | nil => cases h
  | cons setting settings ih =>
      obtain ⟨hfirst, hrest⟩ := List.nodup_cons.mp hdistinct
      rcases List.mem_cons.mp h with rfl | hlater
      · have hkept : ((environment.set (name, text)).setAll settings).entries.lookup name =
            (environment.set (name, text)).entries.lookup name :=
          lookup_setAll_of_not_mem hfirst
        exact hkept.trans (by simp [set])
      · exact ih hrest hlater

end Environment

namespace Options

-- A variable that holds one text, the field it is for, and what the field is
-- when there is no such text.
structure TextVariable where
  name : String
  field : Options → String
  fallback : String

def textVariables : List TextVariable :=
  [⟨"LAUNCHER_RUNTIME_HOME", runtimeHome, ""⟩, ⟨"LAUNCHER_MEMORY_LIMIT", memoryLimit, "512m"⟩,
    ⟨"LAUNCHER_MOUNT_PATH", mountPath, ""⟩, ⟨"LAUNCHER_DATA_PATH", dataPath, ""⟩,
    ⟨"LAUNCHER_WEBUI_PATH", webuiPath, ""⟩, ⟨"LAUNCHER_PAYLOAD_PATH", payloadPath, ""⟩]

def flagsVariable : String := "LAUNCHER_EXTRA_FLAGS"

-- The seven variables that say what the options are, given one text for all of
-- the extra flags.
def settings (options : Options) (flags : String) : List (String × String) :=
  textVariables.map (fun entry => (entry.name, entry.field options)) ++ [(flagsVariable, flags)]

-- A text in which the flags stand, with white space between and around them.
def Listed (flags : List String) (text : String) : Prop :=
  Spaced (flags.map String.toList) text.toList

-- A flag that can be told from the white space around it.
def IsFlag (flag : String) : Prop := IsWord flag.toList

variable {environment : Environment} {options other : Options} {entry : TextVariable}
  {flags : List String} {text : String}

theorem field_ofEnvironment (h : entry ∈ textVariables) :
    entry.field (ofEnvironment environment) =
      (environment.text? entry.name).getD entry.fallback := by
  simp only [textVariables, List.mem_cons, List.not_mem_nil, or_false] at h
  rcases h with rfl | rfl | rfl | rfl | rfl | rfl <;> rfl

theorem toList_extraFlags_ofEnvironment (environment : Environment) :
    (ofEnvironment environment).extraFlags.map String.toList =
      words ((environment.text? flagsVariable).getD "").toList := by
  simp [ofEnvironment, flagsVariable, Function.comp_def]

theorem eq_of_fields (htexts : ∀ entry ∈ textVariables, entry.field options = entry.field other)
    (hflags : options.extraFlags = other.extraFlags) : options = other := by
  cases options
  cases other
  simp_all [textVariables]

theorem listed_iff :
    (∀ flag ∈ flags, IsFlag flag) ∧ Listed flags text ↔
      words text.toList = flags.map String.toList := by
  rw [words_eq_iff, Listed]
  simp only [IsFlag, List.forall_mem_map]

theorem map_toList_injective {flags others : List String}
    (h : flags.map String.toList = others.map String.toList) : flags = others :=
  List.map_injective_iff.mpr (fun _ _ => String.toList_inj.mp) h

theorem nodup_settings (options : Options) (flags : String) :
    ((options.settings flags).map Prod.fst).Nodup := by
  simp [settings, textVariables, flagsVariable]

-- Options that are written into an environment are read back, whatever else is
-- set there and in whichever order it is done.
theorem ofEnvironment_setAll {order : List (String × String)} {flags : String}
    (hflags : ∀ flag ∈ options.extraFlags, IsFlag flag) (hlisted : Listed options.extraFlags flags)
    (horder : order.Perm (options.settings flags)) :
    ofEnvironment (environment.setAll order) = options := by
  have hdistinct : (order.map Prod.fst).Nodup :=
    (horder.map Prod.fst).nodup_iff.mpr (nodup_settings options flags)
  have hheld : ∀ name text, (name, text) ∈ options.settings flags →
      (environment.setAll order).text? name = some text := by
    intro name text hmem
    exact Environment.text?_of_holds
      (Environment.holds_setAll hdistinct (horder.mem_iff.mpr hmem))
  refine eq_of_fields (fun entry hentry => ?_) (map_toList_injective ?_)
  · have hmem : (entry.name, entry.field options) ∈ options.settings flags :=
      List.mem_append_left _ (List.mem_map.mpr ⟨entry, hentry, rfl⟩)
    rw [field_ofEnvironment hentry, hheld _ _ hmem, Option.getD_some]
  · have hmem : (flagsVariable, flags) ∈ options.settings flags := by simp [settings]
    rw [toList_extraFlags_ofEnvironment, hheld _ _ hmem, Option.getD_some]
    exact listed_iff.mp ⟨hflags, hlisted⟩

structure Flags (text : String) (flags : List String) : Prop where
  plain : ∀ flag ∈ flags, IsFlag flag
  listed : Listed flags text
  -- No other flags stand in the text in this way.
  only : ∀ others : List String, (∀ other ∈ others, IsFlag other) → Listed others text →
    others = flags
  joined : String.join flags = String.ofList (text.toList.filter fun c => !isBlank c)

theorem flags_of_words (h : words text.toList = flags.map String.toList) : Flags text flags := by
  obtain ⟨hplain, hlisted⟩ := listed_iff.mpr h
  refine ⟨hplain, hlisted, fun others hothers hspaced => ?_, ?_⟩
  · exact map_toList_injective ((listed_iff.mp ⟨hothers, hspaced⟩).symm.trans h)
  · rw [← String.toList_inj, String.toList_join, String.toList_ofList, ← flatten_words, h,
      List.flatMap_def]

-- What is read from an environment.
structure Derived (environment : Environment) (options : Options) : Prop where
  given : ∀ entry ∈ textVariables, ∀ text, environment.Holds entry.name text →
    entry.field options = text
  missing : ∀ entry ∈ textVariables, environment.Lacks entry.name →
    entry.field options = entry.fallback
  flags : ∀ text, environment.Holds flagsVariable text → Flags text options.extraFlags
  unflagged : environment.Lacks flagsVariable → options.extraFlags = []

theorem derived_ofEnvironment (environment : Environment) :
    Derived environment (ofEnvironment environment) where
  given := by
    intro entry hentry text hheld
    rw [field_ofEnvironment hentry, Environment.text?_of_holds hheld, Option.getD_some]
  missing := by
    intro entry hentry hlacking
    rw [field_ofEnvironment hentry, Environment.text?_of_lacks hlacking, Option.getD_none]
  flags := by
    intro text hheld
    refine flags_of_words ?_
    rw [toList_extraFlags_ofEnvironment, Environment.text?_of_holds hheld, Option.getD_some]
  unflagged := by
    intro hlacking
    have hnone := toList_extraFlags_ofEnvironment environment
    rw [Environment.text?_of_lacks hlacking, Option.getD_none] at hnone
    exact map_toList_injective hnone

-- The environment says what the options are. Only for the white space around the
-- extra flags there is a choice, and it makes no difference.
theorem environment_determines_options :
    (∀ (environment : Environment) (options : Options) (flags : String)
      (order : List (String × String)),
      (∀ flag ∈ options.extraFlags, IsFlag flag) → Listed options.extraFlags flags →
      order.Perm (options.settings flags) →
      ofEnvironment (environment.setAll order) = options) ∧
    ∀ environment, Derived environment (ofEnvironment environment) :=
  ⟨fun _ _ _ _ => ofEnvironment_setAll, derived_ofEnvironment⟩

-- Two flags between blanks of several kinds, in an environment where the memory
-- limit and the home are set already and the latter to no text.
def spacedOptions : Options := ⟨"/jdk", "", "/m n", "/d", "", "app.jar", ["-x", "--name=é"]⟩

def spacedFlags : String := "\u3000-x \u00a0\t--name=é\n"

def earlierSettings : Environment :=
  ⟨[("LAUNCHER_RUNTIME_HOME", [0xFF]), ("LAUNCHER_MEMORY_LIMIT", Utf8.encode "1g")]⟩

theorem environment_determines_options_of_spaced :
    (∀ flag ∈ spacedOptions.extraFlags, IsFlag flag) ∧
      Listed spacedOptions.extraFlags spacedFlags ∧
      ofEnvironment (earlierSettings.setAll (spacedOptions.settings spacedFlags).reverse) =
        spacedOptions ∧
      (ofEnvironment earlierSettings).runtimeHome = "" := by
  have hwords : words spacedFlags.toList = spacedOptions.extraFlags.map String.toList := by
    decide
  obtain ⟨hflags, hlisted⟩ := listed_iff.mpr hwords
  have hlacking : earlierSettings.Lacks "LAUNCHER_RUNTIME_HOME" := by
    have hreplaced : Utf8.text [0xFF] = String.ofList [Utf8.replacement] := by
      rw [Utf8.text, Utf8.lossy_cons_of_none rfl, Utf8.lossy_nil]
    have hnone : Utf8.strict [0xFF] = none := by
      rw [Utf8.strict, hreplaced]
      decide
    refine .inr ⟨[0xFF], rfl, fun text htext => ?_⟩
    rw [Utf8.strict_eq_some_iff.mpr htext] at hnone
    cases hnone
  obtain ⟨hwritten, hread⟩ := environment_determines_options
  exact ⟨hflags, hlisted,
    hwritten earlierSettings spacedOptions spacedFlags _ hflags hlisted (List.reverse_perm _),
    (hread earlierSettings).missing ⟨"LAUNCHER_RUNTIME_HOME", runtimeHome, ""⟩
      (by simp [textVariables]) hlacking⟩

end Options

end Overseer
