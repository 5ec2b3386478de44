import Mathlib.Data.List.Basic
import Overseer.Options

namespace Overseer.Options

-- What an argument vector says about the options it was made from. Every value
-- has its place, counted from the front or from the back, and a fixed text
-- around it, so whatever the values hold they can be told apart again.

def after? (lead text : String) : Option String :=
  (text.toList.dropPrefix? lead.toList).map String.ofList

def before? (tail text : String) : Option String :=
  (text.toList.dropSuffix? tail.toList).map String.ofList

theorem after?_append (lead text : String) : after? lead (lead ++ text) = some text := by
  have hdrop : (lead ++ text).toList.dropPrefix? lead.toList = some text.toList :=
    List.dropPrefix?_eq_some_iff.mpr ⟨lead.toList, String.toList_append, beq_self_eq_true _⟩
  rw [after?, hdrop, Option.map_some, String.ofList_toList]

theorem before?_append (text tail : String) : before? tail (text ++ tail) = some text := by
  have hdrop : (text ++ tail).toList.dropSuffix? tail.toList = some text.toList :=
    List.dropSuffix?_eq_some_iff.mpr ⟨tail.toList, String.toList_append, beq_self_eq_true _⟩
  rw [before?, hdrop, Option.map_some, String.ofList_toList]

def leading : Nat := 14

def fixed : Nat := 16

-- Reads the options off a vector: by the place of each argument and by what is
-- known to be around its value, and by nothing else.
def ofArguments? (vector : List String) : Option Options := do
  let runtimeHome ← vector[0]?.bind (before? "/bin/java")
  let memoryLimit ← vector[4]?.bind (after? "-Xmx")
  let mountPath ← vector[11]?.bind (after? "-Ddhfs.fuse.root=")
  let dataPath ← vector[12]?.bind (after? "-Ddhfs.objects.persistence.files.root=")
  let webuiPath ← vector[13]?.bind (after? "-Ddhfs.webui.root=")
  let payloadPath ← vector.getLast?
  pure
    { runtimeHome, memoryLimit, mountPath, dataPath, webuiPath, payloadPath
      extraFlags := (vector.drop leading).take (vector.length - fixed) }

def lead (options : Options) : List String :=
  [options.executable] ++ tuningFlags ++ ["-Xmx" ++ options.memoryLimit] ++ featureFlags ++
    options.pathFlags

theorem length_lead (options : Options) : options.lead.length = leading := rfl

theorem arguments_eq (options : Options) :
    options.arguments = options.lead ++ (options.extraFlags ++ ["-jar", options.payloadPath]) := by
  rw [arguments, lead, List.append_assoc _ options.extraFlags]

theorem length_arguments (options : Options) :
    options.arguments.length = fixed + options.extraFlags.length := by
  rw [arguments_eq, List.length_append, List.length_append, length_lead]
  simp only [leading, fixed, List.length_cons, List.length_nil]
  omega

theorem getElem?_arguments_of_lt (options : Options) {index : Nat} (h : index < leading) :
    options.arguments[index]? = options.lead[index]? := by
  rw [arguments_eq, List.getElem?_append_left (by rwa [length_lead])]

theorem drop_arguments (options : Options) :
    options.arguments.drop leading = options.extraFlags ++ ["-jar", options.payloadPath] := by
  rw [arguments_eq, ← length_lead options, List.drop_left]

theorem extraFlags_eq (options : Options) :
    (options.arguments.drop leading).take (options.arguments.length - fixed) =
      options.extraFlags := by
  rw [drop_arguments, length_arguments, Nat.add_sub_cancel_left, List.take_left]

theorem getLast?_arguments (options : Options) :
    options.arguments.getLast? = some options.payloadPath := by
  rw [arguments_eq, ← List.append_assoc]
  simp

theorem ofArguments?_arguments (options : Options) :
    ofArguments? options.arguments = some options := by
  have hexecutable : options.arguments[0]? = some (options.runtimeHome ++ "/bin/java") :=
    getElem?_arguments_of_lt options (by decide)
  have hlimit : options.arguments[4]? = some ("-Xmx" ++ options.memoryLimit) :=
    getElem?_arguments_of_lt options (by decide)
  have hmount : options.arguments[11]? = some ("-Ddhfs.fuse.root=" ++ options.mountPath) :=
    getElem?_arguments_of_lt options (by decide)
  have hdata : options.arguments[12]? =
      some ("-Ddhfs.objects.persistence.files.root=" ++ options.dataPath) :=
    getElem?_arguments_of_lt options (by decide)
  have hwebui : options.arguments[13]? = some ("-Ddhfs.webui.root=" ++ options.webuiPath) :=
    getElem?_arguments_of_lt options (by decide)
  simp only [ofArguments?, hexecutable, hlimit, hmount, hdata, hwebui, Option.bind_some,
    before?_append, after?_append, getLast?_arguments, extraFlags_eq, Option.bind_eq_bind,
    Option.pure_def]

-- Where everything stands in a vector, and what can be told from it.
structure Legible (options : Options) : Prop where
  length : options.arguments.length = 16 + options.extraFlags.length
  -- The extra flags stand together and in order, from the fifteenth place on.
  before : options.arguments[13]? = some ("-Ddhfs.webui.root=" ++ options.webuiPath)
  extra : ∀ index, index < options.extraFlags.length →
    options.arguments[14 + index]? = options.extraFlags[index]?
  after : options.arguments[14 + options.extraFlags.length]? = some "-jar"
  last : options.arguments.getLast? = some options.payloadPath
  decoded : ofArguments? options.arguments = some options
  determined : ∀ other : Options, options.arguments = other.arguments ↔ options = other

-- Whatever the options hold, the vector tells them.
theorem arguments_are_legible (options : Options) : Legible options := by
  have hplaced : ∀ index, options.arguments[14 + index]? =
      (options.extraFlags ++ ["-jar", options.payloadPath])[index]? := by
    intro index
    rw [← drop_arguments, List.getElem?_drop]
    rfl
  exact
    { length := length_arguments options
      before := getElem?_arguments_of_lt options (by decide)
      extra := fun index hindex => by rw [hplaced, List.getElem?_append_left hindex]
      after := by rw [hplaced, List.getElem?_append_right (Nat.le_refl _), Nat.sub_self]; rfl
      last := getLast?_arguments options
      decoded := ofArguments?_arguments options
      determined := fun other => by
        refine ⟨fun heq => ?_, congrArg arguments⟩
        have hdecoded := ofArguments?_arguments options
        rw [heq, ofArguments?_arguments] at hdecoded
        exact (Option.some.inj hdecoded).symm }

end Overseer.Options
