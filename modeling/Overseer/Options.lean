import Overseer.Environment
import Overseer.Text.Blank

namespace Overseer

open Overseer.Text

def defaultMemoryLimit : String := "512m"

structure Options where
  runtimeHome : String
  memoryLimit : String
  mountPath : String
  dataPath : String
  webuiPath : String
  payloadPath : String
  extraFlags : List String
deriving DecidableEq

namespace Options

def empty : Options := ⟨"", "", "", "", "", "", []⟩

def new (runtimeHome payloadPath : String) : Options :=
  { empty with
    runtimeHome := runtimeHome
    memoryLimit := defaultMemoryLimit
    payloadPath := payloadPath }

-- An unset variable leaves its field empty; only the memory limit has a value
-- of its own to fall back on. Nothing is checked here.
def ofEnvironment (environment : Environment) : Options :=
  let value (name : String) := (environment.text? name).getD ""
  { runtimeHome := value "LAUNCHER_RUNTIME_HOME"
    memoryLimit := (environment.text? "LAUNCHER_MEMORY_LIMIT").getD defaultMemoryLimit
    mountPath := value "LAUNCHER_MOUNT_PATH"
    dataPath := value "LAUNCHER_DATA_PATH"
    webuiPath := value "LAUNCHER_WEBUI_PATH"
    payloadPath := value "LAUNCHER_PAYLOAD_PATH"
    extraFlags := (words (value "LAUNCHER_EXTRA_FLAGS").toList).map String.ofList }

def executable (options : Options) : String := options.runtimeHome ++ "/bin/java"

def tuningFlags : List String := ["--enable-preview", "-XX:+UseZGC", "-XX:+ZGenerational"]

def featureFlags : List String :=
  ["--add-exports", "java.base/sun.nio.ch=ALL-UNNAMED",
    "--add-exports", "java.base/jdk.internal.access=ALL-UNNAMED",
    "-Ddhfs.objects.writeback.limit=134217728",
    "-Ddhfs.objects.lru.limit=134217728"]

def pathFlags (options : Options) : List String :=
  ["-Ddhfs.fuse.root=" ++ options.mountPath,
    "-Ddhfs.objects.persistence.files.root=" ++ options.dataPath,
    "-Ddhfs.webui.root=" ++ options.webuiPath]

def arguments (options : Options) : List String :=
  [options.executable] ++ tuningFlags ++ ["-Xmx" ++ options.memoryLimit] ++ featureFlags ++
    options.pathFlags ++ options.extraFlags ++ ["-jar", options.payloadPath]

end Options

end Overseer
