import HostPreflight.Json.Number
import HostPreflight.Json.Record
import HostPreflight.Path

/-!
# Settings

The thresholds of the checks and the places where the host's answers are found.

## Main definitions

* `Settings` — the settings of a run; `Settings.default`.
* `Settings.libraryDirectory?` — where the installed libraries are.
* `Settings.statusScript?` — where the device binding utility is.
-/

namespace HostPreflight

/-- The version of this program. -/
def version : String := "0.1.0"

/-- The environment variable that names the installation root. -/
def rootVariable : String := "RTE_SDK"

/-- The settings of a run. -/
structure Settings where
  /-- The installation root of the dataplane. -/
  rteSdk : Option String
  /-- The least number of logical processors. -/
  minCores : UInt64
  /-- The least free memory in decimal gigabytes. -/
  minFreeMemoryGb : Double
  /-- The command that lists the processors: the program and its arguments. -/
  topologyCommand : List String
  /-- Where the kernel's memory table is. -/
  meminfoPath : String
  deriving DecidableEq

namespace Settings

/-- The least number of logical processors, unless set otherwise. -/
def defaultMinCores : UInt64 := 4

/-- The least free memory, unless set otherwise. -/
def defaultMinFreeMemoryGb : Double := 4

/-- Where the kernel keeps its memory table. -/
def defaultMeminfoPath : String := "/proc/meminfo"

/-- The settings without any installation root. -/
def default : Settings where
  rteSdk := none
  minCores := defaultMinCores
  minFreeMemoryGb := defaultMinFreeMemoryGb
  topologyCommand := ["lscpu", "-p"]
  meminfoPath := defaultMeminfoPath

instance : Inhabited Settings := ⟨default⟩

/-- Where the device binding utility is, seen from the installation root. -/
def statusScript : String := "usertools/dpdk-devbind.py"

/-- The directory of the installed libraries. -/
def libraryDirectory? (settings : Settings) : Option String :=
  settings.rteSdk.map fun root => Path.join (Path.join root "build") "lib"

/-- The path of the device binding utility. -/
def statusScript? (settings : Settings) : Option String :=
  settings.rteSdk.map fun root => Path.join root statusScript

/-- The JSON value of settings. -/
def toJson (settings : Settings) : Json :=
  .record [
    ("rte_sdk", .ofOption .text settings.rteSdk),
    ("min_cores", .count settings.minCores.toNat),
    ("min_free_memory_gb", .ofDouble settings.minFreeMemoryGb),
    ("topology_command", .array (settings.topologyCommand.map Json.text)),
    ("meminfo_path", .text settings.meminfoPath)]

/-- The names of the fields in JSON. -/
def fieldNames : List String :=
  ["rte_sdk", "min_cores", "min_free_memory_gb", "topology_command", "meminfo_path"]

/-- Reads settings. -/
def ofJson? (v : Json) : Option Settings := do
  match ← v.fields? fieldNames with
  | [root, cores, memory, command, meminfo] =>
    return {
      rteSdk := ← Json.optional Json.text? root
      minCores := ← Json.required Json.word64? cores
      minFreeMemoryGb := ← Json.required Json.double? memory
      topologyCommand := ← Json.required (Json.list? Json.text?) command
      meminfoPath := ← Json.required Json.text? meminfo }
  | _ => none

end Settings

end HostPreflight
