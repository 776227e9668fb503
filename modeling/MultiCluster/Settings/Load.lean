import MultiCluster.Settings
import MultiCluster.Toml.Parser

/-! Where settings come from: a file, then the environment, which wins. -/
namespace MultiCluster.Settings

open Text

/-- The sections of a settings file and the names of their values, in order. -/
def sections : List (String × List String) := [
  ("server", ["host", "port"]),
  ("registry", ["kubeconfig", "context", "request_timeout_secs"]),
  ("clusters", ["connect_timeout_secs", "request_timeout_secs", "list_concurrency"]),
  ("reconciler", ["enabled", "interval_secs", "page_size", "scope"]),
  ("monitoring", ["request_timeout_secs"]),
  ("logging", ["level", "log_dir", "json"])]

/-- A name that is written as the key of an empty table or list. -/
def plainName : Json → Json
  | .obj [(name, .obj [])] | .obj [(name, .arr [])] => .str name
  | j => j

/-- The value with a name, in the form in which it is read. -/
def plainValue (name : String) (value : Json) : Json :=
  if name = "scope" then plainName value else value

/-- A section in the form in which settings are read: values by position beyond the last one do not
count. -/
def plainSection (key : String) : Json → Json
  | .arr items => .arr (List.zipWith plainValue ((sections.lookup key).getD []) items)
  | .obj members => .obj (members.map fun m => (m.1, plainValue m.1 m.2))
  | j => j

/-- Reads settings from a text, with something that reads documents. -/
def readText (parse : String → Option Json) (content : String) : Except Fault Settings :=
  match parse content with
  | none => .error (.malformed "not a TOML document")
  | some (.obj members) =>
    (ofJson (.obj (members.map fun m => (m.1, plainSection m.1 m.2)))).mapError
      fun fault => .malformed fault.message
  | some _ => .error (.malformed "not a table")

def ofText : String → Except Fault Settings := readText Toml.parse?

/-- What was found where a settings file may be. -/
inductive File where
  | absent
  | unreadable (path reason : String)
  | content (text : String)
  deriving DecidableEq, Repr

/-- The settings in a file; all are defaults if there is none. -/
def File.settings (parse : String → Option Json) : File → Except Fault Settings
  | absent => .ok {}
  | unreadable path reason => .error (.unreadable path reason)
  | content text => readText parse text

/-- Values by name that the surroundings of the service set. -/
abbrev Environment := String → Option String

/-- What there is at a path: nothing, or something that has a text or gives a reason why it cannot be
read. -/
abbrev Disk := String → Option (Except String String)

/-- Where a settings file may be: first where the environment says. -/
def places (env : Environment) : List String :=
  (env "KUBEFLEET_CONFIG").toList ++ ["/etc/kubefleet/config.toml", "./kubefleet.toml"]

/-- What a path leads to, if it leads anywhere. -/
def Disk.file? (disk : Disk) (path : String) : Option File :=
  (disk path).map fun
    | .ok text => .content text
    | .error reason => .unreadable path reason

/-- The settings file: the first that there is. -/
def Disk.find (disk : Disk) (env : Environment) : File :=
  ((places env).findSome? disk.file?).getD .absent

/-- Changes settings by a value of the environment, if it is set. -/
def override (env : Environment) (name : String)
    (change : String → Settings → Except Fault Settings)
    (s : Settings) : Except Fault Settings :=
  match env name with
  | some value => change value s
  | none => .ok s

/-- Changes settings by a number of the environment. -/
def overrideNumber (env : Environment) (name : String) (width : Nat)
    (change : Nat → Settings → Settings) : Settings → Except Fault Settings :=
  override env name fun value s =>
    match readUnsigned width value.toList with
    | some n => .ok (change n s)
    | none => .error (.invalid s!"{name} has invalid value '{value}'")

/-- The settings with all values that the environment sets. The first value that cannot be read is
reported. -/
def withEnvironment (env : Environment) (s : Settings) : Except Fault Settings := do
  let s ← override env "KUBEFLEET_HOST" (fun v s =>
    .ok { s with server := { s.server with host := v } }) s
  let s ← overrideNumber env "KUBEFLEET_PORT" 16 (fun n s =>
    { s with server := { s.server with port := n } }) s
  let s ← override env "KUBEFLEET_REGISTRY_KUBECONFIG" (fun v s =>
    .ok { s with registry := { s.registry with kubeconfig := some v } }) s
  let s ← overrideNumber env "KUBEFLEET_RECONCILE_INTERVAL" 64 (fun n s =>
    { s with reconciler := { s.reconciler with interval := n } }) s
  let s ← overrideNumber env "KUBEFLEET_RECONCILE_PAGE_SIZE" 32 (fun n s =>
    { s with reconciler := { s.reconciler with pageSize := n } }) s
  let s ← override env "KUBEFLEET_RECONCILE_SCOPE" (fun v s => do
    return { s with reconciler := { s.reconciler with scope := ← readScope v } }) s
  let s ← override env "KUBEFLEET_LOG_LEVEL" (fun v s =>
    .ok { s with logging := { s.logging with level := v } }) s
  override env "KUBEFLEET_LOG_DIR" (fun v s =>
    .ok { s with logging := { s.logging with directory := some v } }) s

/-- The settings of a file and an environment, if they make sense. -/
def File.load (parse : String → Option Json) (file : File) (env : Environment) :
    Except Fault Settings := do
  let s ← file.settings parse
  let s ← s.withEnvironment env
  s.validate
  return s

/-- The settings of the first file that there is and of the environment. -/
def loadBy (parse : String → Option Json) (disk : Disk) (env : Environment) :
    Except Fault Settings :=
  (disk.find env).load parse env

def load : Disk → Environment → Except Fault Settings := loadBy Toml.parse?

end MultiCluster.Settings
