import MultiCluster.Json.Decode
import MultiCluster.Sweep

/-! Settings of the service: what can be set, with defaults, and which values make no sense. -/
namespace MultiCluster

/-- Where the service listens. -/
structure ListenerSettings where
  host : String := "0.0.0.0"
  port : Nat := 9000
  deriving DecidableEq, Repr

/-- How the management cluster is reached. -/
structure RegistrySettings where
  kubeconfig : Option String := none
  context : Option String := none
  requestTimeout : Nat := 30
  deriving DecidableEq, Repr

/-- Limits for member clusters; times are in seconds. -/
structure ClusterSettings where
  connectTimeout : Nat := 10
  requestTimeout : Nat := 30
  listConcurrency : Nat := 8
  deriving DecidableEq, Repr

/-- How the totals are kept up to date. -/
structure SweepSettings where
  enabled : Bool := true
  interval : Nat := 60
  pageSize : Nat := PageRequest.defaultSize
  scope : Scope := .all
  deriving DecidableEq, Repr

/-- Limits for monitoring. -/
structure MonitoringSettings where
  requestTimeout : Nat := 30
  deriving DecidableEq, Repr

/-- What is logged, and where. -/
structure LoggingSettings where
  level : String := "info"
  directory : Option String := none
  json : Bool := false
  deriving DecidableEq, Repr

/-- All settings. -/
structure Settings where
  server : ListenerSettings := {}
  registry : RegistrySettings := {}
  clusters : ClusterSettings := {}
  reconciler : SweepSettings := {}
  monitoring : MonitoringSettings := {}
  logging : LoggingSettings := {}
  deriving DecidableEq, Repr

namespace Settings

/-- Why there are no settings. -/
inductive Fault where
  /-- The file cannot be read. -/
  | unreadable (path reason : String)
  /-- The file does not hold settings. -/
  | malformed (reason : String)
  /-- A value makes no sense. -/
  | invalid (reason : String)
  deriving DecidableEq, Repr

def Fault.message : Fault → String
  | unreadable path reason => s!"Failed to read config file {Text.quoted path}: {reason}"
  | malformed reason => s!"Failed to parse config: {reason}"
  | invalid reason => s!"Config validation failed: {reason}"

open Json (Decoder)
open Json.Decode (record text bool nat nullable named)

def scopeOf : Decoder Scope :=
  named [(Scope.all.text, .all), (Scope.firstPage.text, .firstPage)] "a scope"

/-! Reading settings: what is not given has its default. -/

def listener : Decoder ListenerSettings :=
  record "server settings" [["host"], ["port"]] fun f => do
    let d : ListenerSettings := {}
    return { host := ← f.withDefault 0 text d.host, port := ← f.withDefault 1 (nat 16) d.port }

def registryAccess : Decoder RegistrySettings :=
  record "registry settings" [["kubeconfig"], ["context"], ["request_timeout_secs"]] fun f => do
    let d : RegistrySettings := {}
    return {
      kubeconfig := ← f.withDefault 0 (nullable text) d.kubeconfig
      context := ← f.withDefault 1 (nullable text) d.context
      requestTimeout := ← f.withDefault 2 (nat 64) d.requestTimeout }

def clusterLimits : Decoder ClusterSettings :=
  record "cluster settings"
    [["connect_timeout_secs"], ["request_timeout_secs"], ["list_concurrency"]] fun f => do
    let d : ClusterSettings := {}
    return {
      connectTimeout := ← f.withDefault 0 (nat 64) d.connectTimeout
      requestTimeout := ← f.withDefault 1 (nat 64) d.requestTimeout
      listConcurrency := ← f.withDefault 2 (nat 64) d.listConcurrency }

def sweeps : Decoder SweepSettings :=
  record "reconciler settings" [["enabled"], ["interval_secs"], ["page_size"], ["scope"]] fun f => do
    let d : SweepSettings := {}
    return {
      enabled := ← f.withDefault 0 bool d.enabled
      interval := ← f.withDefault 1 (nat 64) d.interval
      pageSize := ← f.withDefault 2 (nat 32) d.pageSize
      scope := ← f.withDefault 3 scopeOf d.scope }

def monitoringLimits : Decoder MonitoringSettings :=
  record "monitoring settings" [["request_timeout_secs"]] fun f => do
    let d : MonitoringSettings := {}
    return { requestTimeout := ← f.withDefault 0 (nat 64) d.requestTimeout }

def log : Decoder LoggingSettings :=
  record "logging settings" [["level"], ["log_dir"], ["json"]] fun f => do
    let d : LoggingSettings := {}
    return {
      level := ← f.withDefault 0 text d.level
      directory := ← f.withDefault 1 (nullable text) d.directory
      json := ← f.withDefault 2 bool d.json }

def ofJson : Decoder Settings :=
  record "settings"
    [["server"], ["registry"], ["clusters"], ["reconciler"], ["monitoring"], ["logging"]]
    fun f => do
    return {
      server := ← f.withDefault 0 listener {}
      registry := ← f.withDefault 1 registryAccess {}
      clusters := ← f.withDefault 2 clusterLimits {}
      reconciler := ← f.withDefault 3 sweeps {}
      monitoring := ← f.withDefault 4 monitoringLimits {}
      logging := ← f.withDefault 5 log {} }

def toJson (s : Settings) : Json :=
  .obj [
    ("server", .obj [("host", .str s.server.host), ("port", .int s.server.port)]),
    ("registry", .obj [("kubeconfig", .ofText? s.registry.kubeconfig),
      ("context", .ofText? s.registry.context),
      ("request_timeout_secs", .int s.registry.requestTimeout)]),
    ("clusters", .obj [("connect_timeout_secs", .int s.clusters.connectTimeout),
      ("request_timeout_secs", .int s.clusters.requestTimeout),
      ("list_concurrency", .int s.clusters.listConcurrency)]),
    ("reconciler", .obj [("enabled", .bool s.reconciler.enabled),
      ("interval_secs", .int s.reconciler.interval), ("page_size", .int s.reconciler.pageSize),
      ("scope", .str s.reconciler.scope.text)]),
    ("monitoring", .obj [("request_timeout_secs", .int s.monitoring.requestTimeout)]),
    ("logging", .obj [("level", .str s.logging.level), ("log_dir", .ofText? s.logging.directory),
      ("json", .bool s.logging.json)])]

/-- The first of some values that is zero, by name. -/
def firstZero (values : List (String × Nat)) : Option String :=
  (values.find? fun v => v.2 == 0).map (·.1)

/-- Refuses settings without a port, an interval, a page size or a limit of time. -/
def validate (s : Settings) : Except Fault Unit := do
  if s.server.port = 0 then throw (.invalid "Port cannot be 0")
  if s.reconciler.interval = 0 then
    throw (.invalid "Reconcile interval must be at least one second")
  if s.reconciler.pageSize = 0 then throw (.invalid "Reconcile page size cannot be 0")
  let limits := [
    ("registry.request_timeout_secs", s.registry.requestTimeout),
    ("clusters.connect_timeout_secs", s.clusters.connectTimeout),
    ("clusters.request_timeout_secs", s.clusters.requestTimeout),
    ("monitoring.request_timeout_secs", s.monitoring.requestTimeout)]
  match firstZero limits with
  | some name => throw (.invalid s!"{name} cannot be 0")
  | none => return ()

def readScope (name : String) : Except Fault Scope :=
  match Scope.parse? name with
  | some scope => .ok scope
  | none => .error (.invalid s!"unknown reconcile scope '{name}'")

end Settings
end MultiCluster
