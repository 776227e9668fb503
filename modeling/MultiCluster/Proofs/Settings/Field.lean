import MultiCluster.Settings

/-! What can be set, as data: sixteen fields in six sections, each with the kind of its values.
Settings are a value for every field. -/
namespace MultiCluster.Settings

/-- What the values of a field are like. -/
inductive Kind where
  | text
  | optionalText
  | number (width : Nat)
  | flag
  | scope

def Kind.Value : Kind → Type
  | text => String
  | optionalText => Option String
  | number _ => Nat
  | flag => Bool
  | scope => Scope

inductive Section where
  | server
  | registry
  | clusters
  | reconciler
  | monitoring
  | logging
  deriving DecidableEq

inductive Field where
  | host
  | port
  | kubeconfig
  | context
  | registryTimeout
  | connectTimeout
  | clusterTimeout
  | concurrency
  | enabled
  | interval
  | pageSize
  | scope
  | monitoringTimeout
  | level
  | directory
  | json
  deriving DecidableEq

namespace Field

def kind : Field → Kind
  | host | level => .text
  | kubeconfig | context | directory => .optionalText
  | port => .number 16
  | pageSize => .number 32
  | registryTimeout | connectTimeout | clusterTimeout | concurrency | interval
  | monitoringTimeout => .number 64
  | enabled | json => .flag
  | scope => .scope

abbrev Value (f : Field) : Type := f.kind.Value

/-- The section of a settings file that a field is in. -/
def home : Field → Section
  | host | port => .server
  | kubeconfig | context | registryTimeout => .registry
  | connectTimeout | clusterTimeout | concurrency => .clusters
  | enabled | interval | pageSize | scope => .reconciler
  | monitoringTimeout => .monitoring
  | level | directory | json => .logging

/-- The name of a field within its section. -/
def key : Field → String
  | host => "host"
  | port => "port"
  | kubeconfig => "kubeconfig"
  | context => "context"
  | registryTimeout | clusterTimeout | monitoringTimeout => "request_timeout_secs"
  | connectTimeout => "connect_timeout_secs"
  | concurrency => "list_concurrency"
  | enabled => "enabled"
  | interval => "interval_secs"
  | pageSize => "page_size"
  | scope => "scope"
  | level => "level"
  | directory => "log_dir"
  | json => "json"

end Field

namespace Section

def name : Section → String
  | server => "server"
  | registry => "registry"
  | clusters => "clusters"
  | reconciler => "reconciler"
  | monitoring => "monitoring"
  | logging => "logging"

/-- The fields of a section, in the order in which a list gives them. -/
def fields : Section → List Field
  | server => [.host, .port]
  | registry => [.kubeconfig, .context, .registryTimeout]
  | clusters => [.connectTimeout, .clusterTimeout, .concurrency]
  | reconciler => [.enabled, .interval, .pageSize, .scope]
  | monitoring => [.monitoringTimeout]
  | logging => [.level, .directory, .json]

def all : List Section := [server, registry, clusters, reconciler, monitoring, logging]

theorem mem_all (x : Section) : x ∈ all := by
  cases x <;> decide

theorem mem_fields_iff {x : Section} {f : Field} : f ∈ x.fields ↔ f.home = x := by
  cases x <;> cases f <;> decide

end Section

/-- The value of a field. -/
def get (s : Settings) : (f : Field) → f.Value
  | .host => s.server.host
  | .port => s.server.port
  | .kubeconfig => s.registry.kubeconfig
  | .context => s.registry.context
  | .registryTimeout => s.registry.requestTimeout
  | .connectTimeout => s.clusters.connectTimeout
  | .clusterTimeout => s.clusters.requestTimeout
  | .concurrency => s.clusters.listConcurrency
  | .enabled => s.reconciler.enabled
  | .interval => s.reconciler.interval
  | .pageSize => s.reconciler.pageSize
  | .scope => s.reconciler.scope
  | .monitoringTimeout => s.monitoring.requestTimeout
  | .level => s.logging.level
  | .directory => s.logging.directory
  | .json => s.logging.json

/-- Settings made of a value for every field. -/
def ofValues (value : (f : Field) → f.Value) : Settings where
  server := ⟨value .host, value .port⟩
  registry := ⟨value .kubeconfig, value .context, value .registryTimeout⟩
  clusters := ⟨value .connectTimeout, value .clusterTimeout, value .concurrency⟩
  reconciler := ⟨value .enabled, value .interval, value .pageSize, value .scope⟩
  monitoring := ⟨value .monitoringTimeout⟩
  logging := ⟨value .level, value .directory, value .json⟩

@[simp]
theorem get_ofValues (value : (f : Field) → f.Value) : (ofValues value).get = value := by
  funext f
  cases f <;> rfl

@[simp]
theorem ofValues_get (s : Settings) : ofValues s.get = s := rfl

/-- Settings with the same value for every field are the same. -/
theorem eq_of_get {s t : Settings} (h : ∀ f, s.get f = t.get f) : s = t := by
  rw [← ofValues_get s, funext h, ofValues_get]

/-- The value of a field that nothing sets. -/
def Field.default (f : Field) : f.Value := get {} f

/-- A value for some of the fields. -/
abbrev Layer := (f : Field) → Option f.Value

end MultiCluster.Settings
