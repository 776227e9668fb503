import MultiCluster.Settings

/-! Settings written out as a file. -/
namespace MultiCluster.Settings

/-- A value in a settings file. -/
inductive Value where
  | number (n : Nat)
  | flag (b : Bool)
  | text (s : String)

/-- The text of a value. Names and addresses are written as they are, between quotes. -/
def Value.render : Value → String
  | number n => toString n
  | flag b => if b then "true" else "false"
  | text s => "\"" ++ s ++ "\""

/-- A line for a value that is set. -/
def line? (key : String) (value : Option Value) : Option String :=
  value.map fun v => s!"{key} = {v.render}\n"

def sectionText (name : String) (lines : List (Option String)) : String :=
  s!"[{name}]\n" ++ String.join (lines.filterMap id)

/-- The settings as the text of a file. -/
def render (s : Settings) : String :=
  "\n".intercalate [
    sectionText "server" [line? "host" (some (.text s.server.host)),
      line? "port" (some (.number s.server.port))],
    sectionText "registry" [line? "kubeconfig" (s.registry.kubeconfig.map .text),
      line? "context" (s.registry.context.map .text),
      line? "request_timeout_secs" (some (.number s.registry.requestTimeout))],
    sectionText "clusters" [
      line? "connect_timeout_secs" (some (.number s.clusters.connectTimeout)),
      line? "request_timeout_secs" (some (.number s.clusters.requestTimeout)),
      line? "list_concurrency" (some (.number s.clusters.listConcurrency))],
    sectionText "reconciler" [line? "enabled" (some (.flag s.reconciler.enabled)),
      line? "interval_secs" (some (.number s.reconciler.interval)),
      line? "page_size" (some (.number s.reconciler.pageSize)),
      line? "scope" (some (.text s.reconciler.scope.text))],
    sectionText "monitoring" [
      line? "request_timeout_secs" (some (.number s.monitoring.requestTimeout))],
    sectionText "logging" [line? "level" (some (.text s.logging.level)),
      line? "log_dir" (s.logging.directory.map .text), line? "json" (some (.flag s.logging.json))]]

/-- A settings file to start from: all defaults. -/
def sample : String := render {}

end MultiCluster.Settings
