import MultiCluster.Text.Quoted

/-! Named metrics of nodes and the query expressions behind them. -/
namespace MultiCluster

/-- A query expression over recorded series, each of which takes a label filter. -/
inductive Formula where
  | series (name : String)
  | times (left right : Formula)
  | minus (left right : Formula)
  | rounded (value : Formula) (unit : String)
  deriving DecidableEq, Repr

namespace Formula

/-- The text of an expression whose series all have the given filter. -/
def text (filter : String) : Formula → String
  | series name => name ++ "\x7b" ++ filter ++ "\x7d"
  | times l r => l.text filter ++ " * " ++ r.text filter
  | minus l r => l.text filter ++ " - " ++ r.text filter
  | rounded value unit => "round(" ++ value.text filter ++ ", " ++ unit ++ ")"

end Formula

namespace Metric

/-- The share of busy processors. -/
def cpuUtilisation : Formula := .series "node:node_cpu_utilisation:avg1m"

def cpuTotal : Formula := .series "node:node_num_cpu:sum"

def memoryAvailable : Formula := .series "node:node_memory_bytes_available:sum"

def memoryTotal : Formula := .series "node:node_memory_bytes_total:sum"

/-- The metrics by name. -/
def catalogue : List (String × Formula) :=
  [("node_cpu_utilisation", cpuUtilisation),
   ("node_cpu_total", cpuTotal),
   ("node_cpu_usage", .rounded (.times cpuUtilisation cpuTotal) "0.001"),
   ("node_memory_utilisation", .series "node:node_memory_utilisation:"),
   ("node_memory_available", memoryAvailable),
   ("node_memory_total", memoryTotal),
   ("node_memory_usage_wo_cache", .minus memoryTotal memoryAvailable),
   ("node_net_utilisation", .series "node:node_net_utilisation:sum_irate"),
   ("node_net_bytes_transmitted", .series "node:node_net_bytes_transmitted:sum_irate"),
   ("node_net_bytes_received", .series "node:node_net_bytes_received:sum_irate"),
   ("node_disk_read_iops", .series "node:data_volume_iops_reads:sum"),
   ("node_disk_write_iops", .series "node:data_volume_iops_writes:sum"),
   ("node_disk_read_throughput", .series "node:data_volume_throughput_bytes_read:sum"),
   ("node_disk_write_throughput", .series "node:data_volume_throughput_bytes_written:sum"),
   ("node_disk_size_utilisation", .series "node:disk_space_utilization:ratio"),
   ("node_load1", .series "node:load1:ratio"),
   ("node_load5", .series "node:load5:ratio"),
   ("node_load15", .series "node:load15:ratio"),
   ("node_pod_count", .series "node:pod_count:sum"),
   ("node_pod_running_count", .series "node:pod_running:count")]

/-- A character inside a string literal of an expression. -/
def literalChar (c : Char) : List Char := if c = '\\' ∨ c = '"' then ['\\', c] else [c]

/-- The label filter that picks one node, or none. -/
def filter : Option String → String
  | some node => "node=\"" ++ String.ofList (node.toList.flatMap literalChar) ++ "\""
  | none => ""

/-- The expression of a named metric, restricted to a node if one is given. -/
def expression? (name : String) (node : Option String) : Option String :=
  (catalogue.lookup name).map (·.text (filter node))

end Metric
end MultiCluster
