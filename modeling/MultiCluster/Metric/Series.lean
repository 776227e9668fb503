import MultiCluster.Json.Decode
import MultiCluster.Binary64.Reading

/-! Time series as monitoring answers them. -/
namespace MultiCluster

/-- One measurement: when, in seconds since 1970, and what. -/
structure Point where
  timestamp : Binary64
  value : Binary64
  deriving DecidableEq, Repr

/-- Measurements under the labels that tell them from others. -/
structure Series where
  labels : List (String × String)
  points : List Point
  deriving DecidableEq, Repr

namespace Series

def pointToJson (p : Point) : Json :=
  .obj [("timestamp", .real p.timestamp), ("value", .real p.value)]

def toJson (s : Series) : Json :=
  .obj [("labels", .ofTexts s.labels), ("points", .arr (s.points.map pointToJson))]

/-- The measurement in a written sample; a value that is no number is dropped. -/
def point? (sample : Binary64 × String) : Option Point :=
  (Binary64.parse? sample.2).map fun value => ⟨sample.1, value⟩

/-- A series with the measurements of its samples, in order. -/
def ofSamples (labels : List (String × String)) (samples : List (Binary64 × String)) : Series :=
  ⟨labels, samples.filterMap point?⟩

end Series
end MultiCluster
