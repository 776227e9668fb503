import MultiCluster.Json.Decode

/-! Health of a member cluster. -/
namespace MultiCluster

/-- A cluster is normal when its nodes could be listed, abnormal when not, unknown before that. -/
inductive Health where
  | unknown
  | normal
  | abnormal
  deriving DecidableEq, Repr

namespace Health

def text : Health → String
  | .unknown => "Unknown"
  | .normal => "Normal"
  | .abnormal => "Abnormal"

def toJson (h : Health) : Json := .str h.text

def ofJson : Json.Decoder Health :=
  Json.Decode.named [("Unknown", .unknown), ("Normal", .normal), ("Abnormal", .abnormal)]
    "a health status"

end Health
end MultiCluster
