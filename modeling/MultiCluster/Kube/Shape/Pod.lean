import MultiCluster.Kube.Shape.Volume

/-! Shapes of pods: where they run, what they may do and what is in them. -/
namespace MultiCluster.Kube.Shape

def nodeTerm : Shape :=
  let rule := objects (alls text ["key", "operator"] ++ [opt "values" (list text)])
  object (opts rule ["matchExpressions", "matchFields"])

def podTerm : Shape :=
  object (opts labelSelector ["labelSelector", "namespaceSelector"] ++
    opts (list text) ["matchLabelKeys", "mismatchLabelKeys", "namespaces"] ++
    [always "topologyKey" text])

/-- The field of what has to hold when a pod is given to a node. -/
def required (shape : Shape) : String × Bool × Shape :=
  opt "requiredDuringSchedulingIgnoredDuringExecution" shape

/-- The field of what should hold then. -/
def preferred (shape : Shape) : String × Bool × Shape :=
  opt "preferredDuringSchedulingIgnoredDuringExecution" shape

def podAffinity : Shape :=
  object [
    preferred (objects [always "podAffinityTerm" podTerm, always "weight" int32]),
    required (list podTerm)]

def affinity : Shape :=
  object [
    opt "nodeAffinity" (object [
      preferred (objects [always "preference" nodeTerm, always "weight" int32]),
      required (object [always "nodeSelectorTerms" (list nodeTerm)])]),
    opt "podAffinity" podAffinity, opt "podAntiAffinity" podAffinity]

def spread : Shape :=
  object (alls text ["topologyKey", "whenUnsatisfiable"] ++
    opts text ["nodeAffinityPolicy", "nodeTaintsPolicy"] ++ [
      opt "labelSelector" labelSelector, opt "matchLabelKeys" (list text),
      always "maxSkew" int32, opt "minDomains" int32])

def lookup : Shape :=
  object [
    opt "nameservers" (list text), opt "options" (objects (opts text ["name", "value"])),
    opt "searches" (list text)]

def podRights : Shape :=
  object (opts int64 ["fsGroup", "runAsGroup", "runAsUser"] ++
    opts text ["fsGroupChangePolicy", "seLinuxChangePolicy", "supplementalGroupsPolicy"] ++
    opts profile ["appArmorProfile", "seccompProfile"] ++ [
      opt "runAsNonRoot" flag, opt "seLinuxOptions" securityLabel,
      opt "supplementalGroups" (list int64),
      opt "sysctls" (objects (alls text ["name", "value"])), opt "windowsOptions" windows])

def toleration : Shape :=
  object (opts text ["effect", "key", "operator", "value"] ++ [opt "tolerationSeconds" int64])

def podSpec : Shape :=
  object (
    opts int64 ["activeDeadlineSeconds", "terminationGracePeriodSeconds"] ++
    opts flag ["automountServiceAccountToken", "enableServiceLinks", "hostIPC", "hostNetwork",
      "hostPID", "hostUsers", "setHostnameAsFQDN", "shareProcessNamespace"] ++
    opts text ["dnsPolicy", "hostname", "nodeName", "preemptionPolicy", "priorityClassName",
      "restartPolicy", "runtimeClassName", "schedulerName", "serviceAccount",
      "serviceAccountName", "subdomain"] ++
    opts texts ["nodeSelector", "overhead"] ++ [
      opt "affinity" affinity, always "containers" (list container), opt "dnsConfig" lookup,
      opt "ephemeralContainers" (list addedContainer),
      opt "hostAliases" (objects [opt "hostnames" (list text), always "ip" text]),
      opt "imagePullSecrets" (list reference), opt "initContainers" (list container),
      opt "os" (object [always "name" text]), opt "priority" int32,
      opt "readinessGates" (objects [always "conditionType" text]),
      opt "resourceClaims" (objects (always "name" text ::
        opts text ["resourceClaimName", "resourceClaimTemplateName"])),
      opt "resources" resources, opt "schedulingGates" (objects [always "name" text]),
      opt "securityContext" podRights, opt "tolerations" (list toleration),
      opt "topologySpreadConstraints" (list spread), opt "volumes" (list volume)])

def podTemplate : Shape := object [opt "metadata" metadata, opt "spec" podSpec]

end MultiCluster.Kube.Shape
