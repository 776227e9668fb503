import MultiCluster.Kube.Shape

/-! Shapes of containers and of what they are run with. -/
namespace MultiCluster.Kube.Shape

def reference : Shape := object [always "name" text]

/-- One field of the object itself. -/
def ownField : Shape := object [opt "apiVersion" text, always "fieldPath" text]

/-- One resource of a container. -/
def ownResource : Shape :=
  object [opt "containerName" text, opt "divisor" text, always "resource" text]

/-- The value under a key of another object. -/
def keyOfObject : Shape := object (alls text ["key", "name"] ++ [opt "optional" flag])

/-- All values of another object. -/
def allOfObject : Shape := object [always "name" text, opt "optional" flag]

/-- A variable of the environment. -/
def environmentEntry : Shape :=
  object [
    always "name" text, opt "value" text,
    opt "valueFrom" (object [
      opt "configMapKeyRef" keyOfObject, opt "fieldRef" ownField,
      opt "resourceFieldRef" ownResource, opt "secretKeyRef" keyOfObject])]

/-- Variables that all come from one place. -/
def environmentSource : Shape :=
  object [opt "configMapRef" allOfObject, opt "prefix" text, opt "secretRef" allOfObject]

def command : Shape := object [opt "command" (list text)]

def httpRequest : Shape :=
  object (opts text ["host", "path", "scheme"] ++ [
    opt "httpHeaders" (objects (alls text ["name", "value"])), always "port" numberOrText])

def connection : Shape := object [opt "host" text, always "port" numberOrText]

/-- What is done when a container starts or stops. -/
def handler : Shape :=
  object [
    opt "exec" command, opt "httpGet" httpRequest, opt "sleep" (object [always "seconds" int64]),
    opt "tcpSocket" connection]

def probe : Shape :=
  object (opts int32 ["failureThreshold", "initialDelaySeconds", "periodSeconds",
      "successThreshold", "timeoutSeconds"] ++ [
    opt "exec" command, opt "grpc" (object [always "port" int32, opt "service" text]),
    opt "httpGet" httpRequest, opt "tcpSocket" connection,
    opt "terminationGracePeriodSeconds" int64])

def resources : Shape :=
  object [
    opt "claims" (objects [always "name" text, opt "request" text]), opt "limits" texts,
    opt "requests" texts]

def profile : Shape := object [opt "localhostProfile" text, always "type" text]

def securityLabel : Shape := object (opts text ["level", "role", "type", "user"])

def windows : Shape :=
  object (opts text ["gmsaCredentialSpec", "gmsaCredentialSpecName", "runAsUserName"] ++
    [opt "hostProcess" flag])

def containerRights : Shape :=
  object (
    opts flag ["allowPrivilegeEscalation", "privileged", "readOnlyRootFilesystem",
      "runAsNonRoot"] ++
    opts int64 ["runAsGroup", "runAsUser"] ++
    opts profile ["appArmorProfile", "seccompProfile"] ++ [
      opt "capabilities" (object (opts (list text) ["add", "drop"])), opt "procMount" text,
      opt "seLinuxOptions" securityLabel, opt "windowsOptions" windows])

def containerFields : List (String × Bool × Shape) :=
  opts (list text) ["args", "command"] ++
  opts text ["image", "imagePullPolicy", "restartPolicy", "terminationMessagePath",
    "terminationMessagePolicy", "workingDir"] ++
  opts flag ["stdin", "stdinOnce", "tty"] ++
  opts probe ["livenessProbe", "readinessProbe", "startupProbe"] ++ [
    opt "env" (list environmentEntry), opt "envFrom" (list environmentSource),
    opt "lifecycle" (object (opts handler ["postStart", "preStop"])), always "name" text,
    opt "ports" (objects (always "containerPort" int32 :: opt "hostPort" int32 ::
      opts text ["hostIP", "name", "protocol"])),
    opt "resizePolicy" (objects (alls text ["resourceName", "restartPolicy"])),
    opt "resources" resources, opt "securityContext" containerRights,
    opt "volumeDevices" (objects (alls text ["devicePath", "name"])),
    opt "volumeMounts" (objects (alls text ["mountPath", "name"] ++
      opts text ["mountPropagation", "recursiveReadOnly", "subPath", "subPathExpr"] ++
      [opt "readOnly" flag]))]

def container : Shape := object containerFields

/-- A container that is added to a running pod. -/
def addedContainer : Shape := object (containerFields ++ [opt "targetContainerName" text])

end MultiCluster.Kube.Shape
