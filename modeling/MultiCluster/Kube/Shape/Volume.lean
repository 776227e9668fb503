import MultiCluster.Kube.Shape.Container

/-! Shapes of volumes: one source of many kinds. -/
namespace MultiCluster.Kube.Shape

def items : Shape :=
  objects (alls text ["key", "path"] ++ [opt "mode" int32])

/-- Files from fields of the object itself. -/
def ownItems : Shape :=
  objects [
    opt "fieldRef" ownField, opt "mode" int32, always "path" text,
    opt "resourceFieldRef" ownResource]

/-- Some values of another object. -/
def someOfObject : Shape := object [opt "items" items, always "name" text, opt "optional" flag]

/-- A claim for a volume, made together with the pod. -/
def claimTemplate : Shape :=
  object [
    opt "metadata" metadata,
    always "spec" (object (
      opts text ["storageClassName", "volumeAttributesClassName", "volumeMode", "volumeName"] ++ [
        opt "accessModes" (list text),
        opt "dataSource" (object (opt "apiGroup" text :: alls text ["kind", "name"])),
        opt "dataSourceRef" (object (opts text ["apiGroup", "namespace"] ++
          alls text ["kind", "name"])),
        opt "resources" (object (opts texts ["limits", "requests"])),
        opt "selector" labelSelector]))]

/-- What several sources put together hold. -/
def projection : Shape :=
  object [
    opt "clusterTrustBundle" (object (opts text ["name", "signerName"] ++ [
      opt "labelSelector" labelSelector, opt "optional" flag, always "path" text])),
    opt "configMap" someOfObject, opt "downwardAPI" (object [opt "items" ownItems]),
    opt "secret" someOfObject,
    opt "serviceAccountToken" (object [
      opt "audience" text, opt "expirationSeconds" int64, always "path" text])]

/-- Sources within the cluster. -/
def innerSources : List (String × Bool × Shape) :=
  [
    opt "configMap" (object [
      opt "defaultMode" int32, opt "items" items, always "name" text, opt "optional" flag]),
    opt "downwardAPI" (object [opt "defaultMode" int32, opt "items" ownItems]),
    opt "emptyDir" (object (opts text ["medium", "sizeLimit"])),
    opt "ephemeral" (object [opt "volumeClaimTemplate" claimTemplate]),
    opt "hostPath" (object [always "path" text, opt "type" text]),
    opt "image" (object (opts text ["pullPolicy", "reference"])),
    opt "persistentVolumeClaim" (object [always "claimName" text, opt "readOnly" flag]),
    opt "projected" (object [opt "defaultMode" int32, opt "sources" (list projection)]),
    opt "secret" (object [
      opt "defaultMode" int32, opt "items" items, opt "optional" flag, opt "secretName" text])]

/-- A source with texts that must be there, texts that may be, a mark for reading only and other
fields. -/
def source (given possible : List String) (others : List (String × Bool × Shape)) : Shape :=
  object (alls text given ++ opts text possible ++ [opt "readOnly" flag] ++ others)

/-- A name of the object with the secrets of a source. -/
def secretName : List (String × Bool × Shape) := [opt "secretRef" reference]

/-- Sources outside the cluster. -/
def outerSources : List (String × Bool × Shape) :=
  [
    opt "awsElasticBlockStore" (source ["volumeID"] ["fsType"] [opt "partition" int32]),
    opt "azureDisk" (source ["diskName", "diskURI"] ["cachingMode", "fsType", "kind"] []),
    opt "azureFile" (source ["secretName", "shareName"] [] []),
    opt "cephfs" (source [] ["path", "secretFile", "user"]
      (always "monitors" (list text) :: secretName)),
    opt "cinder" (source ["volumeID"] ["fsType"] secretName),
    opt "csi" (source ["driver"] ["fsType"] [
      opt "nodePublishSecretRef" reference, opt "volumeAttributes" texts]),
    opt "fc" (source [] ["fsType"] (opt "lun" int32 :: opts (list text) ["targetWWNs", "wwids"])),
    opt "flexVolume" (source ["driver"] ["fsType"] (opt "options" texts :: secretName)),
    opt "flocker" (object (opts text ["datasetName", "datasetUUID"])),
    opt "gcePersistentDisk" (source ["pdName"] ["fsType"] [opt "partition" int32]),
    opt "gitRepo" (object (opts text ["directory", "revision"] ++ [always "repository" text])),
    opt "glusterfs" (source ["endpoints", "path"] [] []),
    opt "iscsi" (source ["iqn", "targetPortal"] ["fsType", "initiatorName", "iscsiInterface"]
      (opts flag ["chapAuthDiscovery", "chapAuthSession"] ++
        [always "lun" int32, opt "portals" (list text)] ++ secretName)),
    opt "nfs" (source ["path", "server"] [] []),
    opt "photonPersistentDisk" (object [opt "fsType" text, always "pdID" text]),
    opt "portworxVolume" (source ["volumeID"] ["fsType"] []),
    opt "quobyte" (source ["registry", "volume"] ["group", "tenant", "user"] []),
    opt "rbd" (source ["image"] ["fsType", "keyring", "pool", "user"]
      (always "monitors" (list text) :: secretName)),
    opt "scaleIO" (source ["gateway", "system"]
      ["fsType", "protectionDomain", "storageMode", "storagePool", "volumeName"]
      [always "secretRef" reference, opt "sslEnabled" flag]),
    opt "storageos" (source [] ["fsType", "volumeName", "volumeNamespace"] secretName),
    opt "vsphereVolume" (object (opts text ["fsType", "storagePolicyID", "storagePolicyName"] ++
      [always "volumePath" text]))]

def volume : Shape := object (always "name" text :: innerSources ++ outerSources)

end MultiCluster.Kube.Shape
