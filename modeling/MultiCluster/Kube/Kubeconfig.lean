import MultiCluster.Kube.Credentials
import MultiCluster.Kube.Request

/-! Kubeconfig documents: named clusters, users and contexts, and which server they lead to. -/
namespace MultiCluster.Kube

open Yaml.Decode (members optional perhaps required items text flag plain)

/-- What is said of one cluster. -/
structure ClusterEntry where
  server : Option String
  authorityFile : Option String
  authorityData : Option String
  proxy : Option String
  deriving DecidableEq, Repr

/-- A context: the names of a cluster and perhaps of a user. -/
structure Context where
  cluster : String
  user : Option String
  deriving DecidableEq, Repr

/-- What matters of a kubeconfig. -/
structure Kubeconfig where
  clusters : List (String × Option ClusterEntry)
  users : List (String × Option Credentials)
  contexts : List (String × Option Context)
  current : Option String
  kind : Option String
  apiVersion : Option String
  deriving DecidableEq, Repr

namespace Kubeconfig

/-- Why a kubeconfig leads to no server. -/
inductive Fault where
  /-- It cannot be read. -/
  | malformed
  | noContext
  | unknownContext (name : String)
  | contextWithoutCluster
  | unknownCluster (name : String)
  | noServer
  /-- The address of the server makes no sense, or what a client needs beside it cannot be had. -/
  | unusable
  deriving DecidableEq, Repr

/-- The reason given for the first kind of fault. -/
def malformedText : String := "malformed kubeconfig"

/-- The reason given for the last kind of fault. -/
def unusableText : String := "unusable server or credentials"

def Fault.message : Fault → String
  | malformed => malformedText
  | noContext => "no context specified and no current-context"
  | unknownContext name => s!"context '{name}' not found"
  | contextWithoutCluster => "context has no cluster reference"
  | unknownCluster name => s!"cluster '{name}' not found"
  | noServer => "cluster has no server URL"
  | unusable => unusableText

def empty : Kubeconfig := ⟨[], [], [], none, none, none⟩

/-- Checks a named thing of any kind. -/
def checkExtension : Yaml.Decoder Unit := fun v => do
  let ms ← members v
  let _ ← required ms "name" text
  let _ ← required ms "extension" plain
  return ()

/-- Reads an entry with a name and perhaps a value, whose key is given. -/
def entry {α : Type} (key : String) (item : Yaml.Decoder α) : Yaml.Decoder (String × Option α) :=
  fun v => do
    let ms ← members v
    return (← required ms "name" text, ← perhaps ms key item)

def clusterOf : Yaml.Decoder ClusterEntry := fun v => do
  let ms ← members v
  let field (key : String) : Option (Option String) := perhaps ms key text
  let server ← field "server"
  let _ ← perhaps ms "insecure-skip-tls-verify" flag
  let authorityFile ← field "certificate-authority"
  let authorityData ← field "certificate-authority-data"
  let proxy ← field "proxy-url"
  let _ ← perhaps ms "disable-compression" flag
  let _ ← field "tls-server-name"
  let _ ← items ms "extensions" checkExtension
  return { server, authorityFile, authorityData, proxy }

def contextOf : Yaml.Decoder Context := fun v => do
  let ms ← members v
  let cluster ← required ms "cluster" text
  let user ← perhaps ms "user" text
  let _ ← perhaps ms "namespace" text
  let _ ← items ms "extensions" checkExtension
  return { cluster, user }

def checkPreferences : Yaml.Decoder Unit := fun v => do
  let ms ← members v
  let _ ← perhaps ms "colors" flag
  let _ ← items ms "extensions" checkExtension
  return ()

def ofYaml : Yaml.Decoder Kubeconfig := fun v => do
  let ms ← members v
  let _ ← perhaps ms "preferences" checkPreferences
  let clusters ← items ms "clusters" (entry "cluster" clusterOf)
  let users ← items ms "users" (entry "user" Credentials.ofYaml)
  let contexts ← items ms "contexts" (entry "context" contextOf)
  let current ← perhaps ms "current-context" text
  let _ ← items ms "extensions" checkExtension
  let kind ← perhaps ms "kind" text
  let apiVersion ← perhaps ms "apiVersion" text
  return { clusters, users, contexts, current, kind, apiVersion }

/-- Entries with those of a later document, of which only new names are taken. -/
def appendNew {α : Type} (known later : List (String × α)) : List (String × α) :=
  known ++ later.filter fun e => !(known.map Prod.fst).contains e.1

/-- Two values that may not differ when both are given. -/
def agree (a b : Option String) : Option (Option String) :=
  match a, b with
  | some x, some y => if x = y then some a else none
  | some _, none => some a
  | none, _ => some b

/-- A kubeconfig with a later document: what comes first counts. -/
def merge (c later : Kubeconfig) : Option Kubeconfig := do
  return {
    clusters := appendNew c.clusters later.clusters
    users := appendNew c.users later.users
    contexts := appendNew c.contexts later.contexts
    current := c.current <|> later.current
    kind := ← agree c.kind later.kind
    apiVersion := ← agree c.apiVersion later.apiVersion }

/-- Reads a text of any number of documents. -/
def ofText? (text : String) : Option Kubeconfig := do
  let configs ← (← Yaml.Value.documents? text).mapM ofYaml
  configs.foldlM merge empty

/-- The context of the given name; without a name it is the current one. -/
def contextFor (c : Kubeconfig) (name : Option String) : Except Fault Context := do
  let some name := name <|> c.current | throw .noContext
  let some context? := c.contexts.lookup name | throw (.unknownContext name)
  let some context := context? | throw .contextWithoutCluster
  return context

/-- What a user presents; one that is not known presents nothing. -/
def credentialsFor (c : Kubeconfig) (user : Option String) : Credentials :=
  ((user.bind fun name => c.users.lookup name).join).getD .none

/-- Whether a client can be made for the cluster: the certificates of its authority can be had, and
no proxy is in between. Files are not read. -/
def ClusterEntry.isUsable (e : ClusterEntry) : Bool :=
  e.proxy.getD "" = "" &&
    match e.authorityData with
    | some data => isSoundAuthority data
    | none => e.authorityFile.isNone

/-- The server that a context leads to and its address as written. -/
def serverFor (c : Kubeconfig) (context : Option String) : Except Fault (String × Server) := do
  let context ← c.contextFor context
  let some cluster := c.clusters.lookup context.cluster | throw (.unknownCluster context.cluster)
  let some e := cluster | throw .noServer
  let some address := e.server | throw .noServer
  let .ok server := Http.Address.parse address | throw .unusable
  if ClusterEntry.isUsable e && (c.credentialsFor context.user).areUsable then
    return (address, server)
  else throw .unusable

end Kubeconfig
end MultiCluster.Kube
