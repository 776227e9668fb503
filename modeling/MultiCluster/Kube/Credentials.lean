import MultiCluster.Text.Base64
import MultiCluster.Text.Pem
import MultiCluster.Yaml.Decode

/-! What a kubeconfig lets a user present to a server, and whether a client can present it. Files
and commands are out of reach, so what depends on them cannot be had. -/
namespace MultiCluster.Kube

open Yaml.Decode (members optional perhaps required items text texts flag named)

/-- What a user presents. -/
structure Credentials where
  username : Option String
  password : Option String
  token : Option String
  tokenFile : Option String
  certificate : Option String
  key : Option String
  /-- Whom to act as. -/
  impersonated : List String
  /-- A provider of tokens by its name and what is set for it. -/
  provider : Option (String × List (String × String))
  /-- Whether a command provides the rest. -/
  hasCommand : Bool
  deriving DecidableEq, Repr

namespace Credentials

def providerOf : Yaml.Decoder (String × List (String × String)) := fun v => do
  let ms ← members v
  let name ← required ms "name" text
  let settings ← optional ms "config" texts
  return (name, settings.getD [])

/-- Checks a command that provides tokens. -/
def checkCommand : Yaml.Decoder Unit := fun v => do
  let ms ← members v
  let _ ← perhaps ms "apiVersion" text
  let _ ← perhaps ms "command" text
  let _ ← items ms "args" text
  let _ ← items ms "env" texts
  let _ ← perhaps ms "interactiveMode"
    (named [("Never", ()), ("IfAvailable", ()), ("Always", ())])
  let _ ← optional ms "provideClusterInfo" flag
  return ()

def ofYaml : Yaml.Decoder Credentials := fun v => do
  let ms ← members v
  let field (key : String) : Option (Option String) := perhaps ms key text
  let username ← field "username"
  let password ← field "password"
  let token ← field "token"
  let tokenFile ← field "tokenFile"
  let _ ← field "client-certificate"
  let certificate ← field "client-certificate-data"
  let _ ← field "client-key"
  let key ← field "client-key-data"
  let user ← field "as"
  let groups ← items ms "as-groups" text
  let provider ← perhaps ms "auth-provider" providerOf
  let command ← perhaps ms "exec" checkCommand
  return {
    username, password, token, tokenFile, certificate, key
    impersonated := user.toList ++ groups
    provider
    hasCommand := command.isSome }

def none : Credentials :=
  ⟨.none, .none, .none, .none, .none, .none, [], .none, false⟩

def hasToken (provider : String × List (String × String)) : Bool :=
  ["oidc", "gcp"].contains provider.1 && (provider.2.lookup "id-token").isSome

/-- Whether a header may hold a text: no control characters but tabs. -/
def isHeaderText (s : String) : Bool :=
  s.toList.all fun c => c == '\t' || (0x20 ≤ c.toNat && c.toNat ≠ 0x7F)

/-- Whether the user can be authenticated. A provider counts before a name with a password, that
before a token, that before a file, and a command comes last. -/
def canAuthenticate (c : Credentials) : Bool :=
  match c.provider with
  | some provider => hasToken provider
  | .none =>
    (c.username.isSome && c.password.isSome) || c.token.isSome
      || (c.tokenFile.isNone && !c.hasCommand)

/-- The text by which the user identifies itself: its key and its certificate, if both are given in
place. -/
def identity (c : Credentials) : Option (List UInt8) := do
  let octets (data : Option String) : Option (List UInt8) :=
    data.bind fun s => Text.base64Octets? s.toList
  return (← octets c.key) ++ 10 :: (← octets c.certificate) ++ [10]

/-- The labels of private keys. -/
def keyLabels : List String := ["PRIVATE KEY", "RSA PRIVATE KEY", "EC PRIVATE KEY"]

/-- Whether a text holds a key and certificates and nothing else, all of them sound. -/
def isSoundIdentity (octets : List UInt8) : Bool :=
  (Text.PemBlock.ofOctets? octets).any fun blocks =>
    let (keys, others) := blocks.partition fun b => keyLabels.contains b.label
    !keys.isEmpty && keys.all (Text.isPrivateKey ·.contents) && !others.isEmpty
      && others.all fun b => b.label == "CERTIFICATE" && Text.isCertificate b.contents

/-- Whether a client can present the credentials. -/
def areUsable (c : Credentials) : Bool :=
  c.canAuthenticate && c.identity.all isSoundIdentity && c.impersonated.all isHeaderText

end Credentials

/-- Whether data in base 64 holds blocks of text form, of which those of certificates are sound. -/
def isSoundAuthority (data : String) : Bool :=
  let blocks := (Text.base64Octets? data.toList).bind fun octets =>
    Text.PemBlock.ofOctets? (octets ++ [10])
  blocks.any fun blocks =>
    blocks.all fun b => b.label ≠ "CERTIFICATE" || Text.isCertificate b.contents

end MultiCluster.Kube
