import PoolOperator.Cluster.Address
import PoolOperator.Value.Reading
import PoolOperator.Yaml.Reading

/-!
# Kubeconfig files

A kubeconfig file tells how clusters are reached.  It names clusters, and
contexts, each of which is a cluster with a namespace, and says which context
to use.  `Kubeconfig.access` is what comes of it: where the cluster is, and
which namespace is meant when none is said.

A file of several documents is read as one, in which the first of several
settings counts.
-/

namespace PoolOperator

/-- A context of a kubeconfig file. -/
structure KubeContext where
  /-- The name of the cluster. -/
  cluster : String
  /-- The namespace. -/
  namespaceName : Option String
  deriving DecidableEq, Repr, Inhabited

/-- A kubeconfig file. -/
structure Kubeconfig where
  /-- The version of the format. -/
  apiVersion : Option String := none
  /-- What the file is. -/
  kind : Option String := none
  /-- The name of the context to use. -/
  currentContext : Option String := none
  /-- The contexts under their names. -/
  contexts : List (String × Option KubeContext) := []
  /-- The places of the clusters under their names. -/
  clusters : List (String × Option (Option String)) := []
  deriving DecidableEq, Repr, Inhabited

/-- How a cluster is reached. -/
structure ClusterAccess where
  /-- Where the cluster is. -/
  server : String
  /-- The namespace that is meant when none is said. -/
  defaultSpace : String
  deriving DecidableEq, Repr, Inhabited

/-- Why a cluster cannot be reached. -/
inductive KubeconfigError where
  /-- There is no file. -/
  | missing
  /-- The file is no YAML. -/
  | invalidYaml (error : Yaml.Error)
  /-- The file has another structure. -/
  | invalidStructure (error : ReadError)
  /-- Two documents of the file are of different sorts. -/
  | conflicting (what : String)
  /-- The file does not say which context to use. -/
  | noCurrentContext
  /-- There is no context of a name. -/
  | unknownContext (name : String)
  /-- There is no cluster of a name. -/
  | unknownCluster (name : String)
  /-- The cluster is nowhere. -/
  | noServer
  /-- The place of the cluster is no URL. -/
  | invalidServer (server : String)
  deriving DecidableEq, Repr, Inhabited

/-- The text of a kubeconfig error. -/
def KubeconfigError.message : KubeconfigError → String
  | .missing => "there is no kubeconfig file"
  | .invalidYaml error => "the kubeconfig file cannot be parsed: " ++ error.message
  | .invalidStructure error => "the kubeconfig file has an invalid structure: " ++ error.message
  | .conflicting what => "the documents of the kubeconfig file differ in " ++ what
  | .noCurrentContext => "the current context is not set"
  | .unknownContext name => "there is no context " ++ name
  | .unknownCluster name => "there is no cluster " ++ name
  | .noServer => "the cluster has no server"
  | .invalidServer server => "the server of the cluster is no URL: " ++ server

namespace Kubeconfig

/-! ## Reading -/

/-- Reads a list of named things.  Null is the empty list. -/
def readNamed {α : Type} (thing : String) (read : Value → Except ReadError α) (value : Value) :
    Except ReadError (List (String × Option α)) := do
  if value.isNull then return []
  let item (value : Value) : Except ReadError (String × Option α) := do
    let slots ← Reading.slots "named entry" ["name", thing] value
    return (← slots.required value "name" Reading.text, ← slots.optional thing read)
  Reading.list item value

/-- Reads a cluster. -/
def readCluster (value : Value) : Except ReadError (Option String) := do
  let slots ← Reading.slots "struct Cluster" ["server"] value
  slots.optional "server" Reading.text

/-- Reads a context. -/
def readContext (value : Value) : Except ReadError KubeContext := do
  let slots ← Reading.slots "struct Context" ["cluster", "namespace"] value
  return {
    cluster := ← slots.required value "cluster" Reading.text
    namespaceName := ← slots.optional "namespace" Reading.text }

/-- Reads a document. -/
def read (value : Value) : Except ReadError Kubeconfig := do
  let slots ← Reading.slots "struct Kubeconfig"
    ["apiVersion", "kind", "current-context", "contexts", "clusters"] value
  return {
    apiVersion := ← slots.optional "apiVersion" Reading.text
    kind := ← slots.optional "kind" Reading.text
    currentContext := ← slots.optional "current-context" Reading.text
    contexts := ← slots.defaulted "contexts" [] (readNamed "context" readContext)
    clusters := ← slots.defaulted "clusters" [] (readNamed "cluster" readCluster) }

/-- Do two settings contradict each other? -/
def contradict (one other : Option String) : Bool := one.isSome && other.isSome && one ≠ other

/-- One document after another. -/
def append (first second : Kubeconfig) : Except KubeconfigError Kubeconfig := do
  if contradict first.kind second.kind then throw (.conflicting "kind")
  if contradict first.apiVersion second.apiVersion then throw (.conflicting "apiVersion")
  return {
    apiVersion := first.apiVersion <|> second.apiVersion
    kind := first.kind <|> second.kind
    currentContext := first.currentContext <|> second.currentContext
    contexts := first.contexts ++ second.contexts
    clusters := first.clusters ++ second.clusters }

/-- The file with a text. -/
def ofText (text : String) : Except KubeconfigError Kubeconfig := do
  let (documents, error?) := Yaml.documents text
  let configs ← documents.mapM fun document => do
    let value ← document.value.mapError .invalidYaml
    (read value).mapError .invalidStructure
  match error? with
  | some error => throw (.invalidYaml error)
  | none => configs.foldlM append {}

/-! ## Reaching the cluster -/

/-- What is under a name. -/
def named? {α : Type} (entries : List (String × Option α)) (name : String) : Option α :=
  (entries.lookup name).join

/-- How the cluster of the current context is reached. -/
def access (config : Kubeconfig) : Except KubeconfigError ClusterAccess := do
  let some contextName := config.currentContext | throw .noCurrentContext
  let some context := named? config.contexts contextName | throw (.unknownContext contextName)
  let some server? := named? config.clusters context.cluster
    | throw (.unknownCluster context.cluster)
  let some server := server? | throw .noServer
  if Address.isUrl server then return ⟨server, context.namespaceName.getD "default"⟩
  else throw (.invalidServer server)

/-- How the cluster is reached, given the text of a kubeconfig file if there is
one. -/
def accessOf (text? : Option String) : Except KubeconfigError ClusterAccess :=
  match text? with
  | some text => ofText text >>= access
  | none => .error .missing

end Kubeconfig

end PoolOperator
