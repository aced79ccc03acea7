import PoolOperator.Metallb.Resource
import PoolOperator.Schema
import PoolOperator.Yaml.Writer

/-!
# Resource definitions

The cluster has to be told about the operator's own resources before it stores
any.  `ResourceDefinition.manifests` is the text that does it: one YAML
document for each kind.
-/

namespace PoolOperator

/-- A kind of resources that the cluster is told about. -/
structure ResourceDefinition where
  /-- The kind. -/
  kind : String
  /-- What one resource is called. -/
  singular : String
  /-- What many resources are called. -/
  plural : String
  /-- A column for tables of resources: its name, and where its content is. -/
  column : String × String
  /-- The schema of a resource. -/
  schema : Schema
  /-- Is the status written on its own? -/
  hasStatus : Bool
  deriving Inhabited, Repr

namespace ResourceDefinition

/-- The group of the operator's own resources. -/
def group : String := apiGroup operatorApi

/-- The version of the operator's own resources. -/
def version : String := "v1alpha1"

/-- The name of a definition. -/
def name (definition : ResourceDefinition) : String := definition.plural ++ "." ++ group

/-- The value of a definition. -/
def toValue (definition : ResourceDefinition) : Value :=
  let names : Value := .obj [
    ("categories", .arr []), ("kind", .str definition.kind), ("plural", .str definition.plural),
    ("shortNames", .arr []), ("singular", .str definition.singular)]
  let column : Value := .obj [
    ("jsonPath", .str definition.column.2), ("name", .str definition.column.1),
    ("type", .str "string")]
  let version : Value := .obj [
    ("additionalPrinterColumns", .arr [column]), ("name", .str version),
    ("schema", .obj [("openAPIV3Schema", .obj definition.schema.members)]),
    ("served", .bool true), ("storage", .bool true),
    ("subresources", .obj (if definition.hasStatus then [("status", .obj [])] else []))]
  .obj [
    ("apiVersion", .str "apiextensions.k8s.io/v1"),
    ("kind", .str "CustomResourceDefinition"),
    ("metadata", .obj [("name", .str definition.name)]),
    ("spec", .obj [
      ("group", .str group), ("names", names), ("scope", .str "Namespaced"),
      ("versions", .arr [version])])]

/-! ## The resources of the operator -/

/-- The schema of a resource of a kind, out of its fields. -/
def resourceSchema (kind : String) (fields : List (String × Bool × Schema)) : Schema :=
  .titled kind <|
    .described s!"Auto-generated derived type for {kind}Spec via \x60CustomResource\x60" <|
      .record fields

/-- The description of a specification, with an example. -/
def exampleText (kind : String) (lines : List String) : String :=
  "\n".intercalate <|
    [s!"{kind} Custom Resource Definition", "", "# Example", "", "\x60\x60\x60yaml",
      s!"apiVersion: {operatorApi}", s!"kind: {kind}"] ++ lines ++ ["\x60\x60\x60"]

/-- The schema of a condition. -/
def conditionSchema : Schema :=
  .described "Condition represents a status condition for the resource" <| .record [
    ("lastTransitionTime", false, .described "Last transition time (RFC3339)" (.nullable .text)),
    ("message", false, .described "Message describing condition" (.nullable .text)),
    ("reason", false, .described "Reason for condition" (.nullable .text)),
    ("status", true, .described "Status of condition (True, False, Unknown)" .text),
    ("type", true, .described "Type of condition" .text)]

/-- The schema of the status of a `Metallb` resource. -/
def statusSchema : Schema :=
  .described "Status of the Metallb resource" <| .nullable <| .record [
    ("conditions", false,
      .described "Conditions represent the latest available observations"
        (.emptyByDefault (.list conditionSchema))),
    ("observedGeneration", false,
      .described "Generation of the Metallb resource the conditions refer to"
        (.nullable .wholeNumber))]

/-- `Metallb` resources. -/
def metallb : ResourceDefinition where
  kind := "Metallb"
  singular := "metallb"
  plural := "metallbs"
  column := ("Available", ".status.conditions[?(@.type==\"Available\")].status")
  schema := resourceSchema "Metallb" [
    ("spec", true,
      .described
        (exampleText "Metallb" ["metadata:", "  name: metallb", "  namespace: metallb-system"])
        (.record [])),
    ("status", false, statusSchema)]
  hasStatus := true

/-- The schema of the specification of an address pool. -/
def poolSchema : Schema :=
  .described
    (exampleText "AddressPool" [
      "metadata:", "  name: gold", "  namespace: metallb-system", "spec:", "  protocol: layer2",
      "  addresses:", "    - 172.18.0.100-172.18.0.255", "  autoAssign: false"]) <|
    .record [
      ("addresses", true,
        .described "IP ranges (CIDR or \x60first-last\x60) MetalLB has authority over"
          (.list .text)),
      ("autoAssign", false,
        .described "When false, addresses are only handed out on explicit request"
          (.nullable .flag)),
      ("avoidBuggyIps", false,
        .described "Skip \x60.0\x60 and \x60.255\x60 addresses" (.nullable .flag)),
      ("protocol", true,
        .described "How the addresses are announced"
          (.choice [Protocol.layer2.name, Protocol.bgp.name]))]

/-- Address pools. -/
def addressPool : ResourceDefinition where
  kind := "AddressPool"
  singular := "addresspool"
  plural := "addresspools"
  column := ("Protocol", ".spec.protocol")
  schema := resourceSchema "AddressPool" [("spec", true, poolSchema)]
  hasStatus := false

/-- The resources of the operator. -/
def all : List ResourceDefinition := [metallb, addressPool]

/-- The documents of all definitions. -/
def manifests : String :=
  String.join (all.map fun definition => "---\n" ++ Yaml.write definition.toValue)

end ResourceDefinition

end PoolOperator
