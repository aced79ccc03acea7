import PoolOperator.Object
import PoolOperator.Pool.Config

/-!
# Address pool resources

A user declares an address pool with a resource of its own.  Its entry in the
configuration has the name of the resource (`AddressPool.toEntry`).  The entry
reaches MetalLB in a ConfigMap, which here holds only the one pool
(`AddressPool.configMap`).
-/

namespace PoolOperator

/-- How addresses are announced. -/
inductive Protocol where
  /-- By answering for them in the local network. -/
  | layer2
  /-- By routes. -/
  | bgp
  deriving DecidableEq, Repr, Inhabited

namespace Protocol

/-- The name of a protocol. -/
def name : Protocol → String
  | .layer2 => "layer2"
  | .bgp => "bgp"

/-- The protocol with a name. -/
def ofName? (name : String) : Option Protocol :=
  [layer2, bgp].find? fun protocol => protocol.name = name

end Protocol

/-- What a user wants of an address pool. -/
structure PoolSpec where
  /-- How the addresses are announced. -/
  protocol : Protocol
  /-- The ranges of addresses. -/
  addresses : List String
  /-- Are addresses handed out without being asked for? -/
  autoAssign : Option Bool
  /-- Are addresses left out that end in `.0` or `.255`? -/
  avoidBuggyIps : Option Bool
  deriving DecidableEq, Repr, Inhabited

/-- An address pool resource. -/
structure AddressPool where
  /-- The metadata. -/
  metadata : Metadata
  /-- What the user wants. -/
  spec : PoolSpec
  deriving Repr, Inhabited

/-- The interface version of the operator's own resources. -/
def operatorApi : String := "metallb.io/v1alpha1"

/-- The name of the ConfigMap that MetalLB reads. -/
def configMapName : String := "config"

/-- The key in the ConfigMap that holds the configuration. -/
def configKey : String := "config"

namespace PoolSpec

/-- The value of a specification. -/
def toValue (spec : PoolSpec) : Value :=
  .ofMembers [
    ("protocol", some (.str spec.protocol.name)),
    ("addresses", some (.strings spec.addresses)),
    ("autoAssign", spec.autoAssign.map .bool),
    ("avoidBuggyIps", spec.avoidBuggyIps.map .bool)]

end PoolSpec

namespace AddressPool

/-- The value of a resource. -/
def toValue (pool : AddressPool) : Value :=
  .ofMembers [
    ("apiVersion", some (.str operatorApi)),
    ("kind", some (.str "AddressPool")),
    ("metadata", some pool.metadata.toValue),
    ("spec", some pool.spec.toValue)]

/-- The entry of a pool in the configuration. -/
def toEntry (pool : AddressPool) : PoolEntry where
  name := pool.metadata.anyName
  protocol := pool.spec.protocol.name
  addresses := pool.spec.addresses
  autoAssign := pool.spec.autoAssign
  avoidBuggyIps := pool.spec.avoidBuggyIps

/-- The ConfigMap of a namespace with a pool and nothing else. -/
def configMap (pool : AddressPool) (space : String) : Object where
  type? := some ⟨"v1", "ConfigMap"⟩
  metadata := { Metadata.empty with name := some configMapName, namespaceName := some space }
  body := .obj [("data", .obj [(configKey, .str (PoolConfig.toYaml ⟨[pool.toEntry]⟩))])]

/-! ## Reading -/

variable {σ : Type} {m : Type → Type} [Monad m] [Source σ m]

/-- Reads a protocol. -/
def readProtocol (place : σ) : m Protocol := do
  let known := [Protocol.layer2.name, Protocol.bgp.name]
  let name ← Source.variant "enum Protocol" known place
  match Protocol.ofName? name with
  | some protocol => return protocol
  | none => Source.refuse place (.unknownVariant name known)

/-- Reads a specification. -/
def readSpec (place : σ) : m PoolSpec := do
  let slots ← Reading.slots "struct AddressPoolSpec"
    ["protocol", "addresses", "autoAssign", "avoidBuggyIps"] place
  return {
    protocol := ← slots.required place "protocol" readProtocol
    addresses := ← slots.required place "addresses" Reading.texts
    autoAssign := ← slots.optional "autoAssign" Source.flag
    avoidBuggyIps := ← slots.optional "avoidBuggyIps" Source.flag }

/-- Reads a resource. -/
def read (place : σ) : m AddressPool := do
  let slots ← Reading.slots "struct AddressPool" ["metadata", "spec"] place
  return {
    metadata := ← slots.required place "metadata" Metadata.read
    spec := ← slots.required place "spec" readSpec }

/-- The resource that a value stands for. -/
def ofValue (value : Value) : Except ReadError AddressPool := read value

/-- The resource that a YAML document stands for. -/
def ofYaml (text : String) : Except Yaml.Error AddressPool := Yaml.readText read text

end AddressPool

end PoolOperator
