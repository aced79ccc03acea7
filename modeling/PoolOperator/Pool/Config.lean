import PoolOperator.Text.CharClass
import PoolOperator.Yaml.Reading
import PoolOperator.Yaml.Writer

/-!
# The pool configuration

MetalLB reads its address pools from a YAML document with a list of entries
under the key `address-pools`.  `PoolConfig.ofYaml` reads such a document and
`PoolConfig.toYaml` writes it.  A document of blanks holds no pools.

An entry may leave out anything.  Written, an entry always has a name and
addresses.
-/

namespace PoolOperator

/-- An address pool of the configuration. -/
structure PoolEntry where
  /-- The name of the pool. -/
  name : String
  /-- How the addresses are announced, empty if the entry does not tell. -/
  protocol : String
  /-- The ranges of addresses. -/
  addresses : List String
  /-- Are addresses handed out without being asked for? -/
  autoAssign : Option Bool
  /-- Are addresses left out that end in `.0` or `.255`? -/
  avoidBuggyIps : Option Bool
  deriving DecidableEq, Repr, Inhabited

/-- The address pools of the configuration. -/
structure PoolConfig where
  /-- The entries in order. -/
  pools : List PoolEntry
  deriving DecidableEq, Repr, Inhabited

namespace PoolEntry

/-- An entry as a value, with its members in the order of the document. -/
def toValue (entry : PoolEntry) : Value :=
  .obj (
    [("name", .str entry.name)]
    ++ (if entry.protocol = "" then [] else [("protocol", .str entry.protocol)])
    ++ [("addresses", .strings entry.addresses)]
    ++ (entry.autoAssign.map fun flag => ("auto-assign", Value.bool flag)).toList
    ++ (entry.avoidBuggyIps.map fun flag => ("avoid-buggy-ips", Value.bool flag)).toList)

variable {σ : Type} {m : Type → Type} [Monad m] [Source σ m]

/-- Reads an entry. -/
def read (place : σ) : m PoolEntry := do
  let slots ← Reading.slots "struct AddressPoolEntry"
    ["name", "protocol", "addresses", "auto-assign", "avoid-buggy-ips"] place
  return {
    name := ← slots.defaulted "name" "" Reading.text
    protocol := ← slots.defaulted "protocol" "" Reading.text
    addresses := ← slots.defaulted "addresses" [] Reading.texts
    autoAssign := ← slots.optional "auto-assign" Source.flag
    avoidBuggyIps := ← slots.optional "avoid-buggy-ips" Source.flag }

end PoolEntry

namespace PoolConfig

/-- A configuration without pools. -/
def empty : PoolConfig := ⟨[]⟩

/-- A configuration as a value. -/
def toValue (config : PoolConfig) : Value :=
  .obj [("address-pools", .arr (config.pools.map PoolEntry.toValue))]

/-- Reads a configuration. -/
def read {σ : Type} {m : Type → Type} [Monad m] [Source σ m] (place : σ) : m PoolConfig := do
  let slots ← Reading.slots "struct AddressPoolConfig" ["address-pools"] place
  return ⟨(← slots.optional "address-pools" (Reading.list PoolEntry.read)).getD []⟩

/-- The configuration that a document holds. -/
def ofYaml (payload : String) : Except Yaml.Error PoolConfig :=
  if Text.allBlank payload then .ok empty else Yaml.readText read payload

/-- The document of a configuration. -/
def toYaml (config : PoolConfig) : String := Yaml.write config.toValue

end PoolConfig

end PoolOperator
