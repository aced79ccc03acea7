import PoolOperator.Pool.Resource
import PoolOperator.Reconcile

/-!
# Configuring address pools

An address pool is added to the configuration that is live, unless an equal
entry is there already.  Merging ConfigMaps appends pools, so what is there is
looked at first.
-/

namespace PoolOperator

/-- The pools in a live ConfigMap. -/
def livePools (live : Object) : Except MergeError (List PoolEntry) := do
  match ← live.poolPayload? with
  | none => return []
  | some payload => poolsOf payload

/-- Is the entry of a pool in a live ConfigMap? -/
def hasPool (live : Object) (pool : AddressPool) : Except ApplyError Bool :=
  match livePools live with
  | .ok pools => .ok (pools.contains pool.toEntry)
  | .error source => .error (.merge live.displayName source)

/-- Adds a pool to the configuration in a namespace. -/
def ensurePool (pool : AddressPool) (space : String) : ExceptT ApplyError Operation Outcome := do
  let configMap := pool.configMap space
  match ← Operation.getLive configMap with
  | none => apply configMap
  | some live => if ← hasPool live pool then return .unchanged else apply configMap

namespace AddressPool

/-- The name of the controller of address pools. -/
def controllerName : String := "addresspool"

/-- Reconciles an address pool. -/
def reconcile (config : Config) (pool : AddressPool) : Reconciliation Action :=
  timed controllerName do
    let _ ← (ensurePool pool config.namespaceName).adapt .apply
    return .awaitChange

end AddressPool

end PoolOperator
