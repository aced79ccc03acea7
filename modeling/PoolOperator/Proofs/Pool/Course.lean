import PoolOperator.Proofs.Apply.Course
import PoolOperator.Proofs.Pool.Payload

/-!
# The course of configuring a pool

Configuring a pool looks at the live ConfigMap (`ensurePool_run`).  Unless the
entry is there, the live ConfigMap is fetched a second time (`fetching`), and
then it is created or replaced.  Every stage is a dialogue that begins with one
question, so that the course can be followed from answer to answer.
-/

namespace PoolOperator

namespace AddressPool

variable (pool : AddressPool) (space : String)

/-- How messages name the ConfigMap with the pools of a namespace. -/
def mapLabel : String := "ConfigMap " ++ (pool.configMap space).displayName

/-- What is left once the live ConfigMap was fetched for merging. -/
def merging : Except ApplyError (Option Object) → Operation (Except ApplyError Outcome) :=
  (pool.configMap space).merging (pool.mapLabel space)

/-- The dialogue from the second time on that the live ConfigMap is fetched. -/
def fetching : Operation (Except ApplyError Outcome) :=
  .ask (.store (.get (pool.configMap space))) (pool.merging space)

/-- What is left once the live ConfigMap was looked at. -/
def looking : Except ApplyError (Option Object) → Operation (Except ApplyError Outcome)
  | .error error => .done (.error error)
  | .ok none => pool.fetching space
  | .ok (some live) =>
      match hasPool live pool with
      | .error error => .done (.error error)
      | .ok true => .done (.ok .unchanged)
      | .ok false => pool.fetching space

/-- With readable pools the entry is there or the ConfigMap is fetched again. -/
theorem looking_of_readable {live? : Option Object} {pools : List PoolEntry}
    (readable : poolsIn live? = .ok pools) :
    pool.looking space (.ok live?) =
      if pool.toEntry ∈ pools then .done (.ok .unchanged) else pool.fetching space := by
  cases live? with
  | none =>
      cases readable
      rw [if_neg List.not_mem_nil]
      rfl
  | some live =>
      have checked := hasPool_of_readable readable pool
      by_cases there : pool.toEntry ∈ pools
      · rw [List.contains_iff_mem.mpr there] at checked
        simp only [looking, checked, if_pos there]
      · have missing : pools.contains pool.toEntry = false := by simpa using there
        rw [missing] at checked
        simp only [looking, checked, if_neg there]

/-- The dialogue from the time on that the ConfigMap is written. -/
def writing (pools : List PoolEntry) : Option Object → Operation (Except ApplyError Outcome)
  | none => .ask (.store (.create (pool.configMap space))) (Object.finishing .created)
  | some current =>
      .ask (.store (.replace (pool.mergedMap space current pools))) (Object.finishing .updated)

/-- With readable pools there is always something to write. -/
theorem merging_of_holdsPools {live? : Option Object} {pools : List PoolEntry}
    (holds : HoldsPools live? pools) :
    pool.merging space (.ok live?) = pool.writing space pools live? := by
  cases live? with
  | none => rfl
  | some current =>
      have notSame := pool.same_mergedMap space holds.readable (holds.sorted current rfl)
      rw [merging, Object.merging, pool.merge_configMap space holds.readable,
        Object.comparing, notSame]
      rfl

/-! ## The whole course -/

theorem apply_configMap_run : (apply (pool.configMap space)).run = pool.fetching space := by
  have labelled : (pool.configMap space).label = .ok (pool.mapLabel space) := rfl
  have supported : checkSupported (pool.configMap space) = .ok () := rfl
  rw [apply_run, labelled, Object.applying, supported]
  rfl

theorem ensurePool_run :
    (ensurePool pool space).run = .ask (.store (.get (pool.configMap space)))
    (pool.looking space) := by
  refine congrArg (Dialogue.ask (Demand.store (.get (pool.configMap space))))
    (funext fun answer => ?_)
  match answer with
  | .error error => rfl
  | .ok none => exact pool.apply_configMap_run space
  | .ok (some live) =>
      change (do
        if ← hasPool live pool then return .unchanged else apply (pool.configMap space) :
          ExceptT ApplyError Operation Outcome).run = _
      simp only [looking]
      cases hasPool live pool with
      | error error => rfl
      | ok present =>
          cases present with
          | true => rfl
          | false => exact pool.apply_configMap_run space

end AddressPool

end PoolOperator
