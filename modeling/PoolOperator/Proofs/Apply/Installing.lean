import PoolOperator.Metallb.Install
import PoolOperator.Proofs.Apply.Settled

/-!
# Installing twice

Objects under different keys are applied in order.  If that succeeds, all of them
are settled (`settled_of_history`), and a second installation changes nothing,
even after other parties changed what belongs to them (`installAll_again`).
-/

namespace PoolOperator

namespace MemoryStore

/-- Is every stored object well-formed? -/
def WellFormed (store : MemoryStore) : Prop :=
  ∀ (key : ObjectKey) (object : Object), store.find? key = some object → object.WellFormed

theorem wellFormed_empty : empty.WellFormed := fun _ _ there => nomatch there

/-! ## One pass -/

section

variable {desired : Object} {before after : MemoryStore} {result : Except ApplyError Outcome}

theorem Applied.wellFormed (applied : Applied desired before result after)
    (stored : before.WellFormed) (own : desired.WellFormed) : after.WellFormed := by
  intro key object there
  have fate := applied.fate key
  rw [there] at fate
  generalize live : before.find? key = live? at fate
  cases fate with
  | apart different => exact stored key object live
  | failed => exact stored key object live
  | created version addressed applicable => exact own.created version
  | unchanged addressed applicable type done same => exact stored key object live
  | updated version addressed applicable type done =>
      exact ((stored key _ live).merge own done).replaced version

/-- An object that was applied with success is settled. -/
theorem Applied.settled {outcome : Outcome} (applied : Applied desired before (.ok outcome) after)
    (stored : before.WellFormed) (rendered : desired.Rendered)
    (noEmptyMap : desired.metadata.NoEmptyMap) :
    desired.Applicable ∧ ∃ live : Object, after.find? desired.key = some live
      ∧ Settled desired live := by
  have fate := applied.fate desired.key
  generalize found : after.find? desired.key = live? at fate
  generalize there : before.find? desired.key = before? at fate
  cases fate with
  | apart different => exact absurd rfl different
  | created version addressed applicable =>
      exact ⟨applicable, _, rfl, settled_created rendered applicable.supported noEmptyMap version⟩
  | unchanged addressed applicable type done same =>
      exact ⟨applicable, _, rfl, settled_of_same rendered (stored _ _ there) type done same⟩
  | updated version addressed applicable type done =>
      exact ⟨applicable, _, rfl,
        settled_replaced rendered applicable.supported (stored _ _ there) done version⟩

end

section

variable {store after : MemoryStore} {calls : List (Object × Except ApplyError Outcome)}

/-- After calls about different keys that all succeeded, every object is settled. -/
theorem settled_of_history (history : History store calls after) (stored : store.WellFormed)
    (rendered : ∀ call ∈ calls, call.1.Rendered ∧ call.1.metadata.NoEmptyMap)
    (different : (calls.map fun call => call.1.key).Nodup)
    (done : ∀ call ∈ calls, ∃ outcome : Outcome, call.2 = .ok outcome) :
    ∀ call ∈ calls, call.1.Applicable
      ∧ ∃ live : Object, after.find? call.1.key = some live ∧ Settled call.1 live := by
  induction history with
  | nil store => exact fun call member => absurd member List.not_mem_nil
  | @cons store between after desired result calls first rest induction =>
      obtain ⟨apart, restDifferent⟩ := List.nodup_cons.mp different
      obtain ⟨own, noEmptyMap⟩ := rendered _ List.mem_cons_self
      obtain ⟨outcome, rfl⟩ := done _ List.mem_cons_self
      intro call member
      rcases List.mem_cons.mp member with rfl | later
      · -- No later call is about the same key, so what was settled is still there.
        obtain ⟨applicable, live, there, settled⟩ := first.settled stored own noEmptyMap
        have untouched := find?_of_history rest fun call member same =>
          apart (List.mem_map.mpr ⟨call, member, same.symm⟩)
        exact ⟨applicable, live, untouched.trans there, settled⟩
      · exact induction (first.wellFormed stored own.wellFormed)
          (fun call member => rendered call (List.mem_cons_of_mem _ member)) restDifferent
          (fun call member => done call (List.mem_cons_of_mem _ member)) call later

end

/-! ## Installing -/

variable (surroundings : Surroundings (StateM MemoryStore)) (owner : OwnerReference)

/-- The result of applying objects for an owner in a store, and the store after
it. -/
def installAll (metrics : Metrics) (store : MemoryStore) (objects : List Object) :
    Except ApplyError InstallSummary × MemoryStore :=
  let ((result, _), after) :=
    (surroundings.inMemory.run (applyAll owner .none objects).run metrics).run store
  (result, after)

theorem run_installAll (metrics : Metrics) (store : MemoryStore) (objects : List Object) :
    ∃ metrics' : Metrics,
      (surroundings.inMemory.run (applyAll owner .none objects).run metrics).run store =
        (((installAll surroundings owner metrics store objects).1, metrics'),
          (installAll surroundings owner metrics store objects).2) := ⟨_, rfl⟩

/-- What is left of an installation once the next object was applied. -/
def installing (summary : InstallSummary) (rest : List Object) :
    Except ApplyError Outcome → Operation (Except ApplyError InstallSummary)
  | .error error => .done (.error error)
  | .ok outcome => (applyAll owner (summary.record outcome) rest).run

theorem run_applyAll_cons {summary : InstallSummary} {object : Object} {rest : List Object}
    {metrics between : Metrics} {store middle : MemoryStore} {result : Except ApplyError Outcome}
    (first : (surroundings.inMemory.run (apply (object.ownedBy owner)).run metrics).run store =
      ((result, between), middle)) :
    (surroundings.inMemory.run (applyAll owner summary (object :: rest)).run metrics).run store =
      (surroundings.inMemory.run (installing owner summary rest result) between).run middle := by
  have split : (applyAll owner summary (object :: rest)).run =
      (apply (object.ownedBy owner)).run >>= installing owner summary rest := by
    refine congrArg ((apply (object.ownedBy owner)).run >>= ·) (funext fun result => ?_)
    cases result <;> rfl
  rw [split]
  exact surroundings.run_andThen first (installing owner summary rest)

/-- If an installation succeeds, all calls did. -/
theorem history_of_applyAll {summary summary' : InstallSummary} {objects : List Object}
    {metrics metrics' : Metrics} {store after : MemoryStore}
    (ran : (surroundings.inMemory.run (applyAll owner summary objects).run metrics).run store =
      ((.ok summary', metrics'), after)) :
    ∃ calls : List (Object × Except ApplyError Outcome),
      calls.map Prod.fst = objects.map (Object.ownedBy · owner)
        ∧ (∀ call ∈ calls, ∃ outcome : Outcome, call.2 = .ok outcome)
        ∧ History store calls after := by
  induction objects generalizing summary metrics store with
  | nil =>
      cases ran
      exact ⟨[], rfl, fun call member => absurd member List.not_mem_nil, .nil _⟩
  | cons object rest induction =>
      obtain ⟨result, between, middle, first, applied⟩ :=
        apply_inMemory surroundings (object.ownedBy owner) metrics store
      rw [run_applyAll_cons surroundings owner first] at ran
      cases result with
      | error error => cases ran
      | ok outcome =>
          obtain ⟨calls, objects, done, history⟩ := induction ran
          refine ⟨(object.ownedBy owner, .ok outcome) :: calls, congrArg (_ :: ·) objects, ?_,
            .cons applied history⟩
          exact List.forall_mem_cons.mpr ⟨⟨outcome, rfl⟩, done⟩

/-- Installing settled objects changes nothing. -/
theorem applyAll_of_settled {store : MemoryStore} {objects : List Object}
    (settled : ∀ object ∈ objects, (object.ownedBy owner).Rendered
      ∧ (object.ownedBy owner).Applicable
      ∧ ∃ live : Object, store.find? object.key = some live ∧ Settled (object.ownedBy owner) live)
    (summary : InstallSummary) (metrics : Metrics) :
    ∃ metrics' : Metrics,
      (surroundings.inMemory.run (applyAll owner summary objects).run metrics).run store =
        ((.ok { summary with unchanged := summary.unchanged + objects.length }, metrics'),
          store) := by
  induction objects generalizing summary metrics with
  | nil => exact ⟨metrics, rfl⟩
  | cons object rest induction =>
      obtain ⟨⟨rendered, applicable, live, there, holds⟩, others⟩ := List.forall_mem_cons.mp settled
      obtain ⟨result, between, middle, first, applied⟩ :=
        apply_inMemory surroundings (object.ownedBy owner) metrics store
      obtain ⟨rfl, rfl⟩ := again_of_settled holds rendered.wellFormed applicable there applied
      obtain ⟨metrics', ran⟩ := induction others (summary.record .unchanged) between
      refine ⟨metrics', (run_applyAll_cons surroundings owner first).trans (ran.trans ?_)⟩
      rw [InstallSummary.record, List.length_cons, Nat.add_right_comm, Nat.add_assoc]

theorem rendered_ownedBy {object : Object} (rendered : object.Rendered)
    (owner : OwnerReference) : (object.ownedBy owner).Rendered where
  wellFormed :=
    ⟨rendered.wellFormed.body, rendered.wellFormed.annotations, rendered.wellFormed.labels,
      rendered.wellFormed.noMetadata, rendered.wellFormed.noType⟩
  opened := rendered.opened
  typed := rendered.typed
  noPools := rendered.noPools

/-- After an installation that succeeds, every object is settled. -/
theorem settled_of_applyAll {objects : List Object}
    (rendered : ∀ object ∈ objects, object.Rendered ∧ object.metadata.NoEmptyMap)
    (different : (objects.map Object.key).Nodup) {before after : MemoryStore}
    (stored : before.WellFormed) {summary summary' : InstallSummary} {metrics metrics' : Metrics}
    (ran : (surroundings.inMemory.run (applyAll owner summary objects).run metrics).run before =
      ((.ok summary', metrics'), after)) :
    ∀ object ∈ objects, (object.ownedBy owner).Applicable
      ∧ ∃ live : Object, after.find? object.key = some live
      ∧ Settled (object.ownedBy owner) live := by
  obtain ⟨calls, owned, done, history⟩ := history_of_applyAll surroundings owner ran
  have ownedRendered : ∀ call ∈ calls, call.1.Rendered ∧ call.1.metadata.NoEmptyMap := by
    intro call member
    have there : call.1 ∈ objects.map (Object.ownedBy · owner) := owned ▸ List.mem_map_of_mem member
    obtain ⟨object, given, same⟩ := List.mem_map.mp there
    obtain ⟨own, noEmptyMap⟩ := rendered object given
    exact same ▸ ⟨rendered_ownedBy own owner, noEmptyMap.annotations, noEmptyMap.labels⟩
  have keys : (calls.map fun call => call.1.key) = objects.map Object.key := by
    have mapped := congrArg (List.map Object.key) owned
    rwa [List.map_map, List.map_map] at mapped
  intro object given
  have there : object.ownedBy owner ∈ calls.map Prod.fst := owned ▸ List.mem_map_of_mem given
  obtain ⟨call, member, same⟩ := List.mem_map.mp there
  have settled :=
    settled_of_history history stored ownedRendered (keys ▸ different) done call member
  rw [same] at settled
  exact settled

/-- If rendered objects under different keys were installed with success, and then
other parties changed what belongs to them, a second installation finds all objects
as they should be and changes nothing.

The rendered objects and the stored ones are as they are read
(`Object.wellFormed_of_ofValue`): their maps are in order, and no member of the
body passes for the type or the metadata. -/
theorem installAll_again {objects : List Object}
    (rendered : ∀ object ∈ objects, object.Rendered ∧ object.metadata.NoEmptyMap)
    (different : (objects.map Object.key).Nodup) {before after drifted : MemoryStore}
    (stored : before.WellFormed) {metrics : Metrics} {summary : InstallSummary}
    (installed : installAll surroundings owner metrics before objects = (.ok summary, after))
    (drift : ∀ object ∈ objects, ∀ live : Object, after.find? object.key = some live →
      ∃ live' : Object, drifted.find? object.key = some live'
        ∧ Drift (object.ownedBy owner) live live')
    (metrics' : Metrics) :
    installAll surroundings owner metrics' drifted objects =
      (.ok ⟨0, 0, objects.length⟩, drifted) := by
  obtain ⟨between, ran⟩ := run_installAll surroundings owner metrics before objects
  rw [installed] at ran
  have settled := settled_of_applyAll surroundings owner rendered different stored ran
  have still : ∀ object ∈ objects, (object.ownedBy owner).Rendered
    ∧ (object.ownedBy owner).Applicable
      ∧ ∃ live : Object, drifted.find? object.key = some live
      ∧ Settled (object.ownedBy owner) live := by
    intro object member
    obtain ⟨applicable, live, there, holds⟩ := settled object member
    obtain ⟨live', there', changes⟩ := drift object member live there
    exact ⟨rendered_ownedBy (rendered object member).1 owner, applicable, live', there',
      holds.drift changes⟩
  obtain ⟨metrics'', again⟩ := applyAll_of_settled surroundings owner still .none metrics'
  rw [installAll, again, InstallSummary.none, Nat.zero_add]

/-- An owner of installed objects. -/
def someOwner : OwnerReference := ⟨"metallb.io/v1beta1", "Metallb", "metallb", "uid-0", none, none⟩

/-- An object of a type that has a name and some more metadata, as it is written. -/
def plainValue (apiVersion kind : String) (more : Fields Value) : Value :=
  .obj [("apiVersion", .str apiVersion), ("kind", .str kind),
    ("metadata", .obj (("name", .str "web") :: more))]

/-- A Service whose map of annotations may be there without entries. -/
def service (annotations : Option (Fields String)) : Object :=
  { Object.bare "v1" "Service" "web" with
    metadata := { Metadata.empty with name := some "web", annotations } }

/-- A Deployment. -/
def workload : Object := Object.bare "apps/v1" "Deployment" "web"

theorem rendered_service_none : (service none).Rendered :=
  have read : Object.ofValue (plainValue "v1" "Service" []) = .ok (service none) := rfl
  Object.rendered_of_empty (Object.wellFormed_of_ofValue read) rfl

/-- An object that is rendered with an empty map is replaced by one without the map
when it is installed again, and so is an object that other parties have left an
empty map in. -/
theorem installAll_again_emptyMap :
    let rendered := installAll .idle someOwner .empty .empty [service (some [])]
    let plain := installAll .idle someOwner .empty .empty [service none]
    let emptied := plain.2.insert (created ((service (some [])).ownedBy someOwner) 1)
    (service (some [])).Rendered ∧ rendered.1 = .ok ⟨1, 0, 0⟩
      ∧ (installAll .idle someOwner .empty rendered.2 [service (some [])]).1 = .ok ⟨0, 1, 0⟩
      ∧ (service none).Rendered ∧ plain.1 = .ok ⟨1, 0, 0⟩
      ∧ (installAll .idle someOwner .empty emptied [service none]).1 = .ok ⟨0, 1, 0⟩ := by
  have read : Object.ofValue (plainValue "v1" "Service" [("annotations", .obj [])]) =
      .ok (service (some [])) := rfl
  have rendered : (service (some [])).Rendered :=
    Object.rendered_of_empty (Object.wellFormed_of_ofValue read) rfl
  exact ⟨rendered, rfl, rfl, rendered_service_none, rfl, rfl⟩

/-- A Service that was given an address and a Deployment that was given a revision are
as they should be when they are installed again. -/
theorem installAll_again_address :
    let objects := [service none, workload]
    let installed := (installAll .idle someOwner .empty .empty objects).2
    let addressed :=
      { created ((service none).ownedBy someOwner) 1 with
        body := .obj [("spec", .obj [("clusterIP", .str "10.0.0.1")])] }
    let rolledOut :=
      { created (workload.ownedBy someOwner) 2 with
        metadata := { (created (workload.ownedBy someOwner) 2).metadata with
          annotations := some (Fields.put [] revisionAnnotation "1") } }
    let drifted := (installed.insert addressed).insert rolledOut
    (installAll .idle someOwner .empty .empty objects).1 = .ok ⟨2, 0, 0⟩
      ∧ installAll .idle someOwner .empty drifted objects = (.ok ⟨0, 0, 2⟩, drifted) := by
  intro objects installed addressed rolledOut drifted
  have read : Object.ofValue (plainValue "apps/v1" "Deployment" []) = .ok workload := rfl
  have rendered : ∀ object ∈ objects, object.Rendered ∧ object.metadata.NoEmptyMap := by
    refine List.forall_mem_cons.mpr ⟨⟨rendered_service_none, nofun, nofun⟩, ?_⟩
    exact List.forall_mem_singleton.mpr
      ⟨Object.rendered_of_empty (Object.wellFormed_of_ofValue read) rfl, nofun, nofun⟩
  have created : installAll .idle someOwner .empty empty objects = (.ok ⟨2, 0, 0⟩, installed) := rfl
  have given : (⟨["spec", "clusterIP"], .text⟩ : KeptMember) ∈
      keptMembers ((service none).ownedBy someOwner).groupKind := by decide
  have written : Value.Written (.str "10.0.0.1") ["spec", "clusterIP"] (.obj []) addressed.body :=
    .inside (.object []) (.inside .null (.here .null))
  refine ⟨rfl,
    installAll_again .idle someOwner rendered (by decide) wellFormed_empty created ?_ .empty⟩
  refine List.forall_mem_cons.mpr
    ⟨fun live there => ?_, List.forall_mem_singleton.mpr fun live there => ?_⟩
  · have apart : drifted.others workload.key = (installed.insert addressed).others workload.key :=
      filter_place rolledOut _
    have found : drifted.find? (service none).key = some addressed :=
      (find?_eq_of_others apart (by decide)).trans (find?_place addressed _)
    cases there
    exact ⟨addressed, found, .single (.kept given (.text (by decide)) nofun written)⟩
  · have found : drifted.find? workload.key = some rolledOut := find?_place rolledOut _
    cases there
    exact ⟨rolledOut, found, .single (.revised (by decide) "1")⟩

end MemoryStore

end PoolOperator
