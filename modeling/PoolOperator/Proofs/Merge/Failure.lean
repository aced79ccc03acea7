import PoolOperator.Proofs.Merge.Supplied

/-!
# When merging fails

Merging fails if a member that it looks at has the wrong type (`Misshapen`), or
if the pools of a ConfigMap cannot be read (`Unreadable`).  Only the second is
an error of the pool configuration, and the two never happen together
(`merge_fails_iff`).

The desired ConfigMap is not looked at unless the live one has pools, and the
members of the desired object that the live one replaces are not looked at
either.
-/

namespace PoolOperator

namespace Object

/-- The value at a path of the body, null if it is missing. -/
def member (object : Object) (path : Path) : Value := object.body.under path

/-- Can the body have members, and is the value at every path null or of its
shape? -/
structure HasShapes (object : Object) (shapes : List (Path × Shape)) : Prop where
  /-- The body is an object or null. -/
  opened : Shape.object.allows object.body = true
  /-- The value at every path is null or of its shape. -/
  members : ∀ expected ∈ shapes, expected.2.allows (object.member expected.1) = true

end Object

/-- What the members of a live Service have to be. -/
def liveServiceShapes : List (Path × Shape) :=
  [(["spec"], .object), (["spec", "clusterIP"], .text), (["spec", "clusterIPs"], .texts),
    (["spec", "ipFamilies"], .texts), (["spec", "ipFamilyPolicy"], .text)]

/-- What the members of a desired Service have to be. -/
def ownServiceShapes : List (Path × Shape) :=
  [(["spec"], .object), (["spec", "ipFamilyPolicy"], .text)]

/-- What the members of a live ServiceAccount have to be. -/
def liveAccountShapes : List (Path × Shape) := [(["secrets"], .list), (["imagePullSecrets"], .list)]

/-- What the members of a ConfigMap have to be. -/
def mapShapes : List (Path × Shape) := [(["data"], .object), (["data", configKey], .text)]

/-- Has a member that merging looks at the wrong type?  In a body that is neither
an object nor null every member is of the wrong type. -/
inductive Misshapen (current desired : Object) : Prop
  /-- One of the live Service. -/
  | liveService (service : desired.groupKind = ⟨"", "Service"⟩)
      (wrong : ¬ current.HasShapes liveServiceShapes) : Misshapen current desired
  /-- One of the desired Service. -/
  | ownService (service : desired.groupKind = ⟨"", "Service"⟩)
      (wrong : ¬ desired.HasShapes ownServiceShapes) : Misshapen current desired
  /-- One of the live ServiceAccount. -/
  | liveAccount (account : desired.groupKind = ⟨"", "ServiceAccount"⟩)
      (wrong : ¬ current.HasShapes liveAccountShapes) : Misshapen current desired
  /-- A member of the live ServiceAccount is to be written into a body that is
  neither an object nor null. -/
  | ownAccount {name : String} (account : desired.groupKind = ⟨"", "ServiceAccount"⟩)
      (there : name ∈ ["secrets", "imagePullSecrets"]) (supplied : current.member [name] ≠ .null)
      (wrong : Shape.object.allows desired.body = false) : Misshapen current desired
  /-- One of the live ConfigMap. -/
  | liveMap (map : desired.groupKind = ⟨"", "ConfigMap"⟩)
      (wrong : ¬ current.HasShapes mapShapes) : Misshapen current desired
  /-- One of the desired ConfigMap, if the live one has pools. -/
  | ownMap {live : String} (map : desired.groupKind = ⟨"", "ConfigMap"⟩)
      (ofLive : current.member ["data", configKey] = .str live)
      (wrong : ¬ desired.HasShapes mapShapes) : Misshapen current desired

/-- Have both ConfigMaps a text for the pools, and which error is the first one
in reading the two texts? -/
inductive Unreadable (current desired : Object) : Yaml.Error → Prop
  /-- The live pools cannot be read. -/
  | live {live own : String} {error : Yaml.Error} (map : desired.groupKind = ⟨"", "ConfigMap"⟩)
      (ofLive : current.member ["data", configKey] = .str live)
      (ofOwn : desired.member ["data", configKey] = .str own)
      (fails : PoolConfig.ofYaml live = .error error) : Unreadable current desired error
  /-- The live pools can be read, but the desired ones cannot. -/
  | own {live own : String} {config : PoolConfig} {error : Yaml.Error}
      (map : desired.groupKind = ⟨"", "ConfigMap"⟩)
      (ofLive : current.member ["data", configKey] = .str live)
      (ofOwn : desired.member ["data", configKey] = .str own)
      (reads : PoolConfig.ofYaml live = .ok config)
      (fails : PoolConfig.ofYaml own = .error error) : Unreadable current desired error

/-! ## Reading members -/

namespace Object

variable {object : Object}

theorem hasShapes_iff {shapes : List (Path × Shape)} :
    object.HasShapes shapes ↔ Shape.object.allows object.body = true
      ∧ ∀ expected ∈ shapes, expected.2.allows (object.member expected.1) = true :=
  ⟨fun right => ⟨right.opened, right.members⟩, fun right => ⟨right.1, right.2⟩⟩

theorem opens_pair_iff (object : Object) (key name : String) :
    object.body.opens [key, name] = true ↔
      Shape.object.allows object.body = true
        ∧ Shape.object.allows (object.member [key]) = true := by
  rw [member]
  cases object.body with
  | obj fields =>
      exact (Bool.eq_iff_iff.mp (Value.opens_single _ name)).trans
        (by simp [Shape.allows, Value.under])
  | null => exact iff_of_true rfl ⟨rfl, rfl⟩
  | _ => exact iff_of_false Bool.false_ne_true fun both => Bool.false_ne_true both.1

/-- Only an object has members. -/
theorem exists_fields_of_member {key : String} {rest : Path}
    (there : object.member (key :: rest) ≠ .null) :
    ∃ fields : Fields Value, object.body = .obj fields := by
  rw [member] at there
  cases body : object.body with
  | obj fields => exact ⟨fields, rfl⟩
  | _ =>
      rw [body] at there
      exact absurd rfl there

theorem member_of_find? {key : String} {rest : Path} {value : Value}
    (there : object.body.fields.find? key = some value) :
    object.member (key :: rest) = value.under rest := by
  rw [member]
  cases body : object.body with
  | obj fields =>
      rw [body, Value.fields] at there
      rw [Value.under, there]
      rfl
  | _ =>
      rw [body] at there
      cases there

theorem string?_eq_ok_iff {path : Path} {text? : Option String} :
    object.string? path = .ok text? ↔
      object.body.opens path = true ∧ object.member path = (text?.map .str).getD .null := by
  rw [string?, Except.mapError_eq_ok_iff, Value.string?_eq_ok_iff]
  rfl

/-- The pools of a ConfigMap are a text, or there are none. -/
theorem poolPayload?_eq_ok_iff {payload? : Option String} :
    object.poolPayload? = .ok payload? ↔
      (Shape.object.allows object.body = true ∧ Shape.object.allows (object.member ["data"]) = true)
        ∧ object.member ["data", configKey] = (payload?.map .str).getD .null := by
  rw [poolPayload?, string?_eq_ok_iff, opens_pair_iff]

theorem hasShapes_mapShapes_iff :
    object.HasShapes mapShapes ↔
      ∃ payload? : Option String, object.poolPayload? = .ok payload? := by
  simp only [hasShapes_iff, mapShapes, List.forall_mem_cons, List.not_mem_nil, false_implies,
    implies_true, and_true, poolPayload?_eq_ok_iff, Value.allows_text_iff,
    exists_and_left, and_assoc]

end Object

/-! ## Access errors -/

/-- Is an error one of reading or writing a member? -/
def MergeError.IsAccess (error : MergeError) : Prop :=
  ∃ source : AccessError, error = .access source

theorem mapError_failsOnly {α : Type} (computation : Except AccessError α) :
    Except.FailsOnly MergeError.IsAccess (computation.mapError .access) :=
  .mapError _ fun source => ⟨source, rfl⟩

theorem Object.poolPayload?_failsOnly (object : Object) :
    Except.FailsOnly MergeError.IsAccess object.poolPayload? := mapError_failsOnly _

theorem keepMembers_failsOnly (current : Object) (members : List KeptMember) (desired : Object) :
    Except.FailsOnly MergeError.IsAccess (keepMembers current members desired) := by
  induction members generalizing desired with
  | nil => exact .ok desired
  | cons member rest induction =>
      refine .bind (mapError_failsOnly _) fun value? => .bind ?_ fun between => induction between
      cases value? with
      | none => exact .ok desired
      | some value => exact mapError_failsOnly _

theorem mergeService_failsOnly (current desired : Object) :
    Except.FailsOnly MergeError.IsAccess (mergeService current desired) :=
  mergeService_eq current desired ▸ keepMembers_failsOnly current _ desired

theorem mergeServiceAccount_failsOnly (current desired : Object) :
    Except.FailsOnly MergeError.IsAccess (mergeServiceAccount current desired) :=
  mergeServiceAccount_eq current desired ▸ keepMembers_failsOnly current _ desired

theorem exists_access_iff {α : Type} {computation : Except MergeError α}
    (only : Except.FailsOnly MergeError.IsAccess computation) :
    (∃ source : AccessError, computation = .error (.access source)) ↔
      ¬ ∃ result : α, computation = .ok result := by
  rw [← Except.exists_error_iff]
  constructor
  · rintro ⟨source, fails⟩
    exact ⟨_, fails⟩
  · rintro ⟨error, fails⟩
    obtain ⟨source, rfl⟩ := only error fails
    exact ⟨source, fails⟩

theorem ne_unreadable {α : Type} {computation : Except MergeError α}
    (only : Except.FailsOnly MergeError.IsAccess computation) (source : Yaml.Error) :
    computation ≠ .error (.unreadableConfig source) := by
  intro fails
  obtain ⟨_, same⟩ := only _ fails
  cases same

/-! ## Services and ServiceAccounts -/

theorem exists_keepMembers_iff {current desired : Object} {members : List KeptMember}
    (notEmpty : ∀ member ∈ members, member.path ≠ []) (separate : Separate members) :
    (∃ merged : Object, keepMembers current members desired = .ok merged) ↔
      ∀ member ∈ members, member.Typed current.body desired.body
        ∧ (member.supplied? current.body desired.body ≠ none →
            desired.body.opens member.path = true) := by
  rw [← Keeps.exists_iff separate]
  simp only [keepMembers_eq_ok_iff notEmpty]
  constructor
  · rintro ⟨merged, body, keeps, -⟩
    exact ⟨_, keeps⟩
  · rintro ⟨merged, keeps⟩
    exact ⟨_, merged, keeps, rfl⟩

theorem KeptMember.typed_iff {member : KeptMember} {current desired : Object} :
    member.Typed current.body desired.body ↔
      (current.body.opens member.path = true
          ∧ member.keeping.shape.allows (current.member member.path) = true)
        ∧ (member.keeping = .textUnlessOwn →
            desired.body.opens member.path = true
              ∧ Shape.text.allows (desired.member member.path) = true) :=
  ⟨fun typed => ⟨typed.live, typed.own⟩, fun ⟨live, own⟩ => ⟨live, own⟩⟩

theorem exists_mergeService_iff {current desired : Object} :
    (∃ merged : Object, mergeService current desired = .ok merged) ↔
      current.HasShapes liveServiceShapes ∧ desired.HasShapes ownServiceShapes := by
  have notEmpty : ∀ member ∈ serviceMembers, member.path ≠ [] := by decide
  rw [mergeService_eq, exists_keepMembers_iff notEmpty (separate_keptMembers ⟨"", "Service"⟩)]
  simp only [Object.hasShapes_iff, serviceMembers, liveServiceShapes, ownServiceShapes,
    List.forall_mem_cons, List.not_mem_nil, false_implies, implies_true, and_true,
    KeptMember.typed_iff, Object.opens_pair_iff,
    Keeping.shape, reduceCtorEq, true_implies]
  -- The desired members can be written, since the policy can be read.
  tauto

theorem exists_mergeServiceAccount_iff {current desired : Object} :
    (∃ merged : Object, mergeServiceAccount current desired = .ok merged) ↔
      current.HasShapes liveAccountShapes ∧ ∀ name ∈ ["secrets", "imagePullSecrets"],
        current.member [name] ≠ .null → Shape.object.allows desired.body = true := by
  have notEmpty : ∀ member ∈ serviceAccountMembers, member.path ≠ [] := by decide
  rw [mergeServiceAccount_eq, exists_keepMembers_iff notEmpty
    (separate_keptMembers ⟨"", "ServiceAccount"⟩)]
  simp only [Object.hasShapes_iff, serviceAccountMembers, liveAccountShapes, List.forall_mem_cons,
    List.not_mem_nil, false_implies, implies_true, and_true, KeptMember.typed_iff,
    Value.opens_single,
    Keeping.shape, reduceCtorEq, KeptMember.supplied?, ne_eq, Value.present?_eq_none_iff,
    Object.member]
  tauto

/-! ## ConfigMaps -/

section

variable {current desired : Object}

/-- With pools on both sides only reading them can fail. -/
theorem mergeConfigMap_of_payloads {live own : String}
    (ofLive : current.poolPayload? = .ok (some live))
    (ofOwn : desired.poolPayload? = .ok (some own)) :
    mergeConfigMap current desired = poolsOf live >>= fun livePools =>
      (poolsOf own).map fun ownPools =>
      { desired with
        body := .obj (desired.body.fields.put "data"
          (.obj [(configKey, .str (PoolConfig.toYaml ⟨livePools ++ ownPools⟩))])) } := by
  have there : desired.member ["data", configKey] ≠ .null :=
    (Object.poolPayload?_eq_ok_iff.mp ofOwn).2.trans_ne nofun
  obtain ⟨fields, body⟩ := Object.exists_fields_of_member there
  rw [mergeConfigMap, ofLive]
  simp only [bind, Except.bind, ofOwn]
  cases poolsOf live with
  | error error => rfl
  | ok livePools =>
      cases poolsOf own with
      | error error => rfl
      | ok ownPools =>
          refine (Object.write_eq_ok_iff (List.cons_ne_nil "data" [])).mpr ⟨_, ?_, rfl⟩
          rw [body]
          exact .inside (.object fields) (.here _)

/-- Where merging ConfigMaps fails. -/
inductive MapFails (current desired : Object) (error : MergeError) : Prop
  /-- Looking for the live pools. -/
  | live (fails : current.poolPayload? = .error error) : MapFails current desired error
  /-- Looking for the desired pools, if there are live ones. -/
  | own {live : String} (ofLive : current.poolPayload? = .ok (some live))
      (fails : desired.poolPayload? = .error error) : MapFails current desired error
  /-- Reading the live pools. -/
  | livePools {live own : String} (ofLive : current.poolPayload? = .ok (some live))
      (ofOwn : desired.poolPayload? = .ok (some own)) (fails : poolsOf live = .error error) :
      MapFails current desired error
  /-- Reading the desired pools. -/
  | ownPools {live own : String} {livePools : List PoolEntry}
      (ofLive : current.poolPayload? = .ok (some live))
      (ofOwn : desired.poolPayload? = .ok (some own))
      (reads : poolsOf live = .ok livePools) (fails : poolsOf own = .error error) :
      MapFails current desired error

theorem mergeConfigMap_eq_error_iff {error : MergeError} :
    mergeConfigMap current desired = .error error ↔ MapFails current desired error := by
  constructor
  · intro failed
    rcases Except.bind_eq_error_iff.mp failed with fails | ⟨live?, ofLive, rest⟩
    · exact .live fails
    · cases live? with
      | none => cases rest
      | some live =>
          rcases Except.bind_eq_error_iff.mp rest with fails | ⟨own?, ofOwn, rest⟩
          · exact .own ofLive fails
          · cases own? with
            | none => cases rest
            | some own =>
                rw [mergeConfigMap_of_payloads ofLive ofOwn] at failed
                rcases Except.bind_eq_error_iff.mp failed with fails | ⟨livePools, reads, failed⟩
                · exact .livePools ofLive ofOwn fails
                · exact .ownPools ofLive ofOwn reads (Except.map_eq_error_iff.mp failed)
  · intro fails
    cases fails with
    | live fails =>
        rw [mergeConfigMap, fails]
        rfl
    | own ofLive fails =>
        rw [mergeConfigMap, ofLive]
        simp only [bind, Except.bind, fails]
    | livePools ofLive ofOwn fails =>
        rw [mergeConfigMap_of_payloads ofLive ofOwn, fails]
        rfl
    | ownPools ofLive ofOwn reads fails =>
        rw [mergeConfigMap_of_payloads ofLive ofOwn, reads]
        exact Except.map_eq_error_iff.mpr fails

/-- The pools of a ConfigMap are looked for in vain if its data are not of the right types. -/
theorem poolPayload?_access_iff :
    (∃ source : AccessError, desired.poolPayload? = .error (.access source)) ↔
      ¬ desired.HasShapes mapShapes := by
  rw [exists_access_iff desired.poolPayload?_failsOnly, Object.hasShapes_mapShapes_iff]

theorem poolPayload?_eq_some_iff {payload : String} :
    desired.poolPayload? = .ok (some payload) ↔
      desired.member ["data", configKey] = .str payload := by
  rw [Object.poolPayload?_eq_ok_iff]
  constructor
  · rintro ⟨-, there⟩
    exact there
  · intro there
    have notNull : desired.body.under ["data", configKey] ≠ .null := there.trans_ne nofun
    exact ⟨(Object.opens_pair_iff desired "data" configKey).mp (Value.opens_of_under notNull),
      there⟩

theorem poolsOf_eq_ok_iff {payload : String} {pools : List PoolEntry} :
    poolsOf payload = .ok pools ↔
      ∃ config : PoolConfig, PoolConfig.ofYaml payload = .ok config ∧ config.pools = pools := by
  rw [poolsOf, Except.map_eq_ok_iff]
  simp only [Except.mapError_eq_ok_iff]

theorem poolsOf_eq_error_iff {payload : String} {error : MergeError} :
    poolsOf payload = .error error ↔
      ∃ source : Yaml.Error, PoolConfig.ofYaml payload = .error source
        ∧ .unreadableConfig source = error := by
  rw [poolsOf, Except.map_eq_error_iff, Except.mapError_eq_error_iff]
  simp only [eq_comm]

/-- ConfigMaps fail to merge in two ways. -/
theorem mapFails_access_iff :
    (∃ source : AccessError, MapFails current desired (.access source)) ↔
      ¬ current.HasShapes mapShapes
        ∨ ∃ live : String, current.member ["data", configKey] = .str live
          ∧ ¬ desired.HasShapes mapShapes := by
  constructor
  · rintro ⟨source, fails⟩
    cases fails with
    | live fails => exact .inl (poolPayload?_access_iff.mp ⟨source, fails⟩)
    | own ofLive fails =>
        exact .inr ⟨_, poolPayload?_eq_some_iff.mp ofLive,
          poolPayload?_access_iff.mp ⟨source, fails⟩⟩
    | livePools ofLive ofOwn fails =>
        obtain ⟨source, -, same⟩ := poolsOf_eq_error_iff.mp fails
        cases same
    | ownPools ofLive ofOwn reads fails =>
        obtain ⟨source, -, same⟩ := poolsOf_eq_error_iff.mp fails
        cases same
  · rintro (wrong | ⟨live, ofLive, wrong⟩)
    · obtain ⟨source, fails⟩ := poolPayload?_access_iff.mpr wrong
      exact ⟨source, .live fails⟩
    · obtain ⟨source, fails⟩ := poolPayload?_access_iff.mpr wrong
      exact ⟨source, .own (poolPayload?_eq_some_iff.mpr ofLive) fails⟩

theorem mapFails_unreadable_iff {source : Yaml.Error}
    (map : desired.groupKind = ⟨"", "ConfigMap"⟩) :
    MapFails current desired (.unreadableConfig source) ↔ Unreadable current desired source := by
  constructor
  · intro fails
    cases fails with
    | live fails => exact absurd fails (ne_unreadable current.poolPayload?_failsOnly source)
    | own ofLive fails => exact absurd fails (ne_unreadable desired.poolPayload?_failsOnly source)
    | livePools ofLive ofOwn fails =>
        obtain ⟨source, fails, same⟩ := poolsOf_eq_error_iff.mp fails
        cases same
        exact .live map (poolPayload?_eq_some_iff.mp ofLive)
          (poolPayload?_eq_some_iff.mp ofOwn) fails
    | ownPools ofLive ofOwn reads fails =>
        obtain ⟨source, fails, same⟩ := poolsOf_eq_error_iff.mp fails
        cases same
        obtain ⟨config, reads, -⟩ := poolsOf_eq_ok_iff.mp reads
        exact .own map (poolPayload?_eq_some_iff.mp ofLive)
          (poolPayload?_eq_some_iff.mp ofOwn) reads fails
  · intro unreadable
    cases unreadable with
    | live map ofLive ofOwn fails =>
        exact .livePools (poolPayload?_eq_some_iff.mpr ofLive) (poolPayload?_eq_some_iff.mpr ofOwn)
          (poolsOf_eq_error_iff.mpr ⟨source, fails, rfl⟩)
    | own map ofLive ofOwn reads fails =>
        exact .ownPools (poolPayload?_eq_some_iff.mpr ofLive) (poolPayload?_eq_some_iff.mpr ofOwn)
          (poolsOf_eq_ok_iff.mpr ⟨_, reads, rfl⟩) (poolsOf_eq_error_iff.mpr ⟨source, fails, rfl⟩)

end

/-! ## All kinds -/

section

variable {current desired : Object}

/-- Merging fails with a Service, a ServiceAccount or a ConfigMap only. -/
theorem merge_eq_error_iff {error : MergeError} :
    merge current desired = .error error ↔
      (desired.groupKind = ⟨"", "Service"⟩ ∧ mergeService current desired = .error error)
        ∨ (desired.groupKind = ⟨"", "ServiceAccount"⟩
          ∧ mergeServiceAccount current desired = .error error)
        ∨ (desired.groupKind = ⟨"", "ConfigMap"⟩ ∧ MapFails current desired error) := by
  have typed (kind : MergedKind) : desired.groupKind = kind.type ↔
    MergedKind.of? desired.groupKind = some kind :=
    MergedKind.of?_eq_some_iff.symm
  have service := typed .service
  have account := typed .serviceAccount
  have map := typed .configMap
  simp only [MergedKind.type] at service account map
  rw [merge, Except.map_eq_error_iff, mergeKind, ← mergeConfigMap_eq_error_iff, service,
    account, map]
  cases MergedKind.of? desired.groupKind with
  | none => simp
  | some kind => cases kind <;> simp

theorem mergeService_access_iff :
    (∃ source : AccessError, mergeService current desired = .error (.access source)) ↔
      ¬ (current.HasShapes liveServiceShapes ∧ desired.HasShapes ownServiceShapes) := by
  rw [exists_access_iff (mergeService_failsOnly current desired), exists_mergeService_iff]

theorem mergeServiceAccount_access_iff :
    (∃ source : AccessError, mergeServiceAccount current desired = .error (.access source)) ↔
      ¬ (current.HasShapes liveAccountShapes ∧ ∀ name ∈ ["secrets", "imagePullSecrets"],
        current.member [name] ≠ .null → Shape.object.allows desired.body = true) := by
  rw [exists_access_iff (mergeServiceAccount_failsOnly current desired),
    exists_mergeServiceAccount_iff]

theorem merge_access_iff :
    (∃ source : AccessError, merge current desired = .error (.access source)) ↔
      Misshapen current desired := by
  simp only [merge_eq_error_iff, exists_or, exists_and_left, mergeService_access_iff,
    mergeServiceAccount_access_iff, mapFails_access_iff]
  constructor
  · rintro (⟨service, wrong⟩ | ⟨account, wrong⟩ | ⟨map, wrong | ⟨live, ofLive, wrong⟩⟩)
    · rcases not_and_or.mp wrong with wrong | wrong
      · exact .liveService service wrong
      · exact .ownService service wrong
    · rcases not_and_or.mp wrong with wrong | wrong
      · exact .liveAccount account wrong
      · simp only [not_forall, Bool.not_eq_true] at wrong
        obtain ⟨name, there, supplied, wrong⟩ := wrong
        exact .ownAccount account there supplied wrong
    · exact .liveMap map wrong
    · exact .ownMap map ofLive wrong
  · intro misshapen
    cases misshapen with
    | liveService service wrong => exact .inl ⟨service, fun right => wrong right.1⟩
    | ownService service wrong => exact .inl ⟨service, fun right => wrong right.2⟩
    | liveAccount account wrong => exact .inr (.inl ⟨account, fun right => wrong right.1⟩)
    | ownAccount account there supplied wrong =>
        exact .inr (.inl ⟨account, fun right =>
          Bool.false_ne_true (wrong ▸ right.2 _ there supplied)⟩)
    | liveMap map wrong => exact .inr (.inr ⟨map, .inl wrong⟩)
    | ownMap map ofLive wrong => exact .inr (.inr ⟨map, .inr ⟨_, ofLive, wrong⟩⟩)

theorem merge_unreadable_iff {source : Yaml.Error} :
    merge current desired = .error (.unreadableConfig source) ↔
      Unreadable current desired source := by
  simp only [merge_eq_error_iff, ne_unreadable (mergeService_failsOnly current desired),
    ne_unreadable (mergeServiceAccount_failsOnly current desired), and_false, false_or]
  constructor
  · rintro ⟨map, fails⟩
    exact (mapFails_unreadable_iff map).mp fails
  · intro unreadable
    have map : desired.groupKind = ⟨"", "ConfigMap"⟩ := by cases unreadable <;> assumption
    exact ⟨map, (mapFails_unreadable_iff map).mpr unreadable⟩

theorem poolsOf_unreadable {payload : String} {error : MergeError}
    (fails : poolsOf payload = .error error) :
    ∃ source : Yaml.Error, error = .unreadableConfig source := by
  obtain ⟨source, -, rfl⟩ := poolsOf_eq_error_iff.mp fails
  exact ⟨source, rfl⟩

/-- An error of merging is one of a member or of reading pools. -/
theorem merge_failsOnly (current desired : Object) :
    Except.FailsOnly
    (fun error => error.IsAccess ∨ ∃ source : Yaml.Error, error = .unreadableConfig source)
      (merge current desired) := by
  intro error failed
  rcases merge_eq_error_iff.mp failed with ⟨-, fails⟩ | ⟨-, fails⟩ | ⟨-, fails⟩
  · exact .inl (mergeService_failsOnly current desired error fails)
  · exact .inl (mergeServiceAccount_failsOnly current desired error fails)
  · cases fails with
    | live fails => exact .inl (current.poolPayload?_failsOnly error fails)
    | own ofLive fails => exact .inl (desired.poolPayload?_failsOnly error fails)
    | livePools ofLive ofOwn fails => exact .inr (poolsOf_unreadable fails)
    | ownPools ofLive ofOwn reads fails => exact .inr (poolsOf_unreadable fails)

end

/-- When merging fails, and with which class of error. -/
theorem merge_fails_iff (current desired : Object) :
    ((∃ error : MergeError, merge current desired = .error error) ↔
        Misshapen current desired ∨ ∃ source : Yaml.Error, Unreadable current desired source)
      ∧ ((∃ source : AccessError, merge current desired = .error (.access source)) ↔
          Misshapen current desired)
      ∧ ∀ source : Yaml.Error,
          merge current desired = .error (.unreadableConfig source) ↔
            Unreadable current desired source := by
  refine ⟨⟨?_, ?_⟩, merge_access_iff, fun source => merge_unreadable_iff⟩
  · rintro ⟨error, fails⟩
    rcases merge_failsOnly current desired error fails with ⟨source, rfl⟩ | ⟨source, rfl⟩
    · exact .inl (merge_access_iff.mp ⟨source, fails⟩)
    · exact .inr ⟨source, merge_unreadable_iff.mp fails⟩
  · rintro (misshapen | ⟨source, unreadable⟩)
    · obtain ⟨source, fails⟩ := merge_access_iff.mpr misshapen
      exact ⟨_, fails⟩
    · exact ⟨_, merge_unreadable_iff.mpr unreadable⟩

end PoolOperator
