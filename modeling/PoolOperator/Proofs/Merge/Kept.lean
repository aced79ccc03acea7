import PoolOperator.Merge
import PoolOperator.Proofs.Value.Path

/-!
# Members that are kept

Merging keeps some members of the live body: they are read from the live body
and written into the desired one (`Keeps`).  Which ones depends on the kind
(`keptMembers`), and how one of them is kept is a rule of its own (`Keeping`).

Every kept member has its live value afterwards, and everything apart from the
kept members is as desired (`Keeps.get?_member`, `Keeps.get?_apart`).  Keeping
is stable: the merged body keeps itself (`Keeps.stable`), and so it does after
a kept member got another value (`Keeps.changed`).
-/

namespace PoolOperator

/-- How a member of the body is kept. -/
inductive Keeping where
  /-- A text, unless it is empty. -/
  | text
  /-- A list of texts. -/
  | texts
  /-- A list. -/
  | list
  /-- A text, unless the desired object has one of its own. -/
  | textUnlessOwn
  deriving DecidableEq

/-- What is kept in some manner. -/
inductive Keeping.Admits : Keeping → Value → Prop
  /-- A text with something in it. -/
  | text {text : String} (notEmpty : text ≠ "") : Admits .text (.str text)
  /-- A list of texts. -/
  | texts (texts : List String) : Admits .texts (.strings texts)
  /-- A list. -/
  | list (items : List Value) : Admits .list (.arr items)
  /-- A text. -/
  | textUnlessOwn (text : String) : Admits .textUnlessOwn (.str text)

/-- A member of the body that is kept. -/
structure KeptMember where
  /-- Where the member is. -/
  path : Path
  /-- How it is kept. -/
  keeping : Keeping
  deriving DecidableEq

/-- The live value of a member, if it is to be written into the desired body. -/
def KeptMember.value? (member : KeptMember) (current desired : Value) :
    Except AccessError (Option Value) :=
  match member.keeping with
  | .text => return ((← current.string? member.path).filter (· ≠ "")).map .str
  | .texts => return (← current.strings? member.path).map .strings
  | .list => return (← current.list? member.path).map .arr
  | .textUnlessOwn => do
      let live ← current.string? member.path
      let own ← desired.string? member.path
      return if own.isSome then none else live.map .str

/-- The members of a Service that are kept. -/
def serviceMembers : List KeptMember :=
  [⟨["spec", "clusterIP"], .text⟩, ⟨["spec", "clusterIPs"], .texts⟩,
    ⟨["spec", "ipFamilies"], .texts⟩, ⟨["spec", "ipFamilyPolicy"], .textUnlessOwn⟩]

/-- The members of a ServiceAccount that are kept. -/
def serviceAccountMembers : List KeptMember := [⟨["secrets"], .list⟩, ⟨["imagePullSecrets"], .list⟩]

/-- The members that are kept, by kind. -/
def keptMembers (type : GroupKind) : List KeptMember :=
  match MergedKind.of? type with
  | some .service => serviceMembers
  | some .serviceAccount => serviceAccountMembers
  | _ => []

/-- Members of the current value are kept in a desired one. -/
inductive Keeps (current : Value) : List KeptMember → Value → Value → Prop
  /-- There is no further member. -/
  | done (desired : Value) : Keeps current [] desired desired
  /-- A member without a live value stays as desired. -/
  | skip {member : KeptMember} {rest : List KeptMember} {desired merged : Value}
      (absent : member.value? current desired = .ok none)
      (others : Keeps current rest desired merged) :
      Keeps current (member :: rest) desired merged
  /-- A live value is written. -/
  | keep {member : KeptMember} {rest : List KeptMember} {value desired between merged : Value}
      (live : member.value? current desired = .ok (some value))
      (written : Value.Written value member.path desired between)
      (others : Keeps current rest between merged) : Keeps current (member :: rest) desired merged

/-- Is no member a part of another one? -/
def Separate (members : List KeptMember) : Prop :=
  members.Pairwise fun one other => one.path.Apart other.path

theorem separate_keptMembers (type : GroupKind) : Separate (keptMembers type) := by
  rw [keptMembers]
  split
  · rw [Separate]
    decide
  · rw [Separate]
    decide
  · exact List.Pairwise.nil

/-! ## The value to keep -/

namespace KeptMember

variable {member : KeptMember} {current current' desired desired' value : Value}

/-- Only what the member is in the two values matters. -/
theorem value?_congr (live : current.get? member.path = current'.get? member.path)
    (own : desired.get? member.path = desired'.get? member.path) :
    member.value? current desired = member.value? current' desired' := by
  simp only [value?, Value.string?, Value.strings?, Value.list?, live, own]

/-- What is kept is the live value. -/
theorem get?_of_value? (live : member.value? current desired = .ok (some value)) :
    current.get? member.path = .ok (some value) ∧ value.isNull = false := by
  rw [value?] at live
  cases rule : member.keeping with
  | text =>
      rw [rule] at live
      obtain ⟨text?, read, kept⟩ := Except.bind_eq_ok_iff.mp live
      obtain ⟨text, filtered, same⟩ := Option.map_eq_some_iff.mp (Except.ok.inj kept)
      obtain ⟨there, -⟩ := Option.filter_eq_some_iff.mp filtered
      subst there same
      exact ⟨Value.string?_eq_some_iff.mp read, rfl⟩
  | texts =>
      rw [rule] at live
      obtain ⟨texts?, read, kept⟩ := Except.bind_eq_ok_iff.mp live
      obtain ⟨texts, there, same⟩ := Option.map_eq_some_iff.mp (Except.ok.inj kept)
      subst there same
      exact ⟨Value.strings?_eq_some_iff.mp read, rfl⟩
  | list =>
      rw [rule] at live
      obtain ⟨items?, read, kept⟩ := Except.bind_eq_ok_iff.mp live
      obtain ⟨items, there, same⟩ := Option.map_eq_some_iff.mp (Except.ok.inj kept)
      subst there same
      exact ⟨Value.list?_eq_some_iff.mp read, rfl⟩
  | textUnlessOwn =>
      rw [rule] at live
      obtain ⟨text?, read, live⟩ := Except.bind_eq_ok_iff.mp live
      obtain ⟨own?, -, kept⟩ := Except.bind_eq_ok_iff.mp live
      have kept := Except.ok.inj kept
      split at kept
      · cases kept
      · obtain ⟨text, there, same⟩ := Option.map_eq_some_iff.mp kept
        subst there same
        exact ⟨Value.string?_eq_some_iff.mp read, rfl⟩

/-- A live value that is to be kept is kept, unless the desired object has its own. -/
theorem value?_of_admits (live : current.get? member.path = .ok (some value))
    (admits : member.keeping.Admits value)
    (noOwn : member.keeping = .textUnlessOwn → desired.string? member.path = .ok none) :
    member.value? current desired = .ok (some value) := by
  rw [value?]
  generalize member.keeping = keeping at admits noOwn
  cases admits with
  | text notEmpty =>
      rw [Value.string?_eq_some_iff.mpr live]
      simp [bind, Except.bind, pure, Except.pure, Option.filter, notEmpty]
  | texts texts =>
      rw [Value.strings?_eq_some_iff.mpr live]
      rfl
  | list items =>
      rw [Value.list?_eq_some_iff.mpr live]
      rfl
  | textUnlessOwn text =>
      rw [Value.string?_eq_some_iff.mpr live, noOwn rfl]
      rfl

end KeptMember

/-! ## What is kept -/

namespace Keeps

variable {current current' desired merged : Value} {members : List KeptMember}

/-- What is apart from all kept members is as desired. -/
theorem get?_apart (keeps : Keeps current members desired merged) {path : Path}
    (apart : ∀ member ∈ members, member.path.Apart path) :
    merged.get? path = desired.get? path := by
  induction keeps with
  | done desired => rfl
  | skip absent others induction =>
      exact induction fun member there => apart member (List.mem_cons_of_mem _ there)
  | keep live written others induction =>
      rw [induction fun member there => apart member (List.mem_cons_of_mem _ there)]
      exact written.get?_apart (apart _ List.mem_cons_self)

/-- A kept member has its live value, or is as desired if there is none. -/
theorem get?_member (keeps : Keeps current members desired merged) (separate : Separate members)
    {member : KeptMember} (there : member ∈ members) :
    ∃ value? : Option Value, member.value? current desired = .ok value?
      ∧ merged.get? member.path =
        value?.elim (desired.get? member.path) fun value => .ok (some value) := by
  induction keeps with
  | done desired => cases there
  | @skip first rest desired merged absent others induction =>
      obtain ⟨fromFirst, restSeparate⟩ := List.pairwise_cons.mp separate
      rcases List.mem_cons.mp there with rfl | later
      · exact ⟨none, absent, others.get?_apart fun other member => (fromFirst other member).symm⟩
      · exact induction restSeparate later
  | @keep first rest value desired between merged live written others induction =>
      obtain ⟨fromFirst, restSeparate⟩ := List.pairwise_cons.mp separate
      rcases List.mem_cons.mp there with rfl | later
      · refine ⟨some value, live, ?_⟩
        rw [others.get?_apart fun other member => (fromFirst other member).symm, written.get?_self,
          (KeptMember.get?_of_value? live).2]
        rfl
      · obtain ⟨value?, found, read⟩ := induction restSeparate later
        have untouched := written.get?_apart (fromFirst member later)
        rw [KeptMember.value?_congr rfl untouched] at found
        rw [untouched] at read
        exact ⟨value?, found, read⟩

/-- Keeping members preserves the order. -/
theorem ordered (keeps : Keeps current members desired merged) (live : current.Ordered)
    (own : desired.Ordered) : merged.Ordered := by
  induction keeps with
  | done desired => exact own
  | skip absent others induction => exact induction own
  | keep found written others induction =>
      exact induction (written.ordered own (live.of_get? (KeptMember.get?_of_value? found).1))

/-- Only the kept members of the live value matter. -/
theorem congr (keeps : Keeps current members desired merged)
    (same : ∀ member ∈ members, current'.get? member.path = current.get? member.path) :
    Keeps current' members desired merged := by
  induction keeps with
  | done desired => exact .done desired
  | skip absent others induction =>
      refine .skip ?_ (induction fun member there => same member (List.mem_cons_of_mem _ there))
      rw [KeptMember.value?_congr (same _ List.mem_cons_self) rfl, absent]
  | keep live written others induction =>
      refine .keep ?_ written (induction fun member there =>
        same member (List.mem_cons_of_mem _ there))
      rw [KeptMember.value?_congr (same _ List.mem_cons_self) rfl, live]

/-! ## Keeping what was merged -/

/-- Is every kept member of a desired value of the right type, or absent? -/
def Fits (members : List KeptMember) (desired : Value) : Prop :=
  ∀ member ∈ members, ∃ value? : Option Value, member.value? desired desired = .ok value?

/-- The merged value keeps itself in the desired one, if the members that were not
kept could be. -/
theorem stable (keeps : Keeps current members desired merged) (separate : Separate members)
    (own : desired.Ordered) (live : current.Ordered)
    (fits : ∀ member ∈ members, member.value? current desired = .ok none →
      ∃ value? : Option Value, member.value? desired desired = .ok value?) :
    Keeps merged members desired merged := by
  induction keeps with
  | done desired => exact .done desired
  | @skip first rest desired merged absent others induction =>
      obtain ⟨fromFirst, restSeparate⟩ := List.pairwise_cons.mp separate
      have restStable := induction restSeparate own
        fun member there => fits member (List.mem_cons_of_mem _ there)
      -- The first member of the merged value is the desired one, which may be written back.
      have read := others.get?_apart fun other member => (fromFirst other member).symm
      obtain ⟨value?, found⟩ := fits first List.mem_cons_self absent
      rw [← KeptMember.value?_congr read rfl] at found
      cases value? with
      | none => exact .skip found restStable
      | some value =>
          refine .keep found ?_ restStable
          rw [KeptMember.value?_congr read rfl] at found
          exact Value.written_of_get? own (KeptMember.get?_of_value? found).1
  | @keep first rest value desired between merged found written others induction =>
      obtain ⟨fromFirst, restSeparate⟩ := List.pairwise_cons.mp separate
      obtain ⟨fromLive, notNull⟩ := KeptMember.get?_of_value? found
      have read : merged.get? first.path = current.get? first.path := by
        rw [others.get?_apart fun other member => (fromFirst other member).symm, written.get?_self,
          notNull, fromLive]
        rfl
      refine .keep ?_ written (induction restSeparate
        (written.ordered own (live.of_get? fromLive)) ?_)
      · rw [KeptMember.value?_congr read rfl, found]
      · intro member there absent
        have untouched := written.get?_apart (fromFirst member there)
        rw [KeptMember.value?_congr rfl untouched] at absent
        rw [KeptMember.value?_congr untouched untouched]
        exact fits member (List.mem_cons_of_mem _ there) absent

/-- A value that fits keeps itself. -/
theorem of_fits (separate : Separate members) (own : desired.Ordered)
    (fits : Fits members desired) :
    Keeps desired members desired desired := by
  induction members with
  | nil => exact .done desired
  | cons first rest induction =>
      have others := induction (List.pairwise_cons.mp separate).2
        fun member there => fits member (List.mem_cons_of_mem _ there)
      obtain ⟨value?, found⟩ := fits first List.mem_cons_self
      cases value? with
      | none => exact .skip found others
      | some value =>
          exact .keep found (Value.written_of_get? own (KeptMember.get?_of_value? found).1) others

/-! ## Keeping what was changed -/

/-- A value that is apart from the kept members may be written before them. -/
theorem write_before (keeps : Keeps current members desired merged) {path : Path}
    {new after : Value} (apart : ∀ member ∈ members, path.Apart member.path)
    (written : Value.Written new path merged after) :
    ∃ desired' : Value, Value.Written new path desired desired'
      ∧ Keeps current members desired' after := by
  induction keeps generalizing after with
  | done desired => exact ⟨after, written, .done after⟩
  | skip absent others induction =>
      obtain ⟨desired', first, rest⟩ :=
        induction (fun member there => apart member (List.mem_cons_of_mem _ there)) written
      refine ⟨desired', first, .skip ?_ rest⟩
      rw [KeptMember.value?_congr rfl (first.get?_apart (apart _ List.mem_cons_self)), absent]
  | keep live kept others induction =>
      obtain ⟨between', first, rest⟩ :=
        induction (fun member there => apart member (List.mem_cons_of_mem _ there)) written
      obtain ⟨desired', before, after⟩ := kept.comm first (apart _ List.mem_cons_self).symm
      refine ⟨desired', before, .keep ?_ after rest⟩
      rw [KeptMember.value?_congr rfl (before.get?_apart (apart _ List.mem_cons_self)), live]

/-- If a kept member of the live value gets another value to be kept, the merged
value gets it as well. -/
theorem changed (keeps : Keeps current members desired merged) (separate : Separate members)
    {member : KeptMember} (there : member ∈ members) {new after : Value}
    (written : Value.Written new member.path merged after)
    (untouched : ∀ path : Path, member.path.Apart path → current'.get? path = current.get? path)
    (kept : member.value? current' desired = .ok (some new)) :
    Keeps current' members desired after := by
  induction keeps with
  | done desired => cases there
  | @skip first rest desired merged absent others induction =>
      obtain ⟨fromFirst, restSeparate⟩ := List.pairwise_cons.mp separate
      rcases List.mem_cons.mp there with rfl | later
      · -- Nothing was kept under this path before, so the desired value gets the new one first.
        obtain ⟨desired', before, rest⟩ := others.write_before fromFirst written
        exact .keep kept before (rest.congr fun other there => untouched _ (fromFirst other there))
      · refine .skip ?_ (induction restSeparate later written kept)
        rw [KeptMember.value?_congr (untouched _ (fromFirst member later).symm) rfl, absent]
  | @keep first rest value desired between merged live written' others induction =>
      obtain ⟨fromFirst, restSeparate⟩ := List.pairwise_cons.mp separate
      rcases List.mem_cons.mp there with rfl | later
      · obtain ⟨desired', before, rest⟩ := others.write_before fromFirst written
        exact .keep kept (written'.again before)
          (rest.congr fun other there => untouched _ (fromFirst other there))
      · have apart := fromFirst member later
        refine .keep ?_ written' (induction restSeparate later written ?_)
        · rw [KeptMember.value?_congr (untouched _ apart.symm) rfl, live]
        · rw [KeptMember.value?_congr rfl (written'.get?_apart apart), kept]

end Keeps

end PoolOperator
