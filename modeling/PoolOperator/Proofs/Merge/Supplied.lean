import PoolOperator.Proofs.Merge.Shape
import PoolOperator.Proofs.Object.Same

/-!
# What the live object supplies

For every kept member, the live object supplies a value or it does not
(`KeptMember.supplied?`), and either side has a member of a type that cannot be
read, or merging reads it (`KeptMember.Typed`).  So members can be kept exactly
if they are of the right types (`Keeps.exists_iff`), and then the supplied ones
are laid over the object around them (`Keeps.eq_layOver`).
-/

namespace PoolOperator

/-- What a kept member has to be, unless it is null. -/
def Keeping.shape : Keeping → Shape
  | .text => .text
  | .texts => .texts
  | .list => .list
  | .textUnlessOwn => .text

/-- A value, unless it is null or an empty text. -/
def Value.filled? : Value → Option Value
  | .str text => if text = "" then none else some (.str text)
  | value => value.present?

theorem Value.filled?_eq (value : Value) : value.filled? = value.present?.bind Value.filled? := by
  cases value <;> rfl

theorem Value.map_str_filter (text? : Option String) :
    (text?.filter (· ≠ "")).map Value.str = (text?.map Value.str).bind Value.filled? := by
  cases text? with
  | none => rfl
  | some text => by_cases empty : text = "" <;> simp [Option.filter, filled?, empty]

namespace KeptMember

/-- Is a member of the right type in the live value, and also in the desired
one if that is asked first? -/
structure Typed (member : KeptMember) (current desired : Value) : Prop where
  /-- The live member can be read. -/
  live : current.opens member.path = true
    ∧ member.keeping.shape.allows (current.under member.path) = true
  /-- The desired member can be read. -/
  own : member.keeping = .textUnlessOwn →
    desired.opens member.path = true ∧ Shape.text.allows (desired.under member.path) = true

/-- The value that the live object supplies for a member of the desired one. -/
def supplied? (member : KeptMember) (current desired : Value) : Option Value :=
  match member.keeping with
  | .text => (current.under member.path).filled?
  | .texts => (current.under member.path).present?
  | .list => (current.under member.path).present?
  | .textUnlessOwn =>
      if (desired.under member.path).isNull then (current.under member.path).present? else none

variable {member : KeptMember} {current desired : Value}

/-- The value to keep of a member is what the live object supplies, if the
types are right. -/
theorem value?_eq_ok_iff {kept? : Option Value} :
    member.value? current desired = .ok kept? ↔
      member.Typed current desired ∧ member.supplied? current desired = kept? := by
  obtain ⟨path, keeping⟩ := member
  have typed (notOwn : keeping ≠ .textUnlessOwn) :
      Typed ⟨path, keeping⟩ current desired ↔
        current.opens path = true ∧ keeping.shape.allows (current.under path) = true :=
    ⟨fun typed => typed.live, fun live => ⟨live, fun own => absurd own notOwn⟩⟩
  cases keeping with
  | text =>
      have read : KeptMember.value? ⟨path, .text⟩ current desired =
          ((current.string? path).map fun text? => text?.map Value.str).map
            fun given? => given?.bind Value.filled? := by
        simp only [value?]
        cases current.string? path with
        | error error => rfl
        | ok text? => exact congrArg Except.ok (Value.map_str_filter text?)
      rw [read, Except.map_eq_ok_iff, typed (by decide), supplied?, Value.filled?_eq]
      simp only [Value.map_string?_eq_ok_iff]
      constructor
      · rintro ⟨_, ⟨live, rfl⟩, kept⟩
        exact ⟨live, kept⟩
      · rintro ⟨live, kept⟩
        exact ⟨_, ⟨live, rfl⟩, kept⟩
  | texts =>
      rw [typed (by decide)]
      exact Value.map_strings?_eq_ok_iff
  | list =>
      rw [typed (by decide)]
      exact Value.map_list?_eq_ok_iff
  | textUnlessOwn =>
      have read : KeptMember.value? ⟨path, .textUnlessOwn⟩ current desired =
          ((current.string? path).map fun text? => text?.map Value.str) >>= fun live? =>
            ((desired.string? path).map fun text? => text?.map Value.str).map fun own? =>
              if own?.isSome then none else live? := by
        simp only [value?]
        cases current.string? path with
        | error error => rfl
        | ok live? =>
            cases desired.string? path with
            | error error => rfl
            | ok own? => cases own? <;> rfl
      rw [read, Except.bind_eq_ok_iff]
      constructor
      · rintro ⟨live?, liveRead, both⟩
        obtain ⟨own?, ownRead, rfl⟩ := Except.map_eq_ok_iff.mp both
        obtain ⟨live, rfl⟩ := Value.map_string?_eq_ok_iff.mp liveRead
        obtain ⟨own, rfl⟩ := Value.map_string?_eq_ok_iff.mp ownRead
        refine ⟨⟨live, fun _ => own⟩, ?_⟩
        simp only [supplied?]
        cases desired.under path <;> rfl
      · rintro ⟨⟨live, own⟩, rfl⟩
        refine ⟨_, Value.map_string?_eq_ok_iff.mpr ⟨live, rfl⟩,
          Except.map_eq_ok_iff.mpr ⟨_, Value.map_string?_eq_ok_iff.mpr ⟨own rfl, rfl⟩, ?_⟩⟩
        simp only [supplied?]
        cases desired.under path <;> rfl

/-- Only what the member is in the two values matters. -/
theorem supplied?_congr {current' desired' : Value}
    (live : current.under member.path = current'.under member.path)
    (own : desired.under member.path = desired'.under member.path) :
    member.supplied? current desired = member.supplied? current' desired' := by
  simp only [supplied?, live, own]

theorem Typed.congr {desired' : Value} (typed : member.Typed current desired)
    (opens : desired'.opens member.path = desired.opens member.path)
    (under : desired'.under member.path = desired.under member.path) :
    member.Typed current desired' :=
  ⟨typed.live, fun own => by rw [opens, under]; exact typed.own own⟩

end KeptMember

/-! ## Keeping all members -/

namespace Keeps

variable {current desired merged : Value} {members : List KeptMember}

/-- The members are laid over the object around them, those that the live
object supplies. -/
theorem eq_layOver {path : Path} {named : List (String × Keeping)}
    (separate : Separate (named.map fun name => ⟨path ++ [name.1], name.2⟩))
    (keeps : Keeps current (named.map fun name => ⟨path ++ [name.1], name.2⟩) desired merged) :
    merged = desired.layOver path (Value.present (named.map fun name =>
      (name.1, KeptMember.supplied? ⟨path ++ [name.1], name.2⟩ current desired))) := by
  induction named generalizing desired with
  | nil =>
      cases keeps
      simp [Value.present, Value.layOver]
  | cons name named induction =>
      obtain ⟨fromFirst, restSeparate⟩ := List.pairwise_cons.mp separate
      rw [List.map_cons, Value.present, List.filterMap_cons]
      cases keeps with
      | skip absent others =>
          rw [(KeptMember.value?_eq_ok_iff.mp absent).2]
          exact induction restSeparate others
      | @keep _ _ value _ between _ live written others =>
          -- What is supplied for the other members does not depend on what was written.
          have same : (named.map fun name =>
              (name.1, KeptMember.supplied? ⟨path ++ [name.1], name.2⟩ current between)) =
                named.map fun name =>
                  (name.1, KeptMember.supplied? ⟨path ++ [name.1], name.2⟩ current desired) := by
            refine List.map_congr_left fun other member => ?_
            have apart := fromFirst _ (List.mem_map_of_mem member)
            rw [KeptMember.supplied?_congr rfl (written.under_apart apart)]
          rw [(KeptMember.value?_eq_ok_iff.mp live).2, induction restSeparate others, same,
            written.eq_layOver, Value.layOver_layOver]
          rfl

theorem under_apart (keeps : Keeps current members desired merged) {path : Path}
    (apart : ∀ member ∈ members, member.path.Apart path) :
    merged.under path = desired.under path := by
  induction keeps with
  | done desired => rfl
  | skip absent others induction =>
      exact induction fun member there => apart member (List.mem_cons_of_mem _ there)
  | keep live written others induction =>
      rw [induction fun member there => apart member (List.mem_cons_of_mem _ there)]
      exact written.under_apart (apart _ List.mem_cons_self)

/-- A member that the live object does not supply is as desired. -/
theorem under_of_unsupplied (keeps : Keeps current members desired merged)
    (separate : Separate members) {member : KeptMember} (there : member ∈ members)
    (unsupplied : member.supplied? current desired = none) :
    merged.under member.path = desired.under member.path := by
  induction keeps with
  | done desired => cases there
  | @skip first rest desired merged absent others induction =>
      obtain ⟨fromFirst, restSeparate⟩ := List.pairwise_cons.mp separate
      rcases List.mem_cons.mp there with rfl | later
      · exact others.under_apart fun other member => (fromFirst other member).symm
      · exact induction restSeparate later unsupplied
  | @keep first rest value desired between merged live written others induction =>
      obtain ⟨fromFirst, restSeparate⟩ := List.pairwise_cons.mp separate
      rcases List.mem_cons.mp there with rfl | later
      · rw [(KeptMember.value?_eq_ok_iff.mp live).2] at unsupplied
        cases unsupplied
      · have untouched := written.under_apart (fromFirst member later)
        rw [KeptMember.supplied?_congr rfl untouched.symm] at unsupplied
        rw [induction restSeparate later unsupplied, untouched]

/-- Members can be kept if they are of the right types, and the supplied ones
can be written. -/
theorem exists_iff (separate : Separate members) :
    (∃ merged : Value, Keeps current members desired merged) ↔
      ∀ member ∈ members, member.Typed current desired
        ∧ (member.supplied? current desired ≠ none → desired.opens member.path = true) := by
  induction members generalizing desired with
  | nil =>
      exact ⟨fun _ member there => absurd there List.not_mem_nil, fun _ => ⟨desired, .done desired⟩⟩
  | cons first rest induction =>
      obtain ⟨fromFirst, restSeparate⟩ := List.pairwise_cons.mp separate
      constructor
      · rintro ⟨merged, keeps⟩ member there
        cases keeps with
        | skip absent others =>
            obtain ⟨typed, none⟩ := KeptMember.value?_eq_ok_iff.mp absent
            rcases List.mem_cons.mp there with rfl | later
            · exact ⟨typed, fun some => absurd none some⟩
            · exact (induction restSeparate).mp ⟨merged, others⟩ member later
        | keep live written others =>
            rcases List.mem_cons.mp there with rfl | later
            · exact ⟨(KeptMember.value?_eq_ok_iff.mp live).1, fun _ =>
                Value.exists_written_iff.mp ⟨_, written⟩⟩
            · obtain ⟨typed, opens⟩ := (induction restSeparate).mp ⟨merged, others⟩ member later
              have opened := written.opens_apart (fromFirst member later)
              have untouched := written.under_apart (fromFirst member later)
              rw [opened, KeptMember.supplied?_congr rfl untouched] at opens
              exact ⟨typed.congr opened.symm untouched.symm, opens⟩
      · intro all
        obtain ⟨typed, opens⟩ := all first List.mem_cons_self
        cases supplied : first.supplied? current desired with
        | none =>
            obtain ⟨merged, others⟩ := (induction restSeparate).mpr
              fun member later => all member (List.mem_cons_of_mem _ later)
            exact ⟨merged, .skip (KeptMember.value?_eq_ok_iff.mpr ⟨typed, supplied⟩) others⟩
        | some value =>
            obtain ⟨between, written⟩ : ∃ between : Value,
              Value.Written value first.path desired between :=
              Value.exists_written_iff.mpr (opens (by simp [supplied]))
            have others : ∃ merged : Value, Keeps current rest between merged := by
              refine (induction restSeparate).mpr fun member later => ?_
              obtain ⟨typed, opens⟩ := all member (List.mem_cons_of_mem _ later)
              have opened := written.opens_apart (fromFirst member later)
              have untouched := written.under_apart (fromFirst member later)
              rw [← opened, ← KeptMember.supplied?_congr rfl untouched] at opens
              exact ⟨typed.congr opened untouched, opens⟩
            obtain ⟨merged, others⟩ := others
            exact ⟨merged, .keep (KeptMember.value?_eq_ok_iff.mpr ⟨typed, supplied⟩) written others⟩

end Keeps

end PoolOperator
