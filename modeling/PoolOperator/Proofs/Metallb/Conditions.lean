import Mathlib.Data.List.Dedup
import Mathlib.Data.List.Induction
import PoolOperator.Metallb.Resource

/-!
# Conditions over time

Every report about a resource starts from the conditions of the one before.  After
any number of them, the conditions are those whose type was never observed, and one
for each observed type, in the order of the last observations
(`conditions_reportEach`).  A condition says what the last observation of its type
said, and has the time of the first one of an unbroken run with the same status
(`Sums`).  If the run goes back to the beginning, it may go on from what was there
before any report.
-/

namespace PoolOperator

/-! ## Histories of reports -/

/-- A report: what was observed, and for which generation of the resource. -/
structure Report where
  condition : Condition
  generation : Option Int
  deriving DecidableEq, Repr, Inhabited

/-- The conditions of a status that may be absent. -/
def conditionsOf (status? : Option MetallbStatus) : List Condition :=
  (status?.map MetallbStatus.conditions).getD []

/-- The status after a report. -/
def reportOne (status? : Option MetallbStatus) (report : Report) : Option MetallbStatus :=
  some ⟨nextConditions status? report.condition, report.generation⟩

/-- The status after some reports, one after another. -/
def reportEach (status? : Option MetallbStatus) (reports : List Report) : Option MetallbStatus :=
  reports.foldl reportOne status?

/-- The first condition of a type. -/
def firstOf (type : String) (conditions : List Condition) : Option Condition :=
  conditions.find? fun condition => condition.type = type

/-- The observations of a type, in order. -/
def observationsOf (type : String) (observations : List Condition) : List Condition :=
  observations.filter fun observation => observation.type = type

/-! ## What a condition says -/

/-- The time of the last transition of a condition, by the observations of its type.
They end in a run with the status of the condition. -/
structure TimedBy (initial? : Option Condition) (observations : List Condition)
    (condition : Condition) (before : List Condition) (first : Condition)
    (rest : List Condition) : Prop where
  /-- The run is at the end. -/
  split : observations = before ++ first :: rest
  /-- All of it has the status. -/
  sameStatus : ∀ observation ∈ first :: rest, observation.status = condition.status
  /-- What is before it has not. -/
  broken : ∀ last : Condition, before.getLast? = some last → last.status ≠ condition.status
  /-- A run that goes back to the beginning may go on from an initial condition. -/
  carried : ∀ initial : Condition, before = [] → initial? = some initial →
    initial.status = condition.status → condition.lastTransitionTime = initial.lastTransitionTime
  /-- Any other run has the time of its first observation. -/
  own : (∀ initial : Condition, before = [] → initial? = some initial →
    initial.status ≠ condition.status) → condition.lastTransitionTime = first.lastTransitionTime

/-- A condition sums up the observations of its type, after some initial conditions. -/
structure Sums (initial observations : List Condition) (condition : Condition) : Prop where
  /-- It says what the last observation said. -/
  last : ∃ last : Condition, (observationsOf condition.type observations).getLast? = some last
    ∧ condition.status = last.status ∧ condition.reason = last.reason
    ∧ condition.message = last.message
  /-- It has the time of the last transition. -/
  timed : ∃ (before : List Condition) (first : Condition) (rest : List Condition),
    TimedBy (firstOf condition.type initial) (observationsOf condition.type observations) condition
      before first rest

theorem firstOf_eq_none {type : String} {conditions : List Condition}
    (none : type ∉ conditions.map Condition.type) : firstOf type conditions = .none := by
  rw [firstOf, List.find?_eq_none]
  intro condition member
  simpa using fun same : condition.type = type => none (same ▸ List.mem_map_of_mem member)

theorem firstOf_eq_some {type : String} {conditions : List Condition}
    (there : type ∈ conditions.map Condition.type) :
    ∃ condition ∈ conditions, firstOf type conditions = some condition ∧ condition.type = type := by
  obtain ⟨condition, member, same⟩ := List.mem_map.mp there
  have found : (firstOf type conditions).isSome = true := by
    rw [firstOf, List.find?_isSome]
    exact ⟨condition, member, decide_eq_true same⟩
  obtain ⟨first, isFirst⟩ := Option.isSome_iff_exists.mp found
  exact ⟨first, List.mem_of_find?_eq_some isFirst, isFirst, by simpa using List.find?_some isFirst⟩

/-- The first condition of a type stays the first one while those of other types go. -/
theorem firstOf_filter {type : String} {types : List String} (other : type ∉ types)
    (conditions : List Condition) :
    firstOf type
    (conditions.filter fun condition => condition.type ∉ types) = firstOf type conditions := by
  rw [firstOf, firstOf, List.find?_filter]
  refine congrArg (conditions.find? ·) (funext fun condition => ?_)
  by_cases same : condition.type = type
  · simp [same, other]
  · simp [same]

theorem observationsOf_append_of_ne {type : String} {observation : Condition}
    (different : observation.type ≠ type) (observations : List Condition) :
    observationsOf type (observations ++ [observation]) = observationsOf type observations := by
  simp [observationsOf, different]

theorem observationsOf_append_self (observations : List Condition) (observation : Condition) :
    observationsOf observation.type (observations ++ [observation]) =
      observationsOf observation.type observations ++ [observation] := by
  simp [observationsOf]

theorem observationsOf_eq_nil {type : String} {observations : List Condition}
    (unobserved : type ∉ observations.map Condition.type) :
    observationsOf type observations = [] := by
  rw [observationsOf, List.filter_eq_nil_iff]
  intro observation member
  simpa using fun same : observation.type = type => unobserved (same ▸ List.mem_map_of_mem member)

section

variable {initial observations : List Condition} {condition observation : Condition}

theorem Condition.since_of_same (same : condition.status = observation.status) :
    observation.since (some condition) =
      { observation with lastTransitionTime := condition.lastTransitionTime } :=
  if_pos same

theorem Condition.since_of_different (different : condition.status ≠ observation.status) :
    observation.since (some condition) = observation :=
  if_neg different

/-- Only the time depends on an earlier condition. -/
theorem Condition.exists_since (observation : Condition) (earlier? : Option Condition) :
    ∃ time : Option String, observation.since earlier? =
      { observation with lastTransitionTime := time } := by
  cases earlier? with
  | none => exact ⟨observation.lastTransitionTime, rfl⟩
  | some earlier =>
      by_cases same : earlier.status = observation.status
      · exact ⟨_, Condition.since_of_same same⟩
      · exact ⟨observation.lastTransitionTime, Condition.since_of_different same⟩

@[simp] theorem Condition.type_since (observation : Condition) (earlier? : Option Condition) :
    (observation.since earlier?).type = observation.type := by
  obtain ⟨time, since⟩ := observation.exists_since earlier?
  rw [since]

@[simp] theorem Condition.status_since (observation : Condition) (earlier? : Option Condition) :
    (observation.since earlier?).status = observation.status := by
  obtain ⟨time, since⟩ := observation.exists_since earlier?
  rw [since]

/-- An observation of another type changes nothing. -/
theorem Sums.other (sums : Sums initial observations condition)
    (different : observation.type ≠ condition.type) :
    Sums initial (observations ++ [observation]) condition := by
  have same := observationsOf_append_of_ne different observations
  exact ⟨same ▸ sums.last, same ▸ sums.timed⟩

/-- The last observation says what is said, whatever the time. -/
theorem last_since (initial? : Option Condition) :
    ∃ last : Condition,
      (observationsOf (observation.since initial?).type (observations ++ [observation])).getLast? =
        some last
        ∧ (observation.since initial?).status = last.status
        ∧ (observation.since initial?).reason = last.reason
        ∧ (observation.since initial?).message = last.message := by
  obtain ⟨time, since⟩ := observation.exists_since initial?
  refine ⟨observation, ?_, ?_⟩
  · rw [Condition.type_since, observationsOf_append_self, List.getLast?_concat]
  · rw [since]
    exact ⟨rfl, rfl, rfl⟩

/-- The first observation of a type goes on from the initial conditions. -/
theorem Sums.first (unobserved : observation.type ∉ observations.map Condition.type) :
    Sums initial (observations ++ [observation])
    (observation.since (firstOf observation.type initial)) := by
  refine ⟨last_since _, [], observation, [], ?_⟩
  rw [Condition.type_since]
  exact {
    split := by rw [observationsOf_append_self, observationsOf_eq_nil unobserved]
    sameStatus := by simp
    broken := nofun
    carried := by
      rintro initial - there same
      rw [Condition.status_since] at same
      rw [there, Condition.since_of_same same]
    own := by
      intro noInitial
      cases there : firstOf observation.type initial with
      | none => rfl
      | some earlier =>
          have different := noInitial earlier rfl there
          rw [Condition.status_since] at different
          rw [Condition.since_of_different different] }

/-- Another observation of a type goes on from what its observations came to. -/
theorem Sums.next (sums : Sums initial observations condition)
    (type : condition.type = observation.type) :
    Sums initial (observations ++ [observation]) (observation.since (some condition)) := by
  obtain ⟨⟨last, isLast, status, -, -⟩, before, first, rest, timed⟩ := sums
  rw [type] at isLast timed
  by_cases same : condition.status = observation.status
  · -- The run goes on.
    refine ⟨last_since _, before, first, rest ++ [observation], ?_⟩
    rw [Condition.type_since, observationsOf_append_self, Condition.since_of_same same]
    exact {
      split := by rw [timed.split, List.append_assoc, List.cons_append]
      sameStatus := by
        intro member there
        rw [← List.cons_append, List.mem_append, List.mem_singleton] at there
        rcases there with inRun | rfl
        · exact (timed.sameStatus member inRun).trans same
        · rfl
      broken := fun earlier isEarlier => same ▸ timed.broken earlier isEarlier
      carried := fun initial start there sameInitial =>
        timed.carried initial start there (sameInitial.trans same.symm)
      own := fun noInitial => timed.own fun initial start there sameInitial =>
        noInitial initial start there (sameInitial.trans same) }
  · -- A new run begins.
    refine ⟨last_since _, observationsOf observation.type observations, observation, [], ?_⟩
    rw [Condition.type_since, observationsOf_append_self, Condition.since_of_different same]
    exact {
      split := rfl
      sameStatus := by simp
      broken := by
        intro earlier isEarlier
        rw [isLast, Option.some.injEq] at isEarlier
        rw [← isEarlier, ← status]
        exact same
      carried := by
        intro initial start
        rw [start] at isLast
        cases isLast
      own := fun _ => rfl }

/-! ## All conditions -/

/-- The last of equal values stay, in their order. -/
theorem dedup_concat {α : Type} [DecidableEq α] (values : List α) (value : α) :
    (values ++ [value]).dedup = values.dedup.filter (· ≠ value) ++ [value] := by
  induction values with
  | nil => rfl
  | cons first values induction =>
      rw [List.cons_append]
      by_cases later : first ∈ values
      · rw [List.dedup_cons_of_mem (List.mem_append_left _ later),
          List.dedup_cons_of_mem later, induction]
      · by_cases same : first = value
        · rw [List.dedup_cons_of_mem (by simp [same]), List.dedup_cons_of_notMem later, induction,
            List.filter_cons_of_neg (by simp [same])]
        · rw [List.dedup_cons_of_notMem (by simp [same, later]),
            List.dedup_cons_of_notMem later, induction, List.filter_cons_of_pos (by simp [same]),
            List.cons_append]

/-- The conditions that some observations come to: what was never observed, and what sums
up each observed type.  Of a repeated type, the last place counts. -/
def ComesTo (initial observations final : List Condition) : Prop :=
  ∃ latest : List Condition,
    final = initial.filter (fun condition => condition.type ∉ observations.map Condition.type) ++
    latest
      ∧ latest.map Condition.type = (observations.map Condition.type).dedup
      ∧ ∀ condition ∈ latest, Sums initial observations condition

theorem conditionsOf_reportOne (status? : Option MetallbStatus) (report : Report) :
    conditionsOf (reportOne status? report) =
      (conditionsOf status?).filter (fun other => other.type ≠ report.condition.type)
        ++ [report.condition.since (firstOf report.condition.type (conditionsOf status?))] := rfl

/-- The condition that an observation takes the place of. -/
theorem sums_since {latest : List Condition}
    (types : latest.map Condition.type = (observations.map Condition.type).dedup)
    (sums : ∀ condition ∈ latest, Sums initial observations condition) :
    Sums initial (observations ++ [observation]) (observation.since (firstOf observation.type
      (initial.filter (fun condition => condition.type ∉ observations.map Condition.type) ++
        latest))) := by
  have split : firstOf observation.type
      (initial.filter (fun condition => condition.type ∉ observations.map Condition.type)
        ++ latest) =
        (firstOf observation.type (initial.filter fun condition =>
          condition.type ∉ observations.map Condition.type)).or (firstOf observation.type latest) :=
    List.find?_append
  have observed_iff : observation.type ∈ latest.map Condition.type ↔
      observation.type ∈ observations.map Condition.type := by
    rw [types, List.mem_dedup]
  by_cases observed : observation.type ∈ observations.map Condition.type
  · -- None of the initial conditions of the type is left.
    have noInitial : observation.type ∉ (initial.filter fun condition =>
        condition.type ∉ observations.map Condition.type).map Condition.type := by
      rw [List.mem_map]
      rintro ⟨condition, member, same⟩
      exact of_decide_eq_true (List.mem_filter.mp member).2 (same ▸ observed)
    obtain ⟨earlier, member, isEarlier, type⟩ := firstOf_eq_some (observed_iff.mpr observed)
    rw [split, firstOf_eq_none noInitial, Option.none_or, isEarlier]
    exact (sums earlier member).next type
  · rw [split, firstOf_filter observed, firstOf_eq_none (mt observed_iff.mp observed),
      Option.or_none]
    exact .first observed

/-- One more report. -/
theorem ComesTo.report {status? : Option MetallbStatus} {initial observations : List Condition}
    (comesTo : ComesTo initial observations (conditionsOf status?)) (report : Report) :
    ComesTo initial (observations ++ [report.condition])
    (conditionsOf (reportOne status? report)) := by
  obtain ⟨latest, final, types, sums⟩ := comesTo
  refine ⟨latest.filter (fun condition => condition.type ≠ report.condition.type)
    ++ [report.condition.since (firstOf report.condition.type (conditionsOf status?))], ?_, ?_, ?_⟩
  · rw [conditionsOf_reportOne, final, List.filter_append, List.filter_filter, List.append_assoc]
    congr 1
    refine List.filter_congr fun condition _ => ?_
    simp only [List.map_append, List.map_cons, List.map_nil, List.mem_append,
      List.mem_singleton, not_or]
    rw [Bool.decide_and, Bool.and_comm]
  · rw [List.map_append, List.map_append, List.map_cons, List.map_nil, List.map_cons, List.map_nil,
      Condition.type_since, dedup_concat, ← types, List.filter_map]
    rfl
  · intro condition member
    rw [List.mem_append, List.mem_singleton] at member
    rcases member with kept | rfl
    · obtain ⟨there, different⟩ := List.mem_filter.mp kept
      exact (sums condition there).other (Ne.symm (of_decide_eq_true different))
    · rw [final]
      exact sums_since types sums

/-- Whatever the initial conditions are, and whatever is reported in turn: the conditions
whose type was never observed stay as they are and in their order, and after them there is
one condition for each observed type, in the order of the last observations, which sums
them up. -/
theorem conditions_reportEach (status? : Option MetallbStatus) (reports : List Report) :
    ComesTo (conditionsOf status?) (reports.map Report.condition)
      (conditionsOf (reportEach status? reports)) := by
  induction reports using List.reverseRecOn with
  | nil =>
      exact ⟨[], by simp [reportEach], rfl, fun condition member => absurd member List.not_mem_nil⟩
  | append_singleton reports report induction =>
      rw [reportEach, List.foldl_append, List.map_append]
      exact induction.report report

end

end PoolOperator
