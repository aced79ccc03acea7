import PoolOperator.Proofs.Pool.Concurrent

/-!
# Runs that overlap

A run looks for its entry in the live ConfigMap, and later merges the entry
into the ConfigMap that it fetches a second time, without looking again.  If
another run writes the same entry in between, the entry is there twice.  There
is no other way in which an entry is written twice (`overlaps_of_writes`).
-/

namespace PoolOperator

namespace Configuring

variable {ι : Type} {pools : ι → AddressPool} {space : String} {live : List PoolEntry}
  {server : Server} {log : List (Event ι)} {run : ι}

variable (pools live) in
/-- Did a run write an entry that was not there at the start, although another
run had written it after the first call of this run? -/
def Overlaps (log : List (Event ι)) : Prop :=
  ∃ look early late : Event ι,
    [look, early, late].Sublist log ∧ early.isWrite = true ∧ late.isWrite = true
      ∧ look.run = late.run ∧ early.run ≠ late.run
      ∧ (pools early.run).toEntry = (pools late.run).toEntry ∧ (pools late.run).toEntry ∉ live

theorem entriesOf_sublist {events : List (Event ι)} (part : events.Sublist log)
    (writes : ∀ event ∈ events, event.isWrite = true) :
    (events.map Event.run).Sublist (acceptedRuns log) := by
  have filtered := part.filter Event.isWrite
  rw [List.filter_eq_self.mpr writes] at filtered
  exact filtered.map Event.run

/-- A run that has written had looked before the entry was there. -/
theorem Stage.missing_of_written {operation : Operation (Except ApplyError Outcome)}
    (stage : Stage pools space live server log run operation) (written : run ∈ acceptedRuns log) :
    WasMissing pools live log run := by
  cases stage with
  | counting _ missing => exact missing
  | finished _ missing => exact missing
  | looking notWritten => exact absurd written notWritten
  | fetching notWritten => exact absurd written notWritten
  | creating notWritten => exact absurd written notWritten
  | replacing notWritten => exact absurd written notWritten
  | present notWritten => exact absurd written notWritten
  | failed notWritten => exact absurd written notWritten

theorem sublist_of_sublist_append {α : Type} {first : α} {rest front back : List α}
    (part : (first :: rest).Sublist (front ++ back)) (absent : first ∉ front) :
    (first :: rest).Sublist back := by
  obtain ⟨left, right, split, ofFront, ofBack⟩ := List.sublist_append_iff.mp part
  cases left with
  | nil =>
      rw [split]
      exact ofBack
  | cons other left =>
      obtain ⟨rfl, -⟩ := List.cons.inj split
      exact absurd (ofFront.subset List.mem_cons_self) absent

/-- Of two writes of one entry, the earlier one came after the later run had
looked. -/
theorem overlaps_of_writes {early late : Event ι} (both : [early, late].Sublist log)
    (earlyWrite : early.isWrite = true) (lateWrite : late.isWrite = true)
    (different : early.run ≠ late.run)
    (same : (pools early.run).toEntry = (pools late.run).toEntry)
    (new : (pools late.run).toEntry ∉ live) (missing : WasMissing pools live log late.run) :
    Overlaps pools live log := by
  obtain ⟨before, look, after, rfl, ofLate, absent⟩ := missing
  have notBefore : early ∉ before ++ [look] := by
    intro member
    rcases List.mem_append.mp member with earlier | equal
    · -- Then the entry would have been there when the later run looked.
      have accepted := (entriesOf_sublist (List.singleton_sublist.mpr earlier)
        (List.forall_mem_singleton.mpr earlyWrite)).subset List.mem_cons_self
      refine absent (List.mem_append_right live (List.mem_map.mpr ⟨early.run, accepted, same⟩))
    · rw [List.mem_singleton.mp equal] at different
      exact different ofLate
  rw [List.append_cons] at both
  have behind := sublist_of_sublist_append both notBefore
  refine ⟨look, early, late, ?_, earlyWrite, lateWrite, ofLate, different, same, new⟩
  exact (behind.cons_cons look).trans (List.sublist_append_right before _)

/-- An entry that was written more than once was written by two calls. -/
theorem writes_of_twice {entry : PoolEntry}
    (twice : 2 ≤ ((acceptedRuns log).map fun run => (pools run).toEntry).count entry) :
    ∃ early late : Event ι, [early, late].Sublist log ∧ early.isWrite = true ∧ late.isWrite = true
      ∧ (pools early.run).toEntry = entry ∧ (pools late.run).toEntry = entry := by
  rw [← List.replicate_sublist_iff, acceptedRuns, List.map_map] at twice
  obtain ⟨events, part, entries⟩ := List.sublist_map_iff.mp twice
  obtain ⟨early, others, rfl, ofEarly, rest⟩ := List.map_eq_cons_iff.mp entries.symm
  obtain ⟨late, further, rfl, ofLate, ended⟩ := List.map_eq_cons_iff.mp rest
  cases List.map_eq_nil_iff.mp ended
  have isWrite (event : Event ι) (member : event ∈ [early, late]) : event.isWrite = true :=
    (List.mem_filter.mp (part.subset member)).2
  exact ⟨early, late, part.trans List.filter_sublist, isWrite early (by simp),
    isWrite late (by simp), ofEarly, ofLate⟩

/-- At any time, no entry that was not there at the start is there twice, if
and only if no run has written an entry that another run had written after
the first call of this run. -/
theorem written_once_iff_not_overlaps [DecidableEq ι]
    {system : System ι (Except ApplyError Outcome)}
    (holds : HoldsPools (server.live (poolMapKey space)) live) (versioned : server.Versioned)
    (reachable : System.Reachable (start pools space server) system) :
    ∃ read : List PoolEntry, poolsIn (system.server.live (poolMapKey space)) = .ok read
      ∧ ((∀ entry ∉ live, read.count entry ≤ 1) ↔ ¬ Overlaps pools live system.log) := by
  have invariant := invariant_reachable holds versioned reachable
  refine ⟨_, invariant.holds.readable, fun once overlaps => ?_, fun apart entry new => ?_⟩
  · obtain ⟨look, early, late, part, earlyWrite, lateWrite, -, -, same, new⟩ := overlaps
    have both : [early, late].Sublist system.log := (List.sublist_cons_self look _).trans part
    have accepted := (entriesOf_sublist both (by simp [earlyWrite, lateWrite])).map
      fun run => (pools run).toEntry
    have twice :=
      (accepted.trans (List.sublist_append_right live _)).count_le (pools late.run).toEntry
    simp only [List.map_cons, List.map_nil, same, List.count_cons_self, List.count_nil] at twice
    have atMostOnce := once (pools late.run).toEntry new
    rw [entriesAfter] at atMostOnce
    omega
  · refine Nat.le_of_not_lt fun twice => apart ?_
    rw [entriesAfter, List.count_append, List.count_eq_zero_of_not_mem new, Nat.zero_add] at twice
    obtain ⟨early, late, both, earlyWrite, lateWrite, ofEarly, ofLate⟩ := writes_of_twice twice
    have accepted := entriesOf_sublist both (by simp [earlyWrite, lateWrite])
    have different : early.run ≠ late.run := by
      have once := invariant.once.sublist accepted
      simpa using once
    have written : late.run ∈ acceptedRuns system.log := accepted.subset (by simp)
    rw [← ofLate] at new
    exact overlaps_of_writes both earlyWrite lateWrite different (ofEarly.trans ofLate.symm) new
      ((invariant.stages late.run).missing_of_written written)

/-- Two runs for one pool, on a server without objects. -/
theorem bothWritten_overlaps :
    ∃ system : System Bool (Except ApplyError Outcome),
      HoldsPools (Server.empty.live (poolMapKey "here")) []
        ∧ Server.empty.Versioned
        ∧ System.Reachable (start (fun _ => .plain "one") "here" .empty) system
        ∧ Overlaps (fun _ => .plain "one") [] system.log := by
  obtain ⟨system, reachable, accepted⟩ := bothWrite_reachable (.plain "one") "here"
  have holds : HoldsPools (Server.empty.live (poolMapKey "here")) [] := .absent
  have versioned := Server.versioned_empty
  refine ⟨system, holds, versioned, reachable, ?_⟩
  obtain ⟨read, readable, exactly⟩ := written_once_iff_not_overlaps holds versioned reachable
  have twice := (invariant_reachable holds versioned reachable).holds.readable
  rw [readable, entriesAfter, accepted] at twice
  cases twice
  refine Classical.not_not.mp fun apart => ?_
  have atMostOnce := exactly.mpr apart (AddressPool.plain "one").toEntry List.not_mem_nil
  simp at atMostOnce

/-- An entry that was not there at the start may be written twice. -/
theorem written_twice :
    ¬ ∀ system : System Bool (Except ApplyError Outcome),
      System.Reachable (start (fun _ => .plain "one") "here" .empty) system →
      ∀ read : List PoolEntry, poolsIn (system.server.live (poolMapKey "here")) = .ok read →
      ∀ entry ∉ ([] : List PoolEntry), read.count entry ≤ 1 := by
  intro always
  obtain ⟨system, reachable, accepted⟩ := bothWrite_reachable (.plain "one") "here"
  have holds : HoldsPools (Server.empty.live (poolMapKey "here")) [] := .absent
  have readable := (invariant_reachable holds Server.versioned_empty reachable).holds.readable
  have once := always system reachable _ readable (AddressPool.plain "one").toEntry List.not_mem_nil
  simp [entriesAfter, accepted] at once

end Configuring

end PoolOperator
