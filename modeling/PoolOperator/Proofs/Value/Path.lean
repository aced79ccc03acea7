import Mathlib.Data.List.Infix
import PoolOperator.Proofs.Except
import PoolOperator.Proofs.Value.Ordered
import PoolOperator.Proofs.Value.Same
import PoolOperator.Value.Path

/-!
# Writing along paths

`Written` says what a value is after another one was written at a path, as a
relation.  A value that was written is read at its path
(`Written.get?_self`), and a path that is apart from the written one reads as
before, errors included (`Written.get?_apart`).  Writes at paths that are apart
commute (`Written.comm`), of two writes at one path the later one counts
(`Written.again`), and writing the value that a path leads to changes nothing
(`LeadsTo.written`).  Sameness is respected (`Written.same`).
-/

namespace PoolOperator

/-- Is neither of two paths a part of the other? -/
def Path.Apart (one other : Path) : Prop := ¬ one <+: other ∧ ¬ other <+: one

namespace Path

instance (one other : Path) : Decidable (one.Apart other) := inferInstanceAs (Decidable (_ ∧ _))

theorem Apart.symm {one other : Path} (apart : one.Apart other) : other.Apart one :=
  ⟨apart.2, apart.1⟩

theorem Apart.ne_nil {one other : Path} (apart : one.Apart other) : one ≠ [] := by
  rintro rfl
  exact apart.1 List.nil_prefix

/-- Paths that are apart have different first keys, or go on apart. -/
theorem Apart.of_cons {key key' : String} {rest rest' : Path}
    (apart : Path.Apart (key :: rest) (key' :: rest')) (same : key = key') : rest.Apart rest' := by
  subst same
  exact ⟨fun front => apart.1 (List.cons_prefix_cons.mpr ⟨rfl, front⟩),
    fun front => apart.2 (List.cons_prefix_cons.mpr ⟨rfl, front⟩)⟩

end Path

namespace Value

/-! ## The relation -/

/-- The members that a path enters a value by: those of an object, and none for
null, which an object takes the place of. -/
inductive Enters : Value → Fields Value → Prop
  /-- An object. -/
  | object (fields : Fields Value) : Enters (.obj fields) fields
  /-- Null. -/
  | null : Enters .null []

/-- A value is written at a path. -/
inductive Written (new : Value) : Path → Value → Value → Prop
  /-- The path ends here. -/
  | here (value : Value) : Written new [] value new
  /-- The path goes on under a key. -/
  | inside {key : String} {rest : Path} {value : Value} {fields : Fields Value} {inner : Value}
      (enters : value.Enters fields)
      (within : Written new rest ((fields.find? key).getD .null) inner) :
      Written new (key :: rest) value (.obj (fields.put key inner))

/-- Writing under a key gives an object. -/
theorem Written.obj_of_ne_nil {new : Value} {path : Path} {value after : Value}
    (written : Written new path value after) (notEmpty : path ≠ []) :
    ∃ fields : Fields Value, after = .obj fields := by
  cases written with
  | here => exact absurd rfl notEmpty
  | inside enters within => exact ⟨_, rfl⟩

/-! ## Reading after writing -/

theorem descend_enters {path passed rest : Path} {key : String} {value : Value}
    {fields : Fields Value} (enters : value.Enters fields) :
    descend path passed (key :: rest) value =
      descend path (passed ++ [key]) rest ((fields.find? key).getD .null) := by
  cases enters with
  | object fields =>
      rw [descend]
      cases fields.find? key with
      | none => rw [Option.getD_none, descend]
      | some value => rfl
  | null => rw [Fields.find?_nil, Option.getD_none, descend, descend]

/-- A value is read where it was written.  Null reads as absent. -/
theorem Written.descend_self {new : Value} {rest : Path} {value after : Value}
    (written : Written new rest value after) (path passed : Path) :
    descend path passed rest after = .ok (if new.isNull then none else some new) := by
  induction written generalizing passed with
  | here value => cases new <;> rfl
  | inside enters within induction =>
      rw [descend_enters (.object _), Fields.find?_put_self]
      exact induction _

/-- A path apart from the written one reads as before. -/
theorem Written.descend_apart {new : Value} {rest : Path} {value after : Value}
    (written : Written new rest value after) {other : Path} (apart : rest.Apart other)
    (path passed : Path) : descend path passed other after = descend path passed other value := by
  induction written generalizing other passed with
  | here value => exact absurd rfl apart.ne_nil
  | @inside key rest value fields inner enters within induction =>
      cases other with
      | nil => exact absurd rfl apart.symm.ne_nil
      | cons key' rest' =>
          rw [descend_enters (.object _), descend_enters enters]
          by_cases same : key = key'
          · subst same
            rw [Fields.find?_put_self]
            exact induction (apart.of_cons rfl) _
          · rw [Fields.find?_put_ne _ _ (Ne.symm same)]

theorem Written.get?_self {new : Value} {path : Path} {value after : Value}
    (written : Written new path value after) :
    after.get? path = .ok (if new.isNull then none else some new) := written.descend_self path []

theorem Written.get?_apart {new : Value} {path : Path} {value after : Value}
    (written : Written new path value after) {other : Path} (apart : path.Apart other) :
    after.get? other = value.get? other := written.descend_apart apart other []

/-! ## What a path leads to -/

/-- A path leads from a value to one inside it, or to the value itself. -/
inductive LeadsTo : Value → Path → Value → Prop
  /-- The path ends here. -/
  | here (value : Value) : LeadsTo value [] value
  /-- The path goes on at a member. -/
  | inside {fields : Fields Value} {key : String} {member : Value} {rest : Path} {found : Value}
      (there : Fields.find? fields key = some member) (further : LeadsTo member rest found) :
      LeadsTo (.obj fields) (key :: rest) found

/-- What is read at a path is what the path leads to. -/
theorem leadsTo_of_descend {path passed rest : Path} {value found : Value}
    (read : descend path passed rest value = .ok (some found)) : value.LeadsTo rest found := by
  induction rest generalizing passed value with
  | nil =>
      have same : value = found := by cases value <;> simp_all [descend]
      exact same ▸ .here value
  | cons key rest induction =>
      cases value with
      | obj fields =>
          cases there : Fields.find? fields key with
          | none =>
              rw [descend, there] at read
              cases read
          | some member =>
              rw [descend, there] at read
              exact .inside there (induction read)
      | null => cases read
      | _ => simp [descend] at read

theorem leadsTo_of_get? {path : Path} {value found : Value}
    (read : value.get? path = .ok (some found)) :
    value.LeadsTo path found := leadsTo_of_descend read

/-- Writing the value that a path leads to changes nothing, if all is in
order. -/
theorem LeadsTo.written {value found : Value} {path : Path} (leads : value.LeadsTo path found)
    (ordered : value.Ordered) : Written found path value value := by
  induction leads with
  | here value => exact .here value
  | @inside fields key member rest found there further induction =>
      obtain ⟨sorted, members⟩ := ordered_obj.mp ordered
      have within : Written found rest ((Fields.find? fields key).getD .null) member := by
        rw [there]
        exact induction (members _ (Fields.mem_of_find? there))
      have stored : fields.put key member = fields := Fields.put_of_find? sorted there
      have written : Written found (key :: rest) (.obj fields) (.obj (fields.put key member)) :=
        .inside (.object fields) within
      rwa [stored] at written

/-- Writing what is read at a path changes nothing, if all is in order. -/
theorem written_of_get? {path : Path} {value found : Value} (ordered : value.Ordered)
    (there : value.get? path = .ok (some found)) : Written found path value value :=
  (leadsTo_of_get? there).written ordered

theorem LeadsTo.ordered {value found : Value} {path : Path} (leads : value.LeadsTo path found)
    (ordered : value.Ordered) : found.Ordered := by
  induction leads with
  | here value => exact ordered
  | inside there further induction =>
      exact induction ((ordered_obj.mp ordered).2 _ (Fields.mem_of_find? there))

theorem Ordered.of_get? {path : Path} {value found : Value} (ordered : value.Ordered)
    (there : value.get? path = .ok (some found)) : found.Ordered :=
  (leadsTo_of_get? there).ordered ordered

/-! ## Readers of a type -/

theorem string?_eq_some_iff {path : Path} {value : Value} {text : String} :
    value.string? path = .ok (some text) ↔ value.get? path = .ok (some (.str text)) := by
  rw [string?, Except.bind_eq_ok_iff]
  constructor
  · rintro ⟨found?, there, typed⟩
    match found? with
    | some (.str found) =>
        cases typed
        exact there
    | none => cases typed
  · exact fun there => ⟨_, there, rfl⟩

theorem list?_eq_some_iff {path : Path} {value : Value} {items : List Value} :
    value.list? path = .ok (some items) ↔ value.get? path = .ok (some (.arr items)) := by
  rw [list?, Except.bind_eq_ok_iff]
  constructor
  · rintro ⟨found?, there, typed⟩
    match found? with
    | some (.arr found) =>
        cases typed
        exact there
    | none => cases typed
  · exact fun there => ⟨_, there, rfl⟩

theorem mapM_itemText_map (path : Path) (texts : List String) :
    (texts.map .str).mapM (itemText path) = .ok texts := by
  induction texts with
  | nil => rfl
  | cons text texts induction =>
      rw [List.map_cons, List.mapM_cons, induction]
      rfl

theorem eq_of_mapM_itemText {path : Path} {items : List Value} {texts : List String}
    (read : items.mapM (itemText path) = .ok texts) : items = texts.map .str := by
  induction items generalizing texts with
  | nil =>
      cases read
      rfl
  | cons item items induction =>
      rw [List.mapM_cons] at read
      obtain ⟨first, one, read⟩ := Except.bind_eq_ok_iff.mp read
      obtain ⟨rest, more, read⟩ := Except.bind_eq_ok_iff.mp read
      cases read
      match item with
      | .str text =>
          cases one
          rw [List.map_cons, ← induction more]

theorem strings?_eq_some_iff {path : Path} {value : Value} {texts : List String} :
    value.strings? path = .ok (some texts) ↔ value.get? path = .ok (some (.strings texts)) := by
  rw [strings?, Except.bind_eq_ok_iff]
  constructor
  · rintro ⟨items?, there, typed⟩
    cases items? with
    | none => cases typed
    | some items =>
        obtain ⟨found, read, same⟩ := Except.bind_eq_ok_iff.mp typed
        cases same
        rw [strings, ← eq_of_mapM_itemText read]
        exact list?_eq_some_iff.mp there
  · intro there
    exact ⟨_, list?_eq_some_iff.mpr there,
      Except.bind_eq_ok_iff.mpr ⟨texts, mapM_itemText_map path texts, rfl⟩⟩

/-! ## Writing twice -/

/-- Of two writes at one path the later one counts. -/
theorem Written.again {old new : Value} {path : Path} {value between after : Value}
    (first : Written old path value between) (second : Written new path between after) :
    Written new path value after := by
  induction first generalizing after with
  | here value =>
      cases second
      exact .here value
  | inside enters within induction =>
      cases second with
      | inside enters' within' =>
          cases enters'
          rw [Fields.find?_put_self] at within'
          rw [Fields.put_put]
          exact .inside enters (induction within')

/-- Writes at paths that are apart may be made in any order. -/
theorem Written.comm {new new' : Value} {path other : Path} {value between after : Value}
    (first : Written new path value between) (second : Written new' other between after)
    (apart : path.Apart other) :
    ∃ between' : Value, Written new' other value between' ∧ Written new path between' after := by
  induction first generalizing other after with
  | here value => exact absurd rfl apart.ne_nil
  | @inside key rest value fields inner enters within induction =>
      cases second with
      | here => exact absurd rfl apart.symm.ne_nil
      | @inside key' rest' _ _ inner' enters' within' =>
          cases enters'
          by_cases same : key = key'
          · subst same
            rw [Fields.find?_put_self] at within'
            obtain ⟨middle, one, two⟩ := induction within' (apart.of_cons rfl)
            refine ⟨.obj (fields.put key middle), .inside enters one, ?_⟩
            rw [Fields.put_put, ← Fields.put_put fields key middle inner']
            refine .inside (.object _) ?_
            rw [Fields.find?_put_self]
            exact two
          · rw [Fields.find?_put_ne _ _ (Ne.symm same)] at within'
            refine ⟨.obj (fields.put key' inner'), .inside enters within', ?_⟩
            rw [Fields.put_comm _ same]
            refine .inside (.object _) ?_
            rw [Fields.find?_put_ne _ _ same]
            exact within

/-- Writing keeps a value in order. -/
theorem Written.ordered {new : Value} {path : Path} {value after : Value}
    (written : Written new path value after) (ordered : value.Ordered) (newOrdered : new.Ordered) :
    after.Ordered := by
  induction written with
  | here value => exact newOrdered
  | @inside key rest value fields inner enters within induction =>
      have members : (Value.obj fields).Ordered := by
        cases enters with
        | object => exact ordered
        | null => exact ⟨List.Pairwise.nil, trivial⟩
      exact members.put key (induction (members.getD_find? key))

/-- Writing respects sameness. -/
theorem Written.same {new : Value} {path : Path} {value after : Value}
    (written : Written new path value after) {value' : Value} (alike : value.same value' = true) :
    ∃ after' : Value, Written new path value' after' ∧ after.same after' = true := by
  induction written generalizing value' with
  | here value => exact ⟨new, .here value', same_refl new⟩
  | @inside key rest value fields inner enters within induction =>
      have entered : ∃ fields' : Fields Value, value'.Enters fields'
        ∧ sameFields fields fields' = true := by
        cases enters with
        | object =>
            cases value' with
            | obj fields' => exact ⟨fields', .object fields', alike⟩
            | _ => cases alike
        | null =>
            cases value' with
            | null => exact ⟨[], .null, rfl⟩
            | _ => cases alike
      obtain ⟨fields', enters', members⟩ := entered
      have inners := (sameOption_find? members key).getD_null
      obtain ⟨inner', within', same⟩ := induction inners
      exact ⟨.obj (fields'.put key inner'), .inside enters' within',
        sameFields_put key members same⟩

end Value

end PoolOperator
