import PoolOperator.Proofs.Value.Path

/-!
# What is at a path

`under` looks along a path and never fails: what is missing counts as null.
The readers of `Value.Path` find the same, as long as everything on the way is
null or an object (`opens`), and if it is of the type that they read
(`string?_eq_ok_iff`, `list?_eq_ok_iff`, `strings?_eq_ok_iff`).  A value can be
written exactly where one can be read (`exists_written_iff`).

Values that are written next to each other are laid over the object around them
(`layOver`).
-/

namespace PoolOperator

/-- What a value may be, besides null. -/
inductive Shape where
  /-- An object. -/
  | object
  /-- A text. -/
  | text
  /-- A list. -/
  | list
  /-- A list of texts. -/
  | texts
  deriving DecidableEq

namespace Value

/-- Is the value a text? -/
def isText : Value → Bool
  | .str _ => true
  | _ => false

/-- The value, unless it is null. -/
def present? : Value → Option Value
  | .null => none
  | value => some value

end Value

/-- Is a value null or of a shape? -/
def Shape.allows : Shape → Value → Bool
  | _, .null => true
  | .object, .obj _ => true
  | .text, .str _ => true
  | .list, .arr _ => true
  | .texts, .arr items => items.all Value.isText
  | _, _ => false

namespace Value

/-- The value at a path, null if something on the way is missing. -/
def under : Value → Path → Value
  | value, [] => value
  | .obj fields, key :: rest => under ((Fields.find? fields key).getD .null) rest
  | _, _ :: _ => .null

/-- Is everything on the way along a path null or an object?  What is at its
end does not matter. -/
def opens : Value → Path → Bool
  | _, [] => true
  | .null, _ :: _ => true
  | .obj fields, key :: rest => opens ((Fields.find? fields key).getD .null) rest
  | _, _ :: _ => false

theorem present?_eq_none_iff {value : Value} : value.present? = none ↔ value = .null := by
  cases value <;> simp [present?]

theorem opens_null (path : Path) : Value.null.opens path = true := by
  cases path <;> rfl

theorem under_null (path : Path) : Value.null.under path = .null := by
  cases path <;> rfl

/-- What is there can be reached. -/
theorem opens_of_under {value : Value} {path : Path} (there : value.under path ≠ .null) :
    value.opens path = true := by
  induction path generalizing value with
  | nil => rfl
  | cons key path induction =>
      cases value with
      | obj fields => exact induction there
      | null => rfl
      | _ => exact absurd rfl there

theorem opens_single (value : Value) (key : String) :
    value.opens [key] = Shape.object.allows value := by
  cases value <;> rfl

/-! ## Reading -/

theorem descend_eq_ok_iff {path passed rest : Path} {value : Value} {found? : Option Value} :
    descend path passed rest value = .ok found? ↔
      value.opens rest = true ∧ (value.under rest).present? = found? := by
  induction rest generalizing passed value with
  | nil => cases value <;> simp [descend, opens, under, present?]
  | cons key rest induction =>
      cases value with
      | obj fields =>
          rw [descend_enters (.object fields), induction]
          rfl
      | null => simp [descend, opens, under, present?]
      | _ => simp [descend, opens]

/-- What is read at a path is what is there. -/
theorem get?_eq_ok_iff {value : Value} {path : Path} {found? : Option Value} :
    value.get? path = .ok found? ↔ value.opens path = true ∧ (value.under path).present? = found? :=
  descend_eq_ok_iff

theorem string?_eq_ok_iff {value : Value} {path : Path} {text? : Option String} :
    value.string? path = .ok text? ↔
      value.opens path = true ∧ value.under path = (text?.map .str).getD .null := by
  rw [string?, Except.bind_eq_ok_iff]
  simp only [get?_eq_ok_iff]
  cases value.under path <;> cases text? <;> simp [present?, throw, pure, Except.pure]

theorem list?_eq_ok_iff {value : Value} {path : Path} {items? : Option (List Value)} :
    value.list? path = .ok items? ↔
      value.opens path = true ∧ value.under path = (items?.map .arr).getD .null := by
  rw [list?, Except.bind_eq_ok_iff]
  simp only [get?_eq_ok_iff]
  cases value.under path <;> cases items? <;> simp [present?, throw, pure, Except.pure]

theorem strings?_eq_ok_iff {value : Value} {path : Path} {texts? : Option (List String)} :
    value.strings? path = .ok texts? ↔
      value.opens path = true ∧ value.under path = (texts?.map .strings).getD .null := by
  rw [strings?, Except.bind_eq_ok_iff]
  simp only [list?_eq_ok_iff]
  constructor
  · rintro ⟨items?, ⟨opened, there⟩, typed⟩
    cases items? with
    | none =>
        cases typed
        exact ⟨opened, there⟩
    | some items =>
        obtain ⟨texts, read, same⟩ := Except.bind_eq_ok_iff.mp typed
        cases same
        exact ⟨opened, there.trans (congrArg Value.arr (eq_of_mapM_itemText read))⟩
  · rintro ⟨opened, there⟩
    cases texts? with
    | none => exact ⟨none, ⟨opened, there⟩, rfl⟩
    | some texts =>
        exact ⟨some (texts.map .str), ⟨opened, there⟩,
          Except.bind_eq_ok_iff.mpr ⟨texts, mapM_itemText_map path texts, rfl⟩⟩

theorem allows_text_iff {value : Value} :
    Shape.text.allows value = true ↔
      ∃ text? : Option String, value = (text?.map .str).getD .null := by
  constructor
  · intro allowed
    cases value with
    | null => exact ⟨none, rfl⟩
    | str text => exact ⟨some text, rfl⟩
    | _ => cases allowed
  · rintro ⟨text?, rfl⟩
    cases text? <;> rfl

theorem allows_list_iff {value : Value} :
    Shape.list.allows value = true ↔
      ∃ items? : Option (List Value), value = (items?.map .arr).getD .null := by
  constructor
  · intro allowed
    cases value with
    | null => exact ⟨none, rfl⟩
    | arr items => exact ⟨some items, rfl⟩
    | _ => cases allowed
  · rintro ⟨items?, rfl⟩
    cases items? <;> rfl

theorem exists_texts_of_all_isText {items : List Value} (all : items.all isText = true) :
    ∃ texts : List String, items = texts.map .str := by
  induction items with
  | nil => exact ⟨[], rfl⟩
  | cons item items induction =>
      rw [List.all_cons, Bool.and_eq_true] at all
      obtain ⟨texts, rfl⟩ := induction all.2
      cases item with
      | str text => exact ⟨text :: texts, rfl⟩
      | _ => cases all.1

theorem allows_texts_iff {value : Value} :
    Shape.texts.allows value = true ↔
      ∃ texts? : Option (List String), value = (texts?.map .strings).getD .null := by
  constructor
  · intro allowed
    cases value with
    | null => exact ⟨none, rfl⟩
    | arr items =>
        obtain ⟨texts, rfl⟩ := exists_texts_of_all_isText allowed
        exact ⟨some texts, rfl⟩
    | _ => cases allowed
  · rintro ⟨texts?, rfl⟩
    cases texts? with
    | none => rfl
    | some texts => simp [strings, Shape.allows, isText]

/-- A reader of some type, as a reader of values of that type. -/
theorem map_eq_ok_iff_of_reader {α : Type} {read : Except AccessError (Option α)}
    {inject : α → Value} {shape : Shape} {value : Value} {path : Path}
    (reads : ∀ found? : Option α, read = .ok found? ↔
      value.opens path = true ∧ value.under path = (found?.map inject).getD .null)
    (allows : shape.allows (value.under path) = true ↔
      ∃ found? : Option α, value.under path = (found?.map inject).getD .null)
    (filled : ∀ found : α, (inject found).present? = some (inject found)) {given? : Option Value} :
    (read.map fun found? => found?.map inject) = .ok given? ↔
      (value.opens path = true ∧ shape.allows (value.under path) = true)
        ∧ (value.under path).present? = given? := by
  have seen (found? : Option α) : ((found?.map inject).getD .null).present? =
      found?.map inject := by
    cases found? with
    | none => rfl
    | some found => exact filled found
  rw [Except.map_eq_ok_iff]
  constructor
  · rintro ⟨found?, done, rfl⟩
    obtain ⟨opened, there⟩ := (reads found?).mp done
    exact ⟨⟨opened, allows.mpr ⟨found?, there⟩⟩, there ▸ seen found?⟩
  · rintro ⟨⟨opened, allowed⟩, rfl⟩
    obtain ⟨found?, there⟩ := allows.mp allowed
    exact ⟨found?, (reads found?).mpr ⟨opened, there⟩, there ▸ (seen found?).symm⟩

theorem map_string?_eq_ok_iff {value : Value} {path : Path} {given? : Option Value} :
    ((value.string? path).map fun text? => text?.map .str) = .ok given? ↔
      (value.opens path = true ∧ Shape.text.allows (value.under path) = true)
        ∧ (value.under path).present? = given? :=
  map_eq_ok_iff_of_reader (fun _ => string?_eq_ok_iff) allows_text_iff fun _ => rfl

theorem map_list?_eq_ok_iff {value : Value} {path : Path} {given? : Option Value} :
    ((value.list? path).map fun items? => items?.map .arr) = .ok given? ↔
      (value.opens path = true ∧ Shape.list.allows (value.under path) = true)
        ∧ (value.under path).present? = given? :=
  map_eq_ok_iff_of_reader (fun _ => list?_eq_ok_iff) allows_list_iff fun _ => rfl

theorem map_strings?_eq_ok_iff {value : Value} {path : Path} {given? : Option Value} :
    ((value.strings? path).map fun texts? => texts?.map .strings) = .ok given? ↔
      (value.opens path = true ∧ Shape.texts.allows (value.under path) = true)
        ∧ (value.under path).present? = given? :=
  map_eq_ok_iff_of_reader (fun _ => strings?_eq_ok_iff) allows_texts_iff fun _ => rfl

/-! ## Writing -/

/-- A value is written where one can be read, and nowhere else. -/
theorem exists_written_iff {new value : Value} {path : Path} :
    (∃ after : Value, Written new path value after) ↔ value.opens path = true := by
  induction path generalizing value with
  | nil => exact ⟨fun _ => rfl, fun _ => ⟨new, .here value⟩⟩
  | cons key rest induction =>
      constructor
      · rintro ⟨after, written⟩
        cases written with
        | inside enters within =>
            cases enters with
            | object fields => exact induction.mp ⟨_, within⟩
            | null => rfl
      · intro opened
        cases value with
        | obj fields =>
            obtain ⟨inner, within⟩ := induction.mpr opened
            exact ⟨_, .inside (.object fields) within⟩
        | null =>
            obtain ⟨inner, within⟩ := induction.mpr (opens_null rest)
            exact ⟨_, .inside .null within⟩
        | _ => cases opened

theorem Written.under_self {new : Value} {path : Path} {value after : Value}
    (written : Written new path value after) : after.under path = new := by
  induction written with
  | here value => rfl
  | inside enters within induction =>
      rw [under, Fields.find?_put_self]
      exact induction

theorem Written.under_apart {new : Value} {path : Path} {value after : Value}
    (written : Written new path value after) {other : Path} (apart : path.Apart other) :
    after.under other = value.under other := by
  induction written generalizing other with
  | here value => exact absurd rfl apart.ne_nil
  | @inside key rest value fields inner enters within induction =>
      cases other with
      | nil => exact absurd rfl apart.symm.ne_nil
      | cons key' rest' =>
          have before : value.under (key' :: rest') =
              ((fields.find? key').getD .null).under rest' := by
            cases enters with
            | object => rfl
            | null => exact (under_null rest').symm
          rw [before, under]
          by_cases same : key = key'
          · subst same
            rw [Fields.find?_put_self]
            exact induction (apart.of_cons rfl)
          · rw [Fields.find?_put_ne _ _ (Ne.symm same)]

theorem opens_iff {value : Value} {path : Path} :
    value.opens path = true ↔ ∃ found? : Option Value, value.get? path = .ok found? :=
  ⟨fun opened => ⟨_, get?_eq_ok_iff.mpr ⟨opened, rfl⟩⟩,
    fun ⟨_, read⟩ => (get?_eq_ok_iff.mp read).1⟩

theorem Written.opens_apart {new : Value} {path : Path} {value after : Value}
    (written : Written new path value after) {other : Path} (apart : path.Apart other) :
    after.opens other = value.opens other := by
  rw [Bool.eq_iff_iff, opens_iff, opens_iff, written.get?_apart apart]

/-- Lays members over the object at a path.  Without members nothing is
changed; otherwise the objects on the way are there afterwards. -/
def layOver (value : Value) (path : Path) (members : Fields Value) : Value :=
  match members, path with
  | [], _ => value
  | member :: members, [] => .obj (value.fields.overlay (member :: members))
  | member :: members, key :: rest =>
      .obj (value.fields.put key
        (((value.fields.find? key).getD .null).layOver rest (member :: members)))

theorem fields_of_enters {value : Value} {fields : Fields Value} (enters : value.Enters fields) :
    value.fields = fields := by
  cases enters <;> rfl

/-- To write a value is to lay it over the object around it. -/
theorem Written.eq_layOver {new value after : Value} {path : Path} {key : String}
    (written : Written new (path ++ [key]) value after) :
    after = value.layOver path [(key, new)] := by
  induction path generalizing value after with
  | nil =>
      cases written with
      | inside enters within =>
          cases within
          rw [layOver, fields_of_enters enters]
          rfl
  | cons first path induction =>
      cases written with
      | inside enters within => rw [layOver, fields_of_enters enters, ← induction within]

/-- Members that are laid over one after the other may be laid over at once. -/
theorem layOver_layOver (value : Value) (path : Path) (member : String × Value)
    (members : Fields Value) :
    (value.layOver path [member]).layOver path members = value.layOver path
    (member :: members) := by
  cases members with
  | nil => rw [layOver]
  | cons next members =>
      induction path generalizing value with
      | nil => rfl
      | cons key path induction =>
          simp only [layOver, fields, Fields.find?_put_self, Option.getD_some,
            Fields.put_put] at induction ⊢
          rw [induction]

end Value

end PoolOperator
