import PoolOperator.Proofs.Value.Shape

/-!
# Writing in place

Two runs along a path make an assignment: `probe` looks whether something is in
the way, and `writeIn` writes.  In the way is a value before the end of the path
that is neither null nor an object (`Blocks`).  Reading stops there
(`get?_eq_error_iff`) and `probe` does (`probe_eq_error_iff`), so that `writeIn`
only ever runs where it comes to the end (`writeIn_of_probe`), and then it gives
what `Written` says (`assign_eq_ok_iff`).

`assign_lawful` puts together what holds of every assignment: it is refused
where the readers refuse the path, leaves the value alone if it is refused, and
otherwise reading and writing are tied by the laws of a lens.
-/

namespace PoolOperator

namespace Value

variable {path passed rest segment : Path} {key last : String} {value new after found : Value}
  {error : AccessError}

/-! ## What is in the way -/

/-- A value on the way along a path, before its end, is neither null nor an
object.  `segment` leads to it. -/
structure Blocks (value : Value) (path segment : Path) (found : Value) : Prop where
  /-- The value is there. -/
  leads : value.LeadsTo segment found
  /-- It is on the way. -/
  before : segment <+: path
  /-- It is not at the end. -/
  proper : segment ≠ path
  /-- It is neither null nor an object. -/
  closed : Shape.object.allows found = false

theorem not_blocks_nil : ¬ value.Blocks [] segment found :=
  fun blocks => blocks.proper (List.prefix_nil.mp blocks.before)

theorem not_blocks_null : ¬ Value.null.Blocks path segment found := by
  rintro ⟨leads, -, -, closed⟩
  cases leads
  cases closed

theorem enters_or_closed (value : Value) :
    (∃ fields : Fields Value, value.Enters fields) ∨ Shape.object.allows value = false := by
  cases value with
  | obj fields => exact .inl ⟨fields, .object fields⟩
  | null => exact .inl ⟨[], .null⟩
  | _ => exact .inr rfl

/-- Where a path goes on in a value, what is in the way is further inside. -/
theorem blocks_enters_iff {fields : Fields Value} (enters : value.Enters fields) :
    value.Blocks (key :: rest) segment found ↔
      ∃ inner : Path, segment = key :: inner
        ∧ ((fields.find? key).getD .null).Blocks rest inner found := by
  cases enters with
  | null =>
      rw [Fields.find?_nil, Option.getD_none]
      exact iff_of_false not_blocks_null fun ⟨_, _, blocks⟩ => not_blocks_null blocks
  | object =>
      constructor
      · rintro ⟨leads, before, proper, closed⟩
        cases leads with
        | here => cases closed
        | @inside _ _ _ inner _ there further =>
            obtain ⟨rfl, inside⟩ := List.cons_prefix_cons.mp before
            rw [there]
            exact ⟨inner, rfl, further, inside, fun same => proper (same ▸ rfl), closed⟩
      · rintro ⟨inner, rfl, blocks⟩
        cases there : Fields.find? fields key with
        | none =>
            rw [there] at blocks
            exact absurd blocks not_blocks_null
        | some member =>
            rw [there] at blocks
            exact ⟨.inside there blocks.leads, List.cons_prefix_cons.mpr ⟨rfl, blocks.before⟩,
              fun same => blocks.proper (List.cons.inj same).2, blocks.closed⟩

/-- A value that cannot be entered is in the way itself. -/
theorem blocks_closed_iff (closed : Shape.object.allows value = false) :
    value.Blocks (key :: rest) segment found ↔ segment = [] ∧ found = value := by
  constructor
  · rintro ⟨leads, -, -, -⟩
    cases leads with
    | here => exact ⟨rfl, rfl⟩
    | inside => cases closed
  · rintro ⟨rfl, rfl⟩
    exact ⟨.here found, List.nil_prefix, (List.cons_ne_nil key rest).symm, closed⟩

theorem descend_closed (closed : Shape.object.allows value = false) :
    descend path passed (key :: rest) value =
      .error (.notAnObject path.text (Path.text passed) value.typeName) := by
  cases value with
  | null => cases closed
  | obj fields => cases closed
  | _ => rfl

theorem descend_eq_error_iff :
    descend path passed rest value = .error error ↔
      ∃ (segment : Path) (found : Value), value.Blocks rest segment found
        ∧ error = .notAnObject path.text (Path.text (passed ++ segment)) found.typeName := by
  induction rest generalizing passed value with
  | nil => cases value <;> simp [descend, not_blocks_nil]
  | cons key rest induction =>
      rcases value.enters_or_closed with ⟨fields, enters⟩ | closed
      · rw [descend_enters enters, induction]
        constructor
        · rintro ⟨inner, found, blocks, rfl⟩
          exact ⟨key :: inner, found, (blocks_enters_iff enters).mpr ⟨inner, rfl, blocks⟩, by simp⟩
        · rintro ⟨segment, found, blocks, rfl⟩
          obtain ⟨inner, rfl, further⟩ := (blocks_enters_iff enters).mp blocks
          exact ⟨inner, found, further, by simp⟩
      · simp [descend_closed closed, blocks_closed_iff closed, eq_comm]

/-- Reading fails where a value is in the way, and nowhere else. -/
theorem get?_eq_error_iff :
    value.get? path = .error error ↔
      ∃ (segment : Path) (found : Value), value.Blocks path segment found
        ∧ error = .notAnObject path.text segment.text found.typeName :=
  descend_eq_error_iff

/-! ## Readers -/

/-- What is read at a path: any value, or one of a type. -/
inductive Reader where
  /-- Any value. -/
  | any
  /-- A text. -/
  | text
  /-- A list. -/
  | list
  /-- A list of texts. -/
  | texts

namespace Reader

/-- What a reader gives, as a value. -/
def read : Reader → Value → Path → Except AccessError (Option Value)
  | .any, value, path => value.get? path
  | .text, value, path => (value.string? path).map fun text? => text?.map .str
  | .list, value, path => (value.list? path).map fun items? => items?.map .arr
  | .texts, value, path => (value.strings? path).map fun texts? => texts?.map .strings

/-- Is a value null or one that the reader gives? -/
def accepts : Reader → Value → Bool
  | .any, _ => true
  | .text, value => Shape.text.allows value
  | .list, value => Shape.list.allows value
  | .texts, value => Shape.texts.allows value

variable {reader : Reader}

theorem read_eq_ok_iff {given? : Option Value} :
    reader.read value path = .ok given? ↔
      (value.opens path = true ∧ reader.accepts (value.under path) = true)
        ∧ (value.under path).present? = given? := by
  cases reader with
  | any => simp [read, accepts, get?_eq_ok_iff]
  | text => exact map_string?_eq_ok_iff
  | list => exact map_list?_eq_ok_iff
  | texts => exact map_strings?_eq_ok_iff

/-- Every reader starts from what is read without regard to its type. -/
theorem read_congr {value' : Value} {path : Path} (same : value.get? path = value'.get? path)
    (reader : Reader) : reader.read value path = reader.read value' path := by
  cases reader with
  | any => exact same
  | text => simp only [read, string?, same]
  | list => simp only [read, list?, same]
  | texts => simp only [read, strings?, list?, same]

/-- A step that only looks at types does not find anything in the way. -/
theorem bind_eq_notAnObject_iff {α β : Type} {computation : Except AccessError α}
    {next : α → Except AccessError β} {text segment found : String}
    (typeOnly : ∀ between : α, next between ≠ .error (.notAnObject text segment found)) :
    (computation >>= next) = .error (.notAnObject text segment found) ↔
      computation = .error (.notAnObject text segment found) := by
  rw [Except.bind_eq_error_iff]
  exact or_iff_left fun ⟨between, _, failed⟩ => typeOnly between failed

theorem mapM_itemText_ne {items : List Value} {text segment found : String} :
    items.mapM (itemText path) ≠ .error (.notAnObject text segment found) := by
  intro failed
  obtain ⟨_, item, _, _, _, failed⟩ := Except.mapM_eq_error_iff.mp failed
  cases item <;> cases failed

/-- A reader finds in the way what is in the way without regard to types. -/
theorem read_eq_notAnObject_iff {text segment found : String} :
    reader.read value path = .error (.notAnObject text segment found) ↔
      value.get? path = .error (.notAnObject text segment found) := by
  have list : value.list? path = .error (.notAnObject text segment found) ↔
      value.get? path = .error (.notAnObject text segment found) := by
    refine bind_eq_notAnObject_iff fun value? failed => ?_
    cases value? with
    | none => cases failed
    | some value => cases value <;> cases failed
  cases reader with
  | any => exact Iff.rfl
  | text =>
      rw [read, Except.map_eq_error_iff]
      refine bind_eq_notAnObject_iff fun value? failed => ?_
      cases value? with
      | none => cases failed
      | some value => cases value <;> cases failed
  | list => rw [read, Except.map_eq_error_iff, list]
  | texts =>
      rw [read, Except.map_eq_error_iff, ← list]
      refine bind_eq_notAnObject_iff fun items? failed => ?_
      cases items? with
      | none => cases failed
      | some items =>
          rcases Except.bind_eq_error_iff.mp failed with failed | ⟨_, _, done⟩
          · exact mapM_itemText_ne failed
          · cases done

end Reader

/-! ## The two runs -/

theorem probe_enters {fields : Fields Value} (enters : value.Enters fields) :
    probe path passed (key :: rest) value =
      probe path (passed ++ [key]) rest ((fields.find? key).getD .null) := by
  cases enters with
  | object => rw [probe]
  | null => rw [Fields.find?_nil, Option.getD_none, probe, probe]

theorem probe_closed (closed : Shape.object.allows value = false) :
    probe path passed rest value = .error
    (.notAnObject path.text (Path.text passed) value.typeName) := by
  cases value with
  | null => cases closed
  | obj fields => cases closed
  | _ => cases rest <;> rfl

/-- Probing the way up to the last key fails exactly as reading the whole path
does. -/
theorem probe_eq_error_iff :
    probe path passed rest value = .error error ↔
      descend path passed (rest ++ [last]) value = .error error := by
  induction rest generalizing passed value with
  | nil =>
      rcases value.enters_or_closed with ⟨fields, enters⟩ | closed
      · have probed : probe path passed [] value = .ok () := by cases enters <;> rfl
        rw [probed, List.nil_append, descend_enters enters]
        cases (fields.find? last).getD .null <;> simp [descend]
      · simp [probe_closed closed, descend_closed closed]
  | cons key rest induction =>
      rw [List.cons_append]
      rcases value.enters_or_closed with ⟨fields, enters⟩ | closed
      · rw [probe_enters enters, descend_enters enters]
        exact induction
      · simp [probe_closed closed, descend_closed closed]

/-- Probing comes through where everything on the way can be entered. -/
theorem probe_eq_ok_iff (last : String) :
    probe path passed rest value = .ok () ↔ value.opens (rest ++ [last]) = true := by
  calc probe path passed rest value = .ok ()
      ↔ ¬ ∃ error : AccessError, probe path passed rest value = .error error := by
        rw [Except.exists_error_iff, not_not]
        exact ⟨fun done => ⟨(), done⟩, fun ⟨_, done⟩ => done⟩
    _ ↔ ¬ ∃ error : AccessError, descend path passed (rest ++ [last]) value = .error error :=
        not_congr (exists_congr fun _ => probe_eq_error_iff)
    _ ↔ ∃ found? : Option Value, descend path passed (rest ++ [last]) value = .ok found? := by
        rw [Except.exists_error_iff, not_not]
    _ ↔ value.opens (rest ++ [last]) = true :=
        ⟨fun ⟨_, read⟩ => (descend_eq_ok_iff.mp read).1, fun opened =>
          ⟨_, descend_eq_ok_iff.mpr ⟨opened, rfl⟩⟩⟩

theorem Enters.members?_eq {fields : Fields Value} (enters : value.Enters fields) :
    value.members? = some fields := by
  cases enters <;> rfl

/-- Writing comes to the end wherever a value can be written. -/
theorem Written.writeIn_eq (written : Written new (rest ++ [last]) value after) :
    writeIn path last new rest value = (.ok (), after) := by
  induction rest generalizing value after with
  | nil =>
      cases written with
      | inside enters within =>
          cases within
          rw [writeIn, enters.members?_eq]
  | cons key rest induction =>
      cases written with
      | inside enters within => simp only [writeIn, enters.members?_eq, induction within]

/-- Where probing came through, writing does. -/
theorem writeIn_of_probe (probed : probe path passed rest value = .ok ()) (last : String)
    (new : Value) :
    (writeIn path last new rest value).1 = .ok () := by
  obtain ⟨after, written⟩ := exists_written_iff.mpr ((probe_eq_ok_iff last).mp probed)
  rw [written.writeIn_eq]

/-! ## Assignments -/

/-- An assignment is refused where reading is, and leaves the value alone. -/
theorem assign_of_error (failed : value.get? path = .error error) (new : Value) :
    value.assign path new = (.error error, value) := by
  rcases List.eq_nil_or_concat' path with rfl | ⟨parents, last, rfl⟩
  · cases value <;> cases failed
  · have probed : probe (parents ++ [last]) [] parents value = .error error :=
      probe_eq_error_iff.mpr failed
    simp only [assign, List.getLast?_concat, List.dropLast_concat, probed]

theorem Written.assign_eq (written : Written new path value after) (notEmpty : path ≠ []) :
    value.assign path new = (.ok (), after) := by
  obtain ⟨parents, last, rfl⟩ := (List.eq_nil_or_concat' path).resolve_left notEmpty
  have probed : probe (parents ++ [last]) [] parents value = .ok () :=
    (probe_eq_ok_iff last).mpr (exists_written_iff.mp ⟨after, written⟩)
  simp only [assign, List.getLast?_concat, List.dropLast_concat, probed]
  exact written.writeIn_eq

/-- There is something in the way, or the value can be written. -/
theorem error_or_written (value : Value) (path : Path) (new : Value) :
    (∃ error : AccessError, value.get? path = .error error)
      ∨ ∃ after : Value, Written new path value after := by
  rw [Except.exists_error_iff, ← opens_iff, exists_written_iff]
  exact (em _).symm

theorem assign_eq_error_iff (notEmpty : path ≠ []) :
    (value.assign path new).1 = .error error ↔ value.get? path = .error error := by
  constructor
  · intro refused
    rcases error_or_written value path new with ⟨error', failed⟩ | ⟨after, written⟩
    · rw [assign_of_error failed] at refused
      cases refused
      exact failed
    · rw [written.assign_eq notEmpty] at refused
      cases refused
  · intro failed
    rw [assign_of_error failed]

theorem assign_eq_ok_iff (notEmpty : path ≠ []) :
    value.assign path new = (.ok (), after) ↔ Written new path value after := by
  constructor
  · intro done
    rcases error_or_written value path new with ⟨error', failed⟩ | ⟨after', written⟩
    · rw [assign_of_error failed] at done
      cases done
    · rw [written.assign_eq notEmpty] at done
      cases done
      exact written
  · exact fun written => written.assign_eq notEmpty

theorem set_eq_ok_iff (notEmpty : path ≠ []) :
    value.set path new = .ok after ↔ Written new path value after := by
  rw [← assign_eq_ok_iff notEmpty, set]
  rcases value.assign path new with ⟨_ | _, after'⟩ <;> simp [Except.map]

/-! ## Laws -/

/-- What was read along the way is still there after a value was written, and
every object on the way keeps its other members. -/
theorem Written.others {front : Path} {fields : Fields Value}
    (written : Written new (front ++ key :: rest) value after)
    (leads : value.LeadsTo front (.obj fields)) :
    ∃ fields' : Fields Value, after.LeadsTo front (.obj fields')
      ∧ fields'.erase key = fields.erase key := by
  induction front generalizing value after with
  | nil =>
      cases leads
      cases written with
      | inside enters within =>
          cases enters
          exact ⟨_, .here _, Fields.erase_put fields key _⟩
  | cons first front induction =>
      cases leads with
      | inside there further =>
          cases written with
          | inside enters within =>
              cases enters
              rw [there] at within
              obtain ⟨fields', leads', kept⟩ := induction within further
              exact ⟨fields', .inside (Fields.find?_put_self _ first _) leads', kept⟩

/-- What holds after a value was assigned at a path. -/
structure Assigned (value : Value) (path : Path) (new after : Value) : Prop where
  /-- Every reader that accepts the new value reads it at the path, or nothing if it is null. -/
  here : ∀ (reader : Reader) (given? : Option Value),
    reader.read after path = .ok given? ↔ reader.accepts new = true ∧ new.present? = given?
  /-- Every path that is apart reads as before, errors included. -/
  apart : ∀ (reader : Reader) (other : Path), path.Apart other →
    reader.read after other = reader.read value other
  /-- Every object on the way keeps its members but the one that the path goes on at. -/
  others : ∀ (front : Path) (key : String) (rest : Path) (fields : Fields Value),
    path = front ++ key :: rest → value.LeadsTo front (.obj fields) →
    ∃ fields' : Fields Value, after.LeadsTo front (.obj fields')
      ∧ fields'.erase key = fields.erase key
  /-- Another assignment at the path leaves nothing of this one. -/
  again : ∀ later : Value, after.assign path later = value.assign path later
  /-- Members that are in order stay so. -/
  ordered : value.Ordered → new.Ordered → after.Ordered

/-- The laws of assigning a value at a path. -/
structure LawfulAt (value : Value) (path : Path) (new : Value) : Prop where
  /-- An assignment is refused for a value that is in the way, and for nothing else. -/
  refused : ∀ error : AccessError, (value.assign path new).1 = .error error ↔
    ∃ (segment : Path) (found : Value), value.Blocks path segment found
      ∧ error = .notAnObject path.text segment.text found.typeName
  /-- Every reader finds the same in the way. -/
  readers : ∀ (reader : Reader) (text segment found : String),
    reader.read value path = .error (.notAnObject text segment found) ↔
      (value.assign path new).1 = .error (.notAnObject text segment found)
  /-- Nothing is written if the assignment is refused. -/
  untouched : ∀ error : AccessError, (value.assign path new).1 = .error error →
    (value.assign path new).2 = value
  /-- Where probing came through, writing does not stop. -/
  unstopped : ∀ last : String, probe path [] path.dropLast value = .ok () →
    (writeIn path last new path.dropLast value).1 = .ok ()
  /-- What holds if it is not refused. -/
  assigned : ∀ after : Value, value.assign path new = (.ok (), after) →
    Assigned value path new after
  /-- Assigning the value that is there changes nothing.  Members that are not in order, which no
  value that was read has, might be moved. -/
  back : value.Ordered → value.LeadsTo path new → value.assign path new = (.ok (), value)

theorem Written.assigned (written : Written new path value after) (notEmpty : path ≠ []) :
    Assigned value path new after where
  here reader given? := by
    have opened : after.opens path = true := opens_iff.mpr ⟨_, written.get?_self⟩
    rw [Reader.read_eq_ok_iff, written.under_self]
    exact and_congr_left' (and_iff_right opened)
  apart reader other apart := Reader.read_congr (written.get?_apart apart) reader
  others front key rest fields split leads := by
    subst split
    exact written.others leads
  again later := by
    have opened : after.opens path = true := opens_iff.mpr ⟨_, written.get?_self⟩
    obtain ⟨after', second⟩ := exists_written_iff.mpr opened
    rw [second.assign_eq notEmpty, (written.again second).assign_eq notEmpty]
  ordered := written.ordered

/-- Every assignment at a path that is not empty is lawful, whatever the value
is. -/
theorem assign_lawful {path : Path} (notEmpty : path ≠ []) (value new : Value) :
    LawfulAt value path new where
  refused error := (assign_eq_error_iff notEmpty).trans get?_eq_error_iff
  readers reader text segment found :=
    Reader.read_eq_notAnObject_iff.trans (assign_eq_error_iff notEmpty).symm
  untouched error failed := by
    rw [assign_of_error ((assign_eq_error_iff notEmpty).mp failed)]
  unstopped last probed := writeIn_of_probe probed last new
  assigned after done := ((assign_eq_ok_iff notEmpty).mp done).assigned notEmpty
  back ordered leads := (leads.written ordered).assign_eq notEmpty

/-- An address can be assigned to a Service with an empty `spec`. -/
theorem assign_lawful_emptySpec :
    ["spec", "clusterIP"] ≠ []
      ∧ LawfulAt (.obj [("kind", .str "Service"), ("spec", .null)]) ["spec", "clusterIP"]
      (.str "10.0.0.5")
      ∧ Assigned (.obj [("kind", .str "Service"), ("spec", .null)]) ["spec", "clusterIP"]
      (.str "10.0.0.5")
          (.obj [("kind", .str "Service"), ("spec", .obj [("clusterIP", .str "10.0.0.5")])]) :=
  ⟨by decide, assign_lawful (by decide) _ _, (assign_lawful (by decide) _ _).assigned _ rfl⟩

/-- The ports of a Service are in the way of one of them. -/
example :
    (Value.obj [("spec", .obj [("ports", .arr [])])]).assign ["spec", "ports", "port"] (.int 80) =
      (.error (.notAnObject "spec.ports.port" "spec.ports" "array"),
        .obj [("spec", .obj [("ports", .arr [])])]) := rfl

end Value

end PoolOperator
