import PoolOperator.Value

/-!
# Reading records

The resources of the operator are records, and they are read from two kinds of
places: from values, and from the nodes of a YAML document.  `Source` is what
the two have in common.  A reader of records is written once, for any source.

There are two manners of reading.  Cluster objects are read by `members`: null
means absent, of a repeated member the last one counts, and unknown members
are skipped.  The operator's own records are read by `slots`: they may also be
given as a list, in the order of their fields, if the source has lists for
that.  A repeated field is refused, and null is refused unless the field allows
it.
-/

namespace PoolOperator

/-- Why something cannot be read as what was expected. -/
inductive ReadError where
  /-- A value of another type. -/
  | invalidType (found expected : String)
  /-- A value of the type that is not allowed. -/
  | invalidValue (found expected : String)
  /-- A list of a wrong length. -/
  | invalidLength (found : Nat) (expected : String)
  /-- A field is missing. -/
  | missingField (name : String)
  /-- A field is given twice. -/
  | duplicateField (name : String)
  /-- A name that is not one of the known ones. -/
  | unknownVariant (name : String) (known : List String)
  /-- A reason in words. -/
  | other (reason : String)
  deriving DecidableEq, Repr, Inhabited

/-- The text of a read error. -/
def ReadError.message : ReadError → String
  | .invalidType found expected => s!"invalid type: {found}, expected {expected}"
  | .invalidValue found expected => s!"invalid value: {found}, expected {expected}"
  | .invalidLength found expected => s!"invalid length {found}, expected {expected}"
  | .missingField name => s!"missing field `{name}`"
  | .duplicateField name => s!"duplicate field `{name}`"
  | .unknownVariant name known =>
      let names := known.map fun known => s!"`{known}`"
      s!"unknown variant `{name}`, expected " ++
        (if names.length = 2 then " or ".intercalate names
         else "one of " ++ ", ".intercalate names)
  | .other reason => reason

/-- A record as it is given: its fields in order, or under their names. -/
inductive Record (σ : Type) where
  /-- The values of the fields in order. -/
  | listed (values : List σ)
  /-- The members, in the order of the source. -/
  | named (members : List (String × σ))

/-- Places that records are read from. -/
class Source (σ : Type) (m : outParam (Type → Type)) [Monad m] where
  /-- Fails at a place. -/
  refuse {α : Type} (place : σ) (error : ReadError) : m α
  /-- A text. -/
  text (expected : String) (place : σ) : m String
  /-- A truth value. -/
  flag (place : σ) : m Bool
  /-- A whole number of sixty-four bits with a sign. -/
  wholeNumber (place : σ) : m Int
  /-- The place, unless it holds null. -/
  nullable (place : σ) : m (Option σ)
  /-- The items of a list. -/
  items (place : σ) : m (List σ)
  /-- The members of a map, in the order of the source. -/
  members (expected : String) (place : σ) : m (List (String × σ))
  /-- A record, in one of its two forms. -/
  record (expected : String) (place : σ) : m (Record σ)
  /-- A name out of some known ones. -/
  variant (expected : String) (known : List String) (place : σ) : m String
  /-- Any value. -/
  value (place : σ) : m Value

namespace Reading

variable {σ : Type} {m : Type → Type} [Monad m] [Source σ m] {α : Type}

/-- A text. -/
def text (place : σ) : m String := Source.text "a string" place

/-- A list of things. -/
def list (read : σ → m α) (place : σ) : m (List α) := do
  (← Source.items place).mapM read

/-- A list of texts. -/
def texts (place : σ) : m (List String) := list text place

/-- A map from texts to texts. -/
def textMap (place : σ) : m (Fields String) := do
  let members ← Source.members "a map" place
  let pairs ← members.mapM fun (key, place) => return (key, ← text place)
  return Fields.ofList pairs

/-- The value of a member, the last one that is given.  Null means absent. -/
def member? (members : List (String × σ)) (read : σ → m α) (name : String) : m (Option α) := do
  let given := members.filter fun member => member.1 = name
  let values ← given.mapM fun member => do
    match ← Source.nullable member.2 with
    | some place => return some (← read place)
    | none => return none
  return values.getLast?.join

/-- The fields of a record under their names. -/
structure Slots (σ : Type) where
  /-- Was the record given as a list? -/
  listed : Bool
  /-- The fields that are given. -/
  given : List (String × σ)

/-- The fields of a record out of the ones with the given names. -/
def slots (expected : String) (names : List String) (place : σ) : m (Slots σ) := do
  match ← Source.record expected place with
  | .listed values =>
      if values.length > names.length then
        Source.refuse place (.invalidLength values.length "fewer elements in array")
      else return ⟨true, names.zip values⟩
  | .named members =>
      match names.find? fun name => (members.filter fun member => member.1 = name).length > 1 with
      | some name => Source.refuse place (.duplicateField name)
      | none => return ⟨false, members⟩

/-- The place of a field. -/
def Slots.find? (slots : Slots σ) (name : String) : Option σ := Fields.find? slots.given name

/-- A field that has to be given. -/
def Slots.required (slots : Slots σ) (place : σ) (name : String) (read : σ → m α) : m α :=
  match slots.find? name with
  | some field => read field
  | none => Source.refuse place (.missingField name)

/-- A field with a default. -/
def Slots.defaulted (slots : Slots σ) (name : String) (default : α) (read : σ → m α) : m α :=
  match slots.find? name with
  | some field => read field
  | none => pure default

/-- A field that may be left out or null. -/
def Slots.optional (slots : Slots σ) (name : String) (read : σ → m α) : m (Option α) :=
  match slots.find? name with
  | some field => do
      match ← Source.nullable field with
      | some place => return some (← read place)
      | none => return none
  | none => pure none

end Reading

end PoolOperator
