import PoolOperator.Value.Reading
import PoolOperator.Yaml.Node
import PoolOperator.Yaml.Scalar

/-!
# Reading YAML

A YAML document is read as a record (`Source`), with the fields under their
names, or as any value (`valueAt`).  A text takes any scalar as it is written.
Any other type takes plain scalars only, and where a list or a map is expected,
missing content counts as empty.

Aliases are followed when they are reached.  So that this ends, there is a
limit on how often, a hundred times the size of the document, and a limit of
128 on how deep collections may be nested.  What is not read does not count.
-/

namespace PoolOperator.Yaml

/-- A step of reading a document.  The state is the number of aliases that were
followed. -/
abbrev Read (α : Type) : Type := ReaderT Document (StateT Nat (Except Error)) α

/-- A node to be read. -/
structure Spot where
  /-- The node; none if the text has no documents. -/
  node : Option Node
  /-- The keys and indices that lead to the node. -/
  path : String
  /-- How many collections may be nested from here on. -/
  depth : Nat
  deriving Inhabited, Repr

namespace Spot

/-- Where the node begins. -/
def mark (spot : Spot) : Mark :=
  match spot.node with
  | some node => node.mark
  | none => .start

/-- The item of a sequence. -/
def item (spot : Spot) (index : Nat) (node : Node) : Spot :=
  ⟨some node, s!"{spot.path}[{index}]", spot.depth - 1⟩

/-- The value of a mapping under a key; nothing is known of a key that is not a
scalar. -/
def member (spot : Spot) (key : Node) (node : Node) : Spot :=
  let parent := if spot.path = "." then "" else spot.path ++ "."
  let name := match key with
    | .scalar _ _ text => text
    | _ => "?"
  ⟨some node, parent ++ name, spot.depth - 1⟩

/-- Fails at a node. -/
def refuse {α : Type} (spot : Spot) (error : ReadError) : Read α :=
  throw ⟨(if spot.path = "." then "" else spot.path ++ ": ") ++ error.message, spot.mark, none⟩

/-- The node that an alias stands for; any other node itself. -/
def follow (spot : Spot) : Read Spot := do
  match spot.node with
  | some (.aliased mark number) =>
      let document ← read
      let jumps := (← get) + 1
      set jumps
      if jumps > document.events * 100 then
        throw ⟨"repetition limit exceeded", .start, none⟩
      match document.anchored? number with
      | some node => return { spot with node := some node }
      | none => throw ⟨"unknown anchor", mark, none⟩
  | _ => return spot

/-- Refuses a collection that is nested too deep. -/
def checkDepth (spot : Spot) : Read Unit := do
  if spot.depth = 0 then throw ⟨"recursion limit exceeded", spot.mark, none⟩

/-- The items of a sequence. -/
def enterItems (spot : Spot) (items : List Node) : List Spot :=
  items.mapIdx spot.item

end Spot

/-! ## Tags -/

/-- The tag of a truth value. -/
def Tag.bool : Tag := Tag.ofString "tag:yaml.org,2002:bool"

/-- The tag of a whole number. -/
def Tag.int : Tag := Tag.ofString "tag:yaml.org,2002:int"

/-- The tag of a double. -/
def Tag.float : Tag := Tag.ofString "tag:yaml.org,2002:float"

/-- The tag of null. -/
def Tag.null : Tag := Tag.ofString "tag:yaml.org,2002:null"

/-- The name in a tag that has an exclamation mark and a name. -/
def Tag.name? : Tag → Option String
  | 0x21 :: name => String.fromUTF8? ⟨name.toArray⟩
  | _ => none

/-! ## Scalars as values -/

/-- The value of a number, which is null if it is not finite. -/
def finiteValue : Binary64 → Value
  | .finite negative significand exponent => .float (.finite negative significand exponent)
  | _ => .null

/-- The value of a whole number. -/
def intValue (number : Int) : Except ReadError Value :=
  if Value.leastInt ≤ number ∧ number ≤ Value.greatestInt then .ok (.int number)
  else .error (.other "JSON number out of range")

/-- The value of a plain scalar without a tag. -/
def plainValue (text : String) : Except ReadError Value :=
  match Meaning.of text with
  | .null => .ok .null
  | .bool value => .ok (.bool value)
  | .int number => intValue number
  | .float number => .ok (finiteValue number)
  | .text => .ok (.str text)

/-- The value of a scalar. -/
def scalarValue (tag : Option Tag) (style : Style) (text : String) : Except ReadError Value :=
  let wrong (expected : String) : Except ReadError Value :=
    .error (.invalidValue ("string " ++ Text.quoted text) expected)
  match tag with
  | none => if style = .plain then plainValue text else .ok (.str text)
  | some tag =>
      if tag.name?.isSome then .error (.invalidType "enum" "any valid JSON value")
      else if tag = Tag.bool then
        match boolText? text with
        | some value => .ok (.bool value)
        | none => wrong "a boolean"
      else if tag = Tag.int then
        match (intText? text).filter isCounted with
        | some number => intValue number
        | none => wrong "an integer"
      else if tag = Tag.float then
        match floatText? text with
        | some number => .ok (finiteValue number)
        | none => wrong "a float"
      else if tag = Tag.null then
        if isNullText text then .ok .null else wrong "null"
      else if style = .plain && tag.head? = some 0x21 then plainValue text
      else .ok (.str text)

/-! ## Reading nodes -/

namespace Spot

/-- How an error text names a node. -/
def describe (spot : Spot) : String :=
  match spot.node with
  | some (.scalar head style text) =>
      match scalarValue head.tag style text with
      | .ok value => value.describe
      | .error _ => "string " ++ Text.quoted text
  | some (.sequence _ _) => "sequence"
  | some (.mapping _ _) => "map"
  | _ => "null"

/-- A node of another type than expected. -/
def mismatch {α : Type} (spot : Spot) (expected : String) : Read α :=
  spot.refuse (.invalidType spot.describe expected)

/-- Is the content of the node missing? -/
def isMissing (spot : Spot) : Bool :=
  match spot.node with
  | some (.scalar _ .plain "") => true
  | none => true
  | _ => false

/-- A text, which any scalar stands for. -/
def readText (expected : String) (spot : Spot) : Read String := do
  let spot ← spot.follow
  match spot.node with
  | some (.scalar _ _ text) => return text
  | _ => spot.mismatch expected

/-- The text of a scalar that may stand for something else than a text. -/
def meaningful? (spot : Spot) (tag : Tag) : Option String :=
  match spot.node with
  | some (.scalar head style text) =>
      if style = .plain || (style = .literal && head.tag = some tag) then some text else none
  | _ => none

/-- A truth value. -/
def readFlag (spot : Spot) : Read Bool := do
  let spot ← spot.follow
  match (spot.meaningful? Tag.bool).bind boolText? with
  | some value => return value
  | none => spot.mismatch "a boolean"

/-- A whole number of sixty-four bits with a sign. -/
def readWholeNumber (spot : Spot) : Read Int := do
  let spot ← spot.follow
  match (spot.meaningful? Tag.int).bind intText? with
  | some number =>
      if -(Nat.pow 2 63) ≤ number ∧ number < Nat.pow 2 63 then return number
        else spot.mismatch "i64"
  | none => spot.mismatch "i64"

/-- The node, unless it stands for null. -/
def readNullable (spot : Spot) : Read (Option Spot) := do
  let spot ← spot.follow
  match spot.node with
  | none => return none
  | some (.scalar head .plain text) =>
      match head.tag with
      | none => return if text = "" || isNullText text then none else some spot
      | some tag =>
          if tag ≠ Tag.null then return some spot
          else if isNullText text then return none
          else spot.refuse (.invalidValue ("string " ++ Text.quoted text) "null")
  | _ => return some spot

/-- The items of a list. -/
def readItems (spot : Spot) : Read (List Spot) := do
  let spot ← spot.follow
  match spot.node with
  | some (.sequence _ items) =>
      spot.checkDepth
      return spot.enterItems items
  | _ => if spot.isMissing then return [] else spot.mismatch "a sequence"

/-- The keys of a mapping as texts, and its values. -/
def readPairs (spot : Spot) (pairs : List (Node × Node)) : Read (List (String × Spot)) := do
  spot.checkDepth
  pairs.mapM fun (key, value) => do
    let name ← readText "a string" { spot with node := some key, depth := spot.depth - 1 }
    return (name, spot.member key value)

/-- The members of a map. -/
def readMembers (expected : String) (spot : Spot) : Read (List (String × Spot)) := do
  let spot ← spot.follow
  match spot.node with
  | some (.mapping _ pairs) => spot.readPairs pairs
  | _ => if spot.isMissing then return [] else spot.mismatch expected

/-- The tag of a node. -/
def tag (spot : Spot) : Option Tag :=
  match spot.node with
  | some (.scalar head _ _) => head.tag
  | some (.sequence head _) => head.tag
  | some (.mapping head _) => head.tag
  | _ => none

/-- A name out of some known ones: a scalar, or a tag on missing content. -/
def readVariant (known : List String) (spot : Spot) : Read String := do
  let spot ← spot.follow
  let choose (name : String) : Read String :=
    if name ∈ known then return name else spot.refuse (.unknownVariant name known)
  match spot.tag.bind Tag.name?, spot.node with
  | some name, some (.scalar _ .plain text) =>
      let name ← choose name
      if text = "" || isNullText text then return name else spot.mismatch "unit"
  | some name, _ =>
      let _ ← choose name
      spot.mismatch "unit"
  | none, some (.scalar _ _ text) => choose text
  | none, _ => spot.mismatch "a YAML tag starting with '!'"

/-- Any value.  Of a repeated key the last value stays. -/
def valueAt (depth : Nat) (spot : Spot) : Read Value := do
  let spot ← spot.follow
  match spot.node with
  | none => return .null
  | some (.scalar head style text) =>
      match scalarValue head.tag style text with
      | .ok value => return value
      | .error error => spot.refuse error
  | some (.aliased _ _) => return .null
  | some (.sequence head items) =>
      if (head.tag.bind Tag.name?).isSome then
        spot.refuse (.invalidType "enum" "any valid JSON value")
      else
        match depth with
        | 0 => throw ⟨"recursion limit exceeded", spot.mark, none⟩
        | depth + 1 => return .arr (← (spot.enterItems items).mapM (valueAt depth))
  | some (.mapping head pairs) =>
      if (head.tag.bind Tag.name?).isSome then
        spot.refuse (.invalidType "enum" "any valid JSON value")
      else
        match depth with
        | 0 => throw ⟨"recursion limit exceeded", spot.mark, none⟩
        | depth + 1 =>
            let members ← pairs.mapM fun (key, value) => do
              let name ← readText "a string" { spot with node := some key, depth }
              return (name, ← valueAt depth (spot.member key value))
            return .obj (Fields.ofList members)

end Spot

instance : Source Spot Read where
  refuse := Spot.refuse
  text := Spot.readText
  flag := Spot.readFlag
  wholeNumber := Spot.readWholeNumber
  nullable := Spot.readNullable
  items := Spot.readItems
  members := Spot.readMembers
  record expected spot := return .named (← spot.readMembers expected)
  variant _ := Spot.readVariant
  value spot := spot.valueAt spot.depth

/-! ## Documents -/

/-- How deep collections may be nested. -/
def depthLimit : Nat := 128

/-- Reads a document. -/
def Document.read {α : Type} (read : Spot → Read α) (document : Document) : Except Error α :=
  ((read ⟨document.root, ".", depthLimit⟩).run document).run' 0

/-- Reads a document as a value. -/
def Document.value (document : Document) : Except Error Value :=
  document.read fun spot => spot.valueAt spot.depth

/-- Reads a text that holds a single document. -/
def readText {α : Type} (read : Spot → Read α) (text : String) : Except Error α :=
  match documents text with
  | ([document], none) => document.read read
  | (document :: _, _) => do
      let _ ← document.read read
      throw ⟨"deserializing from YAML containing more than one document is not supported",
        .start, none⟩
  | ([], some error) => .error error
  | ([], none) => .error ⟨"EOF while parsing a value", .start, none⟩

end PoolOperator.Yaml
