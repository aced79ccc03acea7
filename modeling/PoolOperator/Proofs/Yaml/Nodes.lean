import PoolOperator.Proofs.Yaml.Stream
import PoolOperator.Yaml.Node

/-!
# The nodes of a written stream

The tokens of a legible outline are built into a node that says the outline: a
tree of the same shape without tags, anchors and aliases (`documents_stream`).
The places in the text are left open, because they are only needed for errors.
-/

namespace PoolOperator.Yaml

/-! ## Nodes and outlines -/

/-- A node that has neither a tag nor an anchor. -/
def NodeHead.bare (mark : Mark) : NodeHead := ⟨mark, none, none⟩

namespace Outline

mutual

/-- Does a node say an outline?  It has its texts and its shape, and no
properties. -/
def Says : Outline → Node → Prop
  | .scalar style text, node => ∃ mark : Mark, node = .scalar (.bare mark) style text
  | .sequence items, node =>
      ∃ (mark : Mark) (nodes : List Node), node = .sequence (.bare mark) nodes
        ∧ SayItems items nodes
  | .mapping fields, node =>
      ∃ (mark : Mark) (pairs : List (Node × Node)),
        node = .mapping (.bare mark) pairs ∧ SayFields fields pairs

/-- `Says` of all items. -/
def SayItems : List Outline → List Node → Prop
  | [], nodes => nodes = []
  | item :: items, nodes =>
      ∃ (node : Node) (others : List Node),
        nodes = node :: others ∧ Says item node ∧ SayItems items others

/-- `Says` of all members, with their keys. -/
def SayFields : List (String × Outline) → List (Node × Node) → Prop
  | [], pairs => pairs = []
  | (key, outline) :: fields, pairs =>
      ∃ (mark : Mark) (node : Node) (others : List (Node × Node)),
        pairs = (.scalar (.bare mark) .plain key, node) :: others
          ∧ Says outline node ∧ SayFields fields others

end

end Outline

/-! ## Steps of building -/

/-- Building consumes some tokens and leaves the rest, whatever was built
before. -/
def Build.Takes {α : Type} (build : Build α) (tokens : List Token) (result : α)
    (left : List Token) : Prop :=
  ∀ (failure : Option Error) (shorthands : List (String × Tag)) (anchors : List (String × Nat)),
    build.run ⟨tokens, failure, shorthands, anchors⟩ =
      .ok (result, ⟨left, failure, shorthands, anchors⟩)

theorem Build.takes_scalar (fuel : Nat) (block indentless : Bool) (mark : Mark) (style : Style)
    (text : String) (left : List Token) :
    (node (fuel + 1) block indentless).Takes (⟨.scalar style text, mark⟩ :: left)
      (.scalar (.bare mark) style text) left :=
  fun _ _ _ => rfl

theorem Build.takes_emptySequence (fuel : Nat) (block indentless : Bool) (first last : Mark)
    (left : List Token) :
    (node (fuel + 2) block indentless).Takes
      (⟨.flowSequenceStart, first⟩ :: ⟨.flowSequenceEnd, last⟩ :: left)
      (.sequence (.bare first) []) left :=
  fun _ _ _ => rfl

theorem Build.takes_emptyMapping (fuel : Nat) (block indentless : Bool) (first last : Mark)
    (left : List Token) :
    (node (fuel + 2) block indentless).Takes
      (⟨.flowMappingStart, first⟩ :: ⟨.flowMappingEnd, last⟩ :: left)
      (.mapping (.bare first) []) left :=
  fun _ _ _ => rfl

/-- A step after another one. -/
theorem Build.Takes.andThen {α β : Type} {build : Build α} {tokens middle left : List Token}
    {result : α} {value : β} (takes : build.Takes tokens result middle) (next : α → Build β)
    (goesOn : (next result).Takes middle value left) :
    (build >>= next).Takes tokens value left := by
  intro failure shorthands anchors
  rw [StateT.run_bind, takes]
  exact goesOn failure shorthands anchors

theorem Build.takes_pure {α : Type} (result : α) (tokens : List Token) :
    (pure result : Build α).Takes tokens result tokens :=
  fun _ _ _ => rfl

theorem Build.takes_blockMapping {fuel : Nat} {mark : Mark} {tokens left : List Token}
    {pairs : List (Node × Node)} (takes : (blockPairs fuel mark).Takes tokens pairs left)
    (indentless : Bool) :
    (node (fuel + 1) true indentless).Takes (⟨.blockMappingStart, mark⟩ :: tokens)
      (.mapping (.bare mark) pairs) left := by
  intro failure shorthands anchors
  have built := takes.andThen (fun pairs => pure (Node.mapping (.bare mark) pairs))
    (takes_pure _ left)
  exact built failure shorthands anchors

theorem Build.takes_blockSequence {fuel : Nat} {mark : Mark} {tokens left : List Token}
    {items : List Node} (takes : (blockItems fuel mark).Takes tokens items left)
    (indentless : Bool) :
    (node (fuel + 1) true indentless).Takes (⟨.blockSequenceStart, mark⟩ :: tokens)
      (.sequence (.bare mark) items) left := by
  intro failure shorthands anchors
  have built := takes.andThen (fun items => pure (Node.sequence (.bare mark) items))
    (takes_pure _ left)
  exact built failure shorthands anchors

/-- A node that is a sequence without an indentation of its own. -/
theorem Build.takes_indentless {fuel : Nat} {mark : Mark} {tokens left : List Token}
    {items : List Node}
    (takes : (indentlessItems fuel).Takes (⟨.blockEntry, mark⟩ :: tokens) items left)
    (block : Bool) :
    (node (fuel + 1) block true).Takes (⟨.blockEntry, mark⟩ :: tokens)
      (.sequence (.bare mark) items) left := by
  intro failure shorthands anchors
  have built := takes.andThen (fun items => pure (Node.sequence (.bare mark) items))
    (takes_pure _ left)
  exact built failure shorthands anchors

/-- A choice that falls on the first alternative. -/
theorem Build.Takes.chosen {α : Type} {build : Build α} {tokens left : List Token} {result : α}
    (takes : build.Takes tokens result left) {condition : Bool} (holds : condition = true)
    (other : Build α) :
    Build.Takes (if condition then build else other) tokens result left := by
  rw [if_pos holds]
  exact takes

/-- An item of a block sequence, before the others. -/
theorem Build.takes_blockItem {fuel : Nat} {start : Mark} (mark : Mark) {first : Token}
    {tokens middle left : List Token} {item : Node} {items : List Node}
    (begins : first.kind ∉ [.blockEntry, .blockEnd])
    (takes : (node fuel true false).Takes (first :: tokens) item middle)
    (goesOn : (blockItems fuel start).Takes middle items left) :
    (blockItems (fuel + 1) start).Takes (⟨.blockEntry, mark⟩ :: first :: tokens) (item :: items)
      left := by
  intro failure shorthands anchors
  have isFirst : (!decide (first.kind ∈ [.blockEntry, .blockEnd])) = true := by simpa using begins
  have others := goesOn.andThen (fun items => pure (item :: items)) (takes_pure _ left)
  have built := takes.andThen (fun item => do return item :: (← blockItems fuel start)) others
  have chosen :=
    built.chosen isFirst (do return .missing (mark.right 1) :: (← blockItems fuel start))
  exact chosen failure shorthands anchors

theorem Build.takes_blockItemsEnd (fuel : Nat) (start mark : Mark) (left : List Token) :
    (blockItems (fuel + 1) start).Takes (⟨.blockEnd, mark⟩ :: left) [] left :=
  fun _ _ _ => rfl

/-- An item of a sequence without an indentation of its own, before the others. -/
theorem Build.takes_indentlessItem {fuel : Nat} (mark : Mark) {first : Token}
    {tokens middle left : List Token} {item : Node} {items : List Node}
    (begins : first.kind ∉ [.blockEntry, .key, .value, .blockEnd])
    (takes : (node fuel true false).Takes (first :: tokens) item middle)
    (goesOn : (indentlessItems fuel).Takes middle items left) :
    (indentlessItems (fuel + 1)).Takes (⟨.blockEntry, mark⟩ :: first :: tokens) (item :: items)
      left := by
  intro failure shorthands anchors
  have isFirst : (!decide (first.kind ∈ [.blockEntry, .key, .value, .blockEnd])) = true := by
    simpa using begins
  have others := goesOn.andThen (fun items => pure (item :: items)) (takes_pure _ left)
  have built := takes.andThen (fun item => do return item :: (← indentlessItems fuel)) others
  have chosen :=
    built.chosen isFirst (do return .missing (mark.right 1) :: (← indentlessItems fuel))
  exact chosen failure shorthands anchors

/-- The end of such a sequence is any other token. -/
theorem Build.takes_indentlessItemsEnd (fuel : Nat) {next : Token} (ends : next.kind ≠ .blockEntry)
    (left : List Token) : (indentlessItems (fuel + 1)).Takes (next :: left) [] (next :: left) := by
  intro failure shorthands anchors
  obtain ⟨kind, mark⟩ := next
  cases kind with
  | blockEntry => exact absurd rfl ends
  | _ => rfl

/-- A key and its value, before the others. -/
theorem Build.takes_blockPair {fuel : Nat} {start : Mark} (mark keyMark valueMark : Mark)
    (key : String) {first : Token} {tokens middle left : List Token} {value : Node}
    {pairs : List (Node × Node)}
    (begins : first.kind ∉ [.key, .value, .blockEnd])
    (takes : (node fuel true true).Takes (first :: tokens) value middle)
    (goesOn : (blockPairs (fuel + 1) start).Takes middle pairs left) :
    (blockPairs (fuel + 2) start).Takes
      (⟨.key, mark⟩ :: ⟨.scalar .plain key, keyMark⟩ :: ⟨.value, valueMark⟩ :: first :: tokens)
      ((.scalar (.bare keyMark) .plain key, value) :: pairs) left := by
  intro failure shorthands anchors
  have isFirst : (!decide (first.kind ∈ [.key, .value, .blockEnd])) = true := by simpa using begins
  have others := goesOn.andThen
    (fun pairs => pure ((.scalar (.bare keyMark) .plain key, value) :: pairs))
    (takes_pure _ left)
  have chosen := takes.chosen isFirst (pure (.missing (valueMark.right 1)))
  have built := chosen.andThen
    (fun value => do
      return (.scalar (.bare keyMark) .plain key, value) :: (← blockPairs (fuel + 1) start)) others
  exact built failure shorthands anchors

theorem Build.takes_blockPairsEnd (fuel : Nat) (start mark : Mark) (left : List Token) :
    (blockPairs (fuel + 1) start).Takes (⟨.blockEnd, mark⟩ :: left) [] left :=
  fun _ _ _ => rfl

/-! ## From tokens to nodes -/

/-- An outline without lines of its own. -/
theorem takes_inline {outline : Outline} {front : List Token} {fuel : Nat}
    (inline : outline.isInline = true) (kinds : front.map Token.kind = outline.inlineKinds)
    (enough : front.length + 1 ≤ fuel) (block indentless : Bool) (left : List Token) :
    ∃ node : Node, outline.Says node
      ∧ (Build.node fuel block indentless).Takes (front ++ left) node left := by
  have filled : 0 < front.length := by
    rw [← List.length_map (f := Token.kind), kinds]
    cases outline <;> simp [Outline.inlineKinds]
  obtain ⟨fuel, rfl⟩ : ∃ less : Nat, fuel = less + 2 := ⟨fuel - 2, by omega⟩
  have brackets {first last : TokenKind} (kinds : front.map Token.kind = [first, last]) :
      ∃ opens closes : Mark, front = [⟨first, opens⟩, ⟨last, closes⟩] := by
    obtain ⟨⟨_, opens⟩, others, rfl, rfl, second⟩ := List.map_eq_cons_iff.mp kinds
    obtain ⟨⟨_, closes⟩, nothing, rfl, rfl, ending⟩ := List.map_eq_cons_iff.mp second
    rw [List.map_eq_nil_iff] at ending
    subst ending
    exact ⟨opens, closes, rfl⟩
  cases outline with
  | scalar style text =>
      obtain ⟨⟨kind, mark⟩, others, rfl, same, none⟩ := List.map_eq_cons_iff.mp kinds
      rw [List.map_eq_nil_iff] at none
      subst none same
      exact ⟨_, ⟨mark, rfl⟩, Build.takes_scalar (fuel + 1) block indentless mark style text left⟩
  | sequence items =>
      cases items with
      | cons item items => cases inline
      | nil =>
          obtain ⟨opens, closes, rfl⟩ := brackets kinds
          exact ⟨_, ⟨opens, [], rfl, rfl⟩,
            Build.takes_emptySequence fuel block indentless opens closes left⟩
  | mapping fields =>
      cases fields with
      | cons field fields => cases inline
      | nil =>
          obtain ⟨opens, closes, rfl⟩ := brackets kinds
          exact ⟨_, ⟨opens, [], rfl, rfl⟩,
            Build.takes_emptyMapping fuel block indentless opens closes left⟩

theorem hyphenKinds_begins (outline : Outline) :
    ∃ (first : TokenKind) (others : List TokenKind), outline.hyphenKinds = first :: others
      ∧ first ∉ [.blockEntry, .key, .value, .blockEnd] := by
  cases outline with
  | scalar style text => exact ⟨_, _, rfl, by simp⟩
  | sequence items =>
      cases items with
      | nil => exact ⟨_, _, rfl, by simp⟩
      | cons item items => exact ⟨_, _, rfl, by simp⟩
  | mapping fields =>
      cases fields with
      | nil => exact ⟨_, _, rfl, by simp⟩
      | cons field fields => exact ⟨_, _, rfl, by simp⟩

theorem keyKinds_begins (outline : Outline) :
    ∃ (first : TokenKind) (others : List TokenKind), outline.keyKinds = first :: others
      ∧ first ∉ [.key, .value, .blockEnd] := by
  cases outline with
  | scalar style text => exact ⟨_, _, rfl, by simp⟩
  | sequence items =>
      cases items with
      | nil => exact ⟨_, _, rfl, by simp⟩
      | cons item items => exact ⟨_, _, rfl, by simp⟩
  | mapping fields =>
      cases fields with
      | nil => exact ⟨_, _, rfl, by simp⟩
      | cons field fields => exact ⟨_, _, rfl, by simp⟩

/-- Tokens between the beginning and the end of a collection. -/
theorem between_of_kinds {first last : TokenKind} {kinds : List TokenKind} {front : List Token}
    (same : front.map Token.kind = first :: (kinds ++ [last])) :
    ∃ (opens closes : Mark) (inner : List Token),
      front = ⟨first, opens⟩ :: (inner ++ [⟨last, closes⟩]) ∧ inner.map Token.kind = kinds := by
  obtain ⟨⟨_, opens⟩, others, rfl, rfl, rest⟩ := List.map_eq_cons_iff.mp same
  obtain ⟨inner, single, rfl, inside, ending⟩ := List.map_eq_append_iff.mp rest
  obtain ⟨⟨_, closes⟩, nothing, rfl, rfl, noMore⟩ := List.map_eq_cons_iff.mp ending
  rw [List.map_eq_nil_iff] at noMore
  subst noMore
  exact ⟨opens, closes, inner, rfl, inside⟩

mutual

/-- The tokens behind a hyphen are built into a node that says the item. -/
theorem takes_item : ∀ (item : Outline) (front left : List Token) (fuel : Nat),
    front.map Token.kind = item.hyphenKinds → front.length + 1 ≤ fuel →
    ∃ node : Node, item.Says node ∧ (Build.node fuel true false).Takes (front ++ left) node left
  | .scalar style text, front, left, fuel, kinds, enough =>
      takes_inline rfl kinds enough true false left
  | .sequence [], front, left, fuel, kinds, enough => takes_inline rfl kinds enough true false left
  | .mapping [], front, left, fuel, kinds, enough => takes_inline rfl kinds enough true false left
  | .sequence (item :: items), front, left, fuel + 1, kinds, enough => by
      obtain ⟨opens, closes, inner, rfl, inside⟩ := between_of_kinds kinds
      simp only [List.length_cons, List.length_append, List.length_nil] at enough
      obtain ⟨nodes, said, takes⟩ := takes_items (item :: items) inner left fuel opens closes inside
        (by omega)
      refine ⟨_, ⟨opens, nodes, rfl, said⟩, ?_⟩
      rw [List.cons_append, List.append_assoc]
      exact Build.takes_blockSequence takes false
  | .mapping (field :: fields), front, left, fuel + 1, kinds, enough => by
      obtain ⟨opens, closes, inner, rfl, inside⟩ := between_of_kinds kinds
      simp only [List.length_cons, List.length_append, List.length_nil] at enough
      obtain ⟨pairs, said, takes⟩ :=
        takes_fields (field :: fields) inner left fuel opens closes inside
        (by omega)
      refine ⟨_, ⟨opens, pairs, rfl, said⟩, ?_⟩
      rw [List.cons_append, List.append_assoc]
      exact Build.takes_blockMapping takes false

/-- The tokens behind a colon are built into a node that says the outline. -/
theorem takes_value : ∀ (outline : Outline) (front : List Token) (next : Token) (left : List Token)
    (fuel : Nat), front.map Token.kind = outline.keyKinds → next.kind ≠ .blockEntry →
    front.length + 2 ≤ fuel →
    ∃ node : Node, outline.Says node
      ∧ (Build.node fuel true true).Takes (front ++ next :: left) node (next :: left)
  | .scalar style text, front, next, left, fuel, kinds, _, enough =>
      takes_inline rfl kinds (Nat.le_of_succ_le enough) true true (next :: left)
  | .sequence [], front, next, left, fuel, kinds, _, enough =>
      takes_inline rfl kinds (Nat.le_of_succ_le enough) true true (next :: left)
  | .mapping [], front, next, left, fuel, kinds, _, enough =>
      takes_inline rfl kinds (Nat.le_of_succ_le enough) true true (next :: left)
  | .sequence (item :: items), front, next, left, fuel + 1, kinds, ends, enough => by
      obtain ⟨nodes, said, takes⟩ :=
        takes_indentlessItems (item :: items) front next left fuel kinds
        ends (by omega)
      obtain ⟨⟨_, mark⟩, others, rfl, rfl, _⟩ := List.map_eq_cons_iff.mp kinds
      exact ⟨_, ⟨mark, nodes, rfl, said⟩, Build.takes_indentless takes true⟩
  | .mapping (field :: fields), front, next, left, fuel + 1, kinds, ends, enough => by
      obtain ⟨opens, closes, inner, rfl, inside⟩ := between_of_kinds kinds
      simp only [List.length_cons, List.length_append, List.length_nil] at enough
      obtain ⟨pairs, said, takes⟩ := takes_fields (field :: fields) inner (next :: left) fuel opens
        closes inside (by omega)
      refine ⟨_, ⟨opens, pairs, rfl, said⟩, ?_⟩
      rw [List.cons_append, List.append_assoc]
      exact Build.takes_blockMapping takes true

/-- The items of a sequence, up to its end. -/
theorem takes_items : ∀ (items : List Outline) (front left : List Token) (fuel : Nat)
    (start closes : Mark), front.map Token.kind = Outline.itemsKinds items →
    front.length + 1 ≤ fuel →
    ∃ nodes : List Node, Outline.SayItems items nodes
      ∧ (Build.blockItems fuel start).Takes (front ++ ⟨.blockEnd, closes⟩ :: left) nodes left
  | [], front, left, fuel + 1, start, closes, kinds, _ => by
      cases List.map_eq_nil_iff.mp kinds
      exact ⟨[], rfl, Build.takes_blockItemsEnd fuel start closes left⟩
  | item :: items, front, left, fuel + 1, start, closes, kinds, enough => by
      obtain ⟨⟨_, mark⟩, others, rfl, rfl, rest⟩ := List.map_eq_cons_iff.mp kinds
      obtain ⟨first, behind, rfl, ofItem, ofItems⟩ := List.map_eq_append_iff.mp rest
      simp only [List.length_cons, List.length_append] at enough
      obtain ⟨node, said, takes⟩ :=
        takes_item item first (behind ++ ⟨.blockEnd, closes⟩ :: left) fuel
        ofItem (by omega)
      obtain ⟨nodes, saidOthers, goesOn⟩ := takes_items items behind left fuel start closes ofItems
        (by omega)
      obtain ⟨kind, kinds, starts, begins⟩ := hyphenKinds_begins item
      rw [starts] at ofItem
      obtain ⟨token, tokens, rfl, rfl, _⟩ := List.map_eq_cons_iff.mp ofItem
      refine ⟨node :: nodes, ⟨node, nodes, rfl, said, saidOthers⟩, ?_⟩
      have built := Build.takes_blockItem mark (fun member => begins (by
        simp only [List.mem_cons, List.not_mem_nil, or_false] at member ⊢
        rcases member with same | same
        · exact .inl same
        · exact .inr (.inr (.inr same)))) takes goesOn
      simpa using built

/-- The items of a sequence without an indentation of its own, up to the next token. -/
theorem takes_indentlessItems : ∀ (items : List Outline) (front : List Token) (next : Token)
    (left : List Token) (fuel : Nat), front.map Token.kind = Outline.itemsKinds items →
    next.kind ≠ .blockEntry → front.length + 1 ≤ fuel →
    ∃ nodes : List Node, Outline.SayItems items nodes
      ∧ (Build.indentlessItems fuel).Takes (front ++ next :: left) nodes (next :: left)
  | [], front, next, left, fuel + 1, kinds, ends, _ => by
      cases List.map_eq_nil_iff.mp kinds
      exact ⟨[], rfl, Build.takes_indentlessItemsEnd fuel ends left⟩
  | item :: items, front, next, left, fuel + 1, kinds, ends, enough => by
      obtain ⟨⟨_, mark⟩, others, rfl, rfl, rest⟩ := List.map_eq_cons_iff.mp kinds
      obtain ⟨first, behind, rfl, ofItem, ofItems⟩ := List.map_eq_append_iff.mp rest
      simp only [List.length_cons, List.length_append] at enough
      obtain ⟨node, said, takes⟩ :=
        takes_item item first (behind ++ next :: left) fuel ofItem (by omega)
      obtain ⟨nodes, saidOthers, goesOn⟩ :=
        takes_indentlessItems items behind next left fuel ofItems
        ends (by omega)
      obtain ⟨kind, kinds, starts, begins⟩ := hyphenKinds_begins item
      rw [starts] at ofItem
      obtain ⟨token, tokens, rfl, rfl, _⟩ := List.map_eq_cons_iff.mp ofItem
      refine ⟨node :: nodes, ⟨node, nodes, rfl, said, saidOthers⟩, ?_⟩
      have built := Build.takes_indentlessItem mark begins takes goesOn
      simpa using built

/-- The members of a mapping, up to its end. -/
theorem takes_fields : ∀ (fields : List (String × Outline)) (front left : List Token) (fuel : Nat)
    (start closes : Mark), front.map Token.kind = Outline.fieldsKinds fields →
    front.length + 1 ≤ fuel →
    ∃ pairs : List (Node × Node), Outline.SayFields fields pairs
      ∧ (Build.blockPairs fuel start).Takes (front ++ ⟨.blockEnd, closes⟩ :: left) pairs left
  | [], front, left, fuel + 1, start, closes, kinds, _ => by
      cases List.map_eq_nil_iff.mp kinds
      exact ⟨[], rfl, Build.takes_blockPairsEnd fuel start closes left⟩
  | (key, outline) :: fields, front, left, fuel, start, closes, kinds, enough => by
      obtain ⟨⟨_, mark⟩, _, rfl, rfl, atKey⟩ := List.map_eq_cons_iff.mp kinds
      obtain ⟨⟨_, keyMark⟩, _, rfl, rfl, atColon⟩ := List.map_eq_cons_iff.mp atKey
      obtain ⟨⟨_, valueMark⟩, _, rfl, rfl, rest⟩ := List.map_eq_cons_iff.mp atColon
      obtain ⟨first, behind, rfl, ofValue, ofFields⟩ := List.map_eq_append_iff.mp rest
      simp only [List.length_cons, List.length_append] at enough
      obtain ⟨fuel, rfl⟩ : ∃ less : Nat, fuel = less + 2 := ⟨fuel - 2, by omega⟩
      -- Neither the next member nor the end of the mapping is an item of the value.
      obtain ⟨next, others, split, ends⟩ : ∃ (next : Token) (others : List Token),
          behind ++ ⟨.blockEnd, closes⟩ :: left = next :: others ∧ next.kind ≠ .blockEntry := by
        cases fields with
        | nil =>
            cases List.map_eq_nil_iff.mp ofFields
            exact ⟨_, _, rfl, by simp⟩
        | cons field fields =>
            obtain ⟨⟨_, mark⟩, tokens, rfl, rfl, _⟩ := List.map_eq_cons_iff.mp ofFields
            exact ⟨_, _, rfl, by simp⟩
      obtain ⟨node, said, takes⟩ :=
        takes_value outline first next others fuel ofValue ends (by omega)
      obtain ⟨pairs, saidOthers, goesOn⟩ := takes_fields fields behind left (fuel + 1) start closes
        ofFields (by omega)
      obtain ⟨kind, kinds, starts, begins⟩ := keyKinds_begins outline
      rw [starts] at ofValue
      obtain ⟨token, tokens, rfl, rfl, _⟩ := List.map_eq_cons_iff.mp ofValue
      refine ⟨_, ⟨keyMark, node, pairs, rfl, said, saidOthers⟩, ?_⟩
      rw [← split] at takes
      have built := Build.takes_blockPair mark keyMark valueMark key begins takes goesOn
      simpa using built

end

/-! ## Documents -/

/-- What is left of a document whose node is built. -/
def Build.finish (root : Node) : Build (Option Document) := do
  if (← peek).kind = .documentEnd then skip
  return some ⟨some root⟩

theorem Build.takes_finish (root : Node) {next : Token} {left : List Token}
    (ends : next.kind ≠ .documentEnd) :
    (finish root).Takes (next :: left) (some ⟨some root⟩) (next :: left) := by
  intro failure shorthands anchors
  obtain ⟨kind, mark⟩ := next
  cases kind with
  | documentEnd => exact absurd rfl ends
  | _ => rfl

/-- The first document of a stream, without markers and directives. -/
theorem Build.document_first {fuel : Nat} {mark : Mark} {tokens left : List Token} {root : Node}
    {next : Token} (ends : next.kind ≠ .documentEnd)
    (takes : (node (fuel + 1) true false).Takes (⟨.blockMappingStart, mark⟩ :: tokens) root
      (next :: left))
    (failure : Option Error) (shorthands : List (String × Tag)) (anchors : List (String × Nat)) :
    (document (fuel + 1) true).run ⟨⟨.blockMappingStart, mark⟩ :: tokens, failure,
      shorthands, anchors⟩ =
      .ok (some ⟨some root⟩, ⟨next :: left, failure, standardShorthands, []⟩) := by
  have built := takes.andThen finish (takes_finish root ends)
  have isStart : (true && decide (Token.mk .blockMappingStart mark = ⟨.blockMappingStart, mark⟩)) =
      true := by simp
  have chosen := built.chosen isStart (throw ⟨"did not find expected <document start>", mark, none⟩)
  exact chosen failure standardShorthands []

/-- A later document of a stream, with a marker before it. -/
theorem Build.document_later {fuel : Nat} {marker mark : Mark} {tokens left : List Token}
    {root : Node} {next : Token} (ends : next.kind ≠ .documentEnd)
    (takes : (node (fuel + 1) true false).Takes (⟨.blockMappingStart, mark⟩ :: tokens) root
      (next :: left))
    (failure : Option Error) (shorthands : List (String × Tag)) (anchors : List (String × Nat)) :
    (document (fuel + 1) false).run
        ⟨⟨.documentStart, marker⟩ :: ⟨.blockMappingStart, mark⟩ :: tokens, failure,
          shorthands, anchors⟩ =
      .ok (some ⟨some root⟩, ⟨next :: left, failure, standardShorthands, []⟩) := by
  have built := takes.andThen finish (takes_finish root ends)
  exact built failure standardShorthands []

/-- What follows a document in a stream is not a marker that only ends it. -/
theorem laterKinds_begins (documents : List (List (String × Outline))) :
    ∃ (first : TokenKind) (others : List TokenKind), Outline.laterKinds documents = first :: others
      ∧ first ≠ .documentEnd := by
  cases documents with
  | nil => exact ⟨_, _, rfl, by simp⟩
  | cons fields documents => exact ⟨_, _, rfl, by simp⟩

/-- The tokens of a document are built into a node that says it. -/
theorem takes_document {fields : List (String × Outline)} {tokens : List Token}
    {kinds : List TokenKind} (fuel : Nat) (legible : Outline.isDocument fields = true)
    (same : tokens.map Token.kind =
      .blockMappingStart :: (Outline.fieldsKinds fields ++ .blockEnd :: kinds))
    (enough : tokens.length + 1 ≤ fuel) :
    ∃ (mark : Mark) (inner left : List Token) (root : Node),
      tokens = ⟨.blockMappingStart, mark⟩ :: inner ∧ left.map Token.kind = kinds
        ∧ left.length < tokens.length ∧ (Outline.mapping fields).Says root
        ∧ (Build.node fuel true false).Takes tokens root left := by
  have split : (.blockMappingStart :: (Outline.fieldsKinds fields ++ .blockEnd :: kinds) :
      List TokenKind) = .blockMappingStart ::
      (Outline.fieldsKinds fields ++ [.blockEnd]) ++ kinds := by
    simp
  rw [split] at same
  obtain ⟨front, left, rfl, ofDocument, ofLeft⟩ := List.map_eq_append_iff.mp same
  rw [List.length_append] at enough
  obtain ⟨root, said, takes⟩ : ∃ root : Node, (Outline.mapping fields).Says root
      ∧ (Build.node fuel true false).Takes (front ++ left) root left := by
    cases fields with
    | nil => cases legible
    | cons field fields =>
        exact takes_item (.mapping (field :: fields)) front left fuel ofDocument (by omega)
  obtain ⟨⟨_, mark⟩, inner, rfl, rfl, _⟩ := List.map_eq_cons_iff.mp ofDocument
  refine ⟨mark, inner ++ left, left, root, rfl, ofLeft, ?_, said, takes⟩
  simp only [List.cons_append, List.length_cons, List.length_append]
  omega

theorem documentsFrom_succ {fuel : Nat} {first : Bool} {builder after : Builder}
    {document : Document} (count : Nat)
    (built : (Build.document fuel first).run builder = .ok (some document, after)) :
    documentsFrom fuel (count + 1) first builder =
      (document :: (documentsFrom fuel count false after).1,
        (documentsFrom fuel count false after).2) := by
  rw [documentsFrom, built]

theorem documentsFrom_later : ∀ (documents : List (List (String × Outline))) (tokens : List Token)
    (fuel count : Nat) (failure : Option Error) (shorthands : List (String × Tag)),
    (∀ fields ∈ documents, Outline.isDocument fields = true) →
    tokens.map Token.kind = Outline.laterKinds documents → tokens.length ≤ fuel →
    tokens.length < count →
    ∃ roots : List Node, List.Forall₂ (fun fields root => (Outline.mapping fields).Says root)
      documents roots
      ∧ documentsFrom (fuel + 1) count false ⟨tokens, failure, shorthands, []⟩ =
        (roots.map fun root => ⟨some root⟩, none)
  | [], tokens, fuel, count + 1, failure, shorthands, _, kinds, _, _ => by
      obtain ⟨⟨_, mark⟩, others, rfl, rfl, _⟩ := List.map_eq_cons_iff.mp kinds
      exact ⟨[], .nil, rfl⟩
  | fields :: documents, tokens, fuel, count + 1, failure, shorthands, legible, kinds, enough,
  counted => by
      rw [List.forall_mem_cons] at legible
      obtain ⟨⟨_, marker⟩, others, rfl, rfl, rest⟩ := List.map_eq_cons_iff.mp kinds
      simp only [List.length_cons] at enough counted
      obtain ⟨mark, inner, left, root, rfl, ofLeft, shorter, said, takes⟩ :=
        takes_document (fuel + 1) legible.1 rest (by omega)
      obtain ⟨first, more, starts, ends⟩ := laterKinds_begins documents
      obtain ⟨roots, saidLater, built⟩ := documentsFrom_later documents left fuel count failure
        Build.standardShorthands legible.2 ofLeft (by omega) (by omega)
      rw [starts] at ofLeft
      obtain ⟨next, behind, rfl, rfl, _⟩ := List.map_eq_cons_iff.mp ofLeft
      refine ⟨root :: roots, .cons said saidLater, ?_⟩
      rw [documentsFrom_succ count (Build.document_later ends takes _ _ _), built]
      rfl

/-- The documents of a text have nodes that say the outlines that it is written
in. -/
theorem documents_stream {text : String} {fields : List (String × Outline)}
    {documents : List (List (String × Outline))}
    (written : text.toList = Outline.fieldLines 0 fields ++ Outline.laterLines documents)
    (first : Outline.isDocument fields = true)
    (later : ∀ fields ∈ documents, Outline.isDocument fields = true) :
    ∃ roots : List Node,
      List.Forall₂ (fun fields root => (Outline.mapping fields).Says root)
      (fields :: documents) roots
        ∧ Yaml.documents text = (roots.map fun root => ⟨some root⟩, none) := by
  obtain ⟨tokens, cut, kinds⟩ := tokens_stream written first later
  obtain ⟨mark, inner, left, root, rfl, ofLeft, shorter, said, takes⟩ :=
    takes_document (4 * tokens.length + 3 + 1) first kinds (by omega)
  obtain ⟨roots, saidLater, built⟩ := documentsFrom_later documents left
    (4 * (Token.mk .blockMappingStart mark :: inner).length + 3)
    ((Token.mk .blockMappingStart mark :: inner).length + 1) none Build.standardShorthands
    later ofLeft
    (by omega) (by omega)
  obtain ⟨_, _, starts, ends⟩ := laterKinds_begins documents
  rw [starts] at ofLeft
  obtain ⟨next, behind, rfl, rfl, _⟩ := List.map_eq_cons_iff.mp ofLeft
  refine ⟨root :: roots, .cons said saidLater, ?_⟩
  have all := documentsFrom_succ ((Token.mk .blockMappingStart mark :: inner).length + 1)
    (Build.document_first ends takes none [] [])
  rw [built] at all
  rw [Yaml.documents, cut]
  exact all

end PoolOperator.Yaml
