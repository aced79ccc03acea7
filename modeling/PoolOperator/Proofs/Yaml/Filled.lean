import Mathlib.Data.List.Forall2
import PoolOperator.Proofs.Template
import PoolOperator.Proofs.Yaml.Valued

/-!
# Outlines of templates

In the template of a document, plain texts may be placeholders.  Filling the
template as a text, without a look at what it says, gives the document whose
outline has the values in their place (`fill_stream`).  What the values mean in
the document is left open: a value that may be written plain can still stand for
something else than a text.  If each stands for something, so does the document
(`exists_value_fill`).
-/

namespace PoolOperator.Yaml

/-- Each of some keys is a word, and has a value that may be written plain. -/
def Supplies (values : TemplateValues) (keys : List String) : Prop :=
  ∀ key ∈ keys, key.toList.all Text.isWord = true ∧ key.toList ≠ [] ∧
    ∃ value : String, values.find? key = some value ∧ Style.plain.carries value = true

/-- Each of some keys has a value that stands for something. -/
def Readable (values : TemplateValues) (keys : List String) : Prop :=
  ∀ key ∈ keys, ∃ (text : String) (value : Value), values.find? key = some text
    ∧ plainValue text = .ok value

namespace Outline

/-- May a plain text stand in a template?  It is the placeholder of a known key,
or it has no braces and can be read. -/
def isTemplateText (keys : List String) (text : String) : Bool :=
  decide (text ∈ keys.map Template.placeholder)
    || (decide ('\x7b' ∉ text.toList) && Style.plain.carries text && (plainValue text).isOk)

mutual

/-- Is this the outline of a template with placeholders of known keys? -/
def isTemplate (keys : List String) : Outline → Bool
  | .scalar .plain text => isTemplateText keys text
  | .scalar .doubleQuoted text => decide ('\x7b' ∉ Style.doubleQuoted.written 0 text)
  | .scalar _ _ => false
  | .sequence items => areTemplates keys items
  | .mapping fields => !fields.isEmpty && fieldsTemplates keys fields

/-- `isTemplate` of all items. -/
def areTemplates (keys : List String) : List Outline → Bool
  | [] => true
  | item :: items => isTemplate keys item && areTemplates keys items

/-- `isTemplate` of all members, whose keys have no braces. -/
def fieldsTemplates (keys : List String) : List (String × Outline) → Bool
  | [] => true
  | (key, outline) :: fields =>
      isShortKey key && decide ('\x7b' ∉ key.toList) && isTemplate keys outline &&
        fieldsTemplates keys fields

end

mutual

/-- The outline with the values in the place of plain placeholders. -/
def fill (values : TemplateValues) : Outline → Outline
  | .scalar .plain text => .scalar .plain (Template.fillText values text)
  | .scalar style text => .scalar style text
  | .sequence items => .sequence (fillItems values items)
  | .mapping fields => .mapping (fillFields values fields)

/-- `fill` in all items. -/
def fillItems (values : TemplateValues) : List Outline → List Outline
  | [] => []
  | item :: items => fill values item :: fillItems values items

/-- `fill` in all members. -/
def fillFields (values : TemplateValues) : List (String × Outline) → List (String × Outline)
  | [] => []
  | (key, outline) :: fields => (key, fill values outline) :: fillFields values fields

end

end Outline

section

variable {values : TemplateValues} {keys : List String}

/-! ## Texts -/

theorem scalarLine_plain {text : String} (carries : Style.plain.carries text = true) :
    scalarLine text.toList = text.toList ++ ['\n'] := by
  obtain ⟨filled, allowed⟩ := Style.carries_plain_iff.mp carries
  exact scalarLine_inLine (List.getLast?_eq_some_getLast filled)
    ((plainLine_of_allowsPlain allowed).inLine _ (List.getLast_mem filled)).2

/-- A plain text, with the end of its line, and what becomes of it. -/
theorem fills_text (supplies : Supplies values keys) {text : String}
    (template : Outline.isTemplateText keys text = true) :
    Style.plain.carries (Template.fillText values text) = true
      ∧ Template.Fills values (scalarLine text.toList)
      (scalarLine (Template.fillText values text).toList) := by
  have newline : Template.Fills values ['\n'] ['\n'] := Template.fills_self (by decide)
  simp only [Outline.isTemplateText, Bool.or_eq_true, Bool.and_eq_true, decide_eq_true_eq,
    List.mem_map] at template
  rcases template with ⟨key, known, rfl⟩ | ⟨⟨noBrace, carries⟩, -⟩
  · obtain ⟨word, filled, value, there, carries⟩ := supplies key known
    have line : scalarLine (Template.placeholder key).toList = (Template.placeholder key).toList ++
      ['\n'] := by
      have split : (Template.placeholder key).toList = ("\x7b\x7b." ++ key ++ "\x7d").toList ++
        ['\x7d'] := by
        simp [Template.placeholder]
      rw [split]
      exact scalarLine_inLine List.getLast?_concat (by decide)
    rw [Template.fillText_placeholder there, line, scalarLine_plain carries]
    exact ⟨carries, (Template.fills_placeholder word filled there).append newline⟩
  · rw [Template.fillText_self noBrace, scalarLine_plain carries]
    exact ⟨carries, (Template.fills_self noBrace).append newline⟩

theorem fills_spaces (count : Nat) : Template.Fills values (spaces count) (spaces count) :=
  Template.fills_self (by simp [spaces])

/-! ## Outlines -/

mutual

theorem isLegible_fill (supplies : Supplies values keys) : ∀ outline : Outline,
    outline.isTemplate keys = true → (outline.fill values).isLegible = true
  | .scalar .plain _, template => (fills_text supplies template).1
  | .scalar .doubleQuoted _, _ => rfl
  | .sequence items, template => areLegible_fillItems supplies items template
  | .mapping fields, template => by
      rw [Outline.isTemplate, Bool.and_eq_true] at template
      exact fieldsLegible_fillFields supplies fields template.2

theorem areLegible_fillItems (supplies : Supplies values keys) : ∀ items : List Outline,
    Outline.areTemplates keys items = true →
      Outline.areLegible (Outline.fillItems values items) = true
  | [], _ => rfl
  | item :: items, template => by
      rw [Outline.areTemplates, Bool.and_eq_true] at template
      rw [Outline.fillItems, Outline.areLegible, isLegible_fill supplies item template.1,
        areLegible_fillItems supplies items template.2, Bool.and_self]

theorem fieldsLegible_fillFields (supplies : Supplies values keys) :
    ∀ fields : List (String × Outline),
    Outline.fieldsTemplates keys fields = true →
    Outline.fieldsLegible (Outline.fillFields values fields) = true
  | [], _ => rfl
  | (key, outline) :: fields, template => by
      simp only [Outline.fieldsTemplates, Bool.and_eq_true] at template
      rw [Outline.fillFields, Outline.fieldsLegible, template.1.1.1,
        isLegible_fill supplies outline template.1.2,
        fieldsLegible_fillFields supplies fields template.2, Bool.and_self, Bool.and_self]

end

/-- An outline without lines of its own, with the end of its line. -/
theorem fills_inline (supplies : Supplies values keys) {outline : Outline}
    (inline : outline.isInline = true) (template : outline.isTemplate keys = true) (column : Nat) :
    Template.Fills values (' ' :: scalarLine (outline.inlineText (column + 2)))
      (' ' :: scalarLine ((outline.fill values).inlineText (column + 2))) := by
  have blank : Template.Fills values [' '] [' '] := Template.fills_self (by decide)
  refine blank.append ?_
  cases outline with
  | scalar style text =>
      cases style with
      | plain => exact (fills_text supplies template).2
      | doubleQuoted =>
          -- The text in the quotes does not depend on the column.
          have ends : (Style.doubleQuoted.written 0 text).getLast? = some '\x22' :=
            List.getLast?_concat
          have line : scalarLine (Style.doubleQuoted.written 0 text) =
            Style.doubleQuoted.written 0 text ++ ['\n'] :=
            scalarLine_inLine ends (by decide)
          have quoted : Template.Fills values (scalarLine (Style.doubleQuoted.written 0 text))
              (scalarLine (Style.doubleQuoted.written 0 text)) := by
            rw [line]
            exact (Template.fills_self (of_decide_eq_true template)).append
              (Template.fills_self (by decide))
          exact quoted
      | singleQuoted => cases template
      | literal => cases template
      | folded => cases template
  | sequence items => exact Template.fills_self (by decide : '\x7b' ∉ ['[', ']', '\n'])
  | mapping fields =>
      rw [Outline.isTemplate, Bool.and_eq_true] at template
      cases fields with
      | nil => cases template.1
      | cons field fields => cases inline

mutual

theorem fills_afterHyphen (supplies : Supplies values keys) : ∀ (outline : Outline) (column : Nat),
    outline.isTemplate keys = true →
    Template.Fills values (outline.afterHyphen column) ((outline.fill values).afterHyphen column)
  | .scalar .plain _, column, template => fills_inline supplies rfl template column
  | .scalar .doubleQuoted _, column, template => fills_inline supplies rfl template column
  | .sequence [], column, template => fills_inline supplies rfl template column
  | .sequence (item :: items), column, template =>
      (Template.fills_self (by decide : '\x7b' ∉ [' '])).append
        (fills_itemLines supplies (item :: items) (column + 2) template)
  | .mapping (field :: fields), column, template =>
      (Template.fills_self (by decide : '\x7b' ∉ [' '])).append
        (fills_fieldLines supplies (field :: fields) (column + 2) template)

theorem fills_afterKey (supplies : Supplies values keys) : ∀ (outline : Outline) (column : Nat),
    outline.isTemplate keys = true →
    Template.Fills values (outline.afterKey column) ((outline.fill values).afterKey column)
  | .scalar .plain _, column, template => fills_inline supplies rfl template column
  | .scalar .doubleQuoted _, column, template => fills_inline supplies rfl template column
  | .sequence [], column, template => fills_inline supplies rfl template column
  | .sequence (item :: items), column, template =>
      ((Template.fills_self (by decide : '\x7b' ∉ ['\n'])).append (fills_spaces column)).append
        (fills_itemLines supplies (item :: items) column template)
  | .mapping (field :: fields), column, template =>
      ((Template.fills_self (by decide : '\x7b' ∉ ['\n'])).append
        (fills_spaces (column + 2))).append
        (fills_fieldLines supplies (field :: fields) (column + 2) template)

theorem fills_itemLines (supplies : Supplies values keys) : ∀ (items : List Outline) (column : Nat),
    Outline.areTemplates keys items = true →
    Template.Fills values (Outline.itemLines column items)
      (Outline.itemLines column (Outline.fillItems values items))
  | [], _, _ => .nil
  | [item], column, template => by
      rw [Outline.areTemplates, Bool.and_eq_true] at template
      exact (Template.fills_self (by decide : '\x7b' ∉ ['-'])).append
        (fills_afterHyphen supplies item column template.1)
  | item :: next :: items, column, template => by
      rw [Outline.areTemplates, Bool.and_eq_true] at template
      exact (((Template.fills_self (by decide : '\x7b' ∉ ['-'])).append
        (fills_afterHyphen supplies item column template.1)).append (fills_spaces column)).append
        (fills_itemLines supplies (next :: items) column template.2)

theorem fills_fieldLines (supplies : Supplies values keys) : ∀ (fields : List (String × Outline))
    (column : Nat), Outline.fieldsTemplates keys fields = true →
    Template.Fills values (Outline.fieldLines column fields)
      (Outline.fieldLines column (Outline.fillFields values fields))
  | [], _, _ => .nil
  | [(key, outline)], column, template => by
      simp only [Outline.fieldsTemplates, Bool.and_eq_true, decide_eq_true_eq] at template
      exact (Template.fills_self template.1.1.2).append
        ((Template.fills_self (by decide : '\x7b' ∉ [':'])).append
          (fills_afterKey supplies outline column template.1.2))
  | (key, outline) :: next :: fields, column, template => by
      rw [Outline.fieldsTemplates] at template
      simp only [Bool.and_eq_true, decide_eq_true_eq] at template
      exact (((Template.fills_self template.1.1.2).append
        ((Template.fills_self (by decide : '\x7b' ∉ [':'])).append
          (fills_afterKey supplies outline column template.1.2))).append
          (fills_spaces column)).append
        (fills_fieldLines supplies (next :: fields) column template.2)

end

/-! ## Values -/

theorem exists_plainValue_fillText (readable : Readable values keys) {text : String}
    (template : Outline.isTemplateText keys text = true) :
    ∃ value : Value, plainValue (Template.fillText values text) = .ok value := by
  simp only [Outline.isTemplateText, Bool.or_eq_true, Bool.and_eq_true, decide_eq_true_eq,
    List.mem_map] at template
  rcases template with ⟨key, known, rfl⟩ | ⟨⟨noBrace, -⟩, isRead⟩
  · obtain ⟨text, value, there, given⟩ := readable key known
    rw [Template.fillText_placeholder there]
    exact ⟨value, given⟩
  · rw [Template.fillText_self noBrace]
    cases given : plainValue text with
    | ok value => exact ⟨value, rfl⟩
    | error error =>
        rw [given] at isRead
        cases isRead

mutual

/-- A filled template can be read if the values of its keys can. -/
theorem exists_value_fill (readable : Readable values keys) : ∀ outline : Outline,
    outline.isTemplate keys = true → ∃ value : Value, (outline.fill values).value = .ok value
  | .scalar .plain text, template => exists_plainValue_fillText readable template
  | .scalar .doubleQuoted text, _ => ⟨.str text, rfl⟩
  | .sequence items, template => by
      obtain ⟨given, are⟩ := exists_itemValues_fill readable items template
      exact ⟨.arr given, by rw [Outline.fill, Outline.value, are]; rfl⟩
  | .mapping fields, template => by
      rw [Outline.isTemplate, Bool.and_eq_true] at template
      obtain ⟨given, are⟩ := exists_memberValues_fill readable fields template.2
      exact ⟨.obj (Fields.ofList given), by rw [Outline.fill, Outline.value, are]; rfl⟩

theorem exists_itemValues_fill (readable : Readable values keys) : ∀ items : List Outline,
    Outline.areTemplates keys items = true →
    ∃ given : List Value, Outline.itemValues (Outline.fillItems values items) = .ok given
  | [], _ => ⟨[], rfl⟩
  | item :: items, template => by
      rw [Outline.areTemplates, Bool.and_eq_true] at template
      obtain ⟨first, isFirst⟩ := exists_value_fill readable item template.1
      obtain ⟨others, areOthers⟩ := exists_itemValues_fill readable items template.2
      refine ⟨first :: others, ?_⟩
      rw [Outline.fillItems, Outline.itemValues, isFirst, areOthers]
      rfl

theorem exists_memberValues_fill (readable : Readable values keys) :
    ∀ fields : List (String × Outline),
    Outline.fieldsTemplates keys fields = true →
    ∃ given : List (String × Value),
      Outline.memberValues (Outline.fillFields values fields) = .ok given
  | [], _ => ⟨[], rfl⟩
  | (key, outline) :: fields, template => by
      simp only [Outline.fieldsTemplates, Bool.and_eq_true] at template
      obtain ⟨first, isFirst⟩ := exists_value_fill readable outline template.1.2
      obtain ⟨others, areOthers⟩ := exists_memberValues_fill readable fields template.2
      refine ⟨(key, first) :: others, ?_⟩
      rw [Outline.fillFields, Outline.memberValues, isFirst, areOthers]
      rfl

end

mutual

theorem height_fill (values : TemplateValues) : ∀ outline : Outline,
    (outline.fill values).height = outline.height
  | .scalar style _ => by cases style <;> rfl
  | .sequence items => congrArg (· + 1) (itemsHeight_fillItems values items)
  | .mapping fields => congrArg (· + 1) (fieldsHeight_fillFields values fields)

theorem itemsHeight_fillItems (values : TemplateValues) : ∀ items : List Outline,
    Outline.itemsHeight (Outline.fillItems values items) = Outline.itemsHeight items
  | [] => rfl
  | item :: items => by
      rw [Outline.fillItems, Outline.itemsHeight, Outline.itemsHeight, height_fill values item,
        itemsHeight_fillItems values items]

theorem fieldsHeight_fillFields (values : TemplateValues) : ∀ fields : List (String × Outline),
    Outline.fieldsHeight (Outline.fillFields values fields) = Outline.fieldsHeight fields
  | [] => rfl
  | (_, outline) :: fields => by
      rw [Outline.fillFields, Outline.fieldsHeight, Outline.fieldsHeight,
        height_fill values outline, fieldsHeight_fillFields values fields]

end

theorem find?_fillFields (values : TemplateValues) (fields : List (String × Outline))
    (key : String) :
    Fields.find? (Outline.fillFields values fields).reverse key =
      (Fields.find? fields.reverse key).map (Outline.fill values) := by
  induction fields with
  | nil => rfl
  | cons field fields induction =>
      obtain ⟨name, outline⟩ := field
      simp only [Outline.fillFields, List.reverse_cons, Fields.find?_append,
        Option.map_or, induction]
      by_cases same : name = key <;> simp [Fields.find?, same]

/-- What is at a path is filled with the outline around it. -/
theorem at?_fill (values : TemplateValues) : ∀ (path : Path) {outline inner : Outline},
    outline.at? path = some inner → (outline.fill values).at? path = some (inner.fill values)
  | [], _, _, there => by
      cases there
      rfl
  | key :: path, .mapping fields, inner, there => by
      obtain ⟨outline, found, there⟩ := Option.bind_eq_some_iff.mp there
      rw [Outline.fill, Outline.at?, find?_fillFields, found]
      exact at?_fill values path there

/-! ## Documents -/

theorem isDocument_fillFields (supplies : Supplies values keys) {fields : List (String × Outline)}
    (template : (Outline.mapping fields).isTemplate keys = true) :
    Outline.isDocument (Outline.fillFields values fields) = true := by
  have legible : Outline.fieldsLegible (Outline.fillFields values fields) = true :=
    isLegible_fill supplies (.mapping fields) template
  rw [Outline.isDocument, legible, Bool.and_true]
  cases fields with
  | nil => cases template
  | cons field fields => rfl

theorem fills_document (supplies : Supplies values keys) {fields : List (String × Outline)}
    (template : (Outline.mapping fields).isTemplate keys = true) :
    Template.Fills values (Outline.fieldLines 0 fields)
      (Outline.fieldLines 0 (Outline.fillFields values fields)) := by
  rw [Outline.isTemplate, Bool.and_eq_true] at template
  exact fills_fieldLines supplies fields 0 template.2

theorem fills_laterLines (supplies : Supplies values keys) :
    ∀ documents : List (List (String × Outline)),
      (∀ fields ∈ documents, (Outline.mapping fields).isTemplate keys = true) →
      Template.Fills values (Outline.laterLines documents)
        (Outline.laterLines (documents.map (Outline.fillFields values)))
  | [], _ => .nil
  | fields :: documents, template => by
      rw [List.forall_mem_cons] at template
      exact (Template.fills_self (by decide : '\x7b' ∉ ['-', '-', '-', '\n'])).append
        ((fills_document supplies template.1).append
          (fills_laterLines supplies documents template.2))

/-- The template of some documents is filled to a text whose documents have the
outlines with the values in the place of the placeholders. -/
theorem fill_stream (supplies : Supplies values keys) {template : String}
    {fields : List (String × Outline)} {documents : List (List (String × Outline))}
    (written : template.toList = Outline.fieldLines 0 fields ++ Outline.laterLines documents)
    (templates : ∀ document ∈ fields :: documents,
      (Outline.mapping document).isTemplate keys = true) :
    ∃ (text : String) (roots : List Node), Template.fill template values = .ok text
      ∧ Yaml.documents text = (roots.map fun root => ⟨some root⟩, none)
      ∧ List.Forall₂ (fun document root => ((Outline.mapping document).fill values).Says root)
        (fields :: documents) roots := by
  obtain ⟨first, later⟩ := List.forall_mem_cons.mp templates
  have fills := (fills_document supplies first).append (fills_laterLines supplies documents later)
  rw [← written] at fills
  have legible : ∀ document ∈ documents.map (Outline.fillFields values),
      Outline.isDocument document = true := by
    rw [List.forall_mem_map]
    exact fun document member => isDocument_fillFields supplies (later document member)
  obtain ⟨roots, said, read⟩ :=
    documents_stream String.toList_ofList (isDocument_fillFields supplies first) legible
  rw [← List.map_cons, List.forall₂_map_left_iff] at said
  exact ⟨_, roots, Template.fill_eq fills, read, said⟩

end

end PoolOperator.Yaml
