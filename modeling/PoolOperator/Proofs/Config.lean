import Mathlib.Data.List.Induction
import Mathlib.Data.Nat.Digits.Defs
import PoolOperator.Config
import PoolOperator.Proofs.Fields

/-!
# Settings from the environment

Every setting has environment variables of its own, and a standard value.  A number is
read from a decimal numeral that stands for a number of its type, and from nothing else
(`number?_eq_some_iff`).  A text is taken as it is from the first of its variables that is
set and not empty (`firstText_eq`, `firstText_of_unset`).

`fromEnvironment_ofEnvironment` says so of all settings at once, for every environment:
each of them is read, whatever the variables hold, and no variable of one setting matters
to another one.  So it is enough to know the listed variables (`ofEnvironment_listed`).
-/

namespace PoolOperator.Config

/-! ## Numerals -/

/-- The number that a digit stands for. -/
def digitValue (digit : Char) : Nat := digit.toNat - '0'.toNat

/-- Is a text a decimal numeral of a number: digits, perhaps after one plus sign? -/
inductive IsNumeral : String → Nat → Prop
  /-- The first digits count most, and zeros may stand before them. -/
  | intro {text : String} {sign digits : List Char} (split : text.toList = sign ++ digits)
      (signed : sign = [] ∨ sign = ['+']) (notEmpty : digits ≠ [])
      (decimal : ∀ digit ∈ digits, '0' ≤ digit ∧ digit ≤ '9') :
      IsNumeral text (Nat.ofDigits 10 (digits.reverse.map digitValue))

theorem isDigit_iff {char : Char} : char.isDigit = true ↔ '0' ≤ char ∧ char ≤ '9' := by
  simp [Char.isDigit, Char.le_def]

theorem digitsToNat_eq (digits : List Char) :
    Value.digitsToNat digits = Nat.ofDigits 10 (digits.reverse.map digitValue) := by
  induction digits using List.reverseRecOn with
  | nil => rfl
  | append_singleton digits digit induction =>
      have step : Value.digitsToNat (digits ++ [digit]) =
          Value.digitsToNat digits * 10 + digitValue digit := by
        rw [Value.digitsToNat, List.foldl_append]
        rfl
      rw [step, induction, List.reverse_append, List.reverse_singleton, List.singleton_append,
        List.map_cons, Nat.ofDigits_cons, Nat.mul_comm, Nat.add_comm]

/-- What is read from digits, once a sign before them is gone. -/
theorem number?_of_split (limit : Nat) {text : String} {sign digits : List Char}
    (split : text.toList = sign ++ digits)
    (signed : sign = [] ∧ digits.head? ≠ some '+' ∨ sign = ['+']) :
    number? limit text =
      if digits.isEmpty || !digits.all Char.isDigit then none
      else (some (Value.digitsToNat digits)).filter (· < limit) := by
  rcases signed with ⟨rfl, noSign⟩ | rfl
  · rw [number?, split]
    cases digits with
    | nil => rfl
    | cons first rest =>
        have other : first ≠ '+' := fun same => noSign (congrArg some same)
        simp only [List.nil_append]
        split
        next digits plus => exact absurd (List.cons.inj plus).1 other
        next => rfl
  · rw [number?, split]
    rfl

/-- Every text begins with a plus sign, or has none there. -/
theorem exists_split (text : String) : ∃ sign digits : List Char, text.toList = sign ++ digits
    ∧ (sign = [] ∧ digits.head? ≠ some '+' ∨ sign = ['+']) := by
  by_cases signed : text.toList.head? = some '+'
  · obtain ⟨digits, split⟩ := List.head?_eq_some_iff.mp signed
    exact ⟨['+'], digits, split, .inr rfl⟩
  · exact ⟨[], text.toList, rfl, .inl ⟨rfl, signed⟩⟩

/-- A number is read from a numeral of a number below the limit, and from nothing else. -/
theorem number?_eq_some_iff {limit : Nat} {text : String} {value : Nat} :
    number? limit text = some value ↔ IsNumeral text value ∧ value < limit := by
  constructor
  · intro read
    obtain ⟨sign, digits, split, signed⟩ := exists_split text
    rw [number?_of_split limit split signed] at read
    split at read
    next => cases read
    next accepted =>
      obtain ⟨same, below⟩ := Option.filter_eq_some_iff.mp read
      rw [Bool.or_eq_true, not_or, List.isEmpty_iff, Bool.not_eq_true', Bool.not_eq_false,
        List.all_eq_true]
        at accepted
      rw [digitsToNat_eq] at same
      cases same
      refine ⟨.intro split ?_ accepted.1 fun digit member =>
        isDigit_iff.mp (accepted.2 digit member), of_decide_eq_true below⟩
      exact signed.imp_left And.left
  · rintro ⟨@⟨sign, digits, split, signed, notEmpty, decimal⟩, below⟩
    have noSign : digits.head? ≠ some '+' := by
      intro first
      obtain ⟨rest, rfl⟩ := List.head?_eq_some_iff.mp first
      exact absurd (decimal '+' List.mem_cons_self).1 (by decide)
    have all : digits.all Char.isDigit = true :=
      List.all_eq_true.mpr fun digit member => isDigit_iff.mpr (decimal digit member)
    rw [number?_of_split limit split (signed.imp_left fun empty => ⟨empty, noSign⟩), all,
      Bool.not_true, Bool.or_false, if_neg (mt List.isEmpty_iff.mp notEmpty), digitsToNat_eq]
    exact Option.filter_eq_some_iff.mpr ⟨rfl, decide_eq_true below⟩

/-! ## Settings -/

/-- The settings that are numbers. -/
inductive NumberSetting where
  | metricsPort
  | errorRequeueSeconds
  | reconcileIntervalSeconds
  | startupTimeoutSeconds
  | pollIntervalMilliseconds

namespace NumberSetting

/-- The variable that a setting comes from. -/
def key : NumberSetting → String
  | .metricsPort => "METRICS_PORT"
  | .errorRequeueSeconds => "RECONCILIATION_ERROR_REQUEUE_SECS"
  | .reconcileIntervalSeconds => "RECONCILE_INTERVAL_SECS"
  | .startupTimeoutSeconds => "SERVER_STARTUP_TIMEOUT_SECS"
  | .pollIntervalMilliseconds => "SERVER_POLL_INTERVAL_MS"

/-- The greatest number that a setting can be: a port has sixteen bits, a time
sixty-four. -/
def greatest : NumberSetting → Nat
  | .metricsPort => 65535
  | _ => 2 ^ 64 - 1

/-- The setting in a configuration. -/
def value : NumberSetting → Config → Nat
  | .metricsPort => Config.metricsPort
  | .errorRequeueSeconds => Config.errorRequeueSeconds
  | .reconcileIntervalSeconds => Config.reconcileIntervalSeconds
  | .startupTimeoutSeconds => Config.startupTimeoutSeconds
  | .pollIntervalMilliseconds => Config.pollIntervalMilliseconds

theorem value_ofEnvironment (setting : NumberSetting) (lookup : String → Option String) :
    setting.value (ofEnvironment lookup) =
      numberOr (setting.greatest + 1) (lookup setting.key) (setting.value standard) := by
  cases setting <;> rfl

theorem value_standard_le (setting : NumberSetting) :
    setting.value standard ≤ setting.greatest := by
  cases setting <;> decide

/-- Does an environment give a setting a number: by a numeral of one that fits? -/
def Given (setting : NumberSetting) (lookup : String → Option String) (value : Nat) : Prop :=
  ∃ text : String, lookup setting.key = some text ∧ IsNumeral text value ∧ value ≤ setting.greatest

theorem given_iff {setting : NumberSetting} {lookup : String → Option String} {value : Nat} :
    setting.Given lookup value ↔
      (lookup setting.key).bind (number? (setting.greatest + 1)) = some value := by
  simp only [Given, Option.bind_eq_some_iff, number?_eq_some_iff, Nat.lt_succ_iff]

end NumberSetting

/-- The settings that are texts. -/
inductive TextSetting where
  | controllerImage
  | speakerImage
  | namespaceName
  | manifestPath

namespace TextSetting

/-- The variables that a setting comes from, the first one before the others. -/
def keys : TextSetting → List String
  | .controllerImage => ["CONTROLLER_IMAGE"]
  | .speakerImage => ["SPEAKER_IMAGE"]
  | .namespaceName => ["WATCH_NAMESPACE", "POD_NAMESPACE"]
  | .manifestPath => ["MANIFEST_PATH"]

/-- The setting in a configuration. -/
def value : TextSetting → Config → String
  | .controllerImage => Config.controllerImage
  | .speakerImage => Config.speakerImage
  | .namespaceName => Config.namespaceName
  | .manifestPath => Config.manifestPath

end TextSetting

/-- Is a variable not set, or set to the empty text? -/
def IsUnset (lookup : String → Option String) (key : String) : Prop :=
  lookup key = none ∨ lookup key = some ""

/-- The text of the first variable that has one. -/
def firstText (lookup : String → Option String) (keys : List String) (default : String) : String :=
  keys.foldr (fun key later => textOr (lookup key) later) default

theorem TextSetting.value_ofEnvironment (setting : TextSetting) (lookup : String → Option String) :
    setting.value (ofEnvironment lookup) = firstText lookup setting.keys
    (setting.value standard) := by
  cases setting <;> rfl

section

variable {lookup : String → Option String}

theorem textOr_of_isUnset {key : String} (unset : IsUnset lookup key) (default : String) :
    textOr (lookup key) default = default := by
  rcases unset with absent | empty
  · rw [absent]
    rfl
  · rw [empty]
    rfl

/-- Variables that are not set are passed over. -/
theorem firstText_append {before : List String} (unset : ∀ key ∈ before, IsUnset lookup key)
    (later : List String) (default : String) :
    firstText lookup (before ++ later) default = firstText lookup later default := by
  induction before with
  | nil => rfl
  | cons key before induction =>
      obtain ⟨first, others⟩ := List.forall_mem_cons.mp unset
      exact (textOr_of_isUnset first _).trans (induction others)

theorem firstText_of_unset {keys : List String}
    (unset : ∀ key ∈ keys, IsUnset lookup key) (default : String) :
    firstText lookup keys default = default := by
  have passed := firstText_append unset [] default
  rwa [List.append_nil] at passed

theorem firstText_eq {before later : List String} {key text : String}
    (unset : ∀ earlier ∈ before, IsUnset lookup earlier) (there : lookup key = some text)
    (notEmpty : text ≠ "") (default : String) :
    firstText lookup (before ++ key :: later) default = text := by
  rw [firstText_append unset, firstText, List.foldr_cons, there, textOr, Option.filter_some,
    if_pos (decide_eq_true notEmpty)]
  rfl

theorem firstText_congr {lookup' : String → Option String} {keys : List String}
    (same : ∀ key ∈ keys, lookup' key = lookup key) (default : String) :
    firstText lookup' keys default = firstText lookup keys default := by
  induction keys with
  | nil => rfl
  | cons key keys induction =>
      obtain ⟨first, others⟩ := List.forall_mem_cons.mp same
      rw [firstText, List.foldr_cons, first]
      exact congrArg (textOr (lookup key)) (induction others)

end

/-! ## All settings -/

/-- Two configurations with the same settings are equal. -/
theorem eq_of_settings {one other : Config}
    (numbers : ∀ setting : NumberSetting, setting.value one = setting.value other)
    (texts : ∀ setting : TextSetting, setting.value one = setting.value other) : one = other := by
  cases one
  cases other
  congr 1
  · exact texts .controllerImage
  · exact texts .speakerImage
  · exact texts .namespaceName
  · exact texts .manifestPath
  · exact numbers .metricsPort
  · exact numbers .errorRequeueSeconds
  · exact numbers .reconcileIntervalSeconds
  · exact numbers .startupTimeoutSeconds
  · exact numbers .pollIntervalMilliseconds

/-- What an environment says about the settings of a configuration. -/
structure FromEnvironment (lookup : String → Option String) (config : Config) : Prop where
  /-- A numeral of a number that fits is read as this number. -/
  number : ∀ (setting : NumberSetting) (value : Nat), setting.Given lookup value →
    setting.value config = value
  /-- With anything else, or nothing, in its variable a number is the standard one. -/
  noNumber : ∀ setting : NumberSetting, (¬ ∃ value : Nat, setting.Given lookup value) →
    setting.value config = setting.value standard
  /-- No number is too large for its type. -/
  fits : ∀ setting : NumberSetting, setting.value config ≤ setting.greatest
  /-- A text is the one of its first variable that is set and not empty. -/
  text : ∀ (setting : TextSetting) (before later : List String) (key text : String),
    setting.keys = before ++ key :: later → (∀ earlier ∈ before, IsUnset lookup earlier) →
    lookup key = some text → text ≠ "" → setting.value config = text
  /-- Without any, it is the standard one. -/
  noText : ∀ setting : TextSetting, (∀ key ∈ setting.keys, IsUnset lookup key) →
    setting.value config = setting.value standard
  /-- A number is the same in every environment with the same variable for it. -/
  ownNumber : ∀ (lookup' : String → Option String) (setting : NumberSetting),
    lookup' setting.key = lookup setting.key →
    setting.value (ofEnvironment lookup') = setting.value config
  /-- A text is the same in every environment with the same variables for it. -/
  ownText : ∀ (lookup' : String → Option String) (setting : TextSetting),
    (∀ key ∈ setting.keys, lookup' key = lookup key) →
    setting.value (ofEnvironment lookup') = setting.value config

theorem NumberSetting.value_of_given {setting : NumberSetting} {lookup : String → Option String}
    {value : Nat} (given : setting.Given lookup value) :
    setting.value (ofEnvironment lookup) = value := by
  rw [setting.value_ofEnvironment, numberOr, given_iff.mp given]
  rfl

theorem NumberSetting.value_of_not_given {setting : NumberSetting} {lookup : String → Option String}
    (notGiven : ¬ ∃ value : Nat, setting.Given lookup value) :
    setting.value (ofEnvironment lookup) = setting.value standard := by
  have nothing : (lookup setting.key).bind (number? (setting.greatest + 1)) = none :=
    Option.eq_none_iff_forall_ne_some.mpr fun value read => notGiven ⟨value, given_iff.mpr read⟩
  rw [setting.value_ofEnvironment, numberOr, nothing]
  rfl

theorem NumberSetting.value_congr {setting : NumberSetting}
    {lookup lookup' : String → Option String} (same : lookup' setting.key = lookup setting.key) :
    setting.value (ofEnvironment lookup') = setting.value (ofEnvironment lookup) := by
  rw [setting.value_ofEnvironment, setting.value_ofEnvironment, same]

theorem TextSetting.value_congr {setting : TextSetting} {lookup lookup' : String → Option String}
    (same : ∀ key ∈ setting.keys, lookup' key = lookup key) :
    setting.value (ofEnvironment lookup') = setting.value (ofEnvironment lookup) := by
  rw [setting.value_ofEnvironment, setting.value_ofEnvironment]
  exact firstText_congr same _

/-- Whatever the environment holds, every setting is read as described. -/
theorem fromEnvironment_ofEnvironment (lookup : String → Option String) :
    FromEnvironment lookup (ofEnvironment lookup) where
  number _ _ := NumberSetting.value_of_given
  noNumber _ := NumberSetting.value_of_not_given
  fits setting := by
    by_cases given : ∃ value : Nat, setting.Given lookup value
    · obtain ⟨value, text, there, numeral, fits⟩ := given
      rw [NumberSetting.value_of_given ⟨text, there, numeral, fits⟩]
      exact fits
    · rw [NumberSetting.value_of_not_given given]
      exact setting.value_standard_le
  text setting before later key text split unset there notEmpty := by
    rw [setting.value_ofEnvironment, split]
    exact firstText_eq unset there notEmpty _
  noText setting unset := by
    rw [setting.value_ofEnvironment]
    exact firstText_of_unset unset _
  ownNumber _ _ := NumberSetting.value_congr
  ownText _ _ := TextSetting.value_congr

/-- A number that needs one more bit than a port has counts as not set. -/
example : ofEnvironment (fun key => if key = "METRICS_PORT" then some "+065536" else none) =
  standard := by rfl

/-! ## Listed variables -/

/-- The program looks up the variables of all settings. -/
theorem key_mem_variableNames (setting : NumberSetting) : setting.key ∈ variableNames := by
  cases setting <;> decide

theorem keys_subset_variableNames (setting : TextSetting) : setting.keys ⊆ variableNames := by
  cases setting <;> decide

theorem find?_listed {keys : List String} (lookup : String → Option String) {key : String}
    (listed : key ∈ keys) :
    Fields.find?
    (keys.filterMap fun key => (lookup key).map fun text => (key, text)) key = lookup key := by
  induction keys with
  | nil => cases listed
  | cons first keys induction =>
      by_cases here : first = key
      · subst here
        cases there : lookup first with
        | none =>
            -- What comes later is about the same variable again, or about other ones.
            rw [List.filterMap_cons, there]
            refine Fields.find?_eq_none fun field member same => ?_
            obtain ⟨later, -, set⟩ := List.mem_filterMap.mp member
            obtain ⟨text, found, rfl⟩ := Option.map_eq_some_iff.mp set
            obtain rfl : later = first := same
            rw [there] at found
            cases found
        | some text => simp [there, Fields.find?]
      · have later := induction ((List.mem_cons.mp listed).resolve_left (Ne.symm here))
        cases there : lookup first with
        | none => simpa [there] using later
        | some text => simpa [there, Fields.find?, here] using later

/-- The listed variables are all that matters. -/
theorem ofEnvironment_listed (lookup : String → Option String) :
    ofEnvironment
    (Fields.find? (variableNames.filterMap fun key => (lookup key).map fun text => (key, text))) =
      ofEnvironment lookup := by
  refine eq_of_settings (fun setting => ?_) fun setting => ?_
  · exact NumberSetting.value_congr (find?_listed lookup (key_mem_variableNames setting))
  · exact TextSetting.value_congr fun key member =>
      find?_listed lookup (keys_subset_variableNames setting member)

end PoolOperator.Config
