/-!
# Similar texts

The similarity of Jaro, as an exact fraction.  Characters of two texts match if
they are equal and not too far apart.  Matching characters that stand in
another order count half.
-/

namespace PoolOperator.Text

/-- The fraction of two numbers that tells how similar two texts are, from zero
to one. -/
structure Similarity where
  /-- The numerator. -/
  numerator : Nat
  /-- The denominator. -/
  denominator : Nat
  deriving DecidableEq, Repr, Inhabited

/-- Is the first fraction greater? -/
def Similarity.exceeds (one other : Similarity) : Bool :=
  one.numerator * other.denominator > other.numerator * one.denominator

/-- The position of a character between two bounds that is not used yet. -/
def matchingPosition? (text : List Char) (used : List Nat) (least bound : Nat) (char : Char) :
    Option Nat :=
  (text.zipIdx.find? fun (other, position) =>
    least ≤ position && position < bound && other = char && !used.contains position).map Prod.snd

/-- The characters of the first text that match, and the positions in the
second text that they match. -/
def matching (reach : Nat) (other : List Char) : Nat → List Nat → List Char → List Char × List Nat
  | _, used, [] => ([], used)
  | position, used, char :: chars =>
      match matchingPosition? other used (position - reach) (position + reach + 1) char with
      | some found =>
          let (matched, used) := matching reach other (position + 1) (found :: used) chars
          (char :: matched, used)
      | none => matching reach other (position + 1) used chars

/-- How similar two texts are. -/
def similarity (one other : String) : Similarity :=
  let ones := one.toList
  let others := other.toList
  let reach := max ones.length others.length / 2 - 1
  let (matched, used) := matching reach others 0 [] ones
  let matchedBack := (others.zipIdx.filter fun (_, position) => used.contains position).map Prod.fst
  let count := matched.length
  if ones.isEmpty && others.isEmpty then ⟨1, 1⟩
  else if count = 0 then ⟨0, 1⟩
  else
    let moved := (List.zip matched matchedBack).countP (fun (char, back) => char ≠ back) / 2
    ⟨count * count * others.length + count * count * ones.length
        + (count - moved) * ones.length * others.length,
      3 * ones.length * others.length * count⟩

/-- The texts that a text is similar to, the most similar one last. -/
def similarTo (text : String) (candidates : List String) : List String :=
  let enough : Similarity := ⟨7, 10⟩
  let scored := candidates.map fun candidate => (similarity text candidate, candidate)
  let similar := scored.filter fun (score, _) => score.exceeds enough
  (similar.mergeSort fun one other => !one.1.exceeds other.1).map Prod.snd

example : similarTo "crd" ["run", "crds", "help"] = ["crds"] := by decide +kernel

end PoolOperator.Text
