import Probing.Text.Basic

/-!
# Suggestions

A word that is not known is compared with those that are, by the number of insertions, deletions,
substitutions and swaps of neighbours between them. The nearest words are suggested if they are at
most three steps away and more than two fifths of the longer word stays.

## Main definitions

* `Suggestion.distance`: the number of steps between two words
* `Suggestion.nearest`: the words worth suggesting
* `Suggestion.line`: the suggestion as it is shown
* `Suggestion.forWord`, `Suggestion.forFlag`: the suggestion for an unknown word or flag
-/

namespace Probing.CommandLine.Suggestion

/-- The distances from the first `i + 1` units of `a` to every start of `b`, given those for one
unit less and for two. -/
def nextRow (a b : Text) (i : Nat) (older previous : List Nat) : List Nat :=
  (List.range b.length).foldl (fun row j =>
    let cost := if a[i]? = b[j]? then 0 else 1
    let deletion := previous.getD (j + 1) 0 + 1
    let insertion := row.getLastD 0 + 1
    let substitution := previous.getD j 0 + cost
    let best := min (min deletion insertion) substitution
    let swapped := 0 < i ∧ 0 < j ∧ a[i]? = b[j - 1]? ∧ a[i - 1]? = b[j]?
    row ++ [if swapped then min best (older.getD (j - 1) 0 + 1) else best]) [i + 1]

/-- The number of steps from one word to another, no unit taking part in two of them. -/
def distance (a b : Text) : Nat :=
  let first := List.range (b.length + 1)
  let rows := (List.range a.length).foldl (fun rows i =>
    (rows.2, nextRow a b i rows.1 rows.2)) ([], first)
  rows.2.getLastD 0

/-- The most steps between a word and a suggestion for it. -/
def maxDistance : Nat := 3

/-- The distance of a word that could be suggested. -/
def closeness? (word candidate : Text) : Option Nat :=
  let longer := max word.length candidate.length
  let shorter := min word.length candidate.length
  if candidate.length ≤ 1 ∨ shorter + maxDistance < longer then none
  else
    let steps := distance word candidate
    if steps ≤ maxDistance ∧ 2 * longer < 5 * (longer - steps) then some steps else none

/-- Puts a word into an alphabetical list, unless it is there already. -/
def insertWord (word : Text) : List Text → List Text
  | [] => [word]
  | other :: rest =>
    if word = other then other :: rest
    else if word < other then word :: other :: rest
    else other :: insertWord word rest

/-- The words worth suggesting, in alphabetical order. -/
def nearest (word : Text) (candidates : List Text) : List Text :=
  let close := candidates.filterMap fun candidate =>
    (closeness? word candidate).map fun steps => (steps, candidate)
  match (close.map Prod.fst).min? with
  | none => []
  | some best =>
    (close.filter fun entry => entry.1 = best).foldl (fun words entry =>
      insertWord entry.2 words) []

/-- The second line of an error about an unknown word, empty when nothing is near. -/
def line (words : List Text) : Text :=
  match words with
  | [] => []
  | [word] => "\n(Did you mean " ++ word ++ "?)"
  | words => "\n(Did you mean one of " ++ Text.join ", " words ++ "?)"

/-- A word is written like a flag in full. -/
def hasDashes (word : Text) : Bool :=
  ("--" : Text).isPrefixOf word

/-- The suggestion for an unknown word. For a word written like a flag, the first two units of the
word and of every candidate are taken for dashes. -/
def forWord (word : Text) (candidates : List Text) : Text :=
  if hasDashes word then
    line ((nearest (word.drop 2) (candidates.map (·.drop 2))).map fun name => "--" ++ name)
  else line (nearest word candidates)

/-- The suggestion for an unknown flag. One with a single dash gets none. -/
def forFlag (word : Text) (forms : List Text) : Text :=
  if hasDashes word then forWord word forms else []

end Probing.CommandLine.Suggestion
