/-
This file computes the fields that calculations write. The targets are taken one after the other, in
the order of the table, each on the sheet that the targets before it left; of the rules of a target
whose comparison holds the last one counts.
-/
import Questionnaire.Reference

namespace Questionnaire.Derivation

/-- The total of terms, from left to right. A term without an operator is added. -/
def total (tiers : Tiers) (catalog : Catalog) (sheet : Sheet) : List Term → Float
  | [] => 0.0
  | first :: rest =>
    Expression.Operator.fold (Reference.value tiers catalog sheet first.field)
      (rest.map fun term =>
        (term.operator.getD .add, Reference.value tiers catalog sheet term.field))

/-- The total of a rule that has terms, if its comparison holds. -/
def holds? (tiers : Tiers) (catalog : Catalog) (sheet : Sheet) (rule : Calculation) :
    Option Float :=
  if rule.terms.isEmpty then none
  else
    let total := total tiers catalog sheet rule.terms
    if rule.comparison.holds total rule.threshold then some total else none

/-- The outcome of a target and its total: those of the last rule that holds. -/
def decide? (tiers : Tiers) (catalog : Catalog) (sheet : Sheet) (target : CalculationTarget) :
    Option (Outcome × Float) :=
  (target.rules.filterMap fun rule =>
    (holds? tiers catalog sheet rule).map fun total => (rule.outcome, total)).getLast?

/-- The state of a checkbox that an outcome asks for. -/
def flag (outcome : Outcome) (total : Float) : Bool :=
  match outcome with
  | .checked => true
  | .unchecked => false
  | .text _ => Answer.isYes (outcome.render total)

/-- Writes an outcome to a target, and tells whether that changed it. An outcome that the target
does not take changes nothing. -/
def write (sheet : Sheet) (target : String) (outcome : Outcome) (total : Float) : Sheet × Bool :=
  let written := match sheet.checked? target with
    | some _ => sheet.setChecked target (flag outcome total)
    | none => sheet.setText target (outcome.render total)
  match written with
  | .ok result => result
  | .error _ => (sheet, false)

/-- Computes one target that is live, and adds it to the changed ones if it changed. -/
def step (tiers : Tiers) (catalog : Catalog) (state : Sheet × List String)
    (target : CalculationTarget) : Sheet × List String :=
  let (sheet, changed) := state
  if !sheet.contains target.target then state
  else
    match decide? tiers catalog sheet target with
    | none => state
    | some (outcome, total) =>
      match write sheet target.target outcome total with
      | (sheet, true) => (sheet, changed ++ [target.target])
      | (sheet, false) => (sheet, changed)

/-- Computes all targets, and lists those that changed. -/
def run (tiers : Tiers) (catalog : Catalog) (sheet : Sheet) : Sheet × List String :=
  catalog.calculations.foldl (step tiers catalog) (sheet, [])

end Questionnaire.Derivation
