/-
This file decides which questions are shown. A rule is decided from the sheet alone; what has been
decided is kept, and after a change only the rules that read a changed control are decided again.
-/
import Questionnaire.Sheet.Basic

namespace Questionnaire.Visibility

/-! ### Deciding rules -/

/-- Whether a condition holds; nothing is said where its question has no live control. Of a checkbox
group one checked box has to match, of any other question the answer as one text. -/
def conditionHolds? (catalog : Catalog) (sheet : Sheet) (condition : Condition) : Option Bool :=
  (catalog.resolve? condition.question).bind fun source =>
    if !source.answers.any fun name => sheet.contains name then none
    else
      let wildcard := Answer.isWildcard condition.answer
      if source.kind = .checkboxGroup then
        some ((sheet.checkedValues source).any fun value =>
          wildcard || Answer.same value condition.answer)
      else
        let answer := sheet.answerText source
        some (if wildcard then !(Text.trim answer).isEmpty
          else Answer.same answer condition.answer)

/-- Whether a rule shows its question: one condition holds, or none can be decided. -/
def ruleHolds (catalog : Catalog) (sheet : Sheet) (rule : VisibilityRule) : Bool :=
  let decided := rule.conditions.filterMap (conditionHolds? catalog sheet)
  decided.isEmpty || decided.any id

/-- Whether a question is shown; one without a rule always is. -/
def isShown (catalog : Catalog) (sheet : Sheet) (question : String) : Bool :=
  match catalog.rule? question with
  | some rule => ruleHolds catalog sheet rule
  | none => true

/-! ### Keeping decisions -/

/-- The decisions on the questions that have a rule. -/
abbrev Decisions := NameMap Bool

/-- The decisions of all rules on a sheet. -/
def decideAll (catalog : Catalog) (sheet : Sheet) : Decisions :=
  NameMap.ofList (catalog.rules.map fun rule => (rule.question, ruleHolds catalog sheet rule))

/-- A question that came into view or went out of it. -/
structure Change where
  question : String
  shown : Bool
  deriving DecidableEq, Repr

/-- Decides one rule again, and adds the change that this makes. -/
def renew (catalog : Catalog) (sheet : Sheet) (state : Decisions × List Change)
    (rule : VisibilityRule) : Decisions × List Change :=
  let shown := ruleHolds catalog sheet rule
  let decisions := state.1.insert rule.question shown
  if state.1.get? rule.question = some shown then (decisions, state.2)
  else (decisions, state.2 ++ [⟨rule.question, shown⟩])

/-- Decides the rules that read a control again, and tells what changed. -/
def notify (catalog : Catalog) (sheet : Sheet) (decisions : Decisions) (control : String) :
    Decisions × List Change :=
  ((catalog.dependentsOf control).filterMap fun position => catalog.rules[position]?).foldl
    (renew catalog sheet) (decisions, [])

/-- Decides the rules that read one of several controls again, control by control. -/
def notifyAll (catalog : Catalog) (sheet : Sheet) (decisions : Decisions)
    (controls : List String) : Decisions × List Change :=
  controls.foldl
    (fun (decisions, changes) control =>
      let (decisions, more) := notify catalog sheet decisions control
      (decisions, changes ++ more))
    (decisions, [])

/-- Decides all rules again, and tells what changed. -/
def refresh (catalog : Catalog) (sheet : Sheet) (decisions : Decisions) :
    Decisions × List Change :=
  catalog.rules.foldl (renew catalog sheet) (decisions, [])

/-- Whether a question is shown by the decisions; one without a rule always is. -/
def Decisions.shows (decisions : Decisions) (question : String) : Bool :=
  (decisions.get? question).getD true

end Questionnaire.Visibility
