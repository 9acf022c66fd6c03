/-
This file holds the form that a host offers when it is given none: four sections on a household and
its income, which make use of every family of rules.
-/
import Questionnaire.Form.Decode
import Questionnaire.Json.Printer

namespace Questionnaire.Host.Household

/-- A question with nothing but its text. -/
def ask (id : String) (kind : QuestionKind) (text : String) : Question :=
  { Question.blank with id, kind, text }

/-- Options with the given labels. -/
def options (labels : List String) : List Choice :=
  labels.map fun label => ⟨label, none, false, false⟩

/-- Logic that shows a question when another one has an answer. -/
def whenAnswered (question answer : String) : Option VisibilityLogic := some ⟨[⟨question, answer⟩]⟩

/-- A calculation that writes the outcome when the comparison holds. -/
def rule (terms : List Term) (comparison : Comparison) (threshold : Float) (outcome : Outcome) :
    Calculation :=
  { Calculation.blank with terms, comparison, threshold, outcome }

/-- The questions about the filler. -/
def aboutYou : List Question :=
  [{ ask "color" .dropdown "Favorite color" with options := options ["Red", "Blue"] },
    { ask "shade" .shortText "Shade of red" with logic := whenAnswered "color" "red" },
    ask "notes" .paragraph "Notes",
    { ask "more" .shortText "Tell us more" with logic := whenAnswered "notes" "any text" }]

/-- The questions about income. -/
def income : List Question :=
  [ask "income" .money "Income",
    ask "bonus" .money "Bonus",
    ask "tax" .money "Tax",
    { ask "q7" .singleChoice "Continue to household?" with
      options := options ["Continue", "Skip"]
      jumps := [⟨"Skip", .section 4⟩] }]

/-- The questions about the household. -/
def household : List Question :=
  [{ ask "home" .dropdown "Home state" with options := options ["CA", "NY", "TX"] },
    { ask "mail" .dropdown "Mailing state" with options := options ["CA", "NY"] },
    { ask "sources" .checkboxGroup "Income sources" with
      options := [⟨"Wages", none, false, true⟩, ⟨"Pension", none, false, true⟩,
        ⟨"None of the above", none, true, false⟩] },
    { ask "children" .numberedDropdown "Children" with range := some ⟨0, 4⟩ }]

/-- The last question. -/
def review : List Question :=
  [{ ask "ready" .singleChoice "Ready to submit?" with
      description := some "Monthly income on file: $$income$$"
      options := options ["Yes", "No"]
      jumps := [⟨"Yes", .marker "end"⟩] }]

/-- The share of the income that goes into tax. -/
def taxRatio : List Term := [⟨none, "income"⟩, ⟨some .divide, "tax"⟩]

/-- The amount of the pension. -/
def pension : List Term := [⟨none, "question_sources_entry2_field2"⟩]

/-- The hidden fields. -/
def hiddenFields : List HiddenField :=
  [⟨"net_total", .text, none,
      [rule [⟨none, "income"⟩, ⟨some .add, "bonus"⟩, ⟨some .subtract, "tax"⟩] .greater 1000
        (.text "##total##")]⟩,
    ⟨"tax_ratio", .text, none,
      [rule taxRatio .equal 0 (.text "no ratio"), rule taxRatio .greater 0 (.text "##total##")]⟩,
    ⟨"has_pension", .checkbox, none,
      [rule pension .greater 0 .checked, rule pension .equal 0 .unchecked]⟩]

/-- The form. -/
def form : Form :=
  { id := "household"
    title := "Household assistance"
    description := some "Tell us about your household so we can prefill the application."
    sections := [⟨1, "About you", aboutYou⟩, ⟨2, "Income", income⟩, ⟨3, "Household", household⟩,
      ⟨4, "Review: net $$income + bonus - tax$$", review⟩]
    hiddenFields
    links := [⟨"home", "mail"⟩] }

/-- The text of the form. -/
def source : String := form.encode.compact

end Questionnaire.Host.Household
