/-
This file holds the registry that gives every question a slug of its own, and the names that the
controls of a question get from it.
-/
import Questionnaire.NameMap
import Questionnaire.FreshName
import Questionnaire.Slug
import Questionnaire.Text.Blank

namespace Questionnaire.Slug

/-- The slugs given so far, by question, and the set of them. -/
structure Registry where
  assigned : NameMap String
  taken : NameSet

namespace Registry

/-- The registry before any question. -/
def empty : Registry := ⟨NameMap.empty, NameMap.empty⟩

/-- The slug of a question. -/
def get? (registry : Registry) (id : String) : Option String := registry.assigned.get? id

/-- The slug that a question's text asks for, before it is told apart from those taken. -/
def wanted (id text : String) : String :=
  let slug := ofText text
  if slug.isEmpty then fallback id else slug

/-- Gives a question a slug and returns it. A question that has one keeps it. -/
def assign (registry : Registry) (id text : String) : Registry × String :=
  match registry.get? id with
  | some slug => (registry, slug)
  | none =>
    let slug := FreshName.fresh registry.taken.names (wanted id text)
    (⟨registry.assigned.insert id slug, registry.taken.add slug⟩, slug)

/-- The question that has a slug, in the order of the ids. -/
def questionFor (registry : Registry) (slug : String) : Option String :=
  (registry.assigned.entries.find? fun entry => entry.2 == slug).map (·.1)

/-- The slug of a question, or the one made from its id. -/
def slugOf (registry : Registry) (id : String) : String := (registry.get? id).getD (fallback id)

/-- Puts a slug before the rest of a name, unless the name carries it already. -/
def qualify (slug rest : String) : String :=
  if rest.toList.all (· == '_') then slug
  else if rest == slug || (slug ++ "_").toList.isPrefixOf rest.toList then rest
  else if ['_'].isPrefixOf rest.toList then slug ++ rest
  else slug ++ "_" ++ rest

/-- The name of a control of a question: the hint of the author, or else the option label, after
the question's slug. -/
def controlName (registry : Registry) (id hint label : String) : String :=
  let hint := Text.trim hint
  qualify (registry.slugOf id) (if hint.isEmpty then untrimmed label else hint)

end Registry

end Questionnaire.Slug
