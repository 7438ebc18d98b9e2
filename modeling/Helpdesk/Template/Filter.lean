import Helpdesk.Template.Item

/-!
# Helpdesk.Template.Filter — filters and their arguments.

A filter has named parameters, the first few of which are required. Arguments are given by place or
by name. A call that leaves out a required parameter, names an unknown one or gives one twice fails,
and so does a filter that cannot work on its input; a failing filter makes the whole template fail.
-/
namespace Helpdesk.Template

/-- What a filter does to an item, given one argument for each parameter. -/
abbrev FilterBody := Item → List (Option Item) → Option Item

structure Filter where
  name : String
  /-- How many of the parameters must be given. -/
  required : Nat
  parameters : List String
  body : FilterBody

namespace Filter

/-- A filter without parameters. -/
def plain (name : String) (f : Item → Item) : Filter :=
  ⟨name, 0, [], fun a _ => some (f a)⟩

/-- A filter without parameters on the text of an item. -/
def onText (name : String) (f : String → String) : Filter :=
  plain name fun a => .text (f a.printed)

/-- Whether every parameter is given at most once and every name is known. -/
def acceptsNames (parameters : List String) (placed : Nat) : List (String × Item) → Bool
  | [] => true
  | (name, _) :: rest =>
    (parameters.drop placed).contains name && !(rest.any fun (other, _) => other == name) &&
      acceptsNames parameters placed rest

/-- One argument for each parameter. -/
def bind? (parameters : List String) (required : Nat) (placed : List Item)
    (named : List (String × Item)) : Option (List (Option Item)) :=
  if parameters.length < placed.length || !acceptsNames parameters placed.length named then none
  else
    let given := placed.map some ++ (parameters.drop placed.length).map fun name => named.lookup name
    if (given.take required).all Option.isSome then some given else none

/-- Applies a filter. -/
def call? (filter : Filter) (a : Item) (placed : List Item) (named : List (String × Item)) :
    Option Item := do
  let arguments ← bind? filter.parameters filter.required placed named
  filter.body a arguments

end Filter

end Helpdesk.Template
