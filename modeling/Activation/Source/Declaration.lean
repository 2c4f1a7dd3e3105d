import Activation.Source.Implementation

/-!
# Declared types

A record, an enumeration or a union as it is declared.  `Declaration.read?` is the declaration that
a source text spells.
-/

namespace Activation.Source

/-- A variant of an enumeration. -/
structure Variant where
  name : String
  /-- Whether it has a list of fields, even an empty one. -/
  hasFields : Bool
  /-- The expression of its value, if it is given one. -/
  value? : Option (List Tree)

/-- What a declaration declares. -/
inductive DeclarationForm
  | record
  | enumeration (variants : List Variant)
  | union

/-- A declared type. -/
structure Declaration where
  attributes : List Attribute
  name : String
  genericParameters : List Tree
  form : DeclarationForm

/-- The variant of a node. -/
def Variant.ofTree? (t : Tree) : Option Variant :=
  match t with
  | .node .variant parts =>
    (wordsOf parts).head?.map fun name =>
      { name
        hasFields := parts.any (·.isNode .fields)
        value? := (parts.find? (·.isNode .discriminant)).map (·.parts.drop 1) }
  | _ => none

/-- The declaration of a node. -/
def Declaration.ofTree? (t : Tree) : Option Declaration :=
  let make (parts : List Tree) (form : DeclarationForm) : Option Declaration :=
    match wordsOf parts with
    | _ :: name :: _ => some ⟨attributesOf parts, name, genericParametersOf parts, form⟩
    | _ => none
  match t with
  | .node .record parts => make parts .record
  | .node .enumeration parts =>
    make parts (.enumeration ((insideOf parts).filterMap Variant.ofTree?))
  | .node .union parts => make parts .union
  | _ => none

/-- The declaration that a source text spells. -/
def Declaration.read? (source : String) : Option Declaration :=
  match parseSource? Grammar.declaredType source with
  | some t => Declaration.ofTree? t
  | none => none

end Activation.Source
