import Activation.Source.Attribute
import Activation.Source.Grammar
import Activation.Source.SelfType

/-!
# Implementations

An implementation of a type as its functions and other members.  `Implementation.read?` is the
implementation that a source text spells.

What is read is kept beside what it was read from, so that an implementation can be written again
(`Implementation.tree`): attributes and members each by themselves, and all that stands between them
as it stands.
-/

namespace Activation.Source

/-- Who may use an item. -/
inductive Visibility
  /-- Everybody. -/
  | everywhere
  /-- Whoever is in a scope, which the tokens spell out. -/
  | scoped (scope : List Token)
  /-- Whoever is in the same place. -/
  | inherited
deriving DecidableEq, Repr

/-- A parameter with its pattern and its type. -/
structure InputParameter where
  /-- The name, if the pattern is one. -/
  name? : Option String
  type : Tree
  /-- The whole parameter. -/
  source : Tree

/-- A function with a body. -/
structure FunctionItem where
  /-- Those in front of the function, and then those that its body begins with. -/
  attributes : List Attribute
  visibility : Visibility
  /-- The words in front of `fn`, and the calling convention among them. -/
  qualifiers : List Token
  name : String
  genericParameters : List Tree
  receiver? : Option Tree
  parameters : List InputParameter
  result? : Option Tree
  /-- All that stands between the attributes and the body, from the visibility to the conditions. -/
  signature : List Tree
  /-- What stands in the body after its attributes. -/
  body : List Tree

/-- A member of an implementation. -/
inductive Member
  | function (f : FunctionItem)
  | other (source : Tree)

/-- An implementation of a type. -/
structure Implementation where
  /-- Those in front of the implementation, and then those that stand in front of its members. -/
  attributes : List Attribute
  genericParameters : List Tree
  trait? : Option Tree
  type : Tree
  /-- All that stands between the attributes and the members, from the words in front of `impl` to
  the conditions. -/
  header : List Tree
  members : List Member

/-! ## To trees -/

/-- The sources of the attributes that stand inside or outside of what they are about. -/
def attributeTrees (isInner : Bool) (attributes : List Attribute) : List Tree :=
  (attributes.filter (·.isInner == isInner)).map (·.source)

/-- The node of a function. -/
def FunctionItem.tree (f : FunctionItem) : Tree :=
  .node .function (attributeTrees false f.attributes ++ f.signature ++
    [.node .body [.group .curly (attributeTrees true f.attributes ++ f.body)]])

/-- The node of a member. -/
def Member.tree : Member → Tree
  | .function f => f.tree
  | .other source => source

/-- The node of an implementation. -/
def Implementation.tree (i : Implementation) : Tree :=
  .node .implementation (attributeTrees false i.attributes ++ i.header ++
    [.group .curly (attributeTrees true i.attributes ++ i.members.map (·.tree))])

/-! ## From trees -/

/-- The attributes among the parts of an item. -/
def attributesOf (parts : List Tree) : List Attribute := parts.filterMap Attribute.ofTree?

/-- The attributes at the front that stand inside or outside of what they are about, and what follows
them. -/
def splitAttributes (isInner : Bool) : List Tree → List Attribute × List Tree
  | [] => ([], [])
  | t :: ts =>
    match (Attribute.ofTree? t).filter (·.isInner == isInner) with
    | some a => (a :: (splitAttributes isInner ts).1, (splitAttributes isInner ts).2)
    | none => ([], t :: ts)

/-- The visibility among the parts of an item. -/
def visibilityOf (parts : List Tree) : Visibility :=
  if parts.any (·.isNode .openVisibility) then .everywhere
  else
    match parts.find? (·.isNode .scopedVisibility) with
    | some scope => .scoped scope.tokens
    | none => .inherited

/-- The parts of the first node of a kind. -/
def partsOf (k : Kind) (parts : List Tree) : List Tree :=
  ((parts.find? (·.isNode k)).map (·.parts)).getD []

/-- The nodes of a kind. -/
def nodesOf (k : Kind) (parts : List Tree) : List Tree := parts.filter (·.isNode k)

/-- The inside of the first group. -/
def insideOf (parts : List Tree) : List Tree :=
  (parts.findSome? fun
    | .group _ inside => some inside
    | _ => none).getD []

/-- The words among trees. -/
def wordsOf (parts : List Tree) : List String :=
  parts.filterMap fun
    | .leaf (.word w) => some w
    | _ => none

/-- The tokens among trees. -/
def leavesOf (parts : List Tree) : List Token :=
  parts.filterMap fun
    | .leaf t => some t
    | _ => none

/-- The generic parameters among the parts of an item. -/
def genericParametersOf (parts : List Tree) : List Tree :=
  nodesOf .genericParameter (partsOf .generics parts)

/-- The parameter of a node. -/
def InputParameter.ofTree? (t : Tree) : Option InputParameter :=
  match t with
  | .node .parameter parts =>
    let name? := (wordsOf (partsOf .namePattern parts)).find? fun w => w != "ref" && w != "mut"
    (parts.filter (·.isType)).getLast?.map fun type => ⟨name?, type, t⟩
  | _ => none

/-- The function of a node. -/
def FunctionItem.ofTree? (t : Tree) : Option FunctionItem :=
  match t with
  | .node .function parts =>
    let (outer, parts) := splitAttributes false parts
    match parts.getLast? with
    | some (.node .body [.group .curly inside]) =>
      let (inner, body) := splitAttributes true inside
      let signature := parts.dropLast
      let inputs := insideOf (partsOf .parameters signature)
      let before := signature.takeWhile (!·.isWord "fn")
      (wordsOf (signature.drop (before.length + 1))).head?.map fun name =>
        { attributes := outer ++ inner
          visibility := visibilityOf signature
          qualifiers := leavesOf before
          name
          genericParameters := genericParametersOf signature
          receiver? := inputs.find? (·.isNode .receiver)
          parameters := inputs.filterMap InputParameter.ofTree?
          result? := (partsOf .result signature).find? (·.isType)
          signature
          body }
    | _ => none
  | _ => none

/-- The member of a node. -/
def Member.ofTree (t : Tree) : Member :=
  match FunctionItem.ofTree? t with
  | some f => .function f
  | none => .other t

/-- The implementation of a node. -/
def Implementation.ofTree? (t : Tree) : Option Implementation :=
  match t with
  | .node .implementation parts =>
    let (outer, parts) := splitAttributes false parts
    match parts.getLast? with
    | some (.group .curly inside) =>
      let (inner, members) := splitAttributes true inside
      let header := parts.dropLast
      (header.find? (·.isType)).map fun type =>
        { attributes := outer ++ inner
          genericParameters := genericParametersOf header
          trait? := header.find? (·.isNode .implementedTrait)
          type
          header
          members := members.map Member.ofTree }
    | _ => none
  | _ => none

/-- The implementation that a source text spells. -/
def Implementation.read? (source : String) : Option Implementation :=
  match parseSource? (Grammar.implementation false) source with
  | some t => Implementation.ofTree? t
  | none => none

end Activation.Source
