import Activation.Constructor
import Activation.Source.Written

/-!
# Types within an implementation

Inside an implementation `Self` stands for the type that is implemented.  `Tree.isSelf` says
whether a type is that type, by its spelling; `Tree.replaceSelf` puts it in for every type `Self`,
at any depth.  `Tree.classify` says how a parameter of a type accepts arguments.
-/

namespace Activation.Source

/-- The arguments of a name in a path. -/
inductive PathArguments
  | none
  | angles (arguments : List Tree)

/-- A name of a path with its arguments. -/
structure PathSegment where
  name : String
  arguments : PathArguments

namespace PathArguments

/-- Whether there are no arguments. -/
def isEmpty : PathArguments → Bool
  | none => true
  | angles arguments => arguments.isEmpty

/-- The arguments between the angle brackets of a segment. -/
def ofSegment : List Tree → PathArguments
  | [_, .node .angleArguments parts] => .angles (parts.filter (·.isAnyNode))
  | _ => .none

end PathArguments

namespace Tree

/-- Whether a node is a type. -/
def isType : Tree → Bool
  | .node .pathType _ | .node .pointerType _ | .node .macroType _ | .node .boundSum _
  | .node .otherType _ => true
  | _ => false

/-- Whether a type is the given name alone. -/
def isBareName (name : String) : Tree → Bool
  | .node .pathType [.node .segment [t]] => t.isWord name
  | _ => false

/-- The last name of a path type that does not begin with a type of its own. -/
def lastSegment? : Tree → Option PathSegment
  | .node .pathType parts =>
    if parts.any (·.isNode .qualifier) then none
    else
      let segments := parts.filterMap fun
        | .node .segment (.leaf (.word name) :: rest) =>
          some ⟨name, PathArguments.ofSegment (.leaf (.word name) :: rest)⟩
        | _ => none
      segments.getLast?
  | _ => none

/-- The last name of a path type, whether or not it begins with a type of its own. -/
def finalSegment? : Tree → Option PathSegment
  | .node .pathType parts =>
    (Tree.node .pathType (parts.filter (!·.isNode .qualifier))).lastSegment?
  | _ => none

/-- Whether a type is the implemented one: `Self`, or spelled like it. -/
def isSelf (implemented t : Tree) : Bool := t.isBareName "Self" || t.isSpelledLike implemented

/-- The type of a receiver that is not given one: the implemented type behind the reference that
the receiver is. -/
def receiverType (implemented : Tree) (parts : List Tree) : Tree :=
  let reference := (parts.dropWhile (·.isNode .attributeItem)).takeWhile (!·.isWord "self")
  if reference.any (·.isMark "&") then .node .otherType (reference ++ [implemented])
  else implemented

/-- The parts of a receiver, with its type written out if it is given none. -/
def typedReceiver (implemented : Tree) (parts : List Tree) : List Tree :=
  if parts.any (·.isMark ":") || implemented.isBareName "Self" then parts
  else parts ++ [.mark ":", receiverType implemented parts]

mutual

/-- The tree with the implemented type in place of every type `Self`. -/
def replaceSelf (implemented : Tree) : Tree → Tree
  | .leaf t => .leaf t
  | .group b inside => .group b (replaceSelfIn implemented inside)
  | .node .verbatim parts => .node .verbatim parts
  | .node .receiver parts =>
    .node .receiver (typedReceiver implemented (replaceSelfIn implemented parts))
  | .node k parts =>
    if (Tree.node k parts).isBareName "Self" then implemented
    else .node k (replaceSelfIn implemented parts)

/-- The trees with the implemented type in place of every type `Self`. -/
def replaceSelfIn (implemented : Tree) : List Tree → List Tree
  | [] => []
  | t :: ts => replaceSelf implemented t :: replaceSelfIn implemented ts

end

/-- How a parameter of the type accepts arguments, and the type of the values that it takes.  A raw
pointer takes none; `Arg` takes any argument; `Option` with one type takes null or a value of that
type. -/
def classify (t : Tree) : Shape × Tree :=
  match t with
  | .node .pointerType _ => (.pointer, t)
  | _ =>
    match t.lastSegment? with
    | some s =>
      if s.name = "Arg" ∧ s.arguments.isEmpty then (.dynamic, t)
      else
        match s.name, s.arguments with
        | "Option", .angles [inner] => if inner.isType then (.nullable, inner) else (.value, t)
        | _, _ => (.value, t)
    | none => (.value, t)

end Tree

end Activation.Source
