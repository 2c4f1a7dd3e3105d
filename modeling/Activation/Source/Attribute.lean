import Activation.Source.Pattern
import Activation.Source.Written

/-!
# Attributes

An attribute names a path and says nothing more, holds arguments between brackets, or has a value.
`Attribute.readElements` reads the arguments as a list of elements: each begins with a path, may go
on as a handler decides, and is separated from the next by a comma.
-/

namespace Activation.Source

/-- What follows the path of an attribute. -/
inductive AttributeForm
  | bare
  | arguments (inside : List Tree)
  | value (value : List Tree)

/-- An attribute. -/
structure Attribute where
  /-- Whether it stands inside of what it is about. -/
  isInner : Bool
  path : List Tree
  form : AttributeForm
  /-- The whole attribute. -/
  source : Tree

namespace Attribute

/-- The attribute of a node. -/
def ofTree? (t : Tree) : Option Attribute :=
  match t with
  | .node .attributeItem parts =>
    match parts.getLast? with
    | some (.group .square (.node .path path :: rest)) =>
      let form := match rest with
        | [] => AttributeForm.bare
        | [.group _ [.node .verbatim inside]] => .arguments inside
        | _ :: value => .value value
      some ⟨parts.length == 3, path, form, t⟩
    | _ => none
  | _ => none

/-- Whether the path is a single name. -/
def isNamed (a : Attribute) (name : String) : Bool :=
  match a.path with
  | [t] => t.isWord name
  | _ => false

/-- The attribute with arguments that are left open, as messages show it. -/
def outline (a : Attribute) : String :=
  (if a.isInner then "#!" else "#") ++ "[" ++ Tree.textOf a.path ++ "(...)]"

end Attribute

/-! ## Faults -/

/-- What is wrong with an attribute. -/
inductive AttributeError
  /-- There are no arguments. -/
  | bare (outline : String)
  /-- There is a value instead of arguments. -/
  | valued (outline : String)
  /-- An element begins with a literal. -/
  | literalElement
  /-- An element begins with something else than a path. -/
  | strayElement
  /-- The list ends where an element has to begin. -/
  | missingElement
  /-- A path goes on with something else than a name; `ended` if it does not go on. -/
  | brokenPath (ended : Bool)
  /-- Something else than a comma follows an element. -/
  | commaExpected
  | equalsExpected
  /-- A value is no text; `ended` if there is none. -/
  | textExpected (ended : Bool)
  /-- An element is not known to the attribute that holds it. -/
  | unknownElement (holder : String)
deriving DecidableEq, Repr

namespace AttributeError

/-- A message about what was expected, at the end of the list or before it. -/
def expectation (ended : Bool) (what : String) : String :=
  (if ended then "unexpected end of input, " else "") ++ "expected " ++ what

/-- The text of a fault. -/
def message : AttributeError → String
  | .bare outline => "expected attribute arguments in parentheses: " ++ outline
  | .valued outline => "expected parentheses: " ++ outline
  | .literalElement => "unexpected literal in nested attribute, expected ident"
  | .strayElement => "unexpected token in nested attribute, expected ident"
  | .missingElement => expectation true "nested attribute"
  | .brokenPath ended => expectation ended "ident"
  | .commaExpected => expectation false "\x60,\x60"
  | .equalsExpected => expectation false "\x60=\x60"
  | .textExpected ended => expectation ended "string literal"
  | .unknownElement holder => "unknown " ++ holder ++ " attribute"

end AttributeError

/-! ## Elements -/

/-- The path of an element. -/
structure ElementPath where
  /-- Whether it begins with a path separator. -/
  isAbsolute : Bool
  names : List String
deriving DecidableEq, Repr

/-- The name of a path that is a single name. -/
def ElementPath.name? (p : ElementPath) : Option String :=
  match p.isAbsolute, p.names with
  | false, [name] => some name
  | _, _ => none

/-- The trees after a path separator, if one stands in front. -/
def afterSeparator? (trees : List Tree) : Option (List Tree) :=
  (Pattern.afterMark? [':', ':'] trees).map fun (_, rest) => rest

/-- The names after the first of a path, and what follows them.  The number bounds their count. -/
def moreNames : Nat → List Tree → Except AttributeError (List String × List Tree)
  | 0, trees => .ok ([], trees)
  | n + 1, trees =>
    match afterSeparator? trees with
    | none => .ok ([], trees)
    | some (.leaf (.word name) :: rest) =>
      (moreNames n rest).map fun (names, rest) => (name :: names, rest)
    | some rest => .error (.brokenPath rest.isEmpty)

/-- The path of the element in front, and what follows it. -/
def elementPath (trees : List Tree) : Except AttributeError (ElementPath × List Tree) :=
  let (isAbsolute, trees) := match afterSeparator? trees with
    | some rest => (true, rest)
    | none => (false, trees)
  match trees with
  | .leaf (.word name) :: rest =>
    (moreNames rest.length rest).map fun (names, rest) => (⟨isAbsolute, name :: names⟩, rest)
  | [] => .error .missingElement
  | .leaf (.literal _) :: _ => .error .literalElement
  | .leaf (.mark "-" _) :: .leaf (.literal l) :: _ =>
    .error (if isNumeric l then .literalElement else .strayElement)
  | _ => .error .strayElement

/-- The trees after a comma, which has to stand in front unless nothing does. -/
def afterComma (trees : List Tree) : Except AttributeError (List Tree) :=
  match trees with
  | [] => .ok []
  | .leaf (.mark "," _) :: rest => .ok rest
  | _ => .error .commaExpected

/-- How an attribute takes an element: from what it knows, the path of the element and the trees
after it, what it knows then and the trees that are left. -/
abbrev ElementHandler (σ : Type) :=
  σ → ElementPath → List Tree → Except AttributeError (σ × List Tree)

/-- Reads elements up to the given number, first to last. -/
def readElementsUpTo {σ : Type} (handle : ElementHandler σ) :
    Nat → σ → List Tree → Except AttributeError σ
  | 0, known, _ => .ok known
  | _ + 1, known, [] => .ok known
  | n + 1, known, trees => do
    let (path, rest) ← elementPath trees
    let (known, rest) ← handle known path rest
    readElementsUpTo handle n known (← afterComma rest)

/-- Reads the elements of an attribute. -/
def Attribute.readElements {σ : Type} (a : Attribute) (handle : ElementHandler σ) (known : σ) :
    Except AttributeError σ :=
  match a.form with
  | .bare => .error (.bare a.outline)
  | .value _ => .error (.valued a.outline)
  | .arguments inside => readElementsUpTo handle inside.length known inside

/-- The text after an equals sign, and what follows it. -/
def textValueAfter (trees : List Tree) : Except AttributeError (String × List Tree) :=
  match trees with
  | .leaf (.mark "=" _) :: .leaf (.literal l) :: rest =>
    match textValue? l with
    | some text => .ok (text, rest)
    | none => .error (.textExpected false)
  | .leaf (.mark "=" _) :: rest => .error (.textExpected rest.isEmpty)
  | _ => .error .equalsExpected

end Activation.Source
