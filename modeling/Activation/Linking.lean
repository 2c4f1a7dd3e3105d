import Activation.Generated.Constructors
import Activation.Generated.Types
import Activation.Reading
import Activation.Registry
import Activation.Text.Decimal
import Activation.Width

/-!
# Linking generated registrations

Generated registrations name types by their spelling and functions by their name.  A *scope* says
what these names mean where the source stands; with it a generated registration becomes a record
that can be linked into a program.

The body of a linked constructor takes its arguments by the generated bindings and calls the
function with what it took.  The members of a linked enumeration are found by running the generated
parser: what its statements compare a text with, and what they return, is known once its members have
numbers and the integer type that they are converted into has a layout.
-/

namespace Activation

open Source Generated

/-- What the names in a source text mean. -/
structure Scope where
  /-- The package that the source belongs to. -/
  package : String
  /-- The types, by their spelling. -/
  types : List (String × TypeTag)
  /-- The bits of a pointer. -/
  pointerWidth : Nat

/-- The type of a spelling. -/
def Scope.type? (s : Scope) (spelling : String) : Option TypeTag :=
  (s.types.find? (·.1 == spelling)).map (·.2)

/-- The code of the functions of an implementation: what a function makes of its arguments, or the
text of the failure that it returns. -/
abbrev FunctionTable := String → List Argument → Outcome (Except String Datum)

/-! ## Constructors -/

namespace Generated

/-- How an argument is read. -/
def Binding.reading? (scope : Scope) : Binding → Option Reading
  | .value type index => (scope.type? type.text).map (.value · index)
  | .nullable type index => (scope.type? type.text).map (.nullable · index)
  | .dynamic index => some (.dynamic index)

/-- The parameter that is declared. -/
def GeneratedParameter.link? (scope : Scope) (p : GeneratedParameter) : Option Parameter :=
  (scope.type? p.type.text).map fun type => ⟨p.name, type, p.shape⟩

/-- The instance that a call makes, or its failure. -/
def concludeCall (owner : TypeTag) (called : Outcome (Except String Datum)) :
    Outcome (Except InvokeError Instance) :=
  called.map fun
    | .ok d => .ok ⟨owner, d⟩
    | .error source => .error (.failed source)

/-- The record of a constructor, if the scope knows its types. -/
def GeneratedConstructor.link? (scope : Scope) (functions : FunctionTable)
    (c : GeneratedConstructor) : Option ConstructorRecord := do
  let owner ← scope.type? c.owner.text
  let parameters ← c.parameters.mapM (·.link? scope)
  let plan ← c.bindings.mapM (·.reading? scope)
  let body := if c.isUnsupported then unsupportedBody
    else Body.reading plan fun read => concludeCall owner (functions c.name read)
  some ⟨owner, c.name, c.isPublic, parameters, body, scope.package⟩

end Generated

/-! ## Enumerations -/

/-- The number that an expression spells, if it is an integer with or without a minus sign. -/
def constantNumber? (expression : List Tree) : Option Int :=
  match Tree.tokensOf expression with
  | [.literal l] => Text.readInt? l.toList
  | [.mark "-" _, .literal l] => (Text.readInt? l.toList).map fun n => -n
  | _ => none

/-- What the expressions that give variants their values come to, for those that are constant. -/
abbrev Evaluation := List Tree → Option Int

/-- The numbers of variants.  A variant without a value has the number after the one before it; the
first one has the given number. -/
def numbersFrom? (evaluate : Evaluation) (next : Int) :
    List Variant → Option (List (String × Int))
  | [] => some []
  | v :: rest => do
    let n ← match v.value? with
      | none => some next
      | some expression => evaluate expression
    some ((v.name, n) :: (← numbersFrom? evaluate (n + 1) rest))

/-- The number of a member.  A name that several members have is the name of none. -/
def numberOf? (members : List (String × Int)) (name : String) : Option Int :=
  match members.filter (·.1 == name) with
  | [m] => some m.2
  | _ => none

/-- A statement of a linked parser. -/
inductive LinkedStatement
  /-- Returns the instance for the text. -/
  | returnIf (text : String) (found : Instance)
  | returnNothing

/-- What a linked parser returns for a text. -/
def LinkedStatement.run (literal : String) : List LinkedStatement → Option Instance
  | .returnIf text found :: rest => if literal = text then some found else run literal rest
  | .returnNothing :: _ => none
  | [] => none

namespace Generated

/-- The statement of a parser, if its names mean anything: a member with a number, and an integer
type to convert it into. -/
def ParserStatement.link? (pointerWidth : Nat) (tag : TypeTag) (members : List (String × Int)) :
    ParserStatement → Option LinkedStatement
  | .returnIf member integer => do
    let n ← numberOf? members member
    let layout ← integerLayout? pointerWidth integer
    some (.returnIf (Text.decimal (layout.convert n)) ⟨tag, .member member⟩)
  | .returnNothing => some .returnNothing

/-- The kind of a declared type.  An enumeration is linked if the type that its members are numbered
in holds their numbers. -/
def GeneratedKind.link? (scope : Scope) (evaluate : Evaluation) (tag : TypeTag) (d : Declaration) :
    GeneratedKind → Option TypeKind
  | .record => some .record
  | .enumeration underlying parser =>
    match d.form with
    | .enumeration variants => do
      let type ← scope.type? underlying
      let layout ← integerLayout? scope.pointerWidth underlying
      let members ← numbersFrom? evaluate 0 variants
      if members.all (layout.holds ·.2) then
        let statements ← parser.mapM (·.link? scope.pointerWidth tag members)
        some (.enumeration ⟨type, fun literal => .finished (LinkedStatement.run literal statements)⟩)
      else none
    | _ => none

/-- The record of a type, if the scope knows its types. -/
def GeneratedType.link? (scope : Scope) (evaluate : Evaluation) (d : Declaration)
    (t : GeneratedType) : Option TypeRecord := do
  let tag ← scope.type? t.ident
  some ⟨tag, t.name, ← t.kind.link? scope evaluate tag d, scope.package⟩

/-- The record of the default constructor, if there is one. -/
def GeneratedType.linkDefault? (scope : Scope) (default : Datum) (t : GeneratedType) :
    Option ConstructorRecord := do
  if !t.hasDefault then none
  let owner ← scope.type? t.ident
  let body : Body Instance := fun args => (.finished (.ok ⟨owner, default⟩), args)
  some ⟨owner, "default", true, [], body, scope.package⟩

end Generated

/-! ## Source -/

namespace LinkedRecords

/-- No records. -/
def empty : LinkedRecords := ⟨[], []⟩

/-- The records of both. -/
def append (a b : LinkedRecords) : LinkedRecords :=
  ⟨a.types ++ b.types, a.constructors ++ b.constructors⟩

/-- The records that are generated from the source of an implementation; none if nothing is. -/
def ofImplementation (scope : Scope) (functions : FunctionTable) (source : String) :
    LinkedRecords :=
  match Implementation.read? source with
  | none => empty
  | some i =>
    match generate [] i with
    | .ok g => ⟨[], g.constructors.filterMap (·.link? scope functions)⟩
    | .error _ => empty

/-- The records that are generated from the source of a declared type; none if nothing is. -/
def ofDeclaration (scope : Scope) (default : Datum) (source : String) : LinkedRecords :=
  match Declaration.read? source with
  | none => empty
  | some d =>
    match generateType d with
    | .ok t => ⟨(t.link? scope constantNumber? d).toList, (t.linkDefault? scope default).toList⟩
    | .error _ => empty

end LinkedRecords

end Activation
