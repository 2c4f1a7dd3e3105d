import Activation.Generated.Constructors
import Activation.Generated.Types
import Activation.Text.Decimal

/-!
# Generated code

The code of generated registrations: a record for each type and each constructor, the functions
that the records refer to, and the submission of each record.
-/

namespace Activation.Generated

open Source Text

/-- A name within the library that the code uses. -/
def libraryPath (name : String) : String := "::activator::" ++ name

/-- Words in a row. -/
def words (names : List String) : String := spell (names.map .word)

/-- Code between braces. -/
def braced (code : String) : String := "\x7b" ++ code ++ "\x7d"

/-- The submission of a record of the given kind. -/
def submission (kind record : String) : String :=
  libraryPath "inventory::submit!" ++
    braced (libraryPath "registry::" ++ kind ++ "(&" ++ record ++ ")")

/-- The path of a shape. -/
def shapePath (s : Shape) : String :=
  libraryPath "ParamShape::" ++ match s with
    | .value => "Value"
    | .nullable => "Nullable"
    | .dynamic => "Dynamic"
    | .pointer => "Pointer"

/-- The function of a constructor's record. -/
inductive Invoker
  /-- A function that is found elsewhere. -/
  | named (path : String)
  /-- A function with its statements. -/
  | written (name : String) (statements : List String)
deriving DecidableEq, Repr

/-- The record of a parameter. -/
structure ParameterCode where
  name : String
  type : String
  shape : String
deriving DecidableEq, Repr

/-- The record of a constructor. -/
structure ConstructorCode where
  static : String
  owner : String
  name : String
  isPublic : Bool
  parameters : List ParameterCode
  invoker : Invoker
deriving DecidableEq, Repr

/-- The submission of a constructor's record. -/
def ConstructorCode.submission (c : ConstructorCode) : String :=
  Generated.submission "ConstructorReg" c.static

/-- The name of the variable that holds an argument. -/
def argumentName (index : Nat) : String := "__arg" ++ decimal index

/-- The statement that takes an argument. -/
def Binding.code : Binding → String
  | .value type index => statement index ("take::<" ++ type.text ++ ">")
  | .nullable type index => statement index ("take_opt::<" ++ type.text ++ ">")
  | .dynamic index => statement index "take_arg"
where
  statement (index : Nat) (method : String) : String :=
    "let " ++ argumentName index ++ "=args." ++ method ++ "(" ++ decimal index ++ "usize)?;"

/-- The expression that hands back a new object. -/
def returning (object : String) : String :=
  "::core::result::Result::Ok(" ++ libraryPath "Instance::new(" ++ object ++ "))"

namespace GeneratedConstructor

/-- The call of the function that constructs the object. -/
def call (c : GeneratedConstructor) : String :=
  let arguments := (List.range c.parameters.length).map argumentName
  "<" ++ c.owner.text ++ ">::" ++ c.name ++ "(" ++ String.intercalate "," arguments ++ ")" ++
    match c.returned with
    | .directly => ""
    | .fallibly => ".map_err(" ++ libraryPath "InvokeError::failed" ++ ")?"

/-- The record of the constructor. -/
def code (c : GeneratedConstructor) : ConstructorCode :=
  { static := "__ACTIVATOR_CTOR_" ++ decimal c.ordinal
    owner := c.owner.text
    name := c.name
    isPublic := c.isPublic
    parameters := c.parameters.map fun p => ⟨p.name, p.type.text, shapePath p.shape⟩
    invoker :=
      if c.isUnsupported then .named (libraryPath "registry::unsupported_invoker")
      else .written ("__activator_invoke_" ++ decimal c.ordinal)
        (c.bindings.map (·.code) ++ [returning c.call]) }

end GeneratedConstructor

/-- The code of a statement of the parser of an enumeration. -/
def ParserStatement.code (enumeration : String) : ParserStatement → String
  | .returnIf member integer =>
    let path := enumeration ++ "::"
    "if literal==::std::string::ToString::to_string(&(" ++ path ++ words [member, "as", integer] ++
      "))" ++ braced ("return::core::option::Option::Some(" ++
        libraryPath "Instance::new(" ++ path ++ member ++ "));")
  | .returnNothing => "::core::option::Option::None"

namespace GeneratedType

/-- The name of the function that finds a member by its number. -/
def parser : String := "__activator_parse"

/-- The path of the kind. -/
def kindPath (t : GeneratedType) : String :=
  libraryPath "TypeKind::" ++ match t.kind with
    | .record => "Struct"
    | .enumeration _ _ => "Enum"

/-- The statements of the function that finds a member by its number. -/
def parserStatements (t : GeneratedType) : List String :=
  match t.kind with
  | .record => []
  | .enumeration _ parser => parser.map (·.code t.ident)

/-- The statement of the default constructor. -/
def defaultStatement (t : GeneratedType) : String :=
  returning ("<" ++ words [t.ident, "as"] ++ "::core::default::Default>::default()")

/-- The record of the default constructor, if there is one. -/
def defaultCode? (t : GeneratedType) : Option ConstructorCode :=
  if t.hasDefault then
    some ⟨"__ACTIVATOR_DEFAULT_CTOR", t.ident, "default", true, [], .named "__activator_default"⟩
  else none

/-- The submissions: the default constructor first, if there is one, and then the type. -/
def submissions (t : GeneratedType) : List String :=
  (t.defaultCode?.map (·.submission)).toList ++ [submission "TypeReg" "__ACTIVATOR_TYPE"]

end GeneratedType

end Activation.Generated
