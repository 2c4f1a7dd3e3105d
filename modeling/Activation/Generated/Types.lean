import Activation.Source.Declaration

/-!
# Registrations generated from a declared type

`generateType` gives the registration of a record or of an enumeration without fields.  The
attribute `#[activatable(..)]` may give the type another name, and ask for a constructor without
parameters.  The attribute `#[repr(..)]` says what the members of an enumeration are numbered in.

The registration of an enumeration comes with a parser, a function that finds a member by the text
of its number (`ParserStatement`).
-/

namespace Activation.Generated

open Source

/-! ## Options -/

/-- What the attributes of a declaration ask for. -/
structure TypeOptions where
  name? : Option String
  withDefault : Bool
deriving DecidableEq, Repr

/-- Takes an element `name = "…"` or `default`. -/
def takeTypeOption : ElementHandler TypeOptions := fun options path rest =>
  if path.name? = some "name" then do
    let (text, rest) ← textValueAfter rest
    .ok ({ options with name? := some text }, rest)
  else if path.name? = some "default" then .ok ({ options with withDefault := true }, rest)
  else .error (.unknownElement "activatable")

/-- What the attributes ask for; of two names the later counts. -/
def typeOptions (d : Declaration) : Except AttributeError TypeOptions :=
  (d.attributes.filter (·.isNamed "activatable")).foldlM
    (fun options a => a.readElements takeTypeOption options) ⟨none, false⟩

/-! ## Numbering -/

/-- The integer types. -/
def integerTypes : List String :=
  ["i8", "i16", "i32", "i64", "i128", "isize", "u8", "u16", "u32", "u64", "u128", "usize"]

/-- Takes an element of a representation: an integer type, or anything else, possibly with
arguments. -/
def takeNumbering : ElementHandler (Option String) := fun numbering path rest =>
  let numbering := match path.name? with
    | some name => if integerTypes.contains name then some name else numbering
    | none => numbering
  match rest with
  | .group .round _ :: rest => .ok (numbering, rest)
  | rest => .ok (numbering, rest)

/-- The integer type that the members of an enumeration are numbered in: the last one that is
asked for, or else `isize`. -/
def numbering (d : Declaration) : Except AttributeError String := do
  let numbering ← (d.attributes.filter (·.isNamed "repr")).foldlM
    (fun numbering a => a.readElements takeNumbering numbering) none
  .ok (numbering.getD "isize")

/-! ## Parsers -/

/-- A statement of a parser.  The statements are run one after another. -/
inductive ParserStatement
  /-- Returns the member if the text is the decimal form of it, converted into the integer type. -/
  | returnIf (member integer : String)
  | returnNothing
deriving DecidableEq, Repr

/-- The parser of an enumeration: each variant in turn, and nothing after all of them. -/
def parserOf (integer : String) (variants : List Variant) : List ParserStatement :=
  variants.map (fun v => .returnIf v.name integer) ++ [.returnNothing]

/-! ## Registrations -/

/-- What kind of type is registered. -/
inductive GeneratedKind
  | record
  /-- An enumeration: the type that its members are numbered in, and its parser. -/
  | enumeration (underlying : String) (parser : List ParserStatement)
deriving DecidableEq, Repr

/-- A registered type. -/
structure GeneratedType where
  ident : String
  name : String
  kind : GeneratedKind
  /-- Whether a constructor without parameters is registered with it. -/
  hasDefault : Bool
deriving DecidableEq, Repr

/-- Why nothing is generated from a declaration. -/
inductive TypeGenerationError
  | isGeneric
  | isUnion
  /-- A constructor was asked for, but the type is an enumeration. -/
  | defaultOfEnumeration
  | hasFields
  | malformed (e : AttributeError)
deriving DecidableEq, Repr

/-- The text of an error. -/
def TypeGenerationError.message : TypeGenerationError → String
  | .isGeneric => "Activatable cannot be derived for generic types"
  | .isUnion => "Activatable cannot be derived for unions"
  | .defaultOfEnumeration => "#[activatable(default)] applies to structs only"
  | .hasFields => "Activatable enums must be fieldless"
  | .malformed e => e.message

/-- What is generated from a declaration. -/
def generateType (d : Declaration) : Except TypeGenerationError GeneratedType :=
  if d.genericParameters ≠ [] then .error .isGeneric
  else
    match typeOptions d with
    | .error e => .error (.malformed e)
    | .ok options =>
      let name := options.name?.getD d.name
      match d.form with
      | .union => .error .isUnion
      | .record => .ok ⟨d.name, name, .record, options.withDefault⟩
      | .enumeration variants =>
        if options.withDefault then .error .defaultOfEnumeration
        else if variants.any (·.hasFields) then .error .hasFields
        else
          match numbering d with
          | .error e => .error (.malformed e)
          | .ok underlying =>
            .ok ⟨d.name, name, .enumeration underlying (parserOf underlying variants), false⟩

end Activation.Generated
