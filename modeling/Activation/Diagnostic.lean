import Activation.OverloadSet
import Activation.Text.Quoted

/-!
# Diagnostic texts

The texts that show a value's structure to a programmer: the name of its type, then its fields in
braces or brackets, with texts quoted.  An ellipsis stands for fields that have no text.
-/

namespace Activation

namespace Diagnostic

/-- A record: its name and its fields; `partly` if there are more fields than are shown. -/
def record (name : String) (fields : List (String × String)) (partly : Bool) : String :=
  let shown := fields.map (fun (field, text) => field ++ ": " ++ text) ++
    (if partly then [".."] else [])
  name ++ " \x7b " ++ String.intercalate ", " shown ++ " \x7d"

/-- A variant or a wrapper around one text. -/
def wrapped (name content : String) : String := name ++ "(" ++ content ++ ")"

/-- A sequence. -/
def list (items : List String) : String := "[" ++ String.intercalate ", " items ++ "]"

def bool (b : Bool) : String := if b then "true" else "false"

end Diagnostic

open Diagnostic

def TypeTag.diagnostic (t : TypeTag) : String := wrapped "TypeKey" t.name

def Argument.diagnostic (a : Argument) : String :=
  wrapped "Arg" ((a.tag?.map (·.name)).getD "null")

def ArgumentList.diagnostic (l : ArgumentList) : String :=
  record "ArgList" [("args", list (l.slots.map (·.diagnostic)))] false

def Tagged.diagnostic (v : Tagged) : String := wrapped "Instance" v.tag.name

def Shape.diagnostic : Shape → String
  | .value => "Value"
  | .nullable => "Nullable"
  | .dynamic => "Dynamic"
  | .pointer => "Pointer"

def Parameter.diagnostic (p : Parameter) : String :=
  record "ParamInfo"
    [("name", Text.quoted p.name), ("ty", p.type.diagnostic), ("shape", p.shape.diagnostic)] false

def Origin.diagnostic : Origin → String
  | .byHand => "Builder"
  | .package name => wrapped "Crate" (Text.quoted name)

def Constructor.diagnostic (c : Constructor) : String :=
  record "ConstructorInfo"
    [("owner", c.owner.diagnostic), ("name", Text.quoted c.name), ("public", bool c.isPublic),
      ("params", list (c.parameters.map (·.diagnostic))), ("source", c.origin.diagnostic)] true

def TypeKind.diagnostic : TypeKind → String
  | .plain => "Class"
  | .record => "Struct"
  | .enumeration info =>
    wrapped "Enum"
      (Diagnostic.record "EnumInfo" [("underlying", info.underlying.diagnostic)] true)

def TypeInfo.diagnostic (i : TypeInfo) : String :=
  record "TypeInfo"
    [("key", i.tag.diagnostic), ("name", Text.quoted i.name), ("kind", i.kind.diagnostic),
      ("source", i.origin.diagnostic)] false

def Overload.diagnostic (o : Overload) : String :=
  record "ConstructorDescriptor"
    [("owner", o.owner.diagnostic), ("name", Text.quoted o.name),
      ("param_types", list (o.types.map (·.diagnostic))),
      ("nullable", list (o.nullability.map bool))] true

def OverloadSet.diagnostic (s : OverloadSet) : String :=
  record "ConstructorSet"
    [("ty", s.tag.diagnostic), ("descriptors", list (s.overloads.map (·.diagnostic))),
      ("has_default", bool s.hasDefault)] false

end Activation
