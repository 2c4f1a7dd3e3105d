import Activation.Sample.Form

/-!
# A catalogue of types

Types to try things out with: built-in types, types of the standard library, and types of a package
of its own, whose path is given.
-/

namespace Activation.Sample

/-- A type of the catalogue. -/
structure CatalogueEntry where
  /-- The name that the catalogue knows it by. -/
  label : String
  tag : TypeTag
  form : Form
  /-- Whether the type has a default value. -/
  hasDefault : Bool

/-- A type whose name is its label. -/
def builtIn (name : String) (form : Form) : CatalogueEntry := ⟨name, .basic name, form, true⟩

/-- A type with a label and a name. -/
def labelled (label name : String) (form : Form) (hasDefault : Bool) : CatalogueEntry :=
  ⟨label, ⟨.nominal label, name⟩, form, hasDefault⟩

/-- Built-in types. -/
def builtInTypes : List CatalogueEntry :=
  [builtIn "bool" .bool, builtIn "char" .char] ++
  ["i8", "i16", "i32", "u8", "u16", "u32"].map (builtIn · (.integer false)) ++
  ["i64", "i128", "isize", "u64", "u128", "usize"].map (builtIn · (.integer true)) ++
  [builtIn "f32" .single, builtIn "f64" .double, builtIn "()" .unit,
    ⟨"&str", .stringSlice, .text, true⟩,
    labelled "[u8;4]" "[u8; 4]" (.list (.integer false) (some 4)) true]

/-- Types of libraries. -/
def libraryTypes : List CatalogueEntry :=
  let small := Form.integer false
  [⟨"Duration", .duration, .duration, true⟩, ⟨"Uuid", .uuid, .uuid, true⟩,
    ⟨"String", .string, .text, true⟩, ⟨"Box<str>", .boxedString, .text, true⟩,
    ⟨"Arg", .argument, .argument, true⟩,
    labelled "Vec<u8>" "alloc::vec::Vec<u8>" (.list small none) true,
    labelled "Vec<String>" "alloc::vec::Vec<alloc::string::String>" (.list .text none) true,
    labelled "Option<i32>" "core::option::Option<i32>" (.option small) true,
    labelled "Option<String>" "core::option::Option<alloc::string::String>" (.option .text) true,
    labelled "(i32,String)" "(i32, alloc::string::String)" (.pair small .text) true,
    labelled "(Option<i32>,u8)" "(core::option::Option<i32>, u8)" (.pair (.option small) small)
      true,
    labelled "[String;2]" "[alloc::string::String; 2]" (.list .text (some 2)) true,
    labelled "Box<i32>" "alloc::boxed::Box<i32>" small true]

/-- Types of the package at the path. -/
def ownTypes (path : String) : List CatalogueEntry :=
  let own (name : String) (form : Form) (hasDefault : Bool) : CatalogueEntry :=
    labelled name (path ++ name) form hasDefault
  [own "Widget" .object true] ++
  ["Gadget", "Größe", "Slot<0>", "Slot<1>", "Slot<2>", "Slot<3>", "a::Thing", "b::Thing",
    "outer::inner::Widget"].map (own · .object false) ++
  [labelled "Pair<i32,String>" (path ++ "Pair<i32, alloc::string::String>") .object false,
    labelled "Pair<Widget,u8>" (path ++ "Pair<" ++ path ++ "Widget, u8>") .object false,
    labelled "TwinA" (path ++ "twins::Twin") .object false,
    labelled "TwinB" (path ++ "twins::Twin") .object false] ++
  ["Level", "Ordinal", "Mode", "Letter", "Color", "Implicit", "NoZero", "LateZero"].map
    (own · .member false) ++
  [own "Brittle" .brittle true, own "Account" .account false, own "Coord" .coordinates true,
    own "Plain" (.integer false) false]

/-- Types without values of their own. -/
def valuelessTypes (path : String) : List CatalogueEntry :=
  let bare (label name : String) : CatalogueEntry := labelled label name .none false
  let widget : TypeTag := ⟨.nominal "Widget", path ++ "Widget"⟩
  [bare "str" "str", bare "[u8]" "[u8]", bare "[Option<i32>]" "[core::option::Option<i32>]",
    bare "dyn Shape" ("dyn " ++ path ++ "Shape"),
    bare "dyn Shape+Send" ("dyn " ++ path ++ "Shape + core::marker::Send"),
    bare "dyn Fn(i32)->String" "dyn core::ops::function::Fn(i32) -> alloc::string::String",
    ⟨"*const u8", .constPointer (.basic "u8"), .none, false⟩, bare "*mut u8" "*mut u8",
    ⟨"*const Widget", .constPointer widget, .none, false⟩,
    bare "&Vec<u8>" "&alloc::vec::Vec<u8>",
    bare "fn(i32)->String" "fn(i32) -> alloc::string::String",
    bare "Option<Option<i32>>" "core::option::Option<core::option::Option<i32>>"]

/-- The whole catalogue. -/
def catalogue (path : String) : List CatalogueEntry :=
  builtInTypes ++ libraryTypes ++ ownTypes path ++ valuelessTypes path

end Activation.Sample
