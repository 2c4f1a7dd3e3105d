import Activation.Event

/-!
# Registrations

The four ways in which a program tells about its types.  A type or a constructor is registered by
hand, or as a record that was linked into the program together with the name of its package.

A constructor registered by hand is tied to its owner: its body gives the content of the new
object only, and the object is tagged with the owner (`Registration.toEntry`).  The body of a
linked record builds the tagged object itself.

Every entry claims the names it wants to be found under (`Entry.claims`).
-/

namespace Activation

/-- What is declared of a constructor that is registered by hand. -/
structure Signature where
  name : String
  isPublic : Bool
  parameters : List Parameter
deriving DecidableEq, Repr

namespace Signature

/-- The signature of a public constructor without parameters. -/
def named (name : String) : Signature := ⟨name, true, []⟩

/-- Adds a parameter at the end. -/
def parameter (s : Signature) (name : String) (type : TypeTag) (shape : Shape) : Signature :=
  { s with parameters := s.parameters ++ [⟨name, type, shape⟩] }

/-- Adds a parameter that takes a value of the type. -/
def value (s : Signature) (name : String) (type : TypeTag) : Signature :=
  s.parameter name type .value

/-- Adds a parameter that takes null or a value of the type. -/
def nullable (s : Signature) (name : String) (type : TypeTag) : Signature :=
  s.parameter name type .nullable

/-- Adds a parameter that takes any argument. -/
def dynamic (s : Signature) (name : String) : Signature :=
  s.parameter name .argument .dynamic

/-- Adds a parameter that is a raw pointer to the type. -/
def pointer (s : Signature) (name : String) (pointee : TypeTag) : Signature :=
  s.parameter name (.constPointer pointee) .pointer

end Signature

/-- A type's record as it is linked into a program. -/
structure TypeRecord where
  tag : TypeTag
  name : String
  kind : TypeKind
  package : String

/-- A constructor's record as it is linked into a program. -/
structure ConstructorRecord where
  owner : TypeTag
  name : String
  isPublic : Bool
  parameters : List Parameter
  body : Body Instance
  package : String

/-- The constructor that a linked record declares. -/
def ConstructorRecord.toConstructor (r : ConstructorRecord) : Constructor :=
  ⟨r.owner, r.name, r.isPublic, r.parameters, r.body, .package r.package⟩

/-- A registration. -/
inductive Registration
  | typeByHand (tag : TypeTag) (kind : TypeKind)
  | typeRecord (record : TypeRecord)
  | constructorByHand (owner : TypeTag) (signature : Signature) (body : Body Datum)
  | constructorRecord (record : ConstructorRecord)

/-- What a registration adds to a registry. -/
inductive Entry
  | type (info : TypeInfo)
  | constructor (c : Constructor)

/-- The entry that a registration makes. -/
def Registration.toEntry : Registration → Entry
  | .typeByHand tag kind => .type ⟨tag, tag.name, kind, .byHand⟩
  | .typeRecord r => .type ⟨r.tag, r.name, r.kind, .package r.package⟩
  | .constructorByHand owner s body =>
    .constructor ⟨owner, s.name, s.isPublic, s.parameters, body.map (⟨owner, ·⟩), .byHand⟩
  | .constructorRecord r => .constructor r.toConstructor

/-- The type that an entry is about. -/
def Entry.tag : Entry → TypeTag
  | .type info => info.tag
  | .constructor c => c.owner

/-! ## Names -/

/-- A name, wanted for a type. -/
structure NameClaim where
  name : String
  tag : TypeTag
  origin : Origin
deriving DecidableEq, Repr

/-- The claims of a type's own names: the full one, then the short one. -/
def TypeTag.claims (t : TypeTag) (origin : Origin) : List NameClaim :=
  [⟨t.name, t, origin⟩, ⟨t.shortName, t, origin⟩]

/-- The claims of an entry, in order.  A registered type claims the name it was registered under
first, unless that is empty or one of its own names. -/
def Entry.claims : Entry → List NameClaim
  | .type info =>
    let own := info.tag.claims info.origin
    if info.name ≠ "" ∧ info.name ≠ info.tag.name ∧ info.name ≠ info.tag.shortName then
      ⟨info.name, info.tag, info.origin⟩ :: own
    else own
  | .constructor c => c.owner.claims c.origin

end Activation
