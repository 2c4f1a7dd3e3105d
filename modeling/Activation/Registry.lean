import Activation.Registration
import Activation.TypeMap

/-!
# The registry

The index of all that was registered: the types, the constructors of each type in the order in
which they were registered, and the names that types are found under.

The first registration wins, both for what is known about a type and for each name.  A second
registration of a type adds nothing and is reported; so is a claim of a name that belongs to
another type.  Constructors are never dropped.
-/

namespace Activation

/-- What was registered. -/
structure Registry where
  /-- What is registered about each type. -/
  types : TypeMap TypeInfo
  /-- The constructors of each type that has any, in the order of registration. -/
  constructors : TypeMap (List Constructor)
  /-- The names that are taken, each with the claim that took it. -/
  names : List NameClaim

namespace Registry

/-- The registry in which nothing is registered. -/
def empty : Registry := ⟨.empty, .empty, []⟩

/-! ## Looking things up -/

/-- What is registered about a type. -/
def typeInfo? (r : Registry) (t : TypeTag) : Option TypeInfo := r.types.get? t

/-- The kind of a type; a type that is not registered is a plain one. -/
def kind (r : Registry) (t : TypeTag) : TypeKind := ((r.typeInfo? t).map (·.kind)).getD .plain

/-- The declared constructors of a type, in the order of registration. -/
def constructorsOf (r : Registry) (t : TypeTag) : List Constructor :=
  (r.constructors.get? t).getD []

/-- The claim that holds a name. -/
def holder? (r : Registry) (name : String) : Option NameClaim := r.names.find? (·.name == name)

/-- The type that is found under a name. -/
def resolve (r : Registry) (name : String) : Option TypeTag := (r.holder? name).map (·.tag)

/-- The types that have constructors but no registration of their own. -/
def unregisteredOwners (r : Registry) : List TypeTag :=
  (r.constructors.entries.map (·.1)).filter fun t => !r.types.contains t

/-- The number of distinct types that the registry knows. -/
def size (r : Registry) : Nat := r.types.size + r.unregisteredOwners.length

/-- Whether nothing is registered. -/
def isEmpty (r : Registry) : Bool := r.types.isEmpty && r.constructors.isEmpty

/-! ## Registering -/

/-- Gives a name to the claimant, unless it is taken; the loss of a name to another type is
reported. -/
def claim (r : Registry) (c : NameClaim) : Logged Registry :=
  match r.holder? c.name with
  | none => pure { r with names := r.names ++ [c] }
  | some held =>
    if held.tag.is c.tag then pure r
    else do
      Logged.report (.nameCollision c.name held.tag held.origin c.tag c.origin)
      pure r

/-- Makes several claims, in order. -/
def claimAll (r : Registry) : List NameClaim → Logged Registry
  | [] => pure r
  | c :: rest => do (← r.claim c).claimAll rest

/-- Adds an entry. -/
def insert (r : Registry) (entry : Entry) : Logged Registry :=
  match entry with
  | .type info =>
    match r.typeInfo? info.tag with
    | some known => do
      Logged.report (.registeredTwice info.tag known.origin info.origin)
      pure r
    | none => do
      let r ← r.claimAll entry.claims
      pure { r with types := r.types.insert info.tag info }
  | .constructor c => do
    let r ← r.claimAll entry.claims
    pure { r with constructors := r.constructors.insert c.owner (r.constructorsOf c.owner ++ [c]) }

/-- Adds what a registration tells. -/
def register (r : Registry) (registration : Registration) : Logged Registry :=
  r.insert registration.toEntry

/-- Adds what several registrations tell, in order. -/
def registerAll (r : Registry) : List Registration → Logged Registry
  | [] => pure r
  | registration :: rest => do (← r.register registration).registerAll rest

/-- The registry of a sequence of registrations. -/
def ofRegistrations (registrations : List Registration) : Logged Registry :=
  empty.registerAll registrations

end Registry

/-- The records that were linked into a program. -/
structure LinkedRecords where
  types : List TypeRecord
  constructors : List ConstructorRecord

/-- The linked records as registrations: all types, then all constructors. -/
def LinkedRecords.registrations (records : LinkedRecords) : List Registration :=
  records.types.map .typeRecord ++ records.constructors.map .constructorRecord

/-- Adds everything that was linked into the program. -/
def Registry.link (r : Registry) (records : LinkedRecords) : Logged Registry := do
  let r ← r.registerAll records.registrations
  Logged.report (.linked records.types.length records.constructors.length)
  pure r

end Activation
