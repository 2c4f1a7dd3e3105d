import Activation.Generated.Constructors
import Activation.Generated.Types

/-!
# Generation from source text

From source text to what is generated from it.  Source that does not spell the right kind of item
is refused before anything is generated; but the arguments of the attribute that asks for
registrations are looked at first.
-/

namespace Activation.Generated

open Source

/-- Why nothing is generated from a source text. -/
inductive SourceError (ε : Type)
  /-- The text does not spell the right kind of item. -/
  | malformed
  | refused (e : ε)
deriving DecidableEq, Repr

/-- What is generated from the source of an implementation. -/
def generateFromSource (arguments source : String) :
    Except (SourceError GenerationError) Generation :=
  match Tree.read? arguments, Tree.read? source with
  | some arguments, some _ =>
    if arguments ≠ [] then .error (.refused .argumentsGiven)
    else
      match Implementation.read? source with
      | none => .error .malformed
      | some i =>
        match generate arguments i with
        | .ok g => .ok g
        | .error e => .error (.refused e)
  | _, _ => .error .malformed

/-- What is generated from the source of a declared type. -/
def generateTypeFromSource (source : String) :
    Except (SourceError TypeGenerationError) GeneratedType :=
  match Declaration.read? source with
  | none => .error .malformed
  | some d =>
    match generateType d with
    | .ok t => .ok t
    | .error e => .error (.refused e)

end Activation.Generated
