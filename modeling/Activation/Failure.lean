import Activation.Constructor

/-!
# Failures of activation

The errors that activating a type can end in.  That no constructor accepts the arguments is not
one of them.
-/

namespace Activation

/-- Why activation failed. -/
inductive ActivationError
  /-- The caller did not name a type. -/
  | missingType
  /-- The caller gave no argument list. -/
  | missingArguments (tag : TypeTag)
  /-- The selected constructor ran and reported a failure. -/
  | constructorFailed (tag : TypeTag) (constructor : String) (source : String)
deriving DecidableEq, Repr

namespace ActivationError

/-- The text of the error. -/
def message : ActivationError → String
  | missingType => "type identity missing"
  | missingArguments tag => s!"argument array missing for {tag.name}"
  | constructorFailed tag constructor source =>
    s!"constructor {tag.name}::{constructor} failed: {source}"

/-- Whether the caller did not keep to the rules. -/
def isContractViolation : ActivationError → Bool
  | missingType | missingArguments _ => true
  | constructorFailed .. => false

end ActivationError

/-- The answer to an activation: an instance, no instance, or an error, unless code panicked. -/
abbrev Reply := Outcome (Except ActivationError (Option Instance))

/-- The answer without an instance. -/
def Reply.nothing : Reply := .finished (.ok none)

/-- The answer with an error. -/
def Reply.error (e : ActivationError) : Reply := .finished (.error e)

/-- The answer to a caller who knows the type: the content of the object, and nothing in case it is
of another type. -/
def Reply.narrow (reply : Reply) (t : TypeTag) :
    Outcome (Except ActivationError (Option Datum)) :=
  reply.map fun answer => answer.map fun i => i.bind (·.downcast? t)

end Activation
