/-!
# Options

The three choices that decide which overloads of a type are considered.  They are fixed for the
life of an activator.
-/

namespace Activation

/-- The options of an activator. -/
structure Options where
  /-- Also consider constructors that are not public. -/
  includeNonPublic : Bool
  /-- Offer the zero value of a well-known type as a constructor without parameters. -/
  zeroFallback : Bool
  /-- Offer the zero member of an enumeration as a constructor without parameters. -/
  enumerationFallback : Bool
deriving DecidableEq, Repr

namespace Options

/-- The options that hold unless others are given. -/
def standard : Options := ⟨false, true, true⟩

end Options

end Activation
