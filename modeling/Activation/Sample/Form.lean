import Activation.Constructor

/-!
# Forms of values

What the values of a type look like, and the default value of a type of that form.
-/

namespace Activation.Sample

/-- The form of the values of a type. -/
inductive Form
  | bool
  | char
  /-- An integer; `wide` if it may have more than 32 bits. -/
  | integer (wide : Bool)
  | single
  | double
  | unit
  | duration
  | uuid
  | text
  /-- A sequence, of a fixed length if one is given. -/
  | list (item : Form) (length? : Option Nat)
  | option (item : Form)
  | pair (first second : Form)
  | argument
  /-- The record of a constructor and what it read. -/
  | object
  /-- A single value, of a type whose default cannot be had. -/
  | brittle
  | member
  | account
  | coordinates
  /-- No values. -/
  | none

/-- The default value of the form. -/
def Form.zero : Form → Datum
  | .bool => .bool false
  | .char => .char '\x00'
  | .integer _ => .int 0
  | .single => .float32 0
  | .double => .float64 0
  | .duration => .duration 0 0
  | .uuid => .uuid 0
  | .text => .text ""
  | .list item length? => .list (List.replicate (length?.getD 0) item.zero)
  | .option _ => .absent
  | .pair first second => .list [first.zero, second.zero]
  | .argument => .null
  | .object => .record [("via", .text "Default"), ("values", .list [])]
  | .coordinates => .record [("x", .float64 0), ("y", .float64 0)]
  | .unit | .brittle | .member | .account | .none => .unit

/-- What comes of asking for the default value. -/
def Form.default : Form → Outcome Datum
  | .brittle => .panicked "brittle default"
  | form => .finished form.zero

end Activation.Sample
