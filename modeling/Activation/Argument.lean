import Activation.Datum

/-!
# Arguments

An argument of a constructor call is null, or a value tagged with its runtime type.  The list of
arguments of a call is read by position, and each argument is handed out once: reading a slot
leaves null behind, also when the value turns out to be of another type than the reader asked for
(`ArgumentList.takeArgument`, on which the two typed readers are built).

Reading never changes the number of slots (`length_takeArgument`), and leaves every other slot as
it was (`getElem?_takeArgument_of_ne`).
-/

namespace Activation

/-- One argument of a constructor call. -/
inductive Argument
  /-- The absent value, which only nullable parameters accept. -/
  | null
  | value (v : Tagged)
deriving Repr

namespace Argument

instance : BEq Argument where
  beq
    | .null, .null => true
    | .value a, .value b => a == b
    | _, _ => false

/-- The runtime type of the value, none for null. -/
def tag? : Argument → Option TypeTag
  | .null => none
  | .value v => some v.tag

def isNull : Argument → Bool
  | .null => true
  | .value _ => false

/-- Whether the argument carries a value of the type. -/
def is (a : Argument) (t : TypeTag) : Bool := a.tag?.any (·.is t)

/-- The content of the argument, if it carries a value of the type. -/
def downcast? : Argument → TypeTag → Option Datum
  | .null, _ => none
  | .value v, t => v.downcast? t

/-- Moves the value out as one of the given type.  Null is no value; a value of another type is
handed back unchanged. -/
def take (a : Argument) (t : TypeTag) : Except Argument (Option Datum) :=
  match a with
  | .null => .ok none
  | .value v => if v.tag.is t then .ok (some v.datum) else .error a

/-- The argument as a value of the type of arguments. -/
def toDatum : Argument → Datum
  | .null => .null
  | .value v => .boxed v.tag v.datum

/-- The argument that a value of the type of arguments is. -/
def ofDatum : Datum → Option Argument
  | .null => some .null
  | .boxed t d => some (.value ⟨t, d⟩)
  | _ => none

@[simp] theorem ofDatum_toDatum (a : Argument) : ofDatum a.toDatum = some a := by
  cases a <;> rfl

end Argument

/-! ## Failures of a constructor -/

/-- How running a constructor can fail without crashing. -/
inductive InvokeError
  /-- The argument at a position could not be read as what the parameter wants. -/
  | argument (index : Nat) (expected : String)
  /-- The constructor itself reported a failure. -/
  | failed (source : String)
deriving DecidableEq, Repr

/-- The text of the failure. -/
def InvokeError.message : InvokeError → String
  | .argument index expected => s!"argument {index} is not a {expected}"
  | .failed source => source

/-! ## Argument lists -/

/-- The arguments of one call, by position. -/
structure ArgumentList where
  slots : List Argument
deriving Repr

namespace ArgumentList

/-- The list without arguments. -/
def empty : ArgumentList := ⟨[]⟩

def length (l : ArgumentList) : Nat := l.slots.length

def isEmpty (l : ArgumentList) : Bool := l.slots.isEmpty

/-- Takes the argument at a position as it is, and leaves null behind. -/
def takeArgument (l : ArgumentList) (index : Nat) : Except InvokeError Argument × ArgumentList :=
  match l.slots[index]? with
  | some a => (.ok a, ⟨l.slots.set index .null⟩)
  | none => (.error (.argument index "argument"), l)

/-- Takes the argument at a position as null or a value of the type. -/
def takeNullable (l : ArgumentList) (t : TypeTag) (index : Nat) :
    Except InvokeError (Option Datum) × ArgumentList :=
  match l.takeArgument index with
  | (.ok a, rest) =>
    match a.take t with
    | .ok d => (.ok d, rest)
    | .error _ => (.error (.argument index t.name), rest)
  | (.error e, rest) => (.error e, rest)

/-- Takes the argument at a position as a value of the type. -/
def takeValue (l : ArgumentList) (t : TypeTag) (index : Nat) :
    Except InvokeError Datum × ArgumentList :=
  match l.takeNullable t index with
  | (.ok (some d), rest) => (.ok d, rest)
  | (.ok none, rest) => (.error (.argument index t.name), rest)
  | (.error e, rest) => (.error e, rest)

theorem takeArgument_of_lt {l : ArgumentList} {index : Nat} (h : index < l.slots.length) :
    l.takeArgument index = (.ok l.slots[index], ⟨l.slots.set index .null⟩) := by
  simp [takeArgument, List.getElem?_eq_getElem h]

theorem takeArgument_of_le {l : ArgumentList} {index : Nat} (h : l.slots.length ≤ index) :
    l.takeArgument index = (.error (.argument index "argument"), l) := by
  simp [takeArgument, List.getElem?_eq_none h]

/-- The slots after a read: the addressed one is null, if there is such a slot. -/
theorem slots_takeArgument (l : ArgumentList) (index : Nat) :
    (l.takeArgument index).2.slots = l.slots.set index .null := by
  by_cases h : index < l.slots.length
  · simp [takeArgument_of_lt h]
  · have h : l.slots.length ≤ index := by omega
    simp [takeArgument_of_le h, List.set_eq_of_length_le h]

/-- The typed readers leave the same slots as the plain one. -/
theorem snd_takeNullable (l : ArgumentList) (t : TypeTag) (index : Nat) :
    (l.takeNullable t index).2 = (l.takeArgument index).2 := by
  unfold takeNullable
  split
  · split <;> simp_all
  · simp_all

theorem snd_takeValue (l : ArgumentList) (t : TypeTag) (index : Nat) :
    (l.takeValue t index).2 = (l.takeArgument index).2 := by
  rw [← snd_takeNullable l t index]
  unfold takeValue
  split <;> simp_all

@[simp] theorem length_takeArgument (l : ArgumentList) (index : Nat) :
    (l.takeArgument index).2.slots.length = l.slots.length := by
  simp [slots_takeArgument]

theorem getElem?_takeArgument_of_ne (l : ArgumentList) {index other : Nat} (h : index ≠ other) :
    (l.takeArgument index).2.slots[other]? = l.slots[other]? := by
  rw [slots_takeArgument, List.getElem?_set_ne h]

end ArgumentList

end Activation
