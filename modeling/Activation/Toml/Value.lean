/-!
# Values of a TOML document

Scalars, lists and tables.  A table remembers how it came about, which decides what may still be
added to it: a table under a header takes assignments while its header lasts, one that a header or
a dotted key only passed through may be passed through again, and one in braces is closed.

`assign`, `openTable` and `openElement` are the three ways in which a document grows; each is
refused where it would define something twice.
-/

namespace Activation.Toml

/-- A decimal number, `digits · 10 ^ power`, or one of the two values that have no digits. -/
inductive Floating
  | decimal (negative : Bool) (digits : Nat) (power : Int)
  | infinite (negative : Bool)
  | undefined
deriving DecidableEq, Repr

/-- How a table came about. -/
inductive Opening
  /-- By a header of its own, or as the document itself. -/
  | header
  /-- On the way to the table of some header. -/
  | implied
  /-- On the way of a dotted key. -/
  | dotted
  /-- Between braces. -/
  | braces
deriving DecidableEq, Repr

/-- A value. -/
inductive Value
  | text (s : String)
  | integer (n : Int)
  | floating (x : Floating)
  /-- A number that cannot be read. -/
  | unreadable
  | boolean (b : Bool)
  /-- A date, a time of day, or both. -/
  | moment
  /-- A list; `ofTables` if it is built by headers, one table each. -/
  | list (ofTables : Bool) (items : List Value)
  | table (opening : Opening) (entries : List (String × Value))

/-- The entries of a table, in the order in which they were made. -/
abbrev Entries := List (String × Value)

namespace Entries

/-- The value of a key. -/
def get? (entries : Entries) (key : String) : Option Value :=
  (entries.find? (·.1 == key)).map (·.2)

/-- Gives a key a value, in its old place if it has one. -/
def put (entries : Entries) (key : String) (value : Value) : Entries :=
  if entries.any (·.1 == key) then
    entries.map fun e => if e.1 == key then (key, value) else e
  else entries ++ [(key, value)]

/-- Changes the table that a path leads to, making the tables on the way that do not exist yet.
`byKey` says that the path is the front of a dotted key, which may not pass through a table that
has a header. -/
def alter (byKey : Bool) (change : Opening → Entries → Option (Opening × Entries)) :
    List String → Opening → Entries → Option (Opening × Entries)
  | [], opening, entries => change opening entries
  | key :: path, opening, entries =>
    match entries.get? key with
    | none => do
      let fresh := if byKey then Opening.dotted else .implied
      let (o, es) ← alter byKey change path fresh []
      some (opening, entries.put key (.table o es))
    | some (.table o es) =>
      if o = .braces ∨ (byKey ∧ o = .header) then none
      else do
        let (o, es) ← alter byKey change path o es
        some (opening, entries.put key (.table o es))
    | some (.list true items) =>
      match items.getLast? with
      | some (.table o es) => do
        let (o, es) ← alter byKey change path o es
        some (opening, entries.put key (.list true (items.dropLast ++ [.table o es])))
      | _ => none
    | some _ => none

/-- Gives the key at the end of a dotted key its value.  The key must be new.  The table that a
dotted key leads to must have no header; it counts as made by dotted keys from then on. -/
def assign (path : List String) (key : String) (value : Value) :
    Opening → Entries → Option (Opening × Entries) :=
  alter true (fun opening entries =>
    if (entries.get? key).isSome then none
    else if path.isEmpty then some (opening, entries ++ [(key, value)])
    else if opening = .header then none
    else some (.dotted, entries ++ [(key, value)])) path

/-- Opens the table of a header. -/
def openTable (path : List String) (key : String) : Entries → Option Entries := fun root => do
  let (_, es) ← alter false (fun opening entries =>
    match entries.get? key with
    | none => some (opening, entries ++ [(key, .table .header [])])
    | some (.table .implied es) => some (opening, entries.put key (.table .header es))
    | some _ => none) path .header root
  some es

/-- Opens the next table of a list of tables. -/
def openElement (path : List String) (key : String) : Entries → Option Entries := fun root => do
  let (_, es) ← alter false (fun opening entries =>
    match entries.get? key with
    | none => some (opening, entries ++ [(key, .list true [.table .header []])])
    | some (.list true items) =>
      some (opening, entries.put key (.list true (items ++ [.table .header []])))
    | some _ => none) path .header root
  some es

/-- Makes an assignment in the table of the current header. -/
def assignUnder (current : List String) (path : List String) (key : String) (value : Value) :
    Entries → Option Entries := fun root => do
  let (_, es) ← alter false (assign path key value) current .header root
  some es

end Entries

end Activation.Toml
