/-!
# Readers

A reader takes a value from the front of a text, or fails if something else stands there.  Readers
are put together with the operations of a monad with choice: `p <|> q` tries `q` where `p` failed,
at the place where `p` began.

Repetition (`many`) is bounded by the number of characters that are left, which no reader that
takes at least one character each time can exceed.
-/

namespace Activation.Text

/-- A reader of values from the front of a text. -/
abbrev Reader (α : Type) := StateT (List Char) Option α

namespace Reader

variable {α β : Type}

/-- The next character, if it is of the given kind. -/
def satisfying (p : Char → Bool) : Reader Char := fun s =>
  match s with
  | c :: rest => if p c then some (c, rest) else none
  | [] => none

/-- The given character. -/
def char (c : Char) : Reader Char := satisfying (· == c)

/-- The given characters. -/
def chars : List Char → Reader Unit
  | [] => pure ()
  | c :: cs => do
    let _ ← char c
    chars cs

/-- The longest run of characters of the given kind, possibly empty. -/
def run (p : Char → Bool) : Reader (List Char) := fun s => some (s.takeWhile p, s.dropWhile p)

/-- The longest run of characters of the given kind, at least one. -/
def run1 (p : Char → Bool) : Reader (List Char) := do
  let cs ← run p
  if cs.isEmpty then failure else pure cs

/-- Up to the given number of repetitions. -/
def manyUpTo (r : Reader α) : Nat → Reader (List α)
  | 0 => pure []
  | n + 1 => (do
      let a ← r
      let rest ← manyUpTo r n
      pure (a :: rest)) <|> pure []

/-- As many repetitions as there are. -/
def many (r : Reader α) : Reader (List α) := fun s => manyUpTo r s.length s

/-- One or more, with separators between them. -/
def separated (separator : Reader β) (r : Reader α) : Reader (List α) := do
  let first ← r
  let rest ← many (separator *> r)
  pure (first :: rest)

/-- Succeeds at the end of the text only. -/
def atEnd : Reader Unit := fun s => if s.isEmpty then some ((), s) else none

/-- What the reader makes of a whole text. -/
def whole (r : Reader α) (s : List Char) : Option α :=
  match r s with
  | some (a, []) => some a
  | _ => none

end Reader

end Activation.Text
