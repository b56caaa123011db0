/-
TOML keys: one or more names with dots between them, and blanks around the dots. A name stands bare or in quotes on one
line.

- `name?`, `key?`: a name or a whole key, and what is left after it.
-/
import CallFeed.Toml.String

namespace CallFeed.Toml

/-- a key: the names before the last, and the last -/
structure Key where
  path : List Text
  name : Text
deriving DecidableEq, Repr

/-- how many names a key has -/
def Key.size (k : Key) : Nat := k.path.length + 1

/-- a character of a bare name -/
def isBare (c : Char) : Bool := c.isAlphanum || c == '_' || c == '-'

/-- the name that starts here -/
def name? : Text → Option (Text × Text)
  | '"' :: t => basicBody t
  | '\'' :: t => literalBody t
  | t =>
    match t.takeWhile isBare with
    | [] => none
    | name => some (name, t.dropWhile isBare)

/-- the names after each of so many dots at most -/
def morePath? : Nat → Text → Option (List Text × Text)
  | 0, t => some ([], t)
  | dots + 1, t =>
    match skipBlank t with
    | '.' :: rest => do
      let (name, rest) ← name? (skipBlank rest)
      let (names, rest) ← morePath? dots rest
      some (name :: names, rest)
    | rest => some ([], rest)

/-- the key that starts here -/
def key? (t : Text) : Option (Key × Text) := do
  let (name, rest) ← name? t
  let (names, rest) ← morePath? t.length rest
  match (name :: names).getLast? with
  | some last => some (⟨(name :: names).dropLast, last⟩, rest)
  | none => none

end CallFeed.Toml
