/-
TOML values as they are written, before it is asked what they stand for.

- `token`: the characters of a value that is neither text, array nor table;
- `written?`: the value that starts here, nested no deeper than a limit, and what is left after it.
-/
import CallFeed.Toml.Date
import CallFeed.Toml.Key

namespace CallFeed.Toml

/-- a value as it is written -/
inductive Written where
  | text (t : Text)
  | token (t : Text)
  | array (items : List Written)
  | table (entries : List (Key × Written))

/-- a character that ends a token -/
def endsToken (c : Char) : Bool :=
  c == ' ' || c == '\t' || c == '\n' || c == '\r' || c == '#' || c == '=' || c == ',' || c == '[' || c == ']' ||
    c == '\x7b' || c == '\x7d'

/-- the characters up to the end of a token -/
def untilEnd (t : Text) : Text := t.takeWhile fun c => !endsToken c

/-- what is left from the end of a token on -/
def fromEnd (t : Text) : Text := t.dropWhile fun c => !endsToken c

/-- the token that starts here; a single blank may come between a date and a time -/
def token (t : Text) : Text × Text :=
  match date? (untilEnd t), fromEnd t with
  | some (_, []), ' ' :: c :: rest =>
    if c.isDigit then (untilEnd t ++ ' ' :: untilEnd (c :: rest), fromEnd (c :: rest))
    else (untilEnd t, ' ' :: c :: rest)
  | _, rest => (untilEnd t, rest)

/-- the items of an array, at most so many, up to its closing bracket -/
def items? (value? : Text → Option (Written × Text)) : Nat → Text → Option (List Written × Text)
  | 0, _ => none
  | count + 1, t =>
    match skipVoid t with
    | ']' :: rest => some ([], rest)
    | t => do
      let (v, rest) ← value? t
      match skipVoid rest with
      | ']' :: rest => some ([v], rest)
      | ',' :: rest =>
        let (vs, rest) ← items? value? count rest
        some (v :: vs, rest)
      | _ => none

/-- a key, its equals sign and its value, and what may be skipped on both sides of the sign -/
def assignment? (skip : Text → Text) (value? : Text → Option (Written × Text)) (t : Text) :
    Option ((Key × Written) × Text) := do
  let (key, rest) ← key? t
  match skip rest with
  | '=' :: rest =>
    let (v, rest) ← value? (skip rest)
    some ((key, v), rest)
  | _ => none

/-- the entries of an inline table, at most so many, up to its closing brace -/
def entries? (value? : Text → Option (Written × Text)) : Nat → Text → Option (List (Key × Written) × Text)
  | 0, _ => none
  | count + 1, t =>
    match skipVoid t with
    | '\x7d' :: rest => some ([], rest)
    | t => do
      let (e, rest) ← assignment? skipVoid value? t
      match skipVoid rest with
      | '\x7d' :: rest => some ([e], rest)
      | ',' :: rest =>
        let (es, rest) ← entries? value? count rest
        some (e :: es, rest)
      | _ => none

/-- the value that starts here, and what is left; arrays and inline tables are nested no deeper than a limit -/
def written? : (limit : Nat) → Text → Option (Written × Text)
  | limit, '[' :: t =>
    match limit with
    | 0 => none
    | limit + 1 => (items? (written? limit) (t.length + 1) t).map fun r => (.array r.1, r.2)
  | limit, '\x7b' :: t =>
    match limit with
    | 0 => none
    | limit + 1 => (entries? (written? limit) (t.length + 1) t).map fun r => (.table r.1, r.2)
  | _, '"' :: t => (text? ('"' :: t)).map fun r => (.text r.1, r.2)
  | _, '\'' :: t => (text? ('\'' :: t)).map fun r => (.text r.1, r.2)
  | _, t => if (token t).1 = [] then none else some (.token (token t).1, (token t).2)

end CallFeed.Toml
