/-
TOML values and tables.

A table keeps its keys in order. How it came about is kept with it, for that decides what may still be added: a table
under its own header, one that a longer header implies, one that dotted keys made, and one written inline.

- `Value.beyond?`: the first number, in the order of the keys, that no value can hold;
- `lookup_insert_self`, `lookup_insert_of_ne`: an entry is found under its key, and no other is touched by it.
-/
import CallFeed.Scalar

namespace CallFeed.Toml

open CallFeed.Text

/-- how a table came about -/
inductive TableKind where
  | header
  | implied
  | dotted
  | inline
deriving DecidableEq, Repr

/-- a number that cannot be held -/
inductive Beyond where
  | integer (f : NumeralFault)
  | float
deriving DecidableEq, Repr

def Beyond.message : Beyond → String
  | integer f => f.message
  | float => "floating-point number overflowed"

inductive Value where
  | scalar (s : Scalar)
  | beyond (b : Beyond)
  /-- an array; of tables, when headers made it -/
  | array (ofTables : Bool) (items : List Value)
  | table (kind : TableKind) (entries : List (Text × Value))

/-- the entries of a table -/
abbrev Entries := List (Text × Value)

structure Table where
  kind : TableKind
  entries : Entries

def Table.value (t : Table) : Value := .table t.kind t.entries

/-- the value of a key -/
def lookup (key : Text) : Entries → Option Value
  | [] => none
  | e :: es => if e.1 = key then some e.2 else lookup key es

/-- the entries with one more, or with another value of its key -/
def insert (key : Text) (v : Value) : Entries → Entries
  | [] => [(key, v)]
  | e :: es =>
    if e.1 = key then (key, v) :: es
    else if key < e.1 then (key, v) :: e :: es
    else e :: insert key v es

def Table.set (t : Table) (key : Text) (v : Value) : Table := { t with entries := insert key v t.entries }

mutual

/-- the first number in a value that cannot be held -/
def Value.beyond? : Value → Option Beyond
  | .scalar _ => none
  | .beyond b => some b
  | .array _ items => beyondIn? items
  | .table _ entries => beyondUnder? entries

def beyondIn? : List Value → Option Beyond
  | [] => none
  | v :: vs => v.beyond?.or (beyondIn? vs)

/-- the first number under entries that cannot be held -/
def beyondUnder? : List (Text × Value) → Option Beyond
  | [] => none
  | (_, v) :: es => v.beyond?.or (beyondUnder? es)

end

theorem lookup_insert_self (key : Text) (v : Value) (es : Entries) : lookup key (insert key v es) = some v := by
  induction es with
  | nil => simp [insert, lookup]
  | cons e es ih =>
    simp only [insert]
    split
    · simp [lookup]
    · rename_i h
      split
      · simp [lookup]
      · simp [lookup, h, ih]

theorem lookup_insert_of_ne {key other : Text} (h : other ≠ key) (v : Value) (es : Entries) :
    lookup other (insert key v es) = lookup other es := by
  induction es with
  | nil => simp [insert, lookup, h.symm]
  | cons e es ih =>
    simp only [insert]
    split
    · rename_i he
      simp [lookup, he, h.symm]
    · split
      · simp [lookup, h.symm]
      · simp [lookup, ih]

end CallFeed.Toml
