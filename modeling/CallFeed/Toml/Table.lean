/-
Changes to TOML tables.

A key is given a value once. A table may be given its own header once, and not after dotted keys have led to it; dotted
keys lead only to tables that have no header of their own; nothing is added to a table or an array written inline. A header
in double brackets adds a table to an array that such headers made.

- `Table.assign?`: a table with a value under a dotted key;
- `Table.place?`, `Table.start?`: where the table of a header goes, and what it starts with.
-/
import CallFeed.Toml.Key
import CallFeed.Toml.Value

namespace CallFeed.Toml

/-- the kind of a table that has to be made on the way to another -/
def madeKind (dotted : Bool) : TableKind := if dotted then .dotted else .implied

/-- the kind of a table once the way to another leads through it, if it may; dotted keys take over implied tables -/
def passedKind? (dotted : Bool) : TableKind → Option TableKind
  | .inline => none
  | .header => if dotted then none else some .header
  | .implied => some (madeKind dotted)
  | .dotted => some .dotted

/-- a table with a change made to the one at the end of a path -/
def Table.change? (dotted : Bool) (f : Table → Option Table) : List Text → Table → Option Table
  | [], t => f t
  | name :: path, t =>
    match lookup name t.entries with
    | none => (change? dotted f path ⟨madeKind dotted, []⟩).map fun sub => t.set name sub.value
    | some (.table kind entries) => do
      let sub ← change? dotted f path ⟨← passedKind? dotted kind, entries⟩
      return t.set name sub.value
    | some (.array true items) =>
      match items.getLast? with
      | some (.table kind entries) =>
        (change? dotted f path ⟨kind, entries⟩).map fun sub => t.set name (.array true (items.dropLast ++ [sub.value]))
      | _ => none
    | some _ => none

/-- a table with a value under a key it does not have -/
def Table.add? (t : Table) (key : Text) (v : Value) : Option Table :=
  match lookup key t.entries with
  | none => some (t.set key v)
  | some _ => none

/-- a table with a value under a dotted key -/
def Table.assign? (t : Table) (key : Key) (v : Value) : Option Table :=
  t.change? true (fun sub => if (sub.kind == .dotted) == key.path.isEmpty then none else sub.add? key.name v) key.path

/-- a header: the key of a table, and whether the table is one of an array -/
structure Header where
  key : Key
  ofArray : Bool
deriving DecidableEq, Repr

/-- a table with the finished table of a header in its place -/
def Table.place? (t : Table) (h : Header) (sub : Table) : Option Table :=
  if h.ofArray then
    match lookup h.key.name t.entries with
    | none => some (t.set h.key.name (.array true [sub.value]))
    | some (.array true items) => some (t.set h.key.name (.array true (items ++ [sub.value])))
    | some _ => none
  else some (t.set h.key.name sub.value)

/-- the entries that a table has when its header comes: those of the tables that longer headers have put into it -/
def Table.start? (t : Table) (h : Header) : Option Entries :=
  if h.ofArray then some []
  else
    match lookup h.key.name t.entries with
    | none => some []
    | some (.table .implied entries) => some entries
    | some _ => none

/-- the table at the end of a path, as headers find it -/
def Table.find? : List Text → Table → Option Table
  | [], t => some t
  | name :: path, t =>
    match lookup name t.entries with
    | none => some ⟨.implied, []⟩
    | some (.table kind entries) => do find? path ⟨← passedKind? false kind, entries⟩
    | some (.array true items) =>
      match items.getLast? with
      | some (.table kind entries) => find? path ⟨kind, entries⟩
      | _ => none
    | some _ => none

end CallFeed.Toml
