/-
What the sources of settings give, key by key.

Each of the seven fields has a key. A source gives values under paths; a value under the path of a key takes the place of
what an earlier source gave for it, a path into a key makes it a table or a sequence, and all other paths are ignored.

- `Field.ofKey?_key`: every field is found by its key;
- `given_eq_of_root_ne`: a value under another key leaves a field alone.
-/
import CallFeed.Settings.Path
import CallFeed.Toml.Value

namespace CallFeed.Settings

inductive Field where
  | logLevel
  | host
  | port
  | backlog
  | rate
  | durationSecs
  | consistentTenants
deriving DecidableEq, Repr

namespace Field

def all : List Field := [logLevel, host, port, backlog, rate, durationSecs, consistentTenants]

def key : Field → Text
  | logLevel => "log_level".toList
  | host => "host".toList
  | port => "port".toList
  | backlog => "backlog".toList
  | rate => "rate".toList
  | durationSecs => "duration_secs".toList
  | consistentTenants => "consistent_tenants".toList

/-- the field of a key -/
def ofKey? (key : Text) : Option Field := all.find? fun f => f.key == key

theorem ofKey?_key (f : Field) : ofKey? f.key = some f := by cases f <;> decide

end Field

/-- where a value was given -/
inductive Origin where
  | file (name : Text)
  | environment
deriving DecidableEq, Repr

def Origin.text : Origin → Text
  | file name => name
  | environment => "the environment".toList

/-- a value as a source gives it -/
inductive Given where
  | scalar (s : Scalar)
  | table
  | sequence
deriving DecidableEq, Repr

/-- a TOML value as it is given, if all numbers in it can be held -/
def Given.ofToml : Toml.Value → Except Toml.Beyond Given
  | .scalar s => .ok (.scalar s)
  | .beyond b => .error b
  | .array _ items =>
    match Toml.beyondIn? items with
    | some b => .error b
    | none => .ok .sequence
  | .table _ entries =>
    match Toml.beyondUnder? entries with
    | some b => .error b
    | none => .ok .table

/-- what stands under a key -/
inductive Entry where
  | scalar (s : Scalar) (origin : Origin)
  | table
  /-- a sequence; it has no origin when an index made it -/
  | sequence (origin : Option Origin)
deriving DecidableEq, Repr

/-- what stands under each field's key, so far -/
abbrev Entries := Field → Option Entry

namespace Entries

def empty : Entries := fun _ => none

/-- what stands under a key after a value was given at steps below it -/
def entryAfter (before : Option Entry) (steps : List Step) (g : Given) (origin : Origin) : Entry :=
  match steps with
  | .name _ :: _ => .table
  | .index _ :: _ =>
    match before with
    | some (.sequence o) => .sequence o
    | _ => .sequence none
  | [] =>
    match g with
    | .scalar s => .scalar s origin
    | .table => .table
    | .sequence => .sequence (some origin)

/-- the entries after a value was given under a path -/
def given (origin : Origin) (es : Entries) (item : Text × Given) : Entries :=
  match Path.ofText? item.1 with
  | none => es
  | some path => fun f => if f.key = path.root then some (entryAfter (es f) path.steps item.2 origin) else es f

/-- the entries after all that a source gives -/
def layered (origin : Origin) (items : List (Text × Given)) (es : Entries) : Entries := items.foldl (given origin) es

theorem given_eq_of_root_ne {origin : Origin} {es : Entries} {item : Text × Given} {f : Field}
    (h : ∀ path, Path.ofText? item.1 = some path → f.key ≠ path.root) : given origin es item f = es f := by
  cases hp : Path.ofText? item.1 with
  | none => simp [given, hp]
  | some path => simp [given, hp, h path hp]

theorem layered_cons (origin : Origin) (item : Text × Given) (items : List (Text × Given)) (es : Entries) :
    layered origin (item :: items) es = layered origin items (given origin es item) := rfl

theorem layered_append (origin : Origin) (a b : List (Text × Given)) (es : Entries) :
    layered origin (a ++ b) es = layered origin b (layered origin a es) := List.foldl_append

end Entries

end CallFeed.Settings
