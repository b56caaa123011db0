/-
Loading settings: first a file, then the environment.

No file is no fault. In the environment all variables count whose name, in small letters, starts with `presence_flood_`; the
rest of the name is the path.

- `load`: the settings, or what is wrong with the sources;
- `LoadFault.message?`: the words for it, but none for a file that is malformed.
-/
import CallFeed.Settings.Conversion
import CallFeed.Settings.Files
import CallFeed.Toml.Document
import CallFeed.Text.Utf8

namespace CallFeed.Settings

open CallFeed.Text

/-- the variables of an environment -/
abbrev Environment := List (Text × Octets)

/-- why settings cannot be loaded -/
inductive LoadFault where
  | document (f : Toml.DocumentFault) (file : Text)
  | beyond (b : Toml.Beyond) (file : Text)
  | notText (path : Text) (value : Octets)
  /-- an index that no sequence reaches -/
  | outOfReach
  | type (f : TypeFault)
deriving DecidableEq, Repr

/-- words about a file -/
def inFile (words : String) (file : Text) : Text := words.toList ++ " in ".toList ++ file

def LoadFault.message? : LoadFault → Option Text
  | document f file => f.message?.map (inFile · file)
  | beyond b file => some (inFile b.message file)
  | notText path value =>
    some ("env variable ".toList ++ quoted path ++ " contains non-Unicode data: ".toList ++ quotedOctets value)
  | outOfReach => some "capacity overflow".toList
  | type f => some f.message

/-- the entries after all that a source gives, if every index in it can be reached -/
def layeredWithin (origin : Origin) (items : List (Text × Given)) (es : Entries) : Except LoadFault Entries :=
  if items.all fun item => (Path.ofText? item.1).all Path.reachable then .ok (es.layered origin items)
  else .error .outOfReach

/-! ## The file -/

/-- the octets without a byte order mark in front -/
def dropMark : Octets → Octets
  | 0xEF :: 0xBB :: 0xBF :: rest => rest
  | octets => octets

/-- what a file gives -/
def fileItems (name : Text) (octets : Octets) : Except LoadFault (List (Text × Given)) :=
  match Toml.document (decodeLossy (dropMark octets)) with
  | .error f => .error (.document f name)
  | .ok entries => (entries.mapM fun e => (Given.ofToml e.2).map (e.1, ·)).mapError (.beyond · name)

/-- the entries that the file to read gives -/
def Files.entries (files : Files) (path : Text) : Except LoadFault Entries :=
  match files.settingsFile? path with
  | none => .ok .empty
  | some (name, octets) => (fileItems name octets).bind fun items => layeredWithin (.file name) items .empty

/-! ## The environment -/

/-- how the names of the variables that count start -/
def variableStart : Text := "presence_flood_".toList

/-- the path that a variable gives a value for, if it counts -/
def variablePath? (name : Text) : Option Text :=
  if variableStart.isPrefixOf (lower name) then some ((lower name).drop variableStart.length) else none

/-- what a variable gives, if it counts -/
def variableItem? (v : Text × Octets) : Except LoadFault (Option (Text × Given)) :=
  match variablePath? v.1 with
  | none => .ok none
  | some path =>
    match decode? v.2 with
    | none => .error (.notText path v.2)
    | some t => .ok (some (path, .scalar (.text t)))

/-- what the environment gives -/
def Environment.items (env : Environment) : Except LoadFault (List (Text × Given)) :=
  (env.mapM variableItem?).map fun items => items.filterMap id

/-! ## Both -/

def load (files : Files) (path : Text) (env : Environment) : Except LoadFault Settings := do
  let entries ← files.entries path
  let items ← env.items
  let entries ← layeredWithin .environment items entries
  entries.settings.mapError .type

end CallFeed.Settings
