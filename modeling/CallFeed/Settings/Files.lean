/-
The files that settings may come from, and which of them is read.

A path leads through folders, step by step. When it leads to a file, that one is read if it ends in `.toml`, and otherwise
none is. When it does not, the file is the one whose name has `.toml` after it.

- `Files.walk?`: where steps lead to;
- `Files.settingsFile?`: the file to read, if there is one.
-/
import CallFeed.Text.Parts

namespace CallFeed.Settings

open CallFeed.Text

/-- files and folders, by the names on the way to each -/
structure Files where
  files : List (List Text × Octets) := []
  /-- folders that are there whether or not they hold files -/
  folders : List (List Text) := []

/-- the step back to the folder above -/
def stepBack : Text := "..".toList

/-- the steps of a path, without those that lead nowhere -/
def stepsOf (path : Text) : List Text := (parts '/' path).filter fun p => p ≠ [] && p ≠ ['.']

/-- what follows the last slash of a path -/
def tailOf (path : Text) : Text := (parts '/' path).getLast?.getD []

/-! ## Names -/

def tomlEnding : Text := ".toml".toList

/-- whether a name has an ending: a dot that is not its first character -/
def hasEnding (name : Text) : Bool := name.tail.contains '.'

/-- whether a name ends in `.toml` and has more before it -/
def hasTomlEnding (name : Text) : Bool := tomlEnding.isSuffixOf name && name != tomlEnding

/-- the name of a file in a folder whose own name has an ending, where the path to it ends in a slash -/
def placeholder : Text := ".placeholder".toList

/-- the steps to the file that has `.toml` in its name as well; a name with an ending counts as that of a folder when a
slash follows it -/
def withTomlEnding (path : Text) : List Text :=
  let steps := stepsOf path
  match steps.getLast? with
  | none => []
  | some name =>
    if !hasEnding name || tailOf path = name then steps.dropLast ++ [name ++ tomlEnding]
    else if tailOf path = [] then steps ++ [placeholder ++ tomlEnding]
    else steps ++ [tailOf path ++ tomlEnding]

/-! ## Files -/

namespace Files

/-- whether names lead to a folder; no names lead to the one that paths start in -/
def isFolder (fs : Files) (names : List Text) : Bool :=
  names = [] || fs.folders.any names.isPrefixOf || fs.files.any fun f => names.isPrefixOf f.1 && names ≠ f.1

/-- the names that steps lead to from a folder; every step starts in a folder that is there, and none leaves the folder
that paths start in -/
def walk? (fs : Files) (names : List Text) : List Text → Option (List Text)
  | [] => some names
  | p :: steps =>
    if !fs.isFolder names then none
    else if p ≠ stepBack then fs.walk? (names ++ [p]) steps
    else if names = [] then none
    else fs.walk? names.dropLast steps

/-- the octets of the file that steps lead to, if there is one -/
def at? (fs : Files) (steps : List Text) : Option Octets := (fs.walk? [] steps).bind fun names => fs.files.lookup names

/-- the octets of the file of a path, if there is one; a path that ends as a folder's does leads to no file -/
def named? (fs : Files) (path : Text) : Option Octets :=
  if some (tailOf path) = (stepsOf path).getLast? then fs.at? (stepsOf path) else none

/-- the name and the octets of the file to read, if there is one; paths start in the folder of the files -/
def settingsFile? (fs : Files) (path : Text) : Option (Text × Octets) :=
  let steps := stepsOf path
  if path.head? = some '/' ∨ steps.getLast? = some stepBack then none
  else
    match fs.named? path with
    | some octets => if steps.getLast?.any hasTomlEnding then some (joined ['/'] steps, octets) else none
    | none => (fs.at? (withTomlEnding path)).map fun octets => (joined ['/'] (withTomlEnding path), octets)

theorem walk?_back (fs : Files) (steps : List Text) : fs.walk? [] (stepBack :: steps) = none := by
  simp [walk?, isFolder]

theorem walk?_of_missing {fs : Files} {names : List Text} (h : fs.isFolder names = false) (p : Text)
    (steps : List Text) : fs.walk? names (p :: steps) = none := by
  simp [walk?, h]

end Files

end CallFeed.Settings
