/-
Paths to settings. A path is a name and then steps into what it names: `.` and a name, or an index in brackets. What is
not of this form is no path.

- `Path.ofText?`: the path of a text;
- `Path.ofText?_name`: a bare name is the path of one step.
-/
import CallFeed.Text.Numeral

namespace CallFeed.Settings

open CallFeed.Text

inductive Step where
  | name (t : Text)
  | index (n : Int)
deriving DecidableEq, Repr

/-- how many items no sequence can have -/
def itemLimit : Nat := 144115188075855872

/-- whether a step is an index that no sequence reaches, from its start or from its end -/
def Step.tooFar : Step → Bool
  | .name _ => false
  | .index n => decide (itemLimit ≤ n.natAbs)

structure Path where
  root : Text
  steps : List Step
deriving DecidableEq, Repr

namespace Path

/-- a character of a name -/
def isNameChar (c : Char) : Bool := c.isAlphanum || c == '_' || c == '-'

def isBlank (c : Char) : Bool := c == ' ' || c == '\t'

/-- the index in a text from after its opening bracket, and what is left after the closing one -/
def index? (t : Text) : Option (Int × Text) :=
  let t := t.dropWhile isBlank
  let (sign, body) := match t with
    | '-' :: rest => (['-'], rest)
    | t => ([], t)
  let digits := body.takeWhile Char.isDigit
  match readSigned 10 signedBound (sign ++ digits), (body.dropWhile Char.isDigit).dropWhile isBlank with
  | .ok n, ']' :: rest => some (n, rest)
  | _, _ => none

/-- the steps of a text, at most so many -/
def steps? : Nat → Text → Option (List Step)
  | _, [] => some []
  | 0, _ => none
  | count + 1, '.' :: t =>
    match t.takeWhile isNameChar with
    | [] => none
    | name => (steps? count (t.dropWhile isNameChar)).map (.name name :: ·)
  | count + 1, '[' :: t =>
    match index? t with
    | none => none
    | some (n, rest) => (steps? count rest).map (.index n :: ·)
  | _, _ => none

def ofText? (t : Text) : Option Path :=
  match t.takeWhile isNameChar with
  | [] => none
  | root => (steps? t.length (t.dropWhile isNameChar)).map fun steps => ⟨root, steps⟩

/-- whether all steps can be taken -/
def reachable (p : Path) : Bool := !p.steps.any Step.tooFar

theorem takeWhile_of_all {p : Char → Bool} {t : Text} (h : ∀ c ∈ t, p c = true) :
    t.takeWhile p = t ∧ t.dropWhile p = [] := by
  induction t with
  | nil => exact ⟨rfl, rfl⟩
  | cons c t ih =>
    obtain ⟨h1, h2⟩ := ih fun d hd => h d (List.mem_cons_of_mem c hd)
    simp [h c List.mem_cons_self, h1, h2]

theorem ofText?_name {t : Text} (hne : t ≠ []) (h : ∀ c ∈ t, isNameChar c = true) : ofText? t = some ⟨t, []⟩ := by
  obtain ⟨h1, h2⟩ := takeWhile_of_all h
  cases t with
  | nil => exact absurd rfl hne
  | cons c t => rw [ofText?, h1, h2]; simp [steps?]

end Path

end CallFeed.Settings
