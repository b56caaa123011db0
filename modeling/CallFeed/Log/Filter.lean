/-
Which log lines are shown.

A filter is a list of directives. Of those that apply to a line the one with the longest target counts, of equally long ones
the one with a field, and of these the last.

- `Filter.ofText?`: a filter of which every directive can be read;
- `Filter.ofText`: what can be read of one, and errors only where nothing can;
- `Filter.notices`: what is said about the rest.
-/
import CallFeed.Log.Directive
import CallFeed.Text.Parts

namespace CallFeed

open CallFeed.Text

abbrev Filter := List Directive

namespace Filter

/-- the texts of directives, between commas -/
def directives (t : Text) : List Text := (parts ',' t).filter (· ≠ [])

/-- a filter that shows errors only, in place of an empty one -/
def orErrors : Filter → Filter
  | [] => [{ target := [], threshold := some .error }]
  | ds => ds

def ofText? (t : Text) : Option Filter := ((directives t).mapM fun s => (Directive.ofText s).toOption).map orErrors

def ofText (t : Text) : Filter := orErrors ((directives t).filterMap fun s => (Directive.ofText s).toOption)

/-- a line for each directive that cannot be read -/
def notices (t : Text) : List Text :=
  (directives t).filterMap fun s =>
    match Directive.ofText s with
    | .ok _ => none
    | .error f => some ("ignoring `".toList ++ s ++ "`: ".toList ++ f.message)

/-- the closer of two directives -/
def closer (best : Option Directive) (d : Directive) : Option Directive :=
  match best with
  | none => some d
  | some b =>
    if d.target.length < b.target.length || (d.target.length == b.target.length && b.field.isSome && d.field.isNone) then
      some b
    else some d

def shows (f : Filter) (target : Text) (l : Level) : Bool :=
  match (f.filter fun d => d.applies target).foldl closer none with
  | none => false
  | some d => d.threshold.shows l

end Filter

example : (Filter.ofText "off,feed=info".toList).shows "feed".toList .info = true := by decide +kernel

example : (Filter.ofText "warn".toList).shows "feed".toList .info = false := by decide +kernel

example : Filter.notices "warn,feed=most".toList =
    ["ignoring `feed=most`: ".toList ++ DirectiveFault.message .threshold] := by decide +kernel

end CallFeed
