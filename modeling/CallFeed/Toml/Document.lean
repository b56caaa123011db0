/-
TOML documents.

A document is read in two steps: first its lines, then, one line after the other, the tables that they describe. So a
document whose lines cannot be read is malformed, whatever its keys are; of the other faults the first counts.

- `lines?`: the lines of a document;
- `Written.value`: what a written value stands for;
- `document`: the entries of a document.
-/
import CallFeed.Toml.Number
import CallFeed.Toml.Table
import CallFeed.Toml.Written

namespace CallFeed.Toml

/-! ## Lines -/

/-- a line with something on it -/
inductive Line where
  | header (h : Header)
  | entry (key : Key) (value : Written)

/-- how deep values may be nested -/
def depthLimit : Nat := 80

/-- the header that starts here, after its bracket or two -/
def header? (ofArray : Bool) (t : Text) : Option (Header × Text) := do
  let (key, rest) ← key? (skipBlank t)
  match ofArray, skipBlank rest with
  | false, ']' :: rest => some (⟨key, false⟩, rest)
  | true, ']' :: ']' :: rest => some (⟨key, true⟩, rest)
  | _, _ => none

/-- the line that starts here, and what is left after its content -/
def line? : Text → Option (Line × Text)
  | '[' :: '[' :: t => (header? true t).map fun r => (.header r.1, r.2)
  | '[' :: t => (header? false t).map fun r => (.header r.1, r.2)
  | t => (assignment? skipBlank (written? depthLimit) t).map fun r => (.entry r.1.1 r.1.2, r.2)

/-- the lines that something is on, at most so many -/
def lines? : Nat → Text → Option (List Line)
  | 0, t => if t = [] then some [] else none
  | count + 1, t =>
    match skipVoid t with
    | [] => some []
    | t => do
      let (line, rest) ← line? t
      let lines ← lines? count (← endOfLine? rest)
      some (line :: lines)

/-! ## Faults -/

/-- why a document cannot be read -/
inductive DocumentFault where
  /-- it is no TOML, or gives a key or a table twice -/
  | malformed
  /-- a key has too many names -/
  | longKey
deriving DecidableEq, Repr

/-- the words for a fault, a line of their own; where something is malformed is not told -/
def DocumentFault.message? : DocumentFault → Option String
  | malformed => none
  | longKey => some "recursion limit\n"

/-- what is there, in a document that is malformed without it -/
def needed {α : Type} : Option α → Except DocumentFault α
  | some x => .ok x
  | none => .error .malformed

/-- how many names a key may have -/
def keyLimit : Nat := 80

/-- refuse a key that is too long -/
def Key.checked (k : Key) : Except DocumentFault Key := if k.size ≤ keyLimit then .ok k else .error .longKey

/-! ## Values -/

/-- the value of a token -/
def tokenValue? (t : Text) : Option Value :=
  if t = "true".toList then some (.scalar (.boolean true))
  else if t = "false".toList then some (.scalar (.boolean false))
  else (number? t).or ((moment? t).map fun m => .scalar (.text m))

mutual

/-- what a written value stands for -/
def Written.value : Written → Except DocumentFault Value
  | .text t => .ok (.scalar (.text t))
  | .token t => needed (tokenValue? t)
  | .array items => (values items).map (.array false)
  | .table entries => (tableWith ⟨.inline, []⟩ entries).map Table.value

def values : List Written → Except DocumentFault (List Value)
  | [] => .ok []
  | w :: ws => do
    let v ← w.value
    let vs ← values ws
    return v :: vs

/-- a table with written entries added to it -/
def tableWith (t : Table) : List (Key × Written) → Except DocumentFault Table
  | [] => .ok t
  | (key, w) :: es => do
    let key ← key.checked
    let v ← w.value
    tableWith (← needed (t.assign? key v)) es

end

/-! ## Documents -/

/-- a document being read: the tables that are finished, and the one that entries are now added to -/
structure Draft where
  root : Table := ⟨.header, []⟩
  current : Table := ⟨.header, []⟩
  header : Option Header := none

/-- the finished tables with the current one in its place -/
def Draft.finish? (d : Draft) : Option Table :=
  match d.header with
  | none => some d.current
  | some h => d.root.change? false (fun t => t.place? h d.current) h.key.path

/-- a header has come -/
def Draft.open? (d : Draft) (h : Header) : Option Draft := do
  let root ← d.finish?
  let parent ← if h.ofArray then some root else root.find? h.key.path
  let entries ← parent.start? h
  some ⟨root, ⟨.header, entries⟩, some h⟩

/-- a line has come -/
def Draft.add (d : Draft) : Line → Except DocumentFault Draft
  | .header h => do
    let _ ← h.key.checked
    needed (d.open? h)
  | .entry key w => do
    let key ← key.checked
    let v ← w.value
    let current ← needed (d.current.assign? key v)
    return { d with current := current }

/-- a text without the byte order mark in front of it -/
def dropMark (t : Text) : Text := if t.head? = some (Char.ofNat 0xFEFF) then t.drop 1 else t

/-- the entries of a document -/
def document (t : Text) : Except DocumentFault Entries := do
  let lines ← needed (lines? (t.length + 1) (dropMark t))
  let draft ← lines.foldlM Draft.add {}
  let root ← needed draft.finish?
  return root.entries

end CallFeed.Toml
