/-
Lines that give an integer to a name.

A line before any header gives its value to a key of the document itself. Once a key has a single value, nothing that
follows takes it away: to give it another, or to make a table of it, is a fault.

- `lines?_assignments`: the lines of a text that starts with such lines;
- `Draft.Keeps.add`: a line leaves a single value where it is;
- `lookup_of_line`, `lookup_of_assignments`: the document has the value under the key.
-/
import CallFeed.Proofs.Toml.Integers
import CallFeed.Proofs.Toml.Order

namespace CallFeed.Toml

open CallFeed.Text

/-! ## The text of a line -/

/-- a text whose first line gives an integer to a name -/
def assignment (name : Text) (v : Int) (rest : Text) : Text :=
  name ++ ' ' :: '=' :: ' ' :: (integerText v ++ '\n' :: rest)

/-- a text that starts with lines that give integers to names -/
def assignments (lines : List (Text × Int)) (rest : Text) : Text := lines.foldr (fun l t => assignment l.1 l.2 t) rest

/-- such a line, once it is read -/
def assignmentLine (l : Text × Int) : Line := .entry ⟨[], l.1⟩ (.token (integerText l.2))

/-- a name that needs no quotes -/
def IsBareName (name : Text) : Prop := name ≠ [] ∧ ∀ c ∈ name, isBare c = true

/-- a bare name starts with no character that means something else -/
theorem IsBareName.ne_cons {name : Text} (h : IsBareName name) {c : Char} (hc : isBare c = false) (s t : Text) :
    name ++ s ≠ c :: t := append_ne_cons_of_forall h.1 h.2 hc s t

theorem name?_bare {name : Text} (h : IsBareName name) (t : Text) :
    name? (name ++ ' ' :: t) = some (name, ' ' :: t) := by
  obtain ⟨htake, hdrop⟩ := takeWhile_append_stop h.2 (show isBare ' ' = false by decide) t
  unfold name?
  split
  · rename_i heq
    exact absurd heq (h.ne_cons (by decide) _ _)
  · rename_i heq
    exact absurd heq (h.ne_cons (by decide) _ _)
  · obtain ⟨c, cs, hcs⟩ := List.exists_cons_of_ne_nil h.1
    rw [htake, hdrop, hcs]

theorem key?_bare {name : Text} (h : IsBareName name) (t : Text) :
    key? (name ++ ' ' :: '=' :: t) = some (⟨[], name⟩, '=' :: t) := by
  have hpath (dots : Nat) : morePath? (dots + 1) (' ' :: '=' :: t) = some ([], '=' :: t) := rfl
  have hlength : (name ++ ' ' :: '=' :: t).length = (name ++ '=' :: t).length + 1 := by
    simp only [List.length_append, List.length_cons]
    omega
  simp only [key?, name?_bare h, hlength, hpath, Option.bind_eq_bind, Option.bind_some]
  rfl

/-- the text of an integer starts with no character that means something else -/
theorem integerText_append_ne_cons (v : Int) {c : Char} (hc : isIntegerChar c = false) (s t : Text) :
    integerText v ++ s ≠ c :: t := append_ne_cons_of_forall (integerText_ne_nil v) (fun _ => isIntegerChar_of_mem) hc s t

/-- a character of an integer is none of those that something else starts or ends with -/
theorem not_endsToken {c : Char} (h : isIntegerChar c = true) : endsToken c = false := by
  rw [← Bool.not_eq_true]
  intro hend
  simp only [endsToken, Bool.or_eq_true, beq_iff_eq] at hend
  rcases hend with (((((((((rfl | rfl) | rfl) | rfl) | rfl) | rfl) | rfl) | rfl) | rfl) | rfl) | rfl <;> cases h

theorem not_isBlank {c : Char} (h : isIntegerChar c = true) : isBlank c = false := by
  rw [← Bool.not_eq_true]
  intro hblank
  simp only [isBlank, Bool.or_eq_true, beq_iff_eq] at hblank
  rcases hblank with rfl | rfl <;> cases h

theorem skipBlank_integerText (v : Int) (rest : Text) :
    skipBlank (' ' :: (integerText v ++ rest)) = integerText v ++ rest := by
  obtain ⟨c, t, hc⟩ := List.exists_cons_of_ne_nil (integerText_ne_nil v)
  have hstop : ¬ isBlank c = true := by
    rw [not_isBlank (isIntegerChar_of_mem (hc ▸ List.mem_cons_self))]
    exact Bool.false_ne_true
  rw [skipBlank, List.dropWhile_cons_of_pos rfl, hc]
  exact List.dropWhile_cons_of_neg hstop

theorem token_integerText (v : Int) (rest : Text) :
    token (integerText v ++ '\n' :: rest) = (integerText v, '\n' :: rest) := by
  obtain ⟨htake, hdrop⟩ := takeWhile_append_stop (p := fun c => !endsToken c) (s := integerText v) (c := '\n')
    (fun c hc => by rw [not_endsToken (isIntegerChar_of_mem hc)]; rfl) rfl rest
  have huntil : untilEnd (integerText v ++ '\n' :: rest) = integerText v := htake
  have hfrom : fromEnd (integerText v ++ '\n' :: rest) = '\n' :: rest := hdrop
  unfold token
  rw [huntil, hfrom]
  split
  · rename_i heq
    cases heq
  · rfl

theorem written?_integerText (limit : Nat) (v : Int) (rest : Text) :
    written? limit (integerText v ++ '\n' :: rest) = some (.token (integerText v), '\n' :: rest) := by
  unfold written?
  -- an integer opens no bracket and no quote
  split
  · rename_i heq
    exact absurd heq (integerText_append_ne_cons v (by decide) _ _)
  · rename_i heq
    exact absurd heq (integerText_append_ne_cons v (by decide) _ _)
  · rename_i heq
    exact absurd heq (integerText_append_ne_cons v (by decide) _ _)
  · rename_i heq
    exact absurd heq (integerText_append_ne_cons v (by decide) _ _)
  · rw [token_integerText]
    exact if_neg (integerText_ne_nil v)

theorem line?_assignment {name : Text} (h : IsBareName name) (v : Int) (rest : Text) :
    line? (assignment name v rest) = some (.entry ⟨[], name⟩ (.token (integerText v)), '\n' :: rest) := by
  have hassignment : assignment? skipBlank (written? depthLimit) (assignment name v rest) =
      some ((⟨[], name⟩, .token (integerText v)), '\n' :: rest) := by
    unfold assignment? assignment
    rw [key?_bare h]
    show (written? depthLimit (skipBlank (' ' :: (integerText v ++ '\n' :: rest)))).bind _ = _
    rw [skipBlank_integerText, written?_integerText]
    rfl
  unfold line?
  split
  · rename_i heq
    exact absurd heq (h.ne_cons (by decide) _ _)
  · rename_i heq
    exact absurd heq (h.ne_cons (by decide) _ _)
  · rw [hassignment]
    rfl

theorem skipVoid_assignment {name : Text} (h : IsBareName name) (v : Int) (rest : Text) :
    skipVoid (assignment name v rest) = assignment name v rest := by
  unfold skipVoid
  -- a bare name is neither blank nor a comment
  split
  · rename_i heq
    exact absurd heq (h.ne_cons (by decide) _ _)
  · rename_i heq
    exact absurd heq (h.ne_cons (by decide) _ _)
  · rename_i heq
    exact absurd heq (h.ne_cons (by decide) _ _)
  · rename_i heq
    exact absurd heq (h.ne_cons (by decide) _ _)
  · rename_i heq
    exact absurd heq (h.ne_cons (by decide) _ _)
  · rfl

theorem assignment_ne_nil (name : Text) (v : Int) (rest : Text) : assignment name v rest ≠ [] :=
  List.append_ne_nil_of_right_ne_nil name (List.cons_ne_nil _ _)

theorem lines?_assignment {name : Text} (h : IsBareName name) (v : Int) (rest : Text) (count : Nat) :
    lines? (count + 1) (assignment name v rest) = (lines? count rest).map (assignmentLine (name, v) :: ·) := by
  have hend : endOfLine? ('\n' :: rest) = some rest := rfl
  rw [lines?, skipVoid_assignment h]
  split
  · rename_i heq
    exact absurd heq (assignment_ne_nil name v rest)
  · rw [line?_assignment h]
    show ((endOfLine? ('\n' :: rest)).bind fun t => (lines? count t).bind fun lines => some (_ :: lines)) = _
    rw [hend, Option.bind_some]
    cases lines? count rest <;> rfl

/-- **The lines of a text that starts with lines that give integers to bare names.** -/
theorem lines?_assignments {lines : List (Text × Int)} (h : ∀ l ∈ lines, IsBareName l.1) {rest : Text} {count : Nat}
    {ls : List Line} (hls : lines? count (assignments lines rest) = some ls) :
    ∃ after, ls = lines.map assignmentLine ++ after := by
  induction lines generalizing count ls with
  | nil => exact ⟨ls, rfl⟩
  | cons l lines ih =>
    obtain ⟨hl, hlines⟩ := List.forall_mem_cons.1 h
    change lines? count (assignment l.1 l.2 (assignments lines rest)) = some ls at hls
    cases count with
    | zero =>
      rw [lines?, if_neg (assignment_ne_nil l.1 l.2 _)] at hls
      cases hls
    | succ count =>
      rw [lines?_assignment hl] at hls
      obtain ⟨ls', hls', rfl⟩ := Option.map_eq_some_iff.1 hls
      obtain ⟨after, rfl⟩ := ih hlines hls'
      exact ⟨after, rfl⟩

/-! ## Single values stay -/

/-- a key has a single value -/
def Table.Has (t : Table) (key : Text) (x : Scalar) : Prop := lookup key t.entries = some (.scalar x)

section

variable {t t' : Table} {key : Text} {x : Scalar}

theorem Table.has_set (key : Text) (x : Scalar) : (t.set key (.scalar x)).Has key x := lookup_insert_self key _ _

theorem Table.Has.set (ht : t.Has key x) {other : Text} (hne : other ≠ key) (v : Value) : (t.set other v).Has key x :=
  (lookup_insert_of_ne (Ne.symm hne) v _).trans ht

theorem Table.Has.add? (ht : t.Has key x) {other : Text} {v : Value} (h : t.add? other v = some t') : t'.Has key x := by
  unfold Table.add? at h
  split at h
  · rename_i hnone
    cases h
    refine ht.set (fun heq => ?_) v
    rw [heq, ht] at hnone
    cases hnone
  · cases h

/-- a way into a table does not lead through a single value -/
theorem Table.Has.change? (ht : t.Has key x) {dotted : Bool} {f : Table → Option Table} {path : List Text}
    (hf : path = [] → ∀ u, f t = some u → u.Has key x) (h : t.change? dotted f path = some t') : t'.Has key x := by
  cases path with
  | nil => exact hf rfl t' h
  | cons name path =>
    have hne : name ≠ key := by
      rintro rfl
      rw [Table.change?, ht] at h
      cases h
    rw [Table.change?] at h
    split at h
    · obtain ⟨sub, -, rfl⟩ := Option.map_eq_some_iff.1 h
      exact ht.set hne _
    · obtain ⟨kind, -, h⟩ := Option.bind_eq_some_iff.1 h
      obtain ⟨sub, -, h⟩ := Option.bind_eq_some_iff.1 h
      cases h
      exact ht.set hne _
    · split at h
      · obtain ⟨sub, -, rfl⟩ := Option.map_eq_some_iff.1 h
        exact ht.set hne _
      · cases h
    · cases h

theorem Table.Has.assign? (ht : t.Has key x) {other : Key} {v : Value} (h : t.assign? other v = some t') :
    t'.Has key x := by
  refine ht.change? (fun _ u hu => ?_) h
  split at hu
  · cases hu
  · exact ht.add? hu

/-- only a header in single brackets could take the place of a single value -/
theorem Table.Has.place? (ht : t.Has key x) {hd : Header} {sub : Table} (hne : hd.ofArray = false → hd.key.name ≠ key)
    (h : t.place? hd sub = some t') : t'.Has key x := by
  unfold Table.place? at h
  split at h
  · have hother : hd.key.name ≠ key := by
      intro heq
      rw [heq, ht] at h
      cases h
    split at h
    · cases h
      exact ht.set hother _
    · cases h
      exact ht.set hother _
    · cases h
  · rename_i harray
    cases h
    exact ht.set (hne (Bool.not_eq_true _ ▸ harray)) _

theorem Table.Has.start?_ne (ht : t.Has key x) {hd : Header} {entries : Entries} (h : t.start? hd = some entries)
    (harray : hd.ofArray = false) : hd.key.name ≠ key := by
  intro heq
  rw [Table.start?, harray, heq, ht] at h
  cases h

end

/-! ## Single values of a document -/

/-- a key of the document itself has a single value, and the table that lines are now added to does not take its place -/
structure Draft.Keeps (d : Draft) (key : Text) (x : Scalar) : Prop where
  current : d.header = none → d.current.Has key x
  root : d.header ≠ none → d.root.Has key x
  elsewhere : ∀ hd, d.header = some hd → hd.key.path = [] → hd.ofArray = false → hd.key.name ≠ key

theorem Draft.Keeps.finish {d : Draft} {t : Table} {key : Text} {x : Scalar} (hd : d.Keeps key x)
    (h : d.finish? = some t) : t.Has key x := by
  unfold Draft.finish? at h
  split at h
  · rename_i hnone
    cases h
    exact hd.current hnone
  · rename_i hdr hsome
    have hroot : d.root.Has key x := hd.root (by rw [hsome]; exact Option.some_ne_none hdr)
    exact hroot.change? (f := fun t => t.place? hdr d.current)
      (fun hpath u hu => hroot.place? (hd.elsewhere hdr hsome hpath) hu) h

/-- a header finds the tables as they are once the current one is in its place -/
theorem Draft.start?_of_open? {d d' : Draft} {hd : Header} (h : d.open? hd = some d') (hpath : hd.key.path = [])
    {root : Table} (hroot : d.finish? = some root) : ∃ entries, root.start? hd = some entries := by
  unfold Draft.open? at h
  rw [hroot, hpath] at h
  simp only [Option.bind_eq_bind, Option.bind_some, Table.find?, ite_self] at h
  obtain ⟨entries, hentries, -⟩ := Option.bind_eq_some_iff.1 h
  exact ⟨entries, hentries⟩

/-- **A line leaves a single value where it is.** -/
theorem Draft.Keeps.add {d d' : Draft} {l : Line} {key : Text} {x : Scalar} (hd : d.Keeps key x)
    (h : d.add l = .ok d') : d'.Keeps key x := by
  cases l with
  | header hdr =>
    obtain ⟨_, -, h⟩ := ok_of_bind h
    have hopen := eq_some_of_needed h
    obtain ⟨root, entries, hroot, rfl⟩ := Draft.open?_eq hopen
    have hhas := hd.finish hroot
    refine ⟨fun hnone => (by cases hnone), fun _ => hhas, fun hdr' heq hpath harray => ?_⟩
    obtain rfl := Option.some.inj heq
    obtain ⟨entries, hstart⟩ := Draft.start?_of_open? hopen hpath hroot
    exact hhas.start?_ne hstart harray
  | entry key' w =>
    obtain ⟨-, v, current, -, hassign, rfl⟩ := add_entry_eq_ok_iff.1 h
    exact ⟨fun hnone => (hd.current hnone).assign? hassign, hd.root, hd.elsewhere⟩

/-! ## Lines before any header -/

theorem Draft.header_of_add {d d' : Draft} {l : Line} (hl : l.IsEntry) (h : d.add l = .ok d') : d'.header = d.header := by
  cases l with
  | header hdr => exact hl.elim
  | entry key w =>
    obtain ⟨-, v, current, -, -, rfl⟩ := add_entry_eq_ok_iff.1 h
    rfl

/-- a line gives its value to a key of the document itself -/
theorem Draft.keeps_of_add {d d' : Draft} {key : Text} {w : Written} {x : Scalar} (hd : d.header = none)
    (hw : w.value = .ok (.scalar x)) (h : d.add (.entry ⟨[], key⟩ w) = .ok d') : d'.Keeps key x := by
  obtain ⟨-, v, current, hv, hassign, rfl⟩ := add_entry_eq_ok_iff.1 h
  obtain rfl := Except.ok.inj (hw.symm.trans hv)
  obtain ⟨-, -, rfl⟩ := give?_eq_some_iff.1 hassign
  have hheader {hdr : Header} (heq : d.header = some hdr) : False := by
    rw [hd] at heq
    cases heq
  exact ⟨fun _ => Table.has_set key x, fun hne => absurd hd hne, fun _ heq => (hheader heq).elim⟩

/-- **A document has the single value that a line before any header gives to a key**, wherever among these lines it is
and whatever follows. -/
theorem lookup_of_line {t key : Text} {es : Entries} {before after : List Line} {w : Written} {x : Scalar}
    (hdoc : document t = .ok es)
    (hlines : lines? (t.length + 1) (dropMark t) = some (before ++ .entry ⟨[], key⟩ w :: after))
    (hbefore : ∀ l ∈ before, l.IsEntry) (hw : w.value = .ok (.scalar x)) : lookup key es = some (.scalar x) := by
  obtain ⟨lines, hread, hdoc⟩ := ok_of_bind hdoc
  obtain rfl := Option.some.inj (hlines.symm.trans (eq_some_of_needed hread))
  obtain ⟨draft, hdraft, hdoc⟩ := ok_of_bind hdoc
  obtain ⟨root, hroot, hdoc⟩ := ok_of_bind hdoc
  cases hdoc
  -- up to the line, at the line, and from there on
  rw [List.foldlM_append] at hdraft
  obtain ⟨d₁, h₁, hdraft⟩ := ok_of_bind hdraft
  rw [List.foldlM_cons] at hdraft
  obtain ⟨d₂, h₂, hdraft⟩ := ok_of_bind hdraft
  have hnone : d₁.header = none :=
    of_foldlM_ok (P := fun d => d.header = none)
      (fun l hl {_ _} hd h => (Draft.header_of_add (hbefore l hl) h).trans hd) rfl h₁
  have hkeeps : draft.Keeps key x :=
    of_foldlM_ok (P := fun d => d.Keeps key x) (fun _ _ {_ _} hd h => hd.add h) (Draft.keeps_of_add hnone hw h₂) hdraft
  exact hkeeps.finish (eq_some_of_needed hroot)

/-- no byte order mark comes before a bare name -/
theorem dropMark_assignments {lines : List (Text × Int)} (h : ∀ l ∈ lines, IsBareName l.1) (hne : lines ≠ [])
    (rest : Text) : dropMark (assignments lines rest) = assignments lines rest := by
  obtain ⟨l, ls, rfl⟩ := List.exists_cons_of_ne_nil hne
  refine if_neg fun hmark => ?_
  obtain ⟨t, ht⟩ := List.head?_eq_some_iff.1 hmark
  exact (h l List.mem_cons_self).ne_cons (by decide) _ _ ht

/-- **A document has the integers that its first lines give to bare names.** -/
theorem lookup_of_assignments {lines : List (Text × Int)} {name rest : Text} {v : Int} {es : Entries}
    (hnames : ∀ l ∈ lines, IsBareName l.1) (hmem : (name, v) ∈ lines) (hlow : -(signedBound : Int) ≤ v)
    (hhigh : v < signedBound) (hdoc : document (assignments lines rest) = .ok es) :
    lookup name es = some (.scalar (.integer v)) := by
  obtain ⟨ls, hls, -⟩ := ok_of_bind hdoc
  have hread := eq_some_of_needed hls
  have hlines := hread
  rw [dropMark_assignments hnames (List.ne_nil_of_mem hmem)] at hlines
  obtain ⟨after, rfl⟩ := lines?_assignments hnames hlines
  obtain ⟨before, between, rfl⟩ := List.append_of_mem hmem
  rw [List.map_append, List.map_cons, List.append_assoc, List.cons_append] at hread
  have hbefore : ∀ l ∈ before.map assignmentLine, l.IsEntry := by
    intro l hl
    obtain ⟨a, -, rfl⟩ := List.mem_map.1 hl
    exact trivial
  have hvalue : (Written.token (integerText v)).value = .ok (.scalar (.integer v)) := by
    rw [Written.value, tokenValue?_integerText hlow hhigh]
    rfl
  exact lookup_of_line hdoc hread hbefore hvalue

end CallFeed.Toml
