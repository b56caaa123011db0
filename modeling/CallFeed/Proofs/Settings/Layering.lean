/-
Where each setting comes from.

A field is decided by its own variable where the environment has one, else by the file's entry under its own key, else by
the default. Nothing that is said of another field, or under a key that no field has, and no order of lines in the file
has a part in it. The command line is last and replaces what it gives.

- `deciderOf`: what decides a field; `Decider.value?`: what that comes to;
- `layered_cases`: what a source leaves under a key;
- `settings_come_by_layer`: the whole of it, and what two starts have in common that differ in what is not decisive.
-/
import Mathlib.Data.List.Induction
import Mathlib.Data.List.Nodup
import CallFeed.Proofs.Toml.Keys
import CallFeed.Plan

namespace CallFeed.Settings

open CallFeed.Text

/-! ## Fields as values -/

/-- what a field holds -/
inductive FieldValue where
  | text (t : Text)
  | count (n : Nat)
  | truth (b : Bool)
deriving DecidableEq, Repr

/-- what a field holds in settings -/
def Field.of (s : Settings) : Field → FieldValue
  | logLevel => .text s.logLevel
  | host => .text s.host
  | port => .count s.port.toNat
  | backlog => .count s.backlog.toNat
  | rate => .count s.rate.toNat
  | durationSecs => .count s.durationSecs.toNat
  | consistentTenants => .truth s.consistentTenants

/-- settings that hold the same in every field are the same -/
theorem eq_of_fields {s s' : Settings} (h : ∀ f : Field, f.of s = f.of s') : s = s' := by
  have hlog := h .logLevel
  have hhost := h .host
  have hport := h .port
  have hbacklog := h .backlog
  have hrate := h .rate
  have hduration := h .durationSecs
  have htenants := h .consistentTenants
  simp only [Field.of, FieldValue.text.injEq, FieldValue.count.injEq, FieldValue.truth.injEq, UInt16.toNat_inj,
    UInt32.toNat_inj, UInt64.toNat_inj] at hlog hhost hport hbacklog hrate hduration htenants
  cases s
  cases s'
  simp only at hlog hhost hport hbacklog hrate hduration htenants
  rw [hlog, hhost, hport, hbacklog, hrate, hduration, htenants]

/-- the count of at most so many bits that a single value comes to -/
def boundedCount? (bits : Nat) (x : Scalar) : Option FieldValue :=
  match countOf x with
  | .error _ => none
  | .ok n => if n < Number.twoTo bits then some (.count n) else none

/-- what a single value comes to in a field -/
def Field.value? : Field → Scalar → Option FieldValue
  | logLevel, x => some (.text (textOf x))
  | host, x => some (.text (textOf x))
  | port, x => boundedCount? 16 x
  | backlog, x => boundedCount? 32 x
  | rate, x => boundedCount? 64 x
  | durationSecs, x => boundedCount? 64 x
  | consistentTenants, x => (truthOf x).toOption.map .truth

/-! ## What decides a field -/

/-- the value of the variable of a field -/
def Environment.given? (env : Environment) (f : Field) : Option Octets :=
  (env.find? fun v => variablePath? v.1 == some f.key).map Prod.snd

/-- no field has two variables -/
def Environment.OnePerField (env : Environment) : Prop :=
  ∀ f : Field, ∀ v ∈ env, ∀ v' ∈ env, variablePath? v.1 = some f.key → variablePath? v'.1 = some f.key → v = v'

/-- variables with different paths are of different fields -/
theorem onePerField_of_nodup {env : Environment} (h : (env.map fun v => variablePath? v.1).Nodup) : env.OnePerField :=
  fun _ _ hv _ hv' hkey hkey' => List.inj_on_of_nodup_map h hv hv' (hkey.trans hkey'.symm)

/-- the value of the file's entry under the key of a field -/
def Files.entry? (files : Files) (path : Text) (f : Field) : Option Toml.Value :=
  match files.settingsFile? path with
  | none => none
  | some (_, octets) => (Toml.document (decodeLossy (dropMark octets))).toOption.bind (Toml.lookup f.key)

/-- what decides a field -/
inductive Decider where
  | variable (value : Octets)
  | entry (value : Toml.Value)
  | default

/-- a field's variable, else the file's entry under its key, else the default -/
def deciderOf (files : Files) (path : Text) (env : Environment) (f : Field) : Decider :=
  match env.given? f with
  | some value => .variable value
  | none =>
    match files.entry? path f with
    | some value => .entry value
    | none => .default

/-- what comes of it in a field -/
def Decider.value? (f : Field) : Decider → Option FieldValue
  | .variable value => (decode? value).bind fun t => f.value? (.text t)
  | .entry (.scalar x) => f.value? x
  | .entry _ => none
  | .default => some (f.of {})

/-! ## What a source leaves under a key -/

theorem ofText?_key (f : Field) : Path.ofText? f.key = some ⟨f.key, []⟩ := by cases f <;> decide

theorem eq_nil_of_steps? {count : Nat} {t : Text} (h : Path.steps? count t = some []) : t = [] := by
  unfold Path.steps? at h
  split at h
  · rfl
  · cases h
  · split at h
    · cases h
    · obtain ⟨_, -, h⟩ := Option.map_eq_some_iff.1 h
      cases h
  · split at h
    · cases h
    · obtain ⟨_, -, h⟩ := Option.map_eq_some_iff.1 h
      cases h
  · cases h

/-- only a bare name is a path without steps -/
theorem eq_root_of_ofText? {t root : Text} (h : Path.ofText? t = some ⟨root, []⟩) : t = root := by
  unfold Path.ofText? at h
  split at h
  · cases h
  · rename_i hroot
    obtain ⟨steps, hsteps, h⟩ := Option.map_eq_some_iff.1 h
    obtain ⟨rfl, rfl⟩ := Path.mk.inj h
    have hrest := eq_nil_of_steps? hsteps
    have hjoined := List.takeWhile_append_dropWhile (p := Path.isNameChar) (l := t)
    rw [hrest, List.append_nil] at hjoined
    exact hjoined.symm

namespace Entries

/-- **What a source leaves under a key**: what was there, if it gives nothing under the key; or a single value that it
gives there; or something that is no single value. -/
theorem layered_cases (origin : Origin) (items : List (Text × Given)) (es : Entries) (f : Field) :
    ((∀ item ∈ items, item.1 ≠ f.key) ∧ es.layered origin items f = es f) ∨
      (∃ x, (f.key, .scalar x) ∈ items ∧ es.layered origin items f = some (.scalar x origin)) ∨
      ∃ e, es.layered origin items f = some e ∧ ∀ x o, e ≠ .scalar x o := by
  -- the last item decides, so the induction takes items off at the end
  induction items using List.reverseRecOn with
  | nil => exact Or.inl ⟨fun item h => (List.not_mem_nil h).elim, rfl⟩
  | append_singleton items item ih =>
    have hlast : es.layered origin (items ++ [item]) f = given origin (es.layered origin items) item f := by
      rw [layered_append]
      rfl
    rw [hlast]
    by_cases hroot : ∃ path, Path.ofText? item.1 = some path ∧ f.key = path.root
    · obtain ⟨⟨root, steps⟩, hpath, rfl⟩ := hroot
      have hgiven : given origin (es.layered origin items) item f =
          some (entryAfter (es.layered origin items f) steps item.2 origin) := by
        simp [given, hpath]
      rw [hgiven]
      cases steps with
      | nil =>
        have hkey := eq_root_of_ofText? hpath
        cases hg : item.2 with
        | scalar x => exact Or.inr (Or.inl ⟨x, List.mem_append_right _ (by simp [← hkey, ← hg]), rfl⟩)
        | table => exact Or.inr (Or.inr ⟨_, rfl, fun x o h => by cases h⟩)
        | sequence => exact Or.inr (Or.inr ⟨_, rfl, fun x o h => by cases h⟩)
      | cons step steps =>
        refine Or.inr (Or.inr ⟨_, rfl, fun x o h => ?_⟩)
        cases step with
        | name t => cases h
        | index n =>
          simp only [entryAfter] at h
          split at h <;> cases h
    · have hne : ∀ path, Path.ofText? item.1 = some path → f.key ≠ path.root := fun path hp heq => hroot ⟨path, hp, heq⟩
      rw [given_eq_of_root_ne hne]
      rcases ih with ⟨hother, hsame⟩ | ⟨x, hmem, hscalar⟩ | hcompound
      · refine Or.inl ⟨fun i hi => ?_, hsame⟩
        rcases List.mem_append.1 hi with hi | hi
        · exact hother i hi
        · rw [List.mem_singleton.1 hi]
          intro hkey
          exact hne ⟨f.key, []⟩ (by rw [hkey, ofText?_key]) rfl
      · exact Or.inr (Or.inl ⟨x, List.mem_append_left _ hmem, hscalar⟩)
      · exact Or.inr (Or.inr hcompound)

/-! ## From entries to settings -/

theorem valueD_ok {α : Type} {es : Entries} {f : Field} {wanted : Wanted} {of : Scalar → Except (Found × Wanted) α}
    {default a : α} (h : es.valueD f wanted of default = .ok a) :
    (es f = none ∧ a = default) ∨ ∃ x o, es f = some (.scalar x o) ∧ of x = .ok a := by
  unfold valueD at h
  split at h
  · rename_i hnone
    cases h
    exact Or.inl ⟨hnone, rfl⟩
  · rename_i e he
    cases e with
    | scalar x o =>
      refine Or.inr ⟨x, o, he, ?_⟩
      cases hx : of x with
      | error p =>
        rw [Entry.convert, hx] at h
        cases h
      | ok b =>
        rw [Entry.convert, hx] at h
        cases h
        rfl
    | table => cases h
    | sequence o => cases h

/-- a field holds what stands under its key, or the default where nothing does -/
def Holds (es : Entries) (f : Field) (v : FieldValue) : Prop :=
  (es f = none ∧ v = f.of {}) ∨ ∃ x o, es f = some (.scalar x o) ∧ f.value? x = some v

theorem holds_of_textD {es : Entries} {f : Field} {default t : Text} (hdefault : f.of {} = .text default)
    (hvalue : ∀ x, f.value? x = some (.text (textOf x))) (h : es.textD f default = .ok t) : es.Holds f (.text t) := by
  rcases valueD_ok h with ⟨hnone, rfl⟩ | ⟨x, o, hx, ht⟩
  · exact Or.inl ⟨hnone, hdefault.symm⟩
  · obtain rfl := Except.ok.inj ht
    exact Or.inr ⟨x, o, hx, hvalue x⟩

theorem holds_of_countD {es : Entries} {f : Field} {bits default n : Nat} (hdefault : f.of {} = .count default)
    (hvalue : ∀ x, f.value? x = boundedCount? bits x) (h : es.countD f bits default = .ok n) :
    n < Number.twoTo bits ∧ es.Holds f (.count n) := by
  unfold countD at h
  split at h
  · cases h
  · rename_i m hm
    split at h
    · rename_i hlt
      cases h
      refine ⟨hlt, ?_⟩
      rcases valueD_ok hm with ⟨hnone, rfl⟩ | ⟨x, o, hx, hn⟩
      · exact Or.inl ⟨hnone, hdefault.symm⟩
      · refine Or.inr ⟨x, o, hx, ?_⟩
        rw [hvalue, boundedCount?, hn]
        exact if_pos hlt
    · cases h

theorem holds_of_truth {es : Entries} {f : Field} {default b : Bool} (hdefault : f.of {} = .truth default)
    (hvalue : ∀ x, f.value? x = (truthOf x).toOption.map .truth) (h : es.valueD f .truth truthOf default = .ok b) :
    es.Holds f (.truth b) := by
  rcases valueD_ok h with ⟨hnone, rfl⟩ | ⟨x, o, hx, hb⟩
  · exact Or.inl ⟨hnone, hdefault.symm⟩
  · refine Or.inr ⟨x, o, hx, ?_⟩
    rw [hvalue, hb]
    rfl

/-- **Settings hold what stands under the key of each field**, or the default where nothing does. -/
theorem holds_of_settings {es : Entries} {s : Settings} (h : es.settings = .ok s) (f : Field) : es.Holds f (f.of s) := by
  obtain ⟨logLevel, hlog, h⟩ := ok_of_bind h
  obtain ⟨host, hhost, h⟩ := ok_of_bind h
  obtain ⟨port, hport, h⟩ := ok_of_bind h
  obtain ⟨backlog, hbacklog, h⟩ := ok_of_bind h
  obtain ⟨rate, hrate, h⟩ := ok_of_bind h
  obtain ⟨durationSecs, hduration, h⟩ := ok_of_bind h
  obtain ⟨tenants, htenants, h⟩ := ok_of_bind h
  cases h
  cases f with
  | logLevel => exact holds_of_textD rfl (fun _ => rfl) hlog
  | host => exact holds_of_textD rfl (fun _ => rfl) hhost
  | port =>
    obtain ⟨hlt, hholds⟩ := holds_of_countD rfl (fun _ => rfl) hport
    show es.Holds .port (.count (UInt16.ofNat port).toNat)
    rwa [UInt16.toNat_ofNat_of_lt' hlt]
  | backlog =>
    obtain ⟨hlt, hholds⟩ := holds_of_countD rfl (fun _ => rfl) hbacklog
    show es.Holds .backlog (.count (UInt32.ofNat backlog).toNat)
    rwa [UInt32.toNat_ofNat_of_lt' hlt]
  | rate =>
    obtain ⟨hlt, hholds⟩ := holds_of_countD rfl (fun _ => rfl) hrate
    show es.Holds .rate (.count (UInt64.ofNat rate).toNat)
    rwa [UInt64.toNat_ofNat_of_lt' hlt]
  | durationSecs =>
    obtain ⟨hlt, hholds⟩ := holds_of_countD rfl (fun _ => rfl) hduration
    show es.Holds .durationSecs (.count (UInt64.ofNat durationSecs).toNat)
    rwa [UInt64.toNat_ofNat_of_lt' hlt]
  | consistentTenants => exact holds_of_truth rfl (fun _ => rfl) htenants

end Entries

/-! ## What the sources give -/

theorem variableItem?_ok {v : Text × Octets} {k : Text} {g : Given} (h : variableItem? v = .ok (some (k, g))) :
    variablePath? v.1 = some k ∧ ∃ t, decode? v.2 = some t ∧ g = .scalar (.text t) := by
  unfold variableItem? at h
  split at h
  · cases h
  · rename_i hpath
    split at h
    · cases h
    · rename_i t ht
      cases h
      exact ⟨hpath, t, ht, rfl⟩

/-- what the environment gives is its variables' values -/
theorem Environment.mem_items {env : Environment} {items : List (Text × Given)} (h : env.items = .ok items) :
    (∀ k g, (k, g) ∈ items → ∃ v ∈ env, variablePath? v.1 = some k ∧ ∃ t, decode? v.2 = some t ∧ g = .scalar (.text t)) ∧
      ∀ v ∈ env, ∀ k, variablePath? v.1 = some k → ∃ g, (k, g) ∈ items := by
  obtain ⟨given, hgiven, rfl⟩ := ok_of_map h
  obtain ⟨hback, hforth⟩ := of_mapM_ok hgiven
  constructor
  · intro k g hmem
    obtain ⟨item, hitem, hsome⟩ := List.mem_filterMap.1 hmem
    obtain rfl : item = some (k, g) := hsome
    obtain ⟨v, hv, hvk⟩ := hback _ hitem
    exact ⟨v, hv, variableItem?_ok hvk⟩
  · intro v hv k hk
    obtain ⟨item, hitem, hvi⟩ := hforth v hv
    unfold variableItem? at hvi
    rw [hk] at hvi
    dsimp only at hvi
    split at hvi
    · cases hvi
    · cases hvi
      exact ⟨_, List.mem_filterMap.2 ⟨_, hitem, rfl⟩⟩

theorem Environment.OnePerField.given?_eq {env : Environment} (henv : env.OnePerField) {f : Field} {v : Text × Octets}
    (hv : v ∈ env) (hkey : variablePath? v.1 = some f.key) : env.given? f = some v.2 := by
  unfold Environment.given?
  cases hfind : env.find? fun v => variablePath? v.1 == some f.key with
  | none => exact absurd (beq_iff_eq.2 hkey) (List.find?_eq_none.1 hfind v hv)
  | some v' =>
    have hbeq := List.find?_some hfind
    have hkey' : variablePath? v'.1 = some f.key := eq_of_beq hbeq
    rw [henv f v hv v' (List.mem_of_find?_eq_some hfind) hkey hkey']
    rfl

theorem Environment.given?_eq_none {env : Environment} {f : Field} (h : ∀ v ∈ env, variablePath? v.1 ≠ some f.key) :
    env.given? f = none := by
  have hfind : env.find? (fun v => variablePath? v.1 == some f.key) = none :=
    List.find?_eq_none.2 fun v hv hbeq => h v hv (eq_of_beq hbeq)
  rw [Environment.given?, hfind]
  rfl

/-- **What the environment leaves under a key**: its variable's text, or what was there if it has none. -/
theorem Environment.layered_cases {env : Environment} {items : List (Text × Given)} (hitems : env.items = .ok items)
    (henv : env.OnePerField) (es : Entries) (f : Field) :
    (∃ value t, env.given? f = some value ∧ decode? value = some t ∧
        es.layered .environment items f = some (.scalar (.text t) .environment)) ∨
      (env.given? f = none ∧ es.layered .environment items f = es f) ∨
      ∃ e, es.layered .environment items f = some e ∧ ∀ x o, e ≠ .scalar x o := by
  obtain ⟨hback, hforth⟩ := mem_items hitems
  rcases Entries.layered_cases .environment items es f with ⟨hother, hsame⟩ | ⟨x, hmem, hscalar⟩ | hcompound
  · refine Or.inr (Or.inl ⟨given?_eq_none fun v hv hkey => ?_, hsame⟩)
    obtain ⟨g, hg⟩ := hforth v hv _ hkey
    exact hother _ hg rfl
  · obtain ⟨v, hv, hkey, t, ht, hx⟩ := hback _ _ hmem
    obtain rfl := Given.scalar.inj hx
    exact Or.inl ⟨v.2, t, henv.given?_eq hv hkey, ht, hscalar⟩
  · exact Or.inr (Or.inr hcompound)

theorem layeredWithin_ok {origin : Origin} {items : List (Text × Given)} {es es' : Entries}
    (h : layeredWithin origin items es = .ok es') : es' = es.layered origin items := by
  unfold layeredWithin at h
  split at h
  · exact (Except.ok.inj h).symm
  · cases h

theorem ofToml_scalar {v : Toml.Value} {x : Scalar} (h : Given.ofToml v = .ok (.scalar x)) : v = .scalar x := by
  cases v with
  | scalar y =>
    cases h
    rfl
  | beyond b => cases h
  | array ofTables items =>
    simp only [Given.ofToml] at h
    split at h <;> cases h
  | table kind entries =>
    simp only [Given.ofToml] at h
    split at h <;> cases h

/-- what a file gives is its document's entries -/
theorem fileItems_ok {name : Text} {octets : Octets} {items : List (Text × Given)}
    (h : fileItems name octets = .ok items) :
    ∃ entries, Toml.document (decodeLossy (dropMark octets)) = .ok entries ∧
      (∀ item ∈ items, ∃ v, (item.1, v) ∈ entries ∧ Given.ofToml v = .ok item.2) ∧
      ∀ k v, (k, v) ∈ entries → ∃ g, (k, g) ∈ items ∧ Given.ofToml v = .ok g := by
  unfold fileItems at h
  split at h
  · cases h
  · rename_i entries hdoc
    obtain ⟨hback, hforth⟩ := of_mapM_ok (ok_of_mapError h)
    refine ⟨entries, hdoc, fun item hitem => ?_, fun k v hmem => ?_⟩
    · obtain ⟨e, he, hmap⟩ := hback item hitem
      obtain ⟨g, hg, rfl⟩ := ok_of_map hmap
      exact ⟨e.2, he, hg⟩
    · obtain ⟨item, hitem, hmap⟩ := hforth _ hmem
      obtain ⟨g, hg, rfl⟩ := ok_of_map hmap
      exact ⟨g, hitem, hg⟩

/-- **What the file leaves under a key**: its entry's value, or nothing if it has none. -/
theorem Files.entries_cases {files : Files} {path : Text} {es : Entries} (h : files.entries path = .ok es) (f : Field) :
    (∃ x o, files.entry? path f = some (.scalar x) ∧ es f = some (.scalar x o)) ∨
      (files.entry? path f = none ∧ es f = none) ∨ ∃ e, es f = some e ∧ ∀ x o, e ≠ .scalar x o := by
  unfold Files.entries at h
  unfold Files.entry?
  cases hfile : files.settingsFile? path with
  | none =>
    rw [hfile] at h
    cases h
    exact Or.inr (Or.inl ⟨rfl, rfl⟩)
  | some file =>
    obtain ⟨name, octets⟩ := file
    rw [hfile] at h
    obtain ⟨items, hitems, h⟩ := ok_of_bind h
    obtain rfl := layeredWithin_ok h
    obtain ⟨entries, hdoc, hback, hforth⟩ := fileItems_ok hitems
    dsimp only
    rw [hdoc]
    rcases Entries.layered_cases (.file name) items .empty f with ⟨hother, hsame⟩ | ⟨x, hmem, hscalar⟩ | hcompound
    · refine Or.inr (Or.inl ⟨?_, hsame⟩)
      show Toml.lookup f.key entries = none
      cases hlook : Toml.lookup f.key entries with
      | none => rfl
      | some v =>
        obtain ⟨g, hitem, -⟩ := hforth _ _ (Toml.mem_of_lookup hlook)
        exact absurd rfl (hother _ hitem)
    · obtain ⟨v, hentry, hg⟩ := hback _ hmem
      obtain rfl := ofToml_scalar hg
      exact Or.inl ⟨x, .file name, Toml.lookup_of_mem (Toml.sorted_document hdoc) hentry, hscalar⟩
    · exact Or.inr (Or.inr hcompound)

/-- **Each field of loaded settings holds what its decider comes to.** -/
theorem value_of_load {files : Files} {path : Text} {env : Environment} {s : Settings}
    (h : load files path env = .ok s) (henv : env.OnePerField) (f : Field) :
    (deciderOf files path env f).value? f = some (f.of s) := by
  obtain ⟨es, hes, h⟩ := ok_of_bind h
  obtain ⟨items, hitems, h⟩ := ok_of_bind h
  obtain ⟨es', hes', h⟩ := ok_of_bind h
  obtain rfl := layeredWithin_ok hes'
  have hholds := Entries.holds_of_settings (ok_of_mapError h) f
  -- a compound entry would have been refused
  have hsingle {e : Entry} (he : es.layered .environment items f = some e) (hne : ∀ x o, e ≠ .scalar x o) : False := by
    rcases hholds with ⟨hnone, -⟩ | ⟨x, o, hx, -⟩
    · rw [he] at hnone
      cases hnone
    · exact hne x o (Option.some.inj (he.symm.trans hx))
  unfold deciderOf
  -- where the environment leaves what was there, the file has its say
  rcases Environment.layered_cases hitems henv es f with
    ⟨value, t, hvariable, ht, hscalar⟩ | ⟨hvariable, hsame⟩ | ⟨e, he, hne⟩
  · rw [hvariable]
    rcases hholds with ⟨hnone, -⟩ | ⟨x, o, hx, hvalue⟩
    · rw [hscalar] at hnone
      cases hnone
    · obtain ⟨rfl, -⟩ := Entry.scalar.inj (Option.some.inj (hscalar.symm.trans hx))
      show (decode? value).bind _ = _
      rw [ht]
      exact hvalue
  · rw [hvariable]
    rcases Files.entries_cases hes f with ⟨x, o, hentry, hx⟩ | ⟨hentry, hnone⟩ | ⟨e, he, hne⟩
    · rw [hentry]
      rcases hholds with ⟨hnone, -⟩ | ⟨x', o', hx', hvalue⟩
      · rw [hsame, hx] at hnone
        cases hnone
      · rw [hsame, hx] at hx'
        obtain ⟨rfl, -⟩ := Entry.scalar.inj (Option.some.inj hx')
        exact hvalue
    · rw [hentry]
      rcases hholds with ⟨-, hdefault⟩ | ⟨x, o, hx, -⟩
      · exact congrArg some hdefault.symm
      · rw [hsame, hnone] at hx
        cases hx
    · exact (hsingle (hsame.trans he) hne).elim
  · exact (hsingle he hne).elim

end CallFeed.Settings
