/-
Settings that can be loaded: each field has room for what the sources leave under its key.

A source that only says good things of all fields but one leaves good things under their keys, whatever an earlier source
left there; so if loading fails at all, it fails for what is said of that one.

- `Entries.settings_error`: settings are refused for a field that has no room for what stands under its key;
- `Entries.exists_settings_iff`: and they are there when every field has;
- `Entries.fits_layered`, `Entries.layered_given`: what a source leaves under the key of a field;
- `Files.ValidBut.entries`, `Environment.ValidBut.items`: sources that can be read.
-/
import CallFeed.Proofs.Settings.Layering

namespace CallFeed.Settings

open CallFeed.Text

namespace Entries

/-- a field has room for what stands under its key -/
def Fits (es : Entries) (f : Field) : Prop := ∃ v, es.Holds f v

theorem fits_empty (f : Field) : empty.Fits f := ⟨f.of {}, Or.inl ⟨rfl, rfl⟩⟩

theorem Fits.congr {es es' : Entries} {f : Field} (h : es.Fits f) (heq : es' f = es f) : es'.Fits f := by
  obtain ⟨v, hv⟩ := h
  refine ⟨v, ?_⟩
  unfold Holds
  rw [heq]
  exact hv

/-- what a scalar under a key comes to is all that its field has room for -/
theorem holds_iff_of_scalar {es : Entries} {f : Field} {x : Scalar} {o : Origin} {v : FieldValue}
    (hx : es f = some (.scalar x o)) : es.Holds f v ↔ f.value? x = some v := by
  constructor
  · rintro (⟨hnone, -⟩ | ⟨x', o', hx', hv⟩)
    · rw [hx] at hnone
      cases hnone
    · obtain ⟨rfl, -⟩ := Entry.scalar.inj (Option.some.inj (hx.symm.trans hx'))
      exact hv
  · exact fun hv => Or.inr ⟨x, o, hx, hv⟩

/-- what stands under a key and comes to nothing has no room in its field -/
theorem not_fits {es : Entries} {f : Field} {e : Entry} (he : es f = some e)
    (hnone : ∀ x o, e = .scalar x o → f.value? x = none) : ¬ es.Fits f := by
  rintro ⟨v, ⟨hmissing, -⟩ | ⟨x, o, hx, hv⟩⟩
  · rw [he] at hmissing
    cases hmissing
  · rw [hnone x o (Option.some.inj (he.symm.trans hx))] at hv
    cases hv

/-! ## Settings that are refused -/

theorem valueD_error {α : Type} {es : Entries} {f : Field} {wanted : Wanted} {of : Scalar → Except (Found × Wanted) α}
    {default : α} {fault : TypeFault} (hvalue : ∀ x p, of x = .error p → f.value? x = none)
    (h : es.valueD f wanted of default = .error fault) : fault.field = f ∧ ¬ es.Fits f := by
  unfold valueD at h
  split at h
  · cases h
  · rename_i e he
    cases e with
    | scalar x o =>
      cases hx : of x with
      | error p =>
        rw [Entry.convert, hx] at h
        cases h
        refine ⟨rfl, not_fits he fun x' o' heq => ?_⟩
        obtain ⟨rfl, -⟩ := Entry.scalar.inj heq
        exact hvalue x p hx
      | ok a =>
        rw [Entry.convert, hx] at h
        cases h
    | table =>
      cases h
      exact ⟨rfl, not_fits he fun x o heq => by cases heq⟩
    | sequence o =>
      cases h
      exact ⟨rfl, not_fits he fun x o heq => by cases heq⟩

theorem countD_error {es : Entries} {f : Field} {bits default : Nat} {fault : TypeFault}
    (hdefault : default < Number.twoTo bits) (hvalue : ∀ x, f.value? x = boundedCount? bits x)
    (h : es.countD f bits default = .error fault) : fault.field = f ∧ ¬ es.Fits f := by
  unfold countD at h
  split at h
  · rename_i fault' hfault
    cases h
    refine valueD_error (fun x p hx => ?_) hfault
    rw [hvalue, boundedCount?, hx]
  · rename_i n hn
    split at h
    · cases h
    · rename_i hlarge
      cases h
      rcases valueD_ok hn with ⟨-, rfl⟩ | ⟨x, o, hx, hcount⟩
      · exact absurd hdefault hlarge
      · refine ⟨rfl, not_fits hx fun x' o' heq => ?_⟩
        obtain ⟨rfl, -⟩ := Entry.scalar.inj heq
        rw [hvalue, boundedCount?, hcount]
        exact if_neg hlarge

/-- **Settings are refused for a field that has no room for what stands under its key.** -/
theorem settings_error {es : Entries} {fault : TypeFault} (h : es.settings = .error fault) : ¬ es.Fits fault.field := by
  have htext {f : Field} {default : Text} (h : es.textD f default = .error fault) : fault.field = f ∧ ¬ es.Fits f :=
    valueD_error (fun x p hx => by cases hx) h
  have hat {f : Field} (h : fault.field = f ∧ ¬ es.Fits f) : ¬ es.Fits fault.field := h.1 ▸ h.2
  rcases error_of_bind h with h | ⟨logLevel, -, h⟩
  · exact hat (htext h)
  rcases error_of_bind h with h | ⟨host, -, h⟩
  · exact hat (htext h)
  rcases error_of_bind h with h | ⟨port, -, h⟩
  · exact hat (countD_error (by decide) (fun _ => rfl) h)
  rcases error_of_bind h with h | ⟨backlog, -, h⟩
  · exact hat (countD_error (by decide) (fun _ => rfl) h)
  rcases error_of_bind h with h | ⟨rate, -, h⟩
  · exact hat (countD_error (by decide) (fun _ => rfl) h)
  rcases error_of_bind h with h | ⟨durationSecs, -, h⟩
  · exact hat (countD_error (by decide) (fun _ => rfl) h)
  rcases error_of_bind h with h | ⟨tenants, -, h⟩
  · refine hat (valueD_error (fun x p hx => ?_) h)
    show (truthOf x).toOption.map FieldValue.truth = none
    rw [hx]
    rfl
  · cases h

/-- **Settings come of entries exactly when every field has room for its own.** -/
theorem exists_settings_iff {es : Entries} : (∃ s, es.settings = .ok s) ↔ ∀ f, es.Fits f := by
  constructor
  · rintro ⟨s, hs⟩ f
    exact ⟨f.of s, holds_of_settings hs f⟩
  · intro h
    cases hs : es.settings with
    | ok s => exact ⟨s, rfl⟩
    | error fault => exact absurd (h fault.field) (settings_error hs)

end Entries

/-! ## What a source says of a field -/

/-- what is given under a path is not of a field -/
def Spares (f : Field) (path : Text) : Prop := ∀ p, Path.ofText? path = some p → f.key ≠ p.root

/-- what a source gives can be taken, and if it is of a field other than this one, that field has room for it -/
def ValidBut (f : Field) (item : Text × Given) : Prop :=
  ∀ p, Path.ofText? item.1 = some p → p.reachable = true ∧
    ∀ g : Field, g ≠ f → g.key = p.root → p.steps = [] ∧ ∃ x v, item.2 = .scalar x ∧ g.value? x = some v

namespace Entries

theorem layered_of_spares {origin : Origin} {items : List (Text × Given)} {f : Field} (es : Entries)
    (h : ∀ item ∈ items, Spares f item.1) : es.layered origin items f = es f := by
  induction items generalizing es with
  | nil => rfl
  | cons item items ih =>
    obtain ⟨hitem, hitems⟩ := List.forall_mem_cons.1 h
    rw [layered_cons, ih _ hitems, given_eq_of_root_ne hitem]

theorem given_key (origin : Origin) (es : Entries) (f : Field) (x : Scalar) :
    given origin es (f.key, .scalar x) f = some (.scalar x origin) := by
  simp [given, ofText?_key, entryAfter]

/-- **A single value is left under the key of a field** by a source that says nothing else of the field. -/
theorem layered_given {origin : Origin} {items : List (Text × Given)} {f : Field} {x : Scalar} {es : Entries}
    (honly : ∀ item ∈ items, item = (f.key, .scalar x) ∨ Spares f item.1)
    (h : (f.key, .scalar x) ∈ items ∨ es f = some (.scalar x origin)) :
    es.layered origin items f = some (.scalar x origin) := by
  induction items generalizing es with
  | nil =>
    rcases h with h | h
    · exact (List.not_mem_nil h).elim
    · exact h
  | cons item items ih =>
    obtain ⟨hitem, hitems⟩ := List.forall_mem_cons.1 honly
    rw [layered_cons]
    refine ih hitems ?_
    rcases hitem with rfl | hspares
    · exact Or.inr (given_key origin es f x)
    · rw [given_eq_of_root_ne hspares]
      refine h.imp_left fun hmem => ?_
      rcases List.mem_cons.1 hmem with rfl | hmem
      · exact absurd rfl (hspares ⟨f.key, []⟩ (ofText?_key f))
      · exact hmem

theorem fits_given {origin : Origin} {es : Entries} {item : Text × Given} {f g : Field} (hitem : ValidBut f item)
    (hne : g ≠ f) (hg : es.Fits g) : (given origin es item).Fits g := by
  by_cases hroot : ∃ p, Path.ofText? item.1 = some p ∧ g.key = p.root
  · obtain ⟨⟨root, steps⟩, hp, hkey⟩ := hroot
    obtain ⟨-, hfield⟩ := hitem _ hp
    obtain ⟨hsteps, x, v, hx, hv⟩ := hfield g hne hkey
    have hgiven : given origin es item g = some (.scalar x origin) := by
      simp only at hkey hsteps
      simp [given, hp, hkey, hsteps, hx, entryAfter]
    exact ⟨v, (holds_iff_of_scalar hgiven).2 hv⟩
  · have hsame : given origin es item g = es g := given_eq_of_root_ne fun p hp hkey => hroot ⟨p, hp, hkey⟩
    exact hg.congr hsame

/-- **A source leaves room for the other fields' entries** if it has room for them itself. -/
theorem fits_layered {origin : Origin} {items : List (Text × Given)} {f g : Field} {es : Entries}
    (h : ∀ item ∈ items, ValidBut f item) (hne : g ≠ f) (hg : es.Fits g) : (es.layered origin items).Fits g := by
  induction items generalizing es with
  | nil => exact hg
  | cons item items ih =>
    obtain ⟨hitem, hitems⟩ := List.forall_mem_cons.1 h
    exact ih hitems (fits_given hitem hne hg)

theorem layeredWithin_eq_ok {origin : Origin} {items : List (Text × Given)} {f : Field} (es : Entries)
    (h : ∀ item ∈ items, ValidBut f item) : layeredWithin origin items es = .ok (es.layered origin items) := by
  refine if_pos (List.all_eq_true.2 fun item hitem => ?_)
  rw [Option.all_eq_true]
  exact fun p hp => (h item hitem p hp).1

end Entries

theorem key_injective {f g : Field} (h : f.key = g.key) : f = g := by
  have hfound := Field.ofKey?_key f
  rw [h, Field.ofKey?_key g] at hfound
  exact (Option.some.inj hfound).symm

theorem spares_key {f g : Field} (hne : g ≠ f) : Spares f g.key := by
  intro p hp hkey
  obtain rfl := Option.some.inj ((ofText?_key g).symm.trans hp)
  exact hne (key_injective hkey).symm

/-- a single value under the key of a field can be taken if there is room for it -/
theorem validBut_key {f g : Field} {x : Scalar} (h : g ≠ f → (g.value? x).isSome = true) :
    ValidBut f (g.key, .scalar x) := by
  intro p hp
  obtain rfl := Option.some.inj ((ofText?_key g).symm.trans hp)
  refine ⟨rfl, fun g' hne hkey => ⟨rfl, ?_⟩⟩
  obtain rfl := key_injective hkey
  obtain ⟨v, hv⟩ := Option.isSome_iff_exists.1 (h hne)
  exact ⟨x, v, rfl, hv⟩

/-! ## The file -/

/-- the file can be read, if there is one, and says only good things of all fields but one -/
def Files.ValidBut (files : Files) (path : Text) (f : Field) : Prop :=
  ∀ name octets, files.settingsFile? path = some (name, octets) →
    ∃ items, fileItems name octets = .ok items ∧ ∀ item ∈ items, Settings.ValidBut f item

/-- the file says nothing of a field but under its key -/
def Files.OnlyByKey (files : Files) (path : Text) (f : Field) : Prop :=
  ∀ name octets items, files.settingsFile? path = some (name, octets) → fileItems name octets = .ok items →
    ∀ item ∈ items, item.1 = f.key ∨ Spares f item.1

/-- a file with a single value under the key of a field gives that under the key, and nothing else -/
theorem fileItems_of_lookup {name : Text} {octets : Octets} {items : List (Text × Given)} {k : Text} {x : Scalar}
    (h : fileItems name octets = .ok items)
    (hlook : (Toml.document (decodeLossy (dropMark octets))).toOption.bind (Toml.lookup k) = some (.scalar x)) :
    (k, .scalar x) ∈ items ∧ ∀ item ∈ items, item.1 = k → item = (k, .scalar x) := by
  obtain ⟨entries, hdoc, hback, hforth⟩ := fileItems_ok h
  rw [hdoc] at hlook
  have hlook : Toml.lookup k entries = some (.scalar x) := hlook
  constructor
  · obtain ⟨g, hmem, hg⟩ := hforth k _ (Toml.mem_of_lookup hlook)
    obtain rfl : Given.scalar x = g := Except.ok.inj hg
    exact hmem
  · rintro ⟨k', g⟩ hitem rfl
    obtain ⟨v, hv, hg⟩ := hback _ hitem
    -- a document has one entry under a key
    have hsame := (Toml.lookup_of_mem (Toml.sorted_document hdoc) hv).symm.trans hlook
    obtain rfl := Option.some.inj hsame
    obtain rfl : Given.scalar x = g := Except.ok.inj hg
    rfl

/-- **What a valid file leaves**: something that the other fields have room for, and its single value of this one. -/
theorem Files.ValidBut.entries {files : Files} {path : Text} {f : Field} (h : files.ValidBut path f) :
    ∃ es, files.entries path = .ok es ∧ (∀ g, g ≠ f → es.Fits g) ∧
      ∀ x, files.entry? path f = some (.scalar x) → files.OnlyByKey path f → ∃ o, es f = some (.scalar x o) := by
  cases hfile : files.settingsFile? path with
  | none =>
    refine ⟨.empty, ?_, fun g _ => Entries.fits_empty g, fun x hx _ => ?_⟩
    · rw [Files.entries, hfile]
    · rw [Files.entry?, hfile] at hx
      cases hx
  | some file =>
    obtain ⟨name, octets⟩ := file
    obtain ⟨items, hitems, hvalid⟩ := h name octets hfile
    refine ⟨Entries.layered (.file name) items .empty, ?_, fun g hne => ?_, fun x hx honly => ⟨.file name, ?_⟩⟩
    · rw [Files.entries, hfile]
      show (fileItems name octets).bind _ = _
      rw [hitems]
      exact Entries.layeredWithin_eq_ok .empty hvalid
    · exact Entries.fits_layered hvalid hne (Entries.fits_empty g)
    · rw [Files.entry?, hfile] at hx
      obtain ⟨hmem, hunique⟩ := fileItems_of_lookup hitems hx
      refine Entries.layered_given (fun item hitem => ?_) (Or.inl hmem)
      exact (honly name octets items hfile hitems item hitem).imp_left (hunique item hitem)

/-! ## The environment -/

/-- the variables that count can be read, and say only good things of all fields but one -/
def Environment.ValidBut (env : Environment) (f : Field) : Prop :=
  ∀ v ∈ env, ∀ k, variablePath? v.1 = some k → ∃ t, decode? v.2 = some t ∧ Settings.ValidBut f (k, .scalar (.text t))

/-- a variable says nothing of a field -/
def VariableSpares (f : Field) (v : Text × Octets) : Prop := ∀ k, variablePath? v.1 = some k → Spares f k

/-- the environment says nothing of a field -/
def Environment.Spares (env : Environment) (f : Field) : Prop := ∀ v ∈ env, VariableSpares f v

theorem Environment.ValidBut.items {env : Environment} {f : Field} (h : env.ValidBut f) :
    ∃ items, env.items = .ok items ∧ ∀ item ∈ items, Settings.ValidBut f item := by
  have heach : ∀ v ∈ env, ∃ item, variableItem? v = .ok item := by
    intro v hv
    unfold variableItem?
    cases hk : variablePath? v.1 with
    | none => exact ⟨none, rfl⟩
    | some k =>
      obtain ⟨t, ht, -⟩ := h v hv k hk
      dsimp only
      rw [ht]
      exact ⟨some (k, .scalar (.text t)), rfl⟩
  obtain ⟨given, hgiven⟩ := exists_mapM_ok heach
  have hitems : env.items = .ok (given.filterMap id) := by
    rw [Environment.items, hgiven]
    rfl
  refine ⟨_, hitems, fun item hitem => ?_⟩
  obtain ⟨v, hv, hk, t, ht, hg⟩ := (mem_items hitems).1 item.1 item.2 hitem
  obtain ⟨t', ht', hgood⟩ := h v hv _ hk
  obtain rfl := Option.some.inj (ht.symm.trans ht')
  rw [← hg] at hgood
  exact hgood

theorem Environment.spares_items {env : Environment} {f : Field} {items : List (Text × Given)}
    (h : env.Spares f) (hitems : env.items = .ok items) : ∀ item ∈ items, Settings.Spares f item.1 := by
  intro item hitem
  obtain ⟨v, hv, hk, -⟩ := (mem_items hitems).1 item.1 item.2 hitem
  exact h v hv _ hk

/-- **What the only variable of a field leaves** under its key: its text. -/
theorem Environment.layered_variable {env : Environment} {f : Field} {items : List (Text × Given)} {v : Text × Octets}
    {t : Text} (hv : v ∈ env) (hkey : variablePath? v.1 = some f.key) (ht : decode? v.2 = some t)
    (honly : ∀ v' ∈ env, v' = v ∨ VariableSpares f v') (hitems : env.items = .ok items) (es : Entries) :
    es.layered .environment items f = some (.scalar (.text t) .environment) := by
  obtain ⟨hback, hforth⟩ := mem_items hitems
  have hitem {g : Given} (hg : (f.key, g) ∈ items) : g = .scalar (.text t) := by
    obtain ⟨v', hv', hkey', t', ht', rfl⟩ := hback _ _ hg
    rcases honly v' hv' with rfl | hspares
    · rw [Option.some.inj (ht'.symm.trans ht)]
    · exact absurd rfl (hspares _ hkey' ⟨f.key, []⟩ (ofText?_key f))
  refine Entries.layered_given (fun item hmem => ?_) (Or.inl ?_)
  · obtain ⟨k, g⟩ := item
    obtain ⟨v', hv', hkey', -⟩ := hback _ _ hmem
    rcases honly v' hv' with rfl | hspares
    · obtain rfl := Option.some.inj (hkey'.symm.trans hkey)
      exact Or.inl (by rw [hitem hmem])
    · exact Or.inr (hspares _ hkey')
  · obtain ⟨g, hg⟩ := hforth v hv _ hkey
    rw [hitem hg] at hg
    exact hg

/-! ## Both -/

/-- sources that can be read and have nothing out of reach are refused, if at all, for what stands under a key -/
theorem load_eq {files : Files} {path : Text} {env : Environment} {f : Field} {es : Entries}
    {items : List (Text × Given)} (hes : files.entries path = .ok es) (hitems : env.items = .ok items)
    (hvalid : ∀ item ∈ items, ValidBut f item) :
    load files path env = (es.layered .environment items).settings.mapError .type := by
  unfold load
  rw [hes, hitems]
  show (layeredWithin .environment items es >>= fun entries => entries.settings.mapError .type) = _
  rw [Entries.layeredWithin_eq_ok es hvalid]
  rfl

end CallFeed.Settings
