/-
The keys of a TOML document.

Entries are kept in the order of their keys, so a key has one entry at most, and what stands under the keys is all there
is to a document.

- `Draft.add_entry_eq_ok_iff`, `Draft.open?_eq`: what a line does to the tables read so far;
- `sorted_document`: the keys of a document are in order, and none is there twice.
-/
import CallFeed.Proofs.Except
import CallFeed.Toml.Document

namespace CallFeed.Toml

/-! ## Entries in order -/

/-- the keys are in order, and none is there twice -/
def Sorted (es : Entries) : Prop := es.Pairwise fun a b => a.1 < b.1

theorem lt_of_not_lt {a b : Text} (hne : a ≠ b) (h : ¬ a < b) : b < a := by
  rcases Std.lt_trichotomy a b with hlt | heq | hgt
  · exact absurd hlt h
  · exact absurd heq hne
  · exact hgt

theorem mem_of_mem_insert {key : Text} {v : Value} {es : Entries} {e : Text × Value} (h : e ∈ insert key v es) :
    e = (key, v) ∨ e ∈ es := by
  induction es with
  | nil => exact Or.inl (List.mem_singleton.1 h)
  | cons d es ih =>
    simp only [insert] at h
    split at h
    · rcases List.mem_cons.1 h with rfl | h
      · exact Or.inl rfl
      · exact Or.inr (List.mem_cons_of_mem d h)
    · split at h
      · exact List.mem_cons.1 h
      · rcases List.mem_cons.1 h with rfl | h
        · exact Or.inr List.mem_cons_self
        · exact (ih h).imp_right (List.mem_cons_of_mem d)

/-- **An entry is put in its place.** -/
theorem sorted_insert (key : Text) (v : Value) {es : Entries} (h : Sorted es) : Sorted (insert key v es) := by
  induction es with
  | nil => exact List.pairwise_singleton _ _
  | cons d es ih =>
    obtain ⟨hd, hes⟩ := List.pairwise_cons.1 h
    simp only [insert]
    split
    · rename_i heq
      exact List.pairwise_cons.2 ⟨fun e he => heq ▸ hd e he, hes⟩
    · rename_i hne
      split
      · rename_i hlt
        refine List.pairwise_cons.2 ⟨fun e he => ?_, h⟩
        rcases List.mem_cons.1 he with rfl | he
        · exact hlt
        · exact List.lt_trans hlt (hd e he)
      · rename_i hnot
        refine List.pairwise_cons.2 ⟨fun e he => ?_, ih hes⟩
        rcases mem_of_mem_insert he with rfl | he
        · exact lt_of_not_lt (Ne.symm hne) hnot
        · exact hd e he

theorem mem_of_lookup {key : Text} {v : Value} {es : Entries} (h : lookup key es = some v) : (key, v) ∈ es := by
  induction es with
  | nil => cases h
  | cons e es ih =>
    rw [lookup] at h
    split at h
    · rename_i hkey
      cases h
      exact hkey ▸ List.mem_cons_self
    · exact List.mem_cons_of_mem e (ih h)

theorem lookup_of_mem {key : Text} {v : Value} {es : Entries} (hs : Sorted es) (h : (key, v) ∈ es) :
    lookup key es = some v := by
  induction es with
  | nil => cases h
  | cons e es ih =>
    obtain ⟨he, hes⟩ := List.pairwise_cons.1 hs
    rcases List.mem_cons.1 h with rfl | h
    · exact if_pos rfl
    · have hlt : e.1 < key := he _ h
      have hne : e.1 ≠ key := fun heq => List.lt_irrefl _ (heq ▸ hlt)
      rw [lookup, if_neg hne]
      exact ih hes h

/-! ## Changes to tables -/

theorem sorted_set {t : Table} (key : Text) (v : Value) (h : Sorted t.entries) : Sorted (t.set key v).entries :=
  sorted_insert key v h

theorem sorted_add? {t t' : Table} {key : Text} {v : Value} (h : t.add? key v = some t') (hs : Sorted t.entries) :
    Sorted t'.entries := by
  unfold Table.add? at h
  split at h
  · cases h
    exact sorted_set key v hs
  · cases h

/-- a change further in only sets the entry that leads there -/
theorem sorted_change? {dotted : Bool} {f : Table → Option Table} {path : List Text} {t t' : Table}
    (hf : ∀ {u u' : Table}, f u = some u' → Sorted u.entries → Sorted u'.entries)
    (h : t.change? dotted f path = some t') (hs : Sorted t.entries) : Sorted t'.entries := by
  cases path with
  | nil => exact hf h hs
  | cons name path =>
    rw [Table.change?] at h
    split at h
    · obtain ⟨sub, -, rfl⟩ := Option.map_eq_some_iff.1 h
      exact sorted_set _ _ hs
    · obtain ⟨kind, -, h⟩ := Option.bind_eq_some_iff.1 h
      obtain ⟨sub, -, h⟩ := Option.bind_eq_some_iff.1 h
      cases h
      exact sorted_set _ _ hs
    · split at h
      · obtain ⟨sub, -, rfl⟩ := Option.map_eq_some_iff.1 h
        exact sorted_set _ _ hs
      · cases h
    · cases h

theorem sorted_assign? {t t' : Table} {key : Key} {v : Value} (h : t.assign? key v = some t') (hs : Sorted t.entries) :
    Sorted t'.entries := by
  refine sorted_change? (fun {u u'} hu hus => ?_) h hs
  split at hu
  · cases hu
  · exact sorted_add? hu hus

theorem sorted_place? {t t' sub : Table} {hd : Header} (h : t.place? hd sub = some t') (hs : Sorted t.entries) :
    Sorted t'.entries := by
  unfold Table.place? at h
  split at h
  · split at h
    · cases h
      exact sorted_set _ _ hs
    · cases h
      exact sorted_set _ _ hs
    · cases h
  · cases h
    exact sorted_set _ _ hs

/-! ## Documents -/

/-- the line gives a value -/
def Line.IsEntry : Line → Prop
  | .header _ => False
  | .entry _ _ => True

/-- the finished tables are in order, and so is the current one while it is the document itself -/
structure Draft.Ordered (d : Draft) : Prop where
  root : Sorted d.root.entries
  current : d.header = none → Sorted d.current.entries

theorem Draft.Ordered.finish {d : Draft} {t : Table} (hd : d.Ordered) (h : d.finish? = some t) : Sorted t.entries := by
  unfold Draft.finish? at h
  split at h
  · rename_i hnone
    cases h
    exact hd.current hnone
  · exact sorted_change? (fun hu hus => sorted_place? hu hus) h hd.root

/-- a header puts the current table in its place and starts another -/
theorem Draft.open?_eq {d d' : Draft} {hd : Header} (h : d.open? hd = some d') :
    ∃ root entries, d.finish? = some root ∧ d' = ⟨root, ⟨.header, entries⟩, some hd⟩ := by
  unfold Draft.open? at h
  obtain ⟨root, hroot, h⟩ := Option.bind_eq_some_iff.1 h
  dsimp only at h
  split at h
  · obtain ⟨parent, -, h⟩ := Option.bind_eq_some_iff.1 h
    obtain ⟨entries, -, h⟩ := Option.bind_eq_some_iff.1 h
    exact ⟨root, entries, hroot, (Option.some.inj h).symm⟩
  · obtain ⟨parent, -, h⟩ := Option.bind_eq_some_iff.1 h
    obtain ⟨entries, -, h⟩ := Option.bind_eq_some_iff.1 h
    exact ⟨root, entries, hroot, (Option.some.inj h).symm⟩

theorem eq_some_of_needed {α : Type} {o : Option α} {a : α} (h : needed o = .ok a) : o = some a := by
  cases o with
  | none => cases h
  | some b =>
    cases h
    rfl

/-- **A line that gives a value** only changes the current table, by what its key and its value come to. -/
theorem Draft.add_entry_eq_ok_iff {d d' : Draft} {key : Key} {w : Written} :
    d.add (.entry key w) = .ok d' ↔ key.checked = .ok key ∧ ∃ v current, w.value = .ok v ∧
      d.current.assign? key v = some current ∧ d' = { d with current := current } := by
  constructor
  · intro h
    obtain ⟨key', hchecked, h⟩ := ok_of_bind h
    obtain rfl : key = key' := by
      unfold Key.checked at hchecked
      split at hchecked
      · exact Except.ok.inj hchecked
      · cases hchecked
    obtain ⟨v, hv, h⟩ := ok_of_bind h
    obtain ⟨current, hcurrent, h⟩ := ok_of_bind h
    exact ⟨hchecked, v, current, hv, eq_some_of_needed hcurrent, (Except.ok.inj h).symm⟩
  · rintro ⟨hchecked, v, current, hv, hassign, rfl⟩
    rw [Draft.add, hchecked]
    show (w.value >>= fun v => needed (d.current.assign? key v) >>= fun current => .ok { d with current }) = _
    rw [hv]
    show (needed (d.current.assign? key v) >>= fun current => .ok { d with current }) = _
    rw [hassign]
    rfl

/-- **A line leaves the tables in order.** -/
theorem Draft.Ordered.add {d d' : Draft} {l : Line} (hd : d.Ordered) (h : d.add l = .ok d') : d'.Ordered := by
  cases l with
  | header hdr =>
    obtain ⟨_, -, h⟩ := ok_of_bind h
    obtain ⟨root, entries, hroot, rfl⟩ := Draft.open?_eq (eq_some_of_needed h)
    exact ⟨hd.finish hroot, fun hnone => by cases hnone⟩
  | entry key w =>
    obtain ⟨-, v, current, -, hassign, rfl⟩ := add_entry_eq_ok_iff.1 h
    exact ⟨hd.root, fun hnone => sorted_assign? hassign (hd.current hnone)⟩

theorem Draft.ordered_start : ({} : Draft).Ordered := ⟨List.Pairwise.nil, fun _ => List.Pairwise.nil⟩

/-- **The keys of a document are in order**, and none is there twice. -/
theorem sorted_document {t : Text} {es : Entries} (h : document t = .ok es) : Sorted es := by
  obtain ⟨lines, -, h⟩ := ok_of_bind h
  obtain ⟨draft, hdraft, h⟩ := ok_of_bind h
  obtain ⟨root, hroot, h⟩ := ok_of_bind h
  cases h
  have hordered : draft.Ordered :=
    of_foldlM_ok (P := Draft.Ordered) (fun _ _ {_ _} hd h => hd.add h) Draft.ordered_start hdraft
  exact hordered.finish (eq_some_of_needed hroot)

end CallFeed.Toml
