/-
The order of the lines of a TOML document.

A line that gives a value adds an entry to some table, on a way through tables that lines may still add to. It leaves
what stands under other names alone, and what it adds is neither overwritten nor led into by the lines after it. So two
such lines may change places, and lines under one header may come in any order.

- `change?_give?_eq_some_iff`: a line only touches what stands under the first name of its key;
- `exchange`: two lines may change places;
- `inside?_of_value`: no line leads into a value that was written;
- `Rearranged`, `Reordered`: the lines before the first header and under each in another order;
- `Reordered.document_eq`: a document comes to the same when its lines are put in such another order.
-/
import Mathlib.Data.List.Perm.Basic
import CallFeed.Proofs.Toml.Keys

namespace CallFeed.Toml

/-! ## Entries under different names -/

theorem insert_comm_of_lt {a b : Text} (h : a < b) (v w : Value) (es : Entries) :
    insert a v (insert b w es) = insert b w (insert a v es) := by
  have hne : a ≠ b := fun heq => List.lt_irrefl b (heq ▸ h)
  have hasymm : ¬ b < a := List.lt_asymm h
  induction es with
  | nil => simp only [insert, hne, hne.symm, h, hasymm, if_true, if_false]
  | cons e es ih =>
    -- the entry is one of the two, or it stands behind both, between them or in front of them
    by_cases ha : e.1 = a
    · simp only [insert, ha, hne, hasymm, if_true, if_false]
    · by_cases hb : e.1 = b
      · simp only [insert, hb, hne, hne.symm, h, hasymm, if_true, if_false]
      · by_cases hlt : b < e.1
        · have hlt' : a < e.1 := List.lt_trans h hlt
          simp only [insert, ha, hb, hlt, hlt', hne, hne.symm, h, hasymm, if_true, if_false]
        · by_cases hlt' : a < e.1
          · simp only [insert, ha, hb, hlt, hlt', hne, hasymm, if_true, if_false]
          · simp only [insert, ha, hb, hlt, hlt', if_false, ih]

/-- **Entries under different names may be put in either order.** -/
theorem insert_comm {a b : Text} (hne : a ≠ b) (v w : Value) (es : Entries) :
    insert a v (insert b w es) = insert b w (insert a v es) := by
  by_cases hlt : a < b
  · exact insert_comm_of_lt hlt v w es
  · exact (insert_comm_of_lt (lt_of_not_lt hne hlt) w v es).symm

/-- an entry takes the place of one under the same name -/
theorem insert_insert (key : Text) (v w : Value) (es : Entries) : insert key v (insert key w es) = insert key v es := by
  induction es with
  | nil => simp only [insert, if_true]
  | cons e es ih =>
    by_cases heq : e.1 = key
    · simp only [insert, heq, if_true]
    · by_cases hlt : key < e.1
      · simp only [insert, heq, hlt, if_true, if_false]
      · simp only [insert, heq, hlt, if_false, ih]

/-! ## The ways that lines take -/

/-- the table that a line finds where a name has this value, or has none -/
def inside? : Option Value → Option Table
  | none => some ⟨.dotted, []⟩
  | some (.table kind entries) => (passedKind? true kind).map fun kind => ⟨kind, entries⟩
  | some (.array true items) =>
    match items.getLast? with
    | some (.table kind entries) => some ⟨kind, entries⟩
    | _ => none
  | some _ => none

/-- the value that a name has once the table found there has become another -/
def around : Option Value → Table → Value
  | some (.array true items), sub => .array true (items.dropLast ++ [sub.value])
  | _, sub => sub.value

theorem passedKind?_of_passedKind? {kind kind' : TableKind} (h : passedKind? true kind = some kind') :
    passedKind? true kind' = some kind' := by
  cases kind with
  | inline => cases h
  | header => cases h
  | implied =>
    cases h
    rfl
  | dotted =>
    cases h
    rfl

/-- the way leads to the table that has taken the place of another of its kind -/
theorem inside?_around {o : Option Value} {t sub : Table} (h : inside? o = some t) (hkind : sub.kind = t.kind) :
    inside? (some (around o sub)) = some sub := by
  have hplain (hpassed : passedKind? true t.kind = some t.kind) : inside? (some sub.value) = some sub := by
    rw [Table.value, inside?, hkind, hpassed]
    exact congrArg (fun kind => some (⟨kind, sub.entries⟩ : Table)) hkind.symm
  unfold inside? at h
  split at h
  · cases h
    exact hplain rfl
  · obtain ⟨kind, hpassed, rfl⟩ := Option.map_eq_some_iff.1 h
    exact hplain (passedKind?_of_passedKind? hpassed)
  · rename_i items
    show inside? (some (.array true (items.dropLast ++ [sub.value]))) = some sub
    rw [inside?, List.getLast?_concat]
    rfl
  · cases h

theorem around_around (o : Option Value) (t sub : Table) : around (some (around o t)) sub = around o sub := by
  by_cases h : ∃ items, o = some (.array true items)
  · obtain ⟨items, rfl⟩ := h
    show Value.array true ((items.dropLast ++ [t.value]).dropLast ++ [sub.value]) = _
    rw [List.dropLast_concat]
    rfl
  · have hother (u : Table) : around o u = u.value := by
      unfold around
      split
      · exact absurd ⟨_, rfl⟩ h
      · rfl
    rw [hother, hother]
    rfl

/-- a change further in changes what stands under the first name of the way -/
theorem change?_cons (f : Table → Option Table) (name : Text) (path : List Text) (t : Table) :
    t.change? true f (name :: path) = ((inside? (lookup name t.entries)).bind (Table.change? true f path)).map
      fun sub => t.set name (around (lookup name t.entries) sub) := by
  rw [Table.change?]
  generalize lookup name t.entries = o
  split
  · rfl
  · rename_i kind entries
    rw [inside?]
    cases passedKind? true kind with
    | none => rfl
    | some passed =>
      show (Table.change? true f path ⟨passed, entries⟩).bind _ = (Table.change? true f path ⟨passed, entries⟩).map _
      cases Table.change? true f path ⟨passed, entries⟩ <;> rfl
  · rename_i items
    rw [inside?]
    cases items.getLast? with
    | none => rfl
    | some last =>
      cases last with
      | table kind entries => rfl
      | _ => rfl
  · rename_i v htable harray
    have hnone : inside? (some v) = none := by
      unfold inside?
      split
      · rename_i heq
        cases heq
      · rename_i heq
        exact absurd (Option.some.inj heq) (htable _ _)
      · rename_i heq
        exact absurd (Option.some.inj heq) (harray _)
      · rfl
    rw [hnone]
    rfl

/-- the change that `Table.assign?` makes to the table a key leads to; that is one of dotted keys only if the key has
dots -/
def give? (plain : Bool) (name : Text) (v : Value) (t : Table) : Option Table :=
  if (t.kind == .dotted) == plain then none else t.add? name v

theorem give?_eq_some_iff {plain : Bool} {name : Text} {v : Value} {t t' : Table} :
    give? plain name v t = some t' ↔
      (t.kind == .dotted) ≠ plain ∧ lookup name t.entries = none ∧ t' = t.set name v := by
  unfold give? Table.add?
  constructor
  · intro h
    split at h
    · cases h
    · rename_i hkind
      split at h
      · rename_i hnone
        exact ⟨fun heq => hkind (beq_iff_eq.2 heq), hnone, (Option.some.inj h).symm⟩
      · cases h
  · rintro ⟨hkind, hnone, rfl⟩
    rw [if_neg fun heq => hkind (beq_iff_eq.1 heq), hnone]

theorem kind_change? {plain : Bool} {name : Text} {v : Value} {path : List Text} {t t' : Table}
    (h : t.change? true (give? plain name v) path = some t') : t'.kind = t.kind := by
  cases path with
  | nil =>
    obtain ⟨-, -, rfl⟩ := give?_eq_some_iff.1 h
    rfl
  | cons n path =>
    rw [change?_cons] at h
    obtain ⟨sub, -, rfl⟩ := Option.map_eq_some_iff.1 h
    rfl

/-! ## Two lines -/

/-- the first name of a way -/
def firstName (name : Text) : List Text → Text
  | [] => name
  | n :: _ => n

/-- the value that the first name of a way has once a line has given its own, from the one it had -/
def given? (plain : Bool) (name : Text) (v : Value) : List Text → Option Value → Option Value
  | [], none => some v
  | [], some _ => none
  | _ :: path, o => ((inside? o).bind (Table.change? true (give? plain name v) path)).map (around o)

/-- **A line only touches what stands under the first name of its key.** -/
theorem change?_give?_eq_some_iff {plain : Bool} {name : Text} {v : Value} {path : List Text} {t t' : Table} :
    t.change? true (give? plain name v) path = some t' ↔
      (path = [] → (t.kind == .dotted) ≠ plain) ∧
        ∃ u, given? plain name v path (lookup (firstName name path) t.entries) = some u ∧
          t' = t.set (firstName name path) u := by
  cases path with
  | nil =>
    rw [Table.change?, give?_eq_some_iff]
    show _ ↔ _ ∧ ∃ u, given? plain name v [] (lookup name t.entries) = some u ∧ t' = t.set name u
    cases lookup name t.entries with
    | none =>
      constructor
      · rintro ⟨hkind, -, rfl⟩
        exact ⟨fun _ => hkind, v, rfl, rfl⟩
      · rintro ⟨hkind, u, hu, rfl⟩
        obtain rfl := Option.some.inj hu
        exact ⟨hkind rfl, rfl, rfl⟩
    | some w =>
      constructor
      · rintro ⟨-, hnone, -⟩
        cases hnone
      · rintro ⟨-, u, hu, -⟩
        cases hu
  | cons n path =>
    rw [change?_cons]
    show _ ↔ _ ∧ ∃ u, (((inside? (lookup n t.entries)).bind _).map _) = some u ∧ t' = t.set n u
    constructor
    · intro h
      obtain ⟨sub, hsub, rfl⟩ := Option.map_eq_some_iff.1 h
      exact ⟨fun hnil => absurd hnil (List.cons_ne_nil n path), _, Option.map_eq_some_iff.2 ⟨sub, hsub, rfl⟩, rfl⟩
    · rintro ⟨-, u, hu, rfl⟩
      obtain ⟨sub, hsub, rfl⟩ := Option.map_eq_some_iff.1 hu
      exact Option.map_eq_some_iff.2 ⟨sub, hsub, rfl⟩

section

variable {p q : List Text} {a b : Bool} {x y : Text} {v w : Value} {t t₁ t₂ : Table}

theorem exchange_of_ne (hne : firstName x p ≠ firstName y q) (h₁ : t.change? true (give? a x v) p = some t₁)
    (h₂ : t₁.change? true (give? b y w) q = some t₂) :
    ∃ t₁', t.change? true (give? b y w) q = some t₁' ∧ t₁'.change? true (give? a x v) p = some t₂ := by
  obtain ⟨hplain, u, hu, rfl⟩ := change?_give?_eq_some_iff.1 h₁
  obtain ⟨hplain', u', hu', rfl⟩ := change?_give?_eq_some_iff.1 h₂
  rw [Table.set, lookup_insert_of_ne hne.symm] at hu'
  refine ⟨t.set (firstName y q) u', change?_give?_eq_some_iff.2 ⟨hplain', u', hu', rfl⟩,
    change?_give?_eq_some_iff.2 ⟨hplain, u, ?_, ?_⟩⟩
  · rw [Table.set, lookup_insert_of_ne hne]
    exact hu
  · simp only [Table.set, insert_comm hne]

/-- **Two lines may change places**, since neither leads into the value of the other. -/
theorem exchange (hv : inside? (some v) = none) (h₁ : t.change? true (give? a x v) p = some t₁)
    (h₂ : t₁.change? true (give? b y w) q = some t₂) :
    ∃ t₁', t.change? true (give? b y w) q = some t₁' ∧ t₁'.change? true (give? a x v) p = some t₂ := by
  -- along the way of the first line, until the ways part
  induction p generalizing q t t₁ t₂ with
  | nil =>
    by_cases hname : x = firstName y q
    · obtain ⟨-, -, rfl⟩ := give?_eq_some_iff.1 h₁
      obtain ⟨-, u, hu, -⟩ := change?_give?_eq_some_iff.1 h₂
      rw [← hname, Table.set, lookup_insert_self] at hu
      cases q with
      | nil => cases hu
      | cons m q =>
        rw [given?, hv] at hu
        cases hu
    · exact exchange_of_ne hname h₁ h₂
  | cons n p ih =>
    by_cases hname : n = firstName y q
    · rw [change?_cons] at h₁
      obtain ⟨s₁, hs₁, rfl⟩ := Option.map_eq_some_iff.1 h₁
      obtain ⟨s, hs, hs₁⟩ := Option.bind_eq_some_iff.1 hs₁
      have hlook (u : Table) : lookup n (t.set n (around (lookup n t.entries) u)).entries =
          some (around (lookup n t.entries) u) := lookup_insert_self n _ _
      cases q with
      | nil =>
        obtain ⟨-, hnone, -⟩ := give?_eq_some_iff.1 h₂
        rw [← show n = y from hname, hlook] at hnone
        cases hnone
      | cons m q =>
        obtain rfl : n = m := hname
        rw [change?_cons, hlook, inside?_around hs (kind_change? hs₁), Option.bind_some] at h₂
        obtain ⟨s₂, hs₂, rfl⟩ := Option.map_eq_some_iff.1 h₂
        obtain ⟨s₁', hs₁', hs₂'⟩ := ih hs₁ hs₂
        refine ⟨t.set n (around (lookup n t.entries) s₁'), ?_, ?_⟩
        · rw [change?_cons, hs, Option.bind_some, hs₁']
          rfl
        · rw [change?_cons, hlook, inside?_around hs (kind_change? hs₁'), Option.bind_some, hs₂']
          simp only [Option.map_some, around_around, Table.set, insert_insert]
    · exact exchange_of_ne hname h₁ h₂

end

/-! ## What lines give -/

theorem inside?_integerValue (base : Nat) (t : Text) : inside? (some (integerValue base t)) = none := by
  unfold integerValue
  split <;> rfl

theorem inside?_floatValue (sign : Option Char) (digits : Text) (exponent : Int) :
    inside? (some (floatValue sign digits exponent)) = none := by
  unfold floatValue
  split <;> rfl

theorem inside?_of_unseparated? {t : Text} {v : Value} (h : unseparated? t = some v) : inside? (some v) = none := by
  unfold unseparated? at h
  dsimp only at h
  split at h
  -- with an exponent or without, the rest is the same
  all_goals
    obtain ⟨exponent, -, h⟩ := Option.bind_eq_some_iff.1 h
    split at h
    · obtain ⟨whole, -, h⟩ := Option.bind_eq_some_iff.1 h
      cases h
      exact inside?_floatValue _ _ _
    · obtain ⟨fraction, -, h⟩ := Option.bind_eq_some_iff.1 h
      obtain ⟨whole, -, h⟩ := Option.bind_eq_some_iff.1 h
      cases h
      exact inside?_floatValue _ _ _
    · cases h

theorem inside?_of_marked? {base : Nat} {t : Text} {v : Value} (h : marked? base t = some v) :
    inside? (some v) = none := by
  unfold marked? at h
  split at h
  · cases h
    exact inside?_integerValue _ _
  · cases h

theorem inside?_of_plain? {t : Text} {v : Value} (h : plain? t = some v) : inside? (some v) = none := by
  unfold plain? at h
  dsimp only at h
  split at h
  · cases h
    exact inside?_integerValue _ _
  · cases h

theorem inside?_of_special? {t : Text} {v : Value} (h : special? t = some v) : inside? (some v) = none := by
  unfold special? at h
  dsimp only at h
  split at h
  · cases h
    rfl
  · split at h
    · cases h
      rfl
    · cases h

theorem inside?_of_number? {t : Text} {v : Value} (h : number? t = some v) : inside? (some v) = none := by
  unfold number? at h
  split at h
  · exact inside?_of_marked? h
  · exact inside?_of_marked? h
  · exact inside?_of_marked? h
  · split at h
    · unfold finite? at h
      split at h
      · exact inside?_of_unseparated? h
      · cases h
    · rcases Option.or_eq_some_iff.1 h with h | ⟨-, h⟩
      · exact inside?_of_plain? h
      · exact inside?_of_special? h

theorem inside?_of_tokenValue? {t : Text} {v : Value} (h : tokenValue? t = some v) : inside? (some v) = none := by
  unfold tokenValue? at h
  split at h
  · cases h
    rfl
  · split at h
    · cases h
      rfl
    · rcases Option.or_eq_some_iff.1 h with h | ⟨-, h⟩
      · exact inside?_of_number? h
      · obtain ⟨m, -, rfl⟩ := Option.map_eq_some_iff.1 h
        rfl

theorem kind_tableWith {entries : List (Key × Written)} {t t' : Table} (h : tableWith t entries = .ok t') :
    t'.kind = t.kind := by
  induction entries generalizing t with
  | nil =>
    cases h
    rfl
  | cons e entries ih =>
    obtain ⟨key, -, h⟩ := ok_of_bind h
    obtain ⟨v, -, h⟩ := ok_of_bind h
    obtain ⟨u, hu, h⟩ := ok_of_bind h
    rw [ih h]
    exact kind_change? (eq_some_of_needed hu)

/-- **No line leads into a value that was written**: a table written inline is closed. -/
theorem inside?_of_value {w : Written} {v : Value} (h : w.value = .ok v) : inside? (some v) = none := by
  cases w with
  | text t =>
    cases h
    rfl
  | token t => exact inside?_of_tokenValue? (eq_some_of_needed h)
  | array items =>
    obtain ⟨vs, -, rfl⟩ := ok_of_map h
    rfl
  | table entries =>
    obtain ⟨t, ht, rfl⟩ := ok_of_map h
    have hkind : t.kind = .inline := kind_tableWith ht
    rw [Table.value, hkind]
    rfl

/-! ## Lines in another order -/

/-- **Two lines that give values may change places**, whatever they give them to. -/
theorem Draft.add_exchange {d d₁ d₂ : Draft} {a b : Line} (ha : a.IsEntry) (hb : b.IsEntry) (h₁ : d.add a = .ok d₁)
    (h₂ : d₁.add b = .ok d₂) : ∃ d₁', d.add b = .ok d₁' ∧ d₁'.add a = .ok d₂ := by
  cases a with
  | header hd => exact ha.elim
  | entry key w =>
    cases b with
    | header hd => exact hb.elim
    | entry key' w' =>
      obtain ⟨hchecked, v, current, hv, hassign, rfl⟩ := add_entry_eq_ok_iff.1 h₁
      obtain ⟨hchecked', v', current', hv', hassign', rfl⟩ := add_entry_eq_ok_iff.1 h₂
      obtain ⟨between, hfirst, hsecond⟩ := exchange (inside?_of_value hv) hassign hassign'
      exact ⟨{ d with current := between }, add_entry_eq_ok_iff.2 ⟨hchecked', v', between, hv', hfirst, rfl⟩,
        add_entry_eq_ok_iff.2 ⟨hchecked, v, current', hv, hsecond, rfl⟩⟩

theorem Draft.addAll_perm {ls ls' : List Line} (hp : ls.Perm ls') (hls : ∀ l ∈ ls, l.IsEntry) {d d' : Draft}
    (h : ls.foldlM Draft.add d = .ok d') : ls'.foldlM Draft.add d = .ok d' := by
  induction hp generalizing d with
  | nil => exact h
  | cons l hp ih =>
    rw [List.foldlM_cons] at h ⊢
    obtain ⟨d₁, h₁, h⟩ := ok_of_bind h
    rw [h₁]
    exact ih (List.forall_mem_cons.1 hls).2 h
  | swap a b ls =>
    rw [List.foldlM_cons] at h ⊢
    obtain ⟨d₁, h₁, h⟩ := ok_of_bind h
    rw [List.foldlM_cons] at h
    obtain ⟨d₂, h₂, h⟩ := ok_of_bind h
    obtain ⟨hb, hrest⟩ := List.forall_mem_cons.1 hls
    obtain ⟨d₁', h₁', h₂'⟩ := add_exchange hb (hrest a List.mem_cons_self) h₁ h₂
    rw [h₁']
    show (b :: ls).foldlM Draft.add d₁' = .ok d'
    rw [List.foldlM_cons, h₂']
    exact h
  | trans hp _ ih ih' => exact ih' (fun l hl => hls l (hp.mem_iff.2 hl)) (ih hls h)

/-- lines with the same headers, and between them the same lines that give values, in any order -/
inductive Rearranged : List Line → List Line → Prop where
  | nil : Rearranged [] []
  | header (hd : Header) {ls ls' : List Line} (h : Rearranged ls ls') : Rearranged (.header hd :: ls) (.header hd :: ls')
  | entries {es es' ls ls' : List Line} (hp : es.Perm es') (hes : ∀ l ∈ es, l.IsEntry) (h : Rearranged ls ls') :
    Rearranged (es ++ ls) (es' ++ ls')

theorem Rearranged.addAll {ls ls' : List Line} (hr : Rearranged ls ls') {d d' : Draft}
    (h : ls.foldlM Draft.add d = .ok d') : ls'.foldlM Draft.add d = .ok d' := by
  induction hr generalizing d with
  | nil => exact h
  | header hd _ ih =>
    rw [List.foldlM_cons] at h ⊢
    obtain ⟨d₁, h₁, h⟩ := ok_of_bind h
    rw [h₁]
    exact ih h
  | entries hp hes _ ih =>
    rw [List.foldlM_append] at h ⊢
    obtain ⟨d₁, h₁, h⟩ := ok_of_bind h
    rw [Draft.addAll_perm hp hes h₁]
    exact ih h

/-- two documents have the same lines, but for the order of those before the first header and under each -/
def Reordered (t t' : Text) : Prop :=
  ∃ ls ls', lines? (t.length + 1) (dropMark t) = some ls ∧ lines? (t'.length + 1) (dropMark t') = some ls' ∧
    Rearranged ls ls'

/-- **The order of its lines, from one header to the next, makes no difference to a document.** -/
theorem Reordered.document_eq {t t' : Text} {es : Entries} (h : Reordered t t') (hdoc : document t = .ok es) :
    document t' = .ok es := by
  obtain ⟨ls, ls', hls, hls', hr⟩ := h
  obtain ⟨_, hlines, hdoc⟩ := ok_of_bind hdoc
  obtain ⟨draft, hdraft, hdoc⟩ := ok_of_bind hdoc
  obtain rfl := Option.some.inj ((eq_some_of_needed hlines).symm.trans hls)
  rw [document, hls']
  show (ls'.foldlM Draft.add {} >>= fun draft => needed draft.finish? >>= fun root => .ok root.entries) = .ok es
  rw [hr.addAll hdraft]
  exact hdoc

end CallFeed.Toml
