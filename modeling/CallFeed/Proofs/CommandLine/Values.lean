/-
The values of a command line.

An argument that is no flag is a value, and each value fills the next place. A value is judged only when the reading
goes on, so what a reading comes to is seen from the value that still waits: the reading comes out well exactly when
that value can be used and the arguments left fill the places left. Which value can be used depends on nothing but its
place.

- `Filled`, `readFrom_eq_ok_iff`: places filled one after another;
- `judge_port_iff`, `judge_rate_iff`, `judge_durationSecs_iff`: the values that can be used are the numerals in range;
- `values_are_read`: what arguments are read to, and written numbers read back.
-/
import CallFeed.CommandLine
import CallFeed.Proofs.Text.Numeral
import CallFeed.Proofs.Text.Utf8

namespace CallFeed.CommandLine

open CallFeed.Text

/-! ## One value after another -/

/-- the overrides with one more value, unless something is wrong with it -/
def judge (o : Overrides) (p : Place) (arg : Octets) : Except Stop Overrides := Progress.settled ⟨o, some (p, arg), []⟩

/-- arguments fill places, one after another, and overrides become others -/
inductive Filled : Overrides → List Place → List Octets → Overrides → Prop where
  | done {o : Overrides} {ps : List Place} : Filled o ps [] o
  | value {o o' o'' : Overrides} {p : Place} {ps : List Place} {arg : Octets} {args : List Octets}
      (hjudged : judge o p arg = .ok o') (hrest : Filled o' ps args o'') : Filled o (p :: ps) (arg :: args) o''

theorem isFlag_eq_false {arg : Octets} (h : arg.head? ≠ some dash) : isFlag arg = false := by
  unfold isFlag
  rw [beq_eq_false_iff_ne.2 h, Bool.false_and]

/-- **A reading comes out well exactly when the value that waits can be used and the arguments left fill the places
left.** -/
theorem readFrom_eq_ok_iff {onlyValues : Bool} {args : List Octets} (h : ∀ a ∈ args, a.head? ≠ some dash) (r : Progress)
    (o : Overrides) :
    readFrom onlyValues r args = .ok o ↔ ∃ o', r.settled = .ok o' ∧ Filled o' r.free args o := by
  induction args generalizing r with
  | nil =>
    rw [readFrom]
    constructor
    · exact fun hr => ⟨o, hr, .done⟩
    · rintro ⟨o', hr, hfilled⟩
      generalize r.free = free at hfilled
      cases hfilled
      exact hr
  | cons arg args ih =>
    obtain ⟨hvalue, hvalues⟩ := List.forall_mem_cons.1 h
    obtain ⟨judged, last, free⟩ := r
    rw [readFrom, isFlag_eq_false hvalue, Bool.not_false, Bool.or_true, if_pos rfl]
    cases free with
    | nil =>
      constructor
      · intro hread
        cases hread
      · rintro ⟨o', -, hfilled⟩
        cases hfilled
    | cons p free =>
      simp only [Progress.next]
      cases hs : Progress.settled ⟨judged, last, p :: free⟩ with
      | error stop =>
        constructor
        · intro hread
          cases hread
        · rintro ⟨o', hr, -⟩
          cases hr
      | ok o₁ =>
        have hnext := ih hvalues ⟨o₁, some (p, arg), free⟩
        constructor
        · intro hread
          obtain ⟨o₂, hjudged, hfilled⟩ := hnext.1 hread
          exact ⟨o₁, rfl, .value hjudged hfilled⟩
        · rintro ⟨o', hr, hfilled⟩
          obtain rfl := Except.ok.inj hr
          cases hfilled with
          | value hjudged hrest => exact hnext.2 ⟨_, hjudged, hrest⟩

theorem read_eq_ok_iff {args : List Octets} (h : ∀ a ∈ args, a.head? ≠ some dash) (o : Overrides) :
    read args = .ok o ↔ Filled {} Place.all args o := by
  rw [read, readFrom_eq_ok_iff h]
  constructor
  · rintro ⟨o', hr, hfilled⟩
    obtain rfl := Except.ok.inj hr
    exact hfilled
  · exact fun hfilled => ⟨_, rfl, hfilled⟩

/-! ## The values that can be used -/

/-- an argument is a numeral of a number, in ASCII -/
def Spells (arg : Octets) (n : Nat) : Prop := ∃ t, arg = utf8 t ∧ IsNumeral t n

theorem spells_decimal (n : Nat) : Spells (utf8 (decimal n)) n := ⟨_, rfl, isNumeral_decimal n⟩

/-- what is judged is the text of an argument -/
theorem judge_eq_ok_iff {o o' : Overrides} {p : Place} {arg : Octets} :
    judge o p arg = .ok o' ↔ ∃ t, decode? arg = some t ∧ place o p t = .ok o' := by
  unfold judge Progress.settled
  dsimp only
  cases hd : decode? arg with
  | none =>
    constructor
    · intro h
      cases h
    · rintro ⟨t, ht, -⟩
      cases ht
  | some t =>
    constructor
    · exact fun h => ⟨t, rfl, ok_of_mapError h⟩
    · rintro ⟨t', ht, hp⟩
      obtain rfl := Option.some.inj ht
      dsimp only
      rw [hp]
      rfl

/-- a text that is a numeral is the text of one argument -/
theorem exists_numeral_iff {arg : Octets} {n : Nat} : (∃ t, decode? arg = some t ∧ IsNumeral t n) ↔ Spells arg n := by
  constructor
  · rintro ⟨t, hd, ht⟩
    exact ⟨t, eq_utf8_of_decode? hd ht.isAscii, ht⟩
  · rintro ⟨t, rfl, ht⟩
    exact ⟨t, decode?_utf8_of_ascii ht.isAscii, ht⟩

/-- an argument is a numeral of one number at most -/
theorem Spells.unique {arg : Octets} {m n : Nat} (hm : Spells arg m) (hn : Spells arg n) : m = n := by
  obtain ⟨t, ht, hm⟩ := exists_numeral_iff.2 hm
  obtain ⟨t', ht', hn⟩ := exists_numeral_iff.2 hn
  obtain rfl := Option.some.inj (ht.symm.trans ht')
  exact hm.unique hn

theorem readCount_eq_ok_iff {t : Text} {n : UInt64} : readCount t = .ok n ↔ IsNumeral t n.toNat := by
  unfold readCount
  constructor
  · intro h
    split at h
    · cases h
    · rename_i m hm
      obtain ⟨hnumeral, hle⟩ := readUnsigned_eq_ok_iff.1 hm
      obtain rfl := Except.ok.inj h
      have hlt : m < UInt64.size := Nat.lt_of_le_pred (by decide) hle
      rw [UInt64.toNat_ofNat_of_lt' hlt]
      exact hnumeral
  · intro h
    have hle : n.toNat ≤ maxCount := Nat.le_pred_of_lt n.toNat_lt
    rw [readUnsigned_eq_ok_iff.2 ⟨h, hle⟩]
    dsimp only
    rw [UInt64.ofNat_toNat]

theorem readPort_eq_ok_iff {t : Text} (ht : ∀ ds, t ≠ '-' :: ds) {n : UInt16} :
    readPort t = .ok n ↔ IsNumeral t n.toNat := by
  unfold readPort
  constructor
  · intro h
    split at h
    · cases h
    · rename_i z hz
      obtain ⟨m, hnumeral, -, rfl⟩ := (readSigned_eq_ok_iff (by decide) ht).1 hz
      split at h
      · rename_i hin
        obtain rfl := Except.ok.inj h
        have hlt : m < UInt16.size := Nat.lt_succ_of_le (Int.ofNat_le.1 hin.2)
        show IsNumeral t (UInt16.ofNat m).toNat
        rw [UInt16.toNat_ofNat_of_lt' hlt]
        exact hnumeral
      · cases h
  · intro h
    have hlt : n.toNat < 65536 := n.toNat_lt
    have hread : readSigned 10 signedBound t = .ok (Int.ofNat n.toNat) :=
      (readSigned_eq_ok_iff (by decide) ht).2 ⟨n.toNat, h, Nat.lt_trans hlt (by decide), rfl⟩
    rw [hread]
    dsimp only
    rw [if_pos ⟨Int.natCast_nonneg _, Int.ofNat_le.2 (Nat.le_of_lt_succ hlt)⟩]
    show Except.ok (UInt16.ofNat n.toNat) = _
    rw [UInt16.ofNat_toNat]

/-- **A value that can be used is a numeral**, where its reader takes numerals and nothing else. -/
theorem judge_iff {α : Type} {o o' : Overrides} {p : Place} {arg : Octets} {reader : Text → Except ValueFault α}
    {set : α → Overrides} {number : α → Nat} (hplace : ∀ t, place o p t = (reader t).map set)
    (hreader : ∀ t, decode? arg = some t → ∀ n, reader t = .ok n ↔ IsNumeral t (number n)) :
    judge o p arg = .ok o' ↔ ∃ n, Spells arg (number n) ∧ o' = set n := by
  rw [judge_eq_ok_iff]
  constructor
  · rintro ⟨t, hd, hp⟩
    rw [hplace] at hp
    obtain ⟨n, hn, rfl⟩ := ok_of_map hp
    exact ⟨n, exists_numeral_iff.1 ⟨t, hd, (hreader t hd n).1 hn⟩, rfl⟩
  · rintro ⟨n, hspells, rfl⟩
    obtain ⟨t, hd, ht⟩ := exists_numeral_iff.2 hspells
    refine ⟨t, hd, ?_⟩
    rw [hplace, (hreader t hd n).2 ht]
    rfl

theorem judge_port_iff {o o' : Overrides} {arg : Octets} (h : arg.head? ≠ some dash) :
    judge o .port arg = .ok o' ↔ ∃ n : UInt16, Spells arg n.toNat ∧ o' = { o with port := some n } := by
  refine judge_iff (fun _ => rfl) fun t hd n => readPort_eq_ok_iff ?_
  rintro ds rfl
  obtain ⟨rest, rfl, -⟩ := exists_of_decode?_cons hd (by decide)
  exact h rfl

theorem judge_rate_iff {o o' : Overrides} {arg : Octets} :
    judge o .rate arg = .ok o' ↔ ∃ n : UInt64, Spells arg n.toNat ∧ o' = { o with rate := some n } :=
  judge_iff (fun _ => rfl) fun _ _ _ => readCount_eq_ok_iff

theorem judge_durationSecs_iff {o o' : Overrides} {arg : Octets} :
    judge o .durationSecs arg = .ok o' ↔ ∃ n : UInt64, Spells arg n.toNat ∧ o' = { o with durationSecs := some n } :=
  judge_iff (fun _ => rfl) fun _ _ _ => readCount_eq_ok_iff

/-! ## Whole command lines -/

/-- what is given for each place, in order, is what was set for it -/
def Gives (args : List Octets) (o : Overrides) : Prop :=
  args.length ≤ 3 ∧ Option.Rel Spells args[0]? (o.port.map UInt16.toNat) ∧
    Option.Rel Spells args[1]? (o.rate.map UInt64.toNat) ∧
    Option.Rel Spells args[2]? (o.durationSecs.map UInt64.toNat)

theorem gives_of_filled {args : List Octets} (h : ∀ a ∈ args, a.head? ≠ some dash) {o : Overrides}
    (hf : Filled {} Place.all args o) : Gives args o := by
  cases hf with
  | done => exact ⟨by decide, .none, .none, .none⟩
  | value hport hf =>
    obtain ⟨port, hp, rfl⟩ := (judge_port_iff (h _ List.mem_cons_self)).1 hport
    cases hf with
    | done => exact ⟨by simp, .some hp, .none, .none⟩
    | value hrate hf =>
      obtain ⟨rate, hr, rfl⟩ := judge_rate_iff.1 hrate
      cases hf with
      | done => exact ⟨by simp, .some hp, .some hr, .none⟩
      | value hsecs hf =>
        obtain ⟨secs, hs, rfl⟩ := judge_durationSecs_iff.1 hsecs
        cases hf with
        | done => exact ⟨by simp, .some hp, .some hr, .some hs⟩

theorem eq_none_of_rel {α : Type} {number : α → Nat} {x : Option α} (h : Option.Rel Spells none (x.map number)) :
    x = none := by
  cases x with
  | none => rfl
  | some n => cases h

theorem exists_of_rel {α : Type} {number : α → Nat} {x : Option α} {arg : Octets}
    (h : Option.Rel Spells (some arg) (x.map number)) : ∃ n, x = some n ∧ Spells arg (number n) := by
  cases x with
  | none => cases h
  | some n =>
    cases h with
    | some hs => exact ⟨n, rfl, hs⟩

theorem filled_of_gives {args : List Octets} (h : ∀ a ∈ args, a.head? ≠ some dash) {o : Overrides}
    (hg : Gives args o) : Filled {} Place.all args o := by
  obtain ⟨hlength, hport, hrate, hsecs⟩ := hg
  obtain ⟨port, rate, secs⟩ := o
  match args with
  | [] =>
    obtain rfl := eq_none_of_rel hport
    obtain rfl := eq_none_of_rel hrate
    obtain rfl := eq_none_of_rel hsecs
    exact .done
  | [a] =>
    obtain ⟨p, rfl, hp⟩ := exists_of_rel hport
    obtain rfl := eq_none_of_rel hrate
    obtain rfl := eq_none_of_rel hsecs
    exact .value ((judge_port_iff (h a List.mem_cons_self)).2 ⟨p, hp, rfl⟩) .done
  | [a, b] =>
    obtain ⟨p, rfl, hp⟩ := exists_of_rel hport
    obtain ⟨r, rfl, hr⟩ := exists_of_rel hrate
    obtain rfl := eq_none_of_rel hsecs
    exact .value ((judge_port_iff (h a List.mem_cons_self)).2 ⟨p, hp, rfl⟩)
      (.value (judge_rate_iff.2 ⟨r, hr, rfl⟩) .done)
  | [a, b, c] =>
    obtain ⟨p, rfl, hp⟩ := exists_of_rel hport
    obtain ⟨r, rfl, hr⟩ := exists_of_rel hrate
    obtain ⟨d, rfl, hd⟩ := exists_of_rel hsecs
    exact .value ((judge_port_iff (h a List.mem_cons_self)).2 ⟨p, hp, rfl⟩)
      (.value (judge_rate_iff.2 ⟨r, hr, rfl⟩) (.value (judge_durationSecs_iff.2 ⟨d, hd, rfl⟩) .done))
  | _ :: _ :: _ :: _ :: rest =>
    simp only [List.length_cons] at hlength
    omega

/-- a value for a place is a numeral of a number up to a bound -/
def Fits (max : Nat) (arg? : Option Octets) : Prop := ∀ arg, arg? = some arg → ∃ n, Spells arg n ∧ n ≤ max

theorem fits_iff {α : Type} {number : α → Nat} {max : Nat} (hmax : ∀ n, (∃ a, number a = n) ↔ n ≤ max)
    (arg? : Option Octets) : Fits max arg? ↔ ∃ x : Option α, Option.Rel Spells arg? (x.map number) := by
  cases arg? with
  | none => exact ⟨fun _ => ⟨none, .none⟩, fun _ => nofun⟩
  | some arg =>
    constructor
    · intro h
      obtain ⟨n, hs, hle⟩ := h arg rfl
      obtain ⟨a, rfl⟩ := (hmax n).2 hle
      exact ⟨some a, .some hs⟩
    · rintro ⟨x, hx⟩ arg' harg
      obtain rfl := Option.some.inj harg
      obtain ⟨a, rfl, hs⟩ := exists_of_rel hx
      exact ⟨number a, hs, (hmax _).1 ⟨a, rfl⟩⟩

theorem exists_port_iff (n : Nat) : (∃ p : UInt16, p.toNat = n) ↔ n ≤ 65535 := by
  constructor
  · rintro ⟨p, rfl⟩
    exact Nat.le_of_lt_succ p.toNat_lt
  · exact fun h => ⟨UInt16.ofNat n, UInt16.toNat_ofNat_of_lt' (Nat.lt_succ_of_le h)⟩

theorem exists_count_iff (n : Nat) : (∃ c : UInt64, c.toNat = n) ↔ n ≤ maxCount := by
  constructor
  · rintro ⟨c, rfl⟩
    exact Nat.le_pred_of_lt c.toNat_lt
  · exact fun h => ⟨UInt64.ofNat n, UInt64.toNat_ofNat_of_lt' (Nat.lt_of_le_pred (by decide) h)⟩

theorem exists_gives_iff (args : List Octets) : (∃ o, Gives args o) ↔
    args.length ≤ 3 ∧ Fits 65535 args[0]? ∧ Fits maxCount args[1]? ∧ Fits maxCount args[2]? := by
  rw [fits_iff exists_port_iff, fits_iff exists_count_iff, fits_iff exists_count_iff]
  constructor
  · rintro ⟨o, hlength, hport, hrate, hsecs⟩
    exact ⟨hlength, ⟨_, hport⟩, ⟨_, hrate⟩, ⟨_, hsecs⟩⟩
  · rintro ⟨hlength, ⟨port, hport⟩, ⟨rate, hrate⟩, ⟨secs, hsecs⟩⟩
    exact ⟨⟨port, rate, secs⟩, hlength, hport, hrate, hsecs⟩

/-- the decimal texts of values, in order -/
def valueTexts (port : UInt16) (rate durationSecs : UInt64) : List Octets :=
  [utf8 (decimal port.toNat), utf8 (decimal rate.toNat), utf8 (decimal durationSecs.toNat)]

/-- the overrides of the first `k` values -/
def leading (k : Nat) (port : UInt16) (rate durationSecs : UInt64) : Overrides where
  port := if 0 < k then some port else none
  rate := if 1 < k then some rate else none
  durationSecs := if 2 < k then some durationSecs else none

theorem head?_utf8_decimal (n : Nat) : (utf8 (decimal n)).head? ≠ some dash := by
  intro h
  obtain ⟨rest, hrest⟩ := List.head?_eq_some_iff.1 h
  have hdecoded := decode?_utf8_of_ascii (isNumeral_decimal n).isAscii
  rw [hrest, decode?_ascii_cons (by decide)] at hdecoded
  obtain ⟨t, -, ht⟩ := Option.map_eq_some_iff.1 hdecoded
  exact ne_cons_of_forall (fun c hc => isDigit_of_mem_decimal hc) (by decide) t ht.symm

theorem head?_of_mem_valueTexts {port : UInt16} {rate durationSecs : UInt64} {arg : Octets}
    (h : arg ∈ valueTexts port rate durationSecs) : arg.head? ≠ some dash := by
  simp only [valueTexts, List.mem_cons, List.not_mem_nil, or_false] at h
  rcases h with rfl | rfl | rfl <;> exact head?_utf8_decimal _

theorem gives_leading (k : Nat) (port : UInt16) (rate durationSecs : UInt64) :
    Gives ((valueTexts port rate durationSecs).take k) (leading k port rate durationSecs) := by
  have hport := spells_decimal port.toNat
  have hrate := spells_decimal rate.toNat
  have hsecs := spells_decimal durationSecs.toNat
  refine ⟨List.length_take_le' k _, ?_⟩
  match k with
  | 0 => exact ⟨.none, .none, .none⟩
  | 1 => exact ⟨.some hport, .none, .none⟩
  | 2 => exact ⟨.some hport, .some hrate, .none⟩
  | k + 3 =>
    have hall : (valueTexts port rate durationSecs).take (k + 3) = valueTexts port rate durationSecs :=
      List.take_of_length_le (Nat.le_add_left 3 k)
    have hleading : leading (k + 3) port rate durationSecs = ⟨some port, some rate, some durationSecs⟩ := by
      simp [leading]
    rw [hall, hleading]
    exact ⟨.some hport, .some hrate, .some hsecs⟩

/-- **The values of a command line are read exactly and in order.** Arguments none of which starts with a dash are read
when they are three at most and each is a plus sign or none and decimal digits, at least one, of a number in the range
of its place: up to 65535 for the port, and up to 2^64-1 for the rate and the duration. What they are read to is these
numbers, and nothing for the places that are missing. In particular the first of the decimal texts of a port, a rate and
a duration, however many, read back, and override just the settings that they are for. -/
theorem values_are_read {args : List Octets} (h : ∀ a ∈ args, a.head? ≠ some dash) :
    ((∃ o, read args = .ok o) ↔
      args.length ≤ 3 ∧ Fits 65535 args[0]? ∧ Fits maxCount args[1]? ∧ Fits maxCount args[2]?) ∧
    (∀ o, read args = .ok o ↔ Gives args o) ∧
    ∀ k port rate durationSecs (s : Settings),
      read ((valueTexts port rate durationSecs).take k) = .ok (leading k port rate durationSecs) ∧
      s.overridden (leading k port rate durationSecs) =
        { s with
          port := if 0 < k then port else s.port
          rate := if 1 < k then rate else s.rate
          durationSecs := if 2 < k then durationSecs else s.durationSecs } := by
  have hgives {args : List Octets} (h : ∀ a ∈ args, a.head? ≠ some dash) (o : Overrides) :
      read args = .ok o ↔ Gives args o := by
    rw [read_eq_ok_iff h]
    exact ⟨gives_of_filled h, filled_of_gives h⟩
  refine ⟨?_, hgives h, fun k port rate durationSecs s => ⟨?_, ?_⟩⟩
  · rw [← exists_gives_iff]
    exact exists_congr (hgives h)
  · refine (hgives (fun a ha => ?_) _).2 (gives_leading k port rate durationSecs)
    exact head?_of_mem_valueTexts (List.mem_of_mem_take ha)
  · unfold Settings.overridden leading
    split <;> split <;> split <;> rfl

/-- a plus sign and zeros change nothing, and a port of 65536 is refused -/
theorem signed_port_is_read :
    let args : List Octets := ["+0080".toList, "007".toList, "18446744073709551615".toList].map utf8
    read args = .ok ⟨some 80, some 7, some 18446744073709551615⟩ ∧ ∀ o, read [utf8 "65536".toList] ≠ .ok o := by
  intro args
  have hport : Spells (utf8 "+0080".toList) 80 :=
    ⟨_, rfl, "0080".toList, by decide, List.all_eq_true.1 (by decide), Or.inr rfl, by decide⟩
  have hrate : Spells (utf8 "007".toList) 7 :=
    ⟨_, rfl, "007".toList, by decide, List.all_eq_true.1 (by decide), Or.inl rfl, by decide⟩
  have hsecs : Spells (utf8 "18446744073709551615".toList) 18446744073709551615 :=
    ⟨_, rfl, "18446744073709551615".toList, by decide, List.all_eq_true.1 (by decide), Or.inl rfl, by decide⟩
  refine ⟨((values_are_read (by decide)).2.1 _).2 ⟨by decide, .some hport, .some hrate, .some hsecs⟩, ?_⟩
  intro o ho
  obtain ⟨-, hfits, -⟩ := (values_are_read (by decide)).1.1 ⟨o, ho⟩
  obtain ⟨n, hspells, hle⟩ := hfits _ rfl
  have hn : n = 65536 := hspells.unique (spells_decimal 65536)
  omega

end CallFeed.CommandLine
