/-
Numerals that tell their number, however many zeros lead them.

- `padded_inj`, `decimal_inj`: two numerals that are the same are of the same number;
- `length_padded`: a number that fits its width fills it;
- `readDigits_of_digits`: digits are read to their number or refused, so none is cut down to the room there is;
- `IsNumeral`, `readUnsigned_eq_ok_iff`, `readSigned_eq_ok_iff`: what can be read is a plus sign or none and digits.
-/
import Mathlib.Data.List.Basic
import CallFeed.Number.Power
import CallFeed.Proofs.Except
import CallFeed.Text.Numeral

namespace CallFeed.Text

theorem decimal_ne_nil (n : Nat) : decimal n ≠ [] := Nat.toDigits_ne_nil

theorem isDigit_of_mem_decimal {n : Nat} {c : Char} (h : c ∈ decimal n) : c.isDigit = true :=
  Nat.isDigit_of_mem_toDigits (by decide) (by decide) h

theorem not_mem_decimal {c : Char} (hc : c.isDigit = false) (n : Nat) : c ∉ decimal n := by
  intro h
  rw [isDigit_of_mem_decimal h] at hc
  cases hc

theorem isDigit_of_mem_padded {width n : Nat} {c : Char} (h : c ∈ padded width n) : c.isDigit = true := by
  rcases List.mem_append.1 h with h | h
  · rw [List.eq_of_mem_replicate h]
    decide
  · exact isDigit_of_mem_decimal h

theorem padded_ne_nil (width n : Nat) : padded width n ≠ [] := List.append_ne_nil_of_right_ne_nil _ (decimal_ne_nil n)

/-- leading zeros do not count -/
theorem readDigits_zeros (max : Nat) (beyond : NumeralFault) (count : Nat) (t : Text) :
    readDigits 10 max beyond 0 (List.replicate count '0' ++ t) = readDigits 10 max beyond 0 t := by
  have hzero : digit? 10 '0' = some 0 := by decide
  induction count with
  | zero => rfl
  | succ count ih =>
    rw [List.replicate_succ, List.cons_append, readDigits, hzero]
    simpa using ih

theorem readDigits_padded {max n : Nat} (beyond : NumeralFault) (width : Nat) (h : n ≤ max) :
    readDigits 10 max beyond 0 (padded width n) = .ok n := by
  rw [padded, readDigits_zeros, readDigits_decimal beyond h]

/-- **Numerals that are the same are of the same number**, also at different widths. -/
theorem padded_inj {width width' m n : Nat} (h : padded width m = padded width' n) : m = n := by
  have hm := readDigits_padded .tooLarge width (Nat.le_max_left m n)
  have hn := readDigits_padded .tooLarge width' (Nat.le_max_right m n)
  rw [h, hn] at hm
  exact (Except.ok.inj hm).symm

theorem decimal_eq_padded (n : Nat) : decimal n = padded 0 n := by
  simp [padded]

theorem decimal_inj {m n : Nat} (h : decimal m = decimal n) : m = n := by
  rw [decimal_eq_padded, decimal_eq_padded] at h
  exact padded_inj h

theorem length_decimal_le {width n : Nat} (h : n < Number.tenTo (width + 1)) : (decimal n).length ≤ width + 1 := by
  induction width generalizing n with
  | zero => simp [decimal_eq_of_lt (show n < 10 from h)]
  | succ width ih =>
    by_cases hn : n < 10
    · simp [decimal_eq_of_lt hn]
    · have hdiv : n / 10 < Number.tenTo (width + 1) := by
        rw [Number.tenTo_succ] at h
        omega
      have hlen := ih hdiv
      rw [decimal_eq_append (by omega), List.length_append]
      exact Nat.succ_le_succ hlen

theorem length_padded {width n : Nat} (h : n < Number.tenTo (width + 1)) :
    (padded (width + 1) n).length = width + 1 := by
  have hlen := length_decimal_le h
  simp only [padded, List.length_append, List.length_replicate]
  omega

/-! ## Digits -/

/-- a number with one more digit behind it -/
def addDigit (n : Nat) (c : Char) : Nat := n * 10 + (c.toNat - 48)

theorem le_foldl_addDigit (v : Nat) (ds : Text) : v ≤ ds.foldl addDigit v := by
  induction ds generalizing v with
  | nil => exact Nat.le_refl v
  | cons c ds ih =>
    have hstep : v ≤ addDigit v c := by
      unfold addDigit
      omega
    exact Nat.le_trans hstep (ih (addDigit v c))

theorem bounds_of_isDigit {c : Char} (h : c.isDigit = true) : 48 ≤ c.toNat ∧ c.toNat ≤ 57 := by
  simp only [Char.isDigit, Bool.and_eq_true, decide_eq_true_eq] at h
  exact h

theorem digit?_of_isDigit {c : Char} (h : c.isDigit = true) : digit? 10 c = some (c.toNat - 48) := by
  have hlt : c.toNat - 48 < 10 := by
    have := bounds_of_isDigit h
    omega
  simp [digit?, h, hlt]

/-- **Digits are read to their number, or refused when it is too large.** -/
theorem readDigits_of_digits {ds : Text} (h : ∀ c ∈ ds, c.isDigit = true) (max : Nat) (beyond : NumeralFault) (v : Nat)
    (hv : v ≤ max) :
    readDigits 10 max beyond v ds =
      if ds.foldl addDigit v ≤ max then .ok (ds.foldl addDigit v) else .error beyond := by
  induction ds generalizing v with
  | nil => exact (if_pos hv).symm
  | cons c ds ih =>
    rw [readDigits, digit?_of_isDigit (h c List.mem_cons_self)]
    show (if addDigit v c ≤ max then readDigits 10 max beyond (addDigit v c) ds else .error beyond) = _
    by_cases hstep : addDigit v c ≤ max
    · rw [if_pos hstep]
      exact ih (fun d hd => h d (List.mem_cons_of_mem c hd)) (addDigit v c) hstep
    · -- more digits only make it larger
      have hbeyond : ¬ (c :: ds).foldl addDigit v ≤ max := fun hle =>
        hstep (Nat.le_trans (le_foldl_addDigit (addDigit v c) ds) hle)
      rw [if_neg hbeyond]
      exact if_neg hstep

/-- a text of characters of one sort starts with no other -/
theorem ne_cons_of_forall {p : Char → Bool} {s : Text} (hs : ∀ d ∈ s, p d = true) {c : Char} (hc : p c = false)
    (t : Text) : s ≠ c :: t := by
  rintro rfl
  rw [hs c List.mem_cons_self] at hc
  cases hc

theorem append_ne_cons_of_forall {p : Char → Bool} {s : Text} (hne : s ≠ []) (hs : ∀ d ∈ s, p d = true) {c : Char}
    (hc : p c = false) (rest t : Text) : s ++ rest ≠ c :: t := by
  obtain ⟨d, ds, rfl⟩ := List.exists_cons_of_ne_nil hne
  intro heq
  have hd : d = c := (List.cons.inj heq).1
  exact ne_cons_of_forall hs hc ds (by rw [hd])

/-- a run of characters of one sort ends where another stops it -/
theorem takeWhile_append_stop {p : Char → Bool} {s : Text} {c : Char} (hs : ∀ d ∈ s, p d = true) (hc : p c = false)
    (t : Text) : (s ++ c :: t).takeWhile p = s ∧ (s ++ c :: t).dropWhile p = c :: t := by
  have hstop : ¬ p c = true := by
    rw [hc]
    exact Bool.false_ne_true
  rw [List.takeWhile_append_of_pos hs, List.dropWhile_append_of_pos hs, List.takeWhile_cons_of_neg hstop,
    List.dropWhile_cons_of_neg hstop, List.append_nil]
  exact ⟨rfl, rfl⟩

theorem readSigned_digits {ds : Text} (hne : ds ≠ []) (hds : ∀ c ∈ ds, c.isDigit = true) (base bound : Nat) :
    readSigned base bound ds = Int.ofNat <$> readDigits base (bound - 1) .tooLarge 0 ds := by
  unfold readSigned
  split
  · exact absurd rfl hne
  · exact absurd rfl (ne_cons_of_forall hds (by decide) _)
  · exact absurd rfl (ne_cons_of_forall hds (by decide) _)
  · exact absurd rfl (ne_cons_of_forall hds (by decide) _)
  · exact absurd rfl (ne_cons_of_forall hds (by decide) _)
  · rfl

theorem readSigned_minus {ds : Text} (hne : ds ≠ []) (base bound : Nat) :
    readSigned base bound ('-' :: ds) = (fun n => -Int.ofNat n) <$> readDigits base bound .tooSmall 0 ds := by
  cases ds with
  | nil => exact absurd rfl hne
  | cons c ds => rfl

theorem readUnsigned_digits {ds : Text} (hne : ds ≠ []) (hds : ∀ c ∈ ds, c.isDigit = true) (max : Nat) :
    readUnsigned max ds = readDigits 10 max .tooLarge 0 ds := by
  unfold readUnsigned
  split
  · exact absurd rfl hne
  · exact absurd rfl (ne_cons_of_forall hds (by decide) _)
  · exact absurd rfl (ne_cons_of_forall hds (by decide) _)
  · rfl

theorem head?_decimal_ne_zero {n : Nat} (h : n ≠ 0) : (decimal n).head? ≠ some '0' := by
  induction n using Nat.strongRecOn with
  | _ n ih =>
    by_cases hn : n < 10
    · have hdigit : ∀ m < 10, m ≠ 0 → Nat.digitChar m ≠ '0' := by decide
      rw [decimal_eq_of_lt hn]
      exact fun heq => hdigit n hn h (Option.some.inj heq)
    · rw [decimal_eq_append (Nat.not_lt.1 hn), List.head?_append_of_ne_nil _ (decimal_ne_nil _)]
      exact ih (n / 10) (by omega) (by omega)

/-! ## Digits as they are written -/

theorem digitChar_of_isDigit {c : Char} (h : c.isDigit = true) : (c.toNat - 48).digitChar = c := by
  have hbounds := bounds_of_isDigit h
  apply Char.toNat_inj.1
  rw [Nat.toNat_digitChar_of_lt_ten (by omega)]
  omega

/-- digits behind a number that is not zero are its last ones -/
theorem decimal_append_digits {ds : Text} (hds : ∀ c ∈ ds, c.isDigit = true) {v : Nat} (hv : 0 < v) :
    decimal v ++ ds = decimal (ds.foldl addDigit v) := by
  induction ds generalizing v with
  | nil => exact List.append_nil _
  | cons c ds ih =>
    obtain ⟨hc, hds⟩ := List.forall_mem_cons.1 hds
    have hbounds := bounds_of_isDigit hc
    have hnext : decimal (addDigit v c) = decimal v ++ [c] := by
      have hdiv : addDigit v c / 10 = v := by
        unfold addDigit
        omega
      have hmod : addDigit v c % 10 = c.toNat - 48 := by
        unfold addDigit
        omega
      rw [decimal_eq_append (by unfold addDigit; omega), hdiv, hmod, digitChar_of_isDigit hc]
    calc decimal v ++ c :: ds = decimal v ++ [c] ++ ds := by rw [List.append_assoc, List.singleton_append]
      _ = decimal (addDigit v c) ++ ds := by rw [hnext]
      _ = decimal ((c :: ds).foldl addDigit v) := ih hds (by unfold addDigit; omega)

/-- **Digits without leading zeros are their number as it is written.** -/
theorem eq_decimal {ds : Text} (hne : ds ≠ []) (hds : ∀ c ∈ ds, c.isDigit = true)
    (hzero : ds.head? = some '0' → ds = ['0']) : ds = decimal (ds.foldl addDigit 0) := by
  cases ds with
  | nil => exact absurd rfl hne
  | cons c ds =>
    obtain ⟨hc, hds⟩ := List.forall_mem_cons.1 hds
    by_cases hfirst : c = '0'
    · rw [hzero (congrArg some hfirst)]
      rfl
    · have hfold : (c :: ds).foldl addDigit 0 = ds.foldl addDigit (c.toNat - 48) := by
        rw [List.foldl_cons, addDigit, Nat.zero_mul, Nat.zero_add]
      have hpos : 0 < c.toNat - 48 := by
        rw [Nat.pos_iff_ne_zero]
        intro h
        rw [← digitChar_of_isDigit hc, h] at hfirst
        exact hfirst rfl
      have hbounds := bounds_of_isDigit hc
      have hdigit : c.toNat - 48 < 10 := by omega
      rw [hfold, ← decimal_append_digits hds hpos, decimal_eq_of_lt hdigit, digitChar_of_isDigit hc]
      rfl

/-! ## What can be read -/

theorem isDigit_of_digit? {c : Char} {d : Nat} (h : digit? 10 c = some d) : c.isDigit = true := by
  obtain ⟨hvalue, hlt⟩ := Option.filter_eq_some_iff.1 h
  have hten : d < 10 := of_decide_eq_true hlt
  split at hvalue
  · assumption
  · -- a letter is worth ten at least
    split at hvalue
    · rename_i hc
      have hlo : 97 ≤ c.toNat := hc.1
      have hd := Option.some.inj hvalue
      omega
    · split at hvalue
      · rename_i hc
        have hlo : 65 ≤ c.toNat := hc.1
        have hd := Option.some.inj hvalue
        omega
      · cases hvalue

/-- **What was read as digits is digits**, and the number is theirs. -/
theorem of_readDigits {max n v : Nat} {beyond : NumeralFault} {t : Text} (h : readDigits 10 max beyond v t = .ok n) :
    (∀ c ∈ t, c.isDigit = true) ∧ t.foldl addDigit v = n ∧ (v ≤ max → n ≤ max) := by
  induction t generalizing v with
  | nil =>
    obtain rfl := Except.ok.inj h
    exact ⟨nofun, rfl, id⟩
  | cons c t ih =>
    rw [readDigits] at h
    split at h
    · cases h
    · rename_i d hd
      have hdigit := isDigit_of_digit? hd
      obtain rfl : c.toNat - 48 = d := Option.some.inj ((digit?_of_isDigit hdigit).symm.trans hd)
      split at h
      · rename_i hle
        obtain ⟨hdigits, hvalue, hmax⟩ := ih h
        exact ⟨List.forall_mem_cons.2 ⟨hdigit, hdigits⟩, hvalue, fun _ => hmax hle⟩
      · cases h

/-- a plus sign or none, and digits, at least one, that come to a number -/
def IsNumeral (t : Text) (n : Nat) : Prop :=
  ∃ ds : Text, ds ≠ [] ∧ (∀ c ∈ ds, c.isDigit = true) ∧ (t = ds ∨ t = '+' :: ds) ∧ ds.foldl addDigit 0 = n

theorem readUnsigned_plus {ds : Text} (hne : ds ≠ []) (max : Nat) :
    readUnsigned max ('+' :: ds) = readDigits 10 max .tooLarge 0 ds := by
  cases ds with
  | nil => exact absurd rfl hne
  | cons c ds => rfl

theorem readSigned_plus {ds : Text} (hne : ds ≠ []) (base bound : Nat) :
    readSigned base bound ('+' :: ds) = Int.ofNat <$> readDigits base (bound - 1) .tooLarge 0 ds := by
  cases ds with
  | nil => exact absurd rfl hne
  | cons c ds => rfl

/-- digits are read in the same way with a plus sign and without -/
theorem IsNumeral.exists_digits {t : Text} {n : Nat} (h : IsNumeral t n) : ∃ ds : Text,
    (∀ c ∈ ds, c.isDigit = true) ∧ ds.foldl addDigit 0 = n ∧
      (∀ max, readUnsigned max t = readDigits 10 max .tooLarge 0 ds) ∧
      ∀ base bound, readSigned base bound t = Int.ofNat <$> readDigits base (bound - 1) .tooLarge 0 ds := by
  obtain ⟨ds, hne, hdigits, rfl | rfl, hvalue⟩ := h
  · exact ⟨t, hdigits, hvalue, readUnsigned_digits hne hdigits, readSigned_digits hne hdigits⟩
  · exact ⟨ds, hdigits, hvalue, readUnsigned_plus hne, readSigned_plus hne⟩

/-- **An unsigned numeral is read to its number, if there is room for it**, and nothing else can be read. -/
theorem readUnsigned_eq_ok_iff {max n : Nat} {t : Text} :
    readUnsigned max t = .ok n ↔ IsNumeral t n ∧ n ≤ max := by
  constructor
  · intro h
    unfold readUnsigned at h
    split at h
    · cases h
    · cases h
    · rename_i ds hne
      obtain ⟨hdigits, hvalue, hmax⟩ := of_readDigits h
      exact ⟨⟨ds, fun hds => hne (hds ▸ rfl), hdigits, Or.inr rfl, hvalue⟩, hmax (Nat.zero_le max)⟩
    · rename_i hne _ _
      obtain ⟨hdigits, hvalue, hmax⟩ := of_readDigits h
      exact ⟨⟨t, hne, hdigits, Or.inl rfl, hvalue⟩, hmax (Nat.zero_le max)⟩
  · rintro ⟨hnumeral, hle⟩
    obtain ⟨ds, hdigits, rfl, hread, -⟩ := hnumeral.exists_digits
    rw [hread, readDigits_of_digits hdigits max _ 0 (Nat.zero_le max), if_pos hle]

/-- **So is a signed one** that has no minus sign. -/
theorem readSigned_eq_ok_iff {bound : Nat} (hbound : 0 < bound) {z : Int} {t : Text} (ht : ∀ ds, t ≠ '-' :: ds) :
    readSigned 10 bound t = .ok z ↔ ∃ n, IsNumeral t n ∧ n < bound ∧ z = Int.ofNat n := by
  constructor
  · intro h
    unfold readSigned at h
    split at h
    · cases h
    · cases h
    · cases h
    · rename_i ds hne
      obtain ⟨n, hn, rfl⟩ := ok_of_map h
      obtain ⟨hdigits, hvalue, hmax⟩ := of_readDigits hn
      exact ⟨n, ⟨ds, fun hds => hne (hds ▸ rfl), hdigits, Or.inr rfl, hvalue⟩,
        Nat.lt_of_le_pred hbound (hmax (Nat.zero_le _)), rfl⟩
    · exact absurd rfl (ht _)
    · rename_i hne _ _ _ _
      obtain ⟨n, hn, rfl⟩ := ok_of_map h
      obtain ⟨hdigits, hvalue, hmax⟩ := of_readDigits hn
      exact ⟨n, ⟨t, hne, hdigits, Or.inl rfl, hvalue⟩, Nat.lt_of_le_pred hbound (hmax (Nat.zero_le _)), rfl⟩
  · rintro ⟨n, hnumeral, hlt, rfl⟩
    obtain ⟨ds, hdigits, rfl, -, hread⟩ := hnumeral.exists_digits
    rw [hread, readDigits_of_digits hdigits (bound - 1) _ 0 (Nat.zero_le _), if_pos (Nat.le_sub_one_of_lt hlt)]
    rfl

/-- a numeral has one number -/
theorem IsNumeral.unique {t : Text} {m n : Nat} (hm : IsNumeral t m) (hn : IsNumeral t n) : m = n := by
  have hread := readUnsigned_eq_ok_iff.2 ⟨hm, Nat.le_max_left m n⟩
  rw [readUnsigned_eq_ok_iff.2 ⟨hn, Nat.le_max_right m n⟩] at hread
  exact (Except.ok.inj hread).symm

theorem isNumeral_decimal (n : Nat) : IsNumeral (decimal n) n := by
  refine ⟨decimal n, decimal_ne_nil n, fun c hc => isDigit_of_mem_decimal hc, Or.inl rfl, ?_⟩
  exact (of_readDigits (readDigits_decimal .tooLarge (Nat.le_refl n))).2.1

theorem IsNumeral.isAscii {t : Text} {n : Nat} (h : IsNumeral t n) : IsAscii t := by
  have hdigit {c : Char} (hc : c.isDigit = true) : c.toNat < 128 :=
    Nat.lt_of_le_of_lt (bounds_of_isDigit hc).2 (by decide)
  obtain ⟨ds, -, hdigits, rfl | rfl, -⟩ := h
  · exact fun c hc => hdigit (hdigits c hc)
  · exact List.forall_mem_cons.2 ⟨by decide, fun c hc => hdigit (hdigits c hc)⟩

end CallFeed.Text
