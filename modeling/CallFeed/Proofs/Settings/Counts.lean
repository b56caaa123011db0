/-
Counts that are given as integers, in the file or in the environment.

A field that is a count has room for what its type holds. An integer given for it is kept as it is when it is one of
these, and is refused as that field's otherwise; it never becomes another count.

- `boundedCount?_integer`, `boundedCount?_text`: an integer comes to itself where there is room, and so does its text;
- `keptOrRefused_of_entry`: what stands under a key decides;
- `counts_are_kept_or_refused`: so it is for whole sources, wherever the integer is given.
-/
import CallFeed.Proofs.Settings.Fitting
import CallFeed.Proofs.Toml.Assignments

namespace CallFeed.Settings

open CallFeed.Text

/-! ## Counts and their texts -/

/-- how many numbers the type of a field holds, if the field is a count -/
def Field.size? : Field → Option Nat
  | port => some UInt16.size
  | backlog => some UInt32.size
  | rate => some UInt64.size
  | durationSecs => some UInt64.size
  | _ => none

theorem Field.value?_of_size? {f : Field} {size : Nat} (h : f.size? = some size) :
    ∃ bits, bits ≤ 64 ∧ size = Number.twoTo bits ∧ ∀ x, f.value? x = boundedCount? bits x := by
  cases f with
  | port => exact ⟨16, by decide, (Option.some.inj h).symm, fun _ => rfl⟩
  | backlog => exact ⟨32, by decide, (Option.some.inj h).symm, fun _ => rfl⟩
  | rate => exact ⟨64, by decide, (Option.some.inj h).symm, fun _ => rfl⟩
  | durationSecs => exact ⟨64, by decide, (Option.some.inj h).symm, fun _ => rfl⟩
  | _ => cases h

/-- the text is plain decimal for an integer: digits, zeros in front or not, and a minus before them if it is negative -/
inductive PlainDecimal : Text → Int → Prop where
  | digits {ds : Text} : ds ≠ [] → (∀ c ∈ ds, c.isDigit = true) → PlainDecimal ds (Toml.natOf ds)
  | minus {ds : Text} : (∀ c ∈ ds, c.isDigit = true) → 0 < Toml.natOf ds → PlainDecimal ('-' :: ds) (-Toml.natOf ds)

/-- every integer, of any size, has a plain decimal text -/
theorem plainDecimal_integerText (v : Int) : PlainDecimal (Toml.integerText v) v := by
  have hvalue := Toml.natOf_decimal v.natAbs
  have hdigits : ∀ c ∈ decimal v.natAbs, c.isDigit = true := fun c hc => isDigit_of_mem_decimal hc
  unfold Toml.integerText
  split
  · have hplain := PlainDecimal.minus hdigits (by omega)
    rwa [hvalue, show -(v.natAbs : Int) = v by omega] at hplain
  · have hplain := PlainDecimal.digits (decimal_ne_nil _) hdigits
    rwa [hvalue, show (v.natAbs : Int) = v by omega] at hplain

namespace PlainDecimal

variable {t : Text} {v : Int}

theorem isIntegerChar (h : PlainDecimal t v) : ∀ c ∈ t, Toml.isIntegerChar c = true := by
  intro c hc
  have hdigit {ds : Text} (hds : ∀ c ∈ ds, c.isDigit = true) (hmem : c ∈ ds) : Toml.isIntegerChar c = true := by
    simp [Toml.isIntegerChar, hds c hmem]
  cases h with
  | digits _ hds => exact hdigit hds hc
  | minus hds _ =>
    rcases List.mem_cons.1 hc with rfl | hc
    · decide
    · exact hdigit hds hc

theorem toNat_lt (h : PlainDecimal t v) : ∀ c ∈ t, c.toNat < 65 := by
  intro c hc
  have hchar := h.isIntegerChar c hc
  simp only [Toml.isIntegerChar, Char.isDigit, Bool.or_eq_true, Bool.and_eq_true, decide_eq_true_eq, beq_iff_eq] at hchar
  rcases hchar with ⟨-, hle⟩ | rfl
  · exact Nat.lt_of_le_of_lt hle (by decide)
  · decide

theorem isAscii (h : PlainDecimal t v) : IsAscii t := fun c hc => Nat.lt_trans (h.toNat_lt c hc) (by decide)

end PlainDecimal

theorem lowerAfter_of_lt {t : Text} (h : ∀ c ∈ t, c.toNat < 65) (before : Text) : lowerAfter before t = t := by
  induction t generalizing before with
  | nil => rfl
  | cons c t ih =>
    obtain ⟨hc, ht⟩ := List.forall_mem_cons.1 h
    have hsame : lowerChar c = c := by
      rw [lowerChar_ascii (by omega), if_neg (by omega)]
    have hfirst : c ≠ 'İ' := by
      rintro rfl
      exact absurd hc (by decide)
    have hlast : c ≠ 'Σ' := by
      rintro rfl
      exact absurd hc (by decide)
    simp only [lowerAfter, if_neg hfirst, if_neg hlast, hsame, ih ht, List.singleton_append]

/-- plain decimal text spells no truth value by a word -/
theorem PlainDecimal.not_word {t : Text} {v : Int} (h : PlainDecimal t v) {words : List Text}
    (hwords : (words.all fun w => w.any fun c => !Toml.isIntegerChar c) = true) : words.contains (lower t) = false := by
  rw [lower, lowerAfter_of_lt h.toNat_lt, ← Bool.not_eq_true, List.contains_iff_mem]
  intro hmem
  obtain ⟨c, hc, hno⟩ := List.any_eq_true.1 (List.all_eq_true.1 hwords t hmem)
  rw [h.isIntegerChar c hc] at hno
  cases hno

/-- **Plain decimal text comes to its integer**, and to nothing when that is negative or too large for 64 bits. -/
theorem countOfText?_plain {t : Text} {v : Int} (h : PlainDecimal t v) :
    countOfText? t = if 0 ≤ v ∧ v ≤ maxCount then some v.toNat else none := by
  unfold countOfText?
  rw [h.not_word (by decide), h.not_word (by decide)]
  simp only [Bool.false_eq_true, if_false]
  cases h with
  | digits hne hds =>
    rw [readUnsigned_digits hne hds, readDigits_of_digits hds _ _ 0 (Nat.zero_le _), ← Toml.natOf_eq]
    by_cases hle : Toml.natOf t ≤ maxCount
    · rw [if_pos hle, if_pos ⟨Int.natCast_nonneg _, Int.ofNat_le.2 hle⟩]
      rfl
    · rw [if_neg hle, if_neg fun hrange => hle (Int.ofNat_le.1 hrange.2)]
      rfl
  | minus hds hpos =>
    rw [if_neg (by omega)]
    rfl

/-- what is no count but the one integer comes to that, and to nothing when there is no room for it -/
theorem boundedCount?_eq {bits : Nat} {x : Scalar} {v : Int}
    (hcount : 0 ≤ v ∧ v < Number.twoTo bits → countOf x = .ok v.toNat) (honly : ∀ n, countOf x = .ok n → (n : Int) = v) :
    boundedCount? bits x = if 0 ≤ v ∧ v < Number.twoTo bits then some (.count v.toNat) else none := by
  unfold boundedCount?
  by_cases hrange : 0 ≤ v ∧ v < Number.twoTo bits
  · rw [if_pos hrange, hcount hrange]
    exact if_pos (by omega)
  · rw [if_neg hrange]
    split
    · rfl
    · rename_i n hn
      have hvalue := honly n hn
      exact if_neg (by omega)

theorem boundedCount?_integer (bits : Nat) (v : Int) :
    boundedCount? bits (.integer v) = if 0 ≤ v ∧ v < Number.twoTo bits then some (.count v.toNat) else none := by
  have hcount : countOf (.integer v) = if v < 0 then .error (.negative v, .notNegative) else .ok v.toNat := rfl
  refine boundedCount?_eq (fun hrange => ?_) (fun n hn => ?_)
  · rw [hcount, if_neg (Int.not_lt.2 hrange.1)]
  · rw [hcount] at hn
    split at hn
    · cases hn
    · rename_i hnonneg
      rw [← Except.ok.inj hn]
      exact Int.toNat_of_nonneg (Int.not_lt.1 hnonneg)

theorem boundedCount?_text {bits : Nat} (hbits : bits ≤ 64) {t : Text} {v : Int} (h : PlainDecimal t v) :
    boundedCount? bits (.text t) = if 0 ≤ v ∧ v < Number.twoTo bits then some (.count v.toNat) else none := by
  have hbound : Number.twoTo bits ≤ maxCount + 1 := Nat.pow_le_pow_right (by decide) hbits
  have htext := countOfText?_plain h
  refine boundedCount?_eq (fun hrange => ?_) (fun n hn => ?_)
  · rw [if_pos (by omega)] at htext
    simp only [countOf, htext]
  · simp only [countOf, htext] at hn
    split at hn
    · rename_i m hm
      split at hm
      · rename_i hrange
        rw [← Except.ok.inj hn, ← Option.some.inj hm]
        exact Int.toNat_of_nonneg hrange.1
      · cases hm
    · cases hn

/-- the keys of fields need no quotes -/
theorem isBareName_key (f : Field) : Toml.IsBareName f.key := by
  have hall : f.key ≠ [] ∧ f.key.all Toml.isBare = true := by
    cases f <;> exact ⟨by decide, by decide⟩
  exact ⟨hall.1, List.all_eq_true.1 hall.2⟩

/-! ## What becomes of an integer -/

/-- settings are loaded exactly when the field has room for the integer, and then it holds it; otherwise they are refused
for that field -/
structure KeptOrRefused (f : Field) (size : Nat) (v : Int) (loaded : Except LoadFault Settings) : Prop where
  accepted : (∃ s, loaded = .ok s) ↔ 0 ≤ v ∧ v < size
  kept : ∀ s, loaded = .ok s → ∃ n : Nat, f.of s = .count n ∧ (n : Int) = v
  refused : ¬ (0 ≤ v ∧ v < size) → ∃ fault, loaded = .error (.type fault) ∧ fault.field = f

/-- **What stands under the key of a field decides**, when every other field has room for its own. -/
theorem keptOrRefused_of_entry {es : Entries} {f : Field} {size : Nat} {v : Int} {x : Scalar} {o : Origin}
    (hothers : ∀ g, g ≠ f → es.Fits g) (hx : es f = some (.scalar x o))
    (hvalue : f.value? x = if 0 ≤ v ∧ v < size then some (.count v.toNat) else none) :
    KeptOrRefused f size v (es.settings.mapError .type) := by
  have hfits : es.Fits f ↔ 0 ≤ v ∧ v < size := by
    simp only [Entries.Fits, Entries.holds_iff_of_scalar hx, hvalue]
    split
    · rename_i hrange
      exact ⟨fun _ => hrange, fun _ => ⟨_, rfl⟩⟩
    · rename_i hrange
      exact ⟨nofun, fun hin => absurd hin hrange⟩
  -- every other field has room, so this one decides
  have hloaded : (∃ s, es.settings = .ok s) ↔ 0 ≤ v ∧ v < size := by
    rw [Entries.exists_settings_iff, ← hfits]
    constructor
    · exact fun hall => hall f
    · intro hf g
      by_cases hg : g = f
      · exact hg ▸ hf
      · exact hothers g hg
  refine ⟨?_, fun s hs => ?_, fun hout => ?_⟩
  · rw [← hloaded]
    exact ⟨fun ⟨s, hs⟩ => ⟨s, ok_of_mapError hs⟩, fun ⟨s, hs⟩ => ⟨s, by rw [hs]; rfl⟩⟩
  · have hok := ok_of_mapError hs
    have hholds := (Entries.holds_iff_of_scalar hx).1 (Entries.holds_of_settings hok f)
    have hrange := hloaded.1 ⟨s, hok⟩
    rw [hvalue, if_pos hrange] at hholds
    exact ⟨v.toNat, (Option.some.inj hholds).symm, Int.toNat_of_nonneg hrange.1⟩
  · cases hs : es.settings with
    | ok s => exact absurd (hloaded.1 ⟨s, hs⟩) hout
    | error fault =>
      refine ⟨fault, rfl, ?_⟩
      by_contra hne
      exact Entries.settings_error hs (hothers fault.field hne)

/-! ## Whole sources -/

/-- the file gives a field an integer under its key, and says nothing else of the field -/
structure Files.Gives (files : Files) (path : Text) (f : Field) (v : Int) : Prop where
  entry : files.entry? path f = some (.scalar (.integer v))
  onlyByKey : files.OnlyByKey path f

/-- a variable gives a field an integer in plain decimal, and no other says anything of the field -/
def Environment.Gives (env : Environment) (f : Field) (v : Int) : Prop :=
  ∃ name t, (name, utf8 t) ∈ env ∧ variablePath? name = some f.key ∧ PlainDecimal t v ∧
    ∀ w ∈ env, w = (name, utf8 t) ∨ VariableSpares f w

theorem keptOrRefused_of_file {f : Field} {size : Nat} (hsize : f.size? = some size) {v : Int} {files : Files}
    {path : Text} {env : Environment} (hfiles : files.ValidBut path f) (henv : env.ValidBut f)
    (hgives : files.Gives path f v) (hspares : env.Spares f) :
    KeptOrRefused f size v (load files path env) := by
  obtain ⟨bits, -, rfl, hvalue⟩ := Field.value?_of_size? hsize
  obtain ⟨es, hes, hothers, hentry⟩ := hfiles.entries
  obtain ⟨items, hitems, hvalid⟩ := henv.items
  obtain ⟨o, hx⟩ := hentry _ hgives.entry hgives.onlyByKey
  rw [load_eq hes hitems hvalid]
  refine keptOrRefused_of_entry (x := .integer v) (o := o)
    (fun g hne => Entries.fits_layered hvalid hne (hothers g hne)) ?_ ?_
  · rw [Entries.layered_of_spares es (Environment.spares_items hspares hitems), hx]
  · rw [hvalue, boundedCount?_integer]

theorem keptOrRefused_of_variable {f : Field} {size : Nat} (hsize : f.size? = some size) {v : Int} {files : Files}
    {path : Text} {env : Environment} (hfiles : files.ValidBut path f) (henv : env.ValidBut f) (hgives : env.Gives f v) :
    KeptOrRefused f size v (load files path env) := by
  obtain ⟨bits, hbits, rfl, hvalue⟩ := Field.value?_of_size? hsize
  obtain ⟨es, hes, hothers, -⟩ := hfiles.entries
  obtain ⟨items, hitems, hvalid⟩ := henv.items
  obtain ⟨name, t, hmem, hkey, hplain, honly⟩ := hgives
  rw [load_eq hes hitems hvalid]
  refine keptOrRefused_of_entry (x := .text t) (o := .environment)
    (fun g hne => Entries.fits_layered hvalid hne (hothers g hne)) ?_ ?_
  · exact Environment.layered_variable hmem hkey (decode?_utf8_of_ascii hplain.isAscii) honly hitems es
  · rw [hvalue, boundedCount?_text hbits hplain]

/-- **Counts are kept or refused.** Let the sources be valid but for what they say of one count: its port, backlog, rate
or duration. If the file gives it an integer and the environment leaves it alone, or if the environment gives it an
integer in plain decimal, of whatever size, then settings are loaded exactly when the integer is one that the field's type
holds, and hold it unchanged; any other is refused as a value for that field. An integer of 64 bits is given by every file
that starts with lines of bare names and integers, if one of them gives it for the key; and every integer has a plain
decimal text. -/
theorem counts_are_kept_or_refused {f : Field} {size : Nat} (hsize : f.size? = some size) (v : Int) {files : Files}
    {path : Text} {env : Environment} (hfiles : files.ValidBut path f) (henv : env.ValidBut f) :
    (files.Gives path f v → env.Spares f → KeptOrRefused f size v (load files path env)) ∧
    (env.Gives f v → KeptOrRefused f size v (load files path env)) ∧
    (∀ name octets lines rest, files.settingsFile? path = some (name, octets) →
      decodeLossy (dropMark octets) = Toml.assignments lines rest → (∀ l ∈ lines, Toml.IsBareName l.1) →
      (f.key, v) ∈ lines → -(signedBound : Int) ≤ v → v < signedBound →
      files.entry? path f = some (.scalar (.integer v))) ∧
    PlainDecimal (Toml.integerText v) v := by
  refine ⟨keptOrRefused_of_file hsize hfiles henv, keptOrRefused_of_variable hsize hfiles henv,
    fun name octets lines rest hfile htext hnames hmem hlow hhigh => ?_, plainDecimal_integerText v⟩
  obtain ⟨items, hitems, -⟩ := hfiles name octets hfile
  obtain ⟨entries, hdoc, -⟩ := fileItems_ok hitems
  have hlook : Toml.lookup f.key entries = some (.scalar (.integer v)) := by
    rw [htext] at hdoc
    exact Toml.lookup_of_assignments hnames hmem hlow hhigh hdoc
  simp only [Files.entry?, hfile, hdoc]
  exact hlook

/-- a port of 70000 in a file is refused, and the largest port there is, with a zero in front, is kept when a variable
gives it instead -/
theorem no_port_seventy_thousand :
    let lines : List (Text × Int) := [(Field.backlog.key, 7), (Field.port.key, 70000)]
    let octets := utf8 (Toml.assignments lines "host = \"::\"\n".toList)
    let files : Files := { files := [(["presence_flood.toml".toList], octets)] }
    let env : Environment := [("PRESENCE_FLOOD_PORT".toList, utf8 "065535".toList)]
    (∃ fault, load files settingsName [] = .error (.type fault) ∧ fault.field = .port) ∧
      ∃ s, load files settingsName env = .ok s ∧ Field.port.of s = .count 65535 := by
  intro lines octets files env
  have hfile : files.settingsFile? settingsName = some ("presence_flood.toml".toList, octets) := by decide +kernel
  have hgiven : fileItems "presence_flood.toml".toList octets = .ok [(Field.backlog.key, .scalar (.integer 7)),
      (Field.host.key, .scalar (.text "::".toList)), (Field.port.key, .scalar (.integer 70000))] := by decide +kernel
  have hfiles : files.ValidBut settingsName .port := by
    intro name octets' h
    obtain ⟨rfl, rfl⟩ := Prod.mk.inj (Option.some.inj (hfile.symm.trans h))
    refine ⟨_, hgiven, fun item hitem => ?_⟩
    simp only [List.mem_cons, List.not_mem_nil, or_false] at hitem
    rcases hitem with rfl | rfl | rfl
    · exact validBut_key fun _ => by decide
    · exact validBut_key fun _ => by decide
    · exact validBut_key fun hne => absurd rfl hne
  have honly : files.OnlyByKey settingsName .port := by
    intro name octets' items h hitems item hitem
    obtain ⟨rfl, rfl⟩ := Prod.mk.inj (Option.some.inj (hfile.symm.trans h))
    obtain rfl := Except.ok.inj (hgiven.symm.trans hitems)
    simp only [List.mem_cons, List.not_mem_nil, or_false] at hitem
    rcases hitem with rfl | rfl | rfl
    · exact Or.inr (spares_key (f := .port) (g := .backlog) (by decide))
    · exact Or.inr (spares_key (f := .port) (g := .host) (by decide))
    · exact Or.inl rfl
  have hnone : Environment.ValidBut [] .port := fun v hv => (List.not_mem_nil hv).elim
  have hnames : ∀ l ∈ lines, Toml.IsBareName l.1 := by
    intro l hl
    simp only [lines, List.mem_cons, List.not_mem_nil, or_false] at hl
    rcases hl with rfl | rfl
    · exact isBareName_key .backlog
    · exact isBareName_key .port
  have henv : env.ValidBut .port := by
    intro v hv k hk
    obtain rfl := List.mem_singleton.1 hv
    obtain rfl : k = Field.port.key := Option.some.inj (hk.symm.trans (by decide +kernel))
    exact ⟨"065535".toList, by decide +kernel, validBut_key fun hne => absurd rfl hne⟩
  constructor
  · obtain ⟨hload, -, hread, -⟩ := counts_are_kept_or_refused rfl 70000 hfiles hnone
    have hentry := hread _ _ lines "host = \"::\"\n".toList hfile (by decide +kernel) hnames
      (List.mem_cons_of_mem _ List.mem_cons_self) (by decide) (by decide)
    exact (hload ⟨hentry, honly⟩ fun v hv => (List.not_mem_nil hv).elim).refused (by decide)
  · obtain ⟨-, hload, -⟩ := counts_are_kept_or_refused rfl 65535 hfiles henv
    have hplain : PlainDecimal "065535".toList 65535 := PlainDecimal.digits (by decide) (List.all_eq_true.1 (by decide))
    have hgives : env.Gives .port 65535 :=
      ⟨_, _, List.mem_singleton.2 rfl, by decide +kernel, hplain, fun w hw => Or.inl (List.mem_singleton.1 hw)⟩
    have hkept := hload hgives
    obtain ⟨s, hs⟩ := hkept.accepted.2 (by decide)
    obtain ⟨n, hn, hvalue⟩ := hkept.kept s hs
    obtain rfl : n = 65535 := by omega
    exact ⟨s, hs, hn⟩

end CallFeed.Settings
