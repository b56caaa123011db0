/-
The grammar of addresses, and that it is what is read.

An address is four octets in decimal, with dots and without leading zeros, or eight groups in hexadecimal, with colons.
The last two groups may be written as four octets, and one double colon may stand for zero groups, at least one. The
grammar says which texts are of an address and which address that is; nothing else about a text counts.

- `IsText`: the texts of an address, by `AreGroups` and `IsGroupsText`;
- `octet?_eq_some_iff`, `quad?_eq_some_iff`, `group?_eq_some_iff`: what is read of the smallest parts;
- `splitGap?_joined`: there is no double colon but the one that was written;
- `read_parts_iff`: what is read part by part, on either side of it;
- `ofText?_eq_some_iff`: what is read is just what the grammar says.
-/
import Mathlib.Data.List.Forall2
import CallFeed.Address
import CallFeed.Proofs.Text.Hexadecimal

namespace CallFeed

open CallFeed.Text

namespace IpAddress

/-! ## The grammar -/

/-- one to four hexadecimal digits, in either case, of a group -/
structure IsGroup (t : Text) (g : UInt16) : Prop where
  ne_nil : t ≠ []
  length : t.length ≤ 4
  digits : IsHex t g.toNat

/-- parts that stand for groups; in the last place four octets with dots may stand for two -/
inductive AreGroups : List Text → List UInt16 → Prop where
  | nil : AreGroups [] []
  | quad (octets : Vector UInt8 4) : AreGroups [quadText octets] (quadGroups octets)
  | cons {t : Text} {g : UInt16} {ts : List Text} {gs : List UInt16} (h : IsGroup t g) (hs : AreGroups ts gs) :
    AreGroups (t :: ts) (g :: gs)

/-- eight groups with colons; one double colon may stand for zero groups, at least one -/
inductive IsGroupsText : Text → List UInt16 → Prop where
  | full {ts : List Text} {gs : List UInt16} (h : AreGroups ts gs) (hlength : gs.length = 8) :
    IsGroupsText (joined [':'] ts) gs
  | gap {ts us : List Text} {gs hs : List UInt16} (before : List.Forall₂ IsGroup ts gs) (after : AreGroups us hs)
    (zeros : Nat) (hzeros : 0 < zeros) (hlength : gs.length + zeros + hs.length = 8) :
    IsGroupsText (joined [':'] ts ++ ':' :: ':' :: joined [':'] us) (gs ++ List.replicate zeros 0 ++ hs)

/-- **The texts of an address**: four octets in decimal, with dots and without leading zeros, or eight groups -/
inductive IsText : Text → IpAddress → Prop where
  | v4 (octets : Vector UInt8 4) : IsText (quadText octets) (.v4 octets)
  | v6 {t : Text} {groups : Vector UInt16 8} (h : IsGroupsText t groups.toList) : IsText t (.v6 groups)

/-! ## Four octets -/

theorem octet?_eq_some_iff {t : Text} {b : UInt8} : octet? t = some b ↔ t = decimal b.toNat := by
  unfold octet?
  constructor
  · intro h
    split at h
    · cases h
    · rename_i hlead
      rw [not_or, not_and_not_right] at hlead
      obtain ⟨n, hn, rfl⟩ := Option.map_eq_some_iff.1 h
      obtain ⟨hdigits, hvalue, hmax⟩ := of_readDigits (ok_of_toOption hn)
      have hle : n ≤ 255 := hmax (Nat.zero_le _)
      rw [UInt8.toNat_ofNat_of_lt' (Nat.lt_succ_of_le hle), ← hvalue]
      exact eq_decimal hlead.1 hdigits hlead.2
  · rintro rfl
    have hlead : ¬ (decimal b.toNat = [] ∨ ((decimal b.toNat).head? = some '0' ∧ decimal b.toNat ≠ ['0'])) := by
      rintro (hnil | ⟨hzero, hne⟩)
      · exact decimal_ne_nil _ hnil
      · by_cases hb : b.toNat = 0
        · rw [hb] at hne
          exact hne rfl
        · exact head?_decimal_ne_zero hb hzero
    have hle : b.toNat ≤ 255 := Nat.le_of_lt_succ b.toNat_lt
    rw [if_neg hlead, readDigits_decimal .tooLarge hle]
    show some (UInt8.ofNat b.toNat) = some b
    rw [UInt8.ofNat_toNat]

theorem mapM_eq_some_iff {α β : Type} {f : α → Option β} {l : List α} {l' : List β} :
    l.mapM f = some l' ↔ List.Forall₂ (fun a b => f a = some b) l l' := by
  induction l generalizing l' with
  | nil =>
    rw [List.mapM_nil, List.forall₂_nil_left_iff]
    exact ⟨fun h => (Option.some.inj h).symm, fun h => h ▸ rfl⟩
  | cons a l ih =>
    rw [List.mapM_cons, List.forall₂_cons_left_iff]
    constructor
    · intro h
      obtain ⟨b, hb, hmore⟩ := Option.bind_eq_some_iff.1 h
      obtain ⟨bs, hbs, heq⟩ := Option.bind_eq_some_iff.1 hmore
      exact ⟨b, bs, hb, ih.1 hbs, (Option.some.inj heq).symm⟩
    · rintro ⟨b, bs, hb, hbs, rfl⟩
      rw [hb, ih.2 hbs]
      rfl

theorem exists_octets (octets : Vector UInt8 4) : ∃ a b c d, octets = #v[a, b, c, d] := by
  refine ⟨octets[0], octets[1], octets[2], octets[3], Vector.ext fun i hi => ?_⟩
  obtain _ | _ | _ | _ | i := i
  · rfl
  · rfl
  · rfl
  · rfl
  · omega

/-- **Four octets are read where they are written**, and nowhere else. -/
theorem quad?_eq_some_iff {t : Text} {octets : Vector UInt8 4} : quad? t = some octets ↔ t = quadText octets := by
  have hmap (l : List UInt8) : (parts '.' t).mapM octet? = some l ↔ parts '.' t = l.map fun b => decimal b.toNat := by
    rw [mapM_eq_some_iff]
    simp only [octet?_eq_some_iff]
    rw [← List.forall₂_map_right_iff (f := fun b : UInt8 => decimal b.toNat), List.forall₂_eq_eq_eq]
  constructor
  · intro h
    unfold quad? at h
    split at h
    · rename_i a b c d hparts
      obtain rfl := Option.some.inj h
      rw [quadText, ← joined_parts '.' t, (hmap _).1 hparts]
      rfl
    · cases h
  · rintro rfl
    obtain ⟨a, b, c, d, rfl⟩ := exists_octets octets
    have hparts : parts '.' (quadText #v[a, b, c, d]) = [a, b, c, d].map fun b => decimal b.toNat := by
      refine parts_joined (List.cons_ne_nil _ _) fun s hs => ?_
      obtain ⟨x, -, rfl⟩ := List.mem_map.1 hs
      exact not_mem_decimal (by decide) _
    unfold quad?
    rw [(hmap _).2 hparts]

theorem mem_joined {sep : Text} {ts : List Text} {c : Char} (h : c ∈ joined sep ts) : c ∈ sep ∨ ∃ t ∈ ts, c ∈ t := by
  induction ts with
  | nil => cases h
  | cons t ts ih =>
    by_cases hlast : ts = []
    · rw [hlast] at h
      exact Or.inr ⟨t, List.mem_cons_self, h⟩
    · rw [joined_cons sep t hlast, List.mem_append, List.mem_append] at h
      rcases h with (h | h) | h
      · exact Or.inr ⟨t, List.mem_cons_self, h⟩
      · exact Or.inl h
      · rcases ih h with h | ⟨s, hs, hc⟩
        · exact Or.inl h
        · exact Or.inr ⟨s, List.mem_cons_of_mem t hs, hc⟩

theorem not_mem_quadText {c : Char} (hc : c.isDigit = false) (hdot : c ≠ '.') (octets : Vector UInt8 4) :
    c ∉ quadText octets := by
  intro h
  rcases mem_joined h with h | ⟨t, ht, hmem⟩
  · exact hdot (List.mem_singleton.1 h)
  · obtain ⟨b, -, rfl⟩ := List.mem_map.1 ht
    exact not_mem_decimal hc _ hmem

theorem dot_mem_quadText (octets : Vector UInt8 4) : '.' ∈ quadText octets := by
  obtain ⟨a, b, c, d, rfl⟩ := exists_octets octets
  have htext : quadText #v[a, b, c, d] = decimal a.toNat ++ ['.'] ++
      joined ['.'] ([b, c, d].map fun x => decimal x.toNat) := rfl
  rw [htext]
  exact List.mem_append_left _ (List.mem_append_right _ List.mem_cons_self)

/-! ## Groups -/

theorem group?_eq_some_iff {t : Text} {g : UInt16} : group? t = some g ↔ IsGroup t g := by
  unfold group?
  constructor
  · intro h
    split at h
    · cases h
    · rename_i hlength
      rw [not_or, Nat.not_lt] at hlength
      obtain ⟨n, hn, rfl⟩ := Option.map_eq_some_iff.1 h
      obtain ⟨hdigits, hle⟩ := readDigits_hex_iff.1 (ok_of_toOption hn)
      refine ⟨hlength.1, hlength.2, ?_⟩
      rw [UInt16.toNat_ofNat_of_lt' (Nat.lt_succ_of_le hle)]
      exact hdigits
  · rintro ⟨hne, hlength, hdigits⟩
    have hle : g.toNat ≤ 65535 := Nat.le_of_lt_succ g.toNat_lt
    rw [if_neg (not_or.2 ⟨hne, Nat.not_lt.2 hlength⟩), readDigits_hex_iff.2 ⟨hdigits, hle⟩]
    show some (UInt16.ofNat g.toNat) = some g
    rw [UInt16.ofNat_toNat]

theorem group?_quadText (octets : Vector UInt8 4) : group? (quadText octets) = none := by
  cases hg : group? (quadText octets) with
  | none => rfl
  | some g => exact absurd (dot_mem_quadText octets) ((group?_eq_some_iff.1 hg).digits.not_mem (by decide))

theorem groupsOfParts?_eq_some_iff {ts : List Text} {gs : List UInt16} :
    groupsOfParts? ts = some gs ↔ AreGroups ts gs := by
  constructor
  · intro h
    fun_induction groupsOfParts? ts generalizing gs with
    | case1 =>
      obtain rfl := Option.some.inj h
      exact .nil
    | case2 last g hg =>
      obtain rfl := Option.some.inj h
      exact .cons (group?_eq_some_iff.1 hg) .nil
    | case3 last hg =>
      obtain ⟨octets, hquad, rfl⟩ := Option.map_eq_some_iff.1 h
      rw [quad?_eq_some_iff.1 hquad]
      exact .quad octets
    | case4 p ps hps ih =>
      obtain ⟨g, hg, hmore⟩ := Option.bind_eq_some_iff.1 h
      obtain ⟨gs', hgs', heq⟩ := Option.bind_eq_some_iff.1 hmore
      obtain rfl := Option.some.inj heq
      exact .cons (group?_eq_some_iff.1 hg) (ih hgs')
  · intro h
    induction h with
    | nil => rfl
    | quad octets =>
      rw [groupsOfParts?, group?_quadText, quad?_eq_some_iff.2 rfl]
      rfl
    | @cons t g ts gs hg hs ih =>
      rw [← group?_eq_some_iff] at hg
      cases ts with
      | nil =>
        cases hs
        rw [groupsOfParts?, hg]
      | cons t' ts =>
        rw [groupsOfParts?, hg, ih]
        · rfl
        · exact fun heq => absurd heq (List.cons_ne_nil t' ts)

theorem areGroups_of_forall₂ {ts : List Text} {gs : List UInt16} (h : List.Forall₂ IsGroup ts gs) : AreGroups ts gs := by
  induction h with
  | nil => exact .nil
  | cons h _ ih => exact .cons h ih

theorem AreGroups.ne_nil {ts : List Text} {gs : List UInt16} (h : AreGroups ts gs) : ∀ t ∈ ts, t ≠ [] := by
  induction h with
  | nil => exact nofun
  | quad octets => exact List.forall_mem_singleton.2 (List.ne_nil_of_mem (dot_mem_quadText octets))
  | cons h _ ih => exact List.forall_mem_cons.2 ⟨h.ne_nil, ih⟩

theorem AreGroups.not_mem {ts : List Text} {gs : List UInt16} (h : AreGroups ts gs) {c : Char}
    (hc : digit? 16 c = none) (hdot : c ≠ '.') : ∀ t ∈ ts, c ∉ t := by
  induction h with
  | nil => exact nofun
  | quad octets => exact List.forall_mem_singleton.2 (not_mem_quadText (isDigit_eq_false hc) hdot octets)
  | cons h _ ih => exact List.forall_mem_cons.2 ⟨h.digits.not_mem hc, ih⟩

/-- the parts that stand for groups are neither empty nor have colons -/
theorem AreGroups.part {ts : List Text} {gs : List UInt16} (h : AreGroups ts gs) : ∀ t ∈ ts, t ≠ [] ∧ ':' ∉ t :=
  fun t ht => ⟨h.ne_nil t ht, h.not_mem (by decide) (by decide) t ht⟩

/-- only four octets stand for more groups than one -/
theorem AreGroups.length_le {ts : List Text} {gs : List UInt16} (h : AreGroups ts gs) : gs.length ≤ ts.length + 1 := by
  induction h with
  | nil => exact Nat.zero_le _
  | quad octets => exact Nat.le_refl 2
  | cons _ _ ih => exact Nat.succ_le_succ ih

/-! ## The double colon -/

/-- parts that are joined start with the first of them -/
theorem exists_cons_joined {ts : List Text} (h : ∀ t ∈ ts, t ≠ [] ∧ ':' ∉ t) (hne : ts ≠ []) :
    ∃ c rest, joined [':'] ts = c :: rest ∧ c ≠ ':' := by
  obtain ⟨t, ts, rfl⟩ := List.exists_cons_of_ne_nil hne
  obtain ⟨ht, hcolon⟩ := h t List.mem_cons_self
  obtain ⟨c, s, rfl⟩ := List.exists_cons_of_ne_nil ht
  have hc : c ≠ ':' := fun heq => hcolon (heq ▸ List.mem_cons_self)
  by_cases hlast : ts = []
  · exact ⟨c, s, by rw [hlast]; rfl, hc⟩
  · exact ⟨c, s ++ [':'] ++ joined [':'] ts, by rw [joined_cons [':'] _ hlast]; rfl, hc⟩

theorem joined_eq_nil_iff {ts : List Text} (h : ∀ t ∈ ts, t ≠ [] ∧ ':' ∉ t) : joined [':'] ts = [] ↔ ts = [] := by
  constructor
  · intro hnil
    by_contra hne
    obtain ⟨c, rest, hfirst, -⟩ := exists_cons_joined h hne
    rw [hfirst] at hnil
    cases hnil
  · rintro rfl
    rfl

theorem splitGap?_append {s : Text} (h : ':' ∉ s) (r : Text) :
    splitGap? (s ++ r) = (splitGap? r).map fun p => (s ++ p.1, p.2) := by
  induction s with
  | nil => exact Option.map_id'.symm
  | cons c s ih =>
    have hc : c ≠ ':' := fun heq => h (heq ▸ List.mem_cons_self)
    have hs : ':' ∉ s := fun hmem => h (List.mem_cons_of_mem c hmem)
    rw [List.cons_append, splitGap?, ih hs, Option.map_map]
    · rfl
    · exact fun t heq => absurd heq hc

theorem splitGap?_colon {c : Char} (hc : c ≠ ':') (r : Text) :
    splitGap? (':' :: c :: r) = (splitGap? (c :: r)).map fun p => (':' :: p.1, p.2) := by
  rw [splitGap?]
  exact fun t _ heq => absurd (List.cons.inj heq).1 hc

/-- **There is no double colon among parts that are joined**, so the first is one that follows them. -/
theorem splitGap?_joined {ts : List Text} (h : ∀ t ∈ ts, t ≠ [] ∧ ':' ∉ t) (r : Text) :
    splitGap? (joined [':'] ts ++ r) = (splitGap? r).map fun p => (joined [':'] ts ++ p.1, p.2) := by
  induction ts with
  | nil => exact Option.map_id'.symm
  | cons t ts ih =>
    obtain ⟨ht, hts⟩ := List.forall_mem_cons.1 h
    by_cases hlast : ts = []
    · rw [hlast]
      exact splitGap?_append ht.2 r
    · obtain ⟨c, rest, hfirst, hc⟩ := exists_cons_joined hts hlast
      have hsplit : splitGap? (':' :: (joined [':'] ts ++ r)) =
          (splitGap? (joined [':'] ts ++ r)).map fun p => (':' :: p.1, p.2) := by
        rw [hfirst]
        exact splitGap?_colon hc (rest ++ r)
      have htext : joined [':'] (t :: ts) ++ r = t ++ ':' :: (joined [':'] ts ++ r) := by
        rw [joined_cons [':'] t hlast, List.append_assoc, List.append_assoc, List.singleton_append]
      rw [htext, splitGap?_append ht.2, hsplit, ih hts, Option.map_map, Option.map_map, joined_cons [':'] t hlast]
      congr 1
      funext p
      simp only [Function.comp_apply, List.append_assoc, List.nil_append, List.cons_append]

theorem of_splitGap? {t before after : Text} (h : splitGap? t = some (before, after)) :
    t = before ++ ':' :: ':' :: after := by
  fun_induction splitGap? t generalizing before with
  | case1 t =>
    obtain ⟨rfl, rfl⟩ := Prod.mk.inj (Option.some.inj h)
    rfl
  | case2 c t hne ih =>
    obtain ⟨⟨b, a⟩, hs, heq⟩ := Option.map_eq_some_iff.1 h
    obtain ⟨rfl, rfl⟩ := Prod.mk.inj heq
    rw [ih hs]
    rfl
  | case3 => cases h

/-- a text is read part by part when it is empty and has no parts too -/
theorem read_parts_iff {read : List Text → Option (List UInt16)} (hnil : read [] = some [])
    (hparts : ∀ {ts gs}, read ts = some gs → ∀ t ∈ ts, t ≠ [] ∧ ':' ∉ t) {t : Text} {gs : List UInt16} :
    (if t = [] then some [] else read (parts ':' t)) = some gs ↔ ∃ ts, t = joined [':'] ts ∧ read ts = some gs := by
  constructor
  · intro h
    split at h
    · rename_i hempty
      exact ⟨[], hempty, hnil.trans h⟩
    · exact ⟨parts ':' t, (joined_parts ':' t).symm, h⟩
  · rintro ⟨ts, rfl, hread⟩
    split
    · rename_i hempty
      obtain rfl := (joined_eq_nil_iff (hparts hread)).1 hempty
      exact hnil.symm.trans hread
    · rename_i hne
      have hts : ts ≠ [] := fun heq => hne (heq ▸ rfl)
      rw [parts_joined hts fun t ht => (hparts hread t ht).2]
      exact hread

theorem mapM_group?_eq_some_iff {ts : List Text} {gs : List UInt16} :
    ts.mapM group? = some gs ↔ List.Forall₂ IsGroup ts gs := by
  rw [mapM_eq_some_iff]
  simp only [group?_eq_some_iff]

theorem groupsBefore?_eq_some_iff {t : Text} {gs : List UInt16} :
    groupsBefore? t = some gs ↔ ∃ ts, t = joined [':'] ts ∧ List.Forall₂ IsGroup ts gs := by
  simp only [← mapM_group?_eq_some_iff]
  exact read_parts_iff rfl fun h => (areGroups_of_forall₂ (mapM_group?_eq_some_iff.1 h)).part

theorem groupsAfter?_eq_some_iff {t : Text} {gs : List UInt16} :
    groupsAfter? t = some gs ↔ ∃ ts, t = joined [':'] ts ∧ AreGroups ts gs := by
  simp only [← groupsOfParts?_eq_some_iff]
  exact read_parts_iff rfl fun h => (groupsOfParts?_eq_some_iff.1 h).part

/-! ## Addresses -/

theorem groups?_joined {ts : List Text} {gs : List UInt16} (h : AreGroups ts gs) (hne : ts ≠ []) :
    groups? (joined [':'] ts) = some gs := by
  have hnone := splitGap?_joined h.part []
  rw [List.append_nil] at hnone
  rw [groups?, hnone]
  show groupsOfParts? (parts ':' (joined [':'] ts)) = some gs
  rw [parts_joined hne fun t ht => (h.part t ht).2]
  exact groupsOfParts?_eq_some_iff.2 h

theorem groups?_gap {ts us : List Text} {gs hs : List UInt16} (before : List.Forall₂ IsGroup ts gs)
    (after : AreGroups us hs) (hlt : gs.length + hs.length < 8) :
    groups? (joined [':'] ts ++ ':' :: ':' :: joined [':'] us) =
      some (gs ++ List.replicate (8 - gs.length - hs.length) 0 ++ hs) := by
  have hleft : groupsBefore? (joined [':'] ts ++ []) = some gs := by
    rw [List.append_nil]
    exact groupsBefore?_eq_some_iff.2 ⟨ts, rfl, before⟩
  have hright : groupsAfter? (joined [':'] us) = some hs := groupsAfter?_eq_some_iff.2 ⟨us, rfl, after⟩
  rw [groups?, splitGap?_joined (areGroups_of_forall₂ before).part]
  show (groupsBefore? (joined [':'] ts ++ [])).bind _ = _
  rw [hleft, Option.bind_some, hright]
  exact if_pos hlt

theorem isGroupsText_of_groups? {t : Text} {gs : List UInt16} (h : groups? t = some gs) (hlength : gs.length = 8) :
    IsGroupsText t gs := by
  unfold groups? at h
  split at h
  · rw [← joined_parts ':' t]
    exact .full (groupsOfParts?_eq_some_iff.1 h) hlength
  · rename_i before after hsplit
    obtain ⟨gs₁, hbefore, hmore⟩ := Option.bind_eq_some_iff.1 h
    obtain ⟨gs₂, hafter, hfill⟩ := Option.bind_eq_some_iff.1 hmore
    split at hfill
    · rename_i hlt
      obtain rfl := Option.some.inj hfill
      obtain ⟨ts, rfl, hts⟩ := groupsBefore?_eq_some_iff.1 hbefore
      obtain ⟨us, rfl, hus⟩ := groupsAfter?_eq_some_iff.1 hafter
      rw [of_splitGap? hsplit]
      exact .gap hts hus _ (by omega) (by omega)
    · cases hfill

/-- **Eight groups are read where the grammar has them**, and nowhere else. -/
theorem groups?_eq_some_iff {t : Text} {gs : List UInt16} :
    groups? t = some gs ∧ gs.length = 8 ↔ IsGroupsText t gs := by
  constructor
  · rintro ⟨h, hlength⟩
    exact isGroupsText_of_groups? h hlength
  · intro h
    cases h with
    | @full ts gs hgroups hlength =>
      have hts : ts ≠ [] := by
        rintro rfl
        cases hgroups
        cases hlength
      exact ⟨groups?_joined hgroups hts, hlength⟩
    | @gap ts us gs hs hbefore hafter zeros hzeros hlength =>
      have hcount : 8 - gs.length - hs.length = zeros := by omega
      have hread := groups?_gap hbefore hafter (by omega)
      rw [hcount] at hread
      refine ⟨hread, ?_⟩
      rw [List.length_append, List.length_append, List.length_replicate, hlength]

theorem colon_mem_of_isGroupsText {t : Text} {gs : List UInt16} (h : IsGroupsText t gs) : ':' ∈ t := by
  cases h with
  | @full ts gs hgroups hlength =>
    have hle := hgroups.length_le
    match ts with
    | [] =>
      simp only [List.length_nil] at hle
      omega
    | [_] =>
      simp only [List.length_cons, List.length_nil] at hle
      omega
    | t :: t' :: ts =>
      rw [joined_cons [':'] t (List.cons_ne_nil t' ts)]
      exact List.mem_append_left _ (List.mem_append_right _ List.mem_cons_self)
  | gap => exact List.mem_append_right _ List.mem_cons_self

/-- a character that is no hexadecimal digit and no separator stands in no text of an address -/
theorem IsText.not_mem {t : Text} {a : IpAddress} (h : IsText t a) {c : Char} (hc : digit? 16 c = none)
    (hdot : c ≠ '.') (hcolon : c ≠ ':') : c ∉ t := by
  have hparts {ts : List Text} {gs : List UInt16} (hgroups : AreGroups ts gs) : c ∉ joined [':'] ts := by
    intro hmem
    rcases mem_joined hmem with hsep | ⟨t, ht, hin⟩
    · exact hcolon (List.mem_singleton.1 hsep)
    · exact hgroups.not_mem hc hdot t ht hin
  cases h with
  | v4 octets => exact not_mem_quadText (isDigit_eq_false hc) hdot octets
  | @v6 _ groups h =>
    generalize groups.toList = gs at h
    cases h with
    | full hgroups => exact hparts hgroups
    | gap hbefore hafter =>
      intro hmem
      rcases List.mem_append.1 hmem with hmem | hmem
      · exact hparts (areGroups_of_forall₂ hbefore) hmem
      · simp only [List.mem_cons, hcolon, false_or] at hmem
        exact hparts hafter hmem

/-- **What is read as an address is just what the grammar says.** -/
theorem ofText?_eq_some_iff {t : Text} {a : IpAddress} : ofText? t = some a ↔ IsText t a := by
  unfold ofText?
  constructor
  · intro h
    split at h
    · rename_i octets hquad
      obtain rfl := Option.some.inj h
      rw [quad?_eq_some_iff.1 hquad]
      exact .v4 octets
    · split at h
      · rename_i groups hgroups
        split at h
        · rename_i hlength
          obtain rfl := Option.some.inj h
          exact .v6 (groups?_eq_some_iff.1 ⟨hgroups, hlength⟩)
        · cases h
      · cases h
  · intro h
    cases h with
    | v4 octets => rw [quad?_eq_some_iff.2 rfl]
    | @v6 _ groups hgroups =>
      have hquad : quad? t = none := by
        cases hq : quad? t with
        | none => rfl
        | some octets =>
          have hcolon := colon_mem_of_isGroupsText hgroups
          rw [quad?_eq_some_iff.1 hq] at hcolon
          exact absurd hcolon (not_mem_quadText (by decide) (by decide) octets)
      obtain ⟨hread, hlength⟩ := groups?_eq_some_iff.2 hgroups
      rw [hquad, hread]
      dsimp only
      rw [dif_pos hlength]
      rfl

theorem ofText?_eq_none_iff {t : Text} : ofText? t = none ↔ ∀ a, ¬ IsText t a := by
  rw [Option.eq_none_iff_forall_ne_some]
  exact forall_congr' fun a => not_congr ofText?_eq_some_iff

end IpAddress

end CallFeed
