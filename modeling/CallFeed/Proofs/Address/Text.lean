/-
Addresses as they are written.

Of the many texts of an address in groups one is written: in lower case, without leading zeros, with a double colon for
the first of the longest runs of zero groups when that is two or more. Whatever is written is a text of the address by
the grammar, so it is read back.

- `take_append_zeros`: what a double colon leaves out is zeros;
- `longestZeros_spec`: the run that is left out is the first of the longest;
- `IpAddress.isText_text`, `IpAddress.ofText?_text`: an address as it is written is a text of it;
- `SocketAddress.ofText?_text`: so is an address with its port.
-/
import Mathlib.Data.List.TakeWhile
import CallFeed.Address.Reading
import CallFeed.Proofs.Address.Grammar

namespace CallFeed

open CallFeed.Text

namespace IpAddress

/-! ## Runs of zeros -/

/-- the groups before a run of zeros, the zeros and the groups behind it -/
theorem take_append_zeros (gs : List UInt16) (place : Nat) :
    gs.take place ++ List.replicate (zerosFrom gs place) 0 ++ gs.drop (place + zerosFrom gs place) = gs := by
  have hzeros : (gs.drop place).takeWhile (· == 0) = List.replicate (zerosFrom gs place) 0 :=
    List.eq_replicate_of_mem fun g hg => eq_of_beq (List.mem_takeWhile_imp (p := fun g : UInt16 => g == 0) hg)
  have hrest : (gs.drop place).dropWhile (· == 0) = gs.drop (place + zerosFrom gs place) := by
    have hsplit := List.takeWhile_append_dropWhile (p := (· == 0)) (l := gs.drop place)
    rw [← List.drop_drop]
    exact (List.drop_left' rfl).symm.trans (congrArg (List.drop _) hsplit)
  rw [← hzeros, ← hrest, List.append_assoc, List.takeWhile_append_dropWhile, List.take_append_drop]

/-- keeping what is best so far comes to the first of the best -/
theorem of_foldl_best {f : Nat → Nat} {n best : Nat}
    (h : (List.range n).foldl (fun best place => if f best < f place then place else best) 0 = best) :
    (∀ place < n, f place ≤ f best) ∧ ∀ place < best, f place < f best := by
  induction n generalizing best with
  | zero =>
    subst h
    exact ⟨nofun, nofun⟩
  | succ n ih =>
    rw [List.range_succ, List.foldl_append, List.foldl_cons, List.foldl_nil] at h
    obtain ⟨hmost, hfirst⟩ := ih rfl
    split at h
    · rename_i hbetter
      subst h
      refine ⟨fun place hp => ?_, fun place hp => Nat.lt_of_le_of_lt (hmost place hp) hbetter⟩
      rcases Nat.lt_succ_iff_lt_or_eq.1 hp with hlt | rfl
      · exact Nat.le_of_lt (Nat.lt_of_le_of_lt (hmost place hlt) hbetter)
      · exact Nat.le_refl _
    · rename_i hworse
      subst h
      refine ⟨fun place hp => ?_, hfirst⟩
      rcases Nat.lt_succ_iff_lt_or_eq.1 hp with hlt | rfl
      · exact hmost place hlt
      · exact Nat.le_of_not_lt hworse

/-- **The first of the longest runs of zeros is taken.** -/
theorem longestZeros_spec (gs : List UInt16) :
    (∀ place < gs.length, zerosFrom gs place ≤ zerosFrom gs (longestZeros gs)) ∧
      ∀ place < longestZeros gs, zerosFrom gs place < zerosFrom gs (longestZeros gs) := of_foldl_best rfl

/-! ## Addresses -/

theorem isGroup_hexadecimal (g : UInt16) : IsGroup (hexadecimal g.toNat) g :=
  ⟨hexadecimal_ne_nil _, length_hexadecimal_le g.toNat_lt, isHex_hexadecimal _⟩

theorem forall₂_hexadecimal (gs : List UInt16) :
    List.Forall₂ IsGroup (gs.map fun g => hexadecimal g.toNat) gs := by
  rw [List.forall₂_map_left_iff, List.forall₂_same]
  exact fun g _ => isGroup_hexadecimal g

/-- a group is its two octets -/
theorem group_of_octets (g : UInt16) :
    UInt16.ofNat ((UInt8.ofNat (g.toNat / 256)).toNat * 256 + (UInt8.ofNat g.toNat).toNat) = g := by
  have hlt : g.toNat < 65536 := g.toNat_lt
  have hvalue : (UInt8.ofNat (g.toNat / 256)).toNat * 256 + (UInt8.ofNat g.toNat).toNat = g.toNat := by
    rw [UInt8.toNat_ofNat', UInt8.toNat_ofNat']
    omega
  rw [hvalue, UInt16.ofNat_toNat]

/-- an address of four octets that is held in groups is five zero groups, one of ones and the octets -/
theorem toList_of_mapped? {groups : Vector UInt16 8} {octets : Vector UInt8 4} (h : mapped? groups = some octets) :
    groups.toList = List.replicate 5 0 ++ 0xFFFF :: quadGroups octets := by
  unfold mapped? at h
  split at h
  · rename_i hfirst
    obtain rfl := Option.some.inj h
    have hlast : groups.toList.drop 6 = [groups[6], groups[7]] := by
      rw [List.drop_eq_getElem_cons (by simp), List.drop_eq_getElem_cons (by simp), List.drop_eq_nil_of_le (by simp)]
      simp only [Vector.getElem_toList]
    have hgroups : quadGroups #v[UInt8.ofNat (groups[6].toNat / 256), UInt8.ofNat groups[6].toNat,
        UInt8.ofNat (groups[7].toNat / 256), UInt8.ofNat groups[7].toNat] = [groups[6], groups[7]] :=
      congrArg₂ (fun g g' => [g, g']) (group_of_octets groups[6]) (group_of_octets groups[7])
    rw [← List.take_append_drop 6 groups.toList, hfirst, hlast, hgroups]
    rfl
  · cases h

/-- **An address as it is written is a text of it.** -/
theorem isText_text (a : IpAddress) : IsText a.text a := by
  cases a with
  | v4 octets => exact .v4 octets
  | v6 groups =>
    refine .v6 ?_
    unfold text
    dsimp only
    split
    · rename_i octets hmapped
      have hffff : IsGroup "ffff".toList 0xFFFF := isGroup_hexadecimal 0xFFFF
      rw [toList_of_mapped? hmapped]
      exact .gap .nil (.cons hffff (.quad octets)) 5 (by decide) rfl
    · split
      · rename_i hzeros
        have hgroups := take_append_zeros groups.toList (longestZeros groups.toList)
        generalize longestZeros groups.toList = place at hzeros hgroups
        have hlength := congrArg List.length hgroups
        rw [List.length_append, List.length_append, List.length_replicate, Vector.length_toList] at hlength
        have htext := IsGroupsText.gap (forall₂_hexadecimal (groups.toList.take place))
          (areGroups_of_forall₂ (forall₂_hexadecimal (groups.toList.drop (place + zerosFrom groups.toList place))))
          (zerosFrom groups.toList place) (by omega) hlength
        rw [hgroups] at htext
        rw [List.append_assoc]
        exact htext
      · exact .full (areGroups_of_forall₂ (forall₂_hexadecimal groups.toList)) Vector.length_toList

/-- so it is read back -/
theorem ofText?_text (a : IpAddress) : ofText? a.text = some a := ofText?_eq_some_iff.2 a.isText_text

end IpAddress

namespace SocketAddress

theorem port?_decimal (port : UInt16) : port? (':' :: decimal port.toNat) = some port := by
  have hle : port.toNat ≤ 65535 := Nat.le_of_lt_succ port.toNat_lt
  rw [port?, if_neg (decimal_ne_nil _), readDigits_decimal .tooLarge hle]
  show some (UInt16.ofNat port.toNat) = some port
  rw [UInt16.ofNat_toNat]

/-- the text of an address ends where a character follows that stands in none -/
theorem takeWhile_text (ip : IpAddress) {c : Char} (hc : c ∉ ip.text) (t : Text) :
    (ip.text ++ c :: t).takeWhile (· != c) = ip.text ∧ (ip.text ++ c :: t).dropWhile (· != c) = c :: t := by
  refine takeWhile_append_stop (p := fun d => d != c) (fun d hd => ?_) (bne_self_eq_false c) t
  rw [bne_iff_ne]
  rintro rfl
  exact hc hd

/-- **An address and a port as they are written are read back.** -/
theorem ofText?_text (a : SocketAddress) : ofText? a.text = some a := by
  obtain ⟨ip, port⟩ := a
  have hread := ip.ofText?_text
  cases ip with
  | v4 octets =>
    have htext : text ⟨.v4 octets, port⟩ = (IpAddress.v4 octets).text ++ ':' :: decimal port.toNat := rfl
    have hopen : ∀ t, (IpAddress.v4 octets).text ++ ':' :: decimal port.toNat = '[' :: t → False := by
      intro t heq
      have hfirst : '[' ∈ (IpAddress.v4 octets).text ++ ':' :: decimal port.toNat := heq ▸ List.mem_cons_self
      rcases List.mem_append.1 hfirst with h | h
      · exact IpAddress.not_mem_quadText (by decide) (by decide) octets h
      · exact not_mem_decimal (by decide) _ ((List.mem_cons.1 h).resolve_left (by decide))
    obtain ⟨htake, hdrop⟩ := takeWhile_text (.v4 octets) (c := ':')
      (IpAddress.not_mem_quadText (by decide) (by decide) octets) (decimal port.toNat)
    rw [htext, ofText?]
    · rw [htake, hdrop, hread, port?_decimal]
      rfl
    · exact hopen
  | v6 groups =>
    have htext : text ⟨.v6 groups, port⟩ = '[' :: ((IpAddress.v6 groups).text ++ ']' :: ':' :: decimal port.toNat) := by
      show '[' :: ((IpAddress.v6 groups).text ++ [']']) ++ ':' :: decimal port.toNat = _
      rw [List.cons_append, List.append_assoc]
      rfl
    obtain ⟨htake, hdrop⟩ := takeWhile_text (.v6 groups) (c := ']')
      ((IpAddress.v6 groups).isText_text.not_mem (by decide) (by decide) (by decide)) (':' :: decimal port.toNat)
    rw [htext, ofText?, htake, hdrop, hread]
    show (port? (':' :: decimal port.toNat)).bind _ = _
    rw [port?_decimal]
    rfl

end SocketAddress

end CallFeed
