/-
What an event is drawn from: one share of 64 random bits for each of its fields.

- `getElem?_tenants`, `getElem?_states`: no draw leads past the end of a table;
- `Factory.drawn_event`: each field is what its two words say, and the draws follow one after another;
- `draws_are_even`: the whole of it, with how evenly values are drawn and how many words an event takes.
-/
import CallFeed.Event.Factory
import CallFeed.Proofs.Words.Shares

namespace CallFeed

open CallFeed.Number (ceilDiv)

namespace Words

variable (ws : Words)

/-- the share that the two words at a position lie in -/
def shareAt (n pos : Nat) : Nat := share n (ws pos) (ws (pos + 1))

theorem draw_eq_shareAt {n : Nat} (hn : 0 < n) (h : n ≤ UInt32.size) (pos : Nat) :
    ((ws.draw n hn pos).1 : Nat) = ws.shareAt n pos := drawValue_eq_share h _ _

/-- a draw that starts at the first position ends at the second -/
def Follows (pos next : Nat) : Prop := pos + 1 ≤ next ∧ next ≤ pos + 2

theorem follows_draw {n : Nat} (hn : 0 < n) (pos : Nat) : Follows pos (ws.draw n hn pos).2 := by
  obtain ⟨hleast, hmost⟩ := drawWords_le n (ws pos)
  exact ⟨Nat.add_le_add_left hleast pos, Nat.add_le_add_left hmost pos⟩

/-! ## Tables -/

theorem getElem?_tenants (hn : 0 < tenantCount) (pos : Nat) :
    tenants[ws.shareAt tenantCount pos]? = some (tenant (ws.draw tenantCount hn pos).1) := by
  have hlt : ((ws.draw tenantCount hn pos).1 : Nat) < tenants.length :=
    ((ws.draw tenantCount hn pos).1.cast length_tenants.symm).isLt
  rw [← ws.draw_eq_shareAt hn (by decide), List.getElem?_eq_getElem hlt]
  rfl

theorem getElem?_states (hn : 0 < CallState.all.length) (pos : Nat) :
    CallState.all[ws.shareAt CallState.all.length pos]? =
      some (CallState.ofIndex (ws.draw CallState.all.length hn pos).1) := by
  rw [← ws.draw_eq_shareAt hn (by decide), List.getElem?_eq_getElem (ws.draw CallState.all.length hn pos).1.isLt]
  rfl

end Words

/-- the fields of an event are what the words at these positions say -/
structure Event.DrawnAt (e : Event) (ws : Words) (uri caller callee state own : Nat) : Prop where
  uriTenant : tenants[ws.shareAt tenantCount uri]? = some e.uriTenant
  callerExt : e.callerExt = firstExtension + ws.shareAt extensionCount caller
  calleeExt : e.calleeExt = firstExtension + ws.shareAt extensionCount callee
  state : CallState.all[ws.shareAt CallState.all.length state]? = some e.state
  tenantId : tenants[ws.shareAt tenantCount own]? = some e.tenantId

namespace Factory

open Words (Follows)

variable (f : Factory) (src : Source) (id pos : Nat)

/-- **Each field of an event is what its words say**, and the draws follow one after another. With consistent tenants
the tenant of the event is drawn where that of its addresses is. -/
theorem drawn_event : ∃ caller callee state last own,
    (f.event src id pos).1.DrawnAt src.words pos caller callee state own ∧
      Follows pos caller ∧ Follows caller callee ∧ Follows callee state ∧ Follows state last ∧
      (f.consistent = true → own = pos ∧ (f.event src id pos).2 = last) ∧
      (f.consistent = false → own = last ∧ Follows last (f.event src id pos).2) := by
  have htenants : 0 < tenantCount := by decide
  have hextensions : 0 < extensionCount := by decide
  have hstates : 0 < CallState.all.length := by decide
  have hext (p : Nat) : firstExtension + ((src.words.draw extensionCount hextensions p).1 : Nat) =
      firstExtension + src.words.shareAt extensionCount p :=
    congrArg (firstExtension + ·) (src.words.draw_eq_shareAt hextensions (by decide) p)
  let caller := (src.words.draw tenantCount htenants pos).2
  let callee := (src.words.draw extensionCount hextensions caller).2
  let state := (src.words.draw extensionCount hextensions callee).2
  let last := (src.words.draw CallState.all.length hstates state).2
  let own := if f.consistent then pos else last
  have htenantId : tenants[src.words.shareAt tenantCount own]? = some (f.event src id pos).1.tenantId := by
    rw [src.words.getElem?_tenants htenants, event]
    cases hf : f.consistent with
    | true => simp only [own, hf, if_true]
    | false => simp only [own, hf, Bool.false_eq_true, if_false, last, state, callee, caller]
  refine ⟨caller, callee, state, last, own, ?_, src.words.follows_draw htenants pos,
    src.words.follows_draw hextensions caller, src.words.follows_draw hextensions callee,
    src.words.follows_draw hstates state, ?_, ?_⟩
  · exact ⟨src.words.getElem?_tenants htenants pos, hext caller, hext callee, src.words.getElem?_states hstates state,
      htenantId⟩
  · intro hf
    exact ⟨if_pos hf, by rw [event, hf]; rfl⟩
  · intro hf
    refine ⟨if_neg (by rw [hf]; decide), ?_⟩
    rw [event, hf]
    exact src.words.follows_draw htenants last

/-- both tenants of an event are in the table, and its extensions have four digits -/
theorem event_in_range : (f.event src id pos).1.uriTenant ∈ tenants ∧ (f.event src id pos).1.tenantId ∈ tenants ∧
    (1000 ≤ (f.event src id pos).1.callerExt ∧ (f.event src id pos).1.callerExt ≤ 9999) ∧
    (1000 ≤ (f.event src id pos).1.calleeExt ∧ (f.event src id pos).1.calleeExt ≤ 9999) := by
  have hextensions : 0 < extensionCount := by decide
  have hext (p : Nat) : 1000 ≤ firstExtension + src.words.shareAt extensionCount p ∧
      firstExtension + src.words.shareAt extensionCount p ≤ 9999 := by
    have hlt := (src.words.draw extensionCount hextensions p).1.isLt
    rw [src.words.draw_eq_shareAt hextensions (by decide)] at hlt
    simp only [firstExtension, extensionCount] at hlt ⊢
    omega
  obtain ⟨caller, callee, _, _, _, hdrawn, -⟩ := f.drawn_event src id pos
  refine ⟨List.mem_of_getElem? hdrawn.uriTenant, List.mem_of_getElem? hdrawn.tenantId, ?_, ?_⟩
  · rw [hdrawn.callerExt]
    exact hext caller
  · rw [hdrawn.calleeExt]
    exact hext callee

end Factory

open Words in
/-- **Draws are as even as 64 random bits allow, and never out of range.** What a draw gives is the share of all pairs of
words that its two words lie in, whether or not it takes the second of them; each value has as many pairs as any other,
or one more. So every look-up of an event finds an entry of its table: both tenants are in the table, both extensions
have four digits, and with consistent tenants the event's own tenant is that of its addresses. An event takes four words
then and eight at most; with a tenant of its own it takes five to ten. -/
theorem draws_are_even :
    (∀ n, 0 < n → n < UInt32.size →
      (∀ (ws : Words) (hn : 0 < n) (pos low : Nat),
        low + (ws.draw n hn pos).1 =
            low + ((ws pos).toNat * UInt32.size + (ws (pos + 1)).toNat) * n / UInt64.size ∧
          low ≤ low + (ws.draw n hn pos).1 ∧ low + (ws.draw n hn pos).1 < low + n ∧
          (ws.draw n hn pos).2 = pos + if UInt32.size - n < (ws pos).toNat * n % UInt32.size then 2 else 1) ∧
      ∀ v < n, {p : UInt32 × UInt32 | drawValue n p.1 p.2 = v}.ncard = UInt64.size / n ∨
        {p : UInt32 × UInt32 | drawValue n p.1 p.2 = v}.ncard = ceilDiv UInt64.size n) ∧
    ∀ (f : Factory) (src : Source) (id pos : Nat),
      (∃ caller callee state last own,
        (f.event src id pos).1.DrawnAt src.words pos caller callee state own ∧
          Follows pos caller ∧ Follows caller callee ∧ Follows callee state ∧ Follows state last ∧
          (f.consistent = true → own = pos ∧ (f.event src id pos).2 = last) ∧
          (f.consistent = false → own = last ∧ Follows last (f.event src id pos).2)) ∧
      ((f.event src id pos).1.uriTenant ∈ tenants ∧ (f.event src id pos).1.tenantId ∈ tenants ∧
        (1000 ≤ (f.event src id pos).1.callerExt ∧ (f.event src id pos).1.callerExt ≤ 9999) ∧
        (1000 ≤ (f.event src id pos).1.calleeExt ∧ (f.event src id pos).1.calleeExt ≤ 9999)) ∧
      (f.consistent = true → (f.event src id pos).1.tenantId = (f.event src id pos).1.uriTenant ∧
        pos + 4 ≤ (f.event src id pos).2 ∧ (f.event src id pos).2 ≤ pos + 8) ∧
      (f.consistent = false → pos + 5 ≤ (f.event src id pos).2 ∧ (f.event src id pos).2 ≤ pos + 10) := by
  refine ⟨fun n hpos hsize => ⟨?_, ?_⟩,
    fun f src id pos => ⟨f.drawn_event src id pos, f.event_in_range src id pos, ?_, ?_⟩⟩
  · intro ws hn pos low
    refine ⟨congrArg (low + ·) (ws.draw_eq_shareAt hn (Nat.le_of_lt hsize) pos), Nat.le_add_right low _,
      Nat.add_lt_add_left (ws.draw n hn pos).1.isLt low, ?_⟩
    simp only [draw, drawWords, drawsAgain, decide_eq_true_eq]
  · intro v hv
    exact ncard_pairs hpos (Nat.le_of_lt hsize) hv
  · intro hf
    obtain ⟨caller, callee, state, last, own, hdrawn, hcaller, hcallee, hstate, hlast, hconsistent, -⟩ :=
      f.drawn_event src id pos
    obtain ⟨rfl, hend⟩ := hconsistent hf
    unfold Follows at hcaller hcallee hstate hlast
    refine ⟨Option.some.inj (hdrawn.tenantId.symm.trans hdrawn.uriTenant), ?_⟩
    omega
  · intro hf
    obtain ⟨caller, callee, state, last, own, -, hcaller, hcallee, hstate, hlast, -, hown⟩ := f.drawn_event src id pos
    obtain ⟨-, hend⟩ := hown hf
    unfold Follows at hcaller hcallee hstate hlast hend
    omega

/-- a word of which the low half of the product comes close enough to the next value for the second word to count: with
no bits in the second word the draw gives the first tenant, with all of them the next -/
theorem second_word_carries :
    let without : Words := Words.cycle #[42949672, 0]
    let full : Words := Words.cycle #[42949672, 4294967295]
    let e : Event := ((⟨true⟩ : Factory).event { words := full } 1 0).1
    ∃ hn : 0 < tenantCount, ((without.draw tenantCount hn 0).1 : Nat) = 0 ∧ ((full.draw tenantCount hn 0).1 : Nat) = 1 ∧
      (without.draw tenantCount hn 0).2 = 2 ∧ (full.draw tenantCount hn 0).2 = 2 ∧
      tenants[1]? = some e.uriTenant ∧ e.tenantId = e.uriTenant := by
  intro without full e
  have hn : 0 < tenantCount := by decide
  obtain ⟨hdraw, -⟩ := draws_are_even.1 tenantCount hn (by decide)
  obtain ⟨⟨_, _, _, _, _, hdrawn, -⟩, -, hconsistent, -⟩ := draws_are_even.2 ⟨true⟩ { words := full } 1 0
  obtain ⟨hwithout, -, -, hwithoutWords⟩ := hdraw without hn 0 0
  obtain ⟨hfull, -, -, hfullWords⟩ := hdraw full hn 0 0
  rw [Nat.zero_add, Nat.zero_add] at hwithout hfull
  have hshare : full.shareAt tenantCount 0 = 1 := by decide
  have huri : tenants[full.shareAt tenantCount 0]? = some e.uriTenant := hdrawn.uriTenant
  rw [hshare] at huri
  exact ⟨hn, hwithout.trans (by decide), hfull.trans (by decide), hwithoutWords.trans (by decide),
    hfullWords.trans (by decide), huri, (hconsistent rfl).1⟩

end CallFeed
