/-
What the fields of an event hold: plain characters only, none of which opens or closes a tag or ends a line.

Nothing in a field is escaped, so all that is known of a line's shape rests on this.

- `plain_decimal`, `plain_padded`: numbers are plain; `Stamp.plain_text`: times are, whatever the moment;
- `Factory.plain_events`: so are the tenants of every event a factory makes;
- `Event.plain_fields`: and so is every field of such an event;
- `Event.marked_text`: before its newline a line has these and the bounds of its tags.
-/
import CallFeed.Proofs.Event.Sequence

namespace CallFeed

namespace Text

/-- a character from plus sign to colon, or from at sign to the small letters -/
def IsPlain (c : Char) : Prop := 43 ≤ c.toNat ∧ c.toNat ≤ 58 ∨ 64 ≤ c.toNat ∧ c.toNat ≤ 122

instance (c : Char) : Decidable (IsPlain c) := inferInstanceAs (Decidable (_ ∧ _ ∨ _ ∧ _))

def Plain (t : Text) : Prop := ∀ c ∈ t, IsPlain c

instance (t : Text) : Decidable (Plain t) := List.decidableBAll _ t

theorem plain_append {s t : Text} : Plain (s ++ t) ↔ Plain s ∧ Plain t := List.forall_mem_append

theorem plain_cons {c : Char} {t : Text} : Plain (c :: t) ↔ IsPlain c ∧ Plain t := List.forall_mem_cons

theorem isPlain_of_isDigit {c : Char} (h : c.isDigit = true) : IsPlain c := by
  simp only [Char.isDigit, Bool.and_eq_true, decide_eq_true_eq, ge_iff_le, UInt32.le_iff_toNat_le] at h
  have h1 : 48 ≤ c.toNat := h.1
  have h2 : c.toNat ≤ 57 := h.2
  unfold IsPlain
  omega

theorem plain_decimal (n : Nat) : Plain (decimal n) := fun _ hc =>
  isPlain_of_isDigit (Nat.isDigit_of_mem_toDigits (by decide) (by decide) hc)

theorem plain_padded (width n : Nat) : Plain (padded width n) := by
  refine plain_append.2 ⟨fun c hc => ?_, plain_decimal n⟩
  rw [List.eq_of_mem_replicate hc]
  decide

theorem isAscii_of_plain {t : Text} (h : Plain t) : IsAscii t := by
  intro c hc
  rcases h c hc with h | h <;> omega

/-- an octet of an ASCII text is the number of one of its characters -/
theorem mem_utf8_of_ascii {t : Text} (h : IsAscii t) {b : UInt8} (hb : b ∈ utf8 t) : ∃ c ∈ t, b.toNat = c.toNat := by
  obtain ⟨c, hc, hbc⟩ := List.mem_flatMap.1 hb
  have hlt : c.toNat < 128 := h c hc
  rw [encode_of_ascii hlt, List.mem_singleton] at hbc
  refine ⟨c, hc, ?_⟩
  rw [hbc, UInt8.toNat_ofNat']
  omega

/-- a character of a line before its newline: a plain one, or the start or the end of a tag -/
def IsMarkup (c : Char) : Prop := IsPlain c ∨ c = '<' ∨ c = '>'

instance (c : Char) : Decidable (IsMarkup c) := inferInstanceAs (Decidable (_ ∨ _ ∨ _))

/-- plain but for its tags -/
def Marked (t : Text) : Prop := ∀ c ∈ t, IsMarkup c

instance (t : Text) : Decidable (Marked t) := List.decidableBAll _ t

theorem isMarkup_bounds {c : Char} (h : IsMarkup c) : 43 ≤ c.toNat ∧ c.toNat < 128 := by
  rcases h with h | rfl | rfl
  · unfold IsPlain at h
    omega
  · decide
  · decide

end Text

open CallFeed.Text

/-! ## Times -/

theorem Moment.plain_yearText (y : Int) : Plain (yearText y) := by
  unfold yearText
  split
  · exact plain_cons.2 ⟨by decide, plain_padded 4 _⟩
  · split
    · exact plain_padded 4 _
    · exact plain_cons.2 ⟨by decide, plain_decimal _⟩

theorem Moment.plain_text (m : Moment) : Plain m.text := by
  unfold Moment.text
  simp only [plain_append, plain_cons]
  exact ⟨⟨⟨⟨⟨⟨plain_yearText _, by decide, plain_padded 2 _⟩, by decide, plain_padded 2 _⟩, by decide,
      plain_padded 2 _⟩,
    by decide, plain_padded 2 _⟩, by decide, plain_padded 2 _⟩, by decide⟩

theorem Stamp.plain_text (s : Stamp) : Plain s.text := by
  cases s with
  | moment m => exact m.plain_text
  | withheld => decide

/-! ## Events -/

theorem plain_tenantName (i : Nat) : Plain (tenantName i) := by
  unfold tenantName
  simp only [plain_append]
  exact ⟨⟨by decide, plain_decimal i⟩, by decide⟩

theorem plain_tenant (i : Fin tenantCount) : Plain (tenant i) := tenant_eq i ▸ plain_tenantName i

/-- both tenants of the event are plain -/
def Event.PlainTenants (e : Event) : Prop := Plain e.uriTenant ∧ Plain e.tenantId

theorem Factory.plain_event (f : Factory) (src : Source) (id pos : Nat) : (f.event src id pos).1.PlainTenants :=
  ⟨plain_tenant _, plain_tenant _⟩

theorem Factory.plain_events (f : Factory) (src : Source) (count counter pos : Nat) :
    ∀ e ∈ (f.events src count counter pos).1, e.PlainTenants := by
  induction count generalizing counter pos with
  | zero => intro e he; cases he
  | succ count ih =>
    intro e he
    rcases List.mem_cons.1 he with rfl | he
    · exact f.plain_event src _ _
    · exact ih _ _ e he

theorem plain_sipUri {u : SipUri} (h : Plain u.domain) : Plain u.text := by
  unfold SipUri.text
  simp only [plain_append, plain_cons]
  exact ⟨⟨by decide, plain_decimal _⟩, by decide, h⟩

theorem CallState.plain_name (s : CallState) : Plain s.name := by
  cases s <;> decide

/-- **Every field of an event with plain tenants is plain.** -/
theorem Event.plain_fields {e : Event} (h : e.PlainTenants) : ∀ f ∈ e.fields, Plain f.2 := by
  intro f hf
  simp only [fields, List.mem_cons, List.not_mem_nil, or_false] at hf
  rcases hf with rfl | rfl | rfl | rfl | rfl | rfl | rfl
  · exact plain_append.2 ⟨by decide, plain_decimal _⟩
  · exact plain_sipUri h.1
  · exact plain_sipUri h.1
  · exact e.state.plain_name
  · decide
  · exact h.2
  · exact e.stamp.plain_text

theorem marked_element {tag content : Text} (ht : Marked tag) (hc : Marked content) :
    Marked (element tag content) := by
  intro c h
  simp only [element, List.mem_append, List.mem_cons, List.not_mem_nil, or_false] at h
  rcases h with (((rfl | h) | rfl | h) | rfl | rfl | h) | rfl
  · decide
  · exact ht c h
  · decide
  · exact hc c h
  · decide
  · decide
  · exact ht c h
  · decide

/-- **Before its newline the line of such an event is plain but for its tags.** -/
theorem Event.marked_text {e : Event} (h : e.PlainTenants) : Marked e.text := by
  refine marked_element (by decide) fun c hc => ?_
  obtain ⟨f, hf, hcf⟩ := List.mem_flatMap.1 hc
  have htags : ∀ tag ∈ e.fields.map Prod.fst, Marked tag := by
    show ∀ tag ∈ ["CallId".toList, "CallerUri".toList, "CalleeUri".toList, "State".toList, "Direction".toList,
      "TenantId".toList, "Timestamp".toList], Marked tag
    decide
  exact marked_element (htags f.1 (List.mem_map_of_mem hf)) (fun c hc => Or.inl (plain_fields h f hf c hc)) c hcf

end CallFeed
