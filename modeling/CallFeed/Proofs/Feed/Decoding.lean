/-
What the line of an event tells of it: everything but the fraction of its second.

Nothing in a field is escaped. That a line can still be taken apart rests on its tenants, which must hold nothing that
markup is made of; they may hold at signs, slashes and the names of tags. Numbers, states and times never do.

- `between?_field`: every field is found by its tag;
- `ofLine?_line`: the values of the fields are read back;
- `line_tells_event`: an event's line is one well-formed element, and two events have the same line only when they agree.
-/
import CallFeed.Proofs.Feed.Markup
import CallFeed.Proofs.Text.Numeral
import CallFeed.Proofs.Time.Text

namespace CallFeed

open CallFeed.Text CallFeed.Feed

/-- the event's numbers fit their fields, and its tenants hold nothing that markup is made of -/
structure Event.Sendable (e : Event) : Prop where
  callId : e.callId ≤ lastCallId
  callerExt : e.callerExt ≤ 65535
  calleeExt : e.calleeExt ≤ 65535
  uriTenant : Content e.uriTenant
  tenantId : Content e.tenantId

/-- the events are the same, but for the fractions of their seconds -/
structure Event.Agrees (e e' : Event) : Prop where
  callId : e.callId = e'.callId
  callerExt : e.callerExt = e'.callerExt
  calleeExt : e.calleeExt = e'.calleeExt
  uriTenant : e.uriTenant = e'.uriTenant
  state : e.state = e'.state
  tenantId : e.tenantId = e'.tenantId
  stamp : e.stamp.SameSecond e'.stamp

/-- the fields that the line of an event shows -/
def Event.shownFields (e : Event) : Fields :=
  { callId := e.callId
    caller := ⟨e.callerExt, e.uriTenant⟩
    callee := ⟨e.calleeExt, e.uriTenant⟩
    state := e.state
    direction := Event.direction
    tenantId := e.tenantId
    timestamp := e.stamp.text }

/-! ## Events as they are made -/

theorem content_tenant : ∀ t ∈ tenants, Content t := by
  intro t ht
  obtain ⟨i, -, rfl⟩ := List.mem_map.1 ht
  exact content_of_plain (plain_tenantName i)

theorem Factory.sendable_event (f : Factory) (src : Source) {id : Nat} (pos : Nat) (h : id ≤ lastCallId) :
    (f.event src id pos).1.Sendable := by
  have hplain := f.plain_event src id pos
  have hext (i : Fin extensionCount) : firstExtension + i ≤ 65535 := by
    have := i.isLt
    simp only [extensionCount, firstExtension] at this ⊢
    omega
  exact ⟨h, hext _, hext _, content_of_plain hplain.1, content_of_plain hplain.2⟩

/-! ## Fields found by their tags -/

theorem tags_fields (e : Event) : e.fields.map Prod.fst = ["CallId".toList, "CallerUri".toList, "CalleeUri".toList,
    "State".toList, "Direction".toList, "TenantId".toList, "Timestamp".toList] := rfl

theorem content_sipUri {u : SipUri} (h : Content u.domain) : Content u.text := by
  have hnumber := content_of_plain (plain_decimal u.extension)
  have hscheme : Content "sip:".toList := by decide
  have hdomain : Content ('@' :: u.domain) := List.forall_mem_cons.2 ⟨by decide, h⟩
  exact content_append.2 ⟨content_append.2 ⟨hscheme, hnumber⟩, hdomain⟩

/-- every field has a tag's name over something that is no markup -/
theorem Event.Sendable.fields {e : Event} (h : e.Sendable) : ∀ f ∈ e.fields, IsTag f.1 ∧ Content f.2 := by
  intro f hf
  have htag : IsTag f.1 := by
    have hall : ∀ tag ∈ e.fields.map Prod.fst, IsTag tag := by
      rw [tags_fields]
      decide
    exact hall f.1 (List.mem_map_of_mem hf)
  refine ⟨htag, ?_⟩
  simp only [Event.fields, List.mem_cons, List.not_mem_nil, or_false] at hf
  rcases hf with rfl | rfl | rfl | rfl | rfl | rfl | rfl
  · exact content_append.2 ⟨by decide, content_of_plain (plain_decimal _)⟩
  · exact content_sipUri h.uriTenant
  · exact content_sipUri h.uriTenant
  · exact content_of_plain e.state.plain_name
  · exact content_of_plain (by decide)
  · exact h.tenantId
  · exact content_of_plain e.stamp.plain_text

theorem wellFormed_line {e : Event} (h : e.Sendable) : wellFormed e.line = true :=
  wellFormed_element (by decide) h.fields

/-- the line has one newline, at its end -/
theorem newline_not_mem_text {e : Event} (h : e.Sendable) : '\n' ∉ e.text :=
  not_mem_element (.inr rfl) (by decide) (not_mem_elements (.inr rfl) h.fields)

/-- **Every field is found by its tag.** -/
theorem between?_field {e : Event} (h : e.Sendable) : ∀ f ∈ e.fields, between? f.1 e.line = some f.2 := by
  intro f hf
  obtain ⟨before, after, hsplit⟩ := List.append_of_mem hf
  obtain ⟨ht, hc⟩ := h.fields f hf
  have hroot : IsTag "CallStateEvent".toList := by decide
  have hbefore : ∀ f' ∈ before, IsTag f'.1 ∧ Content f'.2 := fun f' hf' => h.fields f' (by rw [hsplit]; simp [hf'])
  -- no tag is used twice, and none is that of the whole
  have htags : ("CallStateEvent".toList :: e.fields.map Prod.fst).Nodup := by
    rw [tags_fields]
    decide
  rw [hsplit, List.map_append, List.map_cons, List.nodup_cons, List.nodup_append] at htags
  have hne : ∀ f' ∈ before, f.1 ≠ f'.1 := fun f' hf' =>
    (htags.2.2.2 f'.1 (List.mem_map_of_mem hf') f.1 List.mem_cons_self).symm
  have hnotRoot : f.1 ≠ "CallStateEvent".toList := fun e => htags.1 (e ▸ by simp)
  obtain ⟨hopens, hcloses⟩ := skips_elements ht hbefore hne
  have hrootOpen : Skips (openTag f.1) (openTag "CallStateEvent".toList) :=
    skips_tag (ht.not_mem (by decide)) (by decide) hnotRoot
  have hrootClose : Skips (closeTag f.1) (openTag "CallStateEvent".toList) := by
    refine skips_tag ?_ (by decide) ?_
    · rw [List.mem_cons, not_or]
      exact ⟨by decide, ht.not_mem (by decide)⟩
    · intro e
      exact absurd (List.cons.inj e).1 (by decide)
  have hline : e.line = (openTag "CallStateEvent".toList ++ before.flatMap fun f => element f.1 f.2) ++
      (element f.1 f.2 ++ ((after.flatMap fun f => element f.1 f.2) ++ closeTag "CallStateEvent".toList ++ ['\n'])) := by
    rw [Event.line, Event.text, element_eq, hsplit]
    simp
  rw [hline]
  exact between?_element ht hc (hrootOpen.append hopens) (hrootClose.append hcloses) _

/-! ## Values read back -/

theorem number?_decimal {max n : Nat} (h : n ≤ max) : number? max (decimal n) = some n := by
  rw [number?, if_neg (decimal_ne_nil n), readDigits_decimal .tooLarge h]
  rfl

/-- an address is read back, whatever its domain: the extension ends at the first at sign -/
theorem uri?_text {u : SipUri} (h : u.extension ≤ 65535) : uri? u.text = some u := by
  have hall : ∀ c ∈ decimal u.extension, (c != '@') = true := by
    intro c hc
    have hd := isDigit_of_mem_decimal hc
    refine bne_iff_ne.2 ?_
    rintro rfl
    revert hd
    decide
  have htext : u.text = "sip:".toList ++ (decimal u.extension ++ '@' :: u.domain) := by simp [SipUri.text]
  unfold uri?
  rw [htext, afterPrefix?_append]
  simp only [Option.bind_eq_bind, Option.bind_some, List.takeWhile_append_of_pos hall,
    List.dropWhile_append_of_pos hall]
  simp [number?_decimal h]

theorem state?_name (s : CallState) : state? s.name = some s := by
  cases s <;> decide

/-- **The values of the fields are read back.** -/
theorem ofLine?_line {e : Event} (h : e.Sendable) : Fields.ofLine? e.line = some e.shownFields := by
  have hfields := between?_field h
  simp only [Event.fields, List.forall_mem_cons] at hfields
  obtain ⟨hid, hcaller, hcallee, hstate, hdirection, htenant, htime, -⟩ := hfields
  unfold Fields.ofLine?
  rw [hid, hcaller, hcallee, hstate, hdirection, htenant, htime]
  simp only [Option.bind_eq_bind, Option.bind_some, afterPrefix?_append, number?_decimal h.callId,
    uri?_text (u := e.caller) h.callerExt, uri?_text (u := e.callee) h.calleeExt, state?_name]
  rfl

/-! ## Events told apart -/

theorem agrees_of_line_eq {e e' : Event} (h : e.Sendable) (h' : e'.Sendable) (hline : e.line = e'.line) :
    e.Agrees e' := by
  have hshown : e.shownFields = e'.shownFields := by
    have := ofLine?_line h
    rw [hline, ofLine?_line h'] at this
    exact (Option.some.inj this).symm
  simp only [Event.shownFields, Fields.mk.injEq, SipUri.mk.injEq] at hshown
  obtain ⟨hid, ⟨hcaller, huri⟩, ⟨hcallee, -⟩, hstate, -, htenant, htime⟩ := hshown
  exact ⟨hid, hcaller, hcallee, huri, hstate, htenant, Stamp.text_eq_iff.1 htime⟩

theorem Event.Agrees.line_eq {e e' : Event} (h : e.Agrees e') : e.line = e'.line := by
  obtain ⟨hid, hcaller, hcallee, huri, hstate, htenant, htime⟩ := h
  have htext := Stamp.text_eq_iff.2 htime
  have hfields : e.fields = e'.fields := by
    simp only [Event.fields, Event.caller, Event.callee, hid, hcaller, hcallee, huri, hstate, htenant, htext]
  rw [Event.line, Event.text, hfields]
  rfl

/-- **The line of an event tells the event.** Every event a factory makes can be sent, since no tenant of the table holds
any markup. Drawn up behind whatever a buffer holds, an event that can be sent adds one line, whose only newline is its
last character; the line is one well-formed element, each field is what stands between the first of its tags, and read
back the fields have the values of the event. So two events have the same line exactly when they agree in everything but
the fractions of their seconds. -/
theorem line_tells_event :
    ((∀ t ∈ tenants, Content t) ∧ ∀ (f : Factory) (src : Source) (id pos : Nat), id ≤ lastCallId →
      (f.event src id pos).1.Sendable) ∧
    ∀ e : Event, e.Sendable →
      (∃ body, (∀ buffer, e.render buffer = buffer ++ (body ++ ['\n'])) ∧ e.line = body ++ ['\n'] ∧ '\n' ∉ body) ∧
      wellFormed e.line = true ∧
      (∀ f ∈ e.fields, between? f.1 e.line = some f.2) ∧
      Fields.ofLine? e.line = some
        { callId := e.callId
          caller := ⟨e.callerExt, e.uriTenant⟩
          callee := ⟨e.calleeExt, e.uriTenant⟩
          state := e.state
          direction := "inbound".toList
          tenantId := e.tenantId
          timestamp := e.stamp.text } ∧
      ∀ e' : Event, e'.Sendable → (e.line = e'.line ↔ e.Agrees e') := by
  refine ⟨⟨content_tenant, fun f src id pos h => f.sendable_event src pos h⟩, fun e h => ?_⟩
  refine ⟨⟨e.text, fun _ => rfl, rfl, newline_not_mem_text h⟩, wellFormed_line h, between?_field h, ofLine?_line h,
    fun e' h' => ?_⟩
  constructor
  · exact agrees_of_line_eq h h'
  · exact Event.Agrees.line_eq

/-- tenants that look like addresses, tags and numbers, in a leap second before the year 0 -/
theorem misleading_tenants_are_read_back :
    let leap : Moment := ⟨-62167219201, 1500000000, by decide +kernel⟩
    let e : Event :=
      { callId := lastCallId, callerExt := 65535, calleeExt := 0, uriTenant := "7@x@/CallId".toList, state := .terminated
        tenantId := "sip:1@State call-2".toList, stamp := .moment leap }
    e.Sendable ∧ wellFormed e.line = true ∧ (Fields.ofLine? e.line).map Fields.caller = some ⟨65535, "7@x@/CallId".toList⟩ ∧
      (Fields.ofLine? e.line).map Fields.timestamp = some "-0001-12-31T23:59:60Z".toList ∧ e.Agrees e := by
  intro leap e
  have h : e.Sendable := ⟨by decide, by decide, by decide, by decide, by decide⟩
  have htime : leap.text = "-0001-12-31T23:59:60Z".toList := by decide +kernel
  obtain ⟨-, hformed, -, hfields, hagrees⟩ := line_tells_event.2 e h
  refine ⟨h, hformed, ?_, ?_, (hagrees e h).1 rfl⟩
  · rw [hfields]
    rfl
  · rw [hfields, ← htime]
    rfl

end CallFeed
