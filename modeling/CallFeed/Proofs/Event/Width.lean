/-
How long a line can be.

All of a line but its fields is of one length, and every field has a widest value: a number of twenty digits, two
extensions of four, a tenant of two, the longest name of a state, a year with a sign and six digits. A line is ASCII, so
it has an octet for each character.

- `Event.length_line`: the length of a line from the widths of its fields;
- `Moment.length_text`, `Moment.length_yearText_le`: a time is as long as its year makes it;
- `Factory.length_line_le`: the longest line of an event that a factory draws.
-/
import CallFeed.Proofs.Feed.Records
import CallFeed.Proofs.Time.Text

namespace CallFeed

open CallFeed.Text

/-! ## Fields -/

theorem length_tenantName (i : Nat) : (tenantName i).length = (decimal i).length + 11 := by
  have hfront : "tenant-".toList.length = 7 := rfl
  have hback : ".com".toList.length = 4 := rfl
  unfold tenantName
  rw [List.length_append, List.length_append, hfront, hback]
  omega

theorem length_tenant_le (i : Fin tenantCount) : (tenant i).length ≤ 13 := by
  have hlt : i.val < Number.tenTo (1 + 1) := i.isLt
  have hdigits : (decimal i.val).length ≤ 1 + 1 := length_decimal_le hlt
  rw [tenant_eq, length_tenantName]
  omega

theorem length_decimal_extension_le (i : Fin extensionCount) : (decimal (firstExtension + i)).length ≤ 4 := by
  have hlt : firstExtension + i.val < Number.tenTo (3 + 1) := by
    have := i.isLt
    simp only [extensionCount] at this
    show 1000 + i.val < 10000
    omega
  exact length_decimal_le hlt

theorem length_decimal_callId_le {id : Nat} (h : id ≤ lastCallId) : (decimal id).length ≤ 20 := by
  have hlt : id < Number.tenTo (19 + 1) := Nat.lt_of_le_of_lt h (by decide)
  exact length_decimal_le hlt

theorem SipUri.length_text (u : SipUri) : u.text.length = 5 + (decimal u.extension).length + u.domain.length := by
  have hscheme : "sip:".toList.length = 4 := rfl
  simp only [SipUri.text, List.length_append, List.length_cons, hscheme]
  omega

theorem CallState.length_name_le (s : CallState) : s.name.length ≤ 10 := by
  cases s <;> decide

/-! ## Times -/

namespace Moment

/-- behind its year a time has sixteen characters -/
theorem length_text (m : Moment) : m.text.length = (yearText m.date.year).length + 16 := by
  have hhour : m.hour < 100 := Nat.lt_trans m.hour_lt (by decide)
  have hminute : m.minute < 100 := Nat.lt_trans m.minute_lt (by decide)
  have hsecond : m.second < 100 := Nat.lt_of_le_of_lt m.second_le (by decide)
  unfold text
  simp only [List.length_append, length_part m.month_lt, length_part m.day_lt, length_part hhour, length_part hminute,
    length_part hsecond, List.length_singleton]

/-- a year has a sign and six digits at most -/
theorem length_yearText_le (m : Moment) : (yearText m.date.year).length ≤ 7 := by
  have hyear : firstYear ≤ m.date.year ∧ m.date.year ≤ lastYear := m.there.1
  simp only [firstYear, lastYear] at hyear
  have hdigits : (decimal m.date.year.natAbs).length ≤ 5 + 1 := by
    have hlt : m.date.year.natAbs < Number.tenTo (5 + 1) := by
      show m.date.year.natAbs < 1000000
      omega
    exact length_decimal_le hlt
  have hpadded : (padded 4 m.date.year.natAbs).length ≤ 6 := by
    simp only [padded, List.length_append, List.length_replicate]
    omega
  rcases yearText_cases m.date.year with ⟨-, ht⟩ | ⟨-, ht⟩ | ⟨-, ht⟩ <;> rw [ht]
  · exact Nat.succ_le_succ hpadded
  · exact Nat.le_succ_of_le hpadded
  · exact Nat.succ_le_succ hdigits

/-- from year 0 to year 9999 it has four digits and no sign -/
theorem length_yearText_of_le {m : Moment} (h : 0 ≤ m.date.year ∧ m.date.year ≤ 9999) :
    (yearText m.date.year).length = 4 := by
  have hlt : m.date.year.natAbs < Number.tenTo (3 + 1) := by
    show m.date.year.natAbs < 10000
    omega
  unfold yearText
  rw [if_neg (Int.not_lt.2 h.1), if_pos h.2]
  exact length_padded hlt

end Moment

namespace Stamp

theorem length_text_le (s : Stamp) : s.text.length ≤ 23 := by
  cases s with
  | moment m => exact m.length_text ▸ Nat.add_le_add_right m.length_yearText_le 16
  | withheld => decide

/-- the year of the moment, if one is told, has four digits -/
def InFourDigits (s : Stamp) : Prop := ∀ m, s = .moment m → 0 ≤ m.date.year ∧ m.date.year ≤ 9999

theorem InFourDigits.length_text {s : Stamp} (h : s.InFourDigits) : s.text.length = 20 := by
  cases s with
  | moment m =>
    have hlength : m.text.length = 20 := by rw [m.length_text, Moment.length_yearText_of_le (h m rfl)]
    exact hlength
  | withheld => rfl

end Stamp

/-! ## Lines -/

theorem length_element (tag content : Text) : (element tag content).length = 2 * tag.length + content.length + 5 := by
  simp only [element, List.length_append, List.length_cons, List.length_nil]
  omega

namespace Event

/-- **A line is as long as its fields make it**, and the same for all events but for them. -/
theorem length_line (e : Event) : e.line.length = 191 + (decimal e.callId).length + e.caller.text.length +
    e.callee.text.length + e.state.name.length + e.tenantId.length + e.stamp.text.length := by
  have htags : ["CallStateEvent", "CallId", "CallerUri", "CalleeUri", "State", "Direction", "TenantId", "Timestamp",
    "call-"].map (fun t => t.toList.length) = [14, 6, 9, 9, 5, 9, 8, 9, 5] := rfl
  have hdirection : direction.length = 7 := rfl
  simp only [List.map_cons, List.map_nil, List.cons.injEq, and_true] at htags
  simp only [line, text, fields, List.length_append, length_element, List.flatMap_cons, List.flatMap_nil,
    List.length_nil, List.length_cons, htags, hdirection]
  omega

theorem isAscii_line {e : Event} (h : e.PlainTenants) : IsAscii e.line := by
  intro c hc
  rcases List.mem_append.1 hc with hc | hc
  · exact Feed.isAscii_of_marked (marked_text h) c hc
  · rw [List.mem_singleton.1 hc]
    decide

end Event

namespace Factory

variable (f : Factory) (src : Source)

/-- **The line of an event that is drawn has 278 octets at most beside its time.** -/
theorem length_line_le {id : Nat} (h : id ≤ lastCallId) (pos : Nat) :
    IsAscii (f.event src id pos).1.line ∧
      (utf8 (f.event src id pos).1.line).length ≤ 278 + (src.stamp id).text.length := by
  have hascii : IsAscii (f.event src id pos).1.line := Event.isAscii_line (f.plain_event src id pos)
  refine ⟨hascii, ?_⟩
  have hid : (decimal (f.event src id pos).1.callId).length ≤ 20 := length_decimal_callId_le h
  have hcallerExt : (decimal (f.event src id pos).1.caller.extension).length ≤ 4 := length_decimal_extension_le _
  have hcalleeExt : (decimal (f.event src id pos).1.callee.extension).length ≤ 4 := length_decimal_extension_le _
  have hcallerDomain : (f.event src id pos).1.caller.domain.length ≤ 13 := length_tenant_le _
  have hcalleeDomain : (f.event src id pos).1.callee.domain.length ≤ 13 := length_tenant_le _
  have hstate := (f.event src id pos).1.state.length_name_le
  have htenant : (f.event src id pos).1.tenantId.length ≤ 13 := length_tenant_le _
  have hstamp : (f.event src id pos).1.stamp.text.length = (src.stamp id).text.length := rfl
  rw [length_utf8_of_ascii hascii, Event.length_line, SipUri.length_text, SipUri.length_text]
  omega

end Factory

end CallFeed
