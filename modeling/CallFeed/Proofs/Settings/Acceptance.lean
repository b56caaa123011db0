/-
The settings that a server can be started with.

A rate that is not too low, room for clients that wait, and a host that is the text of an address: settings with these
are accepted as they are, and there is an address to listen on. Of several things that are wrong the first is told, in
the order rate, backlog, host. A host may be written in many ways, but as it is written canonically it is the same
address, so nothing that is bound depends on the way.

- `listenAddress_eq_ok_iff`: where to listen;
- `validated_eq_ok_iff`: the settings that are accepted;
- `canonical`: settings with the host as it is written canonically;
- `usable_settings_are_accepted`: all of it.
-/
import CallFeed.Proofs.Address.Text
import CallFeed.Settings

namespace CallFeed.Settings

open CallFeed.Text

/-- settings that a server can be started with -/
structure Usable (s : Settings) : Prop where
  rate : minRate ≤ s.rate.toNat
  backlog : s.backlog ≠ 0
  host : ∃ ip, IpAddress.IsText s.host ip

theorem listenAddress_eq_ok_iff {s : Settings} {a : SocketAddress} :
    s.listenAddress = .ok a ↔ IpAddress.IsText s.host a.ip ∧ a.port = s.port := by
  rw [← IpAddress.ofText?_eq_some_iff, listenAddress]
  constructor
  · intro h
    split at h
    · rename_i ip hip
      obtain rfl := Except.ok.inj h
      exact ⟨hip, rfl⟩
    · cases h
  · rintro ⟨hip, hport⟩
    rw [hip, ← hport]

/-- a host that is no address is what is wrong -/
theorem listenAddress_of_not_isText {s : Settings} (h : ∀ ip, ¬ IpAddress.IsText s.host ip) :
    s.listenAddress = .error (.badHost s.host) := by
  rw [listenAddress, IpAddress.ofText?_eq_none_iff.2 h]

/-- with a rate that is not too low the backlog comes next -/
theorem validated_of_no_backlog {s : Settings} (hrate : minRate ≤ s.rate.toNat) (hbacklog : s.backlog = 0) :
    s.validated = .error .noBacklog := by
  rw [validated, if_neg (Nat.not_lt.2 hrate), if_pos hbacklog]

/-- with a rate that is not too low and room for clients that wait only the host is left -/
theorem validated_of_host {s : Settings} (hrate : minRate ≤ s.rate.toNat) (hbacklog : s.backlog ≠ 0) :
    s.validated = s.listenAddress.map fun _ => s := by
  rw [validated, if_neg (Nat.not_lt.2 hrate), if_neg hbacklog]

/-- **The settings that are accepted**, and they are not changed. -/
theorem validated_eq_ok_iff {s t : Settings} : s.validated = .ok t ↔ s.Usable ∧ t = s := by
  constructor
  · intro h
    obtain ⟨rfl, hrate⟩ := eq_of_validated h
    have hbacklog : t.backlog ≠ 0 := by
      intro hzero
      rw [validated_of_no_backlog hrate hzero] at h
      cases h
    rw [validated_of_host hrate hbacklog] at h
    obtain ⟨a, ha, -⟩ := ok_of_map h
    exact ⟨⟨hrate, hbacklog, a.ip, (listenAddress_eq_ok_iff.1 ha).1⟩, rfl⟩
  · rintro ⟨⟨hrate, hbacklog, ip, hip⟩, rfl⟩
    have ha : t.listenAddress = .ok ⟨ip, t.port⟩ := listenAddress_eq_ok_iff.2 ⟨hip, rfl⟩
    rw [validated_of_host hrate hbacklog, ha]
    rfl

/-! ## The canonical host -/

/-- settings whose host, if it is an address, is written canonically -/
def canonical (s : Settings) : Settings :=
  { s with host := ((IpAddress.ofText? s.host).map IpAddress.text).getD s.host }

theorem canonical_of_isText {s : Settings} {ip : IpAddress} (h : IpAddress.IsText s.host ip) :
    s.canonical = { s with host := ip.text } := by
  rw [canonical, IpAddress.ofText?_eq_some_iff.2 h]
  rfl

theorem canonical_of_not_isText {s : Settings} (h : ∀ ip, ¬ IpAddress.IsText s.host ip) : s.canonical = s := by
  rw [canonical, IpAddress.ofText?_eq_none_iff.2 h]
  rfl

theorem canonical_canonical (s : Settings) : s.canonical.canonical = s.canonical := by
  by_cases h : ∃ ip, IpAddress.IsText s.host ip
  · obtain ⟨ip, hip⟩ := h
    rw [canonical_of_isText hip]
    exact canonical_of_isText ip.isText_text
  · rw [canonical_of_not_isText (not_exists.1 h), canonical_of_not_isText (not_exists.1 h)]

/-- **The address that is bound does not depend on the way the host is written.** -/
theorem listenAddress_canonical (s : Settings) : s.canonical.listenAddress = s.listenAddress := by
  by_cases h : ∃ ip, IpAddress.IsText s.host ip
  · obtain ⟨ip, hip⟩ := h
    have ha : s.listenAddress = .ok ⟨ip, s.port⟩ := listenAddress_eq_ok_iff.2 ⟨hip, rfl⟩
    rw [canonical_of_isText hip, ha]
    exact listenAddress_eq_ok_iff.2 ⟨ip.isText_text, rfl⟩
  · rw [canonical_of_not_isText (not_exists.1 h)]

theorem validated_canonical (s : Settings) : s.canonical.validated = s.validated.map canonical := by
  have hrate : s.canonical.rate = s.rate := rfl
  have hbacklog : s.canonical.backlog = s.backlog := rfl
  rw [validated, validated, hrate, hbacklog, listenAddress_canonical]
  split
  · rfl
  · split
    · rfl
    · cases s.listenAddress with
      | error fault => rfl
      | ok a => rfl

/-- **Exactly the usable settings are accepted**: those with a rate of ten at least, a backlog that is not zero and a host
that is a text of an address. They are not changed, and there is an address to listen on, with the port that they give.
Of several things that are wrong the first is told, in the order rate, backlog, host. An address as it is written is a
host for itself, and with its port it is read back, so that a host can be written canonically, once and for all, and what
is accepted and bound stays the same. -/
theorem usable_settings_are_accepted (s : Settings) :
    (∀ t, s.validated = .ok t ↔ s.Usable ∧ t = s) ∧
    (∀ a, s.listenAddress = .ok a ↔ IpAddress.IsText s.host a.ip ∧ a.port = s.port) ∧
    (∀ t, s.validated = .ok t → ∃ ip, t.listenAddress = .ok ⟨ip, s.port⟩) ∧
    ((s.rate.toNat < minRate → s.validated = .error (.rateTooLow s.rate.toNat)) ∧
      (minRate ≤ s.rate.toNat → s.backlog = 0 → s.validated = .error .noBacklog) ∧
      (minRate ≤ s.rate.toNat → s.backlog ≠ 0 → (∀ ip, ¬ IpAddress.IsText s.host ip) →
        s.validated = .error (.badHost s.host))) ∧
    (∀ ip port, listenAddress { s with host := ip.text, port := port } = .ok ⟨ip, port⟩) ∧
    (∀ a : SocketAddress, SocketAddress.ofText? a.text = some a) ∧
    s.canonical.canonical = s.canonical ∧ s.canonical.listenAddress = s.listenAddress ∧
      s.canonical.validated = s.validated.map canonical := by
  refine ⟨fun t => validated_eq_ok_iff, fun a => listenAddress_eq_ok_iff, fun t ht => ?_,
    ⟨fun hrate => if_pos hrate, validated_of_no_backlog, fun hrate hbacklog hhost => ?_⟩,
    fun ip port => listenAddress_eq_ok_iff.2 ⟨ip.isText_text, rfl⟩, SocketAddress.ofText?_text,
    s.canonical_canonical, s.listenAddress_canonical, s.validated_canonical⟩
  · obtain ⟨⟨-, -, ip, hip⟩, rfl⟩ := validated_eq_ok_iff.1 ht
    exact ⟨ip, listenAddress_eq_ok_iff.2 ⟨hip, rfl⟩⟩
  · rw [validated_of_host hrate hbacklog, listenAddress_of_not_isText hhost]
    rfl

/-- an IPv4 address in groups is accepted, and its canonical text is another; with a rate of nine the host does not
matter -/
theorem mapped_host_is_accepted :
    let s : Settings := { host := "0:0::0:FFFF:1.2.3.4".toList }
    s.validated = .ok s ∧ s.canonical.host = "::ffff:1.2.3.4".toList ∧ s.canonical.listenAddress = s.listenAddress ∧
      { s with rate := 9, host := "localhost".toList }.validated = .error (.rateTooLow 9) := by
  intro s
  have hhost : ∃ ip, IpAddress.IsText s.host ip := by
    refine ⟨.v6 #v[0, 0, 0, 0, 0, 0xFFFF, 0x0102, 0x0304], IpAddress.ofText?_eq_some_iff.1 ?_⟩
    decide +kernel
  obtain ⟨haccepted, -, -, -, -, -, -, hbound, -⟩ := s.usable_settings_are_accepted
  obtain ⟨-, -, -, ⟨hrate, -⟩, -⟩ := usable_settings_are_accepted { s with rate := 9, host := "localhost".toList }
  refine ⟨(haccepted s).2 ⟨⟨by decide, by decide, hhost⟩, rfl⟩, ?_, hbound, hrate (by decide)⟩
  decide +kernel

end CallFeed.Settings
