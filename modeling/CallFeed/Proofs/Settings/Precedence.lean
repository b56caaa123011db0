/-
The command line over the environment, the environment over the file, the file over the defaults.

What a higher layer gives for a field hides what lower ones say of it, so two starts that differ only in what is hidden
are the same. In particular a rate that the command line gives is the one that is checked: a lower layer's rate, too low
or not, makes no difference.

- `same_of_same_decisions`: two starts with the same deciders come to the same settings;
- `settings_come_by_layer`: where each setting comes from, and what follows for the checks and the start.
-/
import CallFeed.Proofs.Settings.Layering
import CallFeed.Proofs.Toml.Order

namespace CallFeed.Settings

open CallFeed.Text

/-- what a command line gives for a field -/
def Overrides.value? (o : Overrides) : Field → Option FieldValue
  | .port => o.port.map fun n => .count n.toNat
  | .rate => o.rate.map fun n => .count n.toNat
  | .durationSecs => o.durationSecs.map fun n => .count n.toNat
  | _ => none

/-- **The command line replaces what it gives**, and nothing else. -/
theorem of_overridden (s : Settings) (o : Overrides) (f : Field) :
    f.of (s.overridden o) = (Overrides.value? o f).getD (f.of s) := by
  obtain ⟨port, rate, durationSecs⟩ := o
  cases f with
  | port => cases port <;> rfl
  | rate => cases rate <;> rfl
  | durationSecs => cases durationSecs <;> rfl
  | _ => rfl

/-- **Two starts whose fields are decided alike come to the same settings**, whatever else their sources say. -/
theorem same_of_same_decisions {files files' : Files} {path path' : Text} {env env' : Environment} {s s' : Settings}
    {o o' : Overrides} (h : load files path env = .ok s) (h' : load files' path' env' = .ok s')
    (henv : env.OnePerField) (henv' : env'.OnePerField)
    (hsame : ∀ f, Overrides.value? o f = Overrides.value? o' f ∧
      (Overrides.value? o f = none → deciderOf files path env f = deciderOf files' path' env' f)) :
    s.overridden o = s'.overridden o' := by
  refine eq_of_fields fun f => ?_
  obtain ⟨hgiven, hdecided⟩ := hsame f
  rw [of_overridden, of_overridden, ← hgiven]
  cases hv : Overrides.value? o f with
  | some v => rfl
  | none =>
    have hvalue := value_of_load h henv f
    rw [hdecided hv, value_of_load h' henv' f] at hvalue
    exact (Option.some.inj hvalue).symm

/-- the order of the lines of a file, from one header to the next, makes no difference to what it decides -/
theorem deciderOf_reordered {files files' : Files} {path path' name name' : Text} {octets octets' : Octets}
    {env : Environment} {s : Settings} (h : load files path env = .ok s)
    (hfile : files.settingsFile? path = some (name, octets)) (hfile' : files'.settingsFile? path' = some (name', octets'))
    (horder : Toml.Reordered (decodeLossy (dropMark octets)) (decodeLossy (dropMark octets'))) (f : Field) :
    deciderOf files' path' env f = deciderOf files path env f := by
  have hentry : files'.entry? path' f = files.entry? path f := by
    obtain ⟨es, hes, -⟩ := ok_of_bind h
    rw [Files.entries, hfile] at hes
    obtain ⟨items, hitems, -⟩ := ok_of_bind hes
    unfold fileItems at hitems
    split at hitems
    · cases hitems
    · rename_i entries hdoc
      simp only [Files.entry?, hfile, hfile', hdoc, horder.document_eq hdoc]
  rw [deciderOf, deciderOf, hentry]

/-! ## What is checked -/

/-- a rate that is too low is the first thing that is wrong -/
theorem validated_of_rate_lt {s : Settings} (h : s.rate.toNat < minRate) :
    s.validated = .error (.rateTooLow s.rate.toNat) := if_pos h

/-- with a rate that is not, only the backlog and the host can be wrong -/
theorem fault_of_minRate_le {s : Settings} {fault : SettingsFault} (hrate : minRate ≤ s.rate.toNat)
    (h : s.validated = .error fault) : fault = .noBacklog ∨ fault = .badHost s.host := by
  rw [validated, if_neg (Nat.not_lt.2 hrate)] at h
  split at h
  · cases h
    exact Or.inl rfl
  · unfold listenAddress at h
    split at h
    · cases h
    · cases h
      exact Or.inr rfl

/-- settings that are checked have an address to listen on -/
theorem exists_listenAddress {s t : Settings} (h : s.validated = .ok t) : ∃ a, t.listenAddress = .ok a := by
  obtain ⟨rfl, -⟩ := eq_of_validated h
  unfold validated at h
  split at h
  · cases h
  · split at h
    · cases h
    · obtain ⟨a, ha, -⟩ := ok_of_map h
      exact ⟨a, ha⟩

/-- a server can be started with settings exactly when nothing is wrong with them -/
theorem plan_error_iff {s : Settings} {fault : SettingsFault} : s.plan = .error fault ↔ s.validated = .error fault := by
  unfold plan
  split
  · rename_i fault' h
    rw [h]
    exact ⟨fun heq => congrArg Except.error (Except.error.inj heq), fun heq => congrArg Except.error (Except.error.inj heq)⟩
  · rename_i t h
    obtain ⟨a, ha⟩ := exists_listenAddress h
    have hnone : s.validated ≠ .error fault := by
      rw [h]
      intro heq
      cases heq
    rw [ha]
    exact ⟨fun heq => (by cases heq), fun heq => absurd heq hnone⟩

/-- the end of a start whose settings have something wrong with them -/
def invalid (fault : SettingsFault) : Exit := .failure "Invalid config".toList fault.causes

/-- once its settings are loaded, a start is settled by them and the command line -/
theorem planOf_eq {files : Files} {env : Environment} {args : List Octets} {o : Overrides} {s : Settings}
    (hread : CommandLine.read args.tail = .ok o) (h : load files settingsName env = .ok s) :
    planOf files env args = (s.overridden o).plan.mapError invalid := by
  rw [planOf, hread]
  dsimp only
  rw [h]
  rfl

/-- **A rate on the command line is the one that counts**: if it is too low, the start ends with that, and if it is not,
only the backlog or the host can still end it. -/
theorem planOf_of_given_rate {files : Files} {env : Environment} {args : List Octets} {o : Overrides} {s : Settings}
    {rate : UInt64} (hread : CommandLine.read args.tail = .ok o) (h : load files settingsName env = .ok s)
    (hrate : o.rate = some rate) :
    (rate.toNat < minRate → planOf files env args = .error (invalid (.rateTooLow rate.toNat))) ∧
      (minRate ≤ rate.toNat → ∀ e, planOf files env args = .error e →
        e = invalid .noBacklog ∨ e = invalid (.badHost s.host)) := by
  have hcounts : (s.overridden o).rate = rate := by
    rw [overridden, hrate]
    rfl
  rw [planOf_eq hread h]
  constructor
  · intro hlow
    rw [← hcounts] at hlow ⊢
    rw [plan_error_iff.2 (validated_of_rate_lt hlow)]
    rfl
  · intro hle e he
    rw [← hcounts] at hle
    cases hplan : (s.overridden o).plan with
    | ok p =>
      rw [hplan] at he
      cases he
    | error fault =>
      rw [hplan] at he
      cases he
      exact (fault_of_minRate_le hle (plan_error_iff.1 hplan)).imp (congrArg invalid) (congrArg invalid)

/-- **Where settings come from.** A field of loaded settings is decided by its own variable if the environment has one,
else by the entry under its key if the file has one, else by the default, and by nothing else; the order of a file's
lines, before its first header and under each, makes no difference. The command line then replaces what it gives. So two
starts that differ only in what is hidden by a higher layer come to the same settings, with the same thing wrong with
them, if anything is. In particular a rate on the command line is the one that counts. If it is too low, the start ends
with that, whatever the other layers say; if it is not, only the backlog or the host can still end it. -/
theorem settings_come_by_layer {files : Files} {path : Text} {env : Environment} {s : Settings}
    (h : load files path env = .ok s) (henv : env.OnePerField) :
    (∀ f : Field, variablePath? ((variableStart ++ f.key).map Char.toUpper) = some f.key ∧
      (∀ v ∈ env, variablePath? v.1 = some f.key → deciderOf files path env f = .variable v.2) ∧
      (deciderOf files path env f).value? f = some (f.of s)) ∧
    (∀ files' path' name name' octets octets', files.settingsFile? path = some (name, octets) →
      files'.settingsFile? path' = some (name', octets') →
      Toml.Reordered (decodeLossy (dropMark octets)) (decodeLossy (dropMark octets')) →
      ∀ f, deciderOf files' path' env f = deciderOf files path env f) ∧
    (∀ o f, f.of (s.overridden o) = (Overrides.value? o f).getD (f.of s)) ∧
    (∀ files' path' env' s' o o', load files' path' env' = .ok s' → env'.OnePerField →
      (∀ f, Overrides.value? o f = Overrides.value? o' f ∧
        (Overrides.value? o f = none → deciderOf files path env f = deciderOf files' path' env' f)) →
      s.overridden o = s'.overridden o' ∧ (s.overridden o).validated = (s'.overridden o').validated) ∧
    (∀ args o rate, path = settingsName → CommandLine.read args.tail = .ok o → o.rate = some rate →
      (rate.toNat < minRate → planOf files env args = .error (invalid (.rateTooLow rate.toNat))) ∧
      (minRate ≤ rate.toNat → ∀ e, planOf files env args = .error e →
        e = invalid .noBacklog ∨ e = invalid (.badHost s.host))) := by
  refine ⟨fun f => ⟨?_, fun v hv hkey => ?_, value_of_load h henv f⟩,
    fun files' path' name name' octets octets' hfile hfile' horder f => deciderOf_reordered h hfile hfile' horder f,
    of_overridden s, fun files' path' env' s' o o' h' henv' hsame => ?_, ?_⟩
  · cases f <;> decide +kernel
  · rw [deciderOf, henv.given?_eq hv hkey]
  · have heq := same_of_same_decisions h h' henv henv' hsame
    exact ⟨heq, congrArg validated heq⟩
  · rintro args o rate rfl hread hrate
    exact planOf_of_given_rate hread h hrate

/-- two starts whose variables give rates, one of them too low, that the command line hides: with 100 there they come
to the same settings, and with 9 there neither can start -/
theorem hidden_rate_makes_no_difference :
    let files : Files := { files := [(["presence_flood.toml".toList], utf8 "rate = 20\nport = 7000\n".toList)] }
    let env (rate : String) : Environment :=
      [("PRESENCE_FLOOD_BACKLOG".toList, utf8 "7".toList), ("PRESENCE_FLOOD_RATE".toList, utf8 rate.toList)]
    ∃ s s', load files settingsName (env "3") = .ok s ∧ load files settingsName (env "500") = .ok s' ∧
      (env "3").OnePerField ∧ (env "500").OnePerField ∧ s.rate = 3 ∧ s'.rate = 500 ∧
      s.overridden { rate := some 100 } = s'.overridden { rate := some 100 } ∧
      planOf files (env "500") [[], utf8 "7001".toList, utf8 "9".toList] = .error (invalid (.rateTooLow 9)) := by
  intro files env
  have hload : load files settingsName (env "3") = .ok { port := 7000, backlog := 7, rate := 3 } := by decide +kernel
  have hload' : load files settingsName (env "500") = .ok { port := 7000, backlog := 7, rate := 500 } := by
    decide +kernel
  have henv : (env "3").OnePerField := onePerField_of_nodup (by decide +kernel)
  have henv' : (env "500").OnePerField := onePerField_of_nodup (by decide +kernel)
  have hvariable : ∀ f : Field, f ≠ .rate → (env "3").given? f = (env "500").given? f := by
    intro f hf
    cases f with
    | rate => exact absurd rfl hf
    | _ => decide +kernel
  obtain ⟨-, -, -, hsame, -⟩ := settings_come_by_layer hload henv
  obtain ⟨-, -, -, -, hstart⟩ := settings_come_by_layer hload' henv'
  refine ⟨_, _, hload, hload', henv, henv', rfl, rfl, (hsame _ _ _ _ _ _ hload' henv' fun f => ⟨rfl, fun hnone => ?_⟩).1, ?_⟩
  · have hf : f ≠ .rate := by
      rintro rfl
      cases hnone
    rw [deciderOf, deciderOf, hvariable f hf]
  · let given : Overrides := { port := some 7001, rate := some 9 }
    have hread : CommandLine.read [utf8 "7001".toList, utf8 "9".toList] = .ok given := by decide +kernel
    exact (hstart [[], utf8 "7001".toList, utf8 "9".toList] given 9 rfl hread rfl).1 (by decide)

end CallFeed.Settings
