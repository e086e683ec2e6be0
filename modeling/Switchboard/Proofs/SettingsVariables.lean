import Switchboard.Client.Settings

/-!
# Settings read from variables

Settings are read from seven named variables, each into a field of its own, and no other name is
looked up. `described` reads every variable on its own: a variable that is set is read into its
field, one that is not keeps the field's default, and the first variable, in the order of
`variableNames`, whose value does not read is the refusal; every refusal names its variable
(`described_error`). Reading the variables one after the other into the same settings, as
`fromLookup` does, comes to the same thing followed by the checks (`fromLookup_eq`).

So settings come back exactly when every variable that is set reads and what was read passes the
checks, each field then being its variable's value or the default; otherwise the error is the
first refusal or, when every variable reads, the first check that fails
(`fromLookup_reads_each_variable`).
-/

namespace Switchboard

namespace Settings

/-- The variables settings are read from, in the order they are read. -/
def variableNames : List String :=
  ["TD_RECEIVE_TIMEOUT", "TD_SEND_TIMEOUT", "TD_SETTLE_DELAY", "TD_AUTH_RETRY_DELAY",
    "TD_LISTENER_CAPACITY", "TD_DELIVERY_BUFFER", "TD_OVERFLOW_POLICY"]

/-- The value of a variable that may be unset: its value read by `read` when it is set, else
`fallback`. -/
def readVar {α : Type} (read : String → Except SettingsError α) (fallback : α) :
    Option String → Except SettingsError α
  | none => .ok fallback
  | some value => read value

/-- The settings the variables describe, each field read from its own variable on its own, or
the refusal of the first variable whose value does not read. -/
def described (lookup : String → Option String) : Except SettingsError Settings := do
  pure {
    receiveTimeout := ← readVar (durationVar "TD_RECEIVE_TIMEOUT") default.receiveTimeout
      (lookup "TD_RECEIVE_TIMEOUT")
    sendTimeout := ← readVar (durationVar "TD_SEND_TIMEOUT") default.sendTimeout
      (lookup "TD_SEND_TIMEOUT")
    settleDelay := ← readVar (durationVar "TD_SETTLE_DELAY") default.settleDelay
      (lookup "TD_SETTLE_DELAY")
    authRetryDelay := ← readVar (durationVar "TD_AUTH_RETRY_DELAY") default.authRetryDelay
      (lookup "TD_AUTH_RETRY_DELAY")
    listenerCapacity := ← readVar (countVar "TD_LISTENER_CAPACITY") default.listenerCapacity
      (lookup "TD_LISTENER_CAPACITY")
    deliveryBuffer := ← readVar (countVar "TD_DELIVERY_BUFFER") default.deliveryBuffer
      (lookup "TD_DELIVERY_BUFFER")
    overflowPolicy := ← readVar policyVar default.overflowPolicy (lookup "TD_OVERFLOW_POLICY") }

/-! ## `Except` plumbing -/

section Results

variable {ε α β : Type} {x : Except ε α} {f : α → Except ε β} {b : β} {e : ε}

theorem bind_eq_ok : x >>= f = .ok b ↔ ∃ a, x = .ok a ∧ f a = .ok b := by
  cases x <;> simp [bind, Except.bind]

theorem bind_eq_error : x >>= f = .error e ↔ x = .error e ∨ ∃ a, x = .ok a ∧ f a = .error e := by
  cases x <;> simp [bind, Except.bind]

end Results

/-! ## Reading one variable -/

section OneVariable

variable {α : Type} {key value : String} {e : SettingsError}

/-- A duration variable that does not read is refused under its name. -/
theorem durationVar_error (h : durationVar key value = .error e) :
    ∃ reason, e = .invalidValue key reason := by
  unfold durationVar at h
  split at h
  · cases h
  · cases h
    exact ⟨_, rfl⟩

/-- A count variable that does not read is refused under its name. -/
theorem countVar_error (h : countVar key value = .error e) :
    ∃ reason, e = .invalidValue key reason := by
  unfold countVar at h
  split at h
  · cases h
  · cases h
    exact ⟨_, rfl⟩

/-- The policy variable that does not read is refused under its name. -/
theorem policyVar_error (h : policyVar value = .error e) :
    ∃ reason, e = .invalidValue "TD_OVERFLOW_POLICY" reason := by
  unfold policyVar at h
  split at h
  · cases h
  · cases h
    exact ⟨_, rfl⟩

/-- Only a variable that is set is refused, and then by its reader. -/
theorem readVar_error {read : String → Except SettingsError α} {fallback : α}
    {o : Option String} (h : readVar read fallback o = .error e) :
    ∃ value, o = some value ∧ read value = .error e := by
  cases o with
  | none => cases h
  | some value => exact ⟨value, rfl, h⟩

/-- Reading a variable into a field that holds `fallback`, then going on with `k`, is reading its
value, `fallback` when it is unset, and going on with the settings that hold it. -/
theorem readInto_bind {β : Type} {lookup : String → Option String}
    {read : String → Except SettingsError α} {set : Settings → α → Settings} {s : Settings}
    {fallback : α} {k : Settings → Except SettingsError β} {k' : α → Except SettingsError β}
    (keeps : set s fallback = s) (next : ∀ x, k (set s x) = k' x) :
    readInto lookup key read set s >>= k = readVar read fallback (lookup key) >>= k' := by
  unfold readInto
  cases lookup key with
  | none =>
    show k s = k' fallback
    rw [← next, keeps]
  | some value =>
    show (read value >>= fun x => pure (set s x)) >>= k = read value >>= k'
    simp only [bind_assoc, pure_bind, next]

end OneVariable

/-! ## The variables on their own -/

variable {lookup : String → Option String}

/-- The variables describe settings exactly when each one reads to its field. -/
theorem described_eq_ok_iff {s : Settings} :
    described lookup = .ok s ↔
      readVar (durationVar "TD_RECEIVE_TIMEOUT") default.receiveTimeout
          (lookup "TD_RECEIVE_TIMEOUT") = .ok s.receiveTimeout ∧
      readVar (durationVar "TD_SEND_TIMEOUT") default.sendTimeout
          (lookup "TD_SEND_TIMEOUT") = .ok s.sendTimeout ∧
      readVar (durationVar "TD_SETTLE_DELAY") default.settleDelay
          (lookup "TD_SETTLE_DELAY") = .ok s.settleDelay ∧
      readVar (durationVar "TD_AUTH_RETRY_DELAY") default.authRetryDelay
          (lookup "TD_AUTH_RETRY_DELAY") = .ok s.authRetryDelay ∧
      readVar (countVar "TD_LISTENER_CAPACITY") default.listenerCapacity
          (lookup "TD_LISTENER_CAPACITY") = .ok s.listenerCapacity ∧
      readVar (countVar "TD_DELIVERY_BUFFER") default.deliveryBuffer
          (lookup "TD_DELIVERY_BUFFER") = .ok s.deliveryBuffer ∧
      readVar policyVar default.overflowPolicy (lookup "TD_OVERFLOW_POLICY") = .ok s.overflowPolicy := by
  simp only [described, bind_eq_ok, pure, Except.pure, Except.ok.injEq]
  constructor
  · rintro ⟨_, h1, _, h2, _, h3, _, h4, _, h5, _, h6, _, h7, rfl⟩
    exact ⟨h1, h2, h3, h4, h5, h6, h7⟩
  · rintro ⟨h1, h2, h3, h4, h5, h6, h7⟩
    exact ⟨_, h1, _, h2, _, h3, _, h4, _, h5, _, h6, _, h7, rfl⟩

/-- Only the seven variables are looked up. -/
theorem described_congr {other : String → Option String}
    (same : ∀ name ∈ variableNames, other name = lookup name) : described other = described lookup := by
  simp only [variableNames, List.mem_cons, List.not_mem_nil, or_false, forall_eq_or_imp,
    forall_eq] at same
  obtain ⟨h1, h2, h3, h4, h5, h6, h7⟩ := same
  simp only [described, h1, h2, h3, h4, h5, h6, h7]

/-- A refusal is that of a variable that is set, under its name. -/
theorem described_error {e : SettingsError} (h : described lookup = .error e) :
    ∃ name ∈ variableNames, ∃ value reason, lookup name = some value ∧ e = .invalidValue name reason := by
  -- the refusal comes from the first read that fails
  have named : ∀ {α : Type} (name : String) {read : String → Except SettingsError α} {fallback : α},
      name ∈ variableNames → (∀ {value}, read value = .error e → ∃ reason, e = .invalidValue name reason) →
      readVar read fallback (lookup name) = .error e →
      ∃ name ∈ variableNames, ∃ value reason, lookup name = some value ∧ e = .invalidValue name reason := by
    intro α name read fallback mem refuses failed
    obtain ⟨value, set, refused⟩ := readVar_error failed
    obtain ⟨reason, rfl⟩ := refuses refused
    exact ⟨name, mem, value, reason, set, rfl⟩
  simp only [described, bind_eq_error] at h
  rcases h with h | ⟨_, -, h | ⟨_, -, h | ⟨_, -, h | ⟨_, -, h | ⟨_, -, h | ⟨_, -, h | ⟨_, -, h⟩⟩⟩⟩⟩⟩⟩
  · exact named "TD_RECEIVE_TIMEOUT" (by simp [variableNames]) durationVar_error h
  · exact named "TD_SEND_TIMEOUT" (by simp [variableNames]) durationVar_error h
  · exact named "TD_SETTLE_DELAY" (by simp [variableNames]) durationVar_error h
  · exact named "TD_AUTH_RETRY_DELAY" (by simp [variableNames]) durationVar_error h
  · exact named "TD_LISTENER_CAPACITY" (by simp [variableNames]) countVar_error h
  · exact named "TD_DELIVERY_BUFFER" (by simp [variableNames]) countVar_error h
  · exact named "TD_OVERFLOW_POLICY" (by simp [variableNames]) policyVar_error h
  · cases h

/-! ## All the variables -/

/-- Reading the variables one after the other into the same settings is reading each on its own,
then checking what was read. -/
theorem fromLookup_eq (lookup : String → Option String) :
    fromLookup lookup = described lookup >>= fun s => s.validate >>= fun _ => pure s := by
  simp only [fromLookup, described, bind_assoc, pure_bind]
  -- each step reads into a field that still holds its default
  refine readInto_bind rfl fun receiveTimeout => ?_
  refine readInto_bind rfl fun sendTimeout => ?_
  refine readInto_bind rfl fun settleDelay => ?_
  refine readInto_bind rfl fun authRetryDelay => ?_
  refine readInto_bind rfl fun listenerCapacity => ?_
  refine readInto_bind rfl fun deliveryBuffer => ?_
  refine readInto_bind rfl fun overflowPolicy => ?_
  rfl

/-- Settings come back from the variables exactly when the variables describe them and they pass
the checks. -/
theorem fromLookup_eq_ok_iff {s : Settings} :
    fromLookup lookup = .ok s ↔ described lookup = .ok s ∧ s.validate = .ok () := by
  rw [fromLookup_eq, bind_eq_ok]
  constructor
  · rintro ⟨read, described, checked⟩
    obtain ⟨_, valid, same⟩ := bind_eq_ok.1 checked
    cases Except.ok.inj same
    exact ⟨described, valid⟩
  · rintro ⟨described, valid⟩
    exact ⟨s, described, by rw [valid]; rfl⟩

/-- The variables are refused with the first variable's refusal, or else with the first failed
check of what they describe. -/
theorem fromLookup_eq_error_iff {e : SettingsError} :
    fromLookup lookup = .error e ↔
      described lookup = .error e ∨ ∃ s, described lookup = .ok s ∧ s.validate = .error e := by
  rw [fromLookup_eq, bind_eq_error]
  refine or_congr Iff.rfl (exists_congr fun s => and_congr Iff.rfl ?_)
  rw [bind_eq_error]
  simp [pure, Except.pure]

/-- The default settings pass the checks. -/
theorem validate_default : default.validate = .ok () := rfl

/-- With none of the variables set, the settings are the defaults. -/
theorem fromLookup_of_unset (unset : ∀ name ∈ variableNames, lookup name = none) :
    fromLookup lookup = .ok default := by
  have same : described lookup = described fun _ => none := described_congr unset
  rw [fromLookup_eq, same]
  rfl

/-- Settings from variables: only the seven variables are looked up; settings come back exactly
when every variable that is set reads and the settings read pass the checks, each field being
its variable's value or, when unset, its default; otherwise the error is the refusal of the
first variable, in the order of `variableNames`, whose value does not read, which names that
variable, or else the first failed check of the settings read. -/
theorem fromLookup_reads_each_variable (lookup : String → Option String) :
    (∀ other : String → Option String, (∀ name ∈ variableNames, other name = lookup name) →
      fromLookup other = fromLookup lookup) ∧
    (∀ s, fromLookup lookup = .ok s ↔ described lookup = .ok s ∧ s.validate = .ok ()) ∧
    (∀ e, fromLookup lookup = .error e ↔
      described lookup = .error e ∨ ∃ s, described lookup = .ok s ∧ s.validate = .error e) ∧
    (∀ e, described lookup = .error e → ∃ name ∈ variableNames, ∃ value reason,
      lookup name = some value ∧ e = .invalidValue name reason) := by
  refine ⟨fun other same => ?_, fun _ => fromLookup_eq_ok_iff, fun _ => fromLookup_eq_error_iff,
    fun _ => described_error⟩
  rw [fromLookup_eq, fromLookup_eq, described_congr same]

end Settings

end Switchboard
