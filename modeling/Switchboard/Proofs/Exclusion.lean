import Switchboard.Engine.Shared

/-!
# The turnstile keeps the engine's calls apart

Every run of a shared handle keeps `Shared.Inv`: a call holds the turnstile exactly while it is
past the turnstile and not yet returned, so a call that returned without a message or a guard has
let it go; the engine was destroyed at most once, and exactly when the flag is set; and no send
is inside the engine once the flag is set, since destroying waits for every send to leave and a
send that comes later reads the flag.

Runs without the unsynchronized destroy keep `Shared.Exclusive` as well: every destroy holds the
turnstile, a message's text is the engine's buffer for as long as the message holds the
turnstile, and no receive or run in place is inside the engine once it is destroyed. So the
engine's receive, run in place and destroy never overlap one another, and never run while a
message or a guard is alive.

Each is proved move by move (`Inv.step`, `Exclusive.step`) and then for every run.
-/

namespace Switchboard

namespace Handle

/-- Whether a phase holds the turnstile. -/
def Phase.holdsTurnstile : Phase → Bool
  | .checking _ | .inEngine _ | .destroying true | .inDestroy true => true
  | _ => false

/-- Whether a phase is inside the engine's receive, run in place or destroy, the calls that
invalidate the engine's buffer. -/
def Phase.inEngineCall : Phase → Bool
  | .inEngine _ | .inDestroy _ => true
  | _ => false

/-- Whether a move is anything but the unsynchronized destroy. -/
def Move.synchronized : Move → Bool
  | .destroyUnsynchronized _ => false
  | _ => true

namespace Shared

variable {s : Shared} {t u : Nat}

/-! ## Moving one thread -/

@[simp] theorem set_phase (p : Phase) : (s.set t p).phase u = if u = t then p else s.phase u :=
  rfl

@[simp] theorem set_threads (p : Phase) : (s.set t p).threads = s.threads := rfl

@[simp] theorem set_turnstile (p : Phase) : (s.set t p).turnstile = s.turnstile := rfl

@[simp] theorem set_destroyed (p : Phase) : (s.set t p).destroyed = s.destroyed := rfl

@[simp] theorem set_buffer (p : Phase) : (s.set t p).buffer = s.buffer := rfl

@[simp] theorem set_destroyCount (p : Phase) : (s.set t p).destroyCount = s.destroyCount := rfl

@[simp] theorem set_dropped (p : Phase) : (s.set t p).dropped = s.dropped := rfl

@[simp] theorem finish_phase (a : Answer) :
    (s.finish t a).phase u = if u = t then .idle else s.phase u := rfl

@[simp] theorem finish_last (a : Answer) :
    (s.finish t a).last u = if u = t then some a else s.last u := rfl

@[simp] theorem finish_threads (a : Answer) : (s.finish t a).threads = s.threads := rfl

@[simp] theorem finish_turnstile (a : Answer) : (s.finish t a).turnstile = s.turnstile := rfl

@[simp] theorem finish_destroyed (a : Answer) : (s.finish t a).destroyed = s.destroyed := rfl

@[simp] theorem finish_buffer (a : Answer) : (s.finish t a).buffer = s.buffer := rfl

@[simp] theorem finish_destroyCount (a : Answer) :
    (s.finish t a).destroyCount = s.destroyCount := rfl

@[simp] theorem finish_dropped (a : Answer) : (s.finish t a).dropped = s.dropped := rfl

theorem reading_eq_false_iff : s.reading = false ↔ ∀ u < s.threads, s.phase u ≠ .inSend := by
  simp [reading]

theorem writing_eq_false_iff :
    s.writing = false ↔ ∀ u < s.threads, ∀ synced, s.phase u ≠ .inDestroy synced := by
  simp only [writing, List.any_eq_false, List.mem_range, Bool.or_eq_true, beq_iff_eq, not_or]
  constructor
  · intro none u below synced
    cases synced
    · exact (none u below).2
    · exact (none u below).1
  · intro none u below
    exact ⟨none u below true, none u below false⟩

theorem quiet_iff : s.quiet = true ↔ ∀ u < s.threads, s.phase u = .idle := by
  simp [quiet]

/-! ## What every run keeps -/

/-- What every run keeps (module doc). -/
structure Inv (s : Shared) : Prop where
  /-- Threads that do not exist never move. -/
  outside : ∀ u, s.threads ≤ u → s.phase u = .idle
  holder : ∀ u, s.turnstile = .call u ↔ (s.phase u).holdsTurnstile = true
  count : s.destroyCount = if s.destroyed then 1 else 0
  sends : s.destroyed = true → ∀ u, s.phase u ≠ .inSend

theorem inv_new (threads : Nat) : (new threads).Inv where
  outside := fun _ _ => rfl
  holder := fun _ => by simp [new, Phase.holdsTurnstile]
  count := rfl
  sends := fun destroyed => by simp [new] at destroyed

/-- No call holds a turnstile that is free, or that a message or a guard holds. -/
theorem Inv.not_holds (inv : s.Inv) (notCall : ∀ v, s.turnstile ≠ .call v) (u : Nat) :
    (s.phase u).holdsTurnstile = false := by
  cases holds : (s.phase u).holdsTurnstile
  · rfl
  · exact absurd ((inv.holder u).mpr holds) (notCall u)

/-- A call whose phase does not hold the turnstile holds it not. -/
theorem Inv.not_call (inv : s.Inv) (notHolding : (s.phase u).holdsTurnstile = false) :
    s.turnstile ≠ .call u := fun holding => by
  simpa [notHolding] using (inv.holder u).mp holding

/-- Thread `t` moves to phase `p` while the turnstile goes to `holder`. The invariant holds again
when the turnstile still goes with the phases that hold it and no send enters a destroyed engine;
every move of one thread is a case of this. -/
theorem Inv.update (inv : s.Inv) {p : Phase} (holder : Holder) (exists_ : t < s.threads ∨ p = .idle)
    (holds : ∀ u, holder = .call u ↔ (if u = t then p else s.phase u).holdsTurnstile = true)
    (send : s.destroyed = true → p ≠ .inSend) :
    ({ s.set t p with turnstile := holder } : Shared).Inv where
  outside := fun u above => by
    have above : s.threads ≤ u := above
    by_cases mover : u = t
    · rcases exists_ with below | idle
      · omega
      · simp [mover, idle]
    · simpa [mover] using inv.outside u above
  holder := fun u => by simpa using holds u
  count := inv.count
  sends := fun destroyed u => by
    by_cases mover : u = t
    · simpa [mover] using send destroyed
    · simpa [mover] using inv.sends destroyed u

/-- A thread moves between two phases that both hold the turnstile or both do not. -/
theorem Inv.set (inv : s.Inv) {p : Phase} (exists_ : t < s.threads)
    (same : p.holdsTurnstile = (s.phase t).holdsTurnstile)
    (send : s.destroyed = true → p ≠ .inSend) : (s.set t p).Inv :=
  inv.update s.turnstile (.inl exists_) (fun u => by
    by_cases mover : u = t
    · subst mover
      simpa [same] using inv.holder u
    · simpa [mover] using inv.holder u) send

/-- A thread takes the free turnstile. -/
theorem Inv.take (inv : s.Inv) {p : Phase} (exists_ : t < s.threads) (free : s.turnstile = .free)
    (holds : p.holdsTurnstile = true) (send : p ≠ .inSend) :
    ({ s.set t p with turnstile := .call t } : Shared).Inv :=
  inv.update (.call t) (.inl exists_) (fun u => by
    by_cases mover : u = t
    · simp [mover, holds]
    · simp [mover, Ne.symm mover, inv.not_holds (by simp [free]) u]) fun _ => send

/-- The thread holding the turnstile returns, handing the turnstile to `holder`, which is no
call. -/
theorem Inv.letGo (inv : s.Inv) (holding : s.turnstile = .call t) (a : Answer) (holder : Holder)
    (notCall : ∀ v, holder ≠ .call v) :
    ({ s.finish t a with turnstile := holder } : Shared).Inv :=
  have moved := inv.update (t := t) (p := .idle) holder (.inr rfl) (fun u => by
    by_cases mover : u = t
    · simp [mover, notCall, Phase.holdsTurnstile]
    · -- another call held no turnstile that this one held
      have other : (s.phase u).holdsTurnstile = false :=
        Bool.eq_false_iff.mpr fun holds => mover (Holder.call.inj (by
          rw [← holding, (inv.holder u).mpr holds]))
      simp [mover, notCall, other]) (by simp)
  ⟨moved.outside, moved.holder, moved.count, moved.sends⟩

/-- A thread that does not hold the turnstile returns. -/
theorem Inv.finish (inv : s.Inv) (notHolding : (s.phase t).holdsTurnstile = false) (a : Answer) :
    (s.finish t a).Inv :=
  have moved := inv.update (t := t) (p := .idle) s.turnstile (.inr rfl) (fun u => by
    by_cases mover : u = t
    · subst mover
      simp [inv.not_call notHolding, Phase.holdsTurnstile]
    · simpa [mover] using inv.holder u) (by simp)
  ⟨moved.outside, moved.holder, moved.count, moved.sends⟩

/-- The turnstile passes from no call to no call. -/
theorem Inv.hand (inv : s.Inv) (notCall : ∀ v, s.turnstile ≠ .call v) (holder : Holder)
    (notCall' : ∀ v, holder ≠ .call v) : ({ s with turnstile := holder } : Shared).Inv where
  outside := inv.outside
  holder := fun u => by simpa [notCall'] using inv.not_holds notCall u
  count := inv.count
  sends := inv.sends

/-- The buffer is no part of the invariant. -/
theorem Inv.buffer (inv : s.Inv) (text : Option String) :
    ({ s with buffer := text } : Shared).Inv :=
  ⟨inv.outside, inv.holder, inv.count, inv.sends⟩

theorem Inv.start (inv : s.Inv) {p : Phase} (free : p.holdsTurnstile = false)
    (send : p ≠ .inSend) : (s.start t p).Inv := by
  unfold Shared.start
  split
  · rename_i ready
    exact inv.set ready.1 (by rw [ready.2.1, free]; rfl) fun _ => send
  · exact inv

/-- Destroying enters the engine's destroy: no send is inside, and the engine was not destroyed
before. -/
theorem Inv.enterDestroy (inv : s.Inv) (synced : Bool)
    (destroying : s.phase t = .destroying synced) (exists_ : t < s.threads)
    (noSend : s.reading = false) (live : s.destroyed = false) :
    ({ s.set t (.inDestroy synced) with
        destroyed := true, destroyCount := s.destroyCount + 1, buffer := none } : Shared).Inv :=
  have moved := inv.set exists_ (p := .inDestroy synced)
    (by cases synced <;> simp [destroying, Phase.holdsTurnstile]) (by simp)
  { outside := moved.outside
    holder := moved.holder
    count := by simp [inv.count, live]
    sends := fun _ u => by
      -- the exclusive lock waited for every send to leave the engine
      by_cases mover : u = t
      · simp [mover]
      · by_cases below : u < s.threads
        · simpa [mover] using reading_eq_false_iff.mp noSend u below
        · simp [mover, inv.outside u (by omega)] }

/-- A destroy leaves the engine's destroy, or finds it destroyed already, and returns. -/
theorem Inv.leaveDestroy (inv : s.Inv) (synced : Bool)
    (destroying : s.phase t = .destroying synced ∨ s.phase t = .inDestroy synced) :
    ({ s.finish t .done with turnstile := (if synced then .free else s.turnstile) } :
      Shared).Inv := by
  have holds : (s.phase t).holdsTurnstile = synced := by
    rcases destroying with now | now <;> cases synced <;> simp [now, Phase.holdsTurnstile]
  cases synced with
  | true => exact inv.letGo ((inv.holder t).mpr holds) .done .free (by simp)
  | false => exact inv.finish holds .done

theorem Inv.advance (inv : s.Inv) (t : Nat) : (s.advance t).Inv := by
  by_cases exists_ : t < s.threads
  case neg =>
    -- a thread that does not exist is idle
    simp [Shared.advance, inv.outside t (by omega)]
    exact inv
  unfold Shared.advance
  split
  · rename_i sending
    split
    · exact inv
    · split
      · exact inv.finish (by simp [sending, Phase.holdsTurnstile]) _
      · rename_i live
        exact inv.set exists_ (by simp [sending, Phase.holdsTurnstile]) (by simp [live])
  · rename_i inSend
    exact inv.finish (by simp [inSend, Phase.holdsTurnstile]) _
  · rename_i call queued
    split
    · rename_i free
      split
      · exact (inv.finish (by simp [queued, Phase.holdsTurnstile]) _).hand (by simp [free]) .guard
          (by simp)
      · exact inv.take exists_ free (by simp [Phase.holdsTurnstile]) (by simp)
      · exact inv.take exists_ free (by simp [Phase.holdsTurnstile]) (by simp)
    · exact inv
  · rename_i call checking
    have holding : s.turnstile = .call t :=
      (inv.holder t).mpr (by simp [checking, Phase.holdsTurnstile])
    split
    · exact inv
    · split
      · exact inv.letGo holding _ .free (by simp)
      · exact (inv.set exists_ (by simp [checking, Phase.holdsTurnstile]) (by simp)).buffer none
  · rename_i synced destroying
    split
    · exact inv
    · split
      · exact inv.leaveDestroy synced (.inl destroying)
      · rename_i busy live
        exact inv.enterDestroy synced destroying exists_ (by simp_all) (by simpa using live)
  · rename_i synced inDestroy
    exact inv.leaveDestroy synced (.inr inDestroy)
  · exact inv
  · exact inv

theorem Inv.answer (inv : s.Inv) (t : Nat) (result : Option String) :
    (s.answer t result).Inv := by
  unfold Shared.answer
  split
  · rename_i call text inEngine
    have holding : s.turnstile = .call t :=
      (inv.holder t).mpr (by simp [inEngine, Phase.holdsTurnstile])
    exact (inv.letGo holding (.message text) (.message text) (by simp)).buffer (some text)
  · rename_i typeName inEngine
    have holding : s.turnstile = .call t :=
      (inv.holder t).mpr (by simp [inEngine, Phase.holdsTurnstile])
    exact inv.letGo holding (.refused (.rejected typeName)) .free (by simp)
  · rename_i call _ inEngine
    have holding : s.turnstile = .call t :=
      (inv.holder t).mpr (by simp [inEngine, Phase.holdsTurnstile])
    exact inv.letGo holding .timedOut .free (by simp)
  · exact inv

theorem Inv.drop (inv : s.Inv) : (s.step .drop).Inv := by
  simp only [step]
  split
  · rename_i ready
    split
    · -- no call is in progress and the turnstile is free: the engine is destroyed now
      rename_i now
      refine ⟨inv.outside, inv.holder, by simp [inv.count, now.1], fun _ u => ?_⟩
      by_cases below : u < s.threads
      · simp [quiet_iff.mp ready.2 u below]
      · simp [inv.outside u (by omega)]
    · exact ⟨inv.outside, inv.holder, inv.count, inv.sends⟩
  · exact inv

theorem Inv.step (inv : s.Inv) : ∀ move : Move, (s.step move).Inv
  | .send _ => inv.start rfl (by simp)
  | .receive _ => inv.start rfl (by simp)
  | .execute _ _ => inv.start rfl (by simp)
  | .lock _ => inv.start rfl (by simp)
  | .destroy _ => inv.start rfl (by simp)
  | .destroyUnsynchronized _ => inv.start rfl (by simp)
  | .advance t => inv.advance t
  | .answer t result => inv.answer t result
  | .release => by
      simp only [Shared.step]
      split
      · exact inv.hand (by simp [*]) .free (by simp)
      · exact inv.hand (by simp [*]) .free (by simp)
      · exact inv
      · exact inv
  | .drop => inv.drop

@[simp] theorem run_nil : s.run [] = s := rfl

@[simp] theorem run_cons (move : Move) (moves : List Move) :
    s.run (move :: moves) = (s.step move).run moves := rfl

theorem Inv.run (inv : s.Inv) (moves : List Move) : (s.run moves).Inv := by
  induction moves generalizing s with
  | nil => exact inv
  | cons move rest ih => exact ih (inv.step move)

/-! ## Without the unsynchronized destroy -/

/-- What runs without the unsynchronized destroy keep as well (module doc). -/
structure Exclusive (s : Shared) : Prop where
  synced : ∀ u, s.phase u ≠ .destroying false ∧ s.phase u ≠ .inDestroy false
  message : ∀ text, s.turnstile = .message text → s.buffer = some text
  entered : s.destroyed = true → ∀ u call, s.phase u ≠ .inEngine call

theorem exclusive_new (threads : Nat) : (new threads).Exclusive where
  synced := fun _ => by simp [new]
  message := fun _ message => by simp [new] at message
  entered := fun destroyed => by simp [new] at destroyed

theorem Exclusive.set (ex : s.Exclusive) {p : Phase}
    (synced : p ≠ .destroying false ∧ p ≠ .inDestroy false)
    (entered : s.destroyed = true → ∀ call, p ≠ .inEngine call) : (s.set t p).Exclusive where
  synced := fun u => by
    by_cases mover : u = t
    · simpa [mover] using synced
    · simpa [mover] using ex.synced u
  message := ex.message
  entered := fun destroyed u call => by
    by_cases mover : u = t
    · simpa [mover] using entered destroyed call
    · simpa [mover] using ex.entered destroyed u call

theorem Exclusive.finish (ex : s.Exclusive) (a : Answer) : (s.finish t a).Exclusive :=
  have idle := ex.set (t := t) (p := .idle) (by simp) (by simp)
  ⟨idle.synced, idle.message, idle.entered⟩

/-- The turnstile goes to no message. -/
theorem Exclusive.hand (ex : s.Exclusive) (holder : Holder)
    (notMessage : ∀ text, holder ≠ .message text) :
    ({ s with turnstile := holder } : Shared).Exclusive :=
  ⟨ex.synced, fun text holding => absurd holding (notMessage text), ex.entered⟩

theorem Exclusive.advance (inv : s.Inv) (ex : s.Exclusive) (t : Nat) : (s.advance t).Exclusive := by
  unfold Shared.advance
  split
  · split
    · exact ex
    · split
      · exact ex.finish _
      · exact ex.set (by simp) (by simp)
  · exact ex.finish _
  · rename_i call queued
    split
    · split
      · exact (ex.finish _).hand .guard (by simp)
      · exact (ex.set (by simp) (by simp)).hand (.call t) (by simp)
      · exact (ex.set (by simp) (by simp)).hand (.call t) (by simp)
    · exact ex
  · rename_i call checking
    have holding : s.turnstile = .call t :=
      (inv.holder t).mpr (by simp [checking, Phase.holdsTurnstile])
    split
    · exact ex
    · split
      · exact (ex.finish _).hand .free (by simp)
      · rename_i live
        -- the engine's receive or run in place invalidates the buffer, which no message reads
        have entering := ex.set (t := t) (p := .inEngine call) (by simp) (by simp [live])
        exact ⟨entering.synced, fun text message => by simp [holding] at message,
          entering.entered⟩
  · rename_i synced destroying
    -- every destroy holds the turnstile
    have synced : synced = true := by
      cases synced
      · exact absurd destroying (ex.synced t).1
      · rfl
    subst synced
    have holding : s.turnstile = .call t :=
      (inv.holder t).mpr (by simp [destroying, Phase.holdsTurnstile])
    split
    · exact ex
    · split
      · exact (ex.finish _).hand .free (by simp)
      · -- no receive or run in place is inside the engine: it would hold the turnstile
        refine ⟨(ex.set (t := t) (p := .inDestroy true) (by simp) (by simp)).synced,
          fun text message => by simp [holding] at message, fun _ u call => ?_⟩
        by_cases mover : u = t
        · simp [mover]
        · intro inEngine
          have other : s.turnstile = .call u :=
            (inv.holder u).mpr (by simp [mover] at inEngine; simp [inEngine, Phase.holdsTurnstile])
          rw [holding] at other
          exact mover (Holder.call.inj other).symm
  · rename_i synced inDestroy
    have synced : synced = true := by
      cases synced
      · exact absurd inDestroy (ex.synced t).2
      · rfl
    subst synced
    exact (ex.finish _).hand .free (by simp)
  · exact ex
  · exact ex

theorem Exclusive.answer (ex : s.Exclusive) (t : Nat) (result : Option String) :
    (s.answer t result).Exclusive := by
  unfold Shared.answer
  split
  · rename_i call text inEngine
    -- the message's text is the buffer's
    have finished := ex.finish (t := t) (.message text)
    exact ⟨finished.synced, fun other message => by simp_all, finished.entered⟩
  · exact (ex.finish _).hand .free (by simp)
  · exact (ex.finish _).hand .free (by simp)
  · exact ex

theorem Exclusive.drop (inv : s.Inv) (ex : s.Exclusive) : (s.step .drop).Exclusive := by
  simp only [step]
  split
  · rename_i ready
    split
    · rename_i now
      refine ⟨ex.synced, fun text message => by simp [now.2] at message, fun _ u call => ?_⟩
      by_cases below : u < s.threads
      · simp [quiet_iff.mp ready.2 u below]
      · simp [inv.outside u (by omega)]
    · exact ⟨ex.synced, ex.message, ex.entered⟩
  · exact ex

theorem Exclusive.step (inv : s.Inv) (ex : s.Exclusive) :
    ∀ move : Move, move.synchronized = true → (s.step move).Exclusive
  | .send _, _ | .receive _, _ | .execute _ _, _ | .lock _, _ | .destroy _, _ => by
      simp only [Shared.step, Shared.start]
      split
      · exact ex.set (by simp) (by simp)
      · exact ex
  | .advance t, _ => ex.advance inv t
  | .answer t result, _ => ex.answer t result
  | .release, _ => by
      simp only [Shared.step]
      split
      · exact ex.hand .free (by simp)
      · exact ex.hand .free (by simp)
      · exact ex
      · exact ex
  | .drop, _ => ex.drop inv

/-- Runs without the unsynchronized destroy keep both invariants. -/
theorem Exclusive.run (inv : s.Inv) (ex : s.Exclusive) (moves : List Move)
    (synchronized : ∀ move ∈ moves, move.synchronized = true) :
    (s.run moves).Inv ∧ (s.run moves).Exclusive := by
  induction moves generalizing s with
  | nil => exact ⟨inv, ex⟩
  | cons move rest ih =>
      exact ih (inv.step move) (ex.step inv move (synchronized move (by simp)))
        fun other member => synchronized other (by simp [member])

/-! ## What the invariants say -/

theorem Inv.destroyCount_le (inv : s.Inv) : s.destroyCount ≤ 1 := by
  rw [inv.count]
  split <;> omega

theorem Inv.destroyCount_eq_one_iff (inv : s.Inv) : s.destroyCount = 1 ↔ s.destroyed = true := by
  rw [inv.count]
  cases s.destroyed <;> simp

/-- Letting go of the handle destroys the engine only when the turnstile is free and no call is in
progress. -/
theorem Inv.drop_destroys (inv : s.Inv) (destroys : (s.step .drop).destroyCount ≠ s.destroyCount) :
    s.turnstile = .free ∧ ∀ u, s.phase u = .idle := by
  simp only [Shared.step] at destroys
  split at destroys
  · rename_i ready
    split at destroys
    · rename_i now
      refine ⟨now.2, fun u => ?_⟩
      by_cases below : u < s.threads
      · exact quiet_iff.mp ready.2 u below
      · exact inv.outside u (by omega)
    · exact absurd rfl destroys
  · exact absurd rfl destroys

theorem step_destroyed (destroyed : s.destroyed = true) (move : Move) :
    (s.step move).destroyed = true := by
  -- no move clears the flag: each branch keeps it or sets it
  cases move
  all_goals
    simp only [Shared.step, Shared.start, Shared.advance, Shared.answer]
    repeat' split
    all_goals simp [destroyed]

theorem run_destroyed (destroyed : s.destroyed = true) (moves : List Move) :
    (s.run moves).destroyed = true := by
  induction moves generalizing s with
  | nil => exact destroyed
  | cons move rest ih => exact ih (step_destroyed destroyed move)

/-- Once the engine is destroyed, a send or a receive or run in place that reads the flag
returns `destroyed`; it may first wait for a destroy to leave the engine. -/
theorem advance_of_destroyed (destroyed : s.destroyed = true)
    (reads : s.phase t = .sending ∨ ∃ call, s.phase t = .checking call) :
    s.advance t = s ∨
      ((s.advance t).phase t = .idle ∧ (s.advance t).last t = some (.refused .destroyed)) := by
  rcases reads with sending | ⟨call, checking⟩
  · by_cases writing : s.writing
    · simp [Shared.advance, sending, writing]
    · simp [Shared.advance, sending, writing, destroyed]
  · by_cases writing : s.writing
    · simp [Shared.advance, checking, writing]
    · simp [Shared.advance, checking, writing, destroyed]

/-- Without the unsynchronized destroy, a thread inside the engine's receive, run in place or
destroy holds the turnstile. -/
theorem Exclusive.holding (inv : s.Inv) (ex : s.Exclusive)
    (inside : (s.phase u).inEngineCall = true) : s.turnstile = .call u := by
  apply (inv.holder u).mpr
  cases phase : s.phase u with
  | inEngine call => simp [Phase.holdsTurnstile]
  | inDestroy synced =>
      cases synced
      · exact absurd phase (ex.synced u).2
      · simp [Phase.holdsTurnstile]
  | _ => simp [phase, Phase.inEngineCall] at inside

/-- Without the unsynchronized destroy, no two of the engine's receive, run in place and destroy
overlap. -/
theorem Exclusive.alone (inv : s.Inv) (ex : s.Exclusive) {v : Nat} (other : u ≠ v)
    (inside : (s.phase u).inEngineCall = true) : (s.phase v).inEngineCall = false := by
  cases also : (s.phase v).inEngineCall
  · rfl
  · have same := (ex.holding inv inside).symm.trans (ex.holding inv also)
    exact absurd (Holder.call.inj same) other

/-- The turnstile keeps the engine's calls apart. In every state a run from a new handle reaches:
the engine's destroy was entered at most once, and exactly when the flag is set; once the flag is
set no send is inside the engine, and the flag stays set; a call that has returned holds the
turnstile no more; letting go of the handle destroys the engine only when no message or guard
holds the turnstile and no call is in progress; and a send, receive or run in place that reads
the set flag returns `destroyed` without entering the engine, after waiting for a destroy to
leave it if one is inside.

In a run without the unsynchronized destroy, besides: a thread inside the engine's receive, run
in place or destroy holds the turnstile, so no two of them overlap and none runs while a message
or a guard is alive; a message's text is the engine's buffer for as long as the message holds the
turnstile; and once the engine is destroyed no receive or run in place is inside it. -/
theorem turnstile_keeps_engine_calls_apart (threads : Nat) (moves : List Move) :
    let s := (new threads).run moves
    s.destroyCount ≤ 1 ∧ (s.destroyCount = 1 ↔ s.destroyed = true) ∧
    (s.destroyed = true → (∀ u, s.phase u ≠ .inSend) ∧
      ∀ later : List Move, (s.run later).destroyed = true) ∧
    (∀ u, s.phase u = .idle → s.turnstile ≠ .call u) ∧
    ((s.step .drop).destroyCount ≠ s.destroyCount →
      s.turnstile = .free ∧ ∀ u, s.phase u = .idle) ∧
    (s.destroyed = true → ∀ t, (s.phase t = .sending ∨ ∃ call, s.phase t = .checking call) →
      s.step (.advance t) = s ∨
        ((s.step (.advance t)).phase t = .idle ∧
          (s.step (.advance t)).last t = some (.refused .destroyed))) ∧
    ((∀ move ∈ moves, move.synchronized = true) →
      (∀ u, (s.phase u).inEngineCall = true → s.turnstile = .call u) ∧
      (∀ u v, u ≠ v → (s.phase u).inEngineCall = true → (s.phase v).inEngineCall = false) ∧
      (∀ text, s.turnstile = .message text → s.buffer = some text) ∧
      (s.destroyed = true → ∀ u call, s.phase u ≠ .inEngine call)) := by
  intro s
  have inv : s.Inv := (inv_new threads).run moves
  refine ⟨inv.destroyCount_le, inv.destroyCount_eq_one_iff,
    fun destroyed => ⟨inv.sends destroyed, run_destroyed destroyed⟩, ?_, inv.drop_destroys,
    fun destroyed _ reads => advance_of_destroyed destroyed reads, fun synchronized => ?_⟩
  · -- an idle thread's phase does not hold the turnstile
    intro u idle holding
    have holds := (inv.holder u).mp holding
    simp [idle, Phase.holdsTurnstile] at holds
  · have ex : s.Exclusive := ((exclusive_new threads).run (inv_new threads) moves synchronized).2
    exact ⟨fun _ inside => ex.holding inv inside, fun _ _ other inside => ex.alone inv other inside,
      ex.message, ex.entered⟩

/-- A receive on one thread: the message it returns holds the turnstile, and its text is the
engine's buffer. -/
theorem turnstile_keeps_engine_calls_apart_of_received_message :
    let s := (new 2).run [.receive 0, .advance 0, .advance 0, .answer 0 (some "m")]
    s.turnstile = .message "m" ∧ s.buffer = some "m" :=
  have received := (turnstile_keeps_engine_calls_apart 2
    [.receive 0, .advance 0, .advance 0, .answer 0 (some "m")]).2.2.2.2.2.2 (by decide)
  ⟨by decide, received.2.2.1 "m" (by decide)⟩

end Shared

end Handle

end Switchboard
