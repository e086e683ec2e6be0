import Mathlib
import Switchboard.Json.Record

/-!
# What a decoder does with a value in memory

A decoder run over a value in memory (`Walk`) reads the value due next. What it makes of it is
stated once per request as an *outcome* (`Gives`): run where `v` is due, the decoder succeeds
with `a` exactly when the outcome is `some a`, and then leaves the containers around `v` and the
size of the whole value as it found them. Errors are told apart from successes but not from one
another, which is all a caller that asks "is this accepted, and as what" needs.

Outcomes compose: a bind's outcome is the outcome of its first part bound to the outcome of the
rest (`Gives.bind`), a container's outcome is what its body makes of its items once none is left
over (`Drains`), and the map reader's outcome is a monadic fold of one outcome per entry, in order
(`foldEntries_drains`). From these the value reader gives back every value nesting less deep
than its fuel, as written (`rawJson_gives`).
-/

namespace Switchboard

namespace Json

mutual

/-- The number of values on the longest path into a value, the value included: how much fuel the
value reader needs for it. -/
def height : Json → Nat
  | .array items => itemsHeight items + 1
  | .object entries => entriesHeight entries + 1
  | _ => 1

/-- The greatest height of a list of items. -/
def itemsHeight : List Json → Nat
  | [] => 0
  | item :: rest => max (height item) (itemsHeight rest)

/-- The greatest height of the values of a list of entries. -/
def entriesHeight : List (String × Json) → Nat
  | [] => 0
  | (_, value) :: rest => max (height value) (entriesHeight rest)

end

theorem size_pos (v : Json) : 0 < v.size := by
  cases v <;> simp [size]

end Json

namespace Walk

variable {α β : Type}

-- Runs are stepped a whole bind at a time by `run_bind`; the layer-by-layer `ExceptT.run_bind`
-- would leave binds of the identity monad behind.
attribute [-simp] ExceptT.run_bind

theorem run_bind (x : Walk α) (f : α → Walk β) (c : TreeCursor) :
    (x >>= f).run.run c = match x.run.run c with
      | (.ok a, c') => (f a).run.run c'
      | (.error e, c') => (.error e, c') := by
  simp only [ExceptT.run_bind, StateT.run_bind]
  rcases h : x.run.run c with ⟨_ | a, c'⟩ <;> rfl

theorem run_pure (a : α) (c : TreeCursor) : (pure a : Walk α).run.run c = (.ok a, c) := rfl

theorem run_throw (e : DecodeError) (c : TreeCursor) :
    (throw e : Walk α).run.run c = (.error e, c) := rfl

theorem run_get (c : TreeCursor) : (get : Walk TreeCursor).run.run c = (.ok c, c) := rfl

theorem run_set (c c' : TreeCursor) : (set c' : Walk Unit).run.run c = (.ok (), c') := rfl

theorem run_modify (f : TreeCursor → TreeCursor) (c : TreeCursor) :
    (modify f : Walk Unit).run.run c = (.ok (), f c) := rfl

theorem run_map (f : α → β) (x : Walk α) (c : TreeCursor) :
    (f <$> x).run.run c = match x.run.run c with
      | (.ok a, c') => (.ok (f a), c')
      | (.error e, c') => (.error e, c') := by
  rw [map_eq_pure_bind, run_bind]
  rcases x.run.run c with ⟨_ | a, c'⟩ <;> rfl

section Requests

@[simp] theorem scalar_eq : (JsonSource.scalar : String → (Scalar → Except DecodeError α) → Walk α) =
    scalarRequest := rfl
@[simp] theorem value_eq : (JsonSource.value : String → (Scalar → Except DecodeError α) →
    Option (Walk α) → Option (Walk α) → Walk α) = valueRequest := rfl
@[simp] theorem nextKey_eq : (JsonSource.nextKey : Walk (Option String)) = nextKeyRequest := rfl
@[simp] theorem entry_eq (read : Walk α) : JsonSource.entry read = read := rfl
@[simp] theorem nextElement_eq : (JsonSource.nextElement : Walk Bool) = nextElementRequest := rfl
@[simp] theorem skip_eq : (JsonSource.skip : Walk Unit) = skipRequest := rfl
@[simp] theorem budget_eq : (JsonSource.budget : Walk Nat) = budgetRequest := rfl

end Requests

theorem take_due {c : TreeCursor} {v : Json} (due : c.due = some v) :
    take.run.run c = (.ok v, { c with due := none }) := by
  simp only [take, run_bind, run_get, due]
  rfl

theorem liftExcept_run (r : Except DecodeError α) (c : TreeCursor) :
    (scalarRequest.liftExcept r).run.run c = (r, c) := by
  cases r <;> rfl

theorem budget_run (c : TreeCursor) : budgetRequest.run.run c = (.ok (c.size + 1), c) := rfl

/-- Takes the next item of the innermost container: its value becomes due. -/
theorem advance_cons {c : TreeCursor} {frame : TreeFrame} {outer : List TreeFrame}
    {key : Option String} {item : Json} {more : List (Option String × Json)}
    (top : c.frames = frame :: outer) (rest : frame.rest = (key, item) :: more) :
    advance.run.run c = (.ok (some key),
      { c with due := some item,
               frames := { frame with rest := more, taken := frame.taken + 1 } :: outer }) := by
  simp only [advance, run_bind, run_get, top, rest]
  rfl

theorem advance_nil {c : TreeCursor} {frame : TreeFrame} {outer : List TreeFrame}
    (top : c.frames = frame :: outer) (rest : frame.rest = []) :
    advance.run.run c = (.ok none, c) := by
  simp only [advance, run_bind, run_get, top, rest]
  rfl

/-! ## Outcomes -/

/-- How a run ended, against the outcome `o`: a success with `a` exactly when `o = some a`,
leaving the containers around and the whole value's size as they were at `c`. -/
def Outcome (r : Except DecodeError α × TreeCursor) (c : TreeCursor) (o : Option α) : Prop :=
  match r with
  | (.ok a, c') => o = some a ∧ c'.frames = c.frames ∧ c'.size = c.size
  | (.error _, _) => o = none

/-- Run where `v` is due, `x` ends with outcome `o`. -/
def Gives (x : Walk α) (v : Json) (o : Option α) : Prop :=
  ∀ c, c.due = some v → v.size ≤ c.size → Outcome (x.run.run c) c o

/-- Run anywhere, `x` ends with outcome `o` and leaves the reader where it was: it reads
nothing. -/
def Runs (x : Walk α) (o : Option α) : Prop :=
  ∀ c, (x.run.run c).1.toOption = o ∧ (x.run.run c).2 = c

/-- The combined size of the values of a container's items. -/
def restSize (items : List (Option String × Json)) : Nat := (items.map fun e => e.2.size).sum

/-- Run inside a container whose items not yet read are `items`, `body` reads them with outcome
`o` as the container sees it: a success that leaves an item unread is a failure. -/
def Drains (body : Walk α) (items : List (Option String × Json)) (o : Option α) : Prop :=
  ∀ c frame outer, c.frames = frame :: outer → frame.rest = items → restSize items < c.size →
    match body.run.run c with
    | (.ok a, c') => ∃ frame', c'.frames = frame' :: outer ∧ c'.size = c.size ∧
        o = if frame'.rest.isEmpty then some a else none
    | (.error _, _) => o = none

theorem outcome_ok {c c' : TreeCursor} {a : α} {o : Option α}
    (outcome : Outcome (.ok a, c') c o) : o = some a ∧ c'.frames = c.frames ∧ c'.size = c.size :=
  outcome

theorem Runs.outcome {x : Walk α} {o : Option α} (runs : Runs x o) (c : TreeCursor) :
    Outcome (x.run.run c) c o := by
  obtain ⟨result, same⟩ := runs c
  rcases h : x.run.run c with ⟨e | a, c'⟩ <;> rw [h] at result same
  · exact result.symm
  · cases same
    exact ⟨result.symm, rfl, rfl⟩

theorem Runs.pure (a : α) : Runs (Pure.pure a : Walk α) (some a) := fun _ => ⟨rfl, rfl⟩

theorem Runs.throw (e : DecodeError) : Runs (throw e : Walk α) none := fun _ => ⟨rfl, rfl⟩

theorem Runs.liftExcept (r : Except DecodeError α) : Runs (scalarRequest.liftExcept r) r.toOption := by
  intro c
  rw [liftExcept_run]
  exact ⟨rfl, rfl⟩

theorem Outcome.bind {x : Walk α} {f : α → Walk β} {c : TreeCursor} {o : Option α}
    {o' : α → Option β} (first : Outcome (x.run.run c) c o)
    (rest : ∀ a, o = some a → Runs (f a) (o' a)) : Outcome ((x >>= f).run.run c) c (o.bind o') := by
  rw [run_bind]
  rcases h : x.run.run c with ⟨e | a, c₁⟩
  · rw [h] at first
    simp only [Outcome] at first ⊢
    rw [first, Option.bind_none]
  · rw [h] at first
    obtain ⟨rfl, frames₁, size₁⟩ := outcome_ok first
    have next := (rest a rfl).outcome c₁
    simp only [Option.bind_some]
    rcases h' : (f a).run.run c₁ with ⟨e | b, c₂⟩
    · rw [h'] at next
      exact next
    · rw [h'] at next
      obtain ⟨same, frames₂, size₂⟩ := outcome_ok next
      exact ⟨same, frames₂.trans frames₁, size₂.trans size₁⟩

theorem Gives.bind {x : Walk α} {f : α → Walk β} {v : Json} {o : Option α} {o' : α → Option β}
    (first : Gives x v o) (rest : ∀ a, o = some a → Runs (f a) (o' a)) :
    Gives (x >>= f) v (o.bind o') :=
  fun c due size => (first c due size).bind rest

theorem Runs.bind {x : Walk α} {f : α → Walk β} {o : Option α} {o' : α → Option β}
    (first : Runs x o) (rest : ∀ a, o = some a → Runs (f a) (o' a)) :
    Runs (x >>= f) (o.bind o') := by
  intro c
  obtain ⟨result, same⟩ := first c
  rw [run_bind]
  rcases h : x.run.run c with ⟨e | a, c₁⟩ <;> rw [h] at result same <;> dsimp only at result same ⊢
  · rw [← result]
    exact ⟨rfl, same⟩
  · cases same
    rw [← result]
    exact rest a result.symm c

/-- A part that reads nothing, then a reading of the value due. -/
theorem Gives.after {x : Walk α} {f : α → Walk β} {v : Json} {o : Option α} {o' : α → Option β}
    (first : Runs x o) (rest : ∀ a, o = some a → Gives (f a) v (o' a)) :
    Gives (x >>= f) v (o.bind o') := by
  intro c due size
  obtain ⟨result, same⟩ := first c
  rw [run_bind]
  rcases h : x.run.run c with ⟨e | a, c₁⟩ <;> rw [h] at result same <;> dsimp only at result same ⊢
  · rw [← result]
    rfl
  · cases same
    rw [← result]
    exact rest a result.symm c due size

theorem Gives.throw_bind (e : DecodeError) (f : α → Walk β) (v : Json) :
    Gives (throw e >>= f) v none := by
  intro c _ _
  rw [run_bind]
  rfl

theorem Gives.map {x : Walk α} {v : Json} {o : Option α} (f : α → β) (first : Gives x v o) :
    Gives (f <$> x) v (o.map f) := by
  rw [map_eq_pure_bind, Option.map_eq_bind]
  exact first.bind fun a _ => Runs.pure (f a)

theorem Gives.take (v : Json) : Gives take v (some v) := by
  intro c due _
  rw [take_due due]
  exact ⟨rfl, rfl, rfl⟩

theorem Gives.skip (v : Json) : Gives skipRequest v (some ()) := by
  have taken := (Gives.take v).bind fun _ _ => Runs.pure ()
  exact taken

theorem Outcome.congr {r : Except DecodeError α × TreeCursor} {c₁ c₂ : TreeCursor} {o : Option α}
    (frames : c₁.frames = c₂.frames) (size : c₁.size = c₂.size) (outcome : Outcome r c₁ o) :
    Outcome r c₂ o := by
  rcases r with ⟨e | a, c'⟩
  · exact outcome
  · obtain ⟨same, frames', size'⟩ := outcome_ok outcome
    exact ⟨same, frames'.trans frames, size'.trans size⟩

theorem Outcome.undue {r : Except DecodeError α × TreeCursor} {c : TreeCursor} {o : Option α}
    (outcome : Outcome r { c with due := none } o) : Outcome r c o :=
  Outcome.congr rfl rfl outcome

theorem Gives.of_runs {x : Walk α} {o : Option α} (runs : Runs x o) (v : Json) : Gives x v o :=
  fun c _ _ => runs.outcome c

/-! ## Containers -/

theorem restSize_cons (key : Option String) (item : Json) (items : List (Option String × Json)) :
    restSize ((key, item) :: items) = item.size + restSize items := by
  simp [restSize]

theorem length_le_restSize (items : List (Option String × Json)) : items.length ≤ restSize items := by
  induction items with
  | nil => simp [restSize]
  | cons e items ih =>
    rw [List.length_cons, restSize_cons]
    have := Json.size_pos e.2
    omega

theorem restSize_entries (entries : List (String × Json)) :
    restSize (entries.map fun (key, item) => (some key, item)) = Json.entriesSize entries := by
  induction entries with
  | nil => rfl
  | cons e entries ih =>
    rw [List.map_cons, restSize_cons, ih]
    rfl

theorem restSize_items (items : List Json) :
    restSize (items.map fun item => (none, item)) = Json.itemsSize items := by
  induction items with
  | nil => rfl
  | cons item items ih =>
    rw [List.map_cons, restSize_cons, ih]
    rfl

theorem Drains.throw (e : DecodeError) (items : List (Option String × Json)) :
    Drains (throw e : Walk α) items none :=
  fun _ _ _ _ _ _ => rfl

theorem Drains.bind {x : Walk α} {f : α → Walk β} {items : List (Option String × Json)}
    {o : Option α} {o' : α → Option β} (first : Drains x items o) (rest : ∀ a, Runs (f a) (o' a)) :
    Drains (x >>= f) items (o.bind o') := by
  intro c frame outer top same size
  have body := first c frame outer top same size
  rw [run_bind]
  rcases h : x.run.run c with ⟨e | a, c₁⟩ <;> rw [h] at body <;> dsimp only at body ⊢
  · rw [body, Option.bind_none]
  · obtain ⟨frame', frames₁, size₁, outcome⟩ := body
    have next := (rest a).outcome c₁
    rcases h' : (f a).run.run c₁ with ⟨e | b, c₂⟩ <;> rw [h'] at next <;> dsimp only at next ⊢
    · have failed : o' a = none := next
      rw [outcome]
      split <;> simp [failed]
    · obtain ⟨result, frames₂, size₂⟩ := outcome_ok next
      refine ⟨frame', frames₂.trans frames₁, size₂.trans size₁, ?_⟩
      rw [outcome]
      split <;> simp [result]

theorem Drains.map {x : Walk α} {items : List (Option String × Json)} {o : Option α} (f : α → β)
    (first : Drains x items o) : Drains (f <$> x) items (o.map f) := by
  rw [map_eq_pure_bind, Option.map_eq_bind]
  exact first.bind fun a => Runs.pure (f a)

/-- A container's outcome is what its body makes of its items. -/
theorem enter_outcome {items : List (Option String × Json)} {isMap : Bool} {body : Walk α}
    {o : Option α} (drains : Drains body items o) {c : TreeCursor} (size : restSize items < c.size) :
    Outcome ((enter items isMap body).run.run c) c o := by
  let inside : TreeCursor :=
    { c with frames := { rest := items, isMap, taken := 0 } :: c.frames }
  have body' := drains inside _ c.frames rfl rfl size
  simp only [enter, run_bind, run_modify]
  change Outcome (match body.run.run inside with
    | (.ok a, c') => _
    | (.error e, c') => (.error e, c')) c o
  rcases h : body.run.run inside with ⟨e | a, c₁⟩
  · rw [h] at body'
    exact body'
  · rw [h] at body'
    obtain ⟨frame', frames₁, size₁, outcome⟩ := body'
    simp only [run_get, frames₁]
    split
    · rename_i empty
      simp only [empty, if_true] at outcome
      exact ⟨outcome, rfl, size₁⟩
    · rename_i left
      simp only [left] at outcome
      exact outcome

theorem Gives.valueRequest_scalar {expected : String} {onScalar : Scalar → Except DecodeError α}
    {onMap onSeq : Option (Walk α)} (s : Scalar) :
    Gives (valueRequest expected onScalar onMap onSeq) s.toJson (onScalar s).toOption := by
  intro c due _
  simp only [valueRequest, run_bind, take_due due]
  apply Outcome.undue
  cases s <;> exact (Runs.liftExcept _).outcome _

theorem Gives.valueRequest_object {expected : String} {onScalar : Scalar → Except DecodeError α}
    {body : Walk α} {onSeq : Option (Walk α)} {entries : List (String × Json)} {o : Option α}
    (drains : Drains body (entries.map fun (key, item) => (some key, item)) o) :
    Gives (valueRequest expected onScalar (some body) onSeq) (.object entries) o := by
  intro c due size
  simp only [valueRequest, run_bind, take_due due, Option.getD_some]
  apply Outcome.undue
  apply enter_outcome drains
  rw [restSize_entries]
  simp only [Json.size] at size
  exact Nat.lt_of_succ_le size

theorem Gives.valueRequest_array {expected : String} {onScalar : Scalar → Except DecodeError α}
    {onMap : Option (Walk α)} {body : Walk α} {items : List Json} {o : Option α}
    (drains : Drains body (items.map fun item => (none, item)) o) :
    Gives (valueRequest expected onScalar onMap (some body)) (.array items) o := by
  intro c due size
  simp only [valueRequest, run_bind, take_due due, Option.getD_some]
  apply Outcome.undue
  apply enter_outcome drains
  rw [restSize_items]
  simp only [Json.size] at size
  exact Nat.lt_of_succ_le size

theorem Gives.valueRequest_object_none {expected : String} {onScalar : Scalar → Except DecodeError α}
    {onSeq : Option (Walk α)} (entries : List (String × Json)) :
    Gives (valueRequest expected onScalar none onSeq) (.object entries) none :=
  Gives.valueRequest_object (Drains.throw _ _)

theorem Gives.valueRequest_array_none {expected : String} {onScalar : Scalar → Except DecodeError α}
    {onMap : Option (Walk α)} (items : List Json) :
    Gives (valueRequest expected onScalar onMap none) (.array items) none :=
  Gives.valueRequest_array (Drains.throw _ _)

theorem Gives.scalar {expected : String} {accept : Scalar → Except DecodeError α}
    (v : Json) : Gives (scalarRequest expected accept) v (v.scalar?.bind fun s => (accept s).toOption) := by
  intro c due _
  simp only [Walk.scalarRequest, run_bind, take_due due]
  apply Outcome.undue
  cases v with
  | array items => exact (Runs.throw _).outcome _
  | object entries => exact (Runs.throw _).outcome _
  | null => exact (Runs.liftExcept _).outcome _
  | bool b => exact (Runs.liftExcept _).outcome _
  | number n => exact (Runs.liftExcept _).outcome _
  | string t => exact (Runs.liftExcept _).outcome _

/-! ## Maps and sequences -/

section Fold

variable {σ : Type} {step : σ → String → Walk σ} {F : σ → String × Json → Option σ}

theorem foldEntries_go_drains :
    ∀ (entries : List (String × Json)) (fuel : Nat) (acc : σ), entries.length < fuel →
      (∀ acc e, e ∈ entries → Gives (step acc e.1) e.2 (F acc e)) →
      Drains (JsonSource.foldEntries.go step fuel acc)
        (entries.map fun (key, item) => (some key, item)) (entries.foldlM F acc) := by
  intro entries
  induction entries with
  | nil =>
    intro fuel acc enough _ c frame outer top rest _
    obtain ⟨fuel, rfl⟩ : ∃ f, fuel = f + 1 := ⟨fuel - 1, by simp at enough; omega⟩
    simp only [JsonSource.foldEntries.go, run_bind, nextKey_eq, nextKeyRequest,
      advance_nil top (by simpa using rest), run_pure]
    refine ⟨frame, top, ?_⟩
    simp [rest]
  | cons e entries ih =>
    intro fuel acc enough steps c frame outer top rest size
    obtain ⟨fuel, rfl⟩ : ∃ f, fuel = f + 1 := ⟨fuel - 1, by simp at enough; omega⟩
    obtain ⟨key, item⟩ := e
    let frame₁ : TreeFrame :=
      { frame with rest := entries.map fun (key, item) => (some key, item), taken := frame.taken + 1 }
    let c₁ : TreeCursor := { c with due := some item, frames := frame₁ :: outer }
    have advanced : advance.run.run c = (.ok (some (some key)), c₁) := advance_cons top rest
    have sizes : item.size + restSize (entries.map fun (key, item) => (some key, item)) < c.size := by
      rw [← restSize_cons]
      exact size
    have first := steps acc (key, item) (List.mem_cons_self ..) c₁ rfl (by simp [c₁]; omega)
    simp only [JsonSource.foldEntries.go, run_bind, nextKey_eq, nextKeyRequest, advanced,
      run_pure, Option.getD_some]
    rw [List.foldlM_cons]
    rcases h : (step acc key).run.run c₁ with ⟨err | m, c₂⟩ <;> rw [h] at first <;> dsimp only
    · have failed : F acc (key, item) = none := first
      rw [failed]
      rfl
    · obtain ⟨result, frames₂, size₂⟩ := outcome_ok first
      rw [result]
      have later := ih fuel m (by simp at enough; omega)
        (fun acc e mem => steps acc e (List.mem_cons_of_mem _ mem)) c₂ frame₁ outer frames₂ rfl
        (by rw [size₂]; exact Nat.lt_of_le_of_lt (Nat.le_add_left _ _) sizes)
      rw [size₂] at later
      exact later

/-- The map reader folds one outcome per entry over a map's entries, in order. -/
theorem foldEntries_drains {init : σ} {entries : List (String × Json)}
    (steps : ∀ acc e, e ∈ entries → Gives (step acc e.1) e.2 (F acc e)) :
    Drains (JsonSource.foldEntries init step) (entries.map fun (key, item) => (some key, item))
      (entries.foldlM F init) := by
  intro c frame outer top rest size
  have enough : entries.length < c.size + 1 := by
    have := length_le_restSize (entries.map fun (key, item) => (some key, item))
    rw [List.length_map] at this
    omega
  simp only [JsonSource.foldEntries, run_bind, budget_eq, budget_run]
  exact foldEntries_go_drains entries (c.size + 1) init enough steps c frame outer top rest size

end Fold

section Collect

variable {read : Walk α} {G : Json → Option α}

theorem collectElements_go_drains :
    ∀ (items : List Json) (fuel : Nat) (acc : List α), items.length < fuel →
      (∀ x ∈ items, Gives read x (G x)) →
      Drains (JsonSource.collectElements.go read fuel acc) (items.map fun item => (none, item))
        ((items.mapM G).map fun found => acc.reverse ++ found) := by
  intro items
  induction items with
  | nil =>
    intro fuel acc enough _ c frame outer top rest _
    obtain ⟨fuel, rfl⟩ : ∃ f, fuel = f + 1 := ⟨fuel - 1, by simp at enough; omega⟩
    simp only [JsonSource.collectElements.go, run_bind, nextElement_eq, nextElementRequest,
      advance_nil top (by simpa using rest), run_pure]
    refine ⟨frame, top, ?_⟩
    simp [rest]
  | cons item items ih =>
    intro fuel acc enough reads c frame outer top rest size
    obtain ⟨fuel, rfl⟩ : ∃ f, fuel = f + 1 := ⟨fuel - 1, by simp at enough; omega⟩
    let frame₁ : TreeFrame :=
      { frame with rest := items.map fun item => (none, item), taken := frame.taken + 1 }
    let c₁ : TreeCursor := { c with due := some item, frames := frame₁ :: outer }
    have advanced : advance.run.run c = (.ok (some none), c₁) := advance_cons top rest
    have sizes : item.size + restSize (items.map fun item => (none, item)) < c.size := by
      rw [← restSize_cons]
      exact size
    have first := reads item (List.mem_cons_self ..) c₁ rfl (by simp [c₁]; omega)
    simp only [JsonSource.collectElements.go, run_bind, nextElement_eq, nextElementRequest,
      advanced, run_pure, Option.isSome_some, if_true]
    rw [List.mapM_cons]
    rcases h : read.run.run c₁ with ⟨err | y, c₂⟩ <;> rw [h] at first <;> dsimp only
    · have failed : G item = none := first
      rw [failed]
      rfl
    · obtain ⟨result, frames₂, size₂⟩ := outcome_ok first
      rw [result]
      have later := ih fuel (y :: acc) (by simp at enough; omega)
        (fun x mem => reads x (List.mem_cons_of_mem _ mem)) c₂ frame₁ outer frames₂ rfl
        (by rw [size₂]; exact Nat.lt_of_le_of_lt (Nat.le_add_left _ _) sizes)
      rw [size₂] at later
      cases found : items.mapM G with
      | none => rw [found] at later; exact later
      | some ys => rw [found] at later; simpa using later

/-- The sequence reader reads every item, in order. -/
theorem collectElements_drains {items : List Json} (reads : ∀ x ∈ items, Gives read x (G x)) :
    Drains (JsonSource.collectElements read) (items.map fun item => (none, item)) (items.mapM G) := by
  intro c frame outer top rest size
  have enough : items.length < c.size + 1 := by
    have := length_le_restSize (items.map fun item => (none, item))
    rw [List.length_map] at this
    omega
  simp only [JsonSource.collectElements, run_bind, budget_eq, budget_run]
  have whole := collectElements_go_drains items (c.size + 1) [] enough reads c frame outer top rest size
  simpa using whole

end Collect

/-! ## Whole values -/

theorem Json.height_pos (v : Json) : 0 < v.height := by
  cases v <;> simp [Json.height]

/-- The outcome of the value reader's step over one entry of a map. -/
def copyEntry (fuel : Nat) (acc : List (String × Json)) (e : String × Json) :
    Option (List (String × Json)) :=
  if e.2.height ≤ fuel then some (e :: acc) else none

theorem foldlM_copyEntry (fuel : Nat) :
    ∀ (entries : List (String × Json)) (acc : List (String × Json)),
      entries.foldlM (copyEntry fuel) acc =
        if Json.entriesHeight entries ≤ fuel then some (entries.reverse ++ acc) else none := by
  intro entries
  induction entries with
  | nil => intro acc; simp [Json.entriesHeight]
  | cons e entries ih =>
    intro acc
    obtain ⟨key, item⟩ := e
    by_cases fits : item.height ≤ fuel
    · simp [copyEntry, fits, ih, Json.entriesHeight]
    · simp [copyEntry, fits, Json.entriesHeight]

theorem mapM_copy (fuel : Nat) :
    ∀ items : List Json, items.mapM (fun x => if x.height ≤ fuel then some x else none) =
      if Json.itemsHeight items ≤ fuel then some items else none := by
  intro items
  induction items with
  | nil => simp [Json.itemsHeight]
  | cons item items ih =>
    by_cases fits : item.height ≤ fuel
    · simp only [List.mapM_cons, fits, if_true, ih, Json.itemsHeight, Nat.max_le, true_and]
      split <;> rfl
    · simp [List.mapM_cons, fits, Json.itemsHeight]

/-- The value reader gives back every value it has the fuel for, as written. -/
theorem rawJson_gives : ∀ (fuel : Nat) (v : Json),
    Gives (JsonSource.rawJson fuel) v (if v.height ≤ fuel then some v else none) := by
  intro fuel
  induction fuel with
  | zero =>
    intro v
    rw [if_neg (by have := Json.height_pos v; omega)]
    exact Gives.of_runs (Runs.throw _) v
  | succ fuel ih =>
    intro v
    rw [JsonSource.rawJson, value_eq]
    cases v with
    | null => rw [if_pos (by simp [Json.height])]; exact Gives.valueRequest_scalar Scalar.null
    | bool b => rw [if_pos (by simp [Json.height])]; exact Gives.valueRequest_scalar (Scalar.bool b)
    | number n => rw [if_pos (by simp [Json.height])]; exact Gives.valueRequest_scalar (Scalar.number n)
    | string t => rw [if_pos (by simp [Json.height])]; exact Gives.valueRequest_scalar (Scalar.string t)
    | object entries =>
      -- the entries are copied one by one, and the copy is turned back into the object
      have outcome : (if (Json.object entries).height ≤ fuel + 1 then some (Json.object entries) else none) =
          (entries.foldlM (copyEntry fuel) []).bind fun found => some (Json.object found.reverse) := by
        rw [foldlM_copyEntry]
        by_cases fits : Json.entriesHeight entries ≤ fuel <;> simp [Json.height, fits]
      rw [outcome]
      apply Gives.valueRequest_object
      apply Drains.bind _ fun found => Runs.pure _
      apply foldEntries_drains
      intro acc e _
      have copied : copyEntry fuel acc e =
          (if e.2.height ≤ fuel then some e.2 else none).bind fun item => some ((e.1, item) :: acc) := by
        by_cases fits : e.2.height ≤ fuel <;> simp [copyEntry, fits]
      rw [copied]
      exact (ih e.2).bind fun item _ => Runs.pure _
    | array items =>
      have outcome : (if (Json.array items).height ≤ fuel + 1 then some (Json.array items) else none) =
          (items.mapM fun x => if x.height ≤ fuel then some x else none).map Json.array := by
        rw [mapM_copy]
        by_cases fits : Json.itemsHeight items ≤ fuel <;> simp [Json.height, fits]
      rw [outcome]
      exact Gives.valueRequest_array (Drains.map _ (collectElements_drains fun x _ => ih x))

/-- A decoder run over a whole value ends as its outcome says. -/
theorem decodeTree_toOption {x : Walk α} {v : Json} {o : Option α} (gives : Gives x v o)
    (flavor : TreeFlavor) : (Json.decodeTree flavor v x).toOption = o := by
  have whole := gives { flavor, due := some v, frames := [], size := v.size } rfl (Nat.le_refl _)
  unfold Json.decodeTree
  rcases h : x.run.run { flavor, due := some v, frames := [], size := v.size } with ⟨e | a, c'⟩ <;>
    rw [h] at whole
  · exact whole.symm
  · exact (outcome_ok whole).1.symm

theorem decodeTree_eq_ok {x : Walk α} {v : Json} {o : Option α} (gives : Gives x v o)
    (flavor : TreeFlavor) {a : α} : Json.decodeTree flavor v x = .ok a ↔ o = some a := by
  rw [← decodeTree_toOption gives flavor]
  cases Json.decodeTree flavor v x <;> simp [Except.toOption]

/-! ## Records -/

theorem Runs.withDefault (current : Option α) (name : String) (default? : Option α) :
    Runs (JsonSource.withDefault current name default? : Walk α) (current.or default?) := by
  cases current with
  | some value => exact Runs.pure value
  | none =>
    cases default? with
    | some value => exact Runs.pure value
    | none => exact Runs.throw _

theorem Runs.required (current : Option α) (name : String) :
    Runs (JsonSource.required current name : Walk α) current := by
  cases current with
  | some value => exact Runs.pure value
  | none => exact Runs.throw _

theorem Gives.fieldOnce {read : Walk α} {x : Json} {o : Option α} (reads : Gives read x o)
    (current : Option α) (name : String) :
    Gives (JsonSource.fieldOnce current name read) x (if current.isSome then none else o.map some) := by
  cases current with
  | some value =>
    have failed : Gives (JsonSource.fieldOnce (some value) name read) x
        ((none : Option Unit).bind fun _ => none) :=
      Gives.after (Runs.throw _) fun _ none => by cases none
    simpa using failed
  | none =>
    have first : Gives (JsonSource.fieldOnce none name read) x ((some ()).bind fun _ => o.map some) :=
      Gives.after (Runs.pure ()) fun _ _ => reads.map some
    simpa using first


/-- The outcome of a one-field record's step over one entry: the field read once, any other entry
passed over. -/
def fieldEntry (name : String) (readOf : Json → Option α) (found : Option α) (e : String × Json) :
    Option (Option α) :=
  if e.1 = name then (if found.isSome then none else (readOf e.2).map some) else some found

/-- A record with one field, given as a map: its entries are folded for the field, which then
takes its default if it is missing. -/
theorem Gives.single_object {read : Walk α} {readOf : Json → Option α}
    (reads : ∀ x, Gives read x (readOf x)) (record name : String) (default? : Option α)
    (entries : List (String × Json)) :
    Gives (JsonSource.single record name read default?) (.object entries)
      ((entries.foldlM (fieldEntry name readOf) none).bind fun found => found.or default?) := by
  simp only [JsonSource.single, JsonSource.record, value_eq]
  apply Gives.valueRequest_object
  apply Drains.bind _ fun found => Runs.withDefault found name default?
  apply foldEntries_drains
  intro found e _
  by_cases key : e.1 = name
  · rw [if_pos key]
    simpa only [fieldEntry, key, if_true] using Gives.fieldOnce (reads e.2) found name
  · rw [if_neg key, show fieldEntry name readOf found e = some found by simp [fieldEntry, key]]
    have passed : Gives _ e.2 (some found) := (Gives.skip e.2).bind fun _ _ => Runs.pure found
    exact passed

/-- A one-field record given as a map of that field alone has the outcome its field's value
gives. -/
theorem foldlM_fieldEntry_single (name : String) (readOf : Json → Option α) (x : Json)
    (default? : Option α) :
    ([(name, x)].foldlM (fieldEntry name readOf) none).bind (fun found => found.or default?) =
      readOf x := by
  cases read : readOf x <;> simp [fieldEntry, read]

/-! ## Tagged unions -/

section Tagged

variable {τ : Type}

/-- The tag a variant identifier names, read from a value. -/
def variantTagOf (choose : String → Except DecodeError τ) : Json → Option τ
  | .string name => (choose name).toOption
  | _ => none

theorem Gives.variantTag (choose : String → Except DecodeError τ) (v : Json) :
    Gives (JsonSource.variantTag choose) v (variantTagOf choose v) := by
  unfold JsonSource.variantTag
  cases v <;> exact Gives.scalar _

/-- The outcome of a tagged union's step over one entry: the tag read once, any other entry kept
as written. -/
def tagEntry (tagKey : String) (tagOf : Json → Option τ) (fuel : Nat)
    (acc : Option τ × List (String × Json)) (e : String × Json) :
    Option (Option τ × List (String × Json)) :=
  if e.1 = tagKey then (if acc.1.isSome then none else (tagOf e.2).map fun tag => (some tag, acc.2))
  else if e.2.height ≤ fuel then some (acc.1, e :: acc.2) else none

/-- A tagged union given as a map: the entries are folded for the tag, the others kept as written
for the variant. -/
theorem Gives.tagged_object {readTag : Walk τ} {tagOf : Json → Option τ}
    (reads : ∀ x, Gives readTag x (tagOf x)) (union tagKey : String) (fuel : Nat)
    (entries : List (String × Json)) :
    Gives (JsonSource.tagged union tagKey readTag fuel) (.object entries)
      ((entries.foldlM (tagEntry tagKey tagOf fuel) (none, [])).bind fun found =>
        found.1.map fun tag => (tag, .object found.2.reverse)) := by
  simp only [JsonSource.tagged, value_eq]
  apply Gives.valueRequest_object
  apply Drains.bind
  · apply foldEntries_drains
    intro acc e _
    obtain ⟨tag?, kept⟩ := acc
    dsimp only
    by_cases key : e.1 = tagKey
    · rw [if_pos key]
      cases tag? with
      | some tag =>
        -- a second tag
        rw [if_pos Option.isSome_some, show tagEntry tagKey tagOf fuel (some tag, kept) e = none by simp [tagEntry, key]]
        exact Gives.throw_bind _ _ e.2
      | none =>
        rw [if_neg (by simp), show tagEntry tagKey tagOf fuel (none, kept) e =
            (tagOf e.2).bind fun tag => some (some tag, kept) by
          simp only [tagEntry, key, if_true, Option.isSome_none, Bool.false_eq_true, if_false]
          cases tagOf e.2 <;> rfl]
        exact (reads e.2).bind fun tag _ => Runs.pure (some tag, kept)
    · rw [if_neg key]
      have copied := (rawJson_gives fuel e.2).bind fun item _ => Runs.pure (tag?, (e.1, item) :: kept)
      by_cases fits : e.2.height ≤ fuel <;> simpa [tagEntry, key, fits] using copied
  · intro found
    obtain ⟨tag?, kept⟩ := found
    cases tag? with
    | some tag => exact Runs.pure _
    | none => exact Runs.throw _

/-- Once the tag is read, the fold meets no second one. -/
theorem foldlM_tagEntry_after {tagKey : String} {tagOf : Json → Option τ} {fuel : Nat} :
    ∀ (entries : List (String × Json)) (tag : τ) (kept : List (String × Json))
      (found : Option τ × List (String × Json)),
      entries.foldlM (tagEntry tagKey tagOf fuel) (some tag, kept) = some found →
      (∀ e ∈ entries, e.1 ≠ tagKey) ∧ found.1 = some tag := by
  intro entries
  induction entries with
  | nil =>
    intro tag kept found folded
    cases folded
    exact ⟨fun _ mem => (List.not_mem_nil mem).elim, rfl⟩
  | cons e entries ih =>
    intro tag kept found folded
    rw [List.foldlM_cons] at folded
    by_cases key : e.1 = tagKey
    · simp [tagEntry, key] at folded
    · by_cases fits : e.2.height ≤ fuel
      · simp only [tagEntry, key, if_false, fits, if_true, Option.bind_eq_bind, Option.bind_some]
          at folded
        obtain ⟨others, same⟩ := ih tag (e :: kept) found folded
        refine ⟨fun e' mem => ?_, same⟩
        rcases List.mem_cons.1 mem with rfl | later
        · exact key
        · exact others e' later
      · simp [tagEntry, key, fits] at folded

/-- A union's fold that ends with a tag read it from the map's entry under the tag's key: the last
such entry, and the only one. -/
theorem foldlM_tagEntry_found {tagKey : String} {tagOf : Json → Option τ} {fuel : Nat} :
    ∀ (entries : List (String × Json)) (kept : List (String × Json)) (tag : τ)
      (rest : List (String × Json)),
      entries.foldlM (tagEntry tagKey tagOf fuel) (none, kept) = some (some tag, rest) →
      ∃ x, (Json.object entries).get? tagKey = some x ∧ tagOf x = some tag := by
  intro entries
  induction entries with
  | nil =>
    intro kept tag rest folded
    cases folded
  | cons e entries ih =>
    intro kept tag rest folded
    rw [List.foldlM_cons] at folded
    by_cases key : e.1 = tagKey
    · -- the first tag: no other entry has the key, so it is the one the object holds
      cases read : tagOf e.2 with
      | none => simp [tagEntry, key, read] at folded
      | some first =>
        simp only [tagEntry, key, if_true, Option.isSome_none, Bool.false_eq_true, if_false, read,
          Option.map_some, Option.bind_eq_bind, Option.bind_some] at folded
        obtain ⟨others, same⟩ := foldlM_tagEntry_after entries first kept _ folded
        cases same
        refine ⟨e.2, ?_, read⟩
        have absent : (entries.reverse.find? fun entry => entry.1 == tagKey) = none :=
          List.find?_eq_none.2 fun e' mem => by simpa using others e' (List.mem_reverse.1 mem)
        simp [Json.get?, List.find?_append, absent, key]
    · by_cases fits : e.2.height ≤ fuel
      · simp only [tagEntry, key, if_false, fits, if_true, Option.bind_eq_bind, Option.bind_some]
          at folded
        obtain ⟨x, held, read⟩ := ih (e :: kept) tag rest folded
        refine ⟨x, ?_, read⟩
        simp only [Json.get?, Option.map_eq_some_iff] at held
        obtain ⟨entry, found, rfl⟩ := held
        simp [Json.get?, List.find?_append, found]
      · simp [tagEntry, key, fits] at folded

/-- A union's outcome: its tag and the rest of the value, then the variant the tag chooses read
from that rest. -/
theorem Gives.union {readTag : Walk τ} {variant : τ → Walk α} {v : Json} {o : Option (τ × Json)}
    (name tagKey : String) (fuel : Nat) (tagged : Gives (JsonSource.tagged name tagKey readTag fuel) v o) :
    Gives (JsonSource.union name tagKey readTag variant fuel) v
      (o.bind fun found => (Json.decodeTree .buffered found.2 (variant found.1)).toOption) := by
  apply tagged.bind
  intro found _
  obtain ⟨tag, rest⟩ := found
  dsimp only
  cases Json.decodeTree .buffered rest (variant tag) with
  | ok result => exact Runs.pure result
  | error problem => exact Runs.throw problem

end Tagged

/-! ## What a result is -/

/-- Every result `x` succeeds with satisfies `P`, wherever it is run. -/
def Ensures (x : Walk α) (P : α → Prop) : Prop :=
  ∀ c a c', x.run.run c = (.ok a, c') → P a

theorem Ensures.pure {P : α → Prop} {a : α} (holds : P a) : Ensures (Pure.pure a : Walk α) P := by
  intro c b c' ran
  cases ran
  exact holds

theorem Ensures.throw {P : α → Prop} (e : DecodeError) : Ensures (throw e : Walk α) P := by
  intro c b c' ran
  cases ran

theorem Ensures.bind {x : Walk α} {f : α → Walk β} {Q : α → Prop} {P : β → Prop}
    (first : Ensures x Q) (rest : ∀ a, Q a → Ensures (f a) P) : Ensures (x >>= f) P := by
  intro c b c'' ran
  rw [run_bind] at ran
  rcases h : x.run.run c with ⟨e | a, c₁⟩ <;> rw [h] at ran
  · cases ran
  · exact rest a (first c a c₁ h) c₁ b c'' ran

theorem Ensures.trivial (x : Walk α) : Ensures x fun _ => True := fun _ _ _ _ => True.intro

theorem Ensures.map {x : Walk α} {P : β → Prop} (f : α → β) (all : ∀ a, P (f a)) :
    Ensures (f <$> x) P := by
  rw [map_eq_pure_bind]
  exact (Ensures.trivial x).bind fun a _ => Ensures.pure (all a)

theorem Ensures.liftExcept {P : α → Prop} {r : Except DecodeError α} (ok : ∀ a, r = .ok a → P a) :
    Ensures (scalarRequest.liftExcept r) P := by
  intro c a c' ran
  rw [liftExcept_run] at ran
  exact ok a (Prod.mk.inj ran).1

theorem Ensures.enter {items : List (Option String × Json)} {isMap : Bool} {body : Walk α}
    {P : α → Prop} (reads : Ensures body P) : Ensures (enter items isMap body) P := by
  unfold Walk.enter
  refine (Ensures.trivial _).bind fun _ _ => reads.bind fun value holds => ?_
  refine (Ensures.trivial _).bind fun cursor _ => ?_
  split
  · exact (Ensures.trivial _).bind fun _ _ => by
      split
      · exact Ensures.pure holds
      · exact Ensures.throw _
  · exact Ensures.pure holds

theorem Ensures.valueRequest {expected : String} {onScalar : Scalar → Except DecodeError α}
    {onMap onSeq : Option (Walk α)} {P : α → Prop} (scalars : ∀ s a, onScalar s = .ok a → P a)
    (maps : ∀ body ∈ onMap, Ensures body P) (seqs : ∀ body ∈ onSeq, Ensures body P) :
    Ensures (Walk.valueRequest expected onScalar onMap onSeq) P := by
  unfold Walk.valueRequest
  refine (Ensures.trivial _).bind fun v _ => ?_
  cases v with
  | array items =>
    apply Ensures.enter
    cases onSeq with
    | none => exact Ensures.throw _
    | some body => exact seqs body rfl
  | object entries =>
    apply Ensures.enter
    cases onMap with
    | none => exact Ensures.throw _
    | some body => exact maps body rfl
  | null => exact Ensures.liftExcept (scalars _)
  | bool b => exact Ensures.liftExcept (scalars _)
  | number n => exact Ensures.liftExcept (scalars _)
  | string t => exact Ensures.liftExcept (scalars _)

theorem Ensures.decodeTree {x : Walk α} {P : α → Prop} (ensures : Ensures x P) {flavor : TreeFlavor}
    {v : Json} {a : α} (decoded : Json.decodeTree flavor v x = .ok a) : P a := by
  unfold Json.decodeTree at decoded
  rcases h : x.run.run { flavor, due := some v, frames := [], size := v.size } with ⟨e | b, c'⟩ <;>
    rw [h] at decoded
  · cases decoded
  · cases decoded
    exact ensures _ _ _ h

theorem Ensures.toOption {x : Walk α} {P : α → Prop} (ensures : Ensures x P) {flavor : TreeFlavor}
    {v : Json} {a : α} (decoded : (Json.decodeTree flavor v x).toOption = some a) : P a := by
  apply ensures.decodeTree
  cases h : Json.decodeTree flavor v x <;> simp_all [Except.toOption]

end Walk

end Switchboard
