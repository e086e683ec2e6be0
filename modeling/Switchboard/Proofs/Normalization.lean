import Mathlib
import Switchboard.Proofs.CompactReading

/-!
# Normal forms of objects

An object in normal form has its keys strictly increasing (`Json.Sorted`), so each key occurs
once. Inserting an entry keeps that order and gives the inserted key its new value, every other
key its old one (`lookup_insertEntry`). Normalizing an object inserts its entries in order, so in
the normal form each key is bound to the normal form of its last value (`get?_normalize`), the
same value `get?` reads from the object as written. Normalizing keeps every number as it is and
never nests deeper (`normalize_integral_depth`).
-/

namespace Switchboard

namespace Json

/-- Entries are sorted when every key is below every later key. -/
theorem sorted_iff_pairwise : ∀ {entries : List (String × Json)},
    Sorted entries ↔ entries.Pairwise (fun a b => a.1 < b.1)
  | [] => by simp [Sorted]
  | [_] => by simp [Sorted]
  | (k₁, v₁) :: (k₂, v₂) :: rest => by
    rw [Sorted, sorted_iff_pairwise, List.pairwise_cons (l := (k₂, v₂) :: rest), List.forall_mem_cons]
    constructor
    · rintro ⟨below, sorted⟩
      exact ⟨⟨below, fun e mem => lt_trans below ((List.pairwise_cons.1 sorted).1 e mem)⟩, sorted⟩
    · rintro ⟨⟨below, -⟩, sorted⟩
      exact ⟨below, sorted⟩

theorem Sorted.nodup {entries : List (String × Json)} (sorted : Sorted entries) :
    (entries.map Prod.fst).Nodup := by
  rw [sorted_iff_pairwise] at sorted
  rw [List.Nodup, List.pairwise_map]
  exact sorted.imp ne_of_lt

theorem Sorted.filter {entries : List (String × Json)} (sorted : Sorted entries)
    (p : String × Json → Bool) : Sorted (entries.filter p) := by
  rw [sorted_iff_pairwise] at sorted ⊢
  exact sorted.filter p

/-- An inserted entry is the new one or was there before. -/
theorem mem_insertEntry {key : String} {value : Json} {e : String × Json} :
    ∀ {entries : List (String × Json)}, e ∈ insertEntry key value entries → e = (key, value) ∨ e ∈ entries
  | [], mem => by simpa [insertEntry] using mem
  | (k, v) :: rest, mem => by
    simp only [insertEntry] at mem
    split at mem
    · simpa using mem
    split at mem
    · rcases List.mem_cons.1 mem with rfl | mem
      · exact .inl rfl
      · exact .inr (List.mem_cons_of_mem _ mem)
    · rcases List.mem_cons.1 mem with rfl | mem
      · exact .inr List.mem_cons_self
      · rcases mem_insertEntry mem with same | mem
        · exact .inl same
        · exact .inr (List.mem_cons_of_mem _ mem)

/-- Inserting an entry keeps the keys in order. -/
theorem pairwise_insertEntry (key : String) (value : Json) :
    ∀ {entries : List (String × Json)}, entries.Pairwise (fun a b => a.1 < b.1) →
      (insertEntry key value entries).Pairwise (fun a b => a.1 < b.1)
  | [], _ => by simp [insertEntry]
  | (k, v) :: rest, sorted => by
    obtain ⟨above, sorted'⟩ := List.pairwise_cons.1 sorted
    simp only [insertEntry]
    split
    · rename_i below
      refine List.pairwise_cons.2 ⟨?_, sorted⟩
      intro e mem
      rcases List.mem_cons.1 mem with rfl | mem
      · exact below
      · exact lt_trans below (above e mem)
    split
    · rename_i same
      subst same
      exact List.pairwise_cons.2 ⟨above, sorted'⟩
    · rename_i notBelow other
      have after : k < key := lt_of_le_of_ne (not_lt.1 notBelow) (Ne.symm other)
      refine List.pairwise_cons.2 ⟨?_, pairwise_insertEntry key value sorted'⟩
      intro e mem
      rcases mem_insertEntry mem with rfl | mem
      · exact after
      · exact above e mem

theorem Sorted.insertEntry {entries : List (String × Json)} (sorted : Sorted entries)
    (key : String) (value : Json) : Sorted (insertEntry key value entries) := by
  rw [sorted_iff_pairwise] at sorted ⊢
  exact pairwise_insertEntry key value sorted

theorem lookup_of_not_mem {entries : List (String × Json)} {name : String}
    (absent : name ∉ entries.map Prod.fst) : entries.lookup name = none := by
  induction entries with
  | nil => rfl
  | cons e rest ih =>
    obtain ⟨key, value⟩ := e
    simp only [List.map_cons, List.mem_cons, not_or] at absent
    simp [List.lookup, beq_false_of_ne absent.1, ih absent.2]

theorem lookup_cons (key name : String) (value : Json) (rest : List (String × Json)) :
    ((key, value) :: rest).lookup name = if name = key then some value else rest.lookup name := by
  by_cases hit : name = key
  · subst hit
    simp
  · simp [List.lookup, beq_false_of_ne hit, hit]

/-- After an insertion, the inserted key has the new value and every other key its old one. -/
theorem lookup_insertEntry (key : String) (value : Json) (name : String) :
    ∀ entries : List (String × Json), (insertEntry key value entries).lookup name =
      if name = key then some value else entries.lookup name
  | [] => by simp [insertEntry, lookup_cons]
  | (k, v) :: rest => by
    simp only [insertEntry]
    split
    · rw [lookup_cons]
    split
    · rename_i same
      subst same
      by_cases hit : name = key <;> simp [lookup_cons, hit]
    · rename_i other
      rw [lookup_cons, lookup_cons, lookup_insertEntry key value name rest]
      by_cases hit : name = key
      · subst hit
        simp [other]
      · simp [hit]

/-! ## Normal forms -/

theorem normalize_object (entries : List (String × Json)) :
    normalize (.object entries) = .object (normalizeEntries [] entries) := by
  rw [normalize]

theorem sorted_normalizeEntries : ∀ (entries : List (String × Json)) {acc : List (String × Json)},
    Sorted acc → Sorted (normalizeEntries acc entries)
  | [], _, sorted => by rw [normalizeEntries]; exact sorted
  | (key, value) :: rest, _, sorted => by
    rw [normalizeEntries]
    exact sorted_normalizeEntries rest (sorted.insertEntry key (normalize value))

/-- A normalized entry was there before or is an entry of the object, its value normalized. -/
theorem mem_normalizeEntries {e : String × Json} : ∀ {entries acc : List (String × Json)},
    e ∈ normalizeEntries acc entries → e ∈ acc ∨ ∃ v, (e.1, v) ∈ entries ∧ e.2 = normalize v
  | [], _, mem => by rw [normalizeEntries] at mem; exact .inl mem
  | (key, value) :: rest, _, mem => by
    rw [normalizeEntries] at mem
    rcases mem_normalizeEntries mem with mem | ⟨v, later, same⟩
    · rcases mem_insertEntry mem with rfl | mem
      · exact .inr ⟨value, List.mem_cons_self, rfl⟩
      · exact .inl mem
    · exact .inr ⟨v, List.mem_cons_of_mem _ later, same⟩

/-- A key's value in an object is its last entry's: a later entry comes first. -/
theorem get?_cons (key name : String) (value : Json) (rest : List (String × Json)) :
    (Json.object ((key, value) :: rest)).get? name =
      ((Json.object rest).get? name).or (if key = name then some value else none) := by
  simp only [get?, List.reverse_cons, List.find?_append]
  cases rest.reverse.find? (fun entry => entry.1 == name) with
  | some e => rfl
  | none => by_cases hit : key = name <;> simp [hit]

theorem get?_of_not_mem {entries : List (String × Json)} {name : String}
    (absent : name ∉ entries.map Prod.fst) : (Json.object entries).get? name = none := by
  induction entries with
  | nil => rfl
  | cons e rest ih =>
    obtain ⟨key, value⟩ := e
    simp only [List.map_cons, List.mem_cons, not_or] at absent
    rw [get?_cons, ih absent.2, if_neg (Ne.symm absent.1)]
    rfl

/-- In an object whose keys are distinct, a key's value is that of its one entry. -/
theorem get?_eq_lookup {entries : List (String × Json)} (distinct : (entries.map Prod.fst).Nodup)
    (name : String) : (Json.object entries).get? name = entries.lookup name := by
  induction entries with
  | nil => rfl
  | cons e rest ih =>
    obtain ⟨key, value⟩ := e
    obtain ⟨fresh, distinct⟩ := List.nodup_cons.1 distinct
    by_cases hit : name = key
    · subst hit
      rw [get?_cons, get?_of_not_mem fresh, lookup_cons]
      simp
    · rw [get?_cons, ih distinct, lookup_cons]
      simp [hit, Ne.symm hit]

/-- Normalizing binds each key to its last value, normalized, over the entries already there. -/
theorem lookup_normalizeEntries (name : String) : ∀ (entries acc : List (String × Json)),
    (normalizeEntries acc entries).lookup name =
      (((Json.object entries).get? name).map normalize).or (acc.lookup name)
  | [], acc => by rw [normalizeEntries]; rfl
  | (key, value) :: rest, acc => by
    rw [normalizeEntries, lookup_normalizeEntries name rest, lookup_insertEntry, get?_cons]
    cases (Json.object rest).get? name with
    | some found => rfl
    | none =>
      by_cases hit : name = key
      · subst hit
        simp
      · simp [hit, Ne.symm hit]

/-- The normal form of an object binds each key to the normal form of its last value. -/
theorem get?_normalize (entries : List (String × Json)) (name : String) :
    (normalize (.object entries)).get? name = ((Json.object entries).get? name).map normalize := by
  rw [normalize_object, get?_eq_lookup (sorted_normalizeEntries entries (show Sorted [] from trivial)).nodup,
    lookup_normalizeEntries]
  cases (Json.object entries).get? name <;> rfl

/-! ## What normalizing keeps -/

theorem entriesIntegral_iff {entries : List (String × Json)} :
    entriesIntegral entries = true ↔ ∀ e ∈ entries, e.2.integral = true := by
  induction entries with
  | nil => simp [entriesIntegral]
  | cons e rest ih =>
    obtain ⟨key, value⟩ := e
    simp [entriesIntegral, ih]

theorem itemsIntegral_iff {items : List Json} :
    itemsIntegral items = true ↔ ∀ j ∈ items, j.integral = true := by
  induction items with
  | nil => simp [itemsIntegral]
  | cons j rest ih => simp [itemsIntegral, ih]

theorem entriesDepth_le_iff {entries : List (String × Json)} {d : Nat} :
    entriesDepth entries ≤ d ↔ ∀ e ∈ entries, e.2.depth ≤ d := by
  induction entries with
  | nil => simp [entriesDepth]
  | cons e rest ih =>
    obtain ⟨key, value⟩ := e
    simp [entriesDepth, ih]

theorem itemsDepth_le_iff {items : List Json} {d : Nat} :
    itemsDepth items ≤ d ↔ ∀ j ∈ items, j.depth ≤ d := by
  induction items with
  | nil => simp [itemsDepth]
  | cons j rest ih => simp [itemsDepth, ih]

theorem normalizeItems_eq_map (items : List Json) : normalizeItems items = items.map normalize := by
  induction items with
  | nil => rw [normalizeItems]; rfl
  | cons j rest ih => rw [normalizeItems, ih]; rfl

/-- Normalizing keeps every number as it is and never nests deeper. -/
theorem normalize_integral_depth : ∀ (n : Nat) (j : Json), j.depth < n → j.integral = true →
    (normalize j).integral = true ∧ (normalize j).depth ≤ j.depth := by
  intro n
  induction n with
  | zero => intro j shallow; omega
  | succ n ih =>
    intro j shallow numbers
    cases j with
    | array items =>
      -- every item is normalized one level down
      have each : ∀ j ∈ items, (normalize j).integral = true ∧ (normalize j).depth ≤ j.depth :=
        fun j mem => ih j (by have := Scan.depth_le_itemsDepth mem; rw [depth] at shallow; omega)
          (Scan.integral_of_mem_items numbers mem)
      rw [normalize, normalizeItems_eq_map, integral, depth, depth, itemsIntegral_iff]
      refine ⟨?_, Nat.add_le_add_right (itemsDepth_le_iff.2 ?_) 1⟩
      · intro x mem
        obtain ⟨j, inside, rfl⟩ := List.mem_map.1 mem
        exact (each j inside).1
      · intro x mem
        obtain ⟨j, inside, rfl⟩ := List.mem_map.1 mem
        exact Nat.le_trans (each j inside).2 (Scan.depth_le_itemsDepth inside)
    | object entries =>
      -- every value is normalized one level down; a value dropped for a later one counts for nothing
      have each : ∀ e ∈ entries, (normalize e.2).integral = true ∧ (normalize e.2).depth ≤ e.2.depth :=
        fun e mem => ih e.2 (by have := Scan.depth_le_entriesDepth mem; rw [depth] at shallow; omega)
          (Scan.integral_of_mem_entries numbers mem)
      rw [normalize_object, integral, depth, depth, entriesIntegral_iff]
      refine ⟨?_, Nat.add_le_add_right (entriesDepth_le_iff.2 ?_) 1⟩
      · intro e mem
        rcases mem_normalizeEntries mem with mem | ⟨v, mem, same⟩
        · cases mem
        · rw [same]
          exact (each _ mem).1
      · intro e mem
        rcases mem_normalizeEntries mem with mem | ⟨v, mem, same⟩
        · cases mem
        · rw [same]
          exact Nat.le_trans (each _ mem).2 (Scan.depth_le_entriesDepth mem)
    | null | bool _ | number _ | string _ => exact ⟨numbers, Nat.le_refl _⟩

end Json

end Switchboard
