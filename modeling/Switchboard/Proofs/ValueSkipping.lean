import Switchboard.Proofs.CompactReading

/-!
# Skipping printed values

Skipping a value does not build it: a machine with a stack of open brackets takes one step per
value, per opening and closing bracket, per item and per check after an item, on fuel of four
steps per octet left. Its steps over a value are counted by `Json.skipCost`; over the text of any
value the machine takes exactly that many and lands at the check after the value with its stack as
before (`skipsOver_compact`). Numbers are passed over by their grammar alone, so floats are
skipped as exactly as integers, whereas reading a float's text back need not give the float. The count is at most two per octet of the text
(`skipCost_le`), so the fuel suffices and skipping passes over exactly the printed text
(`skipValue_reads`).
-/

namespace Switchboard

namespace Json

mutual

/-- The steps the skipping machine takes over a value: one for a scalar; for a container, one
for its opening bracket, one for its closing bracket, and for each item the item's own steps, one
to reach it and one for the check after it. -/
def skipCost : Json → Nat
  | .array items => itemsSkipCost items + 2
  | .object entries => entriesSkipCost entries + 2
  | _ => 1

/-- The steps the skipping machine takes over a list of items. -/
def itemsSkipCost : List Json → Nat
  | [] => 0
  | item :: rest => skipCost item + 2 + itemsSkipCost rest

/-- The steps the skipping machine takes over the values of a list of entries. -/
def entriesSkipCost : List (String × Json) → Nat
  | [] => 0
  | (_, value) :: rest => skipCost value + 2 + entriesSkipCost rest

end

end Json

namespace Scan

open Json

-- Runs are stepped a whole bind at a time by `run_bind`; the layer-by-layer `ExceptT.run_bind`
-- would leave binds of the identity monad behind for the kernel to unfold.
attribute [-simp] ExceptT.run_bind

/-- Passing over the text of a scalar takes the skipping machine one step, to the check after a
value. -/
theorem start_scalar (s : Scalar) {fuel : Nat} {stack : List UInt8}
    {cur : Cursor} {rest : List UInt8} (h : cur.ahead = octets (compact s.toJson) ++ rest)
    (closes : Closes rest) :
    (skipValue.start (fuel + 1) stack).run.run cur =
      (skipValue.close fuel stack true).run.run (cur.skip (octets (compact s.toJson)).length) := by
  obtain ⟨b, T, text, opens, -, -⟩ := octets_scalar_cons s
  have lead : cur.ahead.head? = some b := by rw [h, text]; rfl
  have solid : ∀ c ∈ cur.ahead.head?, isBlank c = false := by rw [lead]; simpa using opens.1
  simp only [skipValue.start, run_bind, skipBlanks_of_not_blank solid, lead]
  cases s with
  | null =>
    have text' : octets (compact Scalar.null.toJson) = [0x6E, 0x75, 0x6C, 0x6C] := rfl
    rw [text'] at h text ⊢
    cases text
    have word : (cur.skip 1).ahead = [0x75, 0x6C, 0x6C] ++ rest := by simp [h]
    simp [run_bind, eat_run, literal_run _ _ _ word, Nat.add_comm]
  | bool value =>
    cases value with
    | true =>
      have text' : octets (compact (Scalar.bool true).toJson) = [0x74, 0x72, 0x75, 0x65] := rfl
      rw [text'] at h text ⊢
      cases text
      have word : (cur.skip 1).ahead = [0x72, 0x75, 0x65] ++ rest := by simp [h]
      simp [run_bind, eat_run, literal_run _ _ _ word, Nat.add_comm]
    | false =>
      have text' : octets (compact (Scalar.bool false).toJson) = [0x66, 0x61, 0x6C, 0x73, 0x65] := rfl
      rw [text'] at h text ⊢
      cases text
      have word : (cur.skip 1).ahead = [0x61, 0x6C, 0x73, 0x65] ++ rest := by simp [h]
      simp [run_bind, eat_run, literal_run _ _ _ word, Nat.add_comm]
  | string t =>
    have printed : compact (Scalar.string t).toJson = quote t := rfl
    rw [printed, octets_quote] at h text ⊢
    cases text
    have body : (cur.skip 1).ahead = literalOctets t.toList ++ 0x22 :: rest := by simp [h]
    simp [show isDigit 0x22 = false by decide, run_bind, eat_run, skipString_literal body]
    congr 2
    omega
  | number value =>
    -- a digit or a minus sign, then the number's text by its grammar
    have printed : compact (Scalar.number value).toJson = value.text := rfl
    obtain ⟨sign, cs, spelled, signed, number⟩ := octets_text value
    obtain ⟨d, ds, rfl, digit⟩ := number.head
    have octet := (isDigit_asciiOctet digit).1
    rw [printed, spelled] at h text ⊢
    rcases signed with rfl | rfl
    · cases text
      obtain ⟨n, t, f, m, -, -, -⟩ := digit_ne octet
      simp [n, t, f, m, octet, run_bind, skipNumber_numberText number closes h]
    · cases text
      have minus : asciiOctet '-' = 0x2D := rfl
      have digits : (cur.skip 1).ahead = (d :: ds).map asciiOctet ++ rest := by simp [h]
      simp [minus, run_bind, eat_run, skipNumber_numberText number closes digits]
      congr 2
      omega

/-! ## The machine inside containers -/

section Machine

variable {fuel : Nat} {outer : List UInt8} {cur : Cursor}

theorem close_array_end {after : Bool} {rest : List UInt8} (h : cur.ahead = 0x5D :: rest) :
    (skipValue.close (fuel + 1) (0x5B :: outer) after).run.run cur =
      (skipValue.close fuel outer true).run.run (cur.skip 1) := by
  have solid : ∀ c ∈ cur.ahead.head?, isBlank c = false := by simp [h]; decide
  simp [skipValue.close, run_bind, skipBlanks_of_not_blank solid, h, eat_run]

theorem close_object_end {after : Bool} {rest : List UInt8} (h : cur.ahead = 0x7D :: rest) :
    (skipValue.close (fuel + 1) (0x7B :: outer) after).run.run cur =
      (skipValue.close fuel outer true).run.run (cur.skip 1) := by
  have solid : ∀ c ∈ cur.ahead.head?, isBlank c = false := by simp [h]; decide
  simp [skipValue.close, run_bind, skipBlanks_of_not_blank solid, h, eat_run]

theorem close_comma {frame : UInt8} {more : List UInt8} (h : cur.ahead = 0x2C :: more) :
    (skipValue.close (fuel + 1) (frame :: outer) true).run.run cur =
      (skipValue.item fuel (frame :: outer)).run.run (cur.skip 1) := by
  have solid : ∀ c ∈ cur.ahead.head?, isBlank c = false := by simp [h]; decide
  simp [skipValue.close, run_bind, skipBlanks_of_not_blank solid, h, eat_run]

theorem close_first {frame b : UInt8} {more : List UInt8} (h : cur.ahead = b :: more)
    (opens : Opens b) :
    (skipValue.close (fuel + 1) (frame :: outer) false).run.run cur =
      (skipValue.item fuel (frame :: outer)).run.run cur := by
  obtain ⟨solid, notComma, notSeq, notMap⟩ := opens
  have solid' : ∀ c ∈ cur.ahead.head?, isBlank c = false := by simpa [h] using solid
  simp [skipValue.close, run_bind, skipBlanks_of_not_blank solid', h]

theorem item_array :
    (skipValue.item (fuel + 1) (0x5B :: outer)).run.run cur =
      (skipValue.start fuel (0x5B :: outer)).run.run cur := by
  simp [skipValue.item]

theorem item_object {key : String} {more : List UInt8}
    (h : cur.ahead = octets (quote key) ++ 0x3A :: more) :
    (skipValue.item (fuel + 1) (0x7B :: outer)).run.run cur =
      (skipValue.start fuel (0x7B :: outer)).run.run (cur.skip ((octets (quote key)).length + 1)) := by
  rw [octets_quote] at h ⊢
  have quote : ∀ c ∈ cur.ahead.head?, isBlank c = false := by simp [h]; decide
  have body : (cur.skip 1).ahead = literalOctets key.toList ++ 0x22 :: 0x3A :: more := by simp [h]
  have colon : ((cur.skip 1).skip ((literalOctets key.toList).length + 1)).ahead = 0x3A :: more := by
    rw [Cursor.ahead_skip, body, show literalOctets key.toList ++ 0x22 :: 0x3A :: more =
      (literalOctets key.toList ++ [0x22]) ++ 0x3A :: more by simp]
    exact List.drop_left' (by simp)
  have colon' : ∀ c ∈ ((cur.skip 1).skip ((literalOctets key.toList).length + 1)).ahead.head?,
      isBlank c = false := by
    rw [colon]
    simp only [List.head?_cons, Option.mem_def, Option.some.injEq, forall_eq']
    decide
  simp only [skipValue.item, List.head?_cons, beq_self_eq_true, ↓reduceIte, run_bind,
    skipBlanks_of_not_blank quote, h, List.cons_append, eat_run, skipString_literal body,
    skipBlanks_of_not_blank colon', colon]
  simp only [Cursor.skip_skip, List.length_cons, List.length_append, List.length_nil]
  congr 2
  omega

theorem start_open {stack : List UInt8} {b : UInt8} {more : List UInt8} (h : cur.ahead = b :: more)
    (bracket : b = 0x5B ∨ b = 0x7B) :
    (skipValue.start (fuel + 1) stack).run.run cur =
      (skipValue.close fuel (b :: stack) false).run.run (cur.skip 1) := by
  have solid : ∀ c ∈ cur.ahead.head?, isBlank c = false := by
    rcases bracket with rfl | rfl <;> simp [h] <;> decide
  rcases bracket with rfl | rfl <;>
    simp [skipValue.start, run_bind, skipBlanks_of_not_blank solid, h, eat_run,
      show isDigit 0x5B = false by decide, show isDigit 0x7B = false by decide]

/-- Over the text of `j` the skipping machine takes `skipCost j` steps and lands at the check after
a value, with its stack as it was. -/
def SkipsOver (j : Json) : Prop :=
  ∀ (fuel : Nat) (stack : List UInt8) (cur : Cursor) (rest : List UInt8),
    cur.ahead = octets (compact j) ++ rest → Closes rest →
    (skipValue.start (fuel + skipCost j) stack).run.run cur =
      (skipValue.close fuel stack true).run.run (cur.skip (octets (compact j)).length)

/-- After an item of an array, each further item is a comma and the item, until the bracket. -/
theorem skipItems_later {stack rest : List UInt8} :
    ∀ (todo : List Json) (fuel : Nat) (cur : Cursor),
      cur.ahead = todo.flatMap (fun j => 0x2C :: octets (compact j)) ++ 0x5D :: rest →
      (∀ j ∈ todo, SkipsOver j) →
      (skipValue.close (fuel + itemsSkipCost todo + 1) (0x5B :: stack) true).run.run cur =
        (skipValue.close fuel stack true).run.run
          (cur.skip ((todo.flatMap (fun j => 0x2C :: octets (compact j))).length + 1)) := by
  intro todo
  induction todo with
  | nil =>
    intro fuel cur h _
    simp only [List.flatMap_nil, List.nil_append] at h
    exact close_array_end h
  | cons j todo ih =>
    intro fuel cur h skips
    have item : (cur.skip 1).ahead = octets (compact j) ++
        (todo.flatMap (fun j => 0x2C :: octets (compact j)) ++ 0x5D :: rest) := by
      simp [h]
    have closes : Closes (todo.flatMap (fun j => 0x2C :: octets (compact j)) ++ 0x5D :: rest) := by
      cases todo <;> simp
    have steps : fuel + itemsSkipCost (j :: todo) + 1 =
        (fuel + itemsSkipCost todo + 1 + skipCost j) + 1 + 1 := by
      simp only [itemsSkipCost]
      omega
    rw [List.flatMap_cons, List.cons_append] at h
    rw [steps, close_comma h, item_array, skips j (List.mem_cons_self ..) _ _ _ _ item closes,
      ih fuel _ (by rw [Cursor.ahead_skip, item, List.drop_left])
        (fun j mem => skips j (List.mem_cons_of_mem _ mem))]
    simp only [Cursor.skip_skip, List.flatMap_cons, List.length_append, List.length_cons]
    congr 2
    omega

/-- The items of an array, then its closing bracket. -/
theorem skipItems {stack rest : List UInt8} {items : List Json} {fuel : Nat} {cur : Cursor}
    (h : cur.ahead = octets (compactItems items) ++ 0x5D :: rest) (skips : ∀ j ∈ items, SkipsOver j) :
    (skipValue.close (fuel + itemsSkipCost items + 1) (0x5B :: stack) false).run.run cur =
      (skipValue.close fuel stack true).run.run
        (cur.skip ((octets (compactItems items)).length + 1)) := by
  cases items with
  | nil => exact close_array_end h
  | cons j todo =>
    rw [octets_compactItems_cons] at h ⊢
    obtain ⟨b, T, text, opens⟩ := octets_compact_cons j
    have closes : Closes (todo.flatMap (fun j => 0x2C :: octets (compact j)) ++ 0x5D :: rest) := by
      cases todo <;> simp
    have item : cur.ahead = octets (compact j) ++
        (todo.flatMap (fun j => 0x2C :: octets (compact j)) ++ 0x5D :: rest) := by
      simp [h]
    have steps : fuel + itemsSkipCost (j :: todo) + 1 =
        (fuel + itemsSkipCost todo + 1 + skipCost j) + 1 + 1 := by
      simp only [itemsSkipCost]
      omega
    rw [steps, close_first (show cur.ahead = b :: (T ++ _) by rw [item, text]; rfl) opens,
      item_array, skips j (List.mem_cons_self ..) _ _ _ _ item closes,
      skipItems_later todo fuel _ (by rw [Cursor.ahead_skip, item, List.drop_left])
        (fun j mem => skips j (List.mem_cons_of_mem _ mem))]
    simp only [Cursor.skip_skip, List.length_append, Nat.add_assoc]

/-- After an entry of an object, each further entry is a comma, a key, a colon and the value,
until the brace. -/
theorem skipEntries_later {stack rest : List UInt8} :
    ∀ (todo : List (String × Json)) (fuel : Nat) (cur : Cursor),
      cur.ahead = todo.flatMap (fun e => 0x2C :: entryOctets e) ++ 0x7D :: rest →
      (∀ e ∈ todo, SkipsOver e.2) →
      (skipValue.close (fuel + entriesSkipCost todo + 1) (0x7B :: stack) true).run.run cur =
        (skipValue.close fuel stack true).run.run
          (cur.skip ((todo.flatMap (fun e => 0x2C :: entryOctets e)).length + 1)) := by
  intro todo
  induction todo with
  | nil =>
    intro fuel cur h _
    simp only [List.flatMap_nil, List.nil_append] at h
    exact close_object_end h
  | cons e todo ih =>
    intro fuel cur h skips
    obtain ⟨key, value⟩ := e
    have atKey : (cur.skip 1).ahead = octets (quote key) ++ 0x3A :: (octets (compact value) ++
        (todo.flatMap (fun e => 0x2C :: entryOctets e) ++ 0x7D :: rest)) := by
      simp [h, entryOctets]
    have atValue : ((cur.skip 1).skip ((octets (quote key)).length + 1)).ahead =
        octets (compact value) ++ (todo.flatMap (fun e => 0x2C :: entryOctets e) ++ 0x7D :: rest) := by
      rw [Cursor.ahead_skip, atKey, show octets (quote key) ++ 0x3A :: (octets (compact value) ++
        (todo.flatMap (fun e => 0x2C :: entryOctets e) ++ 0x7D :: rest)) =
        (octets (quote key) ++ [0x3A]) ++ (octets (compact value) ++
        (todo.flatMap (fun e => 0x2C :: entryOctets e) ++ 0x7D :: rest)) by simp]
      exact List.drop_left' (by simp)
    have closes : Closes (todo.flatMap (fun e => 0x2C :: entryOctets e) ++ 0x7D :: rest) := by
      cases todo <;> simp
    have steps : fuel + entriesSkipCost ((key, value) :: todo) + 1 =
        (fuel + entriesSkipCost todo + 1 + skipCost value) + 1 + 1 := by
      simp only [entriesSkipCost]
      omega
    rw [List.flatMap_cons, List.cons_append] at h
    rw [steps, close_comma h, item_object atKey,
      skips _ (List.mem_cons_self ..) _ _ _ _ atValue closes,
      ih fuel _ (by rw [Cursor.ahead_skip, atValue, List.drop_left])
        (fun e mem => skips e (List.mem_cons_of_mem _ mem))]
    simp only [Cursor.skip_skip, List.flatMap_cons, List.length_append, List.length_cons,
      entryOctets]
    congr 2
    omega

/-- The entries of an object, then its closing brace. -/
theorem skipEntries {stack rest : List UInt8} {entries : List (String × Json)} {fuel : Nat}
    {cur : Cursor} (h : cur.ahead = octets (compactEntries entries) ++ 0x7D :: rest)
    (skips : ∀ e ∈ entries, SkipsOver e.2) :
    (skipValue.close (fuel + entriesSkipCost entries + 1) (0x7B :: stack) false).run.run cur =
      (skipValue.close fuel stack true).run.run
        (cur.skip ((octets (compactEntries entries)).length + 1)) := by
  cases entries with
  | nil => exact close_object_end h
  | cons e todo =>
    obtain ⟨key, value⟩ := e
    rw [octets_compactEntries_cons] at h ⊢
    have atKey : cur.ahead = octets (quote key) ++ 0x3A :: (octets (compact value) ++
        (todo.flatMap (fun e => 0x2C :: entryOctets e) ++ 0x7D :: rest)) := by
      simp [h, entryOctets]
    have atValue : (cur.skip ((octets (quote key)).length + 1)).ahead =
        octets (compact value) ++ (todo.flatMap (fun e => 0x2C :: entryOctets e) ++ 0x7D :: rest) := by
      rw [Cursor.ahead_skip, atKey, show octets (quote key) ++ 0x3A :: (octets (compact value) ++
        (todo.flatMap (fun e => 0x2C :: entryOctets e) ++ 0x7D :: rest)) =
        (octets (quote key) ++ [0x3A]) ++ (octets (compact value) ++
        (todo.flatMap (fun e => 0x2C :: entryOctets e) ++ 0x7D :: rest)) by simp]
      exact List.drop_left' (by simp)
    have quoted : cur.ahead = 0x22 :: (literalOctets key.toList ++ 0x22 :: 0x3A :: (octets (compact value) ++
        (todo.flatMap (fun e => 0x2C :: entryOctets e) ++ 0x7D :: rest))) := by
      rw [atKey, octets_quote]
      simp
    have closes : Closes (todo.flatMap (fun e => 0x2C :: entryOctets e) ++ 0x7D :: rest) := by
      cases todo <;> simp
    have steps : fuel + entriesSkipCost ((key, value) :: todo) + 1 =
        (fuel + entriesSkipCost todo + 1 + skipCost value) + 1 + 1 := by
      simp only [entriesSkipCost]
      omega
    rw [steps, close_first quoted (by decide), item_object atKey,
      skips _ (List.mem_cons_self ..) _ _ _ _ atValue closes,
      skipEntries_later todo fuel _ (by rw [Cursor.ahead_skip, atValue, List.drop_left])
        (fun e mem => skips e (List.mem_cons_of_mem _ mem))]
    simp only [Cursor.skip_skip, List.length_append, List.length_cons, entryOctets]
    congr 2
    omega

end Machine

/-- The skipping machine passes over the text of every value in `skipCost` steps. -/
theorem skipsOver_compact : ∀ (n : Nat) (j : Json), j.depth < n → SkipsOver j := by
  intro n
  induction n with
  | zero => intro j shallow; omega
  | succ n ih =>
    intro j shallow fuel stack cur rest h closes
    cases j with
    | null => exact start_scalar .null h closes
    | bool value => exact start_scalar (.bool value) h closes
    | number value => exact start_scalar (.number value) h closes
    | string text => exact start_scalar (.string text) h closes
    | array items =>
      -- the bracket, then every item one level down
      rw [octets_array] at h ⊢
      simp only [List.cons_append, List.append_assoc] at h
      have inner : (cur.skip 1).ahead = octets (compactItems items) ++ 0x5D :: rest := by simp [h]
      have skips : ∀ j ∈ items, SkipsOver j := fun j mem =>
        ih j (by have := depth_le_itemsDepth mem; rw [depth] at shallow; omega)
      rw [skipCost, show fuel + (itemsSkipCost items + 2) = (fuel + itemsSkipCost items + 1) + 1 by omega,
        start_open h (.inl rfl), skipItems inner skips]
      simp only [Cursor.skip_skip, List.length_cons, List.length_append, List.length_nil]
      congr 2
      omega
    | object entries =>
      -- the brace, then every entry's value one level down
      rw [octets_object] at h ⊢
      simp only [List.cons_append, List.append_assoc] at h
      have inner : (cur.skip 1).ahead = octets (compactEntries entries) ++ 0x7D :: rest := by simp [h]
      have skips : ∀ e ∈ entries, SkipsOver e.2 := fun e mem =>
        ih e.2 (by have := depth_le_entriesDepth mem; rw [depth] at shallow; omega)
      rw [skipCost, show fuel + (entriesSkipCost entries + 2) = (fuel + entriesSkipCost entries + 1) + 1 by omega,
        start_open h (.inr rfl), skipEntries inner skips]
      simp only [Cursor.skip_skip, List.length_cons, List.length_append, List.length_nil]
      congr 2
      omega

theorem itemsSkipCost_later {todo : List Json}
    (bounded : ∀ j ∈ todo, skipCost j ≤ 2 * (octets (compact j)).length) :
    itemsSkipCost todo ≤ 2 * (todo.flatMap fun j => 0x2C :: octets (compact j)).length := by
  induction todo with
  | nil => simp [itemsSkipCost]
  | cons j todo ih =>
    have head := bounded j (List.mem_cons_self ..)
    have tail := ih fun j mem => bounded j (List.mem_cons_of_mem _ mem)
    simp only [itemsSkipCost, List.flatMap_cons, List.length_append, List.length_cons]
    omega

theorem entriesSkipCost_later {todo : List (String × Json)}
    (bounded : ∀ e ∈ todo, skipCost e.2 ≤ 2 * (octets (compact e.2)).length) :
    entriesSkipCost todo ≤ 2 * (todo.flatMap fun e => 0x2C :: entryOctets e).length := by
  induction todo with
  | nil => simp [entriesSkipCost]
  | cons e todo ih =>
    obtain ⟨key, value⟩ := e
    have head := bounded _ (List.mem_cons_self ..)
    have tail := ih fun e mem => bounded e (List.mem_cons_of_mem _ mem)
    simp only [entriesSkipCost, List.flatMap_cons, List.length_append, List.length_cons, entryOctets]
      at head tail ⊢
    omega

/-- The skipping machine takes at most two steps per octet of a printed value. -/
theorem skipCost_le : ∀ (n : Nat) (j : Json), j.depth < n →
    skipCost j ≤ 2 * (octets (compact j)).length := by
  intro n
  induction n with
  | zero => intro j shallow; omega
  | succ n ih =>
    intro j shallow
    cases j with
    | array items =>
      have bounded : ∀ j ∈ items, skipCost j ≤ 2 * (octets (compact j)).length := fun j mem =>
        ih j (by have := depth_le_itemsDepth mem; rw [depth] at shallow; omega)
      rw [skipCost, octets_array]
      cases items with
      | nil => simp only [itemsSkipCost, List.length_cons, List.length_append]; omega
      | cons j todo =>
        have head := bounded j (List.mem_cons_self ..)
        have tail := itemsSkipCost_later fun j mem => bounded j (List.mem_cons_of_mem _ mem)
        simp only [itemsSkipCost, octets_compactItems_cons, List.length_cons, List.length_append,
          List.length_nil]
        omega
    | object entries =>
      have bounded : ∀ e ∈ entries, skipCost e.2 ≤ 2 * (octets (compact e.2)).length := fun e mem =>
        ih e.2 (by have := depth_le_entriesDepth mem; rw [depth] at shallow; omega)
      rw [skipCost, octets_object]
      cases entries with
      | nil => simp only [entriesSkipCost, List.length_cons, List.length_append]; omega
      | cons e todo =>
        obtain ⟨key, value⟩ := e
        have head := bounded _ (List.mem_cons_self ..)
        have tail := entriesSkipCost_later fun e mem => bounded e (List.mem_cons_of_mem _ mem)
        simp only [entriesSkipCost, octets_compactEntries_cons, entryOctets, List.length_cons,
          List.length_append, List.length_nil] at head tail ⊢
        omega
    | null | bool _ | number _ | string _ =>
      obtain ⟨b, T, text, -⟩ := octets_compact_cons _
      show 1 ≤ _
      rw [text, List.length_cons]
      omega

/-- Skipping a value passes over exactly the text of a printed value, whatever its depth. -/
theorem skipValue_reads (j : Json) (d : Nat) : Reads skipValue (octets (compact j)) d () := by
  intro cur rest h closes _
  obtain ⟨b, T, text, -⟩ := octets_compact_cons j
  have room := size_of_ahead h (by rw [text]; simp)
  have bounded := skipCost_le (j.depth + 1) j (Nat.lt_succ_self _)
  have skips := skipsOver_compact (j.depth + 1) j (Nat.lt_succ_self _)
  obtain ⟨left, steps⟩ : ∃ left, 4 * (cur.bytes.size - cur.index + 1) + 4 = left + 1 + skipCost j :=
    ⟨4 * (cur.bytes.size - cur.index + 1) + 4 - skipCost j - 1, by omega⟩
  simp only [skipValue, run_bind, remaining_run, steps, skips (left + 1) [] cur rest h closes]
  simp [skipValue.close]
  rfl

end Scan

end Switchboard
