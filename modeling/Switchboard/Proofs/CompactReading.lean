import Switchboard.Proofs.NumberTexts

/-!
# Reading printed values back

The compact text of a value is read back to the value. The statements are about what a reader
does where a given text comes next (`Scan.Reads`): it reads the text to a result and stops right
after it, whatever follows, provided what follows may close a value and enough nesting is left.
Container contents are read by the sequence and map readers item by item (`ReadsContents`); a
container's reading is then its opening bracket, its contents and its closing bracket
(`container_reads`).

The main results: the value reader reads the text of every integral value (every number a
canonical integer) back to the value with its entries as written (`rawJson_reads`), so parsing
the compact text gives back the normal form (`Json.parseBytes_compact`). Any decoder that reads a
value's text reads the whole printed text (`Json.decodeText_compact`), which is how decoders other
than the value reader are taken through a printed message.
-/

namespace Switchboard

namespace Json

mutual

/-- Whether every number of a value is canonical. -/
def integral : Json → Bool
  | .number value => value.canonical
  | .array items => itemsIntegral items
  | .object entries => entriesIntegral entries
  | _ => true

/-- Whether every number of a list of items is canonical. -/
def itemsIntegral : List Json → Bool
  | [] => true
  | item :: rest => integral item && itemsIntegral rest

/-- Whether every number of the values of a list of entries is canonical. -/
def entriesIntegral : List (String × Json) → Bool
  | [] => true
  | (_, value) :: rest => integral value && entriesIntegral rest

end

/-- The octets of an entry: its key's literal, a colon and its value's text. -/
def entryOctets (entry : String × Json) : List UInt8 :=
  octets (quote entry.1) ++ 0x3A :: octets (compact entry.2)

theorem octets_array (items : List Json) :
    octets (compact (.array items)) = 0x5B :: (octets (compactItems items) ++ [0x5D]) := by
  rw [compact, octets_append, octets_append]
  rfl

theorem octets_object (entries : List (String × Json)) :
    octets (compact (.object entries)) = 0x7B :: (octets (compactEntries entries) ++ [0x7D]) := by
  rw [compact, octets_append, octets_append]
  rfl

/-- The items of an array after the first are each written after a comma. -/
theorem octets_compactItems_cons (item : Json) (items : List Json) :
    octets (compactItems (item :: items)) =
      octets (compact item) ++ items.flatMap fun next => 0x2C :: octets (compact next) := by
  induction items generalizing item with
  | nil => simp [compactItems]
  | cons next items ih =>
    have comma : octets "," = [0x2C] := rfl
    simp only [compactItems, octets_append, ih, List.flatMap_cons, comma]
    simp

/-- The entries of an object after the first are each written after a comma. -/
theorem octets_compactEntries_cons (entry : String × Json) (entries : List (String × Json)) :
    octets (compactEntries (entry :: entries)) =
      entryOctets entry ++ entries.flatMap fun next => 0x2C :: entryOctets next := by
  induction entries generalizing entry with
  | nil => simp [compactEntries, entryOctets, octets_append]; rfl
  | cons next entries ih =>
    have comma : octets "," = [0x2C] := rfl
    have colon : octets ":" = [0x3A] := rfl
    obtain ⟨key, value⟩ := entry
    simp only [compactEntries, octets_append, ih, List.flatMap_cons, comma, colon, entryOctets]
    simp

end Json

namespace Scan

-- Runs are stepped a whole bind at a time by `run_bind`; the layer-by-layer `ExceptT.run_bind`
-- would leave binds of the identity monad behind for the kernel to unfold.
attribute [-simp] ExceptT.run_bind

@[simp] theorem closes_nil : Closes [] := by simp [Closes]
@[simp] theorem closes_comma (rest : List UInt8) : Closes (0x2C :: rest) := by simp [Closes]
@[simp] theorem closes_seq (rest : List UInt8) : Closes (0x5D :: rest) := by simp [Closes]
@[simp] theorem closes_map (rest : List UInt8) : Closes (0x7D :: rest) := by simp [Closes]

section Requests

variable {α : Type}

@[simp] theorem scalar_eq : (JsonSource.scalar : String → (Scalar → Except DecodeError α) → Scan α) =
    scalarRequest := rfl
@[simp] theorem value_eq : (JsonSource.value : String → (Scalar → Except DecodeError α) →
    Option (Scan α) → Option (Scan α) → Scan α) = valueRequest := rfl
@[simp] theorem nextKey_eq : (JsonSource.nextKey : Scan (Option String)) = nextKeyRequest := rfl
@[simp] theorem entry_eq : (JsonSource.entry : Scan α → Scan α) = entryRequest := rfl
@[simp] theorem nextElement_eq : (JsonSource.nextElement : Scan Bool) = nextElementRequest := rfl
@[simp] theorem skip_eq : (JsonSource.skip : Scan Unit) = skipValue := rfl
@[simp] theorem budget_eq : (JsonSource.budget : Scan Nat) = remaining := rfl

end Requests

theorem attempt_run {α : Type} {x : Scan α} {c c' : Cursor} {v : α} (h : x.run.run c = (.ok v, c')) :
    (attempt x).run.run c = (.ok (.ok v), c') := by
  have mapped : (Except.ok <$> x : Scan (Except DecodeError α)).run.run c = (.ok (.ok v), c') := by
    rw [run_map, h]
  show (ExceptT.tryCatch (Except.ok <$> x) fun error => pure (Except.error error)).run.run c = _
  simp only [ExceptT.tryCatch, ExceptT.run_mk, StateT.run_bind]
  erw [mapped]
  rfl

/-- What may open a value: not a blank, a comma or a closing bracket. -/
def Opens (b : UInt8) : Prop := isBlank b = false ∧ b ≠ 0x2C ∧ b ≠ 0x5D ∧ b ≠ 0x7D

instance (b : UInt8) : Decidable (Opens b) := inferInstanceAs (Decidable (_ ∧ _ ∧ _ ∧ _))

theorem opens_of_digit {b : UInt8} (digit : isDigit b = true) : Opens b ∧ b ≠ 0x5B ∧ b ≠ 0x7B := by
  simp only [isDigit, Bool.and_eq_true, decide_eq_true_eq, UInt8.le_iff_toNat_le] at digit
  have away : ∀ c : UInt8, (c.toNat < 0x30 ∨ 0x39 < c.toNat) → b ≠ c := by
    rintro c far rfl
    simp only [UInt8.reduceToNat] at digit
    omega
  refine ⟨⟨?_, away 0x2C (by decide), away 0x5D (by decide), away 0x7D (by decide)⟩,
    away 0x5B (by decide), away 0x7B (by decide)⟩
  simp only [isBlank, Bool.or_eq_false_iff, beq_eq_false_iff_ne]
  exact ⟨⟨⟨away 0x20 (by decide), away 0x0A (by decide)⟩, away 0x09 (by decide)⟩, away 0x0D (by decide)⟩

open Json in
/-- The text of a scalar opens with a letter, a digit, a minus sign or a quote. -/
theorem octets_scalar_cons (s : Scalar) :
    ∃ b T, octets (compact s.toJson) = b :: T ∧ Opens b ∧ b ≠ 0x5B ∧ b ≠ 0x7B := by
  cases s with
  | null => exact ⟨_, _, rfl, by decide, by decide, by decide⟩
  | bool value => cases value <;> exact ⟨_, _, rfl, by decide, by decide, by decide⟩
  | string text => exact ⟨_, _, octets_quote text, by decide, by decide, by decide⟩
  | number value =>
    obtain ⟨sign, cs, text, signed, number⟩ := octets_text value
    obtain ⟨d, ds, rfl, digit⟩ := number.head
    rcases signed with rfl | rfl
    · exact ⟨asciiOctet d, ds.map asciiOctet, text, opens_of_digit (isDigit_asciiOctet digit).1⟩
    · exact ⟨0x2D, (d :: ds).map asciiOctet, text, by decide, by decide, by decide⟩

@[simp] theorem ahead_with (c : Cursor) (d : Nat) (f : Bool) :
    ({ c with depth := d, first := f } : Cursor).ahead = c.ahead := rfl

theorem closeSeq_run {cur : Cursor} {rest : List UInt8} (h : cur.ahead = 0x5D :: rest) :
    closeSeq.run.run cur = (.ok (), cur.skip 1) := by
  have solid : ∀ b ∈ cur.ahead.head?, isBlank b = false := by simp [h]; decide
  simp [closeSeq, run_bind, skipBlanks_of_not_blank solid, h, eat_run]

theorem closeMap_run {cur : Cursor} {rest : List UInt8} (h : cur.ahead = 0x7D :: rest) :
    closeMap.run.run cur = (.ok (), cur.skip 1) := by
  have solid : ∀ b ∈ cur.ahead.head?, isBlank b = false := by simp [h]; decide
  simp [closeMap, run_bind, skipBlanks_of_not_blank solid, h, eat_run]

/-- A container is entered one level deeper with no item read, read by `body` and closed by
`close` once its depth and first-item mark are given back. -/
theorem container_run {α : Type} {body : Scan α} {close : Scan Unit} {cur after final : Cursor}
    {a : α} (room : 1 < cur.depth)
    (reads : body.run.run { cur with depth := cur.depth - 1, index := cur.index + 1, first := true } =
      (.ok a, after))
    (closed : close.run.run { after with depth := cur.depth, first := cur.first } = (.ok (), final)) :
    (container body close).run.run cur = (.ok a, final) := by
  simp only [container, run_bind, run_get, Nat.not_le.2 room, ↓reduceIte, run_pure, run_set,
    attempt_run reads, run_modify, attempt_run closed]

variable {α : Type}

/-- Run where the octets `T` come next, `x` reads them to `a` and stops right after them, provided
what follows may close a value and more than `d` levels of nesting are left. -/
def Reads (x : Scan α) (T : List UInt8) (d : Nat) (a : α) : Prop :=
  ∀ (cur : Cursor) (rest : List UInt8), cur.ahead = T ++ rest → Closes rest → d < cur.depth →
    x.run.run cur = (.ok a, cur.skip T.length)

/-- Run at the start of a container's contents `T`, with no item read yet, `body` reads them to
`a` and stops before the closing bracket `close`, having marked items as it read them. -/
def ReadsContents (body : Scan α) (T : List UInt8) (close : UInt8) (d : Nat) (a : α) : Prop :=
  ∀ (cur : Cursor) (rest : List UInt8), cur.first = true → cur.ahead = T ++ close :: rest →
    d < cur.depth → ∃ first, body.run.run cur = (.ok a, { cur.skip T.length with first })

open Json

theorem valueRequest_scalar {expected : String} {onScalar : Scalar → Except DecodeError α}
    {onMap onSeq : Option (Scan α)} (s : Scalar) (canonical : s.canonical) {a : α}
    (accepts : onScalar s = .ok a) :
    Reads (valueRequest expected onScalar onMap onSeq) (octets (compact s.toJson)) 0 a := by
  intro cur rest h closes _
  obtain ⟨b, T, text, opens, notSeq, notMap⟩ := octets_scalar_cons s
  have lead : cur.ahead.head? = some b := by rw [h, text]; rfl
  have solid : ∀ c ∈ cur.ahead.head?, isBlank c = false := by rw [lead]; simpa using opens.1
  simp only [valueRequest, run_bind, skipBlanks_of_not_blank solid, lead, beq_iff_eq, notSeq,
    notMap, ↓reduceIte, scalarAt_compact s canonical h closes lead]
  simp [verdict, accepts]
  rfl

/-- A scalar asked for as a scalar is read from its text to what the caller makes of it. -/
theorem scalarRequest_scalar {expected : String} {accept : Scalar → Except DecodeError α}
    (s : Scalar) (canonical : s.canonical) {a : α} (accepts : accept s = .ok a) :
    Reads (scalarRequest expected accept) (octets (compact s.toJson)) 0 a := by
  intro cur rest h closes _
  obtain ⟨b, T, text, opens, notSeq, notMap⟩ := octets_scalar_cons s
  have lead : cur.ahead.head? = some b := by rw [h, text]; rfl
  have solid : ∀ c ∈ cur.ahead.head?, isBlank c = false := by rw [lead]; simpa using opens.1
  simp only [scalarRequest, run_bind, skipBlanks_of_not_blank solid, lead, beq_iff_eq, notSeq,
    notMap, ↓reduceIte, scalarAt_compact s canonical h closes lead]
  simp [verdict, accepts]
  rfl

/-- A container whose contents `body` reads is entered at its opening bracket and read through
its closing bracket. -/
theorem container_reads {body : Scan α} {close : Scan Unit} {T : List UInt8} {opening ending : UInt8}
    {d : Nat} {a : α} (contents : ReadsContents body T ending d a)
    (closes : ∀ (c : Cursor) (rest : List UInt8), c.ahead = ending :: rest →
      close.run.run c = (.ok (), c.skip 1))
    {cur : Cursor} {rest : List UInt8} (h : cur.ahead = opening :: (T ++ ending :: rest))
    (deep : d + 1 < cur.depth) :
    (container body close).run.run cur = (.ok a, cur.skip (T.length + 2)) := by
  have inner : ({ cur with depth := cur.depth - 1, index := cur.index + 1, first := true } :
      Cursor).ahead = T ++ ending :: rest := by
    show (cur.skip 1).ahead = _
    simp [h]
  obtain ⟨first, body⟩ := contents _ rest rfl inner (by simp; omega)
  have closing : ({ { ({ cur with depth := cur.depth - 1, index := cur.index + 1, first := true } :
      Cursor).skip T.length with first } with depth := cur.depth, first := cur.first } :
      Cursor).ahead = ending :: rest := by
    have after : (cur.skip (1 + T.length)).ahead = ending :: rest := by
      rw [Cursor.ahead_skip, h, Nat.add_comm, List.drop_succ_cons, List.drop_left]
    simpa [Cursor.skip, Cursor.ahead, Nat.add_assoc] using after
  rw [container_run (by omega) body (closes _ rest closing)]
  refine Prod.ext rfl ?_
  show Cursor.mk _ _ _ _ = Cursor.mk _ _ _ _
  congr 1
  simp only [Cursor.skip]
  omega

/-- A printed array is entered, its contents read by the sequence reader, and closed. -/
theorem valueRequest_array {expected : String} {onScalar : Scalar → Except DecodeError α}
    {onMap : Option (Scan α)} {onSeq : Scan α} {items : List Json} {a : α}
    (contents : ReadsContents onSeq (octets (compactItems items)) 0x5D (itemsDepth items) a) :
    Reads (valueRequest expected onScalar onMap (some onSeq)) (octets (compact (.array items)))
      (depth (.array items)) a := by
  intro cur rest h _ deep
  rw [octets_array] at h ⊢
  rw [depth] at deep
  simp only [List.cons_append, List.append_assoc] at h
  have lead : cur.ahead.head? = some 0x5B := by rw [h]; rfl
  have solid : ∀ c ∈ cur.ahead.head?, isBlank c = false := by simp [lead]; decide
  simp only [valueRequest, run_bind, skipBlanks_of_not_blank solid, lead, ↓reduceIte,
    Option.getD_some, beq_self_eq_true]
  rw [container_reads contents (fun _ _ => closeSeq_run) h deep]
  simp

/-- A printed object is entered, its contents read by the map reader, and closed. -/
theorem valueRequest_object {expected : String} {onScalar : Scalar → Except DecodeError α}
    {onMap : Scan α} {onSeq : Option (Scan α)} {entries : List (String × Json)} {d : Nat} {a : α}
    (contents : ReadsContents onMap (octets (compactEntries entries)) 0x7D d a) :
    Reads (valueRequest expected onScalar (some onMap) onSeq) (octets (compact (.object entries)))
      (d + 1) a := by
  intro cur rest h _ deep
  rw [octets_object] at h ⊢
  simp only [List.cons_append, List.append_assoc] at h
  have lead : cur.ahead.head? = some 0x7B := by rw [h]; rfl
  have solid : ∀ c ∈ cur.ahead.head?, isBlank c = false := by simp [lead]; decide
  simp only [valueRequest, run_bind, skipBlanks_of_not_blank solid, lead, ↓reduceIte,
    Option.getD_some, beq_self_eq_true, show ((0x7B : UInt8) == 0x5B) = false by decide,
    Bool.false_eq_true]
  rw [container_reads contents (fun _ _ => closeMap_run) h deep]
  simp

/-- The text of every value opens with an octet that may open a value. -/
theorem octets_compact_cons (j : Json) : ∃ b T, octets (compact j) = b :: T ∧ Opens b := by
  cases j with
  | null => exact (octets_scalar_cons .null).imp fun _ => .imp fun _ h => ⟨h.1, h.2.1⟩
  | bool v => exact (octets_scalar_cons (.bool v)).imp fun _ => .imp fun _ h => ⟨h.1, h.2.1⟩
  | number v => exact (octets_scalar_cons (.number v)).imp fun _ => .imp fun _ h => ⟨h.1, h.2.1⟩
  | string v => exact (octets_scalar_cons (.string v)).imp fun _ => .imp fun _ h => ⟨h.1, h.2.1⟩
  | array items => exact ⟨_, _, octets_array items, by decide⟩
  | object entries => exact ⟨_, _, octets_object entries, by decide⟩

/-! ## Sequences -/

theorem nextElementRequest_first {cur : Cursor} {b : UInt8} {more : List UInt8}
    (first : cur.first = true) (h : cur.ahead = b :: more) (opens : Opens b) :
    nextElementRequest.run.run cur = (.ok true, { cur with first := false }) := by
  obtain ⟨solid, notComma, notSeq, -⟩ := opens
  have solid' : ∀ c ∈ cur.ahead.head?, isBlank c = false := by simpa [h] using solid
  simp [nextElementRequest, run_bind, run_get, skipBlanks_of_not_blank solid', h, first, markItem,
    run_modify]
  rfl

theorem nextElementRequest_later {cur : Cursor} {b : UInt8} {more : List UInt8}
    (later : cur.first = false) (h : cur.ahead = 0x2C :: b :: more) (opens : Opens b) :
    nextElementRequest.run.run cur = (.ok true, cur.skip 1) := by
  obtain ⟨solid, -, notSeq, -⟩ := opens
  have comma : ∀ c ∈ cur.ahead.head?, isBlank c = false := by simp [h]; decide
  have solid' : ∀ c ∈ (cur.skip 1).ahead.head?, isBlank c = false := by simpa [h] using solid
  have h' : (cur.skip 1).ahead = b :: more := by simp [h]
  simp [nextElementRequest, run_bind, run_get, skipBlanks_of_not_blank comma, h, later, eat_run,
    skipBlanks_of_not_blank solid', h']
  rfl

theorem nextElementRequest_end {cur : Cursor} {rest : List UInt8} (h : cur.ahead = 0x5D :: rest) :
    nextElementRequest.run.run cur = (.ok false, cur) := by
  have solid : ∀ c ∈ cur.ahead.head?, isBlank c = false := by simp [h]; decide
  simp [nextElementRequest, run_bind, run_get, skipBlanks_of_not_blank solid, h]
  rfl

theorem depth_le_itemsDepth {items : List Json} {j : Json} (mem : j ∈ items) :
    j.depth ≤ itemsDepth items := by
  induction items with
  | nil => cases mem
  | cons item items ih =>
    rw [itemsDepth]
    rcases List.mem_cons.1 mem with rfl | later
    · exact Nat.le_max_left _ _
    · exact Nat.le_trans (ih later) (Nat.le_max_right _ _)

theorem integral_of_mem_items {items : List Json} {j : Json} (integral : itemsIntegral items)
    (mem : j ∈ items) : j.integral := by
  induction items with
  | nil => cases mem
  | cons item items ih =>
    simp only [itemsIntegral, Bool.and_eq_true] at integral
    rcases List.mem_cons.1 mem with rfl | later
    · exact integral.1
    · exact ih integral.2 later

/-- The items after the first: each is announced by a comma and read, until the closing bracket. -/
theorem collectElements_go_later {read : Scan α} {g : Json → α} {rest : List UInt8} :
    ∀ (todo : List Json) (acc : List α) (fuel : Nat) (cur : Cursor), cur.first = false →
      cur.ahead = todo.flatMap (fun j => 0x2C :: octets (compact j)) ++ 0x5D :: rest →
      todo.length < fuel → (∀ j ∈ todo, j.depth < cur.depth) →
      (∀ j ∈ todo, Reads read (octets (compact j)) j.depth (g j)) →
      (JsonSource.collectElements.go read fuel acc).run.run cur =
        (.ok (acc.reverse ++ todo.map g),
          cur.skip (todo.flatMap (fun j => 0x2C :: octets (compact j))).length) := by
  intro todo
  induction todo with
  | nil =>
    intro acc fuel cur _ h enough _ _
    obtain ⟨fuel, rfl⟩ : ∃ f, fuel = f + 1 := ⟨fuel - 1, by omega⟩
    simp only [List.flatMap_nil, List.nil_append] at h
    simp [JsonSource.collectElements.go, run_bind, nextElementRequest_end h]
    rfl
  | cons j todo ih =>
    intro acc fuel cur later h enough fit reads
    obtain ⟨fuel, rfl⟩ : ∃ f, fuel = f + 1 := ⟨fuel - 1, by omega⟩
    have deep := fit j (List.mem_cons_self ..)
    obtain ⟨b, T, text, opens⟩ := octets_compact_cons j
    have after : (cur.skip 1).ahead =
        octets (compact j) ++ (todo.flatMap (fun j => 0x2C :: octets (compact j)) ++ 0x5D :: rest) := by
      simp [h]
    have closes : Closes (todo.flatMap (fun j => 0x2C :: octets (compact j)) ++ 0x5D :: rest) := by
      cases todo <;> simp
    have value := reads j (List.mem_cons_self ..) (cur.skip 1) _ after closes deep
    have next := ih (g j :: acc) fuel ((cur.skip 1).skip (octets (compact j)).length) later
      (by rw [Cursor.ahead_skip, after, List.drop_left]) (by simp at enough; omega)
      (fun j' mem => fit j' (List.mem_cons_of_mem _ mem))
      (fun j' mem => reads j' (List.mem_cons_of_mem _ mem))
    rw [text, List.cons_append] at after
    rw [List.flatMap_cons, text] at h
    simp only [List.cons_append, List.append_assoc] at h
    simp only [JsonSource.collectElements.go, run_bind, nextElement_eq,
      nextElementRequest_later later h opens, ↓reduceIte, value]
    rw [next]
    simp only [Cursor.skip_skip, List.reverse_cons, List.append_assoc, List.singleton_append,
      List.map_cons, List.flatMap_cons, List.length_append, List.length_cons]
    congr 2
    omega

/-- Each item written after a separator takes at least the separator's octet. -/
theorem length_le_flatMap_cons {β : Type} (sep : UInt8) (text : β → List UInt8) (L : List β) :
    L.length ≤ (L.flatMap fun x => sep :: text x).length := by
  induction L with
  | nil => simp
  | cons x L ih => simp only [List.flatMap_cons, List.length_append, List.length_cons]; omega

/-- The sequence reader reads the contents of a printed array item by item. -/
theorem collectElements_reads {read : Scan α} {g : Json → α} {items : List Json}
    (reads : ∀ j ∈ items, Reads read (octets (compact j)) j.depth (g j)) :
    ReadsContents (JsonSource.collectElements read) (octets (compactItems items)) 0x5D (itemsDepth items)
      (items.map g) := by
  intro cur rest first h deep
  have room := size_of_ahead
    (show cur.ahead = (octets (compactItems items) ++ [0x5D]) ++ rest by simpa using h) (by simp)
  simp only [JsonSource.collectElements, run_bind, budget_eq, remaining_run]
  cases items with
  | nil =>
    -- an empty array: the closing bracket comes at once
    refine ⟨cur.first, ?_⟩
    have empty : octets (compactItems []) = [] := rfl
    rw [empty, List.nil_append] at h
    simp [JsonSource.collectElements.go, run_bind, nextElementRequest_end h, empty]
    rfl
  | cons j todo =>
    refine ⟨false, ?_⟩
    rw [octets_compactItems_cons] at h room ⊢
    have fit : ∀ j' ∈ j :: todo, j'.depth < cur.depth := fun j' mem =>
      Nat.lt_of_le_of_lt (depth_le_itemsDepth mem) deep
    obtain ⟨b, T, text, opens⟩ := octets_compact_cons j
    have marked : ({ cur with first := false } : Cursor).ahead =
        octets (compact j) ++ (todo.flatMap (fun j => 0x2C :: octets (compact j)) ++ 0x5D :: rest) := by
      simp only [List.append_assoc] at h
      exact h
    have closes : Closes (todo.flatMap (fun j => 0x2C :: octets (compact j)) ++ 0x5D :: rest) := by
      cases todo <;> simp
    have value := reads j (List.mem_cons_self ..) _ _ marked closes (fit j (List.mem_cons_self ..))
    have next := collectElements_go_later todo [g j] (cur.bytes.size - cur.index)
      (({ cur with first := false } : Cursor).skip (octets (compact j)).length) rfl
      (by rw [Cursor.ahead_skip, marked, List.drop_left])
      (by have := length_le_flatMap_cons 0x2C (fun j => octets (compact j)) todo
          simp only [List.length_append, List.length_cons, List.length_nil] at room this; omega)
      (fun j' mem => fit j' (List.mem_cons_of_mem _ mem))
      (fun j' mem => reads j' (List.mem_cons_of_mem _ mem))
    rw [text] at h
    simp only [List.cons_append] at h
    simp only [JsonSource.collectElements.go, run_bind, nextElement_eq,
      nextElementRequest_first first h opens, ↓reduceIte, value, next]
    simp [Cursor.skip, Nat.add_assoc]

/-! ## Maps -/

theorem nextKeyRequest_first {cur : Cursor} {key : String} {more : List UInt8}
    (first : cur.first = true) (h : cur.ahead = octets (quote key) ++ more) :
    nextKeyRequest.run.run cur =
      (.ok (some key), ({ cur with first := false } : Cursor).skip (octets (quote key)).length) := by
  rw [octets_quote] at h ⊢
  have quote : ∀ c ∈ cur.ahead.head?, isBlank c = false := by simp [h]; decide
  have body : (({ cur with first := false } : Cursor).skip 1).ahead =
      literalOctets key.toList ++ 0x22 :: more := by
    show (cur.skip 1).ahead = _
    simp [h]
  simp [nextKeyRequest, run_bind, run_get, skipBlanks_of_not_blank quote, h, first, markItem,
    run_modify, eat_run, stringBody_literal body, Nat.add_comm]
  rfl

theorem nextKeyRequest_later {cur : Cursor} {key : String} {more : List UInt8}
    (later : cur.first = false) (h : cur.ahead = 0x2C :: (octets (quote key) ++ more)) :
    nextKeyRequest.run.run cur = (.ok (some key), cur.skip (1 + (octets (quote key)).length)) := by
  rw [octets_quote] at h ⊢
  have comma : ∀ c ∈ cur.ahead.head?, isBlank c = false := by simp [h]; decide
  have quote : ∀ c ∈ (cur.skip 1).ahead.head?, isBlank c = false := by simp [h]; decide
  have h' : (cur.skip 1).ahead = 0x22 :: (literalOctets key.toList ++ 0x22 :: more) := by simp [h]
  have body : (cur.skip 2).ahead = literalOctets key.toList ++ 0x22 :: more := by
    rw [Cursor.ahead_skip, h]
    simp
  simp [nextKeyRequest, run_bind, run_get, skipBlanks_of_not_blank comma, h, later, eat_run,
    skipBlanks_of_not_blank quote, h', stringBody_literal body]
  show (Except.ok (some key), cur.skip (2 + ((literalOctets key.toList).length + 1))) = _
  congr 2
  omega

theorem nextKeyRequest_end {cur : Cursor} {rest : List UInt8} (h : cur.ahead = 0x7D :: rest) :
    nextKeyRequest.run.run cur = (.ok none, cur) := by
  have solid : ∀ c ∈ cur.ahead.head?, isBlank c = false := by simp [h]; decide
  simp [nextKeyRequest, run_bind, run_get, skipBlanks_of_not_blank solid, h]
  rfl

theorem entryRequest_run {read : Scan α} {cur : Cursor} {more : List UInt8}
    (h : cur.ahead = 0x3A :: more) : (entryRequest read).run.run cur = read.run.run (cur.skip 1) := by
  have colon : ∀ c ∈ cur.ahead.head?, isBlank c = false := by simp [h]; decide
  simp [entryRequest, run_bind, skipBlanks_of_not_blank colon, h, eat_run]

theorem depth_le_entriesDepth {entries : List (String × Json)} {e : String × Json}
    (mem : e ∈ entries) : e.2.depth ≤ entriesDepth entries := by
  induction entries with
  | nil => cases mem
  | cons entry entries ih =>
    obtain ⟨key, value⟩ := entry
    rw [entriesDepth]
    rcases List.mem_cons.1 mem with rfl | later
    · exact Nat.le_max_left _ _
    · exact Nat.le_trans (ih later) (Nat.le_max_right _ _)

section Fold

variable {σ : Type} {step : σ → String → Scan σ} {F : σ → String × Json → σ}

/-- Run after a key, `step` reads the colon and the entry's value and folds the entry in, provided
more than `d` levels of nesting are left. -/
def StepsThrough (step : σ → String → Scan σ) (F : σ → String × Json → σ) (init : σ) (d : Nat)
    (entries : List (String × Json)) : Prop :=
  ∀ pre e post, entries = pre ++ e :: post →
    Reads (step (pre.foldl F init) e.1) (0x3A :: octets (compact e.2)) d (F (pre.foldl F init) e)

variable {d : Nat}

theorem StepsThrough.head {init : σ} {e : String × Json} {entries : List (String × Json)}
    (steps : StepsThrough step F init d (e :: entries)) :
    Reads (step init e.1) (0x3A :: octets (compact e.2)) d (F init e) :=
  steps [] e entries rfl

theorem StepsThrough.tail {init : σ} {e : String × Json} {entries : List (String × Json)}
    (steps : StepsThrough step F init d (e :: entries)) : StepsThrough step F (F init e) d entries := by
  intro pre e' post split
  exact steps (e :: pre) e' post (by rw [split]; rfl)

theorem StepsThrough.cons {init : σ} {e : String × Json} {entries : List (String × Json)}
    (head : Reads (step init e.1) (0x3A :: octets (compact e.2)) d (F init e))
    (tail : StepsThrough step F (F init e) d entries) : StepsThrough step F init d (e :: entries) := by
  intro pre e' post split
  cases pre with
  | nil =>
    obtain ⟨rfl, rfl⟩ := List.cons.inj split
    exact head
  | cons p pre =>
    obtain ⟨rfl, rest⟩ := List.cons.inj split
    exact tail pre e' post rest

theorem StepsThrough.nil (init : σ) : StepsThrough step F init d [] := by
  intro pre e post split
  simp at split

theorem StepsThrough.append {init : σ} {front back : List (String × Json)}
    (first : StepsThrough step F init d front) (later : StepsThrough step F (front.foldl F init) d back) :
    StepsThrough step F init d (front ++ back) := by
  induction front generalizing init with
  | nil => exact later
  | cons e front ih => exact StepsThrough.cons first.head (ih first.tail later)

/-- Entries each read by their step and each leaving the fold where it was. -/
theorem StepsThrough.of_fixed {acc : σ} {entries : List (String × Json)}
    (fixed : ∀ e ∈ entries, F acc e = acc ∧
      Reads (step acc e.1) (0x3A :: octets (compact e.2)) d acc) :
    StepsThrough step F acc d entries := by
  induction entries with
  | nil => exact StepsThrough.nil acc
  | cons e entries ih =>
    obtain ⟨same, reads⟩ := fixed e (List.mem_cons_self ..)
    apply StepsThrough.cons (by rw [same]; exact reads)
    rw [same]
    exact ih fun e' mem => fixed e' (List.mem_cons_of_mem _ mem)

/-- The entries after the first: each is announced by a comma, its key read and its value
stepped through, until the closing brace. -/
theorem foldEntries_go_later {rest : List UInt8} :
    ∀ (todo : List (String × Json)) (acc : σ) (fuel : Nat) (cur : Cursor), cur.first = false →
      cur.ahead = todo.flatMap (fun e => 0x2C :: entryOctets e) ++ 0x7D :: rest →
      todo.length < fuel → d < cur.depth → StepsThrough step F acc d todo →
      (JsonSource.foldEntries.go step fuel acc).run.run cur =
        (.ok (todo.foldl F acc), cur.skip (todo.flatMap (fun e => 0x2C :: entryOctets e)).length) := by
  intro todo
  induction todo with
  | nil =>
    intro acc fuel cur _ h enough _ _
    obtain ⟨fuel, rfl⟩ : ∃ f, fuel = f + 1 := ⟨fuel - 1, by omega⟩
    simp only [List.flatMap_nil, List.nil_append] at h
    simp [JsonSource.foldEntries.go, run_bind, nextKeyRequest_end h]
    rfl
  | cons e todo ih =>
    intro acc fuel cur later h enough deep steps
    obtain ⟨fuel, rfl⟩ : ∃ f, fuel = f + 1 := ⟨fuel - 1, by omega⟩
    obtain ⟨key, value⟩ := e
    have key' : cur.ahead = 0x2C :: (octets (quote key) ++ (0x3A :: octets (compact value) ++
        (todo.flatMap (fun e => 0x2C :: entryOctets e) ++ 0x7D :: rest))) := by
      rw [h]
      simp [entryOctets]
    have atColon : (cur.skip (1 + (octets (quote key)).length)).ahead =
        0x3A :: octets (compact value) ++ (todo.flatMap (fun e => 0x2C :: entryOctets e) ++ 0x7D :: rest) := by
      rw [Cursor.ahead_skip, key', Nat.add_comm, List.drop_succ_cons, List.drop_left]
    have closes : Closes (todo.flatMap (fun e => 0x2C :: entryOctets e) ++ 0x7D :: rest) := by
      cases todo <;> simp
    have value' := steps.head _ _ atColon closes deep
    have next := ih (F acc (key, value)) fuel
      ((cur.skip (1 + (octets (quote key)).length)).skip (0x3A :: octets (compact value)).length) later
      (by rw [Cursor.ahead_skip, atColon, List.drop_left])
      (by simp at enough; omega) deep steps.tail
    simp only [JsonSource.foldEntries.go, run_bind, nextKey_eq, nextKeyRequest_later later key',
      value', next]
    simp only [Cursor.skip_skip, List.foldl_cons, List.flatMap_cons, List.length_append,
      List.length_cons, entryOctets]
    congr 2
    omega

/-- The map reader folds the entries of a printed object in order. -/
theorem foldEntries_reads {init : σ} {entries : List (String × Json)}
    (steps : StepsThrough step F init d entries) :
    ReadsContents (JsonSource.foldEntries init step) (octets (compactEntries entries)) 0x7D d
      (entries.foldl F init) := by
  intro cur rest first h deep
  have room := size_of_ahead
    (show cur.ahead = (octets (compactEntries entries) ++ [0x7D]) ++ rest by simpa using h) (by simp)
  simp only [JsonSource.foldEntries, run_bind, budget_eq, remaining_run]
  cases entries with
  | nil =>
    -- an empty object: the closing brace comes at once
    refine ⟨cur.first, ?_⟩
    have empty : octets (compactEntries []) = [] := rfl
    rw [empty, List.nil_append] at h
    simp [JsonSource.foldEntries.go, run_bind, nextKeyRequest_end h, empty]
    rfl
  | cons e todo =>
    refine ⟨false, ?_⟩
    obtain ⟨key, value⟩ := e
    rw [octets_compactEntries_cons] at h room ⊢
    have key' : cur.ahead = octets (quote key) ++ (0x3A :: octets (compact value) ++
        (todo.flatMap (fun e => 0x2C :: entryOctets e) ++ 0x7D :: rest)) := by
      rw [h]
      simp [entryOctets]
    have atColon : (({ cur with first := false } : Cursor).skip (octets (quote key)).length).ahead =
        0x3A :: octets (compact value) ++ (todo.flatMap (fun e => 0x2C :: entryOctets e) ++ 0x7D :: rest) := by
      show (cur.skip _).ahead = _
      rw [Cursor.ahead_skip, key', List.drop_left]
    have closes : Closes (todo.flatMap (fun e => 0x2C :: entryOctets e) ++ 0x7D :: rest) := by
      cases todo <;> simp
    have value' := steps.head _ _ atColon closes deep
    have next := foldEntries_go_later todo (F init (key, value)) (cur.bytes.size - cur.index)
      ((({ cur with first := false } : Cursor).skip (octets (quote key)).length).skip
        (0x3A :: octets (compact value)).length) rfl
      (by rw [Cursor.ahead_skip, atColon, List.drop_left])
      (by have := length_le_flatMap_cons 0x2C entryOctets todo
          simp only [entryOctets, List.length_append, List.length_cons, List.length_nil] at room this
          omega)
      deep steps.tail
    simp only [JsonSource.foldEntries.go, run_bind, nextKey_eq, nextKeyRequest_first first key',
      value', next]
    simp only [Cursor.skip, List.foldl_cons, entryOctets, List.length_append, List.length_cons]
    congr 2
    omega

end Fold

theorem integral_of_mem_entries {entries : List (String × Json)} {e : String × Json}
    (integral : entriesIntegral entries) (mem : e ∈ entries) : e.2.integral := by
  induction entries with
  | nil => cases mem
  | cons entry entries ih =>
    obtain ⟨key, value⟩ := entry
    simp only [entriesIntegral, Bool.and_eq_true] at integral
    rcases List.mem_cons.1 mem with rfl | later
    · exact integral.1
    · exact ih integral.2 later

/-- A reader that stops right after a text with fewer levels of nesting left stops there with
more. -/
theorem Reads.mono {x : Scan α} {T : List UInt8} {d d' : Nat} {a : α} (reads : Reads x T d a)
    (le : d ≤ d') : Reads x T d' a :=
  fun cur rest h closes deep => reads cur rest h closes (Nat.lt_of_le_of_lt le deep)

/-- A reader followed by a step that, on what it read, only returns a value. -/
theorem Reads.bind_of_pure {β : Type} {x : Scan α} {f : α → Scan β} {T : List UInt8} {d : Nat}
    {a : α} {b : β} (reads : Reads x T d a) (next : f a = pure b) : Reads (x >>= f) T d b := by
  intro cur rest h closes deep
  simp only [run_bind, reads cur rest h closes deep, next]
  rfl

theorem Reads.bind_pure {β : Type} {x : Scan α} {T : List UInt8} {d : Nat} {a : α} (f : α → β)
    (reads : Reads x T d a) : Reads (x >>= fun v => pure (f v)) T d (f a) :=
  reads.bind_of_pure rfl

theorem Reads.map {β : Type} {x : Scan α} {T : List UInt8} {d : Nat} {a : α} (f : α → β)
    (reads : Reads x T d a) : Reads (f <$> x) T d (f a) := by
  rw [map_eq_pure_bind]
  exact reads.bind_pure f

theorem ReadsContents.bind_of_pure {β : Type} {body : Scan α} {f : α → Scan β} {T : List UInt8}
    {ending : UInt8} {d : Nat} {a : α} {b : β} (reads : ReadsContents body T ending d a)
    (next : f a = pure b) : ReadsContents (body >>= f) T ending d b := by
  intro cur rest first h deep
  obtain ⟨first', run⟩ := reads cur rest first h deep
  exact ⟨first', by simp only [run_bind, run, next]; rfl⟩

theorem ReadsContents.bind_pure {β : Type} {body : Scan α} {T : List UInt8} {ending : UInt8}
    {d : Nat} {a : α} (f : α → β) (reads : ReadsContents body T ending d a) :
    ReadsContents (body >>= fun v => pure (f v)) T ending d (f a) :=
  reads.bind_of_pure rfl

theorem ReadsContents.map {β : Type} {body : Scan α} {T : List UInt8} {ending : UInt8}
    {d : Nat} {a : α} (f : α → β) (reads : ReadsContents body T ending d a) :
    ReadsContents (f <$> body) T ending d (f a) := by
  rw [map_eq_pure_bind]
  exact reads.bind_pure f

theorem Reads.entry {x : Scan α} {T : List UInt8} {d : Nat} {a : α} (reads : Reads x T d a) :
    Reads (entryRequest x) (0x3A :: T) d a := by
  intro cur rest h closes deep
  rw [entryRequest_run h, reads (cur.skip 1) rest (by simp [h]) closes deep]
  simp [Nat.add_comm]

/-- The value reader reads the text of every integral value back to the value, entries as
written, provided its nesting fits the fuel. -/
theorem rawJson_reads : ∀ (fuel : Nat) (j : Json), j.integral → j.depth < fuel →
    Reads (JsonSource.rawJson fuel) (octets (compact j)) j.depth j := by
  intro fuel
  induction fuel with
  | zero => intro j _ shallow; omega
  | succ fuel ih =>
    intro j integral shallow
    cases j with
    | null => exact valueRequest_scalar .null rfl rfl
    | bool value => exact valueRequest_scalar (.bool value) rfl rfl
    | number value => exact valueRequest_scalar (.number value) integral rfl
    | string text => exact valueRequest_scalar (.string text) rfl rfl
    | array items =>
      -- every item is read by the value reader one level down
      apply valueRequest_array
      have each : ∀ item ∈ items, Reads (JsonSource.rawJson fuel) (octets (compact item)) item.depth (id item) :=
        fun item mem => ih item (integral_of_mem_items integral mem)
          (by have := depth_le_itemsDepth mem; rw [depth] at shallow; omega)
      have contents := (collectElements_reads each).map Json.array
      rwa [List.map_id] at contents
    | object entries =>
      -- every entry is read by the value reader one level down and put in front of the others
      rw [depth]
      apply valueRequest_object
      have steps : StepsThrough (fun acc key => do
          let item ← entryRequest (JsonSource.rawJson fuel)
          pure ((key, item) :: acc)) (fun acc e => e :: acc) [] (entriesDepth entries) entries := by
        intro pre e post split
        have mem : e ∈ entries := by rw [split]; simp
        exact ((ih e.2 (integral_of_mem_entries integral mem)
          (by have := depth_le_entriesDepth mem; rw [depth] at shallow; omega)).mono
          (depth_le_entriesDepth mem)).entry.bind_pure
          (fun item => (e.1, item) :: pre.foldl (fun acc e => e :: acc) [])
      have contents := (foldEntries_reads steps).bind_pure fun entries => Json.object entries.reverse
      simp only [List.foldl_flip_cons_eq_append, List.append_nil, List.reverse_reverse,
        List.map_id'] at contents
      exact contents

end Scan

namespace Json

open Scan

/-- A decoder that reads the text of a value reads the whole printed text, nesting permitting. -/
theorem decodeText_compact {α : Type} {x : Scan α} {j : Json} {d : Nat} {a : α}
    (reads : Reads x (octets (compact j)) d a) (shallow : d < 128) :
    decodeText (compact j).toUTF8 x = .ok a := by
  let start : Cursor := { bytes := (compact j).toUTF8, index := 0, depth := 128, first := true }
  have whole : start.ahead = octets (compact j) ++ [] := by
    simp [start, Cursor.ahead, octets]
  have value := reads start [] whole closes_nil shallow
  have ended : (start.skip (octets (compact j)).length).ahead = [] := by
    rw [Cursor.ahead_skip, whole, List.append_nil, List.drop_length]
  have solid : ∀ b ∈ (start.skip (octets (compact j)).length).ahead.head?, isBlank b = false := by
    rw [ended]
    simp
  have blanks := skipBlanks_of_not_blank solid
  rw [ended] at blanks
  simp only [decodeText, run_bind]
  erw [value]
  simp only [blanks, List.head?_nil]
  rfl

/-- Parsing the compact text of an integral value gives back its normal form, when it nests
less than 128 deep. -/
theorem parseBytes_compact (j : Json) (integral : j.integral) (shallow : j.depth < 128) :
    parseBytes (compact j).toUTF8 = .ok j.normalize :=
  decodeText_compact ((rawJson_reads 130 j integral (by omega)).bind_pure normalize) shallow

end Json

end Switchboard
