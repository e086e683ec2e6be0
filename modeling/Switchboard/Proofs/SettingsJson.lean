import Switchboard.Proofs.CompactReading
import Switchboard.Proofs.PolicyTexts
import Switchboard.Client.Settings

/-!
# Settings in JSON

Settings are written to JSON as a map of their seven fields: durations and the policy in text
form, counts as numbers. Read back, the text gives the same settings, for every settings whose
durations have whole seconds that fit in 64 bits and whose counts fit in 64 bits
(`Settings.decodeText_toJson`). A policy on its own is written as the JSON string of its text form
and reads back in the same way (`OverflowPolicy.decodeText_text`).

Each entry of the map is read into its own field (`Settings.readEntry_reads`); what the entries
read so far have set is said by `Settings.copyField`, which takes a field from the settings
written.
-/

namespace Switchboard

open Json Scan

namespace OverflowPolicy

/-- A policy is read back from the JSON string of its text form. -/
theorem read_reads {p : OverflowPolicy} (fits : p.Fits) :
    Reads (read : Scan OverflowPolicy) (octets (compact (.string p.text))) 0 p := by
  unfold read JsonSource.string
  simp only [scalar_eq]
  refine Reads.bind_of_pure (scalarRequest_scalar (.string p.text) rfl rfl) ?_
  rw [parse_text fits]

theorem decodeText_text {p : OverflowPolicy} (fits : p.Fits) :
    decodeText (compact (.string p.text)).toUTF8 read = .ok p :=
  decodeText_compact (read_reads fits) (by decide)

end OverflowPolicy

namespace Settings

/-- Settings whose durations have whole seconds that fit in 64 bits and whose counts fit in 64
bits. -/
structure Fits (c : Settings) : Prop where
  receiveTimeout : c.receiveTimeout.Fits
  sendTimeout : c.sendTimeout.Fits
  settleDelay : c.settleDelay.Fits
  authRetryDelay : c.authRetryDelay.Fits
  listenerCapacity : c.listenerCapacity < 2 ^ 64
  deliveryBuffer : c.deliveryBuffer < 2 ^ 64
  overflowPolicy : c.overflowPolicy.Fits

instance : DecidablePred Fits := fun c =>
  decidable_of_iff (c.receiveTimeout.Fits ∧ c.sendTimeout.Fits ∧ c.settleDelay.Fits ∧
      c.authRetryDelay.Fits ∧ c.listenerCapacity < 2 ^ 64 ∧ c.deliveryBuffer < 2 ^ 64 ∧
      c.overflowPolicy.Fits)
    ⟨fun ⟨a, b, d, e, f, g, h⟩ => ⟨a, b, d, e, f, g, h⟩,
      fun ⟨a, b, d, e, f, g, h⟩ => ⟨a, b, d, e, f, g, h⟩⟩

/-- A duration is read back from the JSON string of its human form. -/
theorem readDuration_reads {d : Duration} (fits : d.Fits) :
    Reads (readDuration : Scan Duration) (octets (compact (.string (Human.format d)))) 0 d := by
  unfold readDuration
  simp only [scalar_eq]
  exact scalarRequest_scalar (.string (Human.format d)) rfl (by simp [Human.parse_format d fits])

/-- A count that fits in 64 bits is read back from its JSON number. -/
theorem readCount_reads {n : Nat} (fits : n < 2 ^ 64) :
    Reads (readCount : Scan Nat) (octets (compact (.number (.natural (UInt64.ofNat n))))) 0 n := by
  unfold readCount JsonSource.count64
  simp only [scalar_eq]
  have small : (UInt64.ofNat n).toNat = n := by
    rw [UInt64.toNat_ofNat', Nat.mod_eq_of_lt fits]
  have accepts : JsonSource.acceptInteger "usize" 0 18446744073709551615
      (.number (.natural (UInt64.ofNat n))) = .ok (n : Int) := by
    simp only [JsonSource.acceptInteger, small]
    rw [if_pos (by omega)]
  have scalar : Reads (scalarRequest "usize" (JsonSource.acceptInteger "usize" 0 18446744073709551615))
      (octets (compact (.number (.natural (UInt64.ofNat n))))) 0 (n : Int) :=
    scalarRequest_scalar (.number (.natural (UInt64.ofNat n))) rfl accepts
  have reads := (scalar.bind_pure fun value : Int => UInt64.ofNat value.toNat).bind_pure UInt64.toNat
  simpa only [Int.toNat_natCast, small] using reads

/-- The entries of the JSON map of settings. -/
def entries (c : Settings) : List (String × Json) :=
  [("receive_timeout", .string (Human.format c.receiveTimeout)),
    ("send_timeout", .string (Human.format c.sendTimeout)),
    ("settle_delay", .string (Human.format c.settleDelay)),
    ("auth_retry_delay", .string (Human.format c.authRetryDelay)),
    ("listener_capacity", .number (.natural (UInt64.ofNat c.listenerCapacity))),
    ("delivery_buffer", .number (.natural (UInt64.ofNat c.deliveryBuffer))),
    ("overflow_policy", .string c.overflowPolicy.text)]

theorem toJson_eq (c : Settings) : c.toJson = .object c.entries := rfl

/-- `s` with the field named `key` as `c` has it; a name of no field changes nothing. -/
def copyField (c s : Settings) (key : String) : Settings :=
  if key = "receive_timeout" then { s with receiveTimeout := c.receiveTimeout }
  else if key = "send_timeout" then { s with sendTimeout := c.sendTimeout }
  else if key = "settle_delay" then { s with settleDelay := c.settleDelay }
  else if key = "auth_retry_delay" then { s with authRetryDelay := c.authRetryDelay }
  else if key = "listener_capacity" then { s with listenerCapacity := c.listenerCapacity }
  else if key = "delivery_buffer" then { s with deliveryBuffer := c.deliveryBuffer }
  else if key = "overflow_policy" then { s with overflowPolicy := c.overflowPolicy }
  else s

/-- Each entry of the map is read into its own field, and its key is noted as read, when it has
not been read before. -/
theorem readEntry_reads {c : Settings} (fits : c.Fits) {e : String × Json} (mem : e ∈ c.entries)
    (acc : Settings × List String) (unseen : e.1 ∉ acc.2) :
    Reads (readEntry acc e.1 : Scan (Settings × List String)) (0x3A :: octets (compact e.2)) 0
      (c.copyField acc.1 e.1, e.1 :: acc.2) := by
  obtain ⟨s, seen⟩ := acc
  simp only [entries, List.mem_cons, List.not_mem_nil, or_false] at mem
  rcases mem with rfl | rfl | rfl | rfl | rfl | rfl | rfl <;>
    simp only at unseen ⊢ <;>
    simp [readEntry, fieldNames, copyField, unseen]
  · exact ((readDuration_reads fits.receiveTimeout).bind_pure _).entry.bind_pure _
  · exact ((readDuration_reads fits.sendTimeout).bind_pure _).entry.bind_pure _
  · exact ((readDuration_reads fits.settleDelay).bind_pure _).entry.bind_pure _
  · exact ((readDuration_reads fits.authRetryDelay).bind_pure _).entry.bind_pure _
  · exact ((readCount_reads fits.listenerCapacity).bind_pure _).entry.bind_pure _
  · exact ((readCount_reads fits.deliveryBuffer).bind_pure _).entry.bind_pure _
  · exact ((OverflowPolicy.read_reads fits.overflowPolicy).bind_pure _).entry.bind_pure _

/-- The keys of the map are distinct. -/
theorem entries_keys_nodup (c : Settings) : (c.entries.map Prod.fst).Nodup := by
  simp [entries]

/-- What reading the entries before one has noted: their keys, the latest first. -/
theorem foldl_seen (c : Settings) : ∀ (pre : List (String × Json)) (acc : Settings × List String),
    (pre.foldl (fun acc e => (c.copyField acc.1 e.1, e.1 :: acc.2)) acc).2 =
      (pre.map Prod.fst).reverse ++ acc.2
  | [], _ => rfl
  | e :: pre, acc => by
    rw [List.foldl_cons, foldl_seen c pre]
    simp

/-- Reading every entry of the map copies every field. -/
theorem foldl_copyField (c s : Settings) (seen : List String) :
    (c.entries.foldl (fun acc e => (c.copyField acc.1 e.1, e.1 :: acc.2)) (s, seen)).1 = c := by
  simp [entries, copyField]

/-- Settings are read back from their JSON map. -/
theorem read_reads {c : Settings} (fits : c.Fits) :
    Reads (read : Scan Settings) (octets (compact c.toJson)) 1 c := by
  unfold read JsonSource.record
  simp only [value_eq, toJson_eq]
  apply valueRequest_object (d := 0)
  refine ReadsContents.bind_of_pure
    (foldEntries_reads (F := fun acc e => (c.copyField acc.1 e.1, e.1 :: acc.2)) ?steps) ?done
  case steps =>
    -- an entry is read once: the keys before it are others
    intro pre e post split
    have distinct := entries_keys_nodup c
    rw [split, List.map_append, List.map_cons, List.nodup_append] at distinct
    refine readEntry_reads fits (by rw [split]; simp) _ ?_
    rw [foldl_seen, List.append_nil, List.mem_reverse]
    exact fun mem => distinct.2.2 e.1 mem e.1 List.mem_cons_self rfl
  case done => rw [foldl_copyField]

theorem decodeText_toJson {c : Settings} (fits : c.Fits) :
    decodeText (compact c.toJson).toUTF8 read = .ok c :=
  decodeText_compact (read_reads fits) (by decide)

/-- Policies and settings a client can hold, with durations whose whole seconds fit in 64 bits
and counts that fit in 64 bits, read back from what is written for them: the text form of a
policy reads back to it, and so does the JSON string of that text; every policy read from a text
has a text form that reads back to it, so that form is a normal form; and settings read back from
their JSON text. -/
theorem policy_and_settings_read_back :
    (∀ p : OverflowPolicy, p.Fits →
        OverflowPolicy.parse p.text = .ok p ∧
          decodeText (compact (.string p.text)).toUTF8 OverflowPolicy.read = .ok p) ∧
    (∀ (text : String) (p : OverflowPolicy), OverflowPolicy.parse text = .ok p →
        OverflowPolicy.parse p.text = .ok p) ∧
    (∀ c : Settings, c.Fits → decodeText (compact c.toJson).toUTF8 read = .ok c) :=
  ⟨fun _ fits => ⟨OverflowPolicy.parse_text fits, OverflowPolicy.decodeText_text fits⟩,
    fun _ _ parsed => OverflowPolicy.parse_text_of_parse parsed,
    fun _ fits => decodeText_toJson fits⟩

end Settings

end Switchboard
