import Moqtap.ByteCursor
import Moqtap.TraceEvents

/-! An event's map that was read and is written again.

What a reader takes from the map it finds again in what is written, and what it keeps unread stands
behind the fields in the encoding the format asks for; the two are settled together
(`written_settled`), so a second pass changes nothing. -/
namespace Moqtap.Trace
open Cbor

/-! ## What was read -/

open ByteCursor (except_bind_iff)

theorem require_ok {key : String} {got : Option α} {a : α} : require key got = .ok a ↔ got = some a := by
  unfold require
  cases got <;> simp

theorem getTraceId_ok {pairs : List (Value × Value)} {traceId : Option TraceId}
    (read : getTraceId pairs = .ok traceId) : traceId = none → getBytes pairs "traceId" = none := by
  rintro rfl
  unfold getTraceId at read
  split at read
  · assumption
  · split at read <;> simp at read

theorem parsed_canonical {κ : Type} [Spelling κ] (text : Option String) :
    ∀ name ∈ text.map (OpenEnum.parse : String → OpenEnum κ), name.Canonical := by
  intro name parsed
  obtain ⟨s, -, rfl⟩ := Option.map_eq_some_iff.mp parsed
  exact OpenEnum.parse_canonical s

/-- What is known of an event read: its type, that nothing could be used for a key it leaves out,
and where the value it does not read comes from. -/
theorem readData_ok {pairs : List (Value × Value)} {peer : Option String} {eventType : UInt64}
    {data : EventData} (read : readData pairs peer eventType = .ok data) :
    data.eventType = eventType ∧ data.Canonical ∧ data.Unread pairs ∧
      (∀ v ∈ data.unreadValue, v = .map [] ∨ ∃ key, getValue pairs key = some v) ∧
      ∀ eventType fields, data = .unknown eventType fields →
        10 < eventType.toNat ∧ fields = unrecognised pairs (writesCommonKey peer) := by
  unfold readData at read
  split at read
  case h_1 type =>
    simp only [except_bind_iff] at read
    obtain ⟨direction, -, messageType, -, same⟩ := read
    cases same
    refine ⟨UInt64.toNat_inj.mp type.symm, trivial, ⟨id, id⟩, fun v held => ?_, nofun⟩
    cases held
    unfold getMessage
    cases message : getValue pairs "msg" with
    | none => exact .inl rfl
    | some v => exact .inr ⟨"msg", message⟩
  case h_2 type =>
    simp only [except_bind_iff] at read
    obtain ⟨_, -, streamId, -, direction, -, streamType, -, same⟩ := read
    cases same
    exact ⟨UInt64.toNat_inj.mp type.symm, trivial, ⟨id, id, id, id, id⟩, nofun, nofun⟩
  case h_3 type =>
    simp only [except_bind_iff] at read
    obtain ⟨streamId, -, errorCode, -, same⟩ := read
    cases same
    exact ⟨UInt64.toNat_inj.mp type.symm, trivial, trivial, nofun, nofun⟩
  case h_4 type =>
    simp only [except_bind_iff] at read
    obtain ⟨streamId, -, group, -, object, -, publisherPriority, -, objectStatus, -, same⟩ := read
    cases same
    exact ⟨UInt64.toNat_inj.mp type.symm, trivial, trivial, nofun, nofun⟩
  case h_5 type =>
    simp only [except_bind_iff] at read
    obtain ⟨streamId, -, group, -, object, -, size, -, same⟩ := read
    cases same
    exact ⟨UInt64.toNat_inj.mp type.symm, trivial, id, nofun, nofun⟩
  case h_6 type =>
    simp only [except_bind_iff] at read
    obtain ⟨source, -, target, -, same⟩ := read
    cases same
    exact ⟨UInt64.toNat_inj.mp type.symm, trivial, trivial, nofun, nofun⟩
  case h_7 type =>
    simp only [except_bind_iff] at read
    obtain ⟨errorCode, -, reason, -, same⟩ := read
    cases same
    exact ⟨UInt64.toNat_inj.mp type.symm, parsed_canonical _, ⟨id, Option.map_eq_none_iff.mp, id, id⟩, nofun, nofun⟩
  case h_8 type =>
    simp only [except_bind_iff] at read
    obtain ⟨label, -, data, held, same⟩ := read
    cases same
    refine ⟨UInt64.toNat_inj.mp type.symm, trivial, trivial, fun v held' => ?_, nofun⟩
    cases held'
    exact .inr ⟨"data", require_ok.mp held⟩
  case h_9 type =>
    cases read
    exact ⟨UInt64.toNat_inj.mp type.symm, ⟨parsed_canonical _, parsed_canonical _⟩,
      ⟨id, id, Option.map_eq_none_iff.mp, Option.map_eq_none_iff.mp⟩, nofun, nofun⟩
  case h_10 type =>
    simp only [except_bind_iff] at read
    obtain ⟨errorCode, -, same⟩ := read
    cases same
    exact ⟨UInt64.toNat_inj.mp type.symm, trivial, id, nofun, nofun⟩
  case h_11 type =>
    simp only [except_bind_iff] at read
    obtain ⟨_, -, upstream, -, _, -, downstream, -, kind, -, traceId, id', same⟩ := read
    cases same
    refine ⟨UInt64.toNat_inj.mp type.symm, OpenEnum.parse_canonical kind,
      ⟨getTraceId_ok id', id, fun absent => ?_, id, id, id, id⟩, nofun, nofun⟩
    simpa using absent
  case h_12 =>
    cases read
    refine ⟨rfl, trivial, trivial, nofun, fun type fields same => ?_⟩
    cases same
    exact ⟨by grind, rfl⟩

/-! ## Written again -/

theorem namespacePart_normalised {v : Value} (plained : plain v = true) :
    namespacePart (normalised v) = namespacePart v := by
  rw [namespacePart, asBytes_normalised plained, asText_normalised]
  rfl

theorem asNamespace_normalised {v : Value} (plained : plain v = true) :
    asNamespace (normalised v) = asNamespace v := by
  cases v with
  | array items =>
    change (normalisedItems items).mapM namespacePart = items.mapM namespacePart
    change plainItems items = true at plained
    induction items with
    | nil => rfl
    | cons item items ih =>
      obtain ⟨here, rest⟩ : plain item = true ∧ plainItems items = true := by
        simpa [plainItems] using plained
      simp [normalisedItems, List.mapM_cons, namespacePart_normalised here, ih rest]
  | float f =>
    rcases normalised_float f with ⟨-, same⟩ | ⟨n, -, same⟩
    · rw [same]
    · rw [same]
      rfl
  | tag t inner =>
    rcases normalised_tag t inner with ⟨-, same⟩ | ⟨raw, -, same⟩
    · rw [same]
      rfl
    · rw [same]
      rfl
  | _ => rfl

/-- What gives no reader a key left out, where each getter that finds nothing finds nothing still. -/
theorem EventData.Unread.through {data : EventData} {pairs pairs' : List (Value × Value)}
    (unread : data.Unread pairs) (uint : ∀ key, getUint pairs key = none → getUint pairs' key = none)
    (int : ∀ key, getInt pairs key = none → getInt pairs' key = none)
    (text : ∀ key, getText pairs key = none → getText pairs' key = none)
    (bytes : ∀ key, getBytes pairs key = none → getBytes pairs' key = none)
    (ns : writesVariantKey data "ns" = false → getNamespace pairs = none → getNamespace pairs' = none) :
    data.Unread pairs' := by
  cases data with
  | controlMessage => exact unread.imp (uint _ ∘ ·) (bytes _ ∘ ·)
  | streamOpened =>
    obtain ⟨ta, sg, fri, g, hdr⟩ := unread
    exact ⟨uint _ ∘ ta, uint _ ∘ sg, uint _ ∘ fri, uint _ ∘ g, bytes _ ∘ hdr⟩
  | objectPayload => exact bytes _ ∘ unread
  | error =>
    obtain ⟨sid, ek, rawlen, raw⟩ := unread
    exact ⟨uint _ ∘ sid, text _ ∘ ek, uint _ ∘ rawlen, bytes _ ∘ raw⟩
  | peerConnected =>
    obtain ⟨endpoint, transport, role, side⟩ := unread
    exact ⟨text _ ∘ endpoint, text _ ∘ transport, text _ ∘ role, text _ ∘ side⟩
  | peerDisconnected => exact text _ ∘ unread
  | subscriptionDerivation =>
    obtain ⟨id, parts, tn, tdr, tus, tuo, tdo⟩ := unread
    refine ⟨bytes _ ∘ id, fun absent => ns ?_ (parts absent), fun absent => ?_, int _ ∘ tdr, int _ ∘ tus,
      int _ ∘ tuo, int _ ∘ tdo⟩
    · simp [writesVariantKey, among, absent]
    · exact (tn absent).imp (bytes _) (text _)
  | _ => trivial

/-- An event type's data as it is written. -/
def EventData.written (peer : Option String) : EventData → EventData
  | .controlMessage direction messageType message streamId raw =>
    .controlMessage direction messageType (normalised message) streamId raw
  | EventData.annotation label data => EventData.annotation label (normalised data)
  | .unknown eventType fields => .unknown eventType (storeEntries fields (writesCommonKey peer))
  | data => data

/-- What a rewritten event says: what it did, its values in the encoding the format asks for. -/
def TraceEvent.written (event : TraceEvent) : TraceEvent :=
  { event with
    data := event.data.written event.peer
    extra := storeEntries event.extra event.writesKey }

section Written
variable {event : TraceEvent} {pairs : List (Value × Value)}

theorem writesVariantKey_written {data : EventData} (known : ∀ eventType fields, data ≠ .unknown eventType fields)
    (peer : Option String) : writesVariantKey (data.written peer) = writesVariantKey data := by
  cases data with
  | unknown eventType fields => exact absurd rfl (known eventType fields)
  | _ => rfl

theorem fromValue_ok (read : TraceEvent.fromValue (.map pairs) = .ok event) :
    getText pairs "p" = event.peer ∧ readData pairs event.peer event.data.eventType = .ok event.data ∧
      event.extra = readExtra pairs event.peer event.data := by
  simp only [TraceEvent.fromValue, except_bind_iff] at read
  obtain ⟨seq, -, timestamp, -, eventType, -, data, read, same⟩ := read
  cases same
  rw [(readData_ok read).1]
  exact ⟨rfl, read, rfl⟩

/-- What a getter does not find in an event's map it does not find in the store written. -/
theorem getter_none {read : Value → Option α} {extra : List (Value × Value)} {key : String}
    {writesKey : String → Bool} (through : ∀ v, plain v = true → read v = none → read (normalised v) = none)
    (plained : plainPairs pairs = true) (within : extra.Sublist pairs)
    (missing : firstUsable read pairs key = none) :
    firstUsable read (storeEntries extra writesKey) key = none := by
  refine firstUsable_none_of_written through ?_ (firstUsable_none_of_subset within.subset missing)
  exact plainPairs_iff.mpr fun entry member => plainPairs_iff.mp plained entry (within.subset member)

theorem readExtra_sublist (pairs : List (Value × Value)) (peer : Option String) (data : EventData) :
    (readExtra pairs peer data).Sublist pairs := by
  unfold readExtra
  split
  · exact List.nil_sublist _
  · exact unrecognised_sublist ..

theorem written_canonical {data : EventData} (canonical : data.Canonical) (peer : Option String) :
    (data.written peer).Canonical := by
  cases data with
  | controlMessage | annotation | unknown => trivial
  | _ => exact canonical

theorem unreadValue_written (data : EventData) (peer : Option String) :
    (data.written peer).unreadValue = data.unreadValue.map normalised := by
  cases data <;> rfl

theorem written_unread {data : EventData} (unread : data.Unread pairs) (peer : Option String) :
    (data.written peer).Unread pairs := by
  cases data <;> exact unread

theorem eventType_written (data : EventData) (peer : Option String) :
    (data.written peer).eventType = data.eventType := by
  cases data <;> rfl

theorem fields_written {data : EventData} (plained : ∀ v ∈ data.unreadValue, plain v = true)
    (peer : Option String) : (data.written peer).fields = data.fields := by
  cases data with
  | controlMessage | annotation => simp [EventData.written, EventData.fields, normalised_settled (plained _ rfl)]
  | _ => rfl

theorem written_unknown {data : EventData} {peer : Option String} {eventType : UInt64}
    {fields : List (Value × Value)} (written : data.written peer = .unknown eventType fields) :
    ∃ held, data = .unknown eventType held ∧ fields = storeEntries held (writesCommonKey peer) := by
  cases data <;> simp [EventData.written] at written
  obtain ⟨rfl, rfl⟩ := written
  exact ⟨_, rfl, rfl⟩

/-- What an event held without reading it is plain where its map is. -/
theorem unreadValue_plain (read : TraceEvent.fromValue (.map pairs) = .ok event)
    (plained : plainPairs pairs = true) : ∀ v ∈ event.data.unreadValue, plain v = true := by
  intro v held
  rcases (readData_ok (fromValue_ok read).2.1).2.2.2.1 v held with rfl | ⟨key, found⟩
  · rfl
  · obtain ⟨entry, member, same⟩ := List.exists_of_findSome?_eq_some found
    split at same
    · cases same
      exact (plainPairs_iff.mp plained entry member).2
    · cases same

theorem getNamespace_written (known : ∀ eventType fields, event.data ≠ .unknown eventType fields)
    (read : TraceEvent.fromValue (.map pairs) = .ok event) (plained : plainPairs pairs = true)
    (absent : writesVariantKey event.data "ns" = false) (missing : getNamespace pairs = none) :
    getNamespace (storeEntries event.extra event.writesKey) = none := by
  have foreign : event.writesKey "ns" = false := by
    simp [TraceEvent.writesKey, writesCommonKey, absent]
  have extra : event.extra = unrecognised pairs event.writesKey := by
    rw [(fromValue_ok read).2.2, readExtra_known known]
    rfl
  have found : getValue (storeEntries event.extra event.writesKey) "ns" = (getValue pairs "ns").map normalised := by
    unfold getValue
    rw [firstUsable_storeEntries foreign, extra, firstUsable_unrecognised foreign]
  unfold getNamespace at missing ⊢
  rw [found]
  cases first : getValue pairs "ns" with
  | none => rfl
  | some v =>
    obtain ⟨entry, member, same⟩ := List.exists_of_findSome?_eq_some first
    have plain : plain v = true := by
      split at same
      · cases same
        exact (plainPairs_iff.mp plained entry member).2
      · cases same
    rw [first] at missing
    exact (asNamespace_normalised plain).trans missing

/-- What is written of an event that was read is settled. -/
theorem written_settled (read : TraceEvent.fromValue (.map pairs) = .ok event)
    (plained : plainPairs pairs = true) : event.written.Settled := by
  obtain ⟨peer, readData, extra⟩ := fromValue_ok read
  obtain ⟨-, canonical, unread, -, unknown⟩ := readData_ok readData
  have within : event.extra.Sublist pairs := extra ▸ readExtra_sublist ..
  have plainExtra : plainPairs event.extra = true :=
    plainPairs_iff.mpr fun entry member => plainPairs_iff.mp plained entry (within.subset member)
  have text (v : Value) (_ : plain v = true) (absent : v.asText = none) : (normalised v).asText = none :=
    (asText_normalised v).trans absent
  have uint (key : String) : getUint pairs key = none →
      getUint (storeEntries event.extra event.writesKey) key = none :=
    getter_none (fun v _ absent => (asU64_normalised v).trans absent) plained within
  have int (key : String) : getInt pairs key = none →
      getInt (storeEntries event.extra event.writesKey) key = none :=
    getter_none (fun v _ absent => (asI64_normalised v).trans absent) plained within
  have bytes (key : String) : getBytes pairs key = none →
      getBytes (storeEntries event.extra event.writesKey) key = none :=
    getter_none (fun v plain absent => (asBytes_normalised plain).trans absent) plained within
  refine ⟨written_canonical canonical _, fun v held => ?_, ?_, fun absent => ?_, ?_, ?_⟩
  · simp only [TraceEvent.written, unreadValue_written, Option.mem_def, Option.map_eq_some_iff] at held
    obtain ⟨held', same, rfl⟩ := held
    exact normalised_settled (unreadValue_plain read plained held' same)
  · by_cases known : ∀ eventType fields, event.data ≠ .unknown eventType fields
    · refine written_unread (unread.through uint int ?_ bytes ?_) _
      · exact fun key => getter_none text plained within
      · exact getNamespace_written known read plained
    · push Not at known
      obtain ⟨eventType, fields, same⟩ := known
      rw [TraceEvent.written, same]
      trivial
  · exact getter_none text plained within (peer.trans absent)
  · by_cases known : ∀ eventType fields, event.data ≠ .unknown eventType fields
    · have writes : event.written.writesKey = event.writesKey := by
        unfold TraceEvent.writesKey TraceEvent.written
        simp only [writesVariantKey_written known]
      rw [writes]
      exact storeEntries_settled plainExtra
    · push Not at known
      obtain ⟨eventType, fields, same⟩ := known
      rw [same] at extra
      have none' : event.written.extra = [] := by rw [TraceEvent.written, extra]; rfl
      rw [none']
      exact ⟨.nil, rfl, nofun⟩
  · intro eventType fields written
    obtain ⟨held, same, rfl⟩ := written_unknown written
    obtain ⟨beyond, held'⟩ := unknown eventType held same
    have within : held.Sublist pairs := held' ▸ unrecognised_sublist ..
    have plainFields : plainPairs held = true :=
      plainPairs_iff.mpr fun entry member => plainPairs_iff.mp plained entry (within.subset member)
    rw [same] at extra
    refine ⟨beyond, by rw [TraceEvent.written, extra]; rfl, storeEntries_settled plainFields, fun absent => ?_⟩
    exact getter_none text plained within (peer.trans absent)

/-- Writing it again writes the same. -/
theorem written_entries (read : TraceEvent.fromValue (.map pairs) = .ok event)
    (plained : plainPairs pairs = true) : event.written.entries = event.entries := by
  have settled := written_settled read plained
  have fields := fields_written (unreadValue_plain read plained) event.peer
  have common : event.written.commonFields = event.commonFields := by
    simp only [TraceEvent.commonFields, TraceEvent.written, eventType_written]
  have extra : storeEntries event.written.extra event.written.writesKey = event.written.extra :=
    settled.store.written
  have unknown : event.written.unknownFields = event.unknownFields := by
    cases same : event.data with
    | unknown eventType held =>
      have written : event.written.data =
          .unknown eventType (storeEntries held (writesCommonKey event.peer)) := by
        rw [TraceEvent.written, same]
        rfl
      have stored := (settled.unknown _ _ written).2.2.1
      unfold TraceEvent.unknownFields
      rw [written, same]
      exact stored.written
    | _ => simp [TraceEvent.unknownFields, TraceEvent.written, EventData.written, same]
  rw [TraceEvent.entries, common, extra, unknown]
  exact congrArg (fun own => named (event.commonFields ++ own) ++ event.unknownFields ++ _) fields

end Written

/-! ## Results -/

@[simp] theorem conforming_uint (n : UInt64) : conforming (uint n) = true := rfl

@[simp] theorem conforming_int (n : Int64) : conforming (int n) = true := rfl

@[simp] theorem conforming_text (s : String) : conforming (.text s) = true := rfl

@[simp] theorem conforming_bytes (raw : List UInt8) : conforming (.bytes raw) = true := rfl

theorem conforming_array {α : Type} {write : α → Value} (each : ∀ a, conforming (write a) = true)
    (items : List α) : conforming (.array (items.map write)) = true := by
  change conformingItems (items.map write) = true
  induction items with
  | nil => rfl
  | cons a items ih => simp [conformingItems, each, ih]

theorem conforming_ref (ref : SubscriptionRef) : conforming ref.toValue = true := by
  simp [SubscriptionRef.toValue, conforming, conformingItems]

theorem conforming_held {write : α → Value} (each : ∀ a, conforming (write a) = true)
    (held : Option α) : (held.map write).all conforming = true := by
  cases held with
  | none => rfl
  | some a => exact each a

/-- What is written from an event's own fields keeps the rules where the value it does not read
is plain. -/
theorem fields_conforming {data : EventData} (plained : ∀ v ∈ data.unreadValue, plain v = true) :
    conformingPairs (named data.fields) = true := by
  have unread (v : Value) (held : v ∈ data.unreadValue) := normalised_conforming v (plained v held)
  have spelled {κ : Type} [Spelling κ] (held : Option (OpenEnum κ)) :
      (held.map fun name => Value.text name.asStr).all conforming = true :=
    conforming_held (fun name => conforming_text name.asStr) held
  have id (traceId : Option TraceId) : (traceId.map fun id => Value.bytes id.val).all conforming = true :=
    conforming_held (fun id => conforming_bytes id.val) traceId
  cases data with
  | controlMessage | annotation =>
    simp [EventData.fields, conformingPairs_append, conforming_held conforming_uint,
      conforming_held conforming_bytes, conformingPairs, unread _ rfl]
  | subscriptionDerivation =>
    simp only [EventData.fields, named_append, conformingPairs_append, conforming_named_cons, conforming_named_whenHeld,
      conforming_ref, conforming_array conforming_ref, conforming_text, id, conforming_held conforming_int,
      conforming_held (conforming_array conforming_bytes), conforming_held conforming_bytes,
      named_nil, conformingPairs, Bool.and_self]
  | _ =>
    simp [EventData.fields, conformingPairs_append, conforming_held conforming_uint, spelled,
      conforming_held conforming_bytes, conforming_held conforming_text, conformingPairs]

/-- A rewritten event's map keeps the encoding rules. -/
theorem toValue_conforming {event : TraceEvent} {pairs : List (Value × Value)}
    (read : TraceEvent.fromValue (.map pairs) = .ok event) (plained : plainPairs pairs = true) :
    conforming event.toValue = true := by
  have own : conformingPairs (named (event.commonFields ++ event.data.fields)) = true := by
    simp [TraceEvent.commonFields, conformingPairs_append, conforming_held conforming_text,
      fields_conforming (unreadValue_plain read plained)]
  have settled := written_settled read plained
  obtain ⟨store, entries, distinct, conforms⟩ : ∃ store,
      event.entries = named (event.commonFields ++ event.data.fields) ++ store ∧
        Distinct (named (event.commonFields ++ event.data.fields) ++ store) ∧
        conformingPairs store = true := by
    by_cases known : ∀ eventType fields, event.data ≠ .unknown eventType fields
    · have plainExtra : plainPairs event.extra = true := by
        have within : event.extra.Sublist pairs := (fromValue_ok read).2.2 ▸ readExtra_sublist ..
        exact plainPairs_iff.mpr fun entry member => plainPairs_iff.mp plained entry (within.subset member)
      have stored : Cbor.Settled event.writesKey (storeEntries event.extra event.writesKey) :=
        storeEntries_settled plainExtra
      refine ⟨_, ?_, distinct_named (writes_own event known) (keys_nodup event) stored, stored.conforms⟩
      rw [TraceEvent.entries, unknownFields_known known, List.append_nil]
    · push Not at known
      obtain ⟨eventType, fields, same⟩ := known
      have written : event.written.data =
          .unknown eventType (storeEntries fields (writesCommonKey event.peer)) := by
        rw [TraceEvent.written, same]
        rfl
      obtain ⟨-, -, stored, -⟩ := settled.unknown _ _ written
      have none' : event.extra = [] := by
        rw [(fromValue_ok read).2.2, same]
        rfl
      refine ⟨event.unknownFields, ?_, ?_, ?_⟩
      · rw [TraceEvent.entries, none']
        exact List.append_nil _
      · have common : event.data.fields = [] := by rw [same]; rfl
        have nodup := keys_nodup event
        rw [common, List.append_nil] at nodup ⊢
        rw [TraceEvent.unknownFields, same]
        exact distinct_named (fun field member => mem_commonFields.mp (List.mem_map_of_mem member)) nodup stored
      · rw [TraceEvent.unknownFields, same]
        exact stored.conforms
  rw [TraceEvent.toValue, entries]
  refine Bool.and_eq_true_iff.mpr ⟨decide_eq_true distinct, ?_⟩
  rw [conformingPairs_append, own, conforms, Bool.and_self]

/-- **Rewriting an event is conformant and a fixed point.** Of every value that is accepted as an
event and has no byte string under two of the tags, the map written back has, at every depth, no key
twice, no integral float and no byte string under tag 64. It is read as the same event, what was
not read in the encoding asked for, and that is written as the same map. -/
theorem TraceEvent.event_rewritten {v : Value} {event : TraceEvent} (read : fromValue v = .ok event)
    (plained : plain v = true) : conforming event.toValue = true ∧
      fromValue event.toValue = .ok event.written ∧ event.written.toValue = event.toValue := by
  cases v with
  | map pairs =>
    have same : event.written.toValue = event.toValue := congrArg Value.map (written_entries read plained)
    refine ⟨toValue_conforming read plained, ?_, same⟩
    rw [← same]
    exact (written_settled read plained).read
  | _ => cases read

/-- A state change whose map repeats `"from"` and holds keys of no field, two of them one key once
they are written. -/
def odd : Value := .map [(.text "t", .float ⟨0x4008000000000000⟩), (.text "n", uint 7), (.text "e", uint 5),
  (.text "from", .text "idle"), (.text "x", .tag 64 (.bytes [1, 2])), (.text "to", .text "open"),
  (.text "from", .null), (.integer 1, .null), (.float ⟨0x3FF0000000000000⟩, .bool true)]

theorem TraceEvent.event_rewritten_odd : ∃ event, fromValue odd = .ok event ∧ conforming event.toValue = true ∧
    fromValue event.toValue =
      .ok ⟨7, 3, none, .stateChange "idle" "open", [(.text "x", .bytes [1, 2]), (.integer 1, .null)]⟩ := by
  have read : fromValue odd = .ok ⟨7, 3, none, .stateChange "idle" "open",
      [(.text "x", .tag 64 (.bytes [1, 2])), (.text "from", .null), (.integer 1, .null),
        (.float ⟨0x3FF0000000000000⟩, .bool true)]⟩ := by rfl
  obtain ⟨conforms, again, -⟩ := TraceEvent.event_rewritten read (by decide)
  exact ⟨_, read, conforms, again⟩

end Moqtap.Trace
