import Moqtap.TraceStream
import Moqtap.CborValue

/-! A trace event's map, written and read.

Each event type writes its keys in one order, an optional one where its field holds something, and
behind them the entries it was read with and could not use. A reader finds every field again, as
long as what is kept behind them gives no reader a key that was left out. -/
namespace Moqtap.Trace
open Cbor

/-! ## Open enumerations -/

/-- The names a format version has for the values of an enumeration. -/
class Spelling (κ : Type) where
  spelling : κ → String
  all : List κ
  complete : ∀ known, known ∈ all
  distinct : Function.Injective spelling

/-- A value the format names, or the spelling of one it does not. -/
inductive OpenEnum (κ : Type) where
  | known (value : κ)
  | other (spelling : String)
  deriving DecidableEq, Repr

namespace OpenEnum
variable {κ : Type} [Spelling κ]

def asStr : OpenEnum κ → String
  | known value => Spelling.spelling value
  | other s => s

def parse (s : String) : OpenEnum κ :=
  match (Spelling.all : List κ).find? fun value => Spelling.spelling value == s with
  | some value => known value
  | none => other s

/-- No name of the format is kept as one it does not have. -/
def Canonical (e : OpenEnum κ) : Prop := ∀ s, e = other s → ∀ value : κ, Spelling.spelling value ≠ s

theorem parse_asStr {e : OpenEnum κ} (canonical : e.Canonical) : parse e.asStr = e := by
  unfold parse
  cases e with
  | known value =>
    cases found : (Spelling.all : List κ).find? fun other => Spelling.spelling other == (known value).asStr with
    | none => simpa [asStr] using List.find?_eq_none.mp found value (Spelling.complete value)
    | some other =>
      have same : Spelling.spelling other = Spelling.spelling value := by
        simpa [asStr] using List.find?_some found
      rw [Spelling.distinct same]
  | other s =>
    rw [List.find?_eq_none.mpr fun value _ => by simpa [asStr] using canonical s rfl value]
    rfl

theorem parse_canonical (s : String) : (parse s : OpenEnum κ).Canonical := by
  intro spelling parsed value same
  unfold parse at parsed
  cases found : (Spelling.all : List κ).find? fun value => Spelling.spelling value == s with
  | some value => simp [found] at parsed
  | none =>
    simp only [found, other.injEq] at parsed
    have missing := List.find?_eq_none.mp found value (Spelling.complete value)
    simp [same, parsed] at missing

end OpenEnum

inductive ErrorKind.Known where
  | protocol
  | transport
  | decode
  deriving DecidableEq, Repr

/-- What kind of failure an error reports. -/
abbrev ErrorKind := OpenEnum ErrorKind.Known

instance : Spelling ErrorKind.Known where
  spelling
    | .protocol => "protocol"
    | .transport => "transport"
    | .decode => "decode"
  all := [.protocol, .transport, .decode]
  complete known := by cases known <;> decide
  distinct a b same := by cases a <;> cases b <;> first | rfl | simp at same

inductive Side.Known where
  | downstream
  | upstream
  deriving DecidableEq, Repr

/-- Which side of a relay a peer is on. -/
abbrev Side := OpenEnum Side.Known

instance : Spelling Side.Known where
  spelling
    | .downstream => "downstream"
    | .upstream => "upstream"
  all := [.downstream, .upstream]
  complete known := by cases known <;> decide
  distinct a b same := by cases a <;> cases b <;> first | rfl | simp at same

inductive PeerRole.Known where
  | publisher
  | subscriber
  | both
  deriving DecidableEq, Repr

abbrev PeerRole := OpenEnum PeerRole.Known

instance : Spelling PeerRole.Known where
  spelling
    | .publisher => "publisher"
    | .subscriber => "subscriber"
    | .both => "both"
  all := [.publisher, .subscriber, .both]
  complete known := by cases known <;> decide
  distinct a b same := by cases a <;> cases b <;> first | rfl | simp at same

inductive DerivationKind.Known where
  | created
  | shared
  deriving DecidableEq, Repr

/-- How an upstream subscription came to serve a downstream one. -/
abbrev DerivationKind := OpenEnum DerivationKind.Known

instance : Spelling DerivationKind.Known where
  spelling
    | .created => "created"
    | .shared => "shared"
  all := [.created, .shared]
  complete known := by cases known <;> decide
  distinct a b same := by cases a <;> cases b <;> first | rfl | simp at same

/-! ## Small values -/

def uint (n : UInt64) : Value := .integer n.toNat

def int (n : Int64) : Value := .integer n.toInt

/-- The bytes of a text. -/
def utf8 (s : String) : List UInt8 := s.toUTF8.data.toList

@[simp] theorem asU64_uint (n : UInt64) : (uint n).asU64 = some n := by
  change unsigned n.toNat = some n
  unfold unsigned
  rw [if_pos ⟨Int.natCast_nonneg _, n.toNat_lt⟩, Int.toNat_natCast, n.ofNat_toNat]

@[simp] theorem asI64_int (n : Int64) : (int n).asI64 = some n := by
  change signed n.toInt = some n
  unfold signed
  rw [if_pos ⟨n.minValue_le_toInt, n.toInt_le⟩, n.ofInt_toInt]

@[simp] theorem asText_text (s : String) : (Value.text s).asText = some s := rfl

@[simp] theorem asBytes_bytes (raw : List UInt8) : (Value.bytes raw).asBytes = some raw := rfl

inductive Direction where
  | send
  | receive
  deriving DecidableEq, Repr

def Direction.toU64 : Direction → UInt64
  | send => 0
  | receive => 1

def Direction.fromCbor (v : Value) : Except Unusable Direction :=
  if v.asU64 = some 0 then .ok .send
  else if v.asU64 = some 1 then .ok .receive
  else .error (.invalidEvent "invalid direction value")

@[simp] theorem Direction.fromCbor_toU64 (d : Direction) : fromCbor (uint d.toU64) = .ok d := by
  cases d <;> simp [fromCbor, toU64]

inductive StreamType where
  | subgroup
  | datagram
  | fetch
  deriving DecidableEq, Repr

def StreamType.toU64 : StreamType → UInt64
  | subgroup => 0
  | datagram => 1
  | fetch => 2

def StreamType.fromCbor (v : Value) : Except Unusable StreamType :=
  if v.asU64 = some 0 then .ok .subgroup
  else if v.asU64 = some 1 then .ok .datagram
  else if v.asU64 = some 2 then .ok .fetch
  else .error (.invalidEvent "invalid stream type value")

@[simp] theorem StreamType.fromCbor_toU64 (s : StreamType) : fromCbor (uint s.toU64) = .ok s := by
  cases s <;> simp [fromCbor, toU64]

/-- A subscription at a peer. -/
structure SubscriptionRef where
  peer : String
  requestId : UInt64
  deriving DecidableEq, Repr

namespace SubscriptionRef

def toValue (ref : SubscriptionRef) : Value := .array [.text ref.peer, uint ref.requestId]

def fromValue (v : Value) : Except Unusable SubscriptionRef :=
  match v with
  | .array [peer, requestId] =>
    match peer.asText with
    | none => .error (.invalidEvent "subscription ref peer is not text")
    | some peer =>
      match requestId.asU64 with
      | none => .error (.invalidEvent "subscription ref request_id is not uint")
      | some requestId => .ok ⟨peer, requestId⟩
  | .array _ => .error (.invalidEvent "subscription ref must be [peer, request_id]")
  | _ => .error (.invalidEvent "subscription ref is not a CBOR array")

@[simp] theorem fromValue_toValue (ref : SubscriptionRef) : fromValue ref.toValue = .ok ref := by
  simp only [toValue, fromValue, asText_text, asU64_uint]

end SubscriptionRef

/-- The 16 bytes of a trace id. -/
abbrev TraceId := { raw : List UInt8 // raw.length = 16 }

/-! ## Events -/

/-- What an event says beyond the fields that all have. -/
inductive EventData where
  | controlMessage (direction : Direction) (messageType : UInt64) (message : Value)
      (streamId : Option UInt64) (raw : Option (List UInt8))
  | streamOpened (streamId : UInt64) (direction : Direction) (streamType : StreamType)
      (trackAlias subgroupId fetchRequestId groupId : Option UInt64) (headerRaw : Option (List UInt8))
  | streamClosed (streamId errorCode : UInt64)
  | objectHeader (streamId group object publisherPriority objectStatus : UInt64)
  | objectPayload (streamId group object size : UInt64) (payload : Option (List UInt8))
  | stateChange (source target : String)
  | error (errorCode : UInt64) (reason : String) (streamId : Option UInt64) (kind : Option ErrorKind)
      (rawLen : Option UInt64) (raw : Option (List UInt8))
  | annotation (label : String) (data : Value)
  | peerConnected (endpoint transport : Option String) (role : Option PeerRole) (side : Option Side)
  | peerDisconnected (errorCode : UInt64) (reason : Option String)
  | subscriptionDerivation (upstream : SubscriptionRef) (downstream : List SubscriptionRef)
      (kind : DerivationKind) (traceId : Option TraceId) (trackNamespace : Option (List (List UInt8)))
      (trackName : Option (List UInt8))
      (tDownstreamReceived tUpstreamSent tUpstreamOkReceived tDownstreamOkSent : Option Int64)
  | unknown (eventType : UInt64) (fields : List (Value × Value))

structure TraceEvent where
  seq : UInt64
  timestamp : Int64
  peer : Option String := none
  data : EventData
  extra : List (Value × Value) := []

namespace EventData

def eventType : EventData → UInt64
  | controlMessage .. => 0
  | streamOpened .. => 1
  | streamClosed .. => 2
  | objectHeader .. => 3
  | objectPayload .. => 4
  | stateChange .. => 5
  | error .. => 6
  | annotation .. => 7
  | peerConnected .. => 8
  | peerDisconnected .. => 9
  | subscriptionDerivation .. => 10
  | unknown eventType _ => eventType

/-- The keys an event type writes from its fields, in their order; an unknown type has none. -/
def fields : EventData → Fields
  | controlMessage direction messageType message streamId raw =>
    [("d", uint direction.toU64), ("mt", uint messageType), ("msg", normalised message)] ++
      whenHeld "sid" (streamId.map uint) ++ whenHeld "raw" (raw.map .bytes)
  | streamOpened streamId direction streamType trackAlias subgroupId fetchRequestId groupId headerRaw =>
    [("sid", uint streamId), ("d", uint direction.toU64), ("st", uint streamType.toU64)] ++
      whenHeld "ta" (trackAlias.map uint) ++ whenHeld "sg" (subgroupId.map uint) ++
      whenHeld "fri" (fetchRequestId.map uint) ++ whenHeld "g" (groupId.map uint) ++
      whenHeld "hdr" (headerRaw.map .bytes)
  | streamClosed streamId errorCode => [("sid", uint streamId), ("ec", uint errorCode)]
  | objectHeader streamId group object publisherPriority objectStatus =>
    [("sid", uint streamId), ("g", uint group), ("o", uint object), ("pp", uint publisherPriority),
      ("os", uint objectStatus)]
  | objectPayload streamId group object size payload =>
    [("sid", uint streamId), ("g", uint group), ("o", uint object), ("sz", uint size)] ++
      whenHeld "pl" (payload.map .bytes)
  | stateChange source target => [("from", .text source), ("to", .text target)]
  | error errorCode reason streamId kind rawLen raw =>
    [("ec", uint errorCode), ("reason", .text reason)] ++ whenHeld "sid" (streamId.map uint) ++
      whenHeld "ek" (kind.map fun kind => .text kind.asStr) ++ whenHeld "rawlen" (rawLen.map uint) ++
      whenHeld "raw" (raw.map .bytes)
  | annotation label data => [("label", .text label), ("data", normalised data)]
  | peerConnected endpoint transport role side =>
    whenHeld "endpoint" (endpoint.map .text) ++ whenHeld "transport" (transport.map .text) ++
      whenHeld "role" (role.map fun role => .text role.asStr) ++
      whenHeld "side" (side.map fun side => .text side.asStr)
  | peerDisconnected errorCode reason =>
    [("ec", uint errorCode)] ++ whenHeld "reason" (reason.map .text)
  | subscriptionDerivation upstream downstream kind traceId trackNamespace trackName tDownstreamReceived
      tUpstreamSent tUpstreamOkReceived tDownstreamOkSent =>
    [("u", upstream.toValue), ("d", .array (downstream.map SubscriptionRef.toValue)),
      ("kind", .text kind.asStr)] ++
      whenHeld "traceId" (traceId.map fun id => .bytes id.val) ++
      whenHeld "ns" (trackNamespace.map fun parts => .array (parts.map .bytes)) ++
      whenHeld "tn" (trackName.map .bytes) ++ whenHeld "tdr" (tDownstreamReceived.map int) ++
      whenHeld "tus" (tUpstreamSent.map int) ++ whenHeld "tuo" (tUpstreamOkReceived.map int) ++
      whenHeld "tdo" (tDownstreamOkSent.map int)
  | unknown .. => []

end EventData

/-- Whether the fields all events have account for a key. -/
def writesCommonKey (peer : Option String) (key : String) : Bool :=
  ["n", "t", "e"].contains key || (key == "p" && peer.isSome)

/-- `always` are written unconditionally, the others where their field holds a value. -/
def among (key : String) (always : List String) (others : List (String × Bool)) : Bool :=
  always.contains key || others.any fun other => other.2 && other.1 == key

/-- Whether a key is written from one of an event type's own fields. -/
def writesVariantKey (data : EventData) (key : String) : Bool :=
  match data with
  | .controlMessage _ _ _ streamId raw =>
    among key ["d", "mt", "msg"] [("sid", streamId.isSome), ("raw", raw.isSome)]
  | .streamOpened _ _ _ trackAlias subgroupId fetchRequestId groupId headerRaw =>
    among key ["sid", "d", "st"] [("ta", trackAlias.isSome), ("sg", subgroupId.isSome),
      ("fri", fetchRequestId.isSome), ("g", groupId.isSome), ("hdr", headerRaw.isSome)]
  | .streamClosed .. => among key ["sid", "ec"] []
  | .objectHeader .. => among key ["sid", "g", "o", "pp", "os"] []
  | .objectPayload _ _ _ _ payload => among key ["sid", "g", "o", "sz"] [("pl", payload.isSome)]
  | .stateChange .. => among key ["from", "to"] []
  | .error _ _ streamId kind rawLen raw =>
    among key ["ec", "reason"] [("sid", streamId.isSome), ("ek", kind.isSome),
      ("rawlen", rawLen.isSome), ("raw", raw.isSome)]
  | EventData.annotation .. => among key ["label", "data"] []
  | .peerConnected endpoint transport role side =>
    among key [] [("endpoint", endpoint.isSome), ("transport", transport.isSome),
      ("role", role.isSome), ("side", side.isSome)]
  | .peerDisconnected _ reason => among key ["ec"] [("reason", reason.isSome)]
  | .subscriptionDerivation _ _ _ traceId trackNamespace trackName tDownstreamReceived tUpstreamSent
      tUpstreamOkReceived tDownstreamOkSent =>
    among key ["u", "d", "kind"] [("traceId", traceId.isSome), ("ns", trackNamespace.isSome),
      ("tn", trackName.isSome), ("tdr", tDownstreamReceived.isSome), ("tus", tUpstreamSent.isSome),
      ("tuo", tUpstreamOkReceived.isSome), ("tdo", tDownstreamOkSent.isSome)]
  | .unknown _ fields => fields.any fun field => field.1.asText == some key

namespace TraceEvent
variable (event : TraceEvent)

def writesKey (key : String) : Bool :=
  writesCommonKey event.peer key || writesVariantKey event.data key

/-- An unknown event type's own entries, as they are written. -/
def unknownFields : List (Value × Value) :=
  match event.data with
  | .unknown _ fields => storeEntries fields (writesCommonKey event.peer)
  | _ => []

def commonFields : Fields :=
  [("n", uint event.seq), ("t", int event.timestamp)] ++ whenHeld "p" (event.peer.map .text) ++
    [("e", uint event.data.eventType)]

/-- The entries of an event's map, in the order they are written. -/
def entries : List (Value × Value) :=
  named (event.commonFields ++ event.data.fields) ++ event.unknownFields ++
    storeEntries event.extra event.writesKey

def toValue : Value := .map event.entries

/-- What an event type adds to the number of entries announced before the first of them. -/
def variantEntries : Nat :=
  match event.data with
  | .controlMessage _ _ _ streamId raw => 3 + streamId.isSome.toNat + raw.isSome.toNat
  | .streamOpened _ _ _ trackAlias subgroupId fetchRequestId groupId headerRaw =>
    3 + trackAlias.isSome.toNat + subgroupId.isSome.toNat + fetchRequestId.isSome.toNat +
      groupId.isSome.toNat + headerRaw.isSome.toNat
  | .streamClosed .. => 2
  | .objectHeader .. => 5
  | .objectPayload _ _ _ _ payload => 4 + payload.isSome.toNat
  | .stateChange .. => 2
  | .error _ _ streamId kind rawLen raw =>
    2 + streamId.isSome.toNat + kind.isSome.toNat + rawLen.isSome.toNat + raw.isSome.toNat
  | EventData.annotation .. => 2
  | .peerConnected endpoint transport role side =>
    endpoint.isSome.toNat + transport.isSome.toNat + role.isSome.toNat + side.isSome.toNat
  | .peerDisconnected _ reason => 1 + reason.isSome.toNat
  | .subscriptionDerivation _ _ _ traceId trackNamespace trackName tDownstreamReceived tUpstreamSent
      tUpstreamOkReceived tDownstreamOkSent =>
    3 + traceId.isSome.toNat + trackNamespace.isSome.toNat + trackName.isSome.toNat +
      tDownstreamReceived.isSome.toNat + tUpstreamSent.isSome.toNat +
      tUpstreamOkReceived.isSome.toNat + tDownstreamOkSent.isSome.toNat
  | .unknown .. => event.unknownFields.length

/-- The number of entries announced. -/
def entryCount : Nat :=
  3 + event.peer.isSome.toNat + event.variantEntries + (storeEntries event.extra event.writesKey).length

end TraceEvent

/-! ## Reading -/

section Reading
variable (pairs : List (Value × Value)) (key : String)

def getUint : Option UInt64 := firstUsable Value.asU64 pairs key

def getInt : Option Int64 := firstUsable Value.asI64 pairs key

def getText : Option String := firstUsable Value.asText pairs key

def getValue : Option Value := firstUsable some pairs key

def getBytes : Option (List UInt8) := firstUsable Value.asBytes pairs key

/-- An absent message reads as the empty map. -/
def getMessage : Value := (getValue pairs "msg").getD (.map [])

/-- What a getter found, or the error that names the key. -/
def require (got : Option α) : Except Unusable α :=
  match got with
  | some a => .ok a
  | none => .error (.invalidEvent s!"missing '{key}'")

def requireUint : Except Unusable UInt64 := require key (getUint pairs key)

def requireInt : Except Unusable Int64 := require key (getInt pairs key)

def requireText : Except Unusable String := require key (getText pairs key)

def requireValue : Except Unusable Value := require key (getValue pairs key)

def requireDirection : Except Unusable Direction := do
  Direction.fromCbor (← requireValue pairs key)

/-- A trace id of another length is refused. -/
def getTraceId : Except Unusable (Option TraceId) :=
  match getBytes pairs "traceId" with
  | none => .ok none
  | some raw =>
    if sized : raw.length = 16 then .ok (some ⟨raw, sized⟩)
    else .error (.invalidEvent s!"'traceId' is {raw.length} bytes, must be 16")

/-- A part of a namespace, text tolerated. -/
def namespacePart (item : Value) : Option (List UInt8) := item.asBytes.or (item.asText.map utf8)

/-- A namespace, an array of parts. -/
def asNamespace (v : Value) : Option (List (List UInt8)) :=
  match v with
  | .array items => items.mapM namespacePart
  | _ => none

def getNamespace : Option (List (List UInt8)) := (getValue pairs "ns").bind asNamespace

def readDownstream (v : Value) : Except Unusable (List SubscriptionRef) :=
  match v with
  | .array items => items.mapM SubscriptionRef.fromValue
  | _ => .error (.invalidEvent "'d' (downstream subs) is not a CBOR array")

/-- What an event of a type says. -/
def readData (peer : Option String) (eventType : UInt64) : Except Unusable EventData :=
  match eventType.toNat with
  | 0 => do
    let direction ← requireDirection pairs "d"
    let messageType ← requireUint pairs "mt"
    return .controlMessage direction messageType (getMessage pairs) (getUint pairs "sid")
      (getBytes pairs "raw")
  | 1 => do
    let streamType ← requireValue pairs "st"
    let streamId ← requireUint pairs "sid"
    let direction ← requireDirection pairs "d"
    let streamType ← StreamType.fromCbor streamType
    return .streamOpened streamId direction streamType (getUint pairs "ta") (getUint pairs "sg")
      (getUint pairs "fri") (getUint pairs "g") (getBytes pairs "hdr")
  | 2 => do
    let streamId ← requireUint pairs "sid"
    let errorCode ← requireUint pairs "ec"
    return .streamClosed streamId errorCode
  | 3 => do
    let streamId ← requireUint pairs "sid"
    let group ← requireUint pairs "g"
    let object ← requireUint pairs "o"
    let publisherPriority ← requireUint pairs "pp"
    let objectStatus ← requireUint pairs "os"
    return .objectHeader streamId group object publisherPriority objectStatus
  | 4 => do
    let streamId ← requireUint pairs "sid"
    let group ← requireUint pairs "g"
    let object ← requireUint pairs "o"
    let size ← requireUint pairs "sz"
    return .objectPayload streamId group object size (getBytes pairs "pl")
  | 5 => do
    let source ← requireText pairs "from"
    let target ← requireText pairs "to"
    return .stateChange source target
  | 6 => do
    let errorCode ← requireUint pairs "ec"
    let reason ← requireText pairs "reason"
    return .error errorCode reason (getUint pairs "sid") ((getText pairs "ek").map OpenEnum.parse)
      (getUint pairs "rawlen") (getBytes pairs "raw")
  | 7 => do
    let label ← requireText pairs "label"
    let data ← requireValue pairs "data"
    return EventData.annotation label data
  | 8 => .ok (.peerConnected (getText pairs "endpoint") (getText pairs "transport")
      ((getText pairs "role").map OpenEnum.parse) ((getText pairs "side").map OpenEnum.parse))
  | 9 => do
    let errorCode ← requireUint pairs "ec"
    return .peerDisconnected errorCode (getText pairs "reason")
  | 10 => do
    let upstream ← requireValue pairs "u"
    let upstream ← SubscriptionRef.fromValue upstream
    let downstream ← requireValue pairs "d"
    let downstream ← readDownstream downstream
    let kind ← requireText pairs "kind"
    let traceId ← getTraceId pairs
    return .subscriptionDerivation upstream downstream (.parse kind) traceId (getNamespace pairs)
      ((getBytes pairs "tn").or ((getText pairs "tn").map utf8)) (getInt pairs "tdr")
      (getInt pairs "tus") (getInt pairs "tuo") (getInt pairs "tdo")
  | _ => .ok (.unknown eventType (unrecognised pairs (writesCommonKey peer)))

end Reading

/-- Every entry that an event does not write back out of a field of its own. -/
def unrecognisedKeys (pairs : List (Value × Value)) (peer : Option String) (data : EventData) :
    List (Value × Value) :=
  unrecognised pairs fun key => writesCommonKey peer key || writesVariantKey data key

/-- An unknown event type's entries are all fields of its own. -/
def readExtra (pairs : List (Value × Value)) (peer : Option String) (data : EventData) :
    List (Value × Value) :=
  match data with
  | .unknown .. => []
  | data => unrecognisedKeys pairs peer data

def TraceEvent.fromValue (v : Value) : Except Unusable TraceEvent :=
  match v with
  | .map pairs => do
    let seq ← requireUint pairs "n"
    let timestamp ← requireInt pairs "t"
    let peer := getText pairs "p"
    let eventType ← requireUint pairs "e"
    let data ← readData pairs peer eventType
    return ⟨seq, timestamp, peer, data, readExtra pairs peer data⟩
  | _ => .error (.invalidEvent "event is not a CBOR map")


/-! ## The keys written -/

@[simp] theorem length_whenHeld (key : String) (held : Option Value) :
    (whenHeld key held).length = held.isSome.toNat := by
  cases held <;> rfl

@[simp] theorem mem_keys_whenHeld {key name : String} {held : Option Value} :
    key ∈ (whenHeld name held).map Prod.fst ↔ held.isSome = true ∧ name = key := by
  cases held <;> simp [whenHeld, eq_comm]

/-- The number of entries announced is the number written. -/
theorem TraceEvent.entryCount_eq (event : TraceEvent) : event.entryCount = event.entries.length := by
  have fields : event.data.fields.length + event.unknownFields.length = event.variantEntries := by
    obtain ⟨seq, timestamp, peer, data, extra⟩ := event
    unfold unknownFields variantEntries
    cases data with
    | unknown eventType fields => exact Nat.zero_add _
    | _ => simp [EventData.fields] <;> omega
  simp only [entryCount, entries, commonFields, named, List.length_append, List.length_map,
    List.length_cons, List.length_nil, length_whenHeld, Option.isSome_map]
  omega

/-- What is said to be written from an event type's fields is. -/
theorem writesVariantKey_iff {data : EventData} (known : ∀ eventType fields, data ≠ .unknown eventType fields)
    (key : String) : writesVariantKey data key = true ↔ key ∈ data.fields.map Prod.fst := by
  cases data with
  | unknown eventType fields => exact absurd rfl (known eventType fields)
  | _ => simp [writesVariantKey, among, EventData.fields, or_assoc, -List.mem_map]

theorem nodup_keys_whenHeld (key : String) (held : Option Value) :
    ((whenHeld key held).map Prod.fst).Nodup :=
  (keys_whenHeld_sublist key held).nodup (List.nodup_singleton key)

/-- No event writes a key of its own twice. -/
theorem keys_nodup (event : TraceEvent) :
    ((event.commonFields ++ event.data.fields).map Prod.fst).Nodup := by
  obtain ⟨seq, timestamp, peer, data, extra⟩ := event
  cases data <;>
    simp [TraceEvent.commonFields, EventData.fields, List.nodup_append, nodup_keys_whenHeld, or_imp, forall_and,
      -List.mem_map]


/-! ## Reading back -/

/-- What some entries are to give no reader: the keys that an event leaves out. -/
def EventData.Unread (pairs : List (Value × Value)) : EventData → Prop
  | .controlMessage _ _ _ streamId raw =>
    (streamId = none → getUint pairs "sid" = none) ∧ (raw = none → getBytes pairs "raw" = none)
  | .streamOpened _ _ _ trackAlias subgroupId fetchRequestId groupId headerRaw =>
    (trackAlias = none → getUint pairs "ta" = none) ∧ (subgroupId = none → getUint pairs "sg" = none) ∧
    (fetchRequestId = none → getUint pairs "fri" = none) ∧ (groupId = none → getUint pairs "g" = none) ∧
    (headerRaw = none → getBytes pairs "hdr" = none)
  | .objectPayload _ _ _ _ payload => payload = none → getBytes pairs "pl" = none
  | .error _ _ streamId kind rawLen raw =>
    (streamId = none → getUint pairs "sid" = none) ∧ (kind = none → getText pairs "ek" = none) ∧
    (rawLen = none → getUint pairs "rawlen" = none) ∧ (raw = none → getBytes pairs "raw" = none)
  | .peerConnected endpoint transport role side =>
    (endpoint = none → getText pairs "endpoint" = none) ∧
    (transport = none → getText pairs "transport" = none) ∧
    (role = none → getText pairs "role" = none) ∧ (side = none → getText pairs "side" = none)
  | .peerDisconnected _ reason => reason = none → getText pairs "reason" = none
  | .subscriptionDerivation _ _ _ traceId trackNamespace trackName tDownstreamReceived tUpstreamSent
      tUpstreamOkReceived tDownstreamOkSent =>
    (traceId = none → getBytes pairs "traceId" = none) ∧
    (trackNamespace = none → getNamespace pairs = none) ∧
    (trackName = none → getBytes pairs "tn" = none ∧ getText pairs "tn" = none) ∧
    (tDownstreamReceived = none → getInt pairs "tdr" = none) ∧
    (tUpstreamSent = none → getInt pairs "tus" = none) ∧
    (tUpstreamOkReceived = none → getInt pairs "tuo" = none) ∧
    (tDownstreamOkSent = none → getInt pairs "tdo" = none)
  | _ => True

/-- No name of the format is kept as one it does not have. -/
def EventData.Canonical : EventData → Prop
  | .error _ _ _ kind _ _ => ∀ name ∈ kind, name.Canonical
  | .peerConnected _ _ role side => (∀ name ∈ role, name.Canonical) ∧ ∀ name ∈ side, name.Canonical
  | .subscriptionDerivation _ _ kind .. => kind.Canonical
  | _ => True

/-- The value an event holds without reading it. -/
def EventData.unreadValue : EventData → Option Value
  | .controlMessage _ _ message _ _ => some message
  | EventData.annotation _ data => some data
  | _ => none

variable {event : TraceEvent} {store : List (Value × Value)}

section Held
variable {write : α → Value} {read : Value → Option α} {key : String}

/-- A key that is written where its field holds something is read back, from nowhere else. -/
theorem read_back (inverse : ∀ a, read (write a) = some a) {held : Option α}
    (missing : held = none → firstUsable read store key = none) :
    ((held.map write).bind read).or (firstUsable read store key) = held := by
  cases held with
  | none => exact missing rfl
  | some a => simp [inverse]

theorem spelling_back {κ : Type} [Spelling κ] {held : Option (OpenEnum κ)}
    (canonical : ∀ name ∈ held, name.Canonical)
    (missing : held = none → firstUsable Value.asText store key = none) :
    (((held.map fun name => Value.text name.asStr).bind Value.asText).or
      (firstUsable Value.asText store key)).map OpenEnum.parse = held := by
  cases held with
  | none => simp [missing rfl]
  | some name => simp [OpenEnum.parse_asStr (canonical name rfl)]

end Held

@[simp] theorem except_ok_bind (a : α) (next : α → Except ε β) : (Except.ok a >>= next) = next a := rfl

@[simp] theorem readDownstream_array (downstream : List SubscriptionRef) :
    readDownstream (.array (downstream.map SubscriptionRef.toValue)) = .ok downstream := by
  change (downstream.map SubscriptionRef.toValue).mapM SubscriptionRef.fromValue = .ok downstream
  induction downstream with
  | nil => rfl
  | cons ref downstream ih => simp [List.mapM_cons, ih, pure, Except.pure]

theorem mapM_namespacePart (parts : List (List UInt8)) :
    parts.mapM (namespacePart ∘ Value.bytes) = some parts := by
  induction parts with
  | nil => rfl
  | cons part parts ih => simp [List.mapM_cons, ih, namespacePart]

/-- What a key that is not common gives is not in the common fields. -/
theorem firstUsable_common {read : Value → Option α} {key : String} (own : key ∉ ["n", "t", "p", "e"]) :
    firstUsable read (named event.commonFields) key = none := by
  simp only [List.mem_cons, List.not_mem_nil, or_false, not_or, eq_comm (a := key)] at own
  simp [TraceEvent.commonFields, firstUsable_append, own]

theorem getTraceId_eq {pairs : List (Value × Value)} {traceId : Option TraceId}
    (found : getBytes pairs "traceId" = traceId.map Subtype.val) : getTraceId pairs = .ok traceId := by
  unfold getTraceId
  rw [found]
  cases traceId with
  | none => rfl
  | some id => exact dif_pos id.2

/-- An event type's fields are read back from what it writes. -/
theorem readData_entries (known : ∀ eventType fields, event.data ≠ .unknown eventType fields)
    (canonical : event.data.Canonical) (asWritten : ∀ v ∈ event.data.unreadValue, normalised v = v)
    (unread : event.data.Unread store) (peer : Option String) :
    readData (named (event.commonFields ++ event.data.fields) ++ store) peer event.data.eventType =
      .ok event.data := by
  generalize event.data = data at *
  unfold readData
  cases data with
  | unknown eventType fields => exact absurd rfl (known eventType fields)
  | controlMessage direction messageType message streamId raw =>
    have sid := read_back asU64_uint unread.1
    have raw' := read_back asBytes_bytes unread.2
    simp [EventData.eventType, EventData.fields, requireDirection, requireUint, requireValue, require,
      getMessage, getUint, getValue, getBytes, firstUsable_common, firstUsable_append, sid, raw',
      asWritten _ rfl]
  | streamOpened streamId direction streamType trackAlias subgroupId fetchRequestId groupId headerRaw =>
    obtain ⟨ta, sg, fri, g, hdr⟩ := unread
    simp [EventData.eventType, EventData.fields, requireDirection, requireUint, requireValue, require,
      getUint, getValue, getBytes, firstUsable_common, firstUsable_append, read_back asU64_uint ta,
      read_back asU64_uint sg, read_back asU64_uint fri, read_back asU64_uint g, read_back asBytes_bytes hdr]
  | streamClosed | objectHeader | stateChange =>
    simp [EventData.eventType, EventData.fields, requireUint, requireText, require, getUint, getText,
      firstUsable_common, firstUsable_append]
  | objectPayload streamId group object size payload =>
    simp [EventData.eventType, EventData.fields, requireUint, require, getUint, getBytes,
      firstUsable_common, firstUsable_append, read_back asBytes_bytes unread]
  | error errorCode reason streamId kind rawLen raw =>
    obtain ⟨sid, ek, rawlen, raw'⟩ := unread
    simp [EventData.eventType, EventData.fields, requireUint, requireText, require, getUint, getText,
      getBytes, firstUsable_common, firstUsable_append, read_back asU64_uint sid,
      spelling_back canonical ek, read_back asU64_uint rawlen, read_back asBytes_bytes raw']
  | annotation label data =>
    simp [EventData.eventType, EventData.fields, requireText, requireValue, require, getText, getValue,
      firstUsable_common, firstUsable_append, asWritten _ rfl]
  | peerConnected endpoint transport role side =>
    obtain ⟨endpoint', transport', role', side'⟩ := unread
    simp [EventData.eventType, EventData.fields, getText, firstUsable_common, firstUsable_append,
      read_back asText_text endpoint', read_back asText_text transport',
      spelling_back canonical.1 role', spelling_back canonical.2 side']
  | peerDisconnected errorCode reason =>
    simp [EventData.eventType, EventData.fields, requireUint, require, getUint, getText,
      firstUsable_common, firstUsable_append, read_back asText_text unread]
  | subscriptionDerivation upstream downstream kind traceId trackNamespace trackName tdr tus tuo tdo =>
    obtain ⟨id, ns, tn, tdr', tus', tuo', tdo'⟩ := unread
    generalize same : named (event.commonFields ++ EventData.fields _) ++ store = pairs
    have id' : getTraceId pairs = .ok traceId := by
      refine getTraceId_eq ?_
      cases traceId with
      | none => simpa [getBytes, ← same, EventData.fields, firstUsable_common, firstUsable_append] using id rfl
      | some id => simp [getBytes, ← same, EventData.fields, firstUsable_common, firstUsable_append]
    have ns' : getNamespace pairs = trackNamespace := by
      cases trackNamespace with
      | none =>
        simpa [getNamespace, getValue, ← same, EventData.fields, firstUsable_common, firstUsable_append]
          using ns rfl
      | some parts =>
        simp [getNamespace, asNamespace, getValue, ← same, EventData.fields, firstUsable_common,
          firstUsable_append, mapM_namespacePart]
    have tn' : (getBytes pairs "tn").or ((getText pairs "tn").map utf8) = trackName := by
      cases trackName with
      | none =>
        simpa [getBytes, getText, ← same, EventData.fields, firstUsable_common, firstUsable_append]
          using tn rfl
      | some raw =>
        simp [getBytes, getText, ← same, EventData.fields, firstUsable_common, firstUsable_append]
    simp only [EventData.eventType, id', ns', tn']
    simp [← same, EventData.fields, requireValue, requireText, require, getValue, getInt, getText,
      firstUsable_common, firstUsable_append, read_back asI64_int tdr', read_back asI64_int tus',
      read_back asI64_int tuo', read_back asI64_int tdo', OpenEnum.parse_asStr canonical]

/-! ## Whole events -/

/-- An event that is written as it is held. -/
structure TraceEvent.Settled (event : TraceEvent) : Prop where
  canonical : event.data.Canonical
  asWritten : ∀ v ∈ event.data.unreadValue, normalised v = v
  unread : event.data.Unread event.extra
  peer : event.peer = none → getText event.extra "p" = none
  store : Cbor.Settled event.writesKey event.extra
  unknown : ∀ eventType fields, event.data = .unknown eventType fields →
    10 < eventType.toNat ∧ event.extra = [] ∧ Cbor.Settled (writesCommonKey event.peer) fields ∧
      (event.peer = none → getText fields "p" = none)

theorem writesCommonKey_iff {peer : Option String} {key : String} : writesCommonKey peer key = true ↔
    key = "n" ∨ key = "t" ∨ (peer.isSome = true ∧ "p" = key) ∨ key = "e" := by
  simp only [writesCommonKey, Bool.or_eq_true, List.contains_iff_mem, List.mem_cons, List.not_mem_nil,
    Bool.and_eq_true, beq_iff_eq]
  grind

theorem mem_commonFields {event : TraceEvent} {key : String} :
    key ∈ event.commonFields.map Prod.fst ↔ writesCommonKey event.peer key = true := by
  simp [writesCommonKey_iff, TraceEvent.commonFields, -List.mem_map]

theorem getText_fields (data : EventData) : firstUsable Value.asText (named data.fields) "p" = none := by
  cases data <;> simp [EventData.fields, firstUsable_append]

theorem readData_unknown {pairs : List (Value × Value)} {eventType : UInt64} (unknown : 10 < eventType.toNat)
    (peer : Option String) :
    readData pairs peer eventType = .ok (.unknown eventType (unrecognised pairs (writesCommonKey peer))) := by
  unfold readData
  split <;> first | omega | rfl

section Common
variable {event : TraceEvent} {store : List (Value × Value)}

theorem getCommon_entries (missing : event.peer = none → getText store "p" = none) :
    requireUint (named (event.commonFields ++ event.data.fields) ++ store) "n" = .ok event.seq ∧
    requireInt (named (event.commonFields ++ event.data.fields) ++ store) "t" = .ok event.timestamp ∧
    getText (named (event.commonFields ++ event.data.fields) ++ store) "p" = event.peer ∧
    requireUint (named (event.commonFields ++ event.data.fields) ++ store) "e" =
      .ok event.data.eventType := by
  have peer := read_back asText_text missing
  simp [requireUint, requireInt, require, getUint, getInt, getText, TraceEvent.commonFields,
    firstUsable_append, getText_fields, peer]

theorem fromValue_entries {data : EventData} (missing : event.peer = none → getText store "p" = none)
    (read : readData (named (event.commonFields ++ event.data.fields) ++ store) event.peer
      event.data.eventType = .ok data) :
    TraceEvent.fromValue (.map (named (event.commonFields ++ event.data.fields) ++ store)) =
      .ok ⟨event.seq, event.timestamp, event.peer, data,
        readExtra (named (event.commonFields ++ event.data.fields) ++ store) event.peer data⟩ := by
  obtain ⟨seq, timestamp, peer, eventType⟩ := getCommon_entries missing
  simp only [TraceEvent.fromValue, seq, timestamp, peer, eventType, read, except_ok_bind]
  rfl

end Common

theorem readExtra_known {event : TraceEvent} {pairs : List (Value × Value)}
    (known : ∀ eventType fields, event.data ≠ .unknown eventType fields) :
    readExtra pairs event.peer event.data = unrecognisedKeys pairs event.peer event.data := by
  unfold readExtra
  split
  · rename_i same
    exact absurd same (known _ _)
  · rfl

theorem unknownFields_known {event : TraceEvent}
    (known : ∀ eventType fields, event.data ≠ .unknown eventType fields) : event.unknownFields = [] := by
  unfold TraceEvent.unknownFields
  split
  · rename_i same
    exact absurd same (known _ _)
  · rfl

/-- An event writes its keys from its fields. -/
theorem writes_own (event : TraceEvent) (known : ∀ eventType fields, event.data ≠ .unknown eventType fields) :
    ∀ field ∈ event.commonFields ++ event.data.fields, event.writesKey field.1 = true := by
  intro field member
  have key := List.mem_map_of_mem (f := Prod.fst) member
  rw [List.map_append, List.mem_append, mem_commonFields, ← writesVariantKey_iff known] at key
  simpa [TraceEvent.writesKey] using key

theorem readExtra_entries {event : TraceEvent} {store : List (Value × Value)}
    (known : ∀ eventType fields, event.data ≠ .unknown eventType fields)
    (apart : ∀ entry ∈ store, goesToStore entry.1 event.writesKey = true) :
    readExtra (named (event.commonFields ++ event.data.fields) ++ store) event.peer event.data = store := by
  have read : unrecognisedKeys (named (event.commonFields ++ event.data.fields) ++ store) event.peer event.data =
      store := unrecognised_named (writes_own event known) (keys_nodup event) apart
  exact (readExtra_known known).trans read

/-- A settled event is read back as it is held. -/
theorem TraceEvent.Settled.read {event : TraceEvent} (settled : event.Settled) :
    fromValue event.toValue = .ok event := by
  by_cases known : ∀ eventType fields, event.data ≠ .unknown eventType fields
  · have entries : event.entries = named (event.commonFields ++ event.data.fields) ++ event.extra := by
      rw [TraceEvent.entries, unknownFields_known known, settled.store.written, List.append_nil]
    have read := fromValue_entries settled.peer
      (readData_entries known settled.canonical settled.asWritten settled.unread event.peer)
    rw [readExtra_entries known settled.store.apart, ← entries] at read
    exact read
  · push Not at known
    obtain ⟨eventType, fields, same⟩ := known
    obtain ⟨beyond, extra, stored, peer⟩ := settled.unknown eventType fields same
    have entries : event.entries = named (event.commonFields ++ event.data.fields) ++ fields := by
      have behind : storeEntries event.extra event.writesKey = [] := by rw [extra]; rfl
      have unknownFields : event.unknownFields = fields := by
        unfold unknownFields
        rw [same]
        exact stored.written
      rw [TraceEvent.entries, unknownFields, behind, List.append_nil]
    have taken : unrecognised (named (event.commonFields ++ event.data.fields) ++ fields)
        (writesCommonKey event.peer) = fields := by
      have own : event.data.fields = [] := by rw [same]; rfl
      rw [own, List.append_nil]
      refine unrecognised_named (fun field member => ?_) ?_ stored.apart
      · exact mem_commonFields.mp (List.mem_map_of_mem member)
      · have nodup := keys_nodup event
        rwa [own, List.append_nil] at nodup
    have data : readData (named (event.commonFields ++ event.data.fields) ++ fields) event.peer
        event.data.eventType = .ok (.unknown eventType fields) := by
      rw [same] at taken ⊢
      exact (readData_unknown beyond event.peer).trans (by rw [taken])
    have read := fromValue_entries peer data
    rw [← entries] at read
    refine read.trans (congrArg Except.ok ?_)
    obtain ⟨seq, timestamp, peer', data', extra'⟩ := event
    cases same
    cases extra
    rfl

theorem EventData.unread_nil (data : EventData) : data.Unread [] := by
  cases data <;> simp [Unread, getUint, getInt, getText, getBytes, getNamespace, getValue]

/-- An event that was not read from a file is settled, whatever its fields hold. -/
theorem TraceEvent.Settled.fresh {event : TraceEvent} (extra : event.extra = [])
    (canonical : event.data.Canonical) (asWritten : ∀ v ∈ event.data.unreadValue, conforming v = true)
    (unknown : ∀ eventType fields, event.data = .unknown eventType fields → 10 < eventType.toNat ∧
      Cbor.Settled (writesCommonKey event.peer) fields ∧ (event.peer = none → getText fields "p" = none)) :
    event.Settled where
  canonical := canonical
  asWritten v held := normalised_of_conforming v (asWritten v held)
  unread := extra ▸ event.data.unread_nil
  peer _ := by rw [extra]; rfl
  store := by rw [extra]; exact ⟨.nil, rfl, nofun⟩
  unknown eventType fields same := by
    obtain ⟨beyond, stored, peer⟩ := unknown eventType fields same
    exact ⟨beyond, extra, stored, peer⟩

/-- A derivation that leaves three of its keys out. -/
def derivation : TraceEvent where
  seq := 4
  timestamp := -2
  peer := some "a"
  data := .subscriptionDerivation ⟨"a", 1⟩ [⟨"b", 2⟩] (.known .shared) none (some [[1], []]) (some [7])
    (some 5) none none (some (-1))

end Moqtap.Trace
