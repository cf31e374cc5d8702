import Moqtap.Draft22Properties

/-! Draft-22 control messages (`draft22/message.rs`): the nineteen bodies, the
type and 16-bit length around them, and the scope table saying which Message
Parameter may stand in which message. -/
namespace Moqtap.Draft22.Messages
open ByteCursor Varint CodecTypes Parameters Properties

inductive MessageType where
  | requestUpdate
  | subscribe
  | subscribeOk
  | requestError
  | publishNamespace
  | requestOk
  | «namespace»
  | publishDone
  | trackStatus
  | namespaceDone
  | publishSkipped
  | goAway
  | fetch
  | fetchOk
  | publish
  | publishStateNotify
  | subscribeNamespace
  | subscribeTracks
  | setup
  deriving DecidableEq, Repr

namespace MessageType

def fromId (id : Nat) : Option MessageType :=
  match id with
  | 0x02 => some .requestUpdate
  | 0x03 => some .subscribe
  | 0x04 => some .subscribeOk
  | 0x05 => some .requestError
  | 0x06 => some .publishNamespace
  | 0x07 => some .requestOk
  | 0x08 => some .namespace
  | 0x0B => some .publishDone
  | 0x0D => some .trackStatus
  | 0x0E => some .namespaceDone
  | 0x0F => some .publishSkipped
  | 0x10 => some .goAway
  | 0x16 => some .fetch
  | 0x18 => some .fetchOk
  | 0x1D => some .publish
  | 0x22 => some .publishStateNotify
  | 0x50 => some .subscribeNamespace
  | 0x51 => some .subscribeTracks
  | 0x2F00 => some .setup
  | _ => none

def id : MessageType → Nat
  | .requestUpdate => 0x02
  | .subscribe => 0x03
  | .subscribeOk => 0x04
  | .requestError => 0x05
  | .publishNamespace => 0x06
  | .requestOk => 0x07
  | .namespace => 0x08
  | .publishDone => 0x0B
  | .trackStatus => 0x0D
  | .namespaceDone => 0x0E
  | .publishSkipped => 0x0F
  | .goAway => 0x10
  | .fetch => 0x16
  | .fetchOk => 0x18
  | .publish => 0x1D
  | .publishStateNotify => 0x22
  | .subscribeNamespace => 0x50
  | .subscribeTracks => 0x51
  | .setup => 0x2F00

theorem fromId_ok {id : Nat} {t : MessageType} : fromId id = some t ↔ id = t.id := by
  constructor
  · intro found
    unfold fromId at found
    split at found <;> cases found <;> rfl
  · rintro rfl
    cases t <;> rfl

theorem id_lt (t : MessageType) : t.id < 2 ^ 64 := by
  cases t <;> decide

end MessageType

/-! ## Messages -/

structure Redirect where
  connectUri : Bytes
  trackNamespace : TrackNamespace
  trackName : Bytes
  deriving DecidableEq, Repr

structure RequestError where
  errorCode : VarInt
  retryInterval : VarInt
  reasonPhrase : Bytes
  redirect : Option Redirect
  deriving DecidableEq, Repr

structure Publish where
  requestId : VarInt
  trackNamespace : TrackNamespace
  trackName : Bytes
  trackAlias : VarInt
  parameters : List KeyValuePair
  trackProperties : List KeyValuePair
  deriving DecidableEq, Repr

structure PublishDone where
  statusCode : VarInt
  streamCount : VarInt
  reasonPhrase : Bytes
  deriving DecidableEq, Repr

/-- The fields of `Subscribe`, `TrackStatus` and `Fetch`. -/
structure TrackRequest where
  requestId : VarInt
  trackNamespace : TrackNamespace
  trackName : Bytes
  parameters : List KeyValuePair
  deriving DecidableEq, Repr

/-- The fields of `PublishNamespace`, `SubscribeNamespace` and `SubscribeTracks`. -/
structure NamespaceRequest where
  requestId : VarInt
  trackNamespace : TrackNamespace
  parameters : List KeyValuePair
  deriving DecidableEq, Repr

structure FetchOk where
  endOfTrack : UInt8
  endGroup : VarInt
  endObject : VarInt
  parameters : List KeyValuePair
  trackProperties : List KeyValuePair
  deriving DecidableEq, Repr

inductive ControlMessage where
  | setup (options : List KeyValuePair)
  | goAway (newSessionUri : Bytes) (timeout : VarInt)
  | requestOk (parameters trackProperties : List KeyValuePair)
  | requestError (m : RequestError)
  | subscribe (m : TrackRequest)
  | subscribeOk (trackAlias : VarInt) (parameters trackProperties : List KeyValuePair)
  | requestUpdate (requestId : VarInt) (parameters : List KeyValuePair)
  | publish (m : Publish)
  | publishStateNotify (parameters : List KeyValuePair)
  | publishDone (m : PublishDone)
  | publishNamespace (m : NamespaceRequest)
  | «namespace» (namespaceSuffix : TrackNamespace)
  | namespaceDone (namespaceSuffix : TrackNamespace)
  | subscribeNamespace (m : NamespaceRequest)
  | subscribeTracks (m : NamespaceRequest)
  | trackStatus (m : TrackRequest)
  | fetch (m : TrackRequest)
  | fetchOk (m : FetchOk)
  | publishSkipped (namespaceSuffix : TrackNamespace) (trackName : Bytes)
  deriving DecidableEq, Repr

namespace ControlMessage

def messageType : ControlMessage → MessageType
  | .setup .. => .setup
  | .goAway .. => .goAway
  | .requestOk .. => .requestOk
  | .requestError .. => .requestError
  | .subscribe .. => .subscribe
  | .subscribeOk .. => .subscribeOk
  | .requestUpdate .. => .requestUpdate
  | .publish .. => .publish
  | .publishStateNotify .. => .publishStateNotify
  | .publishDone .. => .publishDone
  | .publishNamespace .. => .publishNamespace
  | .namespace .. => .namespace
  | .namespaceDone .. => .namespaceDone
  | .subscribeNamespace .. => .subscribeNamespace
  | .subscribeTracks .. => .subscribeTracks
  | .trackStatus .. => .trackStatus
  | .fetch .. => .fetch
  | .fetchOk .. => .fetchOk
  | .publishSkipped .. => .publishSkipped

/-- The Message Parameters, none where the message has no such field. -/
def parameters : ControlMessage → List KeyValuePair
  | .requestOk parameters _ | .subscribeOk _ parameters _ | .requestUpdate _ parameters
  | .publishStateNotify parameters => parameters
  | .publish m => m.parameters
  | .subscribe m | .trackStatus m | .fetch m => m.parameters
  | .publishNamespace m | .subscribeNamespace m | .subscribeTracks m => m.parameters
  | .fetchOk m => m.parameters
  | .setup .. | .goAway .. | .requestError .. | .publishDone .. | .namespace .. | .namespaceDone ..
  | .publishSkipped .. => []

/-- The Key-Value-Pairs at the end: Setup Options or Track Properties. -/
def pairs : ControlMessage → List KeyValuePair
  | .setup options => options
  | .requestOk _ trackProperties | .subscribeOk _ _ trackProperties => trackProperties
  | .publish m => m.trackProperties
  | .fetchOk m => m.trackProperties
  | _ => []

/-- The same message with its parameters' wire-form values in minimal varints. -/
def minimal : ControlMessage → ControlMessage
  | .requestOk parameters trackProperties => .requestOk (parameters.map minimalParameter) trackProperties
  | .subscribeOk trackAlias parameters trackProperties =>
    .subscribeOk trackAlias (parameters.map minimalParameter) trackProperties
  | .requestUpdate requestId parameters => .requestUpdate requestId (parameters.map minimalParameter)
  | .publishStateNotify parameters => .publishStateNotify (parameters.map minimalParameter)
  | .publish m => .publish { m with parameters := m.parameters.map minimalParameter }
  | .subscribe m => .subscribe { m with parameters := m.parameters.map minimalParameter }
  | .trackStatus m => .trackStatus { m with parameters := m.parameters.map minimalParameter }
  | .fetch m => .fetch { m with parameters := m.parameters.map minimalParameter }
  | .publishNamespace m => .publishNamespace { m with parameters := m.parameters.map minimalParameter }
  | .subscribeNamespace m =>
    .subscribeNamespace { m with parameters := m.parameters.map minimalParameter }
  | .subscribeTracks m => .subscribeTracks { m with parameters := m.parameters.map minimalParameter }
  | .fetchOk m => .fetchOk { m with parameters := m.parameters.map minimalParameter }
  | m => m

end ControlMessage

/-! ## Checks made on both sides -/

/-- `request_error_codes::REDIRECT`. -/
def redirectCode : Nat := 0x34

def checkDiscriminators (message : ControlMessage) : Except CodecError Unit :=
  match message with
  | .requestError m =>
    refuseIf ((m.errorCode.val == redirectCode) != m.redirect.isSome) .invalidField
  | _ => .ok ()

def parameterInScope (key : Nat) (message : MessageType) : Bool :=
  match key with
  | 0x02 => [.subscribe, .publish, .requestUpdate].contains message
  | 0x03 => [.publish, .subscribe, .requestUpdate, .subscribeNamespace, .subscribeTracks,
      .publishNamespace, .trackStatus, .fetch].contains message
  | 0x04 => message == .subscribe
  | 0x06 => [.subscribe, .publish, .requestUpdate].contains message
  | 0x08 => [.subscribeOk, .publish, .requestOk].contains message
  | 0x09 => [.subscribeOk, .publish, .requestOk, .publishStateNotify].contains message
  | 0x0A => message == .fetch
  | 0x10 => [.subscribe, .requestUpdate, .publish, .subscribeTracks, .publishStateNotify].contains message
  | 0x20 => [.subscribe, .publish, .fetch, .requestUpdate].contains message
  | 0x21 => [.fetch, .subscribe, .publish, .requestUpdate, .publishStateNotify,
      .subscribeTracks].contains message
  | 0x22 => [.subscribe, .publish, .subscribeTracks, .fetch].contains message
  | 0x23 => [.subscribe, .requestUpdate, .subscribeTracks].contains message
  | 0x25 | 0x26 | 0x27 | 0x28 =>
    [.fetch, .subscribe, .subscribeTracks, .requestUpdate].contains message
  | 0x29 => [.subscribeTracks, .requestUpdate].contains message
  | 0x32 => [.subscribe, .requestUpdate].contains message
  | 0x34 => message == .requestUpdate
  | 0x35 => [.subscribe, .trackStatus, .fetch, .subscribeTracks].contains message
  | _ => true

def checkParameterScope (message : ControlMessage) : Except CodecError Unit :=
  checkAll (fun parameter => refuseIf (!parameterInScope parameter.key.val message.messageType)
    (.parameterOutOfScope parameter.key.val message.messageType.id)) message.parameters

/-! ## Bodies -/

def encodeReasonPhrase (reasonPhrase : Bytes) : Except CodecError Bytes := do
  refuseIf (reasonPhrase.length > maxReasonPhraseLength) .reasonPhraseTooLong
  return putLengthPrefixed wire reasonPhrase

def decodeReasonPhrase : Reader CodecError Bytes :=
  lengthPrefixed wire fun len => refuseIf (len > maxReasonPhraseLength) .reasonPhraseTooLong

/-- A namespace with nothing beside it. -/
def encodeNamespace (ns : TrackNamespace) : Except CodecError Bytes := do
  ns.validateMoqt
  return ns.encodeMoqt wire

/-- A namespace and a track name, held together to the Full Track Name cap. -/
def encodeFullTrackName (ns : TrackNamespace) (trackName : Bytes) : Except CodecError Bytes := do
  ns.validateMoqt
  checkFullTrackName ns trackName
  return ns.encodeMoqt wire ++ putLengthPrefixed wire trackName

def decodeFullTrackName : Reader CodecError (TrackNamespace × Bytes) := do
  let ns ← TrackNamespace.decodeAllowEmptyMoqt wire
  let trackName ← lengthPrefixed wire noCheck
  lift (checkFullTrackName ns trackName)
  return (ns, trackName)

def encodeRedirect (r : Redirect) : Except CodecError Bytes := do
  let name ← encodeFullTrackName r.trackNamespace r.trackName
  return putLengthPrefixed wire r.connectUri ++ name

def decodeRedirect : Reader CodecError Redirect := do
  let connectUri ← lengthPrefixed wire noCheck
  let name ← decodeFullTrackName
  return { connectUri, trackNamespace := name.1, trackName := name.2 : Redirect }

def encodeTrackRequest (m : TrackRequest) : Except CodecError Bytes := do
  let name ← encodeFullTrackName m.trackNamespace m.trackName
  let parameters ← encodeParameters m.parameters
  return m.requestId.encodeMoqt wire ++ (name ++ parameters)

def decodeTrackRequest : Reader CodecError TrackRequest := do
  let requestId ← varint wire
  let name ← decodeFullTrackName
  let parameters ← decodeParameters
  return { requestId, trackNamespace := name.1, trackName := name.2, parameters : TrackRequest }

def encodeNamespaceRequest (m : NamespaceRequest) : Except CodecError Bytes := do
  let ns ← encodeNamespace m.trackNamespace
  let parameters ← encodeParameters m.parameters
  return m.requestId.encodeMoqt wire ++ (ns ++ parameters)

def decodeNamespaceRequest : Reader CodecError NamespaceRequest := do
  let requestId ← varint wire
  let trackNamespace ← TrackNamespace.decodeAllowEmptyMoqt wire
  let parameters ← decodeParameters
  return { requestId, trackNamespace, parameters : NamespaceRequest }

def encodePublish (m : Publish) : Except CodecError Bytes := do
  let name ← encodeFullTrackName m.trackNamespace m.trackName
  let parameters ← encodeParameters m.parameters
  let properties ← encodeTrackProperties m.trackProperties
  return m.requestId.encodeMoqt wire ++
    (name ++ (m.trackAlias.encodeMoqt wire ++ (parameters ++ properties)))

/-- PUBLISH alone checks its Full Track Name after the Track Alias has been read. -/
def decodePublish : Reader CodecError Publish := do
  let requestId ← varint wire
  let trackNamespace ← TrackNamespace.decodeMoqt wire
  let trackName ← lengthPrefixed wire noCheck
  let trackAlias ← varint wire
  lift (checkFullTrackName trackNamespace trackName)
  let parameters ← decodeParameters
  let trackProperties ← decodeTrackProperties
  return { requestId, trackNamespace, trackName, trackAlias, parameters, trackProperties : Publish }

def encodeRedirectField (redirect : Option Redirect) : Except CodecError Bytes :=
  match redirect with
  | some r => encodeRedirect r
  | none => .ok []

/-- The Redirect is on the wire exactly under the REDIRECT code. -/
def decodeRedirectField (errorCode : VarInt) : Reader CodecError (Option Redirect) :=
  if errorCode.val = redirectCode then some <$> decodeRedirect else pure none

def encodeRequestError (m : RequestError) : Except CodecError Bytes := do
  let reason ← encodeReasonPhrase m.reasonPhrase
  let redirect ← encodeRedirectField m.redirect
  return m.errorCode.encodeMoqt wire ++ (m.retryInterval.encodeMoqt wire ++ (reason ++ redirect))

def decodeRequestError : Reader CodecError RequestError := do
  let errorCode ← varint wire
  let retryInterval ← varint wire
  let reasonPhrase ← decodeReasonPhrase
  let redirect ← decodeRedirectField errorCode
  return { errorCode, retryInterval, reasonPhrase, redirect : RequestError }

def encodePublishDone (m : PublishDone) : Except CodecError Bytes := do
  let reason ← encodeReasonPhrase m.reasonPhrase
  return m.statusCode.encodeMoqt wire ++ (m.streamCount.encodeMoqt wire ++ reason)

def decodePublishDone : Reader CodecError PublishDone := do
  let statusCode ← varint wire
  let streamCount ← varint wire
  let reasonPhrase ← decodeReasonPhrase
  return { statusCode, streamCount, reasonPhrase : PublishDone }

def encodeGoAway (newSessionUri : Bytes) (timeout : VarInt) : Except CodecError Bytes := do
  refuseIf (newSessionUri.length > maxGoawayUriLength) .goAwayUriTooLong
  return putLengthPrefixed wire newSessionUri ++ timeout.encodeMoqt wire

/-- The parameters and Track Properties that end a message. -/
def encodeTail (parameters trackProperties : List KeyValuePair) : Except CodecError Bytes := do
  let parameters ← encodeParameters parameters
  let properties ← encodeTrackProperties trackProperties
  return parameters ++ properties

def decodeTail : Reader CodecError (List KeyValuePair × List KeyValuePair) := do
  let parameters ← decodeParameters
  let trackProperties ← decodeTrackProperties
  return (parameters, trackProperties)

def encodeFetchOk (m : FetchOk) : Except CodecError Bytes := do
  let tail ← encodeTail m.parameters m.trackProperties
  return [m.endOfTrack] ++ (m.endGroup.encodeMoqt wire ++ (m.endObject.encodeMoqt wire ++ tail))

def decodeFetchOk : Reader CodecError FetchOk := do
  let endOfTrack ← takeByte .unexpectedEnd
  let endGroup ← varint wire
  let endObject ← varint wire
  let tail ← decodeTail
  return { endOfTrack, endGroup, endObject, parameters := tail.1, trackProperties := tail.2 : FetchOk }

def encodeBody (message : ControlMessage) : Except CodecError Bytes :=
  match message with
  | .setup options => encodeSetupOptions options
  | .goAway newSessionUri timeout => encodeGoAway newSessionUri timeout
  | .requestOk parameters trackProperties => encodeTail parameters trackProperties
  | .requestError m => encodeRequestError m
  | .subscribe m => encodeTrackRequest m
  | .subscribeOk trackAlias parameters trackProperties => do
    let tail ← encodeTail parameters trackProperties
    return trackAlias.encodeMoqt wire ++ tail
  | .requestUpdate requestId parameters => do
    let parameters ← encodeParameters parameters
    return requestId.encodeMoqt wire ++ parameters
  | .publish m => encodePublish m
  | .publishStateNotify parameters => encodeParameters parameters
  | .publishDone m => encodePublishDone m
  | .publishNamespace m => encodeNamespaceRequest m
  | .namespace namespaceSuffix => encodeNamespace namespaceSuffix
  | .namespaceDone namespaceSuffix => encodeNamespace namespaceSuffix
  | .subscribeNamespace m => encodeNamespaceRequest m
  | .subscribeTracks m => encodeNamespaceRequest m
  | .trackStatus m => encodeTrackRequest m
  | .fetch m => encodeTrackRequest m
  | .fetchOk m => encodeFetchOk m
  | .publishSkipped namespaceSuffix trackName => encodeFullTrackName namespaceSuffix trackName

def decodeBody (msgType : MessageType) : Reader CodecError ControlMessage :=
  match msgType with
  | .setup => do
    let options ← decodeSetupOptions
    return .setup options
  | .goAway => do
    let uri ← lengthPrefixed wire fun len => refuseIf (len > maxGoawayUriLength) .goAwayUriTooLong
    let timeout ← varint wire
    return .goAway uri timeout
  | .requestOk => do
    let tail ← decodeTail
    return .requestOk tail.1 tail.2
  | .requestError => do
    let m ← decodeRequestError
    return .requestError m
  | .subscribe => do
    let m ← decodeTrackRequest
    return .subscribe m
  | .subscribeOk => do
    let trackAlias ← varint wire
    let tail ← decodeTail
    return .subscribeOk trackAlias tail.1 tail.2
  | .requestUpdate => do
    let requestId ← varint wire
    let parameters ← decodeParameters
    return .requestUpdate requestId parameters
  | .publish => do
    let m ← decodePublish
    return .publish m
  | .publishStateNotify => do
    let parameters ← decodeParameters
    return .publishStateNotify parameters
  | .publishDone => do
    let m ← decodePublishDone
    return .publishDone m
  | .publishNamespace => do
    let m ← decodeNamespaceRequest
    return .publishNamespace m
  | .namespace => do
    let namespaceSuffix ← TrackNamespace.decodeAllowEmptyMoqt wire
    return .namespace namespaceSuffix
  | .namespaceDone => do
    let namespaceSuffix ← TrackNamespace.decodeAllowEmptyMoqt wire
    return .namespaceDone namespaceSuffix
  | .subscribeNamespace => do
    let m ← decodeNamespaceRequest
    return .subscribeNamespace m
  | .subscribeTracks => do
    let m ← decodeNamespaceRequest
    return .subscribeTracks m
  | .trackStatus => do
    let m ← decodeTrackRequest
    return .trackStatus m
  | .fetch => do
    let m ← decodeTrackRequest
    return .fetch m
  | .fetchOk => do
    let m ← decodeFetchOk
    return .fetchOk m
  | .publishSkipped => do
    let name ← decodeFullTrackName
    return .publishSkipped name.1 name.2

/-! ## Frames -/

def putU16 (v : Nat) : Bytes := [UInt8.ofNat (v >>> 8), UInt8.ofNat v]

def getU16 : Reader CodecError Nat := do
  let bytes ← readBytes 2
  return bytes.foldl (fun v byte => v * 256 + byte.toNat) 0

def encode (message : ControlMessage) : Except CodecError Bytes := do
  checkDiscriminators message
  checkParameterScope message
  let body ← encodeBody message
  refuseIf (body.length > maxMessageLength) (.messageTooLong body.length)
  return (VarInt.ofU64 message.messageType.id).encodeMoqt wire ++ (putU16 body.length ++ body)

/-- A message read off a body that has arrived whole: what would elsewhere mean
"not here yet" is a Length that does not match. -/
def decodeFramed (msgType : MessageType) (bodyLen : Nat) (body : Bytes) :
    Except CodecError ControlMessage :=
  match decodeBody msgType (.of body) with
  | .error error =>
    if error.isIncomplete then
      .error (.controlMessageLengthMismatch bodyLen "its fields ran past the end")
    else .error error
  | .ok (message, rest) => do
    checkParameterScope message
    refuseIf (rest.remaining != 0)
      (.controlMessageLengthMismatch bodyLen "its fields left bytes unread")
    return message

def decode : Reader CodecError ControlMessage := do
  let typeId ← varint wire
  let msgType ← lift (okOr (MessageType.fromId typeId.val) (.unknownMessageType typeId.val))
  let bodyLen ← getU16
  let body ← readBytes bodyLen
  lift (decodeFramed msgType bodyLen body)

end Moqtap.Draft22.Messages
