import Moqtap.Draft22EndpointState

/-! The operations of a draft-22 endpoint (`draft22/endpoint.rs`): the session,
the requests it makes, the requests the peer makes, the answers to both, and the
updates that travel on a request's own stream. -/
namespace Moqtap.Draft22.Client
open ByteCursor Varint CodecTypes Parameters Messages Machines RangeFilters

/-- One of the seven per-kind maps, and the error its machine refuses with. -/
structure Flow (σ : Type) where
  table : Endpoint → Table σ
  put : Endpoint → Table σ → Endpoint
  wrap : InvalidTransition σ → EndpointError

namespace Endpoint

def subscriptionFlow : Flow SubscriptionState :=
  ⟨subscriptions, fun e t => { e with subscriptions := t }, .subscription⟩
def fetchFlow : Flow FetchState := ⟨fetches, fun e t => { e with fetches := t }, .fetch⟩
def publishFlow : Flow PublishState :=
  ⟨publishes, fun e t => { e with publishes := t }, .publishFlow⟩
def subscribeNamespaceFlow : Flow NamespaceState :=
  ⟨subscribeNamespaces, fun e t => { e with subscribeNamespaces := t }, .namespace⟩
def subscribeTracksFlow : Flow NamespaceState :=
  ⟨subscribeTracks, fun e t => { e with subscribeTracks := t }, .namespace⟩
def publishNamespaceFlow : Flow NamespaceState :=
  ⟨publishNamespaces, fun e t => { e with publishNamespaces := t }, .namespace⟩
def trackStatusFlow : Flow TrackStatusState :=
  ⟨trackStatuses, fun e t => { e with trackStatuses := t }, .trackStatus⟩

/-- `get_mut(&id).ok_or(UnknownRequest(id))?` and the machine's event on what it finds. -/
def drive {σ : Type} (e : Endpoint) (flow : Flow σ) (id : Nat)
    (event : σ → Except (InvalidTransition σ) σ) : Outcome Unit :=
  match (flow.table e).lookup id with
  | none => e.refuse (.unknownRequest id)
  | some state =>
    e.attempt ((event state).mapError flow.wrap) fun next =>
      (.ok (), flow.put e ((flow.table e).insert id next))

/-! ## The session -/

def requireActiveOrErr (e : Endpoint) : Except EndpointError Unit :=
  match e.session with
  | .active => .ok ()
  | .draining => .error .draining
  | _ => .error .notActive

def connect (e : Endpoint) : Outcome Unit :=
  e.attempt (e.session.onConnect.mapError .session) fun s => (.ok (), { e with session := s })

def close (e : Endpoint) : Outcome Unit :=
  e.attempt (e.session.onClose.mapError .session) fun s => (.ok (), { e with session := s })

/-- The varint a Setup Option holds, bare or in bytes; absent and unreadable are both 0. -/
def setupVarint (options : List KeyValuePair) (key : Nat) : Nat :=
  match options.find? fun o => o.key.val == key with
  | none => 0
  | some option =>
    match option.value with
    | .varint v => v.val
    | .bytes bytes =>
      match wholly VarIntError.unexpectedEnd (VarInt.decodeMoqt wire) bytes with
      | .ok v => v.val
      | .error _ => 0

def maxRequestUpdates : Nat := 0x08
def maxFilterRanges : Nat := 0x06
def pathOption : Nat := 0x01

def validateSetup (options : List KeyValuePair) (sender : Role) : Except SetupError Unit :=
  refuseIf (sender == .server && options.any fun o => o.key.val == pathOption)
    (.wrongOptionRole pathOption sender)

def sendSetup (e : Endpoint) (options : List KeyValuePair) : Outcome ControlMessage :=
  e.attempt ((validateSetup options e.role).mapError .setup) fun () =>
    (.ok (.setup options),
      { e with
        advertisedMaxRequestUpdates := setupVarint options maxRequestUpdates
        advertisedMaxFilterRanges := setupVarint options maxFilterRanges })

def receiveSetup (e : Endpoint) (options : List KeyValuePair) : Outcome Unit :=
  e.attempt ((validateSetup options e.role.peer).mapError .setup) fun () =>
    e.attempt (e.session.onSetupComplete.mapError .session) fun s =>
      (.ok (), { e with session := s })

def receiveGoaway (e : Endpoint) (newSessionUri : Bytes) : Outcome Unit :=
  if e.role = .server ∧ newSessionUri ≠ [] then e.failSession .goAwayUriAtServer
  else if e.session = .draining then e.failSession .repeatedGoAway
  else
    e.attempt (e.session.onGoaway.mapError .session) fun s =>
      (.ok (), { e with session := s, goawayUri := some newSessionUri })

/-! ## Track aliases -/

def bindingIsInUse (e : Endpoint) (id : Nat) : BindingKind → Bool
  | .subscribe => (e.subscriptions.lookup id).any (· != .done)
  | .publish => (e.publishes.lookup id).any (· != .done)

def bindingIsEstablished (e : Endpoint) (id : Nat) : BindingKind → Bool
  | .subscribe => (e.subscriptions.lookup id).any (· == .active)
  | .publish => (e.publishes.lookup id).any (· == .active)

/-- The bindings, in the order the map happens to iterate in. -/
def bindings (e : Endpoint) (order : IterationOrder) : List (Sigma fun _ : Nat => TrackBinding) :=
  order.arrange e.trackBindings.entries

def conflictingTrackAlias (e : Endpoint) (order : IterationOrder) (requestId trackAlias : Nat)
    (track : Track) : Option EndpointError :=
  ((e.bindings order).find? fun b =>
    b.1 != requestId && b.2.trackAlias == some trackAlias && b.2.track != track &&
      e.bindingIsEstablished b.1 b.2.kind).map
    fun b => .duplicateTrackAlias trackAlias b.1 requestId

def aliasHeldElsewhere (e : Endpoint) (order : IterationOrder) (trackAlias : Nat) (track : Track) :
    Option EndpointError :=
  ((e.bindings order).find? fun b =>
    b.2.trackAlias == some trackAlias && b.2.track != track && e.bindingIsInUse b.1 b.2.kind).map
    fun b => .trackAliasInUse trackAlias b.1

def trackForAlias (e : Endpoint) (order : IterationOrder) (trackAlias : Nat) : Option Track :=
  ((e.bindings order).find? fun b =>
    b.2.trackAlias == some trackAlias && e.bindingIsInUse b.1 b.2.kind).map fun b => b.2.track

def receivesThrough (e : Endpoint) (id : Nat) : BindingKind → Bool
  | .subscribe => true
  | .publish => (e.requestIds.validatePeerId id).isOk

/-- The track whose objects `track_objects` measures, the handle's other fields aside. -/
def trackObjects (e : Endpoint) (order : IterationOrder) (trackAlias : Nat) : Option Track :=
  e.trackForAlias order trackAlias

def noteReceivedObject (e : Endpoint) (order : IterationOrder) (trackAlias : Nat)
    (at' : ObjectLocation) (role : ObjectRole) : Outcome Unit :=
  match e.trackObjects order trackAlias with
  | none => (.ok (), e)
  | some track =>
    e.attempt ((e.locations.checkNotPastFinal track at').mapError
        (.objectPastFinalObject trackAlias at')) fun () =>
      (.ok (), { e with locations := e.locations.noted track at' role })

def requestsForMalformedTrack (e : Endpoint) (order : IterationOrder) (trackAlias : Nat)
    (condition : MalformedTrackCondition) : Outcome (List Nat) :=
  match e.trackForAlias order trackAlias with
  | none => (.ok [], e)
  | some track =>
    let bound := (e.trackBindings.entries.filter fun b =>
      b.2.track == track && e.bindingIsInUse b.1 b.2.kind && e.receivesThrough b.1 b.2.kind).map
        Sigma.fst
    let fetched := (e.fetchTracks.entries.filter fun f =>
      f.2 == track && (e.fetches.lookup f.1).any (· != .done)).map Sigma.fst
    (.ok ((bound ++ fetched).mergeSort (· ≤ ·) |>.filter fun id => id ≤ maxVarint),
      { e with malformed := e.malformed.note track condition })

/-! ## Requests this endpoint makes -/

/-- `request_ids.allocate()?`, its panic kept apart from its error. -/
def allocate {β : Type} (e : Endpoint) (next : VarInt → Endpoint → Outcome β) : Outcome β :=
  match e.requestIds.allocate with
  | none => (.error .panicked, e)
  | some (.error error) => e.refuse (.requestId error)
  | some (.ok (id, ids)) => next id { e with requestIds := ids }

/-- A new machine takes its first event and goes into its map under a fresh Request ID. -/
def openRequest {σ : Type} (e : Endpoint) (flow : Flow σ)
    (sent : Except (InvalidTransition σ) σ) (record : Nat → Endpoint → Endpoint)
    (message : VarInt → ControlMessage) : Outcome (VarInt × ControlMessage) :=
  e.allocate fun id e =>
    e.attempt (sent.mapError flow.wrap) fun sm =>
      (.ok (id, message id), record id.val (flow.put e ((flow.table e).insert id.val sm)))

def noteFillRequested (requestId : Nat) (parameters : List KeyValuePair) (e : Endpoint) :
    Endpoint :=
  if parameters.any fun p => p.key.val == fillParameters then
    let order := (groupOrder parameters).toOption.getD .ascending
    let entry := (e.fills.lookup requestId).getD ⟨0, 0, order⟩
    { e with fills := e.fills.insert requestId { entry with groupOrder := order } }
  else e

def subscribe (e : Endpoint) (track : Track) (parameters : List KeyValuePair) :
    Outcome (VarInt × ControlMessage) :=
  e.attempt e.requireActiveOrErr fun () =>
    e.openRequest subscriptionFlow (SubscriptionState.onSubscribeSent .idle)
      (fun id e =>
        let e := noteFillRequested id parameters e
        { e with trackBindings := e.trackBindings.insert id ⟨track, none, .subscribe⟩ })
      fun id => .subscribe ⟨id, track.namespace, track.name, parameters⟩

def fetch (e : Endpoint) (track : Track) (parameters : List KeyValuePair) :
    Outcome (VarInt × ControlMessage) :=
  e.attempt e.requireActiveOrErr fun () =>
    e.openRequest fetchFlow (FetchState.onFetchSent .idle)
      (fun id e => { e with fetchTracks := e.fetchTracks.insert id track })
      fun id => .fetch ⟨id, track.namespace, track.name, parameters⟩

def fetchRange (e : Endpoint) (track : Track) (range : LocationFilter)
    (parameters : List KeyValuePair) : Outcome (VarInt × ControlMessage) :=
  e.attempt (range.parameter.mapError .fill) fun filter =>
    e.fetch track (insertParameter parameters filter)

def subscribeNamespace (e : Endpoint) (namespacePrefix : TrackNamespace)
    (parameters : List KeyValuePair) : Outcome (VarInt × ControlMessage) :=
  e.attempt e.requireActiveOrErr fun () =>
    e.openRequest subscribeNamespaceFlow (NamespaceState.onSubscribeNamespaceSent .idle)
      (fun _ e => e) fun id => .subscribeNamespace ⟨id, namespacePrefix, parameters⟩

def subscribeTracksRequest (e : Endpoint) (namespacePrefix : TrackNamespace)
    (parameters : List KeyValuePair) : Outcome (VarInt × ControlMessage) :=
  e.attempt e.requireActiveOrErr fun () =>
    e.openRequest subscribeTracksFlow (NamespaceState.onSubscribeNamespaceSent .idle)
      (fun id e => noteFillRequested id parameters e)
      fun id => .subscribeTracks ⟨id, namespacePrefix, parameters⟩

def publishNamespace (e : Endpoint) (trackNamespace : TrackNamespace)
    (parameters : List KeyValuePair) : Outcome (VarInt × ControlMessage) :=
  e.attempt e.requireActiveOrErr fun () =>
    e.openRequest publishNamespaceFlow (NamespaceState.onPublishNamespaceSent .idle)
      (fun _ e => e) fun id => .publishNamespace ⟨id, trackNamespace, parameters⟩

def trackStatus (e : Endpoint) (track : Track) (parameters : List KeyValuePair) :
    Outcome (VarInt × ControlMessage) :=
  e.attempt e.requireActiveOrErr fun () =>
    e.openRequest trackStatusFlow (TrackStatusState.onTrackStatusSent .idle)
      (fun _ e => e) fun id => .trackStatus ⟨id, track.namespace, track.name, parameters⟩

def publish (e : Endpoint) (order : IterationOrder) (track : Track) (trackAlias : VarInt)
    (parameters trackProperties : List KeyValuePair) : Outcome (VarInt × ControlMessage) :=
  e.attempt e.requireActiveOrErr fun () =>
    match e.aliasHeldElsewhere order trackAlias.val track with
    | some refusal => e.refuse refusal
    | none =>
      e.openRequest publishFlow (PublishState.onPublishSent .idle)
        (fun id e => { e with
          trackBindings := e.trackBindings.insert id ⟨track, some trackAlias.val, .publish⟩ })
        fun id =>
          .publish ⟨id, track.namespace, track.name, trackAlias, parameters, trackProperties⟩

/-! ## Endings -/

/-- `PublishDoneStatusCode::UpdateFailed`. -/
def updateFailed : Nat := 0x8

/-- The debt is retired here, before the machine has taken the ending. -/
def requireUpdateFailureStatus (e : Endpoint) (id : Nat) (statusCode : VarInt) : Outcome Unit :=
  if id ∉ e.owedUpdateFailures then (.ok (), e)
  else if statusCode.val ≠ updateFailed then
    e.refuse (.wrongUpdateFailureStatus id updateFailed)
  else (.ok (), { e with owedUpdateFailures := e.owedUpdateFailures.erase id })

def sendPublishDone (e : Endpoint) (requestId : VarInt) (done : PublishDone) :
    Outcome ControlMessage :=
  (e.requireUpdateFailureStatus requestId.val done.statusCode).andThen fun () e =>
    (e.drive publishFlow requestId.val PublishState.onPublishDoneSent).andThen fun () e =>
      (.ok (.publishDone done), e)

def publishesASubscription (e : Endpoint) (id : Nat) : Bool :=
  (match e.inboundRequests.lookup id with
    | some (.subscribe _) => true
    | _ => false) ||
    ((e.publishes.lookup id).isSome && (e.inboundRequests.lookup id).isNone)

def cancelRequest (e : Endpoint) (requestId : VarInt) : Outcome Unit :=
  let id := requestId.val
  if id ∈ e.subscriptions then e.drive subscriptionFlow id SubscriptionState.onRequestCancelled
  else if id ∈ e.fetches then e.drive fetchFlow id FetchState.onRequestCancelled
  else if id ∈ e.publishes then e.drive publishFlow id PublishState.onRequestCancelled
  else if id ∈ e.subscribeNamespaces then
    e.drive subscribeNamespaceFlow id NamespaceState.onRequestCancelled
  else if id ∈ e.subscribeTracks then
    e.drive subscribeTracksFlow id NamespaceState.onRequestCancelled
  else if id ∈ e.publishNamespaces then
    e.drive publishNamespaceFlow id NamespaceState.onRequestCancelled
  else e.drive trackStatusFlow id TrackStatusState.onRequestCancelled

/-! ## Fill fetch streams -/

def onFillStreamOpened (e : Endpoint) (requestId : VarInt) : Outcome Unit :=
  match e.fills.lookup requestId.val with
  | none => e.refuse (.unrequestedFillStream requestId.val)
  | some fill =>
    (.ok (), { e with
      fills := e.fills.insert requestId.val
        { fill with «open» := fill.open + 1, opened := fill.opened + 1 } })

def onFillStreamEnded (e : Endpoint) (requestId : VarInt) : Outcome Unit :=
  match e.fills.lookup requestId.val with
  | none => (.ok (), e)
  | some fill =>
    (.ok (), { e with fills := e.fills.insert requestId.val { fill with «open» := fill.open - 1 } })

/-! ## Responses to this endpoint's requests -/

def receiveSubscribeOk (e : Endpoint) (order : IterationOrder) (requestId trackAlias : VarInt) :
    Outcome Unit :=
  let id := requestId.val
  if id ∉ e.subscriptions then e.refuse (.unknownRequest id)
  else
    match (e.trackBindings.lookup id).bind fun binding =>
        e.conflictingTrackAlias order id trackAlias.val binding.track with
    | some conflict => e.failSession conflict
    | none =>
      (e.drive subscriptionFlow id SubscriptionState.onSubscribeOk).andThen fun () e =>
        (.ok (),
          match e.trackBindings.lookup id with
          | none => e
          | some binding => { e with
            trackBindings :=
              e.trackBindings.insert id { binding with trackAlias := some trackAlias.val } })

def receivePublishDone (e : Endpoint) (requestId : VarInt) : Outcome Unit :=
  e.drive subscriptionFlow requestId.val SubscriptionState.onPublishDone

def receivePublishStateNotify (e : Endpoint) (requestId : VarInt) : Outcome Unit :=
  let id := requestId.val
  let ours := id ∈ e.subscriptions ∧ id ∉ e.inboundRequests
  let peersPublish := id ∈ e.publishes ∧ id ∈ e.inboundRequests
  if ours ∨ peersPublish then (.ok (), e)
  else if id ∈ e.subscriptions ∨ id ∈ e.publishes then
    e.failSession (.stateNotifyFromSubscriber id)
  else e.failSession (.stateNotifyForNonSubscription id)

def receiveFetchOk (e : Endpoint) (requestId : VarInt) : Outcome Unit :=
  e.drive fetchFlow requestId.val FetchState.onFetchOk

def onFetchStreamFin (e : Endpoint) (requestId : VarInt) : Outcome Unit :=
  e.drive fetchFlow requestId.val FetchState.onStreamFin

def onFetchStreamReset (e : Endpoint) (requestId : VarInt) : Outcome Unit :=
  e.drive fetchFlow requestId.val FetchState.onStreamReset

def receiveRequestOk (e : Endpoint) (requestId : VarInt) (trackProperties : List KeyValuePair) :
    Outcome Unit :=
  let id := requestId.val
  if trackProperties ≠ [] ∧ id ∉ e.trackStatuses then
    e.failSession (.trackPropertiesOnNonTrackStatus id)
  else if id ∈ e.publishes then e.drive publishFlow id PublishState.onPublishOk
  else if id ∈ e.subscribeNamespaces then
    e.drive subscribeNamespaceFlow id NamespaceState.onSubscribeNamespaceOk
  else if id ∈ e.subscribeTracks then
    e.drive subscribeTracksFlow id NamespaceState.onSubscribeNamespaceOk
  else if id ∈ e.publishNamespaces then
    e.drive publishNamespaceFlow id NamespaceState.onPublishNamespaceOk
  else e.drive trackStatusFlow id TrackStatusState.onTrackStatusOk

/-- A request that names a namespace rather than a track. -/
def namespaceScoped (e : Endpoint) (id : Nat) : Prop :=
  id ∈ e.subscribeNamespaces ∨ id ∈ e.subscribeTracks ∨ id ∈ e.publishNamespaces

instance (e : Endpoint) (id : Nat) : Decidable (e.namespaceScoped id) :=
  inferInstanceAs (Decidable (_ ∨ _))

/-- What a Redirect may not say, judged before the request it answers moves. -/
def redirectFault (e : Endpoint) (id : Nat) : Option Redirect → Option EndpointError
  | none => none
  | some redirect =>
    if e.role = .server ∧ redirect.connectUri ≠ [] then some .redirectUriAtServer
    else if e.namespaceScoped id ∧ redirect.trackName ≠ [] then
      some (.redirectTrackNameOnNamespaceRequest id)
    else none

def receiveRequestError (e : Endpoint) (requestId : VarInt) (error : RequestError) : Outcome Unit :=
  let id := requestId.val
  match e.redirectFault id error.redirect with
  | some fault => e.failSession fault
  | none =>
    if id ∈ e.subscriptions then e.drive subscriptionFlow id SubscriptionState.onSubscribeError
    else if id ∈ e.fetches then e.drive fetchFlow id FetchState.onFetchError
    else if id ∈ e.publishes then e.drive publishFlow id PublishState.onPublishError
    else if id ∈ e.subscribeNamespaces then
      e.drive subscribeNamespaceFlow id NamespaceState.onSubscribeNamespaceError
    else if id ∈ e.subscribeTracks then
      e.drive subscribeTracksFlow id NamespaceState.onSubscribeNamespaceError
    else if id ∈ e.publishNamespaces then
      e.drive publishNamespaceFlow id NamespaceState.onPublishNamespaceError
    else e.drive trackStatusFlow id TrackStatusState.onTrackStatusError

def isRequest (e : Endpoint) (id : Nat) : Prop :=
  id ∈ e.subscriptions ∨ id ∈ e.publishes ∨ id ∈ e.fetches ∨ id ∈ e.subscribeNamespaces ∨
    id ∈ e.subscribeTracks ∨ id ∈ e.publishNamespaces ∨ id ∈ e.trackStatuses

instance (e : Endpoint) (id : Nat) : Decidable (e.isRequest id) :=
  inferInstanceAs (Decidable (_ ∨ _))

def receiveGoawayOnRequestStream (e : Endpoint) (requestId : VarInt) (newSessionUri : Bytes) :
    Outcome Unit :=
  if e.role = .server ∧ newSessionUri ≠ [] then e.failSession .goAwayUriAtServer
  else if e.isRequest requestId.val then
    if requestId.val ∈ e.goawayRequestStreams then
      e.failSession (.repeatedGoAwayOnRequestStream requestId.val)
    else
      (.ok (), { e with goawayRequestStreams := insert requestId.val e.goawayRequestStreams })
  else e.refuse (.unknownRequest requestId.val)

/-! ## Updates the peer sends -/

def spendUpdateCredit (e : Endpoint) (id : Nat) : Outcome Unit :=
  let limit := e.advertisedMaxRequestUpdates
  if limit = 0 then (.ok (), e)
  else
    let outstanding := (e.outstandingPeerUpdates.lookup id).getD 0
    if outstanding ≥ limit then e.failSession (.tooManyRequestUpdates id limit)
    else
      (.ok (), { e with
        outstandingPeerUpdates := e.outstandingPeerUpdates.insert id (outstanding + 1) })

def restoreUpdateCredit (e : Endpoint) (id : Nat) : Endpoint :=
  match e.outstandingPeerUpdates.lookup id with
  | none => e
  | some outstanding =>
    { e with outstandingPeerUpdates := e.outstandingPeerUpdates.insert id (outstanding - 1) }

def filterVerdict (e : Endpoint) (parameters : List KeyValuePair) : Option FilterRejection :=
  match decodeAll parameters with
  | .error error => some (.unreadable error)
  | .ok filters =>
    if filters = [] then none
    else if e.advertisedMaxFilterRanges = 0 then some .noBudgetAdvertised
    else if e.advertisedMaxFilterRanges < totalRanges filters then
      some (.tooManyRanges (totalRanges filters) e.advertisedMaxFilterRanges)
    else (firstRepeatedKey filters).map fun key => .repeatedFilter key.1 key.2.1 key.2.2

def trackNamespacePrefix : Nat := 0x34

/-- The last TRACK_NAMESPACE_PREFIX, when its value is a whole Track Namespace. -/
def updatedPrefix (parameters : List KeyValuePair) : Option TrackNamespace :=
  (parameters.reverse.find? fun p => p.key.val == trackNamespacePrefix).bind fun p =>
    match p.value with
    | .varint _ => none
    | .bytes bytes =>
      (wholly .unexpectedEnd (TrackNamespace.decodeAllowEmptyMoqt wire) bytes).toOption

def prefixesOverlap (a b : TrackNamespace) : Bool :=
  let shared := min a.fields.length b.fields.length
  a.fields.take shared == b.fields.take shared

/-- The lowest Request ID among the peer's namespace subscriptions of one kind that
have not ended and whose prefix overlaps. -/
def peerOverlap (e : Endpoint) (prefixOf : ControlMessage → Option TrackNamespace)
    (table : Table NamespaceState) (namespacePrefix : TrackNamespace) (except : Option Nat) :
    Option Nat :=
  (e.inboundRequests.entries.filterMap fun request =>
    match prefixOf request.2 with
    | none => none
    | some held =>
      if some request.1 ≠ except ∧ (table.lookup request.1).any (· != .done) ∧
          prefixesOverlap held namespacePrefix then some request.1
      else none).min?

def namespacePrefixOf : ControlMessage → Option TrackNamespace
  | .subscribeNamespace m => some m.trackNamespace
  | _ => none

def tracksPrefixOf : ControlMessage → Option TrackNamespace
  | .subscribeTracks m => some m.trackNamespace
  | _ => none

def peerNamespaceOverlap (e : Endpoint) (namespacePrefix : TrackNamespace) (except : Option Nat) :
    Option Nat :=
  e.peerOverlap namespacePrefixOf e.subscribeNamespaces namespacePrefix except

def peerTracksOverlap (e : Endpoint) (namespacePrefix : TrackNamespace) (except : Option Nat) :
    Option Nat :=
  e.peerOverlap tracksPrefixOf e.subscribeTracks namespacePrefix except

/-- Record what an update would collide with, clearing an earlier verdict. -/
def weighPrefix (id : Nat) (namespacePrefix : TrackNamespace) (collides : Option Nat)
    (e : Endpoint) : Endpoint :=
  { e with
    overlappingPrefixUpdates := match collides with
      | some established => e.overlappingPrefixUpdates.insert id established
      | none => e.overlappingPrefixUpdates.erase id
    updatedNamespacePrefixes := e.updatedNamespacePrefixes.insert id namespacePrefix }

/-- Hold the prefix an update asks for, on the two kinds that have one to move. -/
def notePrefixUpdate (id : Nat) (parameters : List KeyValuePair) (e : Endpoint) : Endpoint :=
  match updatedPrefix parameters with
  | none => e
  | some namespacePrefix =>
    match e.inboundRequests.lookup id with
    | some (.subscribeNamespace _) =>
      weighPrefix id namespacePrefix (e.peerNamespaceOverlap namespacePrefix (some id)) e
    | some (.subscribeTracks _) =>
      weighPrefix id namespacePrefix (e.peerTracksOverlap namespacePrefix (some id)) e
    | _ => e

/-- Merge an update's filters into those in force and judge the whole. -/
def noteFilterUpdate (id : Nat) (parameters : List KeyValuePair) (e : Endpoint) : Endpoint :=
  let inForce := applyFilterUpdate ((e.peerRequestFilters.lookup id).getD []) parameters
  { e with
    peerFilterRejections := match e.filterVerdict inForce with
      | some rejection => e.peerFilterRejections.insert id rejection
      | none => e.peerFilterRejections
    peerRequestFilters := e.peerRequestFilters.insert id inForce }

/-- What an update that may be applied leaves recorded, in the source's order. -/
def recordUpdate (id : Nat) (parameters : List KeyValuePair) (e : Endpoint) : Endpoint :=
  notePrefixUpdate id parameters <| noteFilterUpdate id parameters <|
    noteFillRequested id parameters
      { e with unansweredPeerUpdates :=
        e.unansweredPeerUpdates.insert id ((e.unansweredPeerUpdates.lookup id).getD 0 + 1) }

/-- The kinds an update is a self-transition of, beside a SUBSCRIBE. -/
def updatable (e : Endpoint) (id : Nat) : Prop :=
  id ∈ e.publishes ∨ id ∈ e.fetches ∨ id ∈ e.subscribeNamespaces ∨ id ∈ e.subscribeTracks ∨
    id ∈ e.publishNamespaces

instance (e : Endpoint) (id : Nat) : Decidable (e.updatable id) :=
  inferInstanceAs (Decidable (_ ∨ _))

/-- The update behind its credit. -/
def takeUpdate (e : Endpoint) (id : Nat) (parameters : List KeyValuePair) : Outcome Unit :=
  if id ∉ e.inboundRequests ∧ e.bindingIsEstablished id .publish = false then
    e.failSession (.unexpectedRequestUpdate id)
  else if id ∈ e.subscriptions then
    (e.drive subscriptionFlow id SubscriptionState.onSubscribeUpdate).andThen fun () e =>
      (.ok (), recordUpdate id parameters e)
  else if e.updatable id then (.ok (), recordUpdate id parameters e)
  else e.failSession (.unexpectedRequestUpdate id)

def receiveRequestUpdate (e : Endpoint) (requestId named : VarInt)
    (parameters : List KeyValuePair) : Outcome Unit :=
  if named.val ≠ requestId.val then e.failSession (.unexpectedRequestUpdate named.val)
  else
    (e.spendUpdateCredit requestId.val).andThen fun () e => e.takeUpdate requestId.val parameters

/-! ## Dispatch of what arrives -/

def receiveMessage (e : Endpoint) : ControlMessage → Outcome Unit
  | .setup options => e.receiveSetup options
  | .goAway newSessionUri _ => e.receiveGoaway newSessionUri
  | .requestUpdate .. => e.failSession .requestUpdateOnControlStream
  | .namespace _ => e.refuse (.requestMessageOnControlStream "NAMESPACE")
  | .namespaceDone _ => e.refuse (.requestMessageOnControlStream "NAMESPACE_DONE")
  | .publishSkipped .. => e.refuse (.requestMessageOnControlStream "PUBLISH_SKIPPED")
  | .publishStateNotify _ => e.refuse (.requestMessageOnControlStream "PUBLISH_STATE_NOTIFY")
  | .subscribeOk .. | .publishDone _ | .fetchOk _ | .requestOk .. | .requestError _ =>
    e.refuse .responseOnControlStream
  | _ => (.ok (), e)

/-- Whether a namespace-scoped request of this endpoint's still waits for its answer. -/
def awaitsFirstResponse (e : Endpoint) (id : Nat) : Bool :=
  (e.subscribeNamespaces.lookup id).any (· == .pending) ||
    (e.subscribeTracks.lookup id).any (· == .pending)

def isOkOrError : ControlMessage → Bool
  | .requestOk .. | .requestError _ => true
  | _ => false

def dispatchResponse (e : Endpoint) (order : IterationOrder) (requestId : VarInt) :
    ControlMessage → Outcome Unit
  | .subscribeOk trackAlias _ _ => e.receiveSubscribeOk order requestId trackAlias
  | .publishDone _ => e.receivePublishDone requestId
  | .fetchOk _ => e.receiveFetchOk requestId
  | .publishStateNotify _ => e.receivePublishStateNotify requestId
  | .requestOk _ trackProperties => e.receiveRequestOk requestId trackProperties
  | .requestError error => e.receiveRequestError requestId error
  | .requestUpdate named parameters => e.receiveRequestUpdate requestId named parameters
  | .goAway newSessionUri _ => e.receiveGoawayOnRequestStream requestId newSessionUri
  | .namespace _ | .namespaceDone _ | .publishSkipped .. => (.ok (), e)
  | _ => e.refuse .responseOnControlStream

def receiveResponseOnStream (e : Endpoint) (order : IterationOrder) (requestId : VarInt)
    (msg : ControlMessage) : Outcome Unit :=
  if e.awaitsFirstResponse requestId.val = true ∧ isOkOrError msg = false then
    e.failSession (.responseBeforeTheFirstResponse requestId.val msg.messageType)
  else e.dispatchResponse order requestId msg

def receiveOnPeerRequestStream (e : Endpoint) (requestId : VarInt) :
    ControlMessage → Outcome Unit
  | .requestUpdate named parameters => e.receiveRequestUpdate requestId named parameters
  | .goAway newSessionUri _ => e.receiveGoawayOnRequestStream requestId newSessionUri
  | .publishDone _ => e.drive publishFlow requestId.val PublishState.onPublishDoneReceived
  | .publishStateNotify _ => e.receivePublishStateNotify requestId
  | msg => e.refuse (.unexpectedOnPeerRequestStream msg.messageType)

/-! ## Requests the peer makes -/

def refuseNonRequest (e : Endpoint) (type : MessageType) : Outcome Unit :=
  e.failSession (.notARequest type)

/-- The Request ID of the seven messages that open a request stream. -/
def requestIdOf : ControlMessage → Option VarInt
  | .subscribe m | .fetch m | .trackStatus m => some m.requestId
  | .publish m => some m.requestId
  | .publishNamespace m | .subscribeNamespace m | .subscribeTracks m => some m.requestId
  | _ => none

/-- A new machine takes its first event and goes into its map. -/
def enter {σ : Type} (e : Endpoint) (flow : Flow σ) (id : Nat)
    (received : Except (InvalidTransition σ) σ) : Outcome Unit :=
  e.attempt (received.mapError flow.wrap) fun sm =>
    (.ok (), flow.put e ((flow.table e).insert id sm))

/-- Note the namespace subscription an arriving one overlaps. -/
def noteOverlap (id : Nat) (collides : Option Nat) (e : Endpoint) : Endpoint :=
  match collides with
  | some established => { e with
    overlappingNamespaceSubscriptions := e.overlappingNamespaceSubscriptions.insert id established }
  | none => e

/-- The second match of `receive_request_on_stream`: the machine of the request's kind. -/
def enterRequest (e : Endpoint) (order : IterationOrder) (id : Nat) :
    ControlMessage → Outcome Unit
  | .subscribe m =>
    (noteFillRequested id m.parameters e).enter subscriptionFlow id
      (SubscriptionState.onSubscribeReceived .idle)
  | .publish m =>
    match e.conflictingTrackAlias order id m.trackAlias.val ⟨m.trackNamespace, m.trackName⟩ with
    | some conflict => e.failSession conflict
    | none =>
      (e.enter publishFlow id (PublishState.onPublishReceived .idle)).andThen fun () e =>
        (.ok (), { e with
          trackBindings := e.trackBindings.insert id
            ⟨⟨m.trackNamespace, m.trackName⟩, some m.trackAlias.val, .publish⟩ })
  | .fetch _ => e.enter fetchFlow id (FetchState.onFetchReceived .idle)
  | .publishNamespace _ =>
    e.enter publishNamespaceFlow id (NamespaceState.onPublishNamespaceReceived .idle)
  | .subscribeNamespace m =>
    (noteOverlap id (e.peerNamespaceOverlap m.trackNamespace none) e).enter subscribeNamespaceFlow
      id (NamespaceState.onSubscribeNamespaceReceived .idle)
  | .subscribeTracks m =>
    (noteFillRequested id m.parameters
      (noteOverlap id (e.peerTracksOverlap m.trackNamespace none) e)).enter subscribeTracksFlow
      id (NamespaceState.onSubscribeNamespaceReceived .idle)
  | .trackStatus _ => e.enter trackStatusFlow id (TrackStatusState.onTrackStatusReceived .idle)
  | msg => e.failSession (.notARequest msg.messageType)

/-- The request as it arrived, and the verdict on its filters, recorded last. -/
def recordRequest (id : Nat) (msg : ControlMessage) (e : Endpoint) : Endpoint :=
  { e with
    inboundRequests := e.inboundRequests.insert id msg
    peerFilterRejections := match e.filterVerdict msg.parameters with
      | some rejection => e.peerFilterRejections.insert id rejection
      | none => e.peerFilterRejections
    peerRequestFilters := e.peerRequestFilters.insert id (rangeFilterParameters msg.parameters) }

def receiveRequestOnStream (e : Endpoint) (order : IterationOrder) (msg : ControlMessage) :
    Outcome VarInt :=
  match requestIdOf msg with
  | none => e.failSession (.notARequest msg.messageType)
  | some requestId =>
    let id := requestId.val
    e.attempt e.requireActiveOrErr fun () =>
      match e.requestIds.validatePeerId id with
      | .error error => e.failSession (.requestId error)
      | .ok () =>
        if id ∈ e.peerRequestIds then e.failSession (.duplicateRequestId id)
        else
          ({ e with peerRequestIds := insert id e.peerRequestIds }.enterRequest order id msg).andThen
            fun () e => (.ok requestId, recordRequest id msg e)

/-! ## Answers to the peer's requests and updates -/

def isRequestOk : ControlMessage → Bool
  | .requestOk .. => true
  | _ => false

def isRequestError : ControlMessage → Bool
  | .requestError _ => true
  | _ => false

def isAcceptance : ControlMessage → Bool
  | .subscribeOk .. | .fetchOk _ | .requestOk .. => true
  | _ => false

def answersAnUpdate (e : Endpoint) (id : Nat) (msg : ControlMessage) : Bool :=
  if isOkOrError msg = false then false
  else if id ∈ e.publishes ∧ id ∉ e.inboundRequests then true
  else if isRequestOk msg = true ∧ (id ∈ e.subscriptions ∨ id ∈ e.fetches) then true
  else id ∈ e.answeredPeerRequests

/-- `RequestErrorCode::PrefixOverlap`. -/
def prefixOverlap : Nat := 0x30

/-- The one answer an overlapping prefix leaves: a REQUEST_ERROR under PREFIX_OVERLAP. -/
def requireOverlapRefusal (id : Nat) (verdict : Option Nat) (msg : ControlMessage) :
    Except EndpointError Unit :=
  match verdict with
  | none => .ok ()
  | some established =>
    match msg with
    | .requestError err =>
      refuseIf (err.errorCode.val != prefixOverlap) (.wrongOverlapRefusal id prefixOverlap)
    | _ => .error (.peerPrefixOverlap id established)

/-- The prefix of a namespace request, replaced. -/
def withPrefix (namespacePrefix : TrackNamespace) : ControlMessage → ControlMessage
  | .subscribeNamespace m => .subscribeNamespace { m with trackNamespace := namespacePrefix }
  | .subscribeTracks m => .subscribeTracks { m with trackNamespace := namespacePrefix }
  | msg => msg

/-- An accepted update moves the prefix it asked for; any answer spends it. -/
def settlePrefixUpdate (id : Nat) (accepted : Bool) (e : Endpoint) : Endpoint :=
  match e.updatedNamespacePrefixes.lookup id with
  | none => e
  | some namespacePrefix =>
    { e with
      updatedNamespacePrefixes := e.updatedNamespacePrefixes.erase id
      inboundRequests :=
        if accepted then
          match e.inboundRequests.lookup id with
          | some msg => e.inboundRequests.insert id (withPrefix namespacePrefix msg)
          | none => e.inboundRequests
        else e.inboundRequests }

/-- What the answer to one update, or to all of them, leaves behind. -/
def settleUpdate (id unanswered : Nat) (msg : ControlMessage) (e : Endpoint) : Endpoint :=
  let answered := if isRequestError msg then unanswered else 1
  let e := restoreUpdateCredit
    { e with unansweredPeerUpdates := e.unansweredPeerUpdates.insert id (unanswered - answered) } id
  let e := if isRequestError msg then
      { e with peerFilterRejections := e.peerFilterRejections.erase id }
    else e
  let e := settlePrefixUpdate id (isRequestOk msg) e
  if isRequestOk msg then e
  else { e with overlappingPrefixUpdates := e.overlappingPrefixUpdates.erase id }

def answerAnUpdate (e : Endpoint) (id : Nat) (msg : ControlMessage) : Outcome Unit :=
  let unanswered := (e.unansweredPeerUpdates.lookup id).getD 0
  if unanswered = 0 then e.refuse (.noUpdateToAnswer id)
  else
    e.attempt (requireOverlapRefusal id (e.overlappingPrefixUpdates.lookup id) msg) fun () =>
      (.ok (), settleUpdate id unanswered msg e)

/-- A refused update of a published subscription owes the PUBLISH_DONE that ends it. -/
def oweEnding (id : Nat) (msg : ControlMessage) (e : Endpoint) : Endpoint :=
  if isRequestError msg = true ∧ e.publishesASubscription id = true then
    { e with owedUpdateFailures := insert id e.owedUpdateFailures }
  else e

/-- The match of `send_response_on_stream`: the machine of the request being answered. -/
def writeResponse (e : Endpoint) (id : Nat) : ControlMessage → Outcome Unit
  | .subscribeOk .. => e.drive subscriptionFlow id SubscriptionState.onSubscribeOkSent
  | .fetchOk _ => e.drive fetchFlow id FetchState.onFetchOkSent
  | .publishDone _ => e.drive subscriptionFlow id SubscriptionState.onPublishDoneSent
  | .publishStateNotify _ =>
    if id ∈ e.subscriptions ∧ id ∈ e.inboundRequests then (.ok (), e)
    else e.refuse (.stateNotifyThisEndpointMayNotSend id)
  | .requestOk _ trackProperties =>
    if trackProperties ≠ [] ∧ id ∉ e.trackStatuses then
      e.refuse (.trackPropertiesOnOutgoingRequestOk id)
    else if id ∈ e.publishes then e.drive publishFlow id PublishState.onPublishOkSent
    else if id ∈ e.subscribeNamespaces then
      e.drive subscribeNamespaceFlow id NamespaceState.onSubscribeNamespaceOkSent
    else if id ∈ e.subscribeTracks then
      e.drive subscribeTracksFlow id NamespaceState.onSubscribeNamespaceOkSent
    else if id ∈ e.publishNamespaces then
      e.drive publishNamespaceFlow id NamespaceState.onPublishNamespaceOkSent
    else e.drive trackStatusFlow id TrackStatusState.onTrackStatusOkSent
  | .requestError _ =>
    if id ∈ e.subscriptions then e.drive subscriptionFlow id SubscriptionState.onSubscribeErrorSent
    else if id ∈ e.fetches then e.drive fetchFlow id FetchState.onFetchErrorSent
    else if id ∈ e.publishes then e.drive publishFlow id PublishState.onPublishErrorSent
    else if id ∈ e.subscribeNamespaces then
      e.drive subscribeNamespaceFlow id NamespaceState.onSubscribeNamespaceErrorSent
    else if id ∈ e.subscribeTracks then
      e.drive subscribeTracksFlow id NamespaceState.onSubscribeNamespaceErrorSent
    else if id ∈ e.publishNamespaces then
      e.drive publishNamespaceFlow id NamespaceState.onPublishNamespaceErrorSent
    else e.drive trackStatusFlow id TrackStatusState.onTrackStatusErrorSent
  | .namespace _ => e.drive subscribeNamespaceFlow id NamespaceState.onNamespaceSent
  | .namespaceDone _ => e.drive subscribeNamespaceFlow id NamespaceState.onNamespaceDoneSent
  | .publishSkipped .. => e.drive subscribeTracksFlow id NamespaceState.onPublishSkippedSent
  | msg => e.refuse (.notAResponse msg.messageType)

/-- What the request's own answer leaves behind, once its machine has taken it. -/
def settleAnswer (id : Nat) (msg : ControlMessage) (e : Endpoint) : Endpoint :=
  let e := if isOkOrError msg then restoreUpdateCredit e id else e
  let e := if isAcceptance msg || isRequestError msg then
      { e with answeredPeerRequests := insert id e.answeredPeerRequests }
    else e
  if isRequestError msg then { e with peerFilterRejections := e.peerFilterRejections.erase id }
  else e

def answerRequest (e : Endpoint) (id : Nat) (msg : ControlMessage) : Outcome Unit :=
  e.attempt (requireOverlapRefusal id (e.overlappingNamespaceSubscriptions.lookup id) msg)
    fun () => (e.writeResponse id msg).andThen fun () e => (.ok (), settleAnswer id msg e)

/-- The status check of a PUBLISH_DONE, and nothing for any other message. -/
def requireEndingStatus (e : Endpoint) (id : Nat) : ControlMessage → Outcome Unit
  | .publishDone done => e.requireUpdateFailureStatus id done.statusCode
  | _ => (.ok (), e)

/-- The REQUEST_ERROR an acceptance would be standing in for. -/
def mustBeRejected (e : Endpoint) (id : Nat) (msg : ControlMessage) : Option FilterRejection :=
  if isAcceptance msg then e.peerFilterRejections.lookup id else none

def sendResponseOnStream (e : Endpoint) (requestId : VarInt) (msg : ControlMessage) :
    Outcome Unit :=
  let id := requestId.val
  match e.mustBeRejected id msg with
  | some rejection => e.refuse (.filterMustBeRejected id rejection)
  | none =>
    (e.requireEndingStatus id msg).andThen fun () e =>
      if e.answersAnUpdate id msg = true then
        (e.answerAnUpdate id msg).andThen fun () e => (.ok (), oweEnding id msg e)
      else e.answerRequest id msg

end Endpoint

end Moqtap.Draft22.Client
