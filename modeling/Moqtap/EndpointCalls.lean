import Moqtap.Draft22Endpoint

/-! The operations of a draft-22 endpoint as calls, and what a call can do to
the endpoint, said once. A call that only dispatches on a message is brought to
the operation it dispatches to (`direct`, `call_direct`); every other call has
one of the effects of `Effect` (`call_effect`), from which every invariant of a
run is derived without unfolding an operation again. -/
namespace Moqtap.Draft22.Client
open ByteCursor Varint CodecTypes Parameters Messages Machines RangeFilters

inductive Call where
  | connect
  | close
  | sendSetup (options : List KeyValuePair)
  | receiveSetup (options : List KeyValuePair)
  | receiveGoaway (newSessionUri : Bytes)
  | subscribe (track : Track) (parameters : List KeyValuePair)
  | fetch (track : Track) (parameters : List KeyValuePair)
  | fetchRange (track : Track) (range : LocationFilter) (parameters : List KeyValuePair)
  | subscribeNamespace (namespacePrefix : TrackNamespace) (parameters : List KeyValuePair)
  | subscribeTracks (namespacePrefix : TrackNamespace) (parameters : List KeyValuePair)
  | publishNamespace (trackNamespace : TrackNamespace) (parameters : List KeyValuePair)
  | trackStatus (track : Track) (parameters : List KeyValuePair)
  | publish (track : Track) (trackAlias : VarInt) (parameters trackProperties : List KeyValuePair)
  | sendPublishDone (requestId : VarInt) (done : PublishDone)
  | cancelRequest (requestId : VarInt)
  | onFillStreamOpened (requestId : VarInt)
  | onFillStreamEnded (requestId : VarInt)
  | onFetchStreamFin (requestId : VarInt)
  | onFetchStreamReset (requestId : VarInt)
  | receiveSubscribeOk (requestId trackAlias : VarInt)
  | receivePublishDone (requestId : VarInt)
  | receivePublishStateNotify (requestId : VarInt)
  | receiveFetchOk (requestId : VarInt)
  | receiveRequestOk (requestId : VarInt) (trackProperties : List KeyValuePair)
  | receiveRequestError (requestId : VarInt) (error : RequestError)
  | receiveRequestUpdate (requestId named : VarInt) (parameters : List KeyValuePair)
  | receiveGoawayOnRequestStream (requestId : VarInt) (newSessionUri : Bytes)
  | receiveNamespace (namespaceSuffix : TrackNamespace)
  | receiveNamespaceDone (namespaceSuffix : TrackNamespace)
  | receivePublishSkipped (namespaceSuffix : TrackNamespace) (trackName : Bytes)
  | receiveMessage (msg : ControlMessage)
  | receiveResponseOnStream (requestId : VarInt) (msg : ControlMessage)
  | receiveOnPeerRequestStream (requestId : VarInt) (msg : ControlMessage)
  | refuseNonRequest (type : MessageType)
  | receiveRequestOnStream (msg : ControlMessage)
  | sendResponseOnStream (requestId : VarInt) (msg : ControlMessage)
  | noteReceivedObject (trackAlias : Nat) (at' : ObjectLocation) (role : ObjectRole)
  | requestsForMalformedTrack (trackAlias : Nat) (condition : MalformedTrackCondition)
  /-- A `TrackObjects` handle given out earlier, writing to the shared locations. -/
  | noteThroughHandle (locations : TrackLocations)

/-- What a call that succeeds hands back. -/
inductive Reply where
  | nothing
  | request (id : VarInt) (msg : ControlMessage)
  | message (msg : ControlMessage)
  | opened (id : VarInt)
  | requests (ids : List Nat)
  deriving DecidableEq

def Outcome.map {α β : Type} (f : α → β) (outcome : Outcome α) : Outcome β :=
  (outcome.1.map f, outcome.2)

namespace Endpoint

def call (order : IterationOrder) (e : Endpoint) : Call → Outcome Reply
  | .connect => e.connect.map fun _ => .nothing
  | .close => e.close.map fun _ => .nothing
  | .sendSetup options => (e.sendSetup options).map .message
  | .receiveSetup options => (e.receiveSetup options).map fun _ => .nothing
  | .receiveGoaway newSessionUri => (e.receiveGoaway newSessionUri).map fun _ => .nothing
  | .subscribe track parameters => (e.subscribe track parameters).map fun r => .request r.1 r.2
  | .fetch track parameters => (e.fetch track parameters).map fun r => .request r.1 r.2
  | .fetchRange track range parameters =>
    (e.fetchRange track range parameters).map fun r => .request r.1 r.2
  | .subscribeNamespace namespacePrefix parameters =>
    (e.subscribeNamespace namespacePrefix parameters).map fun r => .request r.1 r.2
  | .subscribeTracks namespacePrefix parameters =>
    (e.subscribeTracksRequest namespacePrefix parameters).map fun r => .request r.1 r.2
  | .publishNamespace trackNamespace parameters =>
    (e.publishNamespace trackNamespace parameters).map fun r => .request r.1 r.2
  | .trackStatus track parameters =>
    (e.trackStatus track parameters).map fun r => .request r.1 r.2
  | .publish track trackAlias parameters trackProperties =>
    (e.publish order track trackAlias parameters trackProperties).map fun r => .request r.1 r.2
  | .sendPublishDone requestId done => (e.sendPublishDone requestId done).map .message
  | .cancelRequest requestId => (e.cancelRequest requestId).map fun _ => .nothing
  | .onFillStreamOpened requestId => (e.onFillStreamOpened requestId).map fun _ => .nothing
  | .onFillStreamEnded requestId => (e.onFillStreamEnded requestId).map fun _ => .nothing
  | .onFetchStreamFin requestId => (e.onFetchStreamFin requestId).map fun _ => .nothing
  | .onFetchStreamReset requestId => (e.onFetchStreamReset requestId).map fun _ => .nothing
  | .receiveSubscribeOk requestId trackAlias =>
    (e.receiveSubscribeOk order requestId trackAlias).map fun _ => .nothing
  | .receivePublishDone requestId => (e.receivePublishDone requestId).map fun _ => .nothing
  | .receivePublishStateNotify requestId =>
    (e.receivePublishStateNotify requestId).map fun _ => .nothing
  | .receiveFetchOk requestId => (e.receiveFetchOk requestId).map fun _ => .nothing
  | .receiveRequestOk requestId trackProperties =>
    (e.receiveRequestOk requestId trackProperties).map fun _ => .nothing
  | .receiveRequestError requestId error =>
    (e.receiveRequestError requestId error).map fun _ => .nothing
  | .receiveRequestUpdate requestId named parameters =>
    (e.receiveRequestUpdate requestId named parameters).map fun _ => .nothing
  | .receiveGoawayOnRequestStream requestId newSessionUri =>
    (e.receiveGoawayOnRequestStream requestId newSessionUri).map fun _ => .nothing
  | .receiveNamespace _ | .receiveNamespaceDone _ | .receivePublishSkipped .. =>
    (.ok .nothing, e)
  | .receiveMessage msg => (e.receiveMessage msg).map fun _ => .nothing
  | .receiveResponseOnStream requestId msg =>
    (e.receiveResponseOnStream order requestId msg).map fun _ => .nothing
  | .receiveOnPeerRequestStream requestId msg =>
    (e.receiveOnPeerRequestStream requestId msg).map fun _ => .nothing
  | .refuseNonRequest type => (e.refuseNonRequest type).map fun _ => .nothing
  | .receiveRequestOnStream msg => (e.receiveRequestOnStream order msg).map .opened
  | .sendResponseOnStream requestId msg =>
    (e.sendResponseOnStream requestId msg).map fun _ => .nothing
  | .noteReceivedObject trackAlias at' role =>
    (e.noteReceivedObject order trackAlias at' role).map fun _ => .nothing
  | .requestsForMalformedTrack trackAlias condition =>
    (e.requestsForMalformedTrack order trackAlias condition).map .requests
  | .noteThroughHandle locations => (.ok .nothing, { e with locations := locations })

end Endpoint

/-! ## Dispatch -/

/-- The operation a dispatcher hands its message to. -/
def Call.direct : Call → Call
  | .receiveMessage (.setup options) => .receiveSetup options
  | .receiveMessage (.goAway newSessionUri _) => .receiveGoaway newSessionUri
  | .receiveResponseOnStream id (.subscribeOk trackAlias _ _) => .receiveSubscribeOk id trackAlias
  | .receiveResponseOnStream id (.publishDone _) => .receivePublishDone id
  | .receiveResponseOnStream id (.fetchOk _) => .receiveFetchOk id
  | .receiveResponseOnStream id (.publishStateNotify _) => .receivePublishStateNotify id
  | .receiveResponseOnStream id (.requestOk _ trackProperties) =>
    .receiveRequestOk id trackProperties
  | .receiveResponseOnStream id (.requestError error) => .receiveRequestError id error
  | .receiveResponseOnStream id (.requestUpdate named parameters) =>
    .receiveRequestUpdate id named parameters
  | .receiveResponseOnStream id (.goAway newSessionUri _) =>
    .receiveGoawayOnRequestStream id newSessionUri
  | .receiveOnPeerRequestStream id (.requestUpdate named parameters) =>
    .receiveRequestUpdate id named parameters
  | .receiveOnPeerRequestStream id (.goAway newSessionUri _) =>
    .receiveGoawayOnRequestStream id newSessionUri
  | .receiveOnPeerRequestStream id (.publishStateNotify _) => .receivePublishStateNotify id
  | c => c

/-- What this endpoint does of its own accord. -/
def Call.Own : Call → Prop
  | .sendResponseOnStream .. | .sendPublishDone .. | .cancelRequest _ | .sendSetup _ | .close => True
  | _ => False

/-- No dispatcher hands its message to what this endpoint does of its own accord. -/
theorem direct_own {c d : Call} (direct : c.direct = d) (own : d.Own) : c = d := by
  subst direct
  cases c with
  | receiveMessage msg => cases msg <;> exact own.elim
  | receiveResponseOnStream id msg => cases msg <;> exact own.elim
  | receiveOnPeerRequestStream id msg => cases msg <;> exact own.elim
  | _ => rfl

/-- A session error other than the two that other requests' state decides. -/
def EndpointError.Plain (error : EndpointError) : Prop :=
  error.sessionErrorCode.isSome = true ∧ error.sessionErrorCode ≠ some .tooManyRequestUpdates ∧
    error.sessionErrorCode ≠ some .duplicateTrackAlias

/-- A message in front of the first response, which no operation sees. -/
def Endpoint.Stops (e : Endpoint) : Call → Prop
  | .receiveResponseOnStream id msg =>
    e.awaitsFirstResponse id.val = true ∧ Endpoint.isOkOrError msg = false
  | _ => False

/-- A dispatcher does what the operation it dispatches to does. -/
theorem call_direct (order : IterationOrder) {e : Endpoint} {c : Call} (passed : ¬ e.Stops c) :
    e.call order c = e.call order c.direct := by
  cases c with
  | receiveMessage msg => cases msg <;> rfl
  | receiveOnPeerRequestStream id msg => cases msg <;> rfl
  | receiveResponseOnStream id msg =>
    have handed : e.receiveResponseOnStream order id msg = e.dispatchResponse order id msg :=
      if_neg passed
    cases msg <;>
      first
      | (rw [Endpoint.call, handed]; rfl)
      | rfl
  | _ => rfl

/-- A message that is stopped closes the session. -/
theorem call_stopped (order : IterationOrder) {e : Endpoint} {c : Call} (stopped : e.Stops c) :
    ∃ error, error.Plain ∧ e.call order c = e.failSession error := by
  cases c with
  | receiveResponseOnStream id msg =>
    refine ⟨.responseBeforeTheFirstResponse id.val msg.messageType, by simp [EndpointError.Plain,
      EndpointError.sessionErrorCode], ?_⟩
    have closed : e.receiveResponseOnStream order id msg =
        e.failSession (.responseBeforeTheFirstResponse id.val msg.messageType) := if_pos stopped
    rw [Endpoint.call, closed]
    rfl
  | _ => exact stopped.elim

/-! ## Effects -/

/-- The seven kinds of request. -/
inductive Kind where
  | subscription
  | fetch
  | publish
  | subscribeNamespace
  | subscribeTracks
  | publishNamespace
  | trackStatus
  deriving DecidableEq, Repr

namespace Kind

abbrev State : Kind → Type
  | subscription => SubscriptionState
  | fetch => FetchState
  | publish => PublishState
  | subscribeNamespace | subscribeTracks | publishNamespace => NamespaceState
  | trackStatus => TrackStatusState

def flow : (k : Kind) → Flow k.State
  | subscription => Endpoint.subscriptionFlow
  | fetch => Endpoint.fetchFlow
  | publish => Endpoint.publishFlow
  | subscribeNamespace => Endpoint.subscribeNamespaceFlow
  | subscribeTracks => Endpoint.subscribeTracksFlow
  | publishNamespace => Endpoint.publishNamespaceFlow
  | trackStatus => Endpoint.trackStatusFlow

/-- The state a request has as soon as it is sent or has arrived. -/
def opening : (k : Kind) → k.State
  | subscription => SubscriptionState.subscribing
  | fetch => FetchState.pending
  | publish => PublishState.publishing
  | subscribeNamespace | subscribeTracks | publishNamespace => NamespaceState.pending
  | trackStatus => TrackStatusState.pending

def answered : (k : Kind) → k.State → Option k.State
  | subscription => SubscriptionState.answered
  | fetch => FetchState.answered
  | publish => PublishState.answered
  | subscribeNamespace | subscribeTracks | publishNamespace => NamespaceState.answered
  | trackStatus => TrackStatusState.answered

def refused : (k : Kind) → k.State → Option k.State
  | subscription => SubscriptionState.refused
  | fetch => FetchState.refused
  | publish => PublishState.refused
  | subscribeNamespace | subscribeTracks | publishNamespace => NamespaceState.refused
  | trackStatus => TrackStatusState.answered

def cancelled : (k : Kind) → k.State → Option k.State
  | subscription => SubscriptionState.cancelled
  | fetch => FetchState.cancelled
  | publish => PublishState.cancelled
  | subscribeNamespace | subscribeTracks | publishNamespace => NamespaceState.cancelled
  | trackStatus => TrackStatusState.cancelled

/-- The kind of request a message opens. -/
def ofRequest : ControlMessage → Option Kind
  | .subscribe _ => some subscription
  | .fetch _ => some fetch
  | .publish _ => some publish
  | .subscribeNamespace _ => some subscribeNamespace
  | .subscribeTracks _ => some subscribeTracks
  | .publishNamespace _ => some publishNamespace
  | .trackStatus _ => some trackStatus
  | _ => none

end Kind

/-- The endpoint with request `id` of kind `k` in state `next`. -/
def Endpoint.settled (e : Endpoint) (k : Kind) (id : Nat) (next : k.State) : Endpoint :=
  k.flow.put e ((k.flow.table e).insert id next)

/-! Settling a request touches its kind's table alone. -/

section settled
variable (e : Endpoint) (k : Kind) (id : Nat) (next : k.State)

@[simp] theorem settled_role : (e.settled k id next).role = e.role := by
  cases k <;> rfl
@[simp] theorem settled_session : (e.settled k id next).session = e.session := by
  cases k <;> rfl
@[simp] theorem settled_requestIds : (e.settled k id next).requestIds = e.requestIds := by
  cases k <;> rfl
@[simp] theorem settled_fills : (e.settled k id next).fills = e.fills := by
  cases k <;> rfl
@[simp] theorem settled_peerRequestIds : (e.settled k id next).peerRequestIds = e.peerRequestIds := by
  cases k <;> rfl
@[simp] theorem settled_inboundRequests : (e.settled k id next).inboundRequests = e.inboundRequests := by
  cases k <;> rfl
@[simp] theorem settled_overlappingNamespaceSubscriptions : (e.settled k id next).overlappingNamespaceSubscriptions = e.overlappingNamespaceSubscriptions := by
  cases k <;> rfl
@[simp] theorem settled_updatedNamespacePrefixes : (e.settled k id next).updatedNamespacePrefixes = e.updatedNamespacePrefixes := by
  cases k <;> rfl
@[simp] theorem settled_advertisedMaxRequestUpdates : (e.settled k id next).advertisedMaxRequestUpdates = e.advertisedMaxRequestUpdates := by
  cases k <;> rfl
@[simp] theorem settled_outstandingPeerUpdates : (e.settled k id next).outstandingPeerUpdates = e.outstandingPeerUpdates := by
  cases k <;> rfl
@[simp] theorem settled_unansweredPeerUpdates : (e.settled k id next).unansweredPeerUpdates = e.unansweredPeerUpdates := by
  cases k <;> rfl
@[simp] theorem settled_owedUpdateFailures : (e.settled k id next).owedUpdateFailures = e.owedUpdateFailures := by
  cases k <;> rfl
@[simp] theorem settled_answeredPeerRequests : (e.settled k id next).answeredPeerRequests = e.answeredPeerRequests := by
  cases k <;> rfl
@[simp] theorem settled_peerFilterRejections : (e.settled k id next).peerFilterRejections = e.peerFilterRejections := by
  cases k <;> rfl
@[simp] theorem settled_peerRequestFilters : (e.settled k id next).peerRequestFilters = e.peerRequestFilters := by
  cases k <;> rfl
@[simp] theorem settled_trackBindings : (e.settled k id next).trackBindings = e.trackBindings := by
  cases k <;> rfl

end settled

/-- The events that move one request and nothing else. -/
inductive Drives : Call → (k : Kind) → Nat → (k.State → Option k.State) → Prop
  | cancelled (k : Kind) : Drives (.cancelRequest requestId) k requestId.val k.cancelled
  | accepted (k : Kind) (kind : k ≠ .subscription ∧ k ≠ .fetch) :
      Drives (.receiveRequestOk requestId properties) k requestId.val k.answered
  | fetchOk : Drives (.receiveFetchOk requestId) .fetch requestId.val FetchState.answered
  | rejected (k : Kind) : Drives (.receiveRequestError requestId error) k requestId.val k.refused
  | ended : Drives (.receivePublishDone requestId) .subscription requestId.val
      SubscriptionState.ended
  | peerEnded : Drives (.receiveOnPeerRequestStream requestId (.publishDone done)) .publish
      requestId.val PublishState.ended
  | fetchFin : Drives (.onFetchStreamFin requestId) .fetch requestId.val FetchState.streamEnded
  | fetchReset : Drives (.onFetchStreamReset requestId) .fetch requestId.val
      FetchState.streamEnded

/-- The machine a response is written against, and its event. -/
inductive Writes : ControlMessage → (k : Kind) → (k.State → Option k.State) → Prop
  | subscribeOk : Writes (.subscribeOk trackAlias ps ts) .subscription SubscriptionState.answered
  | fetchOk : Writes (.fetchOk m) .fetch FetchState.answered
  | requestOk (k : Kind) (kind : k ≠ .subscription ∧ k ≠ .fetch) :
      Writes (.requestOk ps ts) k k.answered
  | requestError (k : Kind) : Writes (.requestError error) k k.refused
  | «namespace» : Writes (.namespace suffix) .subscribeNamespace NamespaceState.reported
  | namespaceDone : Writes (.namespaceDone suffix) .subscribeNamespace NamespaceState.reported
  | publishSkipped : Writes (.publishSkipped suffix name) .subscribeTracks NamespaceState.reported

/-- The bindings a new request of this endpoint's leaves. -/
inductive Binds (bindings : Table TrackBinding) (id : Nat) : Call → Table TrackBinding → Prop
  | subscribe : Binds bindings id (.subscribe track ps) (bindings.insert id ⟨track, none, .subscribe⟩)
  | publish : Binds bindings id (.publish track trackAlias ps ts)
      (bindings.insert id ⟨track, some trackAlias.val, .publish⟩)
  | other (unbound : ∀ track ps, c ≠ .subscribe track ps)
      (unpublished : ∀ track trackAlias ps ts, c ≠ .publish track trackAlias ps ts) :
      Binds bindings id c bindings

/-- The kind of request a call of this endpoint's makes. -/
def Call.opens : Call → Option Kind
  | .subscribe .. => some .subscription
  | .fetch .. | .fetchRange .. => some .fetch
  | .subscribeNamespace .. => some .subscribeNamespace
  | .subscribeTracks .. => some .subscribeTracks
  | .publishNamespace .. => some .publishNamespace
  | .trackStatus .. => some .trackStatus
  | .publish .. => some .publish
  | _ => none

/-- The calls that move no request. -/
def Call.Quiet : Call → Prop
  | .connect | .close | .sendSetup _ | .receiveSetup _ | .receiveGoaway _
  | .onFillStreamOpened _ | .onFillStreamEnded _ | .receivePublishStateNotify _
  | .receiveGoawayOnRequestStream .. | .receiveNamespace _ | .receiveNamespaceDone _
  | .receivePublishSkipped .. | .receiveMessage _ | .receiveResponseOnStream .. | .refuseNonRequest _
  | .noteReceivedObject .. | .requestsForMalformedTrack .. | .noteThroughHandle _
  | .sendResponseOnStream _ (.publishStateNotify _) => True
  | _ => False

/-- The binding an arriving request leaves. -/
def boundBy (bindings : Table TrackBinding) (id : Nat) : ControlMessage → Table TrackBinding
  | .publish m =>
    bindings.insert id ⟨⟨m.trackNamespace, m.trackName⟩, some m.trackAlias.val, .publish⟩
  | _ => bindings

/-- The binding of a SUBSCRIBE, once its alias is known. -/
def named (bindings : Table TrackBinding) (id trackAlias : Nat) : Table TrackBinding :=
  match bindings.lookup id with
  | none => bindings
  | some binding => bindings.insert id { binding with trackAlias := some trackAlias }

namespace Endpoint

/-- What an arriving namespace request overlaps. -/
def overlapOf (e : Endpoint) : ControlMessage → Option Nat
  | .subscribeNamespace m => e.peerNamespaceOverlap m.trackNamespace none
  | .subscribeTracks m => e.peerTracksOverlap m.trackNamespace none
  | _ => none

/-- The endpoint with the session closed over a violation. -/
def failed (e : Endpoint) : Endpoint := { e with session := e.session.failed }

/-- The endpoint with an update's credit taken. -/
def charged (e : Endpoint) (id : Nat) : Endpoint :=
  if e.advertisedMaxRequestUpdates = 0 then e
  else { e with
    outstandingPeerUpdates := e.outstandingPeerUpdates.insert id
      ((e.outstandingPeerUpdates.lookup id).getD 0 + 1) }

/-- The endpoint with an update's debt retired. -/
def paid (e : Endpoint) (id : Nat) : Endpoint :=
  { e with owedUpdateFailures := e.owedUpdateFailures.erase id }

/-- A fill's record says the same about who asked and in which order. -/
def SameFills (e : Endpoint) (fills : Table FillStreams) : Prop :=
  ∀ id, (fills.lookup id).map FillStreams.groupOrder =
    (e.fills.lookup id).map FillStreams.groupOrder

end Endpoint

open Endpoint

/-- What one call can do to an endpoint. -/
inductive Effect (order : IterationOrder) (e : Endpoint) :
    Call → Except Failure Reply → Endpoint → Prop
  | panicked : Effect order e c (.error .panicked) e
  | refused (soft : error.sessionErrorCode = none) : Effect order e c (.error (.returned error)) e
  | violated (plain : error.Plain) : Effect order e c (.error (.returned error)) e.failed
  /-- An update with no credit left for it. -/
  | crowded (limited : e.advertisedMaxRequestUpdates ≠ 0)
      (full : e.advertisedMaxRequestUpdates ≤
        (e.outstandingPeerUpdates.lookup requestId.val).getD 0) :
      Effect order e (.receiveRequestUpdate requestId requestId parameters)
        (.error (.returned (.tooManyRequestUpdates requestId.val e.advertisedMaxRequestUpdates)))
        e.failed
  /-- A SUBSCRIBE_OK naming an alias that is taken. -/
  | misnamed (bound : e.trackBindings.lookup requestId.val = some binding)
      (conflict : e.conflictingTrackAlias order requestId.val trackAlias.val binding.track =
        some error) :
      Effect order e (.receiveSubscribeOk requestId trackAlias) (.error (.returned error)) e.failed
  /-- A PUBLISH naming an alias that is taken. -/
  | misoffered (conflict : { e with
        peerRequestIds := insert m.requestId.val e.peerRequestIds }.conflictingTrackAlias order
          m.requestId.val m.trackAlias.val ⟨m.trackNamespace, m.trackName⟩ = some error) :
      Effect order e (.receiveRequestOnStream (.publish m)) (.error (.returned error))
        { e with peerRequestIds := insert m.requestId.val e.peerRequestIds }.failed
  /-- Nothing a request's fate depends on moved. -/
  | quiet {session : SessionState} {goawayUri : Option Bytes} {streams : Finset Nat}
      {fills : Table FillStreams} {malformed : MalformedTracks} {locations : TrackLocations}
      {limit ranges : Nat} (calm : c.Quiet) (open' : session = .closed → e.session = .closed ∨ c = .close)
      (limits : (∃ options, c = .sendSetup options) ∨ limit = e.advertisedMaxRequestUpdates)
      (sameFills : e.SameFills fills) :
      Effect order e c (.ok reply) { e with
        session := session, goawayUri := goawayUri, goawayRequestStreams := streams, fills := fills
        malformed := malformed, locations := locations, advertisedMaxRequestUpdates := limit
        advertisedMaxFilterRanges := ranges }
  /-- A request of this endpoint's goes out under a fresh Request ID. -/
  | opened {id : VarInt} {requestIds : RequestIdAllocator} {bindings : Table TrackBinding}
      {fills : Table FillStreams} {tracks : Table Track} (k : Kind) (kind : c.opens = some k) (active : e.session = .active)
      (fresh : id.val = e.requestIds.nextId) (binds : Binds e.trackBindings id.val c bindings)
      (ids : requestIds = { e.requestIds with nextId := 2 + e.requestIds.nextId })
      (kept : ∀ other, other ≠ id.val → fills.lookup other = e.fills.lookup other) :
      Effect order e c (.ok (.request id msg)) { e.settled k id.val k.opening with
        requestIds := requestIds, trackBindings := bindings, fills := fills, fetchTracks := tracks }
  /-- A request of the peer's is taken. -/
  | entered {fills : Table FillStreams} {rejections : Table FilterRejection} (k : Kind)
      (kind : Kind.ofRequest msg = some k) (active : e.session = .active)
      (names : requestIdOf msg = some requestId)
      (peers : e.requestIds.validatePeerId requestId.val = .ok ())
      (fresh : requestId.val ∉ e.peerRequestIds)
      (unconflicted : ∀ m, msg = .publish m → { e with
        peerRequestIds := insert requestId.val e.peerRequestIds }.conflictingTrackAlias order
          requestId.val m.trackAlias.val ⟨m.trackNamespace, m.trackName⟩ = none)
      (kept : ∀ other, other ≠ requestId.val → fills.lookup other = e.fills.lookup other)
      (rejectionsKept : ∀ other, other ≠ requestId.val →
        rejections.lookup other = e.peerFilterRejections.lookup other) :
      Effect order e (.receiveRequestOnStream msg) (.ok (.opened requestId))
        { e.settled k requestId.val k.opening with
          peerRequestIds := insert requestId.val e.peerRequestIds
          inboundRequests := e.inboundRequests.insert requestId.val msg
          overlappingNamespaceSubscriptions :=
            (noteOverlap requestId.val (e.overlapOf msg) e).overlappingNamespaceSubscriptions
          trackBindings := boundBy e.trackBindings requestId.val msg
          fills := fills
          peerFilterRejections := rejections
          peerRequestFilters := e.peerRequestFilters.insert requestId.val
            (rangeFilterParameters msg.parameters) }
  /-- One request moves along an edge of its machine. -/
  | moved {id : Nat} (k : Kind) {edge : k.State → Option k.State} {state next : k.State}
      (drives : Drives c k id edge) (held : (k.flow.table e).lookup id = some state)
      (step : edge state = some next) : Effect order e c (.ok reply) (e.settled k id next)
  /-- A SUBSCRIBE of this endpoint's is accepted. -/
  | accepted (held : e.subscriptions.lookup requestId.val = some .subscribing)
      (unconflicted : ∀ binding, e.trackBindings.lookup requestId.val = some binding →
        e.conflictingTrackAlias order requestId.val trackAlias.val binding.track = none) :
      Effect order e (.receiveSubscribeOk requestId trackAlias) (.ok reply)
        { e.settled .subscription requestId.val SubscriptionState.active with
          trackBindings := named e.trackBindings requestId.val trackAlias.val }
  /-- An update on a subscription that is not open: refused with its credit taken. -/
  | overdrawn (credit : e.advertisedMaxRequestUpdates ≠ 0 →
        (e.outstandingPeerUpdates.lookup requestId.val).getD 0 < e.advertisedMaxRequestUpdates)
      (one : requestId.val ∈ e.inboundRequests ∨
        e.bindingIsEstablished requestId.val .publish = true)
      (held : e.subscriptions.lookup requestId.val = some state)
      (stuck : SubscriptionState.updated state = none) (soft : error.sessionErrorCode = none) :
      Effect order e (.receiveRequestUpdate requestId requestId parameters)
        (.error (.returned error)) (e.charged requestId.val)
  /-- An update on a request that may not have one. -/
  | unexpected : Effect order e (.receiveRequestUpdate requestId requestId parameters)
        (.error (.returned (.unexpectedRequestUpdate requestId.val))) (e.charged requestId.val).failed
  /-- An update is taken. -/
  | updated {subscriptions : Table SubscriptionState} (credit : e.advertisedMaxRequestUpdates ≠ 0 →
        (e.outstandingPeerUpdates.lookup requestId.val).getD 0 < e.advertisedMaxRequestUpdates)
      (one : requestId.val ∈ e.inboundRequests ∨
        e.bindingIsEstablished requestId.val .publish = true)
      (same : ∀ id, subscriptions.lookup id = e.subscriptions.lookup id) :
      Effect order e (.receiveRequestUpdate requestId requestId parameters) (.ok reply)
        (recordUpdate requestId.val parameters
          { e.charged requestId.val with subscriptions := subscriptions })
  /-- One update, or all of them, answered. -/
  | updateAnswered (allowed : e.mustBeRejected requestId.val msg = none)
      (answers : e.answersAnUpdate requestId.val msg = true)
      (unanswered : (e.unansweredPeerUpdates.lookup requestId.val).getD 0 ≠ 0)
      (overlap : requireOverlapRefusal requestId.val
        (e.overlappingPrefixUpdates.lookup requestId.val) msg = .ok ()) :
      Effect order e (.sendResponseOnStream requestId msg) (.ok reply)
        (oweEnding requestId.val msg (settleUpdate requestId.val
          ((e.unansweredPeerUpdates.lookup requestId.val).getD 0) msg e))
  /-- A request of the peer's answered, or something said on it after its answer. -/
  | answered (allowed : e.mustBeRejected requestId.val msg = none)
      (answers : e.answersAnUpdate requestId.val msg = false)
      (overlap : requireOverlapRefusal requestId.val
        (e.overlappingNamespaceSubscriptions.lookup requestId.val) msg = .ok ())
      (k : Kind) {edge : k.State → Option k.State} {state next : k.State}
      (writes : Writes msg k edge)
      (held : (k.flow.table e).lookup requestId.val = some state) (step : edge state = some next) :
      Effect order e (.sendResponseOnStream requestId msg) (.ok reply)
        (settleAnswer requestId.val msg (e.settled k requestId.val next))
  /-- A subscription of the peer's ended. -/
  | ended (status : requestId.val ∈ e.owedUpdateFailures → done.statusCode.val = updateFailed)
      (overlap : requireOverlapRefusal requestId.val
        (e.overlappingNamespaceSubscriptions.lookup requestId.val) (.publishDone done) = .ok ())
      (held : e.subscriptions.lookup requestId.val = some state)
      (step : SubscriptionState.ended state = some next) :
      Effect order e (.sendResponseOnStream requestId (.publishDone done)) (.ok reply)
        ((e.settled .subscription requestId.val next).paid requestId.val)
  /-- A publication of this endpoint's ended. -/
  | published (status : requestId.val ∈ e.owedUpdateFailures → done.statusCode.val = updateFailed)
      (held : e.publishes.lookup requestId.val = some .active) :
      Effect order e (.sendPublishDone requestId done) (.ok reply)
        ((e.settled .publish requestId.val PublishState.done).paid requestId.val)
  /-- The ending of a publication that is not open: refused with its debt retired. -/
  | overpaidPublication
      (status : requestId.val ∈ e.owedUpdateFailures → done.statusCode.val = updateFailed)
      (stuck : e.publishes.lookup requestId.val ≠ some .active)
      (soft : error.sessionErrorCode = none) :
      Effect order e (.sendPublishDone requestId done) (.error (.returned error))
        (e.paid requestId.val)
  /-- The ending of a subscription that cannot be ended: refused with its debt retired. -/
  | overpaidSubscription
      (status : requestId.val ∈ e.owedUpdateFailures → done.statusCode.val = updateFailed)
      (stuck : requestId.val ∈ e.overlappingNamespaceSubscriptions ∨
        ∀ state, e.subscriptions.lookup requestId.val = some state →
          SubscriptionState.ended state = none)
      (soft : error.sessionErrorCode = none) :
      Effect order e (.sendResponseOnStream requestId (.publishDone done))
        (.error (.returned error)) (e.paid requestId.val)

end Moqtap.Draft22.Client
