import Mathlib
import Moqtap.Draft22Machines
import Moqtap.Draft22Messages
import Moqtap.FetchStream
import Moqtap.RangeFilters

/-! What a draft-22 endpoint holds (`draft22/endpoint.rs`), the errors its
operations answer with, and the records beside it (`draft22/fill.rs`,
`track_locations.rs`, `malformed_tracks.rs`). Every operation returns the
endpoint it leaves behind whether it succeeds or not, so that what a refused
call changed can be seen. -/
namespace Moqtap.Draft22.Client
open ByteCursor Varint CodecTypes Parameters Messages Machines RangeFilters
open FetchStream (GroupOrder)

/-- A `HashMap<u64, _>`. -/
abbrev Table (β : Type) := AList fun _ : Nat => β

/-! ## Fill parameters -/

inductive FillError where
  | endGroupOverflow (startGroup delta : Nat)
  | notAFillParameter (key : Nat)
  | repeatedFillParameter (key : Nat)
  | malformedValue (key : Nat) (detail : String)
  | notRoundTrippable (error : CodecError)
  | notReadBack
  deriving DecidableEq, Repr

def groupOrderKey : Nat := 0x22

def readGroupOrder (parameters : List KeyValuePair) : Except FillError (Option GroupOrder) :=
  match parameters.find? fun p => p.key.val == groupOrderKey with
  | none => .ok none
  | some parameter =>
    match parameter.value with
    | .bytes _ =>
      .error (.malformedValue groupOrderKey "bytes where Section 9.20.8 defines a uint8")
    | .varint value =>
      if value.val = 1 then .ok (some .ascending)
      else if value.val = 2 then .ok (some .descending)
      else .error (.malformedValue groupOrderKey
        "Section 9.20.8 allows only Ascending (0x1) and Descending (0x2)")

def groupOrder (parameters : List KeyValuePair) : Except FillError GroupOrder := do
  let nested ← match parameters.find? fun p => p.key.val == fillParameters with
    | none => .ok none
    | some fill =>
      match fill.value with
      | .varint _ => .error (.malformedValue fillParameters
          "a bare varint where Section 9.20.15 defines a parameter block")
      | .bytes value => do
        let inner ← (decodeFillParameters value).mapError .notRoundTrippable
        readGroupOrder inner
  match nested with
  | some order => .ok order
  | none =>
    let stated ← readGroupOrder parameters
    return stated.getD .ascending

/-- `fill::LocationFilter`. -/
structure LocationFilter where
  filterType : Nat
  fields : List Nat
  deriving DecidableEq, Repr

/-- A filter becomes a parameter only if the codec reads it back. -/
def LocationFilter.parameter (filter : LocationFilter) : Except FillError KeyValuePair := do
  let value := writeLocationFilter (filter.filterType, filter.fields)
  let read ← (decodeLocationFilter value).mapError .notRoundTrippable
  refuseIf (read != (filter.filterType, filter.fields)) .notReadBack
  return ⟨VarInt.ofU64 locationFilter, .bytes value⟩

/-- In front of the first parameter with a larger key. -/
def insertParameter (parameters : List KeyValuePair) (parameter : KeyValuePair) :
    List KeyValuePair :=
  parameters.takeWhile (fun p => !decide (parameter.key.val < p.key.val)) ++
    parameter :: parameters.dropWhile (fun p => !decide (parameter.key.val < p.key.val))

structure FillStreams where
  «open» : Nat
  opened : Nat
  groupOrder : GroupOrder
  deriving DecidableEq, Repr

/-! ## Tracks -/

/-- A Full Track Name. -/
structure Track where
  «namespace» : TrackNamespace
  name : Bytes
  deriving DecidableEq, Repr

structure ObjectLocation where
  group : Nat
  object : Nat
  deriving DecidableEq, Repr

/-- The Location order of Section 8.2. -/
def ObjectLocation.past (at' final : ObjectLocation) : Bool :=
  final.group < at'.group || (at'.group == final.group && final.object < at'.object)

inductive EndOfTrackForm where
  | lastGroup
  | pastLastGroup
  deriving DecidableEq, Repr

inductive ObjectRole where
  | produced
  | endsTrack (form : Option EndOfTrackForm)
  | neither
  deriving DecidableEq, Repr

structure TrackRecord where
  track : Track
  reached : Option ObjectLocation
  finalObject : Option ObjectLocation
  deriving DecidableEq, Repr

abbrev TrackLocations := List TrackRecord

namespace TrackLocations

def record (locations : TrackLocations) (track : Track) : Option TrackRecord :=
  List.find? (fun r => r.track == track) locations

/-- `record_mut`: rewrite the track's record, or push a new one. -/
def withRecord (locations : TrackLocations) (track : Track) (change : TrackRecord → TrackRecord) :
    TrackLocations :=
  match record locations track with
  | none => locations ++ [change ⟨track, none, none⟩]
  | some _ => List.map (fun r => if r.track == track then change r else r) locations

def observe (locations : TrackLocations) (track : Track) (at' : ObjectLocation) : TrackLocations :=
  withRecord locations track fun r =>
    { r with reached := match r.reached with
      | none => some at'
      | some seen => if at'.past seen then some at' else some seen }

def noteFinalObject (locations : TrackLocations) (track : Track) (at' : ObjectLocation) :
    TrackLocations :=
  withRecord locations track fun r => { r with finalObject := r.finalObject.or (some at') }

def checkNotPastFinal (locations : TrackLocations) (track : Track) (at' : ObjectLocation) :
    Except ObjectLocation Unit :=
  match (record locations track).bind TrackRecord.finalObject with
  | none => .ok ()
  | some final => refuseIf (at'.past final) final

/-- What `TrackObjects::note_past_final` leaves recorded once the check has passed. -/
def noted (locations : TrackLocations) (track : Track) (at' : ObjectLocation) :
    ObjectRole → TrackLocations
  | .produced => observe locations track at'
  | .endsTrack _ => noteFinalObject locations track at'
  | .neither => locations

end TrackLocations

inductive MalformedTrackCondition where
  | mixedForwardingPreference
  | objectPastFinalObject
  deriving DecidableEq, Repr

abbrev MalformedTracks := List (Track × MalformedTrackCondition)

/-- The first condition is the one kept. -/
def MalformedTracks.note (tracks : MalformedTracks) (track : Track)
    (condition : MalformedTrackCondition) : MalformedTracks :=
  if List.any tracks (fun t => t.1 == track) then tracks else tracks ++ [(track, condition)]

/-- Which of the two sequences establishes the subscription that owns a binding. -/
inductive BindingKind where
  | subscribe
  | publish
  deriving DecidableEq, Repr

structure TrackBinding where
  track : Track
  trackAlias : Option Nat
  kind : BindingKind
  deriving DecidableEq, Repr

/-- The order a `HashMap` happens to iterate in, which nothing settles. -/
structure IterationOrder where
  arrange : List (Sigma fun _ : Nat => TrackBinding) → List (Sigma fun _ : Nat => TrackBinding)
  perm : ∀ entries, (arrange entries).Perm entries

/-- The order of the entries themselves. -/
def IterationOrder.stored : IterationOrder := ⟨id, fun _ => .refl _⟩

/-! ## Errors -/

inductive FilterRejection where
  | noBudgetAdvertised
  | tooManyRanges (ranges limit : Nat)
  | repeatedFilter (parameterType : Nat) (setId : UInt8) (propertyType : Option Nat)
  | unreadable (error : RangeFilterError)
  deriving DecidableEq, Repr

inductive SetupError where
  | wrongOptionRole (key : Nat) (sender : Role)
  deriving DecidableEq, Repr

inductive EndpointError where
  | session (error : SessionError)
  | requestId (error : RequestIdError)
  | subscription (error : InvalidTransition SubscriptionState)
  | fetch (error : InvalidTransition FetchState)
  | fill (error : FillError)
  | «namespace» (error : InvalidTransition NamespaceState)
  | trackStatus (error : InvalidTransition TrackStatusState)
  | publishFlow (error : InvalidTransition PublishState)
  | setup (error : SetupError)
  | unknownRequest (id : Nat)
  | responseOnControlStream
  | requestUpdateOnControlStream
  | requestMessageOnControlStream (message : String)
  | unexpectedRequestUpdate (id : Nat)
  | trackPropertiesOnNonTrackStatus (id : Nat)
  | redirectUriAtServer
  | redirectTrackNameOnNamespaceRequest (id : Nat)
  | goAwayUriAtServer
  | duplicateRequestId (id : Nat)
  | notARequest (type : MessageType)
  | notAResponse (type : MessageType)
  | unexpectedOnPeerRequestStream (type : MessageType)
  | responseBeforeTheFirstResponse (id : Nat) (type : MessageType)
  | trackPropertiesOnOutgoingRequestOk (id : Nat)
  | tooManyRequestUpdates (id limit : Nat)
  | filterMustBeRejected (id : Nat) (rejection : FilterRejection)
  | noUpdateToAnswer (id : Nat)
  | wrongUpdateFailureStatus (request required : Nat)
  | notActive
  | draining
  | repeatedGoAway
  | repeatedGoAwayOnRequestStream (id : Nat)
  | duplicateTrackAlias (trackAlias established offered : Nat)
  | trackAliasInUse (trackAlias held : Nat)
  | objectPastFinalObject (trackAlias : Nat) (object final : ObjectLocation)
  | stateNotifyForNonSubscription (id : Nat)
  | stateNotifyFromSubscriber (id : Nat)
  | stateNotifyThisEndpointMayNotSend (id : Nat)
  | unrequestedFillStream (id : Nat)
  | peerPrefixOverlap (request established : Nat)
  | wrongOverlapRefusal (request required : Nat)
  deriving DecidableEq, Repr

inductive SessionErrorCode where
  | protocolViolation
  | invalidRequestId
  | duplicateTrackAlias
  | tooManyRequestUpdates
  deriving DecidableEq, Repr

def EndpointError.sessionErrorCode : EndpointError → Option SessionErrorCode
  | .requestUpdateOnControlStream | .unexpectedRequestUpdate _
  | .trackPropertiesOnNonTrackStatus _ | .redirectUriAtServer
  | .redirectTrackNameOnNamespaceRequest _ | .responseBeforeTheFirstResponse ..
  | .notARequest _ | .goAwayUriAtServer | .repeatedGoAway | .repeatedGoAwayOnRequestStream _
  | .stateNotifyForNonSubscription _ | .stateNotifyFromSubscriber _ => some .protocolViolation
  | .duplicateRequestId _ | .requestId (.wrongParity ..) => some .invalidRequestId
  | .tooManyRequestUpdates .. => some .tooManyRequestUpdates
  | .duplicateTrackAlias .. => some .duplicateTrackAlias
  | _ => none

/-! ## The endpoint -/

structure Endpoint where
  role : Role
  session : SessionState
  requestIds : RequestIdAllocator
  subscriptions : Table SubscriptionState
  fetches : Table FetchState
  fills : Table FillStreams
  subscribeNamespaces : Table NamespaceState
  subscribeTracks : Table NamespaceState
  publishNamespaces : Table NamespaceState
  trackStatuses : Table TrackStatusState
  publishes : Table PublishState
  goawayUri : Option Bytes
  goawayRequestStreams : Finset Nat
  peerRequestIds : Finset Nat
  inboundRequests : Table ControlMessage
  overlappingNamespaceSubscriptions : Table Nat
  updatedNamespacePrefixes : Table TrackNamespace
  overlappingPrefixUpdates : Table Nat
  advertisedMaxRequestUpdates : Nat
  outstandingPeerUpdates : Table Nat
  unansweredPeerUpdates : Table Nat
  owedUpdateFailures : Finset Nat
  answeredPeerRequests : Finset Nat
  advertisedMaxFilterRanges : Nat
  peerFilterRejections : Table FilterRejection
  peerRequestFilters : Table (List KeyValuePair)
  trackBindings : Table TrackBinding
  fetchTracks : Table Track
  malformed : MalformedTracks
  locations : TrackLocations
  deriving DecidableEq

/-- `Endpoint::new`. -/
def Endpoint.new (role : Role) : Endpoint where
  role := role
  session := .connecting
  requestIds := .new role
  subscriptions := ∅
  fetches := ∅
  fills := ∅
  subscribeNamespaces := ∅
  subscribeTracks := ∅
  publishNamespaces := ∅
  trackStatuses := ∅
  publishes := ∅
  goawayUri := none
  goawayRequestStreams := ∅
  peerRequestIds := ∅
  inboundRequests := ∅
  overlappingNamespaceSubscriptions := ∅
  updatedNamespacePrefixes := ∅
  overlappingPrefixUpdates := ∅
  advertisedMaxRequestUpdates := 0
  outstandingPeerUpdates := ∅
  unansweredPeerUpdates := ∅
  owedUpdateFailures := ∅
  answeredPeerRequests := ∅
  advertisedMaxFilterRanges := 0
  peerFilterRejections := ∅
  peerRequestFilters := ∅
  trackBindings := ∅
  fetchTracks := ∅
  malformed := []
  locations := []

/-! ## Outcomes -/

/-- How a call can fail to return a value: with an error, or by panicking. -/
inductive Failure where
  | returned (error : EndpointError)
  | panicked
  deriving DecidableEq, Repr

/-- What a call returns, and the endpoint it leaves behind. -/
abbrev Outcome (α : Type) := Except Failure α × Endpoint

namespace Endpoint

/-- An early return: nothing moved. -/
def refuse {α : Type} (e : Endpoint) (error : EndpointError) : Outcome α :=
  (.error (.returned error), e)

/-- `fail_session`: the error, with the session closed. -/
def failSession {α : Type} (e : Endpoint) (error : EndpointError) : Outcome α :=
  (.error (.returned error), { e with session := e.session.failed })

/-- The `?` on a result that nothing was changed for. -/
def attempt {α β : Type} (e : Endpoint) (result : Except EndpointError α)
    (next : α → Outcome β) : Outcome β :=
  match result with
  | .ok a => next a
  | .error error => e.refuse error

end Endpoint

/-- The `?` on a call that returned the endpoint it left behind. -/
def Outcome.andThen {α β : Type} (outcome : Outcome α) (next : α → Endpoint → Outcome β) :
    Outcome β :=
  match outcome with
  | (.ok a, e) => next a e
  | (.error failure, e) => (.error failure, e)

end Moqtap.Draft22.Client
