import Moqtap.EndpointCalls

/-! Every call of a draft-22 endpoint has one of the effects of `Effect`
(`call_effect`): the machines first (`drive_cases`), then the requests this
endpoint makes, the requests the peer makes, the updates, and the answers. -/
namespace Moqtap.Draft22.Client
open ByteCursor Varint CodecTypes Parameters Messages Machines RangeFilters
open Endpoint

/-- An outcome that is one of the effects of a call. -/
def Shows (order : IterationOrder) (e : Endpoint) (c : Call) (outcome : Outcome Reply) : Prop :=
  Effect order e c outcome.1 outcome.2

variable {order : IterationOrder} {e : Endpoint} {c : Call} {α : Type} {f : α → Reply}

theorem shows_refuse {error : EndpointError} (soft : error.sessionErrorCode = none) :
    Shows order e c ((e.refuse error).map f) := .refused soft

theorem shows_fail {error : EndpointError} (plain : error.Plain) :
    Shows order e c ((e.failSession error).map f) := .violated plain

theorem shows_attempt {ε : Type} {result : Except ε α} {wrap : ε → EndpointError} {β : Type}
    {g : β → Reply} {next : α → Outcome β}
    (soft : ∀ error, (wrap error).sessionErrorCode = none)
    (shown : ∀ a, result = .ok a → Shows order e c ((next a).map g)) :
    Shows order e c ((e.attempt (result.mapError wrap) next).map g) := by
  cases outcome : result with
  | error error => exact .refused (soft error)
  | ok a => exact shown a outcome

/-- The seven kinds refuse an event under an error that closes nothing. -/
theorem wrap_soft (k : Kind) (invalid : InvalidTransition k.State) :
    (k.flow.wrap invalid).sessionErrorCode = none := by
  cases k <;> rfl

/-- Driving a machine refuses and leaves everything, or moves the one request. -/
theorem drive_cases (e : Endpoint) (k : Kind) (id : Nat) (edge : k.State → Option k.State)
    (event : String) :
    (∃ error, error.sessionErrorCode = none ∧ e.drive k.flow id (fire edge event) = e.refuse error ∧
      ∀ state, (k.flow.table e).lookup id = some state → edge state = none) ∨
    ∃ state next, (k.flow.table e).lookup id = some state ∧ edge state = some next ∧
      e.drive k.flow id (fire edge event) = (.ok (), e.settled k id next) := by
  unfold drive
  cases held : (k.flow.table e).lookup id with
  | none => exact .inl ⟨_, rfl, rfl, fun state found => by cases found⟩
  | some state =>
    cases step : edge state with
    | none =>
      refine .inl ⟨k.flow.wrap ⟨state, event⟩, wrap_soft k _, by simp [fire, step, attempt,
        Except.mapError], ?_⟩
      intro other found
      cases found
      exact step
    | some next =>
      exact .inr ⟨state, next, rfl, step, by simp [fire, step, attempt, Except.mapError, settled]⟩

theorem shows_drive {k : Kind} {id : Nat} {edge : k.State → Option k.State} {event : String}
    {g : Unit → Reply} (drives : Drives c k id edge) :
    Shows order e c ((e.drive k.flow id (fire edge event)).map g) := by
  rcases drive_cases e k id edge event with ⟨error, soft, refused, -⟩ | ⟨state, next, held, step, moved⟩
  · rw [refused]
    exact .refused soft
  · rw [moved]
    exact .moved k drives held step

/-! ## Requests of this endpoint's -/

theorem requireActiveOrErr_cases (e : Endpoint) :
    e.requireActiveOrErr = .ok () ∧ e.session = .active ∨
      ∃ error, e.requireActiveOrErr = .error error ∧ error.sessionErrorCode = none := by
  unfold requireActiveOrErr
  cases e.session
  case active => exact .inl ⟨rfl, rfl⟩
  all_goals exact .inr ⟨_, rfl, rfl⟩

/-- What an operation behind `require_active_or_err` shows. -/
theorem shows_active {next : Unit → Outcome α}
    (shown : e.session = .active → Shows order e c ((next ()).map f)) :
    Shows order e c ((e.attempt e.requireActiveOrErr next).map f) := by
  rcases requireActiveOrErr_cases e with ⟨passed, active⟩ | ⟨error, stopped, soft⟩
  · rw [passed]
    exact shown active
  · rw [stopped]
    exact .refused soft

theorem sameFills_refl (e : Endpoint) : e.SameFills e.fills := fun _ => rfl

theorem noteFillRequested_kept (id : Nat) (parameters : List KeyValuePair) (e : Endpoint)
    (other : Nat) (different : other ≠ id) :
    (noteFillRequested id parameters e).fills.lookup other = e.fills.lookup other := by
  unfold noteFillRequested
  split
  · exact AList.lookup_insert_ne different
  · rfl

/-- Noting a fill touches the fills alone. -/
theorem noteFillRequested_eq (id : Nat) (parameters : List KeyValuePair) (e : Endpoint) :
    noteFillRequested id parameters e =
      { e with fills := (noteFillRequested id parameters e).fills } := by
  unfold noteFillRequested
  split <;> rfl

/-- The endpoint with its next Request ID taken. -/
def Endpoint.advanced (e : Endpoint) : Endpoint :=
  { e with requestIds := { e.requestIds with nextId := 2 + e.requestIds.nextId } }

theorem advanced_settled (e : Endpoint) (k : Kind) (id : Nat) (next : k.State) :
    e.advanced.settled k id next =
      { e.settled k id next with requestIds := e.advanced.requestIds } := by
  cases k <;> rfl

/-- A request opened under the next Request ID, its kind's machine in its opening state. -/
theorem shows_openRequest {k : Kind} {event : String} {start : k.State}
    {edge : k.State → Option k.State} {record : Nat → Endpoint → Endpoint}
    {message : VarInt → ControlMessage} (kind : c.opens = some k) (active : e.session = .active)
    (starts : edge start = some k.opening)
    (records : ∀ id e', ∃ bindings fills tracks, record id e' = { e' with
      trackBindings := bindings, fills := fills, fetchTracks := tracks } ∧
        Binds e'.trackBindings id c bindings ∧
        ∀ other, other ≠ id → fills.lookup other = e'.fills.lookup other) :
    Shows order e c ((e.openRequest k.flow (fire edge event start) record message).map
      fun r => .request r.1 r.2) := by
  unfold openRequest allocate RequestIdAllocator.allocate
  by_cases blocked : e.requestIds.maxId = 0 ∨ e.requestIds.maxId < e.requestIds.nextId
  · rw [if_pos blocked]
    exact .refused rfl
  rw [if_neg blocked]
  cases made : VarInt.fromU64 e.requestIds.nextId with
  | error error => exact .panicked
  | ok id =>
    have fresh := (VarInt.fromU64_success made).1
    have begun : fire edge event start = .ok k.opening := fire_ok.mpr starts
    dsimp only
    rw [begun]
    obtain ⟨bindings, fills, tracks, recorded, binds, kept⟩ :=
      records id.val { e.settled k id.val k.opening with requestIds := e.advanced.requestIds }
    have sameBindings : (e.settled k id.val k.opening).trackBindings = e.trackBindings := by
      cases k <;> rfl
    have sameFills : (e.settled k id.val k.opening).fills = e.fills := by cases k <;> rfl
    change Effect order e c (.ok (.request id (message id)))
      (record id.val (e.advanced.settled k id.val k.opening))
    rw [advanced_settled, recorded]
    exact .opened k kind active fresh (sameBindings ▸ binds) rfl
      fun other different => (kept other different).trans (by dsimp only; rw [sameFills])

theorem records_nothing (id : Nat) (e' : Endpoint)
    (unbound : ∀ track ps, c ≠ .subscribe track ps)
    (unpublished : ∀ track trackAlias ps ts, c ≠ .publish track trackAlias ps ts) :
    ∃ bindings fills tracks, e' = { e' with
      trackBindings := bindings, fills := fills, fetchTracks := tracks } ∧
        Binds e'.trackBindings id c bindings ∧
        ∀ other, other ≠ id → fills.lookup other = e'.fills.lookup other :=
  ⟨_, _, _, rfl, .other unbound unpublished, fun _ _ => rfl⟩

/-- The seven requests of this endpoint's. -/
theorem shows_opens (opens : c.opens.isSome = true) : Shows order e c (e.call order c) := by
  cases c with
  | subscribe track parameters =>
    refine shows_active fun active => shows_openRequest (k := .subscription) rfl active rfl ?_
    intro id e'
    refine ⟨_, _, e'.fetchTracks, ?_, .subscribe, noteFillRequested_kept id parameters e'⟩
    dsimp only
    rw [noteFillRequested_eq]
  | fetch track parameters =>
    refine shows_active fun active => shows_openRequest (k := .fetch) rfl active rfl ?_
    intro id e'
    exact ⟨_, _, _, rfl, .other (fun _ _ => Call.noConfusion) fun _ _ _ _ => Call.noConfusion,
      fun _ _ => rfl⟩
  | fetchRange track range parameters =>
    refine shows_attempt (fun _ => rfl) fun filter _ => shows_active fun active =>
      shows_openRequest (k := .fetch) rfl active rfl ?_
    intro id e'
    exact ⟨_, _, _, rfl, .other (fun _ _ => Call.noConfusion) fun _ _ _ _ => Call.noConfusion,
      fun _ _ => rfl⟩
  | subscribeNamespace namespacePrefix parameters =>
    exact shows_active fun active => shows_openRequest (k := .subscribeNamespace) rfl active rfl
      fun id e' => records_nothing id e' (fun _ _ => Call.noConfusion) fun _ _ _ _ => Call.noConfusion
  | subscribeTracks namespacePrefix parameters =>
    refine shows_active fun active => shows_openRequest (k := .subscribeTracks) rfl active rfl ?_
    intro id e'
    exact ⟨_, _, _, noteFillRequested_eq id parameters e',
      .other (fun _ _ => Call.noConfusion) fun _ _ _ _ => Call.noConfusion,
      noteFillRequested_kept id parameters e'⟩
  | publishNamespace trackNamespace parameters =>
    exact shows_active fun active => shows_openRequest (k := .publishNamespace) rfl active rfl
      fun id e' => records_nothing id e' (fun _ _ => Call.noConfusion) fun _ _ _ _ => Call.noConfusion
  | trackStatus track parameters =>
    exact shows_active fun active => shows_openRequest (k := .trackStatus) rfl active rfl
      fun id e' => records_nothing id e' (fun _ _ => Call.noConfusion) fun _ _ _ _ => Call.noConfusion
  | publish track trackAlias parameters trackProperties =>
    refine shows_active fun active => ?_
    cases held : e.aliasHeldElsewhere order trackAlias.val track with
    | some refusal =>
      obtain ⟨b, -, rfl⟩ := Option.map_eq_some_iff.mp held
      exact .refused rfl
    | none =>
      refine shows_openRequest (k := .publish) rfl active rfl ?_
      intro id e'
      exact ⟨_, _, _, rfl, .publish, fun _ _ => rfl⟩
  | _ => cases opens

/-! ## Requests of the peer's -/

theorem noteOverlap_eq (id : Nat) (collides : Option Nat) (e : Endpoint) :
    noteOverlap id collides e = { e with
      overlappingNamespaceSubscriptions :=
        (noteOverlap id collides e).overlappingNamespaceSubscriptions } := by
  cases collides <;> rfl

/-- What `enter_request` leaves, once nothing about the request is a violation. -/
def Endpoint.entering (e : Endpoint) (k : Kind) (id : Nat) (msg : ControlMessage)
    (fills : Table FillStreams) : Endpoint :=
  { e.settled k id k.opening with
    overlappingNamespaceSubscriptions :=
      (noteOverlap id (e.overlapOf msg) e).overlappingNamespaceSubscriptions
    trackBindings := boundBy e.trackBindings id msg
    fills := fills }

/-- The conflict a request's alias has, which only a PUBLISH can have. -/
def Endpoint.offerConflict (e : Endpoint) (order : IterationOrder) (id : Nat) :
    ControlMessage → Option EndpointError
  | .publish m =>
    e.conflictingTrackAlias order id m.trackAlias.val ⟨m.trackNamespace, m.trackName⟩
  | _ => none

theorem enterRequest_eq {msg : ControlMessage} {k : Kind} (kind : Kind.ofRequest msg = some k)
    (order : IterationOrder) (e : Endpoint) (id : Nat) :
    (∃ conflict, e.offerConflict order id msg = some conflict ∧
      e.enterRequest order id msg = e.failSession conflict) ∨
    e.offerConflict order id msg = none ∧
      ∃ fills, (∀ other, other ≠ id → fills.lookup other = e.fills.lookup other) ∧
        e.enterRequest order id msg = (.ok (), e.entering k id msg fills) := by
  cases msg <;> cases kind
  case publish m =>
    cases conflict : e.conflictingTrackAlias order id m.trackAlias.val
        ⟨m.trackNamespace, m.trackName⟩ with
    | some error => exact .inl ⟨error, conflict, by rw [enterRequest, conflict]⟩
    | none =>
      refine .inr ⟨conflict, e.fills, fun _ _ => rfl, ?_⟩
      rw [enterRequest, conflict]
      rfl
  case subscribe m =>
    refine .inr ⟨rfl, _, noteFillRequested_kept id m.parameters e, ?_⟩
    rw [enterRequest, noteFillRequested_eq]
    rfl
  case subscribeTracks m =>
    have sameFills : (noteOverlap id (e.peerTracksOverlap m.trackNamespace none) e).fills =
        e.fills := by
      rw [noteOverlap_eq]
    refine .inr ⟨rfl, _, fun other different => (noteFillRequested_kept id m.parameters
      (noteOverlap id (e.peerTracksOverlap m.trackNamespace none) e) other different).trans
        (by rw [sameFills]), ?_⟩
    rw [enterRequest, noteFillRequested_eq, noteOverlap_eq]
    rfl
  case subscribeNamespace m =>
    refine .inr ⟨rfl, e.fills, fun _ _ => rfl, ?_⟩
    rw [enterRequest, noteOverlap_eq]
    rfl
  all_goals exact .inr ⟨rfl, e.fills, fun _ _ => rfl, rfl⟩

/-- Every message that opens a request stream names its request and has a kind. -/
theorem kind_of_names {msg : ControlMessage} {requestId : VarInt}
    (names : requestIdOf msg = some requestId) : ∃ k, Kind.ofRequest msg = some k := by
  cases msg <;> first | exact ⟨_, rfl⟩ | cases names

/-- No Request ID a varint can carry is past the ceiling. -/
def Endpoint.Unbounded (e : Endpoint) : Prop := e.requestIds.maxId = 2 ^ 64 - 1

theorem validatePeerId_cases (unbounded : e.Unbounded) (id : VarInt) :
    e.requestIds.validatePeerId id.val = .ok () ∨
      ∃ peer, e.requestIds.validatePeerId id.val = .error (.wrongParity id.val peer) := by
  have inside : ¬ e.requestIds.maxId < id.val := by
    have := id.isLt
    rw [unbounded]
    omega
  unfold RequestIdAllocator.validatePeerId
  rw [if_neg inside]
  cases e.requestIds.role
  all_goals
    dsimp only
    rcases em (((id.val % 2 == 0) != _) = true) with odd | even
    · exact .inr ⟨_, if_pos odd⟩
    · exact .inl (if_neg even)

/-- The endpoint with a Request ID of the peer's spent. -/
def Endpoint.spent (e : Endpoint) (id : Nat) : Endpoint :=
  { e with peerRequestIds := insert id e.peerRequestIds }

theorem spent_entering (e : Endpoint) (k : Kind) (id : Nat) (msg : ControlMessage)
    (fills : Table FillStreams) :
    (e.spent id).entering k id msg fills = (e.entering k id msg fills).spent id := by
  have overlap : noteOverlap id ((e.spent id).overlapOf msg) (e.spent id) =
      (noteOverlap id (e.overlapOf msg) e).spent id := by
    have same : (e.spent id).overlapOf msg = e.overlapOf msg := by cases msg <;> rfl
    rw [same]
    cases e.overlapOf msg <;> rfl
  unfold entering
  rw [overlap]
  cases k <;> rfl

theorem recordRequest_entering (e : Endpoint) (k : Kind) (id : Nat) (msg : ControlMessage)
    (fills : Table FillStreams) :
    ∃ rejections : Table FilterRejection,
      (∀ other, other ≠ id → rejections.lookup other = e.peerFilterRejections.lookup other) ∧
      recordRequest id msg ((e.entering k id msg fills).spent id) =
        { e.settled k id k.opening with
          peerRequestIds := insert id e.peerRequestIds
          inboundRequests := e.inboundRequests.insert id msg
          overlappingNamespaceSubscriptions :=
            (noteOverlap id (e.overlapOf msg) e).overlappingNamespaceSubscriptions
          trackBindings := boundBy e.trackBindings id msg
          fills := fills
          peerFilterRejections := rejections
          peerRequestFilters := e.peerRequestFilters.insert id
            (rangeFilterParameters msg.parameters) } := by
  refine ⟨(recordRequest id msg ((e.entering k id msg fills).spent id)).peerFilterRejections, ?_, ?_⟩
  · intro other different
    have same : ((e.entering k id msg fills).spent id).peerFilterRejections =
        e.peerFilterRejections := settled_peerFilterRejections e k _ _
    rw [recordRequest]
    dsimp only
    rw [same]
    split
    · exact AList.lookup_insert_ne different
    · rfl
  · cases k <;> rfl

theorem shows_receiveRequestOnStream (unbounded : e.Unbounded) (msg : ControlMessage) :
    Shows order e (.receiveRequestOnStream msg) (e.call order (.receiveRequestOnStream msg)) := by
  rw [call, receiveRequestOnStream]
  cases names : requestIdOf msg with
  | none => exact shows_fail (by simp [EndpointError.Plain, EndpointError.sessionErrorCode])
  | some requestId =>
    obtain ⟨k, kind⟩ := kind_of_names names
    refine shows_active fun active => ?_
    rcases validatePeerId_cases unbounded requestId with peers | ⟨peer, parity⟩
    · rw [peers]
      dsimp only
      split
      · exact shows_fail (by simp [EndpointError.Plain, EndpointError.sessionErrorCode])
      · rename_i fresh
        change Shows order e _ ((((e.spent requestId.val).enterRequest order requestId.val msg).andThen
          fun _ e => (.ok requestId, recordRequest requestId.val msg e)).map .opened)
        rcases enterRequest_eq kind order (e.spent requestId.val) requestId.val with
          ⟨error, conflict, failed⟩ | ⟨unconflicted, fills, kept, entered⟩
        · rw [failed]
          cases msg
          case publish m =>
            cases names
            exact .misoffered conflict
          all_goals cases conflict
        · rw [entered, spent_entering]
          change Effect order e _ (.ok (.opened requestId)) (recordRequest requestId.val msg
            ((e.entering k requestId.val msg fills).spent requestId.val))
          obtain ⟨rejections, rejectionsKept, recorded⟩ :=
            recordRequest_entering e k requestId.val msg fills
          rw [recorded]
          refine .entered k kind active names peers fresh ?_ kept rejectionsKept
          rintro m rfl
          exact unconflicted
    · rw [parity]
      exact shows_fail (by simp [EndpointError.Plain, EndpointError.sessionErrorCode])

/-! ## Responses to this endpoint's requests -/

/-- A call that leaves the endpoint as it was. -/
theorem shows_unchanged {reply : Reply} (calm : c.Quiet) : Shows order e c (.ok reply, e) :=
  .quiet calm .inl (.inr rfl) (sameFills_refl e)

theorem named_eq (e : Endpoint) (id trackAlias : Nat) :
    (match e.trackBindings.lookup id with
      | none => e
      | some binding => { e with
        trackBindings := e.trackBindings.insert id { binding with trackAlias := some trackAlias } }) =
      { e with trackBindings := named e.trackBindings id trackAlias } := by
  unfold named
  cases e.trackBindings.lookup id <;> rfl

theorem shows_receiveSubscribeOk (requestId trackAlias : VarInt) :
    Shows order e (.receiveSubscribeOk requestId trackAlias)
      (e.call order (.receiveSubscribeOk requestId trackAlias)) := by
  rw [call, receiveSubscribeOk]
  by_cases unknown : requestId.val ∉ e.subscriptions
  · rw [if_pos unknown]
    exact shows_refuse rfl
  rw [if_neg unknown]
  cases conflict : (e.trackBindings.lookup requestId.val).bind fun binding =>
      e.conflictingTrackAlias order requestId.val trackAlias.val binding.track with
  | some error =>
    obtain ⟨binding, bound, found⟩ := Option.bind_eq_some_iff.mp conflict
    exact .misnamed bound found
  | none =>
    have unconflicted : ∀ binding, e.trackBindings.lookup requestId.val = some binding →
        e.conflictingTrackAlias order requestId.val trackAlias.val binding.track = none := by
      intro binding bound
      rw [bound] at conflict
      exact conflict
    rcases drive_cases e .subscription requestId.val SubscriptionState.answered "on_subscribe_ok"
      with ⟨error, soft, refused, -⟩ | ⟨state, next, held, step, moved⟩
    · have same : e.drive subscriptionFlow requestId.val SubscriptionState.onSubscribeOk =
          e.refuse error := refused
      rw [same]
      exact .refused soft
    · have same : e.drive subscriptionFlow requestId.val SubscriptionState.onSubscribeOk =
          (.ok (), e.settled .subscription requestId.val next) := moved
      rw [same]
      cases state <;> cases step
      have shown : Effect order e (.receiveSubscribeOk requestId trackAlias) (.ok .nothing)
          { e.settled .subscription requestId.val SubscriptionState.active with
            trackBindings := named e.trackBindings requestId.val trackAlias.val } :=
        .accepted held unconflicted
      rw [← settled_trackBindings e .subscription requestId.val SubscriptionState.active,
        ← named_eq] at shown
      exact shown

theorem shows_cancelRequest (requestId : VarInt) :
    Shows order e (.cancelRequest requestId) (e.call order (.cancelRequest requestId)) := by
  rw [call, cancelRequest]
  split_ifs
  · exact shows_drive (.cancelled .subscription)
  · exact shows_drive (.cancelled .fetch)
  · exact shows_drive (.cancelled .publish)
  · exact shows_drive (.cancelled .subscribeNamespace)
  · exact shows_drive (.cancelled .subscribeTracks)
  · exact shows_drive (.cancelled .publishNamespace)
  · exact shows_drive (.cancelled .trackStatus)

theorem shows_receiveRequestOk (requestId : VarInt) (properties : List KeyValuePair) :
    Shows order e (.receiveRequestOk requestId properties)
      (e.call order (.receiveRequestOk requestId properties)) := by
  rw [call, receiveRequestOk]
  split_ifs
  · exact shows_fail (by simp [EndpointError.Plain, EndpointError.sessionErrorCode])
  · exact shows_drive (.accepted .publish (by decide))
  · exact shows_drive (.accepted .subscribeNamespace (by decide))
  · exact shows_drive (.accepted .subscribeTracks (by decide))
  · exact shows_drive (.accepted .publishNamespace (by decide))
  · exact shows_drive (.accepted .trackStatus (by decide))

theorem redirectFault_plain {id : Nat} {redirect : Option Redirect} {fault : EndpointError}
    (found : e.redirectFault id redirect = some fault) : fault.Plain := by
  unfold redirectFault at found
  split at found
  · cases found
  · split_ifs at found <;> cases found <;>
      simp [EndpointError.Plain, EndpointError.sessionErrorCode]

theorem shows_receiveRequestError (requestId : VarInt) (error : RequestError) :
    Shows order e (.receiveRequestError requestId error)
      (e.call order (.receiveRequestError requestId error)) := by
  rw [call, receiveRequestError]
  split
  · rename_i fault found
    exact shows_fail (redirectFault_plain found)
  · split_ifs
    · exact shows_drive (.rejected .subscription)
    · exact shows_drive (.rejected .fetch)
    · exact shows_drive (.rejected .publish)
    · exact shows_drive (.rejected .subscribeNamespace)
    · exact shows_drive (.rejected .subscribeTracks)
    · exact shows_drive (.rejected .publishNamespace)
    · exact shows_drive (.rejected .trackStatus)

/-! ## Updates -/

theorem charged_subscriptions (e : Endpoint) (id : Nat) :
    (e.charged id).subscriptions = e.subscriptions := by
  unfold charged
  split <;> rfl

theorem charged_one (e : Endpoint) (id other : Nat) :
    (other ∉ (e.charged id).inboundRequests ∧
      (e.charged id).bindingIsEstablished other .publish = false) ↔
    (other ∉ e.inboundRequests ∧ e.bindingIsEstablished other .publish = false) := by
  unfold charged
  split <;> rfl

theorem spendUpdateCredit_cases (e : Endpoint) (id : Nat) :
    (e.advertisedMaxRequestUpdates ≠ 0 ∧
      e.advertisedMaxRequestUpdates ≤ (e.outstandingPeerUpdates.lookup id).getD 0 ∧
      e.spendUpdateCredit id =
        e.failSession (.tooManyRequestUpdates id e.advertisedMaxRequestUpdates)) ∨
    (e.advertisedMaxRequestUpdates ≠ 0 →
      (e.outstandingPeerUpdates.lookup id).getD 0 < e.advertisedMaxRequestUpdates) ∧
      e.spendUpdateCredit id = (.ok (), e.charged id) := by
  unfold spendUpdateCredit charged
  dsimp only
  by_cases unlimited : e.advertisedMaxRequestUpdates = 0
  · rw [if_pos unlimited, if_pos unlimited]
    exact .inr ⟨fun limited => absurd unlimited limited, rfl⟩
  rw [if_neg unlimited, if_neg unlimited]
  by_cases full : e.advertisedMaxRequestUpdates ≤ (e.outstandingPeerUpdates.lookup id).getD 0
  · exact .inl ⟨unlimited, full, if_pos full⟩
  · exact .inr ⟨fun _ => by omega, if_neg full⟩

theorem shows_receiveRequestUpdate (requestId named : VarInt) (parameters : List KeyValuePair) :
    Shows order e (.receiveRequestUpdate requestId named parameters)
      (e.call order (.receiveRequestUpdate requestId named parameters)) := by
  rw [call, receiveRequestUpdate]
  by_cases other : named.val ≠ requestId.val
  · rw [if_pos other]
    exact shows_fail (by simp [EndpointError.Plain, EndpointError.sessionErrorCode])
  rw [if_neg other]
  obtain rfl : named = requestId := VarInt.ext (not_not.mp other)
  rcases spendUpdateCredit_cases e named.val with ⟨limited, full, spent⟩ | ⟨credit, spent⟩
  · rw [spent]
    exact .crowded limited full
  rw [spent]
  change Shows order e _ (((e.charged named.val).takeUpdate named.val parameters).map _)
  unfold takeUpdate
  rw [charged_subscriptions]
  by_cases neither : named.val ∉ e.inboundRequests ∧
      e.bindingIsEstablished named.val .publish = false
  · rw [if_pos ((charged_one e named.val named.val).mpr neither)]
    exact .unexpected
  rw [if_neg (mt (charged_one e named.val named.val).mp neither)]
  have one : named.val ∈ e.inboundRequests ∨
      e.bindingIsEstablished named.val .publish = true := by
    by_contra none
    rw [not_or] at none
    exact neither ⟨none.1, by simpa using none.2⟩
  split_ifs
  · rcases drive_cases (e.charged named.val) .subscription named.val SubscriptionState.updated
      "on_subscribe_update" with ⟨error, soft, refused, stuck⟩ | ⟨state, next, held, step, moved⟩
    · have same : (e.charged named.val).drive subscriptionFlow named.val
          SubscriptionState.onSubscribeUpdate = (e.charged named.val).refuse error := refused
      rw [same]
      have present : (e.subscriptions.lookup named.val).isSome := by
        rwa [AList.lookup_isSome]
      obtain ⟨state, held⟩ := Option.isSome_iff_exists.mp present
      exact .overdrawn credit one held (stuck state (by
        change (e.charged named.val).subscriptions.lookup named.val = some state
        rw [charged_subscriptions, held])) soft
    · have same : (e.charged named.val).drive subscriptionFlow named.val
          SubscriptionState.onSubscribeUpdate =
            (.ok (), (e.charged named.val).settled .subscription named.val next) := moved
      rw [same]
      have kept : next = state := by cases state <;> cases step <;> rfl
      have held : e.subscriptions.lookup named.val = some state := by
        rw [← charged_subscriptions e named.val]
        exact held
      have same : ∀ other, ((e.charged named.val).subscriptions.insert named.val next).lookup other =
          e.subscriptions.lookup other := by
        intro other
        rw [charged_subscriptions]
        by_cases here : other = named.val
        · rw [here, AList.lookup_insert, held, kept]
        · exact AList.lookup_insert_ne here
      exact .updated credit one same
  · have same : ∀ other, (e.charged named.val).subscriptions.lookup other =
        e.subscriptions.lookup other := by
      intro other
      rw [charged_subscriptions]
    exact .updated credit one same
  · exact .unexpected

/-! ## Endings and answers -/

theorem paid_of_free (e : Endpoint) (id : Nat) (free : id ∉ e.owedUpdateFailures) :
    e.paid id = e := by
  rw [paid, Finset.erase_eq_of_notMem free]

theorem requireUpdateFailureStatus_cases (e : Endpoint) (id : Nat) (statusCode : VarInt) :
    (∃ error, error.sessionErrorCode = none ∧
      e.requireUpdateFailureStatus id statusCode = e.refuse error) ∨
    (id ∈ e.owedUpdateFailures → statusCode.val = updateFailed) ∧
      e.requireUpdateFailureStatus id statusCode = (.ok (), e.paid id) := by
  unfold requireUpdateFailureStatus
  by_cases free : id ∉ e.owedUpdateFailures
  · rw [if_pos free, paid_of_free e id free]
    exact .inr ⟨fun owed => absurd owed free, rfl⟩
  rw [if_neg free]
  by_cases wrong : statusCode.val ≠ updateFailed
  · exact .inl ⟨_, rfl, if_pos wrong⟩
  · exact .inr ⟨fun _ => not_not.mp wrong, if_neg wrong⟩

theorem shows_sendPublishDone (requestId : VarInt) (done : PublishDone) :
    Shows order e (.sendPublishDone requestId done)
      (e.call order (.sendPublishDone requestId done)) := by
  rw [call, sendPublishDone]
  rcases requireUpdateFailureStatus_cases e requestId.val done.statusCode with
    ⟨error, soft, refused⟩ | ⟨status, passed⟩
  · rw [refused]
    exact .refused soft
  rw [passed]
  change Shows order e _ ((((e.paid requestId.val).drive publishFlow requestId.val
    PublishState.onPublishDoneSent).andThen fun _ e => (.ok (.publishDone done), e)).map .message)
  rcases drive_cases (e.paid requestId.val) .publish requestId.val PublishState.ended
    "on_publish_done_sent" with ⟨error, soft, refused, stuck⟩ | ⟨state, next, held, step, moved⟩
  · have same : (e.paid requestId.val).drive publishFlow requestId.val
        PublishState.onPublishDoneSent = (e.paid requestId.val).refuse error := refused
    have notActive : e.publishes.lookup requestId.val ≠ some .active := fun active =>
      Option.some_ne_none _ (stuck .active active)
    rw [same]
    exact .overpaidPublication status notActive soft
  · have same : (e.paid requestId.val).drive publishFlow requestId.val
        PublishState.onPublishDoneSent =
          (.ok (), (e.paid requestId.val).settled .publish requestId.val next) := moved
    cases state <;> cases step
    rw [same]
    exact .published status held

theorem requireOverlapRefusal_cases (id : Nat) (verdict : Option Nat) (msg : ControlMessage) :
    requireOverlapRefusal id verdict msg = .ok () ∨
      verdict.isSome = true ∧ ∃ error, error.sessionErrorCode = none ∧
        requireOverlapRefusal id verdict msg = .error error := by
  unfold requireOverlapRefusal
  cases verdict with
  | none => exact .inl rfl
  | some established =>
    cases msg
    case requestError err =>
      by_cases wrong : (err.errorCode.val != prefixOverlap) = true
      · exact .inr ⟨rfl, _, rfl, if_pos wrong⟩
      · exact .inl (if_neg wrong)
    all_goals exact .inr ⟨rfl, _, rfl, rfl⟩

/-- What writing a response to a request does, a PUBLISH_DONE apart. -/
inductive Written (e : Endpoint) (id : Nat) (msg : ControlMessage) : Outcome Unit → Prop
  | refused (soft : error.sessionErrorCode = none) : Written e id msg (e.refuse error)
  | notified (notify : msg = .publishStateNotify ps) : Written e id msg (.ok (), e)
  | moved (k : Kind) {edge : k.State → Option k.State} {state next : k.State}
      (writes : Writes msg k edge) (held : (k.flow.table e).lookup id = some state)
      (step : edge state = some next) : Written e id msg (.ok (), e.settled k id next)

theorem written_drive {id : Nat} {msg : ControlMessage} {k : Kind}
    {edge : k.State → Option k.State} {event : String} (writes : Writes msg k edge) :
    Written e id msg (e.drive k.flow id (fire edge event)) := by
  rcases drive_cases e k id edge event with ⟨error, soft, refused, -⟩ | ⟨state, next, held, step, moved⟩
  · rw [refused]
    exact .refused soft
  · rw [moved]
    exact .moved k writes held step

theorem written (e : Endpoint) (id : Nat) (msg : ControlMessage)
    (going : ∀ done, msg ≠ .publishDone done) : Written e id msg (e.writeResponse id msg) := by
  cases msg
  case publishDone done => exact absurd rfl (going done)
  case subscribeOk => exact written_drive .subscribeOk
  case fetchOk => exact written_drive .fetchOk
  case «namespace» => exact written_drive .namespace
  case namespaceDone => exact written_drive .namespaceDone
  case publishSkipped => exact written_drive .publishSkipped
  case publishStateNotify =>
    rw [writeResponse]
    split
    · exact .notified rfl
    · exact .refused rfl
  case requestOk ps ts =>
    rw [writeResponse]
    split_ifs
    · exact .refused rfl
    · exact written_drive (.requestOk .publish (by decide))
    · exact written_drive (.requestOk .subscribeNamespace (by decide))
    · exact written_drive (.requestOk .subscribeTracks (by decide))
    · exact written_drive (.requestOk .publishNamespace (by decide))
    · exact written_drive (.requestOk .trackStatus (by decide))
  case requestError error =>
    rw [writeResponse]
    split_ifs
    · exact written_drive (.requestError .subscription)
    · exact written_drive (.requestError .fetch)
    · exact written_drive (.requestError .publish)
    · exact written_drive (.requestError .subscribeNamespace)
    · exact written_drive (.requestError .subscribeTracks)
    · exact written_drive (.requestError .publishNamespace)
    · exact written_drive (.requestError .trackStatus)
  all_goals exact .refused rfl

/-- The ending of a subscription of the peer's. -/
theorem shows_ending (requestId : VarInt) (done : PublishDone) :
    Shows order e (.sendResponseOnStream requestId (.publishDone done))
      (e.call order (.sendResponseOnStream requestId (.publishDone done))) := by
  rw [call, sendResponseOnStream]
  change Shows order e _ (((e.requireUpdateFailureStatus requestId.val done.statusCode).andThen
    fun _ e => e.answerRequest requestId.val (.publishDone done)).map _)
  rcases requireUpdateFailureStatus_cases e requestId.val done.statusCode with
    ⟨error, soft, refused⟩ | ⟨status, passed⟩
  · rw [refused]
    exact .refused soft
  rw [passed]
  change Shows order e _ (((e.paid requestId.val).answerRequest requestId.val
    (.publishDone done)).map _)
  unfold answerRequest
  rcases requireOverlapRefusal_cases requestId.val
    (e.overlappingNamespaceSubscriptions.lookup requestId.val) (.publishDone done) with
      overlap | ⟨flagged, error, soft, overlapped⟩
  · have same : requireOverlapRefusal requestId.val
        ((e.paid requestId.val).overlappingNamespaceSubscriptions.lookup requestId.val)
          (.publishDone done) = .ok () := overlap
    rw [same]
    change Shows order e _ ((((e.paid requestId.val).drive subscriptionFlow requestId.val
      SubscriptionState.onPublishDoneSent).andThen fun _ e => (.ok (), e)).map _)
    rcases drive_cases (e.paid requestId.val) .subscription requestId.val SubscriptionState.ended
      "on_publish_done_sent" with ⟨error, soft, refused, stuck⟩ | ⟨state, next, held, step, moved⟩
    · have same : (e.paid requestId.val).drive subscriptionFlow requestId.val
          SubscriptionState.onPublishDoneSent = (e.paid requestId.val).refuse error := refused
      rw [same]
      exact .overpaidSubscription status (.inr stuck) soft
    · have same : (e.paid requestId.val).drive subscriptionFlow requestId.val
          SubscriptionState.onPublishDoneSent =
            (.ok (), (e.paid requestId.val).settled .subscription requestId.val next) := moved
      rw [same]
      exact .ended status overlap held step
  · have same : requireOverlapRefusal requestId.val
        ((e.paid requestId.val).overlappingNamespaceSubscriptions.lookup requestId.val)
          (.publishDone done) = .error error := overlapped
    rw [same]
    exact .overpaidSubscription status (.inl (AList.lookup_isSome.mp flagged)) soft

/-- Every other message on a request stream of the peer's. -/
theorem shows_answer (requestId : VarInt) (msg : ControlMessage)
    (going : ∀ done, msg ≠ .publishDone done) :
    Shows order e (.sendResponseOnStream requestId msg)
      (e.call order (.sendResponseOnStream requestId msg)) := by
  rw [call, sendResponseOnStream]
  cases allowed : e.mustBeRejected requestId.val msg with
  | some rejection => exact .refused rfl
  | none =>
    have status : e.requireEndingStatus requestId.val msg = (.ok (), e) := by
      cases msg
      case publishDone done => exact absurd rfl (going done)
      all_goals rfl
    dsimp only
    rw [status]
    change Shows order e _ ((if e.answersAnUpdate requestId.val msg = true then
      (e.answerAnUpdate requestId.val msg).andThen fun _ e => (.ok (), oweEnding requestId.val msg e)
      else e.answerRequest requestId.val msg).map _)
    by_cases answers : e.answersAnUpdate requestId.val msg = true
    · rw [if_pos answers]
      unfold answerAnUpdate
      by_cases unasked : (e.unansweredPeerUpdates.lookup requestId.val).getD 0 = 0
      · rw [if_pos unasked]
        exact .refused rfl
      rw [if_neg unasked]
      rcases requireOverlapRefusal_cases requestId.val
        (e.overlappingPrefixUpdates.lookup requestId.val) msg with
          overlap | ⟨-, error, soft, overlapped⟩
      · rw [overlap]
        exact .updateAnswered allowed answers unasked overlap
      · rw [overlapped]
        exact .refused soft
    · rw [if_neg answers]
      unfold answerRequest
      rcases requireOverlapRefusal_cases requestId.val
        (e.overlappingNamespaceSubscriptions.lookup requestId.val) msg with
          overlap | ⟨-, error, soft, overlapped⟩
      · rw [overlap]
        change Shows order e _ (((e.writeResponse requestId.val msg).andThen
          fun _ e => (.ok (), settleAnswer requestId.val msg e)).map _)
        have outcome := written e requestId.val msg going
        generalize e.writeResponse requestId.val msg = response at outcome ⊢
        cases outcome with
        | refused soft => exact .refused soft
        | notified notify =>
          subst notify
          exact shows_unchanged trivial
        | moved k writes held step =>
          exact .answered allowed (Bool.not_eq_true _ ▸ answers) overlap k writes held step
      · rw [overlapped]
        exact .refused soft

/-! ## Every call -/

/-- A move of the session's, which only `close` takes to `Closed`. -/
theorem shows_transition {result : Except SessionError SessionState} {uri : Option Bytes}
    {g : Unit → Reply} (calm : c.Quiet) (opens : ∀ s, result = .ok s → s = .closed → c = .close) :
    Shows order e c ((e.attempt (result.mapError .session) fun s =>
      (.ok (), { e with session := s, goawayUri := uri })).map g) := by
  refine shows_attempt (fun _ => rfl) fun s moved => ?_
  exact .quiet calm (fun closed => .inr (opens s moved closed)) (.inr rfl) (sameFills_refl e)

theorem onConnect_open {session s : SessionState} (moved : session.onConnect = .ok s) :
    s ≠ .closed := by
  cases session <;> cases moved
  exact SessionState.noConfusion

theorem onSetupComplete_open {session s : SessionState} (moved : session.onSetupComplete = .ok s) :
    s ≠ .closed := by
  cases session <;> cases moved
  exact SessionState.noConfusion

theorem onGoaway_open {session s : SessionState} (moved : session.onGoaway = .ok s) :
    s ≠ .closed := by
  cases session <;> cases moved
  exact SessionState.noConfusion

theorem shows_receiveSetup (options : List KeyValuePair) :
    Shows order e (.receiveSetup options) (e.call order (.receiveSetup options)) :=
  shows_attempt (fun _ => rfl) fun _ _ =>
    shows_transition trivial fun _ moved closed => absurd closed (onSetupComplete_open moved)

theorem shows_receiveGoaway (newSessionUri : Bytes) :
    Shows order e (.receiveGoaway newSessionUri) (e.call order (.receiveGoaway newSessionUri)) := by
  rw [call, receiveGoaway]
  split_ifs
  · exact shows_fail (by simp [EndpointError.Plain, EndpointError.sessionErrorCode])
  · exact shows_fail (by simp [EndpointError.Plain, EndpointError.sessionErrorCode])
  · exact shows_transition trivial fun _ moved closed => absurd closed (onGoaway_open moved)

/-- A fill's counts may move; who asked for it and in which order may not. -/
theorem sameFills_insert {id : Nat} {fill fill' : FillStreams}
    (held : e.fills.lookup id = some fill) (same : fill'.groupOrder = fill.groupOrder) :
    e.SameFills (e.fills.insert id fill') := by
  intro other
  by_cases here : other = id
  · subst here
    rw [AList.lookup_insert, held]
    exact congrArg some same
  · rw [AList.lookup_insert_ne here]

theorem shows_onFillStreamOpened (requestId : VarInt) :
    Shows order e (.onFillStreamOpened requestId)
      (e.call order (.onFillStreamOpened requestId)) := by
  rw [call, onFillStreamOpened]
  cases held : e.fills.lookup requestId.val with
  | none => exact .refused rfl
  | some fill => exact .quiet trivial .inl (.inr rfl) (sameFills_insert held rfl)

theorem shows_onFillStreamEnded (requestId : VarInt) :
    Shows order e (.onFillStreamEnded requestId) (e.call order (.onFillStreamEnded requestId)) := by
  rw [call, onFillStreamEnded]
  cases held : e.fills.lookup requestId.val with
  | none => exact shows_unchanged trivial
  | some fill => exact .quiet trivial .inl (.inr rfl) (sameFills_insert held rfl)

theorem shows_receivePublishStateNotify (requestId : VarInt) :
    Shows order e (.receivePublishStateNotify requestId)
      (e.call order (.receivePublishStateNotify requestId)) := by
  rw [call, receivePublishStateNotify]
  split_ifs
  · exact shows_unchanged trivial
  · exact shows_fail (by simp [EndpointError.Plain, EndpointError.sessionErrorCode])
  · exact shows_fail (by simp [EndpointError.Plain, EndpointError.sessionErrorCode])

theorem shows_receiveGoawayOnRequestStream (requestId : VarInt) (newSessionUri : Bytes) :
    Shows order e (.receiveGoawayOnRequestStream requestId newSessionUri)
      (e.call order (.receiveGoawayOnRequestStream requestId newSessionUri)) := by
  rw [call, receiveGoawayOnRequestStream]
  split_ifs
  · exact shows_fail (by simp [EndpointError.Plain, EndpointError.sessionErrorCode])
  · exact shows_fail (by simp [EndpointError.Plain, EndpointError.sessionErrorCode])
  · exact .quiet trivial .inl (.inr rfl) (sameFills_refl e)
  · exact .refused rfl

theorem shows_noteReceivedObject (trackAlias : Nat) (at' : ObjectLocation) (role : ObjectRole) :
    Shows order e (.noteReceivedObject trackAlias at' role)
      (e.call order (.noteReceivedObject trackAlias at' role)) := by
  rw [call, noteReceivedObject]
  cases e.trackObjects order trackAlias with
  | none => exact shows_unchanged trivial
  | some track =>
    exact shows_attempt (fun _ => rfl) fun _ _ => .quiet trivial .inl (.inr rfl) (sameFills_refl e)

theorem shows_requestsForMalformedTrack (trackAlias : Nat) (condition : MalformedTrackCondition) :
    Shows order e (.requestsForMalformedTrack trackAlias condition)
      (e.call order (.requestsForMalformedTrack trackAlias condition)) := by
  rw [call, requestsForMalformedTrack]
  cases e.trackForAlias order trackAlias with
  | none => exact shows_unchanged trivial
  | some track => exact .quiet trivial .inl (.inr rfl) (sameFills_refl e)

theorem shows_receiveMessage (msg : ControlMessage)
    (direct : (Call.receiveMessage msg).direct = .receiveMessage msg) :
    Shows order e (.receiveMessage msg) (e.call order (.receiveMessage msg)) := by
  cases msg
  case setup => cases direct
  case goAway => cases direct
  case requestUpdate =>
    exact shows_fail (by simp [EndpointError.Plain, EndpointError.sessionErrorCode])
  all_goals first | exact shows_unchanged trivial | exact .refused rfl

theorem shows_receiveResponseOnStream (requestId : VarInt) (msg : ControlMessage)
    (direct : (Call.receiveResponseOnStream requestId msg).direct =
      .receiveResponseOnStream requestId msg) :
    Shows order e (.receiveResponseOnStream requestId msg)
      (e.call order (.receiveResponseOnStream requestId msg)) := by
  rw [call, receiveResponseOnStream]
  split
  · exact shows_fail (by simp [EndpointError.Plain, EndpointError.sessionErrorCode])
  · cases msg <;> first | exact shows_unchanged trivial | exact .refused rfl | cases direct

theorem shows_receiveOnPeerRequestStream (requestId : VarInt) (msg : ControlMessage)
    (direct : (Call.receiveOnPeerRequestStream requestId msg).direct =
      .receiveOnPeerRequestStream requestId msg) :
    Shows order e (.receiveOnPeerRequestStream requestId msg)
      (e.call order (.receiveOnPeerRequestStream requestId msg)) := by
  cases msg
  case publishDone => exact shows_drive .peerEnded
  case requestUpdate => cases direct
  case goAway => cases direct
  case publishStateNotify => cases direct
  all_goals exact .refused rfl

theorem direct_direct (c : Call) : c.direct.direct = c.direct := by
  cases c with
  | receiveMessage msg => cases msg <;> rfl
  | receiveResponseOnStream requestId msg => cases msg <;> rfl
  | receiveOnPeerRequestStream requestId msg => cases msg <;> rfl
  | _ => rfl

theorem shows_direct (unbounded : e.Unbounded) (direct : c.direct = c) :
    Shows order e c (e.call order c) := by
  cases c with
  | connect => exact shows_transition trivial fun _ moved closed => absurd closed (onConnect_open moved)
  | close => exact shows_transition trivial fun _ _ _ => rfl
  | sendSetup options =>
    exact shows_attempt (fun _ => rfl) fun _ _ =>
      .quiet trivial .inl (.inl ⟨options, rfl⟩) (sameFills_refl e)
  | receiveSetup options => exact shows_receiveSetup options
  | receiveGoaway newSessionUri => exact shows_receiveGoaway newSessionUri
  | sendPublishDone requestId done => exact shows_sendPublishDone requestId done
  | cancelRequest requestId => exact shows_cancelRequest requestId
  | onFillStreamOpened requestId => exact shows_onFillStreamOpened requestId
  | onFillStreamEnded requestId => exact shows_onFillStreamEnded requestId
  | onFetchStreamFin requestId => exact shows_drive .fetchFin
  | onFetchStreamReset requestId => exact shows_drive .fetchReset
  | receiveSubscribeOk requestId trackAlias => exact shows_receiveSubscribeOk requestId trackAlias
  | receivePublishDone requestId => exact shows_drive .ended
  | receivePublishStateNotify requestId => exact shows_receivePublishStateNotify requestId
  | receiveFetchOk requestId => exact shows_drive .fetchOk
  | receiveRequestOk requestId properties => exact shows_receiveRequestOk requestId properties
  | receiveRequestError requestId error => exact shows_receiveRequestError requestId error
  | receiveRequestUpdate requestId named parameters =>
    exact shows_receiveRequestUpdate requestId named parameters
  | receiveGoawayOnRequestStream requestId newSessionUri =>
    exact shows_receiveGoawayOnRequestStream requestId newSessionUri
  | receiveMessage msg => exact shows_receiveMessage msg direct
  | receiveResponseOnStream requestId msg => exact shows_receiveResponseOnStream requestId msg direct
  | receiveOnPeerRequestStream requestId msg =>
    exact shows_receiveOnPeerRequestStream requestId msg direct
  | refuseNonRequest type =>
    exact shows_fail (by simp [EndpointError.Plain, EndpointError.sessionErrorCode])
  | receiveRequestOnStream msg => exact shows_receiveRequestOnStream unbounded msg
  | sendResponseOnStream requestId msg =>
    by_cases going : ∀ done, msg ≠ .publishDone done
    · exact shows_answer requestId msg going
    · simp only [not_forall, not_not] at going
      obtain ⟨done, rfl⟩ := going
      exact shows_ending requestId done
  | noteReceivedObject trackAlias at' role => exact shows_noteReceivedObject trackAlias at' role
  | requestsForMalformedTrack trackAlias condition =>
    exact shows_requestsForMalformedTrack trackAlias condition
  | noteThroughHandle locations => exact .quiet trivial .inl (.inr rfl) (sameFills_refl e)
  | receiveNamespace | receiveNamespaceDone | receivePublishSkipped => exact shows_unchanged trivial
  | _ => exact shows_opens rfl

/-- Every call has one of the effects of `Effect`. -/
theorem call_effect (order : IterationOrder) (e : Endpoint) (c : Call) (unbounded : e.Unbounded) :
    Effect order e c.direct (e.call order c).1 (e.call order c).2 := by
  by_cases stopped : e.Stops c
  · obtain ⟨error, plain, closed⟩ := call_stopped order stopped
    rw [closed]
    exact .violated plain
  · rw [call_direct order stopped]
    exact shows_direct unbounded (direct_direct c)

end Moqtap.Draft22.Client
