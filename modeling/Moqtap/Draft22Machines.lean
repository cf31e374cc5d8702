import Moqtap.Varint

/-! The lifecycle machines of a draft-22 endpoint (`draft22/subscription.rs`,
`fetch.rs`, `publish.rs`, `namespace.rs`, `track_status.rs`), its session machine
and its Request ID allocator (`draft22/session/`). Every event is a table of the
edges it may take, under the name the refusal carries. -/
namespace Moqtap.Draft22.Machines
open Varint

/-- `InvalidTransition { from, event }`. -/
structure InvalidTransition (σ : Type) where
  «from» : σ
  event : String
  deriving DecidableEq, Repr

/-- A machine's event: the state behind the edge, where the event has one. -/
def fire {σ : Type} (edge : σ → Option σ) (event : String) (state : σ) :
    Except (InvalidTransition σ) σ :=
  match edge state with
  | some next => .ok next
  | none => .error ⟨state, event⟩

theorem fire_ok {σ : Type} {edge : σ → Option σ} {event : String} {state next : σ} :
    fire edge event state = .ok next ↔ edge state = some next := by
  unfold fire
  cases edge state with
  | none => simp
  | some behind => simp

/-! ## Subscriptions -/

inductive SubscriptionState where
  | idle
  | subscribing
  | active
  | done
  deriving DecidableEq, Repr

namespace SubscriptionState

def sent : SubscriptionState → Option SubscriptionState
  | .idle => some .subscribing
  | _ => none

def answered : SubscriptionState → Option SubscriptionState
  | .subscribing => some .active
  | _ => none

def refused : SubscriptionState → Option SubscriptionState
  | .subscribing => some .done
  | _ => none

def cancelled : SubscriptionState → Option SubscriptionState
  | .subscribing | .active | .done => some .done
  | .idle => none

def updated : SubscriptionState → Option SubscriptionState
  | .subscribing => some .subscribing
  | .active => some .active
  | _ => none

/-- A second ending is taken: `Done` stays `Done`. -/
def ended : SubscriptionState → Option SubscriptionState
  | .active | .done => some .done
  | _ => none

def onSubscribeSent := fire sent "on_subscribe_sent"
def onSubscribeOk := fire answered "on_subscribe_ok"
def onSubscribeError := fire refused "on_subscribe_error"
def onRequestCancelled := fire cancelled "on_request_cancelled"
def onSubscribeUpdate := fire updated "on_subscribe_update"
def onPublishDone := fire ended "on_publish_done"

def onSubscribeReceived := fire sent "on_subscribe_received"
def onSubscribeOkSent := fire answered "on_subscribe_ok_sent"
def onSubscribeErrorSent := fire refused "on_subscribe_error_sent"
/-- Written against `on_publish_done`, whose tolerance of `Done` it takes over. -/
def onPublishDoneSent := fire ended "on_publish_done_sent"

end SubscriptionState

/-! ## Fetches -/

inductive FetchState where
  | idle
  | pending
  | receiving
  | unanswered
  | done
  deriving DecidableEq, Repr

namespace FetchState

def sent : FetchState → Option FetchState
  | .idle => some .pending
  | _ => none

def answered : FetchState → Option FetchState
  | .pending => some .receiving
  | .unanswered => some .done
  | _ => none

def refused : FetchState → Option FetchState
  | .pending | .unanswered => some .done
  | _ => none

def cancelled : FetchState → Option FetchState
  | .pending | .receiving | .unanswered | .done => some .done
  | .idle => none

def streamEnded : FetchState → Option FetchState
  | .receiving => some .done
  | .pending => some .unanswered
  | .done => some .done
  | _ => none

def onFetchSent := fire sent "on_fetch_sent"
def onFetchOk := fire answered "on_fetch_ok"
def onFetchError := fire refused "on_fetch_error"
def onRequestCancelled := fire cancelled "on_request_cancelled"
def onStreamFin := fire streamEnded "on_stream_fin"
def onStreamReset := fire streamEnded "on_stream_reset"

def onFetchReceived := fire sent "on_fetch_received"
def onFetchOkSent := fire answered "on_fetch_ok_sent"
def onFetchErrorSent := fire refused "on_fetch_error_sent"

end FetchState

/-! ## Publications -/

inductive PublishState where
  | idle
  | publishing
  | active
  | done
  deriving DecidableEq, Repr

namespace PublishState

def sent : PublishState → Option PublishState
  | .idle => some .publishing
  | _ => none

def answered : PublishState → Option PublishState
  | .publishing => some .active
  | _ => none

def refused : PublishState → Option PublishState
  | .publishing => some .done
  | _ => none

/-- Unlike a subscription's ending, refused once the publication is done. -/
def ended : PublishState → Option PublishState
  | .active => some .done
  | _ => none

def cancelled : PublishState → Option PublishState
  | .publishing | .active | .done => some .done
  | .idle => none

def onPublishSent := fire sent "on_publish_sent"
def onPublishOk := fire answered "on_publish_ok"
def onPublishError := fire refused "on_publish_error"
def onPublishDoneSent := fire ended "on_publish_done_sent"
def onRequestCancelled := fire cancelled "on_request_cancelled"

def onPublishReceived := fire sent "on_publish_received"
def onPublishOkSent := fire answered "on_publish_ok_sent"
def onPublishErrorSent := fire refused "on_publish_error_sent"
def onPublishDoneReceived := fire ended "on_publish_done_received"

end PublishState

/-! ## Namespaces -/

/-- `SubscribeNamespaceState` and `PublishNamespaceState`: one table of edges,
named by each flow's own events. -/
inductive NamespaceState where
  | idle
  | pending
  | active
  | done
  deriving DecidableEq, Repr

namespace NamespaceState

def sent : NamespaceState → Option NamespaceState
  | .idle => some .pending
  | _ => none

def answered : NamespaceState → Option NamespaceState
  | .pending => some .active
  | _ => none

def refused : NamespaceState → Option NamespaceState
  | .pending => some .done
  | _ => none

def cancelled : NamespaceState → Option NamespaceState
  | .pending | .active | .done => some .done
  | .idle => none

/-- `require_active`. -/
def reported : NamespaceState → Option NamespaceState
  | .active => some .active
  | _ => none

def onSubscribeNamespaceSent := fire sent "on_subscribe_namespace_sent"
def onSubscribeNamespaceOk := fire answered "on_subscribe_namespace_ok"
def onSubscribeNamespaceError := fire refused "on_subscribe_namespace_error"
def onPublishNamespaceSent := fire sent "on_publish_namespace_sent"
def onPublishNamespaceOk := fire answered "on_publish_namespace_ok"
def onPublishNamespaceError := fire refused "on_publish_namespace_error"
def onRequestCancelled := fire cancelled "on_request_cancelled"

def onSubscribeNamespaceReceived := fire sent "on_subscribe_namespace_received"
def onSubscribeNamespaceOkSent := fire answered "on_subscribe_namespace_ok_sent"
def onSubscribeNamespaceErrorSent := fire refused "on_subscribe_namespace_error_sent"
def onPublishNamespaceReceived := fire sent "on_publish_namespace_received"
def onPublishNamespaceOkSent := fire answered "on_publish_namespace_ok_sent"
def onPublishNamespaceErrorSent := fire refused "on_publish_namespace_error_sent"
def onNamespaceSent := fire reported "on_namespace_sent"
def onNamespaceDoneSent := fire reported "on_namespace_done_sent"
def onPublishSkippedSent := fire reported "on_publish_skipped_sent"

end NamespaceState

abbrev SubscribeNamespaceState := NamespaceState
abbrev PublishNamespaceState := NamespaceState

/-! ## Track statuses -/

inductive TrackStatusState where
  | idle
  | pending
  | done
  deriving DecidableEq, Repr

namespace TrackStatusState

def sent : TrackStatusState → Option TrackStatusState
  | .idle => some .pending
  | _ => none

def answered : TrackStatusState → Option TrackStatusState
  | .pending => some .done
  | _ => none

def cancelled : TrackStatusState → Option TrackStatusState
  | .pending | .done => some .done
  | .idle => none

def onTrackStatusSent := fire sent "on_track_status_sent"
def onTrackStatusOk := fire answered "on_track_status_ok"
def onTrackStatusError := fire answered "on_track_status_error"
def onRequestCancelled := fire cancelled "on_request_cancelled"

def onTrackStatusReceived := fire sent "on_track_status_received"
def onTrackStatusOkSent := fire answered "on_track_status_ok_sent"
def onTrackStatusErrorSent := fire answered "on_track_status_error_sent"

end TrackStatusState

/-! ## The session -/

inductive SessionState where
  | connecting
  | setupExchange
  | active
  | draining
  | closed
  deriving DecidableEq, Repr

/-- `SessionError::InvalidTransition { from, to }`. -/
structure SessionError where
  «from» : SessionState
  «to» : SessionState
  deriving DecidableEq, Repr

namespace SessionState

def onConnect : SessionState → Except SessionError SessionState
  | .connecting => .ok .setupExchange
  | state => .error ⟨state, .setupExchange⟩

def onSetupComplete : SessionState → Except SessionError SessionState
  | .setupExchange => .ok .active
  | state => .error ⟨state, .active⟩

def onGoaway : SessionState → Except SessionError SessionState
  | .active => .ok .draining
  | state => .error ⟨state, .draining⟩

def onClose : SessionState → Except SessionError SessionState
  | .setupExchange | .active | .draining => .ok .closed
  | state => .error ⟨state, .closed⟩

/-- The states a session can be closed from. -/
def Open (state : SessionState) : Prop :=
  state = .setupExchange ∨ state = .active ∨ state = .draining

instance (state : SessionState) : Decidable state.Open := inferInstanceAs (Decidable (_ ∨ _))

/-- `fail_session`'s move: the result of `on_close` is dropped. -/
def failed : SessionState → SessionState
  | .setupExchange | .active | .draining => .closed
  | state => state

theorem failed_of_open {state : SessionState} (live : state.Open) : state.failed = .closed := by
  rcases live with rfl | rfl | rfl <;> rfl

end SessionState

/-! ## Request IDs -/

inductive Role where
  | client
  | server
  deriving DecidableEq, Repr

/-- The other end's role. -/
def Role.peer : Role → Role
  | .client => .server
  | .server => .client

/-- The first Request ID the role allocates; its parity is the role's. -/
def Role.first : Role → Nat
  | .client => 0
  | .server => 1

inductive RequestIdError where
  | exceedsMax (id max : Nat)
  | wrongParity (id : Nat) (peer : Role)
  | decreased (was got : Nat)
  | blocked
  deriving DecidableEq, Repr

structure RequestIdAllocator where
  role : Role
  nextId : Nat
  maxId : Nat
  deriving DecidableEq, Repr

namespace RequestIdAllocator

/-- The ceiling is `u64::MAX`: draft-22 has no MAX_REQUEST_ID. -/
def new (role : Role) : RequestIdAllocator := ⟨role, role.first, 2 ^ 64 - 1⟩

/-- `none` is the panic of `VarInt::from_u64(next_id).unwrap()`. -/
def allocate (ids : RequestIdAllocator) :
    Option (Except RequestIdError (VarInt × RequestIdAllocator)) :=
  if ids.maxId = 0 ∨ ids.maxId < ids.nextId then some (.error .blocked)
  else
    match VarInt.fromU64 ids.nextId with
    | .ok id => some (.ok (id, { ids with nextId := 2 + ids.nextId }))
    | .error _ => none

def validatePeerId (ids : RequestIdAllocator) (id : Nat) : Except RequestIdError Unit :=
  let expectedEven := match ids.role with
    | .client => false
    | .server => true
  if (id % 2 == 0) != expectedEven then .error (.wrongParity id ids.role.peer)
  else if ids.maxId < id then .error (.exceedsMax id ids.maxId)
  else .ok ()

end RequestIdAllocator

end Moqtap.Draft22.Machines
