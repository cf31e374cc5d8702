import Moqtap.EndpointEffects
import Moqtap.Runs

/-! Runs of a draft-22 endpoint. `state_step` says what a call can do to the
machine of one request, `inbound_step` what it can do to what the endpoint
remembers of one; from them follow the facts every run keeps about Request IDs
(`Tidy`, `tidy_of_run`): this endpoint's requests and the peer's are told apart by
parity, a request is held by one machine, and a fresh Request ID by none. -/
namespace Moqtap.Draft22.Client
open ByteCursor Varint CodecTypes Parameters Messages Machines RangeFilters Runs
open Endpoint

/-- A call of a run, the endpoint it was made on, and what it answered. -/
structure Event where
  state : Endpoint
  call : Call
  reply : Except Failure Reply

def Endpoint.Fresh (e : Endpoint) : Prop := ∃ role, e = .new role

/-- A call among those allowed, whatever order the maps iterate in. -/
def Happens (allowed : Endpoint → Call → Prop) (e : Endpoint) (event : Event) (e' : Endpoint) :
    Prop :=
  event.state = e ∧ allowed e event.call ∧
    ∃ order, e.call order event.call = (event.reply, e')

/-- A run of an endpoint whose every call is among those allowed. -/
abbrev Allowed (allowed : Endpoint → Call → Prop) : List Event → Endpoint → Prop :=
  Run Endpoint.Fresh (Happens allowed)

/-- A state some run of calls leads to. -/
def Endpoint.Reachable (e : Endpoint) : Prop := ∃ history, Allowed (fun _ _ => True) history e

/-- The endpoint behind a list of calls. -/
def Endpoint.play (order : IterationOrder) (e : Endpoint) (calls : List Call) : Endpoint :=
  calls.foldl (fun e c => (e.call order c).2) e

/-- What happens over a list of calls, newest first. -/
def Endpoint.record (order : IterationOrder) : Endpoint → List Call → List Event
  | _, [] => []
  | e, c :: calls => record order (e.call order c).2 calls ++ [⟨e, c, (e.call order c).1⟩]

/-- Every call of a list is allowed where it is made. -/
def Permits (allowed : Endpoint → Call → Prop) (order : IterationOrder) : Endpoint → List Call → Prop
  | _, [] => True
  | e, c :: calls => allowed e c ∧ Permits allowed order (e.call order c).2 calls

theorem permits_always {allowed : Endpoint → Call → Prop} (order : IterationOrder) (e : Endpoint)
    {calls : List Call} (permitted : ∀ c ∈ calls, ∀ e, allowed e c) :
    Permits allowed order e calls := by
  induction calls generalizing e with
  | nil => trivial
  | cons c calls ih =>
    exact ⟨permitted c List.mem_cons_self e, ih _ fun c' later => permitted c' (List.mem_cons_of_mem _ later)⟩

theorem allowed_record {allowed : Endpoint → Call → Prop} (order : IterationOrder) {e : Endpoint}
    {history : List Event} (run : Allowed allowed history e) (calls : List Call)
    (permits : Permits allowed order e calls) :
    Allowed allowed (e.record order calls ++ history) (e.play order calls) := by
  induction calls generalizing e history with
  | nil => exact run
  | cons c calls ih =>
    have next : Happens allowed e ⟨e, c, (e.call order c).1⟩ (e.call order c).2 :=
      ⟨rfl, permits.1, order, rfl⟩
    rw [record, List.append_assoc]
    exact ih (run.step next) permits.2

theorem reachable_play (order : IterationOrder) {e : Endpoint} (reachable : e.Reachable)
    (calls : List Call) : (e.play order calls).Reachable := by
  obtain ⟨history, run⟩ := reachable
  exact ⟨_, allowed_record order run calls (permits_always order e fun _ _ _ => trivial)⟩

theorem reachable_new (role : Role) : (Endpoint.new role).Reachable := ⟨[], .start ⟨role, rfl⟩⟩

/-! ## Routing -/

/-- The request an answer is taken for, on a stream this endpoint opened. -/
def Call.answersOwn : Call → Option Nat
  | .receiveSubscribeOk requestId _ | .receivePublishDone requestId | .receiveFetchOk requestId
  | .receiveRequestOk requestId _ | .receiveRequestError requestId _ => some requestId.val
  | _ => none

/-- An answer is not taken on a stream the peer opened: what `connection.rs` decides by
a stream's `RequestOrigin` before it dispatches. -/
def Endpoint.Routed (e : Endpoint) (c : Call) : Prop :=
  ∀ id, c.direct.answersOwn = some id → e.inboundRequests.lookup id = none

theorem routed_of_unanswered {calls : List Call} (none : ∀ c ∈ calls, c.direct.answersOwn = none) :
    ∀ c ∈ calls, ∀ e : Endpoint, e.Routed c := by
  intro c called e id answered
  rw [none c called] at answered
  cases answered

/-! ## Machines -/

/-- Where request `id` of kind `k` stands. -/
def Endpoint.state (e : Endpoint) (k : Kind) (id : Nat) : Option k.State :=
  (k.flow.table e).lookup id

@[simp] theorem settled_state (e : Endpoint) (k : Kind) (id : Nat) (next : k.State) :
    (e.settled k id next).state k id = some next := by
  cases k <;> exact AList.lookup_insert _

theorem settled_state_other (e : Endpoint) {k k' : Kind} {id id' : Nat} (next : k.State)
    (other : k' ≠ k ∨ id' ≠ id) : (e.settled k id next).state k' id' = e.state k' id' := by
  by_cases same : k' = k
  · subst same
    have elsewhere : id' ≠ id := other.resolve_left (· rfl)
    cases k' <;> exact AList.lookup_insert_ne elsewhere
  · cases k <;> cases k' <;> first | rfl | exact absurd rfl same

/-! What is recorded beside the machines leaves them alone: each of the records
touches the fields named here and no other. -/

section beside
variable (e : Endpoint) (k : Kind) (id id' : Nat) (msg : ControlMessage)
  (parameters : List KeyValuePair)

theorem charged_eq : e.charged id' =
    { e with outstandingPeerUpdates := (e.charged id').outstandingPeerUpdates } := by
  unfold charged
  split <;> rfl

theorem restoreUpdateCredit_eq : e.restoreUpdateCredit id' =
    { e with outstandingPeerUpdates := (e.restoreUpdateCredit id').outstandingPeerUpdates } := by
  unfold restoreUpdateCredit
  split <;> rfl

theorem settlePrefixUpdate_eq (accepted : Bool) : settlePrefixUpdate id' accepted e = { e with
    updatedNamespacePrefixes := (settlePrefixUpdate id' accepted e).updatedNamespacePrefixes
    inboundRequests := (settlePrefixUpdate id' accepted e).inboundRequests } := by
  unfold settlePrefixUpdate
  split <;> rfl

theorem settleUpdate_eq (unanswered : Nat) : settleUpdate id' unanswered msg e = { e with
    unansweredPeerUpdates := (settleUpdate id' unanswered msg e).unansweredPeerUpdates
    outstandingPeerUpdates := (settleUpdate id' unanswered msg e).outstandingPeerUpdates
    peerFilterRejections := (settleUpdate id' unanswered msg e).peerFilterRejections
    updatedNamespacePrefixes := (settleUpdate id' unanswered msg e).updatedNamespacePrefixes
    inboundRequests := (settleUpdate id' unanswered msg e).inboundRequests
    overlappingPrefixUpdates := (settleUpdate id' unanswered msg e).overlappingPrefixUpdates } := by
  unfold settleUpdate
  dsimp only
  split_ifs <;> rw [settlePrefixUpdate_eq, restoreUpdateCredit_eq]

theorem oweEnding_eq : oweEnding id' msg e =
    { e with owedUpdateFailures := (oweEnding id' msg e).owedUpdateFailures } := by
  unfold oweEnding
  split <;> rfl

theorem settleAnswer_eq : settleAnswer id' msg e = { e with
    outstandingPeerUpdates := (settleAnswer id' msg e).outstandingPeerUpdates
    answeredPeerRequests := (settleAnswer id' msg e).answeredPeerRequests
    peerFilterRejections := (settleAnswer id' msg e).peerFilterRejections } := by
  unfold settleAnswer
  dsimp only
  split_ifs <;> first | rfl | rw [restoreUpdateCredit_eq]

theorem notePrefixUpdate_eq : notePrefixUpdate id' parameters e = { e with
    overlappingPrefixUpdates := (notePrefixUpdate id' parameters e).overlappingPrefixUpdates
    updatedNamespacePrefixes := (notePrefixUpdate id' parameters e).updatedNamespacePrefixes } := by
  unfold notePrefixUpdate weighPrefix
  split
  · rfl
  · split <;> rfl

theorem recordUpdate_eq : recordUpdate id' parameters e = { e with
    unansweredPeerUpdates := (recordUpdate id' parameters e).unansweredPeerUpdates
    fills := (recordUpdate id' parameters e).fills
    peerFilterRejections := (recordUpdate id' parameters e).peerFilterRejections
    peerRequestFilters := (recordUpdate id' parameters e).peerRequestFilters
    overlappingPrefixUpdates := (recordUpdate id' parameters e).overlappingPrefixUpdates
    updatedNamespacePrefixes := (recordUpdate id' parameters e).updatedNamespacePrefixes } := by
  unfold recordUpdate noteFilterUpdate
  rw [notePrefixUpdate_eq, noteFillRequested_eq]

@[simp] theorem failed_state : e.failed.state k id = e.state k id := by cases k <;> rfl
@[simp] theorem paid_state : (e.paid id').state k id = e.state k id := by cases k <;> rfl

@[simp] theorem charged_state : (e.charged id').state k id = e.state k id := by
  rw [charged_eq]
  cases k <;> rfl

@[simp] theorem settleUpdate_state (unanswered : Nat) :
    (settleUpdate id' unanswered msg e).state k id = e.state k id := by
  rw [settleUpdate_eq]
  cases k <;> rfl

@[simp] theorem oweEnding_state : (oweEnding id' msg e).state k id = e.state k id := by
  rw [oweEnding_eq]
  cases k <;> rfl

@[simp] theorem settleAnswer_state : (settleAnswer id' msg e).state k id = e.state k id := by
  rw [settleAnswer_eq]
  cases k <;> rfl

@[simp] theorem recordUpdate_state :
    (recordUpdate id' parameters e).state k id = e.state k id := by
  rw [recordUpdate_eq]
  cases k <;> rfl

end beside

variable {order : IterationOrder} {e e' : Endpoint} {c : Call} {result : Except Failure Reply}

theorem restated_state (e : Endpoint) (id' : Nat) {subscriptions : Table SubscriptionState}
    (same : ∀ id, subscriptions.lookup id = e.subscriptions.lookup id) (k : Kind) (id : Nat) :
    Endpoint.state { e.charged id' with subscriptions := subscriptions } k id = e.state k id := by
  rw [← charged_state e k id id']
  cases k
  case subscription => exact (same id).trans (by rw [← charged_subscriptions e id']; rfl)
  all_goals rfl

/-! ## Request IDs -/

/-- The kind of a request of the peer's. -/
def Endpoint.kindOf (e : Endpoint) (id : Nat) : Option Kind :=
  (e.inboundRequests.lookup id).bind Kind.ofRequest

/-- A request is held by one machine, its number tells whose it is, and a number this
endpoint has not reached yet is nobody's. -/
structure Endpoint.Tidy (e : Endpoint) : Prop where
  unbounded : e.Unbounded
  parity : e.requestIds.nextId % 2 = e.requestIds.role.first
  entered : ∀ id, (e.inboundRequests.lookup id).isSome → id ∈ e.peerRequestIds ∧
    e.requestIds.validatePeerId id = .ok () ∧ ∃ k, e.kindOf id = some k ∧ (e.state k id).isSome
  held : ∀ k id, (e.state k id).isSome → e.kindOf id = some k ∨
    id < e.requestIds.nextId ∧ id % 2 = e.requestIds.role.first ∧ e.inboundRequests.lookup id = none
  alone : ∀ k k' id, (e.state k id).isSome → (e.state k' id).isSome → k = k'

theorem peer_parity {ids : RequestIdAllocator} {id : Nat} (valid : ids.validatePeerId id = .ok ()) :
    id % 2 ≠ ids.role.first := by
  unfold RequestIdAllocator.validatePeerId at valid
  intro ours
  cases role : ids.role with
  | client =>
    rw [role] at valid ours
    change id % 2 = 0 at ours
    rw [if_pos (by simp [ours])] at valid
    cases valid
  | server =>
    rw [role] at valid ours
    change id % 2 = 1 at ours
    rw [if_pos (by simp [ours])] at valid
    cases valid

theorem tidy_fresh (fresh : e.Fresh) : e.Tidy := by
  obtain ⟨role, rfl⟩ := fresh
  refine ⟨rfl, by cases role <;> rfl, ?_, ?_, ?_⟩
  · intro id entered
    cases entered
  · intro k id held
    cases k <;> cases held
  · intro k k' id held
    cases k <;> cases held

/-- Nothing about Request IDs moved. -/
theorem Endpoint.Tidy.congr (tidy : e.Tidy) (ids : e'.requestIds = e.requestIds)
    (peers : e.peerRequestIds ⊆ e'.peerRequestIds)
    (held : ∀ k id, (e'.state k id).isSome = (e.state k id).isSome)
    (entered : ∀ id, (e'.inboundRequests.lookup id).isSome = (e.inboundRequests.lookup id).isSome)
    (kinds : ∀ id, e'.kindOf id = e.kindOf id) : e'.Tidy where
  unbounded := by rw [Unbounded, ids]; exact tidy.unbounded
  parity := by rw [ids]; exact tidy.parity
  entered id there := by
    rw [entered] at there
    obtain ⟨known, valid, k, kind, machine⟩ := tidy.entered id there
    exact ⟨peers known, by rw [ids]; exact valid, k, (kinds id).trans kind, by rw [held]; exact machine⟩
  held k id there := by
    rw [held] at there
    rw [kinds, ids]
    refine (tidy.held k id there).imp_right fun ⟨below, ours, absent⟩ => ⟨below, ours, ?_⟩
    have := entered id
    rw [absent] at this
    exact Option.isSome_eq_false_iff.mp this |> Option.isNone_iff_eq_none.mp
  alone k k' id there there' := by
    rw [held] at there there'
    exact tidy.alone k k' id there there'

theorem settled_held {k : Kind} {id : Nat} {next : k.State} (held : (e.state k id).isSome)
    (k' : Kind) (id' : Nat) :
    ((e.settled k id next).state k' id').isSome = (e.state k' id').isSome := by
  by_cases here : k' = k ∧ id' = id
  · obtain ⟨rfl, rfl⟩ := here
    rw [settled_state, held]
    rfl
  · rw [settled_state_other e next (not_and_or.mp here)]

theorem ofRequest_withPrefix (namespacePrefix : TrackNamespace) (msg : ControlMessage) :
    Kind.ofRequest (withPrefix namespacePrefix msg) = Kind.ofRequest msg := by
  cases msg <;> rfl

/-- What can change what is remembered of one request of the peer's. -/
inductive Remembers (e : Endpoint) : Call → Except Failure Reply → Nat → Option ControlMessage →
    ControlMessage → Prop
  | entered (names : requestIdOf msg = some requestId)
      (peers : e.requestIds.validatePeerId requestId.val = .ok ())
      (fresh : requestId.val ∉ e.peerRequestIds) :
      Remembers e (.receiveRequestOnStream msg) (.ok (.opened requestId)) requestId.val none msg
  | reprefixed (answers : e.answersAnUpdate requestId.val msg = true)
      (accepted : isRequestOk msg = true)
      (asked : e.updatedNamespacePrefixes.lookup requestId.val = some namespacePrefix) :
      Remembers e (.sendResponseOnStream requestId msg) (.ok reply) requestId.val (some held)
        (withPrefix namespacePrefix held)

theorem recordUpdate_inboundRequests (e : Endpoint) (id : Nat) (parameters : List KeyValuePair) :
    (recordUpdate id parameters e).inboundRequests = e.inboundRequests := by
  rw [recordUpdate_eq]

theorem charged_inboundRequests (e : Endpoint) (id : Nat) :
    (e.charged id).inboundRequests = e.inboundRequests := by
  rw [charged_eq]

/-- What the answer to an update does to the inbound requests: the accepted prefix moves. -/
theorem settleUpdate_inboundRequests (e : Endpoint) (id unanswered : Nat) (msg : ControlMessage) :
    (settleUpdate id unanswered msg e).inboundRequests =
      (settlePrefixUpdate id (isRequestOk msg) e).inboundRequests := by
  have restored (e : Endpoint) (id : Nat) :
      (settlePrefixUpdate id (isRequestOk msg) (restoreUpdateCredit e id)).inboundRequests =
        (settlePrefixUpdate id (isRequestOk msg) e).inboundRequests := by
    unfold restoreUpdateCredit
    split
    · rfl
    · unfold settlePrefixUpdate
      dsimp only
      split <;> rfl
  have base (e : Endpoint) (table : Table Nat) :
      (settlePrefixUpdate id (isRequestOk msg)
        { e with unansweredPeerUpdates := table }).inboundRequests =
        (settlePrefixUpdate id (isRequestOk msg) e).inboundRequests := by
    unfold settlePrefixUpdate
    dsimp only
    split <;> rfl
  have rejections (e : Endpoint) (table : Table FilterRejection) :
      (settlePrefixUpdate id (isRequestOk msg)
        { e with peerFilterRejections := table }).inboundRequests =
        (settlePrefixUpdate id (isRequestOk msg) e).inboundRequests := by
    unfold settlePrefixUpdate
    dsimp only
    split <;> rfl
  unfold settleUpdate
  dsimp only
  split_ifs <;> simp only [rejections, restored, base]

theorem inbound_step (tidy : e.Tidy) (effect : Effect order e c result e') (id : Nat) :
    e'.inboundRequests.lookup id = e.inboundRequests.lookup id ∨
      ∃ msg, e'.inboundRequests.lookup id = some msg ∧
        Remembers e c result id (e.inboundRequests.lookup id) msg := by
  cases effect with
  | entered k kind active names peers fresh unconflicted kept rejectionsKept =>
    rename_i msg requestId _ _
    by_cases here : id = requestId.val
    · subst here
      have absent : e.inboundRequests.lookup requestId.val = none := by
        by_contra known
        exact fresh (tidy.entered _ (Option.isSome_iff_ne_none.mpr known)).1
      rw [absent]
      exact .inr ⟨_, AList.lookup_insert _, .entered names peers fresh⟩
    · exact .inl (AList.lookup_insert_ne here)
  | updateAnswered allowed answers unanswered overlap =>
    rename_i msg requestId _
    have shape : (oweEnding requestId.val msg (settleUpdate requestId.val
        ((e.unansweredPeerUpdates.lookup requestId.val).getD 0) msg e)).inboundRequests =
          (settlePrefixUpdate requestId.val (isRequestOk msg) e).inboundRequests := by
      rw [oweEnding_eq]
      exact settleUpdate_inboundRequests ..
    rw [shape]
    unfold settlePrefixUpdate
    cases asked : e.updatedNamespacePrefixes.lookup requestId.val with
    | none => exact .inl rfl
    | some namespacePrefix =>
      cases accepted : isRequestOk msg with
      | false => exact .inl rfl
      | true =>
        dsimp only
        rw [if_pos rfl]
        cases held : e.inboundRequests.lookup requestId.val with
        | none => exact .inl rfl
        | some message =>
          by_cases here : id = requestId.val
          · subst here
            rw [held]
            exact .inr ⟨_, AList.lookup_insert _, .reprefixed answers accepted asked⟩
          · exact .inl (AList.lookup_insert_ne here)
  | updated =>
    left
    rw [recordUpdate_inboundRequests]
    change ((e.charged _).inboundRequests).lookup id = _
    rw [charged_inboundRequests]
  | answered allowed answers overlap k writes held step =>
    left
    rw [settleAnswer_eq]
    exact congrArg (AList.lookup id) (settled_inboundRequests ..)
  | overdrawn => exact .inl (by rw [charged_inboundRequests])
  | unexpected => exact .inl (congrArg (AList.lookup id) (charged_inboundRequests e _))
  | opened | moved | accepted | ended | published =>
    exact .inl (congrArg (AList.lookup id) (settled_inboundRequests ..))
  | _ => exact .inl rfl

/-- A call that takes no request keeps every kind. -/
theorem kindOf_step (tidy : e.Tidy) (effect : Effect order e c result e')
    (taken : ∀ msg, c ≠ .receiveRequestOnStream msg) (id : Nat) :
    e'.kindOf id = e.kindOf id ∧
      (e'.inboundRequests.lookup id).isSome = (e.inboundRequests.lookup id).isSome := by
  unfold Endpoint.kindOf
  rcases inbound_step tidy effect id with same | ⟨msg, changed, cause⟩
  · rw [same]
    exact ⟨rfl, rfl⟩
  · generalize e.inboundRequests.lookup id = before at cause ⊢
    cases cause with
    | entered => exact absurd rfl (taken _)
    | reprefixed =>
      rw [changed]
      exact ⟨ofRequest_withPrefix _ _, rfl⟩

theorem tidy_settled (tidy : e.Tidy) {k : Kind} {id : Nat} (next : k.State)
    (held : (e.state k id).isSome) : (e.settled k id next).Tidy :=
  tidy.congr (settled_requestIds ..) (settled_peerRequestIds e k id next).symm.subset
    (settled_held held) (fun _ => by rw [settled_inboundRequests])
    fun _ => by rw [kindOf, settled_inboundRequests, kindOf]

theorem opened_state (e : Endpoint) (k : Kind) (id : Nat) (k' : Kind) (id' : Nat) :
    ((e.settled k id k.opening).state k' id').isSome ↔
      (e.state k' id').isSome ∨ k' = k ∧ id' = id := by
  by_cases here : k' = k ∧ id' = id
  · obtain ⟨rfl, rfl⟩ := here
    simp
  · rw [settled_state_other e _ (not_and_or.mp here)]
    simp [here]

/-- A request this endpoint has not made under a number it has not reached. -/
theorem Endpoint.Tidy.unreached (tidy : e.Tidy) (k : Kind) :
    (e.state k e.requestIds.nextId).isSome = false := by
  by_contra some
  rw [Bool.not_eq_false] at some
  rcases tidy.held k _ some with kind | ⟨below, -⟩
  · have entered : (e.inboundRequests.lookup e.requestIds.nextId).isSome := by
      unfold Endpoint.kindOf at kind
      obtain ⟨msg, found, -⟩ := Option.bind_eq_some_iff.mp kind
      rw [found]
      rfl
    exact peer_parity (tidy.entered _ entered).2.1 tidy.parity
  · exact lt_irrefl _ below

/-- A Request ID of the peer's that no request of its has had is held by no machine. -/
theorem Endpoint.Tidy.unmet (tidy : e.Tidy) {id : Nat} (fresh : id ∉ e.peerRequestIds)
    (valid : e.requestIds.validatePeerId id = .ok ()) (k : Kind) :
    (e.state k id).isSome = false := by
  by_contra some
  rw [Bool.not_eq_false] at some
  rcases tidy.held k id some with kind | ⟨-, ours, -⟩
  · have entered : (e.inboundRequests.lookup id).isSome := by
      unfold Endpoint.kindOf at kind
      obtain ⟨msg, found, -⟩ := Option.bind_eq_some_iff.mp kind
      rw [found]
      rfl
    exact fresh (tidy.entered id entered).1
  · exact peer_parity valid ours

theorem tidy_opened (tidy : e.Tidy) (k : Kind) (e' : Endpoint)
    (ids : e'.requestIds = { e.requestIds with nextId := 2 + e.requestIds.nextId })
    (peers : e'.peerRequestIds = e.peerRequestIds)
    (entered : e'.inboundRequests = e.inboundRequests)
    (states : ∀ k' id', (e'.state k' id').isSome ↔
      (e.state k' id').isSome ∨ k' = k ∧ id' = e.requestIds.nextId) : e'.Tidy where
  unbounded := by rw [Unbounded, ids]; exact tidy.unbounded
  parity := by
    rw [ids]
    exact (Nat.add_mod_left 2 _).trans tidy.parity
  entered id there := by
    rw [entered] at there
    obtain ⟨known, valid, k', kind, machine⟩ := tidy.entered id there
    refine ⟨by rw [peers]; exact known, by rw [ids]; exact valid, k', ?_, (states k' id).mpr (.inl machine)⟩
    rw [kindOf, entered]
    exact kind
  held k' id there := by
    rw [kindOf, entered, ids]
    rcases (states k' id).mp there with old | ⟨rfl, rfl⟩
    · refine (tidy.held k' id old).imp_right fun ⟨below, rest⟩ => ⟨?_, rest⟩
      exact below.trans_le (Nat.le_add_left ..)
    · refine .inr ⟨Nat.lt_add_of_pos_left Nat.two_pos, tidy.parity, ?_⟩
      by_contra known
      exact peer_parity (tidy.entered _ (Option.isSome_iff_ne_none.mpr known)).2.1 tidy.parity
  alone k' k'' id there there' := by
    rcases (states k' id).mp there with old | ⟨new, here⟩ <;>
      rcases (states k'' id).mp there' with old' | ⟨new', here'⟩
    · exact tidy.alone k' k'' id old old'
    · rw [here', tidy.unreached] at old
      cases old
    · rw [here, tidy.unreached] at old'
      cases old'
    · exact new.trans new'.symm

theorem tidy_entered (tidy : e.Tidy) {k : Kind} {id : Nat} {msg : ControlMessage} (e' : Endpoint)
    (kind : Kind.ofRequest msg = some k) (valid : e.requestIds.validatePeerId id = .ok ())
    (fresh : id ∉ e.peerRequestIds) (ids : e'.requestIds = e.requestIds)
    (peers : e'.peerRequestIds = insert id e.peerRequestIds)
    (entered : e'.inboundRequests = e.inboundRequests.insert id msg)
    (states : ∀ k' id', (e'.state k' id').isSome ↔
      (e.state k' id').isSome ∨ k' = k ∧ id' = id) : e'.Tidy where
  unbounded := by rw [Unbounded, ids]; exact tidy.unbounded
  parity := by rw [ids]; exact tidy.parity
  entered id' there := by
    rw [peers, ids, kindOf, entered]
    by_cases here : id' = id
    · subst here
      exact ⟨Finset.mem_insert_self .., valid, k, by rw [AList.lookup_insert]; exact kind,
        (states k id').mpr (.inr ⟨rfl, rfl⟩)⟩
    · rw [entered, AList.lookup_insert_ne here] at there
      obtain ⟨known, valid, k', kind, machine⟩ := tidy.entered id' there
      exact ⟨Finset.mem_insert_of_mem known, valid, k', by rw [AList.lookup_insert_ne here]; exact kind,
        (states k' id').mpr (.inl machine)⟩
  held k' id' there := by
    rw [kindOf, entered, ids]
    by_cases here : id' = id
    · subst here
      rcases (states k' id').mp there with old | ⟨rfl, -⟩
      · rw [tidy.unmet fresh valid] at old
        cases old
      · exact .inl (by rw [AList.lookup_insert]; exact kind)
    · rw [AList.lookup_insert_ne here]
      exact tidy.held k' id' (((states k' id').mp there).resolve_right fun same => here same.2)
  alone k' k'' id' there there' := by
    rcases (states k' id').mp there with old | ⟨new, here⟩ <;>
      rcases (states k'' id').mp there' with old' | ⟨new', here'⟩
    · exact tidy.alone k' k'' id' old old'
    · rw [here', tidy.unmet fresh valid] at old
      cases old
    · rw [here, tidy.unmet fresh valid] at old'
      cases old'
    · exact new.trans new'.symm

theorem tidy_charged (tidy : e.Tidy) (id : Nat) : (e.charged id).Tidy := by
  refine tidy.congr ?_ ?_ (fun _ _ => by rw [charged_state]) ?_ ?_
  · rw [charged_eq]
  · rw [charged_eq]
  · intro id
    rw [charged_inboundRequests]
  · intro id
    rw [kindOf, charged_inboundRequests, kindOf]

/-- Every call keeps Request IDs tidy. -/
theorem tidy_step (tidy : e.Tidy) (effect : Effect order e c result e') : e'.Tidy := by
  have whole := effect
  cases effect with
  | panicked => exact tidy
  | refused => exact tidy
  | violated => exact tidy.congr rfl subset_rfl (fun _ _ => by rw [failed_state]) (fun _ => rfl) fun _ => rfl
  | crowded => exact tidy.congr rfl subset_rfl (fun _ _ => by rw [failed_state]) (fun _ => rfl) fun _ => rfl
  | misnamed => exact tidy.congr rfl subset_rfl (fun _ _ => by rw [failed_state]) (fun _ => rfl) fun _ => rfl
  | misoffered =>
    exact tidy.congr rfl (Finset.subset_insert ..) (fun k _ => by cases k <;> rfl) (fun _ => rfl)
      fun _ => rfl
  | quiet =>
    exact tidy.congr rfl subset_rfl (fun k _ => by cases k <;> rfl) (fun _ => rfl) fun _ => rfl
  | opened k kind active fresh binds ids kept =>
    refine tidy_opened tidy k _ ids (settled_peerRequestIds ..) (settled_inboundRequests ..) ?_
    intro k' id'
    rw [← fresh, ← opened_state e k _ k' id']
    cases k' <;> rfl
  | entered k kind active names peers fresh unconflicted kept rejectionsKept =>
    refine tidy_entered tidy _ kind peers fresh (settled_requestIds ..) rfl rfl ?_
    intro k' id'
    rw [← opened_state e k _ k' id']
    cases k' <;> rfl
  | moved k drives held step => exact tidy_settled tidy _ (by rw [Endpoint.state, held]; rfl)
  | accepted held unconflicted =>
    have machine : (e.state .subscription _).isSome := (congrArg Option.isSome held).trans rfl
    exact (tidy_settled tidy (k := .subscription) SubscriptionState.active machine).congr rfl
      subset_rfl (fun k _ => by cases k <;> rfl) (fun _ => rfl) fun _ => rfl
  | overdrawn => exact tidy_charged tidy _
  | unexpected =>
    exact (tidy_charged tidy _).congr rfl subset_rfl (fun _ _ => by rw [failed_state]) (fun _ => rfl)
      fun _ => rfl
  | updated credit one same =>
    refine tidy.congr ?_ ?_ ?_ ?_ ?_
    · rw [recordUpdate_eq, charged_eq]
    · rw [recordUpdate_eq, charged_eq]
    · intro k id
      rw [recordUpdate_state, restated_state e _ same]
    · intro id
      rw [recordUpdate_inboundRequests]
      exact congrArg (fun table => (AList.lookup id table).isSome) (charged_inboundRequests e _)
    · intro id
      rw [kindOf, recordUpdate_inboundRequests]
      exact congrArg (fun table => (AList.lookup id table).bind Kind.ofRequest)
        (charged_inboundRequests e _)
  | updateAnswered allowed answers unanswered overlap =>
    refine tidy.congr ?_ ?_ (fun _ _ => by simp) (fun id => (kindOf_step tidy whole ?_ id).2)
      fun id => (kindOf_step tidy whole ?_ id).1
    · rw [oweEnding_eq, settleUpdate_eq]
    · rw [oweEnding_eq, settleUpdate_eq]
    · exact fun _ => Call.noConfusion
    · exact fun _ => Call.noConfusion
  | answered allowed answers overlap k' writes held step =>
    rename_i next
    have machine : (e.state k' _).isSome := (congrArg Option.isSome held).trans rfl
    refine (tidy_settled tidy next machine).congr ?_ ?_ ?_ ?_ ?_
    · rw [settleAnswer_eq]
    · rw [settleAnswer_eq]
    · intro k id
      rw [settleAnswer_state]
    · intro id
      rw [settleAnswer_eq]
    · intro id
      rw [kindOf, settleAnswer_eq]
      rfl
  | ended status overlap held step =>
    have machine : (e.state .subscription _).isSome := (congrArg Option.isSome held).trans rfl
    exact (tidy_settled tidy (k := .subscription) _ machine).congr rfl subset_rfl
      (fun _ _ => by rw [paid_state]) (fun _ => rfl) fun _ => rfl
  | published status held =>
    have machine : (e.state .publish _).isSome := (congrArg Option.isSome held).trans rfl
    exact (tidy_settled tidy (k := .publish) _ machine).congr rfl subset_rfl
      (fun _ _ => by rw [paid_state]) (fun _ => rfl) fun _ => rfl
  | overpaidPublication => exact tidy.congr rfl subset_rfl (fun _ _ => by rw [paid_state]) (fun _ => rfl) fun _ => rfl
  | overpaidSubscription => exact tidy.congr rfl subset_rfl (fun _ _ => by rw [paid_state]) (fun _ => rfl) fun _ => rfl

/-! ## Moves -/

/-- What can move the machine of one request. -/
inductive Moves (e : Endpoint) : Call → Except Failure Reply → (k : Kind) → Nat →
    Option k.State → k.State → Prop
  | opened {c : Call} {id : VarInt} (kind : c.opens = some k) (fresh : id.val = e.requestIds.nextId) :
      Moves e c (.ok (.request id msg)) k id.val none k.opening
  | entered (kind : Kind.ofRequest msg = some k) (names : requestIdOf msg = some requestId)
      (peers : e.requestIds.validatePeerId requestId.val = .ok ())
      (fresh : requestId.val ∉ e.peerRequestIds) :
      Moves e (.receiveRequestOnStream msg) (.ok (.opened requestId)) k requestId.val none k.opening
  | driven {c : Call} {id : Nat} {k : Kind} {edge : k.State → Option k.State} {state next : k.State}
      (drives : Drives c k id edge) (step : edge state = some next) :
      Moves e c (.ok reply) k id (some state) next
  | accepted : Moves e (.receiveSubscribeOk requestId trackAlias) (.ok reply) .subscription
      requestId.val (some SubscriptionState.subscribing) SubscriptionState.active
  | answered {k : Kind} {edge : k.State → Option k.State} {state next : k.State}
      (answers : e.answersAnUpdate requestId.val msg = false)
      (overlap : requireOverlapRefusal requestId.val
        (e.overlappingNamespaceSubscriptions.lookup requestId.val) msg = .ok ())
      (writes : Writes msg k edge) (step : edge state = some next) :
      Moves e (.sendResponseOnStream requestId msg) (.ok reply) k requestId.val (some state) next
  | ended (status : requestId.val ∈ e.owedUpdateFailures → done.statusCode.val = updateFailed)
      {state : SubscriptionState} (step : SubscriptionState.ended state = some next) :
      Moves e (.sendResponseOnStream requestId (.publishDone done)) (.ok reply) .subscription
        requestId.val (some state) next
  | published (status : requestId.val ∈ e.owedUpdateFailures → done.statusCode.val = updateFailed) :
      Moves e (.sendPublishDone requestId done) (.ok reply) .publish requestId.val
        (some PublishState.active) PublishState.done

/-- Settling one request, whatever is recorded beside it, moves that one. -/
theorem settled_step {k' : Kind} {id' : Nat} {next : k'.State}
    (same : ∀ k id, e'.state k id = (e.settled k' id' next).state k id)
    (moves : Moves e c result k' id' (e.state k' id') next) (k : Kind) (id : Nat) :
    e'.state k id = e.state k id ∨
      ∃ next, e'.state k id = some next ∧ Moves e c result k id (e.state k id) next := by
  by_cases here : k = k' ∧ id = id'
  · obtain ⟨rfl, rfl⟩ := here
    exact .inr ⟨next, (same k id).trans (settled_state e k id next), moves⟩
  · exact .inl ((same k id).trans (settled_state_other e next (not_and_or.mp here)))

/-- A call moves the machine of at most one request, by an event of it. -/
theorem state_step (tidy : e.Tidy) (effect : Effect order e c result e') (k : Kind) (id : Nat) :
    e'.state k id = e.state k id ∨
      ∃ next, e'.state k id = some next ∧ Moves e c result k id (e.state k id) next := by
  cases effect with
  | panicked => exact .inl rfl
  | refused => exact .inl rfl
  | violated => exact .inl (failed_state e k id)
  | crowded => exact .inl (failed_state e k id)
  | misnamed => exact .inl (failed_state e k id)
  | misoffered => left; cases k <;> rfl
  | quiet => left; cases k <;> rfl
  | opened k' kind active fresh binds ids kept =>
    refine settled_step (fun k id => by cases k <;> rfl) ?_ k id
    rw [fresh, Option.isSome_eq_false_iff.mp (tidy.unreached k') |> Option.isNone_iff_eq_none.mp,
      ← fresh]
    exact .opened kind fresh
  | entered k' kind active names peers fresh unconflicted kept rejectionsKept =>
    refine settled_step (fun k id => by cases k <;> rfl) ?_ k id
    rw [Option.isSome_eq_false_iff.mp (tidy.unmet fresh peers k') |> Option.isNone_iff_eq_none.mp]
    exact .entered kind names peers fresh
  | moved k' drives held step =>
    refine settled_step (fun _ _ => rfl) ?_ k id
    rw [Endpoint.state, held]
    exact .driven drives step
  | accepted held unconflicted =>
    refine settled_step (fun k id => by cases k <;> rfl) ?_ k id
    rw [Endpoint.state]
    change Moves e _ _ Kind.subscription _ (e.subscriptions.lookup _) _
    rw [held]
    exact .accepted
  | overdrawn => exact .inl (charged_state e k id _)
  | unexpected => exact .inl (by simp)
  | updated credit one same =>
    exact .inl ((recordUpdate_state ..).trans (restated_state e _ same k id))
  | updateAnswered => exact .inl (by simp)
  | answered allowed answers overlap k' writes held step =>
    refine settled_step (fun k id => settleAnswer_state _ k id _ _) ?_ k id
    rw [Endpoint.state, held]
    exact .answered answers overlap writes step
  | ended status overlap held step =>
    refine settled_step (fun k id => paid_state _ k id _) ?_ k id
    rw [Endpoint.state]
    change Moves e _ _ Kind.subscription _ (e.subscriptions.lookup _) _
    rw [held]
    exact .ended status step
  | published status held =>
    refine settled_step (fun k id => paid_state _ k id _) ?_ k id
    rw [Endpoint.state]
    change Moves e _ _ Kind.publish _ (e.publishes.lookup _) _
    rw [held]
    exact .published status
  | overpaidPublication => exact .inl (paid_state e k id _)
  | overpaidSubscription => exact .inl (paid_state e k id _)

theorem moves_from_nothing {k : Kind} {id : Nat} {next : k.State} (moves : Moves e c result k id none next) :
    next = k.opening := by
  cases moves <;> rfl

/-- Once a machine holds a request, which kind it is and who holds it are settled. -/
theorem held_step (tidy : e.Tidy) (effect : Effect order e c result e') {k : Kind} {id : Nat}
    (held : (e.state k id).isSome) :
    e'.kindOf id = e.kindOf id ∧ ∀ k', (e'.state k' id).isSome = (e.state k' id).isSome := by
  have met : e.requestIds.validatePeerId id = .ok () → id ∈ e.peerRequestIds := by
    intro peers
    by_contra fresh
    rw [tidy.unmet fresh peers k] at held
    cases held
  constructor
  · unfold Endpoint.kindOf
    rcases inbound_step tidy effect id with same | ⟨msg, changed, cause⟩
    · rw [same]
    · rw [changed]
      generalize e.inboundRequests.lookup id = before at cause ⊢
      cases cause with
      | entered names peers fresh => exact absurd (met peers) fresh
      | reprefixed => exact ofRequest_withPrefix _ _
  · intro k'
    rcases state_step tidy effect k' id with same | ⟨next, changed, cause⟩
    · rw [same]
    · rw [changed]
      generalize e.state k' id = before at cause ⊢
      cases cause with
      | opened kind fresh =>
        rw [fresh, tidy.unreached] at held
        cases held
      | entered kind names peers fresh => exact absurd (met peers) fresh
      | _ => rfl

/-- What a call of a run did. -/
theorem happens_effect {allowed : Endpoint → Call → Prop} {event : Event} (tidy : e.Tidy)
    (happens : Happens allowed e event e') :
    ∃ order, Effect order e event.call.direct event.reply e' := by
  obtain ⟨-, -, order, made⟩ := happens
  have effect := call_effect order e event.call tidy.unbounded
  rw [made] at effect
  exact ⟨order, effect⟩

theorem tidy_of_run {allowed : Endpoint → Call → Prop} {history : List Event}
    (run : Allowed allowed history e) : e.Tidy := by
  refine run.always (fun _ fresh => tidy_fresh fresh) ?_
  intro e event e' tidy happens
  obtain ⟨order, effect⟩ := happens_effect tidy happens
  exact tidy_step tidy effect

end Moqtap.Draft22.Client
