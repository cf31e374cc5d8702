import Moqtap.EndpointAliases

/-! Whose a Request ID is, over a whole run. What the peer has spent, what it has had
registered and what this endpoint has allocated are read off the history alone; the
endpoint's records agree with them in every state (`Accounted`, `accounted_of_run`).
From that and the parity that keeps the two ends apart come when a request of the peer's
is registered, and that a Request ID is one request's for good (`requests_identified`). -/
namespace Moqtap.Draft22.Client
open ByteCursor Varint CodecTypes Parameters Messages Machines RangeFilters Runs
open Endpoint

variable {order : IterationOrder} {e e' : Endpoint} {c : Call} {result : Except Failure Reply}
  {requestId : VarInt} {id : Nat} {history : List Event} {event : Event} {msg : ControlMessage}

/-! ## What a run has said -/

/-- A request of the peer's that uses up its Request ID: it arrives on an Active session
and its number is one of the peer's. -/
def Event.Spends (event : Event) (id : Nat) : Prop :=
  ∃ msg requestId, event.call = .receiveRequestOnStream msg ∧ requestIdOf msg = some requestId ∧
    requestId.val = id ∧ event.state.session = .active ∧ id % 2 = event.state.role.peer.first

/-- A request of the peer's that is taken. -/
def Event.Registers (event : Event) (id : Nat) (msg : ControlMessage) : Prop :=
  event.call = .receiveRequestOnStream msg ∧
    ∃ requestId, event.reply = .ok (.opened requestId) ∧ requestId.val = id

/-- A request of this endpoint's that goes out. -/
def Event.Allocates (event : Event) (id : Nat) : Prop :=
  ∃ k requestId msg, event.call.opens = some k ∧ event.reply = .ok (.request requestId msg) ∧
    requestId.val = id

def Spent (history : List Event) (id : Nat) : Prop := ∃ event ∈ history, event.Spends id

def Registered (history : List Event) (id : Nat) (msg : ControlMessage) : Prop :=
  ∃ event ∈ history, event.Registers id msg

def Allocated (history : List Event) (id : Nat) : Prop := ∃ event ∈ history, event.Allocates id

/-- An accepted publication of either end has the alias for another track. -/
def Endpoint.Conflicts (e : Endpoint) (asked trackAlias : Nat) (track : Track) : Prop :=
  ∃ id binding, e.trackBindings.lookup id = some binding ∧ id ≠ asked ∧
    binding.trackAlias = some trackAlias ∧ binding.track ≠ track ∧
    e.bindingIsEstablished id binding.kind = true

/-- The request as it arrived, or with the prefix an accepted update moved it to. -/
inductive Restates (msg : ControlMessage) : ControlMessage → Prop
  | arrived : Restates msg msg
  | moved {held : ControlMessage} (before : Restates msg held) (namespacePrefix : TrackNamespace) :
      Restates msg (withPrefix namespacePrefix held)

theorem Restates.kind {held : ControlMessage} (restates : Restates msg held) :
    Kind.ofRequest held = Kind.ofRequest msg := by
  induction restates with
  | arrived => rfl
  | moved before namespacePrefix ih => exact (ofRequest_withPrefix _ _).trans ih

/-! ## Whose numbers are whose -/

/-- `validate_peer_id` asks for the peer's parity and, of a number that fits, nothing else. -/
theorem validatePeerId_iff (unbounded : e.Unbounded) (requestId : VarInt) :
    e.requestIds.validatePeerId requestId.val = .ok () ↔
      requestId.val % 2 = e.requestIds.role.peer.first := by
  constructor
  · intro valid
    have others := peer_parity valid
    cases same : e.requestIds.role
    all_goals
      rw [same] at others
      simp only [Role.first, Role.peer] at others ⊢
      omega
  · intro peers
    rcases validatePeerId_cases unbounded requestId with valid | ⟨peer, parity⟩
    · exact valid
    · unfold RequestIdAllocator.validatePeerId at parity
      cases same : e.requestIds.role
      all_goals
        rw [same] at parity peers
        simp only [Role.first, Role.peer] at peers
        simp [peers] at parity
        split at parity <;> cases parity

/-- No call moves an endpoint to the other end. -/
theorem role_step (effect : Effect order e c result e') :
    e'.role = e.role ∧ e'.requestIds.role = e.requestIds.role := by
  cases effect with
  | opened k kind active fresh binds ids kept =>
    subst ids
    exact ⟨settled_role .., rfl⟩
  | moved => exact ⟨settled_role .., by rw [settled_requestIds]⟩
  | accepted => exact ⟨settled_role .., by rw [settled_requestIds]⟩
  | entered | ended | published =>
    exact ⟨settled_role .., congrArg RequestIdAllocator.role (settled_requestIds ..)⟩
  | overdrawn => constructor <;> rw [charged_eq]
  | unexpected => constructor <;> rw [failed, charged_eq]
  | updated => constructor <;> rw [recordUpdate_eq, charged_eq]
  | updateAnswered => constructor <;> rw [oweEnding_eq, settleUpdate_eq]
  | answered =>
    rw [settleAnswer_eq]
    exact ⟨settled_role .., congrArg RequestIdAllocator.role (settled_requestIds ..)⟩
  | _ => exact ⟨rfl, rfl⟩

/-! ## What a request of the peer's spends -/

/-- A request that gets past its checks goes on to the machine of its kind, its
Request ID spent. -/
theorem request_passed (order : IterationOrder) (names : requestIdOf msg = some requestId)
    (active : e.session = .active) (peers : e.requestIds.validatePeerId requestId.val = .ok ())
    (fresh : requestId.val ∉ e.peerRequestIds) :
    e.call order (.receiveRequestOnStream msg) =
      (((e.spent requestId.val).enterRequest order requestId.val msg).andThen
        fun _ e => (.ok requestId, recordRequest requestId.val msg e)).map .opened := by
  have passed : e.requireActiveOrErr = .ok () := by rw [requireActiveOrErr, active]
  rw [call, receiveRequestOnStream, names]
  dsimp only
  rw [passed]
  dsimp only [attempt]
  rw [peers]
  dsimp only
  rw [if_neg fresh]
  rfl

/-- A request that does not spends nothing and is not registered. -/
theorem request_stopped (order : IterationOrder) (msg : ControlMessage) (unbounded : e.Unbounded)
    (stopped : ∀ requestId, requestIdOf msg = some requestId → ¬ (e.session = .active ∧
      e.requestIds.validatePeerId requestId.val = .ok () ∧ requestId.val ∉ e.peerRequestIds)) :
    (∃ failure, (e.call order (.receiveRequestOnStream msg)).1 = .error failure) ∧
      (e.call order (.receiveRequestOnStream msg)).2.peerRequestIds = e.peerRequestIds := by
  rw [call, receiveRequestOnStream]
  cases names : requestIdOf msg with
  | none => exact ⟨⟨_, rfl⟩, rfl⟩
  | some requestId =>
    dsimp only
    rcases requireActiveOrErr_cases e with ⟨passed, active⟩ | ⟨error, refused, -⟩
    · rw [passed]
      dsimp only [attempt]
      rcases validatePeerId_cases unbounded requestId with peers | ⟨peer, parity⟩
      · have met : requestId.val ∈ e.peerRequestIds := by
          by_contra fresh
          exact stopped requestId names ⟨active, peers, fresh⟩
        rw [peers]
        dsimp only
        rw [if_pos met]
        exact ⟨⟨_, rfl⟩, rfl⟩
      · rw [parity]
        exact ⟨⟨_, rfl⟩, rfl⟩
    · rw [refused]
      exact ⟨⟨_, rfl⟩, rfl⟩

/-- The kind of the machine, and what stands in its way. -/
theorem request_entered (order : IterationOrder) (names : requestIdOf msg = some requestId)
    (active : e.session = .active) (peers : e.requestIds.validatePeerId requestId.val = .ok ())
    (fresh : requestId.val ∉ e.peerRequestIds) :
    (e.call order (.receiveRequestOnStream msg)).2.peerRequestIds =
        insert requestId.val e.peerRequestIds ∧
      ((e.call order (.receiveRequestOnStream msg)).1 = .ok (.opened requestId) ↔
        e.offerConflict order requestId.val msg = none) := by
  obtain ⟨k, kind⟩ := kind_of_names names
  rw [request_passed order names active peers fresh]
  have same : (e.spent requestId.val).offerConflict order requestId.val msg =
      e.offerConflict order requestId.val msg := by cases msg <;> rfl
  rcases enterRequest_eq kind order (e.spent requestId.val) requestId.val with
    ⟨error, conflict, failed⟩ | ⟨unconflicted, fills, -, entered⟩
  · rw [failed, ← same, conflict]
    exact ⟨rfl, fun opened => (by cases opened), fun none => (by cases none)⟩
  · rw [entered, ← same, unconflicted, spent_entering]
    refine ⟨?_, fun _ => rfl, fun _ => rfl⟩
    exact congrArg (insert requestId.val) (settled_peerRequestIds e k requestId.val k.opening)

/-- Nothing but a request of the peer's spends a Request ID of the peer's. -/
theorem spent_kept (effect : Effect order e c result e')
    (taken : ∀ msg, c ≠ .receiveRequestOnStream msg) : e'.peerRequestIds = e.peerRequestIds := by
  cases effect with
  | misoffered => exact absurd rfl (taken _)
  | entered => exact absurd rfl (taken _)
  | opened | moved | accepted | ended | published => exact settled_peerRequestIds ..
  | overdrawn => rw [charged_eq]
  | unexpected => rw [failed, charged_eq]
  | updated => rw [recordUpdate_eq, charged_eq]
  | updateAnswered => rw [oweEnding_eq, settleUpdate_eq]
  | answered =>
    rw [settleAnswer_eq]
    exact settled_peerRequestIds ..
  | _ => rfl

/-! ## The records and the history -/

/-- What the endpoint holds of Request IDs is what the run has said of them. -/
structure Accounted (history : List Event) (e : Endpoint) : Prop where
  role : e.requestIds.role = e.role
  spent : ∀ id, id ∈ e.peerRequestIds ↔ Spent history id
  peers : ∀ id, Spent history id → id % 2 = e.role.peer.first
  own : ∀ id, Allocated history id → id % 2 = e.role.first
  registered : ∀ id msg, Registered history id msg →
    ∃ held, e.inboundRequests.lookup id = some held ∧ Restates msg held
  stored : ∀ id held, e.inboundRequests.lookup id = some held →
    ∃ msg, Registered history id msg ∧ Restates msg held

theorem accounted_fresh (fresh : e.Fresh) : Accounted [] e := by
  obtain ⟨role, rfl⟩ := fresh
  refine ⟨rfl, ?_, ?_, ?_, ?_, ?_⟩
  · intro id
    constructor
    · intro spent
      cases spent
    · rintro ⟨event, known, -⟩
      cases known
  · rintro id ⟨event, known, -⟩
    cases known
  · rintro id ⟨event, known, -⟩
    cases known
  · rintro id msg ⟨event, known, -⟩
    cases known
  · intro id held stored
    cases stored

theorem spent_step (tidy : e.Tidy) (accounted : Accounted history e) (same : event.state = e)
    (made : e.call order event.call = (event.reply, e'))
    (effect : Effect order e event.call.direct event.reply e') (id : Nat) :
    id ∈ e'.peerRequestIds ↔ Spent (event :: history) id := by
  have split : Spent (event :: history) id ↔ event.Spends id ∨ id ∈ e.peerRequestIds := by
    rw [accounted.spent]
    simp [Spent]
  rw [split]
  by_cases taken : ∃ msg, event.call = .receiveRequestOnStream msg
  · obtain ⟨msg, called⟩ := taken
    rw [called] at made
    have behind := congrArg Prod.snd made
    dsimp only at behind
    rw [← behind]
    by_cases stands : ∃ requestId, requestIdOf msg = some requestId ∧ e.session = .active ∧
        e.requestIds.validatePeerId requestId.val = .ok ()
    · obtain ⟨requestId, names, active, peers⟩ := stands
      have parity := (validatePeerId_iff tidy.unbounded requestId).mp peers
      rw [accounted.role] at parity
      have spends : event.Spends id ↔ id = requestId.val := by
        constructor
        · rintro ⟨msg', requestId', called', names', here, -⟩
          cases called.symm.trans called'
          cases names.symm.trans names'
          exact here.symm
        · rintro rfl
          exact ⟨msg, requestId, called, names, rfl, same ▸ active, same ▸ parity⟩
      rw [spends]
      by_cases fresh : requestId.val ∈ e.peerRequestIds
      · have stopped := request_stopped order msg tidy.unbounded fun requestId' names' passes => by
          cases names.symm.trans names'
          exact passes.2.2 fresh
        rw [stopped.2]
        refine ⟨.inr, fun known => known.elim (fun here => here ▸ fresh) fun known => known⟩
      · rw [(request_entered order names active peers fresh).1]
        exact Finset.mem_insert
    · have stopped := request_stopped order msg tidy.unbounded fun requestId' names' passes =>
        stands ⟨requestId', names', passes.1, passes.2.1⟩
      rw [stopped.2]
      refine ⟨.inr, fun known => known.elim ?_ fun known => known⟩
      rintro ⟨msg', requestId', called', names', rfl, active, parity⟩
      cases called.symm.trans called'
      rw [same, ← accounted.role] at parity
      exact absurd ⟨requestId', names', same ▸ active,
        (validatePeerId_iff tidy.unbounded requestId').mpr parity⟩ stands
  · have others : ∀ msg, event.call ≠ .receiveRequestOnStream msg :=
      fun msg called => taken ⟨msg, called⟩
    rw [spent_kept effect fun msg direct => others msg (direct_request direct)]
    refine ⟨.inr, fun known => known.elim ?_ fun known => known⟩
    rintro ⟨msg, requestId, called, -⟩
    exact absurd called (others msg)

/-- No dispatcher makes a request. -/
theorem opens_direct (c : Call) : c.direct.opens = c.opens := by
  cases c with
  | receiveMessage msg => cases msg <;> rfl
  | receiveResponseOnStream id msg => cases msg <;> rfl
  | receiveOnPeerRequestStream id msg => cases msg <;> rfl
  | _ => rfl

/-- A request of this endpoint's goes out under the next Request ID, held by a machine
of its kind. -/
theorem request_opened {k : Kind} (opens : c.opens = some k)
    (effect : Effect order e c (.ok (.request requestId msg)) e') :
    requestId.val = e.requestIds.nextId ∧ (e'.state k requestId.val).isSome = true := by
  cases effect with
  | opened k' kind active fresh =>
    cases opens.symm.trans kind
    refine ⟨fresh, ?_⟩
    cases k <;> exact (congrArg Option.isSome (AList.lookup_insert _)).trans rfl
  | quiet calm => cases c <;> first | exact calm.elim | cases opens
  | moved k' drives => cases drives <;> cases opens
  | _ => cases opens

theorem own_step (tidy : e.Tidy) (accounted : Accounted history e)
    (effect : Effect order e event.call.direct event.reply e')
    (allocated : Allocated (event :: history) id) : id % 2 = e.role.first := by
  obtain ⟨event', known, allocates⟩ := allocated
  rcases List.mem_cons.mp known with rfl | earlier
  · obtain ⟨k, requestId, msg, opens, replied, rfl⟩ := allocates
    rw [replied] at effect
    rw [(request_opened ((opens_direct _).trans opens) effect).1, tidy.parity, accounted.role]
  · exact accounted.own id ⟨event', earlier, allocates⟩

theorem registered_step (tidy : e.Tidy) (accounted : Accounted history e)
    (effect : Effect order e event.call.direct event.reply e')
    (registered : Registered (event :: history) id msg) :
    ∃ held, e'.inboundRequests.lookup id = some held ∧ Restates msg held := by
  obtain ⟨event', known, registers⟩ := registered
  rcases List.mem_cons.mp known with rfl | earlier
  · obtain ⟨called, requestId, replied, rfl⟩ := registers
    rw [called, replied] at effect
    change Effect order e (.receiveRequestOnStream msg) _ e' at effect
    cases effect with
    | quiet calm => exact calm.elim
    | entered => exact ⟨msg, AList.lookup_insert _, .arrived⟩
    | moved k drives => cases drives
  · obtain ⟨held, found, restates⟩ := accounted.registered id msg ⟨event', earlier, registers⟩
    rcases inbound_step tidy effect id with same | ⟨next, changed, cause⟩
    · exact ⟨held, same.trans found, restates⟩
    · rw [found] at cause
      generalize event.call.direct = made at cause
      generalize event.reply = reply at cause
      cases cause with
      | reprefixed => exact ⟨_, changed, restates.moved _⟩

theorem stored_step (tidy : e.Tidy) (accounted : Accounted history e)
    (effect : Effect order e event.call.direct event.reply e') {held : ControlMessage}
    (stored : e'.inboundRequests.lookup id = some held) :
    ∃ msg, Registered (event :: history) id msg ∧ Restates msg held := by
  have earlier {held : ControlMessage} (before : e.inboundRequests.lookup id = some held) :
      ∃ msg, Registered (event :: history) id msg ∧ Restates msg held := by
    obtain ⟨msg, ⟨event', known, registers⟩, restates⟩ := accounted.stored id held before
    exact ⟨msg, ⟨event', List.mem_cons_of_mem _ known, registers⟩, restates⟩
  rcases inbound_step tidy effect id with same | ⟨next, changed, cause⟩
  · exact earlier (same.symm.trans stored)
  · cases changed.symm.trans stored
    generalize before : e.inboundRequests.lookup id = was at cause
    generalize called : event.call.direct = made at cause
    generalize replied : event.reply = reply at cause
    cases cause with
    | entered names peers fresh =>
      exact ⟨_, ⟨event, List.mem_cons_self, direct_request called, _, replied, rfl⟩, .arrived⟩
    | reprefixed =>
      obtain ⟨msg, registered, restates⟩ := earlier before
      exact ⟨msg, registered, restates.moved _⟩

theorem accounted_step (tidy : e.Tidy) (accounted : Accounted history e) (same : event.state = e)
    (made : e.call order event.call = (event.reply, e'))
    (effect : Effect order e event.call.direct event.reply e') : Accounted (event :: history) e' where
  role := by rw [(role_step effect).1, (role_step effect).2, accounted.role]
  spent := spent_step tidy accounted same made effect
  peers id spent := by
    rw [(role_step effect).1]
    obtain ⟨event', known, spends⟩ := spent
    rcases List.mem_cons.mp known with rfl | earlier
    · obtain ⟨-, -, -, -, -, -, parity⟩ := spends
      exact same ▸ parity
    · exact accounted.peers id ⟨event', earlier, spends⟩
  own _ allocated := by
    rw [(role_step effect).1]
    exact own_step tidy accounted effect allocated
  registered _ _ := registered_step tidy accounted effect
  stored _ _ := stored_step tidy accounted effect

theorem accounted_of_run {allowed : Endpoint → Call → Prop} (run : Allowed allowed history e) :
    Accounted history e := by
  induction run with
  | start fresh => exact accounted_fresh fresh
  | @step _ e e' event run happens ih =>
    have tidy := tidy_of_run run
    obtain ⟨same, -, order, made⟩ := happens
    have effect := call_effect order e event.call tidy.unbounded
    rw [made] at effect
    exact accounted_step tidy ih same made effect

/-! ## One request a Request ID -/

/-- What a machine holds in one endpoint it holds in the other. -/
def Endpoint.Keeps (e e' : Endpoint) : Prop :=
  e'.Tidy ∧ ∀ k id, (e.state k id).isSome = true → (e'.state k id).isSome = true

/-- A request held by a machine of one kind is held by that one from then on. -/
theorem held_for_good {allowed : Endpoint → Call → Prop} {later : List Event} (tidy : e.Tidy)
    (run : Run (· = e) (Happens allowed) later e') : e.Keeps e' := by
  refine run.always ?_ ?_
  · rintro _ rfl
    exact ⟨tidy, fun _ _ held => held⟩
  · intro s event s' ih happens
    obtain ⟨order, effect⟩ := happens_effect ih.1 happens
    exact ⟨tidy_step ih.1 effect, fun k id held => held_after ih.1 effect (ih.2 k id held)⟩

/-- A PUBLISH of this endpoint's that is refused leaves the endpoint as it was. -/
theorem publish_refused {track : Track} {trackAlias : VarInt}
    {parameters properties : List KeyValuePair} {failure : Failure}
    (refused : (e.publish order track trackAlias parameters properties).1 = .error failure) :
    (e.publish order track trackAlias parameters properties).2 = e := by
  revert refused
  rw [publish]
  cases e.requireActiveOrErr with
  | error error => exact fun _ => rfl
  | ok _ =>
    dsimp only [attempt]
    cases e.aliasHeldElsewhere order trackAlias.val track with
    | some refusal => exact fun _ => rfl
    | none =>
      dsimp only
      rw [openRequest, allocate]
      cases e.requestIds.allocate with
      | none => exact fun _ => rfl
      | some result =>
        cases result with
        | error error => exact fun _ => rfl
        | ok taken => exact fun refused => by cases refused

/-- A request of the peer's is registered exactly when the session is Active and its
Request ID is a fresh one of the peer's, and no alias is in its way. -/
theorem registered_iff (tidy : e.Tidy) (accounted : Accounted history e) (order : IterationOrder)
    (names : requestIdOf msg = some requestId) :
    (e.call order (.receiveRequestOnStream msg)).1 = .ok (.opened requestId) ↔
      e.session = .active ∧ requestId.val % 2 = e.role.peer.first ∧
      ¬ Spent history requestId.val ∧ ∀ m, msg = .publish m →
        ¬ e.Conflicts requestId.val m.trackAlias.val ⟨m.trackNamespace, m.trackName⟩ := by
  rw [← accounted.spent, ← accounted.role, ← validatePeerId_iff tidy.unbounded]
  by_cases passes : e.session = .active ∧ e.requestIds.validatePeerId requestId.val = .ok () ∧
      requestId.val ∉ e.peerRequestIds
  · obtain ⟨active, peers, fresh⟩ := passes
    rw [(request_entered order names active peers fresh).2]
    simp only [active, peers, fresh, not_false_eq_true, true_and]
    cases msg
    case publish m =>
      constructor
      · rintro unconflicted _ ⟨⟩ conflicts
        obtain ⟨error, conflict⟩ := (conflict_iff order).mpr conflicts
        cases conflict.symm.trans unconflicted
      · intro apart
        by_contra conflicted
        obtain ⟨error, conflict⟩ := Option.ne_none_iff_exists'.mp conflicted
        exact apart m rfl ((conflict_iff order).mp ⟨error, conflict⟩)
    all_goals exact ⟨fun _ _ publish => (by cases publish), fun _ => rfl⟩
  · obtain ⟨⟨failure, failed⟩, -⟩ := request_stopped order msg tidy.unbounded
      fun requestId' names' => by
        cases names.symm.trans names'
        exact passes
    rw [failed]
    refine ⟨fun opened => (by cases opened), fun ⟨active, peers, fresh, _⟩ => ?_⟩
    exact absurd ⟨active, peers, fresh⟩ passes

/-- A stored request is of the kind of the one map that holds its state. -/
theorem stored_kind (tidy : e.Tidy) {held : ControlMessage}
    (stored : e.inboundRequests.lookup id = some held) :
    ∃ k, Kind.ofRequest held = some k ∧ ∀ k', (e.state k' id).isSome = true ↔ k' = k := by
  obtain ⟨-, -, k, kind, machine⟩ := tidy.entered id (Option.isSome_of_eq_some stored)
  rw [kindOf, stored] at kind
  refine ⟨k, kind, fun k' => ⟨fun found => tidy.alone k' k id found machine, ?_⟩⟩
  rintro rfl
  exact machine

/-- Request IDs, over every run. A request of the peer's is registered exactly when it may
be; whatever comes later, a Request ID that one of the seven maps holds is held by that map
and no other; what this endpoint allocated and what the peer spent have nothing in common; a
PUBLISH of this endpoint's that is refused changes nothing; and the stored requests are the
registered ones, of the kind of the map their state is in. -/
theorem requests_identified (run : Allowed (fun _ _ => True) history e) :
    (∀ order msg requestId, requestIdOf msg = some requestId →
      ((e.call order (.receiveRequestOnStream msg)).1 = .ok (.opened requestId) ↔
        e.session = .active ∧ requestId.val % 2 = e.role.peer.first ∧
        ¬ Spent history requestId.val ∧ ∀ m, msg = .publish m →
          ¬ e.Conflicts requestId.val m.trackAlias.val ⟨m.trackNamespace, m.trackName⟩)) ∧
    (∀ later e', Run (· = e) (Happens fun _ _ => True) later e' →
      ∀ k id, (e.state k id).isSome = true → ∀ k', (e'.state k' id).isSome = true ↔ k' = k) ∧
    (∀ id, Allocated history id → ¬ Spent history id) ∧
    (∀ order track trackAlias parameters properties failure,
      (e.publish order track trackAlias parameters properties).1 = .error failure →
      (e.publish order track trackAlias parameters properties).2 = e) ∧
    ∀ id, ((e.inboundRequests.lookup id).isSome = true ↔ ∃ msg, Registered history id msg) ∧
      ∀ held, e.inboundRequests.lookup id = some held →
        (∃ msg, Registered history id msg ∧ Restates msg held) ∧
        ∃ k, Kind.ofRequest held = some k ∧ ∀ k', (e.state k' id).isSome = true ↔ k' = k := by
  have tidy := tidy_of_run run
  have accounted := accounted_of_run run
  refine ⟨fun order msg requestId names => registered_iff tidy accounted order names, ?_, ?_,
    fun _ _ _ _ _ _ => publish_refused, fun id => ⟨?_, fun held stored =>
      ⟨accounted.stored id held stored, stored_kind tidy stored⟩⟩⟩
  · intro later e' further k id held k'
    obtain ⟨tidy', kept⟩ := held_for_good tidy further
    refine ⟨fun found => tidy'.alone k' k id found (kept k id held), ?_⟩
    rintro rfl
    exact kept k' id held
  · intro id allocated spent
    have ours := accounted.own id allocated
    have theirs := accounted.peers id spent
    cases same : e.role
    all_goals
      rw [same] at ours theirs
      simp only [Role.first, Role.peer] at ours theirs
      omega
  · rw [Option.isSome_iff_exists]
    constructor
    · rintro ⟨held, stored⟩
      obtain ⟨msg, registered, -⟩ := accounted.stored id held stored
      exact ⟨msg, registered⟩
    · rintro ⟨msg, registered⟩
      obtain ⟨held, stored, -⟩ := accounted.registered id msg registered
      exact ⟨held, stored⟩

/-- The peer's PUBLISH is registered under its Request ID, which no second one is. -/
theorem offer_taken_once : (∃ msg, Registered offeredHistory 0 msg) ∧
    (offeredEndpoint.call .stored offer).1 ≠ .ok (.opened (.ofU64 0)) := by
  have run : Allowed (fun _ _ => True) offeredHistory offeredEndpoint :=
    allowed_record .stored (.start ⟨.server, rfl⟩) offeredCalls (permits_always .stored _ fun _ _ _ => trivial)
  obtain ⟨registers, -, -, -, stored⟩ := requests_identified run
  refine ⟨(stored 0).1.mp rfl, fun again => ?_⟩
  obtain ⟨-, -, fresh, -⟩ := (registers .stored _ (.ofU64 0) rfl).mp again
  exact fresh ⟨_, List.mem_cons_self, _, _, rfl, rfl, rfl, rfl, rfl⟩

end Moqtap.Draft22.Client
