import Moqtap.EndpointEndings

/-! Track Aliases, chosen by both ends and kept in one table. What the table says of
the peer's publications is what the peer has said (`Recorded`, `recorded_of_run`);
what it says of this endpoint's stands beside it under the same numbers. A peer that
keeps its own aliases apart (`KeepsAliases`) is closed exactly where one of this
endpoint's accepted publications is in its way, and an alias answers for the peer's
track exactly where none of this endpoint's unfinished ones is (`aliases_apart`). -/
namespace Moqtap.Draft22.Client
open ByteCursor Varint CodecTypes Parameters Messages Machines RangeFilters Runs
open Endpoint

variable {order : IterationOrder} {e e' : Endpoint} {c : Call} {result : Except Failure Reply}
  {requestId : VarInt} {id : Nat} {history : List Event} {event : Event} {kind kind' : BindingKind}
  {other heldAlias otherAlias : Nat} {track otherTrack : Track}

/-! ## What the peer has said -/

/-- A SUBSCRIBE of this endpoint's has gone out under the Request ID. -/
def Asked (history : List Event) (id : Nat) (track : Track) : Prop :=
  ∃ event ∈ history, ∃ parameters requestId msg, event.call = .subscribe track parameters ∧
    event.reply = .ok (.request requestId msg) ∧ requestId.val = id

/-- A message of the peer's giving an alias to a track: its PUBLISH, or its SUBSCRIBE_OK
to a SUBSCRIBE of this endpoint's. -/
inductive Names (history : List Event) : Call → BindingKind → Nat → Nat → Track → Prop
  | offered {m : Publish} : Names history (.receiveRequestOnStream (.publish m)) .publish
      m.requestId.val m.trackAlias.val ⟨m.trackNamespace, m.trackName⟩
  | granted {c : Call} {requestId trackAlias : VarInt} {track : Track}
      (asked : Asked history requestId.val track)
      (called : c.direct = .receiveSubscribeOk requestId trackAlias) :
      Names history c .subscribe requestId.val trackAlias.val track

/-- The peer's publications, as far as this endpoint has been told. -/
inductive PeerPublishes : List Event → BindingKind → Nat → Nat → Track → Prop
  | named {history : List Event} {event : Event} {reply : Reply} {kind : BindingKind}
      {id heldAlias : Nat} {track : Track}
      (names : Names history event.call kind id heldAlias track) (taken : event.reply = .ok reply) :
      PeerPublishes (event :: history) kind id heldAlias track
  | earlier {history : List Event} {event : Event} {kind : BindingKind} {id heldAlias : Nat}
      {track : Track} (known : PeerPublishes history kind id heldAlias track) :
      PeerPublishes (event :: history) kind id heldAlias track

/-- A publication of the peer's under the alias names the track and has not ended. -/
def Live (history : List Event) (e : Endpoint) (trackAlias : Nat) (track : Track) : Prop :=
  ∃ kind id, PeerPublishes history kind id trackAlias track ∧ e.bindingIsInUse id kind = true

/-- No message of the peer's gives an alias to a track while an unfinished publication
of the peer's has it for another. -/
def KeepsAliases : List Event → Prop
  | [] => True
  | event :: earlier => (∀ kind id trackAlias track kind' other otherTrack,
      Names earlier event.call kind id trackAlias track →
      PeerPublishes earlier kind' other trackAlias otherTrack → other ≠ id →
      event.state.bindingIsInUse other kind' = true → otherTrack = track) ∧ KeepsAliases earlier

theorem names_once (names : Names history c kind id heldAlias track)
    (again : Names history c kind' other otherAlias otherTrack) : other = id := by
  cases names with
  | offered =>
    cases again with
    | offered => rfl
    | granted asked called => cases called
  | granted asked called =>
    cases again with
    | offered => cases called
    | granted asked' called' =>
      rw [called] at called'
      cases called'
      rfl

/-! ## What the table says -/

/-- The machine that says whether a binding is live. -/
def BindingKind.request : BindingKind → Kind
  | .subscribe => .subscription
  | .publish => .publish

theorem inUse_iff : e.bindingIsInUse id kind = true ↔
    ∃ state, e.state kind.request id = some state ∧ kind.request.standing state ≠ .ended := by
  cases kind
  case subscribe =>
    change (e.subscriptions.lookup id).any (· != .done) = true ↔
      ∃ state, e.subscriptions.lookup id = some state ∧ _
    cases e.subscriptions.lookup id with
    | none => exact ⟨fun live => (by cases live), fun ⟨_, found, _⟩ => (by cases found)⟩
    | some state => cases state <;> simp [Kind.standing, BindingKind.request]
  case publish =>
    change (e.publishes.lookup id).any (· != .done) = true ↔
      ∃ state, e.publishes.lookup id = some state ∧ _
    cases e.publishes.lookup id with
    | none => exact ⟨fun live => (by cases live), fun ⟨_, found, _⟩ => (by cases found)⟩
    | some state => cases state <;> simp [Kind.standing, BindingKind.request]

theorem inUse_of_established (established : e.bindingIsEstablished id kind = true) :
    e.bindingIsInUse id kind = true := by
  cases kind
  case subscribe =>
    unfold bindingIsEstablished at established
    unfold bindingIsInUse
    generalize e.subscriptions.lookup id = held at established ⊢
    rcases held with _ | state
    · cases established
    · cases state <;> cases established
      rfl
  case publish =>
    unfold bindingIsEstablished at established
    unfold bindingIsInUse
    generalize e.publishes.lookup id = held at established ⊢
    rcases held with _ | state
    · cases established
    · cases state <;> cases established
      rfl

/-- What is in use behind a call and was known in front of it was in use there. -/
theorem inUse_before (tidy : e.Tidy) (effect : Effect order e c result e')
    (held : (e.state kind.request id).isSome = true) (live : e'.bindingIsInUse id kind = true) :
    e.bindingIsInUse id kind = true := by
  obtain ⟨state, found, running⟩ := inUse_iff.mp live
  rw [inUse_iff]
  rcases state_step tidy effect kind.request id with same | ⟨next, moved, moves⟩
  · exact ⟨state, same ▸ found, running⟩
  · obtain ⟨before, was⟩ := Option.isSome_iff_exists.mp held
    rw [was] at moves
    rw [moved] at found
    cases found
    exact ⟨before, was, fun finished => running (standing_absorbing moves finished)⟩

theorem held_after (tidy : e.Tidy) (effect : Effect order e c result e') {k : Kind}
    (held : (e.state k id).isSome = true) : (e'.state k id).isSome = true := by
  rcases state_step tidy effect k id with same | ⟨next, moved, -⟩
  · rwa [same]
  · rw [moved]
    rfl

/-- A subscription is waiting for its answer from the start or not at all. -/
theorem moves_subscribing {state next : SubscriptionState}
    (moves : Moves e c result .subscription id (some state) next) : next ≠ .subscribing := by
  rintro rfl
  cases moves with
  | driven drives step =>
    cases drives
    case cancelled => cases state <;> cases step
    case rejected => cases state <;> cases step
    case accepted kind => exact kind.1 rfl
    case ended => cases state <;> cases step
  | answered answers overlap writes step =>
    cases writes
    case subscribeOk => cases state <;> cases step
    case requestOk kind => exact kind.1 rfl
    case requestError => cases state <;> cases step
  | ended status step => cases state <;> cases step

/-- Who a Request ID belongs to is settled for good. -/
theorem validatePeerId_step (effect : Effect order e c result e') (id : Nat) :
    e'.requestIds.validatePeerId id = e.requestIds.validatePeerId id := by
  cases effect with
  | opened k kind active fresh binds ids kept =>
    subst ids
    rfl
  | moved | accepted => rw [settled_requestIds]
  | entered | ended | published => exact congrArg (·.validatePeerId id) (settled_requestIds ..)
  | overdrawn => rw [charged_eq]
  | unexpected => rw [failed, charged_eq]
  | updated => rw [recordUpdate_eq, charged_eq]
  | updateAnswered => rw [oweEnding_eq, settleUpdate_eq]
  | answered =>
    rw [settleAnswer_eq]
    exact congrArg (·.validatePeerId id) (settled_requestIds ..)
  | _ => rfl

theorem receivesThrough_step (effect : Effect order e c result e') (id : Nat) (kind : BindingKind) :
    e'.receivesThrough id kind = e.receivesThrough id kind := by
  cases kind
  case subscribe => rfl
  case publish => exact congrArg Except.isOk (validatePeerId_step effect id)

/-- What can change the binding of one request. -/
inductive Bound (e e' : Endpoint) : Call → Except Failure Reply → Nat → Option TrackBinding →
    TrackBinding → Prop
  | subscribed {requestId : VarInt} {track : Track} (fresh : requestId.val = e.requestIds.nextId) :
      Bound e e' (.subscribe track parameters) (.ok (.request requestId msg)) requestId.val none
        ⟨track, none, .subscribe⟩
  | published {requestId : VarInt} {track : Track} (fresh : requestId.val = e.requestIds.nextId) :
      Bound e e' (.publish track trackAlias parameters properties) (.ok (.request requestId msg))
        requestId.val none ⟨track, some trackAlias.val, .publish⟩
  | offered {m : Publish} (peers : e.requestIds.validatePeerId m.requestId.val = .ok ())
      (fresh : m.requestId.val ∉ e.peerRequestIds) :
      Bound e e' (.receiveRequestOnStream (.publish m)) (.ok (.opened m.requestId)) m.requestId.val
        none ⟨⟨m.trackNamespace, m.trackName⟩, some m.trackAlias.val, .publish⟩
  | named {requestId trackAlias : VarInt} {binding : TrackBinding}
      (waiting : e.subscriptions.lookup requestId.val = some .subscribing)
      (accepted : e'.subscriptions.lookup requestId.val = some .active) :
      Bound e e' (.receiveSubscribeOk requestId trackAlias) (.ok reply) requestId.val (some binding)
        { binding with trackAlias := some trackAlias.val }

/-- Every binding belongs to a request some machine holds. -/
def Endpoint.Machined (e : Endpoint) : Prop :=
  ∀ id binding, e.trackBindings.lookup id = some binding →
    (e.state binding.kind.request id).isSome = true

theorem Endpoint.Machined.absent (machined : e.Machined)
    (unmet : ∀ k, (e.state k id).isSome = false) : e.trackBindings.lookup id = none := by
  by_contra bound
  obtain ⟨binding, found⟩ := Option.ne_none_iff_exists'.mp bound
  have held := machined id binding found
  rw [unmet] at held
  cases held

/-- A call binds at most one alias. -/
theorem binding_step (tidy : e.Tidy) (machined : e.Machined) (effect : Effect order e c result e')
    (id : Nat) : e'.trackBindings.lookup id = e.trackBindings.lookup id ∨
      ∃ binding, e'.trackBindings.lookup id = some binding ∧
        Bound e e' c result id (e.trackBindings.lookup id) binding := by
  cases effect with
  | opened k kind active fresh binds ids kept =>
    rename_i requestId _ _ _ _
    cases binds with
    | other => exact .inl rfl
    | subscribe =>
      by_cases here : id = requestId.val
      · subst here
        rw [machined.absent fun k => fresh ▸ tidy.unreached k]
        exact .inr ⟨_, AList.lookup_insert _, .subscribed fresh⟩
      · exact .inl (AList.lookup_insert_ne here)
    | publish =>
      by_cases here : id = requestId.val
      · subst here
        rw [machined.absent fun k => fresh ▸ tidy.unreached k]
        exact .inr ⟨_, AList.lookup_insert _, .published fresh⟩
      · exact .inl (AList.lookup_insert_ne here)
  | entered k kind active names peers fresh unconflicted kept rejectionsKept =>
    rename_i msg requestId _ _
    cases msg
    case publish m =>
      cases names
      by_cases here : id = m.requestId.val
      · subst here
        rw [machined.absent fun k => tidy.unmet fresh peers k]
        exact .inr ⟨_, AList.lookup_insert _, .offered peers fresh⟩
      · exact .inl (AList.lookup_insert_ne here)
    all_goals exact .inl rfl
  | accepted waiting unconflicted =>
    rename_i requestId trackAlias _
    change (named e.trackBindings requestId.val trackAlias.val).lookup id = _ ∨ ∃ binding,
      (named e.trackBindings requestId.val trackAlias.val).lookup id = _ ∧ _
    unfold named
    cases bound : e.trackBindings.lookup requestId.val with
    | none => exact .inl rfl
    | some binding =>
      by_cases here : id = requestId.val
      · subst here
        rw [bound]
        refine .inr ⟨_, AList.lookup_insert _, .named waiting ?_⟩
        exact settled_state e .subscription requestId.val SubscriptionState.active
      · exact .inl (AList.lookup_insert_ne here)
  | moved => exact .inl (by rw [settled_trackBindings])
  | ended | published => exact .inl (congrArg (AList.lookup id) (settled_trackBindings ..))
  | overdrawn => exact .inl (by rw [charged_eq])
  | unexpected => exact .inl (by rw [failed, charged_eq])
  | updated => exact .inl (by rw [recordUpdate_eq, charged_eq])
  | updateAnswered => exact .inl (by rw [oweEnding_eq, settleUpdate_eq])
  | answered =>
    left
    rw [settleAnswer_eq]
    exact congrArg (AList.lookup id) (settled_trackBindings ..)
  | _ => exact .inl rfl

/-- The table holds the peer's publications as the peer named them, under the Request IDs
and for the tracks they were asked for. -/
structure Recorded (history : List Event) (e : Endpoint) : Prop where
  machined : e.Machined
  told : ∀ kind id trackAlias track, e.trackBindings.lookup id = some ⟨track, some trackAlias, kind⟩ →
    e.receivesThrough id kind = true → PeerPublishes history kind id trackAlias track
  kept : ∀ kind id trackAlias track, PeerPublishes history kind id trackAlias track →
    e.trackBindings.lookup id = some ⟨track, some trackAlias, kind⟩ ∧ e.receivesThrough id kind = true
  asked : ∀ id track, Asked history id track ↔
    ∃ trackAlias, e.trackBindings.lookup id = some ⟨track, trackAlias, .subscribe⟩
  waiting : ∀ id track trackAlias, e.trackBindings.lookup id = some ⟨track, trackAlias, .subscribe⟩ →
    e.subscriptions.lookup id = some .subscribing → trackAlias = none

theorem recorded_fresh (fresh : e.Fresh) : Recorded [] e := by
  obtain ⟨role, rfl⟩ := fresh
  refine ⟨?_, ?_, ?_, ?_, ?_⟩
  · intro id binding bound
    cases bound
  · intro kind id trackAlias track bound
    cases bound
  · intro kind id trackAlias track published
    cases published
  · intro id track
    constructor
    · rintro ⟨event, known, -⟩
      cases known
    · rintro ⟨trackAlias, bound⟩
      cases bound
  · intro id track trackAlias bound
    cases bound

/-- The binding of a subscription is a SUBSCRIBE's. -/
theorem held_subscribe (tidy : e.Tidy) (machined : e.Machined) {binding : TrackBinding}
    (bound : e.trackBindings.lookup id = some binding)
    (held : (e.subscriptions.lookup id).isSome = true) : binding.kind = .subscribe := by
  have kind := tidy.alone _ .subscription _ (machined id binding bound) held
  cases same : binding.kind with
  | subscribe => rfl
  | publish =>
    rw [same] at kind
    cases kind

theorem machined_step (tidy : e.Tidy) (machined : e.Machined) (effect : Effect order e c result e') :
    e'.Machined := by
  intro id binding bound
  rcases binding_step tidy machined effect id with same | ⟨next, found, cause⟩
  · exact held_after tidy effect (machined id binding (same ▸ bound))
  · rw [found] at bound
    cases bound
    generalize before : e.trackBindings.lookup id = held at cause
    cases cause with
    | subscribed =>
      cases effect with
      | quiet calm => exact calm.elim
      | opened k kind active fresh binds =>
        cases kind
        exact (congrArg Option.isSome (settled_state e .subscription _ _)).trans rfl
      | moved k drives => cases drives
    | published =>
      cases effect with
      | quiet calm => exact calm.elim
      | opened k kind active fresh binds =>
        cases kind
        exact (congrArg Option.isSome (settled_state e .publish _ _)).trans rfl
      | moved k drives => cases drives
    | offered =>
      cases effect with
      | quiet calm => exact calm.elim
      | entered k kind =>
        cases kind
        exact (congrArg Option.isSome (settled_state e .publish _ _)).trans rfl
      | moved k drives => cases drives
    | @named _ _ _ binding => exact held_after tidy effect (machined _ binding before)

/-- What a message the peer's publication was taken from leaves in the table. -/
theorem named_bound (recorded : Recorded history e)
    (effect : Effect order e event.call.direct event.reply e') {reply : Reply}
    (names : Names history event.call kind id heldAlias track) (taken : event.reply = .ok reply) :
    e'.trackBindings.lookup id = some ⟨track, some heldAlias, kind⟩ ∧
      e'.receivesThrough id kind = true := by
  rw [receivesThrough_step effect]
  rw [taken] at effect
  generalize called : event.call = made at names effect
  cases names with
  | offered =>
    change Effect order e (.receiveRequestOnStream (.publish _)) _ e' at effect
    cases effect with
    | quiet calm => exact calm.elim
    | opened k kind => cases kind
    | entered k kind active names peers =>
      cases names
      exact ⟨AList.lookup_insert _, congrArg Except.isOk peers⟩
    | moved k drives => cases drives
  | granted asked direct =>
    rw [direct] at effect
    cases effect with
    | quiet calm => exact calm.elim
    | opened k kind => cases kind
    | moved k drives => cases drives
    | accepted =>
      obtain ⟨before, bound⟩ := (recorded.asked _ _).mp asked
      refine ⟨?_, rfl⟩
      change (named e.trackBindings _ _).lookup _ = _
      rw [named, bound]
      exact AList.lookup_insert _

/-- What has been bound to an alias stays bound to it. -/
theorem bound_stays (tidy : e.Tidy) (recorded : Recorded history e)
    (effect : Effect order e c result e')
    (bound : e.trackBindings.lookup id = some ⟨track, some heldAlias, kind⟩) :
    e'.trackBindings.lookup id = some ⟨track, some heldAlias, kind⟩ := by
  rcases binding_step tidy recorded.machined effect id with same | ⟨next, found, cause⟩
  · rw [same, bound]
  · rw [bound] at cause
    cases cause with
    | named waiting accepted =>
      cases held_subscribe tidy recorded.machined bound (Option.isSome_of_eq_some waiting)
      exact absurd (recorded.waiting _ _ _ bound waiting) (Option.some_ne_none _)

/-- No dispatcher makes a request of this endpoint's. -/
theorem direct_subscribe {parameters : List KeyValuePair}
    (direct : c.direct = .subscribe track parameters) : c = .subscribe track parameters := by
  cases c with
  | receiveMessage msg => cases msg <;> cases direct
  | receiveResponseOnStream id msg => cases msg <;> cases direct
  | receiveOnPeerRequestStream id msg => cases msg <;> cases direct
  | _ => exact direct

theorem direct_request {msg : ControlMessage} (direct : c.direct = .receiveRequestOnStream msg) :
    c = .receiveRequestOnStream msg := by
  cases c with
  | receiveMessage msg => cases msg <;> cases direct
  | receiveResponseOnStream id msg => cases msg <;> cases direct
  | receiveOnPeerRequestStream id msg => cases msg <;> cases direct
  | _ => exact direct

theorem asked_step (tidy : e.Tidy) (recorded : Recorded history e)
    (effect : Effect order e event.call.direct event.reply e') (id : Nat) (track : Track) :
    Asked (event :: history) id track ↔
      ∃ trackAlias, e'.trackBindings.lookup id = some ⟨track, trackAlias, .subscribe⟩ := by
  constructor
  · rintro ⟨event', known, parameters, requestId, msg, called, sent, rfl⟩
    rcases List.mem_cons.mp known with rfl | earlier
    · rw [called, sent] at effect
      change Effect order e (.subscribe _ _) _ e' at effect
      cases effect with
      | quiet calm => exact calm.elim
      | opened k kind active fresh binds =>
        cases binds with
        | subscribe => exact ⟨none, AList.lookup_insert _⟩
        | other unbound => exact absurd rfl (unbound _ _)
      | moved k drives => cases drives
    · obtain ⟨trackAlias, bound⟩ := (recorded.asked _ _).mp ⟨event', earlier, parameters, requestId, msg,
        called, sent, rfl⟩
      generalize requestId.val = id at bound
      rcases binding_step tidy recorded.machined effect id with same | ⟨next, found, cause⟩
      · exact ⟨trackAlias, by rw [same, bound]⟩
      · rw [bound] at cause
        generalize event.call.direct = made at cause
        generalize event.reply = reply at cause
        cases cause with
        | named => exact ⟨_, found⟩
  · rintro ⟨trackAlias, bound⟩
    rcases binding_step tidy recorded.machined effect id with same | ⟨next, found, cause⟩
    · obtain ⟨event', known, rest⟩ := (recorded.asked id track).mpr ⟨trackAlias, same ▸ bound⟩
      exact ⟨event', List.mem_cons_of_mem _ known, rest⟩
    · have shape := Option.some.inj (found.symm.trans bound)
      generalize before : e.trackBindings.lookup id = held at cause
      generalize called : event.call.direct = made at cause
      generalize replied : event.reply = reply at cause
      cases cause with
      | published => cases shape
      | offered => cases shape
      | subscribed =>
        cases shape
        exact ⟨event, List.mem_cons_self, _, _, _, direct_subscribe called, replied, rfl⟩
      | @named _ _ _ binding =>
        obtain ⟨was, named, kind⟩ := binding
        cases shape
        obtain ⟨event', known, rest⟩ := (recorded.asked _ was).mpr ⟨_, before⟩
        exact ⟨event', List.mem_cons_of_mem _ known, rest⟩

theorem waiting_step (tidy : e.Tidy) (recorded : Recorded history e)
    (effect : Effect order e c result e') {trackAlias : Option Nat}
    (bound : e'.trackBindings.lookup id = some ⟨track, trackAlias, .subscribe⟩)
    (waiting : e'.subscriptions.lookup id = some .subscribing) : trackAlias = none := by
  rcases binding_step tidy recorded.machined effect id with same | ⟨next, found, cause⟩
  · rw [same] at bound
    obtain ⟨before, was⟩ := Option.isSome_iff_exists.mp (recorded.machined id _ bound)
    change e.state .subscription id = some before at was
    rcases state_step tidy effect .subscription id with still | ⟨next, moved, moves⟩
    · exact recorded.waiting id track trackAlias bound (still.symm.trans waiting)
    · rw [was] at moves
      cases moved.symm.trans waiting
      exact absurd rfl (moves_subscribing moves)
  · have shape := Option.some.inj (found.symm.trans bound)
    generalize e.trackBindings.lookup id = held at cause
    cases cause with
    | subscribed =>
      cases shape
      rfl
    | published => cases shape
    | offered => cases shape
    | named _ accepted => cases accepted.symm.trans waiting

/-- A call and what it did to the table are recorded together. -/
theorem recorded_step (tidy : e.Tidy) (recorded : Recorded history e)
    (effect : Effect order e event.call.direct event.reply e') : Recorded (event :: history) e' where
  machined := machined_step tidy recorded.machined effect
  asked := asked_step tidy recorded effect
  waiting _ _ _ := waiting_step tidy recorded effect
  kept kind id trackAlias track published := by
    cases published with
    | named names taken => exact named_bound recorded effect names taken
    | earlier known =>
      obtain ⟨bound, peers⟩ := recorded.kept kind id trackAlias track known
      exact ⟨bound_stays tidy recorded effect bound, (receivesThrough_step effect id kind).trans peers⟩
  told kind id trackAlias track bound peers := by
    rw [receivesThrough_step effect] at peers
    rcases binding_step tidy recorded.machined effect id with same | ⟨next, found, cause⟩
    · exact .earlier (recorded.told kind id trackAlias track (same ▸ bound) peers)
    · have shape := Option.some.inj (found.symm.trans bound)
      generalize before : e.trackBindings.lookup id = held at cause
      generalize called : event.call.direct = made at cause
      generalize replied : event.reply = reply at cause
      cases cause with
      | subscribed => cases shape
      | published fresh =>
        cases shape
        cases valid : e.requestIds.validatePeerId _ with
        | error error =>
          rw [receivesThrough, valid] at peers
          cases peers
        | ok _ =>
          rw [fresh] at valid
          exact absurd tidy.parity (peer_parity valid)
      | offered =>
        cases shape
        refine .named ?_ replied
        rw [direct_request called]
        exact .offered
      | @named _ _ _ binding waiting =>
        obtain ⟨was, named, asking⟩ := binding
        cases held_subscribe tidy recorded.machined before (Option.isSome_of_eq_some waiting)
        cases shape
        exact .named (.granted ((recorded.asked _ was).mpr ⟨named, before⟩) called) replied

theorem recorded_of_run {allowed : Endpoint → Call → Prop} (run : Allowed allowed history e) :
    e.Tidy ∧ Recorded history e := by
  induction run with
  | start fresh => exact ⟨tidy_fresh fresh, recorded_fresh fresh⟩
  | step run happens ih =>
    obtain ⟨tidy, recorded⟩ := ih
    obtain ⟨order, effect⟩ := happens_effect tidy happens
    exact ⟨tidy_step tidy effect, recorded_step tidy recorded effect⟩

/-! ## One track an alias -/

/-- No two unfinished publications of the peer's have one alias for two tracks. -/
def PeerApart (history : List Event) (e : Endpoint) : Prop :=
  ∀ trackAlias track otherTrack, Live history e trackAlias track →
    Live history e trackAlias otherTrack → otherTrack = track

/-- What is live behind a call is named by it, or was live in front of it. -/
theorem live_step (tidy : e.Tidy) (recorded : Recorded history e)
    (effect : Effect order e event.call.direct event.reply e')
    (published : PeerPublishes (event :: history) kind id heldAlias track)
    (live : e'.bindingIsInUse id kind = true) :
    Names history event.call kind id heldAlias track ∨
      PeerPublishes history kind id heldAlias track ∧ e.bindingIsInUse id kind = true := by
  cases published with
  | named names taken => exact .inl names
  | earlier known =>
    have held := recorded.machined id _ (recorded.kept _ _ _ _ known).1
    exact .inr ⟨known, inUse_before tidy effect held live⟩

theorem peerApart_step (tidy : e.Tidy) (recorded : Recorded history e) (apart : PeerApart history e)
    (same : event.state = e) (effect : Effect order e event.call.direct event.reply e')
    (keeps : KeepsAliases (event :: history)) : PeerApart (event :: history) e' := by
  subst same
  have behind := recorded_step tidy recorded effect
  rintro trackAlias track otherTrack ⟨kind, id, published, live⟩ ⟨kind', other, otherPublished, otherLive⟩
  by_cases here : other = id
  · subst here
    have bound := (behind.kept _ _ _ _ published).1
    have otherBound := (behind.kept _ _ _ _ otherPublished).1
    cases bound.symm.trans otherBound
    rfl
  · rcases live_step tidy recorded effect published live with names | ⟨known, was⟩ <;>
      rcases live_step tidy recorded effect otherPublished otherLive with
        otherNames | ⟨otherKnown, otherWas⟩
    · exact absurd (names_once names otherNames) here
    · exact keeps.1 _ _ _ _ _ _ _ names otherKnown here otherWas
    · exact (keeps.1 _ _ _ _ _ _ _ otherNames known (Ne.symm here) was).symm
    · exact apart _ _ _ ⟨kind, id, known, was⟩ ⟨kind', other, otherKnown, otherWas⟩

theorem peerApart_of_run {allowed : Endpoint → Call → Prop} (run : Allowed allowed history e)
    (keeps : KeepsAliases history) : PeerApart history e := by
  induction run with
  | start fresh =>
    rintro trackAlias track otherTrack ⟨kind, id, published, -⟩
    cases published
  | step run happens ih =>
    obtain ⟨tidy, recorded⟩ := recorded_of_run run
    obtain ⟨order, effect⟩ := happens_effect tidy happens
    exact peerApart_step tidy recorded (ih keeps.2) happens.1 effect keeps

/-! ## Where this endpoint's own publications are in the way -/

/-- An accepted publication of this endpoint's has the alias for another track. -/
def Endpoint.Takes (e : Endpoint) (trackAlias : Nat) (track : Track) : Prop :=
  ∃ id binding, e.trackBindings.lookup id = some binding ∧
    e.receivesThrough id binding.kind = false ∧ binding.trackAlias = some trackAlias ∧
    binding.track ≠ track ∧ e.bindingIsEstablished id binding.kind = true

/-- A PUBLISH or SUBSCRIBE_OK of the peer's whose alias such a publication has. -/
inductive Endpoint.Crosses (e : Endpoint) : Call → Prop
  | offered {m : Publish} (active : e.session = .active)
      (peers : e.requestIds.validatePeerId m.requestId.val = .ok ())
      (fresh : m.requestId.val ∉ e.peerRequestIds)
      (taken : e.Takes m.trackAlias.val ⟨m.trackNamespace, m.trackName⟩) :
      Crosses e (.receiveRequestOnStream (.publish m))
  | granted {c : Call} {requestId trackAlias : VarInt} {binding : TrackBinding}
      (passed : ¬ e.Stops c) (called : c.direct = .receiveSubscribeOk requestId trackAlias)
      (known : requestId.val ∈ e.subscriptions)
      (bound : e.trackBindings.lookup requestId.val = some binding)
      (taken : e.Takes trackAlias.val binding.track) : Crosses e c

/-- The call was refused because its alias had another track. -/
def Event.Duplicates (event : Event) : Prop :=
  ∃ trackAlias established offered,
    event.reply = .error (.returned (.duplicateTrackAlias trackAlias established offered))

theorem mem_bindings {entry : Sigma fun _ : Nat => TrackBinding} :
    entry ∈ e.bindings order ↔ e.trackBindings.lookup entry.1 = some entry.2 := by
  rw [bindings, (order.perm _).mem_iff]
  exact AList.mem_lookup_iff.symm

/-- Which bindings an alias conflicts with, in whatever order they are searched. -/
theorem conflict_iff (order : IterationOrder) {asked : Nat} :
    (∃ error, e.conflictingTrackAlias order asked heldAlias track = some error) ↔
      ∃ id binding, e.trackBindings.lookup id = some binding ∧ id ≠ asked ∧
      binding.trackAlias = some heldAlias ∧ binding.track ≠ track ∧
      e.bindingIsEstablished id binding.kind = true := by
  rw [← Option.isSome_iff_exists, conflictingTrackAlias, Option.isSome_map, List.find?_isSome]
  constructor
  · rintro ⟨⟨id, binding⟩, listed, matched⟩
    rw [mem_bindings] at listed
    simp only [Bool.and_eq_true, bne_iff_ne, beq_iff_eq] at matched
    obtain ⟨⟨⟨other, named⟩, different⟩, established⟩ := matched
    exact ⟨id, binding, listed, other, named, different, established⟩
  · rintro ⟨id, binding, bound, other, named, different, established⟩
    refine ⟨⟨id, binding⟩, mem_bindings.mpr bound, ?_⟩
    simp [other, named, different, established]

/-- A conflict of a message of a peer that keeps its aliases apart is with this endpoint. -/
theorem conflict_taken (tidy : e.Tidy) (recorded : Recorded history e) (same : event.state = e)
    (keeps : KeepsAliases (event :: history)) (names : Names history event.call kind id heldAlias track)
    {error : EndpointError} (conflict : e.conflictingTrackAlias order id heldAlias track = some error) :
    e.Takes heldAlias track := by
  obtain ⟨other, binding, bound, elsewhere, named, different, established⟩ :=
    (conflict_iff order).mp ⟨error, conflict⟩
  refine ⟨other, binding, bound, ?_, named, different, established⟩
  by_contra peers
  rw [Bool.not_eq_false] at peers
  obtain ⟨heldTrack, heldAlias', heldKind⟩ := binding
  cases named
  have published := recorded.told _ _ _ _ bound peers
  subst same
  exact different (keeps.1 _ _ _ _ _ _ _ names published elsewhere (inUse_of_established established))

/-- A PUBLISH that does not get as far as its alias is refused for something else. -/
theorem offer_stopped (order : IterationOrder) {m : Publish} (unbounded : e.Unbounded)
    (stopped : ¬ (e.session = .active ∧ e.requestIds.validatePeerId m.requestId.val = .ok () ∧
      m.requestId.val ∉ e.peerRequestIds)) :
    ∃ error, (e.call order (.receiveRequestOnStream (.publish m))).1 = .error (.returned error) ∧
      error.sessionErrorCode ≠ some .duplicateTrackAlias := by
  rw [call, receiveRequestOnStream]
  change ∃ error, ((e.attempt e.requireActiveOrErr _).map Reply.opened).1 = _ ∧ _
  rcases requireActiveOrErr_cases e with ⟨passed, active⟩ | ⟨error, refused, soft⟩
  · rw [passed]
    rcases validatePeerId_cases unbounded m.requestId with peers | ⟨peer, parity⟩
    · have met : m.requestId.val ∈ e.peerRequestIds := by
        by_contra fresh
        exact stopped ⟨active, peers, fresh⟩
      refine ⟨.duplicateRequestId m.requestId.val, ?_, by simp [EndpointError.sessionErrorCode]⟩
      simp [attempt, peers, met, failSession, Outcome.map, Except.map]
    · refine ⟨.requestId (.wrongParity m.requestId.val peer), ?_, by simp [EndpointError.sessionErrorCode]⟩
      simp [attempt, parity, failSession, Outcome.map, Except.map]
  · rw [refused]
    exact ⟨error, rfl, soft ▸ (Option.some_ne_none _).symm⟩

/-- A PUBLISH that gets as far as its alias is refused over a conflict. -/
theorem offer_conflicted {m : Publish} {error : EndpointError} (active : e.session = .active)
    (peers : e.requestIds.validatePeerId m.requestId.val = .ok ())
    (fresh : m.requestId.val ∉ e.peerRequestIds)
    (conflict : e.conflictingTrackAlias order m.requestId.val m.trackAlias.val
      ⟨m.trackNamespace, m.trackName⟩ = some error) :
    (e.call order (.receiveRequestOnStream (.publish m))).1 = .error (.returned error) := by
  have passed : e.requireActiveOrErr = .ok () := by rw [requireActiveOrErr, active]
  have entered : (e.spent m.requestId.val).enterRequest order m.requestId.val (.publish m) =
      (e.spent m.requestId.val).failSession error := by
    have kind : Kind.ofRequest (.publish m) = some .publish := rfl
    rcases enterRequest_eq kind order (e.spent m.requestId.val) m.requestId.val with
      ⟨error', conflict', failed⟩ | ⟨unconflicted, -⟩
    · cases conflict.symm.trans conflict'
      exact failed
    · cases conflict.symm.trans unconflicted
  rw [call, receiveRequestOnStream]
  change (((e.attempt e.requireActiveOrErr _).map Reply.opened)).1 = _
  rw [passed]
  dsimp only [attempt]
  rw [peers]
  dsimp only
  rw [if_neg fresh]
  change ((((e.spent m.requestId.val).enterRequest order m.requestId.val (.publish m)).andThen _).map
    Reply.opened).1 = _
  rw [entered]
  rfl

theorem crosses_of_duplicate (tidy : e.Tidy) (recorded : Recorded history e) (same : event.state = e)
    (made : e.call order event.call = (event.reply, e')) (keeps : KeepsAliases (event :: history))
    (duplicate : event.Duplicates) : e.Crosses event.call := by
  obtain ⟨trackAlias, established, offered, replied⟩ := duplicate
  have passed : ¬ e.Stops event.call := by
    intro stopped
    obtain ⟨error, plain, closed⟩ := call_stopped order stopped
    rw [closed, replied] at made
    cases made
    exact plain.2.2 rfl
  have effect := call_effect order e event.call tidy.unbounded
  rw [made, replied] at effect
  dsimp only at effect
  generalize called : event.call.direct = direct at effect
  cases effect with
  | refused soft => cases soft
  | violated plain => exact absurd rfl plain.2.2
  | misoffered conflict =>
    rename_i m
    have named := direct_request called
    have names : Names history event.call .publish m.requestId.val m.trackAlias.val
        ⟨m.trackNamespace, m.trackName⟩ := named ▸ .offered
    have taken := conflict_taken tidy recorded same keeps names conflict
    have reached : e.session = .active ∧ e.requestIds.validatePeerId m.requestId.val = .ok () ∧
        m.requestId.val ∉ e.peerRequestIds := by
      by_contra stopped
      obtain ⟨error, refused, other⟩ := offer_stopped order tidy.unbounded stopped
      rw [← named, made, replied] at refused
      cases refused
      exact other rfl
    rw [named]
    exact .offered reached.1 reached.2.1 reached.2.2 taken
  | misnamed bound conflict =>
    rename_i binding requestId given
    obtain ⟨heldTrack, heldAlias, heldKind⟩ := binding
    have known : requestId.val ∈ e.subscriptions := by
      by_contra unknown
      rw [call_direct order passed, called] at made
      have refused : e.call order (.receiveSubscribeOk requestId given) =
          (.error (.returned (.unknownRequest requestId.val)), e) := by
        rw [call, receiveSubscribeOk, if_pos unknown]
        rfl
      rw [refused, replied] at made
      cases made
    cases held_subscribe tidy recorded.machined bound (AList.lookup_isSome.mpr known)
    have asked := (recorded.asked _ heldTrack).mpr ⟨_, bound⟩
    have taken := conflict_taken tidy recorded same keeps (.granted asked called) conflict
    exact .granted passed called known bound taken
  | overdrawn credit one held stuck soft => cases soft
  | overpaidPublication status stuck soft => cases soft
  | overpaidSubscription status stuck soft => cases soft

theorem duplicate_of_crosses (crosses : e.Crosses event.call) {e' : Endpoint}
    (made : e.call order event.call = (event.reply, e')) : event.Duplicates := by
  generalize called : event.call = c at crosses made
  cases crosses with
  | offered active peers fresh taken =>
    rename_i m
    obtain ⟨id, binding, bound, own, named, different, established⟩ := taken
    have elsewhere : id ≠ m.requestId.val := by
      rintro rfl
      cases kind : binding.kind with
      | subscribe =>
        rw [kind] at own
        cases own
      | publish =>
        rw [kind, receivesThrough, peers] at own
        cases own
    obtain ⟨error, conflict⟩ := (conflict_iff order).mpr
      ⟨id, binding, bound, elsewhere, named, different, established⟩
    have refused := offer_conflicted active peers fresh conflict
    rw [made] at refused
    obtain ⟨held, -, rfl⟩ := Option.map_eq_some_iff.mp conflict
    exact ⟨_, _, _, refused⟩
  | granted passed direct known asked taken =>
    rename_i requestId trackAlias asking
    obtain ⟨id, binding, bound, own, named, different, established⟩ := taken
    have elsewhere : id ≠ requestId.val := by
      rintro rfl
      cases asked.symm.trans bound
      exact different rfl
    obtain ⟨error, conflict⟩ := (conflict_iff order).mpr
      ⟨id, binding, bound, elsewhere, named, different, established⟩
    have refused : e.call order (.receiveSubscribeOk requestId trackAlias) =
        (e.failSession error).map fun _ : Unit => Reply.nothing := by
      rw [call, receiveSubscribeOk, if_neg (not_not.mpr known), asked]
      dsimp only [Option.bind]
      rw [conflict]
    rw [call_direct order passed, direct, refused] at made
    obtain ⟨held, -, rfl⟩ := Option.map_eq_some_iff.mp conflict
    exact ⟨_, _, _, (congrArg Prod.fst made).symm⟩

/-- A message of a peer that keeps its aliases apart is refused over its alias exactly
where one of this endpoint's accepted publications has it. -/
theorem duplicate_iff {allowed : Endpoint → Call → Prop} {earlier later : List Event}
    (run : Allowed allowed (later ++ event :: earlier) e)
    (keeps : KeepsAliases (event :: earlier)) :
    event.Duplicates ↔ event.state.Crosses event.call := by
  obtain ⟨before, behind, reached, ⟨rfl, -, order, made⟩, -⟩ := run.at_event
  obtain ⟨tidy, recorded⟩ := recorded_of_run reached
  exact ⟨crosses_of_duplicate tidy recorded rfl made keeps, fun crosses => duplicate_of_crosses crosses made⟩

/-! ## The track an alias answers for -/

/-- Every unfinished publication of this endpoint's under the alias is of a track an
unfinished one of the peer's has it for. -/
def Clear (history : List Event) (e : Endpoint) (trackAlias : Nat) : Prop :=
  ∀ id binding, e.trackBindings.lookup id = some binding →
    e.receivesThrough id binding.kind = false → binding.trackAlias = some trackAlias →
    e.bindingIsInUse id binding.kind = true → Live history e trackAlias binding.track

/-- The order that comes upon one entry first. -/
def IterationOrder.leading (entry : Sigma fun _ : Nat => TrackBinding) : IterationOrder where
  arrange entries := if entry ∈ entries then entry :: entries.erase entry else entries
  perm entries := by
    split_ifs with listed
    · exact (List.perm_cons_erase listed).symm
    · exact .refl _

theorem trackObjects_found (answered : e.trackObjects order heldAlias = some track) :
    ∃ id binding, e.trackBindings.lookup id = some binding ∧ binding.trackAlias = some heldAlias ∧
      e.bindingIsInUse id binding.kind = true ∧ binding.track = track := by
  obtain ⟨⟨id, binding⟩, found, rfl⟩ := Option.map_eq_some_iff.mp answered
  have matched := List.find?_some found
  simp only [Bool.and_eq_true, beq_iff_eq] at matched
  exact ⟨id, binding, mem_bindings.mp (List.mem_of_find?_eq_some found), matched.1, matched.2, rfl⟩

theorem trackObjects_leading {binding : TrackBinding} (bound : e.trackBindings.lookup id = some binding)
    (named : binding.trackAlias = some heldAlias) (live : e.bindingIsInUse id binding.kind = true) :
    e.trackObjects (.leading ⟨id, binding⟩) heldAlias = some binding.track := by
  have listed : (⟨id, binding⟩ : Sigma fun _ : Nat => TrackBinding) ∈ e.trackBindings.entries :=
    AList.mem_lookup_iff.mp bound
  have first : e.bindings (.leading ⟨id, binding⟩) =
      ⟨id, binding⟩ :: e.trackBindings.entries.erase ⟨id, binding⟩ := if_pos listed
  rw [trackObjects, trackForAlias, first, List.find?_cons_of_pos (by simp [named, live])]
  rfl

theorem answers_iff (recorded : Recorded history e) (apart : PeerApart history e) (trackAlias : Nat) :
    (∀ order track, e.trackObjects order trackAlias = some track →
      Live history e trackAlias track ∧ ∀ other, Live history e trackAlias other → other = track) ↔
    Clear history e trackAlias := by
  constructor
  · intro answers id binding bound own named live
    exact (answers _ _ (trackObjects_leading bound named live)).1
  · intro clear order track answered
    obtain ⟨id, binding, bound, named, live, rfl⟩ := trackObjects_found answered
    have publishing : Live history e trackAlias binding.track := by
      cases peers : e.receivesThrough id binding.kind with
      | true =>
        obtain ⟨held, heldAlias, kind⟩ := binding
        cases named
        exact ⟨kind, id, recorded.told _ _ _ _ bound peers, live⟩
      | false => exact clear id binding bound peers named live
    exact ⟨publishing, fun other otherLive => apart _ _ _ publishing otherLive⟩

theorem keepsAliases_suffix {later earlier : List Event} (keeps : KeepsAliases (later ++ earlier)) :
    KeepsAliases earlier := by
  induction later with
  | nil => exact keeps
  | cons event later ih => exact ih keeps.2

/-- A peer that keeps its aliases apart is closed exactly over an accepted publication of
this endpoint's, and an alias answers for the peer's one track exactly where it is clear
of this endpoint's. -/
theorem aliases_apart (run : Allowed (fun _ _ => True) history e) (keeps : KeepsAliases history) :
    ((∀ event ∈ history, ¬ event.Duplicates) ↔
      ∀ event ∈ history, ¬ event.state.Crosses event.call) ∧
    ∀ trackAlias, (∀ order track, e.trackObjects order trackAlias = some track →
      Live history e trackAlias track ∧ ∀ other, Live history e trackAlias other → other = track) ↔
        Clear history e trackAlias := by
  have each (event : Event) (known : event ∈ history) :
      ¬ event.Duplicates ↔ ¬ event.state.Crosses event.call := by
    obtain ⟨later, earlier, rfl⟩ := List.append_of_mem known
    exact not_congr (duplicate_iff run (keepsAliases_suffix keeps))
  exact ⟨forall₂_congr each, answers_iff (recorded_of_run run).2 (peerApart_of_run run keeps)⟩

/-! A server that publishes one track, and a peer that publishes another under the same alias. -/

/-- A message that gives an alias to a track. -/
def Call.aliases (c : Call) : Bool :=
  match c.direct with
  | .receiveSubscribeOk .. | .receiveRequestOnStream (.publish _) => true
  | _ => false

theorem names_aliases (names : Names history c kind id heldAlias track) : c.aliases = true := by
  cases names with
  | offered => rfl
  | granted asked called => rw [Call.aliases, called]

theorem published_aliases (published : PeerPublishes history kind id heldAlias track) :
    ∃ event ∈ history, event.call.aliases = true := by
  induction published with
  | named names taken => exact ⟨_, List.mem_cons_self, names_aliases names⟩
  | earlier known ih =>
    obtain ⟨event, known, given⟩ := ih
    exact ⟨event, List.mem_cons_of_mem _ known, given⟩

/-- A first alias is kept apart from all others. -/
theorem keepsAliases_first (silent : ∀ event ∈ history, event.call.aliases = false) (event : Event) :
    KeepsAliases (event :: history) := by
  have unpublished {history : List Event} (silent : ∀ event ∈ history, event.call.aliases = false)
      {kind id trackAlias track} (published : PeerPublishes history kind id trackAlias track) : False := by
    obtain ⟨event, known, given⟩ := published_aliases published
    rw [silent event known] at given
    cases given
  induction history generalizing event with
  | nil => exact ⟨fun _ _ _ _ _ _ _ _ published => (unpublished silent published).elim, trivial⟩
  | cons event' history ih =>
    refine ⟨fun _ _ _ _ _ _ _ _ published => (unpublished silent published).elim, ?_⟩
    exact ih (fun event known => silent event (List.mem_cons_of_mem _ known)) event'

def ownTrack : Track := ⟨⟨[[1]]⟩, [2]⟩

def peerTrack : Track := ⟨⟨[[1]]⟩, [3]⟩

/-- The peer's PUBLISH, under alias 5. -/
def offer : Call :=
  .receiveRequestOnStream (.publish
    ⟨.ofU64 0, peerTrack.namespace, peerTrack.name, .ofU64 5, [], []⟩)

def offeredCalls : List Call := [.connect, .receiveSetup [], offer]

def offeredHistory : List Event := (Endpoint.new .server).record .stored offeredCalls ++ []

def offeredEndpoint : Endpoint := (Endpoint.new .server).play .stored offeredCalls

theorem offered_answers : Live offeredHistory offeredEndpoint 5 peerTrack := by
  have run : Allowed (fun _ _ => True) offeredHistory offeredEndpoint :=
    allowed_record .stored (.start ⟨.server, rfl⟩) offeredCalls (permits_always .stored _ fun _ _ _ => trivial)
  have keeps : KeepsAliases offeredHistory := keepsAliases_first (by decide) _
  have clear : Clear offeredHistory offeredEndpoint 5 := by
    intro id binding bound own
    have bound : (AList.insert 0 ⟨peerTrack, some 5, .publish⟩ ∅ : Table TrackBinding).lookup id =
        some binding := bound
    by_cases here : id = 0
    · subst here
      rw [AList.lookup_insert] at bound
      cases bound
      cases own
    · rw [AList.lookup_insert_ne here] at bound
      cases bound
  have answers := ((aliases_apart run keeps).2 5).mpr clear
  exact (answers .stored peerTrack (by decide)).1

def crossingCalls : List Call :=
  [.connect, .receiveSetup [], .publish ownTrack (.ofU64 5) [] [], .receiveRequestOk (.ofU64 1) [], offer]

/-- The peer's one use of the alias closes the session over this endpoint's own. -/
theorem own_alias_closes :
    ¬ ∀ (e : Endpoint) (history : List Event), Allowed (fun _ _ => True) history e →
      KeepsAliases history → ∀ event ∈ history, ¬ event.Duplicates := by
  intro claimed
  have run : Allowed (fun _ _ => True) _ _ := allowed_record .stored (.start ⟨.server, rfl⟩)
    crossingCalls (permits_always .stored _ fun _ _ _ => trivial)
  exact claimed _ _ run (keepsAliases_first (by decide) _) _ List.mem_cons_self ⟨5, 1, 0, rfl⟩

end Moqtap.Draft22.Client
