import Moqtap.EndpointDiscipline

/-! How the subscriptions an endpoint publishes end. `Standing` is where one is
between its request and its end, whichever of the two sequences opened it;
`standing_step` says what can move it. A PUBLISH_DONE is agreed to while the
subscription runs (`one_ending`), as long as none is offered to a SUBSCRIBE that
is over already, which its machine takes for the receiving side's sake, and none
that is owed UPDATE_FAILED is offered where it cannot be written. -/
namespace Moqtap.Draft22.Client
open ByteCursor Varint CodecTypes Parameters Messages Machines RangeFilters Runs
open Endpoint

variable {order : IterationOrder} {e e' : Endpoint} {c : Call} {result : Except Failure Reply}
  {reply : Reply} {requestId : VarInt} {id : Nat} {history : List Event}

/-! ## What a run shows of one subscription -/

namespace Event

/-- A PUBLISH_DONE of this endpoint's is agreed to. -/
inductive Ends (id : Nat) (done : PublishDone) : Event → Prop
  | responded {e : Endpoint} {requestId : VarInt} {reply : Reply} (here : requestId.val = id) :
      Ends id done ⟨e, .sendResponseOnStream requestId (.publishDone done), .ok reply⟩
  | published {e : Endpoint} {requestId : VarInt} {reply : Reply} (here : requestId.val = id) :
      Ends id done ⟨e, .sendPublishDone requestId done, .ok reply⟩

/-- The request is accepted: by this endpoint's SUBSCRIBE_OK or the peer's REQUEST_OK. -/
inductive Accepts (id : Nat) : Event → Prop
  | written {e : Endpoint} {requestId trackAlias : VarInt} {ps ts : List KeyValuePair}
      {reply : Reply} (here : requestId.val = id) :
      Accepts id ⟨e, .sendResponseOnStream requestId (.subscribeOk trackAlias ps ts), .ok reply⟩
  | received {e : Endpoint} {c : Call} {requestId : VarInt} {ts : List KeyValuePair} {reply : Reply}
      (direct : c.direct = .receiveRequestOk requestId ts) (here : requestId.val = id) :
      Accepts id ⟨e, c, .ok reply⟩

/-- The request is refused by a REQUEST_ERROR, written or received, or cancelled. -/
inductive Refuses (id : Nat) : Event → Prop
  | written {e : Endpoint} {requestId : VarInt} {error : RequestError} {reply : Reply}
      (here : requestId.val = id) (own : e.answersAnUpdate id (.requestError error) = false) :
      Refuses id ⟨e, .sendResponseOnStream requestId (.requestError error), .ok reply⟩
  | received {e : Endpoint} {c : Call} {requestId : VarInt} {error : RequestError} {reply : Reply}
      (direct : c.direct = .receiveRequestError requestId error) (here : requestId.val = id) :
      Refuses id ⟨e, c, .ok reply⟩
  | cancelled {e : Endpoint} {requestId : VarInt} {reply : Reply} (here : requestId.val = id) :
      Refuses id ⟨e, .cancelRequest requestId, .ok reply⟩

/-- An update of the request is refused by a REQUEST_ERROR. -/
inductive RefusesUpdate (id : Nat) : Event → Prop
  | written {e : Endpoint} {requestId : VarInt} {error : RequestError} {reply : Reply}
      (here : requestId.val = id) (update : e.answersAnUpdate id (.requestError error) = true) :
      RefusesUpdate id ⟨e, .sendResponseOnStream requestId (.requestError error), .ok reply⟩

end Event

/-! What each of them took. -/

theorem responded_effect {done : PublishDone}
    (effect : Effect order e (.sendResponseOnStream requestId (.publishDone done)) (.ok reply) e') :
    (requestId.val ∈ e.owedUpdateFailures → done.statusCode.val = updateFailed) ∧
      ∃ state next, e.subscriptions.lookup requestId.val = some state ∧
        SubscriptionState.ended state = some next ∧
        e' = (e.settled .subscription requestId.val next).paid requestId.val := by
  cases effect with
  | quiet calm => exact calm.elim
  | opened k kind => cases kind
  | moved k drives => cases drives
  | updateAnswered allowed answers => cases answers
  | answered allowed answers overlap k writes => cases writes
  | ended status overlap held step => exact ⟨status, _, _, held, step, rfl⟩

theorem published_effect {done : PublishDone}
    (effect : Effect order e (.sendPublishDone requestId done) (.ok reply) e') :
    (requestId.val ∈ e.owedUpdateFailures → done.statusCode.val = updateFailed) ∧
      e.publishes.lookup requestId.val = some .active ∧
      e' = (e.settled .publish requestId.val PublishState.done).paid requestId.val := by
  cases effect with
  | quiet calm => exact calm.elim
  | opened k kind => cases kind
  | moved k drives => cases drives
  | published status held => exact ⟨status, held, rfl⟩

theorem cancelled_effect (effect : Effect order e (.cancelRequest requestId) (.ok reply) e') :
    ∃ k state next, e.state k requestId.val = some state ∧ k.cancelled state = some next ∧
      e' = e.settled k requestId.val next := by
  cases effect with
  | quiet calm => exact calm.elim
  | opened k kind => cases kind
  | moved k drives held step =>
    cases drives
    exact ⟨k, _, _, held, step, rfl⟩

theorem rejected_effect {error : RequestError}
    (effect : Effect order e (.receiveRequestError requestId error) (.ok reply) e') :
    ∃ k state next, e.state k requestId.val = some state ∧ k.refused state = some next ∧
      e' = e.settled k requestId.val next := by
  cases effect with
  | quiet calm => exact calm.elim
  | opened k kind => cases kind
  | moved k drives held step =>
    cases drives
    exact ⟨k, _, _, held, step, rfl⟩

theorem refused_effect {error : RequestError}
    (effect : Effect order e (.sendResponseOnStream requestId (.requestError error)) (.ok reply) e')
    (own : e.answersAnUpdate requestId.val (.requestError error) = false) :
    ∃ k state next, e.state k requestId.val = some state ∧ k.refused state = some next ∧
      e' = settleAnswer requestId.val (.requestError error) (e.settled k requestId.val next) := by
  cases effect with
  | quiet calm => exact calm.elim
  | opened k kind => cases kind
  | moved k drives => cases drives
  | updateAnswered allowed answers =>
    rw [answers] at own
    cases own
  | answered allowed answers overlap k writes held step =>
    cases writes
    exact ⟨k, _, _, held, step, rfl⟩

theorem update_refused_effect {error : RequestError}
    (effect : Effect order e (.sendResponseOnStream requestId (.requestError error)) (.ok reply) e')
    (update : e.answersAnUpdate requestId.val (.requestError error) = true) :
    e' = oweEnding requestId.val (.requestError error) (settleUpdate requestId.val
      ((e.unansweredPeerUpdates.lookup requestId.val).getD 0) (.requestError error) e) := by
  cases effect with
  | quiet calm => exact calm.elim
  | opened k kind => cases kind
  | moved k drives => cases drives
  | updateAnswered => rfl
  | answered allowed answers =>
    rw [answers] at update
    cases update

/-! ## Where a published subscription stands -/

inductive Standing where
  | waiting
  | running
  | ended
  deriving DecidableEq, Repr

/-- A request of a kind that publishes nothing stands nowhere before its end. -/
def Kind.standing : (k : Kind) → k.State → Standing
  | subscription => fun
    | .idle | .subscribing => .waiting
    | .active => .running
    | .done => .ended
  | publish => fun
    | .idle | .publishing => .waiting
    | .active => .running
    | .done => .ended
  | _ => fun _ => .ended

/-- The sequence a published subscription was opened by: a SUBSCRIBE of the peer's, or
a PUBLISH of this endpoint's. -/
def Endpoint.publishedAs (e : Endpoint) (id : Nat) : Option Kind :=
  match e.kindOf id with
  | some .subscription => some .subscription
  | some _ => none
  | none => if (e.state .publish id).isSome then some .publish else none

theorem publishedAs_step (tidy : e.Tidy) (effect : Effect order e c result e') {k : Kind}
    (held : (e.state k id).isSome) : e'.publishedAs id = e.publishedAs id := by
  obtain ⟨kind, states⟩ := held_step tidy effect held
  unfold Endpoint.publishedAs
  rw [kind, states]

theorem standing_opening {k : Kind} (published : e.publishedAs id = some k) :
    k.standing k.opening = .waiting := by
  unfold Endpoint.publishedAs at published
  split at published
  · cases published
    rfl
  · cases published
  · split_ifs at published
    cases published
    rfl

theorem standing_cancelled {k : Kind} {state next : k.State} (step : k.cancelled state = some next) :
    k.standing next = .ended := by
  cases k
  case subscription => cases state <;> cases step <;> rfl
  case publish => cases state <;> cases step <;> rfl
  all_goals rfl

theorem standing_refused {k : Kind} {state next : k.State} (step : k.refused state = some next) :
    k.standing next = .ended := by
  cases k
  case subscription =>
    cases state <;> cases step
    rfl
  case publish =>
    cases state <;> cases step
    rfl
  all_goals rfl

theorem standing_ended {state next : SubscriptionState}
    (step : SubscriptionState.ended state = some next) :
    Kind.standing .subscription next = .ended := by
  cases state <;> cases step <;> rfl

/-- What has ended takes no answer. -/
theorem unanswerable {k : Kind} {state next : k.State} (kind : k ≠ .fetch)
    (step : k.answered state = some next) (finished : k.standing state = .ended) :
    k.standing next = .ended := by
  cases k
  case subscription =>
    cases state <;> cases finished
    cases step
  case publish =>
    cases state <;> cases finished
    cases step
  case fetch => exact absurd rfl kind
  all_goals rfl

/-- Nothing that has ended starts again. -/
theorem standing_absorbing {k : Kind} {state next : k.State}
    (moves : Moves e c result k id (some state) next) (finished : k.standing state = .ended) :
    k.standing next = .ended := by
  cases moves with
  | driven drives step =>
    cases drives
    case cancelled => exact standing_cancelled step
    case rejected => exact standing_refused step
    case accepted kind => exact unanswerable kind.2 step finished
    case ended => exact standing_ended step
    case peerEnded =>
      cases state <;> cases finished
      cases step
    all_goals rfl
  | accepted => cases finished
  | answered answers overlap writes step =>
    cases writes
    case subscribeOk => exact unanswerable Kind.noConfusion step finished
    case requestOk kind => exact unanswerable kind.2 step finished
    case requestError => exact standing_refused step
    all_goals rfl
  | ended status step => exact standing_ended step
  | published => rfl

/-- A PUBLISH of this endpoint's is held, and did not arrive. -/
theorem own_publish (tidy : e.Tidy) (published : e.publishedAs id = some .publish) :
    id ∈ e.publishes ∧ id ∉ e.inboundRequests := by
  unfold Endpoint.publishedAs at published
  split at published
  · cases published
  · cases published
  · rename_i unkind
    split_ifs at published with held
    refine ⟨AList.lookup_isSome.mp held, fun arrived => ?_⟩
    obtain ⟨-, -, k, kind, -⟩ := tidy.entered id (AList.lookup_isSome.mpr arrived)
    rw [unkind] at kind
    cases kind

/-- A published subscription starts running when its request is accepted. -/
theorem standing_running {event : Event} (tidy : event.state.Tidy) (routed : event.state.Routed event.call) {k : Kind}
    {held : Option k.State} {next : k.State}
    (moves : Moves event.state event.call.direct event.reply k id held next)
    (published : event.state.publishedAs id = some k) (known : event.state.state k id = held)
    (still : ∀ state, held = some state → k.standing state ≠ .running)
    (running : k.standing next = .running) : event.Accepts id := by
  obtain ⟨e, c, result⟩ := event
  dsimp only at *
  generalize direct : c.direct = d at moves
  cases moves with
  | opened kind fresh => cases k <;> cases running
  | entered kind names peers fresh => cases k <;> cases running
  | driven drives step =>
    cases drives
    case accepted kind => exact .received direct rfl
    case cancelled => rw [standing_cancelled step] at running; cases running
    case rejected => rw [standing_refused step] at running; cases running
    case ended => rw [standing_ended step] at running; cases running
    case peerEnded =>
      rename_i state
      cases state <;> cases step
      cases running
    all_goals cases running
  | accepted =>
    have inbound := routed _ (congrArg Call.answersOwn direct)
    rw [Endpoint.publishedAs, Endpoint.kindOf, inbound] at published
    dsimp only [Option.bind_none] at published
    split_ifs at published
    cases published
  | answered answers overlap writes step =>
    obtain rfl := direct_own direct trivial
    cases writes
    case subscribeOk => exact .written rfl
    case requestOk kind =>
      have publish : k = .publish := by
        cases k
        case publish => rfl
        case subscription => exact absurd rfl kind.1
        case fetch => exact absurd rfl kind.2
        all_goals cases running
      subst publish
      have own := own_publish tidy published
      rw [answersAnUpdate, if_neg (by simp [isOkOrError]), if_pos own] at answers
      cases answers
    case requestError => rw [standing_refused step] at running; cases running
    all_goals cases running
  | ended status step => rw [standing_ended step] at running; cases running
  | published => cases running

/-- What the code asks is whether the subscription is published. -/
theorem publishes_iff (tidy : e.Tidy) (id : Nat) :
    e.publishesASubscription id = true ↔ ∃ k, e.publishedAs id = some k := by
  unfold publishesASubscription Endpoint.publishedAs Endpoint.kindOf
  cases arrived : e.inboundRequests.lookup id with
  | none =>
    change ((e.publishes.lookup id).isSome && true) = true ↔
      ∃ k, (if (e.publishes.lookup id).isSome then some Kind.publish else none) = some k
    cases (e.publishes.lookup id).isSome <;> simp
  | some msg =>
    have kind : (Kind.ofRequest msg).isSome := by
      obtain ⟨-, -, k, kind, -⟩ := tidy.entered id (by rw [arrived]; rfl)
      rw [kindOf, arrived] at kind
      exact Option.isSome_iff_exists.mpr ⟨k, kind⟩
    cases msg <;> simp [Kind.ofRequest] at kind ⊢

/-! ## Debts -/

/-- Offering the ending to a SUBSCRIBE that has ended already. -/
def Endpoint.Reends (e : Endpoint) (c : Call) : Prop :=
  ∃ requestId done, c = .sendResponseOnStream requestId (.publishDone done) ∧
    e.kindOf requestId.val = some .subscription ∧
    e.subscriptions.lookup requestId.val = some .done

/-- A call that neither reaches the wrong stream nor one of the two defects. -/
def Endpoint.Orderly (e : Endpoint) (c : Call) : Prop :=
  e.Routed c ∧ ¬ e.Reends c ∧ ¬ e.Overpays c

/-- A debt is retired by the ending it is owed. -/
theorem owed_step {event : Event} (effect : Effect order e event.call.direct event.reply e')
    (same : event.state = e) (careful : ¬ e.Overpays event.call)
    (owed : id ∈ e.owedUpdateFailures) :
    id ∈ e'.owedUpdateFailures ∨ ∃ done, event.Ends id done := by
  obtain ⟨state, c, result⟩ := event
  obtain rfl := same.symm
  dsimp only at *
  generalize direct : c.direct = d at effect
  cases effect with
  | overpaidPublication status stuck soft =>
    rename_i requestId _ _
    by_cases due : requestId.val ∈ e.owedUpdateFailures
    · exact absurd (overpays_direct (direct ▸ ⟨due, status due, stuck⟩)) careful
    · rw [paid_of_free e _ due]
      exact .inl owed
  | overpaidSubscription status stuck soft =>
    rename_i requestId _ _
    by_cases due : requestId.val ∈ e.owedUpdateFailures
    · exact absurd (overpays_direct (direct ▸ ⟨due, status due, stuck⟩)) careful
    · rw [paid_of_free e _ due]
      exact .inl owed
  | published status held =>
    rename_i requestId done _
    obtain rfl := direct_own direct trivial
    by_cases here : requestId.val = id
    · exact .inr ⟨done, .published here⟩
    · exact .inl (Finset.mem_erase_of_ne_of_mem (Ne.symm here) owed)
  | ended status overlap held step =>
    rename_i done _ _ requestId _
    obtain rfl := direct_own direct trivial
    by_cases here : requestId.val = id
    · exact .inr ⟨done, .responded here⟩
    · refine .inl (Finset.mem_erase_of_ne_of_mem (Ne.symm here) ?_)
      rw [← settled_owedUpdateFailures] at owed
      exact owed
  | updateAnswered =>
    left
    unfold oweEnding
    split
    · refine Finset.mem_insert_of_mem ?_
      rw [settleUpdate_eq]
      exact owed
    · rw [settleUpdate_eq]
      exact owed
  | updated =>
    left
    rw [recordUpdate_eq, charged_eq]
    exact owed
  | answered =>
    left
    rw [settleAnswer_eq]
    rw [← settled_owedUpdateFailures] at owed
    exact owed
  | overdrawn => exact .inl (by rw [charged_eq]; exact owed)
  | unexpected => exact .inl (by rw [failed, charged_eq]; exact owed)
  | opened | entered | moved | accepted =>
    exact .inl (by rw [← settled_owedUpdateFailures] at owed; exact owed)
  | _ => exact .inl owed

/-! ## What an event finds and leaves -/

/-- A refusal, a cancellation or an ending finds a machine and ends what it runs. -/
theorem finishing_event {event : Event} (effect : Effect order e event.call.direct event.reply e')
    (same : event.state = e) (finishing : event.Refuses id ∨ ∃ done, event.Ends id done) :
    ∃ k state next, e.state k id = some state ∧ e'.state k id = some next ∧
      k.standing next = .ended := by
  subst same
  rcases finishing with refuses | ⟨done, ends⟩
  · cases refuses with
    | written here own =>
      subst here
      obtain ⟨k, state, next, held, step, rfl⟩ := refused_effect effect own
      exact ⟨k, state, next, held, by simp, standing_refused step⟩
    | received direct here =>
      subst here
      rw [direct] at effect
      obtain ⟨k, state, next, held, step, rfl⟩ := rejected_effect effect
      exact ⟨k, state, next, held, by simp, standing_refused step⟩
    | cancelled here =>
      subst here
      obtain ⟨k, state, next, held, step, rfl⟩ := cancelled_effect effect
      exact ⟨k, state, next, held, by simp, standing_cancelled step⟩
  · cases ends with
    | responded here =>
      subst here
      obtain ⟨-, state, next, held, step, rfl⟩ := responded_effect effect
      exact ⟨.subscription, state, next, held, by simp, standing_ended step⟩
    | published here =>
      subst here
      obtain ⟨-, held, rfl⟩ := published_effect effect
      exact ⟨.publish, PublishState.active, PublishState.done, held, by simp, rfl⟩

/-- Only a request a machine holds has been answered. -/
def Endpoint.AnswersHeld (e : Endpoint) : Prop :=
  ∀ id ∈ e.answeredPeerRequests, ∃ k, (e.state k id).isSome

theorem settleAnswer_answered (id : Nat) (msg : ControlMessage) (e : Endpoint) :
    (settleAnswer id msg e).answeredPeerRequests ⊆ insert id e.answeredPeerRequests := by
  have restored : (e.restoreUpdateCredit id).answeredPeerRequests = e.answeredPeerRequests := by
    rw [restoreUpdateCredit_eq]
  unfold settleAnswer
  dsimp only
  split_ifs <;> simp [restored]

theorem answersHeld_step (tidy : e.Tidy) (held : e.AnswersHeld)
    (effect : Effect order e c result e') : e'.AnswersHeld := by
  have kept (id : Nat) (there : ∃ k, (e.state k id).isSome) : ∃ k, (e'.state k id).isSome := by
    obtain ⟨k, some⟩ := there
    exact ⟨k, by rw [(held_step tidy effect some).2]; exact some⟩
  have grown : e'.answeredPeerRequests ⊆ e.answeredPeerRequests ∨
      ∃ id, (∃ k, (e.state k id).isSome) ∧
        e'.answeredPeerRequests ⊆ insert id e.answeredPeerRequests := by
    cases effect with
    | answered allowed answers overlap k writes held step =>
      refine .inr ⟨_, ⟨k, (congrArg Option.isSome held).trans rfl⟩, ?_⟩
      rw [← settled_answeredPeerRequests e k _ _]
      exact settleAnswer_answered ..
    | updated => exact .inl (by rw [recordUpdate_eq, charged_eq])
    | updateAnswered => exact .inl (by rw [oweEnding_eq, settleUpdate_eq])
    | overdrawn => exact .inl (by rw [charged_eq])
    | unexpected => exact .inl (by rw [failed, charged_eq])
    | opened | entered | moved | accepted | ended | published =>
      exact .inl (settled_answeredPeerRequests ..).subset
    | _ => exact .inl subset_rfl
  intro id answered
  rcases grown with old | ⟨new, machine, grown⟩
  · exact kept id (held id (old answered))
  · rcases Finset.mem_insert.mp (grown answered) with rfl | before
    · exact kept _ machine
    · exact kept id (held id before)

/-- Refusing an update moves no prefix and no publication. -/
theorem refused_update_publishes (e : Endpoint) (id unanswered other : Nat) (error : RequestError) :
    (settleUpdate id unanswered (.requestError error) e).publishesASubscription other =
      e.publishesASubscription other := by
  have inbound : (settleUpdate id unanswered (.requestError error) e).inboundRequests =
      e.inboundRequests := by
    rw [settleUpdate_inboundRequests]
    unfold settlePrefixUpdate
    split <;> rfl
  have publishes : (settleUpdate id unanswered (.requestError error) e).publishes = e.publishes := by
    rw [settleUpdate_eq]
  rw [publishesASubscription, inbound, publishes, publishesASubscription]

/-- A refused update of a published subscription leaves its ending owed. -/
theorem owing_event (tidy : e.Tidy) {event : Event}
    (effect : Effect order e event.call.direct event.reply e') (same : event.state = e)
    (refuses : event.RefusesUpdate id) (published : ∃ k, e.publishedAs id = some k) :
    id ∈ e'.owedUpdateFailures := by
  subst same
  cases refuses with
  | written here update =>
    subst here
    rename_i e requestId error _
    rw [update_refused_effect effect update]
    have publishes := (publishes_iff tidy requestId.val).mpr published
    rw [← refused_update_publishes e requestId.val _ requestId.val error] at publishes
    rw [oweEnding, if_pos ⟨rfl, publishes⟩]
    exact Finset.mem_insert_self ..

/-- Only a request a machine holds has had an update refused. -/
theorem refused_update_held {event : Event} (answers : event.state.AnswersHeld)
    (refuses : event.RefusesUpdate id) : ∃ k, (event.state.state k id).isSome := by
  cases refuses with
  | written here update =>
    subst here
    dsimp only at *
    unfold answersAnUpdate at update
    rw [if_neg (by simp [isOkOrError])] at update
    split_ifs at update with own impossible
    · exact ⟨.publish, AList.lookup_isSome.mpr own.1⟩
    · exact absurd impossible.1 (by simp [isRequestOk])
    · exact answers _ (of_decide_eq_true update)

/-- A subscription published behind a call was published in front of it, or is new. -/
theorem published_before (tidy : e.Tidy) (effect : Effect order e c result e') {k : Kind}
    {state : k.State} (published : e'.publishedAs id = some k) (held : e'.state k id = some state) :
    (∀ k, e.state k id = none) ∨ e.publishedAs id = some k ∧ ∃ before, e.state k id = some before ∧
      (k.standing before = .ended → k.standing state = .ended) := by
  by_cases unheld : ∀ k, e.state k id = none
  · exact .inl unheld
  obtain ⟨k₀, machine⟩ := not_forall.mp unheld
  have machine : (e.state k₀ id).isSome := Option.isSome_iff_ne_none.mpr machine
  have before : (e.state k id).isSome := by
    rw [← (held_step tidy effect machine).2, held]
    rfl
  obtain ⟨before, found⟩ := Option.isSome_iff_exists.mp before
  refine .inr ⟨by rw [← publishedAs_step tidy effect machine, published], before, found, fun ended => ?_⟩
  rcases state_step tidy effect k id with kept | ⟨next, moved, moves⟩
  · rw [held, found] at kept
    cases kept
    exact ended
  · rw [held] at moved
    cases moved
    rw [found] at moves
    exact standing_absorbing moves ended

/-! ## Runs -/

/-- What a run knows of the subscription behind `id`. -/
structure Known (history : List Event) (e : Endpoint) (id : Nat) : Prop where
  unheld : (∀ k, e.state k id = none) → ∀ event ∈ history,
    ¬ event.Refuses id ∧ (∀ done, ¬ event.Ends id done) ∧ ¬ event.RefusesUpdate id
  unfinished : ∀ k state, e.publishedAs id = some k → e.state k id = some state →
    k.standing state ≠ .ended → ∀ event ∈ history,
      ¬ event.Refuses id ∧ ∀ done, ¬ event.Ends id done
  accepted : ∀ k state, e.publishedAs id = some k → e.state k id = some state →
    k.standing state = .running → ∃ event ∈ history, event.Accepts id
  owed : ∀ k state, e.publishedAs id = some k → e.state k id = some state →
    k.standing state ≠ .ended → (∃ event ∈ history, event.RefusesUpdate id) →
      id ∈ e.owedUpdateFailures

theorem known_step {event : Event} (tidy : e.Tidy) (answers : e.AnswersHeld) (same : event.state = e)
    (effect : Effect order e event.call.direct event.reply e') (orderly : e.Orderly event.call)
    (known : Known history e id) : Known (event :: history) e' id := by
  have finishing (done : event.Refuses id ∨ ∃ done, event.Ends id done) {k : Kind} {state : k.State}
      (held : e'.state k id = some state) (tidy' : e'.Tidy) : k.standing state = .ended := by
    obtain ⟨k', before, next, -, behind, ended⟩ := finishing_event effect same done
    obtain rfl := tidy'.alone k k' id (by rw [held]; rfl) (by rw [behind]; rfl)
    rw [held] at behind
    cases behind
    exact ended
  have tidy' := tidy_step tidy effect
  have running (k : Kind) (state : k.State) (held : e'.state k id = some state)
      (unended : k.standing state ≠ .ended) :
      ¬ event.Refuses id ∧ ∀ done, ¬ event.Ends id done :=
    ⟨fun refuses => unended (finishing (.inl refuses) held tidy'),
      fun done ends => unended (finishing (.inr ⟨done, ends⟩) held tidy')⟩
  constructor
  · intro unheld
    have before (k : Kind) : e.state k id = none := by
      by_contra some
      have still := (held_step tidy effect (Option.isSome_iff_ne_none.mpr some)).2 k
      rw [unheld k, Option.isSome_iff_ne_none.mpr some] at still
      cases still
    rintro other (_ | ⟨_, old⟩)
    · refine ⟨fun refuses => ?_, fun done ends => ?_, fun update => ?_⟩
      · obtain ⟨k, _, _, found, -⟩ := finishing_event effect same (.inl refuses)
        rw [before k] at found
        cases found
      · obtain ⟨k, _, _, found, -⟩ := finishing_event effect same (.inr ⟨done, ends⟩)
        rw [before k] at found
        cases found
      · subst same
        obtain ⟨k, found⟩ := refused_update_held answers update
        rw [before k] at found
        cases found
    · exact known.unheld before other old
  · rintro k state published held unended other (_ | ⟨_, old⟩)
    · exact running k state held unended
    · rcases published_before tidy effect published held with unheld | ⟨published, before, found, ended⟩
      · exact ⟨(known.unheld unheld other old).1, (known.unheld unheld other old).2.1⟩
      · exact known.unfinished k before published found (fun done => unended (ended done)) other old
  · intro k state published held runs
    rcases published_before tidy effect published held with unheld | ⟨published', before, found, ended⟩
    · rcases state_step tidy effect k id with kept | ⟨next, moved, moves⟩
      · rw [held, unheld k] at kept
        cases kept
      · rw [held] at moved
        cases moved
        rw [unheld k] at moves
        rw [moves_from_nothing moves, standing_opening published] at runs
        cases runs
    · by_cases ran : k.standing before = .running
      · exact (known.accepted k before published' found ran).imp fun _ there =>
          ⟨List.mem_cons_of_mem _ there.1, there.2⟩
      · refine ⟨event, List.mem_cons_self, ?_⟩
        rcases state_step tidy effect k id with kept | ⟨next, moved, moves⟩
        · rw [held, found] at kept
          cases kept
          exact absurd runs ran
        · rw [held] at moved
          cases moved
          subst same
          refine standing_running tidy orderly.1 moves published' rfl ?_ runs
          intro other there
          rw [found] at there
          cases there
          exact ran
  · rintro k state published held unended ⟨refusal, there, refuses⟩
    rcases published_before tidy effect published held with unheld | ⟨published', before, found, ended⟩
    · rcases List.mem_cons.mp there with rfl | old
      · subst same
        obtain ⟨k', some⟩ := refused_update_held answers refuses
        rw [unheld k'] at some
        cases some
      · exact absurd refuses (known.unheld unheld refusal old).2.2
    · rcases List.mem_cons.mp there with rfl | old
      · exact owing_event tidy effect same refuses ⟨k, published'⟩
      · have owed := known.owed k before published' found (fun done => unended (ended done))
          ⟨refusal, old, refuses⟩
        refine (owed_step effect same orderly.2.2 owed).resolve_right ?_
        rintro ⟨done, ends⟩
        exact (running k state held unended).2 done ends

theorem known_of_run (run : Allowed Endpoint.Orderly history e) (id : Nat) :
    e.Tidy ∧ e.AnswersHeld ∧ Known history e id := by
  induction run with
  | start fresh =>
    refine ⟨tidy_fresh fresh, ?_, ?_, ?_, ?_, ?_⟩
    · obtain ⟨role, rfl⟩ := fresh
      intro id answered
      cases answered
    · exact fun _ event there => by cases there
    · exact fun _ _ _ _ _ event there => by cases there
    · obtain ⟨role, rfl⟩ := fresh
      intro k state published held
      cases k <;> cases held
    · rintro k state published held unended ⟨event, there, -⟩
      cases there
  | step run next ih =>
    obtain ⟨tidy, answers, known⟩ := ih
    obtain ⟨order, effect⟩ := happens_effect tidy next
    exact ⟨tidy_step tidy effect, answersHeld_step tidy answers effect,
      known_step tidy answers next.1 effect next.2.1 known⟩

/-- What a machine holds stays published as it was opened. -/
theorem publishedAs_of_run {allowed : Endpoint → Call → Prop} {later : List Event} {k : Kind}
    (run : Run (· = e) (Happens allowed) later e') (tidy : e.Tidy) (held : (e.state k id).isSome) :
    e'.Tidy ∧ (e'.state k id).isSome ∧ e'.publishedAs id = e.publishedAs id := by
  induction run with
  | start same =>
    subst same
    exact ⟨tidy, held, rfl⟩
  | step run next ih =>
    obtain ⟨tidy, held, published⟩ := ih
    obtain ⟨order, effect⟩ := happens_effect tidy next
    exact ⟨tidy_step tidy effect, by rw [(held_step tidy effect held).2]; exact held,
      (publishedAs_step tidy effect held).trans published⟩

theorem published_kind (published : e.publishedAs id = some .subscription) :
    e.kindOf id = some .subscription := by
  unfold Endpoint.publishedAs at published
  split at published
  · assumption
  · cases published
  · split_ifs at published
    cases published

theorem published_held (tidy : e.Tidy) {k : Kind} (published : e.publishedAs id = some k) :
    (e.state k id).isSome := by
  unfold Endpoint.publishedAs at published
  split at published
  · rename_i kind
    cases published
    obtain ⟨msg, arrived, -⟩ := Option.bind_eq_some_iff.mp kind
    obtain ⟨-, -, k, same, held⟩ := tidy.entered id (by rw [arrived]; rfl)
    rw [kind] at same
    cases same
    exact held
  · cases published
  · split_ifs at published with held
    cases published
    exact held

/-- An orderly ending is written while the subscription runs, under the status it owes. -/
theorem ending_running {event : Event} {done : PublishDone} (tidy : e.Tidy)
    (effect : Effect order e event.call.direct event.reply e') (same : event.state = e)
    (orderly : e.Orderly event.call) (ends : event.Ends id done) {k : Kind}
    (published : e.publishedAs id = some k) :
    (∃ state, e.state k id = some state ∧ k.standing state = .running) ∧
      (id ∈ e.owedUpdateFailures → done.statusCode.val = updateFailed) := by
  subst same
  have single {k' : Kind} (held : (event.state.state k' id).isSome) : k' = k :=
    tidy.alone k' k id held (published_held tidy published)
  cases ends with
  | responded here =>
    subst here
    obtain ⟨status, state, next, held, step, -⟩ := responded_effect effect
    obtain rfl : Kind.subscription = k := single ((congrArg Option.isSome held).trans rfl)
    refine ⟨⟨state, held, ?_⟩, status⟩
    cases state with
    | active => rfl
    | done =>
      exact absurd ⟨_, _, rfl, published_kind published, held⟩ orderly.2.1
    | _ => cases step
  | published here =>
    subst here
    obtain ⟨status, held, -⟩ := published_effect effect
    obtain rfl : Kind.publish = k := single ((congrArg Option.isSome held).trans rfl)
    exact ⟨⟨PublishState.active, held, rfl⟩, status⟩

/-- A PUBLISH_DONE is agreed to once, on a subscription that was accepted and has been
neither refused nor cancelled, and under UPDATE_FAILED where an update was refused. -/
theorem one_ending {later earlier : List Event} {event : Event} {done : PublishDone}
    (run : Allowed Endpoint.Orderly (later ++ event :: earlier) e)
    (publishes : e.publishesASubscription id = true) (ends : event.Ends id done) :
    (∃ other ∈ earlier, other.Accepts id) ∧
      (∀ other ∈ earlier, ¬ other.Refuses id ∧ ∀ done, ¬ other.Ends id done) ∧
      ((∃ other ∈ earlier, other.RefusesUpdate id) → done.statusCode.val = updateFailed) := by
  obtain ⟨before, behind, reached, happened, resumed⟩ := run.at_event
  obtain ⟨tidy, answers, known⟩ := known_of_run reached id
  obtain ⟨order, effect⟩ := happens_effect tidy happened
  obtain ⟨k', state, next, held, -, -⟩ := finishing_event effect happened.1 (.inr ⟨done, ends⟩)
  have machine : (before.state k' id).isSome := by rw [held]; rfl
  obtain ⟨tidy', -, same⟩ := publishedAs_of_run resumed (tidy_step tidy effect)
    (by rw [(held_step tidy effect machine).2]; exact machine)
  obtain ⟨k, published⟩ := (publishes_iff tidy' id).mp publishes
  rw [same, publishedAs_step tidy effect machine] at published
  obtain ⟨⟨state, running, runs⟩, status⟩ :=
    ending_running tidy effect happened.1 happened.2.1 ends published
  have unended : k.standing state ≠ .ended := by rw [runs]; exact Standing.noConfusion
  exact ⟨known.accepted k state published running runs,
    known.unfinished k state published running unended,
    fun refused => status (known.owed k state published running unended refused)⟩

/-! A server that has taken a SUBSCRIBE of the peer's and accepted it. -/

def subscribeCalls : List Call :=
  [.connect, .receiveSetup [], .receiveRequestOnStream (.subscribe ⟨.ofU64 0, ⟨[[1]]⟩, [2], []⟩),
    .sendResponseOnStream (.ofU64 0) (.subscribeOk (.ofU64 7) [] [])]

def subscribedHistory : List Event := (Endpoint.new .server).record .stored subscribeCalls

def subscribedEndpoint : Endpoint := (Endpoint.new .server).play .stored subscribeCalls

def trackEnded : PublishDone := ⟨.ofU64 2, .ofU64 0, []⟩

def endingCall : Call := .sendResponseOnStream (.ofU64 0) (.publishDone trackEnded)

theorem subscribed_run {allowed : Endpoint → Call → Prop}
    (permitted : ∀ c ∈ subscribeCalls, ∀ e, allowed e c) :
    Allowed allowed subscribedHistory subscribedEndpoint := by
  have run := allowed_record .stored (.start ⟨.server, rfl⟩) subscribeCalls
    (permits_always .stored _ permitted)
  rwa [List.append_nil] at run

def endedEndpoint : Endpoint := (subscribedEndpoint.call .stored endingCall).2

theorem ending_happens {allowed : Endpoint → Call → Prop}
    (permitted : allowed subscribedEndpoint endingCall) :
    Happens allowed subscribedEndpoint ⟨subscribedEndpoint, endingCall, .ok .nothing⟩ endedEndpoint :=
  ⟨rfl, permitted, .stored, by rw [Prod.ext_iff]; exact ⟨by decide, rfl⟩⟩

theorem subscribe_ends_once :
    (∃ other ∈ subscribedHistory, other.Accepts 0) ∧
      (∀ other ∈ subscribedHistory, ¬ other.Refuses 0 ∧ ∀ done, ¬ other.Ends 0 done) ∧
      ((∃ other ∈ subscribedHistory, other.RefusesUpdate 0) →
        trackEnded.statusCode.val = updateFailed) := by
  have run : Allowed Endpoint.Orderly ([] ++ ⟨subscribedEndpoint, endingCall, .ok .nothing⟩ ::
      subscribedHistory) endedEndpoint := by
    refine (subscribed_run ?_).step (ending_happens ?_)
    · intro c called e
      simp only [subscribeCalls, List.mem_cons, List.not_mem_nil, or_false] at called
      rcases called with rfl | rfl | rfl | rfl
      all_goals
        refine ⟨?_, ?_, not_false⟩
        · intro id answered
          cases answered
        · rintro ⟨_, _, same, -⟩
          cases same
    · refine ⟨?_, ?_, ?_⟩
      · intro id answered
        cases answered
      · rintro ⟨_, _, same, -, done⟩
        cases same
        exact absurd done (by decide)
      · rintro ⟨owed, -⟩
        exact absurd owed (by decide)
  exact one_ending run (by decide) (.responded rfl)

/-- A second PUBLISH_DONE is agreed to as well. -/
theorem second_ending_agreed :
    ¬ ∀ (e : Endpoint) (id : Nat) (later earlier : List Event) (event : Event) (done : PublishDone),
      Allowed Endpoint.Routed (later ++ event :: earlier) e → e.publishesASubscription id = true →
      event.Ends id done → (∃ other ∈ earlier, other.Accepts id) ∧
        (∀ other ∈ earlier, ¬ other.Refuses id ∧ ∀ done, ¬ other.Ends id done) ∧
        ((∃ other ∈ earlier, other.RefusesUpdate id) → done.statusCode.val = updateFailed) := by
  intro claimed
  have routed : ∀ c ∈ endingCall :: subscribeCalls, ∀ e : Endpoint, e.Routed c :=
    routed_of_unanswered (by decide)
  have once := (subscribed_run fun c called => routed c (List.mem_cons_of_mem _ called)).step
    (ending_happens (routed _ List.mem_cons_self _))
  have again : Happens Endpoint.Routed endedEndpoint ⟨endedEndpoint, endingCall, .ok .nothing⟩
      (endedEndpoint.call .stored endingCall).2 :=
    ⟨rfl, routed _ List.mem_cons_self _, .stored, by rw [Prod.ext_iff]; exact ⟨by decide, rfl⟩⟩
  have twice : Allowed Endpoint.Routed ([] ++ ⟨endedEndpoint, endingCall, .ok .nothing⟩ ::
      ⟨subscribedEndpoint, endingCall, .ok .nothing⟩ :: subscribedHistory) _ := once.step again
  obtain ⟨-, first, -⟩ := claimed _ 0 _ _ _ trackEnded twice (by decide) (.responded rfl)
  exact (first _ List.mem_cons_self).2 trackEnded (.responded rfl)

end Moqtap.Draft22.Client
