import Moqtap.EndpointRuns

/-! What a draft-22 endpoint's errors promise: an error that closes nothing leaves
the endpoint as it was, one that closes the session closes it, and nothing else
but `close` does. Two slips break the first half (`Slips`): an update that is
refused with its credit already taken, and an ending that is refused with its
debt already retired. `disciplined_iff` says that nothing else does. -/
namespace Moqtap.Draft22.Client
open ByteCursor Varint CodecTypes Parameters Messages Machines RangeFilters Runs

namespace Endpoint

/-- What the outcome of a call may be. -/
def Disciplined (e : Endpoint) (c : Call) : Outcome Reply → Prop
  | (.error (.returned error), e') =>
    if error.sessionErrorCode = none then e' = e else e.session.Open → e'.session = .closed
  | (_, e') => e'.session = .closed → e.session = .closed ∨ c = .close

/-- An update with credit left for it, on a subscription that is not open. -/
def Overdraws (e : Endpoint) : Call → Prop
  | .receiveRequestUpdate requestId named _ =>
    named = requestId ∧ e.advertisedMaxRequestUpdates ≠ 0 ∧
      (e.outstandingPeerUpdates.lookup requestId.val).getD 0 < e.advertisedMaxRequestUpdates ∧
      (requestId.val ∈ e.inboundRequests ∨
        e.bindingIsEstablished requestId.val .publish = true) ∧
      ∃ state, e.subscriptions.lookup requestId.val = some state ∧
        SubscriptionState.updated state = none
  | _ => False

/-- The ending a refused update is owed, offered where it cannot be written. -/
def Overpays (e : Endpoint) : Call → Prop
  | .sendPublishDone requestId done =>
    requestId.val ∈ e.owedUpdateFailures ∧ done.statusCode.val = updateFailed ∧
      e.publishes.lookup requestId.val ≠ some .active
  | .sendResponseOnStream requestId (.publishDone done) =>
    requestId.val ∈ e.owedUpdateFailures ∧ done.statusCode.val = updateFailed ∧
      (requestId.val ∈ e.overlappingNamespaceSubscriptions ∨
        ∀ state, e.subscriptions.lookup requestId.val = some state →
          SubscriptionState.ended state = none)
  | _ => False

def Slips (e : Endpoint) (c : Call) : Prop :=
  ¬ e.Stops c ∧ e.Overdraws c.direct ∨ e.Overpays c

end Endpoint
open Endpoint

variable {order : IterationOrder} {e e' : Endpoint} {c d : Call} {result : Except Failure Reply}

theorem disciplined_same (soft : ∀ error, result = .error (.returned error) → error.sessionErrorCode = none)
    : e.Disciplined c (result, e) := by
  cases result with
  | ok reply => exact .inl
  | error failure =>
    cases failure with
    | panicked => exact .inl
    | returned error =>
      rw [Disciplined, if_pos (soft error rfl)]

theorem disciplined_closed {error : EndpointError} (hard : error.sessionErrorCode ≠ none)
    (closed : e'.session = e.session.failed) :
    e.Disciplined c (.error (.returned error), e') := by
  rw [Disciplined, if_neg hard, closed]
  exact SessionState.failed_of_open

theorem disciplined_ok {reply : Reply} (kept : e'.session = e.session) :
    e.Disciplined c (.ok reply, e') := by
  intro closed
  exact .inl (kept ▸ closed)

theorem conflict_code {id trackAlias : Nat} {track : Track} {error : EndpointError}
    (conflict : e.conflictingTrackAlias order id trackAlias track = some error) :
    error.sessionErrorCode = some .duplicateTrackAlias := by
  obtain ⟨b, -, rfl⟩ := Option.map_eq_some_iff.mp conflict
  rfl

theorem charged_unlimited (e : Endpoint) (id : Nat) (unlimited : e.advertisedMaxRequestUpdates = 0) :
    e.charged id = e := if_pos unlimited

/-- A call that neither overdraws nor overpays is disciplined. -/
theorem disciplined_of_effect (effect : Effect order e c.direct result e')
    (drawn : ¬ e.Overdraws c.direct) (paid : ¬ e.Overpays c.direct) :
    e.Disciplined c (result, e') := by
  generalize direct : c.direct = d at effect drawn paid
  cases effect with
  | panicked => exact .inl
  | refused soft => exact disciplined_same fun _ same => by cases same; exact soft
  | violated plain =>
    refine disciplined_closed ?_ rfl
    exact Option.isSome_iff_ne_none.mp plain.1
  | crowded => exact disciplined_closed (by simp [EndpointError.sessionErrorCode]) rfl
  | misnamed bound conflict =>
    exact disciplined_closed (by rw [conflict_code conflict]; exact Option.some_ne_none _) rfl
  | misoffered conflict =>
    exact disciplined_closed (by rw [conflict_code conflict]; exact Option.some_ne_none _) rfl
  | quiet calm open' limits sameFills =>
    intro closed
    exact (open' closed).imp_right fun same => direct_own (direct.trans same) trivial
  | overdrawn credit one held stuck soft =>
    by_cases unlimited : e.advertisedMaxRequestUpdates = 0
    · rw [charged_unlimited e _ unlimited]
      exact disciplined_same fun _ same => by cases same; exact soft
    · exact absurd ⟨rfl, unlimited, credit unlimited, one, _, held, stuck⟩ drawn
  | unexpected =>
    refine disciplined_closed (by simp [EndpointError.sessionErrorCode]) ?_
    rw [failed, charged_eq]
  | overpaidPublication status stuck soft =>
    rename_i requestId _ _
    by_cases owed : requestId.val ∈ e.owedUpdateFailures
    · exact absurd ⟨owed, status owed, stuck⟩ paid
    · rw [paid_of_free e _ owed]
      exact disciplined_same fun _ same => by cases same; exact soft
  | overpaidSubscription status stuck soft =>
    rename_i requestId _ _
    by_cases owed : requestId.val ∈ e.owedUpdateFailures
    · exact absurd ⟨owed, status owed, stuck⟩ paid
    · rw [paid_of_free e _ owed]
      exact disciplined_same fun _ same => by cases same; exact soft
  | updated =>
    refine disciplined_ok ?_
    rw [recordUpdate_eq, charged_eq]
  | updateAnswered =>
    refine disciplined_ok ?_
    rw [oweEnding_eq, settleUpdate_eq]
  | answered =>
    refine disciplined_ok ?_
    rw [settleAnswer_eq]
    exact settled_session ..
  | opened | entered | moved | accepted | ended | published =>
    exact disciplined_ok (settled_session ..)

theorem overpays_direct (overpays : e.Overpays c.direct) : e.Overpays c := by
  cases c with
  | receiveMessage msg => cases msg <;> exact overpays
  | receiveResponseOnStream id msg => cases msg <;> exact overpays
  | receiveOnPeerRequestStream id msg => cases msg <;> exact overpays
  | _ => exact overpays

/-! ## What the two slips do -/

/-- An error that closes nothing, with something moved. -/
theorem undisciplined {error : EndpointError} (outcome : e.call order d = (.error (.returned error), e'))
    (soft : error.sessionErrorCode = none) (moved : e' ≠ e) : ¬ e.Disciplined c (e.call order d) := by
  rw [outcome, Disciplined, if_pos soft]
  exact moved

theorem charged_ne (e : Endpoint) (id : Nat) (limited : e.advertisedMaxRequestUpdates ≠ 0) :
    e.charged id ≠ e := by
  intro same
  have counts := congrArg (fun e => (AList.lookup id e.outstandingPeerUpdates).getD 0) same
  rw [charged, if_neg limited] at counts
  simp at counts

theorem paid_ne (e : Endpoint) (id : Nat) (owed : id ∈ e.owedUpdateFailures) : e.paid id ≠ e := by
  intro same
  have debts := congrArg (fun e => id ∈ e.owedUpdateFailures) same
  simp [Endpoint.paid, owed] at debts

/-- A machine that cannot take an event leaves the endpoint as it was. -/
theorem drive_stuck (e : Endpoint) (k : Kind) (id : Nat) (edge : k.State → Option k.State)
    (event : String)
    (stuck : ∀ state, (k.flow.table e).lookup id = some state → edge state = none) :
    ∃ error, error.sessionErrorCode = none ∧
      e.drive k.flow id (fire edge event) = e.refuse error := by
  rcases drive_cases e k id edge event with ⟨error, soft, refused, -⟩ | ⟨state, next, held, step, -⟩
  · exact ⟨error, soft, refused⟩
  · rw [stuck state held] at step
    cases step

theorem undisciplined_overdraws (overdraws : e.Overdraws d) : ¬ e.Disciplined c (e.call order d) := by
  cases d with
  | receiveRequestUpdate requestId named parameters =>
    obtain ⟨rfl, limited, credit, one, state, held, stuck⟩ := overdraws
    obtain ⟨error, soft, refused⟩ := drive_stuck (e.charged named.val) .subscription named.val
      SubscriptionState.updated "on_subscribe_update" (by
        intro other found
        rw [show Kind.subscription.flow.table (e.charged named.val) = e.subscriptions from
          charged_subscriptions e _, held] at found
        cases found
        exact stuck)
    have spent : e.spendUpdateCredit named.val = (.ok (), e.charged named.val) := by
      rcases spendUpdateCredit_cases e named.val with ⟨-, full, -⟩ | ⟨-, spent⟩
      · exact absurd credit (not_lt.mpr full)
      · exact spent
    have taken : (e.charged named.val).takeUpdate named.val parameters =
        (e.charged named.val).refuse error := by
      unfold takeUpdate
      rw [if_neg (mt (charged_one e named.val named.val).mp ?_), if_pos ?_]
      · have same : (e.charged named.val).drive subscriptionFlow named.val
            SubscriptionState.onSubscribeUpdate = (e.charged named.val).refuse error := refused
        rw [same]
        rfl
      · rw [charged_subscriptions]
        exact AList.lookup_isSome.mp (by rw [held]; rfl)
      · rintro ⟨absent, closed⟩
        rcases one with inbound | opened
        · exact absent inbound
        · rw [opened] at closed
          cases closed
    have outcome : e.call order (.receiveRequestUpdate named named parameters) =
        (.error (.returned error), e.charged named.val) := by
      rw [call, receiveRequestUpdate, if_neg (not_not.mpr rfl), spent]
      change (((e.charged named.val).takeUpdate named.val parameters).map _) = _
      rw [taken]
      rfl
    exact undisciplined outcome soft (charged_ne e _ limited)
  | _ => exact overdraws.elim

theorem status_passed (e : Endpoint) (id : Nat) (statusCode : VarInt)
    (status : statusCode.val = updateFailed) :
    e.requireUpdateFailureStatus id statusCode = (.ok (), e.paid id) := by
  unfold requireUpdateFailureStatus
  by_cases free : id ∉ e.owedUpdateFailures
  · rw [if_pos free, paid_of_free e id free]
  · rw [if_neg free, if_neg (not_not.mpr status)]
    rfl

/-- The outcome of an ending offered where it cannot be written. -/
theorem overpaid_outcome (order : IterationOrder) (overpays : e.Overpays c) :
    ∃ error id, error.sessionErrorCode = none ∧ id ∈ e.owedUpdateFailures ∧
      e.call order c = (.error (.returned error), e.paid id) := by
  cases c with
  | sendPublishDone requestId done =>
    obtain ⟨owed, status, stuck⟩ := overpays
    obtain ⟨error, soft, refused⟩ := drive_stuck (e.paid requestId.val) .publish requestId.val
      PublishState.ended "on_publish_done_sent" (by
        intro state found
        cases state with
        | active => exact absurd found stuck
        | _ => rfl)
    refine ⟨error, requestId.val, soft, owed, ?_⟩
    rw [call, sendPublishDone, status_passed e _ _ status]
    change ((((e.paid requestId.val).drive publishFlow requestId.val
      PublishState.onPublishDoneSent).andThen fun _ e => (.ok (.publishDone done), e)).map
        Reply.message) = _
    have same : (e.paid requestId.val).drive publishFlow requestId.val
        PublishState.onPublishDoneSent = (e.paid requestId.val).refuse error := refused
    rw [same]
    rfl
  | sendResponseOnStream requestId msg =>
    cases msg with
    | publishDone done =>
      obtain ⟨owed, status, stuck⟩ := overpays
      have answered : ∃ error, error.sessionErrorCode = none ∧
          (e.paid requestId.val).answerRequest requestId.val (.publishDone done) =
            (e.paid requestId.val).refuse error := by
        unfold answerRequest
        rcases requireOverlapRefusal_cases requestId.val
          ((e.paid requestId.val).overlappingNamespaceSubscriptions.lookup requestId.val)
            (.publishDone done) with overlap | ⟨-, error, soft, overlapped⟩
        · rw [overlap]
          have stuck : ∀ state, e.subscriptions.lookup requestId.val = some state →
              SubscriptionState.ended state = none := by
            refine stuck.resolve_left fun flagged => ?_
            obtain ⟨established, found⟩ := Option.isSome_iff_exists.mp (AList.lookup_isSome.mpr flagged)
            rw [show (e.paid requestId.val).overlappingNamespaceSubscriptions.lookup requestId.val =
              some established from found] at overlap
            cases overlap
          obtain ⟨error, soft, refused⟩ := drive_stuck (e.paid requestId.val) .subscription
            requestId.val SubscriptionState.ended "on_publish_done_sent" stuck
          have same : (e.paid requestId.val).drive subscriptionFlow requestId.val
              SubscriptionState.onPublishDoneSent = (e.paid requestId.val).refuse error := refused
          refine ⟨error, soft, ?_⟩
          change ((e.paid requestId.val).drive subscriptionFlow requestId.val
            SubscriptionState.onPublishDoneSent).andThen _ = _
          rw [same]
          rfl
        · rw [overlapped]
          exact ⟨error, soft, rfl⟩
      obtain ⟨error, soft, refused⟩ := answered
      refine ⟨error, requestId.val, soft, owed, ?_⟩
      rw [call, sendResponseOnStream]
      change (((e.requireUpdateFailureStatus requestId.val done.statusCode).andThen
        fun _ e => e.answerRequest requestId.val (.publishDone done)).map _) = _
      rw [status_passed e _ _ status]
      change (((e.paid requestId.val).answerRequest requestId.val (.publishDone done)).map _) = _
      rw [refused]
      rfl
    | _ => exact overpays.elim
  | _ => exact overpays.elim

/-- A call of a reachable endpoint is disciplined exactly when it does not slip. -/
theorem disciplined_iff (order : IterationOrder) (e : Endpoint) (reachable : e.Reachable) (c : Call) :
    e.Disciplined c (e.call order c) ↔ ¬ e.Slips c := by
  obtain ⟨history, run⟩ := reachable
  have unbounded := (tidy_of_run run).unbounded
  constructor
  · rintro disciplined (⟨passed, overdraws⟩ | overpays)
    · rw [call_direct order passed] at disciplined
      exact undisciplined_overdraws overdraws disciplined
    · obtain ⟨error, id, soft, owed, outcome⟩ := overpaid_outcome order overpays
      exact undisciplined outcome soft (paid_ne e id owed) disciplined
  · intro careful
    by_cases stopped : e.Stops c
    · obtain ⟨error, plain, closed⟩ := call_stopped order stopped
      rw [closed]
      exact disciplined_closed (Option.isSome_iff_ne_none.mp plain.1) rfl
    · refine disciplined_of_effect (call_effect order e c unbounded) ?_ ?_
      · exact fun overdraws => careful (.inl ⟨stopped, overdraws⟩)
      · exact fun overpays => careful (.inr (overpays_direct overpays))

theorem connect_disciplined :
    (Endpoint.new .client).Disciplined .connect ((Endpoint.new .client).call .stored .connect) := by
  refine (disciplined_iff .stored _ (reachable_new .client) .connect).mpr ?_
  rintro (⟨-, overdraws⟩ | overpays)
  · exact overdraws
  · exact overpays

/-- A server that allows one update at a time, with a SUBSCRIBE of the peer's cancelled. -/
def cancelledSubscription : Endpoint :=
  (Endpoint.new .server).play .stored
    [.connect, .sendSetup [⟨.ofU64 maxRequestUpdates, .varint (.ofU64 1)⟩], .receiveSetup [],
      .receiveRequestOnStream (.subscribe ⟨.ofU64 0, ⟨[[1]]⟩, [2], []⟩), .cancelRequest (.ofU64 0)]

/-- The update that crosses the cancellation is refused, and its credit is gone. -/
theorem crossing_update_undisciplined :
    ¬ ∀ order e c, Endpoint.Reachable e → e.Disciplined c (e.call order c) := by
  intro claimed
  have reachable : cancelledSubscription.Reachable := reachable_play _ (reachable_new _) _
  have overdraws : cancelledSubscription.Overdraws (.receiveRequestUpdate (.ofU64 0) (.ofU64 0) []) :=
    ⟨rfl, by decide, by decide, by decide, .done, by decide, rfl⟩
  exact undisciplined_overdraws overdraws (claimed .stored _ _ reachable)

end Moqtap.Draft22.Client
