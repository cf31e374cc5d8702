import Moqtap.EndpointDiscipline

/-! The credit for REQUEST_UPDATEs, kept at both ends of a session. `Link` is an
endpoint, a peer that keeps the draft's literal count, and the messages between
them on each request stream. An answer written while nothing is outstanding gives
no credit back here, so the two counts agree as long as the peer, reading it, has
none to give back either (`balanced_of_run`, `never_crowded`). -/
namespace Moqtap.Draft22.Client
open ByteCursor Varint CodecTypes Parameters Messages Machines RangeFilters Runs
open Endpoint

variable {order : IterationOrder} {e e' : Endpoint} {c : Call} {result : Except Failure Reply}
  {requestId : VarInt}

/-! ## What a call does to the count of one request -/

/-- The updates of one request the endpoint counts as outstanding. -/
def Endpoint.outstanding (e : Endpoint) (id : Nat) : Nat :=
  (e.outstandingPeerUpdates.lookup id).getD 0

theorem charged_outstanding (e : Endpoint) (id other : Nat) :
    (e.charged id).outstanding other ≤ e.outstanding other + if other = id then 1 else 0 := by
  unfold charged Endpoint.outstanding
  split
  · exact Nat.le_add_right ..
  · by_cases here : other = id
    · subst here
      simp
    · simp [AList.lookup_insert_ne here]

theorem restored_outstanding (e : Endpoint) (id other : Nat) :
    (e.restoreUpdateCredit id).outstanding other =
      if other = id then e.outstanding other - 1 else e.outstanding other := by
  unfold restoreUpdateCredit Endpoint.outstanding
  by_cases here : other = id
  · subst here
    cases held : e.outstandingPeerUpdates.lookup other <;> simp [held]
  · cases held : e.outstandingPeerUpdates.lookup id <;> simp [here, AList.lookup_insert_ne here]

theorem settleUpdate_outstanding (e : Endpoint) (id unanswered other : Nat) (msg : ControlMessage) :
    (settleUpdate id unanswered msg e).outstanding other =
      if other = id then e.outstanding other - 1 else e.outstanding other := by
  have prefixed (e : Endpoint) (accepted : Bool) :
      (settlePrefixUpdate id accepted e).outstanding other = e.outstanding other := by
    rw [settlePrefixUpdate_eq]
    rfl
  have base (table : Table Nat) :
      (restoreUpdateCredit { e with unansweredPeerUpdates := table } id).outstanding other =
        (e.restoreUpdateCredit id).outstanding other := by
    unfold restoreUpdateCredit
    dsimp only
    split <;> rfl
  rw [← restored_outstanding]
  unfold settleUpdate
  dsimp only
  split_ifs <;> exact (prefixed _ _).trans (base _)

theorem oweEnding_outstanding (e : Endpoint) (id other : Nat) (msg : ControlMessage) :
    (oweEnding id msg e).outstanding other = e.outstanding other := by
  rw [oweEnding_eq]
  rfl

theorem settleAnswer_outstanding (e : Endpoint) (id other : Nat) (msg : ControlMessage) :
    (settleAnswer id msg e).outstanding other =
      if isOkOrError msg = true ∧ other = id then e.outstanding other - 1
      else e.outstanding other := by
  have table : (settleAnswer id msg e).outstandingPeerUpdates =
      (if isOkOrError msg = true then e.restoreUpdateCredit id else e).outstandingPeerUpdates := by
    unfold settleAnswer
    dsimp only
    cases isRequestError msg <;> cases isAcceptance msg <;> rfl
  rw [Endpoint.outstanding, table]
  by_cases ok : isOkOrError msg = true
  · rw [if_pos ok]
    refine (restored_outstanding e id other).trans ?_
    simp only [ok, true_and]
  · rw [if_neg ok, if_neg fun both => ok both.1]
    rfl

/-- A call raises the count of one request by an update of it, and lowers it by an answer. -/
theorem outstanding_step (effect : Effect order e c result e') (id : Nat) :
    e'.outstanding id = e.outstanding id ∨
    (∃ requestId named parameters, c = .receiveRequestUpdate requestId named parameters ∧
      requestId.val = id ∧ e'.outstanding id ≤ e.outstanding id + 1) ∨
    ∃ requestId msg reply, c = .sendResponseOnStream requestId msg ∧ result = .ok reply ∧
      isOkOrError msg = true ∧ requestId.val = id ∧ e'.outstanding id = e.outstanding id - 1 := by
  have same (e' : Endpoint) (table : e'.outstandingPeerUpdates = e.outstandingPeerUpdates) :
      e'.outstanding id = e.outstanding id := by
    rw [Endpoint.outstanding, table, Endpoint.outstanding]
  have charged (requestId : VarInt) : (e.charged requestId.val).outstanding id = e.outstanding id ∨
      requestId.val = id ∧ (e.charged requestId.val).outstanding id ≤ e.outstanding id + 1 := by
    by_cases here : id = requestId.val
    · have bound := charged_outstanding e requestId.val id
      rw [if_pos here] at bound
      exact .inr ⟨here.symm, bound⟩
    · left
      unfold Endpoint.charged
      split
      · rfl
      · exact congrArg (Option.getD · 0) (AList.lookup_insert_ne here)
  cases effect with
  | overdrawn credit one held stuck soft =>
    rename_i requestId parameters error
    exact (charged requestId).imp_right fun here =>
      .inl ⟨requestId, requestId, parameters, rfl, here⟩
  | unexpected =>
    rename_i requestId parameters
    exact (charged requestId).imp_right fun here =>
      .inl ⟨requestId, requestId, parameters, rfl, here⟩
  | updated credit one sameStates =>
    rename_i requestId parameters reply subscriptions
    rw [show (recordUpdate requestId.val parameters { e.charged requestId.val with
      subscriptions := subscriptions }).outstanding id = (e.charged requestId.val).outstanding id by
        rw [recordUpdate_eq]; rfl]
    exact (charged requestId).imp_right fun here =>
      .inl ⟨requestId, requestId, parameters, rfl, here⟩
  | updateAnswered allowed answers unanswered overlap =>
    rename_i msg requestId reply
    rw [oweEnding_outstanding, settleUpdate_outstanding]
    by_cases here : id = requestId.val
    · rw [if_pos here]
      refine .inr (.inr ⟨requestId, msg, reply, rfl, rfl, ?_, here.symm, rfl⟩)
      by_contra other
      rw [answersAnUpdate, if_pos (by simpa using other)] at answers
      cases answers
    · rw [if_neg here]
      exact .inl rfl
  | answered allowed answers overlap k writes held step =>
    rename_i msg requestId reply edge state next
    have settled := same _ (settled_outstandingPeerUpdates e k requestId.val next)
    rw [settleAnswer_outstanding, settled]
    by_cases ok : isOkOrError msg = true ∧ id = requestId.val
    · rw [if_pos ok]
      exact .inr (.inr ⟨requestId, msg, reply, rfl, rfl, ok.1, ok.2.symm, rfl⟩)
    · rw [if_neg ok]
      exact .inl rfl
  | opened | entered | moved | accepted | ended | published =>
    exact .inl (same _ (settled_outstandingPeerUpdates ..))
  | _ => exact .inl rfl

/-- An answer agreed to gives a credit back, if there is one. -/
theorem answered_outstanding {msg : ControlMessage} {reply : Reply}
    (effect : Effect order e (.sendResponseOnStream requestId msg) (.ok reply) e')
    (ok : isOkOrError msg = true) (id : Nat) :
    e'.outstanding id = if id = requestId.val then e.outstanding id - 1 else e.outstanding id := by
  cases effect with
  | quiet calm =>
    cases msg <;> first | exact calm.elim | cases ok
  | opened k kind => cases kind
  | moved k drives => cases drives
  | updateAnswered =>
    rw [oweEnding_outstanding, settleUpdate_outstanding]
  | answered allowed answers overlap k writes held step =>
    rename_i next
    have settled : (e.settled k requestId.val next).outstanding id = e.outstanding id := by
      rw [Endpoint.outstanding, settled_outstandingPeerUpdates, Endpoint.outstanding]
    rw [settleAnswer_outstanding, settled]
    simp only [ok, true_and]
  | ended => cases ok

/-- Only SETUP states the limit. -/
theorem limit_step (effect : Effect order e c result e') (unstated : ∀ options, c ≠ .sendSetup options) :
    e'.advertisedMaxRequestUpdates = e.advertisedMaxRequestUpdates := by
  cases effect with
  | quiet calm open' limits => exact limits.resolve_left fun stated => unstated _ stated.choose_spec
  | overdrawn => rw [charged_eq]
  | unexpected => rw [failed, charged_eq]
  | updated => rw [recordUpdate_eq, charged_eq]
  | updateAnswered => rw [oweEnding_eq, settleUpdate_eq]
  | answered =>
    rw [settleAnswer_eq]
    exact settled_advertisedMaxRequestUpdates ..
  | opened | entered | moved | accepted | ended | published =>
    exact settled_advertisedMaxRequestUpdates ..
  | _ => rfl

/-- The session is closed over too many updates only when the count is at the limit. -/
theorem crowded_cause {id limit : Nat}
    (effect : Effect order e c (.error (.returned (.tooManyRequestUpdates id limit))) e') :
    e.advertisedMaxRequestUpdates ≠ 0 ∧ ∃ requestId parameters,
      c = .receiveRequestUpdate requestId requestId parameters ∧
        e.advertisedMaxRequestUpdates ≤ e.outstanding requestId.val := by
  cases effect with
  | crowded limited full => exact ⟨limited, _, _, rfl, full⟩
  | refused soft => cases soft
  | violated plain => exact absurd rfl plain.2.1
  | misnamed bound conflict => cases conflict_code conflict
  | misoffered conflict => cases conflict_code conflict
  | overdrawn credit one held stuck soft => cases soft
  | overpaidPublication status stuck soft => cases soft
  | overpaidSubscription status stuck soft => cases soft

/-! ## Both ends of a session -/

/-- A message of the endpoint's on a request stream, and whether writing it gave back
a credit here. -/
structure Answer where
  msg : ControlMessage
  restores : Bool

/-- An endpoint, a peer that counts its own updates, and what is in flight between
them, one queue a direction for each request stream. -/
structure Link where
  endpoint : Endpoint
  count : VarInt → Nat
  updates : VarInt → List (VarInt × List KeyValuePair)
  answers : VarInt → List Answer

/-- What happens on a link. -/
inductive Act where
  /-- The peer sends a REQUEST_UPDATE. -/
  | sends (requestId named : VarInt) (parameters : List KeyValuePair)
  /-- The endpoint takes the next REQUEST_UPDATE of a stream. -/
  | takes (requestId : VarInt) (c : Call)
  /-- Any other call of the endpoint's, after SETUP. -/
  | makes (c : Call)
  /-- The peer reads the next message of a stream. -/
  | reads (requestId : VarInt)

/-- What the endpoint put on the wire, if anything. -/
def Link.posted (link : Link) : Call → Except Failure Reply → VarInt → List Answer
  | .sendResponseOnStream requestId msg, .ok _ =>
    Function.update link.answers requestId
      (link.answers requestId ++ [⟨msg, 0 < link.endpoint.outstanding requestId.val⟩])
  | _, _ => link.answers

inductive Link.Step : Link → Act → Link → Prop
  | sends {link : Link} (requestId named : VarInt) (parameters : List KeyValuePair)
      (credit : link.count requestId < link.endpoint.advertisedMaxRequestUpdates) :
      Step link (.sends requestId named parameters) { link with
        count := Function.update link.count requestId (link.count requestId + 1)
        updates := Function.update link.updates requestId
          (link.updates requestId ++ [(named, parameters)]) }
  | takes {link : Link} {requestId named : VarInt} {parameters : List KeyValuePair}
      {rest : List (VarInt × List KeyValuePair)} (c : Call) (order : IterationOrder)
      (queued : link.updates requestId = (named, parameters) :: rest)
      (direct : c.direct = .receiveRequestUpdate requestId named parameters) :
      Step link (.takes requestId c) { link with
        endpoint := (link.endpoint.call order c).2
        updates := Function.update link.updates requestId rest }
  | makes {link : Link} (c : Call) (order : IterationOrder)
      (other : ∀ requestId named parameters,
        c.direct ≠ .receiveRequestUpdate requestId named parameters)
      (settled : ∀ options, c ≠ .sendSetup options) :
      Step link (.makes c) { link with
        endpoint := (link.endpoint.call order c).2
        answers := link.posted c (link.endpoint.call order c).1 }
  | reads {link : Link} (requestId : VarInt) {answer : Answer} {rest : List Answer}
      (queued : link.answers requestId = answer :: rest) :
      Step link (.reads requestId) { link with
        count := if isOkOrError answer.msg then
            Function.update link.count requestId (link.count requestId - 1)
          else link.count
        answers := Function.update link.answers requestId rest }

/-- A session as SETUP leaves it, nothing sent yet. -/
def Link.Start (link : Link) : Prop :=
  (∃ role options order,
    link.endpoint = ((Endpoint.new role).call order (.sendSetup options)).2) ∧
    link.count = (fun _ => 0) ∧ link.updates = (fun _ => []) ∧ link.answers = fun _ => []

/-- Where the peer reads an answer that gave no credit back, it has none to give back. -/
def Link.Agrees (link : Link) : Act → Prop
  | .reads requestId => ∀ answer rest, link.answers requestId = answer :: rest →
      isOkOrError answer.msg = true → answer.restores = false → link.count requestId = 0
  | _ => True

/-- The answers in flight that gave a credit back. -/
def restoring (answers : List Answer) : Nat :=
  answers.countP fun answer => isOkOrError answer.msg && answer.restores

/-- What the endpoint counts, and will count for what is in flight, the peer counts. -/
structure Link.Balanced (link : Link) : Prop where
  tidy : link.endpoint.Tidy
  balance : ∀ requestId : VarInt, link.endpoint.outstanding requestId.val +
    (link.updates requestId).length + restoring (link.answers requestId) ≤ link.count requestId
  bounded : ∀ requestId, link.count requestId ≤ link.endpoint.advertisedMaxRequestUpdates

theorem restoring_cons (answer : Answer) (answers : List Answer) :
    restoring (answer :: answers) = restoring answers +
      if (isOkOrError answer.msg && answer.restores) = true then 1 else 0 :=
  List.countP_cons

theorem restoring_snoc (answers : List Answer) (answer : Answer) :
    restoring (answers ++ [answer]) = restoring answers +
      if (isOkOrError answer.msg && answer.restores) = true then 1 else 0 := by
  rw [restoring, List.countP_append, List.countP_singleton, restoring]

/-- What is not an answer agreed to restores nothing. -/
theorem posted_restoring {link : Link} {c : Call} {result : Except Failure Reply}
    {requestId : VarInt} (unwritten : ¬ ∃ msg reply, c = .sendResponseOnStream requestId msg ∧
      result = .ok reply ∧ isOkOrError msg = true) :
    restoring (link.posted c result requestId) = restoring (link.answers requestId) := by
  unfold Link.posted
  split
  · rename_i answered msg reply
    by_cases here : requestId = answered
    · subst here
      rw [Function.update_self, restoring_snoc]
      have other : isOkOrError msg = false := by
        by_contra ok
        exact unwritten ⟨msg, reply, rfl, rfl, Bool.not_eq_false _ ▸ ok⟩
      simp [other]
    · rw [Function.update_of_ne here]
  · rfl

/-- A call that takes no update moves at most a credit from the endpoint's count to the wire. -/
theorem posted_balance {link : Link} {c : Call} {result : Except Failure Reply} {e' : Endpoint}
    (effect : Effect order link.endpoint c.direct result e')
    (other : ∀ requestId named parameters, c.direct ≠ .receiveRequestUpdate requestId named parameters)
    (requestId : VarInt) :
    e'.outstanding requestId.val + restoring (link.posted c result requestId) ≤
      link.endpoint.outstanding requestId.val + restoring (link.answers requestId) := by
  by_cases wrote : ∃ msg reply, c = .sendResponseOnStream requestId msg ∧ result = .ok reply ∧
      isOkOrError msg = true
  · obtain ⟨msg, reply, rfl, rfl, ok⟩ := wrote
    have fewer := answered_outstanding effect ok requestId.val
    rw [if_pos rfl] at fewer
    have posted : link.posted (.sendResponseOnStream requestId msg) (.ok reply) requestId =
        link.answers requestId ++ [⟨msg, 0 < link.endpoint.outstanding requestId.val⟩] :=
      Function.update_self ..
    rw [posted, restoring_snoc, fewer]
    simp only [ok, Bool.true_and, decide_eq_true_eq]
    split_ifs <;> omega
  · have same : e'.outstanding requestId.val = link.endpoint.outstanding requestId.val := by
      rcases outstanding_step effect requestId.val with same | ⟨_, _, _, update, -⟩ |
        ⟨answered, msg, reply, written, done, ok, here, -⟩
      · exact same
      · exact absurd update (other _ _ _)
      · obtain rfl := VarInt.ext here
        exact absurd ⟨msg, reply, direct_own written trivial, done, ok⟩ wrote
    rw [same, posted_restoring wrote]

theorem balanced_start {link : Link} (start : link.Start) : link.Balanced := by
  obtain ⟨⟨role, options, order, made⟩, count, updates, answers⟩ := start
  have effect := call_effect order (Endpoint.new role) (.sendSetup options)
    (tidy_fresh ⟨role, rfl⟩).unbounded
  rw [← made] at effect
  refine ⟨tidy_step (tidy_fresh ⟨role, rfl⟩) effect, fun requestId => ?_, fun requestId => ?_⟩
  · have none : link.endpoint.outstanding requestId.val = 0 := by
      rcases outstanding_step effect requestId.val with same | ⟨_, _, _, update, -⟩ | ⟨_, _, _, wrote, -⟩
      · rw [same]
        rfl
      · cases update
      · cases wrote
    rw [count, updates, answers, none]
    exact Nat.zero_le _
  · rw [count]
    exact Nat.zero_le _

theorem balanced_step {link link' : Link} {act : Act} (balanced : link.Balanced)
    (agrees : link.Agrees act) (step : Link.Step link act link') : link'.Balanced := by
  obtain ⟨tidy, balance, bounded⟩ := balanced
  cases step with
  | sends requestId named parameters credit =>
    refine ⟨tidy, fun other => ?_, fun other => ?_⟩
    · by_cases here : other = requestId
      · subst here
        have before := balance other
        simp
        omega
      · simpa [here] using balance other
    · by_cases here : other = requestId
      · subst here
        simpa using credit
      · simpa [here] using bounded other
  | takes c order queued direct =>
    rename_i requestId named parameters rest
    have effect := call_effect order link.endpoint c tidy.unbounded
    rw [direct] at effect
    refine ⟨tidy_step tidy effect, fun other => ?_, fun other => ?_⟩
    · have before := balance other
      by_cases here : other = requestId
      · subst here
        have taken : (link.endpoint.call order c).2.outstanding other.val ≤
            link.endpoint.outstanding other.val + 1 := by
          rcases outstanding_step effect other.val with same | ⟨_, _, _, -, -, bound⟩ | ⟨_, _, _, wrote, -⟩
          · omega
          · exact bound
          · cases wrote
        rw [queued] at before
        simp at before ⊢
        omega
      · have kept : (link.endpoint.call order c).2.outstanding other.val =
            link.endpoint.outstanding other.val := by
          rcases outstanding_step effect other.val with same | ⟨_, _, _, update, hit, -⟩ | ⟨_, _, _, wrote, -⟩
          · exact same
          · cases update
            exact absurd (VarInt.ext hit).symm here
          · cases wrote
        simp [here, kept]
        exact before
    · rw [limit_step effect fun _ => Call.noConfusion]
      exact bounded other
  | makes c order other settled =>
    have effect := call_effect order link.endpoint c tidy.unbounded
    refine ⟨tidy_step tidy effect, fun requestId => ?_, fun requestId => ?_⟩
    · have before := balance requestId
      have posted := posted_balance effect other requestId
      dsimp only
      omega
    · rw [limit_step effect fun options stated => settled options (direct_own stated trivial)]
      exact bounded requestId
  | reads requestId queued =>
    rename_i answer rest
    refine ⟨tidy, fun other => ?_, fun other => ?_⟩
    · have before := balance other
      by_cases here : other = requestId
      · subst here
        rw [queued, restoring_cons] at before
        have agreed := agrees answer rest queued
        cases ok : isOkOrError answer.msg with
        | false =>
          simp [ok] at before ⊢
          exact before
        | true =>
          cases restores : answer.restores with
          | false =>
            have none := agreed ok restores
            simp [ok, restores, none] at before ⊢
            omega
          | true =>
            simp [ok, restores] at before ⊢
            omega
      · simp [here]
        split_ifs <;> simp [here, before]
    · split_ifs
      · by_cases here : other = requestId
        · subst here
          simp
          have := bounded other
          omega
        · simpa [here] using bounded other
      · exact bounded other

/-- What happens while the two counts agree. -/
def Link.Conforming (link : Link) (act : Act) (link' : Link) : Prop :=
  link.Agrees act ∧ Link.Step link act link'

theorem balanced_of_run {link : Link} {history : List Act}
    (run : Run Link.Start Link.Conforming history link) : link.Balanced :=
  run.always (fun _ => balanced_start) fun _ _ _ balanced next => balanced_step balanced next.1 next.2

/-- An update that a conforming peer has sent is never one too many. -/
theorem never_crowded {link : Link} {history : List Act} {named : VarInt}
    {parameters : List KeyValuePair} {rest : List (VarInt × List KeyValuePair)}
    (run : Run Link.Start Link.Conforming history link)
    (queued : link.updates requestId = (named, parameters) :: rest)
    (direct : c.direct = .receiveRequestUpdate requestId named parameters) (order : IterationOrder)
    (id limit : Nat) :
    (link.endpoint.call order c).1 ≠ .error (.returned (.tooManyRequestUpdates id limit)) := by
  intro crowded
  obtain ⟨tidy, balance, bounded⟩ := balanced_of_run run
  have effect := call_effect order link.endpoint c tidy.unbounded
  rw [crowded] at effect
  obtain ⟨-, other, others, update, full⟩ := crowded_cause effect
  rw [direct] at update
  cases update
  have balance := balance requestId
  have bounded := bounded requestId
  rw [queued, List.length_cons] at balance
  omega

/-! A server that allows one update at a time on each request stream. -/

def startLink : Link where
  endpoint := ((Endpoint.new .server).call .stored
    (.sendSetup [⟨.ofU64 maxRequestUpdates, .varint (.ofU64 1)⟩])).2
  count _ := 0
  updates _ := []
  answers _ := []

theorem startLink_start : startLink.Start := ⟨⟨.server, _, .stored, rfl⟩, rfl, rfl, rfl⟩

def stream : VarInt := .ofU64 0

theorem first_update_uncrowded :
    (startLink.endpoint.call .stored (.receiveRequestUpdate stream stream [])).1 ≠
      .error (.returned (.tooManyRequestUpdates 0 1)) := by
  have sent : Link.Conforming startLink (.sends stream stream []) _ := ⟨trivial, .sends _ _ _ (by decide)⟩
  exact never_crowded ((Run.start startLink_start).step sent) rfl rfl .stored 0 1

/-- An answer that crosses an update gives a credit back at one end alone, and the
peer's next update closes the session. -/
theorem crossing_answer_crowds :
    ¬ ∀ (link : Link) (history : List Act) (requestId named : VarInt)
      (parameters : List KeyValuePair) (rest : List (VarInt × List KeyValuePair)) (c : Call)
      (order : IterationOrder) (id limit : Nat), Run Link.Start Link.Step history link →
      link.updates requestId = (named, parameters) :: rest →
      c.direct = .receiveRequestUpdate requestId named parameters →
      (link.endpoint.call order c).1 ≠ .error (.returned (.tooManyRequestUpdates id limit)) := by
  intro claimed
  have base : Run Link.Start Link.Step [] startLink := .start startLink_start
  have connected := base.step
    (Link.Step.makes .connect .stored (fun _ _ _ => Call.noConfusion) fun _ => Call.noConfusion)
  have active := connected.step (Link.Step.makes (.receiveSetup []) .stored
    (fun _ _ _ => Call.noConfusion) fun _ => Call.noConfusion)
  have arrived := active.step (Link.Step.makes
    (.receiveRequestOnStream (.subscribeNamespace ⟨stream, ⟨[[1]]⟩, []⟩)) .stored
      (fun _ _ _ => Call.noConfusion) fun _ => Call.noConfusion)
  have updating := arrived.step (Link.Step.sends stream stream [] (by decide))
  -- The answer is written before the update is taken, so it gives back no credit here.
  have answered := updating.step (Link.Step.makes (.sendResponseOnStream stream (.requestOk [] []))
    .stored (fun _ _ _ => Call.noConfusion) fun _ => Call.noConfusion)
  have read := answered.step (Link.Step.reads stream rfl)
  have again := read.step (Link.Step.sends stream stream [] (by decide))
  have taken := again.step (Link.Step.takes (.receiveRequestUpdate stream stream []) .stored rfl rfl)
  exact claimed _ _ stream stream [] [] (.receiveRequestUpdate stream stream []) .stored 0 1 taken rfl
    rfl (by decide)

end Moqtap.Draft22.Client
