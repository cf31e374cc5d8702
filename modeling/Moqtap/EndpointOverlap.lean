import Moqtap.EndpointDiscipline

/-! The peer's namespace subscriptions of one kind and the ground they stand on.
Two that can still be accepted never overlap (`Apart`): the later one carries a
verdict that only a refusal answers. The verdict on an update is taken when the
update arrives and spent when it is answered, so the invariant is kept as long as
no REQUEST_OK moves a subscription onto ground another has been granted since
(`apart_of_run`, `active_apart`). -/
namespace Moqtap.Draft22.Client
open ByteCursor Varint CodecTypes Parameters Messages Machines RangeFilters Runs
open Endpoint

variable {order : IterationOrder} {e e' : Endpoint} {c : Call} {result : Except Failure Reply}
  {requestId : VarInt} {id : Nat} {history : List Event}

/-! ## Overlap -/

theorem prefixesOverlap_comm (a b : TrackNamespace) : prefixesOverlap a b = prefixesOverlap b a := by
  unfold prefixesOverlap
  rw [Nat.min_comm, Bool.eq_iff_iff, beq_iff_eq, beq_iff_eq]
  exact eq_comm

/-- A prefix overlaps what it is a prefix of. -/
theorem overlap_of_leading {a b : TrackNamespace} (inside : a.fields <+: b.fields) :
    prefixesOverlap a b = true := by
  unfold prefixesOverlap
  rw [Nat.min_eq_left inside.length_le]
  dsimp only
  rw [List.take_length, beq_iff_eq]
  exact List.prefix_iff_eq_take.mp inside

/-- The two kinds of request that hold a prefix. -/
inductive Scope where
  | namespaces
  | tracks
  deriving DecidableEq, Repr

namespace Scope

def kind : Scope → Kind
  | namespaces => .subscribeNamespace
  | tracks => .subscribeTracks

def table : Scope → Endpoint → Table NamespaceState
  | namespaces => Endpoint.subscribeNamespaces
  | tracks => Endpoint.subscribeTracks

def prefixOf : Scope → ControlMessage → Option TrackNamespace
  | namespaces => namespacePrefixOf
  | tracks => tracksPrefixOf

/-- The prefix a request of the peer's of this kind holds now. -/
def held (scope : Scope) (e : Endpoint) (id : Nat) : Option TrackNamespace :=
  (e.inboundRequests.lookup id).bind scope.prefixOf

/-- The request has not ended, and nothing forces its refusal. -/
def Grantable (scope : Scope) (e : Endpoint) (id : Nat) : Prop :=
  (∃ state, (scope.table e).lookup id = some state ∧ state ≠ .done) ∧
    e.overlappingNamespaceSubscriptions.lookup id = none

end Scope

/-- No two requests of one kind that can still be accepted overlap, and one that has
been accepted could be. -/
structure Endpoint.Apart (e : Endpoint) : Prop where
  granted : ∀ scope id namespacePrefix, Scope.held scope e id = some namespacePrefix →
    (scope.table e).lookup id = some .active → e.overlappingNamespaceSubscriptions.lookup id = none
  apart : ∀ scope id other namespacePrefix otherPrefix, other ≠ id →
    Scope.held scope e id = some namespacePrefix → Scope.held scope e other = some otherPrefix →
    scope.Grantable e id → scope.Grantable e other →
    prefixesOverlap otherPrefix namespacePrefix = false

/-- A REQUEST_OK that moves a request onto ground held by another that may still be
accepted. -/
def Endpoint.Regrants (e : Endpoint) (c : Call) : Prop :=
  ∃ (scope : Scope) (requestId : VarInt) (ps ts : List KeyValuePair)
    (namespacePrefix otherPrefix : TrackNamespace) (other : Nat),
    c = .sendResponseOnStream requestId (.requestOk ps ts) ∧
    e.answersAnUpdate requestId.val (.requestOk ps ts) = true ∧
    e.updatedNamespacePrefixes.lookup requestId.val = some namespacePrefix ∧
    (scope.held e requestId.val).isSome = true ∧ scope.Grantable e requestId.val ∧
    other ≠ requestId.val ∧ scope.held e other = some otherPrefix ∧ scope.Grantable e other ∧
    prefixesOverlap otherPrefix namespacePrefix = true

/-! ## One step -/

theorem held_unless_entered (tidy : e.Tidy) (effect : Effect order e c result e')
    (taken : ∀ msg, c ≠ .receiveRequestOnStream msg) (scope : Scope) (id : Nat) :
    scope.held e' id = scope.held e id ∨
      ∃ requestId ps ts namespacePrefix, c = .sendResponseOnStream requestId (.requestOk ps ts) ∧
        requestId.val = id ∧ e.answersAnUpdate id (.requestOk ps ts) = true ∧
        e.updatedNamespacePrefixes.lookup id = some namespacePrefix ∧
        (scope.held e id).isSome = true ∧ scope.held e' id = some namespacePrefix := by
  rcases inbound_step tidy effect id with same | ⟨msg, changed, cause⟩
  · exact .inl (by rw [Scope.held, same, Scope.held])
  · unfold Scope.held
    rw [changed]
    generalize e.inboundRequests.lookup id = before at cause ⊢
    cases cause with
    | entered => exact absurd rfl (taken _)
    | reprefixed answers accepted asked =>
      rename_i answer namespacePrefix requestId reply held
      cases answer <;> cases accepted
      rename_i ps ts
      by_cases mine : (scope.prefixOf held).isSome = true
      · refine .inr ⟨requestId, ps, ts, namespacePrefix, rfl, rfl, answers, asked, mine, ?_⟩
        cases scope <;> cases held <;> first | rfl | cases mine
      · left
        cases scope <;> cases held <;> first | rfl | exact absurd rfl mine

/-- Where a subscription to namespaces or to tracks stands, and nothing of the others. -/
def Kind.subscribed : (k : Kind) → k.State → NamespaceState
  | subscribeNamespace | subscribeTracks => fun state => state
  | _ => fun _ => .idle

theorem Scope.table_lookup (scope : Scope) (e : Endpoint) (id : Nat) :
    (scope.table e).lookup id = (e.state scope.kind id).map scope.kind.subscribed := by
  cases scope <;> exact (Option.map_id' ..).symm

theorem subscribed_cancelled {k : Kind} {state next : k.State} (step : k.cancelled state = some next) :
    (k.subscribed next ≠ .done → k.subscribed state ≠ .done) ∧ k.subscribed next ≠ .active := by
  cases k
  case subscribeNamespace => cases state <;> cases step <;> simp [Kind.subscribed]
  case subscribeTracks => cases state <;> cases step <;> simp [Kind.subscribed]
  all_goals exact ⟨fun _ => NamespaceState.noConfusion, NamespaceState.noConfusion⟩

theorem subscribed_refused {k : Kind} {state next : k.State} (step : k.refused state = some next) :
    (k.subscribed next ≠ .done → k.subscribed state ≠ .done) ∧ k.subscribed next ≠ .active := by
  cases k
  case subscribeNamespace =>
    cases state <;> cases step
    simp [Kind.subscribed]
  case subscribeTracks =>
    cases state <;> cases step
    simp [Kind.subscribed]
  all_goals exact ⟨fun _ => NamespaceState.noConfusion, NamespaceState.noConfusion⟩

theorem subscribed_answered {k : Kind} {state next : k.State} (step : k.answered state = some next) :
    k.subscribed state ≠ .done := by
  cases k
  case subscribeNamespace =>
    cases state <;> cases step
    exact NamespaceState.noConfusion
  case subscribeTracks =>
    cases state <;> cases step
    exact NamespaceState.noConfusion
  all_goals exact NamespaceState.noConfusion

/-- An edge does not lead out of `Done`, and leads to `Active` from `Active`, or by the
answer to the request. -/
theorem subscribed_moves {k : Kind} {before : Option k.State} {next : k.State}
    (moves : Moves e c result k id before next)
    (unanswered : ∀ id, c.answersOwn = some id → e.inboundRequests.lookup id = none) :
    (k.subscribed next ≠ .done → before = none ∨ ∃ s, before = some s ∧ k.subscribed s ≠ .done) ∧
    (k.subscribed next = .active → (∃ s, before = some s ∧ k.subscribed s = .active) ∨
      e.inboundRequests.lookup id = none ∨
        e.overlappingNamespaceSubscriptions.lookup id = none) := by
  cases moves with
  | opened kind fresh => exact ⟨fun _ => .inl rfl, fun active => by cases k <;> cases active⟩
  | entered kind names peers fresh => exact ⟨fun _ => .inl rfl, fun active => by cases k <;> cases active⟩
  | driven drives step =>
    rename_i edge state
    cases drives
    case cancelled =>
      have edge := subscribed_cancelled step
      exact ⟨fun unended => .inr ⟨state, rfl, edge.1 unended⟩, fun active => absurd active edge.2⟩
    case rejected =>
      have edge := subscribed_refused step
      exact ⟨fun unended => .inr ⟨state, rfl, edge.1 unended⟩, fun active => absurd active edge.2⟩
    case accepted =>
      exact ⟨fun _ => .inr ⟨state, rfl, subscribed_answered step⟩,
        fun _ => .inr (.inl (unanswered _ rfl))⟩
    all_goals
      exact ⟨fun _ => .inr ⟨state, rfl, NamespaceState.noConfusion⟩, fun active => by cases active⟩
  | accepted => exact ⟨fun _ => .inr ⟨_, rfl, NamespaceState.noConfusion⟩, fun active => by cases active⟩
  | answered answers overlap writes step =>
    rename_i edge state
    cases writes
    case requestError =>
      have edge := subscribed_refused step
      exact ⟨fun unended => .inr ⟨state, rfl, edge.1 unended⟩, fun active => absurd active edge.2⟩
    case requestOk =>
      refine ⟨fun _ => .inr ⟨state, rfl, subscribed_answered step⟩, fun _ => .inr (.inr ?_)⟩
      by_contra flagged
      obtain ⟨established, found⟩ := Option.ne_none_iff_exists'.mp flagged
      rw [found] at overlap
      cases overlap
    case «namespace» =>
      cases state <;> cases step
      exact ⟨fun _ => .inr ⟨_, rfl, NamespaceState.noConfusion⟩, fun _ => .inl ⟨_, rfl, rfl⟩⟩
    case namespaceDone =>
      cases state <;> cases step
      exact ⟨fun _ => .inr ⟨_, rfl, NamespaceState.noConfusion⟩, fun _ => .inl ⟨_, rfl, rfl⟩⟩
    case publishSkipped =>
      cases state <;> cases step
      exact ⟨fun _ => .inr ⟨_, rfl, NamespaceState.noConfusion⟩, fun _ => .inl ⟨_, rfl, rfl⟩⟩
    all_goals
      exact ⟨fun _ => .inr ⟨state, rfl, NamespaceState.noConfusion⟩, fun active => by cases active⟩
  | ended status step => exact ⟨fun _ => .inr ⟨_, rfl, NamespaceState.noConfusion⟩, fun active => by cases active⟩
  | published => exact ⟨fun _ => .inr ⟨_, rfl, NamespaceState.noConfusion⟩, fun active => by cases active⟩

theorem scope_step (tidy : e.Tidy) (effect : Effect order e c result e')
    (unanswered : ∀ id, c.answersOwn = some id → e.inboundRequests.lookup id = none) (scope : Scope)
    (id : Nat) :
    (∀ state, (scope.table e').lookup id = some state → state ≠ .done →
      (scope.table e).lookup id = none ∨ ∃ s, (scope.table e).lookup id = some s ∧ s ≠ .done) ∧
    ((scope.table e').lookup id = some .active → (scope.table e).lookup id = some .active ∨
      e.inboundRequests.lookup id = none ∨ e.overlappingNamespaceSubscriptions.lookup id = none) := by
  rw [scope.table_lookup e', scope.table_lookup e]
  rcases state_step tidy effect scope.kind id with same | ⟨next, moved, moves⟩
  · rw [same]
    exact ⟨fun state there unended => .inr ⟨state, there, unended⟩, .inl⟩
  · rw [moved]
    obtain ⟨unended, granted⟩ := subscribed_moves moves unanswered
    constructor
    · rintro state ⟨⟩ open'
      refine (unended open').imp (fun absent => by rw [absent]; rfl) fun ⟨s, found, still⟩ => ?_
      exact ⟨_, by rw [found]; rfl, still⟩
    · intro active
      refine (granted (Option.some.inj active)).imp_left fun ⟨s, found, was⟩ => ?_
      rw [found]
      exact congrArg some was

theorem held_machine (tidy : e.Tidy) {scope : Scope} (held : (scope.held e id).isSome = true) :
    (scope.table e).lookup id ≠ none := by
  obtain ⟨namespacePrefix, found⟩ := Option.isSome_iff_exists.mp held
  obtain ⟨msg, arrived, prefixed⟩ := Option.bind_eq_some_iff.mp found
  obtain ⟨-, -, k, kind, machine⟩ := tidy.entered id (by rw [arrived]; rfl)
  rw [kindOf, arrived] at kind
  have same : k = scope.kind := by
    cases scope <;> cases msg <;> cases prefixed <;> cases kind <;> rfl
  subst same
  rw [scope.table_lookup]
  intro absent
  rw [Option.map_eq_none_iff] at absent
  rw [absent] at machine
  cases machine

/-- What is grantable behind a call that took no request was grantable in front of it. -/
theorem grantable_before (tidy : e.Tidy) (effect : Effect order e c result e')
    (unanswered : ∀ id, c.answersOwn = some id → e.inboundRequests.lookup id = none)
    (flags : e'.overlappingNamespaceSubscriptions = e.overlappingNamespaceSubscriptions)
    {scope : Scope} (held : (scope.held e id).isSome = true) (grantable : scope.Grantable e' id) :
    scope.Grantable e id := by
  obtain ⟨⟨state, found, unended⟩, unflagged⟩ := grantable
  rw [flags] at unflagged
  refine ⟨?_, unflagged⟩
  exact ((scope_step tidy effect unanswered scope id).1 state found unended).resolve_left
    (held_machine tidy held)

theorem apart_unentered (tidy : e.Tidy) (apart : e.Apart) (effect : Effect order e c result e')
    (unanswered : ∀ id, c.answersOwn = some id → e.inboundRequests.lookup id = none)
    (taken : ∀ msg, c ≠ .receiveRequestOnStream msg) (careful : ¬ e.Regrants c)
    (flags : e'.overlappingNamespaceSubscriptions = e.overlappingNamespaceSubscriptions) :
    e'.Apart := by
  have before (scope : Scope) (id : Nat) (held : (scope.held e' id).isSome = true) :
      (scope.held e id).isSome = true := by
    rcases held_unless_entered tidy effect taken scope id with same | ⟨_, _, _, _, -, -, -, -, was, -⟩
    · rwa [← same]
    · exact was
  constructor
  · intro scope id namespacePrefix held active
    rw [flags]
    have arrived := before scope id (by rw [held]; rfl)
    rcases (scope_step tidy effect unanswered scope id).2 active with old | absent | free
    · obtain ⟨old', was⟩ := Option.isSome_iff_exists.mp arrived
      exact apart.granted scope id old' was old
    · rw [Scope.held, absent] at arrived
      cases arrived
    · exact free
  · intro scope id other namespacePrefix otherPrefix different held otherHeld grantable otherGrantable
    have arrived := before scope id (by rw [held]; rfl)
    have otherArrived := before scope other (by rw [otherHeld]; rfl)
    have was := grantable_before tidy effect unanswered flags arrived grantable
    have otherWas := grantable_before tidy effect unanswered flags otherArrived otherGrantable
    rcases held_unless_entered tidy effect taken scope id with
      same | ⟨requestId, ps, ts, moved, wrote, rfl, answers, asked, -, now⟩ <;>
    rcases held_unless_entered tidy effect taken scope other with
      otherSame | ⟨otherId, ps', ts', otherMoved, otherWrote, rfl, otherAnswers, otherAsked, -, otherNow⟩
    · rw [same] at held
      rw [otherSame] at otherHeld
      exact apart.apart scope id other _ _ different held otherHeld was otherWas
    · rw [same] at held
      rw [otherNow] at otherHeld
      cases otherHeld
      by_contra overlap
      rw [Bool.not_eq_false, prefixesOverlap_comm] at overlap
      exact careful ⟨scope, otherId, ps', ts', otherPrefix, namespacePrefix, id, otherWrote,
        otherAnswers, otherAsked, otherArrived, otherWas, different.symm, held, was, overlap⟩
    · rw [now] at held
      cases held
      rw [otherSame] at otherHeld
      by_contra overlap
      rw [Bool.not_eq_false] at overlap
      exact careful ⟨scope, requestId, ps, ts, namespacePrefix, otherPrefix, other, wrote, answers,
        asked, arrived, was, different, otherHeld, otherWas, overlap⟩
    · rw [wrote] at otherWrote
      cases otherWrote
      exact absurd rfl different

/-- What a verdict of no overlap says of every request that has not ended. -/
theorem peerOverlap_none {prefixOf : ControlMessage → Option TrackNamespace}
    {table : Table NamespaceState} {namespacePrefix held : TrackNamespace} {except : Option Nat}
    {msg : ControlMessage} {state : NamespaceState}
    (clear : e.peerOverlap prefixOf table namespacePrefix except = none)
    (arrived : e.inboundRequests.lookup id = some msg) (prefixed : prefixOf msg = some held)
    (found : table.lookup id = some state) (unended : state ≠ .done) (other : some id ≠ except) :
    prefixesOverlap held namespacePrefix = false := by
  by_contra overlap
  rw [Bool.not_eq_false] at overlap
  unfold peerOverlap at clear
  rw [List.min?_eq_none_iff, List.filterMap_eq_nil_iff] at clear
  have listed := clear ⟨id, msg⟩ (AList.mem_lookup_iff.mp arrived)
  simp [prefixed, found, unended, other, overlap] at listed

theorem apart_entered (tidy : e.Tidy) (apart : e.Apart) {msg : ControlMessage}
    (effect : Effect order e (.receiveRequestOnStream msg) result e')
    (fresh : requestId.val ∉ e.peerRequestIds)
    (peers : e.requestIds.validatePeerId requestId.val = .ok ())
    (arrives : e'.inboundRequests = e.inboundRequests.insert requestId.val msg)
    (flags : e'.overlappingNamespaceSubscriptions =
      (noteOverlap requestId.val (e.overlapOf msg) e).overlappingNamespaceSubscriptions)
    (states : ∀ k id, id ≠ requestId.val → e'.state k id = e.state k id) : e'.Apart := by
  have heldSame (scope : Scope) {id : Nat} (other : id ≠ requestId.val) :
      scope.held e' id = scope.held e id := by
    rw [Scope.held, arrives, AList.lookup_insert_ne other, Scope.held]
  have flagSame {id : Nat} (other : id ≠ requestId.val) :
      e'.overlappingNamespaceSubscriptions.lookup id =
        e.overlappingNamespaceSubscriptions.lookup id := by
    rw [flags]
    cases e.overlapOf msg with
    | none => rfl
    | some established => exact AList.lookup_insert_ne other
  have tableSame (scope : Scope) {id : Nat} (other : id ≠ requestId.val) :
      (scope.table e').lookup id = (scope.table e).lookup id := by
    rw [scope.table_lookup, states _ _ other, scope.table_lookup]
  have still (scope : Scope) {id : Nat} (other : id ≠ requestId.val)
      (grantable : scope.Grantable e' id) : scope.Grantable e id := by
    rw [Scope.Grantable, tableSame scope other, flagSame other] at grantable
    exact grantable
  -- What the new request's verdict says of the ones already there.
  have clear (scope : Scope) {id : Nat} {new old : TrackNamespace} (other : id ≠ requestId.val)
      (held : scope.held e' requestId.val = some new) (grantable : scope.Grantable e' requestId.val)
      (oldHeld : scope.held e id = some old) (oldGrantable : scope.Grantable e id) :
      prefixesOverlap old new = false := by
    have verdict : e.overlapOf msg = none := by
      have unflagged := grantable.2
      rw [flags] at unflagged
      by_contra established
      obtain ⟨established, found⟩ := Option.ne_none_iff_exists'.mp established
      rw [found] at unflagged
      exact Option.some_ne_none _ ((AList.lookup_insert _).symm.trans unflagged)
    rw [Scope.held, arrives, AList.lookup_insert] at held
    obtain ⟨before, arrived, prefixed⟩ := Option.bind_eq_some_iff.mp oldHeld
    obtain ⟨⟨state, found, unended⟩, -⟩ := oldGrantable
    cases scope <;> cases msg <;> cases held <;>
      exact peerOverlap_none verdict arrived prefixed found unended (Option.some_ne_none _)
  constructor
  · intro scope id namespacePrefix held active
    by_cases here : id = requestId.val
    · subst here
      have unmet : e.state scope.kind requestId.val = none :=
        Option.isNone_iff_eq_none.mp (Option.isSome_eq_false_iff.mp (tidy.unmet fresh peers _))
      rw [scope.table_lookup] at active
      rcases state_step tidy effect scope.kind requestId.val with same | ⟨next, moved, moves⟩
      · rw [same, unmet] at active
        cases active
      · rw [unmet] at moves
        rw [moved, moves_from_nothing moves] at active
        cases scope <;> cases active
    · rw [flagSame here]
      rw [heldSame scope here] at held
      rw [tableSame scope here] at active
      exact apart.granted scope id namespacePrefix held active
  · intro scope id other namespacePrefix otherPrefix different held otherHeld grantable otherGrantable
    by_cases here : id = requestId.val
    · subst here
      rw [heldSame scope different] at otherHeld
      exact clear scope different held grantable otherHeld (still scope different otherGrantable)
    · by_cases there : other = requestId.val
      · subst there
        rw [heldSame scope here] at held
        rw [prefixesOverlap_comm]
        exact clear scope here otherHeld otherGrantable held (still scope here grantable)
      · rw [heldSame scope here] at held
        rw [heldSame scope there] at otherHeld
        exact apart.apart scope id other _ _ different held otherHeld (still scope here grantable)
          (still scope there otherGrantable)

/-- Nothing the invariant reads has changed. -/
theorem Endpoint.Apart.congr (apart : e.Apart) (inbound : e'.inboundRequests = e.inboundRequests)
    (flags : e'.overlappingNamespaceSubscriptions = e.overlappingNamespaceSubscriptions)
    (states : ∀ k id, e'.state k id = e.state k id) : e'.Apart := by
  have held (scope : Scope) (id : Nat) : scope.held e' id = scope.held e id := by
    rw [Scope.held, inbound, Scope.held]
  have table (scope : Scope) (id : Nat) : (scope.table e').lookup id = (scope.table e).lookup id := by
    rw [scope.table_lookup, states, scope.table_lookup]
  constructor
  · intro scope id
    rw [held, table, flags]
    exact apart.granted scope id
  · intro scope id other
    rw [held, held, Scope.Grantable, Scope.Grantable, table, table, flags]
    exact apart.apart scope id other

theorem apart_step (tidy : e.Tidy) (apart : e.Apart) (effect : Effect order e c result e')
    (unanswered : ∀ id, c.answersOwn = some id → e.inboundRequests.lookup id = none)
    (careful : ¬ e.Regrants c) : e'.Apart := by
  have whole := effect
  cases effect with
  | entered k kind active names peers fresh unconflicted kept rejectionsKept =>
    refine apart_entered tidy apart whole fresh peers rfl rfl fun k' id other => ?_
    rw [← settled_state_other e k.opening (.inr other)]
    cases k' <;> rfl
  | misoffered =>
    exact apart.congr rfl rfl fun k id => by cases k <;> rfl
  | panicked | refused => exact apart
  | violated | crowded | misnamed => exact apart.congr rfl rfl (failed_state e)
  | quiet => exact apart.congr rfl rfl fun k id => by cases k <;> rfl
  | overdrawn =>
    exact apart.congr (charged_inboundRequests ..) (by rw [charged_eq]) fun k id => charged_state ..
  | unexpected =>
    exact apart.congr (charged_inboundRequests ..) (by rw [failed, charged_eq]) fun k id => by simp
  | overpaidPublication | overpaidSubscription => exact apart.congr rfl rfl fun k id => paid_state ..
  | opened k kind =>
    refine apart_unentered tidy apart whole unanswered ?_ careful
      (settled_overlappingNamespaceSubscriptions ..)
    rintro msg rfl
    cases kind
  | moved k drives =>
    refine apart_unentered tidy apart whole unanswered ?_ careful
      (settled_overlappingNamespaceSubscriptions ..)
    rintro msg rfl
    cases drives
  | accepted | ended | published =>
    exact apart_unentered tidy apart whole unanswered (fun _ => Call.noConfusion) careful
      (settled_overlappingNamespaceSubscriptions ..)
  | updated =>
    refine apart_unentered tidy apart whole unanswered (fun _ => Call.noConfusion) careful ?_
    rw [recordUpdate_eq, charged_eq]
  | updateAnswered =>
    refine apart_unentered tidy apart whole unanswered (fun _ => Call.noConfusion) careful ?_
    rw [oweEnding_eq, settleUpdate_eq]
  | answered =>
    refine apart_unentered tidy apart whole unanswered (fun _ => Call.noConfusion) careful ?_
    rw [settleAnswer_eq]
    exact settled_overlappingNamespaceSubscriptions ..

/-! ## Runs -/

/-- A call that neither reaches the wrong stream nor answers under a verdict gone stale. -/
def Endpoint.Weighed (e : Endpoint) (c : Call) : Prop := e.Routed c ∧ ¬ e.Regrants c

theorem apart_fresh (fresh : e.Fresh) : e.Apart := by
  obtain ⟨role, rfl⟩ := fresh
  refine ⟨?_, ?_⟩
  · intro scope id namespacePrefix held
    cases held
  · intro scope id other namespacePrefix otherPrefix different held
    cases held

theorem regrants_direct (regrants : e.Regrants c.direct) : e.Regrants c := by
  obtain ⟨scope, requestId, ps, ts, moved, held, other, wrote, rest⟩ := regrants
  exact ⟨scope, requestId, ps, ts, moved, held, other, direct_own wrote trivial, rest⟩

theorem apart_of_run (run : Allowed Endpoint.Weighed history e) : e.Tidy ∧ e.Apart := by
  induction run with
  | start fresh => exact ⟨tidy_fresh fresh, apart_fresh fresh⟩
  | step run happens ih =>
    obtain ⟨tidy, apart⟩ := ih
    obtain ⟨order, effect⟩ := happens_effect tidy happens
    obtain ⟨-, ⟨routed, careful⟩, -⟩ := happens
    exact ⟨tidy_step tidy effect, apart_step tidy apart effect routed (mt regrants_direct careful)⟩

/-- Two active requests of one kind hold prefixes neither of which is a prefix of the other. -/
theorem active_apart (run : Allowed Endpoint.Weighed history e) (scope : Scope) {id other : Nat}
    (different : other ≠ id) {namespacePrefix otherPrefix : TrackNamespace}
    (held : scope.held e id = some namespacePrefix) (otherHeld : scope.held e other = some otherPrefix)
    (active : (scope.table e).lookup id = some .active)
    (otherActive : (scope.table e).lookup other = some .active) :
    ¬ namespacePrefix.fields <+: otherPrefix.fields := by
  intro inside
  obtain ⟨-, apart⟩ := apart_of_run run
  have grantable : scope.Grantable e id :=
    ⟨⟨.active, active, NamespaceState.noConfusion⟩, apart.granted scope id _ held active⟩
  have otherGrantable : scope.Grantable e other :=
    ⟨⟨.active, otherActive, NamespaceState.noConfusion⟩, apart.granted scope other _ otherHeld otherActive⟩
  have clear := apart.apart scope other id _ _ different.symm otherHeld held otherGrantable grantable
  rw [overlap_of_leading inside] at clear
  cases clear

/-! A server with two namespace subscriptions of the peer's. -/

def askingCalls : List Call :=
  [.connect, .receiveSetup [],
    .receiveRequestOnStream (.subscribeNamespace ⟨.ofU64 0, ⟨[[1]]⟩, []⟩),
    .receiveRequestOnStream (.subscribeNamespace ⟨.ofU64 2, ⟨[[2]]⟩, []⟩)]

def acceptingCalls : List Call :=
  [.sendResponseOnStream (.ofU64 0) (.requestOk [] []),
    .sendResponseOnStream (.ofU64 2) (.requestOk [] [])]

def acceptedEndpoint : Endpoint :=
  (Endpoint.new .server).play .stored (askingCalls ++ acceptingCalls)

/-- Where no update asks for a prefix, none is granted. -/
theorem weighed_unasked (routed : e.Routed c) (unasked : e.updatedNamespacePrefixes = ∅) :
    e.Weighed c := by
  refine ⟨routed, ?_⟩
  rintro ⟨scope, requestId, ps, ts, _, _, _, -, -, asked, -⟩
  rw [unasked] at asked
  cases asked

theorem accepted_apart : ¬ [[1]] <+: ([[2]] : List Bytes) := by
  have permits : Permits Endpoint.Weighed .stored (Endpoint.new .server)
      (askingCalls ++ acceptingCalls) := by
    refine ⟨?_, ?_, ?_, ?_, ?_, ?_, trivial⟩
    all_goals exact weighed_unasked (fun id answered => by cases answered) rfl
  have run := allowed_record .stored (.start ⟨.server, rfl⟩) _ permits
  have different : 2 ≠ 0 := by decide
  exact active_apart run .namespaces different (by decide) (by decide) (by decide) (by decide)

/-- A TRACK_NAMESPACE_PREFIX of one field. -/
def movingTo : List KeyValuePair := [⟨.ofU64 trackNamespacePrefix, .bytes [1, 1, 3]⟩]

def movingCalls : List Call :=
  [.receiveRequestUpdate (.ofU64 0) (.ofU64 0) movingTo,
    .receiveRequestUpdate (.ofU64 2) (.ofU64 2) movingTo]

def movedCalls : List Call := askingCalls ++ acceptingCalls ++ movingCalls ++ acceptingCalls

def movedEndpoint : Endpoint := (Endpoint.new .server).play .stored movedCalls

/-- Both updates were weighed before either was granted. -/
theorem granted_twice :
    ¬ ∀ (e : Endpoint) (history : List Event) (scope : Scope) (id other : Nat)
      (namespacePrefix otherPrefix : TrackNamespace), Allowed Endpoint.Routed history e → other ≠ id →
      scope.held e id = some namespacePrefix → scope.held e other = some otherPrefix →
      (scope.table e).lookup id = some .active → (scope.table e).lookup other = some .active →
      ¬ namespacePrefix.fields <+: otherPrefix.fields := by
  intro claimed
  have run : Allowed Endpoint.Routed _ movedEndpoint :=
    allowed_record .stored (.start ⟨.server, rfl⟩) movedCalls
      (permits_always .stored _ (routed_of_unanswered (by decide)))
  exact claimed movedEndpoint _ .namespaces 0 2 ⟨[[3]]⟩ ⟨[[3]]⟩ run (by decide) (by decide) (by decide)
    (by decide) (by decide) (List.prefix_refl _)

end Moqtap.Draft22.Client
