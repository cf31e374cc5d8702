import Moqtap.EndpointAliases

/-! Updates of one request that are refused together. What later decisions read about
the request (`Terms`) is touched by what names it and by nothing else
(`terms_elsewhere`); an update only adds to what waits for its answer
(`terms_updated`), and one REQUEST_ERROR withdraws all of that
(`refused_updates_withdrawn`). A fill that was asked for stays on record. -/
namespace Moqtap.Draft22.Client
open ByteCursor Varint CodecTypes Parameters Messages Machines RangeFilters Runs
open FetchStream (GroupOrder)
open Endpoint

/-! ## What is read about a request -/

/-- What later decisions read about one request, its fills and the Range Filters in
force on it aside. -/
@[ext] structure Terms where
  message : Option ControlMessage
  state : (k : Kind) → Option k.State
  overlap : Option Nat
  binding : Option TrackBinding
  answered : Bool
  asked : Option TrackNamespace
  askedOverlap : Option Nat
  rejection : Option FilterRejection

def Endpoint.terms (e : Endpoint) (id : Nat) : Terms where
  message := e.inboundRequests.lookup id
  state k := e.state k id
  overlap := e.overlappingNamespaceSubscriptions.lookup id
  binding := e.trackBindings.lookup id
  answered := decide (id ∈ e.answeredPeerRequests)
  asked := e.updatedNamespacePrefixes.lookup id
  askedOverlap := e.overlappingPrefixUpdates.lookup id
  rejection := e.peerFilterRejections.lookup id

/-- The terms without what waits for the answer to an update. -/
def Terms.withdrawn (terms : Terms) : Terms :=
  { terms with asked := none, askedOverlap := none, rejection := none }

/-- Whether a fill was asked for, and in which Group Order. -/
def Endpoint.fillOrder (e : Endpoint) (id : Nat) : Option GroupOrder :=
  (e.fills.lookup id).map FillStreams.groupOrder

/-- The Group Order of the fill a message asks for. -/
def askedOrder (parameters : List KeyValuePair) : Option GroupOrder :=
  if parameters.any fun p => p.key.val == fillParameters then
    some ((groupOrder parameters).toOption.getD .ascending)
  else none

/-- The request a call is about. -/
def Call.names : Call → Option Nat
  | .sendPublishDone requestId _ | .cancelRequest requestId | .onFillStreamOpened requestId
  | .onFillStreamEnded requestId | .onFetchStreamFin requestId | .onFetchStreamReset requestId
  | .receiveSubscribeOk requestId _ | .receivePublishDone requestId
  | .receivePublishStateNotify requestId | .receiveFetchOk requestId
  | .receiveRequestOk requestId _ | .receiveRequestError requestId _
  | .receiveRequestUpdate requestId _ _ | .receiveGoawayOnRequestStream requestId _
  | .receiveResponseOnStream requestId _ | .receiveOnPeerRequestStream requestId _
  | .sendResponseOnStream requestId _ => some requestId.val
  | .receiveRequestOnStream msg => (requestIdOf msg).map (·.val)
  | _ => none

variable {order : IterationOrder} {e e' : Endpoint} {c : Call} {result : Except Failure Reply}
  {requestId : VarInt} {id : Nat} {history : List Event}

/-! ## Calls about something else -/

theorem drives_names {k : Kind} {edge : k.State → Option k.State} (drives : Drives c k id edge) :
    c.names = some id := by
  cases drives <;> rfl

theorem settled_terms (e : Endpoint) (k : Kind) {id other : Nat} (next : k.State)
    (elsewhere : id ≠ other) : (e.settled k other next).terms id = e.terms id := by
  unfold Endpoint.terms
  simp only [settled_inboundRequests, settled_overlappingNamespaceSubscriptions, settled_trackBindings,
    settled_answeredPeerRequests, settled_updatedNamespacePrefixes, settled_peerFilterRejections,
    settled_state_other e next (.inr elsewhere)]
  cases k <;> rfl

theorem weighPrefix_terms (e : Endpoint) {id other : Nat} (namespacePrefix : TrackNamespace)
    (collides : Option Nat) (elsewhere : id ≠ other) :
    (weighPrefix other namespacePrefix collides e).terms id = e.terms id := by
  ext1
  case asked => exact AList.lookup_insert_ne elsewhere
  case askedOverlap =>
    cases collides with
    | none => exact AList.lookup_erase_ne elsewhere
    | some established => exact AList.lookup_insert_ne elsewhere
  case state =>
    funext k
    cases k <;> rfl
  all_goals rfl

theorem notePrefixUpdate_terms (e : Endpoint) {id other : Nat} (parameters : List KeyValuePair)
    (elsewhere : id ≠ other) : (notePrefixUpdate other parameters e).terms id = e.terms id := by
  unfold notePrefixUpdate
  split
  · rfl
  · split
    · exact weighPrefix_terms e _ _ elsewhere
    · exact weighPrefix_terms e _ _ elsewhere
    · rfl

theorem noteFilterUpdate_terms (e : Endpoint) {id other : Nat} (parameters : List KeyValuePair)
    (elsewhere : id ≠ other) : (noteFilterUpdate other parameters e).terms id = e.terms id := by
  ext1
  case rejection =>
    unfold noteFilterUpdate Endpoint.terms
    dsimp only
    split
    · exact AList.lookup_insert_ne elsewhere
    · rfl
  case state =>
    funext k
    cases k <;> rfl
  all_goals rfl

/-- The fields of the terms, and no others. -/
theorem terms_congr (inbound : e'.inboundRequests = e.inboundRequests)
    (states : ∀ k, e'.state k id = e.state k id)
    (overlaps : e'.overlappingNamespaceSubscriptions = e.overlappingNamespaceSubscriptions)
    (bindings : e'.trackBindings = e.trackBindings)
    (answered : e'.answeredPeerRequests = e.answeredPeerRequests)
    (asked : e'.updatedNamespacePrefixes = e.updatedNamespacePrefixes)
    (collides : e'.overlappingPrefixUpdates = e.overlappingPrefixUpdates)
    (rejections : e'.peerFilterRejections = e.peerFilterRejections) : e'.terms id = e.terms id := by
  unfold Endpoint.terms
  rw [inbound, overlaps, bindings, answered, asked, collides, rejections, funext states]

theorem charged_terms (e : Endpoint) (id other : Nat) : (e.charged other).terms id = e.terms id := by
  rw [charged_eq]
  exact terms_congr rfl (fun k => by cases k <;> rfl) rfl rfl rfl rfl rfl rfl

theorem restated_terms (e : Endpoint) (id other : Nat) {subscriptions : Table SubscriptionState}
    (same : ∀ id, subscriptions.lookup id = e.subscriptions.lookup id) :
    Endpoint.terms { e.charged other with subscriptions := subscriptions } id = e.terms id := by
  rw [← charged_terms e id other]
  refine terms_congr rfl (fun k => ?_) rfl rfl rfl rfl rfl rfl
  rw [restated_state e other same, charged_state]

theorem failed_terms (e : Endpoint) (id : Nat) : e.failed.terms id = e.terms id :=
  terms_congr rfl (fun k => failed_state e k id) rfl rfl rfl rfl rfl rfl

theorem paid_terms (e : Endpoint) (id other : Nat) : (e.paid other).terms id = e.terms id :=
  terms_congr rfl (fun k => paid_state e k id other) rfl rfl rfl rfl rfl rfl

theorem counted_terms (e : Endpoint) (id : Nat) (unanswered : Table Nat) :
    Endpoint.terms { e with unansweredPeerUpdates := unanswered } id = e.terms id :=
  terms_congr rfl (fun k => by cases k <;> rfl) rfl rfl rfl rfl rfl rfl

theorem noteFillRequested_terms (e : Endpoint) (id other : Nat) (parameters : List KeyValuePair) :
    (noteFillRequested other parameters e).terms id = e.terms id := by
  rw [noteFillRequested_eq]
  exact terms_congr rfl (fun k => by cases k <;> rfl) rfl rfl rfl rfl rfl rfl

theorem recordUpdate_terms (e : Endpoint) {id other : Nat} (parameters : List KeyValuePair)
    (elsewhere : id ≠ other) : (recordUpdate other parameters e).terms id = e.terms id := by
  rw [recordUpdate, notePrefixUpdate_terms _ _ elsewhere, noteFilterUpdate_terms _ _ elsewhere,
    noteFillRequested_terms, counted_terms]

theorem restored_terms (e : Endpoint) (id other : Nat) :
    (e.restoreUpdateCredit other).terms id = e.terms id := by
  rw [restoreUpdateCredit_eq]
  exact terms_congr rfl (fun k => by cases k <;> rfl) rfl rfl rfl rfl rfl rfl

theorem settlePrefixUpdate_terms (e : Endpoint) {id other : Nat} (accepted : Bool)
    (elsewhere : id ≠ other) : (settlePrefixUpdate other accepted e).terms id = e.terms id := by
  unfold settlePrefixUpdate
  split
  · rfl
  · ext1
    case asked => exact AList.lookup_erase_ne elsewhere
    case message =>
      change AList.lookup id (if accepted = true then _ else _) = _
      split
      · split
        · exact AList.lookup_insert_ne elsewhere
        · rfl
      · rfl
    case state =>
      funext k
      cases k <;> rfl
    all_goals rfl

theorem forgiven_terms (e : Endpoint) {id other : Nat} (elsewhere : id ≠ other) :
    Endpoint.terms { e with peerFilterRejections := e.peerFilterRejections.erase other } id =
      e.terms id := by
  ext1
  case rejection => exact AList.lookup_erase_ne elsewhere
  case state =>
    funext k
    cases k <;> rfl
  all_goals rfl

theorem uncollided_terms (e : Endpoint) {id other : Nat} (elsewhere : id ≠ other) :
    Endpoint.terms { e with overlappingPrefixUpdates := e.overlappingPrefixUpdates.erase other } id =
      e.terms id := by
  ext1
  case askedOverlap => exact AList.lookup_erase_ne elsewhere
  case state =>
    funext k
    cases k <;> rfl
  all_goals rfl

theorem settleUpdate_terms (e : Endpoint) {id other : Nat} (unanswered : Nat) (msg : ControlMessage)
    (elsewhere : id ≠ other) : (settleUpdate other unanswered msg e).terms id = e.terms id := by
  unfold settleUpdate
  dsimp only
  split_ifs <;>
    simp only [uncollided_terms _ elsewhere, settlePrefixUpdate_terms _ _ elsewhere,
      forgiven_terms _ elsewhere, restored_terms, counted_terms]

theorem oweEnding_terms (e : Endpoint) (id other : Nat) (msg : ControlMessage) :
    (oweEnding other msg e).terms id = e.terms id := by
  rw [oweEnding_eq]
  exact terms_congr rfl (fun k => by cases k <;> rfl) rfl rfl rfl rfl rfl rfl

theorem settleAnswer_terms (e : Endpoint) {id other : Nat} (msg : ControlMessage)
    (elsewhere : id ≠ other) : (settleAnswer other msg e).terms id = e.terms id := by
  have noted (e : Endpoint) : Endpoint.terms
      { e with answeredPeerRequests := insert other e.answeredPeerRequests } id = e.terms id := by
    ext1
    case answered => exact decide_eq_decide.mpr (by simp [elsewhere])
    case state =>
      funext k
      cases k <;> rfl
    all_goals rfl
  have credited : (if isOkOrError msg then restoreUpdateCredit e other else e).terms id =
      e.terms id := by
    split
    · exact restored_terms e id other
    · rfl
  have marked (e : Endpoint) : Endpoint.terms (if isAcceptance msg || isRequestError msg then
      { e with answeredPeerRequests := insert other e.answeredPeerRequests } else e) id =
        e.terms id := by
    split
    · exact noted e
    · rfl
  have forgiven (e : Endpoint) : Endpoint.terms (if isRequestError msg then
      { e with peerFilterRejections := e.peerFilterRejections.erase other } else e) id =
        e.terms id := by
    split
    · exact forgiven_terms e elsewhere
    · rfl
  exact (forgiven _).trans ((marked _).trans credited)

theorem noteOverlap_lookup (e : Endpoint) {id other : Nat} (collides : Option Nat)
    (elsewhere : id ≠ other) :
    (noteOverlap other collides e).overlappingNamespaceSubscriptions.lookup id =
      e.overlappingNamespaceSubscriptions.lookup id := by
  cases collides with
  | none => rfl
  | some established => exact AList.lookup_insert_ne elsewhere

/-- A call about another request leaves the terms of one there is. -/
theorem terms_elsewhere (tidy : e.Tidy) (effect : Effect order e c result e')
    (elsewhere : c.names ≠ some id) (held : ∃ k, (e.state k id).isSome = true) :
    e'.terms id = e.terms id := by
  have other {named : Nat} (names : c.names = some named) : id ≠ named := by
    rintro rfl
    exact elsewhere names
  cases effect with
  | panicked | refused => rfl
  | violated | crowded | misnamed => exact failed_terms e id
  | misoffered =>
    exact terms_congr rfl (fun k => by cases k <;> rfl) rfl rfl rfl rfl rfl rfl
  | quiet => exact terms_congr rfl (fun k => by cases k <;> rfl) rfl rfl rfl rfl rfl rfl
  | opened k kind active fresh binds ids kept =>
    rename_i requestId _ _ _ _
    have different : id ≠ requestId.val := by
      rintro rfl
      obtain ⟨k', some⟩ := held
      rw [fresh, tidy.unreached] at some
      cases some
    rw [← settled_terms e k k.opening different]
    ext1
    case binding =>
      refine Eq.trans ?_ (congrArg (AList.lookup id) (settled_trackBindings e k _ _)).symm
      cases binds with
      | other => rfl
      | subscribe => exact AList.lookup_insert_ne different
      | publish => exact AList.lookup_insert_ne different
    case state =>
      funext k'
      cases k' <;> rfl
    all_goals rfl
  | entered k kind active names peers fresh unconflicted kept rejectionsKept =>
    rename_i msg requestId _ _
    have different : id ≠ requestId.val := other (by rw [Call.names, names]; rfl)
    rw [← settled_terms e k k.opening different]
    ext1
    case message =>
      refine (AList.lookup_insert_ne different).trans ?_
      exact (congrArg (AList.lookup id) (settled_inboundRequests e k _ _)).symm
    case overlap =>
      refine (noteOverlap_lookup e _ different).trans ?_
      exact (congrArg (AList.lookup id) (settled_overlappingNamespaceSubscriptions e k _ _)).symm
    case binding =>
      refine Eq.trans ?_ (congrArg (AList.lookup id) (settled_trackBindings e k _ _)).symm
      cases msg
      case publish => exact AList.lookup_insert_ne different
      all_goals rfl
    case rejection =>
      refine (rejectionsKept id different).trans ?_
      exact (congrArg (AList.lookup id) (settled_peerFilterRejections e k _ _)).symm
    case state =>
      funext k'
      cases k' <;> rfl
    all_goals rfl
  | moved k drives => exact settled_terms e k _ (other (drives_names drives))
  | accepted waiting unconflicted =>
    rename_i requestId trackAlias _
    have different := other rfl
    rw [← settled_terms e .subscription SubscriptionState.active different]
    ext1
    case binding =>
      change (named e.trackBindings requestId.val trackAlias.val).lookup id = e.trackBindings.lookup id
      unfold named
      split
      · rfl
      · exact AList.lookup_insert_ne different
    case state =>
      funext k
      cases k <;> rfl
    all_goals rfl
  | overdrawn => exact charged_terms e id _
  | unexpected => exact (failed_terms _ id).trans (charged_terms e id _)
  | updated credit one same =>
    exact (recordUpdate_terms _ _ (other rfl)).trans (restated_terms e id _ same)
  | updateAnswered =>
    exact (oweEnding_terms _ id _ _).trans (settleUpdate_terms e _ _ (other rfl))
  | answered allowed answers overlap k =>
    exact (settleAnswer_terms _ _ (other rfl)).trans (settled_terms e k _ (other rfl))
  | ended =>
    exact (paid_terms _ id _).trans (settled_terms e .subscription _ (other rfl))
  | published => exact (paid_terms _ id _).trans (settled_terms e .publish _ (other rfl))
  | overpaidPublication | overpaidSubscription => exact paid_terms e id _

theorem noteFillRequested_fillOrder (e : Endpoint) (id other : Nat) (parameters : List KeyValuePair) :
    (noteFillRequested other parameters e).fillOrder id =
      if id = other then (askedOrder parameters).or (e.fillOrder id) else e.fillOrder id := by
  unfold noteFillRequested askedOrder Endpoint.fillOrder
  by_cases asks : (parameters.any fun p => p.key.val == fillParameters) = true
  · rw [if_pos asks, if_pos asks]
    dsimp only
    by_cases here : id = other
    · subst here
      rw [if_pos rfl, AList.lookup_insert]
      rfl
    · rw [if_neg here, AList.lookup_insert_ne here]
  · rw [if_neg asks, if_neg asks, Option.none_or, ite_self]

theorem recordUpdate_fillOrder (e : Endpoint) (id other : Nat) (parameters : List KeyValuePair) :
    (recordUpdate other parameters e).fillOrder id =
      if id = other then (askedOrder parameters).or (e.fillOrder id) else e.fillOrder id := by
  have filtered (e : Endpoint) : (noteFilterUpdate other parameters e).fillOrder id = e.fillOrder id :=
    rfl
  rw [recordUpdate, notePrefixUpdate_eq]
  exact (filtered _).trans (noteFillRequested_fillOrder _ id other parameters)

/-- The fill an update that was taken asked for. -/
def Event.fill (id : Nat) (event : Event) : Option GroupOrder :=
  match event.call.direct, event.reply with
  | .receiveRequestUpdate requestId _ parameters, .ok _ =>
    if requestId.val = id then askedOrder parameters else none
  | _, _ => none

/-- The fill asked for last. -/
def lastFill (id : Nat) (history : List Event) : Option GroupOrder :=
  history.findSome? (Event.fill id)

theorem lastFill_cons (id : Nat) (event : Event) (history : List Event) :
    lastFill id (event :: history) = (event.fill id).or (lastFill id history) := by
  rw [lastFill, List.findSome?_cons]
  cases event.fill id <;> rfl

theorem settled_fillOrder (e : Endpoint) (k : Kind) (other : Nat) (next : k.State) (id : Nat) :
    (e.settled k other next).fillOrder id = e.fillOrder id := by
  rw [Endpoint.fillOrder, settled_fills, Endpoint.fillOrder]

/-- A call about another request leaves what is known of the fills of one there is. -/
theorem fillOrder_elsewhere (tidy : e.Tidy) (effect : Effect order e c result e')
    (elsewhere : c.names ≠ some id) (held : ∃ k, (e.state k id).isSome = true) :
    e'.fillOrder id = e.fillOrder id := by
  have other {named : Nat} (names : c.names = some named) : id ≠ named := by
    rintro rfl
    exact elsewhere names
  cases effect with
  | quiet calm open' limits sameFills => exact sameFills id
  | opened k kind active fresh binds ids kept =>
    rename_i requestId _ _ _ _
    have different : id ≠ requestId.val := by
      rintro rfl
      obtain ⟨k', some⟩ := held
      rw [fresh, tidy.unreached] at some
      cases some
    exact congrArg (Option.map FillStreams.groupOrder) (kept id different)
  | entered k kind active names peers fresh unconflicted kept rejectionsKept =>
    have different := other (by rw [Call.names, names]; rfl)
    exact congrArg (Option.map FillStreams.groupOrder) (kept id different)
  | updated =>
    rw [recordUpdate_fillOrder, if_neg (other rfl), charged_eq]
    rfl
  | moved => exact settled_fillOrder ..
  | accepted waiting unconflicted =>
    rename_i requestId trackAlias _
    exact settled_fillOrder e .subscription requestId.val SubscriptionState.active id
  | overdrawn => rw [charged_eq]; rfl
  | unexpected => rw [failed, charged_eq]; rfl
  | updateAnswered => rw [oweEnding_eq, settleUpdate_eq]; rfl
  | answered =>
    rw [settleAnswer_eq]
    exact settled_fillOrder ..
  | ended status overlap held step =>
    rename_i next requestId _
    exact settled_fillOrder e .subscription requestId.val next id
  | published status held =>
    rename_i requestId _ _
    exact settled_fillOrder e .publish requestId.val PublishState.done id
  | _ => rfl

/-! ## The updates of one request -/

theorem notePrefixUpdate_withdrawn (e : Endpoint) (id : Nat) (parameters : List KeyValuePair) :
    ((notePrefixUpdate id parameters e).terms id).withdrawn = (e.terms id).withdrawn := by
  unfold notePrefixUpdate weighPrefix
  split
  · rfl
  · split
    · ext1
      case state =>
        funext k
        cases k <;> rfl
      all_goals rfl
    · ext1
      case state =>
        funext k
        cases k <;> rfl
      all_goals rfl
    · rfl

theorem recordUpdate_withdrawn (e : Endpoint) (id : Nat) (parameters : List KeyValuePair) :
    ((recordUpdate id parameters e).terms id).withdrawn = (e.terms id).withdrawn := by
  have filtered (e : Endpoint) :
      ((noteFilterUpdate id parameters e).terms id).withdrawn = (e.terms id).withdrawn := by
    ext1
    case state =>
      funext k
      cases k <;> rfl
    all_goals rfl
  rw [recordUpdate, notePrefixUpdate_withdrawn, filtered, noteFillRequested_terms, counted_terms]

/-- An update of the request only adds to what waits for its answer, and asks for a fill. -/
theorem terms_updated {requestId named : VarInt} {parameters : List KeyValuePair}
    (effect : Effect order e (.receiveRequestUpdate requestId named parameters) result e') :
    (e'.terms requestId.val).withdrawn = (e.terms requestId.val).withdrawn ∧
      e'.fillOrder requestId.val =
        (match result with
          | .ok _ => askedOrder parameters
          | .error _ => none).or (e.fillOrder requestId.val) := by
  cases effect with
  | panicked | refused => exact ⟨rfl, rfl⟩
  | violated | crowded => exact ⟨by rw [failed_terms], rfl⟩
  | quiet calm => exact calm.elim
  | opened k kind => cases kind
  | moved k drives => cases drives
  | overdrawn => exact ⟨by rw [charged_terms], by rw [charged_eq]; rfl⟩
  | unexpected => exact ⟨by rw [failed_terms, charged_terms], by rw [failed, charged_eq]; rfl⟩
  | updated credit one same =>
    constructor
    · rw [recordUpdate_withdrawn]
      exact congrArg Terms.withdrawn (restated_terms e requestId.val requestId.val same)
    · rw [recordUpdate_fillOrder, if_pos rfl, charged_eq]
      rfl

/-- An update of the request, or something said about another. -/
def Endpoint.Leaves (id : Nat) (_ : Endpoint) (c : Call) : Prop :=
  c.direct.names ≠ some id ∨
    ∃ requestId named parameters, c.direct = .receiveRequestUpdate requestId named parameters ∧
      requestId.val = id

theorem left_step {event : Event} (tidy : e.Tidy) (held : ∃ k, (e.state k id).isSome = true)
    (leaves : e.Leaves id event.call) (effect : Effect order e event.call.direct event.reply e') :
    (e'.terms id).withdrawn = (e.terms id).withdrawn ∧
      e'.fillOrder id = (event.fill id).or (e.fillOrder id) := by
  rcases leaves with elsewhere | ⟨requestId, named, parameters, update, rfl⟩
  · refine ⟨by rw [terms_elsewhere tidy effect elsewhere held], ?_⟩
    have unasked : event.fill id = none := by
      unfold Event.fill
      split
      · rename_i requestId _ parameters _ called _
        refine if_neg fun here => elsewhere ?_
        rw [called, ← here]
        rfl
      · rfl
    rw [unasked, Option.none_or]
    exact fillOrder_elsewhere tidy effect elsewhere held
  · rw [update] at effect
    obtain ⟨terms, fill⟩ := terms_updated effect
    refine ⟨terms, fill.trans (congrArg (Option.or · _) ?_)⟩
    unfold Event.fill
    rw [update]
    cases event.reply with
    | ok reply => exact (if_pos rfl).symm
    | error failure => rfl

/-- One REQUEST_ERROR withdraws all that waits. -/
theorem refused_terms {error : RequestError} (e : Endpoint) (id unanswered : Nat) :
    (oweEnding id (.requestError error) (settleUpdate id unanswered (.requestError error) e)).terms id =
      (e.terms id).withdrawn := by
  have counted (table : Table Nat) :
      ((restoreUpdateCredit { e with unansweredPeerUpdates := table } id).terms id).withdrawn =
        (e.terms id).withdrawn := by
    rw [restored_terms, counted_terms]
  have settled (e : Endpoint) : Endpoint.terms { settlePrefixUpdate id false
      { e with peerFilterRejections := e.peerFilterRejections.erase id } with
        overlappingPrefixUpdates := (settlePrefixUpdate id false
          { e with peerFilterRejections := e.peerFilterRejections.erase id }).overlappingPrefixUpdates.erase
            id } id = (e.terms id).withdrawn := by
    unfold settlePrefixUpdate
    cases asked : e.updatedNamespacePrefixes.lookup id with
    | none =>
      ext1
      case asked => exact asked
      case askedOverlap => exact AList.lookup_erase _ _
      case rejection => exact AList.lookup_erase _ _
      case state =>
        funext k
        cases k <;> rfl
      all_goals rfl
    | some namespacePrefix =>
      ext1
      case asked => exact AList.lookup_erase _ _
      case askedOverlap => exact AList.lookup_erase _ _
      case rejection => exact AList.lookup_erase _ _
      case state =>
        funext k
        cases k <;> rfl
      all_goals rfl
  rw [oweEnding_terms, ← counted (e.unansweredPeerUpdates.insert id (unanswered - unanswered))]
  exact settled _

/-! ## What waits for an answer -/

/-- The updates of a request that no answer has gone out to. -/
def Endpoint.unanswered (e : Endpoint) (id : Nat) : Nat := (e.unansweredPeerUpdates.lookup id).getD 0

/-- Nothing waits for the answer to an update but what an unanswered one has left. -/
structure Terms.Awaiting (terms : Terms) (unanswered : Nat) : Prop where
  asked : terms.asked.isSome = true → unanswered ≠ 0
  collides : terms.askedOverlap.isSome = true → terms.asked.isSome = true
  rejected : terms.rejection.isSome = true →
    unanswered ≠ 0 ∨ terms.message.isSome = true ∧ terms.answered = false

def Endpoint.Awaiting (e : Endpoint) : Prop := ∀ id, (e.terms id).Awaiting (e.unanswered id)

theorem awaiting_fresh (fresh : e.Fresh) : e.Awaiting := by
  obtain ⟨role, rfl⟩ := fresh
  refine fun id => ⟨?_, ?_, ?_⟩ <;> exact fun waits => nomatch waits

theorem Endpoint.Awaiting.congr (awaiting : e.Awaiting) (inbound : e'.inboundRequests = e.inboundRequests)
    (answered : e'.answeredPeerRequests = e.answeredPeerRequests)
    (asked : e'.updatedNamespacePrefixes = e.updatedNamespacePrefixes)
    (collides : e'.overlappingPrefixUpdates = e.overlappingPrefixUpdates)
    (rejections : e'.peerFilterRejections = e.peerFilterRejections)
    (unanswered : e'.unansweredPeerUpdates = e.unansweredPeerUpdates) : e'.Awaiting := by
  intro id
  obtain ⟨wasAsked, wasCollides, wasRejected⟩ := awaiting id
  unfold Endpoint.terms at wasAsked wasCollides wasRejected ⊢
  rw [Endpoint.unanswered] at wasAsked wasRejected ⊢
  rw [inbound, answered, asked, collides, rejections, unanswered]
  exact ⟨wasAsked, wasCollides, wasRejected⟩

theorem recordUpdate_unanswered (e : Endpoint) (id other : Nat) (parameters : List KeyValuePair) :
    (recordUpdate other parameters e).unanswered id =
      if id = other then e.unanswered id + 1 else e.unanswered id := by
  have recorded : (recordUpdate other parameters e).unansweredPeerUpdates =
      e.unansweredPeerUpdates.insert other (e.unanswered other + 1) := by
    rw [recordUpdate, notePrefixUpdate_eq]
    dsimp only [noteFilterUpdate]
    rw [noteFillRequested_eq]
    rfl
  rw [Endpoint.unanswered, recorded]
  by_cases here : id = other
  · subst here
    rw [if_pos rfl, AList.lookup_insert]
    rfl
  · rw [if_neg here, AList.lookup_insert_ne here]
    rfl

theorem settleUpdate_unanswered (e : Endpoint) {id other : Nat} (unanswered : Nat)
    (msg : ControlMessage) (elsewhere : id ≠ other) :
    (settleUpdate other unanswered msg e).unanswered id = e.unanswered id := by
  have settled : ∃ left, (settleUpdate other unanswered msg e).unansweredPeerUpdates =
      e.unansweredPeerUpdates.insert other left := by
    refine ⟨unanswered - if isRequestError msg then unanswered else 1, ?_⟩
    unfold settleUpdate
    dsimp only
    split_ifs <;> rw [settlePrefixUpdate_eq, restoreUpdateCredit_eq]
  obtain ⟨left, settled⟩ := settled
  rw [Endpoint.unanswered, settled, AList.lookup_insert_ne elsewhere]
  rfl

/-- A verdict on a prefix is recorded with the prefix. -/
theorem notePrefixUpdate_collides (e : Endpoint) (id : Nat) (parameters : List KeyValuePair)
    (before : (e.terms id).askedOverlap.isSome = true → (e.terms id).asked.isSome = true) :
    ((notePrefixUpdate id parameters e).terms id).askedOverlap.isSome = true →
      ((notePrefixUpdate id parameters e).terms id).asked.isSome = true := by
  unfold notePrefixUpdate weighPrefix
  split
  · exact before
  · split
    · exact fun _ => (congrArg Option.isSome (AList.lookup_insert _)).trans rfl
    · exact fun _ => (congrArg Option.isSome (AList.lookup_insert _)).trans rfl
    · exact before

/-- An update that was taken leaves something to answer. -/
theorem awaiting_updated (awaiting : e.Awaiting) (other : Nat) (parameters : List KeyValuePair) :
    (recordUpdate other parameters e).Awaiting := by
  intro id
  rw [recordUpdate_unanswered]
  by_cases here : id = other
  · subst here
    rw [if_pos rfl]
    refine ⟨fun _ => Nat.succ_ne_zero _, ?_, fun _ => .inl (Nat.succ_ne_zero _)⟩
    refine notePrefixUpdate_collides _ id parameters ?_
    dsimp only [noteFilterUpdate]
    rw [noteFillRequested_eq]
    exact (awaiting id).collides
  · rw [if_neg here, recordUpdate_terms e parameters here]
    exact awaiting id

/-- An acceptance is written where nothing forces a refusal, and moves the prefix. -/
theorem awaiting_accepted {ps ts : List KeyValuePair} (e : Endpoint) (id unanswered : Nat)
    (allowed : e.mustBeRejected id (.requestOk ps ts) = none)
    (overlap : requireOverlapRefusal id (e.overlappingPrefixUpdates.lookup id) (.requestOk ps ts) = .ok ()) :
    ((settleUpdate id unanswered (.requestOk ps ts) e).terms id).Awaiting
      ((settleUpdate id unanswered (.requestOk ps ts) e).unanswered id) := by
  have unrejected : (settleUpdate id unanswered (.requestOk ps ts) e).peerFilterRejections.lookup id =
      none := by
    refine Eq.trans (congrArg (AList.lookup id) ?_) allowed
    unfold settleUpdate
    dsimp only [isRequestError, isRequestOk]
    simp only [Bool.false_eq_true, if_false, if_true]
    rw [settlePrefixUpdate_eq, restoreUpdateCredit_eq]
  have uncollided : (settleUpdate id unanswered (.requestOk ps ts) e).overlappingPrefixUpdates.lookup id =
      none := by
    have clear : e.overlappingPrefixUpdates.lookup id = none := by
      by_contra found
      obtain ⟨established, found⟩ := Option.ne_none_iff_exists'.mp found
      rw [found] at overlap
      cases overlap
    refine Eq.trans (congrArg (AList.lookup id) ?_) clear
    unfold settleUpdate
    dsimp only [isRequestError, isRequestOk]
    simp only [Bool.false_eq_true, if_false, if_true]
    rw [settlePrefixUpdate_eq, restoreUpdateCredit_eq]
  have moved : (settleUpdate id unanswered (.requestOk ps ts) e).updatedNamespacePrefixes.lookup id =
      none := by
    unfold settleUpdate
    dsimp only [isRequestError, isRequestOk]
    simp only [Bool.false_eq_true, if_false, if_true]
    unfold settlePrefixUpdate
    split
    · assumption
    · exact AList.lookup_erase _ _
  refine ⟨?_, ?_, ?_⟩
  · intro asked
    cases (congrArg Option.isSome moved).symm.trans asked
  · intro collides
    cases (congrArg Option.isSome uncollided).symm.trans collides
  · intro rejected
    cases (congrArg Option.isSome unrejected).symm.trans rejected

theorem answersAnUpdate_kind {msg : ControlMessage} (answers : e.answersAnUpdate id msg = true) :
    (∃ ps ts, msg = .requestOk ps ts) ∨ ∃ error, msg = .requestError error := by
  cases msg with
  | requestOk ps ts => exact .inl ⟨ps, ts, rfl⟩
  | requestError error => exact .inr ⟨error, rfl⟩
  | _ => cases answers

/-- Every answer to an update spends what it answers. -/
theorem awaiting_answered {msg : ControlMessage} (awaiting : e.Awaiting) (other unanswered : Nat)
    (allowed : e.mustBeRejected other msg = none) (answers : e.answersAnUpdate other msg = true)
    (overlap : requireOverlapRefusal other (e.overlappingPrefixUpdates.lookup other) msg = .ok ()) :
    (oweEnding other msg (settleUpdate other unanswered msg e)).Awaiting := by
  intro id
  have owed : (oweEnding other msg (settleUpdate other unanswered msg e)).unanswered id =
      (settleUpdate other unanswered msg e).unanswered id := by
    rw [oweEnding_eq]
    rfl
  rw [owed]
  by_cases here : id = other
  · subst here
    rcases answersAnUpdate_kind answers with ⟨ps, ts, rfl⟩ | ⟨error, rfl⟩
    · rw [oweEnding_terms]
      exact awaiting_accepted e id unanswered allowed overlap
    · rw [refused_terms]
      exact ⟨fun asked => (by cases asked), fun collides => (by cases collides),
        fun rejected => (by cases rejected)⟩
  · rw [oweEnding_terms, settleUpdate_terms e _ _ here, settleUpdate_unanswered e _ _ here]
    exact awaiting id

theorem settleAnswer_rejections (e : Endpoint) (id : Nat) (msg : ControlMessage) :
    (settleAnswer id msg e).peerFilterRejections =
      if isRequestError msg then e.peerFilterRejections.erase id else e.peerFilterRejections := by
  unfold settleAnswer
  dsimp only
  split_ifs <;> first | rfl | rw [restoreUpdateCredit_eq]

theorem settleAnswer_answeredPeerRequests (e : Endpoint) (id : Nat) (msg : ControlMessage) :
    (settleAnswer id msg e).answeredPeerRequests =
      if isAcceptance msg || isRequestError msg then insert id e.answeredPeerRequests
      else e.answeredPeerRequests := by
  unfold settleAnswer
  dsimp only
  split_ifs <;> first | rfl | rw [restoreUpdateCredit_eq]

/-- The answer to a request leaves no rejection standing that it goes against. -/
theorem awaiting_settled {msg : ControlMessage} (awaiting : e.Awaiting) (other : Nat)
    (allowed : e.mustBeRejected other msg = none) : (settleAnswer other msg e).Awaiting := by
  intro id
  have counted : (settleAnswer other msg e).unanswered id = e.unanswered id := by
    rw [settleAnswer_eq]
    rfl
  rw [counted]
  by_cases here : id = other
  · subst here
    obtain ⟨asked, collides, rejected⟩ := awaiting id
    refine ⟨?_, ?_, ?_⟩
    · rw [settleAnswer_eq]
      exact asked
    · rw [settleAnswer_eq]
      exact collides
    · intro still
      change ((settleAnswer id msg e).peerFilterRejections.lookup id).isSome = true at still
      rw [settleAnswer_rejections] at still
      by_cases refuses : isRequestError msg = true
      · rw [if_pos refuses, AList.lookup_erase] at still
        cases still
      rw [if_neg refuses] at still
      have unaccepted : isAcceptance msg = false := by
        by_contra accepts
        rw [Bool.not_eq_false] at accepts
        rw [mustBeRejected, if_pos accepts] at allowed
        rw [allowed] at still
        cases still
      have same : (settleAnswer id msg e).answeredPeerRequests = e.answeredPeerRequests := by
        rw [settleAnswer_answeredPeerRequests, if_neg (by simp [unaccepted, refuses])]
      refine (rejected still).imp_right fun ⟨known, unanswered⟩ => ⟨?_, ?_⟩
      · rw [settleAnswer_eq]
        exact known
      · exact (congrArg (fun answered => decide (id ∈ answered)) same).trans unanswered
  · rw [settleAnswer_terms e msg here]
    exact awaiting id

theorem awaiting_moved (awaiting : e.Awaiting) (k : Kind) (id : Nat) (next : k.State) :
    (e.settled k id next).Awaiting :=
  awaiting.congr (settled_inboundRequests ..) (settled_answeredPeerRequests ..)
    (settled_updatedNamespacePrefixes ..) (by cases k <;> rfl) (settled_peerFilterRejections ..)
    (settled_unansweredPeerUpdates ..)

theorem awaiting_step (tidy : e.Tidy) (held : e.AnswersHeld) (awaiting : e.Awaiting)
    (effect : Effect order e c result e') : e'.Awaiting := by
  cases effect with
  | panicked | refused => exact awaiting
  | violated | crowded | misnamed | misoffered | quiet | overpaidPublication | overpaidSubscription =>
    exact awaiting.congr rfl rfl rfl rfl rfl rfl
  | overdrawn =>
    rw [charged_eq]
    exact awaiting.congr rfl rfl rfl rfl rfl rfl
  | unexpected =>
    rw [failed, charged_eq]
    exact awaiting.congr rfl rfl rfl rfl rfl rfl
  | moved k => exact awaiting_moved awaiting k _ _
  | opened k | accepted | ended | published =>
    exact (awaiting_moved awaiting _ _ _).congr rfl rfl rfl rfl rfl rfl
  | entered k kind active names peers fresh unconflicted kept rejectionsKept =>
    rename_i msg requestId fills rejections
    intro id
    obtain ⟨asked, collides, rejected⟩ := awaiting_moved awaiting k requestId.val k.opening id
    refine ⟨asked, collides, fun still => ?_⟩
    by_cases here : id = requestId.val
    · subst here
      refine .inr ⟨(congrArg Option.isSome (AList.lookup_insert _)).trans rfl, ?_⟩
      refine decide_eq_false fun answered => ?_
      obtain ⟨k', machine⟩ := held requestId.val (settled_answeredPeerRequests e k _ _ ▸ answered)
      rw [tidy.unmet fresh peers] at machine
      cases machine
    · have same : rejections.lookup id = (e.settled k requestId.val k.opening).peerFilterRejections.lookup id :=
        (rejectionsKept id here).trans (congrArg (AList.lookup id) (settled_peerFilterRejections ..)).symm
      refine (rejected ((congrArg Option.isSome same).symm.trans still)).imp_right ?_
      rintro ⟨known, unanswered⟩
      refine ⟨?_, unanswered⟩
      refine (congrArg Option.isSome (AList.lookup_insert_ne here)).trans ?_
      rwa [← settled_inboundRequests e k requestId.val k.opening]
  | updated credit one same =>
    refine awaiting_updated ?_ _ _
    rw [charged_eq]
    exact awaiting.congr rfl rfl rfl rfl rfl rfl
  | updateAnswered allowed answers unanswered overlap =>
    exact awaiting_answered awaiting _ _ allowed answers overlap
  | answered allowed answers overlap k writes held step =>
    refine awaiting_settled (awaiting_moved awaiting k _ _) _ ?_
    unfold mustBeRejected at allowed ⊢
    rw [settled_peerFilterRejections]
    exact allowed

theorem awaiting_of_run {allowed : Endpoint → Call → Prop} (run : Allowed allowed history e) :
    e.Tidy ∧ e.AnswersHeld ∧ e.Awaiting := by
  induction run with
  | start fresh =>
    obtain ⟨role, rfl⟩ := fresh
    exact ⟨tidy_fresh ⟨role, rfl⟩, fun id answered => absurd answered (Finset.notMem_empty id),
      awaiting_fresh ⟨role, rfl⟩⟩
  | step run happens ih =>
    obtain ⟨tidy, held, awaiting⟩ := ih
    obtain ⟨order, effect⟩ := happens_effect tidy happens
    exact ⟨tidy_step tidy effect, answersHeld_step tidy held effect, awaiting_step tidy held awaiting effect⟩

/-- Where no update waits, an answer to one would have nothing to withdraw. -/
theorem withdrawn_nothing (awaiting : e.Awaiting) (settled : e.unanswered id = 0)
    (answerable : (e.terms id).answered = true ∨ (e.terms id).message = none) :
    (e.terms id).withdrawn = e.terms id := by
  obtain ⟨asked, collides, rejected⟩ := awaiting id
  have unasked : (e.terms id).asked = none := by
    by_contra found
    exact asked (Option.isSome_iff_ne_none.mpr found) settled
  have uncollided : (e.terms id).askedOverlap = none := by
    by_contra found
    have := collides (Option.isSome_iff_ne_none.mpr found)
    rw [unasked] at this
    cases this
  have unrejected : (e.terms id).rejection = none := by
    by_contra found
    rcases rejected (Option.isSome_iff_ne_none.mpr found) with waits | ⟨known, unanswered⟩
    · exact waits settled
    · rcases answerable with answered | absent
      · rw [answered] at unanswered
        cases unanswered
      · rw [absent] at known
        cases known
  ext1
  · rfl
  · rfl
  · rfl
  · rfl
  · rfl
  · exact unasked.symm
  · exact uncollided.symm
  · exact unrejected.symm

/-! ## Runs -/

theorem left_of_run {later : List Event} {e₁ : Endpoint} (tidy : e.Tidy)
    (held : ∃ k, (e.state k id).isSome = true)
    (segment : Run (· = e) (Happens (Endpoint.Leaves id)) later e₁) :
    e₁.Tidy ∧ (∃ k, (e₁.state k id).isSome = true) ∧
      (e₁.terms id).withdrawn = (e.terms id).withdrawn ∧
      e₁.fillOrder id = (lastFill id later).or (e.fillOrder id) := by
  induction segment with
  | start same =>
    subst same
    exact ⟨tidy, held, rfl, rfl⟩
  | @step later e₁ e₂ event segment happens ih =>
    obtain ⟨tidy, ⟨k, machine⟩, terms, fill⟩ := ih
    obtain ⟨order, effect⟩ := happens_effect tidy happens
    obtain ⟨sameTerms, sameFill⟩ := left_step tidy ⟨k, machine⟩ happens.2.1 effect
    refine ⟨tidy_step tidy effect, ⟨k, held_after tidy effect machine⟩, sameTerms.trans terms, ?_⟩
    rw [sameFill, fill, lastFill_cons, Option.or_assoc]

/-- Updates of a request that one REQUEST_ERROR answers leave its terms as they were, and
the fill they asked for last on record. What had been waiting before them is refused
with them. -/
theorem refused_updates_withdrawn {earlier later : List Event} {e₁ : Endpoint} {error : RequestError}
    {reply : Reply} (run : Allowed (fun _ _ => True) earlier e) (request : e.isRequest requestId.val)
    (segment : Run (· = e) (Happens (Endpoint.Leaves requestId.val)) later e₁)
    (refused : e₁.call order (.sendResponseOnStream requestId (.requestError error)) = (.ok reply, e'))
    (answers : e₁.answersAnUpdate requestId.val (.requestError error) = true) :
    e'.terms requestId.val = (e.terms requestId.val).withdrawn ∧
      (e.unanswered requestId.val = 0 → e'.terms requestId.val = e.terms requestId.val) ∧
      e'.fillOrder requestId.val = (lastFill requestId.val later).or (e.fillOrder requestId.val) := by
  obtain ⟨tidy, -, awaiting⟩ := awaiting_of_run run
  have held : ∃ k, (e.state k requestId.val).isSome = true := by
    rcases request with held | held | held | held | held | held | held
    · exact ⟨.subscription, AList.lookup_isSome.mpr held⟩
    · exact ⟨.publish, AList.lookup_isSome.mpr held⟩
    · exact ⟨.fetch, AList.lookup_isSome.mpr held⟩
    · exact ⟨.subscribeNamespace, AList.lookup_isSome.mpr held⟩
    · exact ⟨.subscribeTracks, AList.lookup_isSome.mpr held⟩
    · exact ⟨.publishNamespace, AList.lookup_isSome.mpr held⟩
    · exact ⟨.trackStatus, AList.lookup_isSome.mpr held⟩
  obtain ⟨tidy₁, -, terms, fill⟩ := left_of_run tidy held segment
  have effect := call_effect order e₁ (.sendResponseOnStream requestId (.requestError error))
    tidy₁.unbounded
  rw [refused] at effect
  have outcome : e' = oweEnding requestId.val (.requestError error) (settleUpdate requestId.val
      ((e₁.unansweredPeerUpdates.lookup requestId.val).getD 0) (.requestError error) e₁) :=
    update_refused_effect effect answers
  have withdrawn : e'.terms requestId.val = (e.terms requestId.val).withdrawn := by
    rw [outcome, refused_terms, terms]
  refine ⟨withdrawn, fun settled => ?_, ?_⟩
  · rw [withdrawn]
    refine withdrawn_nothing awaiting settled ?_
    unfold answersAnUpdate at answers
    rw [if_neg (by simp [isOkOrError])] at answers
    split_ifs at answers with own impossible
    · right
      have same := congrArg Terms.message terms
      change (e₁.terms requestId.val).message = (e.terms requestId.val).message at same
      rw [← same]
      exact AList.lookup_eq_none.mpr own.2
    · exact absurd impossible.1 (by simp [isRequestOk])
    · left
      have same := congrArg Terms.answered terms
      change (e₁.terms requestId.val).answered = (e.terms requestId.val).answered at same
      rw [← same]
      exact answers
  · rw [outcome, oweEnding_eq, settleUpdate_eq]
    exact fill

/-! A SUBSCRIBE of the peer's, an update of it that asks for a fill, and the refusal. -/

/-- FILL_PARAMETERS with nothing in it. -/
def fillAsked : List KeyValuePair := [⟨.ofU64 fillParameters, .bytes [0]⟩]

def fillCall : Call := .receiveRequestUpdate (.ofU64 0) (.ofU64 0) fillAsked

def refusalCall : Call := .sendResponseOnStream (.ofU64 0) (.requestError ⟨.ofU64 0, .ofU64 0, [], none⟩)

def askedEndpoint : Endpoint := (subscribedEndpoint.call .stored fillCall).2

def refusedEndpoint : Endpoint := (askedEndpoint.call .stored refusalCall).2

theorem fill_segment : Run (· = subscribedEndpoint) (Happens (Endpoint.Leaves 0))
    [⟨subscribedEndpoint, fillCall, .ok .nothing⟩] askedEndpoint := by
  have happens : Happens (Endpoint.Leaves 0) subscribedEndpoint
      ⟨subscribedEndpoint, fillCall, .ok .nothing⟩ askedEndpoint := by
    refine ⟨rfl, .inr ⟨_, _, _, rfl, rfl⟩, .stored, ?_⟩
    rw [Prod.ext_iff]
    exact ⟨by decide, rfl⟩
  exact .step (.start rfl) happens

theorem refusal_called : askedEndpoint.call .stored refusalCall = (.ok .nothing, refusedEndpoint) := by
  rw [Prod.ext_iff]
  exact ⟨by decide, rfl⟩

theorem fill_withdrawn : refusedEndpoint.terms 0 = subscribedEndpoint.terms 0 := by
  have request : subscribedEndpoint.isRequest (VarInt.ofU64 0).val := .inl (by decide)
  have withdrawn := refused_updates_withdrawn (subscribed_run fun _ _ _ => trivial) request fill_segment
    refusal_called (by decide)
  exact withdrawn.2.1 (by decide)

/-- The fill of a refused update is still on record. -/
theorem refused_fill_kept :
    ¬ ∀ (order : IterationOrder) (e e₁ e' : Endpoint) (requestId : VarInt) (error : RequestError)
      (earlier later : List Event) (reply : Reply), Allowed (fun _ _ => True) earlier e →
      e.isRequest requestId.val → Run (· = e) (Happens (Endpoint.Leaves requestId.val)) later e₁ →
      e₁.call order (.sendResponseOnStream requestId (.requestError error)) = (.ok reply, e') →
      e₁.answersAnUpdate requestId.val (.requestError error) = true →
      e.unanswered requestId.val = 0 → e'.fillOrder requestId.val = e.fillOrder requestId.val := by
  intro claimed
  have kept := claimed .stored subscribedEndpoint askedEndpoint refusedEndpoint (.ofU64 0) _ _ _ _
    (subscribed_run fun _ _ _ => trivial) (.inl (by decide)) fill_segment refusal_called (by decide)
    (by decide)
  exact absurd kept (by decide)

end Moqtap.Draft22.Client
