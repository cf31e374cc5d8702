import Moqtap.EndpointIdentity

/-! The requests a Malformed Track is withdrawn through. What this endpoint receives a
track through is read off the run (`Receives`): its own SUBSCRIBEs and FETCHes for the
track and the peer's PUBLISHes of it, while unfinished. The answer of
`requests_for_malformed_track` is put together from a table of bindings, which serves
both directions, and one of fetches; `malformed_withdrawn` says that it names those
requests, that a condition once noted is the one reported, and that a request's alias can
be asked for. -/
namespace Moqtap.Draft22.Client
open ByteCursor Varint CodecTypes Parameters Messages Machines RangeFilters Runs
open Endpoint

variable {order : IterationOrder} {e e' : Endpoint} {c : Call} {result : Except Failure Reply}
  {requestId : VarInt} {id : Nat} {history : List Event} {event : Event} {track : Track}

def MalformedTracks.condition (tracks : MalformedTracks) (track : Track) :
    Option MalformedTrackCondition :=
  (List.find? (fun t => t.1 == track) tracks).map Prod.snd

namespace Endpoint

def malformedTrack (e : Endpoint) (track : Track) : Option MalformedTrackCondition :=
  e.malformed.condition track

def trackAliasFor (e : Endpoint) (requestId : VarInt) : Option VarInt := do
  let binding ← e.trackBindings.lookup requestId.val
  let held ← binding.trackAlias
  (VarInt.fromU64 held).toOption

/-- A live binding gives the alias to the track. -/
def Names (e : Endpoint) (trackAlias : Nat) (track : Track) : Prop :=
  ∃ id kind, e.trackBindings.lookup id = some ⟨track, some trackAlias, kind⟩ ∧
    e.bindingIsInUse id kind = true

end Endpoint

/-- The track a FETCH of this endpoint's asks for. -/
def Call.fetches : Call → Option Track
  | .fetch track _ | .fetchRange track _ _ => some track
  | _ => none

/-- A FETCH of this endpoint's that goes out. -/
def Event.Fetches (event : Event) (id : Nat) (track : Track) : Prop :=
  ∃ requestId msg, event.call.fetches = some track ∧ event.reply = .ok (.request requestId msg) ∧
    requestId.val = id

def Fetched (history : List Event) (id : Nat) (track : Track) : Prop :=
  ∃ event ∈ history, event.Fetches id track

/-- What this endpoint receives a track through: a SUBSCRIBE it sent, a PUBLISH the peer
sent or a FETCH it made, as long as that has not finished. -/
inductive Receives (history : List Event) (e : Endpoint) (track : Track) (id : Nat) : Prop
  | subscribed (asked : Asked history id track) {state : SubscriptionState}
      (found : e.subscriptions.lookup id = some state) (running : state ≠ .done)
  | offered {trackAlias : Nat} (published : PeerPublishes history .publish id trackAlias track)
      {state : PublishState} (found : e.publishes.lookup id = some state) (running : state ≠ .done)
  | fetched (fetched : Fetched history id track) {state : FetchState}
      (found : e.fetches.lookup id = some state) (running : state ≠ .done)

/-! ## The table of fetches -/

/-- The table holds the tracks of this endpoint's FETCHes, each of which a machine holds. -/
structure Traced (history : List Event) (e : Endpoint) : Prop where
  fetched : ∀ id track, e.fetchTracks.lookup id = some track ↔ Fetched history id track
  fetching : ∀ id track, e.fetchTracks.lookup id = some track → (e.state .fetch id).isSome = true
  offered : ∀ id track trackAlias, e.trackBindings.lookup id = some ⟨track, trackAlias, .publish⟩ →
    trackAlias ≠ none

theorem traced_fresh (fresh : e.Fresh) : Traced [] e := by
  obtain ⟨role, rfl⟩ := fresh
  refine ⟨?_, ?_, ?_⟩
  · intro id track
    constructor
    · intro held
      cases held
    · rintro ⟨event, known, -⟩
      cases known
  · intro id track held
    cases held
  · intro id track trackAlias bound
    cases bound

/-- What a call leaves of the fetches once its request has gone out. -/
def Call.traces (c : Call) (fetchTracks : Table Track) (id : Nat) : Table Track :=
  match c.fetches with
  | some track => fetchTracks.insert id track
  | none => fetchTracks

/-- A request goes out under the next Request ID and is traced, or is refused and is not. -/
def Traces (e : Endpoint) (c : Call) (outcome : Outcome (VarInt × ControlMessage)) : Prop :=
  (∃ failure, outcome.1 = .error failure) ∧ outcome.2.fetchTracks = e.fetchTracks ∨
    ∃ id msg, outcome.1 = .ok (id, msg) ∧ id.val = e.requestIds.nextId ∧
      outcome.2.fetchTracks = c.traces e.fetchTracks id.val

theorem traces_attempt {α : Type} {result : Except EndpointError α}
    {next : α → Outcome (VarInt × ControlMessage)} (traced : ∀ a, Traces e c (next a)) :
    Traces e c (e.attempt result next) := by
  cases result with
  | ok a => exact traced a
  | error error => exact .inl ⟨⟨_, rfl⟩, rfl⟩

theorem traces_openRequest (k : Kind) (sent : Except (InvalidTransition k.State) k.State)
    {record : Nat → Endpoint → Endpoint} (message : VarInt → ControlMessage)
    (records : ∀ id e, (record id e).fetchTracks = c.traces e.fetchTracks id) :
    Traces e c (e.openRequest k.flow sent record message) := by
  unfold openRequest allocate RequestIdAllocator.allocate
  by_cases blocked : e.requestIds.maxId = 0 ∨ e.requestIds.maxId < e.requestIds.nextId
  · rw [if_pos blocked]
    exact .inl ⟨⟨_, rfl⟩, rfl⟩
  rw [if_neg blocked]
  cases made : VarInt.fromU64 e.requestIds.nextId with
  | error error => exact .inl ⟨⟨_, rfl⟩, rfl⟩
  | ok id =>
    cases sent with
    | error error => exact .inl ⟨⟨_, rfl⟩, rfl⟩
    | ok state =>
      refine .inr ⟨id, message id, rfl, (VarInt.fromU64_success made).1, ?_⟩
      change (record id.val (k.flow.put _ _)).fetchTracks = _
      rw [records]
      cases k <;> rfl

/-- The seven requests of this endpoint's. -/
theorem call_traces (order : IterationOrder) {k : Kind} (opens : c.opens = some k) :
    ∃ outcome, e.call order c = outcome.map (fun r => .request r.1 r.2) ∧ Traces e c outcome := by
  cases c with
  | subscribe track parameters =>
    refine ⟨_, rfl, traces_attempt fun _ => traces_openRequest .subscription _ _ fun id e => ?_⟩
    rw [noteFillRequested_eq]
    rfl
  | fetch track parameters =>
    exact ⟨_, rfl, traces_attempt fun _ => traces_openRequest .fetch _ _ fun _ _ => rfl⟩
  | fetchRange track range parameters =>
    exact ⟨_, rfl, traces_attempt fun filter => traces_attempt fun _ =>
      traces_openRequest .fetch _ _ fun _ _ => rfl⟩
  | subscribeNamespace namespacePrefix parameters =>
    exact ⟨_, rfl, traces_attempt fun _ => traces_openRequest .subscribeNamespace _ _ fun _ _ => rfl⟩
  | subscribeTracks namespacePrefix parameters =>
    refine ⟨_, rfl, traces_attempt fun _ => traces_openRequest .subscribeTracks _ _ fun id e => ?_⟩
    rw [noteFillRequested_eq]
    rfl
  | publishNamespace trackNamespace parameters =>
    exact ⟨_, rfl, traces_attempt fun _ => traces_openRequest .publishNamespace _ _ fun _ _ => rfl⟩
  | trackStatus track parameters =>
    exact ⟨_, rfl, traces_attempt fun _ => traces_openRequest .trackStatus _ _ fun _ _ => rfl⟩
  | publish track trackAlias parameters trackProperties =>
    refine ⟨_, rfl, traces_attempt fun _ => ?_⟩
    cases e.aliasHeldElsewhere order trackAlias.val track with
    | some refusal => exact .inl ⟨⟨_, rfl⟩, rfl⟩
    | none => exact traces_openRequest .publish _ _ fun _ _ => rfl
  | _ => cases opens

/-- Nothing but a request of this endpoint's touches the fetches. -/
theorem fetchTracks_kept (effect : Effect order e c result e') (quiet : c.opens = none) :
    e'.fetchTracks = e.fetchTracks := by
  cases effect with
  | opened k kind => cases quiet.symm.trans kind
  | moved k => cases k <;> rfl
  | entered k => cases k <;> rfl
  | overdrawn => rw [charged_eq]
  | unexpected => rw [failed, charged_eq]
  | updated => rw [recordUpdate_eq, charged_eq]
  | updateAnswered => rw [oweEnding_eq, settleUpdate_eq]
  | answered allowed answers overlap k =>
    rw [settleAnswer_eq]
    cases k <;> rfl
  | _ => rfl

theorem fetches_opens (fetches : c.fetches = some track) : c.opens = some .fetch := by
  cases c <;> first | rfl | cases fetches

/-- A call that makes no FETCH traces none. -/
theorem fetchTracks_step (traced : Traced history e) (tidy : e.Tidy)
    (made : e.call order event.call = (event.reply, e'))
    (effect : Effect order e event.call.direct event.reply e') (id : Nat) (track : Track) :
    e'.fetchTracks.lookup id = some track ↔
      event.Fetches id track ∨ e.fetchTracks.lookup id = some track := by
  cases opens : event.call.opens with
  | none =>
    rw [fetchTracks_kept effect ((opens_direct _).trans opens)]
    refine ⟨.inr, fun known => known.resolve_left ?_⟩
    rintro ⟨requestId, msg, fetches, -⟩
    cases opens.symm.trans (fetches_opens fetches)
  | some k =>
    obtain ⟨outcome, called, traces⟩ := call_traces order opens
    rw [called] at made
    obtain ⟨replied, behind⟩ := Prod.mk.inj made
    rw [← behind]
    rcases traces with ⟨⟨failure, failed⟩, kept⟩ | ⟨requestId, msg, sent, fresh, written⟩
    · rw [failed] at replied
      rw [kept]
      refine ⟨.inr, fun known => known.resolve_left ?_⟩
      rintro ⟨requestId, msg, fetches, answered, -⟩
      cases replied.trans answered
    · rw [sent] at replied
      rw [written, Call.traces]
      cases fetches : event.call.fetches with
      | none =>
        refine ⟨.inr, fun known => known.resolve_left ?_⟩
        rintro ⟨requestId, msg, fetches', -⟩
        cases fetches.symm.trans fetches'
      | some asked =>
        have now (id' : Nat) (track' : Track) :
            event.Fetches id' track' ↔ id' = requestId.val ∧ track' = asked := by
          constructor
          · rintro ⟨requestId', msg', fetches', answered, rfl⟩
            cases fetches.symm.trans fetches'
            cases replied.trans answered
            exact ⟨rfl, rfl⟩
          · rintro ⟨rfl, rfl⟩
            exact ⟨requestId, msg, fetches, replied.symm, rfl⟩
        rw [now]
        have unmet : e.fetchTracks.lookup requestId.val = none := by
          by_contra known
          obtain ⟨track', known⟩ := Option.ne_none_iff_exists'.mp known
          have held := traced.fetching _ _ known
          rw [fresh, tidy.unreached] at held
          cases held
        dsimp only
        by_cases here : id = requestId.val
        · subst here
          rw [AList.lookup_insert, unmet]
          simp [eq_comm]
        · rw [AList.lookup_insert_ne here]
          simp [here]

/-- A call and what it did to the tables are recorded together. -/
theorem traced_step (tidy : e.Tidy) (recorded : Recorded history e) (traced : Traced history e)
    (made : e.call order event.call = (event.reply, e'))
    (effect : Effect order e event.call.direct event.reply e') : Traced (event :: history) e' where
  fetched id track := by
    rw [fetchTracks_step traced tidy made effect, traced.fetched]
    simp [Fetched]
  fetching id track held := by
    rcases (fetchTracks_step traced tidy made effect id track).mp held with fetches | before
    · obtain ⟨requestId, msg, fetches, replied, rfl⟩ := fetches
      rw [replied] at effect
      exact (request_opened ((opens_direct _).trans (fetches_opens fetches)) effect).2
    · exact held_after tidy effect (traced.fetching id track before)
  offered id track trackAlias bound := by
    rcases binding_step tidy recorded.machined effect id with same | ⟨next, found, cause⟩
    · exact traced.offered id track trackAlias (same ▸ bound)
    · have shape := Option.some.inj (found.symm.trans bound)
      generalize e.trackBindings.lookup id = held at cause
      generalize event.call.direct = call at cause
      generalize event.reply = reply at cause
      cases cause with
      | subscribed => cases shape
      | published =>
        cases shape
        exact Option.some_ne_none _
      | offered =>
        cases shape
        exact Option.some_ne_none _
      | named =>
        cases congrArg TrackBinding.trackAlias shape
        exact Option.some_ne_none _

theorem traced_of_run {allowed : Endpoint → Call → Prop} (run : Allowed allowed history e) :
    Traced history e := by
  induction run with
  | start fresh => exact traced_fresh fresh
  | @step _ e e' event run happens ih =>
    obtain ⟨tidy, recorded⟩ := recorded_of_run run
    obtain ⟨same, -, order, made⟩ := happens
    have effect := call_effect order e event.call tidy.unbounded
    rw [made] at effect
    exact traced_step tidy recorded ih made effect

/-! ## The answer -/

/-- The bindings this endpoint receives a track through. -/
theorem bound_iff (recorded : Recorded history e) (traced : Traced history e) (track : Track)
    (id : Nat) :
    (∃ binding, e.trackBindings.lookup id = some binding ∧ binding.track = track ∧
      e.bindingIsInUse id binding.kind = true ∧ e.receivesThrough id binding.kind = true) ↔
    (Asked history id track ∧ e.bindingIsInUse id .subscribe = true) ∨
      (∃ trackAlias, PeerPublishes history .publish id trackAlias track) ∧
        e.bindingIsInUse id .publish = true := by
  constructor
  · rintro ⟨⟨_, trackAlias, kind⟩, bound, rfl, live, receives⟩
    cases kind with
    | subscribe => exact .inl ⟨(recorded.asked id _).mpr ⟨trackAlias, bound⟩, live⟩
    | publish =>
      obtain ⟨held, rfl⟩ := Option.ne_none_iff_exists'.mp (traced.offered id _ trackAlias bound)
      exact .inr ⟨⟨held, recorded.told _ _ _ _ bound receives⟩, live⟩
  · rintro (⟨asked, live⟩ | ⟨⟨trackAlias, published⟩, live⟩)
    · obtain ⟨trackAlias, bound⟩ := (recorded.asked id track).mp asked
      exact ⟨_, bound, rfl, live, rfl⟩
    · obtain ⟨bound, receives⟩ := recorded.kept _ _ _ _ published
      exact ⟨_, bound, rfl, live, receives⟩

theorem any_ne_iff {σ : Type} [BEq σ] [LawfulBEq σ] {held : Option σ} {done : σ} :
    held.any (· != done) = true ↔ ∃ state, held = some state ∧ state ≠ done := by
  cases held <;> simp

/-- The requests a track is received through, as the tables have them. -/
theorem receives_iff (recorded : Recorded history e) (traced : Traced history e) (track : Track)
    (id : Nat) : Receives history e track id ↔
      (∃ binding, e.trackBindings.lookup id = some binding ∧ binding.track = track ∧
        e.bindingIsInUse id binding.kind = true ∧ e.receivesThrough id binding.kind = true) ∨
      e.fetchTracks.lookup id = some track ∧ (e.fetches.lookup id).any (· != .done) = true := by
  rw [bound_iff recorded traced, traced.fetched]
  simp only [bindingIsInUse, any_ne_iff]
  constructor
  · rintro (⟨asked, found, running⟩ | ⟨published, found, running⟩ | ⟨fetched, found, running⟩)
    · exact .inl (.inl ⟨asked, _, found, running⟩)
    · exact .inl (.inr ⟨⟨_, published⟩, _, found, running⟩)
    · exact .inr ⟨fetched, _, found, running⟩
  · rintro ((⟨asked, state, found, running⟩ | ⟨⟨trackAlias, published⟩, state, found, running⟩) |
      ⟨fetched, state, found, running⟩)
    · exact .subscribed asked found running
    · exact .offered published found running
    · exact .fetched fetched found running

/-- The requests of the answer, before they are put in order. -/
def Endpoint.receiving (e : Endpoint) (track : Track) : List Nat :=
  (e.trackBindings.entries.filter fun b =>
    b.2.track == track && e.bindingIsInUse b.1 b.2.kind && e.receivesThrough b.1 b.2.kind).map
      Sigma.fst ++
  (e.fetchTracks.entries.filter fun f =>
    f.2 == track && (e.fetches.lookup f.1).any (· != .done)).map Sigma.fst

theorem mem_receiving (recorded : Recorded history e) (traced : Traced history e) (track : Track)
    (id : Nat) : id ∈ e.receiving track ↔ Receives history e track id := by
  rw [receives_iff recorded traced, receiving, List.mem_append]
  simp only [List.mem_map, List.mem_filter, Bool.and_eq_true, beq_iff_eq]
  apply or_congr
  · constructor
    · rintro ⟨⟨_, binding⟩, ⟨listed, ⟨same, live⟩, receives⟩, rfl⟩
      exact ⟨binding, AList.mem_lookup_iff.mpr listed, same, live, receives⟩
    · rintro ⟨binding, bound, same, live, receives⟩
      exact ⟨⟨id, binding⟩, ⟨AList.mem_lookup_iff.mp bound, ⟨same, live⟩, receives⟩, rfl⟩
  · constructor
    · rintro ⟨⟨_, held⟩, ⟨listed, rfl, running⟩, rfl⟩
      exact ⟨AList.mem_lookup_iff.mpr listed, running⟩
    · rintro ⟨fetched, running⟩
      exact ⟨⟨id, track⟩, ⟨AList.mem_lookup_iff.mp fetched, rfl, running⟩, rfl⟩

/-- Some of a table's keys, none of them twice. -/
theorem keys_nodup {β : Type} (table : Table β) (keep : (Sigma fun _ : Nat => β) → Bool) :
    ((table.entries.filter keep).map Sigma.fst).Nodup := by
  have keys : table.keys.Nodup := table.keys_nodup
  exact keys.sublist (List.filter_sublist.map Sigma.fst)

/-- No request is named twice: one machine holds it, so it is not in both tables. -/
theorem receiving_nodup (tidy : e.Tidy) (recorded : Recorded history e) (traced : Traced history e)
    (track : Track) : (e.receiving track).Nodup := by
  refine List.nodup_append.mpr ⟨keys_nodup _ _, keys_nodup _ _, ?_⟩
  rintro id bound _ fetched rfl
  obtain ⟨⟨_, binding⟩, listed, rfl⟩ := List.mem_map.mp bound
  obtain ⟨⟨_, held⟩, traced', same⟩ := List.mem_map.mp fetched
  have machine := recorded.machined _ binding (AList.mem_lookup_iff.mpr (List.mem_of_mem_filter listed))
  have fetching := traced.fetching _ held (AList.mem_lookup_iff.mpr (List.mem_of_mem_filter traced'))
  dsimp only at same machine fetching
  rw [same] at fetching
  have alone := tidy.alone _ _ _ machine fetching
  cases kind : binding.kind <;> rw [kind] at alone <;> cases alone

theorem sorted_lt {ids : List Nat} (once : ids.Nodup) : (ids.mergeSort (· ≤ ·)).Pairwise (· < ·) := by
  have sorted := List.pairwise_mergeSort' (· ≤ ·) ids
  have distinct : (ids.mergeSort (· ≤ ·)).Pairwise (· ≠ ·) := (List.mergeSort_perm ids _).nodup_iff.mpr once
  exact (sorted.and distinct).imp fun both => Nat.lt_of_le_of_ne both.1 both.2

/-! ## The record -/

/-- The first condition noted of a track is the one it keeps. -/
theorem condition_note (tracks : MalformedTracks) (track other : Track)
    (condition : MalformedTrackCondition) :
    (tracks.note track condition).condition other =
      if other = track then some ((tracks.condition track).getD condition)
      else tracks.condition other := by
  unfold MalformedTracks.note
  split
  · rename_i known
    have found : (tracks.condition track).isSome = true := by
      rw [MalformedTracks.condition, Option.isSome_map, List.find?_isSome]
      simpa using known
    obtain ⟨first, found⟩ := Option.isSome_iff_exists.mp found
    split
    · subst other
      rw [found]
      rfl
    · rfl
  · rename_i unknown
    have absent : List.find? (fun t => t.1 == track) tracks = none := by
      rw [List.find?_eq_none]
      intro t listed same
      exact unknown (List.any_eq_true.mpr ⟨t, listed, same⟩)
    unfold MalformedTracks.condition
    rw [List.find?_append]
    split
    · subst other
      rw [absent]
      simp
    · rename_i different
      simp [Ne.symm different]

/-! ## Withdrawal -/

/-- The track an alias is resolved to is one a live binding gives it to. -/
theorem trackForAlias_names {trackAlias : Nat} (found : e.trackForAlias order trackAlias = some track) :
    e.Names trackAlias track := by
  obtain ⟨⟨id, binding⟩, first, rfl⟩ := Option.map_eq_some_iff.mp found
  have listed := mem_bindings.mp (List.mem_of_find?_eq_some first)
  have matched := List.find?_some first
  simp only [Bool.and_eq_true, beq_iff_eq] at matched
  obtain ⟨held, heldAlias, kind⟩ := binding
  obtain ⟨rfl, live⟩ := matched
  exact ⟨id, kind, listed, live⟩

/-- An alias that a live binding names is resolved to some track. -/
theorem trackForAlias_of_names (order : IterationOrder) {trackAlias : Nat} (named : e.Names trackAlias track) :
    ∃ found, e.trackForAlias order trackAlias = some found := by
  obtain ⟨id, kind, bound, live⟩ := named
  rw [← Option.isSome_iff_exists, trackForAlias, Option.isSome_map, List.find?_isSome]
  refine ⟨⟨id, _⟩, mem_bindings.mpr bound, ?_⟩
  simp [live]

/-- The alias of a binding is answered, if it fits. -/
theorem trackAliasFor_bound {trackAlias : Nat} {kind : BindingKind}
    (bound : e.trackBindings.lookup requestId.val = some ⟨track, some trackAlias, kind⟩)
    (fits : trackAlias ≤ maxVarint) :
    (e.trackAliasFor requestId).map VarInt.val = some trackAlias := by
  unfold trackAliasFor
  rw [bound]
  simp [VarInt.fromU64, fits, Except.toOption]

/-- A track found malformed is withdrawn from, over every run. An alias that live bindings
name is resolved to the track of one of them; the requests named are those this endpoint
receives that track through, each once and in increasing order, all of those whose Request
ID fits 62 bits among them; nothing moves but the record of malformed tracks, which
answers the condition first noted; and the alias of a publication of the peer's is answered
when it fits 62 bits. -/
theorem malformed_withdrawn (run : Allowed (fun _ _ => True) history e) :
    (∀ order trackAlias condition, (∃ track, e.Names trackAlias track) →
      ∃ track ids malformed, e.Names trackAlias track ∧
        e.requestsForMalformedTrack order trackAlias condition =
          (.ok ids, { e with malformed := malformed }) ∧
        ids.Pairwise (· < ·) ∧ (∀ id ∈ ids, Receives history e track id) ∧
        (∀ id, Receives history e track id → id ≤ maxVarint → id ∈ ids) ∧
        ∀ other, malformed.condition other =
          if other = track then some ((e.malformedTrack track).getD condition)
          else e.malformedTrack other) ∧
    ∀ kind requestId trackAlias track, PeerPublishes history kind requestId.val trackAlias track →
      trackAlias ≤ maxVarint → (e.trackAliasFor requestId).map VarInt.val = some trackAlias := by
  obtain ⟨tidy, recorded⟩ := recorded_of_run run
  have traced := traced_of_run run
  constructor
  · rintro order trackAlias condition ⟨track, named⟩
    obtain ⟨track, found⟩ := trackForAlias_of_names order named
    have answer : e.requestsForMalformedTrack order trackAlias condition =
        (.ok (((e.receiving track).mergeSort (· ≤ ·)).filter fun id => id ≤ maxVarint),
          { e with malformed := e.malformed.note track condition }) := by
      rw [requestsForMalformedTrack, found]
      rfl
    refine ⟨track, _, _, trackForAlias_names found, answer, ?_, ?_, ?_, ?_⟩
    · exact (sorted_lt (receiving_nodup tidy recorded traced track)).filter _
    · intro id listed
      rw [List.mem_filter, List.mem_mergeSort] at listed
      exact (mem_receiving recorded traced track id).mp listed.1
    · intro id receives fits
      rw [List.mem_filter, List.mem_mergeSort]
      exact ⟨(mem_receiving recorded traced track id).mpr receives, decide_eq_true fits⟩
    · intro other
      exact condition_note e.malformed track other condition
  · intro kind requestId trackAlias track published fits
    exact trackAliasFor_bound (recorded.kept _ _ _ _ published).1 fits

/-- The peer's track, withdrawn from, and its alias. -/
theorem offer_withdrawn : (∃ track ids malformed, offeredEndpoint.Names 5 track ∧
      offeredEndpoint.requestsForMalformedTrack .stored 5 .objectPastFinalObject =
        (.ok ids, { offeredEndpoint with malformed := malformed }) ∧
      malformed.condition track = some .objectPastFinalObject) ∧
    (offeredEndpoint.trackAliasFor (.ofU64 0)).map VarInt.val = some 5 := by
  have run : Allowed (fun _ _ => True) offeredHistory offeredEndpoint :=
    allowed_record .stored (.start ⟨.server, rfl⟩) offeredCalls (permits_always .stored _ fun _ _ _ => trivial)
  obtain ⟨withdrawn, answered⟩ := malformed_withdrawn run
  constructor
  · obtain ⟨track, ids, malformed, named, answer, -, -, -, noted⟩ :=
      withdrawn .stored 5 .objectPastFinalObject ⟨peerTrack, 0, .publish, rfl, rfl⟩
    refine ⟨track, ids, malformed, named, answer, ?_⟩
    rw [noted, if_pos rfl]
    rfl
  · exact answered .publish (.ofU64 0) 5 peerTrack (.named .offered rfl) (by decide)

def withdrawnCalls : List Call :=
  [.connect, .receiveSetup [], offer, .requestsForMalformedTrack 5 .mixedForwardingPreference]

/-- A second condition is not the one reported. -/
theorem second_condition_unreported :
    ¬ ∀ (e : Endpoint) (history : List Event), Allowed (fun _ _ => True) history e →
      ∀ order trackAlias track condition, e.Names trackAlias track →
        (∀ other, e.Names trackAlias other → other = track) →
        ∃ ids e', e.requestsForMalformedTrack order trackAlias condition = (.ok ids, e') ∧
          ids.Pairwise (· < ·) ∧ (∀ id, id ∈ ids ↔ Receives history e track id) ∧
          e' = { e with malformed := e'.malformed } ∧ e'.malformedTrack track = some condition := by
  intro claimed
  have run : Allowed (fun _ _ => True) _ _ := allowed_record .stored (.start ⟨.server, rfl⟩)
    withdrawnCalls (permits_always .stored _ fun _ _ _ => trivial)
  have one : ∀ other, ((Endpoint.new .server).play .stored withdrawnCalls).Names 5 other →
      other = peerTrack := by
    rintro other ⟨id, kind, bound, -⟩
    have bound : (AList.insert 0 ⟨peerTrack, some 5, .publish⟩ ∅ : Table TrackBinding).lookup id =
        some ⟨other, some 5, kind⟩ := bound
    by_cases here : id = 0
    · subst here
      rw [AList.lookup_insert] at bound
      cases bound
      rfl
    · rw [AList.lookup_insert_ne here] at bound
      cases bound
  obtain ⟨ids, e', answer, -, -, -, reported⟩ := claimed _ _ run .stored 5 peerTrack
    .objectPastFinalObject ⟨0, .publish, rfl, rfl⟩ one
  have first : (((Endpoint.new .server).play .stored withdrawnCalls).requestsForMalformedTrack
      .stored 5 .objectPastFinalObject).2.malformedTrack peerTrack =
        some .mixedForwardingPreference := rfl
  rw [answer] at first
  cases first.symm.trans reported

end Moqtap.Draft22.Client
