import Moqtap.ControlInjections
import Moqtap.ControlMutation
import Moqtap.Framer
import Mathlib

/-!
The Group Orders of the fetches a session has carried and not seen answered,
`FetchGroupOrders` in `moqtap-proxy`'s `framer.rs`, and the FETCHes of a control
stream.

A stream's FETCHes are those of its frames, whatever chunks it comes in
(`fetchesOf_append`); messages injected between its own that are no FETCH do not
change them (`splice_same`).
-/

namespace Moqtap.FetchTable

open ByteCursor CodecTypes StreamFraming ControlParser ControlWalker ControlInjections Framer
open FetchStream (GroupOrder)

/-! ## The table -/

def cap : ℕ := 1024

/-- What is filed, by Request ID. -/
abbrev FetchGroupOrders := AList fun _ : ℕ => GroupOrder

namespace FetchGroupOrders

variable {known : FetchGroupOrders} {requestId id : ℕ} {order : GroupOrder} {ids : Finset ℕ}

def record (known : FetchGroupOrders) (requestId : ℕ) (order : GroupOrder) : FetchGroupOrders :=
  if cap ≤ known.keys.length ∧ requestId ∉ known then known else known.insert requestId order

def take (known : FetchGroupOrders) (requestId : ℕ) : Option GroupOrder × FetchGroupOrders :=
  (known.lookup requestId, known.erase requestId)

/-- File one after the other. -/
def recordAll (known : FetchGroupOrders) (fetches : List (ℕ × GroupOrder)) : FetchGroupOrders :=
  fetches.foldl (fun known fetch => known.record fetch.1 fetch.2) known

/-- Nothing is filed but for requests among `ids`. -/
def Within (known : FetchGroupOrders) (ids : Finset ℕ) : Prop := ∀ id ∈ known, id ∈ ids

theorem Within.length (within : known.Within ids) : known.keys.length ≤ ids.card := by
  rw [← List.toFinset_card_of_nodup known.keys_nodup]
  apply Finset.card_le_card
  intro id member
  exact within id (AList.mem_keys.mpr (List.mem_toFinset.mp member))

theorem Within.mono (within : known.Within ids) {more : Finset ℕ} (subset : ids ⊆ more) :
    known.Within more := fun id member => subset (within id member)

/-- Below the cap an order is filed. -/
theorem record_eq (within : known.Within ids) (few : ids.card < cap) :
    known.record requestId order = known.insert requestId order := by
  apply if_neg
  rintro ⟨full, -⟩
  exact absurd (full.trans within.length) (Nat.not_le.mpr few)

theorem Within.insert (within : known.Within ids) (among : requestId ∈ ids) :
    Within (known.insert requestId order) ids := by
  intro id member
  rcases AList.mem_insert known |>.mp member with rfl | old
  · exact among
  · exact within id old

theorem Within.take (within : known.Within ids) :
    Within (known.take requestId).2 (ids.erase requestId) := by
  intro id member
  obtain ⟨apart, old⟩ := AList.mem_erase.mp member
  exact Finset.mem_erase.mpr ⟨apart, within id old⟩

theorem lookup_insert (known : FetchGroupOrders) (requestId id : ℕ) (order : GroupOrder) :
    (known.insert requestId order).lookup id =
      if id = requestId then some order else known.lookup id := by
  split_ifs with same
  · rw [same, AList.lookup_insert]
  · rw [AList.lookup_insert_ne same]

theorem lookup_take (known : FetchGroupOrders) (requestId id : ℕ) :
    (known.take requestId).2.lookup id = if id = requestId then none else known.lookup id := by
  split_ifs with same
  · rw [same, FetchGroupOrders.take, AList.lookup_erase]
  · rw [FetchGroupOrders.take, AList.lookup_erase_ne same]

/-- Orders on which no two requests of one ID disagree, filed below the cap: each is
there, and what was there before stays. -/
theorem recordAll_keeps {asks : ℕ → GroupOrder → Prop} {fetches : List (ℕ × GroupOrder)}
    (once : ∀ id order order', asks id order → asks id order' → order = order')
    (filed : ∀ id order, known.lookup id = some order → asks id order)
    (asked : ∀ fetch ∈ fetches, asks fetch.1 fetch.2)
    (within : known.Within ids) (few : ids.card < cap) (among : ∀ fetch ∈ fetches, fetch.1 ∈ ids) :
    (known.recordAll fetches).Within ids ∧
      ∀ id order, (known.recordAll fetches).lookup id = some order ↔
        known.lookup id = some order ∨ (id, order) ∈ fetches := by
  induction fetches generalizing known with
  | nil => exact ⟨within, fun id order => by simp [recordAll]⟩
  | cons fetch fetches ih =>
    obtain ⟨requestId, order⟩ := fetch
    have here : asks requestId order := asked _ (List.mem_cons_self ..)
    have found (id : ℕ) (order' : GroupOrder) :
        (known.insert requestId order).lookup id = some order' ↔
          known.lookup id = some order' ∨ (id = requestId ∧ order' = order) := by
      rw [lookup_insert]
      constructor
      · intro got
        split_ifs at got with same
        · exact .inr ⟨same, (Option.some.inj got).symm⟩
        · exact .inl got
      · rintro (old | ⟨rfl, rfl⟩)
        · split_ifs with same
          · rw [once _ _ _ here (same ▸ filed id order' old)]
          · exact old
        · rw [if_pos rfl]
    obtain ⟨inside, all⟩ := @ih (known.insert requestId order)
      (fun id order' got => by
        rcases (found id order').mp got with old | ⟨rfl, rfl⟩
        · exact filed id order' old
        · exact here)
      (fun fetch member => asked fetch (List.mem_cons_of_mem _ member))
      (within.insert (among _ (List.mem_cons_self ..)))
      (fun fetch member => among fetch (List.mem_cons_of_mem _ member))
    have begun : known.recordAll ((requestId, order) :: fetches) =
        recordAll (known.insert requestId order) fetches := by
      rw [recordAll, List.foldl_cons, record_eq within few]
      rfl
    rw [begun]
    refine ⟨inside, fun id order' => ?_⟩
    rw [all, found, List.mem_cons, Prod.mk.injEq, or_assoc]

end FetchGroupOrders

/-! ## The FETCHes of a stream -/

/-- What the codec makes of control messages on a session's draft: the Group Order a
FETCH asks for, with its Request ID. -/
structure ControlCodec (Message : Type) where
  draft : DraftVersion
  decode : DraftVersion → Bytes → Option Message
  fetchGroupOrder : Message → Option (ℕ × GroupOrder)

namespace ControlCodec

variable {Message : Type} (codec : ControlCodec Message)

/-- The FETCH that bytes start with. -/
def asked (bytes : Bytes) : Option (ℕ × GroupOrder) :=
  (codec.decode codec.draft bytes).bind codec.fetchGroupOrder

/-- The FETCHes of a stream, in order. -/
def fetchesOf (bytes : Bytes) : List (ℕ × GroupOrder) :=
  (frames (locate codec.draft) bytes).1.filterMap fun entry => codec.asked entry.2

/-- What is left of a stream behind its last whole frame. -/
def rest (bytes : Bytes) : Bytes := (frames (locate codec.draft) bytes).2

/-- The FETCHes that are whole in a stream now and were not before. -/
def handedBy (before after : Bytes) : List (ℕ × GroupOrder) :=
  (codec.fetchesOf after).drop (codec.fetchesOf before).length

/-- Whole messages, none of them a FETCH. -/
def FetchFree (bytes : Bytes) : Prop := codec.rest bytes = [] ∧ codec.fetchesOf bytes = []

/-- One stream goes on as another does. -/
def Alike (bytes bytes' : Bytes) : Prop :=
  codec.fetchesOf bytes' = codec.fetchesOf bytes ∧ codec.rest bytes' = codec.rest bytes

variable {codec} {bytes bytes' more : Bytes}

theorem fetchesOf_append (bytes more : Bytes) :
    codec.fetchesOf (bytes ++ more) = codec.fetchesOf bytes ++ codec.fetchesOf (codec.rest bytes ++ more) := by
  rw [fetchesOf, frames_append (locate_stable codec.draft), List.filterMap_append]
  rfl

theorem rest_append (bytes more : Bytes) :
    codec.rest (bytes ++ more) = codec.rest (codec.rest bytes ++ more) := by
  rw [rest, frames_append (locate_stable codec.draft)]
  rfl

theorem handedBy_append (bytes more : Bytes) :
    codec.handedBy bytes (bytes ++ more) = codec.fetchesOf (codec.rest bytes ++ more) := by
  rw [handedBy, fetchesOf_append, List.drop_left]

/-- Part of what is written hands over part of its FETCHes. -/
theorem handedBy_part (before : Bytes) (part : bytes <+: bytes') :
    codec.handedBy before bytes <+: codec.handedBy before bytes' := by
  obtain ⟨more, rfl⟩ := part
  rw [handedBy, handedBy, fetchesOf_append]
  exact List.IsPrefix.drop (List.prefix_append ..) _

theorem FetchFree.nil : codec.FetchFree [] := by
  rw [FetchFree, rest, fetchesOf, frames_none (locate_nil codec.draft)]
  exact ⟨rfl, rfl⟩

theorem FetchFree.append (first : codec.FetchFree bytes) (second : codec.FetchFree more) :
    codec.FetchFree (bytes ++ more) := by
  constructor
  · rw [rest_append, first.1]
    exact second.1
  · rw [fetchesOf_append, first.1, first.2]
    exact second.2

/-- Behind whole messages, messages that are no FETCH hand over nothing. -/
theorem FetchFree.hands (free : codec.FetchFree more) (whole : codec.rest bytes = []) :
    codec.handedBy bytes (bytes ++ more) = [] ∧ codec.rest (bytes ++ more) = [] := by
  rw [handedBy_append, rest_append, whole]
  exact ⟨free.2, free.1⟩

theorem Alike.refl (bytes : Bytes) : codec.Alike bytes bytes := ⟨rfl, rfl⟩

theorem Alike.append (alike : codec.Alike bytes bytes') (more : Bytes) :
    codec.Alike (bytes ++ more) (bytes' ++ more) := by
  constructor
  · rw [fetchesOf_append, fetchesOf_append bytes, alike.1, alike.2]
  · rw [rest_append, rest_append bytes, alike.2]

theorem Alike.free (alike : codec.Alike bytes bytes') (whole : codec.rest bytes = [])
    (free : codec.FetchFree more) : codec.Alike bytes (bytes' ++ more) := by
  have none' : codec.rest bytes' = [] := alike.2.trans whole
  constructor
  · rw [fetchesOf_append, none', List.nil_append, free.2, List.append_nil, alike.1]
  · rw [rest_append, none', List.nil_append, free.1, whole]

/-! ## Messages injected between others -/

/-- On the drafts that need an order, whole messages are whole frames. -/
theorem rest_whole (needed : fetchGroupOrderIsNeeded codec.draft = true)
    (whole : Whole codec.draft bytes) : codec.rest bytes = [] := by
  obtain ⟨messages, all, rfl⟩ := whole
  induction messages with
  | nil => exact FetchFree.nil.1
  | cons message messages ih =>
    obtain ⟨type, length, payload, shape, typed, sized, -⟩ := all message (List.mem_cons_self ..)
    obtain ⟨first, tail, rfl, measured⟩ := typed.cons
    have defined : ¬ Undefined codec.draft first := by
      rintro ⟨draft17, -⟩
      rw [draft17] at needed
      cases needed
    obtain ⟨typeId, peeks⟩ := peekVarint_whole defined measured
    have frame : WholeFrame codec.draft message typeId :=
      ⟨first :: tail, length, payload, shape, ⟨⟨first, rfl, measured⟩, peeks⟩, sized⟩
    have located := locate_whole frame messages.flatten
    have left := ih fun message member => all message (List.mem_cons_of_mem _ member)
    rw [List.flatten_cons, rest, frames_some (locate_stable codec.draft) located, List.drop_left]
    exact left

/-- A stream with such messages put in between its own has the FETCHes it had. -/
theorem splice_alike (needed : fetchGroupOrderIsNeeded codec.draft = true) {source delivered : Bytes}
    {done : ℕ} (alike : codec.Alike (source.take done) delivered) {placed : List (ℕ × Bytes)}
    (ordered : placed.Pairwise (·.1 ≤ ·.1)) (ahead : ∀ place ∈ placed, done ≤ place.1)
    (between : ∀ place ∈ placed, Whole codec.draft (source.take place.1))
    (free : ∀ place ∈ placed, codec.FetchFree place.2) :
    codec.Alike source (delivered ++ splice done (source.drop done) placed) := by
  induction placed generalizing done delivered with
  | nil =>
    have all := alike.append (source.drop done)
    rwa [List.take_append_drop] at all
  | cons place placed ih =>
    obtain ⟨place, message⟩ := place
    obtain ⟨later, ordered⟩ := List.pairwise_cons.mp ordered
    have here : done ≤ place := ahead _ (List.mem_cons_self ..)
    have reached : source.take done ++ (source.drop done).take (place - done) = source.take place := by
      rw [← List.take_add, Nat.add_sub_cancel' here]
    have left : (source.drop done).drop (place - done) = source.drop place := by
      rw [List.drop_drop, Nat.add_sub_cancel' here]
    have forwarded := alike.append ((source.drop done).take (place - done))
    rw [reached] at forwarded
    have injected := forwarded.free (rest_whole needed (between _ (List.mem_cons_self ..)))
      (free _ (List.mem_cons_self ..))
    rw [splice, left, ← List.append_assoc, ← List.append_assoc]
    exact ih injected ordered later (fun place member => between place (List.mem_cons_of_mem _ member))
      fun place member => free place (List.mem_cons_of_mem _ member)

end ControlCodec

/-! ## The FETCHes of draft 22 -/

/-- `AnyControlMessage::fetch_group_order` of a draft-22 message: the first GROUP_ORDER
parameter decides, and Ascending is what is asked for without one. -/
def fetchGroupOrder : Draft22.Messages.ControlMessage → Option (ℕ × GroupOrder)
  | .fetch message =>
    match message.parameters.find? fun parameter => parameter.key.val == 0x22 with
    | none => some (message.requestId.val, .ascending)
    | some parameter =>
      match parameter.value with
      | .varint value =>
        match value.val with
        | 1 => some (message.requestId.val, .ascending)
        | 2 => some (message.requestId.val, .descending)
        | _ => none
      | .bytes _ => none
  | _ => none

/-- `AnyControlMessage::decode` on draft 22, which leaves what is behind the message. -/
def draft22 : ControlCodec Draft22.Messages.ControlMessage where
  draft := .draft22
  decode := ControlMutation.decodeDraft22
  fetchGroupOrder := fetchGroupOrder

end Moqtap.FetchTable
