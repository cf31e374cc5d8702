import Mathlib
import Moqtap.RelayCap

/-!
What `RelayLedger` of `relay_cap.rs` counts and whom `cap` turns away.

`cap` leaves a seal rows of origins that have, or are given, a place under the cap
(`cap_room`); every other call moves the count by `restart`, which changes it or keeps
it (`restart_cases`), and `advance` only restarts it for a month ingest's clock has
reached (`estimate_reached`).
-/

namespace Moqtap.RelayCap

open Gregorian

/-- Distinct relay origins a source may report in one UTC month. -/
def maxRelaysPerMonth : ℕ := 64

/-- The assumed drift between the device and ingest clocks: 100 ppm. -/
def drift : ℚ := 100 / 1000000

/-! ## The rows of a seal -/

/-- The rows taken for a seal, each by the connection it names, and the connections' relay
origins. -/
structure Taken where
  groups : List ℕ := []
  objects : List ℕ := []
  events : List ℕ := []
  relays : List (ℕ × String) := []
  keyed : (relays.map Prod.fst).Nodup := by decide

namespace Taken

def rows (taken : Taken) : ℕ := taken.groups.length + taken.objects.length + taken.events.length

/-- Without the rows of the connections `denied`. -/
def without (taken : Taken) (denied : Finset ℕ) : Taken where
  groups := taken.groups.filter (· ∉ denied)
  objects := taken.objects.filter (· ∉ denied)
  events := taken.events.filter (· ∉ denied)
  relays := taken.relays.filter fun relay => relay.1 ∉ denied
  keyed := taken.keyed.sublist (List.filter_sublist.map Prod.fst)

def origins (taken : Taken) : Finset String := (taken.relays.map Prod.snd).toFinset

end Taken

/-- One connection of the loop in `origins_of`. -/
def nameOrigin (relays : List (ℕ × String)) (out : List String) (id : ℕ) : List String :=
  match relays.lookup id with
  | some origin => if origin ∈ out then out else out ++ [origin]
  | none => out

/-- Distinct origins in `relays`, in connection order. -/
def originsOf (conns : List ℕ) (relays : List (ℕ × String)) : List String := conns.foldl (nameOrigin relays) []

theorem originsOf_subset (conns : List ℕ) (taken : Taken) :
    (originsOf conns taken.relays).toFinset ⊆ taken.origins := by
  have grows (out : List String) (known : out.toFinset ⊆ taken.origins) :
      (conns.foldl (nameOrigin taken.relays) out).toFinset ⊆ taken.origins := by
    induction conns generalizing out with
    | nil => exact known
    | cons id conns ih =>
      apply ih
      unfold nameOrigin
      cases found : taken.relays.lookup id with
      | none => exact known
      | some origin =>
        have named : origin ∈ taken.origins := by
          obtain ⟨before, after, split, -⟩ := List.lookup_eq_some_iff.mp found
          simp [Taken.origins, split]
        dsimp only
        split_ifs
        · exact known
        · simp [Finset.insert_subset_iff, known, named]
  exact grows [] (by simp)

/-! ## Whom the cap turns away -/

section Cap

variable (origins : Finset String) (room : ℕ)

/-- One connection of the loop in `cap`: the origins given a place so far, and the
connections denied one. -/
def place (given : Finset String × Finset ℕ) (conn : ℕ × String) : Finset String × Finset ℕ :=
  if conn.2 ∈ origins ∨ conn.2 ∈ given.1 then given
  else if given.1.card < room then (insert conn.2 given.1, given.2)
  else (given.1, insert conn.1 given.2)

/-- The loop: no more places than there is room for, and a connection is denied or its
origin has one. -/
theorem place_foldl (conns : List (ℕ × String)) (given : Finset String × Finset ℕ) (fits : given.1.card ≤ room) :
    let placed := conns.foldl (place origins room) given
    placed.1.card ≤ room ∧ given.1 ⊆ placed.1 ∧ given.2 ⊆ placed.2 ∧
      ∀ conn ∈ conns, conn.2 ∈ origins ∨ conn.2 ∈ placed.1 ∨ conn.1 ∈ placed.2 := by
  induction conns generalizing given with
  | nil => exact ⟨fits, subset_rfl, subset_rfl, nofun⟩
  | cons conn conns ih =>
    have one : (place origins room given conn).1.card ≤ room ∧ given.1 ⊆ (place origins room given conn).1 ∧
        given.2 ⊆ (place origins room given conn).2 ∧ (conn.2 ∈ origins ∨
          conn.2 ∈ (place origins room given conn).1 ∨ conn.1 ∈ (place origins room given conn).2) := by
      unfold place
      split_ifs with counted free
      · exact ⟨fits, subset_rfl, subset_rfl, counted.imp_right .inl⟩
      · refine ⟨?_, Finset.subset_insert _ _, subset_rfl, by simp⟩
        exact (Finset.card_insert_le _ _).trans free
      · exact ⟨fits, subset_rfl, Finset.subset_insert _ _, by simp⟩
    obtain ⟨fits, given_grows, denied_grows, placed⟩ := one
    obtain ⟨fits', given_grows', denied_grows', rest⟩ := ih _ fits
    refine ⟨fits', given_grows.trans given_grows', denied_grows.trans denied_grows', ?_⟩
    intro other member
    rcases List.mem_cons.mp member with rfl | member
    · exact placed.imp_right (Or.imp (@given_grows' _) (@denied_grows' _))
    · exact rest other member

end Cap

/-! ## The ledger -/

/-- The ledger with what `advance` reads: ingest's latest receive time, and the monotonic
time it was answered. -/
structure Ledger extends RelayLedger where
  heard : Option (ℚ × ℚ) := none

namespace Ledger

variable (ledger : Ledger) (mono : ℚ)

/-- Takes out of `taken` the rows of connections whose origin is past the cap, oldest
connection first in line; returns how many rows. -/
def cap (taken : Taken) : Taken × ℕ :=
  let conns := taken.relays.insertionSort (·.1 ≤ ·.1)
  let denied := (conns.foldl (place ledger.origins (maxRelaysPerMonth - ledger.origins.card)) (∅, ∅)).2
  if denied = ∅ then (taken, 0)
  else (taken.without denied, taken.rows - (taken.without denied).rows)

def sealed (origins : List String) : Ledger := { ledger with origins := ledger.origins ∪ origins.toFinset }

def givenUp (origins : List String) : Ledger := { ledger with unanswered := ledger.unanswered ∪ origins.toFinset }

/-- Ingest answered at monotonic `mono`. -/
def accepted (answer : Answer) : Ledger :=
  { ledger.toRelayLedger.accepted answer with
    heard := match answer.month, answer.recvMs with
      | some _, some (some recv) =>
        if ∀ heard ∈ ledger.heard, recv ≥ heard.1 then some (recv, mono) else ledger.heard
      | _, _ => ledger.heard }

/-- The earliest ingest's clock can be at by `mono`. -/
def earliest : Option ℚ := ledger.heard.map fun heard => heard.1 + max (mono - heard.2) 0 * (1 - drift)

/-- Restarts the count when ingest's clock must have passed into a later month. -/
def advance (queued : List (List String)) : Ledger :=
  match utcMonth (ledger.earliest mono) with
  | none => ledger
  | some month => { ledger.toRelayLedger.restart month queued.flatten with heard := ledger.heard }

/-- What a ledger told of `month` becomes: restarted for it, from the origins given up
unanswered and those `still` to be counted, or with the count it had. -/
inductive Told (month : ℤ) (still : Finset String) (before after : RelayLedger) : Prop
  | restarted (m : ℤ) (stored : before.month = some m) (later : m < month) (now : after.month = some month)
      (origins : after.origins = before.unanswered ∪ still) (unanswered : after.unanswered = ∅)
  | kept (reached : ∀ m ∈ before.month, month ≤ m) (now : after.month = some (before.month.getD month))
      (origins : after.origins = before.origins) (unanswered : after.unanswered = before.unanswered)

theorem restart_told (before : RelayLedger) (month : ℤ) (still : List String) :
    Told month still.toFinset before (before.restart month still) := by
  cases stored : before.month with
  | none =>
    rw [RelayLedger.restart_fresh stored]
    exact .kept (by simp [stored]) (by simp [stored]) rfl rfl
  | some m =>
    unfold RelayLedger.restart
    simp only [stored]
    split_ifs with later
    · exact .restarted m stored later rfl rfl rfl
    · exact .kept (by simpa [stored] using later) (by simp [stored]) rfl rfl

theorem advance_told {queued : List (List String)} {month : ℤ} (told : utcMonth (ledger.earliest mono) = some month) :
    Told month queued.flatten.toFinset ledger.toRelayLedger (ledger.advance mono queued).toRelayLedger := by
  unfold advance
  rw [told]
  exact restart_told _ _ _

theorem advance_untold {queued : List (List String)} (untold : utcMonth (ledger.earliest mono) = none) :
    ledger.advance mono queued = ledger := by
  unfold advance
  rw [untold]

theorem accepted_told {answer : Answer} {month : ℤ} (told : answer.month = some month) :
    Told month answer.still.toFinset ledger.toRelayLedger (ledger.accepted mono answer).toRelayLedger := by
  unfold accepted RelayLedger.accepted
  rw [told]
  exact restart_told _ _ _

theorem Told.month_le {month bound : ℤ} {still : Finset String} {before after : RelayLedger}
    (told : Told month still before after) (reached : month ≤ bound) (stored : ∀ m ∈ before.month, m ≤ bound) :
    ∀ m ∈ after.month, m ≤ bound := by
  intro m now
  cases told with
  | restarted _ _ _ restarted =>
    cases restarted.symm.trans now
    exact reached
  | kept _ kept =>
    cases earlier : before.month with
    | none =>
      rw [earlier] at kept
      cases kept.symm.trans now
      exact reached
    | some m' =>
      rw [earlier] at kept
      cases kept.symm.trans now
      exact stored _ earlier

theorem advance_heard (queued : List (List String)) : (ledger.advance mono queued).heard = ledger.heard := by
  unfold advance
  cases utcMonth (ledger.earliest mono) with
  | none => rfl
  | some => rfl

theorem accepted_heard (answer : Answer) :
    (ledger.accepted mono answer).heard = ledger.heard ∨
      ∃ recv, answer.recvMs = some (some recv) ∧ (ledger.accepted mono answer).heard = some (recv, mono) := by
  unfold accepted
  dsimp only
  split
  · split_ifs
    · exact .inr ⟨_, ‹_›, rfl⟩
    · exact .inl rfl
  · exact .inl rfl

/-- With the origins already counted, what `cap` leaves of a seal is within the cap. -/
theorem cap_room (fits : ledger.origins.card ≤ maxRelaysPerMonth) (taken : Taken) :
    (ledger.origins ∪ (ledger.cap taken).1.origins).card ≤ maxRelaysPerMonth := by
  have placed := place_foldl ledger.origins (maxRelaysPerMonth - ledger.origins.card)
    (taken.relays.insertionSort (·.1 ≤ ·.1)) (∅, ∅) (Nat.zero_le _)
  simp only [List.mem_insertionSort] at placed
  obtain ⟨room, -, -, placed⟩ := placed
  unfold cap
  dsimp only
  generalize (taken.relays.insertionSort (·.1 ≤ ·.1)).foldl
    (place ledger.origins (maxRelaysPerMonth - ledger.origins.card)) (∅, ∅) = given at *
  have kept : (if given.2 = ∅ then (taken, 0) else
      (taken.without given.2, taken.rows - (taken.without given.2).rows)).1.origins ⊆ ledger.origins ∪ given.1 := by
    intro origin named
    have entry : ∃ id, (id, origin) ∈ taken.relays ∧ id ∉ given.2 := by
      split_ifs at named with none
      · obtain ⟨⟨id, _⟩, member, rfl⟩ : ∃ conn ∈ taken.relays, conn.2 = origin := by
          simpa [Taken.origins] using named
        exact ⟨id, member, by simp [none]⟩
      · obtain ⟨⟨id, _⟩, ⟨member, free⟩, rfl⟩ :
            ∃ conn, (conn ∈ taken.relays ∧ conn.1 ∉ given.2) ∧ conn.2 = origin := by
          simpa [Taken.origins, Taken.without] using named
        exact ⟨id, member, free⟩
    obtain ⟨id, member, free⟩ := entry
    rcases placed _ member with counted | given | denied
    · exact Finset.mem_union_left _ counted
    · exact Finset.mem_union_right _ given
    · exact absurd denied free
  calc _ ≤ (ledger.origins ∪ given.1).card :=
        Finset.card_le_card (Finset.union_subset Finset.subset_union_left kept)
    _ ≤ ledger.origins.card + given.1.card := Finset.card_union_le _ _
    _ ≤ maxRelaysPerMonth := by omega

end Ledger

end Moqtap.RelayCap
