import Mathlib
import Moqtap.CodecTypes

/-! How far each track's objects have reached (`track_locations.rs`). The record keeps, for
each track, the largest location produced and the first location that ended the track. The
reference keeps every accepted object and asks the questions the drafts ask of all of them;
the two give the same answers over every run (`two_numbers_suffice`), because the largest
location is the only one an end-of-track object can be behind. -/
namespace Moqtap.TrackReach
open ByteCursor CodecTypes

/-! ## Locations -/

structure ObjectLocation where
  group : Nat
  object : Nat
  deriving DecidableEq, Repr

namespace ObjectLocation

/-- Group first, and the Object where the Groups are equal. -/
def key (location : ObjectLocation) : ℕ ×ₗ ℕ := toLex (location.group, location.object)

theorem key_injective : Function.Injective key := by
  intro a b same
  cases a
  cases b
  simpa [key] using same

instance : LinearOrder ObjectLocation := LinearOrder.lift' key key_injective

theorem lt_iff {a b : ObjectLocation} :
    a < b ↔ a.group < b.group ∨ (a.group = b.group ∧ a.object < b.object) := Prod.Lex.lt_iff

theorem le_iff {a b : ObjectLocation} :
    a ≤ b ↔ a.group < b.group ∨ (a.group = b.group ∧ a.object ≤ b.object) := Prod.Lex.le_iff

end ObjectLocation

inductive EndOfTrackForm where
  | lastGroup
  | pastLastGroup
  deriving DecidableEq, Repr

inductive EndOfTrackPlacement where
  | groupBehind (largestGroup : Nat)
  | objectBehind (largestObject : Nat)
  deriving DecidableEq, Repr

inductive TrackFault where
  | endOfTrackOutOfPlace (placement : EndOfTrackPlacement)
  | pastFinalObject (final : ObjectLocation)
  deriving DecidableEq, Repr

inductive ObjectRole where
  | produced
  | endsTrack (form : Option EndOfTrackForm)
  | neither
  deriving DecidableEq, Repr

/-! ## The record -/

/-- What a track is known by. -/
structure Track where
  (namespace' : TrackNamespace)
  (name : Bytes)
  deriving DecidableEq, Repr

structure TrackRecord where
  track : Track
  reached : Option ObjectLocation
  finalObject : Option ObjectLocation
  deriving DecidableEq, Repr

structure TrackLocations where
  tracks : List TrackRecord
  deriving DecidableEq, Repr

namespace TrackLocations

def new : TrackLocations := ⟨[]⟩

def record (locations : TrackLocations) (track : Track) : Option TrackRecord :=
  locations.tracks.find? fun t => t.track = track

/-- The first record of the track, changed in place, or nothing where it has none. -/
def changeFirst (track : Track) (change : TrackRecord → TrackRecord) :
    List TrackRecord → Option (List TrackRecord)
  | [] => none
  | record :: rest =>
    if record.track = track then some (change record :: rest)
    else (changeFirst track change rest).map (record :: ·)

/-- A `record_mut` written through, or a fresh record pushed. -/
def upsert (locations : TrackLocations) (track : Track) (fresh : TrackRecord)
    (change : TrackRecord → TrackRecord) : TrackLocations :=
  match changeFirst track change locations.tracks with
  | none => ⟨locations.tracks ++ [fresh]⟩
  | some tracks => ⟨tracks⟩

/-- The larger group starts the object count again; a smaller one is not kept. -/
def advance (seen : Option ObjectLocation) (location : ObjectLocation) : ObjectLocation :=
  match seen with
  | none => location
  | some seen =>
    if seen.group < location.group then location
    else if location.group = seen.group ∧ seen.object < location.object then location
    else seen

def observe (locations : TrackLocations) (track : Track) (location : ObjectLocation) : TrackLocations :=
  locations.upsert track ⟨track, some location, none⟩ fun record =>
    { record with reached := some (advance record.reached location) }

def checkEndOfTrack (locations : TrackLocations) (track : Track) (location : ObjectLocation)
    (form : EndOfTrackForm) : Except EndOfTrackPlacement Unit :=
  match (locations.record track).bind TrackRecord.reached with
  | none => .ok ()
  | some reached =>
    match form with
    | .pastLastGroup =>
      if location.group ≤ reached.group then .error (.groupBehind reached.group) else .ok ()
    | .lastGroup =>
      if location.group < reached.group then .error (.groupBehind reached.group)
      else if reached.group < location.group then .ok ()
      else if location.object ≤ reached.object then .error (.objectBehind reached.object)
      else .ok ()

/-- The first one is kept. -/
def noteFinalObject (locations : TrackLocations) (track : Track) (location : ObjectLocation) :
    TrackLocations :=
  locations.upsert track ⟨track, none, some location⟩ fun record =>
    { record with finalObject := some (record.finalObject.getD location) }

def checkNotPastFinal (locations : TrackLocations) (track : Track) (location : ObjectLocation) :
    Except ObjectLocation Unit :=
  match (locations.record track).bind TrackRecord.finalObject with
  | none => .ok ()
  | some final => if final < location then .error final else .ok ()

end TrackLocations

/-- A handle on the record shared by every stream: the track, and the alias it was named by. -/
structure TrackObjects where
  track : Track
  trackAlias : Nat
  deriving DecidableEq, Repr

namespace TrackObjects

def note (handle : TrackObjects) (locations : TrackLocations) (location : ObjectLocation)
    (role : ObjectRole) : Except EndOfTrackPlacement Unit × TrackLocations :=
  match role with
  | .produced => (.ok (), locations.observe handle.track location)
  | .endsTrack form =>
    match form.map (locations.checkEndOfTrack handle.track location) with
    | some (.error placement) => (.error placement, locations)
    | _ => (.ok (), locations.noteFinalObject handle.track location)
  | .neither => (.ok (), locations)

def noteWithFinalObject (handle : TrackObjects) (locations : TrackLocations) (location : ObjectLocation)
    (role : ObjectRole) : Except TrackFault Unit × TrackLocations :=
  match locations.checkNotPastFinal handle.track location with
  | .error final => (.error (.pastFinalObject final), locations)
  | .ok () =>
    let noted := handle.note locations location role
    (noted.1.mapError .endOfTrackOutOfPlace, noted.2)

def notePastFinal (handle : TrackObjects) (locations : TrackLocations) (location : ObjectLocation)
    (role : ObjectRole) : Except ObjectLocation Unit × TrackLocations :=
  match locations.checkNotPastFinal handle.track location with
  | .error final => (.error final, locations)
  | .ok () =>
    match role with
    | .produced => (.ok (), locations.observe handle.track location)
    | .endsTrack _ => (.ok (), locations.noteFinalObject handle.track location)
    | .neither => (.ok (), locations)

end TrackObjects

/-- The role on a draft that states no rule about where a track may end. -/
def ObjectRole.unplaced : ObjectRole → ObjectRole
  | .endsTrack _ => .endsTrack none
  | role => role

/-- The final-object rule alone is the two rules with no placement to judge. -/
theorem notePastFinal_eq (handle : TrackObjects) (locations : TrackLocations) (location : ObjectLocation)
    (role : ObjectRole) :
    handle.noteWithFinalObject locations location role.unplaced =
      ((handle.notePastFinal locations location role).1.mapError .pastFinalObject,
        (handle.notePastFinal locations location role).2) := by
  unfold TrackObjects.noteWithFinalObject TrackObjects.notePastFinal
  split
  · rfl
  · cases role with
    | produced => rfl
    | endsTrack form => rfl
    | neither => rfl

/-! ## The reference -/

/-- An object fed to a handle. -/
structure Noted where
  handle : TrackObjects
  location : ObjectLocation
  role : ObjectRole
  deriving DecidableEq, Repr

/-- The locations `past` produced on the track. -/
def producedOn (track : Track) (past : List Noted) : List ObjectLocation :=
  (past.filter fun noted => noted.handle.track = track ∧ noted.role = .produced).map Noted.location

def ObjectRole.isEnd : ObjectRole → Bool
  | .endsTrack _ => true
  | .produced | .neither => false

/-- Where the first object of `past` to end the track stands. -/
def firstFinal (track : Track) (past : List Noted) : Option ObjectLocation :=
  (past.find? fun noted => noted.handle.track = track ∧ noted.role.isEnd = true).map Noted.location

def largest (values : List Nat) : Nat := values.foldr max 0

/-- Why an end-of-track object is not where the track ended, every object produced on the
track being asked. -/
def misplaced (produced : List ObjectLocation) (location : ObjectLocation) :
    EndOfTrackForm → Option EndOfTrackPlacement
  | .pastLastGroup =>
    if ∃ p ∈ produced, location.group ≤ p.group then
      some (.groupBehind (largest (produced.map ObjectLocation.group)))
    else none
  | .lastGroup =>
    if ∃ p ∈ produced, location.group < p.group then
      some (.groupBehind (largest (produced.map ObjectLocation.group)))
    else if ∃ p ∈ produced, p.group = location.group ∧ location.object ≤ p.object then
      some (.objectBehind (largest ((produced.filter fun p => p.group = location.group).map
        ObjectLocation.object)))
    else none

/-- The answer of a reference that remembers every object it has accepted. -/
def judge (past : List Noted) (noted : Noted) : Except TrackFault Unit :=
  match (firstFinal noted.handle.track past).filter (· < noted.location) with
  | some final => .error (.pastFinalObject final)
  | none =>
    match noted.role with
    | .endsTrack (some form) =>
      match misplaced (producedOn noted.handle.track past) noted.location form with
      | some placement => .error (.endOfTrackOutOfPlace placement)
      | none => .ok ()
    | _ => .ok ()

/-- The reference's answers, `past` accepted so far. -/
def judgeAll : List Noted → List Noted → List (Except TrackFault Unit)
  | _, [] => []
  | past, noted :: rest =>
    match judge past noted with
    | .ok () => .ok () :: judgeAll (past ++ [noted]) rest
    | .error fault => .error fault :: judgeAll past rest

/-- The record's answers. -/
def answers : TrackLocations → List Noted → List (Except TrackFault Unit)
  | _, [] => []
  | locations, noted :: rest =>
    let result := noted.handle.noteWithFinalObject locations noted.location noted.role
    result.1 :: answers result.2 rest

/-! ## What a record holds -/

/-- The two locations kept for a track. -/
def held (locations : TrackLocations) (track : Track) : Option ObjectLocation × Option ObjectLocation :=
  ((locations.record track).bind TrackRecord.reached, (locations.record track).bind TrackRecord.finalObject)

variable {locations : TrackLocations} {track other : Track} {location : ObjectLocation} {past : List Noted}

open TrackLocations in
theorem find_changeFirst {change : TrackRecord → TrackRecord} (same : ∀ r, (change r).track = r.track)
    {tracks changed : List TrackRecord} (found : changeFirst track change tracks = some changed) :
    changed.find? (fun t => t.track = other) =
      if other = track then (tracks.find? fun t => t.track = other).map change
      else tracks.find? fun t => t.track = other := by
  induction tracks generalizing changed with
  | nil => cases found
  | cons record rest ih =>
    unfold changeFirst at found
    split_ifs at found with here
    · cases found
      by_cases asked : other = track
      · subst asked
        simp [same, here]
      · have elsewhere : record.track ≠ other := fun clash => asked (clash.symm.trans here)
        simp [same, elsewhere, asked]
    · obtain ⟨tail, foundTail, rfl⟩ := Option.map_eq_some_iff.mp found
      by_cases first : record.track = other
      · have asked : other ≠ track := fun clash => here (first.trans clash)
        simp [first, asked]
      · simp only [List.find?_cons, first, decide_false]
        exact ih foundTail

open TrackLocations in
theorem changeFirst_none {change : TrackRecord → TrackRecord} {tracks : List TrackRecord} :
    changeFirst track change tracks = none ↔ tracks.find? (fun t => t.track = track) = none := by
  induction tracks with
  | nil => exact ⟨fun _ => rfl, fun _ => rfl⟩
  | cons record rest ih =>
    unfold changeFirst
    split_ifs with here
    · simp [here]
    · simp [here, ih]

/-- Writing to one track's record leaves the others alone. -/
theorem record_upsert {fresh : TrackRecord} {change : TrackRecord → TrackRecord}
    (isFresh : fresh.track = track) (same : ∀ r, (change r).track = r.track) :
    (locations.upsert track fresh change).record other =
      if other = track then some (((locations.record track).map change).getD fresh)
      else locations.record other := by
  unfold TrackLocations.upsert TrackLocations.record
  split
  · rename_i absent
    rw [changeFirst_none] at absent
    rw [List.find?_append]
    by_cases asked : other = track
    · subst asked
      simp [absent, isFresh]
    · have elsewhere : fresh.track ≠ other := fun clash => asked (clash.symm.trans isFresh)
      simp [asked, elsewhere]
  · rename_i changed found
    rw [find_changeFirst same found]
    by_cases asked : other = track
    · subst asked
      have present : locations.tracks.find? (fun t => t.track = other) ≠ none := by
        intro absent
        rw [changeFirst_none.mpr absent] at found
        cases found
      obtain ⟨record, isRecord⟩ := Option.ne_none_iff_exists'.mp present
      simp [isRecord]
    · simp [asked]

theorem held_observe :
    held (locations.observe track location) other =
      if other = track then (some (TrackLocations.advance (held locations track).1 location),
        (held locations track).2)
      else held locations other := by
  have stored := @record_upsert locations track other ⟨track, some location, none⟩
    (fun record => { record with reached := some (TrackLocations.advance record.reached location) })
    rfl fun _ => rfl
  unfold held TrackLocations.observe
  rw [stored]
  by_cases asked : other = track
  · subst asked
    cases locations.record other <;> simp [TrackLocations.advance]
  · simp [asked]

theorem held_noteFinalObject :
    held (locations.noteFinalObject track location) other =
      if other = track then ((held locations track).1, some ((held locations track).2.getD location))
      else held locations other := by
  have stored := @record_upsert locations track other ⟨track, none, some location⟩
    (fun record => { record with finalObject := some (record.finalObject.getD location) })
    rfl fun _ => rfl
  unfold held TrackLocations.noteFinalObject
  rw [stored]
  by_cases asked : other = track
  · subst asked
    cases locations.record other <;> simp
  · simp [asked]

/-! ## The largest location answers for all of them -/

/-- `seen` is the largest of the locations produced, or there is none. -/
def Tops (seen : Option ObjectLocation) (produced : List ObjectLocation) : Prop :=
  match seen with
  | none => produced = []
  | some top => top ∈ produced ∧ ∀ p ∈ produced, p ≤ top

theorem advance_eq_max (seen location : ObjectLocation) :
    TrackLocations.advance (some seen) location = max seen location := by
  unfold TrackLocations.advance
  dsimp only
  split_ifs with larger sameGroup
  · exact (max_eq_right (ObjectLocation.le_iff.mpr (.inl larger))).symm
  · exact (max_eq_right (ObjectLocation.le_iff.mpr (.inr ⟨sameGroup.1.symm, sameGroup.2.le⟩))).symm
  · refine (max_eq_left (ObjectLocation.le_iff.mpr ?_)).symm
    omega

theorem tops_advance {seen : Option ObjectLocation} {produced : List ObjectLocation} (tops : Tops seen produced) :
    Tops (some (TrackLocations.advance seen location)) (produced ++ [location]) := by
  cases seen with
  | none =>
    have empty : produced = [] := tops
    subst empty
    exact ⟨List.mem_singleton_self _, fun p member => (List.mem_singleton.mp member).le⟩
  | some seen =>
    obtain ⟨member, greatest⟩ := tops
    rw [advance_eq_max]
    refine ⟨?_, fun p held => ?_⟩
    · rcases max_choice seen location with same | same
      · rw [same]
        exact List.mem_append_left _ member
      · rw [same]
        exact List.mem_append_right _ (List.mem_singleton_self _)
    · rcases List.mem_append.mp held with old | new
      · exact (greatest p old).trans (le_max_left ..)
      · exact (List.mem_singleton.mp new).le.trans (le_max_right ..)

theorem largest_eq {values : List Nat} {top : Nat} (member : top ∈ values) (greatest : ∀ v ∈ values, v ≤ top) :
    largest values = top := by
  have below : ∀ list : List Nat, (∀ v ∈ list, v ≤ top) → list.foldr max 0 ≤ top := by
    intro list
    induction list with
    | nil => exact fun _ => Nat.zero_le _
    | cons v list ih =>
      intro all
      exact max_le (all v (List.mem_cons_self ..)) (ih fun w held => all w (List.mem_cons_of_mem _ held))
  have above : ∀ list : List Nat, top ∈ list → top ≤ list.foldr max 0 := by
    intro list
    induction list with
    | nil => exact fun none' => nomatch none'
    | cons v list ih =>
      intro held
      rcases List.mem_cons.mp held with rfl | later
      · exact le_max_left ..
      · exact (ih later).trans (le_max_right ..)
  exact le_antisymm (below values greatest) (above values member)

/-- **Two numbers judge an end-of-track object** as the whole history of the track does. -/
theorem checkEndOfTrack_eq (form : EndOfTrackForm) {produced : List ObjectLocation}
    (tops : Tops (held locations track).1 produced) :
    locations.checkEndOfTrack track location form =
      match misplaced produced location form with
      | some placement => .error placement
      | none => .ok () := by
  unfold TrackLocations.checkEndOfTrack
  change Tops ((locations.record track).bind TrackRecord.reached) produced at tops
  cases reached : (locations.record track).bind TrackRecord.reached with
  | none =>
    rw [reached] at tops
    have empty : produced = [] := tops
    subst empty
    cases form <;> simp [misplaced]
  | some top =>
    rw [reached] at tops
    obtain ⟨member, greatest⟩ := tops
    have groups : ∀ p ∈ produced, p.group ≤ top.group := fun p held => by
      have le := ObjectLocation.le_iff.mp (greatest p held)
      omega
    have largestGroup : largest (produced.map ObjectLocation.group) = top.group := by
      refine largest_eq (List.mem_map_of_mem member) fun v held => ?_
      obtain ⟨p, inside, rfl⟩ := List.mem_map.mp held
      exact groups p inside
    cases form with
    | pastLastGroup =>
      have behind : (∃ p ∈ produced, location.group ≤ p.group) ↔ location.group ≤ top.group :=
        ⟨fun ⟨p, held, le⟩ => le.trans (groups p held), fun le => ⟨top, member, le⟩⟩
      simp only [misplaced, behind, largestGroup]
      split_ifs
      · rfl
      · rfl
    | lastGroup =>
      have behind : (∃ p ∈ produced, location.group < p.group) ↔ location.group < top.group :=
        ⟨fun ⟨p, held, lt⟩ => lt.trans_le (groups p held), fun lt => ⟨top, member, lt⟩⟩
      simp only [misplaced, behind, largestGroup]
      by_cases before : location.group < top.group
      · rw [if_pos before, if_pos before]
      · rw [if_neg before, if_neg before]
        by_cases beyond : top.group < location.group
        · have nothing : ¬ ∃ p ∈ produced, p.group = location.group ∧ location.object ≤ p.object := by
            rintro ⟨p, held, same, -⟩
            have le := groups p held
            omega
          rw [if_pos beyond, if_neg nothing]
        · have here : top.group = location.group := by omega
          have objects : ∀ p ∈ produced, p.group = location.group → p.object ≤ top.object := by
            intro p held same
            have le := ObjectLocation.le_iff.mp (greatest p held)
            omega
          have behindObject : (∃ p ∈ produced, p.group = location.group ∧ location.object ≤ p.object) ↔
              location.object ≤ top.object :=
            ⟨fun ⟨p, held, same, le⟩ => le.trans (objects p held same), fun le => ⟨top, member, here, le⟩⟩
          have largestObject : largest ((produced.filter fun p => p.group = location.group).map
              ObjectLocation.object) = top.object := by
            refine largest_eq (List.mem_map_of_mem (List.mem_filter.mpr ⟨member, by simpa using here⟩))
              fun v held => ?_
            obtain ⟨p, inside, rfl⟩ := List.mem_map.mp held
            obtain ⟨inside, same⟩ := List.mem_filter.mp inside
            exact objects p inside (by simpa using same)
          simp only [behindObject, largestObject, if_neg beyond]
          split_ifs
          · rfl
          · rfl

/-! ## Every run -/

/-- The record holds the largest location produced and the first final one, track by track. -/
def Matches (locations : TrackLocations) (past : List Noted) : Prop :=
  ∀ track, Tops (held locations track).1 (producedOn track past) ∧
    (held locations track).2 = firstFinal track past

theorem matches_new : Matches .new [] := fun _ => ⟨rfl, rfl⟩

theorem producedOn_append (noted : Noted) :
    producedOn track (past ++ [noted]) = producedOn track past ++
      if noted.handle.track = track ∧ noted.role = .produced then [noted.location] else [] := by
  unfold producedOn
  rw [List.filter_append, List.map_append]
  congr 1
  split_ifs with here
  · simp [here]
  · simp [here]

theorem firstFinal_append (noted : Noted) :
    firstFinal track (past ++ [noted]) = (firstFinal track past).or
      (if noted.handle.track = track ∧ noted.role.isEnd = true then some noted.location else none) := by
  unfold firstFinal
  rw [List.find?_append]
  cases List.find? (fun noted => decide (noted.handle.track = track ∧ noted.role.isEnd = true)) past with
  | some first => rfl
  | none =>
    simp only [Option.none_or, Option.map_none]
    split_ifs with here
    · simp [here]
    · simp [here]

/-- What an accepted object writes down. -/
def accepted (locations : TrackLocations) (noted : Noted) : TrackLocations :=
  match noted.role with
  | .produced => locations.observe noted.handle.track noted.location
  | .endsTrack _ => locations.noteFinalObject noted.handle.track noted.location
  | .neither => locations

theorem accepted_matches (noted : Noted) (matches' : Matches locations past) :
    Matches (accepted locations noted) (past ++ [noted]) := by
  intro track
  obtain ⟨tops, final⟩ := matches' track
  rw [producedOn_append, firstFinal_append]
  unfold accepted
  cases role : noted.role with
  | produced =>
    dsimp only
    rw [held_observe]
    by_cases here : track = noted.handle.track
    · subst here
      simp only [if_true, and_self, ObjectRole.isEnd, Bool.false_eq_true, and_false, if_false, Option.or_none]
      exact ⟨tops_advance tops, final⟩
    · have elsewhere : noted.handle.track ≠ track := fun same => here same.symm
      simp only [here, elsewhere, false_and, if_false, List.append_nil, Option.or_none]
      exact ⟨tops, final⟩
  | endsTrack form =>
    dsimp only
    rw [held_noteFinalObject]
    by_cases here : track = noted.handle.track
    · subst here
      simp only [if_true, ObjectRole.isEnd, reduceCtorEq, and_false, if_false, List.append_nil, and_self]
      refine ⟨tops, ?_⟩
      rw [final]
      cases firstFinal noted.handle.track past <;> rfl
    · have elsewhere : noted.handle.track ≠ track := fun same => here same.symm
      simp only [here, elsewhere, false_and, if_false, List.append_nil, Option.or_none]
      exact ⟨tops, final⟩
  | neither =>
    simp only [reduceCtorEq, ObjectRole.isEnd, Bool.false_eq_true, and_false, if_false, List.append_nil,
      Option.or_none]
    exact ⟨tops, final⟩

theorem checkNotPastFinal_eq (matches' : Matches locations past) :
    locations.checkNotPastFinal track location =
      match (firstFinal track past).filter (· < location) with
      | some final => .error final
      | none => .ok () := by
  unfold TrackLocations.checkNotPastFinal
  have final : (locations.record track).bind TrackRecord.finalObject = firstFinal track past :=
    (matches' track).2
  rw [final]
  cases firstFinal track past with
  | none => rfl
  | some first =>
    simp only [Option.filter, decide_eq_true_eq]
    split_ifs
    · rfl
    · rfl

/-- One object: the record answers as the reference does, writes down what it accepts and
leaves what it refuses. -/
theorem note_matches (noted : Noted) (matches' : Matches locations past) :
    noted.handle.noteWithFinalObject locations noted.location noted.role =
      match judge past noted with
      | .ok () => (.ok (), accepted locations noted)
      | .error fault => (.error fault, locations) := by
  unfold TrackObjects.noteWithFinalObject judge
  rw [checkNotPastFinal_eq matches']
  cases (firstFinal noted.handle.track past).filter (· < noted.location) with
  | some final => rfl
  | none =>
    unfold TrackObjects.note accepted
    cases noted.role with
    | produced => rfl
    | neither => rfl
    | endsTrack form =>
      cases form with
      | none => rfl
      | some form =>
        dsimp only [Option.map_some]
        rw [checkEndOfTrack_eq form (matches' noted.handle.track).1]
        cases misplaced (producedOn noted.handle.track past) noted.location form with
        | none => rfl
        | some placement => rfl

theorem answers_eq {run : List Noted} (matches' : Matches locations past) :
    answers locations run = judgeAll past run := by
  induction run generalizing locations past with
  | nil => rfl
  | cons noted rest ih =>
    rw [answers, judgeAll, note_matches noted matches']
    cases judge past noted with
    | ok _ => exact congrArg _ (ih (accepted_matches noted matches'))
    | error fault => exact congrArg _ (ih matches')

/-! ## Tracks apart -/

/-- An answer, and what an object leaves of its own track's record, come out of what that
record held. -/
theorem note_held (noted : Noted) {locations' : TrackLocations}
    (same : held locations noted.handle.track = held locations' noted.handle.track) :
    let result := noted.handle.noteWithFinalObject locations noted.location noted.role
    let result' := noted.handle.noteWithFinalObject locations' noted.location noted.role
    result.1 = result'.1 ∧ held result.2 noted.handle.track = held result'.2 noted.handle.track := by
  have reached := congrArg Prod.fst same
  have final := congrArg Prod.snd same
  dsimp only [held] at reached final
  have past : locations.checkNotPastFinal noted.handle.track noted.location =
      locations'.checkNotPastFinal noted.handle.track noted.location := by
    unfold TrackLocations.checkNotPastFinal
    rw [final]
  have placed : locations.checkEndOfTrack noted.handle.track noted.location =
      locations'.checkEndOfTrack noted.handle.track noted.location := by
    funext form
    unfold TrackLocations.checkEndOfTrack
    rw [reached]
  have observed : held (locations.observe noted.handle.track noted.location) noted.handle.track =
      held (locations'.observe noted.handle.track noted.location) noted.handle.track := by
    rw [held_observe, held_observe, if_pos rfl, if_pos rfl, same]
  have ended : held (locations.noteFinalObject noted.handle.track noted.location) noted.handle.track =
      held (locations'.noteFinalObject noted.handle.track noted.location) noted.handle.track := by
    rw [held_noteFinalObject, held_noteFinalObject, if_pos rfl, if_pos rfl, same]
  unfold TrackObjects.noteWithFinalObject TrackObjects.note
  rw [past, placed]
  split
  · exact ⟨rfl, same⟩
  · cases noted.role with
    | produced => exact ⟨rfl, observed⟩
    | neither => exact ⟨rfl, same⟩
    | endsTrack form =>
      dsimp only
      split
      · exact ⟨rfl, same⟩
      · exact ⟨rfl, ended⟩

/-- An object of one track leaves what the record holds for another. -/
theorem note_elsewhere (noted : Noted) (elsewhere : track ≠ noted.handle.track) :
    held (noted.handle.noteWithFinalObject locations noted.location noted.role).2 track =
      held locations track := by
  have observed : held (locations.observe noted.handle.track noted.location) track = held locations track := by
    rw [held_observe, if_neg elsewhere]
  have ended : held (locations.noteFinalObject noted.handle.track noted.location) track =
      held locations track := by
    rw [held_noteFinalObject, if_neg elsewhere]
  unfold TrackObjects.noteWithFinalObject TrackObjects.note
  split
  · rfl
  · cases noted.role with
    | produced => exact observed
    | neither => rfl
    | endsTrack form =>
      dsimp only
      split
      · rfl
      · exact ended

/-- The answers given to one track's objects. -/
def answersOn (track : Track) : List Noted → List (Except TrackFault Unit) → List (Except TrackFault Unit)
  | noted :: run, answer :: rest =>
    if noted.handle.track = track then answer :: answersOn track run rest else answersOn track run rest
  | _, _ => []

theorem answersOn_eq {run : List Noted} {locations' : TrackLocations}
    (same : held locations track = held locations' track) :
    answersOn track run (answers locations run) =
      answers locations' (run.filter fun noted => noted.handle.track = track) := by
  induction run generalizing locations locations' with
  | nil => rfl
  | cons noted rest ih =>
    rw [answers, answersOn, List.filter_cons]
    by_cases here : noted.handle.track = track
    · subst here
      obtain ⟨answer, kept⟩ := note_held noted same
      simp only [if_true, decide_true]
      rw [answers, answer, ih kept]
    · have kept := @note_elsewhere locations track noted fun clash => here clash.symm
      simp only [here, if_false, decide_false, Bool.false_eq_true]
      exact ih (kept.trans same)

/-- **Two numbers per track suffice**: over every run the record answers as the reference
that remembers every object, a refused object changes nothing, and each track is answered as
though the others were not there. -/
theorem two_numbers_suffice :
    (∀ run, answers .new run = judgeAll [] run) ∧
    (∀ (handle : TrackObjects) locations location role,
      (handle.noteWithFinalObject locations location role).1 ≠ .ok () →
        (handle.noteWithFinalObject locations location role).2 = locations) ∧
    ∀ run track, answersOn track run (answers .new run) =
      answers .new (run.filter fun noted => noted.handle.track = track) := by
  refine ⟨fun run => answers_eq matches_new, ?_, fun run track => answersOn_eq rfl⟩
  intro handle locations location role refused
  unfold TrackObjects.noteWithFinalObject TrackObjects.note at refused ⊢
  split
  · rfl
  · rename_i open'
    rw [open'] at refused
    cases role with
    | produced => exact absurd rfl refused
    | neither => exact absurd rfl refused
    | endsTrack form =>
      dsimp only at refused ⊢
      split
      · rfl
      · rename_i placed
        split at refused
        · rename_i found
          exact absurd found (placed _)
        · exact absurd rfl refused

end Moqtap.TrackReach
