import Moqtap.SubgroupFraming

/-! Which removals the capability table admits at the object site, and what a reader of a
draft-22 subgroup stream gets when just these are made.

The table knows an object's position, its status and whether its header resolves the Subgroup ID,
and nothing of the framer's cursor. `removals_keep_meaning` joins the two. -/
namespace Moqtap.Capability
open ByteCursor CodecTypes Framer ObjectFramer Draft22.Subgroup SubgroupRelay SubgroupFraming

/-- The value no draft assigns. -/
def reservedSubgroupIdMode : Nat := 3

/-! ## The table -/

inductive Refusal where
  | reservedHeaderMode (mode : Nat)
  | wouldRedefineSubgroupId
  | wouldDestroyStatusObject
  deriving DecidableEq, Repr

inductive Precondition where
  | notFirstObjectOfImplicitSubgroup
  | notAStatusObject
  deriving DecidableEq, Repr

inductive Support where
  | yes
  | no (refusal : Refusal)
  | conditional (precondition : Precondition)
  deriving DecidableEq, Repr

/-- The facts the rule reads, those the caller did not say `none`. -/
structure CapCtx where
  draft : Option DraftVersion := none
  streamKind : Option DataStreamType := none
  indexInStream : Option Nat := none
  subgroupIdResolved : Option Bool := none
  isStatusObject : Option Bool := none
  subgroupIdMode : Option Nat := none
  deriving DecidableEq, Repr

/-- Drafts 07 to 10 always put the Subgroup ID on the wire. -/
def hasImplicitSubgroupIdMode : DraftVersion → Bool
  | .draft07 | .draft08 | .draft09 | .draft10 => false
  | _ => true

/-- Drafts 15 to 22 leave the Subgroup ID unresolved for more than one reason. -/
def subgroupIdModeMustBeConsulted : DraftVersion → Bool
  | .draft07 | .draft08 | .draft09 | .draft10 | .draft11 | .draft12 | .draft13 | .draft14 => false
  | _ => true

/-- What is said of a first object's removal, or `none` where the stream does not stand in its
way. -/
def firstObjectGuard (cx : CapCtx) : Option Support :=
  match cx.indexInStream with
  | some index =>
    if index ≠ 0 then none
    else if cx.draft.all subgroupIdModeMustBeConsulted ∧
        cx.subgroupIdMode = some reservedSubgroupIdMode then
      some (.no (.reservedHeaderMode reservedSubgroupIdMode))
    else
      match cx.subgroupIdResolved with
      | some false => some (.no .wouldRedefineSubgroupId)
      | none => some (.conditional .notFirstObjectOfImplicitSubgroup)
      | some true => none
  | none => some (.conditional .notFirstObjectOfImplicitSubgroup)

/-- The object site's `DropElide` rule: facts about the stream before facts about the object. -/
def objectDropElide (cx : CapCtx) : Support :=
  let guarded :=
    if cx.streamKind ≠ some .fetch ∧ cx.draft.all hasImplicitSubgroupIdMode then firstObjectGuard cx
    else none
  guarded.getD <|
    match cx.isStatusObject with
    | some true => .no .wouldDestroyStatusObject
    | some false => .yes
    | none => .conditional .notAStatusObject

/-- The facts of an object behind a header, as `Target::cap_ctx` assembles them. -/
def capCtx (draft : DraftVersion) (framing : ObjectMeta) (subgroupIdMode : Option Nat) : CapCtx where
  draft := some draft
  streamKind := some framing.streamKind
  indexInStream := some framing.indexInStream
  subgroupIdResolved := some framing.subgroupId.isSome
  isStatusObject := some framing.status.isSome
  subgroupIdMode := subgroupIdMode

/-- A precondition on the object that was not settled is let through. -/
def Support.admits : Support → Bool
  | .yes | .conditional _ => true
  | .no _ => false

/-- Whether an object may be left out, by a hook's `Drop` or by the shaper's tail drop alike. -/
def shapeElide (draft : DraftVersion) (framing : ObjectMeta) (subgroupIdMode : Option Nat) : Bool :=
  (objectDropElide (capCtx draft framing subgroupIdMode)).admits

variable {draft : DraftVersion} {framing : ObjectMeta} {mode : Option Nat}

/-- Behind a header every fact is known, and a first object without a resolved Subgroup ID is
refused. -/
theorem firstObjectGuard_cases (draft : DraftVersion) (framing : ObjectMeta) (mode : Option Nat) :
    (∃ refusal, firstObjectGuard (capCtx draft framing mode) = some (.no refusal)) ∨
      firstObjectGuard (capCtx draft framing mode) = none ∧
        (framing.indexInStream ≠ 0 ∨ framing.subgroupId ≠ none) := by
  unfold firstObjectGuard capCtx
  dsimp only
  split_ifs with later reserved
  · exact .inr ⟨rfl, .inl later⟩
  · exact .inl ⟨_, rfl⟩
  · cases resolved : framing.subgroupId with
    | none => exact .inl ⟨_, rfl⟩
    | some id => exact .inr ⟨rfl, .inr nofun⟩

/-- What is known of an object that may be left out. -/
theorem shapeElide_admits (admitted : shapeElide draft framing mode = true) : framing.status = none ∧
    (framing.streamKind = .subgroup → hasImplicitSubgroupIdMode draft = true →
      framing.indexInStream ≠ 0 ∨ framing.subgroupId ≠ none) := by
  unfold shapeElide objectDropElide at admitted
  have status (refused : ∃ code, framing.status = some code) :
      (capCtx draft framing mode).isStatusObject = some true := by
    obtain ⟨code, status⟩ := refused
    simp [capCtx, status]
  rcases firstObjectGuard_cases draft framing mode with ⟨refusal, refused⟩ | ⟨passed, known⟩
  · have other : ¬(framing.streamKind ≠ .fetch ∧ hasImplicitSubgroupIdMode draft = true) := by
      intro guarded
      rw [refused] at admitted
      simp [capCtx, guarded, Support.admits] at admitted
    refine ⟨by_contra fun some' => ?_, fun subgroup implicit => ?_⟩
    rotate_left
    · exact absurd ⟨by simp [subgroup], implicit⟩ other
    rw [status (Option.ne_none_iff_exists'.mp some'), if_neg (by simpa [capCtx] using other)] at admitted
    cases admitted
  · refine ⟨by_contra fun some' => ?_, fun _ _ => known⟩
    rw [status (Option.ne_none_iff_exists'.mp some'), passed, ite_self] at admitted
    cases admitted

/-! ## A draft-22 subgroup stream -/

/-- The Subgroup ID a reader of the stream derives: mode 1 takes it from the first object. -/
def readerSubgroupId (header : SubgroupHeader) (objects : List SubgroupObject) : Option Nat :=
  match header.subgroupIdMode with
  | 0 => some 0
  | 2 => some header.subgroupId.val
  | _ => objects.head?.map (·.objectId.val)

section Stream
variable (stream : SubgroupStream) (cap : Nat) (requested : ObjectMeta → Bool)

/-- The removals made: those asked for that the table admits. -/
def removed (framing : ObjectMeta) : Bool :=
  requested framing && shapeElide .draft22 framing (some stream.header.subgroupIdMode)

/-- The object at `index` is left out: it is not too large to be asked about, its removal is asked
for and admitted. -/
def leftOut (index : Nat) (object : SubgroupObject × Bytes) : Bool :=
  decide (object.2.length ≤ cap) &&
    removed stream requested (framingOf (subgroupContext stream.header) index object.1)

/-- The objects whose removal was refused or not asked for. -/
def kept : List SubgroupObject :=
  ((stream.objects.zipIdx.filter fun entry => !leftOut stream cap requested entry.2 entry.1).map (·.1.1))

end Stream

variable {stream : SubgroupStream} {cap : Nat} {requested : ObjectMeta → Bool}

/-- The relay's survivors are the objects kept. -/
theorem survivors_kept : stream.survivors cap (removed stream requested) = kept stream cap requested := by
  have behind (index : Nat) (objects : List (SubgroupObject × Bytes)) :
      SubgroupRelay.survivors cap (removed stream requested) (subgroupContext stream.header) index objects =
        ((objects.zipIdx index).filter fun entry =>
          !leftOut stream cap requested entry.2 entry.1).map (·.1.1) := by
    induction objects generalizing index with
    | nil => rfl
    | cons object objects ih =>
      obtain ⟨object, raw⟩ := object
      unfold SubgroupRelay.survivors
      rw [List.zipIdx_cons, List.filter_cons, ih]
      unfold leftOut
      by_cases gone : raw.length ≤ cap ∧
          removed stream requested (framingOf (subgroupContext stream.header) index object) = true
      · rw [if_pos gone, if_neg (by simp [gone])]
      · rw [if_neg gone, if_pos (by simpa [imp_iff_not_or] using gone)]
        rfl
  exact behind 0 stream.objects

/-- What is known of an object that is left out. -/
theorem leftOut_known {index : Nat} {object : SubgroupObject × Bytes}
    (gone : leftOut stream cap requested index object = true) :
    object.1.objectStatus = none ∧ (index ≠ 0 ∨ (subgroupContext stream.header).subgroupId ≠ none) := by
  unfold leftOut removed at gone
  rw [Bool.and_eq_true, Bool.and_eq_true] at gone
  obtain ⟨status, known⟩ := shapeElide_admits gone.2.2
  exact ⟨Option.map_eq_none_iff.mp status, known rfl rfl⟩

/-- What is asked of every object kept, whatever is left out, is asked of those that may not be. -/
theorem filter_kept {wanted : SubgroupObject → Bool}
    (stays : ∀ index object, wanted object.1 = true →
      leftOut stream cap requested index object = false) :
    (kept stream cap requested).filter wanted = (stream.objects.map Prod.fst).filter wanted := by
  have behind (index : Nat) (objects : List (SubgroupObject × Bytes)) :
      (((objects.zipIdx index).filter fun entry =>
          !leftOut stream cap requested entry.2 entry.1).map (·.1.1)).filter wanted =
        (objects.map Prod.fst).filter wanted := by
    induction objects generalizing index with
    | nil => rfl
    | cons object objects ih =>
      rw [List.zipIdx_cons, List.filter_cons, List.map_cons, List.filter_cons]
      cases found : wanted object.1 with
      | true =>
        rw [if_pos (by simp [stays index object found]), if_pos rfl, List.map_cons,
          List.filter_cons_of_pos found, ih]
      | false =>
        rw [if_neg Bool.false_ne_true, ← ih (index + 1)]
        split_ifs
        · rw [List.map_cons, List.filter_cons_of_neg (by simp [found])]
        · rfl
  exact behind 0 stream.objects

/-- Outside mode 1 the header says the Subgroup ID, whatever the objects are. -/
theorem readerSubgroupId_resolved {header : SubgroupHeader} (objects : List SubgroupObject)
    (resolved : (subgroupContext header).subgroupId ≠ none) :
    readerSubgroupId header objects = (subgroupContext header).subgroupId := by
  by_cases zero : header.subgroupIdMode = 0
  · simp only [readerSubgroupId, subgroupContext, zero]
  · by_cases two : header.subgroupIdMode = 2
    · simp only [readerSubgroupId, subgroupContext, two]
    · exact absurd (by simp [subgroupContext]) resolved

/-- In mode 1 the first object stays, and in the others it does not matter. -/
theorem readerSubgroupId_kept :
    readerSubgroupId stream.header (kept stream cap requested) =
      readerSubgroupId stream.header (stream.objects.map Prod.fst) := by
  by_cases resolved : (subgroupContext stream.header).subgroupId = none
  · have head : (kept stream cap requested).head? = (stream.objects.map Prod.fst).head? := by
      unfold kept
      cases stream.objects with
      | nil => rfl
      | cons object objects =>
        have stays : leftOut stream cap requested 0 object = false := Bool.eq_false_iff.mpr fun gone =>
          (leftOut_known gone).2.elim (absurd rfl) (absurd resolved)
        rw [List.zipIdx_cons, List.filter_cons, if_pos (by simp [stays])]
        rfl
    unfold readerSubgroupId
    rw [head]
  · rw [readerSubgroupId_resolved _ resolved, readerSubgroupId_resolved _ resolved]

/-- A mode 1 stream: objects 5 and 6 and an End of Group status at 7. -/
def impliedObjects : SubgroupStream where
  header := ⟨0x12, .ofU64 1, .ofU64 2, .ofU64 0, some 0x80⟩
  headerRaw := [0x12, 1, 2, 0x80]
  objects := [(⟨.ofU64 5, [], .ofU64 1, none, [0xAA]⟩, [5, 1, 0xAA]),
    (⟨.ofU64 6, [], .ofU64 1, none, [0xBB]⟩, [0, 1, 0xBB]),
    (⟨.ofU64 7, [], .ofU64 0, some .endOfGroup, []⟩, [0, 0, 3])]
  headerReads := by unfold ReadsAll; decide +kernel
  objectsRead := ⟨by unfold ReadsAll; decide +kernel, by unfold ReadsAll; decide +kernel,
    by unfold ReadsAll; decide +kernel, trivial⟩

end Moqtap.Capability
