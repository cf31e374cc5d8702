import Moqtap.RangeFilters

/-! The Range Filter codec for every MoQT varint profile (`range_filter.rs`). The two
delta baselines are the partial sums of one run of integers: a Start counts from the End
before it and an End from its own Start, so the n-th value is the sum of the first n
deltas (`exactRanges`), resolved in unbounded integers. The decoder accepts a run exactly
where that sum stays below 2^64 and reports the delta at which it first does not; the
encoder writes the run that resolves to its ranges. -/
namespace Moqtap.RangeFilterCodec
open ByteCursor Varint CodecTypes RangeFilters

/-! ## The codec -/

def shortOf (profile : MoqtProfile) (detail : String) : Reader RangeFilterError Nat := do
  let v ← mapError (fun _ => RangeFilterError.malformed detail) (VarInt.decodeMoqt profile)
  return v.val

/-- A delta and the value it resolves to. -/
def readValue (profile : MoqtProfile) (detail : String) (base : Nat) : Reader RangeFilterError Nat := do
  let delta ← shortOf profile detail
  lift (resolveDelta base delta)

def decodeRanges (profile : MoqtProfile) : Nat → Nat → Reader RangeFilterError (List FilterRange)
  | 0, _ => pure []
  | fuel + 1, previousEnd => do
    let left ← remaining
    if left = 0 then return []
    else do
      let start ← readValue profile "a Range's Start is short" previousEnd
      let left ← remaining
      if left = 0 then return [⟨start, none⟩]
      else do
        let stop ← readValue profile "a Range's End is short" start
        let rest ← decodeRanges profile fuel stop
        return ⟨start, some stop⟩ :: rest

/-- The Property Type of the two filters that name one. -/
def readPropertyType (profile : MoqtProfile) (parameterType : Nat) :
    Reader RangeFilterError (Option Nat) :=
  if carriesAPropertyType parameterType then
    some <$> shortOf profile "it ends before the Property Type this filter type carries"
  else pure none

def readFilter (profile : MoqtProfile) (parameterType fuel : Nat) : Reader RangeFilterError RangeFilter := do
  let setId ← takeByte (.malformed "it ends before the SetID")
  let propertyType ← readPropertyType profile parameterType
  let ranges ← decodeRanges profile fuel 0
  return (⟨parameterType, setId, propertyType, ranges⟩ : RangeFilter)

/-- A range takes a byte at least, so as many rounds as bytes are enough. -/
def decodeMoqtStructure (profile : MoqtProfile) (parameterType : Nat) (bytes : Bytes) :
    Except RangeFilterError RangeFilter :=
  if isRangeFilter parameterType = false then .error (.notARangeFilter parameterType)
  else if bytes = [] then .ok ⟨parameterType, 0, none, []⟩
  else (readFilter profile parameterType bytes.length (.of bytes)).map Prod.fst

def decodeMoqt (profile : MoqtProfile) (parameterType : Nat) (bytes : Bytes) :
    Except RangeFilterError RangeFilter := do
  let filter ← decodeMoqtStructure profile parameterType bytes
  checkItsOwnTypes filter
  return filter

def writeVarint (profile : MoqtProfile) (v : Nat) : Bytes := (VarInt.ofU64 v).encodeMoqt profile

/-- The loop of `encode_moqt`. -/
def encodeRanges (profile : MoqtProfile) : Nat → List FilterRange → Except RangeFilterError Bytes
  | _, [] => .ok []
  | previousEnd, range :: rest => do
    let startDelta ← okOr (checkedSub range.start previousEnd)
      (.malformed "the Ranges are not in ascending order")
    match range.end with
    | some stop => do
      let endDelta ← okOr (checkedSub stop range.start) (.malformed "a Range ends before it starts")
      let tail ← encodeRanges profile stop rest
      return writeVarint profile startDelta ++ (writeVarint profile endDelta ++ tail)
    | none => do
      refuseIf (!rest.isEmpty) (.malformed "only the final Range may be left open")
      return writeVarint profile startDelta

/-- The property type a filter states has to be the one its type calls for. -/
def checkPropertyType (filter : RangeFilter) : Except RangeFilterError Unit :=
  match carriesAPropertyType filter.parameterType, filter.propertyType with
  | true, none => .error (.malformed "this filter type carries a Property Type and none was given")
  | false, some _ => .error (.malformed "this filter type carries no Property Type and one was given")
  | _, _ => .ok ()

def writePropertyType (profile : MoqtProfile) (propertyType : Option Nat) : Bytes :=
  (propertyType.map (writeVarint profile)).getD []

def encodeMoqt (profile : MoqtProfile) (filter : RangeFilter) : Except RangeFilterError Bytes := do
  refuseIf (!isRangeFilter filter.parameterType) (.notARangeFilter filter.parameterType)
  checkPropertyType filter
  checkItsOwnTypes filter
  let ranges ← encodeRanges profile 0 filter.ranges
  return filter.setId :: (writePropertyType profile filter.propertyType ++ ranges)

/-! ## Deltas -/

/-- Ranges resolved in integers without a bound, from the value `base`. -/
def exactRanges : Nat → List Nat → List FilterRange
  | _, [] => []
  | base, [start] => [⟨base + start, none⟩]
  | base, start :: stop :: rest =>
    ⟨base + start, some (base + start + stop)⟩ :: exactRanges (base + start + stop) rest

/-- The integers `deltas` stand at the head of `bytes`, one behind the other. -/
inductive DeltasAt (profile : MoqtProfile) : Bytes → List Nat → Bytes → Prop
  | none (bytes : Bytes) : DeltasAt profile bytes [] bytes
  | more {bytes behind left : Bytes} {delta : VarInt} {deltas : List Nat}
      (first : VarInt.decodeMoqt profile (.of bytes) = .ok (delta, .of behind))
      (others : DeltasAt profile behind deltas left) : DeltasAt profile bytes (delta.val :: deltas) left

variable {profile : MoqtProfile} {detail : String} {base : Nat} {bytes behind left : Bytes}
  {deltas : List Nat}

theorem deltasAt_nil : DeltasAt profile [] deltas left ↔ deltas = [] ∧ left = [] := by
  constructor
  · intro stand
    cases stand with
    | none => exact ⟨rfl, rfl⟩
    | more first => cases first
  · rintro ⟨rfl, rfl⟩
    exact .none []

theorem deltasAt_cons {delta : Nat} :
    DeltasAt profile bytes (delta :: deltas) left ↔
      ∃ (v : VarInt) (behind : Bytes), VarInt.decodeMoqt profile (.of bytes) = .ok (v, .of behind) ∧
        v.val = delta ∧ DeltasAt profile behind deltas left := by
  constructor
  · intro stand
    cases stand with
    | more first others => exact ⟨_, _, first, rfl, others⟩
  · rintro ⟨v, behind, first, rfl, others⟩
    exact .more first others

theorem shortOf_ok {value : Nat} {rest : Cursor} :
    shortOf profile detail (.of bytes) = .ok (value, rest) ↔
      ∃ (v : VarInt) (behind : Bytes), VarInt.decodeMoqt profile (.of bytes) = .ok (v, .of behind) ∧
        v.val = value ∧ rest = .of behind := by
  unfold shortOf
  constructor
  · intro read
    obtain ⟨v, middle, varintRead, made⟩ := bind_success read
    cases made
    replace varintRead := mapError_success varintRead
    obtain ⟨behind, rfl⟩ := Parses.plain (VarInt.local_decodeMoqt profile) varintRead
    exact ⟨v, behind, varintRead, rfl, rfl⟩
  · rintro ⟨v, behind, varintRead, rfl, rfl⟩
    rw [bind_apply, mapError, varintRead]
    rfl

theorem shortOf_error {e : RangeFilterError} (failed : shortOf profile detail (.of bytes) = .error e) :
    e = .malformed detail := by
  unfold shortOf at failed
  rw [bind_apply, mapError] at failed
  cases read : VarInt.decodeMoqt profile (.of bytes) with
  | error e' =>
    rw [read] at failed
    cases failed
    rfl
  | ok found =>
    rw [read] at failed
    cases failed

theorem resolveDelta_ok {delta value : Nat} :
    resolveDelta base delta = .ok value ↔ value = base + delta ∧ value < 2 ^ 64 := by
  rw [resolveDelta, okOr_ok, checkedAdd_some]

theorem resolveDelta_error {delta : Nat} {e : RangeFilterError} :
    resolveDelta base delta = .error e ↔ e = .deltaOverflow base delta ∧ 2 ^ 64 ≤ base + delta := by
  unfold resolveDelta checkedAdd okOr
  split_ifs with small
  · simp only [false_iff, not_and]
    omega
  · constructor
    · intro same
      cases same
      exact ⟨rfl, by omega⟩
    · rintro ⟨rfl, -⟩
      rfl

theorem readValue_ok {value : Nat} {rest : Cursor} :
    readValue profile detail base (.of bytes) = .ok (value, rest) ↔
      ∃ (v : VarInt) (behind : Bytes), VarInt.decodeMoqt profile (.of bytes) = .ok (v, .of behind) ∧
        value = base + v.val ∧ value < 2 ^ 64 ∧ rest = .of behind := by
  unfold readValue
  constructor
  · intro read
    obtain ⟨delta, middle, deltaRead, resolved⟩ := bind_success read
    obtain ⟨v, behind, varintRead, rfl, rfl⟩ := shortOf_ok.mp deltaRead
    obtain ⟨sum, rfl⟩ := lift_success resolved
    obtain ⟨value, small⟩ := resolveDelta_ok.mp sum
    exact ⟨v, behind, varintRead, value, small, rfl⟩
  · rintro ⟨v, behind, varintRead, value, small, rfl⟩
    rw [bind_apply, shortOf_ok.mpr ⟨v, behind, varintRead, rfl, rfl⟩]
    dsimp only
    rw [lift, resolveDelta_ok.mpr ⟨value, small⟩]
    rfl

theorem readValue_overflow {before delta : Nat} :
    readValue profile detail base (.of bytes) = .error (.deltaOverflow before delta) ↔
      before = base ∧ 2 ^ 64 ≤ base + delta ∧ ∃ (v : VarInt) (behind : Bytes),
        VarInt.decodeMoqt profile (.of bytes) = .ok (v, .of behind) ∧ v.val = delta := by
  unfold readValue
  rw [bind_apply]
  constructor
  · intro failed
    cases read : shortOf profile detail (.of bytes) with
    | error e =>
      rw [read] at failed
      cases failed
      cases shortOf_error read
    | ok found =>
      obtain ⟨value, rest⟩ := found
      obtain ⟨v, behind, varintRead, rfl, rfl⟩ := shortOf_ok.mp read
      rw [read] at failed
      dsimp only [lift] at failed
      cases resolved : resolveDelta base v.val with
      | ok sum =>
        rw [resolved] at failed
        cases failed
      | error e =>
        rw [resolved] at failed
        cases failed
        obtain ⟨same, large⟩ := resolveDelta_error.mp resolved
        cases same
        exact ⟨rfl, large, v, behind, varintRead, rfl⟩
  · rintro ⟨rfl, large, v, behind, varintRead, rfl⟩
    rw [shortOf_ok.mpr ⟨v, behind, varintRead, rfl, rfl⟩]
    dsimp only [lift]
    rw [resolveDelta_error.mpr ⟨rfl, large⟩]
    rfl

/-! ## The loop -/

theorem varint_shorter {v : VarInt} (read : VarInt.decodeMoqt profile (.of bytes) = .ok (v, .of behind)) :
    behind.length < bytes.length := by
  obtain ⟨used, split, -, -, le⟩ := VarInt.parses_decodeMoqt profile _ _ _ read
  have positive := VarInt.encodeMoqt_length_pos profile v
  rw [VarInt.encodeMoqt_length] at positive
  have lengths := congrArg List.length split
  simp only [List.length_append, Cursor.of] at lengths
  omega

theorem decodeRanges_filled (fuel : Nat) (filled : bytes ≠ []) :
    decodeRanges profile (fuel + 1) base (.of bytes) = (do
      let start ← readValue profile "a Range's Start is short" base
      let left ← remaining
      if left = 0 then return [⟨start, none⟩]
      else do
        let stop ← readValue profile "a Range's End is short" start
        let rest ← decodeRanges profile fuel stop
        return ⟨start, some stop⟩ :: rest : Reader RangeFilterError (List FilterRange)) (.of bytes) := by
  have more : (Cursor.of bytes).remaining ≠ 0 := by
    simpa [Cursor.remaining, Cursor.of] using filled
  rw [decodeRanges, bind_apply, remaining]
  exact congrFun (if_neg more) _

theorem remaining_of_ne (filled : behind ≠ []) : (Cursor.of behind).remaining ≠ 0 := by
  simpa [Cursor.remaining, Cursor.of] using filled

/-- **The loop accepts the runs whose exact resolution stays in 64 bits**, and resolves them so. -/
theorem decodeRanges_ok {fuel : Nat} {ranges : List FilterRange} {rest : Cursor}
    (enough : bytes.length ≤ fuel) (small : base < 2 ^ 64) :
    decodeRanges profile fuel base (.of bytes) = .ok (ranges, rest) ↔
      rest = .of [] ∧ ∃ deltas, DeltasAt profile bytes deltas [] ∧ ranges = exactRanges base deltas ∧
        base + deltas.sum < 2 ^ 64 := by
  induction fuel generalizing bytes base ranges with
  | zero =>
    cases List.length_eq_zero_iff.mp (Nat.le_zero.mp enough)
    constructor
    · intro read
      cases read
      exact ⟨rfl, [], .none [], rfl, by simpa using small⟩
    · rintro ⟨rfl, deltas, stand, rfl, -⟩
      obtain ⟨rfl, -⟩ := deltasAt_nil.mp stand
      rfl
  | succ fuel ih =>
    by_cases filled : bytes = []
    · subst filled
      constructor
      · intro read
        cases read
        exact ⟨rfl, [], .none [], rfl, by simpa using small⟩
      · rintro ⟨rfl, deltas, stand, rfl, -⟩
        obtain ⟨rfl, -⟩ := deltasAt_nil.mp stand
        rfl
    · rw [decodeRanges_filled fuel filled]
      constructor
      · intro read
        obtain ⟨start, middle, startRead, stops⟩ := bind_success read
        obtain ⟨v, behind, first, rfl, startSmall, rfl⟩ := readValue_ok.mp startRead
        have shorter := varint_shorter first
        rw [bind_apply, remaining] at stops
        dsimp only at stops
        by_cases ended : behind = []
        · subst ended
          cases stops
          exact ⟨rfl, [v.val], .more first (.none []), rfl, by simpa using startSmall⟩
        · rw [if_neg (remaining_of_ne ended)] at stops
          obtain ⟨stop, after, stopRead, looped⟩ := bind_success stops
          obtain ⟨w, left, second, rfl, stopSmall, rfl⟩ := readValue_ok.mp stopRead
          have shorter' := varint_shorter second
          obtain ⟨others, _, othersRead, made⟩ := bind_success looped
          cases made
          obtain ⟨rfl, deltas, stand, rfl, sum⟩ := (ih (by omega) stopSmall).mp othersRead
          refine ⟨rfl, v.val :: w.val :: deltas, .more first (.more second stand), rfl, ?_⟩
          simp only [List.sum_cons]
          omega
      · rintro ⟨rfl, deltas, stand, rfl, sum⟩
        cases stand with
        | none => exact absurd rfl filled
        | more first others =>
          rename_i behind v deltas
          have shorter := varint_shorter first
          simp only [List.sum_cons] at sum
          rw [bind_apply, readValue_ok.mpr ⟨v, behind, first, rfl, by omega, rfl⟩]
          dsimp only
          rw [bind_apply, remaining]
          dsimp only
          cases others with
          | none => rfl
          | more second others =>
            rename_i left w deltas
            have shorter' := varint_shorter second
            have ended : behind ≠ [] := by
              rintro rfl
              exact absurd shorter' (Nat.not_lt_zero _)
            simp only [List.sum_cons] at sum
            rw [if_neg (remaining_of_ne ended), bind_apply,
              readValue_ok.mpr ⟨w, left, second, rfl, by omega, rfl⟩]
            dsimp only
            rw [bind_apply, (ih (by omega) (by omega)).mpr ⟨rfl, deltas, others, rfl, by omega⟩]
            rfl

/-- **A delta is reported exactly where the exact resolution first leaves 64 bits.** -/
theorem decodeRanges_overflow {fuel before delta : Nat}
    (enough : bytes.length ≤ fuel) (small : base < 2 ^ 64) :
    decodeRanges profile fuel base (.of bytes) = .error (.deltaOverflow before delta) ↔
      ∃ deltas left, DeltasAt profile bytes (deltas ++ [delta]) left ∧ before = base + deltas.sum ∧
        before < 2 ^ 64 ∧ 2 ^ 64 ≤ before + delta := by
  induction fuel generalizing bytes base with
  | zero =>
    cases List.length_eq_zero_iff.mp (Nat.le_zero.mp enough)
    constructor
    · exact nofun
    · rintro ⟨deltas, left, stand, -⟩
      exact absurd (deltasAt_nil.mp stand).1 (by simp)
  | succ fuel ih =>
    by_cases filled : bytes = []
    · subst filled
      constructor
      · exact nofun
      · rintro ⟨deltas, left, stand, -⟩
        exact absurd (deltasAt_nil.mp stand).1 (by simp)
    · rw [decodeRanges_filled fuel filled]
      constructor
      · intro failed
        rcases bind_error failed with startFailed | ⟨start, middle, startRead, stops⟩
        · obtain ⟨rfl, large, v, behind, first, rfl⟩ := readValue_overflow.mp startFailed
          exact ⟨[], behind, .more first (.none behind), by simp, by simpa using small, by simpa using large⟩
        · obtain ⟨v, behind, first, rfl, startSmall, rfl⟩ := readValue_ok.mp startRead
          have shorter := varint_shorter first
          rw [bind_apply, remaining] at stops
          dsimp only at stops
          by_cases ended : behind = []
          · subst ended
            cases stops
          · rw [if_neg (remaining_of_ne ended)] at stops
            rcases bind_error stops with stopFailed | ⟨stop, after, stopRead, looped⟩
            · obtain ⟨rfl, large, w, left, second, rfl⟩ := readValue_overflow.mp stopFailed
              exact ⟨[v.val], left, .more first (.more second (.none left)), by simp, startSmall, large⟩
            · obtain ⟨w, left, second, rfl, stopSmall, rfl⟩ := readValue_ok.mp stopRead
              have shorter' := varint_shorter second
              rcases bind_error looped with restFailed | ⟨others, _, -, made⟩
              · obtain ⟨deltas, left', stand, rfl, sum, large⟩ := (ih (by omega) stopSmall).mp restFailed
                refine ⟨v.val :: w.val :: deltas, left', .more first (.more second stand), ?_, sum, large⟩
                simp only [List.sum_cons]
                omega
              · cases made
      · rintro ⟨deltas, left, stand, total, sum, large⟩
        cases deltas with
        | nil =>
          obtain ⟨v, behind, first, rfl, -⟩ := deltasAt_cons.mp stand
          simp only [List.sum_nil, Nat.add_zero] at total
          subst total
          rw [bind_apply, readValue_overflow.mpr ⟨rfl, large, v, behind, first, rfl⟩]
        | cons start deltas =>
          obtain ⟨v, behind, first, rfl, others⟩ := deltasAt_cons.mp stand
          have shorter := varint_shorter first
          simp only [List.sum_cons] at total
          rw [bind_apply, readValue_ok.mpr ⟨v, behind, first, rfl, by omega, rfl⟩]
          dsimp only
          rw [bind_apply, remaining]
          dsimp only
          have ended : behind ≠ [] := by
            rintro rfl
            exact absurd (deltasAt_nil.mp others).1 (by simp)
          rw [if_neg (remaining_of_ne ended)]
          cases deltas with
          | nil =>
            obtain ⟨w, left', second, rfl, -⟩ := deltasAt_cons.mp others
            simp only [List.sum_nil, Nat.add_zero] at total
            subst total
            rw [bind_apply, readValue_overflow.mpr ⟨rfl, large, w, left', second, rfl⟩]
          | cons stop deltas =>
            obtain ⟨w, left', second, rfl, later⟩ := deltasAt_cons.mp others
            have shorter' := varint_shorter second
            simp only [List.sum_cons] at total
            rw [bind_apply, readValue_ok.mpr ⟨w, left', second, rfl, by omega, rfl⟩]
            dsimp only
            rw [bind_apply, (ih (by omega) (by omega)).mpr ⟨deltas, left, later, by omega, sum, large⟩]

/-! ## The ranges written -/

def writeDeltas (profile : MoqtProfile) (deltas : List Nat) : Bytes := deltas.flatMap (writeVarint profile)

theorem deltasAt_written {tail : Bytes} (small : ∀ delta ∈ deltas, delta < 2 ^ 64) :
    DeltasAt profile (writeDeltas profile deltas ++ tail) deltas tail := by
  induction deltas with
  | nil => exact .none tail
  | cons delta deltas ih =>
    have value : (VarInt.ofU64 delta).val = delta := VarInt.val_ofU64 (small delta (List.mem_cons_self ..))
    rw [deltasAt_cons]
    refine ⟨VarInt.ofU64 delta, writeDeltas profile deltas ++ tail, ?_, value,
      ih fun delta member => small delta (List.mem_cons_of_mem _ member)⟩
    rw [writeDeltas, List.flatMap_cons, List.append_assoc]
    exact VarInt.reads_encodeMoqt profile (VarInt.ofU64 delta) _ 0

/-- The encoder writes the deltas that resolve to its ranges. -/
theorem encodeRanges_ok {ranges : List FilterRange} :
    encodeRanges profile base ranges = .ok bytes ↔
      ∃ deltas, ranges = exactRanges base deltas ∧ bytes = writeDeltas profile deltas := by
  induction ranges generalizing base bytes with
  | nil =>
    constructor
    · intro wrote
      cases wrote
      exact ⟨[], rfl, rfl⟩
    · rintro ⟨deltas, same, rfl⟩
      match deltas, same with
      | [], _ => rfl
      | [_], same => cases same
      | _ :: _ :: _, same => cases same
  | cons range rest ih =>
    obtain ⟨start, stop⟩ := range
    unfold encodeRanges
    rw [except_bind_iff]
    constructor
    · rintro ⟨startDelta, apart, wrote⟩
      rw [okOr_ok, checkedSub_some] at apart
      cases stop with
      | none =>
        obtain ⟨_, last, made⟩ := except_bind_ok wrote
        cases made
        rw [refuseIf_ok, Bool.not_eq_false', List.isEmpty_iff] at last
        dsimp only at apart
        refine ⟨[startDelta], ?_, ?_⟩
        · rw [last, exactRanges, apart]
        · simp [writeDeltas]
      | some stop =>
        obtain ⟨endDelta, apart', wroteRest⟩ := except_bind_ok wrote
        rw [okOr_ok, checkedSub_some] at apart'
        obtain ⟨tail, tailWrote, made⟩ := except_bind_ok wroteRest
        cases made
        obtain ⟨deltas, rfl, rfl⟩ := ih.mp tailWrote
        dsimp only at apart apart'
        refine ⟨startDelta :: endDelta :: deltas, ?_, ?_⟩
        · rw [exactRanges, ← apart, ← apart']
        · simp [writeDeltas]
    · rintro ⟨deltas, same, rfl⟩
      match deltas, same with
      | [delta], same =>
        rw [exactRanges] at same
        cases same
        refine ⟨delta, ?_, ?_⟩
        · rw [okOr_ok, checkedSub_some]
        · simp [writeDeltas, refuseIf]
      | delta :: delta' :: deltas, same =>
        rw [exactRanges] at same
        obtain ⟨same, rfl⟩ := List.cons.inj same
        cases same
        refine ⟨delta, ?_, ?_⟩
        · rw [okOr_ok, checkedSub_some]
        · dsimp only
          rw [except_bind_iff]
          refine ⟨delta', ?_, ?_⟩
          · rw [okOr_ok, checkedSub_some]
          · rw [ih.mpr ⟨deltas, rfl, rfl⟩]
            simp [writeDeltas]

/-! ## Ranges -/

/-- Every Start at or behind the End before it, every End at or behind its Start, all in
64 bits, and no End missing but the last. -/
def Ascending : Nat → List FilterRange → Prop
  | _, [] => True
  | previousEnd, range :: rest =>
    previousEnd ≤ range.start ∧ range.start < 2 ^ 64 ∧
      match range.end with
      | none => rest = []
      | some stop => range.start ≤ stop ∧ stop < 2 ^ 64 ∧ Ascending stop rest

theorem exact_ascending (small : base + deltas.sum < 2 ^ 64) : Ascending base (exactRanges base deltas) := by
  induction base, deltas using exactRanges.induct with
  | case1 base => trivial
  | case2 base start =>
    rw [List.sum_singleton] at small
    exact ⟨Nat.le_add_right .., small, rfl⟩
  | case3 base start stop rest ih =>
    simp only [List.sum_cons] at small
    exact ⟨Nat.le_add_right .., by dsimp only; omega, Nat.le_add_right .., by omega, ih (by omega)⟩

/-- Ranges that hold 64-bit values are resolved inside 64 bits. -/
theorem exact_small (inside : base < 2 ^ 64)
    (typed : ∀ range ∈ exactRanges base deltas, ∀ value ∈ range.values, value < 2 ^ 64) :
    base + deltas.sum < 2 ^ 64 := by
  induction base, deltas using exactRanges.induct with
  | case1 base => simpa using inside
  | case2 base start =>
    have bound := typed ⟨base + start, none⟩ (List.mem_cons_self ..) (base + start) (List.mem_cons_self ..)
    simpa using bound
  | case3 base start stop rest ih =>
    have bound := typed ⟨base + start, some (base + start + stop)⟩ (List.mem_cons_self ..)
      (base + start + stop) (by simp [FilterRange.values])
    have others := ih bound fun range member => typed range (List.mem_cons_of_mem _ member)
    simp only [List.sum_cons]
    omega

/-! ## The whole value -/

/-- What a value's first fields say: the SetID, the Property Type where there is one, and
the ranges `behind` them. -/
def PrefixAt (profile : MoqtProfile) (parameterType : Nat) (bytes : Bytes) (setId : UInt8)
    (propertyType : Option Nat) (behind : Bytes) : Prop :=
  ∃ after, bytes = setId :: after ∧
    if carriesAPropertyType parameterType then
      ∃ v, VarInt.decodeMoqt profile (.of after) = .ok (v, .of behind) ∧ propertyType = some v.val
    else behind = after ∧ propertyType = none

variable {parameterType : Nat} {filter : RangeFilter} {propertyType : Option Nat} {setId : UInt8}

theorem readPropertyType_ok {after : Bytes} {rest : Cursor} :
    readPropertyType profile parameterType (.of after) = .ok (propertyType, rest) ↔
      ∃ behind, rest = .of behind ∧ PrefixAt profile parameterType (setId :: after) setId propertyType behind := by
  unfold readPropertyType PrefixAt
  simp only [List.cons.injEq, true_and, exists_eq_left']
  split_ifs with carries
  · rw [map_eq_bind]
    constructor
    · intro read
      obtain ⟨value, middle, valueRead, made⟩ := bind_success read
      obtain ⟨v, behind, varintRead, rfl, rfl⟩ := shortOf_ok.mp valueRead
      cases made
      exact ⟨behind, rfl, v, varintRead, rfl⟩
    · rintro ⟨behind, rfl, v, varintRead, rfl⟩
      rw [bind_apply, shortOf_ok.mpr ⟨v, behind, varintRead, rfl, rfl⟩]
      rfl
  · constructor
    · intro read
      cases read
      exact ⟨after, rfl, rfl, rfl⟩
    · rintro ⟨_, rfl, rfl, rfl⟩
      rfl

theorem prefix_shorter (prefixed : PrefixAt profile parameterType bytes setId propertyType behind) :
    behind.length ≤ bytes.length := by
  obtain ⟨after, rfl, fields⟩ := prefixed
  rw [List.length_cons]
  split_ifs at fields
  · obtain ⟨v, read, -⟩ := fields
    have shorter := varint_shorter read
    omega
  · obtain ⟨rfl, -⟩ := fields
    omega

theorem takeByte_of (short : RangeFilterError) (byte : UInt8) (after : Bytes) :
    takeByte short (.of (byte :: after)) = .ok (byte, .of after) := rfl

theorem readFilter_ok {fuel : Nat} {rest : Cursor} (enough : bytes.length ≤ fuel) :
    readFilter profile parameterType fuel (.of bytes) = .ok (filter, rest) ↔
      rest = .of [] ∧ ∃ setId propertyType behind deltas,
        PrefixAt profile parameterType bytes setId propertyType behind ∧
        DeltasAt profile behind deltas [] ∧ deltas.sum < 2 ^ 64 ∧
        filter = ⟨parameterType, setId, propertyType, exactRanges 0 deltas⟩ := by
  unfold readFilter
  constructor
  · intro read
    obtain ⟨setId, middle, setRead, fields⟩ := bind_success read
    cases bytes with
    | nil => cases setRead
    | cons first after =>
      cases setRead
      obtain ⟨propertyType, _, typeRead, looped⟩ := bind_success fields
      obtain ⟨behind, rfl, prefixed⟩ := (@readPropertyType_ok profile parameterType propertyType setId _ _).mp
        typeRead
      have shorter := prefix_shorter prefixed
      obtain ⟨ranges, _, rangesRead, made⟩ := bind_success looped
      cases made
      obtain ⟨rfl, deltas, stand, rfl, sum⟩ := (decodeRanges_ok (by omega) (by omega)).mp rangesRead
      exact ⟨rfl, setId, propertyType, behind, deltas, prefixed, stand, by simpa using sum, rfl⟩
  · rintro ⟨rfl, setId, propertyType, behind, deltas, prefixed, stand, sum, rfl⟩
    have shorter := prefix_shorter prefixed
    obtain ⟨after, rfl, -⟩ := id prefixed
    have looped := (@decodeRanges_ok profile 0 behind fuel (exactRanges 0 deltas) (.of [])
      (by omega) (by omega)).mpr ⟨rfl, deltas, stand, rfl, by simpa using sum⟩
    rw [bind_apply, takeByte_of]
    dsimp only
    rw [bind_apply, readPropertyType_ok.mpr ⟨behind, rfl, prefixed⟩]
    dsimp only
    rw [bind_apply, looped]
    rfl

theorem readFilter_overflow {fuel before delta : Nat} (enough : bytes.length ≤ fuel) :
    readFilter profile parameterType fuel (.of bytes) = .error (.deltaOverflow before delta) ↔
      ∃ setId propertyType behind deltas left,
        PrefixAt profile parameterType bytes setId propertyType behind ∧
        DeltasAt profile behind (deltas ++ [delta]) left ∧ before = deltas.sum ∧
        before < 2 ^ 64 ∧ 2 ^ 64 ≤ before + delta := by
  unfold readFilter
  constructor
  · intro failed
    rcases bind_error failed with setFailed | ⟨setId, middle, setRead, fields⟩
    · cases bytes with
      | nil => cases setFailed
      | cons first after => cases setFailed
    · cases bytes with
      | nil => cases setRead
      | cons first after =>
        cases setRead
        rcases bind_error fields with typeFailed | ⟨propertyType, _, typeRead, looped⟩
        · unfold readPropertyType at typeFailed
          split_ifs at typeFailed
          · rw [map_eq_bind] at typeFailed
            rcases bind_error typeFailed with shortFailed | ⟨_, _, _, made⟩
            · cases shortOf_error shortFailed
            · cases made
          · cases typeFailed
        · obtain ⟨behind, rfl, prefixed⟩ := (@readPropertyType_ok profile parameterType propertyType setId
            _ _).mp typeRead
          have shorter := prefix_shorter prefixed
          rcases bind_error looped with rangesFailed | ⟨_, _, _, made⟩
          · obtain ⟨deltas, left, stand, total, sum, large⟩ :=
              (decodeRanges_overflow (by omega) (by omega)).mp rangesFailed
            exact ⟨setId, propertyType, behind, deltas, left, prefixed, stand, by omega, sum, large⟩
          · cases made
  · rintro ⟨setId, propertyType, behind, deltas, left, prefixed, stand, total, sum, large⟩
    have shorter := prefix_shorter prefixed
    obtain ⟨after, rfl, -⟩ := id prefixed
    have looped := (@decodeRanges_overflow profile 0 behind fuel before delta
      (by omega) (by omega)).mpr ⟨deltas, left, stand, by omega, sum, large⟩
    rw [bind_apply, takeByte_of]
    dsimp only
    rw [bind_apply, readPropertyType_ok.mpr ⟨behind, rfl, prefixed⟩]
    dsimp only
    rw [bind_apply, looped]

theorem checkItsOwnTypes_error {e : RangeFilterError} (refused : checkItsOwnTypes filter = .error e) :
    ∀ before delta, e ≠ .deltaOverflow before delta := by
  rintro before delta rfl
  unfold checkItsOwnTypes at refused
  have values : ∀ list : List Nat, checkAll (fun value => refuseIf (255 < value)
      (RangeFilterError.priorityAboveTheField value)) list ≠ .error (.deltaOverflow before delta) := by
    intro list
    induction list with
    | nil =>
      intro failed
      cases failed
    | cons value list ih =>
      unfold checkAll refuseIf
      split
      · intro failed
        cases failed
      · exact ih
  cases stated : filter.propertyType with
  | none =>
    rw [stated] at refused
    simp only [except_ok_bind] at refused
    split_ifs at refused
    exact values _ refused
  | some propertyType =>
    rw [stated] at refused
    simp only [refuseIf] at refused
    split at refused
    · cases refused
    · rw [except_ok_bind] at refused
      split_ifs at refused
      exact values _ refused

/-- A value that decodes is empty, or a prefix and a run of deltas. -/
theorem decodeMoqt_ok :
    decodeMoqt profile parameterType bytes = .ok filter ↔
      isRangeFilter parameterType = true ∧ checkItsOwnTypes filter = .ok () ∧
        (bytes = [] ∧ filter = ⟨parameterType, 0, none, []⟩ ∨
          ∃ setId propertyType behind deltas,
            PrefixAt profile parameterType bytes setId propertyType behind ∧
            DeltasAt profile behind deltas [] ∧ deltas.sum < 2 ^ 64 ∧
            filter = ⟨parameterType, setId, propertyType, exactRanges 0 deltas⟩) := by
  have structured : decodeMoqtStructure profile parameterType bytes = .ok filter ↔
      isRangeFilter parameterType = true ∧
        (bytes = [] ∧ filter = ⟨parameterType, 0, none, []⟩ ∨
          ∃ setId propertyType behind deltas,
            PrefixAt profile parameterType bytes setId propertyType behind ∧
            DeltasAt profile behind deltas [] ∧ deltas.sum < 2 ^ 64 ∧
            filter = ⟨parameterType, setId, propertyType, exactRanges 0 deltas⟩) := by
    unfold decodeMoqtStructure
    cases known : isRangeFilter parameterType with
    | false => simp
    | true =>
      rw [if_neg (by simp)]
      by_cases empty : bytes = []
      · subst empty
        simp only [if_true, true_and, Except.ok.injEq]
        constructor
        · exact fun same => .inl same.symm
        · rintro (same | ⟨setId, propertyType, behind, deltas, ⟨after, filled, -⟩, -⟩)
          · exact same.symm
          · cases filled
      · rw [if_neg empty]
        simp only [empty, false_and, false_or, true_and]
        constructor
        · intro read
          cases ran : readFilter profile parameterType bytes.length (.of bytes) with
          | error e =>
            rw [ran] at read
            cases read
          | ok found =>
            rw [ran] at read
            cases read
            exact (readFilter_ok le_rfl).mp ran |>.2
        · intro shape
          rw [(readFilter_ok le_rfl).mpr ⟨rfl, shape⟩]
          rfl
  unfold decodeMoqt
  constructor
  · intro decoded
    obtain ⟨found, structure', rest⟩ := except_bind_ok decoded
    obtain ⟨_, checked, made⟩ := except_bind_ok rest
    cases made
    obtain ⟨known, shape⟩ := structured.mp structure'
    exact ⟨known, checked, shape⟩
  · rintro ⟨known, checked, shape⟩
    rw [structured.mpr ⟨known, shape⟩, except_ok_bind, checked]
    rfl

theorem decodeMoqt_overflow {before delta : Nat} :
    decodeMoqt profile parameterType bytes = .error (.deltaOverflow before delta) ↔
      isRangeFilter parameterType = true ∧ ∃ setId propertyType behind deltas left,
        PrefixAt profile parameterType bytes setId propertyType behind ∧
        DeltasAt profile behind (deltas ++ [delta]) left ∧ before = deltas.sum ∧
        before < 2 ^ 64 ∧ 2 ^ 64 ≤ before + delta := by
  rw [← readFilter_overflow (le_refl bytes.length)]
  unfold decodeMoqt decodeMoqtStructure
  cases known : isRangeFilter parameterType with
  | false =>
    simp only [if_true, Bool.false_eq_true, false_and, iff_false]
    exact nofun
  | true =>
    rw [if_neg (by simp)]
    by_cases empty : bytes = []
    · subst empty
      rw [if_pos rfl, except_ok_bind]
      simp only [true_and]
      constructor
      · intro failed
        cases checked : checkItsOwnTypes ⟨parameterType, 0, none, []⟩ with
        | error e =>
          rw [checked] at failed
          cases failed
          exact absurd rfl (checkItsOwnTypes_error checked before delta)
        | ok _ =>
          rw [checked] at failed
          cases failed
      · intro failed
        cases failed
    · rw [if_neg empty]
      simp only [true_and]
      cases ran : readFilter profile parameterType bytes.length (.of bytes) with
      | error e =>
        constructor
        · intro failed
          cases failed
          rfl
        · intro failed
          cases failed
          rfl
      | ok found =>
        constructor
        · intro failed
          dsimp only [Except.map] at failed
          rw [except_ok_bind] at failed
          cases checked : checkItsOwnTypes found.1 with
          | error e =>
            rw [checked] at failed
            cases failed
            exact absurd rfl (checkItsOwnTypes_error checked before delta)
          | ok _ =>
            rw [checked] at failed
            cases failed
        · exact nofun

/-! ## Round trips -/

theorem encodeMoqt_ok :
    encodeMoqt profile filter = .ok bytes ↔
      isRangeFilter filter.parameterType = true ∧ checkPropertyType filter = .ok () ∧
        checkItsOwnTypes filter = .ok () ∧ ∃ deltas, filter.ranges = exactRanges 0 deltas ∧
          bytes = filter.setId :: (writePropertyType profile filter.propertyType ++
            writeDeltas profile deltas) := by
  unfold encodeMoqt
  simp only [except_bind_iff, encodeRanges_ok]
  constructor
  · rintro ⟨_, known, _, stated, _, checked, _, ⟨deltas, ranges, rfl⟩, made⟩
    cases made
    exact ⟨by simpa using known, stated, checked, deltas, ranges, rfl⟩
  · rintro ⟨known, stated, checked, deltas, ranges, rfl⟩
    exact ⟨(), by simpa using known, (), stated, (), checked, _, ⟨deltas, ranges, rfl⟩, rfl⟩

/-- The fields hold 64-bit values, as the record's own types have it. -/
def Typed (filter : RangeFilter) : Prop :=
  (∀ propertyType ∈ filter.propertyType, propertyType < 2 ^ 64) ∧
    ∀ range ∈ filter.ranges, ∀ value ∈ range.values, value < 2 ^ 64

theorem writePropertyType_at {behind : Bytes} (stated : checkPropertyType filter = .ok ())
    (typed : ∀ propertyType ∈ filter.propertyType, propertyType < 2 ^ 64) :
    PrefixAt profile filter.parameterType
      (filter.setId :: (writePropertyType profile filter.propertyType ++ behind)) filter.setId
      filter.propertyType behind := by
  refine ⟨_, rfl, ?_⟩
  unfold checkPropertyType at stated
  cases carries : carriesAPropertyType filter.parameterType with
  | false =>
    cases held : filter.propertyType with
    | none => exact ⟨rfl, rfl⟩
    | some propertyType =>
      rw [carries, held] at stated
      cases stated
  | true =>
    cases held : filter.propertyType with
    | none =>
      rw [carries, held] at stated
      cases stated
    | some propertyType =>
      have value := VarInt.val_ofU64 (typed propertyType held)
      refine ⟨VarInt.ofU64 propertyType, ?_, by rw [value]⟩
      exact VarInt.reads_encodeMoqt profile (VarInt.ofU64 propertyType) behind 0

theorem decode_encoded {written : Bytes} (typed : Typed filter)
    (wrote : encodeMoqt profile filter = .ok written) :
    decodeMoqt profile filter.parameterType written = .ok filter := by
  obtain ⟨known, stated, checked, deltas, ranges, rfl⟩ := encodeMoqt_ok.mp wrote
  have sum : 0 + deltas.sum < 2 ^ 64 := exact_small (by omega) (ranges ▸ typed.2)
  have each : ∀ delta ∈ deltas, delta < 2 ^ 64 := by
    intro delta member
    have le := List.single_le_sum (fun _ _ => Nat.zero_le _) delta member
    omega
  have stand := @deltasAt_written profile deltas [] each
  rw [List.append_nil] at stand
  refine decodeMoqt_ok.mpr ⟨known, checked, .inr ⟨filter.setId, filter.propertyType, _, deltas,
    writePropertyType_at stated typed.1, stand, by omega, ?_⟩⟩
  rw [← ranges]

theorem exact_typed (small : base + deltas.sum < 2 ^ 64) :
    ∀ range ∈ exactRanges base deltas, ∀ value ∈ range.values, value < 2 ^ 64 := by
  induction base, deltas using exactRanges.induct with
  | case1 base => exact fun range member => nomatch member
  | case2 base start =>
    intro range member value held
    rw [exactRanges, List.mem_singleton] at member
    subst member
    rw [FilterRange.values, Option.toList_none, List.mem_singleton] at held
    subst held
    simpa using small
  | case3 base start stop rest ih =>
    simp only [List.sum_cons] at small
    intro range member value held
    rw [exactRanges] at member
    rcases List.mem_cons.mp member with rfl | later
    · simp only [FilterRange.values, Option.toList_some, List.mem_cons, List.not_mem_nil, or_false] at held
      omega
    · exact ih (by omega) range later value held

/-- What decodes can be written again, and holds 64-bit values. -/
theorem decoded_encodes (filled : bytes ≠ []) (decoded : decodeMoqt profile parameterType bytes = .ok filter) :
    filter.parameterType = parameterType ∧ Typed filter ∧
      ∃ written, encodeMoqt profile filter = .ok written := by
  obtain ⟨known, checked, shape⟩ := decodeMoqt_ok.mp decoded
  rcases shape with ⟨empty, -⟩ | ⟨setId, propertyType, behind, deltas, prefixed, stand, sum, rfl⟩
  · exact absurd empty filled
  · obtain ⟨after, rfl, fields⟩ := prefixed
    have stated : checkPropertyType ⟨parameterType, setId, propertyType, exactRanges 0 deltas⟩ = .ok () ∧
        ∀ held ∈ propertyType, held < 2 ^ 64 := by
      unfold checkPropertyType
      split_ifs at fields with carries
      · obtain ⟨v, -, rfl⟩ := fields
        refine ⟨by rw [carries], ?_⟩
        rintro held ⟨⟩
        exact v.isLt
      · obtain ⟨-, rfl⟩ := fields
        rw [Bool.not_eq_true] at carries
        exact ⟨by rw [carries], nofun⟩
    exact ⟨rfl, ⟨stated.2, exact_typed (by omega)⟩, _, encodeMoqt_ok.mpr
      ⟨known, stated.1, checked, deltas, rfl, rfl⟩⟩

/-- **Range Filters round trip under every profile, and resolve as unbounded integers
would.** -/
theorem range_filters_exact (profile : MoqtProfile) :
    (∀ filter written, Typed filter → encodeMoqt profile filter = .ok written →
      decodeMoqt profile filter.parameterType written = .ok filter) ∧
    (∀ parameterType bytes filter, bytes ≠ [] → decodeMoqt profile parameterType bytes = .ok filter →
      ∃ written, encodeMoqt profile filter = .ok written ∧
        decodeMoqt profile parameterType written = .ok filter) ∧
    (∀ parameterType bytes filter, decodeMoqt profile parameterType bytes = .ok filter →
      Ascending 0 filter.ranges ∧ (bytes ≠ [] → ∃ behind deltas,
        PrefixAt profile parameterType bytes filter.setId filter.propertyType behind ∧
        DeltasAt profile behind deltas [] ∧ filter.ranges = exactRanges 0 deltas)) ∧
    ∀ parameterType bytes before delta,
      decodeMoqt profile parameterType bytes = .error (.deltaOverflow before delta) ↔
        isRangeFilter parameterType = true ∧ ∃ setId propertyType behind deltas left,
          PrefixAt profile parameterType bytes setId propertyType behind ∧
          DeltasAt profile behind (deltas ++ [delta]) left ∧ before = deltas.sum ∧
          before < 2 ^ 64 ∧ 2 ^ 64 ≤ before + delta := by
  refine ⟨fun filter written typed wrote => decode_encoded typed wrote, ?_, ?_,
    fun _ _ _ _ => decodeMoqt_overflow⟩
  · intro parameterType bytes filter filled decoded
    obtain ⟨rfl, typed, written, wrote⟩ := decoded_encodes filled decoded
    exact ⟨written, wrote, decode_encoded typed wrote⟩
  · intro parameterType bytes filter decoded
    obtain ⟨-, -, ⟨rfl, rfl⟩ | ⟨setId, propertyType, behind, deltas, prefixed, stand, sum, rfl⟩⟩ :=
      decodeMoqt_ok.mp decoded
    · exact ⟨trivial, fun filled => absurd rfl filled⟩
    · exact ⟨exact_ascending (by omega), fun _ => ⟨behind, deltas, prefixed, stand, rfl⟩⟩

/-! ## Draft-22's own profile -/

theorem decodeRanges_moqt18 (fuel previousEnd : Nat) :
    decodeRanges .moqt18 fuel previousEnd = RangeFilters.decodeRanges fuel previousEnd := by
  induction fuel generalizing previousEnd with
  | zero => rfl
  | succ fuel ih =>
    rw [decodeRanges, RangeFilters.decodeRanges]
    simp only [readValue, bind_assoc, ih]
    rfl

/-- The endpoint's decoder is this one under `Moqt18`. -/
theorem decodeMoqt_moqt18 : decodeMoqt .moqt18 = RangeFilters.decode := by
  funext parameterType bytes
  unfold decodeMoqt RangeFilters.decode decodeMoqtStructure RangeFilters.decodeStructure readFilter
  simp only [decodeRanges_moqt18, readPropertyType]
  cases carriesAPropertyType parameterType with
  | false => rfl
  | true => rfl

end Moqtap.RangeFilterCodec
