import Moqtap.Draft22Properties
import Moqtap.Draft22Subgroup

/-! Two readers of one wire shape: `decode_kvp_delta`, which reads the properties of a
control message, and the loop of `object_properties.rs`, which reads those of an object.
They accept the same runs and list the same pairs (`parseWith_iff`), and what the object
reader adds is one level of Immutable Properties (`parseObjectProperties_iff`). -/
namespace Moqtap.PropertyRuns
open ByteCursor Varint CodecTypes Draft22.Parameters Draft22.Properties
open Draft22.Subgroup hiding addDelta addDelta_ok

/-- `parse_with`. -/
def parseWith (rules : PropertyRules) (block : Bytes) : Except CodecError (List ObjectProperty) :=
  readRun rules block

/-- Draft-22's rules, some type or none holding Immutable Properties. -/
def draft22Rules (immutableType : Option Nat) : PropertyRules :=
  ⟨.moqt .moqt18, true, some 0xFFFF, immutableType⟩

theorem forDraft_draft22 : PropertyRules.forDraft .draft22 = some (draft22Rules (some 0x0B)) := rfl

/-- A pair as the object reader lists it. -/
def listed (pair : KeyValuePair) : ObjectProperty :=
  (pair.key.val,
    match pair.value with
    | .varint v => .varint v.val
    | .bytes b => .bytes b)

/-! ## One property -/

/-- A turn of the loop of `read_run`. -/
def readOne (rules : PropertyRules) (immutable : Nat → Nat → Bytes → Except CodecError PropertyValue)
    (base size prevType : Nat) (cursor : Bytes) : Except CodecError (ObjectProperty × Bytes) := do
  let offset := base + (size - cursor.length)
  let raw ← readPropertyVarint rules cursor offset
  let propertyType ← propertyTypeOf rules prevType raw.1
  if propertyType % 2 = 0 then
    let value ← readPropertyVarint rules raw.2 offset
    return ((propertyType, .varint value.1), value.2)
  else
    let split ← propertyBytes rules propertyType raw.2 offset
    let value ← (if rules.immutableType = some propertyType then
        immutable offset (base + (size - (split.1.length + split.2.length))) split.1
      else .ok (.bytes split.1))
    return ((propertyType, value), split.2)

/-- A turn of the loop of `decode_kvp_delta`. -/
def decodePair (prevKey : Nat) : Reader CodecError KeyValuePair := do
  let delta ← varint wire
  let absKey ← lift (addDelta prevKey delta.val)
  let value ← decodeKvpValue absKey
  return ⟨VarInt.ofU64 absKey, value⟩

/-- What the object reader makes of a pair's value. -/
def valueOf (immutableType : Option Nat) (immutable : Bytes → Except CodecError PropertyValue)
    (pair : KeyValuePair) : Except CodecError PropertyValue :=
  match pair.value with
  | .varint v => .ok (.varint v.val)
  | .bytes b => if immutableType = some pair.key.val then immutable b else .ok (.bytes b)

variable {immutableType : Option Nat} {immutable : Nat → Nat → Bytes → Except CodecError PropertyValue}
  {base size fuel prev : Nat} {cursor behind : Bytes}

theorem readPropertyVarint_ok {offset v : Nat} :
    readPropertyVarint (draft22Rules immutableType) cursor offset = .ok (v, behind) ↔
      ∃ w, varint wire (.of cursor) = .ok (w, .of behind) ∧ w.val = v := by
  unfold readPropertyVarint varint mapError
  dsimp only [draft22Rules]
  cases read : VarInt.decodeMoqt .moqt18 (.of cursor) with
  | error e => cases e <;> simp [Except.mapError]
  | ok found =>
    obtain ⟨w, rest⟩ := found
    have ran : varint .moqt18 (.of cursor) = .ok (w, rest) := by rw [varint, mapError, read]; rfl
    obtain ⟨left, rfl⟩ := Parses.plain canonical_varint ran
    have same : left = behind ↔ Cursor.of left = .of behind :=
      ⟨congrArg Cursor.of, congrArg Cursor.real⟩
    simp only [Except.mapError, Except.ok.injEq, Prod.mk.injEq, ← same]
    constructor
    · rintro ⟨value, left⟩
      exact ⟨w, ⟨rfl, left⟩, value⟩
    · rintro ⟨_, ⟨rfl, left⟩, value⟩
      exact ⟨value, left⟩

theorem readBytes_ok {count : Nat} {bytes : Bytes} :
    readBytes count (.of cursor) = .ok (bytes, .of behind) ↔
      count ≤ cursor.length ∧ bytes = cursor.take count ∧ behind = cursor.drop count := by
  rw [readBytes, takeBytes_of]
  split_ifs with short
  · simp [short]
  · simp only [Except.ok.injEq, Prod.mk.injEq, Cursor.of, Cursor.mk.injEq, and_true]
    constructor
    · rintro ⟨rfl, rfl⟩
      exact ⟨by omega, rfl, rfl⟩
    · rintro ⟨-, rfl, rfl⟩
      exact ⟨rfl, rfl⟩

/-- An odd type's bytes, in both readers. -/
theorem propertyBytes_ok {propertyType offset : Nat} {bytes : Bytes} :
    propertyBytes (draft22Rules immutableType) propertyType cursor offset = .ok (bytes, behind) ↔
      lengthPrefixed wire (fun len => refuseIf (len > maxKvpValueLen) (.kvp (.valueTooLong len)))
        (.of cursor) = .ok (bytes, .of behind) := by
  unfold propertyBytes lengthPrefixed
  constructor
  · intro read
    obtain ⟨⟨len, rest⟩, lenRead, read⟩ := except_bind_ok read
    obtain ⟨_, short, read⟩ := except_bind_ok read
    obtain ⟨_, enough, read⟩ := except_bind_ok read
    cases read
    obtain ⟨w, varintRead, rfl⟩ := readPropertyVarint_ok.mp lenRead
    rw [refuseIf_ok] at enough short
    have allowed : refuseIf (decide (w.val > maxKvpValueLen)) (CodecError.kvp (.valueTooLong w.val)) =
        .ok () := refuseIf_ok.mpr short
    rw [bind_apply, varintRead]
    dsimp only
    rw [bind_apply, lift, allowed]
    exact readBytes_ok.mpr ⟨by simpa using enough, rfl, rfl⟩
  · intro read
    obtain ⟨w, rest, varintRead, behindLength⟩ := bind_success read
    obtain ⟨_, _, checked, bytesRead⟩ := bind_success behindLength
    obtain ⟨allowed, rfl⟩ := lift_success checked
    obtain ⟨left, rfl⟩ := Parses.plain canonical_varint varintRead
    obtain ⟨enough, rfl, rfl⟩ := readBytes_ok.mp bytesRead
    rw [refuseIf_ok] at allowed
    have short : (draft22Rules immutableType).maxValueLen.any (fun max => decide (w.val > max)) = false := by
      simpa [draft22Rules, maxKvpValueLen] using allowed
    rw [readPropertyVarint_ok.mpr ⟨w, varintRead, rfl⟩, except_ok_bind]
    dsimp only
    rw [short, decide_eq_false (by omega)]
    rfl

theorem propertyTypeOf_ok {raw propertyType : Nat} :
    propertyTypeOf (draft22Rules immutableType) prev raw = .ok propertyType ↔
      addDelta prev raw = .ok propertyType := by
  unfold propertyTypeOf
  rw [draft22Rules, if_pos rfl, okOr_ok, checkedAdd_some, addDelta_ok]

theorem decodeKvpValue_ok {absKey : Nat} {value : KvpValue} :
    decodeKvpValue absKey (.of cursor) = .ok (value, .of behind) ↔
      if absKey % 2 = 0 then ∃ w, varint wire (.of cursor) = .ok (w, .of behind) ∧ value = .varint w
      else ∃ bytes, lengthPrefixed wire (fun len => refuseIf (len > maxKvpValueLen)
        (.kvp (.valueTooLong len))) (.of cursor) = .ok (bytes, .of behind) ∧ value = .bytes bytes := by
  unfold decodeKvpValue
  split_ifs with even
  · constructor
    · intro read
      obtain ⟨w, rest, varintRead, made⟩ := bind_success read
      cases made
      exact ⟨w, varintRead, rfl⟩
    · rintro ⟨w, varintRead, rfl⟩
      rw [bind_apply, varintRead]
      rfl
  · constructor
    · intro read
      obtain ⟨bytes, rest, bytesRead, made⟩ := bind_success read
      cases made
      exact ⟨bytes, bytesRead, rfl⟩
    · rintro ⟨bytes, bytesRead, rfl⟩
      rw [bind_apply, bytesRead]
      rfl

theorem decodePair_ok {pair : KeyValuePair} :
    decodePair prev (.of cursor) = .ok (pair, .of behind) ↔
      ∃ delta rest, varint wire (.of cursor) = .ok (delta, .of rest) ∧
        addDelta prev delta.val = .ok pair.key.val ∧
        decodeKvpValue pair.key.val (.of rest) = .ok (pair.value, .of behind) := by
  unfold decodePair
  constructor
  · intro read
    obtain ⟨delta, rest, deltaRead, resolve⟩ := bind_success read
    obtain ⟨left, rfl⟩ := Parses.plain canonical_varint deltaRead
    obtain ⟨absKey, _, lifted, valued⟩ := bind_success resolve
    obtain ⟨resolved, rfl⟩ := lift_success lifted
    obtain ⟨value, _, valueRead, made⟩ := bind_success valued
    cases made
    have same : (VarInt.ofU64 absKey).val = absKey := VarInt.val_ofU64 (addDelta_ok.mp resolved).2
    exact ⟨delta, left, deltaRead, by rwa [same], by rwa [same]⟩
  · rintro ⟨delta, rest, deltaRead, resolved, valueRead⟩
    rw [bind_apply, deltaRead]
    dsimp only
    rw [bind_apply, lift, resolved]
    dsimp only [Except.map]
    rw [bind_apply, valueRead, VarInt.ofU64_val]
    rfl

/-- A turn of the one loop is a turn of the other, and the value made of what it read. -/
theorem readOne_ok {property : ObjectProperty} :
    readOne (draft22Rules immutableType) immutable base size prev cursor = .ok (property, behind) ↔
      ∃ pair value, decodePair prev (.of cursor) = .ok (pair, .of behind) ∧
        valueOf immutableType (fun bytes => immutable (base + (size - cursor.length))
          (base + (size - (bytes.length + behind.length))) bytes) pair = .ok value ∧
        property = (pair.key.val, value) := by
  unfold readOne
  constructor
  · intro read
    obtain ⟨⟨raw, rest⟩, rawRead, read⟩ := except_bind_ok read
    obtain ⟨propertyType, resolved, read⟩ := except_bind_ok read
    obtain ⟨delta, deltaRead, rfl⟩ := readPropertyVarint_ok.mp rawRead
    rw [propertyTypeOf_ok] at resolved
    have same := VarInt.val_ofU64 (addDelta_ok.mp resolved).2
    dsimp only at read
    have paired (value : KvpValue) (valueRead : decodeKvpValue propertyType (.of rest) = .ok (value, .of behind)) :
        decodePair prev (.of cursor) = .ok (⟨VarInt.ofU64 propertyType, value⟩, .of behind) :=
      decodePair_ok.mpr ⟨delta, rest, deltaRead, by rwa [same], by rwa [same]⟩
    by_cases even : propertyType % 2 = 0
    · rw [if_pos even] at read
      obtain ⟨⟨v, left⟩, valueRead, made⟩ := except_bind_ok read
      cases made
      obtain ⟨w, varintRead, rfl⟩ := readPropertyVarint_ok.mp valueRead
      refine ⟨_, _, paired (.varint w) ?_, rfl, by rw [same]⟩
      rw [decodeKvpValue_ok, if_pos even]
      exact ⟨w, varintRead, rfl⟩
    · rw [if_neg even] at read
      obtain ⟨⟨bytes, left⟩, bytesRead, valued⟩ := except_bind_ok read
      obtain ⟨value, valueMade, made⟩ := except_bind_ok valued
      cases made
      refine ⟨_, value, paired (.bytes bytes) ?_, ?_, by rw [same]⟩
      · rw [decodeKvpValue_ok, if_neg even]
        exact ⟨bytes, propertyBytes_ok.mp bytesRead, rfl⟩
      · simp only [valueOf, same]
        exact valueMade
  · rintro ⟨pair, value, read, valued, rfl⟩
    obtain ⟨delta, rest, deltaRead, resolved, valueRead⟩ := decodePair_ok.mp read
    dsimp only
    rw [readPropertyVarint_ok.mpr ⟨delta, deltaRead, rfl⟩, except_ok_bind]
    dsimp only
    rw [propertyTypeOf_ok.mpr resolved, except_ok_bind]
    rw [decodeKvpValue_ok] at valueRead
    obtain ⟨key, held⟩ := pair
    dsimp only at valueRead ⊢
    by_cases even : key.val % 2 = 0
    · rw [if_pos even] at valueRead ⊢
      obtain ⟨w, varintRead, rfl⟩ := valueRead
      rw [readPropertyVarint_ok.mpr ⟨w, varintRead, rfl⟩]
      cases valued
      rfl
    · rw [if_neg even] at valueRead ⊢
      obtain ⟨bytes, bytesRead, rfl⟩ := valueRead
      rw [propertyBytes_ok.mpr bytesRead, except_ok_bind]
      exact except_bind_iff.mpr ⟨value, valued, rfl⟩

/-! ## The whole run -/

theorem readRunFrom_cons {byte : UInt8} (rules : PropertyRules) :
    readRunFrom rules immutable base size (fuel + 1) prev (byte :: cursor) = do
      let one ← readOne rules immutable base size prev (byte :: cursor)
      let rest ← readRunFrom rules immutable base size fuel one.1.1 one.2
      return one.1 :: rest := by
  have filled : byte :: cursor = [] → False := List.cons_ne_nil _ _
  rw [readRunFrom.eq_3 _ _ _ _ _ _ _ filled, readOne]
  simp only [bind_assoc]
  refine bind_congr fun raw => bind_congr fun propertyType => ?_
  split_ifs with even
  · simp only [bind_assoc, pure_bind]
  · simp only [bind_assoc, pure_bind]
  · simp only [bind_assoc, pure_bind]

theorem decodeKvpPairs_cons {byte : UInt8} {pairs : List KeyValuePair} {rest : Cursor} :
    decodeKvpPairs (fuel + 1) prev (.of (byte :: cursor)) = .ok (pairs, rest) ↔
      ∃ pair behind others, decodePair prev (.of (byte :: cursor)) = .ok (pair, .of behind) ∧
        decodeKvpPairs fuel pair.key.val (.of behind) = .ok (others, rest) ∧ pairs = pair :: others := by
  have more : (Cursor.of (byte :: cursor)).remaining ≠ 0 := by simp [Cursor.remaining, Cursor.of]
  rw [decodeKvpPairs, bind_apply, remaining]
  dsimp only
  rw [if_neg more]
  constructor
  · intro read
    obtain ⟨delta, middle, deltaRead, resolve⟩ := bind_success read
    obtain ⟨left, rfl⟩ := Parses.plain canonical_varint deltaRead
    obtain ⟨absKey, _, lifted, valued⟩ := bind_success resolve
    obtain ⟨resolved, rfl⟩ := lift_success lifted
    obtain ⟨value, middle, valueRead, looped⟩ := bind_success valued
    obtain ⟨others, _, othersRead, made⟩ := bind_success looped
    cases made
    have same : (VarInt.ofU64 absKey).val = absKey := VarInt.val_ofU64 (addDelta_ok.mp resolved).2
    obtain ⟨behind, rfl⟩ := Parses.plain (parses_decodeKvpValue (VarInt.ofU64 absKey)) (by rwa [same])
    exact ⟨_, behind, others, decodePair_ok.mpr ⟨delta, left, deltaRead, by rwa [same], by rwa [same]⟩,
      by rwa [same], rfl⟩
  · rintro ⟨pair, behind, others, read, othersRead, rfl⟩
    obtain ⟨delta, left, deltaRead, resolved, valueRead⟩ := decodePair_ok.mp read
    rw [bind_apply, deltaRead]
    dsimp only
    rw [bind_apply, lift, resolved]
    dsimp only [Except.map]
    rw [bind_apply, valueRead]
    dsimp only
    rw [bind_apply, othersRead, VarInt.ofU64_val]
    rfl

/-- The same pair, its value made of what was read there. -/
def Made (immutableType : Option Nat) (immutable : Nat → Nat → Bytes → Except CodecError PropertyValue)
    (pair : KeyValuePair) (property : ObjectProperty) : Prop :=
  ∃ (offset : Nat) (base : Bytes → Nat) (value : PropertyValue),
    valueOf immutableType (fun bytes => immutable offset (base bytes) bytes) pair = .ok value ∧ property = (pair.key.val, value)

theorem made_of_mem {pairs : List KeyValuePair} {properties : List ObjectProperty}
    (made : List.Forall₂ (Made immutableType immutable) pairs properties) :
    ∀ pair ∈ pairs, ∃ (offset : Nat) (base : Bytes → Nat) (value : PropertyValue),
      valueOf immutableType (fun bytes => immutable offset (base bytes) bytes) pair = .ok value := by
  induction made with
  | nil => exact fun pair member => nomatch member
  | cons one _ ih =>
    obtain ⟨offset, base, value, valued, -⟩ := one
    intro pair member
    rcases List.mem_cons.mp member with rfl | later
    · exact ⟨offset, base, value, valued⟩
    · exact ih pair later

theorem readRunFrom_made {properties : List ObjectProperty}
    (read : readRunFrom (draft22Rules immutableType) immutable base size fuel prev cursor = .ok properties) :
    ∃ pairs rest, decodeKvpPairs fuel prev (.of cursor) = .ok (pairs, rest) ∧
      List.Forall₂ (Made immutableType immutable) pairs properties := by
  induction fuel generalizing prev cursor properties with
  | zero =>
    cases read
    exact ⟨[], _, rfl, .nil⟩
  | succ fuel ih =>
    cases cursor with
    | nil =>
      cases read
      exact ⟨[], _, rfl, .nil⟩
    | cons byte cursor =>
      rw [readRunFrom_cons] at read
      obtain ⟨⟨property, behind⟩, one, looped⟩ := except_bind_ok read
      obtain ⟨others, othersRead, made⟩ := except_bind_ok looped
      cases made
      obtain ⟨pair, value, pairRead, valued, rfl⟩ := readOne_ok.mp one
      obtain ⟨pairs, rest, pairsRead, held⟩ := ih othersRead
      exact ⟨pair :: pairs, rest, decodeKvpPairs_cons.mpr ⟨pair, behind, pairs, pairRead, pairsRead, rfl⟩,
        .cons ⟨_, _, value, valued, rfl⟩ held⟩

theorem decodeKvpPairs_made {pairs : List KeyValuePair} {rest : Cursor}
    (read : decodeKvpPairs fuel prev (.of cursor) = .ok (pairs, rest))
    (makes : ∀ pair ∈ pairs, ∀ (offset : Nat) (base : Bytes → Nat), ∃ value,
      valueOf immutableType (fun bytes => immutable offset (base bytes) bytes) pair = .ok value) :
    ∃ properties, readRunFrom (draft22Rules immutableType) immutable base size fuel prev cursor =
      .ok properties := by
  induction fuel generalizing prev cursor pairs with
  | zero => exact ⟨[], rfl⟩
  | succ fuel ih =>
    cases cursor with
    | nil => exact ⟨[], rfl⟩
    | cons byte cursor =>
      obtain ⟨pair, behind, others, pairRead, othersRead, rfl⟩ := decodeKvpPairs_cons.mp read
      obtain ⟨value, valued⟩ := makes pair (List.mem_cons_self ..) (base + (size - (byte :: cursor).length))
        fun bytes => base + (size - (bytes.length + behind.length))
      obtain ⟨properties, propertiesRead⟩ := ih othersRead fun pair member =>
        makes pair (List.mem_cons_of_mem _ member)
      refine ⟨(pair.key.val, value) :: properties, ?_⟩
      rw [readRunFrom_cons, readOne_ok.mpr ⟨pair, value, pairRead, valued, rfl⟩, except_ok_bind]
      dsimp only
      rw [propertiesRead]
      rfl

/-- With no type holding others, a run is listed as it stands. -/
theorem plain_listed {pairs : List KeyValuePair} {properties : List ObjectProperty}
    (made : List.Forall₂ (Made none immutable) pairs properties) : properties = pairs.map listed := by
  induction made with
  | nil => rfl
  | cons one _ same =>
    obtain ⟨offset, base, value, valued, rfl⟩ := one
    rw [List.map_cons, same]
    congr 1
    unfold valueOf at valued
    unfold listed
    split at valued
    · cases valued
      rfl
    · cases valued
      rfl

theorem plain_makes (pair : KeyValuePair) (offset : Nat) (base : Bytes → Nat) :
    ∃ value, valueOf none (fun bytes => immutable offset (base bytes) bytes) pair = .ok value := by
  unfold valueOf
  split
  · exact ⟨_, rfl⟩
  · exact ⟨_, rfl⟩

theorem plainRun_iff {block : Bytes} {properties : List ObjectProperty} :
    readRunFrom (draft22Rules none) immutable base block.length block.length 0 block = .ok properties ↔
      ∃ pairs rest, decodeKvpDelta (.of block) = .ok (pairs, rest) ∧ properties = pairs.map listed := by
  have fuelled : decodeKvpDelta (.of block) = decodeKvpPairs block.length 0 (.of block) := rfl
  rw [fuelled]
  constructor
  · intro read
    obtain ⟨pairs, rest, pairsRead, made⟩ := readRunFrom_made read
    exact ⟨pairs, rest, pairsRead, plain_listed made⟩
  · rintro ⟨pairs, rest, pairsRead, rfl⟩
    obtain ⟨properties, read⟩ := @decodeKvpPairs_made none immutable base block.length _ _ _ _ _
      pairsRead fun pair _ => plain_makes pair
    obtain ⟨pairs', rest', pairsRead', made⟩ := readRunFrom_made read
    obtain ⟨rfl, -⟩ := Prod.mk.inj (Except.ok.inj (pairsRead.symm.trans pairsRead'))
    rw [read, plain_listed made]

/-- **Both readers accept the same runs and list the same pairs**, no type holding others. -/
theorem parseWith_iff (block : Bytes) (properties : List ObjectProperty) :
    parseWith (draft22Rules none) block = .ok properties ↔
      ∃ pairs rest, decodeKvpDelta (.of block) = .ok (pairs, rest) ∧ properties = pairs.map listed :=
  plainRun_iff

/-! ## Immutable Properties -/

/-- What stands inside an Immutable Properties block: a run with no such block in it. -/
def InnerRun (bytes : Bytes) : Prop :=
  ∃ inner rest, decodeKvpDelta (.of bytes) = .ok (inner, rest) ∧ ∀ pair ∈ inner, pair.key.val ≠ 0x0B

/-- A type-0x0B pair holds bytes, and the object reader hands them on. -/
theorem valueOf_immutable {inside : Bytes → Except CodecError PropertyValue} {pair : KeyValuePair}
    (fits : FitsParity pair) (isImmutable : pair.key.val = 0x0B) :
    ∃ bytes, pair.value = .bytes bytes ∧ valueOf (some 0x0B) inside pair = inside bytes := by
  obtain ⟨key, value⟩ := pair
  dsimp only at isImmutable
  cases value with
  | varint v =>
    simp only [FitsParity, isInteger, decide_eq_true_eq] at fits
    omega
  | bytes bytes => exact ⟨bytes, rfl, if_pos (congrArg some isImmutable.symm)⟩

theorem valueOf_other {inside : Bytes → Except CodecError PropertyValue} {pair : KeyValuePair}
    (other : pair.key.val ≠ 0x0B) : ∃ value, valueOf (some 0x0B) inside pair = .ok value := by
  unfold valueOf
  split
  · exact ⟨_, rfl⟩
  · rw [if_neg fun same => other (Option.some.inj same).symm]
    exact ⟨_, rfl⟩

theorem pairs_fit {block : Bytes} {pairs : List KeyValuePair} {rest : Cursor}
    (read : decodeKvpDelta (.of block) = .ok (pairs, rest)) : ∀ pair ∈ pairs, FitsParity pair := by
  obtain ⟨_, -, -, kept, -⟩ := parses_decodeKvpDelta _ _ _ read
  exact fun pair member => (kept pair member).1

/-- A run is accepted under draft-22's own rules exactly when every block handed on is. -/
theorem accepts_iff {accepts : Bytes → Prop}
    (answers : ∀ offset base bytes, (∃ value, immutable offset base bytes = .ok value) ↔ accepts bytes)
    (block : Bytes) :
    (∃ properties, readRunFrom (draft22Rules (some 0x0B)) immutable base block.length block.length 0
      block = .ok properties) ↔
      ∃ pairs rest, decodeKvpDelta (.of block) = .ok (pairs, rest) ∧
        ∀ pair ∈ pairs, pair.key.val = 0x0B → ∃ bytes, pair.value = .bytes bytes ∧ accepts bytes := by
  have fuelled : decodeKvpDelta (.of block) = decodeKvpPairs block.length 0 (.of block) := rfl
  constructor
  · rintro ⟨properties, read⟩
    obtain ⟨pairs, rest, pairsRead, made⟩ := readRunFrom_made read
    refine ⟨pairs, rest, pairsRead, fun pair member isImmutable => ?_⟩
    obtain ⟨offset, base', value, valued⟩ := made_of_mem made pair member
    obtain ⟨bytes, held, handed⟩ := valueOf_immutable (pairs_fit pairsRead pair member) isImmutable
    exact ⟨bytes, held, (answers _ _ _).mp ⟨value, handed.symm.trans valued⟩⟩
  · rintro ⟨pairs, rest, pairsRead, inner⟩
    refine decodeKvpPairs_made pairsRead fun pair member offset base' => ?_
    by_cases isImmutable : pair.key.val = 0x0B
    · obtain ⟨bytes, held, accepted⟩ := inner pair member isImmutable
      obtain ⟨bytes', held', handed⟩ := valueOf_immutable (pairs_fit pairsRead pair member) isImmutable
      cases held.symm.trans held'
      obtain ⟨value, answered⟩ := (answers offset (base' bytes) bytes).mpr accepted
      exact ⟨value, handed.trans answered⟩
    · exact valueOf_other isImmutable

theorem readNested_iff (bytes : Bytes) :
    (∃ properties, readNested (draft22Rules (some 0x0B)) base bytes = .ok properties) ↔ InnerRun bytes := by
  have refuses : ∀ (offset base : Nat) (bytes : Bytes), (∃ value : PropertyValue,
      (Except.error (.malformedObjectProperties offset
        "Immutable Properties inside Immutable Properties") : Except CodecError PropertyValue) = .ok value) ↔
      False := by
    intro offset base bytes
    exact ⟨nofun, False.elim⟩
  unfold readNested
  rw [accepts_iff refuses bytes]
  unfold InnerRun
  simp only [and_false, exists_false, imp_false]

/-- **The object reader accepts the runs `decode_kvp_delta` accepts whose Immutable
Properties hold runs of their own**, none of them nested again. -/
theorem parseObjectProperties_iff (block : Bytes) :
    (∃ properties, parseObjectProperties .draft22 block = .ok properties) ↔
      ∃ pairs rest, decodeKvpDelta (.of block) = .ok (pairs, rest) ∧
        ∀ pair ∈ pairs, pair.key.val = 0x0B → ∃ bytes, pair.value = .bytes bytes ∧ InnerRun bytes := by
  have answers : ∀ (offset base : Nat) (bytes : Bytes), (∃ value,
      (do let properties ← readNested (draft22Rules (some 0x0B)) base bytes
          return .immutable bytes properties : Except CodecError PropertyValue) = .ok value) ↔
      InnerRun bytes := by
    intro offset base bytes
    rw [← @readNested_iff base]
    constructor
    · rintro ⟨value, read⟩
      obtain ⟨properties, inner, -⟩ := except_bind_ok read
      exact ⟨properties, inner⟩
    · rintro ⟨properties, inner⟩
      exact ⟨.immutable bytes properties, by rw [inner]; rfl⟩
  unfold parseObjectProperties
  rw [forDraft_draft22]
  exact accepts_iff answers block

/-- **The two readers of a property run agree.** -/
theorem property_readers_agree (block : Bytes) :
    (∀ properties, parseWith { draft22Rules (some 0x0B) with immutableType := none } block = .ok properties ↔
      ∃ pairs rest, decodeKvpDelta (.of block) = .ok (pairs, rest) ∧ properties = pairs.map listed) ∧
    ((∃ properties, parseObjectProperties .draft22 block = .ok properties) ↔
      ∃ pairs rest, decodeKvpDelta (.of block) = .ok (pairs, rest) ∧
        ∀ pair ∈ pairs, pair.key.val = 0x0B → ∃ bytes, pair.value = .bytes bytes ∧ InnerRun bytes) :=
  ⟨parseWith_iff block, parseObjectProperties_iff block⟩

end Moqtap.PropertyRuns
