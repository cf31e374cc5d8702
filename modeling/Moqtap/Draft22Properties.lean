import Moqtap.Draft22Parameters

/-! Draft-22 Setup Options and Track Properties (`draft22/message.rs`): runs of
delta-typed Key-Value-Pairs that fill the rest of a message, an even type
carrying an integer and an odd one bytes. The run is read back exactly as
written when every value is held the way its type's parity says, and whatever
is read is written again in no more bytes. -/
namespace Moqtap.Draft22.Properties
open ByteCursor Varint CodecTypes Parameters

/-! ## Key-Value-Pair runs -/

def decodeKvpValue (absKey : Nat) : Reader CodecError KvpValue :=
  if absKey % 2 = 0 then do
    let v ← varint wire
    return .varint v
  else do
    let data ← lengthPrefixed wire fun len =>
      refuseIf (len > maxKvpValueLen) (.kvp (.valueTooLong len))
    return .bytes data

/-- The `while buf.has_remaining()` loop, `fuel` bounding how many pairs are left. -/
def decodeKvpPairs : Nat → Nat → Reader CodecError (List KeyValuePair)
  | 0, _ => pure []
  | fuel + 1, prevKey => do
    let left ← remaining
    if left = 0 then return []
    else
      let delta ← varint wire
      let absKey ← lift (addDelta prevKey delta.val)
      let value ← decodeKvpValue absKey
      let rest ← decodeKvpPairs fuel absKey
      return ⟨VarInt.ofU64 absKey, value⟩ :: rest

/-- A pair takes two bytes at least, so as many rounds as bytes are enough. -/
def decodeKvpDelta : Reader CodecError (List KeyValuePair) := do
  let left ← remaining
  decodeKvpPairs left 0

def encodeKvpValue (value : KvpValue) : Bytes :=
  match value with
  | .varint v => v.encodeMoqt wire
  | .bytes b => putLengthPrefixed wire b

def encodeKvpPairs : List KeyValuePair → Nat → Except CodecError Bytes
  | [], _ => .ok []
  | p :: rest, prevKey => do
    let delta ← deltaFrom prevKey p.key.val
    checkValueLength p.value
    let tail ← encodeKvpPairs rest p.key.val
    return (VarInt.ofU64 delta).encodeMoqt wire ++ (encodeKvpValue p.value ++ tail)

def encodeKvpDelta (pairs : List KeyValuePair) : Except CodecError Bytes := encodeKvpPairs pairs 0

/-! ## Track Properties -/

def immutableProperties : Nat := 0x0B

def trackPropertyValueInRange (key value : Nat) : Bool :=
  match key with
  | 0x22 => value == 1 || value == 2
  | 0x30 => decide (value ≤ 1)
  | _ => true

/-- One property of `check_track_property_values`, `nested` answering for the
properties inside an Immutable Properties block. -/
def checkTrackPropertyValue (nested : List KeyValuePair → Except CodecError Unit)
    (property : KeyValuePair) : Except CodecError Unit :=
  match property.value with
  | .varint value =>
    refuseIf (!trackPropertyValueInRange property.key.val value.val)
      (.trackPropertyValueOutOfRange property.key.val value.val)
  | .bytes bytes =>
    if property.key.val = immutableProperties then
      -- A block that is no run of pairs is carried, and only that block.
      match decodeKvpDelta (.of bytes) with
      | .ok (inner, _) => nested inner
      | .error _ => .ok ()
    else .ok ()

/-- `check_track_property_values`, `depth` blocks deep. -/
def checkTrackPropertiesTo : Nat → List KeyValuePair → Except CodecError Unit
  | 0, _ => .ok ()
  | depth + 1, properties => checkAll (checkTrackPropertyValue (checkTrackPropertiesTo depth)) properties

def valueLength : KvpValue → Nat
  | .varint _ => 0
  | .bytes b => b.length

/-- A block is longer than any block inside it, so this depth reaches them all:
`checkTrackPropertyValues_eq` is the source's recursion. -/
def checkTrackPropertyValues (properties : List KeyValuePair) : Except CodecError Unit :=
  checkTrackPropertiesTo ((properties.map fun p => valueLength p.value).sum + 1) properties

def decodeTrackProperties : Reader CodecError (List KeyValuePair) := do
  let properties ← decodeKvpDelta
  lift (checkTrackPropertyValues properties)
  return properties

def encodeTrackProperties (properties : List KeyValuePair) : Except CodecError Bytes := do
  checkTrackPropertyValues properties
  encodeKvpDelta properties

/-! ## Setup Options -/

def knownSetupOptions : List Nat := [0x01, 0x03, 0x04, 0x05, 0x06, 0x07, 0x08]
def repeatableSetupOption : Nat := 0x03

/-- The repeat loop of both directions: an option is compared with the `earlier`
ones unless its type is `exempt`. -/
def checkRepeats (exempt : Nat → Bool) (earlier : List KeyValuePair) :
    List KeyValuePair → Except CodecError Unit
  | [] => .ok ()
  | option :: rest => do
    refuseIf (!exempt option.key.val && earlier.any fun e => e.key == option.key)
      (.duplicateParameter option.key.val)
    checkRepeats exempt (earlier ++ [option]) rest

/-- A receiver refuses a repeat only of a type it can name. -/
def decodeSetupOptions : Reader CodecError (List KeyValuePair) := do
  let options ← decodeKvpDelta
  lift (checkRepeats (fun key => key == repeatableSetupOption || !knownSetupOptions.contains key) []
    options)
  lift (checkAuthorizationTokens options)
  return options

/-- A sender repeats nothing but the token. -/
def encodeSetupOptions (options : List KeyValuePair) : Except CodecError Bytes := do
  checkAuthorizationTokens options
  checkRepeats (fun key => key == repeatableSetupOption) [] options
  encodeKvpDelta options

/-! ## Runs round trip -/

/-- An even type is held as an integer, an odd one as bytes. -/
def FitsParity (p : KeyValuePair) : Prop := decide (p.key.val % 2 = 0) = isInteger p.value

instance (p : KeyValuePair) : Decidable (FitsParity p) := by
  unfold FitsParity; infer_instance

theorem reads_decodeKvpValue {p : KeyValuePair} (fits : FitsParity p)
    (short : checkValueLength p.value = .ok ()) :
    Reads (decodeKvpValue p.key.val) (encodeKvpValue p.value) p.value := by
  obtain ⟨key, value⟩ := p
  cases value with
  | varint v =>
    simp only [FitsParity, isInteger, decide_eq_true_eq] at fits
    simp only [decodeKvpValue, fits, ↓reduceIte]
    exact (reads_varint v).wrap KvpValue.varint
  | bytes b =>
    simp only [FitsParity, isInteger, decide_eq_false_iff_not] at fits
    simp only [decodeKvpValue, fits, ↓reduceIte]
    have small := short
    simp only [checkValueLength, refuseIf_ok, maxKvpValueLen, decide_eq_false_iff_not, gt_iff_lt,
      Nat.not_lt] at small
    exact (reads_lengthPrefixed (by omega) short).wrap KvpValue.bytes

theorem parses_decodeKvpValue (key : VarInt) :
    Parses (decodeKvpValue key.val) fun value used =>
      FitsParity ⟨key, value⟩ ∧ checkValueLength value = .ok () ∧
        (encodeKvpValue value).length ≤ used.length ∧ valueLength value ≤ used.length := by
  unfold decodeKvpValue
  split
  · rename_i even
    refine canonical_varint.seq ?_
    rintro v front ⟨_, _, le⟩
    refine Parses.ret ?_
    rw [List.append_nil]
    exact ⟨by simp [FitsParity, even, isInteger], rfl, le, Nat.zero_le _⟩
  · rename_i odd
    refine parses_lengthPrefixed.seq ?_
    rintro b front ⟨short, _, le⟩
    refine Parses.ret ?_
    rw [List.append_nil]
    refine ⟨by simp [FitsParity, odd, isInteger], short, le, ?_⟩
    simp only [putLengthPrefixed, List.length_append] at le
    simp only [valueLength]
    omega

theorem encodeKvpPairs_length {pairs : List KeyValuePair} {prevKey : Nat} {bytes : Bytes}
    (wrote : encodeKvpPairs pairs prevKey = .ok bytes) : pairs.length ≤ bytes.length := by
  induction pairs generalizing prevKey bytes with
  | nil => exact Nat.zero_le _
  | cons p rest ih =>
    obtain ⟨delta, _, wrote⟩ := except_bind_ok wrote
    obtain ⟨_, _, wrote⟩ := except_bind_ok wrote
    obtain ⟨tail, wroteTail, wrote⟩ := except_bind_ok wrote
    cases wrote
    have some := VarInt.encodeMoqt_length_pos wire (VarInt.ofU64 delta)
    have others := ih wroteTail
    simp only [List.length_cons, List.length_append]
    omega

theorem readsAll_decodeKvpPairs {pairs : List KeyValuePair} {fuel prevKey : Nat} {bytes : Bytes}
    (fits : ∀ p ∈ pairs, FitsParity p) (enough : pairs.length ≤ fuel)
    (wrote : encodeKvpPairs pairs prevKey = .ok bytes) :
    ReadsAll (decodeKvpPairs fuel prevKey) bytes pairs := by
  induction pairs generalizing fuel prevKey bytes with
  | nil =>
    cases wrote
    cases fuel <;> rfl
  | cons p rest ih =>
    obtain ⟨delta, isDelta, wrote⟩ := except_bind_ok wrote
    obtain ⟨_, short, wrote⟩ := except_bind_ok wrote
    obtain ⟨tail, wroteTail, wrote⟩ := except_bind_ok wrote
    cases wrote
    obtain ⟨ascends, rfl⟩ := deltaFrom_ok.mp isDelta
    obtain ⟨fuel, rfl⟩ : ∃ less, fuel = less + 1 := ⟨fuel - 1, by simp at enough; omega⟩
    have bound := p.key.isLt
    have carried : (VarInt.ofU64 (p.key.val - prevKey)).val = p.key.val - prevKey :=
      VarInt.val_ofU64 (by omega)
    have some := VarInt.encodeMoqt_length_pos wire (VarInt.ofU64 (p.key.val - prevKey))
    refine ReadsAll.remaining ?_
    have left : ¬ (VarInt.encodeMoqt wire (VarInt.ofU64 (p.key.val - prevKey)) ++
        (encodeKvpValue p.value ++ tail)).length = 0 := by
      simp only [List.length_append]; omega
    rw [if_neg left]
    refine (reads_varint _).bind_all ?_
    rw [carried]
    refine Reads.check_all (a := p.key.val) (addDelta_ok.mpr ⟨by omega, bound⟩) ?_
    refine (reads_decodeKvpValue (fits p List.mem_cons_self) short).bind_all ?_
    have others := ih (fun q member => fits q (List.mem_cons_of_mem _ member))
      (by simpa using enough) wroteTail
    rw [VarInt.ofU64_val]
    exact others.wrap_all _

/-- A run whose values are held by parity reads back exactly. -/
theorem readsAll_decodeKvpDelta {pairs : List KeyValuePair} {bytes : Bytes}
    (fits : ∀ p ∈ pairs, FitsParity p) (wrote : encodeKvpDelta pairs = .ok bytes) :
    ReadsAll decodeKvpDelta bytes pairs :=
  ReadsAll.remaining (readsAll_decodeKvpPairs fits (encodeKvpPairs_length wrote) wrote)

/-- What is read keeps to parity, is written again in no more bytes, and every
value in it is shorter than the run. -/
theorem parses_decodeKvpPairs (fuel prevKey : Nat) :
    Parses (decodeKvpPairs fuel prevKey) fun pairs used =>
      (∀ p ∈ pairs, FitsParity p ∧ valueLength p.value < used.length) ∧
        ∃ bytes, encodeKvpPairs pairs prevKey = .ok bytes ∧ bytes.length ≤ used.length := by
  induction fuel generalizing prevKey with
  | zero => exact Parses.ret ⟨by simp, [], rfl, le_rfl⟩
  | succ fuel ih =>
    refine Parses.remaining fun left => ?_
    split
    · exact Parses.ret ⟨by simp, [], rfl, le_rfl⟩
    refine canonical_varint.seq fun delta front ⟨_, _, leDelta⟩ => Parses.check fun absKey added => ?_
    obtain ⟨sum, bound⟩ := addDelta_ok.mp added
    have carried : (VarInt.ofU64 absKey).val = absKey := VarInt.val_ofU64 bound
    rw [← carried]
    refine (parses_decodeKvpValue (VarInt.ofU64 absKey)).seq
      fun value middle ⟨fits, short, le, leValue⟩ => ?_
    refine (ih (VarInt.ofU64 absKey).val).seq
      fun rest back ⟨kept, tail, wroteTail, leTail⟩ => Parses.ret ?_
    rw [VarInt.ofU64_val]
    have some := VarInt.encodeMoqt_length_pos wire delta
    have isDelta : deltaFrom prevKey (VarInt.ofU64 absKey).val = .ok delta.val :=
      deltaFrom_ok.mpr (by omega)
    simp only [List.length_append, List.length_nil, Nat.add_zero]
    refine ⟨List.forall_mem_cons.mpr ⟨⟨fits, by dsimp only; omega⟩, fun p member => ?_⟩,
      delta.encodeMoqt wire ++ (encodeKvpValue value ++ tail), ?_, ?_⟩
    · exact ⟨(kept p member).1, by have := (kept p member).2; omega⟩
    · simp only [encodeKvpPairs, isDelta, short, wroteTail, bind, Except.bind, pure, Except.pure,
        VarInt.ofU64_val]
    · simp only [List.length_append]
      omega

theorem parses_decodeKvpDelta :
    Parses decodeKvpDelta fun pairs used =>
      (∀ p ∈ pairs, FitsParity p ∧ valueLength p.value < used.length) ∧
        ∃ bytes, encodeKvpDelta pairs = .ok bytes ∧ bytes.length ≤ used.length :=
  Parses.remaining fun left => parses_decodeKvpPairs left 0

/-! ## Track Properties round trip -/

/-- What a block holds is shorter than the block. -/
theorem block_shorter {bytes : Bytes} {inner : List KeyValuePair} {rest : Cursor}
    (decoded : decodeKvpDelta (.of bytes) = .ok (inner, rest)) :
    ∀ q ∈ inner, valueLength q.value < bytes.length := by
  obtain ⟨used, split, _, kept, _⟩ := parses_decodeKvpDelta bytes inner rest decoded
  intro q member
  have shorter := (kept q member).2
  have total := congrArg List.length split
  rw [List.length_append] at total
  omega

theorem checkTrackPropertyValue_congr {nested nested' : List KeyValuePair → Except CodecError Unit}
    {p : KeyValuePair} {bound : Nat} (fits : valueLength p.value ≤ bound)
    (agree : ∀ inner, (∀ q ∈ inner, valueLength q.value < bound) → nested inner = nested' inner) :
    checkTrackPropertyValue nested p = checkTrackPropertyValue nested' p := by
  obtain ⟨key, value⟩ := p
  cases value with
  | varint v => rfl
  | bytes b =>
    simp only [checkTrackPropertyValue]
    split
    · cases decoded : decodeKvpDelta (.of b) with
      | error e => rfl
      | ok pair =>
        refine agree pair.1 fun q member => ?_
        exact lt_of_lt_of_le (block_shorter decoded q member) fits
    · rfl

/-- A depth past every value's length reaches every block. -/
theorem checkTrackPropertiesTo_deep {depth depth' : Nat} {properties : List KeyValuePair}
    (deep : ∀ p ∈ properties, valueLength p.value < depth)
    (deep' : ∀ p ∈ properties, valueLength p.value < depth') :
    checkTrackPropertiesTo depth properties = checkTrackPropertiesTo depth' properties := by
  induction depth generalizing depth' properties with
  | zero =>
    cases properties with
    | nil => cases depth' <;> rfl
    | cons p rest => exact absurd (deep p List.mem_cons_self) (Nat.not_lt_zero _)
  | succ depth ih =>
    cases depth' with
    | zero =>
      cases properties with
      | nil => rfl
      | cons p rest => exact absurd (deep' p List.mem_cons_self) (Nat.not_lt_zero _)
    | succ depth' =>
      refine checkAll_congr fun p member => ?_
      have shallow := deep p member
      have shallow' := deep' p member
      refine checkTrackPropertyValue_congr (le_refl (valueLength p.value)) fun inner shorter => ?_
      exact ih (fun q member => by have := shorter q member; omega)
        fun q member => by have := shorter q member; omega

theorem valueLength_le_sum {properties : List KeyValuePair} {p : KeyValuePair}
    (member : p ∈ properties) :
    valueLength p.value ≤ (properties.map fun p => valueLength p.value).sum :=
  List.single_le_sum (fun _ _ => Nat.zero_le _) _ (List.mem_map_of_mem member)

/-- The source's recursion: a block's own properties are checked the same way. -/
theorem checkTrackPropertyValues_eq (properties : List KeyValuePair) :
    checkTrackPropertyValues properties =
      checkAll (checkTrackPropertyValue checkTrackPropertyValues) properties := by
  refine checkAll_congr fun p member => ?_
  refine checkTrackPropertyValue_congr (valueLength_le_sum member) fun inner shorter => ?_
  exact checkTrackPropertiesTo_deep shorter fun q inside =>
    Nat.lt_succ_of_le (valueLength_le_sum inside)

theorem readsAll_decodeTrackProperties {properties : List KeyValuePair} {bytes : Bytes}
    (fits : ∀ p ∈ properties, FitsParity p) (wrote : encodeTrackProperties properties = .ok bytes) :
    ReadsAll decodeTrackProperties bytes properties := by
  obtain ⟨_, inRange, wrote⟩ := except_bind_ok wrote
  have reads := readsAll_decodeKvpDelta fits wrote
  exact reads.then (Reads.check inRange (Reads.pure _))

theorem parses_decodeTrackProperties :
    Parses decodeTrackProperties fun properties used =>
      (∀ p ∈ properties, FitsParity p) ∧
        ∃ bytes, encodeTrackProperties properties = .ok bytes ∧ bytes.length ≤ used.length := by
  refine parses_decodeKvpDelta.seq fun properties front ⟨kept, bytes, wrote, le⟩ => ?_
  refine Parses.check fun _ inRange => Parses.ret ⟨fun p member => (kept p member).1, bytes, ?_, ?_⟩
  · simp only [encodeTrackProperties, inRange, wrote, bind, Except.bind]
  · rwa [List.append_nil]

/-! ## Setup Options round trip -/

theorem checkRepeats_ok {exempt : Nat → Bool} {earlier options : List KeyValuePair} {u : Unit} :
    checkRepeats exempt earlier options = .ok u ↔
      (∀ option ∈ options, exempt option.key.val = false → ∀ e ∈ earlier, e.key ≠ option.key) ∧
        options.Pairwise fun e option => exempt option.key.val = false → e.key ≠ option.key := by
  induction options generalizing earlier with
  | nil => simp [checkRepeats]
  | cons option rest ih =>
    have step : checkRepeats exempt earlier (option :: rest) = .ok u ↔
        (exempt option.key.val = false → ∀ e ∈ earlier, e.key ≠ option.key) ∧
          checkRepeats exempt (earlier ++ [option]) rest = .ok u := by
      rw [checkRepeats]
      by_cases free : exempt option.key.val = true
      · simp [free, refuseIf, bind, Except.bind]
      · by_cases repeated : earlier.any (fun e => e.key == option.key) = true
        · simp only [refuseIf, free, repeated, bind, Except.bind]
          simpa using fun absent => absurd repeated (by simpa using absent)
        · simp only [refuseIf, free, repeated, bind, Except.bind]
          simpa using fun _ => by simpa using repeated
    rw [step, ih, List.forall_mem_cons, List.pairwise_cons]
    simp only [List.mem_append, List.mem_singleton, or_imp, forall_and, forall_eq]
    tauto

/-- No option type but the token's is given twice. -/
def RepeatsOnlyToken (options : List KeyValuePair) : Prop :=
  options.Pairwise fun e option => e.key = option.key → option.key.val = repeatableSetupOption

instance (options : List KeyValuePair) : Decidable (RepeatsOnlyToken options) := by
  unfold RepeatsOnlyToken; infer_instance

theorem checkRepeats_sender {options : List KeyValuePair} :
    checkRepeats (fun key => key == repeatableSetupOption) [] options = .ok () ↔
      RepeatsOnlyToken options := by
  rw [checkRepeats_ok]
  simp only [List.not_mem_nil, false_implies, implies_true, true_and, RepeatsOnlyToken,
    beq_eq_false_iff_ne, ne_eq]
  constructor <;> refine fun pairs => pairs.imp fun {a b} h => ?_ <;> tauto

/-- The sender's rule is the stricter one. -/
theorem checkRepeats_receiver {options : List KeyValuePair} (unrepeated : RepeatsOnlyToken options) :
    checkRepeats (fun key => key == repeatableSetupOption || !knownSetupOptions.contains key) []
      options = .ok () := by
  refine checkRepeats_ok.mpr ⟨by simp, unrepeated.imp fun {a b} only known same => ?_⟩
  simp [only same] at known

theorem readsAll_decodeSetupOptions {options : List KeyValuePair} {bytes : Bytes}
    (fits : ∀ p ∈ options, FitsParity p) (wrote : encodeSetupOptions options = .ok bytes) :
    ReadsAll decodeSetupOptions bytes options := by
  obtain ⟨_, tokens, wrote⟩ := except_bind_ok wrote
  obtain ⟨_, unrepeated, wrote⟩ := except_bind_ok wrote
  have reads := readsAll_decodeKvpDelta fits wrote
  have received := checkRepeats_receiver (checkRepeats_sender.mp unrepeated)
  exact reads.then (Reads.check received (Reads.check tokens (Reads.pure _)))

theorem parses_decodeSetupOptions :
    Parses decodeSetupOptions fun options used =>
      (∀ p ∈ options, FitsParity p) ∧ (RepeatsOnlyToken options →
        ∃ bytes, encodeSetupOptions options = .ok bytes ∧ bytes.length ≤ used.length) := by
  refine parses_decodeKvpDelta.seq fun options front ⟨kept, bytes, wrote, le⟩ => ?_
  refine Parses.check fun _ _ => Parses.check fun _ tokens => Parses.ret ?_
  refine ⟨fun p member => (kept p member).1, fun unrepeated => ⟨bytes, ?_, ?_⟩⟩
  · simp only [encodeSetupOptions, tokens, checkRepeats_sender.mpr unrepeated, wrote, bind,
      Except.bind]
  · rwa [List.append_nil]

end Moqtap.Draft22.Properties
