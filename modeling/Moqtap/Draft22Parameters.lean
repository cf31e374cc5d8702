import Moqtap.CodecTypes

/-! Draft-22 Message Parameters (`draft22/message.rs`): the table naming each
type's value encoding, the delta-coded list both ways, and the structures held
inside a value: an Authorization Token, a Location Filter, a nested
FILL_PARAMETERS block. What the encoder writes for a list that keeps to the
table is read back as the same list with its wire-form values minimal, and
what the decoder accepts the encoder writes in no more bytes. -/
namespace Moqtap.Draft22.Parameters
open ByteCursor Varint CodecTypes

/-- `Moqt18 as Wire`. -/
abbrev wire : MoqtProfile := .moqt18

inductive ParamEncoding where
  | varint
  | uint8
  | location
  | lengthPrefixed
  | trackNamespaceValue
  | locationFilter
  deriving DecidableEq, Repr

def paramEncoding (key : Nat) : Option ParamEncoding :=
  match key with
  | 0x02 | 0x04 | 0x06 | 0x08 | 0x0A | 0x32 => some .varint
  | 0x10 | 0x20 | 0x22 | 0x35 => some .uint8
  | 0x09 => some .location
  | 0x34 => some .trackNamespaceValue
  | 0x21 => some .locationFilter
  | 0x03 | 0x23 | 0x25 | 0x26 | 0x27 | 0x28 | 0x29 => some .lengthPrefixed
  | _ => none

def uint8ValueInRange (key value : Nat) : Bool :=
  match key with
  | 0x10 => decide (value ≤ 1)
  | 0x22 => value == 1 || value == 2
  | 0x35 => decide (value ≤ 1)
  | _ => true

def authorizationToken : Nat := 0x03
def locationFilter : Nat := 0x21
def fillParameters : Nat := 0x23

def parameterMayRepeat (key : Nat) : Bool :=
  key == authorizationToken || (decide (0x25 ≤ key) && decide (key ≤ 0x29))

def addDelta (prevKey delta : Nat) : Except CodecError Nat :=
  if prevKey + delta < 2 ^ 64 then .ok (prevKey + delta) else .error (.keyDeltaOverflow prevKey delta)

/-- `abs_key.checked_sub(prev_key)`, a descending pair refused. -/
def deltaFrom (prevKey absKey : Nat) : Except CodecError Nat :=
  if prevKey ≤ absKey then .ok (absKey - prevKey) else .error (.parametersOutOfOrder prevKey absKey)

def checkFullTrackName (ns : TrackNamespace) (trackName : Bytes) : Except CodecError Unit :=
  refuseIf (saturatingAdd ns.fieldBytesLen trackName.length > maxFullTrackNameLength)
    .trackNameTooLong

def checkAuthorizationToken (parameter : KeyValuePair) : Except CodecError Unit :=
  if parameter.key.val ≠ authTokenParameter then .ok ()
  else match parameter.value with
    | .bytes value =>
      (AuthorizationToken.decodeMoqt wire parameter.key.val value).map fun _ => ()
    | .varint _ => .error (.keyValueFormatting parameter.key.val
        "its value is a bare varint where the type defines a Token structure")

def checkAuthorizationTokens : List KeyValuePair → Except CodecError Unit :=
  checkAll checkAuthorizationToken

def fillParametersAllowed : List Nat := [0x0A, 0x20, 0x21, 0x22, 0x25, 0x26, 0x27, 0x28]

/-! ## Location Filters -/

def locationFilterFieldCount (filterType : Nat) : Option Nat :=
  match filterType with
  | 0x00 | 0x05 => some 0
  | 0x01 => some 1
  | 0x02 => some 2
  | 0x03 => some 3
  | 0x04 => some 4
  | _ => none

/-- A Location Filter integer, a failure of any kind reported as `detail`. -/
def filterInteger (detail : String) : Reader CodecError Nat := do
  let v ← mapError (fun _ => CodecError.subscriptionFilterMalformed detail) (VarInt.decodeMoqt wire)
  return v.val

def readFilterFields : Nat → Reader CodecError (List Nat)
  | 0 => pure []
  | count + 1 => do
    let field ← filterInteger
      "a field its Location Filter Type names runs past the end of the message"
    let rest ← readFilterFields count
    return field :: rest

def readLocationFilter : Reader CodecError (Nat × List Nat) := do
  let filterType ← filterInteger "its Location Filter Type runs past the end of the message"
  let count ← lift (okOr (locationFilterFieldCount filterType) (.invalidFilterType filterType))
  let fields ← readFilterFields count
  return (filterType, fields)

def writeIntegers (values : List Nat) : Bytes :=
  (values.map fun v => (VarInt.ofU64 v).encodeMoqt wire).flatten

def writeLocationFilter (filter : Nat × List Nat) : Bytes :=
  (VarInt.ofU64 filter.1).encodeMoqt wire ++ writeIntegers filter.2

def decodeLocationFilter : Bytes → Except CodecError (Nat × List Nat) :=
  wholly (.subscriptionFilterMalformed "bytes follow the fields its Location Filter Type names")
    readLocationFilter

def checkLocationFilterFields (fields : List Nat) : Except CodecError Unit :=
  match fields with
  | startGroup :: _ :: delta :: _ =>
    refuseIf (startGroup + delta ≥ 2 ^ 64) (.filterEndGroupOverflow startGroup delta)
  | _ => .ok ()

/-! ## Decoding a list -/

def decodeLocation : Reader CodecError (VarInt × VarInt) := do
  let group ← varint wire
  let object ← varint wire
  return (group, object)

def encodeLocation (location : VarInt × VarInt) : Bytes :=
  location.1.encodeMoqt wire ++ location.2.encodeMoqt wire

def decodeParameterValue (encoding : ParamEncoding) (absKey : Nat) : Reader CodecError KvpValue :=
  match encoding with
  | .varint => do
    let v ← varint wire
    return .varint v
  | .uint8 => do
    let byte ← takeByte .unexpectedEnd
    lift (refuseIf (!uint8ValueInRange absKey byte.toNat)
      (.parameterValueOutOfRange absKey byte.toNat))
    return .varint (VarInt.ofU64 byte.toNat)
  | .location => do
    let location ← decodeLocation
    return .bytes (encodeLocation location)
  | .lengthPrefixed => do
    let value ← lengthPrefixed wire noCheck
    return .bytes value
  | .locationFilter => do
    let filter ← readLocationFilter
    return .bytes (writeLocationFilter filter)
  | .trackNamespaceValue => do
    let ns ← TrackNamespace.decodeAllowEmptyMoqt wire
    return .bytes (ns.encodeMoqt wire)

/-- The loop `decode_parameters` and `decode_fill_parameters` share: `left`
parameters to go after `i` of them, `allows` saying which types may stand here. -/
def decodeParameterList (allows : Nat → Except CodecError Unit) :
    Nat → Nat → Nat → Reader CodecError (List KeyValuePair)
  | 0, _, _ => pure []
  | left + 1, i, prevKey => do
    let delta ← varint wire
    let absKey ← lift (addDelta prevKey delta.val)
    lift (refuseIf (decide (0 < i) && delta.val == 0 && !parameterMayRepeat absKey)
      (.duplicateParameter absKey))
    let encoding ← lift (okOr (paramEncoding absKey) (.unknownMessageParameter absKey))
    lift (allows absKey)
    let value ← decodeParameterValue encoding absKey
    let rest ← decodeParameterList allows left (i + 1) absKey
    return ⟨VarInt.ofU64 absKey, value⟩ :: rest

/-- A FILL_PARAMETERS or LOCATION_FILTER value, `fill` answering for the nested block. -/
def checkLocationFilterWith (fill : Bytes → Except CodecError Unit) (parameter : KeyValuePair) :
    Except CodecError Unit :=
  if parameter.key.val ≠ locationFilter ∧ parameter.key.val ≠ fillParameters then .ok ()
  else match parameter.value with
    | .bytes value =>
      if parameter.key.val = locationFilter then do
        let filter ← decodeLocationFilter value
        checkLocationFilterFields filter.2
      else fill value
    | .varint _ => .error (.subscriptionFilterMalformed
        "its value is a bare varint where the type defines a structure")

def admitInFill (absKey : Nat) : Except CodecError Unit :=
  refuseIf (!fillParametersAllowed.contains absKey) (.parameterOutOfScope absKey fillParameters)

def readFillParameters : Reader CodecError (List KeyValuePair) := do
  let count ← varint wire
  decodeParameterList admitInFill count.val 0 0

/-- The body of `decode_fill_parameters`, `fill` answering for a block inside the block. -/
def decodeFillParametersWith (fill : Bytes → Except CodecError Unit) (value : Bytes) :
    Except CodecError (List KeyValuePair) := do
  let params ← wholly (.subscriptionFilterMalformed
    "its parameter count leaves bytes unread inside FILL_PARAMETERS") readFillParameters value
  checkAll (checkLocationFilterWith fill) params
  return params

/-- `decode_fill_parameters`. Its recursion through `check_location_filters` ends
at once, since no block may hold another; `decodeFillParameters_eq` is that recursion. -/
def decodeFillParameters (value : Bytes) : Except CodecError (List KeyValuePair) :=
  decodeFillParametersWith (fun _ => .ok ()) value

def checkFillParameters (value : Bytes) : Except CodecError Unit :=
  (decodeFillParameters value).map fun _ => ()

def checkLocationFilters : List KeyValuePair → Except CodecError Unit :=
  checkAll (checkLocationFilterWith checkFillParameters)

def admitAny (_ : Nat) : Except CodecError Unit := .ok ()

def decodeParameters : Reader CodecError (List KeyValuePair) := do
  let count ← varint wire
  let params ← decodeParameterList admitAny count.val 0 0
  lift (checkAuthorizationTokens params)
  lift (checkLocationFilters params)
  return params

/-! ## Encoding a list -/

def isLocationValue (bytes : Bytes) : Bool := consumesAll decodeLocation bytes

def isTrackNamespaceValue (bytes : Bytes) : Bool :=
  consumesAll (TrackNamespace.decodeAllowEmptyMoqt wire) bytes

/-- The match of `encode_parameters`, its last two arms the even/odd fallback. -/
def encodeParameterValue (p : KeyValuePair) : Except CodecError Bytes :=
  match p.value, paramEncoding p.key.val with
  | .varint v, some .varint => .ok (v.encodeMoqt wire)
  | .varint v, some .uint8 => do
    refuseIf (255 < v.val) .invalidField
    refuseIf (!uint8ValueInRange p.key.val v.val) (.parameterValueOutOfRange p.key.val v.val)
    return [UInt8.ofNat v.val]
  | .bytes b, some .location => do
    refuseIf (!isLocationValue b) .invalidField
    return b
  | .bytes b, some .trackNamespaceValue => do
    refuseIf (!isTrackNamespaceValue b) .invalidField
    return b
  | .bytes b, some .locationFilter => .ok b
  | .bytes b, some .lengthPrefixed => .ok (putLengthPrefixed wire b)
  | .varint v, _ => .ok (v.encodeMoqt wire)
  | .bytes b, _ => .ok (putLengthPrefixed wire b)

/-- The cap on a byte value, whatever its type. -/
def checkValueLength (value : KvpValue) : Except CodecError Unit :=
  match value with
  | .bytes b => refuseIf (b.length > maxKvpValueLen) (.kvp (.valueTooLong b.length))
  | .varint _ => .ok ()

def encodeParameterList : List KeyValuePair → Nat → Nat → Except CodecError Bytes
  | [], _, _ => .ok []
  | p :: rest, i, prevKey => do
    let delta ← deltaFrom prevKey p.key.val
    refuseIf (decide (0 < i) && delta == 0 && !parameterMayRepeat p.key.val)
      (.duplicateParameter p.key.val)
    checkValueLength p.value
    let value ← encodeParameterValue p
    let tail ← encodeParameterList rest (i + 1) p.key.val
    return (VarInt.ofU64 delta).encodeMoqt wire ++ (value ++ tail)

def encodeParameters (params : List KeyValuePair) : Except CodecError Bytes := do
  checkAuthorizationTokens params
  checkLocationFilters params
  let list ← encodeParameterList params 0 0
  return (VarInt.ofU64 params.length).encodeMoqt wire ++ list

/-! ## The table's shapes, and minimal wire-form values -/

/-- Whether a type of this encoding is held as an integer rather than as bytes. -/
def ParamEncoding.isInteger : ParamEncoding → Bool
  | .varint | .uint8 => true
  | _ => false

def isInteger : KvpValue → Bool
  | .varint _ => true
  | .bytes _ => false

/-- The table knows the parameter's type, and the value is held the way the table says. -/
def FitsTable (p : KeyValuePair) : Prop :=
  (paramEncoding p.key.val).map ParamEncoding.isInteger = some (isInteger p.value)

instance (p : KeyValuePair) : Decidable (FitsTable p) := by
  unfold FitsTable; infer_instance

/-- A wire-form value with every varint in it written minimally; bytes that are
no such value stay as they are. -/
def minimalWireForm : ParamEncoding → Bytes → Bytes
  | .location => canonicalForm decodeLocation encodeLocation
  | .locationFilter => canonicalForm readLocationFilter writeLocationFilter
  | .trackNamespaceValue =>
    canonicalForm (TrackNamespace.decodeAllowEmptyMoqt wire) (TrackNamespace.encodeMoqt wire)
  | _ => id

def minimalParameter (p : KeyValuePair) : KeyValuePair :=
  match p.value, paramEncoding p.key.val with
  | .bytes b, some encoding => { p with value := .bytes (minimalWireForm encoding b) }
  | _, _ => p

/-! ## Location Filters round trip -/

theorem reads_filterInteger (detail : String) {v : Nat} (small : v < 2 ^ 64) :
    Reads (filterInteger detail) ((VarInt.ofU64 v).encodeMoqt wire) v := by
  have reads := (VarInt.reads_encodeMoqt wire (VarInt.ofU64 v)).mapError
    (f := fun _ => CodecError.subscriptionFilterMalformed detail)
  have wrapped := reads.wrap VarInt.val
  rwa [VarInt.val_ofU64 small] at wrapped

theorem parses_filterInteger (detail : String) :
    Parses (filterInteger detail) fun v used =>
      v < 2 ^ 64 ∧ Reads (filterInteger detail) used v ∧
        ((VarInt.ofU64 v).encodeMoqt wire).length ≤ used.length := by
  refine (VarInt.parses_decodeMoqt wire).mapError.seq fun v front ⟨reads, le⟩ => Parses.ret ?_
  rw [List.append_nil, VarInt.ofU64_val, VarInt.encodeMoqt_length]
  exact ⟨v.isLt, reads.mapError.wrap VarInt.val, le⟩

theorem reads_readFilterFields {fields : List Nat} (small : ∀ f ∈ fields, f < 2 ^ 64) :
    Reads (readFilterFields fields.length) (writeIntegers fields) fields := by
  induction fields with
  | nil => exact Reads.pure []
  | cons field rest ih =>
    have head := reads_filterInteger
      "a field its Location Filter Type names runs past the end of the message"
      (small field List.mem_cons_self)
    exact head.bind ((ih fun f member => small f (List.mem_cons_of_mem _ member)).wrap _)

theorem parses_readFilterFields (count : Nat) :
    Parses (readFilterFields count) fun fields used =>
      Reads (readFilterFields count) used fields ∧ fields.length = count ∧
        (∀ f ∈ fields, f < 2 ^ 64) ∧ (writeIntegers fields).length ≤ used.length := by
  induction count with
  | zero => exact Parses.ret ⟨Reads.pure [], rfl, by simp, by simp [writeIntegers]⟩
  | succ count ih =>
    refine (parses_filterInteger _).seq fun field front ⟨small, reads, le⟩ => ?_
    refine ih.seq fun rest back ⟨readsRest, length, smallRest, leRest⟩ => Parses.ret ?_
    refine ⟨?_, by simp [length], ?_, ?_⟩
    · rw [List.append_nil]
      exact reads.bind (readsRest.wrap _)
    · exact List.forall_mem_cons.mpr ⟨small, smallRest⟩
    · simp only [writeIntegers, List.map_cons, List.flatten_cons, List.length_append] at leRest ⊢
      omega

/-- A filter is read off its minimal writing as well as off the bytes it came in. -/
theorem canonical_readLocationFilter :
    Canonical readLocationFilter writeLocationFilter := by
  refine (parses_filterInteger _).seq fun filterType front ⟨small, reads, le⟩ => ?_
  refine Parses.check fun count known => ?_
  refine (parses_readFilterFields count).seq
    fun fields back ⟨readsFields, length, smallFields, leFields⟩ => Parses.ret ?_
  subst length
  refine ⟨?_, ?_, ?_⟩
  · rw [List.append_nil]
    exact reads.bind (Reads.check known (readsFields.wrap _))
  · exact (reads_filterInteger _ small).bind
      (Reads.check known ((reads_readFilterFields smallFields).wrap _))
  · simp only [writeLocationFilter, List.length_append, List.length_nil] at leFields ⊢
    omega

theorem decodeLocationFilter_ok {value : Bytes} {filter : Nat × List Nat} :
    decodeLocationFilter value = .ok filter ↔ ReadsAll readLocationFilter value filter :=
  wholly_ok

/-! ## One value -/

theorem canonical_decodeLocation : Canonical decodeLocation encodeLocation := by
  refine canonical_varint.seq fun group front ⟨reads, readsMinimal, le⟩ => ?_
  refine canonical_varint.seq fun object back ⟨readsObject, readsMinimalObject, leObject⟩ =>
    Parses.ret ⟨?_, ?_, ?_⟩
  · rw [List.append_nil]
    exact reads.bind (readsObject.wrap _)
  · exact readsMinimal.bind (readsMinimalObject.wrap _)
  · simp only [encodeLocation, List.length_append, List.length_nil] at le leObject ⊢
    omega

theorem paramEncoding_locationFilter {key : Nat} (known : paramEncoding key = some .locationFilter) :
    key = locationFilter := by
  unfold paramEncoding at known
  split at known <;> first | rfl | cases known

/-- A value that keeps to the table is read back with its varints minimal. -/
theorem reads_parameterValue {p : KeyValuePair} {encoding : ParamEncoding} {bytes : Bytes}
    (known : paramEncoding p.key.val = some encoding) (fits : FitsTable p)
    (checked : checkLocationFilterWith checkFillParameters p = .ok ())
    (short : checkValueLength p.value = .ok ()) (wrote : encodeParameterValue p = .ok bytes) :
    Reads (decodeParameterValue encoding p.key.val) bytes (minimalParameter p).value := by
  obtain ⟨key, value⟩ := p
  dsimp only at known
  simp only [FitsTable, known, Option.map_some, Option.some.injEq] at fits
  cases value with
  | varint v =>
    simp only [minimalParameter]
    cases encoding with
    | varint =>
      simp only [encodeParameterValue, known, Except.ok.injEq] at wrote
      subst wrote
      exact (reads_varint v).wrap KvpValue.varint
    | uint8 =>
      simp only [encodeParameterValue, known] at wrote
      obtain ⟨_, fitsByte, wrote⟩ := except_bind_ok wrote
      obtain ⟨_, inRange, wrote⟩ := except_bind_ok wrote
      cases wrote
      simp only [refuseIf_ok, decide_eq_false_iff_not, Nat.not_lt] at fitsByte
      have value : (UInt8.ofNat v.val).toNat = v.val := by
        rw [UInt8.toNat_ofNat']; omega
      refine (reads_takeByte _ _).last ?_
      rw [value]
      refine Reads.check inRange ?_
      rw [VarInt.ofU64_val]
      exact Reads.pure _
    | location | lengthPrefixed | trackNamespaceValue | locationFilter => cases fits
  | bytes b =>
    simp only [minimalParameter, known]
    cases encoding with
    | varint | uint8 => cases fits
    | location =>
      simp only [encodeParameterValue, known] at wrote
      obtain ⟨_, isLocation, wrote⟩ := except_bind_ok wrote
      cases wrote
      simp only [refuseIf_ok, Bool.not_eq_false', isLocationValue, consumesAll_iff] at isLocation
      obtain ⟨location, all⟩ := isLocation
      have reads := (canonical_decodeLocation.whole all).1
      simp only [minimalWireForm, canonicalForm_eq all]
      exact reads.wrap fun l => KvpValue.bytes (encodeLocation l)
    | trackNamespaceValue =>
      simp only [encodeParameterValue, known] at wrote
      obtain ⟨_, isNamespace, wrote⟩ := except_bind_ok wrote
      cases wrote
      simp only [refuseIf_ok, Bool.not_eq_false', isTrackNamespaceValue, consumesAll_iff] at isNamespace
      obtain ⟨ns, all⟩ := isNamespace
      have reads := (TrackNamespace.canonical_decodeAllowEmptyMoqt.whole all).1
      simp only [minimalWireForm, canonicalForm_eq all]
      exact reads.wrap fun ns => KvpValue.bytes (ns.encodeMoqt wire)
    | locationFilter =>
      simp only [encodeParameterValue, known, Except.ok.injEq] at wrote
      subst wrote
      have isFilter : key.val = locationFilter := paramEncoding_locationFilter known
      simp only [checkLocationFilterWith, isFilter, ne_eq, not_true_eq_false, false_and,
        ↓reduceIte] at checked
      obtain ⟨filter, decoded, _⟩ := except_bind_ok checked
      have all := decodeLocationFilter_ok.mp decoded
      have reads := (canonical_readLocationFilter.whole all).1
      simp only [minimalWireForm, canonicalForm_eq all]
      exact reads.wrap fun f => KvpValue.bytes (writeLocationFilter f)
    | lengthPrefixed =>
      simp only [encodeParameterValue, known, Except.ok.injEq] at wrote
      subst wrote
      simp only [checkValueLength, refuseIf_ok, maxKvpValueLen, decide_eq_false_iff_not,
        gt_iff_lt, Nat.not_lt] at short
      exact (reads_lengthPrefixed (by omega) rfl).wrap KvpValue.bytes

/-- What the encoder would do with a value: its bytes, no more than `used`. -/
def Rewrites (p : KeyValuePair) (used : Bytes) : Prop :=
  FitsTable p ∧ minimalParameter p = p ∧
    ∃ bytes, encodeParameterValue p = .ok bytes ∧ bytes.length ≤ used.length ∧
      (used.length ≤ maxKvpValueLen → checkValueLength p.value = .ok ())

private theorem rewrites_wireForm {α : Type} {reader : Reader CodecError α} {write : α → Bytes}
    {key : VarInt} {encoding : ParamEncoding} {used : Bytes} {a : α}
    (known : paramEncoding key.val = some encoding) (held : encoding.isInteger = false)
    (form : minimalWireForm encoding = canonicalForm reader write)
    (accepted : ReadsAll reader (write a) a →
      encodeParameterValue ⟨key, .bytes (write a)⟩ = .ok (write a))
    (reads : Reads reader (write a) a) (le : (write a).length ≤ used.length) :
    Rewrites ⟨key, .bytes (write a)⟩ used := by
  refine ⟨by simp [FitsTable, known, held, isInteger], ?_, write a, accepted reads.all, le, ?_⟩
  · simp only [minimalParameter, known, form, canonicalForm_eq reads.all]
  · intro small
    simp only [checkValueLength, refuseIf_ok, decide_eq_false_iff_not, gt_iff_lt, Nat.not_lt]
    omega

/-- What the decoder accepts as a value the encoder writes back, and no longer. -/
theorem parses_decodeParameterValue {encoding : ParamEncoding} {key : VarInt}
    (known : paramEncoding key.val = some encoding) :
    Parses (decodeParameterValue encoding key.val) fun value used => Rewrites ⟨key, value⟩ used := by
  cases encoding with
  | varint =>
    refine canonical_varint.seq ?_
    rintro v front ⟨_, _, le⟩
    refine Parses.ret ?_
    refine ⟨by simp [FitsTable, known, ParamEncoding.isInteger, isInteger], by simp [minimalParameter],
      v.encodeMoqt wire, by simp [encodeParameterValue, known], ?_, fun _ => rfl⟩
    rwa [List.append_nil]
  | uint8 =>
    refine (parses_takeByte _).seq fun byte front same => Parses.check fun _ inRange => Parses.ret ?_
    subst same
    have bound := byte.toNat_lt
    have value : (VarInt.ofU64 byte.toNat).val = byte.toNat := VarInt.val_ofU64 (by omega)
    refine ⟨by simp [FitsTable, known, ParamEncoding.isInteger, isInteger], by simp [minimalParameter],
      [byte], ?_, le_refl _, fun _ => rfl⟩
    simp only [encodeParameterValue, known, value, inRange]
    have fitsByte : refuseIf (decide (255 < byte.toNat)) CodecError.invalidField = .ok () := by
      simp only [refuseIf_ok, decide_eq_false_iff_not]; omega
    rw [fitsByte]
    simp [bind, Except.bind, pure, Except.pure]
  | location =>
    refine canonical_decodeLocation.seq ?_
    rintro location front ⟨_, reads, le⟩
    refine Parses.ret ?_
    rw [List.append_nil]
    refine @rewrites_wireForm _ _ encodeLocation _ _ _ _ known rfl rfl (fun all => ?_) reads le
    have isLocation : isLocationValue (encodeLocation location) = true :=
      consumesAll_iff.mpr ⟨location, all⟩
    simp [encodeParameterValue, known, isLocation, refuseIf, bind, Except.bind, pure, Except.pure]
  | trackNamespaceValue =>
    refine TrackNamespace.canonical_decodeAllowEmptyMoqt.seq ?_
    rintro ns front ⟨_, reads, le⟩
    refine Parses.ret ?_
    rw [List.append_nil]
    refine @rewrites_wireForm _ _ (TrackNamespace.encodeMoqt wire) _ _ _ _ known rfl rfl
      (fun all => ?_) reads le
    have isNamespace : isTrackNamespaceValue (ns.encodeMoqt wire) = true :=
      consumesAll_iff.mpr ⟨ns, all⟩
    simp [encodeParameterValue, known, isNamespace, refuseIf, bind, Except.bind, pure, Except.pure]
  | locationFilter =>
    refine canonical_readLocationFilter.seq ?_
    rintro filter front ⟨_, reads, le⟩
    refine Parses.ret ?_
    rw [List.append_nil]
    refine @rewrites_wireForm _ _ writeLocationFilter _ _ _ filter known rfl
      rfl (fun _ => ?_) reads le
    simp [encodeParameterValue, known]
  | lengthPrefixed =>
    refine parses_lengthPrefixed.seq ?_
    rintro value front ⟨_, _, le⟩
    refine Parses.ret ?_
    rw [List.append_nil]
    refine ⟨by simp [FitsTable, known, ParamEncoding.isInteger, isInteger],
      by simp [minimalParameter, known, minimalWireForm], putLengthPrefixed wire value,
      by simp [encodeParameterValue, known], le, fun small => ?_⟩
    simp only [checkValueLength, refuseIf_ok, decide_eq_false_iff_not, gt_iff_lt, Nat.not_lt]
    simp only [putLengthPrefixed, List.length_append] at le
    omega

/-! ## What rewriting leaves alone -/

@[simp] theorem minimalParameter_key (p : KeyValuePair) : (minimalParameter p).key = p.key := by
  unfold minimalParameter
  split <;> rfl

theorem minimalParameter_fits (p : KeyValuePair) : FitsTable (minimalParameter p) ↔ FitsTable p := by
  have held : isInteger (minimalParameter p).value = isInteger p.value := by
    unfold minimalParameter
    split
    · rename_i value _
      rw [value]; rfl
    · rfl
  simp only [FitsTable, minimalParameter_key, held]

theorem minimalParameter_lengthPrefixed {p : KeyValuePair}
    (prefixed : paramEncoding p.key.val = some .lengthPrefixed) : minimalParameter p = p := by
  unfold minimalParameter
  split
  · rename_i b encoding value known
    rw [prefixed] at known
    cases known
    simp only [minimalWireForm, id_eq, ← value]
  · rfl

theorem checkAuthorizationToken_minimal (p : KeyValuePair) :
    checkAuthorizationToken (minimalParameter p) = checkAuthorizationToken p := by
  by_cases token : p.key.val = authTokenParameter
  · rw [minimalParameter_lengthPrefixed (by rw [token]; rfl)]
  · simp [checkAuthorizationToken, token]

theorem checkLocationFilter_minimal {p : KeyValuePair}
    (checked : checkLocationFilterWith checkFillParameters p = .ok ()) :
    checkLocationFilterWith checkFillParameters (minimalParameter p) = .ok () := by
  by_cases fill : p.key.val = fillParameters
  · rwa [minimalParameter_lengthPrefixed (by rw [fill]; rfl)]
  by_cases filter : p.key.val = locationFilter
  · obtain ⟨key, value⟩ := p
    dsimp only at filter
    have known : paramEncoding key.val = some .locationFilter := by rw [filter]; rfl
    cases value with
    | varint v => simp [checkLocationFilterWith, filter] at checked
    | bytes b =>
      have rewritten : minimalParameter ⟨key, .bytes b⟩ = ⟨key, .bytes
          (canonicalForm readLocationFilter writeLocationFilter b)⟩ := by
        simp only [minimalParameter, known, minimalWireForm]
      rw [rewritten]
      simp only [checkLocationFilterWith, filter, ne_eq, not_true_eq_false, false_and,
        ↓reduceIte] at checked ⊢
      obtain ⟨fields, decoded, overflow⟩ := except_bind_ok checked
      have same := decodeLocationFilter_ok.mpr
        (canonical_readLocationFilter.form_reads.mpr (decodeLocationFilter_ok.mp decoded))
      rw [same]
      exact overflow
  · simp [checkLocationFilterWith, fill, filter]

/-! ## Lists -/

theorem deltaFrom_ok {prevKey absKey delta : Nat} :
    deltaFrom prevKey absKey = .ok delta ↔ prevKey ≤ absKey ∧ delta = absKey - prevKey := by
  unfold deltaFrom
  split
  · rename_i ascends
    simp [ascends, eq_comm]
  · rename_i descends
    simp [descends]

theorem addDelta_ok {prevKey delta absKey : Nat} :
    addDelta prevKey delta = .ok absKey ↔ absKey = prevKey + delta ∧ absKey < 2 ^ 64 := by
  unfold addDelta
  split
  · rename_i fits
    constructor
    · intro same
      cases same
      exact ⟨rfl, fits⟩
    · rintro ⟨rfl, -⟩
      rfl
  · rename_i overflow
    simp only [reduceCtorEq, false_iff, not_and]
    rintro rfl
    exact overflow

theorem reads_decodeParameterList {allows : Nat → Except CodecError Unit} {ps : List KeyValuePair}
    {i prevKey : Nat} {bytes : Bytes} (fits : ∀ p ∈ ps, FitsTable p)
    (admitted : ∀ p ∈ ps, allows p.key.val = .ok ())
    (checked : ∀ p ∈ ps, checkLocationFilterWith checkFillParameters p = .ok ())
    (wrote : encodeParameterList ps i prevKey = .ok bytes) :
    Reads (decodeParameterList allows ps.length i prevKey) bytes (ps.map minimalParameter) := by
  induction ps generalizing i prevKey bytes with
  | nil =>
    cases wrote
    exact Reads.pure []
  | cons p rest ih =>
    obtain ⟨delta, isDelta, wrote⟩ := except_bind_ok wrote
    obtain ⟨_, unrepeated, wrote⟩ := except_bind_ok wrote
    obtain ⟨_, short, wrote⟩ := except_bind_ok wrote
    obtain ⟨value, wroteValue, wrote⟩ := except_bind_ok wrote
    obtain ⟨tail, wroteTail, wrote⟩ := except_bind_ok wrote
    cases wrote
    obtain ⟨ascends, rfl⟩ := deltaFrom_ok.mp isDelta
    have bound := p.key.isLt
    have carried : (VarInt.ofU64 (p.key.val - prevKey)).val = p.key.val - prevKey :=
      VarInt.val_ofU64 (by omega)
    have fitsHead := fits p List.mem_cons_self
    obtain ⟨encoding, known⟩ : ∃ encoding, paramEncoding p.key.val = some encoding := by
      unfold FitsTable at fitsHead
      cases known : paramEncoding p.key.val with
      | none => simp [known] at fitsHead
      | some encoding => exact ⟨encoding, rfl⟩
    refine (reads_varint _).bind ?_
    rw [carried]
    refine Reads.check (a := p.key.val) (addDelta_ok.mpr ⟨by omega, bound⟩) ?_
    refine Reads.check unrepeated (Reads.check (a := encoding) (by simpa using known) ?_)
    refine Reads.check (admitted p List.mem_cons_self) ?_
    have head := reads_parameterValue known fitsHead (checked p List.mem_cons_self) short wroteValue
    have others := ih (fun q member => fits q (List.mem_cons_of_mem _ member))
      (fun q member => admitted q (List.mem_cons_of_mem _ member))
      (fun q member => checked q (List.mem_cons_of_mem _ member)) wroteTail
    have same : (⟨VarInt.ofU64 p.key.val, (minimalParameter p).value⟩ : KeyValuePair) =
        minimalParameter p := by
      rw [VarInt.ofU64_val, ← minimalParameter_key p]
    refine head.bind ?_
    rw [same]
    exact others.wrap _

theorem encodeParameterList_length {ps : List KeyValuePair} {i prevKey : Nat} {bytes : Bytes}
    (wrote : encodeParameterList ps i prevKey = .ok bytes) : ps.length ≤ bytes.length := by
  induction ps generalizing i prevKey bytes with
  | nil => exact Nat.zero_le _
  | cons p rest ih =>
    obtain ⟨delta, _, wrote⟩ := except_bind_ok wrote
    obtain ⟨_, _, wrote⟩ := except_bind_ok wrote
    obtain ⟨_, _, wrote⟩ := except_bind_ok wrote
    obtain ⟨value, _, wrote⟩ := except_bind_ok wrote
    obtain ⟨tail, wroteTail, wrote⟩ := except_bind_ok wrote
    cases wrote
    have some := VarInt.encodeMoqt_length_pos wire (VarInt.ofU64 delta)
    have others := ih wroteTail
    simp only [List.length_cons, List.length_append]
    omega

/-- The decoder's twin of a written list: it keeps to the table, is minimal, and is
written again in no more bytes. -/
def Relisted (ps : List KeyValuePair) (i prevKey : Nat) (used : Bytes) : Prop :=
  (∀ p ∈ ps, FitsTable p ∧ minimalParameter p = p) ∧
    (used.length ≤ maxKvpValueLen →
      ∃ bytes, encodeParameterList ps i prevKey = .ok bytes ∧ bytes.length ≤ used.length)

theorem parses_decodeParameterList (allows : Nat → Except CodecError Unit) (left i prevKey : Nat) :
    Parses (decodeParameterList allows left i prevKey) fun ps used =>
      ps.length = left ∧ (∀ p ∈ ps, allows p.key.val = .ok ()) ∧ Relisted ps i prevKey used := by
  induction left generalizing i prevKey with
  | zero => exact Parses.ret ⟨rfl, by simp, by simp, fun _ => ⟨[], rfl, le_rfl⟩⟩
  | succ left ih =>
    refine canonical_varint.seq fun delta front ⟨_, _, leDelta⟩ => ?_
    refine Parses.check fun absKey added => Parses.check fun _ unrepeated => ?_
    refine Parses.check fun encoding known => Parses.check fun _ admitted => ?_
    obtain ⟨sum, bound⟩ := addDelta_ok.mp added
    have carried : (VarInt.ofU64 absKey).val = absKey := VarInt.val_ofU64 bound
    rw [okOr_ok, ← carried] at known
    rw [← carried]
    refine (parses_decodeParameterValue known).seq
      fun value middle ⟨fits, minimal, bytes, wrote, le, short⟩ => ?_
    refine (ih (i + 1) (VarInt.ofU64 absKey).val).seq
      fun rest back ⟨length, admits, kept, relisted⟩ => Parses.ret ?_
    rw [VarInt.ofU64_val]
    refine ⟨by simp [length], ?_, ?_, fun small => ?_⟩
    · exact List.forall_mem_cons.mpr ⟨by rw [carried]; exact admitted, admits⟩
    · exact List.forall_mem_cons.mpr ⟨⟨fits, minimal⟩, kept⟩
    · simp only [List.length_append, List.length_nil, Nat.add_zero] at small
      obtain ⟨tail, wroteTail, leTail⟩ := relisted (by omega)
      refine ⟨delta.encodeMoqt wire ++ (bytes ++ tail), ?_, ?_⟩
      · have isDelta : deltaFrom prevKey (VarInt.ofU64 absKey).val = .ok delta.val :=
          deltaFrom_ok.mpr (by omega)
        rw [← carried] at unrepeated
        simp only [encodeParameterList, isDelta, unrepeated, short (by omega), wrote, wroteTail,
          bind, Except.bind, pure, Except.pure, VarInt.ofU64_val]
      · simp only [List.length_append, List.length_nil, Nat.add_zero]
        omega

/-- The nesting bottoms out: no block holds another, so what answers for one is never asked. -/
theorem decodeFillParametersWith_any (fill : Bytes → Except CodecError Unit) (value : Bytes) :
    decodeFillParametersWith fill value = decodeFillParameters value := by
  unfold decodeFillParameters decodeFillParametersWith
  cases outcome : wholly (CodecError.subscriptionFilterMalformed
      "its parameter count leaves bytes unread inside FILL_PARAMETERS") readFillParameters value with
  | error e => rfl
  | ok params =>
    have admits : Parses readFillParameters fun ps _ => ∀ p ∈ ps, admitInFill p.key.val = .ok () :=
      canonical_varint.seq fun count _ _ =>
        (parses_decodeParameterList admitInFill count.val 0 0).imp fun _ _ holds => holds.2.1
    obtain ⟨_, _, _, admitted⟩ := admits value params (.of []) (wholly_ok.mp outcome)
    have agree : ∀ p ∈ params, checkLocationFilterWith fill p =
        checkLocationFilterWith (fun _ => .ok ()) p := by
      intro p member
      have allowed := admitted p member
      have outside : p.key.val ≠ fillParameters := by
        intro inside
        simp [admitInFill, inside, fillParameters, fillParametersAllowed] at allowed
      by_cases filter : p.key.val = locationFilter
      · simp only [checkLocationFilterWith, filter, ↓reduceIte]
      · simp [checkLocationFilterWith, outside, filter]
    have same : checkAll (checkLocationFilterWith fill) params =
        checkAll (checkLocationFilterWith fun _ => .ok ()) params := checkAll_congr agree
    simp only [bind, Except.bind, same]

/-- The source's recursion: the block's own filters and blocks are checked the same way. -/
theorem decodeFillParameters_eq (value : Bytes) :
    decodeFillParameters value = decodeFillParametersWith checkFillParameters value :=
  (decodeFillParametersWith_any checkFillParameters value).symm

/-- A list that keeps to the table is read back with its wire-form values minimal. -/
theorem reads_decodeParameters {ps : List KeyValuePair} {bytes : Bytes}
    (fits : ∀ p ∈ ps, FitsTable p) (wrote : encodeParameters ps = .ok bytes)
    (short : bytes.length ≤ maxMessageLength) :
    Reads decodeParameters bytes (ps.map minimalParameter) := by
  obtain ⟨_, tokens, wrote⟩ := except_bind_ok wrote
  obtain ⟨_, filters, wrote⟩ := except_bind_ok wrote
  obtain ⟨list, wroteList, wrote⟩ := except_bind_ok wrote
  cases wrote
  rw [List.length_append] at short
  have few := encodeParameterList_length wroteList
  have count : (VarInt.ofU64 ps.length).val = ps.length :=
    VarInt.val_ofU64 (by unfold maxMessageLength at short; omega)
  refine (reads_varint _).bind ?_
  rw [count, ← List.append_nil list]
  refine (reads_decodeParameterList fits (fun _ _ => rfl) (checkAll_ok.mp filters) wroteList).bind ?_
  refine Reads.check (a := ()) ?_ (Reads.check (a := ()) ?_ (Reads.pure _))
  · refine checkAll_ok.mpr (List.forall_mem_map.mpr fun p member => ?_)
    rw [checkAuthorizationToken_minimal]
    exact checkAll_ok.mp tokens p member
  · refine checkAll_ok.mpr (List.forall_mem_map.mpr fun p member => ?_)
    exact checkLocationFilter_minimal (checkAll_ok.mp filters p member)

/-- What `decode_parameters` accepts keeps to the table, is minimal, and is written
again in no more bytes. -/
theorem parses_decodeParameters :
    Parses decodeParameters fun ps used =>
      (∀ p ∈ ps, FitsTable p ∧ minimalParameter p = p) ∧ (used.length ≤ maxMessageLength →
        ∃ bytes, encodeParameters ps = .ok bytes ∧ bytes.length ≤ used.length) := by
  refine canonical_varint.seq fun count front ⟨_, _, leCount⟩ => ?_
  refine (parses_decodeParameterList admitAny count.val 0 0).seq
    fun ps back ⟨length, _, kept, relisted⟩ => ?_
  refine Parses.check fun _ tokens => Parses.check fun _ filters => Parses.ret ⟨kept, fun small => ?_⟩
  simp only [List.length_append, List.length_nil, Nat.add_zero, maxMessageLength] at small
  obtain ⟨bytes, wrote, le⟩ := relisted (by unfold maxKvpValueLen; omega)
  refine ⟨count.encodeMoqt wire ++ bytes, ?_, ?_⟩
  · simp only [encodeParameters, tokens, filters, wrote, length, VarInt.ofU64_val, bind, Except.bind,
      pure, Except.pure]
  · simp only [List.length_append, List.length_nil, Nat.add_zero]
    omega

end Moqtap.Draft22.Parameters
