import Moqtap.Draft22EndpointState

/-! Location filters and FILL_PARAMETERS as a subscriber builds them (`draft22/fill.rs`).
The builder has its own table of shapes and its own delta chain, and compares no more of
what the codec reads back than how many parameters it is. `fill_sent_as_built` says that
this is enough: what a block that was built reads back as is what went into it, and a
reader of the fill starts in the Group Order it names. -/
namespace Moqtap.Draft22.Client
open ByteCursor Varint CodecTypes Parameters
open FetchStream (GroupOrder)

/-! ## Location filters -/

namespace LocationFilter

/-- `start_group.checked_add(delta)`. -/
def checkEndGroup (startGroup delta : UInt64) : Except FillError Unit :=
  refuseIf (2 ^ 64 ≤ startGroup.toNat + delta.toNat) (.endGroupOverflow startGroup.toNat delta.toNat)

def none : LocationFilter := ⟨0x00, []⟩

def relative (startGroup : UInt64) : LocationFilter := ⟨0x01, [startGroup.toNat]⟩

def absoluteStart (startGroup startObject : UInt64) : LocationFilter :=
  ⟨0x02, [startGroup.toNat, startObject.toNat]⟩

def nextObject : LocationFilter := ⟨0x05, []⟩

def range (startGroup startObject endGroupDelta : UInt64) : Except FillError LocationFilter := do
  checkEndGroup startGroup endGroupDelta
  return ⟨0x03, [startGroup.toNat, startObject.toNat, endGroupDelta.toNat]⟩

def rangeTo (startGroup startObject endGroupDelta endObject : UInt64) :
    Except FillError LocationFilter := do
  checkEndGroup startGroup endGroupDelta
  return ⟨0x04, [startGroup.toNat, startObject.toNat, endGroupDelta.toNat, endObject.toNat]⟩

/-- What the constructors return. -/
inductive Constructed : LocationFilter → Prop
  | none : Constructed none
  | relative (startGroup : UInt64) : Constructed (relative startGroup)
  | absoluteStart (startGroup startObject : UInt64) : Constructed (absoluteStart startGroup startObject)
  | nextObject : Constructed nextObject
  | range {startGroup startObject endGroupDelta : UInt64} {filter : LocationFilter}
      (made : range startGroup startObject endGroupDelta = .ok filter) : Constructed filter
  | rangeTo {startGroup startObject endGroupDelta endObject : UInt64} {filter : LocationFilter}
      (made : rangeTo startGroup startObject endGroupDelta endObject = .ok filter) : Constructed filter

end LocationFilter

/-! ## Blocks of fill parameters -/

structure FillParameters where
  inner : List KeyValuePair
  deriving DecidableEq

def encodeGroupOrder : GroupOrder → Nat
  | .ascending => 0x1
  | .descending => 0x2

namespace FillParameters

/-- The builder's own copy of Table 7. -/
def allowed : List Nat := [0x0A, 0x20, 0x21, 0x22, 0x25, 0x26, 0x27, 0x28]

def mayRepeat (key : Nat) : Bool := decide (0x25 ≤ key) && decide (key ≤ 0x29)

def isUint8 (key : Nat) : Bool := key == 0x20 || key == groupOrderKey

def isBareVarint (key : Nat) : Bool := key == 0x0A

def isLengthPrefixed (key : Nat) : Bool := decide (0x25 ≤ key) && decide (key ≤ 0x28)

def inherited : FillParameters := ⟨[]⟩

def «with» (fill : FillParameters) (parameter : KeyValuePair) : Except FillError FillParameters := do
  let key := parameter.key.val
  refuseIf (!allowed.contains key) (.notAFillParameter key)
  refuseIf (!mayRepeat key && fill.inner.any fun p => p.key.val == key) (.repeatedFillParameter key)
  return ⟨fill.inner ++ [parameter]⟩

def withRange (fill : FillParameters) (filter : LocationFilter) : Except FillError FillParameters := do
  let parameter ← filter.parameter
  fill.with parameter

def withGroupOrder (fill : FillParameters) (order : GroupOrder) : Except FillError FillParameters :=
  fill.with ⟨VarInt.ofU64 groupOrderKey, .varint (VarInt.ofU64 (encodeGroupOrder order))⟩

def encodeNestedValue (key : Nat) (value : KvpValue) : Except FillError Bytes :=
  match value with
  | .varint v =>
    if isUint8 key then do
      refuseIf (255 < v.val)
        (.malformedValue key "a uint8 parameter's value does not fit one byte")
      return [UInt8.ofNat v.val]
    else if isBareVarint key then .ok (v.encodeMoqt wire)
    else .error (.malformedValue key "a bare varint where the type defines a structure")
  | .bytes bytes =>
    if isLengthPrefixed key then .ok (putLengthPrefixed wire bytes)
    else if key = locationFilter then do
      let _ ← (decodeLocationFilter bytes).mapError fun _ => FillError.malformedValue key
        "bytes that are not a Location Filter Type and the fields it names"
      return bytes
    else .error (.malformedValue key "bytes where the type defines a bare varint or a uint8")

/-- `sort_by_key`, which is stable. -/
def sorted (fill : FillParameters) : List KeyValuePair :=
  fill.inner.mergeSort fun a b => a.key.val ≤ b.key.val

/-- The loop of `parameter`: the types delta-encoded, each value in its own shape. -/
def encodeNested : List KeyValuePair → Nat → Except FillError Bytes
  | [], _ => .ok []
  | p :: rest, prevKey => do
    let value ← encodeNestedValue p.key.val p.value
    let tail ← encodeNested rest p.key.val
    return (VarInt.ofU64 (p.key.val - prevKey)).encodeMoqt wire ++ (value ++ tail)

def parameter (fill : FillParameters) : Except FillError KeyValuePair := do
  let nested ← encodeNested fill.sorted 0
  let value := (VarInt.ofU64 fill.sorted.length).encodeMoqt wire ++ nested
  let read ← (decodeFillParameters value).mapError .notRoundTrippable
  refuseIf (read.length != fill.sorted.length) .notReadBack
  return ⟨VarInt.ofU64 fillParameters, .bytes value⟩

/-- What a sequence of the builder's calls makes, a byte value's length a `usize`. -/
inductive Made : FillParameters → Prop
  | inherited : Made inherited
  | «with» {fill next : FillParameters} {parameter : KeyValuePair} (made : Made fill)
      (held : ∀ bytes, parameter.value = .bytes bytes → bytes.length < 2 ^ 64)
      (added : fill.with parameter = .ok next) : Made next
  | withRange {fill next : FillParameters} {filter : LocationFilter} (made : Made fill)
      (added : fill.withRange filter = .ok next) : Made next
  | withGroupOrder {fill next : FillParameters} {order : GroupOrder} (made : Made fill)
      (added : fill.withGroupOrder order = .ok next) : Made next

/-! ## What a block is read back as -/

/-- The types a nested value may have, and how the codec's table has them encoded. -/
theorem allowed_encoding {key : Nat} (known : allowed.contains key = true) :
    paramEncoding key = some .varint ∧ isUint8 key = false ∧ isBareVarint key = true ∧
        isLengthPrefixed key = false ∧ key ≠ locationFilter ∨
      paramEncoding key = some .uint8 ∧ isUint8 key = true ∧
        isLengthPrefixed key = false ∧ key ≠ locationFilter ∨
      paramEncoding key = some .locationFilter ∧ isUint8 key = false ∧ isBareVarint key = false ∧
        isLengthPrefixed key = false ∧ key = locationFilter ∨
      paramEncoding key = some .lengthPrefixed ∧ isUint8 key = false ∧ isBareVarint key = false ∧
        isLengthPrefixed key = true ∧ key ≠ locationFilter := by
  simp only [allowed, List.contains_cons, List.contains_nil, Bool.or_false, Bool.or_eq_true,
    beq_iff_eq] at known
  rcases known with rfl | rfl | rfl | rfl | rfl | rfl | rfl | rfl <;> decide

/-- A reader that takes a value off its bytes takes no other. -/
theorem reads_only {α : Type} {reader : Reader CodecError α} {bytes rest : Bytes} {pad : Nat}
    {a b : α} {after : Cursor} (reads : Reads reader bytes a)
    (ran : reader ⟨bytes ++ rest, pad⟩ = .ok (b, after)) : b = a ∧ after = ⟨rest, pad⟩ := by
  rw [reads] at ran
  cases ran
  exact ⟨rfl, rfl⟩

theorem mapError_ok {ε ε' α : Type} {f : ε → ε'} {result : Except ε α} {a : α} :
    result.mapError f = .ok a ↔ result = .ok a := by
  cases result <;> simp [Except.mapError]

/-- A GROUP_ORDER the codec reads is one of the two there are. -/
theorem order_of_inRange {v : VarInt} (inRange : uint8ValueInRange groupOrderKey v.val = true) :
    ∃ order, v = VarInt.ofU64 (encodeGroupOrder order) := by
  have values : v.val = 1 ∨ v.val = 2 := by simpa [uint8ValueInRange, groupOrderKey] using inRange
  rcases values with one | two
  · exact ⟨.ascending, by rw [← VarInt.ofU64_val v, one]; rfl⟩
  · exact ⟨.descending, by rw [← VarInt.ofU64_val v, two]; rfl⟩

/-- One nested value: if it is read back, it is read back as it was put in. -/
theorem read_nested_value {p : KeyValuePair} {bytes rest : Bytes} {encoding : ParamEncoding}
    {pad : Nat} {value : KvpValue} {after : Cursor} (table : allowed.contains p.key.val = true)
    (known : paramEncoding p.key.val = some encoding)
    (held : ∀ b, isLengthPrefixed p.key.val = true → p.value = .bytes b → b.length < 2 ^ 64)
    (wrote : encodeNestedValue p.key.val p.value = .ok bytes)
    (ran : decodeParameterValue encoding p.key.val ⟨bytes ++ rest, pad⟩ = .ok (value, after)) :
    value = (minimalParameter p).value ∧ after = ⟨rest, pad⟩ ∧
      (p.key.val = groupOrderKey →
        ∃ order, p.value = .varint (VarInt.ofU64 (encodeGroupOrder order))) := by
  obtain ⟨key, held'⟩ := p
  dsimp only at *
  have shapes := allowed_encoding table
  rw [known] at shapes
  cases held' with
  | varint v =>
    simp only [encodeNestedValue] at wrote
    rcases shapes with ⟨same, byte, bare, -⟩ | ⟨same, byte, -⟩ | ⟨-, byte, bare, -⟩ | ⟨-, byte, bare, -⟩
    · cases same
      simp only [byte, bare, Bool.false_eq_true, ↓reduceIte, Except.ok.injEq] at wrote
      subst wrote
      obtain ⟨rfl, rfl⟩ := reads_only ((reads_varint v).wrap KvpValue.varint) ran
      refine ⟨rfl, rfl, fun order => ?_⟩
      rw [order] at byte
      cases byte
    · cases same
      simp only [byte, ↓reduceIte] at wrote
      obtain ⟨_, small, wrote⟩ := except_bind_ok wrote
      cases wrote
      simp only [refuseIf_ok, decide_eq_false_iff_not, Nat.not_lt] at small
      have carried : (UInt8.ofNat v.val).toNat = v.val := by
        rw [UInt8.toNat_ofNat']
        omega
      obtain ⟨byte, middle, taken, ran⟩ := bind_success ran
      obtain ⟨rfl, rfl⟩ := reads_only (reads_takeByte _ _) taken
      obtain ⟨_, middle, checked, ran⟩ := bind_success ran
      obtain ⟨inRange, rfl⟩ := lift_success checked
      rw [carried] at inRange ran
      cases ran
      simp only [refuseIf_ok, Bool.not_eq_false'] at inRange
      refine ⟨by rw [VarInt.ofU64_val]; rfl, rfl, fun order => ?_⟩
      rw [order] at inRange
      obtain ⟨order, rfl⟩ := order_of_inRange inRange
      exact ⟨order, rfl⟩
    · simp [byte, bare] at wrote
    · simp [byte, bare] at wrote
  | bytes b =>
    simp only [encodeNestedValue] at wrote
    rcases shapes with ⟨-, -, -, long, other⟩ | ⟨-, -, long, other⟩ | ⟨same, byte, -, long, isFilter⟩ |
      ⟨same, byte, -, long, other⟩
    · simp [long, other] at wrote
    · simp [long, other] at wrote
    · cases same
      rw [if_neg (by simp [long]), if_pos isFilter] at wrote
      obtain ⟨filter, decoded, wrote⟩ := except_bind_ok wrote
      cases wrote
      have all := decodeLocationFilter_ok.mp (mapError_ok.mp decoded)
      have reads := (canonical_readLocationFilter.whole all).1.wrap fun f =>
        KvpValue.bytes (writeLocationFilter f)
      obtain ⟨rfl, rfl⟩ := reads_only reads ran
      refine ⟨by simp [minimalParameter, known, minimalWireForm, canonicalForm_eq all], rfl, ?_⟩
      intro order
      rw [order] at isFilter
      cases isFilter
    · cases same
      simp only [long, ↓reduceIte, Except.ok.injEq] at wrote
      subst wrote
      have reads : Reads (lengthPrefixed wire noCheck) (putLengthPrefixed wire b) b :=
        reads_lengthPrefixed (held b long rfl) rfl
      obtain ⟨rfl, rfl⟩ := reads_only (reads.wrap KvpValue.bytes) ran
      refine ⟨by simp [minimalParameter, known, minimalWireForm], rfl, fun order => ?_⟩
      rw [order] at byte
      cases byte

/-- A nested parameter the builder takes: of a type in its table, its length a `usize`. -/
def Nestable (p : KeyValuePair) : Prop :=
  allowed.contains p.key.val = true ∧
    ∀ bytes, isLengthPrefixed p.key.val = true → p.value = .bytes bytes → bytes.length < 2 ^ 64

/-- The whole chain: if it is read back, it is read back as it was written. -/
theorem read_nested {ps read : List KeyValuePair} {i prevKey : Nat} {bytes rest : Bytes} {pad : Nat}
    {after : Cursor} (nestable : ∀ p ∈ ps, Nestable p)
    (ascends : ps.Pairwise fun a b => a.key.val ≤ b.key.val) (behind : ∀ p ∈ ps, prevKey ≤ p.key.val)
    (wrote : encodeNested ps prevKey = .ok bytes)
    (ran : decodeParameterList admitInFill ps.length i prevKey ⟨bytes ++ rest, pad⟩ =
      .ok (read, after)) :
    read = ps.map minimalParameter ∧ after = ⟨rest, pad⟩ ∧
      ∀ p ∈ ps, p.key.val = groupOrderKey →
        ∃ order, p.value = .varint (VarInt.ofU64 (encodeGroupOrder order)) := by
  induction ps generalizing read i prevKey bytes with
  | nil =>
    cases wrote
    cases ran
    exact ⟨rfl, rfl, fun p member => (by cases member)⟩
  | cons p ps ih =>
    obtain ⟨value, wroteValue, wrote⟩ := except_bind_ok wrote
    obtain ⟨tail, wroteTail, wrote⟩ := except_bind_ok wrote
    cases wrote
    obtain ⟨below, ascends⟩ := List.pairwise_cons.mp ascends
    have bound := p.key.isLt
    have reached := behind p List.mem_cons_self
    have carried : (VarInt.ofU64 (p.key.val - prevKey)).val = p.key.val - prevKey :=
      VarInt.val_ofU64 (by omega)
    obtain ⟨delta, middle, took, ran⟩ := bind_success ran
    rw [List.append_assoc] at took
    obtain ⟨rfl, rfl⟩ := reads_only (reads_varint _) took
    obtain ⟨absKey, middle, step, ran⟩ := bind_success ran
    obtain ⟨added, rfl⟩ := lift_success step
    rw [carried] at added ran
    obtain ⟨sum, -⟩ := addDelta_ok.mp added
    obtain rfl : absKey = p.key.val := by omega
    obtain ⟨_, middle, unrepeated, ran⟩ := bind_success ran
    obtain ⟨-, rfl⟩ := lift_success unrepeated
    obtain ⟨encoding, middle, looked, ran⟩ := bind_success ran
    obtain ⟨known, rfl⟩ := lift_success looked
    obtain ⟨_, middle, admitted, ran⟩ := bind_success ran
    obtain ⟨-, rfl⟩ := lift_success admitted
    obtain ⟨readValue, middle, tookValue, ran⟩ := bind_success ran
    rw [List.append_assoc] at tookValue
    obtain ⟨table, held⟩ := nestable p List.mem_cons_self
    obtain ⟨rfl, rfl, order⟩ := read_nested_value table (okOr_ok.mp known) held wroteValue tookValue
    obtain ⟨readRest, middle, tookRest, ran⟩ := bind_success ran
    cases ran
    obtain ⟨rfl, rfl, orders⟩ := ih (fun q member => nestable q (List.mem_cons_of_mem _ member)) ascends
      below wroteTail tookRest
    refine ⟨?_, rfl, List.forall_mem_cons.mpr ⟨order, orders⟩⟩
    rw [List.map_cons, VarInt.ofU64_val, ← minimalParameter_key p]

/-! ## What the builder holds -/

theorem with_ok {fill next : FillParameters} {parameter : KeyValuePair} :
    fill.with parameter = .ok next ↔ allowed.contains parameter.key.val = true ∧
      (mayRepeat parameter.key.val = true ∨ ∀ p ∈ fill.inner, p.key.val ≠ parameter.key.val) ∧
      next = ⟨fill.inner ++ [parameter]⟩ := by
  unfold «with»
  simp only [except_bind_iff, refuseIf_ok, pure, Except.pure, Except.ok.injEq]
  constructor
  · rintro ⟨_, table, _, single, rfl⟩
    refine ⟨by simpa using table, ?_, rfl⟩
    cases repeats : mayRepeat parameter.key.val with
    | true => exact .inl rfl
    | false => exact .inr (by simpa [repeats] using single)
  · rintro ⟨table, single, rfl⟩
    refine ⟨(), by simpa using table, (), ?_, rfl⟩
    rcases single with repeats | single
    · simp [repeats]
    · simpa using fun _ => single

/-- Everything in a block may stand there, and nothing but a Range Filter is there twice. -/
structure Kept (fill : FillParameters) : Prop where
  nestable : ∀ p ∈ fill.inner, Nestable p
  single : fill.inner.Pairwise fun a b => a.key.val = b.key.val → mayRepeat a.key.val = true

variable {fill next : FillParameters} {parameter : KeyValuePair}

theorem kept_with (kept : fill.Kept)
    (held : ∀ bytes, isLengthPrefixed parameter.key.val = true → parameter.value = .bytes bytes →
      bytes.length < 2 ^ 64) (added : fill.with parameter = .ok next) : next.Kept := by
  obtain ⟨table, single, rfl⟩ := with_ok.mp added
  constructor
  · intro p member
    rcases List.mem_append.mp member with earlier | last
    · exact kept.nestable p earlier
    · rw [List.mem_singleton.mp last]
      exact ⟨table, held⟩
  · refine List.pairwise_append.mpr ⟨kept.single, List.pairwise_singleton .., ?_⟩
    intro a earlier b last same
    rw [List.mem_singleton.mp last] at same
    rcases single with repeats | single
    · rwa [same]
    · exact absurd same (single a earlier)

theorem kept_of_made (made : Made fill) : fill.Kept := by
  induction made with
  | inherited => exact ⟨fun p member => (by cases member), List.Pairwise.nil⟩
  | «with» made held added ih => exact kept_with ih (fun bytes _ => held bytes) added
  | withRange made added ih =>
    obtain ⟨parameter, built, added⟩ := except_bind_ok added
    obtain ⟨read, -, built⟩ := except_bind_ok built
    obtain ⟨_, -, built⟩ := except_bind_ok built
    cases built
    refine kept_with ih (fun bytes long => ?_) added
    cases long
  | withGroupOrder made added ih => exact kept_with ih (fun bytes _ same => (by cases same)) added

/-! ## The order on the wire -/

theorem sorted_ascends (fill : FillParameters) :
    fill.sorted.Pairwise fun a b => a.key.val ≤ b.key.val := by
  have inOrder : fill.sorted.Pairwise fun a b => decide (a.key.val ≤ b.key.val) = true :=
    List.pairwise_mergeSort (fun a b c => by simpa using Nat.le_trans)
      (fun a b => by simpa using Nat.le_total ..) fill.inner
  simpa only [decide_eq_true_eq] using inOrder

/-- Parameters of one type stay in the order they were added. -/
theorem sorted_filter (fill : FillParameters) (key : Nat) :
    fill.sorted.filter (fun p => p.key.val == key) = fill.inner.filter fun p => p.key.val == key := by
  have one : (fill.inner.filter fun p => p.key.val == key).Pairwise
      fun a b => decide (a.key.val ≤ b.key.val) = true := by
    refine List.pairwise_of_forall_mem_list fun a first b second => ?_
    have first := (List.mem_filter.mp first).2
    have second := (List.mem_filter.mp second).2
    simp only [beq_iff_eq] at first second
    simp [first, second]
  have kept : (fill.inner.filter fun p => p.key.val == key).Sublist fill.sorted :=
    List.sublist_mergeSort (fun a b c => by simpa using Nat.le_trans)
      (fun a b => by simpa using Nat.le_total ..) one List.filter_sublist
  have whole := kept.filter fun p => p.key.val == key
  rw [List.filter_filter] at whole
  simp only [Bool.and_self] at whole
  refine (whole.eq_of_length ?_).symm
  exact ((List.mergeSort_perm fill.inner _).filter _).length_eq.symm

/-! ## The parameter -/

/-- A block that was built is read back as what went into it, in the order of the wire. -/
theorem parameter_ok (kept : fill.Kept) {sent : KeyValuePair} (built : fill.parameter = .ok sent) :
    ∃ value, sent = ⟨VarInt.ofU64 fillParameters, .bytes value⟩ ∧
      decodeFillParameters value = .ok (fill.sorted.map minimalParameter) ∧
      ∀ p ∈ fill.inner, p.key.val = groupOrderKey →
        ∃ order, p.value = .varint (VarInt.ofU64 (encodeGroupOrder order)) := by
  obtain ⟨nested, wrote, built⟩ := except_bind_ok built
  obtain ⟨read, decoded, built⟩ := except_bind_ok built
  obtain ⟨_, same, built⟩ := except_bind_ok built
  cases built
  have decoded := mapError_ok.mp decoded
  refine ⟨_, rfl, ?_⟩
  have members : ∀ p, p ∈ fill.sorted ↔ p ∈ fill.inner := fun p => List.mem_mergeSort
  obtain ⟨ps, all, checked⟩ := except_bind_ok decoded
  obtain ⟨_, -, checked⟩ := except_bind_ok checked
  cases checked
  obtain ⟨count, middle, counted, listed⟩ := bind_success (wholly_ok.mp all)
  obtain ⟨rfl, rfl⟩ := reads_only (reads_varint _) counted
  obtain ⟨-, -, -, length, -⟩ := parses_decodeParameterList admitInFill _ 0 0 _ _ _ listed
  simp only [refuseIf_ok, bne_eq_false_iff_eq] at same
  rw [same] at length
  rw [← length, ← List.append_nil nested] at listed
  obtain ⟨rfl, -, orders⟩ := read_nested (fun p member => kept.nestable p ((members p).mp member))
    fill.sorted_ascends (fun p _ => Nat.zero_le _) wrote listed
  exact ⟨decoded, fun p member => orders p ((members p).mpr member)⟩

/-! ## The Group Order of a fill -/

/-- Nothing but a location filter is rewritten. -/
theorem minimal_nested {p : KeyValuePair} (nestable : Nestable p) (other : p.key.val ≠ locationFilter) :
    minimalParameter p = p := by
  unfold minimalParameter
  split
  · rename_i bytes encoding value known
    rcases allowed_encoding nestable.1 with ⟨same, -⟩ | ⟨same, -⟩ | ⟨-, -, -, -, filter⟩ | ⟨same, -⟩
    · cases same.symm.trans known
      exact congrArg (KeyValuePair.mk p.key) value.symm
    · cases same.symm.trans known
      exact congrArg (KeyValuePair.mk p.key) value.symm
    · exact absurd filter other
    · cases same.symm.trans known
      exact congrArg (KeyValuePair.mk p.key) value.symm
  · rfl

/-- The codec finds in a block what the builder put there. -/
theorem find_read (fill : FillParameters) (key : Nat) :
    (fill.sorted.map minimalParameter).find? (fun p => p.key.val == key) =
      (fill.inner.find? fun p => p.key.val == key).map minimalParameter := by
  have keys : (fun p : KeyValuePair => p.key.val == key) ∘ minimalParameter =
      fun p => p.key.val == key := by
    funext p
    rw [Function.comp_apply, minimalParameter_key]
  rw [List.find?_map, keys, ← List.head?_filter, sorted_filter, List.head?_filter]

theorem readGroupOrder_order {ps : List KeyValuePair} {p : KeyValuePair} {order : GroupOrder}
    (found : ps.find? (fun p => p.key.val == groupOrderKey) = some p)
    (value : p.value = .varint (VarInt.ofU64 (encodeGroupOrder order))) :
    readGroupOrder ps = .ok (some order) := by
  rw [readGroupOrder, found]
  dsimp only
  rw [value]
  cases order <;> rfl

/-- How a nested parameter comes back: a location filter with minimal integers, and
anything else as it went in. -/
def ReadsAs (p q : KeyValuePair) : Prop :=
  if p.key.val = locationFilter then
    ∃ bytes filter, p.value = .bytes bytes ∧ decodeLocationFilter bytes = .ok filter ∧
      q = ⟨p.key, .bytes (writeLocationFilter filter)⟩
  else q = p

theorem encodeNested_each {ps : List KeyValuePair} {prevKey : Nat} {bytes : Bytes}
    (wrote : encodeNested ps prevKey = .ok bytes) :
    ∀ p ∈ ps, ∃ value, encodeNestedValue p.key.val p.value = .ok value := by
  induction ps generalizing prevKey bytes with
  | nil => exact fun p member => (by cases member)
  | cons p ps ih =>
    obtain ⟨value, wroteValue, wrote⟩ := except_bind_ok wrote
    obtain ⟨tail, wroteTail, -⟩ := except_bind_ok wrote
    exact List.forall_mem_cons.mpr ⟨⟨value, wroteValue⟩, ih wroteTail⟩

theorem readsAs_minimal (kept : fill.Kept) {sent p : KeyValuePair} (built : fill.parameter = .ok sent)
    (member : p ∈ fill.inner) : ReadsAs p (minimalParameter p) := by
  obtain ⟨nested, wrote, -⟩ := except_bind_ok built
  obtain ⟨written, wroteValue⟩ := encodeNested_each wrote p (List.mem_mergeSort.mpr member)
  have nestable := kept.nestable p member
  unfold ReadsAs
  split
  · rename_i filter
    rcases allowed_encoding nestable.1 with ⟨-, -, -, -, other⟩ | ⟨-, -, -, other⟩ |
      ⟨known, byte, bare, long, -⟩ | ⟨-, -, -, -, other⟩
    · exact absurd filter other
    · exact absurd filter other
    · obtain ⟨key, value⟩ := p
      cases value with
      | varint v => simp [encodeNestedValue, byte, bare] at wroteValue
      | bytes bytes =>
        dsimp only [encodeNestedValue] at wroteValue
        rw [if_neg (by simp [long]), if_pos filter] at wroteValue
        obtain ⟨read, decoded, -⟩ := except_bind_ok wroteValue
        have decoded := mapError_ok.mp decoded
        refine ⟨bytes, read, rfl, decoded, ?_⟩
        simp only [minimalParameter, known, minimalWireForm,
          canonicalForm_eq (decodeLocationFilter_ok.mp decoded)]
    · exact absurd filter other
  · rename_i other
    exact minimal_nested nestable other

/-- A type that may not repeat is found where it was added. -/
theorem find_only {ps : List KeyValuePair} {p : KeyValuePair} {key : Nat}
    (single : ps.Pairwise fun a b => a.key.val = b.key.val → mayRepeat a.key.val = true)
    (once : mayRepeat key = false) (member : p ∈ ps) (same : p.key.val = key) :
    ps.find? (fun p => p.key.val == key) = some p := by
  induction ps with
  | nil => cases member
  | cons q ps ih =>
    obtain ⟨apart, single⟩ := List.pairwise_cons.mp single
    rcases List.mem_cons.mp member with rfl | later
    · simp [same]
    · have other : q.key.val ≠ key := by
        intro here
        have repeats := apart p later (here.trans same.symm)
        rw [here, once] at repeats
        cases repeats
      rw [List.find?_cons_of_neg (by simpa using other)]
      exact ih single later

/-- The nested GROUP_ORDER answers for a fill, if there is one, and the request's own if not. -/
theorem groupOrder_of_block (kept : fill.Kept) {sent : KeyValuePair} {parameters : List KeyValuePair}
    (built : fill.parameter = .ok sent)
    (first : parameters.find? (fun p => p.key.val == fillParameters) = some sent) :
    (∀ p ∈ fill.inner, p.key.val = groupOrderKey → ∃ order,
      p.value = .varint (VarInt.ofU64 (encodeGroupOrder order)) ∧ groupOrder parameters = .ok order) ∧
    ((∀ p ∈ fill.inner, p.key.val ≠ groupOrderKey) →
      groupOrder parameters = (readGroupOrder parameters).map (·.getD .ascending)) := by
  obtain ⟨value, rfl, decoded, orders⟩ := parameter_ok kept built
  have found := find_read fill groupOrderKey
  have answer : groupOrder parameters =
      (readGroupOrder (fill.sorted.map minimalParameter)).bind fun nested =>
        nested.elim ((readGroupOrder parameters).map (·.getD .ascending)) .ok := by
    unfold groupOrder
    rw [first]
    dsimp only
    rw [decoded]
    change (readGroupOrder (fill.sorted.map minimalParameter)).bind _ = _
    congr 1
    funext nested
    cases nested with
    | none => rfl
    | some order => rfl
  rw [answer]
  constructor
  · intro p member isOrder
    obtain ⟨order, same⟩ := orders p member isOrder
    refine ⟨order, same, ?_⟩
    rw [find_only kept.single rfl member isOrder] at found
    have value : (minimalParameter p).value = .varint (VarInt.ofU64 (encodeGroupOrder order)) := by
      simp [minimalParameter, same]
    rw [readGroupOrder_order found value]
    rfl
  · intro none
    have absent : fill.inner.find? (fun p => p.key.val == groupOrderKey) = .none := by
      rw [List.find?_eq_none]
      simpa using none
    rw [absent] at found
    rw [readGroupOrder, found]
    rfl

end FillParameters

/-! ## What is sent -/

/-- What a constructor returns is written in integers that fit, as many as its type names,
and ends at a group that fits. -/
theorem LocationFilter.Constructed.fits {filter : LocationFilter} (made : filter.Constructed) :
    filter.filterType < 2 ^ 64 ∧ (∀ field ∈ filter.fields, field < 2 ^ 64) ∧
      locationFilterFieldCount filter.filterType = some filter.fields.length ∧
      ∀ startGroup startObject delta rest,
        filter.fields = startGroup :: startObject :: delta :: rest → startGroup + delta < 2 ^ 64 := by
  have small (n : UInt64) : n.toNat < 18446744073709551616 := n.toNat_lt
  cases made with
  | none => simp [LocationFilter.none, locationFilterFieldCount]
  | nextObject => simp [LocationFilter.nextObject, locationFilterFieldCount]
  | relative startGroup => simp [LocationFilter.relative, locationFilterFieldCount, small]
  | absoluteStart startGroup startObject =>
    simp [LocationFilter.absoluteStart, locationFilterFieldCount, small]
  | range made =>
    obtain ⟨_, checked, made⟩ := except_bind_ok made
    cases made
    simp only [checkEndGroup, refuseIf_ok, decide_eq_false_iff_not, Nat.not_le] at checked
    refine ⟨by simp, by simp [small], rfl, ?_⟩
    rintro _ _ _ _ ⟨⟩
    exact checked
  | rangeTo made =>
    obtain ⟨_, checked, made⟩ := except_bind_ok made
    cases made
    simp only [checkEndGroup, refuseIf_ok, decide_eq_false_iff_not, Nat.not_le] at checked
    refine ⟨by simp, by simp [small], rfl, ?_⟩
    rintro _ _ _ _ ⟨⟩
    exact checked

/-- A constructed filter is read back off what is written of it. -/
theorem LocationFilter.Constructed.read_back {filter : LocationFilter} (made : filter.Constructed) :
    decodeLocationFilter (writeLocationFilter (filter.filterType, filter.fields)) =
      .ok (filter.filterType, filter.fields) := by
  obtain ⟨small, fields, count, -⟩ := made.fits
  refine decodeLocationFilter_ok.mpr (Reads.all ?_)
  refine (reads_filterInteger _ small).bind (Reads.check (a := filter.fields.length) ?_ ?_)
  · simpa using count
  · exact (reads_readFilterFields fields).wrap _

theorem LocationFilter.Constructed.survives {filter : LocationFilter} (made : filter.Constructed) :
    filter.parameter = .ok ⟨VarInt.ofU64 locationFilter,
      .bytes (writeLocationFilter (filter.filterType, filter.fields))⟩ := by
  unfold LocationFilter.parameter
  dsimp only
  rw [made.read_back]
  simp [Except.mapError, refuseIf, bind, Except.bind, pure, Except.pure]

open FillParameters in
/-- What a subscriber builds is sent as it was built. A block the builder lets through is
read back as its parameters in ascending type order, those of one type in the order they
were added; in a request it is the FILL_PARAMETERS of, a fill arrives in the nested Group
Order if there is one, else in the one the request's own says, else Ascending. A location
filter that was constructed comes back with its type and its fields, ending at a group that
fits 64 bits. -/
theorem fill_sent_as_built :
    (∀ fill sent, Made fill → fill.parameter = .ok sent →
      (∃ value read, sent = ⟨VarInt.ofU64 fillParameters, .bytes value⟩ ∧
        decodeFillParameters value = .ok read ∧
        read.Pairwise (fun a b => a.key.val ≤ b.key.val) ∧
        (∀ key, read.filter (fun p => p.key.val == key) =
          (fill.inner.filter fun p => p.key.val == key).map minimalParameter) ∧
        ∀ p ∈ fill.inner, ReadsAs p (minimalParameter p)) ∧
      ∀ parameters, parameters.find? (fun p => p.key.val == fillParameters) = some sent →
        (∀ p ∈ fill.inner, p.key.val = groupOrderKey → ∃ order,
          p.value = .varint (VarInt.ofU64 (encodeGroupOrder order)) ∧
            groupOrder parameters = .ok order) ∧
        ((∀ p ∈ fill.inner, p.key.val ≠ groupOrderKey) →
          groupOrder parameters = (readGroupOrder parameters).map (·.getD .ascending))) ∧
    ∀ filter, LocationFilter.Constructed filter →
      (∃ value, filter.parameter = .ok ⟨VarInt.ofU64 locationFilter, .bytes value⟩ ∧
        decodeLocationFilter value = .ok (filter.filterType, filter.fields)) ∧
      ∀ startGroup startObject delta rest,
        filter.fields = startGroup :: startObject :: delta :: rest → startGroup + delta < 2 ^ 64 := by
  constructor
  · intro fill sent made built
    have kept := kept_of_made made
    refine ⟨?_, fun parameters first => groupOrder_of_block kept built first⟩
    obtain ⟨value, same, decoded, -⟩ := parameter_ok kept built
    refine ⟨value, _, same, decoded, ?_, ?_, fun p member => readsAs_minimal kept built member⟩
    · refine List.pairwise_map.mpr (fill.sorted_ascends.imp fun below => ?_)
      simpa using below
    · intro key
      have keys : (fun p : KeyValuePair => p.key.val == key) ∘ minimalParameter =
          fun p => p.key.val == key := by
        funext p
        rw [Function.comp_apply, minimalParameter_key]
      rw [List.filter_map, keys, sorted_filter]
  · intro filter made
    exact ⟨⟨_, made.survives, made.read_back⟩, made.fits.2.2.2⟩

/-- A block that asks for its fill in descending groups, and what is sent of it. -/
def descendingFill : FillParameters :=
  ⟨[⟨VarInt.ofU64 groupOrderKey, .varint (VarInt.ofU64 (encodeGroupOrder .descending))⟩]⟩

def descendingSent : KeyValuePair := ⟨VarInt.ofU64 fillParameters, .bytes [1, 0x22, 2]⟩

def inheritedSent : KeyValuePair := ⟨VarInt.ofU64 fillParameters, .bytes [0]⟩

theorem descendingFill_sent : descendingFill.parameter = .ok descendingSent := by
  rw [FillParameters.parameter, FillParameters.sorted, descendingFill, List.mergeSort_singleton]
  rfl

theorem inherited_sent : FillParameters.inherited.parameter = .ok inheritedSent := by
  rw [FillParameters.parameter, FillParameters.sorted, FillParameters.inherited, List.mergeSort_nil]
  rfl

open FillParameters in
/-- Of two blocks in one list only the first is read. -/
theorem first_fill_read :
    ¬ ∀ fill sent parameters, Made fill → fill.parameter = .ok sent → sent ∈ parameters →
      ∃ order, groupOrder parameters = .ok order ∧
        (∀ p ∈ fill.inner, p.key.val = groupOrderKey →
          p.value = .varint (VarInt.ofU64 (encodeGroupOrder order))) ∧
        ((∀ p ∈ fill.inner, p.key.val ≠ groupOrderKey) →
          (∀ own, parameters.find? (fun p => p.key.val == groupOrderKey) = some own →
            own.value = .varint (VarInt.ofU64 (encodeGroupOrder order))) ∧
          ((∀ p ∈ parameters, p.key.val ≠ groupOrderKey) → order = .ascending)) := by
  intro claimed
  have made : Made descendingFill := @Made.withGroupOrder _ _ .descending .inherited rfl
  obtain ⟨order, answer, nested, -⟩ := claimed descendingFill descendingSent
    [inheritedSent, descendingSent] made descendingFill_sent (by simp)
  have ascending : groupOrder [inheritedSent, descendingSent] = .ok .ascending := rfl
  cases ascending.symm.trans answer
  cases nested _ List.mem_cons_self rfl

end Moqtap.Draft22.Client
