import Moqtap.Varint

/-! The codec's shared types (`error.rs`, `kvp.rs`, `types.rs`, `auth_token.rs`):
errors, key-value pairs, length-prefixed bytes, Track Namespaces and
Authorization Tokens in the MoQT integer encoding. -/
namespace Moqtap.CodecTypes
open ByteCursor Varint

def maxMessageLength : Nat := 65535
def maxReasonPhraseLength : Nat := 1024
def maxGoawayUriLength : Nat := 8192
def maxFullTrackNameLength : Nat := 4096
def maxNamespaceTupleSize : Nat := 32
def maxKvpValueLen : Nat := 65535

inductive KvpError where
  | missingLength
  | valueTooLong (len : Nat)
  | unexpectedEnd
  | varInt (error : VarIntError)
  deriving DecidableEq, Repr

inductive CodecError where
  | unknownMessageType (id : Nat)
  | unexpectedEnd
  | messageTooLong (len : Nat)
  | varInt (error : VarIntError)
  | kvp (error : KvpError)
  | invalidField
  | invalidNamespaceTupleSize (fields : Nat)
  | emptyNamespaceField
  | trackNameTooLong
  | keyValueFormatting (key : Nat) (detail : String)
  | unknownMessageParameter (key : Nat)
  | parameterOutOfScope (key messageType : Nat)
  | duplicateParameter (key : Nat)
  | keyDeltaOverflow (prevKey delta : Nat)
  | parametersOutOfOrder (prevKey key : Nat)
  | parameterValueOutOfRange (key value : Nat)
  | trackPropertyValueOutOfRange (key value : Nat)
  | controlMessageLengthMismatch (declared : Nat) (detail : String)
  | reasonPhraseTooLong
  | goAwayUriTooLong
  | invalidFilterType (filterType : Nat)
  | subscriptionFilterMalformed (detail : String)
  | filterEndGroupOverflow (startGroup delta : Nat)
  | unsupportedDraft (detail : String)
  | unknownStreamType (raw : Nat)
  | invalidStreamTypeValue (raw : Nat) (detail : String)
  | objectIdOverflow (prev delta : Nat)
  | malformedObjectProperties (offset : Nat) (detail : String)
  | payloadNotPermitted (status len : Nat) (detail : String)
  | invalidRange (startGroup startObject endGroup endObject : Nat)
  deriving DecidableEq, Repr

/-- The spellings of "the buffer ended first". -/
def CodecError.isIncomplete : CodecError → Bool
  | .unexpectedEnd | .varInt .unexpectedEnd | .kvp .unexpectedEnd
  | .kvp (.varInt .unexpectedEnd) => true
  | _ => false

def CodecError.Incomplete (error : CodecError) : Prop := error.isIncomplete = true

theorem incomplete_unexpectedEnd : CodecError.Incomplete .unexpectedEnd := rfl

inductive KvpValue where
  | varint (value : VarInt)
  | bytes (value : Bytes)
  deriving DecidableEq, Repr

structure KeyValuePair where
  key : VarInt
  value : KvpValue
  deriving DecidableEq, Repr

/-! ## Draft versions -/

inductive DraftVersion where
  | draft07 | draft08 | draft09 | draft10 | draft11 | draft12 | draft13 | draft14
  | draft15 | draft16 | draft17 | draft18 | draft19 | draft20 | draft21 | draft22
  deriving DecidableEq, Repr

/-- The `Debug` name. -/
def DraftVersion.name : DraftVersion → String
  | .draft07 => "Draft07"
  | .draft08 => "Draft08"
  | .draft09 => "Draft09"
  | .draft10 => "Draft10"
  | .draft11 => "Draft11"
  | .draft12 => "Draft12"
  | .draft13 => "Draft13"
  | .draft14 => "Draft14"
  | .draft15 => "Draft15"
  | .draft16 => "Draft16"
  | .draft17 => "Draft17"
  | .draft18 => "Draft18"
  | .draft19 => "Draft19"
  | .draft20 => "Draft20"
  | .draft21 => "Draft21"
  | .draft22 => "Draft22"

/-- `VarIntEncoding`: how a draft writes its integers. -/
inductive VarIntEncoding where
  | rfc9000
  | moqt (profile : MoqtProfile)
  deriving DecidableEq, Repr

namespace DraftVersion

def number : DraftVersion → Nat
  | draft07 => 7
  | draft08 => 8
  | draft09 => 9
  | draft10 => 10
  | draft11 => 11
  | draft12 => 12
  | draft13 => 13
  | draft14 => 14
  | draft15 => 15
  | draft16 => 16
  | draft17 => 17
  | draft18 => 18
  | draft19 => 19
  | draft20 => 20
  | draft21 => 21
  | draft22 => 22

def fromNumber : Nat → Option DraftVersion
  | 7 => some draft07
  | 8 => some draft08
  | 9 => some draft09
  | 10 => some draft10
  | 11 => some draft11
  | 12 => some draft12
  | 13 => some draft13
  | 14 => some draft14
  | 15 => some draft15
  | 16 => some draft16
  | 17 => some draft17
  | 18 => some draft18
  | 19 => some draft19
  | 20 => some draft20
  | 21 => some draft21
  | 22 => some draft22
  | _ => none

@[simp] theorem fromNumber_number (draft : DraftVersion) : fromNumber draft.number = some draft := by
  cases draft <;> rfl

theorem fromNumber_some {n : Nat} {draft : DraftVersion} (found : fromNumber n = some draft) :
    draft.number = n := by
  unfold fromNumber at found
  split at found <;> cases found <;> rfl

def varintEncoding : DraftVersion → VarIntEncoding
  | draft07 | draft08 | draft09 | draft10 | draft11 | draft12 | draft13 | draft14 | draft15
  | draft16 => .rfc9000
  | draft17 => .moqt .moqt17
  | draft18 | draft19 | draft20 | draft21 | draft22 => .moqt .moqt18

def usesMoqtVarint (draft : DraftVersion) : Bool := draft.varintEncoding != .rfc9000

/-- `number() >= 11`: a 16-bit control message length, not a varint. -/
def usesFixedLengthFraming : DraftVersion → Bool
  | draft07 | draft08 | draft09 | draft10 => false
  | _ => true

/-- The length of a variable-length integer, from its first byte. -/
def varintLen (draft : DraftVersion) (firstByte : UInt8) : Nat :=
  match draft.varintEncoding with
  | .rfc9000 => 1 <<< (firstByte.toNat >>> 6)
  | .moqt _ => if firstByte = 0xFF then 9 else VarInt.leadingOnes firstByte + 1

def decodeVarint (draft : DraftVersion) : Reader VarIntError VarInt :=
  match draft.varintEncoding with
  | .rfc9000 => VarInt.decode
  | .moqt profile => VarInt.decodeMoqt profile

def encodeVarint (draft : DraftVersion) (value : VarInt) : Bytes :=
  match draft.varintEncoding with
  | .rfc9000 => value.encode
  | .moqt profile => value.encodeMoqt profile

end DraftVersion

/-! ## Integers -/

/-- `u64::checked_add`. -/
def checkedAdd (a b : Nat) : Option Nat := if a + b < 2 ^ 64 then some (a + b) else none

/-- `u64::checked_sub`. -/
def checkedSub (a b : Nat) : Option Nat := if b ≤ a then some (a - b) else none

/-- `VarInt::from_u64(v).map_err(|_| CodecError::InvalidField)?`. -/
def validVarint (v : Nat) : Except CodecError VarInt :=
  (VarInt.fromU64 v).mapError fun _ => .invalidField

theorem checkedAdd_some {a b c : Nat} : checkedAdd a b = some c ↔ c = a + b ∧ c < 2 ^ 64 := by
  unfold checkedAdd
  split
  · simp only [Option.some.injEq]; omega
  · simp only [reduceCtorEq, false_iff]; omega

theorem checkedSub_some {a b c : Nat} : checkedSub a b = some c ↔ a = b + c := by
  unfold checkedSub
  split
  · simp only [Option.some.injEq]; omega
  · simp only [reduceCtorEq, false_iff]; omega

theorem validVarint_val {v : Nat} {w : VarInt} (ok : validVarint v = .ok w) : w.val = v := by
  unfold validVarint at ok
  cases made : VarInt.fromU64 v with
  | error e => simp [made, Except.mapError] at ok
  | ok u =>
    simp only [made, Except.mapError, Except.ok.injEq] at ok
    subst ok
    exact (VarInt.fromU64_success made).1

theorem validVarint_small {v : Nat} {w : VarInt} (ok : validVarint v = .ok w) : w.val ≤ maxVarint := by
  rw [validVarint_val ok]
  by_contra large
  unfold validVarint VarInt.fromU64 at ok
  rw [dif_neg large] at ok
  cases ok

/-! ## Varints and length-prefixed bytes -/

/-- `VarInt::decode_moqt::<P>(buf)?`, the error converted to a codec error. -/
def varint (profile : MoqtProfile) : Reader CodecError VarInt :=
  mapError .varInt (VarInt.decodeMoqt profile)

/-- `VarInt::decode(buf)?`, the form of drafts up to 16. -/
def varint9000 : Reader CodecError VarInt := mapError .varInt VarInt.decode

def readBytes (len : Nat) : Reader CodecError Bytes := takeBytes .unexpectedEnd len

def extensionBlock : Reader CodecError Bytes := do
  let len ← varint9000
  readBytes len.val

/-- A length read as a varint, `check`ed, and that many bytes. -/
def lengthPrefixed (profile : MoqtProfile) (check : Nat → Except CodecError Unit) :
    Reader CodecError Bytes := do
  let len ← varint profile
  lift (check len.val)
  readBytes len.val

def noCheck (_ : Nat) : Except CodecError Unit := .ok ()

/-- `VarInt::from_usize(b.len()).encode_moqt(buf); buf.put_slice(b)`. -/
def putLengthPrefixed (profile : MoqtProfile) (bytes : Bytes) : Bytes :=
  (VarInt.ofU64 bytes.length).encodeMoqt profile ++ bytes

/-- `usize::saturating_add`. -/
def saturatingAdd (a b : Nat) : Nat := min (a + b) (2 ^ 64 - 1)

section Reading
variable {profile : MoqtProfile}

theorem reads_varint (v : VarInt) : Reads (varint profile) (v.encodeMoqt profile) v :=
  (VarInt.reads_encodeMoqt profile v).mapError

theorem canonical_varint : Canonical (varint profile) (VarInt.encodeMoqt profile) := by
  refine (VarInt.parses_decodeMoqt profile).mapError.imp ?_
  rintro v used ⟨reads, le⟩
  exact ⟨reads.mapError, reads_varint v, by rwa [VarInt.encodeMoqt_length]⟩

theorem local_varint : Local (varint profile) := canonical_varint.isLocal

theorem exact_varint : Exact CodecError.Incomplete (varint profile) := by
  refine (VarInt.exact_decodeMoqt profile).mapError ?_
  rintro _ rfl
  rfl

theorem honest_varint : Honest (varint profile) := (VarInt.honest_decodeMoqt profile).mapError

theorem spells_readBytes (bytes : Bytes) :
    Spells CodecError.Incomplete (readBytes bytes.length) bytes bytes :=
  spells_takeBytes incomplete_unexpectedEnd bytes

theorem reads_lengthPrefixed {check : Nat → Except CodecError Unit} {bytes : Bytes}
    (small : bytes.length < 2 ^ 64) (allowed : check bytes.length = .ok ()) :
    Reads (lengthPrefixed profile check) (putLengthPrefixed profile bytes) bytes := by
  refine (reads_varint (VarInt.ofU64 bytes.length)).bind ?_
  rw [VarInt.val_ofU64 small]
  exact (reads_lift allowed).silent (reads_takeBytes _ bytes)

theorem parses_lengthPrefixed {check : Nat → Except CodecError Unit} :
    Parses (lengthPrefixed profile check) fun bytes used =>
      check bytes.length = .ok () ∧ bytes.length < 2 ^ 64 ∧
        (putLengthPrefixed profile bytes).length ≤ used.length := by
  refine canonical_varint.seq fun len front ⟨_, _, le⟩ => Parses.check fun _ allowed => ?_
  refine (parses_takeBytes _ len.val).imp ?_
  rintro bytes used ⟨rfl, length⟩
  have bound := len.isLt
  have same : VarInt.ofU64 bytes.length = len := by rw [length, VarInt.ofU64_val]
  refine ⟨by rw [length]; exact allowed, by omega, ?_⟩
  simp only [putLengthPrefixed, same, List.length_append]
  omega

theorem local_lengthPrefixed {check : Nat → Except CodecError Unit} :
    Local (lengthPrefixed profile check) :=
  local_varint.bind fun len => (local_lift (check len.val)).bind fun _ => local_takeBytes _ _

end Reading

/-! ## Track Namespaces -/

structure TrackNamespace where
  fields : List Bytes
  deriving DecidableEq, Repr

structure TrackNamespaceRules where
  minFields : Nat
  rejectEmptyField : Bool
  maxNamespaceBytes : Option Nat
  deriving DecidableEq, Repr

def TrackNamespaceRules.forDraft (draft : Nat) : TrackNamespaceRules where
  minFields := if draft ≥ 17 then 0 else 1
  rejectEmptyField := decide (draft ≥ 16)
  maxNamespaceBytes := if draft ≥ 16 then some maxFullTrackNameLength else none

namespace TrackNamespace

def fieldBytesLen (ns : TrackNamespace) : Nat := (ns.fields.map List.length).sum

def validate (ns : TrackNamespace) (rules : TrackNamespaceRules) : Except CodecError Unit := do
  refuseIf (ns.fields.length < rules.minFields || ns.fields.length > maxNamespaceTupleSize)
    (.invalidNamespaceTupleSize ns.fields.length)
  refuseIf (rules.rejectEmptyField && ns.fields.any List.isEmpty) .emptyNamespaceField
  match rules.maxNamespaceBytes with
  | some max => refuseIf (ns.fieldBytesLen > max) .trackNameTooLong
  | none => .ok ()

def validateMoqt (ns : TrackNamespace) : Except CodecError Unit := ns.validate (.forDraft 17)

def encodeMoqt (profile : MoqtProfile) (ns : TrackNamespace) : Bytes :=
  (VarInt.ofU64 ns.fields.length).encodeMoqt profile ++
    (ns.fields.map (putLengthPrefixed profile)).flatten

/-- The loop of `decode_elements_moqt`, `total` bytes of fields read so far. -/
def decodeElementsMoqt (profile : MoqtProfile) : Nat → Nat → Reader CodecError (List Bytes)
  | 0, _ => pure []
  | n + 1, total => do
    let len ← varint profile
    lift (refuseIf (len.val == 0) .emptyNamespaceField)
    lift (refuseIf (saturatingAdd total len.val > maxFullTrackNameLength) .trackNameTooLong)
    let field ← readBytes len.val
    let rest ← decodeElementsMoqt profile n (saturatingAdd total len.val)
    return field :: rest

def decodeAllowEmptyMoqt (profile : MoqtProfile) : Reader CodecError TrackNamespace := do
  let n ← varint profile
  lift (refuseIf (n.val > maxNamespaceTupleSize) (.invalidNamespaceTupleSize n.val))
  let fields ← decodeElementsMoqt profile n.val 0
  return (⟨fields⟩ : TrackNamespace)

/-- Drafts 17 and later accept zero fields everywhere. -/
def decodeMoqt (profile : MoqtProfile) : Reader CodecError TrackNamespace :=
  decodeAllowEmptyMoqt profile

/-- What `validate_moqt` accepts: at most 32 fields, none empty, 4,096 bytes in all. -/
theorem validateMoqt_ok {ns : TrackNamespace} :
    ns.validateMoqt = .ok () ↔
      ns.fields.length ≤ 32 ∧ (∀ field ∈ ns.fields, field ≠ []) ∧ ns.fieldBytesLen ≤ 4096 := by
  unfold validateMoqt validate TrackNamespaceRules.forDraft maxNamespaceTupleSize
    maxFullTrackNameLength
  by_cases many : 32 < ns.fields.length
  · simp [refuseIf, many, bind, Except.bind]
  · by_cases empty : ns.fields.any List.isEmpty = true
    · have found := empty
      rw [List.any_eq_true] at found
      obtain ⟨field, member, isEmpty⟩ := found
      simp only [List.isEmpty_iff] at isEmpty
      subst isEmpty
      simp only [refuseIf, bind, Except.bind, empty]
      simp only [many, ge_iff_le, Nat.le_refl, ↓reduceIte]
      simp
      exact fun _ nonempty => absurd rfl (nonempty [] member)
    · have nonempty : ∀ field ∈ ns.fields, field ≠ [] := by
        rintro field member rfl
        exact empty (List.any_eq_true.mpr ⟨[], member, rfl⟩)
      simp only [Bool.not_eq_true] at empty
      have few : ns.fields.length ≤ 32 := Nat.le_of_not_lt many
      simp [refuseIf, bind, Except.bind, many, empty, few]
      exact fun _ field member => nonempty field member

section Reading
variable {profile : MoqtProfile}

theorem reads_decodeElementsMoqt {fields : List Bytes} {total : Nat}
    (nonempty : ∀ field ∈ fields, field ≠ [])
    (bound : total + (fields.map List.length).sum ≤ 4096) :
    Reads (decodeElementsMoqt profile fields.length total)
      (fields.map (putLengthPrefixed profile)).flatten fields := by
  induction fields generalizing total with
  | nil => exact Reads.pure []
  | cons field rest ih =>
    simp only [List.map_cons, List.sum_cons] at bound
    have small : field.length < 2 ^ 64 := by omega
    have positive : field.length ≠ 0 := by
      simpa [List.length_eq_zero_iff] using nonempty field List.mem_cons_self
    have sum : saturatingAdd total field.length = total + field.length := by
      unfold saturatingAdd; omega
    simp only [List.map_cons, List.flatten_cons, putLengthPrefixed, List.append_assoc]
    refine (reads_varint _).bind ?_
    rw [VarInt.val_ofU64 small, sum]
    refine Reads.check (a := ()) (by simpa using positive) ?_
    refine Reads.check (a := ()) (by simp [maxFullTrackNameLength]; omega) ?_
    refine (reads_takeBytes _ field).bind ?_
    have tail : Reads (decodeElementsMoqt profile rest.length (total + field.length))
        (rest.map (putLengthPrefixed profile)).flatten rest :=
      ih (fun other member => nonempty other (List.mem_cons_of_mem _ member)) (by omega)
    exact tail.wrap _

/-- A namespace `validate_moqt` accepts reads back from its encoding. -/
theorem reads_decodeAllowEmptyMoqt {ns : TrackNamespace} (valid : ns.validateMoqt = .ok ()) :
    Reads (decodeAllowEmptyMoqt profile) (ns.encodeMoqt profile) ns := by
  obtain ⟨few, nonempty, short⟩ := validateMoqt_ok.mp valid
  refine (reads_varint _).bind ?_
  rw [VarInt.val_ofU64 (by omega)]
  refine Reads.check (a := ()) (by simpa [maxNamespaceTupleSize] using few) ?_
  have fields : Reads (decodeElementsMoqt profile ns.fields.length 0)
      (ns.fields.map (putLengthPrefixed profile)).flatten ns.fields :=
    reads_decodeElementsMoqt nonempty (by rw [Nat.zero_add]; exact short)
  exact fields.wrap TrackNamespace.mk

theorem parses_decodeElementsMoqt (n total : Nat) (start : total ≤ 4096) :
    Parses (decodeElementsMoqt profile n total) fun fields used =>
      fields.length = n ∧ (∀ field ∈ fields, field ≠ []) ∧
        total + (fields.map List.length).sum ≤ 4096 ∧
        ((fields.map (putLengthPrefixed profile)).flatten).length ≤ used.length := by
  induction n generalizing total with
  | zero =>
    refine (Parses.pure []).imp ?_
    rintro fields used ⟨rfl, rfl⟩
    simpa using start
  | succ n ih =>
    unfold decodeElementsMoqt
    refine canonical_varint.seq ?_
    rintro len front ⟨_, _, lenLe⟩
    refine Parses.check fun _ notEmpty => Parses.check fun _ notLong => ?_
    simp only [refuseIf_ok, maxFullTrackNameLength, decide_eq_false_iff_not, Nat.not_lt,
      beq_eq_false_iff_ne, gt_iff_lt] at notEmpty notLong
    have sum : saturatingAdd total len.val = total + len.val := by
      unfold saturatingAdd at notLong ⊢; omega
    rw [sum] at notLong ⊢
    refine (parses_takeBytes _ len.val).seq ?_
    rintro field back ⟨same, length⟩
    subst same
    refine (ih _ notLong).seq ?_
    rintro rest tail ⟨count, nonempty, bound, shorter⟩
    have encoded : VarInt.ofU64 field.length = len := by rw [length, VarInt.ofU64_val]
    refine Parses.ret ⟨by simp [count], ?_, ?_, ?_⟩
    · intro other member
      rcases List.mem_cons.mp member with rfl | member
      · rintro rfl
        exact notEmpty length.symm
      · exact nonempty other member
    · simp only [List.map_cons, List.sum_cons, length]
      omega
    · simp only [List.map_cons, List.flatten_cons, putLengthPrefixed, encoded, List.length_append,
        List.length_nil]
      omega

/-- What the decoder accepts `validate_moqt` accepts too, and re-encodes no longer. -/
theorem parses_decodeAllowEmptyMoqt :
    Parses (decodeAllowEmptyMoqt profile) fun ns used =>
      ns.validateMoqt = .ok () ∧ (ns.encodeMoqt profile).length ≤ used.length := by
  refine canonical_varint.seq fun n front ⟨_, _, lenLe⟩ => Parses.check fun _ few => ?_
  refine (parses_decodeElementsMoqt n.val 0 (by decide)).seq
    fun fields back ⟨count, nonempty, bound, shorter⟩ => ?_
  simp only [refuseIf_ok, maxNamespaceTupleSize, decide_eq_false_iff_not, Nat.not_lt,
    gt_iff_lt] at few
  have same : VarInt.ofU64 fields.length = n := by rw [count, VarInt.ofU64_val]
  refine Parses.ret ⟨validateMoqt_ok.mpr ⟨by simpa [count] using few, nonempty, ?_⟩, ?_⟩
  · simpa [fieldBytesLen] using bound
  · simp only [encodeMoqt, same, List.length_append, List.length_nil]
    omega

theorem local_decodeElementsMoqt (n total : Nat) : Local (decodeElementsMoqt profile n total) := by
  induction n generalizing total with
  | zero => exact Local.pure []
  | succ n ih =>
    exact local_varint.bind fun len => (local_lift _).bind fun _ => (local_lift _).bind fun _ =>
      (local_takeBytes _ _).bind fun field => (ih _).bind fun rest => Local.pure (field :: rest)

theorem local_decodeAllowEmptyMoqt : Local (decodeAllowEmptyMoqt profile) :=
  local_varint.bind fun _ => (local_lift _).bind fun _ =>
    (local_decodeElementsMoqt _ _).bind fun fields => Local.pure (⟨fields⟩ : TrackNamespace)

theorem canonical_decodeAllowEmptyMoqt :
    Canonical (decodeAllowEmptyMoqt profile) (encodeMoqt profile) := by
  refine (local_decodeAllowEmptyMoqt.and parses_decodeAllowEmptyMoqt).imp ?_
  rintro ns used ⟨reads, valid, le⟩
  exact ⟨reads, reads_decodeAllowEmptyMoqt valid, le⟩

end Reading
end TrackNamespace

/-! ## Authorization Tokens -/

/-- `AUTH_TOKEN_PARAMETER`, in both the message and the setup namespace. -/
def authTokenParameter : Nat := 0x03

inductive TokenAliasType where
  | delete
  | register
  | useAlias
  | useValue
  deriving DecidableEq, Repr

def TokenAliasType.fromId : Nat → Option TokenAliasType
  | 0 => some .delete
  | 1 => some .register
  | 2 => some .useAlias
  | 3 => some .useValue
  | _ => none

def TokenAliasType.hasAlias (aliasType : TokenAliasType) : Bool := aliasType != .useValue

def TokenAliasType.hasTypeAndValue (aliasType : TokenAliasType) : Bool :=
  aliasType == .register || aliasType == .useValue

structure AuthorizationToken where
  aliasType : TokenAliasType
  tokenAlias : Option Nat
  tokenType : Option Nat
  value : Bytes
  deriving DecidableEq, Repr

namespace AuthorizationToken

/-- The unread bytes, as `buf.to_vec()` copies them. -/
def toVec : Reader CodecError Bytes := fun cursor => .ok (cursor.real, cursor)

/-- One of the Token's integers, a failure of any kind reported as `detail`. -/
def tokenInteger (key : Nat) (detail : String) (read : Reader VarIntError VarInt) :
    Reader CodecError Nat := do
  let v ← mapError (fun _ => CodecError.keyValueFormatting key detail) read
  return v.val

def decodeWith (key : Nat) (bytes : Bytes) (read : Reader VarIntError VarInt) :
    Except CodecError AuthorizationToken :=
  (do
    let raw ← tokenInteger key "it carries no Alias Type" read
    match TokenAliasType.fromId raw with
    | none => fail (.keyValueFormatting key "its Alias Type is not one this draft assigns")
    | some aliasType =>
      let tokenAlias ← if aliasType.hasAlias then
          some <$> tokenInteger key
            "its Alias Type promises a Token Alias and the value ends first" read
        else pure none
      if aliasType.hasTypeAndValue then
        let tokenType ← tokenInteger key
          "its Alias Type promises a Token Type and the value ends first" read
        let value ← toVec
        return (⟨aliasType, tokenAlias, some tokenType, value⟩ : AuthorizationToken)
      else
        let left ← remaining
        lift (refuseIf (left != 0) (.keyValueFormatting key
          "its Alias Type promises no Token Value and bytes follow the Token Alias"))
        return (⟨aliasType, tokenAlias, none, []⟩ : AuthorizationToken)).run' (.of bytes)

def decodeMoqt (profile : MoqtProfile) (key : Nat) (bytes : Bytes) :
    Except CodecError AuthorizationToken :=
  decodeWith key bytes (VarInt.decodeMoqt profile)

end AuthorizationToken
end Moqtap.CodecTypes
