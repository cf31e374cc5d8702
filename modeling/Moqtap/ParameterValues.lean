import Mathlib
import Moqtap.CodecTypes
import Moqtap.QuicVarint

/-! Two parameter values written by hand: the subscription filter of drafts 15 through 19 and the
Authorization Token of drafts 11 and later, each in both integer encodings.

An `Integers` is what the two formats use of an encoding: how one integer is read, and which bytes
spell it when any do. `Faithful` is all their proofs know of it, so each format is proved once and
both encodings are instances. -/
namespace Moqtap.ParameterValues
open ByteCursor Varint CodecTypes

/-! ## Integers and the output buffer -/

/-- Writes to a buffer, which keeps what was written when one of them refuses. -/
abbrev Put := ExceptT CodecError (StateM Bytes)

def putSlice (bytes : Bytes) : Put Unit := modify (· ++ bytes)

/-- `?` on a result. -/
def liftExcept {α : Type} (result : Except CodecError α) : Put α := ExceptT.mk (pure result)

theorem liftExcept_run {α β : Type} (result : Except CodecError α) (next : α → Put β) (buf : Bytes) :
    (liftExcept result >>= next).run.run buf =
      match result with
      | .ok a => (next a).run.run buf
      | .error e => (.error e, buf) := by
  cases result <;> rfl

structure Integers where
  read : Reader VarIntError VarInt
  spell : Nat → Except CodecError Bytes

/-- RFC 9000 integers, drafts up to 16. -/
def quic : Integers where
  read := VarInt.decode
  spell v := ((VarInt.fromU64 v).mapError .varInt).map VarInt.encode

/-- MoQT integers, drafts 17 and later. -/
def moqt (profile : MoqtProfile) : Integers where
  read := VarInt.decodeMoqt profile
  spell v := .ok (VarInt.encodeMoqt profile (.ofU64 v))

namespace Integers

/-- Every spelling reads back, and what is read has a spelling. -/
structure Faithful (ints : Integers) : Prop where
  spelled : ∀ {v : Nat} {bytes}, v < 2 ^ 64 → ints.spell v = .ok bytes →
    Reads ints.read bytes (.ofU64 v)
  read : Parses ints.read fun v _ => ∃ bytes, ints.spell v.val = .ok bytes

theorem quic_faithful : quic.Faithful where
  spelled := by
    intro v bytes _ spelled
    by_cases small : v ≤ maxVarint
    · have wide : v < 2 ^ 64 := small.trans_lt (by simp [maxVarint])
      simp only [quic, VarInt.fromU64_ok small, Except.mapError, Except.map, Except.ok.injEq] at spelled
      subst spelled
      apply VarInt.reads_encode
      rwa [VarInt.val_ofU64 wide]
    · simp [quic, VarInt.fromU64, small, Except.mapError, Except.map] at spelled
  read := by
    refine VarInt.parses_decode.imp ?_
    rintro v used ⟨-, small, -⟩
    exact ⟨v.encode, by simp [quic, VarInt.fromU64_ok small, Except.mapError, Except.map]⟩

theorem moqt_faithful (profile : MoqtProfile) : (moqt profile).Faithful where
  spelled := by
    intro v bytes _ spelled
    cases spelled
    exact VarInt.reads_encodeMoqt profile (.ofU64 v)
  read := (VarInt.local_decodeMoqt profile).imp fun v _ _ => ⟨_, rfl⟩

end Integers

/-! ## Subscription filters -/

inductive FilterType where
  | nextGroupStart
  | largestObject
  | absoluteStart
  | absoluteRange
  deriving DecidableEq

namespace FilterType

def toU64 : FilterType → UInt64
  | nextGroupStart => 1
  | largestObject => 2
  | absoluteStart => 3
  | absoluteRange => 4

def fromU64 : Nat → Option FilterType
  | 1 => some nextGroupStart
  | 2 => some largestObject
  | 3 => some absoluteStart
  | 4 => some absoluteRange
  | _ => none

end FilterType

structure Location where
  group : VarInt
  object : VarInt
  deriving DecidableEq

/-- The end of an AbsoluteRange, written in full or as a delta from the start's group. -/
inductive FilterEnd where
  | group (v : UInt64)
  | groupDelta (v : UInt64)
  deriving DecidableEq

structure SubscriptionFilter where
  filterType : FilterType
  startLocation : Option Location
  endGroup : Option FilterEnd
  deriving DecidableEq

namespace SubscriptionFilter

def malformed (detail : String) : CodecError := .subscriptionFilterMalformed detail

def wantsStart (filterType : FilterType) : Bool :=
  filterType == .absoluteStart || filterType == .absoluteRange

def wantsEnd (filterType : FilterType) : Bool := filterType == .absoluteRange

/-- Running out is the filter's own malformation, any other failure the integer's. -/
def ranOut (detail : String) : VarIntError → CodecError
  | .unexpectedEnd => malformed detail
  | other => .varInt other

/-- The Start Location, when the type promises one. -/
def readStart (filterType : FilterType) (read : Reader VarIntError VarInt) :
    Reader CodecError (Option Location) :=
  let noStart := "its Filter Type promises a Start Location and the value ends first"
  if wantsStart filterType then do
    let group ← mapError (ranOut noStart) read
    let object ← mapError (ranOut noStart) read
    return some (⟨group, object⟩ : Location)
  else pure none

/-- The End Group, when the type promises one. -/
def readEnd (filterType : FilterType) (endOf : UInt64 → FilterEnd)
    (read : Reader VarIntError VarInt) : Reader CodecError (Option FilterEnd) :=
  if wantsEnd filterType then do
    let v ← mapError (ranOut "its Filter Type promises an End Group and the value ends first") read
    return some (endOf (.ofNat v.val))
  else pure none

def readFilter (endOf : UInt64 → FilterEnd) (read : Reader VarIntError VarInt) :
    Reader CodecError SubscriptionFilter := do
  let raw ← mapError (ranOut "it carries no Filter Type") read
  let filterType ← lift (okOr (FilterType.fromU64 raw.val) (.invalidFilterType raw.val))
  let startLocation ← readStart filterType read
  let endGroup ← readEnd filterType endOf read
  let left ← remaining
  lift (refuseIf (left != 0) (malformed "bytes follow the filter inside the parameter"))
  return (⟨filterType, startLocation, endGroup⟩ : SubscriptionFilter)

def decodeWith (bytes : Bytes) (endOf : UInt64 → FilterEnd) (read : Reader VarIntError VarInt) :
    Except CodecError SubscriptionFilter :=
  (readFilter endOf read).run' (.of bytes)

def decode (bytes : Bytes) : Except CodecError SubscriptionFilter :=
  decodeWith bytes .group quic.read

def decodeMoqt (profile : MoqtProfile) (bytes : Bytes) : Except CodecError SubscriptionFilter :=
  decodeWith bytes .groupDelta (moqt profile).read

/-- The `match` on the End Group, its form checked against the draft's. -/
def checkEnd (filter : SubscriptionFilter) (endIsDelta : Bool) : Except CodecError Unit :=
  match wantsEnd filter.filterType, filter.endGroup with
  | true, none => .error (malformed "its Filter Type promises an End Group and none is set")
  | false, some _ => .error (malformed "its Filter Type promises no End Group and one is set")
  | _, some (.groupDelta _) => refuseIf (!endIsDelta)
      (malformed "its End Group is a delta where this draft writes the group in full")
  | _, some (.group _) => refuseIf endIsDelta
      (malformed "its End Group is written in full where this draft writes a delta")
  | _, none => .ok ()

def spellStart (write : Nat → Except CodecError Bytes) : Option Location → Except CodecError Bytes
  | some start => do return (← write start.group.val) ++ (← write start.object.val)
  | none => return []

def spellEnd (write : Nat → Except CodecError Bytes) : Option FilterEnd → Except CodecError Bytes
  | some (.group v) | some (.groupDelta v) => write v.toNat
  | none => return []

/-- The bytes gathered in `out`. -/
def spelling (filter : SubscriptionFilter) (write : Nat → Except CodecError Bytes) :
    Except CodecError Bytes := do
  let typeBytes ← write filter.filterType.toU64.toNat
  let startBytes ← spellStart write filter.startLocation
  let endBytes ← spellEnd write filter.endGroup
  return typeBytes ++ (startBytes ++ endBytes)

def encodeWith (filter : SubscriptionFilter) (endIsDelta : Bool)
    (write : Nat → Except CodecError Bytes) : Put Unit := do
  let wantsStart := wantsStart filter.filterType
  liftExcept (refuseIf (wantsStart && filter.startLocation.isNone)
    (malformed "its Filter Type promises a Start Location and none is set"))
  liftExcept (refuseIf (!wantsStart && filter.startLocation.isSome)
    (malformed "its Filter Type promises no Start Location and one is set"))
  liftExcept (filter.checkEnd endIsDelta)
  putSlice (← liftExcept (filter.spelling write))

def encode (filter : SubscriptionFilter) : Put Unit := filter.encodeWith false quic.spell

def encodeMoqt (profile : MoqtProfile) (filter : SubscriptionFilter) : Put Unit :=
  filter.encodeWith true (moqt profile).spell

/-! ### What encoding writes -/

section Encoding
variable {filter : SubscriptionFilter} {delta : Bool} {write : Nat → Except CodecError Bytes}

/-- The form an encoding gives the End Group. -/
def endOf (delta : Bool) : UInt64 → FilterEnd := if delta then .groupDelta else .group

/-- The fields are the ones the Filter Type promises, the End Group in the encoding's form. -/
def Formed (delta : Bool) (filter : SubscriptionFilter) : Prop :=
  filter.startLocation.isSome = wantsStart filter.filterType ∧
    if wantsEnd filter.filterType then ∃ v, filter.endGroup = some (endOf delta v)
    else filter.endGroup = none

theorem checkEnd_ok : filter.checkEnd delta = .ok () ↔
    if wantsEnd filter.filterType then ∃ v, filter.endGroup = some (endOf delta v)
    else filter.endGroup = none := by
  unfold checkEnd endOf
  cases wantsEnd filter.filterType <;> rcases filter.endGroup with - | ⟨v⟩ | ⟨v⟩ <;> cases delta <;> simp

/-- Either everything is written behind what the buffer holds, or nothing is. -/
theorem encodeWith_run (buf : Bytes) :
    (∃ bytes, (filter.encodeWith delta write).run.run buf = (.ok (), buf ++ bytes) ∧
      filter.Formed delta ∧ filter.spelling write = .ok bytes) ∨
    ∃ e, (filter.encodeWith delta write).run.run buf = (.error e, buf) := by
  simp only [encodeWith, liftExcept_run]
  cases missing : refuseIf (wantsStart filter.filterType && filter.startLocation.isNone)
    (malformed "its Filter Type promises a Start Location and none is set") with
  | error e => exact .inr ⟨e, rfl⟩
  | ok u =>
    cases surplus : refuseIf (!wantsStart filter.filterType && filter.startLocation.isSome)
      (malformed "its Filter Type promises no Start Location and one is set") with
    | error e => exact .inr ⟨e, rfl⟩
    | ok u =>
      cases ending : filter.checkEnd delta with
      | error e => exact .inr ⟨e, rfl⟩
      | ok u =>
        cases spelled : filter.spelling write with
        | error e => exact .inr ⟨e, rfl⟩
        | ok bytes =>
          refine .inl ⟨bytes, rfl, ⟨?_, checkEnd_ok.mp ending⟩, rfl⟩
          rw [refuseIf_ok] at missing surplus
          cases starts : wantsStart filter.filterType <;> simp_all

theorem encodeWith_formed (formed : filter.Formed delta) {bytes : Bytes}
    (spelled : filter.spelling write = .ok bytes) (buf : Bytes) :
    (filter.encodeWith delta write).run.run buf = (.ok (), buf ++ bytes) := by
  obtain ⟨start, ending⟩ := formed
  simp only [encodeWith, liftExcept_run, ← start, checkEnd_ok.mpr ending, spelled]
  cases filter.startLocation <;> rfl

/-! ### Reading it back -/

variable {ints : Integers}

theorem reads_start (faithful : ints.Faithful) {filterType : FilterType} {start : Option Location}
    (promised : start.isSome = wantsStart filterType) {bytes : Bytes}
    (spelled : spellStart ints.spell start = .ok bytes) :
    Reads (readStart filterType ints.read) bytes start := by
  unfold readStart
  cases start with
  | none =>
    cases spelled
    rw [← promised]
    exact Reads.pure none
  | some start =>
    rw [← promised]
    obtain ⟨group, groupSpelled, spelled⟩ := except_bind_ok spelled
    obtain ⟨object, objectSpelled, spelled⟩ := except_bind_ok spelled
    cases spelled
    have group := faithful.spelled start.group.isLt groupSpelled
    have object := faithful.spelled start.object.isLt objectSpelled
    rw [VarInt.ofU64_val] at group object
    apply group.mapError.bind
    exact object.mapError.wrap fun object => some (Location.mk start.group object)

theorem reads_end (faithful : ints.Faithful) {filterType : FilterType} {ending : Option FilterEnd}
    (promised : if wantsEnd filterType then ∃ v, ending = some (endOf delta v) else ending = none)
    {bytes : Bytes} (spelled : spellEnd ints.spell ending = .ok bytes) :
    Reads (readEnd filterType (endOf delta) ints.read) bytes ending := by
  unfold readEnd
  cases wants : wantsEnd filterType with
  | false =>
    obtain rfl : ending = none := by simpa [wants] using promised
    cases spelled
    exact Reads.pure none
  | true =>
    obtain ⟨v, rfl⟩ : ∃ v, ending = some (endOf delta v) := by simpa [wants] using promised
    have written : ints.spell v.toNat = .ok bytes := by cases delta <;> exact spelled
    have value : some (endOf delta v) =
        some (endOf delta (.ofNat (VarInt.ofU64 v.toNat).val)) := by
      rw [VarInt.val_ofU64 v.toNat_lt, UInt64.ofNat_toNat]
    rw [value]
    apply (faithful.spelled v.toNat_lt written).mapError.wrap
      fun w : VarInt => some (endOf delta (.ofNat w.val))

theorem FilterType.fromU64_toU64 (filterType : FilterType) :
    FilterType.fromU64 filterType.toU64.toNat = some filterType := by
  cases filterType <;> rfl

/-- What a formed filter spells is read as that filter. -/
theorem decodeWith_spelling (faithful : ints.Faithful) (formed : filter.Formed delta) {bytes : Bytes}
    (spelled : filter.spelling ints.spell = .ok bytes) :
    decodeWith bytes (endOf delta) ints.read = .ok filter := by
  obtain ⟨typeBytes, typeSpelled, spelled⟩ := except_bind_ok spelled
  obtain ⟨startBytes, startSpelled, spelled⟩ := except_bind_ok spelled
  obtain ⟨endBytes, endSpelled, spelled⟩ := except_bind_ok spelled
  cases spelled
  have kind := faithful.spelled filter.filterType.toU64.toNat_lt typeSpelled
  have start := reads_start faithful formed.1 startSpelled
  have ending := reads_end faithful formed.2 endSpelled
  have whole : ReadsAll (readFilter (endOf delta) ints.read)
      (typeBytes ++ (startBytes ++ endBytes)) filter := by
    apply kind.mapError.bind_all
    apply Reads.check_all (a := filter.filterType)
    · rw [okOr_ok, VarInt.val_ofU64 filter.filterType.toU64.toNat_lt]
      exact FilterType.fromU64_toU64 filter.filterType
    apply start.bind_all
    rw [← List.append_nil endBytes]
    apply ending.bind_all
    apply ReadsAll.remaining
    exact Reads.check_all rfl rfl
  unfold ReadsAll at whole
  rw [decodeWith, StateT.run', whole]
  rfl

/-! ### What is read can be spelled -/

theorem FilterType.fromU64_some {v : Nat} {filterType : FilterType}
    (known : FilterType.fromU64 v = some filterType) : v = filterType.toU64.toNat := by
  unfold FilterType.fromU64 at known
  split at known <;> cases known <;> rfl

theorem parses_start (faithful : ints.Faithful) (filterType : FilterType) :
    Parses (readStart filterType ints.read) fun start _ =>
      start.isSome = wantsStart filterType ∧ ∃ bytes, spellStart ints.spell start = .ok bytes := by
  unfold readStart
  cases wantsStart filterType with
  | false => exact Parses.ret ⟨rfl, [], rfl⟩
  | true =>
    apply faithful.read.mapError.seq
    rintro group _ ⟨groupBytes, groupSpelled⟩
    apply faithful.read.mapError.seq
    rintro object _ ⟨objectBytes, objectSpelled⟩
    apply Parses.ret
    refine ⟨rfl, groupBytes ++ objectBytes, ?_⟩
    simp [spellStart, groupSpelled, objectSpelled]

theorem parses_end (faithful : ints.Faithful) (filterType : FilterType) :
    Parses (readEnd filterType (endOf delta) ints.read) fun ending _ =>
      (if wantsEnd filterType then ∃ v, ending = some (endOf delta v) else ending = none) ∧
        ∃ bytes, spellEnd ints.spell ending = .ok bytes := by
  unfold readEnd
  cases wantsEnd filterType with
  | false => exact Parses.ret ⟨rfl, [], rfl⟩
  | true =>
    apply faithful.read.mapError.seq
    rintro v _ ⟨bytes, spelled⟩
    apply Parses.ret
    refine ⟨⟨.ofNat v.val, rfl⟩, bytes, ?_⟩
    have wide : (UInt64.ofNat v.val).toNat = v.val := UInt64.toNat_ofNat_of_lt v.isLt
    cases delta <;> simp [spellEnd, endOf, wide, spelled]

theorem parses_filter (faithful : ints.Faithful) :
    Parses (readFilter (endOf delta) ints.read) fun filter _ =>
      filter.Formed delta ∧ ∃ bytes, filter.spelling ints.spell = .ok bytes := by
  apply faithful.read.mapError.seq
  rintro raw _ ⟨typeBytes, typeSpelled⟩
  apply Parses.check
  intro filterType known
  have kind := FilterType.fromU64_some (okOr_ok.mp known)
  apply (parses_start faithful filterType).seq
  rintro start _ ⟨promised, startBytes, startSpelled⟩
  apply (parses_end faithful filterType).seq
  rintro ending _ ⟨ended, endBytes, endSpelled⟩
  apply Parses.remaining
  intro left
  apply Parses.check
  intro _ _
  apply Parses.ret
  refine ⟨⟨promised, ended⟩, typeBytes ++ (startBytes ++ endBytes), ?_⟩
  simp [spelling, ← kind, typeSpelled, startSpelled, endSpelled]

theorem decodeWith_formed (faithful : ints.Faithful) {bytes : Bytes}
    (decoded : decodeWith bytes (endOf delta) ints.read = .ok filter) :
    filter.Formed delta ∧ ∃ spelled, filter.spelling ints.spell = .ok spelled := by
  rw [decodeWith, StateT.run'] at decoded
  cases ran : readFilter (endOf delta) ints.read (.of bytes) with
  | error e => simp [ran] at decoded
  | ok read =>
    obtain ⟨same, rest⟩ := read
    obtain rfl : same = filter := by simpa [ran] using decoded
    obtain ⟨-, -, -, holds⟩ := parses_filter faithful _ _ _ ran
    exact holds

/-! ### Both directions -/

/-- An encoding writes what its decoder reads back, rewrites whatever the decoder accepts, and
touches nothing when it refuses. -/
structure Coded (encode : SubscriptionFilter → Put Unit)
    (decode : Bytes → Except CodecError SubscriptionFilter) : Prop where
  readsBack : ∀ filter buf out, (encode filter).run.run buf = (.ok (), out) →
    ∃ bytes, out = buf ++ bytes ∧ decode bytes = .ok filter
  rewrites : ∀ filter bytes, decode bytes = .ok filter →
    ∃ again, (∀ buf, (encode filter).run.run buf = (.ok (), buf ++ again)) ∧
      decode again = .ok filter
  untouched : ∀ filter buf out e, (encode filter).run.run buf = (.error e, out) → out = buf

theorem coded (faithful : ints.Faithful) (delta : Bool) :
    Coded (encodeWith · delta ints.spell) (decodeWith · (endOf delta) ints.read) where
  readsBack filter buf out wrote := by
    rcases @encodeWith_run filter delta ints.spell buf with
      ⟨bytes, ran, formed, spelled⟩ | ⟨e, ran⟩
    · cases ran.symm.trans wrote
      exact ⟨bytes, rfl, decodeWith_spelling faithful formed spelled⟩
    · cases ran.symm.trans wrote
  rewrites filter bytes decoded := by
    obtain ⟨formed, again, spelled⟩ := decodeWith_formed faithful decoded
    exact ⟨again, encodeWith_formed formed spelled, decodeWith_spelling faithful formed spelled⟩
  untouched filter buf out e refused := by
    rcases @encodeWith_run filter delta ints.spell buf with
      ⟨bytes, ran, -⟩ | ⟨e', ran⟩
    · cases ran.symm.trans refused
    · cases ran.symm.trans refused
      rfl

end Encoding

end SubscriptionFilter

/-! ## Authorization Tokens -/

def aliasTypeId : TokenAliasType → UInt64
  | .delete => 0
  | .register => 1
  | .useAlias => 2
  | .useValue => 3

theorem fromId_aliasTypeId (aliasType : TokenAliasType) :
    TokenAliasType.fromId (aliasTypeId aliasType).toNat = some aliasType := by
  cases aliasType <;> rfl

namespace Token

def decode (key : Nat) (bytes : Bytes) : Except CodecError AuthorizationToken :=
  AuthorizationToken.decodeWith key bytes quic.read

def spellAlias (token : AuthorizationToken) (write : Nat → Except CodecError Bytes) :
    Except CodecError Bytes :=
  if token.aliasType.hasAlias then write (token.tokenAlias.getD 0) else return []

def spellValue (token : AuthorizationToken) (write : Nat → Except CodecError Bytes) :
    Except CodecError Bytes :=
  if token.aliasType.hasTypeAndValue then return (← write (token.tokenType.getD 0)) ++ token.value
  else return []

/-- The bytes gathered in `out`. -/
def spelling (token : AuthorizationToken) (write : Nat → Except CodecError Bytes) :
    Except CodecError Bytes := do
  let out ← write (aliasTypeId token.aliasType).toNat
  let aliasBytes ← spellAlias token write
  let valueBytes ← spellValue token write
  return out ++ (aliasBytes ++ valueBytes)

def encode (token : AuthorizationToken) : Put Unit := do
  putSlice (← liftExcept (spelling token quic.spell))

/-- Written to the buffer as it goes: no integer is refused. -/
def encodeMoqt (profile : MoqtProfile) (token : AuthorizationToken) : StateM Bytes Unit := do
  modify (· ++ VarInt.encodeMoqt profile (.ofU64 (aliasTypeId token.aliasType).toNat))
  if token.aliasType.hasAlias then
    modify (· ++ VarInt.encodeMoqt profile (.ofU64 (token.tokenAlias.getD 0)))
  if token.aliasType.hasTypeAndValue then
    modify (· ++ VarInt.encodeMoqt profile (.ofU64 (token.tokenType.getD 0)))
    modify (· ++ token.value)

/-- The fields the Alias Type promises and no others, the integers 64-bit. -/
structure Promised (token : AuthorizationToken) : Prop where
  hasAlias : token.tokenAlias.isSome = token.aliasType.hasAlias
  hasType : token.tokenType.isSome = token.aliasType.hasTypeAndValue
  hasValue : token.aliasType.hasTypeAndValue = false → token.value = []
  wideAlias : ∀ v ∈ token.tokenAlias, v < 2 ^ 64
  wideType : ∀ v ∈ token.tokenType, v < 2 ^ 64

theorem encodeMoqt_run (profile : MoqtProfile) (token : AuthorizationToken) (buf : Bytes) :
    ∃ bytes, spelling token (moqt profile).spell = .ok bytes ∧
      (encodeMoqt profile token).run buf = ((), buf ++ bytes) := by
  have appends : ∀ out : Bytes,
      (modify (· ++ out) : StateM Bytes Unit) = fun buf => ((), buf ++ out) := fun _ => rfl
  unfold spelling spellAlias spellValue encodeMoqt
  cases token.aliasType.hasAlias <;> cases token.aliasType.hasTypeAndValue <;>
    refine ⟨_, rfl, ?_⟩ <;> simp [appends, StateT.run, bind, StateT.bind, pure, StateT.pure]

variable {ints : Integers} {token : AuthorizationToken} {bytes : Bytes}

theorem reads_tokenInteger (faithful : ints.Faithful) (key : Nat) (detail : String) {v : Nat}
    (wide : v < 2 ^ 64) (spelled : ints.spell v = .ok bytes) :
    Reads (AuthorizationToken.tokenInteger key detail ints.read) bytes v := by
  have reads := (faithful.spelled wide spelled).mapError (f := fun _ =>
    CodecError.keyValueFormatting key detail)
  have wrapped := reads.wrap VarInt.val
  rwa [VarInt.val_ofU64 wide] at wrapped

/-- What the decoder does once it has the Alias. -/
def readValue (key : Nat) (aliasType : TokenAliasType) (tokenAlias : Option Nat)
    (read : Reader VarIntError VarInt) : Reader CodecError AuthorizationToken :=
  if aliasType.hasTypeAndValue then do
    let tokenType ← AuthorizationToken.tokenInteger key
      "its Alias Type promises a Token Type and the value ends first" read
    let value ← AuthorizationToken.toVec
    return (⟨aliasType, tokenAlias, some tokenType, value⟩ : AuthorizationToken)
  else do
    let left ← remaining
    lift (refuseIf (left != 0) (.keyValueFormatting key
      "its Alias Type promises no Token Value and bytes follow the Token Alias"))
    return (⟨aliasType, tokenAlias, none, []⟩ : AuthorizationToken)

theorem readValue_spelled (faithful : ints.Faithful) (promised : Promised token) (key : Nat)
    (spelled : spellValue token ints.spell = .ok bytes) :
    ∃ rest, readValue key token.aliasType token.tokenAlias ints.read ⟨bytes, 0⟩ =
      .ok (token, rest) := by
  have there := promised.hasType
  have wide := promised.wideType
  have empty := promised.hasValue
  unfold spellValue at spelled
  unfold readValue
  obtain ⟨aliasType, tokenAlias, tokenType, value⟩ := token
  cases tokenType with
  | none =>
    simp only [Option.isSome_none] at there
    simp only [← there] at spelled ⊢
    cases spelled
    obtain rfl : value = [] := empty there.symm
    exact ⟨_, rfl⟩
  | some t =>
    simp only [Option.isSome_some] at there
    simp only [← there, if_true, Option.getD_some] at spelled ⊢
    obtain ⟨typeBytes, typeSpelled, spelled⟩ := except_bind_ok spelled
    cases spelled
    have typed := reads_tokenInteger faithful key
      "its Alias Type promises a Token Type and the value ends first" (wide t rfl) typeSpelled
    rw [bind_apply, typed]
    exact ⟨_, rfl⟩

/-- What a promised Token spells is read as that Token. -/
theorem decodeWith_spelling (faithful : ints.Faithful) (promised : Promised token) (key : Nat)
    (spelled : spelling token ints.spell = .ok bytes) :
    AuthorizationToken.decodeWith key bytes ints.read = .ok token := by
  obtain ⟨kindBytes, kindSpelled, spelled⟩ := except_bind_ok spelled
  obtain ⟨aliasBytes, aliasSpelled, spelled⟩ := except_bind_ok spelled
  obtain ⟨valueBytes, valueSpelled, spelled⟩ := except_bind_ok spelled
  cases spelled
  have kind := reads_tokenInteger faithful key "it carries no Alias Type"
    (aliasTypeId token.aliasType).toNat_lt kindSpelled
  obtain ⟨rest, value⟩ := readValue_spelled faithful promised key valueSpelled
  rw [AuthorizationToken.decodeWith, StateT.run', bind_apply, Cursor.of, kind]
  simp only [fromId_aliasTypeId]
  have there := promised.hasAlias
  have wide := promised.wideAlias
  unfold spellAlias at aliasSpelled
  cases named : token.tokenAlias with
  | none =>
    simp only [named, Option.isSome_none] at there
    simp only [← there] at aliasSpelled ⊢
    cases aliasSpelled
    rw [named] at value
    exact congrArg (Prod.fst <$> ·) value
  | some a =>
    simp only [named, Option.isSome_some] at there
    simp only [← there, if_true, named, Option.getD_some] at aliasSpelled ⊢
    have alias' := (reads_tokenInteger faithful key
      "its Alias Type promises a Token Alias and the value ends first" (wide a named) aliasSpelled).map
      some
    rw [bind_apply, alias']
    rw [named] at value
    exact congrArg (Prod.fst <$> ·) value

theorem encode_run {buf out : Bytes} (wrote : (encode token).run.run buf = (.ok (), out)) :
    ∃ bytes, out = buf ++ bytes ∧ spelling token quic.spell = .ok bytes := by
  rw [encode, liftExcept_run] at wrote
  cases spelled : spelling token quic.spell with
  | error e =>
    rw [spelled] at wrote
    cases wrote
  | ok bytes =>
    rw [spelled] at wrote
    cases wrote
    exact ⟨bytes, rfl, rfl⟩

end Token

/-- Filters and Tokens come back as they were written, in both integer encodings. -/
theorem parameter_values_round_trip :
    (SubscriptionFilter.Coded SubscriptionFilter.encode SubscriptionFilter.decode ∧
      ∀ profile, SubscriptionFilter.Coded (SubscriptionFilter.encodeMoqt profile)
        (SubscriptionFilter.decodeMoqt profile)) ∧
    ∀ token, Token.Promised token → ∀ key buf,
      (∀ profile, ∃ bytes, (Token.encodeMoqt profile token).run buf = ((), buf ++ bytes) ∧
        AuthorizationToken.decodeMoqt profile key bytes = .ok token) ∧
      ∀ out, (Token.encode token).run.run buf = (.ok (), out) →
        ∃ bytes, out = buf ++ bytes ∧ Token.decode key bytes = .ok token := by
  refine ⟨⟨?_, fun profile => ?_⟩, fun token promised key buf => ⟨fun profile => ?_, ?_⟩⟩
  · exact SubscriptionFilter.coded Integers.quic_faithful false
  · exact SubscriptionFilter.coded (Integers.moqt_faithful profile) true
  · obtain ⟨bytes, spelled, ran⟩ := Token.encodeMoqt_run profile token buf
    exact ⟨bytes, ran,
      Token.decodeWith_spelling (Integers.moqt_faithful profile) promised key spelled⟩
  · intro out wrote
    obtain ⟨bytes, rfl, spelled⟩ := Token.encode_run wrote
    exact ⟨bytes, rfl, Token.decodeWith_spelling Integers.quic_faithful promised key spelled⟩

theorem parameter_values_round_trip_register :
    Token.decode 3 [1, 5, 2, 9] = .ok ⟨.register, some 5, some 2, [9]⟩ := by
  have promised : Token.Promised ⟨.register, some 5, some 2, [9]⟩ := by
    constructor <;> simp [TokenAliasType.hasAlias, TokenAliasType.hasTypeAndValue]
  obtain ⟨bytes, wrote, decoded⟩ :=
    (parameter_values_round_trip.2 _ promised 3 [0]).2 [0, 1, 5, 2, 9] rfl
  obtain rfl : [1, 5, 2, 9] = bytes := by simpa using wrote
  exact decoded

end Moqtap.ParameterValues
