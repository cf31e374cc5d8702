import Moqtap.CodecTypes
import Moqtap.StreamFraming

/-!
The inline control stream parser, `moqtap-proxy`'s `parser/control.rs`.

`feed` cuts frames off the buffer by their declared lengths and hands each one
back, decoded or refused.  The decoder is a parameter: nothing here depends on
which frames it reads.

`lossless_iff` says when a capturing parser is what a forwarding path needs.
Items never depend on the chunks and no byte is lost; the bytes held back can
always still complete a frame, unless draft-17 is spoken and a Message Type
starts with the seven-byte form that draft leaves undefined.
-/

namespace Moqtap.ControlParser

open ByteCursor Varint CodecTypes StreamFraming

/-- One thing the parser framed. -/
inductive ParsedItem (Message : Type)
  | frame (message : Message) (rawBytes : Option Bytes)
  | refused (typeId : ℕ) (rawBytes : Option Bytes)
  deriving DecidableEq, Repr

def ParsedItem.rawBytes {Message : Type} : ParsedItem Message → Option Bytes
  | .frame _ raw => raw
  | .refused _ raw => raw

inductive ParseResult (Message : Type)
  | framed (items : List (ParsedItem Message))
  | needMore
  deriving DecidableEq, Repr

structure ControlStreamParser where
  buf : Bytes
  draft : DraftVersion
  captureRaw : Bool
  deriving DecidableEq, Repr

/-! ## Locating a frame -/

/-- `decode_varint` on a slice, its error dropped. -/
def peekVarint (draft : DraftVersion) (bytes : Bytes) : Option ℕ :=
  match draft.decodeVarint (Cursor.of bytes) with
  | .ok (value, _) => some value.val
  | .error _ => none

/-- Where the frame ends, from the length field behind a type of `typeLen` bytes. -/
def frameEnd (draft : DraftVersion) (buf : Bytes) (typeLen : ℕ) : Option ℕ :=
  if draft.usesFixedLengthFraming then do
    let hi ← buf[typeLen]?
    let lo ← buf[typeLen + 1]?
    some (typeLen + 2 + ((hi.toNat <<< 8) ||| lo.toNat))
  else do
    let first ← buf[typeLen]?
    let payloadLenVarintLen := draft.varintLen first
    guard (typeLen + payloadLenVarintLen ≤ buf.length)
    let payloadLen ← peekVarint draft ((buf.drop typeLen).take payloadLenVarintLen)
    some (typeLen + payloadLenVarintLen + payloadLen)

/-- The type of the frame at the head of the buffer, and where it ends: `none`
where `feed` breaks off its loop. -/
def locate (draft : DraftVersion) (buf : Bytes) : Option (ℕ × ℕ) := do
  let first ← buf.head?
  let typeLen := draft.varintLen first
  guard (typeLen ≤ buf.length)
  let typeId ← peekVarint draft (buf.take typeLen)
  let total ← frameEnd draft buf typeLen
  guard (total ≤ buf.length)
  some (typeId, total)

section

variable {Message : Type} (decode : DraftVersion → Bytes → Option Message)

/-- What is handed back for a located frame. -/
def parsedItem (draft : DraftVersion) (captureRaw : Bool) (typeId : ℕ) (frame : Bytes) :
    ParsedItem Message :=
  let rawBytes := if captureRaw then some frame else none
  match decode draft frame with
  | some message => .frame message rawBytes
  | none => .refused typeId rawBytes

/-- The loop of `feed`, for at most `fuel` frames. -/
def feedLoop (draft : DraftVersion) (captureRaw : Bool) :
    ℕ → Bytes → List (ParsedItem Message) × Bytes
  | 0, buf => ([], buf)
  | fuel + 1, buf =>
    match locate draft buf with
    | none => ([], buf)
    | some (typeId, total) =>
      let item := parsedItem decode draft captureRaw typeId (buf.take total)
      let (items, left) := feedLoop draft captureRaw fuel (buf.drop total)
      (item :: items, left)

namespace ControlStreamParser

def newCapturing (draft : DraftVersion) : ControlStreamParser :=
  { buf := [], draft := draft, captureRaw := true }

/-- Feed raw bytes into the parser.  A frame is never empty, so the buffer's
length is fuel enough for the loop. -/
def feed (parser : ControlStreamParser) (data : Bytes) :
    ParseResult Message × ControlStreamParser :=
  let buf := parser.buf ++ data
  let (items, left) := feedLoop decode parser.draft parser.captureRaw buf.length buf
  (if items.isEmpty then .needMore else .framed items, { parser with buf := left })

end ControlStreamParser

def ParseResult.items : ParseResult Message → List (ParsedItem Message)
  | .framed items => items
  | .needMore => []

/-- The items of a stream fed chunk by chunk, and the parser behind it. -/
def feedAll (parser : ControlStreamParser) :
    List Bytes → List (ParsedItem Message) × ControlStreamParser
  | [] => ([], parser)
  | chunk :: chunks =>
    let (result, parser) := parser.feed decode chunk
    let (items, parser) := feedAll parser chunks
    (result.items ++ items, parser)

end

/-! ## Whole fields and whole frames -/

/-- A whole varint field, and its value. -/
structure WholeVarint (draft : DraftVersion) (field : Bytes) (value : ℕ) : Prop where
  measured : ∃ first, field.head? = some first ∧ field.length = draft.varintLen first
  peeks : peekVarint draft field = some value

/-- A whole length field, and the payload length it declares. -/
def LengthField (draft : DraftVersion) (field : Bytes) (payload : ℕ) : Prop :=
  if draft.usesFixedLengthFraming then
    ∃ hi lo, field = [hi, lo] ∧ payload = (hi.toNat <<< 8) ||| lo.toNat
  else WholeVarint draft field payload

/-- A whole frame, and its Message Type. -/
def WholeFrame (draft : DraftVersion) (frame : Bytes) (typeId : ℕ) : Prop :=
  ∃ type length payload, frame = type ++ length ++ payload ∧ WholeVarint draft type typeId ∧
    LengthField draft length payload.length

variable {draft : DraftVersion}

theorem varintLen_pos (draft : DraftVersion) (first : UInt8) : 0 < draft.varintLen first := by
  unfold DraftVersion.varintLen
  split
  · rw [Nat.one_shiftLeft]
    exact Nat.two_pow_pos _
  · split <;> omega

theorem WholeVarint.cons {field : Bytes} {value : ℕ} (whole : WholeVarint draft field value) :
    ∃ first tail, field = first :: tail ∧ tail.length + 1 = draft.varintLen first := by
  obtain ⟨first, starts, length⟩ := whole.measured
  cases field with
  | nil => exact nomatch starts
  | cons byte tail =>
    obtain rfl := Option.some.inj starts
    exact ⟨byte, tail, rfl, length⟩

/-- A length field is read where it stands, whatever is behind it. -/
theorem frameEnd_whole {type length : Bytes} {payload : ℕ}
    (whole : LengthField draft length payload) (rest : Bytes) :
    frameEnd draft (type ++ length ++ rest) type.length =
      some (type.length + length.length + payload) := by
  unfold LengthField at whole
  unfold frameEnd
  split at whole
  · obtain ⟨hi, lo, rfl, rfl⟩ := whole
    simp_all
  · obtain ⟨first, tail, rfl, measured⟩ := whole.cons
    have peeks := whole.peeks
    have here : (type ++ first :: tail ++ rest)[type.length]? = some first := by simp
    have field : ((type ++ first :: tail ++ rest).drop type.length).take (draft.varintLen first) =
        first :: tail := by
      rw [List.append_assoc, List.drop_left, ← measured]
      exact List.take_left' rfl
    have fits : type.length + draft.varintLen first ≤ (type ++ first :: tail ++ rest).length := by
      simp only [List.length_append, List.length_cons]
      omega
    simp only [*, Bool.false_eq_true, ↓reduceIte, Option.bind_eq_bind, Option.bind_some, guard,
      pure, List.length_cons]

/-- A whole frame is located where it stands, whatever is behind it. -/
theorem locate_whole {frame : Bytes} {typeId : ℕ} (whole : WholeFrame draft frame typeId)
    (rest : Bytes) : locate draft (frame ++ rest) = some (typeId, frame.length) := by
  obtain ⟨type, length, payload, rfl, typed, sized⟩ := whole
  have ends := @frameEnd_whole draft type length _ sized (payload ++ rest)
  obtain ⟨first, tail, rfl, measured⟩ := typed.cons
  have peeks := typed.peeks
  rw [List.length_cons, measured, ← List.append_assoc] at ends
  have starts : (first :: tail ++ length ++ payload ++ rest).head? = some first := rfl
  have field : (first :: tail ++ length ++ payload ++ rest).take (draft.varintLen first) =
      first :: tail := by
    rw [← measured, List.append_assoc, List.append_assoc]
    exact List.take_left' rfl
  have total : (first :: tail ++ length ++ payload).length =
      draft.varintLen first + length.length + payload.length := by
    simp only [List.length_append, List.length_cons, measured]
  have room : draft.varintLen first ≤ (first :: tail ++ length ++ payload ++ rest).length := by
    rw [List.length_append, total]
    omega
  have inside : draft.varintLen first + length.length + payload.length ≤
      (first :: tail ++ length ++ payload ++ rest).length := by
    rw [List.length_append, total]
    omega
  unfold locate
  simp only [starts, room, field, peeks, ends, inside, total, Option.bind_eq_bind,
    Option.bind_some, guard, ↓reduceIte, pure]

/-- A length field that is read is whole. -/
theorem frameEnd_some {buf : Bytes} {typeLen total : ℕ} (ends : frameEnd draft buf typeLen = some total) :
    ∃ length payload, LengthField draft length payload ∧
      length <+: buf.drop typeLen ∧ total = typeLen + length.length + payload := by
  unfold frameEnd at ends
  unfold LengthField
  split at ends
  · rename_i fixed
    simp only [fixed, ↓reduceIte]
    simp only [Option.bind_eq_bind, Option.bind_eq_some_iff, Option.some.injEq] at ends
    obtain ⟨hi, atHi, lo, atLo, rfl⟩ := ends
    refine ⟨[hi, lo], _, ⟨hi, lo, rfl, rfl⟩, ?_, rfl⟩
    refine ⟨buf.drop (typeLen + 2), ?_⟩
    obtain ⟨below, rfl⟩ := List.getElem?_eq_some_iff.mp atHi
    obtain ⟨below', rfl⟩ := List.getElem?_eq_some_iff.mp atLo
    rw [List.drop_eq_getElem_cons below, List.drop_eq_getElem_cons below']
    rfl
  · rename_i varied
    simp only [varied, Bool.false_eq_true, ↓reduceIte]
    simp only [Option.bind_eq_bind, Option.bind_eq_some_iff, Option.guard_eq_some',
      Option.some.injEq] at ends
    obtain ⟨first, atFirst, _, fits, payload, peeks, rfl⟩ := ends
    obtain ⟨below, rfl⟩ := List.getElem?_eq_some_iff.mp atFirst
    have length : ((buf.drop typeLen).take (draft.varintLen buf[typeLen])).length =
        draft.varintLen buf[typeLen] := by
      rw [List.length_take, List.length_drop]
      omega
    refine ⟨(buf.drop typeLen).take (draft.varintLen buf[typeLen]), payload, ⟨⟨buf[typeLen], ?_, length⟩,
      peeks⟩, List.take_prefix .., by rw [length]⟩
    have positive := varintLen_pos draft buf[typeLen]
    rw [List.head?_take, if_neg (by omega), List.head?_drop, atFirst]

/-- What is located is a whole frame at the head of the buffer. -/
theorem locate_some {buf : Bytes} {typeId total : ℕ} (located : locate draft buf = some (typeId, total)) :
    ∃ frame rest, buf = frame ++ rest ∧ frame.length = total ∧ WholeFrame draft frame typeId := by
  unfold locate at located
  simp only [Option.bind_eq_bind, Option.bind_eq_some_iff, Option.guard_eq_some', Option.some.injEq,
    Prod.mk.injEq] at located
  obtain ⟨first, starts, _, fits, type, peeks, ending, ends, _, inside, rfl, rfl⟩ := located
  obtain ⟨length, payload, sized, ⟨behind, there⟩, rfl⟩ := frameEnd_some ends
  have measured : (buf.take (draft.varintLen first)).length = draft.varintLen first := by
    rw [List.length_take]
    omega
  have positive := varintLen_pos draft first
  have typed : WholeVarint draft (buf.take (draft.varintLen first)) type := by
    refine ⟨⟨first, ?_, measured⟩, peeks⟩
    rw [List.head?_take, if_neg (by omega), starts]
  have room : payload ≤ behind.length := by
    have := congrArg List.length there
    rw [List.length_append, List.length_drop] at this
    omega
  refine ⟨buf.take (draft.varintLen first) ++ length ++ behind.take payload, behind.drop payload,
    ?_, ?_, _, _, _, rfl, typed, ?_⟩
  · rw [List.append_assoc, List.take_append_drop, List.append_assoc, there, List.take_append_drop]
  · rw [List.length_append, List.length_append, measured, List.length_take, Nat.min_eq_left room]
  · rwa [List.length_take, Nat.min_eq_left room]

theorem WholeFrame.positive {frame : Bytes} {typeId : ℕ} (whole : WholeFrame draft frame typeId) :
    0 < frame.length := by
  obtain ⟨type, length, payload, rfl, typed, _⟩ := whole
  obtain ⟨first, tail, rfl, _⟩ := typed.cons
  simp only [List.length_append, List.length_cons]
  omega

theorem locate_stable (draft : DraftVersion) : Stable (locate draft) where
  positive located := by
    obtain ⟨frame, rest, rfl, rfl, whole⟩ := locate_some located
    exact whole.positive
  inside located := by
    obtain ⟨frame, rest, rfl, rfl, whole⟩ := locate_some located
    rw [List.length_append]
    exact Nat.le_add_right ..
  extends' located more := by
    obtain ⟨frame, rest, rfl, rfl, whole⟩ := locate_some located
    rw [List.append_assoc]
    exact locate_whole whole _

/-! ## Bytes that can still complete a frame -/

/-- A first byte no integer of the draft starts with: draft-17's seven-byte form. -/
def Undefined (draft : DraftVersion) (first : UInt8) : Prop :=
  draft = .draft17 ∧ VarInt.leadingOnes first = 6

instance (draft : DraftVersion) (first : UInt8) : Decidable (Undefined draft first) :=
  inferInstanceAs (Decidable (_ ∧ _))

theorem readBe_whole {count : ℕ} {bytes : Bytes} (acc : ℕ) (whole : bytes.length = count) :
    ∃ value, VarInt.readBe count acc ⟨bytes, 0⟩ = .ok (value, ⟨[], 0⟩) := by
  induction count generalizing bytes acc with
  | zero =>
    obtain rfl := List.length_eq_zero_iff.mp whole
    exact ⟨acc, rfl⟩
  | succ count ih =>
    obtain ⟨byte, tail, rfl⟩ := List.exists_cons_of_length_eq_add_one whole
    obtain ⟨value, reads⟩ := ih ((acc <<< 8) ||| byte.toNat) (Nat.succ.inj whole)
    exact ⟨value, reads⟩

/-- A field as long as its first byte says decodes. -/
theorem peekVarint_whole {first : UInt8} {tail : Bytes} (defined : ¬ Undefined draft first)
    (measured : tail.length + 1 = draft.varintLen first) :
    ∃ value, peekVarint draft (first :: tail) = some value := by
  unfold DraftVersion.varintLen at measured
  unfold peekVarint DraftVersion.decodeVarint
  cases encoding : draft.varintEncoding with
  | rfc9000 =>
    simp only [encoding] at measured ⊢
    obtain ⟨value, reads⟩ := @readBe_whole tail.length tail (first.toNat &&& 0x3F) rfl
    refine ⟨(VarInt.ofU64 value).val, ?_⟩
    have length : 1 <<< (first.toNat >>> 6) - 1 = tail.length := by omega
    unfold VarInt.decode Cursor.of
    rw [bind_apply, VarInt.peek_cons]
    dsimp only
    rw [bind_apply, VarInt.require_ok (by simp only [Cursor.remaining, List.length_cons]; omega)]
    dsimp only
    rw [bind_apply]
    simp only [takeByte, length]
    rw [bind_apply, reads]
    rfl
  | moqt profile =>
    simp only [encoding] at measured ⊢
    have ones : tail.length = VarInt.leadingOnes first := by
      split at measured
      · rename_i nine
        rw [nine]
        exact Nat.succ.inj measured
      · exact Nat.succ.inj measured
    have allowed : ¬ (VarInt.leadingOnes first + 1 = 7 ∧ profile.sevenByte = false) := by
      rintro ⟨seven, skips⟩
      refine defined ⟨?_, Nat.succ.inj seven⟩
      cases draft <;> cases profile <;>
        simp_all [DraftVersion.varintEncoding, MoqtProfile.sevenByte]
    obtain ⟨value, reads⟩ := readBe_whole (VarInt.carried first) ones
    refine ⟨(VarInt.ofU64 value).val, ?_⟩
    rw [Cursor.of, VarInt.decodeMoqt_cons, if_neg allowed, if_neg (by omega), bind_apply, reads]
    rfl

/-- A field of the undefined form decodes to nothing, however long it is. -/
theorem peekVarint_undefined {first : UInt8} {tail : Bytes} (undefined : Undefined draft first) :
    peekVarint draft (first :: tail) = none := by
  obtain ⟨rfl, six⟩ := undefined
  have refused : VarInt.leadingOnes first + 1 = 7 ∧ MoqtProfile.moqt17.sevenByte = false :=
    ⟨congrArg (· + 1) six, rfl⟩
  simp only [peekVarint, DraftVersion.decodeVarint, DraftVersion.varintEncoding, Cursor.of,
    VarInt.decodeMoqt_cons, if_pos refused]

/-- A buffer whose next Message Type no integer of the draft can be. -/
def Stuck (draft : DraftVersion) (buf : Bytes) : Prop :=
  ∃ first, buf.head? = some first ∧ Undefined draft first

theorem Stuck.append {buf : Bytes} (stuck : Stuck draft buf) (more : Bytes) :
    Stuck draft (buf ++ more) := by
  obtain ⟨first, starts, undefined⟩ := stuck
  refine ⟨first, ?_, undefined⟩
  rw [List.head?_append, starts]
  rfl

/-- Nothing behind an undefined type completes a frame. -/
theorem Stuck.waits {buf : Bytes} (stuck : Stuck draft buf) : locate draft buf = none := by
  obtain ⟨first, starts, undefined⟩ := stuck
  cases located : locate draft buf with
  | none => rfl
  | some entry =>
    obtain ⟨frame, rest, rfl, _, whole⟩ := locate_some located
    obtain ⟨type, length, payload, rfl, typed, _⟩ := whole
    obtain ⟨byte, tail, rfl, _⟩ := typed.cons
    obtain rfl := Option.some.inj starts
    exact nomatch (peekVarint_undefined undefined).symm.trans typed.peeks

theorem varintLen_le (draft : DraftVersion) (first : UInt8) : draft.varintLen first ≤ 9 := by
  unfold DraftVersion.varintLen
  split
  · have small : first.toNat >>> 6 ≤ 3 := by
      rw [Nat.shiftRight_eq_div_pow]
      have := first.toNat_lt
      omega
    have := Nat.pow_le_pow_right (show 0 < 2 by decide) small
    rw [Nat.one_shiftLeft]
    omega
  · have := VarInt.leadingOnes_le first
    split <;> omega

theorem defined_zero (draft : DraftVersion) : ¬ Undefined draft 0 := fun undefined =>
  absurd undefined.2 (by decide)

/-- Nine zeros behind any buffer, and a whole integer stands at its head. -/
theorem field_padded {buf : Bytes} {count : ℕ} (enough : 9 ≤ count)
    (defined : ∀ first, buf.head? = some first → ¬ Undefined draft first) :
    ∃ field value rest, buf ++ List.replicate count 0 = field ++ rest ∧
      WholeVarint draft field value ∧ field.length ≤ 9 := by
  obtain ⟨first, tail, padded, allowed, long⟩ :
      ∃ first tail, buf ++ List.replicate count 0 = first :: tail ∧ ¬ Undefined draft first ∧
        8 ≤ tail.length := by
    cases buf with
    | nil =>
      obtain ⟨count, rfl⟩ : ∃ k, count = k + 1 := ⟨count - 1, by omega⟩
      exact ⟨0, List.replicate count 0, rfl, defined_zero draft, by
        rw [List.length_replicate]; omega⟩
    | cons first tail =>
      refine ⟨first, tail ++ List.replicate count 0, rfl, defined first rfl, ?_⟩
      rw [List.length_append, List.length_replicate]
      omega
  have positive := varintLen_pos draft first
  have bounded := varintLen_le draft first
  have measured : (tail.take (draft.varintLen first - 1)).length + 1 = draft.varintLen first := by
    rw [List.length_take]
    omega
  obtain ⟨value, peeks⟩ := peekVarint_whole allowed measured
  refine ⟨first :: tail.take (draft.varintLen first - 1), value,
    tail.drop (draft.varintLen first - 1), ?_, ⟨⟨first, rfl, measured⟩, peeks⟩, ?_⟩
  · rw [padded, List.cons_append, List.take_append_drop]
  · rw [List.length_cons, measured]
    exact bounded

/-- Nine zeros behind any bytes, and a whole length field stands at their head.
Its first byte is never undefined: draft-17 has the 16-bit length. -/
theorem length_padded (draft : DraftVersion) {buf : Bytes} {count : ℕ} (enough : 9 ≤ count) :
    ∃ field payload rest, buf ++ List.replicate count 0 = field ++ rest ∧
      LengthField draft field payload ∧ field.length ≤ 9 := by
  unfold LengthField
  by_cases fixed : draft.usesFixedLengthFraming
  · simp only [fixed, ↓reduceIte]
    have long : 2 ≤ (buf ++ List.replicate count (0 : UInt8)).length := by
      rw [List.length_append, List.length_replicate]
      omega
    match padded : buf ++ List.replicate count (0 : UInt8), long with
    | hi :: lo :: rest, _ => exact ⟨[hi, lo], _, rest, rfl, ⟨hi, lo, rfl, rfl⟩, Nat.le_add_left 2 7⟩
  · simp only [fixed, Bool.false_eq_true, ↓reduceIte]
    refine field_padded enough fun first _ undefined => fixed ?_
    rw [undefined.1]
    rfl

/-- **What is held back can complete a frame**, unless its type is undefined. -/
theorem completes {buf : Bytes} (waits : locate draft buf = none) (free : ¬ Stuck draft buf) :
    ∃ more typeId, more ≠ [] ∧ WholeFrame draft (buf ++ more) typeId := by
  obtain ⟨type, typeId, behind, padded, typed, short⟩ :=
    @field_padded draft buf 18 (by decide) fun first starts undefined =>
      free ⟨first, starts, undefined⟩
  -- the zeros left behind the type are enough for the length field
  have left : behind = buf.drop type.length ++
      List.replicate (18 - (type.length - buf.length)) (0 : UInt8) := by
    have dropped := congrArg (List.drop type.length) padded
    rw [List.drop_left, List.drop_append, List.drop_replicate] at dropped
    exact dropped.symm
  obtain ⟨length, payload, rest, fielded, sized, _⟩ :=
    @length_padded draft (buf.drop type.length) (18 - (type.length - buf.length)) (by omega)
  rw [← left] at fielded
  have header : type ++ length <+: buf ++ List.replicate 18 (0 : UInt8) :=
    ⟨rest, by rw [padded, fielded, List.append_assoc]⟩
  have whole : ∀ body : Bytes, body.length = payload →
      WholeFrame draft (type ++ length ++ body) typeId :=
    fun body exact_ => ⟨type, length, body, rfl, typed, exact_ ▸ sized⟩
  rcases Nat.lt_or_ge buf.length (type ++ length).length with within | beyond
  · obtain ⟨extra, split⟩ := List.prefix_of_prefix_length_le (List.prefix_append buf _) header
      (Nat.le_of_lt within)
    refine ⟨extra ++ List.replicate payload 0, typeId, ?_, ?_⟩
    · intro nothing
      have missing := congrArg List.length split
      rw [(List.append_eq_nil_iff.mp nothing).1, List.append_nil] at missing
      omega
    · rw [← List.append_assoc, split]
      exact whole _ List.length_replicate
  · obtain ⟨body, rfl⟩ := List.prefix_of_prefix_length_le header (List.prefix_append buf _) beyond
    have lacks : body.length < payload := by
      by_contra enough
      have located := locate_whole (whole (body.take payload) (by rw [List.length_take]; omega))
        (body.drop payload)
      rw [List.append_assoc, List.take_append_drop, waits] at located
      exact nomatch located
    refine ⟨List.replicate (payload - body.length) 0, typeId, ?_, ?_⟩
    · exact List.ne_nil_of_length_pos (by rw [List.length_replicate]; omega)
    · rw [List.append_assoc]
      exact whole _ (by rw [List.length_append, List.length_replicate]; omega)

/-! ## A whole stream -/

section

variable {Message : Type} {decode : DraftVersion → Bytes → Option Message}

/-- The loop hands back the frames of the buffer, each as an item. -/
theorem feedLoop_eq (captureRaw : Bool) (fuel : ℕ) (buf : Bytes) :
    feedLoop decode draft captureRaw fuel buf =
      ((cut (locate draft) fuel buf).1.map fun entry =>
          parsedItem decode draft captureRaw entry.1 entry.2,
        (cut (locate draft) fuel buf).2) := by
  induction fuel generalizing buf with
  | zero => rfl
  | succ fuel ih =>
    unfold feedLoop cut
    cases locate draft buf with
    | none => rfl
    | some entry =>
      simp only [ih]
      rfl

/-- The items of a buffer's frames, captured. -/
def itemsOf (decode : DraftVersion → Bytes → Option Message) (draft : DraftVersion)
    (entries : List (ℕ × Bytes)) : List (ParsedItem Message) :=
  entries.map fun entry => parsedItem decode draft true entry.1 entry.2

theorem parsedItem_rawBytes (typeId : ℕ) (frame : Bytes) :
    (parsedItem decode draft true typeId frame).rawBytes = some frame := by
  unfold parsedItem
  dsimp only
  cases decode draft frame <;> rfl

theorem feed_frames (buf data : Bytes) :
    ((⟨buf, draft, true⟩ : ControlStreamParser).feed decode data).1.items =
        itemsOf decode draft (frames (locate draft) (buf ++ data)).1 ∧
      ((⟨buf, draft, true⟩ : ControlStreamParser).feed decode data).2 =
        ⟨(frames (locate draft) (buf ++ data)).2, draft, true⟩ := by
  unfold ControlStreamParser.feed
  simp only [feedLoop_eq]
  refine ⟨?_, rfl⟩
  cases found : (frames (locate draft) (buf ++ data)).1 with
  | nil =>
    rw [frames] at found
    simp only [found, List.map_nil, List.isEmpty_nil, ↓reduceIte]
    rfl
  | cons entry entries =>
    rw [frames] at found
    simp only [found, List.map_cons, List.isEmpty_cons, Bool.false_eq_true, ↓reduceIte]
    rfl

/-- **Feeding in chunks is feeding at once.** -/
theorem feedAll_frames (buf : Bytes) (chunks : List Bytes) (settled : locate draft buf = none) :
    feedAll decode ⟨buf, draft, true⟩ chunks =
      (itemsOf decode draft (frames (locate draft) (buf ++ chunks.flatten)).1,
        ⟨(frames (locate draft) (buf ++ chunks.flatten)).2, draft, true⟩) := by
  induction chunks generalizing buf with
  | nil =>
    rw [List.flatten_nil, List.append_nil, frames_none settled]
    rfl
  | cons chunk chunks ih =>
    obtain ⟨given, after⟩ := @feed_frames draft Message decode buf chunk
    have rest := ih _ (frames_waits (locate_stable draft) (buf ++ chunk))
    rw [List.flatten_cons, ← List.append_assoc, frames_append (locate_stable draft)]
    unfold feedAll
    cases fed : (⟨buf, draft, true⟩ : ControlStreamParser).feed decode chunk with
    | mk result parser =>
      rw [fed] at given after
      obtain rfl : parser = _ := after
      simp only [rest, given, itemsOf, List.map_append]

/-- The items handed back for a stream, and the parser left behind it. -/
def parsed (decode : DraftVersion → Bytes → Option Message) (draft : DraftVersion)
    (chunks : List Bytes) : List (ParsedItem Message) × ControlStreamParser :=
  feedAll decode (.newCapturing draft) chunks

theorem locate_nil (draft : DraftVersion) : locate draft [] = none := rfl

theorem parsed_eq (chunks : List Bytes) :
    parsed decode draft chunks =
      (itemsOf decode draft (frames (locate draft) chunks.flatten).1,
        ⟨(frames (locate draft) chunks.flatten).2, draft, true⟩) :=
  feedAll_frames [] chunks (locate_nil draft)

/-- What a forwarding path needs of the parser on `bytes`: the same items
however they are fed, every byte in an item or still held, and what is held
the front of a frame that more bytes complete. -/
structure Lossless (decode : DraftVersion → Bytes → Option Message) (draft : DraftVersion)
    (bytes : Bytes) : Prop where
  same : ∀ chunks chunks', chunks.flatten = bytes → chunks'.flatten = bytes →
    (parsed decode draft chunks).1 = (parsed decode draft chunks').1
  kept : ∀ chunks, chunks.flatten = bytes →
    ((parsed decode draft chunks).1.map fun item => item.rawBytes.getD []).flatten ++
      (parsed decode draft chunks).2.buf = bytes
  free : ∀ chunks, chunks.flatten = bytes → ∃ more item,
    more ≠ [] ∧ ((parsed decode draft chunks).2.feed decode more).1 = .framed [item] ∧
      item.rawBytes = some ((parsed decode draft chunks).2.buf ++ more)

/-- Whole frames, and behind them a Message Type of the undefined form. -/
def Wedged (draft : DraftVersion) (bytes : Bytes) : Prop :=
  ∃ (whole : List Bytes) (rest : Bytes), (∀ frame ∈ whole, ∃ typeId, WholeFrame draft frame typeId) ∧
    bytes = whole.flatten ++ rest ∧ Stuck draft rest

/-- The bytes left over are stuck exactly where the stream is wedged. -/
theorem wedged_iff (bytes : Bytes) :
    Wedged draft bytes ↔ Stuck draft (frames (locate draft) bytes).2 := by
  constructor
  · rintro ⟨whole, rest, complete, rfl, stuck⟩
    obtain ⟨entries, rfl, cuts⟩ : ∃ entries : List (ℕ × Bytes), whole = entries.map Prod.snd ∧
        ∀ entry ∈ entries, locate draft entry.2 = some (entry.1, entry.2.length) := by
      clear stuck
      induction whole with
      | nil => exact ⟨[], rfl, by simp⟩
      | cons frame whole ih =>
        obtain ⟨entries, rfl, cuts⟩ := ih fun frame later => complete frame (.tail _ later)
        obtain ⟨typeId, first⟩ := complete frame List.mem_cons_self
        refine ⟨(typeId, frame) :: entries, rfl, ?_⟩
        intro entry member
        rcases List.mem_cons.mp member with rfl | later
        · have located := locate_whole first []
          rwa [List.append_nil] at located
        · exact cuts entry later
    rw [frames_whole (locate_stable draft) cuts, frames_none stuck.waits]
    exact stuck
  · intro stuck
    have bytesKept := frames_bytes (locate_stable draft) bytes
    refine ⟨_, _, ?_, bytesKept.symm, stuck⟩
    intro frame member
    obtain ⟨entry, listed, rfl⟩ := List.mem_map.mp member
    obtain ⟨rest, cuts⟩ := frames_mem (locate_stable draft) listed
    obtain ⟨frame, rest', split, length, whole⟩ := locate_some cuts
    obtain rfl := (List.append_inj split length.symm).1
    exact ⟨_, whole⟩

/-- **The parser is lossless on a stream exactly where it is not wedged.** -/
theorem lossless_iff (decode : DraftVersion → Bytes → Option Message) (draft : DraftVersion)
    (bytes : Bytes) : Lossless decode draft bytes ↔ ¬ Wedged draft bytes := by
  have waits := frames_waits (locate_stable draft) bytes
  rw [wedged_iff]
  constructor
  · intro lossless stuck
    obtain ⟨more, item, _, framed, _⟩ := lossless.free [bytes] (by simp)
    have left : (parsed decode draft [bytes]).2 = ⟨(frames (locate draft) bytes).2, draft, true⟩ := by
      rw [parsed_eq, List.flatten_singleton]
    have given := (@feed_frames draft Message decode (frames (locate draft) bytes).2 more).1
    rw [frames_none (stuck.append more).waits] at given
    rw [left] at framed
    rw [framed] at given
    exact nomatch given
  · intro free
    refine ⟨fun chunks chunks' whole whole' => ?_, fun chunks whole => ?_, fun chunks whole => ?_⟩
    · rw [parsed_eq, parsed_eq, whole, whole']
    · rw [parsed_eq, whole]
      have raws : (itemsOf decode draft (frames (locate draft) bytes).1).map
          (fun item => item.rawBytes.getD []) = (frames (locate draft) bytes).1.map Prod.snd := by
        rw [itemsOf, List.map_map]
        apply List.map_congr_left
        intro entry _
        simp only [Function.comp_apply, parsedItem_rawBytes, Option.getD_some]
      rw [raws]
      exact frames_bytes (locate_stable draft) bytes
    · obtain ⟨more, typeId, some, frame⟩ := completes waits free
      have located := locate_whole frame []
      rw [List.append_nil] at located
      have one : frames (locate draft) ((frames (locate draft) bytes).2 ++ more) =
          ([(typeId, (frames (locate draft) bytes).2 ++ more)], []) := by
        rw [frames_some (locate_stable draft) located, List.take_length, List.drop_length,
          frames_none (locate_nil draft)]
      have given := (@feed_frames draft Message decode (frames (locate draft) bytes).2 more).1
      rw [one] at given
      rw [parsed_eq, whole]
      refine ⟨more, parsedItem decode draft true typeId _, some, ?_, parsedItem_rawBytes ..⟩
      cases answer : ((⟨(frames (locate draft) bytes).2, draft, true⟩ :
          ControlStreamParser).feed decode more).1 with
      | needMore =>
        rw [answer] at given
        exact nomatch given
      | framed items =>
        rw [answer] at given
        exact congrArg ParseResult.framed given

end

/-- A draft-17 stream whose first Message Type takes the seven-byte form: all of
it arrives, and nothing behind it completes a frame. -/
theorem seven_byte_type_wedges :
    ¬ ∃ decode : DraftVersion → Bytes → Option Unit,
      Lossless decode .draft17 [0xFC, 0, 0, 0, 0, 0, 0, 0, 0] := by
  rintro ⟨decode, lossless⟩
  obtain ⟨more, item, _, framed, _⟩ := lossless.free [[0xFC, 0, 0, 0, 0, 0, 0, 0, 0]] rfl
  have stuck : Stuck .draft17 [0xFC, 0, 0, 0, 0, 0, 0, 0, 0] := ⟨0xFC, rfl, by decide⟩
  have left : (parsed decode .draft17 [[0xFC, 0, 0, 0, 0, 0, 0, 0, 0]]).2 =
      ⟨[0xFC, 0, 0, 0, 0, 0, 0, 0, 0], .draft17, true⟩ := by
    rw [parsed_eq, List.flatten_singleton, frames_none stuck.waits]
  have given := (@feed_frames .draft17 Unit decode [0xFC, 0, 0, 0, 0, 0, 0, 0, 0] more).1
  rw [frames_none (stuck.append more).waits] at given
  rw [left] at framed
  rw [framed] at given
  exact nomatch given

end Moqtap.ControlParser
