import Moqtap.Draft22Messages

/-! When draft-22's `ControlMessage::decode` says that bytes are still to come: exactly on
a buffer that ends inside the type, the length or the declared body
(`decode_incomplete_iff`). A body that has arrived is read as far as it goes, and running
out inside it is another error. -/
namespace Moqtap.Draft22.Arrival
open ByteCursor Varint CodecTypes Parameters Messages

/-! ## Where a frame can be cut -/

/-- The type varint is not whole: its first byte calls for more. -/
def TypeShort : Bytes → Prop
  | [] => True
  | first :: tail => (first :: tail).length < DraftVersion.draft22.varintLen first

/-- What stands behind the type ends inside the two length bytes or the declared body. -/
def BodyShort : Bytes → Prop
  | high :: low :: body => body.length < high.toNat * 256 + low.toNat
  | _ => True

/-- The frame has not arrived, as far as its own type and length tell. -/
def FrameShort (buf : Bytes) : Prop :=
  TypeShort buf ∨ ∃ typeId rest msgType, varint wire (.of buf) = .ok (typeId, .of rest) ∧
    MessageType.fromId typeId.val = some msgType ∧ BodyShort rest

/-! ## The reads around the body -/

variable {buf rest : Bytes}

theorem varint_cons (first : UInt8) (tail : Bytes) :
    varint wire (.of (first :: tail)) =
      if tail.length < VarInt.leadingOnes first then .error (.varInt .unexpectedEnd)
      else (mapError .varInt (do
        let val ← VarInt.readBe (VarInt.leadingOnes first) (VarInt.carried first)
        return VarInt.ofU64 val)) (.of tail) := by
  rw [varint, mapError, Cursor.of, VarInt.decodeMoqt_cons]
  simp only [MoqtProfile.sevenByte, Bool.true_eq_false, and_false, if_false, Nat.add_zero]
  split
  · rfl
  · rfl

theorem varintLen_eq (first : UInt8) :
    DraftVersion.draft22.varintLen first = VarInt.leadingOnes first + 1 := by
  simp only [DraftVersion.varintLen, DraftVersion.varintEncoding]
  split
  · rename_i nine
    subst nine
    decide
  · rfl

theorem typeShort_iff {first : UInt8} {tail : Bytes} :
    TypeShort (first :: tail) ↔ tail.length < VarInt.leadingOnes first := by
  rw [TypeShort, varintLen_eq, List.length_cons]
  omega

theorem readBe_whole {count : Nat} (val : Nat) {bytes : Bytes} (enough : count ≤ bytes.length) :
    ∃ read, VarInt.readBe count val (.of bytes) = .ok (read, .of (bytes.drop count)) := by
  induction count generalizing val bytes with
  | zero => exact ⟨val, rfl⟩
  | succ count ih =>
    cases bytes with
    | nil => exact absurd enough (Nat.not_succ_le_zero count)
    | cons byte tail => exact ih _ (Nat.le_of_succ_le_succ enough)

/-- A varint that is all there is read. -/
theorem varint_whole (whole : ¬ TypeShort buf) :
    ∃ typeId rest, varint wire (.of buf) = .ok (typeId, .of rest) := by
  cases buf with
  | nil => exact absurd trivial whole
  | cons first tail =>
    rw [typeShort_iff] at whole
    obtain ⟨read, ran⟩ := readBe_whole (VarInt.carried first) (Nat.le_of_not_lt whole)
    refine ⟨VarInt.ofU64 read, tail.drop (VarInt.leadingOnes first), ?_⟩
    rw [varint_cons, if_neg whole, mapError, bind_apply, ran]
    rfl

theorem varint_short (short : TypeShort buf) : varint wire (.of buf) = .error (.varInt .unexpectedEnd) := by
  cases buf with
  | nil => rfl
  | cons first tail => rw [varint_cons, if_pos (typeShort_iff.mp short)]

theorem getU16_cons (high low : UInt8) (body : Bytes) :
    getU16 (.of (high :: low :: body)) = .ok (high.toNat * 256 + low.toNat, .of body) := by
  rw [getU16, bind_apply, readBytes, takeBytes_of, if_neg (by simp)]
  simp [pure_apply]

theorem getU16_short (short : rest.length < 2) : getU16 (.of rest) = .error .unexpectedEnd := by
  rw [getU16, bind_apply, readBytes, takeBytes_of, if_pos short]

/-! ## The body -/

theorem checkAll_error {α : Type} {check : α → Except CodecError Unit} {list : List α} {e : CodecError}
    (refused : checkAll check list = .error e) : ∃ a ∈ list, check a = .error e := by
  induction list with
  | nil => cases refused
  | cons a list ih =>
    unfold checkAll at refused
    cases one : check a with
    | error e' =>
      rw [one] at refused
      cases refused
      exact ⟨a, List.mem_cons_self .., one⟩
    | ok _ =>
      rw [one] at refused
      obtain ⟨b, member, found⟩ := ih refused
      exact ⟨b, List.mem_cons_of_mem _ member, found⟩

/-- Whatever a body that has arrived is refused for, it is not that bytes are missing. -/
theorem decodeFramed_complete {msgType : MessageType} {bodyLen : Nat} {body : Bytes} {e : CodecError}
    (refused : decodeFramed msgType bodyLen body = .error e) : ¬ e.Incomplete := by
  unfold decodeFramed at refused
  split at refused
  · split at refused
    · cases refused
      exact nofun
    · rename_i complete
      cases refused
      exact complete
  · rename_i message left ran
    cases inScope : checkParameterScope message with
    | error e' =>
      rw [inScope] at refused
      cases refused
      obtain ⟨parameter, -, found⟩ := checkAll_error inScope
      unfold refuseIf at found
      split at found
      · cases found
        exact nofun
      · cases found
    | ok _ =>
      rw [inScope, except_ok_bind] at refused
      unfold refuseIf at refused
      split at refused
      · cases refused
        exact nofun
      · cases refused

/-- Behind a known type, bytes are missing exactly where the length or the body is cut. -/
theorem body_incomplete_iff (msgType : MessageType) (rest : Bytes) :
    (∃ e, (do
        let bodyLen ← getU16
        let body ← readBytes bodyLen
        lift (decodeFramed msgType bodyLen body)) (.of rest) = .error e ∧ e.Incomplete) ↔
      BodyShort rest := by
  match rest with
  | [] =>
    rw [bind_apply, getU16_short (by simp)]
    exact ⟨fun _ => trivial, fun _ => ⟨_, rfl, rfl⟩⟩
  | [high] =>
    rw [bind_apply, getU16_short (by simp)]
    exact ⟨fun _ => trivial, fun _ => ⟨_, rfl, rfl⟩⟩
  | high :: low :: body =>
    rw [bind_apply, getU16_cons]
    dsimp only
    rw [bind_apply, readBytes, takeBytes_of]
    unfold BodyShort
    split_ifs with short
    · exact ⟨fun _ => short, fun _ => ⟨_, rfl, rfl⟩⟩
    · refine ⟨?_, fun cut => absurd cut short⟩
      rintro ⟨e, failed, incomplete⟩
      dsimp only [lift] at failed
      cases framed : decodeFramed msgType (high.toNat * 256 + low.toNat)
          (body.take (high.toNat * 256 + low.toNat)) with
      | ok message =>
        rw [framed] at failed
        cases failed
      | error e' =>
        rw [framed] at failed
        cases failed
        exact absurd incomplete (decodeFramed_complete framed)

/-- **`decode` asks for more bytes exactly while the frame has not arrived.** -/
theorem decode_incomplete_iff (buf : Bytes) :
    (∃ e, decode (.of buf) = .error e ∧ e.Incomplete) ↔ FrameShort buf := by
  unfold FrameShort decode
  by_cases short : TypeShort buf
  · rw [bind_apply, varint_short short]
    exact ⟨fun _ => .inl short, fun _ => ⟨_, rfl, rfl⟩⟩
  · obtain ⟨typeId, rest, read⟩ := varint_whole short
    rw [bind_apply, read]
    dsimp only
    rw [bind_apply, lift]
    cases known : MessageType.fromId typeId.val with
    | none =>
      constructor
      · rintro ⟨e, failed, incomplete⟩
        cases failed
        cases incomplete
      · rintro (cut | ⟨_, _, msgType, again, found, -⟩)
        · exact absurd cut short
        · cases again
          cases known.symm.trans found
    | some msgType =>
      rw [okOr_some]
      dsimp only [Except.map]
      rw [body_incomplete_iff]
      constructor
      · exact fun cut => .inr ⟨typeId, rest, msgType, rfl, known, cut⟩
      · rintro (cut | ⟨_, _, _, again, found, cut⟩)
        · exact absurd cut short
        · cases again
          exact cut

end Moqtap.Draft22.Arrival
