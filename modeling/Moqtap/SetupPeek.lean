import Mathlib
import Moqtap.CodecTypes
import Moqtap.QuicVarint

/-! Naming the draft of a session from the first bytes of its control stream.

`peekDraft` reads the header of the first message and, once the whole message has arrived,
the versions in its payload. `header_stable` and `header_completes` say that the header is
decided by the bytes that decide it and that what is undecided can still be; the payload is
only read whole. `ClientSetup` and `ServerSetup` describe a SETUP message with every field in
a form of any width, and `header_framed`, `header_cut` say what is read off one and off its
proper prefixes. -/

namespace Moqtap.SetupPeek
open ByteCursor Varint CodecTypes

inductive ProxySide where
  | clientToProxy
  | proxyToRelay
  | relayToProxy
  | proxyToClient
  deriving DecidableEq, Repr

inductive DraftPeek where
  | named (draft : DraftVersion)
  | needMore
  | notSetup
  deriving DecidableEq, Repr

/-- The length of a QUIC varint, from its first byte. -/
def varintLen (firstByte : UInt8) : Nat := 1 <<< (firstByte.toNat >>> 6)

/-- An on-wire version, `0xff000000 + draft`. -/
def versionVarintToDraft (v : Nat) : Option DraftVersion :=
  if 0xff000000 ≤ v ∧ v ≤ 0xff000000 + 255 then DraftVersion.fromNumber (v - 0xff000000) else none

/-- What the message type says: whether it is a CLIENT_SETUP, a SERVER_SETUP, and whether a
16-bit length follows. -/
def setupFraming (typeId : Nat) : Except DraftPeek (Bool × Bool × Bool) :=
  if typeId = 0x40 then .ok (true, false, false)
  else if typeId = 0x41 then .ok (false, true, false)
  else if typeId = 0x20 then .ok (true, false, true)
  else if typeId = 0x21 then .ok (false, true, true)
  else .error .notSetup

/-- The message must be the one expected on this direction. -/
def checkSide (side : ProxySide) (isClientSetup isServerSetup : Bool) : Except DraftPeek Unit :=
  match side with
  | .clientToProxy | .proxyToRelay => refuseIf (!isClientSetup) .notSetup
  | .relayToProxy | .proxyToClient => refuseIf (!isServerSetup) .notSetup

/-- A whole varint field. -/
def wholeVarint (field : Bytes) : Except DraftPeek Nat :=
  match VarInt.decode (.of field) with
  | .ok (v, _) => .ok v.val
  | .error _ => .error .notSetup

/-- `(payload_start, payload_len)`, the length field starting at `typeLen`. -/
def payloadSpan (buf : Bytes) (typeLen : Nat) (usesU16Length : Bool) : Except DraftPeek (Nat × Nat) :=
  if usesU16Length then do
    refuseIf (decide (buf.length < typeLen + 2)) .needMore
    let len := ((buf.getD typeLen 0).toNat <<< 8) ||| (buf.getD (typeLen + 1) 0).toNat
    return (typeLen + 2, len)
  else do
    refuseIf (decide (buf.length ≤ typeLen)) .needMore
    let vl := varintLen (buf.getD typeLen 0)
    refuseIf (decide (buf.length < typeLen + vl)) .needMore
    let len ← wholeVarint ((buf.drop typeLen).take vl)
    return (typeLen + vl, len)

/-- The message's header, an error being an early return: whether it is a CLIENT_SETUP, and
where its payload lies. -/
def header (buf : Bytes) (side : ProxySide) : Except DraftPeek (Bool × Nat × Nat) := do
  let first ← okOr buf.head? .needMore
  let typeLen := varintLen first
  refuseIf (decide (buf.length < typeLen)) .needMore
  let typeId ← wholeVarint (buf.take typeLen)
  let (isClientSetup, isServerSetup, usesU16Length) ← setupFraming typeId
  checkSide side isClientSetup isServerSetup
  let (start, len) ← payloadSpan buf typeLen usesU16Length
  return (isClientSetup, start, len)

/-- The better of the drafts so far and of one more version. -/
def better (best : Option DraftVersion) (v : Nat) : Option DraftVersion :=
  match versionVarintToDraft v with
  | none => best
  | some d =>
    if 7 ≤ d.number ∧ d.number ≤ 14 then
      match best with
      | some b => if d.number ≤ b.number then some b else some d
      | none => some d
    else best

def readVersions : Nat → Option DraftVersion → Reader VarIntError (Option DraftVersion)
  | 0, best => pure best
  | count + 1, best => do
    let v ← VarInt.decode
    readVersions count (better best v.val)

/-- The payload of a CLIENT_SETUP. -/
def peekClient (payload : Bytes) : DraftPeek :=
  match (VarInt.decode >>= fun count => readVersions count.val none) (.of payload) with
  | .ok (some d, _) => .named d
  | .ok (none, _) => .notSetup
  | .error _ => .notSetup

/-- The payload of a SERVER_SETUP. -/
def peekServer (payload : Bytes) : DraftPeek :=
  match VarInt.decode (.of payload) with
  | .error _ => .notSetup
  | .ok (v, _) =>
    match versionVarintToDraft v.val with
    | some d => if 7 ≤ d.number ∧ d.number ≤ 14 then .named d else .notSetup
    | none => .notSetup

def peekDraft (buf : Bytes) (side : ProxySide) : DraftPeek :=
  match header buf side with
  | .error answer => answer
  | .ok (isClientSetup, start, len) =>
    if buf.length < start + len then .needMore
    else
      let payload := (buf.drop start).take len
      if isClientSetup then peekClient payload else peekServer payload

/-! ## SETUP messages -/

/-- A whole varint field of any width, and its value. -/
def Field (field : Bytes) (value : Nat) : Prop := ∃ v, ReadsAll VarInt.decode field v ∧ v.val = value

/-- A message's type and length fields in front of its payload: a varint length behind type
`wide`, a 16-bit one behind type `narrow`. -/
def Framing (wide narrow : Nat) (type length payload : Bytes) : Prop :=
  (Field type wide ∧ Field length payload.length) ∨
    (Field type narrow ∧
      ∃ high low : UInt8, length = [high, low] ∧ payload.length = high.toNat * 256 + low.toNat)

/-- A CLIENT_SETUP listing `versions`. -/
def ClientSetup (frame : Bytes) (versions : List Nat) : Prop :=
  ∃ type length count fields parameters,
    frame = type ++ (length ++ (count ++ (fields.flatten ++ parameters))) ∧
    Framing 0x40 0x20 type length (count ++ (fields.flatten ++ parameters)) ∧
    Field count versions.length ∧ List.Forall₂ Field fields versions

/-- A SERVER_SETUP selecting `version`. -/
def ServerSetup (frame : Bytes) (version : Nat) : Prop :=
  ∃ type length selected parameters,
    frame = type ++ (length ++ (selected ++ parameters)) ∧
    Framing 0x41 0x21 type length (selected ++ parameters) ∧ Field selected version

/-- A version that stands for a draft of the moq-00 cohort. -/
def Offers (version : Nat) (draft : DraftVersion) : Prop :=
  version = 0xff000000 + draft.number ∧ 7 ≤ draft.number ∧ draft.number ≤ 14

/-- The highest draft offered among `versions`, or that there is none. -/
def Best (versions : List Nat) : DraftPeek → Prop
  | .named draft => (∃ version ∈ versions, Offers version draft) ∧
      ∀ version ∈ versions, ∀ other, Offers version other → other.number ≤ draft.number
  | .notSetup => ∀ version ∈ versions, ∀ draft, ¬ Offers version draft
  | .needMore => False

def ProxySide.carriesClientSetup : ProxySide → Bool
  | .clientToProxy | .proxyToRelay => true
  | .relayToProxy | .proxyToClient => false

/-! ## What is decided stays decided -/

variable {buf more : Bytes} {side : ProxySide}

theorem varintLen_cases (first : UInt8) :
    varintLen first = 1 ∨ varintLen first = 2 ∨ varintLen first = 4 ∨ varintLen first = 8 :=
  VarInt.quicLen_cases first

theorem wholeVarint_error {field : Bytes} {answer : DraftPeek} (failed : wholeVarint field = .error answer) :
    answer = .notSetup := by
  unfold wholeVarint at failed
  split at failed
  · cases failed
  · cases failed
    rfl

/-- A buffer that has reached the bytes a length calls for keeps them. -/
theorem getD_append {i : Nat} (within : i < buf.length) : (buf ++ more).getD i 0 = buf.getD i 0 := by
  rw [List.getD_eq_getElem?_getD, List.getD_eq_getElem?_getD, List.getElem?_append_left within]

theorem past_needMore {α : Type} {bad : Bool} {next : Unit → Except DraftPeek α}
    (decided : (refuseIf bad .needMore >>= next) ≠ .error .needMore) :
    bad = false ∧ next () ≠ .error .needMore := by
  cases bad with
  | true => exact absurd rfl decided
  | false => exact ⟨rfl, decided⟩

/-- The span of the payload, once it does not ask for more. -/
theorem payloadSpan_stable {typeLen : Nat} {u16 : Bool}
    (decided : payloadSpan buf typeLen u16 ≠ .error .needMore) :
    payloadSpan (buf ++ more) typeLen u16 = payloadSpan buf typeLen u16 := by
  have longer : buf.length ≤ (buf ++ more).length := by
    rw [List.length_append]
    omega
  unfold payloadSpan at decided ⊢
  cases u16 with
  | true =>
    simp only [if_true] at decided ⊢
    obtain ⟨enough, -⟩ := past_needMore decided
    have enough := of_decide_eq_false enough
    rw [getD_append (by omega), getD_append (by omega), decide_eq_false enough,
      decide_eq_false (by omega)]
  | false =>
    simp only [Bool.false_eq_true, if_false] at decided ⊢
    obtain ⟨begun, decided⟩ := past_needMore decided
    obtain ⟨enough, -⟩ := past_needMore decided
    have begun := of_decide_eq_false begun
    have enough := of_decide_eq_false enough
    rw [getD_append (by omega), decide_eq_false begun, decide_eq_false enough,
      decide_eq_false (by omega), decide_eq_false (by omega), List.drop_append_of_le_length (by omega),
      List.take_append_of_le_length (by rw [List.length_drop]; omega)]

/-- The header behind a whole type field. -/
theorem header_typed {first : UInt8} {tail : Bytes} (whole : varintLen first ≤ (first :: tail).length) :
    header (first :: tail) side = (do
      let typeId ← wholeVarint ((first :: tail).take (varintLen first))
      let (isClientSetup, isServerSetup, usesU16Length) ← setupFraming typeId
      checkSide side isClientSetup isServerSetup
      let (start, len) ← payloadSpan (first :: tail) (varintLen first) usesU16Length
      return (isClientSetup, start, len)) := by
  unfold header
  simp only [List.head?_cons, okOr_some, except_ok_bind]
  rw [decide_eq_false (by omega)]
  rfl

theorem header_untyped {first : UInt8} {tail : Bytes} (short : (first :: tail).length < varintLen first) :
    header (first :: tail) side = .error .needMore := by
  unfold header
  simp only [List.head?_cons, okOr_some, except_ok_bind]
  rw [decide_eq_true short]
  rfl

/-- The header, once it does not ask for more. -/
theorem header_stable (decided : header buf side ≠ .error .needMore) :
    header (buf ++ more) side = header buf side := by
  cases buf with
  | nil => exact absurd rfl decided
  | cons first tail =>
    by_cases short : (first :: tail).length < varintLen first
    · exact absurd (header_untyped short) decided
    · have whole : varintLen first ≤ (first :: tail).length := by omega
      have whole' : varintLen first ≤ (first :: (tail ++ more)).length := by
        rw [← List.cons_append, List.length_append]
        omega
      rw [header_typed whole] at decided ⊢
      rw [List.cons_append, header_typed whole', ← List.cons_append, List.take_append_of_le_length whole]
      cases typed : wholeVarint ((first :: tail).take (varintLen first)) with
      | error answer => rfl
      | ok typeId =>
        cases framing : setupFraming typeId with
        | error answer =>
          simp only [except_ok_bind, framing]
          rfl
        | ok shape =>
          obtain ⟨client, server, u16⟩ := shape
          cases expected : checkSide side client server with
          | error answer =>
            simp only [except_ok_bind, framing, expected]
            rfl
          | ok _ =>
            simp only [typed, except_ok_bind, framing, expected] at decided ⊢
            rw [payloadSpan_stable]
            intro asks
            rw [asks] at decided
            exact decided rfl

theorem setupFraming_error {typeId : Nat} {answer : DraftPeek} (failed : setupFraming typeId = .error answer) :
    answer = .notSetup := by
  unfold setupFraming at failed
  split_ifs at failed
  cases failed
  rfl

theorem checkSide_error {client server : Bool} {answer : DraftPeek}
    (failed : checkSide side client server = .error answer) : answer = .notSetup := by
  unfold checkSide refuseIf at failed
  cases side <;> dsimp only at failed <;> split_ifs at failed <;> cases failed <;> rfl

theorem payloadSpan_decided {typeLen : Nat} {u16 : Bool} (typed : typeLen ≤ 8) (long : 16 ≤ buf.length) :
    payloadSpan buf typeLen u16 ≠ .error .needMore := by
  have widths := varintLen_cases (buf.getD typeLen 0)
  unfold payloadSpan
  cases u16 with
  | true =>
    rw [if_pos rfl, decide_eq_false (by omega)]
    exact fun asks => by cases asks
  | false =>
    dsimp only
    rw [if_neg Bool.false_ne_true, decide_eq_false (by omega), decide_eq_false (by omega)]
    intro asks
    cases sized : wholeVarint ((buf.drop typeLen).take (varintLen (buf.getD typeLen 0))) with
    | error answer =>
      rw [sized, wholeVarint_error sized] at asks
      cases asks
    | ok len =>
      rw [sized] at asks
      cases asks

/-- Sixteen bytes decide any header. -/
theorem header_decided (long : 16 ≤ buf.length) : header buf side ≠ .error .needMore := by
  cases buf with
  | nil => exact absurd long (by decide)
  | cons first tail =>
    have widths := varintLen_cases first
    have whole : varintLen first ≤ (first :: tail).length := by omega
    rw [header_typed whole]
    intro asks
    cases typed : wholeVarint ((first :: tail).take (varintLen first)) with
    | error answer =>
      rw [typed, wholeVarint_error typed] at asks
      cases asks
    | ok typeId =>
      cases framing : setupFraming typeId with
      | error answer =>
        simp only [typed, except_ok_bind, framing, setupFraming_error framing] at asks
        cases asks
      | ok shape =>
        obtain ⟨client, server, u16⟩ := shape
        cases expected : checkSide side client server with
        | error answer =>
          simp only [typed, except_ok_bind, framing, expected, checkSide_error expected] at asks
          cases asks
        | ok _ =>
          simp only [typed, except_ok_bind, framing, expected] at asks
          cases spanned : payloadSpan (first :: tail) (varintLen first) u16 with
          | error answer =>
            rw [spanned] at asks
            cases asks
            exact payloadSpan_decided (by omega) long spanned
          | ok span =>
            rw [spanned] at asks
            cases asks

/-! ## The answer -/

theorem peekClient_decides (payload : Bytes) : peekClient payload ≠ .needMore := by
  unfold peekClient
  split <;> exact fun asks => by cases asks

theorem peekServer_decides (payload : Bytes) : peekServer payload ≠ .needMore := by
  unfold peekServer
  intro asks
  split at asks
  · cases asks
  · split at asks
    · split_ifs at asks
    · cases asks

/-- What a buffer is answered, it is answered however it goes on. -/
theorem peekDraft_stable (decided : peekDraft buf side ≠ .needMore) :
    peekDraft (buf ++ more) side = peekDraft buf side := by
  unfold peekDraft at decided ⊢
  have settled : header buf side ≠ .error .needMore := by
    intro asks
    rw [asks] at decided
    exact decided rfl
  rw [header_stable settled]
  cases found : header buf side with
  | error answer => rfl
  | ok shape =>
    obtain ⟨client, start, len⟩ := shape
    rw [found] at decided
    dsimp only at decided ⊢
    by_cases short : buf.length < start + len
    · rw [if_pos short] at decided
      exact absurd rfl decided
    · rw [if_neg short, if_neg (by rw [List.length_append]; omega),
        List.drop_append_of_le_length (by omega),
        List.take_append_of_le_length (by rw [List.length_drop]; omega)]

/-- Whatever has arrived, enough zero bytes decide. -/
theorem peekDraft_completes (buf : Bytes) (side : ProxySide) :
    ∃ more, peekDraft (buf ++ more) side ≠ .needMore := by
  have decided := @header_decided (buf ++ List.replicate 16 0) side (by simp)
  cases found : header (buf ++ List.replicate 16 0) side with
  | error answer =>
    refine ⟨List.replicate 16 0, fun asks => decided ?_⟩
    unfold peekDraft at asks
    rw [found] at asks ⊢
    exact congrArg Except.error asks
  | ok shape =>
    obtain ⟨client, start, len⟩ := shape
    refine ⟨List.replicate 16 0 ++ List.replicate (start + len) 0, ?_⟩
    rw [← List.append_assoc]
    unfold peekDraft
    rw [header_stable decided, found]
    dsimp only
    rw [if_neg (by simp; omega)]
    split
    · exact peekClient_decides _
    · exact peekServer_decides _

/-! ## Reading a SETUP -/

variable {field rest front back type length payload frame : Bytes}

theorem field_cons {value : Nat} (whole : Field field value) :
    ∃ first tail, field = first :: tail ∧ tail.length + 1 = varintLen first ∧
      wholeVarint field = .ok value := by
  obtain ⟨v, reads, rfl⟩ := whole
  obtain ⟨first, tail, rfl, length⟩ := VarInt.field_cons reads
  refine ⟨first, tail, rfl, length, ?_⟩
  unfold wholeVarint
  rw [reads]

/-- What is read behind a whole type field. -/
theorem header_after {typeId : Nat} {client server u16 : Bool} (typed : Field type typeId)
    (framing : setupFraming typeId = .ok (client, server, u16))
    (expected : checkSide side client server = .ok ()) :
    header (type ++ rest) side =
      (payloadSpan (type ++ rest) type.length u16).map fun (start, len) => (client, start, len) := by
  obtain ⟨first, tail, rfl, length, reads⟩ := field_cons typed
  have whole : varintLen first ≤ (first :: (tail ++ rest)).length := by
    rw [List.length_cons, List.length_append]
    omega
  rw [List.cons_append, header_typed whole, ← List.cons_append, ← length, ← List.length_cons,
    List.take_left, reads]
  simp only [except_ok_bind, framing, expected]
  cases payloadSpan (first :: tail ++ rest) (first :: tail).length u16 <;> rfl

theorem header_cut {typeId : Nat} (typed : Field (front ++ back) typeId) (more : back ≠ []) :
    header front side = .error .needMore := by
  obtain ⟨first, tail, split, length, -⟩ := field_cons typed
  cases front with
  | nil => rfl
  | cons head front =>
    rw [List.cons_append, List.cons.injEq] at split
    obtain ⟨rfl, rfl⟩ := split
    have positive := List.length_pos_of_ne_nil more
    rw [List.length_append] at length
    exact header_untyped (by rw [List.length_cons]; omega)

theorem getD_behind (type rest : Bytes) (i : Nat) : (type ++ rest).getD (type.length + i) 0 = rest.getD i 0 := by
  rw [List.getD_eq_getElem?_getD, List.getD_eq_getElem?_getD, List.getElem?_append_right (by omega),
    Nat.add_sub_cancel_left]

theorem span_fixed (high low : UInt8) :
    payloadSpan (type ++ high :: low :: rest) type.length true =
      .ok (type.length + 2, high.toNat * 256 + low.toNat) := by
  have first := getD_behind type (high :: low :: rest) 0
  have second := getD_behind type (high :: low :: rest) 1
  unfold payloadSpan
  rw [if_pos rfl, decide_eq_false (by simp), second]
  rw [Nat.add_zero] at first
  rw [first, ← VarInt.lor_byte]
  rfl

theorem span_fixed_cut (short : rest.length < 2) :
    payloadSpan (type ++ rest) type.length true = .error .needMore := by
  unfold payloadSpan
  rw [if_pos rfl, decide_eq_true (by rw [List.length_append]; omega)]
  rfl

theorem span_varint {len : Nat} (sized : Field length len) :
    payloadSpan (type ++ (length ++ rest)) type.length false =
      .ok (type.length + length.length, len) := by
  obtain ⟨first, tail, rfl, whole, reads⟩ := field_cons sized
  have head : (type ++ (first :: tail ++ rest)).getD type.length 0 = first := getD_behind type _ 0
  unfold payloadSpan
  dsimp only
  rw [if_neg Bool.false_ne_true, decide_eq_false (by simp), head, decide_eq_false (by simp; omega),
    List.drop_left, ← whole, ← List.length_cons, List.take_left, reads]
  rfl

theorem span_varint_cut {len : Nat} (sized : Field (front ++ back) len) (more : back ≠ []) :
    payloadSpan (type ++ front) type.length false = .error .needMore := by
  obtain ⟨first, tail, split, whole, -⟩ := field_cons sized
  cases front with
  | nil =>
    unfold payloadSpan
    rw [if_neg Bool.false_ne_true, decide_eq_true (by simp)]
    rfl
  | cons byte front =>
    rw [List.cons_append, List.cons.injEq] at split
    obtain ⟨rfl, rfl⟩ := split
    have positive := List.length_pos_of_ne_nil more
    have head : (type ++ byte :: front).getD type.length 0 = byte := getD_behind type _ 0
    unfold payloadSpan
    dsimp only
    rw [List.length_append] at whole
    rw [if_neg Bool.false_ne_true, decide_eq_false (by simp), head, decide_eq_true (by simp; omega)]
    rfl

/-! ## A SETUP and its prefixes -/

variable {wide narrow : Nat} {client : Bool}

/-- The two types of a SETUP, as this direction expects it. -/
structure Expected (side : ProxySide) (client : Bool) (wide narrow : Nat) : Prop where
  varint : ∃ server, setupFraming wide = .ok (client, server, false) ∧ checkSide side client server = .ok ()
  fixed : ∃ server, setupFraming narrow = .ok (client, server, true) ∧ checkSide side client server = .ok ()

theorem expected_client (carries : side.carriesClientSetup = true) : Expected side true 0x40 0x20 := by
  cases side with
  | clientToProxy | proxyToRelay => exact ⟨⟨false, rfl, rfl⟩, ⟨false, rfl, rfl⟩⟩
  | relayToProxy | proxyToClient => cases carries

theorem expected_server (carries : side.carriesClientSetup = false) : Expected side false 0x41 0x21 := by
  cases side with
  | clientToProxy | proxyToRelay => cases carries
  | relayToProxy | proxyToClient => exact ⟨⟨true, rfl, rfl⟩, ⟨true, rfl, rfl⟩⟩

/-- The header of a framed message. -/
theorem header_framed (expected : Expected side client wide narrow)
    (framing : Framing wide narrow type length payload) :
    header (type ++ (length ++ rest)) side =
      .ok (client, type.length + length.length, payload.length) := by
  rcases framing with ⟨typed, sized⟩ | ⟨typed, high, low, rfl, sized⟩
  · obtain ⟨server, framing, allowed⟩ := expected.varint
    rw [header_after typed framing allowed, span_varint sized]
    rfl
  · obtain ⟨server, framing, allowed⟩ := expected.fixed
    rw [header_after typed framing allowed, List.cons_append, List.cons_append, List.nil_append, span_fixed, sized]
    rfl

/-- A header cut short. -/
theorem header_framed_cut (expected : Expected side client wide narrow)
    (framing : Framing wide narrow type (front ++ back) payload) (more : back ≠ []) :
    header (type ++ front) side = .error .needMore := by
  have positive := List.length_pos_of_ne_nil more
  rcases framing with ⟨typed, sized⟩ | ⟨typed, high, low, two, sized⟩
  · obtain ⟨server, framing, allowed⟩ := expected.varint
    rw [header_after typed framing allowed, span_varint_cut sized more]
    rfl
  · obtain ⟨server, framing, allowed⟩ := expected.fixed
    have lengths := congrArg List.length two
    rw [List.length_append, List.length_cons, List.length_singleton] at lengths
    rw [header_after typed framing allowed, span_fixed_cut (by omega)]
    rfl

theorem Framing.typed (framing : Framing wide narrow type length payload) : ∃ typeId, Field type typeId := by
  rcases framing with ⟨typed, -⟩ | ⟨typed, -⟩
  · exact ⟨wide, typed⟩
  · exact ⟨narrow, typed⟩

/-- A framed message is answered by its payload, whatever follows. -/
theorem peekDraft_framed (expected : Expected side client wide narrow)
    (framing : Framing wide narrow type length payload) :
    peekDraft (type ++ (length ++ payload) ++ rest) side =
      if client then peekClient payload else peekServer payload := by
  unfold peekDraft
  rw [List.append_assoc, List.append_assoc, header_framed expected framing]
  dsimp only
  rw [if_neg (by simp only [List.length_append]; omega), ← List.append_assoc, ← List.length_append,
    List.drop_left, List.take_left]

/-- Every proper prefix of a framed message asks for more. -/
theorem peekDraft_cut (expected : Expected side client wide narrow)
    (framing : Framing wide narrow type length payload)
    (cut : type ++ (length ++ payload) = front ++ back) (more : back ≠ []) :
    peekDraft front side = .needMore := by
  have asks : header front side = .error .needMore → peekDraft front side = .needMore := by
    intro asks
    unfold peekDraft
    rw [asks]
  rcases whole_or_short cut.symm with ⟨part, rfl, behind⟩ | ⟨missing, rfl, some', -⟩
  · rcases whole_or_short behind with ⟨inside, rfl, rfl⟩ | ⟨missing, rfl, some', -⟩
    · have positive := List.length_pos_of_ne_nil more
      unfold peekDraft
      rw [header_framed expected framing]
      dsimp only
      rw [if_pos (by simp only [List.length_append]; omega)]
    · exact asks (header_framed_cut expected framing some')
  · obtain ⟨typeId, typed⟩ := framing.typed
    exact asks (header_cut typed some')

/-! ## The versions -/

theorem offers_iff {v : Nat} {draft : DraftVersion} :
    Offers v draft ↔ versionVarintToDraft v = some draft ∧ 7 ≤ draft.number ∧ draft.number ≤ 14 := by
  unfold Offers versionVarintToDraft
  constructor
  · rintro ⟨rfl, low, high⟩
    rw [if_pos (by omega), Nat.add_sub_cancel_left, DraftVersion.fromNumber_number]
    exact ⟨rfl, low, high⟩
  · rintro ⟨found, low, high⟩
    split_ifs at found
    exact ⟨by rw [DraftVersion.fromNumber_some found]; omega, low, high⟩

/-- What the loop keeps of the versions it has seen. -/
def Kept (seen : List Nat) (best : Option DraftVersion) : Prop :=
  Best seen (best.elim .notSetup .named)

theorem offers_unique {v : Nat} {draft other : DraftVersion} (offers : Offers v draft)
    (offers' : Offers v other) : other = draft :=
  Option.some.inj ((offers_iff.mp offers').1.symm.trans (offers_iff.mp offers).1)

theorem kept_refused {seen : List Nat} {best : Option DraftVersion} (kept : Kept seen best) {v : Nat}
    (refused : ∀ draft, ¬ Offers v draft) : Kept (seen ++ [v]) best := by
  unfold Kept at kept ⊢
  cases best with
  | none =>
    intro version member
    rcases List.mem_append.mp member with member | member
    · exact kept version member
    · exact List.mem_singleton.mp member ▸ refused
  | some b =>
    obtain ⟨⟨held, member, offers⟩, highest⟩ := kept
    refine ⟨⟨held, List.mem_append_left _ member, offers⟩, fun version member other offered => ?_⟩
    rcases List.mem_append.mp member with member | member
    · exact highest version member other offered
    · exact absurd offered (List.mem_singleton.mp member ▸ refused other)

theorem kept_offered {seen : List Nat} {best : Option DraftVersion} (kept : Kept seen best) {v : Nat}
    {d : DraftVersion} (offers : Offers v d) :
    Kept (seen ++ [v]) (some (match best with
      | some b => if d.number ≤ b.number then b else d
      | none => d)) := by
  have here : v ∈ seen ++ [v] := List.mem_append_right _ (List.mem_singleton_self v)
  cases best with
  | none =>
    refine ⟨⟨v, here, offers⟩, fun version member other offered => ?_⟩
    rcases List.mem_append.mp member with member | member
    · exact absurd offered (kept version member other)
    · rw [List.mem_singleton.mp member] at offered
      rw [offers_unique offers offered]
  | some b =>
    obtain ⟨⟨held, member, offersB⟩, highest⟩ := kept
    dsimp only
    split_ifs with lower
    · refine ⟨⟨held, List.mem_append_left _ member, offersB⟩, fun version member other offered => ?_⟩
      rcases List.mem_append.mp member with member | member
      · exact highest version member other offered
      · rw [List.mem_singleton.mp member] at offered
        rwa [offers_unique offers offered]
    · refine ⟨⟨v, here, offers⟩, fun version member other offered => ?_⟩
      rcases List.mem_append.mp member with member | member
      · have below := highest version member other offered
        omega
      · rw [List.mem_singleton.mp member] at offered
        rw [offers_unique offers offered]

theorem kept_snoc {seen : List Nat} {best : Option DraftVersion} (kept : Kept seen best) (v : Nat) :
    Kept (seen ++ [v]) (better best v) := by
  unfold better
  cases found : versionVarintToDraft v with
  | none =>
    refine kept_refused kept fun draft offers => ?_
    rw [(offers_iff.mp offers).1] at found
    cases found
  | some d =>
    dsimp only
    split_ifs with cohort
    · have next := kept_offered kept (offers_iff.mpr ⟨found, cohort⟩)
      cases best with
      | none => exact next
      | some b =>
        dsimp only at next ⊢
        rwa [apply_ite some] at next
    · refine kept_refused kept fun draft offers => cohort ?_
      obtain ⟨found', cohort'⟩ := offers_iff.mp offers
      cases found.symm.trans found'
      exact cohort'

theorem kept_foldl (versions : List Nat) : Kept versions (versions.foldl better none) := by
  induction versions using List.reverseRecOn with
  | nil => exact fun version member => absurd member List.not_mem_nil
  | append_singleton seen v ih =>
    rw [List.foldl_append]
    exact kept_snoc ih v

theorem readVersions_fields {fields : List Bytes} {versions : List Nat}
    (listed : List.Forall₂ Field fields versions) (best : Option DraftVersion) (rest : Bytes) :
    readVersions versions.length best (.of (fields.flatten ++ rest)) =
      .ok (versions.foldl better best, .of rest) := by
  induction listed generalizing best with
  | nil => rfl
  | @cons field version fields versions head _ ih =>
    obtain ⟨v, reads, rfl⟩ := head
    have read := VarInt.local_decode.reads_of_all reads (fields.flatten ++ rest) 0
    rw [List.flatten_cons, List.append_assoc, List.length_cons, readVersions, bind_apply, Cursor.of, read]
    exact ih (better best v.val)

theorem peekClient_listed {count parameters : Bytes} {fields : List Bytes} {versions : List Nat}
    (counted : Field count versions.length) (listed : List.Forall₂ Field fields versions) :
    Best versions (peekClient (count ++ (fields.flatten ++ parameters))) := by
  obtain ⟨n, reads, length⟩ := counted
  have read := VarInt.local_decode.reads_of_all reads (fields.flatten ++ parameters) 0
  have kept := kept_foldl versions
  unfold peekClient
  rw [bind_apply, Cursor.of, read]
  dsimp only
  rw [length, ← Cursor.of, readVersions_fields listed]
  unfold Kept at kept
  cases best : versions.foldl better none with
  | none =>
    rw [best] at kept
    exact kept
  | some draft =>
    rw [best] at kept
    exact kept

theorem peekServer_selected {selected parameters : Bytes} {version : Nat} (field : Field selected version) :
    Best [version] (peekServer (selected ++ parameters)) := by
  obtain ⟨v, reads, rfl⟩ := field
  have read := VarInt.local_decode.reads_of_all reads parameters 0
  have kept := kept_foldl [v.val]
  unfold peekServer
  rw [Cursor.of, read]
  dsimp only
  rw [List.foldl_cons, List.foldl_nil, better] at kept
  cases found : versionVarintToDraft v.val with
  | none =>
    rw [found] at kept
    exact kept
  | some d =>
    rw [found] at kept
    dsimp only at kept ⊢
    split_ifs at kept ⊢ with cohort
    · exact kept
    · exact kept

/-- **The peek is stable and agrees with the message.**  What is answered is answered on
every longer buffer, what is not can still be, and a SETUP of the direction that carries it
is named by its versions once whole and awaited until then. -/
theorem peek_agrees (side : ProxySide) :
    (∀ buf more, peekDraft buf side ≠ .needMore → peekDraft (buf ++ more) side = peekDraft buf side) ∧
    (∀ buf, peekDraft buf side = .needMore → ∃ more, peekDraft (buf ++ more) side ≠ .needMore) ∧
    (side.carriesClientSetup = true → ∀ frame versions, ClientSetup frame versions →
      (∀ rest, Best versions (peekDraft (frame ++ rest) side)) ∧
      ∀ front back, frame = front ++ back → back ≠ [] → peekDraft front side = .needMore) ∧
    (side.carriesClientSetup = false → ∀ frame version, ServerSetup frame version →
      (∀ rest, Best [version] (peekDraft (frame ++ rest) side)) ∧
      ∀ front back, frame = front ++ back → back ≠ [] → peekDraft front side = .needMore) := by
  refine ⟨fun buf more decided => peekDraft_stable decided, fun buf _ => peekDraft_completes buf side, ?_, ?_⟩
  · rintro carries frame versions
      ⟨type, length, count, fields, parameters, rfl, framing, counted, listed⟩
    refine ⟨fun rest => ?_, fun front back cut more => ?_⟩
    · rw [peekDraft_framed (expected_client carries) framing]
      exact peekClient_listed counted listed
    · exact peekDraft_cut (expected_client carries) framing cut more
  · rintro carries frame version ⟨type, length, selected, parameters, rfl, framing, field⟩
    refine ⟨fun rest => ?_, fun front back cut more => ?_⟩
    · rw [peekDraft_framed (expected_server carries) framing]
      exact peekServer_selected field
    · exact peekDraft_cut (expected_server carries) framing cut more

end Moqtap.SetupPeek
