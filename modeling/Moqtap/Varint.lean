import Mathlib
import Moqtap.ByteCursor

/-! The MoQT variable-length integer (`varint.rs`, drafts 17 and later): the
number of leading one bits of the first byte is the number of bytes behind it,
and nine bytes reach the whole 64-bit range. Every encoding reads back, a
decoded value never took fewer bytes than its own encoding, and what a byte
string decodes to does not depend on what follows it. -/
namespace Moqtap.Varint
open ByteCursor

/-- `MAX_VARINT`, the RFC 9000 ceiling. -/
def maxVarint : Nat := 4611686018427387903

/-- A `VarInt(u64)`. -/
@[ext] structure VarInt where
  val : Nat
  isLt : val < 2 ^ 64
  deriving DecidableEq, Repr

inductive VarIntError where
  | overflow (value : Nat)
  | unexpectedEnd
  | invalidCodePoint
  deriving DecidableEq, Repr

/-- `MoqtProfile`: draft-17 leaves the seven-byte length undefined. -/
inductive MoqtProfile where
  | moqt17
  | moqt18
  deriving DecidableEq, Repr

def MoqtProfile.sevenByte : MoqtProfile → Bool
  | .moqt17 => false
  | .moqt18 => true

namespace VarInt

/-- `from_u64`: the RFC 9000 range only. -/
def fromU64 (v : Nat) : Except VarIntError VarInt :=
  if small : v ≤ maxVarint then .ok ⟨v, by unfold maxVarint at small; omega⟩
  else .error (.overflow v)

/-- `from_u64_moqt`, and `from_usize`: any 64-bit value. -/
def ofU64 (v : Nat) : VarInt := ⟨v % 2 ^ 64, Nat.mod_lt _ (by decide)⟩

@[simp] theorem ofU64_val (v : VarInt) : ofU64 v.val = v := by
  ext
  exact Nat.mod_eq_of_lt v.isLt

theorem val_ofU64 {v : Nat} (small : v < 2 ^ 64) : (ofU64 v).val = v := Nat.mod_eq_of_lt small

theorem fromU64_ok {v : Nat} (small : v ≤ maxVarint) :
    fromU64 v = .ok (ofU64 v) := by
  have bound : v < 2 ^ 64 := by unfold maxVarint at small; omega
  rw [fromU64, dif_pos small]
  congr 1
  ext
  exact (val_ofU64 bound).symm

theorem fromU64_success {v : Nat} {w : VarInt} (made : fromU64 v = .ok w) :
    w.val = v ∧ v ≤ maxVarint := by
  unfold fromU64 at made
  split at made
  · rename_i small
    cases made
    exact ⟨rfl, small⟩
  · cases made

/-! ## Encoding -/

/-- Whether `len` bytes hold `v` and the profile defines that length. -/
def fits (profile : MoqtProfile) (v len : Nat) : Bool :=
  (len != 7 || profile.sevenByte) && decide (v < 1 <<< (7 * len))

/-- The `for len in 1..=8` search of `encoded_len_moqt`, `left` lengths from `len` on. -/
def encodedLenFrom (profile : MoqtProfile) (v len : Nat) : Nat → Nat
  | 0 => 9
  | left + 1 => if fits profile v len then len else encodedLenFrom profile v (len + 1) left

def encodedLenMoqt (profile : MoqtProfile) (v : VarInt) : Nat :=
  encodedLenFrom profile v.val 1 8

/-- The low `count` bytes of `v`, most significant first. -/
def beBytes : Nat → Nat → Bytes
  | 0, _ => []
  | count + 1, v => UInt8.ofNat (v >>> (8 * count)) :: beBytes count v

/-- `(len - 1)` one bits and a zero, in the top `len` bits of a byte. -/
def lengthPrefix (len : Nat) : Nat := (((1 <<< (len - 1)) - 1) <<< (9 - len)) % 256

def encodeMoqt (profile : MoqtProfile) (v : VarInt) : Bytes :=
  let len := v.encodedLenMoqt profile
  if len = 9 then 0xFF :: beBytes 8 v.val
  else beBytes len ((lengthPrefix len <<< (8 * (len - 1))) ||| v.val)

/-! ## Decoding -/

def leadingOnes (byte : UInt8) : Nat :=
  ((List.range 8).takeWhile fun i => byte.toNat.testBit (7 - i)).length

/-- `val = (val << 8) | next`, `count` times. -/
def readBe : Nat → Nat → Reader VarIntError Nat
  | 0, val => pure val
  | count + 1, val => do
    let byte ← takeByte .unexpectedEnd
    readBe count ((val <<< 8) ||| byte.toNat)

def decodeMoqt (profile : MoqtProfile) : Reader VarIntError VarInt := do
  let first ← peekByte .unexpectedEnd
  if first = 0xFF then
    require .unexpectedEnd 9
    let _ ← takeByte .unexpectedEnd
    let val ← readBe 8 0
    return ofU64 val
  else
    let len := leadingOnes first + 1
    if len = 7 ∧ profile.sevenByte = false then
      fail .invalidCodePoint
    else
      require .unexpectedEnd len
      let _ ← takeByte .unexpectedEnd
      let val ← readBe (len - 1) (first.toNat &&& ((1 <<< (8 - len)) - 1))
      return ofU64 val

/-! ## The RFC 9000 form, drafts up to 16 -/

def encodedLen (v : VarInt) : Nat :=
  if v.val ≤ 63 then 1 else if v.val ≤ 16383 then 2 else if v.val ≤ 1073741823 then 4 else 8

def encode (v : VarInt) : Bytes :=
  match v.encodedLen with
  | 1 => beBytes 1 v.val
  | 2 => beBytes 2 (v.val ||| 0x4000)
  | 4 => beBytes 4 (v.val ||| 0x80000000)
  | _ => beBytes 8 (v.val ||| 0xC000000000000000)

def decode : Reader VarIntError VarInt := do
  let first ← peekByte .unexpectedEnd
  let len := 1 <<< (first.toNat >>> 6)
  require .unexpectedEnd len
  let _ ← takeByte .unexpectedEnd
  let val ← readBe (len - 1) (first.toNat &&& 0x3F)
  return ofU64 val

/-! ## Lengths -/

theorem encodedLenFrom_le {profile : MoqtProfile} {v len k left : Nat} (from' : len ≤ k)
    (until' : k < len + left) (fit : fits profile v k = true) :
    encodedLenFrom profile v len left ≤ k := by
  induction left generalizing len with
  | zero => omega
  | succ left ih =>
    unfold encodedLenFrom
    split
    · exact from'
    · rename_i misfit
      have later : len ≠ k := by rintro rfl; exact misfit fit
      exact ih (by omega) (by omega)

theorem encodedLenFrom_cases (profile : MoqtProfile) (v len left : Nat) :
    encodedLenFrom profile v len left = 9 ∨
      (fits profile v (encodedLenFrom profile v len left) = true ∧
        len ≤ encodedLenFrom profile v len left ∧
        encodedLenFrom profile v len left < len + left) := by
  induction left generalizing len with
  | zero => exact .inl rfl
  | succ left ih =>
    unfold encodedLenFrom
    split
    · rename_i fit
      exact .inr ⟨fit, le_rfl, by omega⟩
    · rcases ih (len + 1) with nine | ⟨fit, low, high⟩
      · exact .inl nine
      · exact .inr ⟨fit, by omega, by omega⟩

theorem fits_bound {profile : MoqtProfile} {v len : Nat} (fit : fits profile v len = true) :
    v < 2 ^ (7 * len) ∧ (len = 7 → profile.sevenByte = true) := by
  simp only [fits, Bool.and_eq_true, Bool.or_eq_true, bne_iff_ne, decide_eq_true_eq,
    Nat.one_shiftLeft] at fit
  exact ⟨fit.2, fun seven => fit.1.resolve_left fun ne => ne seven⟩

theorem encodedLenMoqt_cases (profile : MoqtProfile) (v : VarInt) :
    v.encodedLenMoqt profile = 9 ∨
      (1 ≤ v.encodedLenMoqt profile ∧ v.encodedLenMoqt profile ≤ 8 ∧
        v.val < 2 ^ (7 * v.encodedLenMoqt profile) ∧
        (v.encodedLenMoqt profile = 7 → profile.sevenByte = true)) := by
  rcases encodedLenFrom_cases profile v.val 1 8 with nine | ⟨fit, low, high⟩
  · exact .inl nine
  · have bound := fits_bound fit
    exact .inr ⟨low, by unfold encodedLenMoqt; omega, bound.1, bound.2⟩

theorem encodedLenMoqt_le_nine (profile : MoqtProfile) (v : VarInt) :
    v.encodedLenMoqt profile ≤ 9 := by
  rcases encodedLenMoqt_cases profile v with nine | ⟨_, high, _⟩ <;> omega

@[simp] theorem beBytes_length (count v : Nat) : (beBytes count v).length = count := by
  induction count with
  | zero => rfl
  | succ count ih => simp [beBytes, ih]

theorem encodeMoqt_length (profile : MoqtProfile) (v : VarInt) :
    (v.encodeMoqt profile).length = v.encodedLenMoqt profile := by
  by_cases nine : v.encodedLenMoqt profile = 9 <;> simp [encodeMoqt, nine]

theorem encodeMoqt_length_pos (profile : MoqtProfile) (v : VarInt) :
    0 < (v.encodeMoqt profile).length := by
  rw [encodeMoqt_length]
  rcases encodedLenMoqt_cases profile v with nine | ⟨low, _⟩ <;> omega

/-! ## Reading back -/

theorem lor_byte (val : Nat) (byte : UInt8) : (val <<< 8) ||| byte.toNat = val * 256 + byte.toNat := by
  rw [← Nat.shiftLeft_add_eq_or_of_lt (by simpa using byte.toNat_lt), Nat.shiftLeft_eq]

theorem reads_readBe (count acc v : Nat) :
    Reads (readBe count acc) (beBytes count v) (acc * 2 ^ (8 * count) + v % 2 ^ (8 * count)) := by
  induction count generalizing acc with
  | zero => simpa [readBe, beBytes, Nat.mod_one] using Reads.pure acc
  | succ count ih =>
    have step : Reads (readBe (count + 1) acc) ([UInt8.ofNat (v >>> (8 * count))] ++ beBytes count v) _ :=
      (reads_takeByte _ _).bind (ih _)
    have value : ((acc <<< 8) ||| (UInt8.ofNat (v >>> (8 * count))).toNat) * 2 ^ (8 * count) +
        v % 2 ^ (8 * count) = acc * 2 ^ (8 * (count + 1)) + v % 2 ^ (8 * (count + 1)) := by
      rw [lor_byte, UInt8.toNat_ofNat', Nat.shiftRight_eq_div_pow,
        show 8 * (count + 1) = 8 * count + 8 by ring, pow_add, Nat.mod_mul]
      ring
    rw [value] at step
    exact step

/-- What the first byte of a `len`-byte form says: its length, and the bits it carries. -/
theorem first_byte (len t : Nat) (low : 1 ≤ len) (high : len ≤ 8) (bits : t < 2 ^ (8 - len)) :
    (UInt8.ofNat (lengthPrefix len + t)).toNat = lengthPrefix len + t ∧
      UInt8.ofNat (lengthPrefix len + t) ≠ 0xFF ∧
      leadingOnes (UInt8.ofNat (lengthPrefix len + t)) = len - 1 ∧
      (UInt8.ofNat (lengthPrefix len + t)).toNat &&& ((1 <<< (8 - len)) - 1) = t := by
  have table : ∀ len < 9, 1 ≤ len → ∀ t < 2 ^ (8 - len),
      (UInt8.ofNat (lengthPrefix len + t)).toNat = lengthPrefix len + t ∧
      UInt8.ofNat (lengthPrefix len + t) ≠ 0xFF ∧
      leadingOnes (UInt8.ofNat (lengthPrefix len + t)) = len - 1 ∧
      (UInt8.ofNat (lengthPrefix len + t)).toNat &&& ((1 <<< (8 - len)) - 1) = t := by
    decide +kernel
  exact table len (by omega) low t bits

theorem combined_eq {len v : Nat} (low : 1 ≤ len) (high : len ≤ 8) (small : v < 2 ^ (7 * len)) :
    (lengthPrefix len <<< (8 * (len - 1))) ||| v = lengthPrefix len * 2 ^ (8 * (len - 1)) + v := by
  have shape : ∀ len < 9, 1 ≤ len → lengthPrefix len = (2 ^ (len - 1) - 1) * 2 ^ (9 - len) := by
    decide
  have whole : lengthPrefix len * 2 ^ (8 * (len - 1)) =
      (2 ^ (len - 1) - 1) * 2 ^ (9 - len + 8 * (len - 1)) := by
    rw [shape len (by omega) low, mul_assoc, ← pow_add]
  have room : v < 2 ^ (9 - len + 8 * (len - 1)) := by
    refine lt_of_lt_of_le small (Nat.pow_le_pow_right (by decide) ?_)
    omega
  rw [Nat.shiftLeft_eq, whole, ← Nat.shiftLeft_eq, ← Nat.shiftLeft_add_eq_or_of_lt room]

theorem peek_cons (short : VarIntError) (byte : UInt8) (rest : Bytes) (pad : Nat) :
    peekByte short ⟨byte :: rest, pad⟩ = .ok (byte, ⟨byte :: rest, pad⟩) := rfl

theorem require_ok {short : VarIntError} {count : Nat} {cursor : Cursor}
    (enough : count ≤ cursor.remaining) : require short count cursor = .ok ((), cursor) := by
  simp [require, Nat.not_lt.mpr enough]

/-- `decode_moqt` on a nine-byte form. -/
theorem reads_nine {profile : MoqtProfile} {bytes : Bytes} {val : Nat} (eight : bytes.length = 8)
    (body : Reads (readBe 8 0) bytes val) :
    Reads (decodeMoqt profile) (0xFF :: bytes) (ofU64 val) := by
  intro rest pad
  unfold decodeMoqt
  rw [List.cons_append, bind_apply, peek_cons]
  simp only [↓reduceIte]
  rw [bind_apply, require_ok (by simp [Cursor.remaining, eight]; omega)]
  simp only
  rw [bind_apply]
  simp only [takeByte]
  rw [bind_apply, body]
  rfl

/-- `decode_moqt` on a form of `len` bytes, one to eight of them. -/
theorem reads_short {profile : MoqtProfile} {first : UInt8} {bytes : Bytes} {val : Nat}
    (notNine : first ≠ 0xFF) (length : bytes.length = leadingOnes first)
    (defined : leadingOnes first + 1 = 7 → profile.sevenByte = true)
    (body : Reads (readBe (leadingOnes first)
      (first.toNat &&& ((1 <<< (8 - (leadingOnes first + 1))) - 1))) bytes val) :
    Reads (decodeMoqt profile) (first :: bytes) (ofU64 val) := by
  intro rest pad
  have allowed : ¬ (leadingOnes first + 1 = 7 ∧ profile.sevenByte = false) := by
    rintro ⟨seven, no⟩
    simp [defined seven] at no
  unfold decodeMoqt
  rw [List.cons_append, bind_apply, peek_cons]
  simp only [notNine, ↓reduceIte, allowed, Nat.add_sub_cancel]
  rw [bind_apply, require_ok (by simp [Cursor.remaining, length]; omega)]
  simp only
  rw [bind_apply]
  simp only [takeByte]
  rw [bind_apply, body]
  rfl

/-- Every value reads back from its encoding. -/
theorem reads_encodeMoqt (profile : MoqtProfile) (v : VarInt) :
    Reads (decodeMoqt profile) (v.encodeMoqt profile) v := by
  unfold encodeMoqt
  rcases encodedLenMoqt_cases profile v with nine | ⟨low, high, small, defined⟩
  · have body := @reads_nine profile _ _ (beBytes_length 8 v.val) (reads_readBe 8 0 v.val)
    have value : 0 * 2 ^ (8 * 8) + v.val % 2 ^ (8 * 8) = v.val := by
      rw [Nat.mod_eq_of_lt v.isLt]; omega
    rw [value, ofU64_val] at body
    simpa [nine] using body
  · generalize v.encodedLenMoqt profile = len at low high small defined
    obtain ⟨tail, rfl⟩ : ∃ tail, len = tail + 1 := ⟨len - 1, by omega⟩
    have notNine : tail + 1 ≠ 9 := by omega
    have split : 2 ^ (7 * (tail + 1)) = 2 ^ (8 * tail) * 2 ^ (8 - (tail + 1)) := by
      rw [← pow_add]; congr 1; omega
    have bits : v.val / 2 ^ (8 * tail) < 2 ^ (8 - (tail + 1)) :=
      Nat.div_lt_of_lt_mul (split ▸ small)
    obtain ⟨_, ne, ones, carried⟩ := first_byte (tail + 1) _ low high bits
    have head : (lengthPrefix (tail + 1) * 2 ^ (8 * tail) + v.val) >>> (8 * tail) =
        lengthPrefix (tail + 1) + v.val / 2 ^ (8 * tail) := by
      rw [Nat.shiftRight_eq_div_pow, Nat.mul_comm, Nat.mul_add_div (by positivity)]
    have combined := combined_eq low high small
    simp only [Nat.add_sub_cancel] at combined ones
    simp only [notNine, ↓reduceIte, Nat.add_sub_cancel, combined, beBytes, head]
    have body := reads_readBe tail (v.val / 2 ^ (8 * tail))
      (lengthPrefix (tail + 1) * 2 ^ (8 * tail) + v.val)
    have value : v.val / 2 ^ (8 * tail) * 2 ^ (8 * tail) +
        (lengthPrefix (tail + 1) * 2 ^ (8 * tail) + v.val) % 2 ^ (8 * tail) = v.val := by
      rw [Nat.mul_add_mod_self_right, Nat.div_add_mod']
    rw [value] at body
    have whole := @reads_short profile _
      (beBytes tail (lengthPrefix (tail + 1) * 2 ^ (8 * tail) + v.val)) v.val ne
      (by rw [beBytes_length, ones]) (by rw [ones]; exact defined)
      (by rw [ones, carried]; exact body)
    rwa [ofU64_val] at whole

/-! ## What decoding accepts -/

theorem parses_readBe (count acc : Nat) :
    Parses (readBe count acc) fun val used =>
      used.length = count ∧ Reads (readBe count acc) used val ∧ val < (acc + 1) * 2 ^ (8 * count) := by
  induction count generalizing acc with
  | zero =>
    refine (Parses.pure acc).imp ?_
    rintro val used ⟨rfl, rfl⟩
    exact ⟨rfl, Reads.pure val, by simp⟩
  | succ count ih =>
    refine (Parses.bind (parses_takeByte VarIntError.unexpectedEnd)
      (fun byte => ih ((acc <<< 8) ||| byte.toNat))).imp ?_
    rintro val used ⟨byte, front, back, rfl, rfl, length, reads, bound⟩
    refine ⟨by simp [length], (reads_takeByte _ byte).bind reads, ?_⟩
    rw [lor_byte] at bound
    have small := byte.toNat_lt
    calc val < (acc * 256 + byte.toNat + 1) * 2 ^ (8 * count) := bound
      _ ≤ ((acc + 1) * 256) * 2 ^ (8 * count) := Nat.mul_le_mul_right _ (by omega)
      _ = (acc + 1) * 2 ^ (8 * (count + 1)) := by rw [show 8 * (count + 1) = 8 + 8 * count by ring, pow_add]; ring

theorem encodedLenMoqt_le {profile : MoqtProfile} {v : VarInt} {len : Nat} (low : 1 ≤ len)
    (high : len ≤ 8) (defined : len = 7 → profile.sevenByte = true) (small : v.val < 2 ^ (7 * len)) :
    v.encodedLenMoqt profile ≤ len := by
  refine encodedLenFrom_le low (by omega) ?_
  simp only [fits, Bool.and_eq_true, Bool.or_eq_true, bne_iff_ne, decide_eq_true_eq, Nat.one_shiftLeft]
  exact ⟨by by_cases seven : len = 7 <;> simp [seven, defined], small⟩

theorem leadingOnes_le (byte : UInt8) : leadingOnes byte ≤ 8 := by
  unfold leadingOnes
  refine le_trans (List.takeWhile_sublist _).length_le ?_
  simp

theorem leadingOnes_of_ne {byte : UInt8} (ne : byte ≠ 0xFF) : leadingOnes byte ≤ 7 := by
  have table : ∀ n < 256, UInt8.ofNat n = 0xFF ∨ leadingOnes (UInt8.ofNat n) ≤ 7 := by decide +kernel
  have found := table byte.toNat byte.toNat_lt
  rw [UInt8.ofNat_toNat] at found
  exact found.resolve_left ne

/-- What `decode_moqt` accepts it reads off the bytes it took, and the value's own
encoding is no longer than they are. -/
theorem parses_decodeMoqt (profile : MoqtProfile) :
    Parses (decodeMoqt profile) fun v used =>
      Reads (decodeMoqt profile) used v ∧ v.encodedLenMoqt profile ≤ used.length := by
  intro real v rest ran
  cases real with
  | nil => simp [decodeMoqt, bind_apply, peekByte, Cursor.of] at ran
  | cons first tail =>
    unfold decodeMoqt at ran
    obtain ⟨peeked, middle, peekRan, ran⟩ := bind_success ran
    cases peekRan
    by_cases nine : first = 0xFF
    · subst nine
      simp only [↓reduceIte] at ran
      obtain ⟨_, middle, requireRan, ran⟩ := bind_success ran
      obtain ⟨taken, middle, takeRan, ran⟩ := bind_success ran
      obtain ⟨val, middle, readRan, ran⟩ := bind_success ran
      cases ran
      unfold require at requireRan
      split at requireRan <;> cases requireRan
      cases takeRan
      obtain ⟨used, split, plain, length, reads, _⟩ := parses_readBe 8 0 tail val _ readRan
      refine ⟨0xFF :: used, by rw [split]; rfl, plain, reads_nine length reads, ?_⟩
      simpa [length] using encodedLenMoqt_le_nine profile (ofU64 val)
    · simp only [nine, ↓reduceIte, Nat.add_sub_cancel] at ran
      split at ran
      · cases ran
      · rename_i allowed
        obtain ⟨_, middle, requireRan, ran⟩ := bind_success ran
        obtain ⟨taken, middle, takeRan, ran⟩ := bind_success ran
        obtain ⟨val, middle, readRan, ran⟩ := bind_success ran
        cases ran
        unfold require at requireRan
        split at requireRan <;> cases requireRan
        cases takeRan
        obtain ⟨used, split, plain, length, reads, bound⟩ := parses_readBe _ _ tail val _ readRan
        have defined : leadingOnes first + 1 = 7 → profile.sevenByte = true := by
          intro seven
          by_contra no
          exact allowed ⟨seven, by simpa using no⟩
        refine ⟨first :: used, by rw [split]; rfl, plain,
          reads_short nine length defined reads, ?_⟩
        have ones := leadingOnes_of_ne nine
        have small : val < 2 ^ (7 * (leadingOnes first + 1)) := by
          refine lt_of_lt_of_le bound ?_
          rw [Nat.one_shiftLeft, Nat.and_two_pow_sub_one_eq_mod]
          calc _ ≤ 2 ^ (8 - (leadingOnes first + 1)) * 2 ^ (8 * leadingOnes first) :=
                Nat.mul_le_mul_right _ (Nat.mod_lt _ (by positivity))
            _ = 2 ^ (7 * (leadingOnes first + 1)) := by rw [← pow_add]; congr 1; omega
        have wide : val < 2 ^ 64 :=
          lt_of_lt_of_le small (Nat.pow_le_pow_right (by decide) (by omega))
        rw [List.length_cons, length]
        exact encodedLenMoqt_le (by omega) (by omega) defined (by rwa [val_ofU64 wide])

theorem local_decodeMoqt (profile : MoqtProfile) : Local (decodeMoqt profile) :=
  (parses_decodeMoqt profile).imp fun _ _ both => both.1

/-! ## Short buffers and padding -/

/-- The bits of the value the first byte carries, none in the nine-byte form. -/
def carried (first : UInt8) : Nat := first.toNat &&& ((1 <<< (8 - (leadingOnes first + 1))) - 1)

/-- Every form is read alike: its length off the first byte, that many bytes required, and
as many big-endian bytes as there are leading ones. -/
theorem decodeMoqt_cons (profile : MoqtProfile) (first : UInt8) (tail : Bytes) (pad : Nat) :
    decodeMoqt profile ⟨first :: tail, pad⟩ =
      if leadingOnes first + 1 = 7 ∧ profile.sevenByte = false then .error .invalidCodePoint
      else if tail.length + pad < leadingOnes first then .error .unexpectedEnd
      else (readBe (leadingOnes first) (carried first) >>= fun val => pure (ofU64 val)) ⟨tail, pad⟩ := by
  have lengths : ((⟨first :: tail, pad⟩ : Cursor).remaining < leadingOnes first + 1) =
      (tail.length + pad < leadingOnes first) := by
    simp only [Cursor.remaining, List.length_cons, eq_iff_iff]
    omega
  unfold decodeMoqt
  simp only [bind_apply, peek_cons]
  by_cases nine : first = 0xFF
  · subst nine
    have ones : leadingOnes 0xFF = 8 := by decide
    rw [ones] at lengths
    simp only [↓reduceIte, ones, bind_apply, require, lengths, carried]
    by_cases short : tail.length + pad < 8 <;> simp [short, takeByte]
  · simp only [nine, ↓reduceIte]
    by_cases undefined : leadingOnes first + 1 = 7 ∧ profile.sevenByte = false
    · simp [undefined, fail]
    · simp only [undefined, ↓reduceIte, bind_apply, require, lengths, Nat.add_sub_cancel, carried]
      by_cases short : tail.length + pad < leadingOnes first <;> simp [short, takeByte]

/-- Every proper prefix of what `decode_moqt` takes ends before the length its first byte
calls for. -/
theorem exact_decodeMoqt (profile : MoqtProfile) :
    Exact (· = .unexpectedEnd) (decodeMoqt profile) := by
  refine (parses_decodeMoqt profile).imp fun v used ⟨reads, _⟩ => ⟨reads, ?_⟩
  intro front back split more
  cases front with
  | nil => exact ⟨_, rfl, rfl⟩
  | cons first tail =>
    subst split
    have whole : decodeMoqt profile (.of (first :: (tail ++ back))) = .ok (v, .of []) := reads.all
    have positive := List.length_pos_of_ne_nil more
    rw [Cursor.of, decodeMoqt_cons] at whole ⊢
    split at whole
    · cases whole
    · rename_i allowed
      rw [if_neg allowed]
      split at whole
      · cases whole
      · obtain ⟨val, after, readRan, whole⟩ := bind_success whole
        cases whole
        obtain ⟨body, split, _, length, -⟩ := parses_readBe _ _ _ _ _ readRan
        have same : tail ++ back = body := by simpa [Cursor.of] using split
        have short : tail.length + 0 < leadingOnes first := by
          have lengths := congrArg List.length same
          simp only [List.length_append] at lengths
          omega
        exact ⟨_, if_pos short, rfl⟩

theorem honest_readBe (count acc : Nat) : Honest (readBe count acc) := by
  induction count generalizing acc with
  | zero => exact Honest.pure acc
  | succ count ih => exact (honest_takeByte _).bind fun byte => ih _

theorem honest_decodeMoqt (profile : MoqtProfile) : Honest (decodeMoqt profile) := by
  intro real pad v rest ran
  cases real with
  | nil =>
    -- the first byte is already padding, and reads as a one-byte zero
    unfold decodeMoqt at ran
    obtain ⟨first, _, peekRan, ran⟩ := bind_success ran
    simp only [peekByte] at peekRan
    split at peekRan <;> cases peekRan
    rename_i padded
    have form : (0 : UInt8) ≠ 0xFF ∧ leadingOnes 0 = 0 := by decide
    simp only [form.1, form.2, ↓reduceIte] at ran
    obtain ⟨_, _, requireRan, ran⟩ := bind_success ran
    unfold require at requireRan
    split at requireRan <;> cases requireRan
    obtain ⟨_, middle, takeRan, ran⟩ := bind_success ran
    simp only [takeByte, if_pos padded] at takeRan
    cases takeRan
    cases ran
    exact .inl ⟨rfl, Nat.sub_lt padded Nat.one_pos⟩
  | cons first tail =>
    rw [decodeMoqt_cons] at ran
    split at ran
    · cases ran
    · rename_i allowed
      split at ran
      · cases ran
      · have honest : Honest (readBe (leadingOnes first) (carried first) >>= fun val =>
            (pure (ofU64 val) : Reader VarIntError VarInt)) :=
          (honest_readBe _ _).bind fun val => Honest.pure (ofU64 val)
        rcases honest _ _ _ _ ran with ate | ⟨same, alone, used, split⟩
        · exact .inl ate
        · refine .inr ⟨same, ?_, first :: used, by rw [split]; rfl⟩
          obtain ⟨val, after, readRan, _⟩ := bind_success alone
          obtain ⟨body, whole, _, length, -⟩ := parses_readBe _ _ _ _ _ readRan
          have enough : ¬ tail.length + 0 < leadingOnes first := by
            rw [whole, List.length_append]
            omega
          rw [Cursor.of, decodeMoqt_cons, if_neg allowed, if_neg enough]
          exact alone

end VarInt
end Moqtap.Varint
