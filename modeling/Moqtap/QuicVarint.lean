import Mathlib
import Moqtap.Varint

/-! The variable-length integer of RFC 9000 (`varint.rs`, drafts up to 16): the top two bits
of the first byte give the length, one, two, four or eight bytes, and the rest is the value.
Every value up to 2^62 - 1 reads back from its encoding, and a field of any width, minimal or
not, starves on each of its proper prefixes. -/

namespace Moqtap.Varint
open ByteCursor

namespace VarInt

/-- The length of a field, from its first byte. -/
def quicLen (first : UInt8) : Nat := 1 <<< (first.toNat >>> 6)

theorem quicLen_cases (first : UInt8) :
    quicLen first = 1 ∨ quicLen first = 2 ∨ quicLen first = 4 ∨ quicLen first = 8 := by
  have table : ∀ n < 256, 1 <<< (n >>> 6) = 1 ∨ 1 <<< (n >>> 6) = 2 ∨ 1 <<< (n >>> 6) = 4 ∨
      1 <<< (n >>> 6) = 8 := by
    decide +kernel
  exact table _ (by simpa using first.toNat_lt)

theorem quicLen_pos (first : UInt8) : 0 < quicLen first := by
  rcases quicLen_cases first with one | two | four | eight <;> omega

/-- Every form is read alike: its length off the first byte, that many bytes required, and
the tail in big-endian order behind the six bits the first byte carries. -/
theorem decode_cons (first : UInt8) (tail : Bytes) (pad : Nat) :
    decode ⟨first :: tail, pad⟩ =
      if tail.length + pad + 1 < quicLen first then .error .unexpectedEnd
      else (readBe (quicLen first - 1) (first.toNat &&& 0x3F) >>= fun val => pure (ofU64 val))
        ⟨tail, pad⟩ := by
  have lengths : ((⟨first :: tail, pad⟩ : Cursor).remaining < quicLen first) =
      (tail.length + pad + 1 < quicLen first) := by
    simp only [Cursor.remaining, List.length_cons, eq_iff_iff]
    omega
  unfold decode
  simp only [bind_apply, peek_cons, require, ← quicLen.eq_1, lengths]
  by_cases short : tail.length + pad + 1 < quicLen first <;> simp [short, takeByte]

/-! ## Reading back -/

theorem reads_tail {first : UInt8} {bytes : Bytes} {val : Nat} (length : bytes.length + 1 = quicLen first)
    (body : Reads (readBe (quicLen first - 1) (first.toNat &&& 0x3F)) bytes val) :
    Reads decode (first :: bytes) (ofU64 val) := by
  intro rest pad
  rw [List.cons_append, decode_cons, if_neg (by rw [List.length_append]; omega)]
  exact body.wrap ofU64 rest pad

/-- What the first byte of the form with prefix `p` says. -/
theorem first_form {p t : Nat} (two : p < 4) (six : t < 64) :
    quicLen (UInt8.ofNat (p * 64 + t)) = 2 ^ p ∧ (UInt8.ofNat (p * 64 + t)).toNat &&& 0x3F = t := by
  have table : ∀ p < 4, ∀ t < 64,
      quicLen (UInt8.ofNat (p * 64 + t)) = 2 ^ p ∧ (UInt8.ofNat (p * 64 + t)).toNat &&& 0x3F = t := by
    decide +kernel
  exact table p two t six

/-- The form of `2 ^ p` bytes, with `tail` of them behind the first. -/
theorem reads_form {p tail v : Nat} (two : p < 4) (width : tail + 1 = 2 ^ p)
    (small : v < 2 ^ (8 * tail + 6)) :
    Reads decode (beBytes (tail + 1) (p * 2 ^ (8 * tail + 6) + v)) (ofU64 v) := by
  have scaled : p * 2 ^ (8 * tail + 6) = 2 ^ (8 * tail) * (p * 64) := by
    rw [pow_add]
    ring
  have six : v / 2 ^ (8 * tail) < 64 :=
    Nat.div_lt_of_lt_mul (by rwa [pow_add] at small)
  have head : (p * 2 ^ (8 * tail + 6) + v) >>> (8 * tail) = p * 64 + v / 2 ^ (8 * tail) := by
    rw [Nat.shiftRight_eq_div_pow, scaled, Nat.mul_add_div (by positivity)]
  obtain ⟨length, carried⟩ := first_form two six
  have body := reads_readBe tail (v / 2 ^ (8 * tail)) (p * 2 ^ (8 * tail + 6) + v)
  have value : v / 2 ^ (8 * tail) * 2 ^ (8 * tail) + (p * 2 ^ (8 * tail + 6) + v) % 2 ^ (8 * tail) = v := by
    rw [scaled, Nat.mul_add_mod, Nat.div_add_mod']
  rw [value] at body
  rw [beBytes, head]
  refine reads_tail (by rw [beBytes_length, length, width]) ?_
  rw [length, carried, show 2 ^ p - 1 = tail by omega]
  exact body

theorem lor_form {p tail v : Nat} (small : v < 2 ^ (8 * tail + 6)) :
    v ||| p * 2 ^ (8 * tail + 6) = p * 2 ^ (8 * tail + 6) + v := by
  rw [Nat.lor_comm, ← Nat.shiftLeft_eq, ← Nat.shiftLeft_add_eq_or_of_lt small]

/-- Every value of the range reads back from its encoding. -/
theorem reads_encode {v : VarInt} (small : v.val ≤ maxVarint) : Reads decode v.encode v := by
  have form := fun p tail two width bound => @reads_form p tail v.val two width bound
  have wide := fun p tail bound => @lor_form p tail v.val bound
  rw [ofU64_val] at form
  unfold maxVarint at small
  unfold encode encodedLen
  split_ifs with one two four
  · have read := form 0 0 (by decide) (by decide) (by omega)
    simp only [Nat.zero_mul, Nat.zero_add] at read
    exact read
  · have read := form 1 1 (by decide) (by decide) (by omega)
    rwa [← wide 1 1 (by omega)] at read
  · have read := form 2 3 (by decide) (by decide) (by omega)
    rwa [← wide 2 3 (by omega)] at read
  · have read := form 3 7 (by decide) (by decide) (by omega)
    rwa [← wide 3 7 (by omega)] at read

theorem encode_length (v : VarInt) : v.encode.length = v.encodedLen := by
  unfold encode encodedLen
  split_ifs <;> simp

/-! ## What decoding accepts -/

theorem encodedLen_le {v : VarInt} {first : UInt8} (small : v.val < 2 ^ (8 * (quicLen first - 1) + 6)) :
    v.encodedLen ≤ quicLen first := by
  unfold encodedLen
  rcases quicLen_cases first with length | length | length | length <;> rw [length] at small ⊢ <;>
    split_ifs <;> omega

/-- What is accepted is in the range, is as long as its first byte says, and reads the same
whatever follows it. -/
theorem parses_decode :
    Parses decode fun v used =>
      Reads decode used v ∧ v.val ≤ maxVarint ∧ v.encodedLen ≤ used.length ∧
        used.head?.map quicLen = some used.length := by
  intro real v rest ran
  cases real with
  | nil => cases ran
  | cons first tail =>
    rw [Cursor.of, decode_cons] at ran
    split at ran
    · cases ran
    · rename_i enough
      obtain ⟨val, middle, readRan, wrapped⟩ := bind_success ran
      cases wrapped
      obtain ⟨body, split, plain, length, reads, small⟩ := parses_readBe _ _ _ _ _ readRan
      have positive := quicLen_pos first
      have six : first.toNat &&& 0x3F < 64 := Nat.and_lt_two_pow _ (by decide : 0x3F < 2 ^ 6)
      have width : val < 2 ^ (8 * (quicLen first - 1) + 6) := by
        refine small.trans_le ?_
        rw [pow_add, Nat.mul_comm]
        exact Nat.mul_le_mul_left _ six
      have range : val ≤ maxVarint := by
        unfold maxVarint
        rcases quicLen_cases first with length | length | length | length <;> rw [length] at width <;>
          omega
      have held : (ofU64 val).val = val := val_ofU64 (by unfold maxVarint at range; omega)
      have whole : body.length + 1 = quicLen first := by omega
      refine ⟨first :: body, by rw [split]; rfl, plain, reads_tail whole reads, ?_, ?_, ?_⟩
      · rwa [held]
      · rw [List.length_cons, whole]
        exact encodedLen_le (by rwa [held])
      · rw [List.head?_cons, Option.map_some, List.length_cons, whole]

theorem local_decode : Local decode := parses_decode.imp fun _ _ holds => holds.1

theorem canonical_decode : Canonical decode encode := by
  refine parses_decode.imp ?_
  rintro v used ⟨reads, small, shorter, -⟩
  exact ⟨reads, reads_encode small, by rwa [encode_length]⟩

/-- A field is as long as its first byte says. -/
theorem field_cons {field : Bytes} {v : VarInt} (reads : ReadsAll decode field v) :
    ∃ first tail, field = first :: tail ∧ tail.length + 1 = quicLen first := by
  obtain ⟨used, split, -, -, -, -, length⟩ := parses_decode field v (.of []) reads
  have same : field = used := by simpa [Cursor.of] using split
  subst same
  cases field with
  | nil => cases length
  | cons first tail =>
    refine ⟨first, tail, rfl, ?_⟩
    rw [List.head?_cons, Option.map_some, Option.some.injEq, List.length_cons] at length
    exact length.symm

/-- A number of so many bytes reads off any buffer that has them. -/
theorem readBe_enough {count : Nat} {bytes : Bytes} (enough : count ≤ bytes.length) (acc : Nat) :
    ∃ val, readBe count acc (.of bytes) = .ok (val, .of (bytes.drop count)) := by
  induction count generalizing acc bytes with
  | zero => exact ⟨acc, rfl⟩
  | succ count ih =>
    cases bytes with
    | nil => cases enough
    | cons byte bytes => exact ih (Nat.le_of_succ_le_succ enough) _

/-- As many bytes as the first one calls for are a field. -/
theorem field_whole {first : UInt8} {tail : Bytes} (length : tail.length + 1 = quicLen first) :
    ∃ v, ReadsAll decode (first :: tail) v := by
  have whole : quicLen first - 1 = tail.length := by omega
  obtain ⟨val, ran⟩ := readBe_enough whole.le (first.toNat &&& 0x3F)
  rw [whole, List.drop_length] at ran
  refine ⟨ofU64 val, ?_⟩
  unfold ReadsAll Cursor.of
  rw [decode_cons, if_neg (by omega), bind_apply, whole]
  rw [Cursor.of] at ran
  rw [ran]
  rfl

/-- Every proper prefix of a field ends before the length its first byte calls for. -/
theorem exact_decode : Exact (· = .unexpectedEnd) decode := by
  refine parses_decode.imp ?_
  rintro v used ⟨reads, -⟩
  refine ⟨reads, ?_⟩
  intro front back split more
  cases front with
  | nil => exact ⟨_, rfl, rfl⟩
  | cons first tail =>
    obtain ⟨first', tail', same, length⟩ := field_cons reads.all
    rw [split, List.cons_append] at same
    obtain ⟨rfl, rfl⟩ := List.cons.inj same
    have positive := List.length_pos_of_ne_nil more
    rw [List.length_append] at length
    exact ⟨_, by rw [Cursor.of, decode_cons, if_pos (by omega)], rfl⟩

/-! ## Three encodings of one type -/

theorem canonical_decodeMoqt (profile : MoqtProfile) :
    Canonical (decodeMoqt profile) (encodeMoqt profile) := by
  refine (parses_decodeMoqt profile).imp ?_
  rintro v used ⟨reads, shorter⟩
  exact ⟨reads, reads_encodeMoqt profile v, by rwa [encodeMoqt_length]⟩

/-- Nothing is encoded in seven bytes where they are undefined. -/
theorem encodeMoqt_defined (v : VarInt) : (v.encodeMoqt .moqt17).length ≠ 7 := by
  rw [encodeMoqt_length]
  intro seven
  rcases encodedLenMoqt_cases .moqt17 v with nine | ⟨-, -, -, defined⟩
  · omega
  · exact Bool.false_ne_true (defined seven)

/-- A first byte that calls for seven bytes is refused where they are undefined, whatever
is behind it. -/
theorem decodeMoqt_undefined {first : UInt8} (seven : leadingOnes first + 1 = 7) (tail : Bytes) :
    decodeMoqt .moqt17 (.of (first :: tail)) = .error .invalidCodePoint := by
  rw [Cursor.of, decodeMoqt_cons, if_pos ⟨seven, rfl⟩]

/-- Every length is accepted from draft-18 on. -/
theorem decodeMoqt_enough {first : UInt8} {tail : Bytes} (enough : leadingOnes first ≤ tail.length) :
    ∃ v, decodeMoqt .moqt18 (.of (first :: tail)) = .ok (v, .of (tail.drop (leadingOnes first))) := by
  have defined : ¬ (leadingOnes first + 1 = 7 ∧ MoqtProfile.sevenByte .moqt18 = false) := by
    rintro ⟨-, undefined⟩
    cases undefined
  obtain ⟨val, ran⟩ := readBe_enough enough (carried first)
  refine ⟨ofU64 val, ?_⟩
  rw [Cursor.of, decodeMoqt_cons, if_neg defined, if_neg (by omega), bind_apply]
  rw [Cursor.of] at ran
  rw [ran]
  rfl

theorem leadingOnes_onto {len : Nat} (some : 1 ≤ len) (most : len ≤ 9) :
    ∃ first, leadingOnes first + 1 = len := by
  have table : ∀ len < 10, 1 ≤ len → ∃ n < 256, leadingOnes (UInt8.ofNat n) + 1 = len := by
    decide +kernel
  obtain ⟨n, -, found⟩ := table len (by omega) some
  exact ⟨_, found⟩

end VarInt

/-- Which of the three encodings a `VarInt` travels in. -/
inductive Encoding
  | quic
  | moqt (profile : MoqtProfile)
  deriving DecidableEq, Repr

namespace Encoding

def encode : Encoding → VarInt → Bytes
  | .quic => VarInt.encode
  | .moqt profile => VarInt.encodeMoqt profile

def decode : Encoding → Reader VarIntError VarInt
  | .quic => VarInt.decode
  | .moqt profile => VarInt.decodeMoqt profile

/-- The values the encoding reaches: all of 64 bits but for RFC 9000's. -/
def Reaches : Encoding → VarInt → Prop
  | .quic, v => v.val ≤ maxVarint
  | .moqt _, _ => True

variable {encoding : Encoding} {v : VarInt}

theorem reads_encode (reaches : encoding.Reaches v) : Reads encoding.decode (encoding.encode v) v := by
  cases encoding with
  | quic => exact VarInt.reads_encode reaches
  | moqt profile => exact VarInt.reads_encodeMoqt profile v

theorem canonical_decode (encoding : Encoding) : Canonical encoding.decode encoding.encode := by
  cases encoding with
  | quic => exact VarInt.canonical_decode
  | moqt profile => exact VarInt.canonical_decodeMoqt profile

theorem exact_decode (encoding : Encoding) : Exact (· = .unexpectedEnd) encoding.decode := by
  cases encoding with
  | quic => exact VarInt.exact_decode
  | moqt profile => exact VarInt.exact_decodeMoqt profile

/-- What decodes to a value is no shorter than its encoding. -/
theorem encode_shortest {bytes : Bytes} {rest : Cursor} (decodes : encoding.decode (.of bytes) = .ok (v, rest)) :
    (encoding.encode v).length ≤ bytes.length := by
  obtain ⟨used, split, -, -, -, shorter⟩ := canonical_decode encoding bytes v rest decodes
  rw [split, List.length_append]
  exact shorter.trans (Nat.le_add_right ..)

theorem starves_encode (reaches : encoding.Reaches v) {front back : Bytes}
    (split : encoding.encode v = front ++ back) (more : back ≠ []) :
    encoding.decode (.of front) = .error .unexpectedEnd := by
  have whole : encoding.decode (.of (encoding.encode v)) = .ok (v, .of []) := (reads_encode reaches).all
  obtain ⟨used, same, -, spells⟩ := exact_decode encoding _ _ _ whole
  have own : encoding.encode v = used := by simpa [Cursor.of] using same
  obtain ⟨e, failed, rfl⟩ := spells.starves front back (own.symm.trans split) more
  exact failed

/-- **Variable-length integers.** -/
theorem varints_exact :
    (∀ (encoding : Encoding) (v : VarInt), encoding.Reaches v →
      (∀ rest, encoding.decode (.of (encoding.encode v ++ rest)) = .ok (v, .of rest)) ∧
      (∀ bytes rest, encoding.decode (.of bytes) = .ok (v, rest) →
        (encoding.encode v).length ≤ bytes.length) ∧
      (∀ front back, encoding.encode v = front ++ back → back ≠ [] →
        encoding.decode (.of front) = .error .unexpectedEnd)) ∧
    (∀ v, (VarInt.encodeMoqt .moqt17 v).length ≠ 7) ∧
    (∀ first tail, VarInt.leadingOnes first + 1 = 7 →
      VarInt.decodeMoqt .moqt17 (.of (first :: tail)) = .error .invalidCodePoint) ∧
    (∀ len, 1 ≤ len → len ≤ 9 → (∃ first, VarInt.leadingOnes first + 1 = len) ∧
      ∀ first tail rest, VarInt.leadingOnes first + 1 = len → (first :: tail).length = len →
        ∃ v, VarInt.decodeMoqt .moqt18 (.of (first :: tail ++ rest)) = .ok (v, .of rest)) := by
  refine ⟨?_, VarInt.encodeMoqt_defined, ?_, ?_⟩
  · intro encoding v reaches
    refine ⟨fun rest => reads_encode reaches rest 0, ?_, ?_⟩
    · intro bytes rest decodes
      exact encode_shortest decodes
    · intro front back split more
      exact starves_encode reaches split more
  · intro first tail seven
    exact VarInt.decodeMoqt_undefined seven tail
  · intro len some most
    refine ⟨VarInt.leadingOnes_onto some most, ?_⟩
    intro first tail rest calls length
    have behind : VarInt.leadingOnes first = tail.length := by
      rw [List.length_cons] at length
      omega
    have enough : VarInt.leadingOnes first ≤ (tail ++ rest).length := by
      rw [behind, List.length_append]
      exact Nat.le_add_right ..
    obtain ⟨v, decoded⟩ := VarInt.decodeMoqt_enough enough
    rw [behind, List.drop_left] at decoded
    exact ⟨v, decoded⟩

end Encoding
end Moqtap.Varint
