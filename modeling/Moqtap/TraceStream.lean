import Mathlib
import Moqtap.MarkerSearch

/-! Segmented trace files: the writer, and the reader that tells segments from events by looking
ahead.

The reader takes its bytes from a source that gives as many at a time as it likes. `PeekReader`
hides that: every operation is a function of the bytes still to come (`PeekReader.rest`), and
`count` is how many it has handed out. -/

namespace Moqtap.Trace

/-- Where bytes come from: those still to come, and how many the next calls of `read` give at
most. At least one comes while there is one. -/
structure Source where
  bytes : List UInt8
  grants : List ℕ
  deriving DecidableEq

def Source.read (source : Source) (n : ℕ) : List UInt8 × Source :=
  let got := min n (max 1 (source.grants.headD n))
  (source.bytes.take got, { bytes := source.bytes.drop got, grants := source.grants.tail })

structure PeekReader where
  inner : Source
  /-- Bytes read from `inner` but not yet handed to a caller of `read`. -/
  lookahead : List UInt8 := []
  lookaheadPos : ℕ := 0
  /-- Bytes handed out so far, excluding whatever is still in `lookahead`. -/
  count : ℕ := 0
  deriving DecidableEq

namespace PeekReader

variable (r : PeekReader)

/-- The bytes still to be handed out. -/
def rest : List UInt8 := r.lookahead.drop r.lookaheadPos ++ r.inner.bytes

/-- The loop of `peek`: read until `n` bytes are there, or the stream ends. -/
def fill (n : ℕ) (r : PeekReader) : PeekReader :=
  if _within : r.lookahead.length < n then
    let got := r.inner.read (n - r.lookahead.length)
    if got.1 = [] then { r with inner := got.2 }
    else fill n { r with inner := got.2, lookahead := r.lookahead ++ got.1 }
  else r
  termination_by n - r.lookahead.length
  decreasing_by
    have positive : 0 < (r.inner.read (n - r.lookahead.length)).1.length := List.length_pos_iff.mpr ‹_›
    rw [List.length_append]
    omega

/-- The next `n` bytes without consuming them, fewer only at the end of the stream. -/
def peek (n : ℕ) : List UInt8 × PeekReader :=
  let r := fill n { r with lookahead := r.lookahead.drop r.lookaheadPos, lookaheadPos := 0 }
  (r.lookahead.take n, r)

def read (n : ℕ) : List UInt8 × PeekReader :=
  let buffered := r.lookahead.drop r.lookaheadPos
  if buffered ≠ [] then
    let got := buffered.take n
    let pos := r.lookaheadPos + got.length
    let r := { r with count := r.count + got.length }
    (got, if pos = r.lookahead.length then { r with lookahead := [], lookaheadPos := 0 } else { r with lookaheadPos := pos })
  else
    let got := r.inner.read n
    (got.1, { r with inner := got.2, count := r.count + got.1.length })

/-- `read_exact` of the standard library: `none` is the end of the stream. -/
def readExact (n : ℕ) (r : PeekReader) : Option (List UInt8) × PeekReader :=
  if n = 0 then (some [], r)
  else
    let got := r.read n
    if got.1 = [] then (none, got.2)
    else
      let others := readExact (n - got.1.length) got.2
      (others.1.map (got.1 ++ ·), others.2)
  termination_by n
  decreasing_by
    have positive : 0 < (r.read n).1.length := List.length_pos_iff.mpr ‹_›
    omega

/-- Consume and return one byte, or `none` at the end of the stream. -/
def nextByte : Option UInt8 × PeekReader :=
  let got := r.read 1
  (got.1.head?, got.2)

/-! ## As functions of the bytes to come -/

theorem source_read (source : Source) (n : ℕ) :
    (source.read n).1 ++ (source.read n).2.bytes = source.bytes ∧
    (source.read n).1.length ≤ n ∧ (0 < n → source.bytes ≠ [] → (source.read n).1 ≠ []) := by
  unfold Source.read
  refine ⟨List.take_append_drop .., ?_, fun positive some' => ?_⟩
  · rw [List.length_take]
    omega
  · have length := List.length_pos_iff.mpr some'
    apply List.length_pos_iff.mp
    rw [List.length_take]
    omega

theorem fill_spec (n : ℕ) (r : PeekReader) (drained : r.lookaheadPos = 0) :
    (r.fill n).lookaheadPos = 0 ∧ (r.fill n).rest = r.rest ∧ (r.fill n).count = r.count ∧
      (n ≤ (r.fill n).lookahead.length ∨ (r.fill n).inner.bytes = []) := by
  fun_induction fill n r with
  | case1 r within got none' =>
    obtain ⟨split, -, positive⟩ := source_read r.inner (n - r.lookahead.length)
    have ended : r.inner.bytes = [] := by_contra fun some' => positive (by omega) some' none'
    have behind : (r.inner.read (n - r.lookahead.length)).2.bytes = [] := by
      rw [ended] at split
      exact (List.append_eq_nil_iff.mp split).2
    refine ⟨drained, ?_, rfl, .inr behind⟩
    unfold rest
    exact congrArg (_ ++ ·) (behind.trans ended.symm)
  | case2 r within got some' ih =>
    obtain ⟨split, -, -⟩ := source_read r.inner (n - r.lookahead.length)
    obtain ⟨pos, rest', count, full⟩ := ih drained
    refine ⟨pos, rest'.trans ?_, count, full⟩
    unfold rest
    dsimp only
    rw [drained, List.drop_zero, List.drop_zero, List.append_assoc]
    exact congrArg (_ ++ ·) split
  | case3 r full => exact ⟨drained, rfl, rfl, .inl (not_lt.mp full)⟩

theorem peek_spec (r : PeekReader) (n : ℕ) :
    (r.peek n).1 = r.rest.take n ∧ (r.peek n).2.rest = r.rest ∧ (r.peek n).2.count = r.count := by
  obtain ⟨pos, same, count, full⟩ :=
    fill_spec n { r with lookahead := r.lookahead.drop r.lookaheadPos, lookaheadPos := 0 } rfl
  have same : (r.peek n).2.rest = r.rest := same
  refine ⟨?_, same, count⟩
  rw [← same]
  unfold peek rest
  dsimp only
  rw [pos, List.drop_zero]
  rcases full with full | ended
  · rw [List.take_append_of_le_length full]
  · rw [ended, List.append_nil]

theorem read_spec (r : PeekReader) (n : ℕ) :
    (r.read n).1 ++ (r.read n).2.rest = r.rest ∧ (r.read n).1.length ≤ n ∧
    (0 < n → r.rest ≠ [] → (r.read n).1 ≠ []) ∧ (r.read n).2.count = r.count + (r.read n).1.length := by
  have source := source_read r.inner n
  unfold read
  dsimp only
  split_ifs with buffered last
  · have length := List.length_pos_iff.mpr buffered
    have all : (r.lookahead.drop r.lookaheadPos).take n = r.lookahead.drop r.lookaheadPos := by
      apply List.take_of_length_le
      rw [List.length_take, List.length_drop] at last
      rw [List.length_drop] at length ⊢
      omega
    rw [all]
    refine ⟨rfl, ?_, fun _ _ => buffered, rfl⟩
    rw [← all]
    exact List.length_take_le ..
  · refine ⟨?_, List.length_take_le .., fun positive _ => ?_, rfl⟩
    · unfold rest
      dsimp only
      rw [← List.append_assoc, ← List.drop_drop, List.prefix_iff_eq_append.mp (List.take_prefix n _)]
    · simp [buffered, positive.ne']
  · have drained : r.rest = r.inner.bytes := by
      unfold rest
      rw [not_not.mp buffered, List.nil_append]
    have behind : PeekReader.rest
        { r with inner := (r.inner.read n).2, count := r.count + (r.inner.read n).1.length } =
        (r.inner.read n).2.bytes := by
      unfold rest
      rw [not_not.mp buffered, List.nil_append]
    rw [behind, drained]
    exact ⟨source.1, source.2.1, source.2.2, rfl⟩

theorem readExact_spec (r : PeekReader) (n : ℕ) :
    (r.readExact n).1 = (if n ≤ r.rest.length then some (r.rest.take n) else none) ∧
      (r.readExact n).2.rest = r.rest.drop n ∧ (r.readExact n).2.count = r.count + min n r.rest.length := by
  fun_induction readExact n r with
  | case1 r => simp
  | case2 n r positive got ended =>
    obtain ⟨split, -, more, count⟩ := r.read_spec n
    have ended : (r.read n).1 = [] := ended
    have empty : r.rest = [] := by_contra fun some' => more (Nat.pos_of_ne_zero positive) some' ended
    rw [ended, empty, List.nil_append] at split
    rw [ended] at count
    rw [empty]
    refine ⟨?_, split.trans List.drop_nil.symm, count.trans (by simp)⟩
    rw [if_neg]
    simpa using positive
  | case3 n r positive got some' others ih =>
    obtain ⟨split, fits, more, count⟩ := r.read_spec n
    obtain ⟨bytes, behind, count'⟩ := ih
    have fits : got.1.length ≤ n := fits
    have split : got.1 ++ got.2.rest = r.rest := split
    have count : got.2.count = r.count + got.1.length := count
    have length : r.rest.length = got.1.length + got.2.rest.length := by rw [← split, List.length_append]
    refine ⟨?_, ?_, ?_⟩
    · dsimp only
      rw [bytes, length, ← split, List.take_append, List.take_of_length_le fits]
      by_cases all : n ≤ got.1.length + got.2.rest.length
      · rw [if_pos all, if_pos (by omega)]
        rfl
      · rw [if_neg all, if_neg (by omega)]
        rfl
    · rw [behind, ← split, List.drop_append, List.drop_of_length_le fits, List.nil_append]
    · rw [count', count, length]
      omega

theorem readExact_some {r : PeekReader} {bytes tail : List UInt8} (here : r.rest = bytes ++ tail) :
    ∃ r', r.readExact bytes.length = (some bytes, r') ∧ r'.rest = tail ∧ r'.count = r.count + bytes.length := by
  obtain ⟨read, behind, count⟩ := r.readExact_spec bytes.length
  have length : bytes.length ≤ r.rest.length := by
    rw [here, List.length_append]
    omega
  rw [if_pos length, here, List.take_left] at read
  rw [here, List.drop_left] at behind
  rw [min_eq_left length] at count
  exact ⟨_, Prod.ext read rfl, behind, count⟩

theorem readExact_none {r : PeekReader} {n : ℕ} (short : r.rest.length < n) :
    ∃ r', r.readExact n = (none, r') ∧ r'.rest = [] := by
  obtain ⟨read, behind, -⟩ := r.readExact_spec n
  rw [if_neg (not_le.mpr short)] at read
  rw [List.drop_of_length_le short.le] at behind
  exact ⟨_, Prod.ext read rfl, behind⟩

/-- The stream ends within what is asked for, or behind it. -/
theorem readExact_part {r : PeekReader} {bytes more : List UInt8} (part : r.rest <+: bytes ++ more) :
    (∃ r', r.readExact bytes.length = (none, r')) ∨
      ∃ r', r.readExact bytes.length = (some bytes, r') ∧ r.rest = bytes ++ r'.rest ∧ r'.rest <+: more := by
  by_cases enough : bytes.length ≤ r.rest.length
  · obtain ⟨tail, split⟩ := List.prefix_of_prefix_length_le (List.prefix_append bytes more) part enough
    obtain ⟨r', read, behind, -⟩ := readExact_some split.symm
    rw [← split, List.prefix_append_right_inj] at part
    rw [← behind] at split part
    exact .inr ⟨r', read, split.symm, part⟩
  · obtain ⟨r', read, -⟩ := readExact_none (not_le.mp enough)
    exact .inl ⟨r', read⟩

theorem nextByte_spec (r : PeekReader) : r.nextByte.1 = r.rest.head? ∧ r.nextByte.2.rest = r.rest.tail := by
  obtain ⟨split, fits, more, -⟩ := r.read_spec 1
  unfold nextByte
  dsimp only
  cases got : (r.read 1).1 with
  | nil =>
    have empty : r.rest = [] := by_contra fun some' => more one_pos some' got
    rw [got, empty, List.nil_append] at split
    rw [empty, split]
    exact ⟨rfl, rfl⟩
  | cons byte others =>
    rw [got] at split fits
    have alone : others = [] := List.length_eq_zero_iff.mp (by simpa using fits)
    rw [← split, alone]
    exact ⟨rfl, rfl⟩

end PeekReader

/-! ## Writer and reader -/

/-- `MOQTRACE`, which opens a file and each segment within one. -/
def magic : List UInt8 := [0x4D, 0x4F, 0x51, 0x54, 0x52, 0x41, 0x43, 0x45]

/-- The format version written. -/
def version : ℕ := 2

/-- The format versions that are read. -/
def versionsSupported : List ℕ := [1, version]

def le32 (n : ℕ) : List UInt8 := [.ofNat n, .ofNat (n / 2 ^ 8), .ofNat (n / 2 ^ 16), .ofNat (n / 2 ^ 24)]

def ofLe32 (bytes : List UInt8) : ℕ := bytes.foldr (fun byte n => byte.toNat + 2 ^ 8 * n) 0

theorem ofLe32_le32 (n : ℕ) : ofLe32 (le32 n) = n % 2 ^ 32 := by
  simp only [ofLe32, le32, List.foldr_cons, List.foldr_nil, UInt8.toNat_ofNat']
  omega

/-- Why a value is no header or no event. -/
inductive Unusable where
  | cborDecode (why : String)
  | invalidHeader (why : String)
  | invalidEvent (why : String)
  deriving DecidableEq, Repr

inductive MoqTraceError where
  | unexpectedEof
  | unusable (why : Unusable)
  | invalidMagic
  | unsupportedVersion (version : ℕ)
  | truncated (offset : ℕ)
  deriving DecidableEq, Repr

/-- What an item that is incomplete is reported as, from where it began. -/
def MoqTraceError.startingAt (start : ℕ) : MoqTraceError → MoqTraceError
  | .unexpectedEof => .truncated start
  | e => e

/-- What the value at the front of some bytes is, if it is all there and one. -/
inductive Parsed (Value : Type) where
  | value (v : Value)
  | cut (why : String)
  | malformed (why : String)

/-- The value codec, and how headers and events are made into values and back. `read` also says
how many bytes it takes. -/
structure Codec (Value Event Header : Type) where
  write : Value → List UInt8
  read : List UInt8 → Parsed Value × ℕ
  eventValue : Event → Value
  headerValue : Header → Value
  event : Value → Except Unusable Event
  header : Value → Except Unusable Header
  segmented : Header → Bool

/-- One item of a stream: an event in the current segment, or the header of a segment that starts
here. -/
inductive ReadItem (Event Header : Type) where
  | event (e : Event)
  | segment (h : Header)
  deriving DecidableEq

section Files

variable {Value Event Header : Type} (codec : Codec Value Event Header)

structure Writer where
  bytes : List UInt8
  deriving DecidableEq

def preamble (h : Header) : List UInt8 :=
  let header := codec.write (codec.headerValue h)
  magic ++ le32 version ++ le32 header.length ++ header

namespace Writer

def new (h : Header) : Writer := ⟨preamble codec h⟩

def writeEvent (w : Writer) (e : Event) : Writer := ⟨w.bytes ++ codec.write (codec.eventValue e)⟩

def startSegment (w : Writer) (h : Header) : Except MoqTraceError Writer :=
  if codec.segmented h then .ok ⟨w.bytes ++ preamble codec h⟩
  else .error (.unusable (.invalidHeader "a segment header must carry 'segment' metadata"))

/-- One call, which leaves the file as it is when it is refused. -/
def put (w : Writer) : ReadItem Event Header → Writer
  | .event e => w.writeEvent codec e
  | .segment h => (w.startSegment codec h).toOption.getD w

end Writer

/-- The file a writer leaves that is opened with one header and then called for each item. -/
def file (h : Header) (items : List (ReadItem Event Header)) : List UInt8 :=
  (items.foldl (Writer.put codec) (.new codec h)).bytes

def headerOf (bytes : List UInt8) : Except Unusable Header :=
  match (codec.read bytes).1 with
  | .value v => codec.header v
  | .cut why | .malformed why => .error (.cborDecode why)

def readVersionAndHeader (r : PeekReader) : Except MoqTraceError (ℕ × Header) × PeekReader :=
  match r.readExact 4 with
  | (none, r) => (.error .unexpectedEof, r)
  | (some version, r) =>
    if ofLe32 version ∉ versionsSupported then (.error (.unsupportedVersion (ofLe32 version)), r)
    else
      match r.readExact 4 with
      | (none, r) => (.error .unexpectedEof, r)
      | (some length, r) =>
        match r.readExact (ofLe32 length) with
        | (none, r) => (.error .unexpectedEof, r)
        | (some bytes, r) =>
          (((headerOf codec bytes).map (ofLe32 version, ·)).mapError .unusable, r)

def readPreamble (r : PeekReader) : Except MoqTraceError (ℕ × Header) × PeekReader :=
  match r.readExact magic.length with
  | (none, r) => (.error .unexpectedEof, r)
  | (some bytes, r) => if bytes ≠ magic then (.error .invalidMagic, r) else readVersionAndHeader codec r

/-- The loop of `resync_to_next_segment`: up to and with the next magic. -/
def scanMagic (window : List UInt8) (r : PeekReader) : Bool × PeekReader :=
  match _next : r.nextByte.1 with
  | none => (false, r.nextByte.2)
  | some byte =>
    if MarkerSearch.slide magic window byte = magic then (true, r.nextByte.2)
    else scanMagic (MarkerSearch.slide magic window byte) r.nextByte.2
  termination_by r.rest.length
  decreasing_by
    obtain ⟨head, tail⟩ := r.nextByte_spec
    rw [tail, List.length_tail]
    have some' : r.rest ≠ [] := by
      rintro empty
      rw [empty, _next] at head
      cases head
    have positive := List.length_pos_iff.mpr some'
    omega

structure Reader (Header : Type) where
  inner : PeekReader
  header : Header
  version : ℕ
  /-- A segment header could not be built, and the stream stands at the events of its segment. -/
  faulted : Bool := false

namespace Reader

def new (source : Source) : Except MoqTraceError (Reader Header) :=
  match readPreamble codec { inner := source } with
  | (.error e, _) => .error e
  | (.ok (version, header), inner) => .ok { inner, header, version }

variable (r : Reader Header)

/-- Scan forward to the next segment and resume there. -/
def resync : Except MoqTraceError (Option Header) × Reader Header :=
  match scanMagic [] r.inner with
  | (false, inner) => (.ok none, { r with inner, faulted := false })
  | (true, inner) =>
    match readVersionAndHeader codec inner with
    | (.error e, inner) => (.error e, { r with inner, faulted := true })
    | (.ok (version, header), inner) => (.ok (some header), { inner, header, version })

def readNext : Except MoqTraceError (Option (ReadItem Event Header)) × Reader Header :=
  if r.faulted then
    let (found, r) := resync codec { r with faulted := false }
    (found.map (·.map .segment), r)
  else
    let (peeked, inner) := r.inner.peek magic.length
    let start := inner.count
    if peeked = [] then (.ok none, { r with inner })
    else if peeked = magic then
      match readPreamble codec inner with
      | (.error e, inner) => (.error (e.startingAt start), { r with inner, faulted := true })
      | (.ok (version, header), inner) => (.ok (some (.segment header)), { inner, header, version })
    else
      let parsed := codec.read inner.rest
      let inner := (inner.readExact parsed.2).2
      (match parsed.1 with
        | .value v => ((codec.event v).map fun e => some (.event e)).mapError .unusable
        | .cut _ => if inner.count = start then .ok none else .error (.truncated start)
        | .malformed why => .error (.unusable (.cborDecode why)),
        { r with inner })

/-- The next `n` calls of `read_next`, each with the header that stands behind it. -/
def calls : ℕ → Reader Header → List (Except MoqTraceError (Option (ReadItem Event Header)) × Header)
  | 0, _ => []
  | n + 1, r =>
    let (result, r) := r.readNext codec
    (result, r.header) :: calls n r

end Reader

end Files

/-! ## What is read of what was written -/

theorem scanMagic_spec (window : List UInt8) (r : PeekReader) :
    (scanMagic window r).1 = (MarkerSearch.scan magic window r.rest).isSome ∧
      (scanMagic window r).2.rest = (MarkerSearch.scan magic window r.rest).getD [] := by
  fun_induction scanMagic window r with
  | case1 window r ended =>
    obtain ⟨head, tail⟩ := r.nextByte_spec
    rw [ended] at head
    rw [List.head?_eq_none_iff.mp head.symm] at tail ⊢
    exact ⟨rfl, tail⟩
  | case2 window r byte next found =>
    obtain ⟨head, tail⟩ := r.nextByte_spec
    rw [next] at head
    rw [← List.cons_head?_tail head.symm]
    unfold MarkerSearch.scan
    rw [if_pos found]
    exact ⟨rfl, tail⟩
  | case3 window r byte next other ih =>
    obtain ⟨head, tail⟩ := r.nextByte_spec
    rw [next] at head
    rw [← List.cons_head?_tail head.symm]
    unfold MarkerSearch.scan
    rw [if_neg other, ← tail]
    exact ih

variable {Value Event Header : Type} {codec : Codec Value Event Header}

/-- The value codec reads back what it wrote, whatever follows, and nothing of a value that is cut
short; an event opens with no `M`, and some value does open with the magic. -/
structure Codec.Exact (codec : Codec Value Event Header) : Prop where
  value : ∀ v tail, codec.read (codec.write v ++ tail) = (.value v, (codec.write v).length)
  cut : ∀ v part, part <+: codec.write v → part ≠ codec.write v → part ≠ [] →
    ∃ why n, 0 < n ∧ codec.read part = (.cut why, n)
  opens : ∀ e, ∃ byte bytes, codec.write (codec.eventValue e) = byte :: bytes ∧ byte ≠ 0x4D
  magic : ∃ v, magic <+: codec.write v ∧ magic ≠ codec.write v

theorem readVersionAndHeader_read (exact : codec.Exact) {r : PeekReader} {h : Header} {tail : List UInt8}
    (short : (codec.write (codec.headerValue h)).length < 2 ^ 32)
    (here : r.rest = le32 version ++ (le32 (codec.write (codec.headerValue h)).length ++
      (codec.write (codec.headerValue h) ++ tail))) : ∃ r',
    readVersionAndHeader codec r =
      (((codec.header (codec.headerValue h)).map (version, ·)).mapError .unusable, r') ∧ r'.rest = tail ∧
      r'.count = r.count + (4 + (4 + (codec.write (codec.headerValue h)).length)) := by
  obtain ⟨r₁, first, here, count₁⟩ := PeekReader.readExact_some here
  obtain ⟨r₂, second, here, count₂⟩ := PeekReader.readExact_some here
  obtain ⟨r₃, third, here, count₃⟩ := PeekReader.readExact_some here
  have length : ofLe32 (le32 (codec.write (codec.headerValue h)).length) =
      (codec.write (codec.headerValue h)).length := by
    rw [ofLe32_le32, Nat.mod_eq_of_lt short]
  have value : headerOf codec (codec.write (codec.headerValue h)) = codec.header (codec.headerValue h) := by
    have read := exact.value (codec.headerValue h) []
    rw [List.append_nil] at read
    unfold headerOf
    rw [read]
  refine ⟨r₃, ?_, here, ?_⟩
  · unfold readVersionAndHeader
    change r.readExact 4 = _ at first
    change r₁.readExact 4 = _ at second
    rw [first]
    dsimp only
    rw [if_neg (by decide), second]
    dsimp only
    rw [length, third]
    dsimp only
    rw [value]
    rfl
  · rw [count₃, count₂, count₁]
    change r.count + 4 + 4 + _ = _
    omega

theorem preamble_append (codec : Codec Value Event Header) (h : Header) (tail : List UInt8) :
    preamble codec h ++ tail =
    magic ++ (le32 version ++ (le32 (codec.write (codec.headerValue h)).length ++
      (codec.write (codec.headerValue h) ++ tail))) := by
  unfold preamble
  simp only [List.append_assoc]

theorem preamble_length (h : Header) :
    (preamble codec h).length = magic.length + (4 + (4 + (codec.write (codec.headerValue h)).length)) := by
  unfold preamble
  simp only [List.length_append, le32, List.length_cons, List.length_nil]
  omega

theorem readPreamble_read (exact : codec.Exact) {r : PeekReader} {h : Header} {tail : List UInt8}
    (short : (codec.write (codec.headerValue h)).length < 2 ^ 32) (here : r.rest = preamble codec h ++ tail) :
    ∃ r', readPreamble codec r =
        (((codec.header (codec.headerValue h)).map (version, ·)).mapError .unusable, r') ∧
      r'.rest = tail ∧ r'.count = r.count + (preamble codec h).length := by
  rw [preamble_append] at here
  obtain ⟨r₁, first, here, count₁⟩ := PeekReader.readExact_some here
  obtain ⟨r₂, second, here, count₂⟩ := readVersionAndHeader_read exact short here
  refine ⟨r₂, ?_, here, ?_⟩
  · unfold readPreamble
    rw [first]
    dsimp only
    rw [if_neg (not_not.mpr rfl), second]
  · rw [count₂, count₁, preamble_length, Nat.add_assoc]

/-- A stream that ends within a preamble. -/
theorem readPreamble_cut {r : PeekReader} {h : Header}
    (short : (codec.write (codec.headerValue h)).length < 2 ^ 32)
    (part : r.rest <+: preamble codec h) (less : r.rest ≠ preamble codec h) :
    ∃ r', readPreamble codec r = (.error .unexpectedEof, r') := by
  have length : ofLe32 (le32 (codec.write (codec.headerValue h)).length) =
      (codec.write (codec.headerValue h)).length := by
    rw [ofLe32_le32, Nat.mod_eq_of_lt short]
  have whole := preamble_append codec h []
  rw [List.append_nil, List.append_nil] at whole
  rw [whole] at part less
  unfold readPreamble readVersionAndHeader
  rcases PeekReader.readExact_part part with ⟨r₁, ended⟩ | ⟨r₁, first, split₁, part⟩
  · rw [ended]
    exact ⟨_, rfl⟩
  rw [first]
  dsimp only
  rw [if_neg (not_not.mpr rfl)]
  rcases PeekReader.readExact_part part with ⟨r₂, ended⟩ | ⟨r₂, second, split₂, part⟩
  · change r₁.readExact 4 = _ at ended
    rw [ended]
    exact ⟨_, rfl⟩
  change r₁.readExact 4 = _ at second
  rw [second]
  dsimp only
  rw [if_neg (by decide)]
  rcases PeekReader.readExact_part part with ⟨r₃, ended⟩ | ⟨r₃, third, split₃, part⟩
  · change r₂.readExact 4 = _ at ended
    rw [ended]
    exact ⟨_, rfl⟩
  change r₂.readExact 4 = _ at third
  rw [third]
  dsimp only
  rw [length]
  rw [← List.append_nil (codec.write _)] at part
  rcases PeekReader.readExact_part part with ⟨r₄, ended⟩ | ⟨r₄, -, split₄, part⟩
  · rw [ended]
    exact ⟨_, rfl⟩
  · rw [List.prefix_nil.mp part, List.append_nil] at split₄
    exact absurd (by rw [split₁, split₂, split₃, split₄]) less

/-! ## One call -/

theorem magic_cons : magic = 0x4D :: magic.tail := rfl

namespace Reader

/-- Where a reader stands: what is to come, and under which header. -/
structure At (r : Reader Header) (rest : List UInt8) (header : Header) (faulted : Bool) : Prop where
  rest : r.inner.rest = rest
  header : r.header = header
  faulted : r.faulted = faulted

variable {r : Reader Header} {header : Header} {tail : List UInt8} {count : ℕ}

theorem readNext_end (codec : Codec Value Event Header) (stands : r.At [] header false) :
    ∃ r', r.readNext codec = (.ok none, r') ∧ r'.At [] header false := by
  obtain ⟨peeked, behind, -⟩ := r.inner.peek_spec magic.length
  rw [stands.rest] at peeked behind
  refine ⟨{ r with inner := (r.inner.peek magic.length).2 }, ?_, behind, stands.header, stands.faulted⟩
  unfold readNext
  rw [if_neg (by simp [stands.faulted])]
  dsimp only
  rw [peeked, if_pos List.take_nil]

theorem readNext_event (exact : codec.Exact) {e : Event}
    (stands : r.At (codec.write (codec.eventValue e) ++ tail) header false) :
    ∃ r', r.readNext codec =
        (((codec.event (codec.eventValue e)).map fun e => some (.event e)).mapError .unusable, r') ∧
      r'.At tail header false ∧ r'.inner.count = r.inner.count + (codec.write (codec.eventValue e)).length := by
  obtain ⟨peeked, behind, count⟩ := r.inner.peek_spec magic.length
  rw [stands.rest] at peeked behind
  obtain ⟨byte, bytes, opens, other⟩ := exact.opens e
  obtain ⟨r', read, rest, count'⟩ := PeekReader.readExact_some behind
  refine ⟨{ r with inner := r' }, ?_, ⟨rest, stands.header, stands.faulted⟩, count'.trans (congrArg (· + _) count)⟩
  unfold readNext
  rw [if_neg (by simp [stands.faulted])]
  dsimp only
  have ahead : (r.inner.peek magic.length).1 = byte :: (bytes ++ tail).take 7 := by
    rw [peeked, opens]
    rfl
  have event : (r.inner.peek magic.length).1 ≠ magic := by
    rw [ahead, magic_cons]
    exact fun same => other (List.cons.inj same).1
  rw [if_neg (by simp [ahead]), if_neg event, behind, exact.value]
  dsimp only
  rw [read]

theorem readNext_segment (exact : codec.Exact) {h : Header}
    (short : (codec.write (codec.headerValue h)).length < 2 ^ 32)
    (stands : r.At (preamble codec h ++ tail) header false) : ∃ r',
    r.readNext codec =
      (((codec.header (codec.headerValue h)).map fun h => some (.segment h)).mapError .unusable, r') ∧
      r'.At tail ((codec.header (codec.headerValue h)).toOption.getD header)
        (codec.header (codec.headerValue h)).toOption.isNone ∧
      r'.inner.count = r.inner.count + (preamble codec h).length := by
  obtain ⟨peeked, behind, count⟩ := r.inner.peek_spec magic.length
  rw [stands.rest] at peeked behind
  obtain ⟨r', read, rest, count'⟩ := readPreamble_read exact short behind
  have opens : (r.inner.peek magic.length).1 = magic := by
    rw [peeked, preamble_append]
    rfl
  have moved := count'.trans (congrArg (· + _) count)
  unfold readNext
  rw [if_neg (by simp [stands.faulted])]
  dsimp only
  rw [if_neg (by rw [opens]; decide), if_pos opens, read]
  cases codec.header (codec.headerValue h) with
  | ok h' => exact ⟨_, rfl, ⟨rest, rfl, rfl⟩, moved⟩
  | error why => exact ⟨_, rfl, ⟨rest, stands.header, rfl⟩, moved⟩

theorem magic_unbordered : MarkerSearch.Unbordered magic := by decide

/-- Whatever lies before it, the next segment is taken up. -/
theorem resync_read (exact : codec.Exact) {h : Header} {junk : List UInt8}
    (short : (codec.write (codec.headerValue h)).length < 2 ^ 32) (free : ¬magic <:+: junk)
    (here : r.inner.rest = junk ++ (preamble codec h ++ tail)) : ∃ r',
    r.resync codec = (((codec.header (codec.headerValue h)).map some).mapError .unusable, r') ∧
      r'.At tail ((codec.header (codec.headerValue h)).toOption.getD r.header)
        (codec.header (codec.headerValue h)).toOption.isNone := by
  obtain ⟨found, behind⟩ := scanMagic_spec [] r.inner
  rw [here, preamble_append, ← List.append_assoc, MarkerSearch.scan_behind (by decide) magic_unbordered free]
    at found behind
  obtain ⟨r', read, rest, -⟩ := readVersionAndHeader_read exact short behind
  have scanned : scanMagic [] r.inner = (true, (scanMagic [] r.inner).2) := Prod.ext found rfl
  unfold resync
  rw [scanned]
  dsimp only
  rw [read]
  cases codec.header (codec.headerValue h) with
  | ok h' => exact ⟨_, rfl, ⟨rest, rfl, rfl⟩⟩
  | error why => exact ⟨_, rfl, ⟨rest, rfl, rfl⟩⟩

/-- Behind a header that could not be built, the next call takes up the next segment. -/
theorem readNext_resync (exact : codec.Exact) {h : Header} {junk : List UInt8}
    (short : (codec.write (codec.headerValue h)).length < 2 ^ 32) (free : ¬magic <:+: junk)
    (stands : r.At (junk ++ (preamble codec h ++ tail)) header true) : ∃ r',
    r.readNext codec =
      (((codec.header (codec.headerValue h)).map fun h => some (.segment h)).mapError .unusable, r') ∧
      r'.At tail ((codec.header (codec.headerValue h)).toOption.getD header)
        (codec.header (codec.headerValue h)).toOption.isNone := by
  have here : ({ r with faulted := false } : Reader Header).inner.rest =
      junk ++ (preamble codec h ++ tail) := stands.rest
  obtain ⟨r', found, behind⟩ := resync_read exact short free here
  refine ⟨r', ?_, stands.header ▸ behind⟩
  unfold readNext
  rw [if_pos stands.faulted, found]
  cases codec.header (codec.headerValue h) <;> rfl

theorem readNext_lost (codec : Codec Value Event Header) {junk : List UInt8} (free : ¬magic <:+: junk)
    (stands : r.At junk header true) :
    ∃ r', r.readNext codec = (.ok none, r') ∧ r'.At [] header false := by
  obtain ⟨found, behind⟩ := scanMagic_spec [] r.inner
  have nowhere : MarkerSearch.scan magic (MarkerSearch.window magic []) junk = none := by
    refine MarkerSearch.scan_none (by decide) fun k _ _ ends => free ?_
    exact ends.isInfix.trans (List.take_prefix k junk).isInfix
  change MarkerSearch.scan magic [] junk = none at nowhere
  rw [stands.rest, nowhere] at found behind
  have scanned : scanMagic [] r.inner = (false, (scanMagic [] r.inner).2) := Prod.ext found rfl
  unfold readNext
  rw [if_pos stands.faulted]
  unfold resync
  dsimp only
  rw [scanned]
  exact ⟨_, rfl, ⟨behind, stands.header, rfl⟩⟩

end Reader

/-! ## Whole files -/

section

variable (codec)

/-- The items that go into the file: a segment header without `segment` metadata is refused. -/
def accepts : ReadItem Event Header → Bool
  | .event _ => true
  | .segment h => codec.segmented h

def itemBytes : ReadItem Event Header → List UInt8
  | .event e => codec.write (codec.eventValue e)
  | .segment h => preamble codec h

/-- What the calls of `read_next` give for the items of a file, each with the header that stands
behind it. Events behind a header that cannot be built are passed over. -/
def reading : Header → Bool → List (ReadItem Event Header) →
    List (Except MoqTraceError (Option (ReadItem Event Header)) × Header)
  | _, _, [] => []
  | header, true, .event _ :: items => reading header true items
  | header, false, .event e :: items =>
    (((codec.event (codec.eventValue e)).map fun e => some (.event e)).mapError .unusable, header) ::
      reading header false items
  | header, _, .segment h :: items =>
    let again := codec.header (codec.headerValue h)
    ((again.map fun h => some (.segment h)).mapError .unusable, again.toOption.getD header) ::
      reading (again.toOption.getD header) again.toOption.isNone items

/-- The header that stands at the end. -/
def standing (header : Header) (items : List (ReadItem Event Header)) : Header :=
  items.foldl (fun header item =>
    match item with
    | .event _ => header
    | .segment h => (codec.header (codec.headerValue h)).toOption.getD header) header

/-- The bytes of the events before the next segment. -/
def leading : List (ReadItem Event Header) → List UInt8
  | .event e :: items => codec.write (codec.eventValue e) ++ leading items
  | _ => []

/-- The events behind a header that cannot be built hold no magic. -/
def Quiet (items : List (ReadItem Event Header)) : Prop :=
  ∀ before h after, items = before ++ .segment h :: after → (codec.header (codec.headerValue h)).toOption = none →
    ¬magic <:+: leading codec after

/-- A header's length fits the four bytes it is written in. -/
def Short (h : Header) : Prop := (codec.write (codec.headerValue h)).length < 2 ^ 32

end

theorem file_eq (h : Header) (items : List (ReadItem Event Header)) :
    file codec h items = preamble codec h ++ (items.filter (accepts codec)).flatMap (itemBytes codec) := by
  unfold file
  have folded (w : Writer) : (items.foldl (Writer.put codec) w).bytes =
      w.bytes ++ (items.filter (accepts codec)).flatMap (itemBytes codec) := by
    induction items generalizing w with
    | nil => exact (List.append_nil _).symm
    | cons item items ih =>
      rw [List.foldl_cons, ih]
      cases item with
      | event e =>
        rw [List.filter_cons_of_pos (by rfl), List.flatMap_cons, ← List.append_assoc]
        rfl
      | segment h =>
        unfold Writer.put Writer.startSegment
        dsimp only
        by_cases segmented : codec.segmented h
        · rw [if_pos segmented, List.filter_cons_of_pos (by exact segmented), List.flatMap_cons, ← List.append_assoc]
          rfl
        · rw [if_neg segmented, List.filter_cons_of_neg (by exact segmented)]
          rfl
  exact folded _

theorem calls_succ {r r' : Reader Header} {result : Except MoqTraceError (Option (ReadItem Event Header))}
    (read : r.readNext codec = (result, r')) (n : ℕ) :
    r.calls codec (n + 1) = (result, r'.header) :: r'.calls codec n := by
  rw [Reader.calls, read]

theorem calls_end {r : Reader Header} {header : Header} (stands : r.At [] header false) (m : ℕ) :
    r.calls codec m = List.replicate m (.ok none, header) := by
  induction m generalizing r with
  | zero => rfl
  | succ m ih =>
    obtain ⟨r', read, behind⟩ := Reader.readNext_end codec stands
    rw [calls_succ read, ih behind, behind.header]
    rfl

theorem calls_reading (exact : codec.Exact) {items : List (ReadItem Event Header)}
    (short : ∀ h, .segment h ∈ items → Short codec h) (quiet : Quiet codec items) {r : Reader Header} {header : Header}
    {faulted : Bool} {junk : List UInt8} (stands : r.At (junk ++ items.flatMap (itemBytes codec)) header faulted)
    (clean : faulted = false → junk = []) (free : faulted = true → ¬magic <:+: junk ++ leading codec items) (m : ℕ) :
    r.calls codec ((reading codec header faulted items).length + m) =
      reading codec header faulted items ++ List.replicate m (.ok none, standing codec header items) := by
  induction items generalizing r header faulted junk with
  | nil =>
    rw [List.flatMap_nil, List.append_nil] at stands
    change r.calls codec (0 + m) = List.replicate m (.ok none, header)
    rw [Nat.zero_add]
    cases faulted with
    | false =>
      obtain rfl := clean rfl
      exact calls_end stands m
    | true =>
      cases m with
      | zero => rfl
      | succ m =>
        have nowhere : ¬magic <:+: junk := by simpa [leading] using free rfl
        obtain ⟨r', read, behind⟩ := Reader.readNext_lost codec nowhere stands
        rw [calls_succ read, calls_end behind, behind.header]
        rfl
  | cons item items ih =>
    have short' (h : Header) (member : .segment h ∈ items) : Short codec h := short h (List.mem_cons_of_mem _ member)
    have quiet' : Quiet codec items := fun before h after split => quiet (item :: before) h after (congrArg (item :: ·) split)
    rw [List.flatMap_cons] at stands
    cases item with
    | event e =>
      cases faulted with
      | true =>
        rw [← List.append_assoc] at stands
        refine ih short' quiet' stands nofun fun _ => ?_
        rw [List.append_assoc]
        exact free rfl
      | false =>
        obtain rfl := clean rfl
        obtain ⟨r', read, behind, -⟩ := Reader.readNext_event exact stands
        rw [← List.nil_append (items.flatMap _)] at behind
        have more := ih short' quiet' behind (fun _ => rfl) nofun
        unfold reading
        rw [List.length_cons, Nat.add_right_comm, calls_succ read, more, behind.header]
        rfl
    | segment h =>
      have here : ∃ r', r.readNext codec =
          (((codec.header (codec.headerValue h)).map fun h => some (.segment h)).mapError .unusable, r') ∧
          r'.At (items.flatMap (itemBytes codec)) ((codec.header (codec.headerValue h)).toOption.getD header)
            (codec.header (codec.headerValue h)).toOption.isNone := by
        have short := short h List.mem_cons_self
        cases faulted with
        | true =>
          have nowhere : ¬magic <:+: junk := by simpa [leading] using free rfl
          exact Reader.readNext_resync exact short nowhere stands
        | false =>
          obtain rfl := clean rfl
          obtain ⟨r', read, behind, -⟩ := Reader.readNext_segment exact short stands
          exact ⟨r', read, behind⟩
      obtain ⟨r', read, behind⟩ := here
      rw [← List.nil_append (items.flatMap _)] at behind
      have more := ih short' quiet' behind (fun _ => rfl) fun gone =>
        quiet [] h items rfl (Option.isNone_iff_eq_none.mp gone)
      have unfolded : reading codec header faulted (.segment h :: items) =
          (((codec.header (codec.headerValue h)).map fun h => some (.segment h)).mapError .unusable,
            (codec.header (codec.headerValue h)).toOption.getD header) ::
            reading codec ((codec.header (codec.headerValue h)).toOption.getD header)
              (codec.header (codec.headerValue h)).toOption.isNone items := by
        cases faulted <;> rfl
      rw [unfolded, List.length_cons, Nat.add_right_comm, calls_succ read, more, behind.header]
      rfl

theorem new_read (exact : codec.Exact) {h h' : Header} (first : codec.header (codec.headerValue h) = .ok h')
    (short : Short codec h) {source : Source} {tail : List UInt8} (bytes : source.bytes = preamble codec h ++ tail) :
    ∃ r, Reader.new codec source = .ok r ∧ r.At tail h' false ∧ r.inner.count = (preamble codec h).length := by
  obtain ⟨r', read, rest, count⟩ := readPreamble_read exact short (show PeekReader.rest { inner := source } = _ from bytes)
  unfold Reader.new
  rw [read, first]
  exact ⟨_, rfl, ⟨rest, rfl, rfl⟩, count.trans (Nat.zero_add _)⟩

/-- Two of the values of CBOR, the empty map and the byte strings of length 13. A header is built of
the map alone. -/
inductive Small where
  | map
  | bytes (b : List UInt8) (length : b.length = 13)

def small : Codec Small Unit Bool where
  write
    | .map => [0xA0]
    | .bytes b _ => 0x4D :: b
  read
    | 0xA0 :: _ => (.value .map, 1)
    | 0x4D :: b => if all : 13 ≤ b.length then (.value (.bytes (b.take 13) (List.length_take_of_le all)), 14) else (.cut "Eof", 1 + b.length)
    | [] => (.cut "Eof", 0)
    | _ :: _ => (.malformed "Syntax", 1)
  eventValue _ := .map
  headerValue h := if h then .map else .bytes (List.replicate 13 0) List.length_replicate
  event
    | .map => .ok ()
    | .bytes _ _ => .error (.invalidEvent "event is not a map")
  header
    | .map => .ok true
    | .bytes _ _ => .error (.invalidHeader "header is not a map")
  segmented _ := true

theorem small_exact : small.Exact where
  value v tail := by
    cases v with
    | map => rfl
    | bytes b length =>
      have all : 13 ≤ (b ++ tail).length := by
        rw [List.length_append, length]
        omega
      change (if all : 13 ≤ (b ++ tail).length then _ else _) = _
      rw [dif_pos all]
      simp [small, ← length]
  cut v part inside less some' := by
    cases part with
    | nil => exact absurd rfl some'
    | cons byte part =>
      cases v with
      | map =>
        change byte :: part <+: [0xA0] at inside
        obtain ⟨here, none'⟩ := List.cons_prefix_cons.mp inside
        rw [here, List.prefix_nil.mp none'] at less
        exact absurd rfl less
      | bytes b length =>
        change byte :: part <+: 0x4D :: b at inside
        obtain ⟨here, inside'⟩ := List.cons_prefix_cons.mp inside
        have fewer : part.length ≠ b.length := fun same =>
          less (congrArg₂ List.cons here (inside'.eq_of_length same))
        have bound := inside'.length_le
        rw [here]
        exact ⟨"Eof", 1 + part.length, by omega, dif_neg (by omega)⟩
  opens _ := ⟨0xA0, [], rfl, by decide⟩
  magic := ⟨.bytes (magic.tail ++ List.replicate 6 0) rfl, by decide, by decide⟩

theorem small_leading {items : List (ReadItem Unit Bool)} {byte : UInt8}
    (member : byte ∈ leading small items) : byte = 0xA0 := by
  fun_induction leading small items with
  | case1 e items ih =>
    rcases List.mem_append.mp member with here | later
    · exact List.mem_singleton.mp here
    · exact ih later
  | case2 => cases member

theorem small_quiet (items : List (ReadItem Unit Bool)) : Quiet small items := by
  intro _ _ after _ _ found
  have maps : 0x4D ∈ leading small after := found.subset (by decide)
  exact absurd (small_leading maps) (by decide)

theorem small_short (h : Bool) : Short small h := by
  unfold Short
  cases h <;> decide

/-- A reader that has met a reserved byte, with one more segment to come. -/
def stuck : Reader Bool where
  inner := { inner := ⟨[0xFF, 0x4D] ++ (preamble small true ++ [0xA0]), [2]⟩ }
  header := true
  version := 1

/-- A part of an item that does not open with the magic is a part of a value. -/
theorem part_cut (exact : codec.Exact) {item : ReadItem Event Header} {part : List UInt8} (some' : part ≠ [])
    (inside : part <+: itemBytes codec item) (less : part ≠ itemBytes codec item) (other : part.take magic.length ≠ magic) :
    ∃ why n, 0 < n ∧ codec.read part = (.cut why, n) := by
  cases item with
  | event e => exact exact.cut _ part inside less some'
  | segment h =>
    have whole := preamble_append codec h []
    rw [List.append_nil] at whole
    change part <+: preamble codec h at inside
    rw [whole] at inside
    have few : part.length < magic.length := by
      by_contra enough
      have begins := List.prefix_of_prefix_length_le (List.prefix_append magic _) inside (not_lt.mp enough)
      exact other (List.prefix_iff_eq_take.mp begins).symm
    have begins := List.prefix_of_prefix_length_le inside (List.prefix_append magic _) few.le
    obtain ⟨v, longer, -⟩ := exact.magic
    refine exact.cut v part (begins.trans longer) (fun same => ?_) some'
    have length := longer.length_le
    rw [← same] at length
    omega

/-- A stream that ends within an item. -/
theorem readNext_cut (exact : codec.Exact) {item : ReadItem Event Header} (short : ∀ h, item = .segment h → Short codec h)
    {r : Reader Header} {header : Header} {part : List UInt8} (stands : r.At part header false) (some' : part ≠ [])
    (inside : part <+: itemBytes codec item) (less : part ≠ itemBytes codec item) :
    ∃ r', r.readNext codec = (.error (.truncated r.inner.count), r') ∧ r'.header = header := by
  obtain ⟨peeked, behind, count⟩ := r.inner.peek_spec magic.length
  rw [stands.rest] at peeked behind
  unfold Reader.readNext
  rw [if_neg (by simp [stands.faulted])]
  dsimp only
  rw [if_neg (by rw [peeked]; simp [some', magic]), count, peeked]
  by_cases opens : part.take magic.length = magic
  · rw [if_pos opens]
    cases item with
    | event e =>
      obtain ⟨byte, bytes, first, other⟩ := exact.opens e
      have begins : magic <+: byte :: bytes := by
        have prefix' := (List.take_prefix magic.length part).trans inside
        rwa [opens, itemBytes, first] at prefix'
      rw [magic_cons, List.cons_prefix_cons] at begins
      exact absurd begins.1.symm other
    | segment h =>
      rw [← behind] at inside less
      obtain ⟨r', read⟩ := readPreamble_cut (short h rfl) inside less
      rw [read]
      exact ⟨_, rfl, stands.header⟩
  · rw [if_neg opens]
    obtain ⟨why, n, positive, read⟩ := part_cut exact some' inside less opens
    obtain ⟨-, -, moved⟩ := (r.inner.peek magic.length).2.readExact_spec n
    rw [behind, count] at moved
    have length := List.length_pos_iff.mpr some'
    rw [behind, read]
    dsimp only
    rw [if_neg (by omega)]
    exact ⟨_, rfl, stands.header⟩

/-- The items before a tail, whose headers are all read back. -/
theorem calls_before (exact : codec.Exact) {items : List (ReadItem Event Header)}
    (short : ∀ h, .segment h ∈ items → Short codec h)
    (kept : ∀ h, .segment h ∈ items → ∃ h', codec.header (codec.headerValue h) = .ok h')
    {r : Reader Header} {header : Header} {tail : List UInt8}
    (stands : r.At (items.flatMap (itemBytes codec) ++ tail) header false) :
    ∃ r' : Reader Header, r'.At tail (standing codec header items) false ∧
      r'.inner.count = r.inner.count + (items.flatMap (itemBytes codec)).length ∧
      ∀ m, r.calls codec (items.length + m) = reading codec header false items ++ r'.calls codec m := by
  induction items generalizing r header with
  | nil =>
    refine ⟨r, stands, rfl, fun m => ?_⟩
    rw [List.length_nil, Nat.zero_add]
    rfl
  | cons item items ih =>
    have short' (h : Header) (member : .segment h ∈ items) : Short codec h := short h (List.mem_cons_of_mem _ member)
    have kept' (h : Header) (member : .segment h ∈ items) := kept h (List.mem_cons_of_mem _ member)
    rw [List.flatMap_cons, List.append_assoc] at stands
    rw [List.flatMap_cons, List.length_append]
    cases item with
    | event e =>
      obtain ⟨r₁, read, behind, count⟩ := Reader.readNext_event exact stands
      obtain ⟨r', ended, count', more⟩ := ih short' kept' behind
      refine ⟨r', ended, by rw [count', count, Nat.add_assoc]; rfl, fun m => ?_⟩
      rw [List.length_cons, Nat.add_right_comm]
      rw [calls_succ read, more, behind.header]
      rfl
    | segment h =>
      obtain ⟨h', built⟩ := kept h List.mem_cons_self
      obtain ⟨r₁, read, behind, count⟩ := Reader.readNext_segment exact (short h List.mem_cons_self) stands
      rw [built] at read behind
      obtain ⟨r', ended, count', more⟩ := ih short' kept' behind
      have stand : standing codec header (.segment h :: items) = standing codec h' items := by
        unfold standing
        rw [List.foldl_cons]
        dsimp only
        rw [built]
        rfl
      rw [stand]
      refine ⟨r', ended, by rw [count', count, Nat.add_assoc]; rfl, fun m => ?_⟩
      rw [List.length_cons, Nat.add_right_comm]
      unfold reading
      rw [calls_succ read, more, behind.header, built]
      rfl

end Moqtap.Trace
