import Mathlib

/-! Readers over a byte cursor, and the three facts a codec proof needs about
one: which bytes it reads a value off, what its success says, and that it
starves on every proper prefix of what it reads. Nothing here knows any wire
format; a cursor is bytes followed by a run of zero padding, so that a reader
can also be asked how long a value would be before its bytes have arrived. -/
namespace Moqtap.ByteCursor

abbrev Bytes := List UInt8

/-- The bytes still to be read, then `pad` zero bytes. -/
structure Cursor where
  real : Bytes
  pad : Nat
  deriving DecidableEq, Repr

/-- A plain byte slice. -/
@[coe] def Cursor.of (bytes : Bytes) : Cursor := ⟨bytes, 0⟩

def Cursor.remaining (cursor : Cursor) : Nat := cursor.real.length + cursor.pad

abbrev Reader (ε α : Type) := StateT Cursor (Except ε) α

variable {ε ε' α α' β β' γ : Type}

/-! ## Primitive reads -/

def remaining : Reader ε Nat := fun cursor => .ok (cursor.remaining, cursor)

/-- The next byte, left in place. -/
def peekByte (short : ε) : Reader ε UInt8 := fun cursor =>
  match cursor.real with
  | byte :: _ => .ok (byte, cursor)
  | [] => if 0 < cursor.pad then .ok (0, cursor) else .error short

def takeByte (short : ε) : Reader ε UInt8 := fun cursor =>
  match cursor.real with
  | byte :: rest => .ok (byte, ⟨rest, cursor.pad⟩)
  | [] => if 0 < cursor.pad then .ok (0, ⟨[], cursor.pad - 1⟩) else .error short

/-- Exactly `count` bytes, padding included. -/
def takeBytes (short : ε) (count : Nat) : Reader ε Bytes := fun cursor =>
  if cursor.remaining < count then .error short
  else .ok (cursor.real.take count ++ List.replicate (count - cursor.real.length) 0,
    ⟨cursor.real.drop count, cursor.pad - (count - cursor.real.length)⟩)

/-- Advance past `count` bytes without looking at them. -/
def skipBytes (short : ε) (count : Nat) : Reader ε Unit := fun cursor =>
  if cursor.remaining < count then .error short
  else .ok ((), ⟨cursor.real.drop count, cursor.pad - (count - cursor.real.length)⟩)

/-- Refuse unless `count` bytes are left. -/
def require (short : ε) (count : Nat) : Reader ε Unit := fun cursor =>
  if cursor.remaining < count then .error short else .ok ((), cursor)

def fail (error : ε) : Reader ε α := fun _ => .error error

/-- A check on values already read: no byte moves. -/
def lift (result : Except ε α) : Reader ε α := fun cursor => result.map (·, cursor)

/-- The same reader, reporting its failures under another error type. -/
def mapError (f : ε → ε') (reader : Reader ε α) : Reader ε' α := fun cursor =>
  (reader cursor).mapError f

/-! ## Checks on values already read -/

def refuseIf (bad : Bool) (error : ε) : Except ε Unit := if bad then .error error else .ok ()

/-- `Option::ok_or`. -/
def okOr (value : Option α) (error : ε) : Except ε α :=
  match value with
  | some a => .ok a
  | none => .error error

/-- Run `check` over a list, stopping at its first refusal. -/
def checkAll (check : α → Except ε Unit) : List α → Except ε Unit
  | [] => .ok ()
  | a :: rest => do
    check a
    checkAll check rest

@[simp] theorem refuseIf_ok {bad : Bool} {error : ε} {u : Unit} :
    refuseIf bad error = .ok u ↔ bad = false := by
  cases bad <;> simp [refuseIf]

@[simp] theorem okOr_ok {value : Option α} {error : ε} {a : α} :
    okOr value error = .ok a ↔ value = some a := by
  cases value <;> simp [okOr]

@[simp] theorem okOr_some (a : α) (error : ε) : okOr (some a) error = .ok a := rfl

@[simp] theorem except_ok_bind (a : α) (next : α → Except ε β) : (Except.ok a >>= next) = next a := rfl

theorem checkAll_ok {check : α → Except ε Unit} {list : List α} {u : Unit} :
    checkAll check list = .ok u ↔ ∀ a ∈ list, check a = .ok () := by
  induction list with
  | nil => simp [checkAll]
  | cons head tail ih =>
    rw [List.forall_mem_cons, ← ih, checkAll]
    cases outcome : check head <;> simp [bind, Except.bind]

theorem checkAll_congr {check check' : α → Except ε Unit} {list : List α}
    (agree : ∀ a ∈ list, check a = check' a) : checkAll check list = checkAll check' list := by
  induction list with
  | nil => rfl
  | cons head tail ih =>
    rw [checkAll, checkAll, agree head List.mem_cons_self,
      ih fun a member => agree a (List.mem_cons_of_mem _ member)]

theorem except_bind_ok {first : Except ε α} {next : α → Except ε β} {b : β}
    (ran : (first >>= next) = .ok b) : ∃ a, first = .ok a ∧ next a = .ok b := by
  cases first with
  | error e => cases ran
  | ok a => exact ⟨a, rfl, ran⟩

theorem except_bind_iff {first : Except ε α} {next : α → Except ε β} {b : β} :
    (first >>= next) = .ok b ↔ ∃ a, first = .ok a ∧ next a = .ok b := by
  refine ⟨except_bind_ok, ?_⟩
  rintro ⟨a, rfl, ran⟩
  exact ran

/-! ## What a reader took -/

/-- A reader and the number of bytes it took. -/
def measured (reader : Reader ε α) : Reader ε (α × Nat) := fun cursor =>
  (reader cursor).map fun (a, rest) => ((a, cursor.remaining - rest.remaining), rest)

/-- A reader and the bytes it took, padding aside. -/
def consumed (reader : Reader ε α) : Reader ε (α × Bytes) := fun cursor =>
  (reader cursor).map fun (a, rest) =>
    ((a, cursor.real.take (cursor.real.length - rest.real.length)), rest)

theorem measured_success {reader : Reader ε α} {cursor rest : Cursor} {a : α} {len : Nat}
    (ran : measured reader cursor = .ok ((a, len), rest)) :
    reader cursor = .ok (a, rest) ∧ len = cursor.remaining - rest.remaining := by
  unfold measured at ran
  cases outcome : reader cursor with
  | error e => simp [outcome, Except.map] at ran
  | ok pair =>
    simp only [outcome, Except.map, Except.ok.injEq, Prod.mk.injEq] at ran
    obtain ⟨⟨rfl, rfl⟩, rfl⟩ := ran
    exact ⟨rfl, rfl⟩

theorem consumed_success {reader : Reader ε α} {cursor rest : Cursor} {a : α} {bytes : Bytes}
    (ran : consumed reader cursor = .ok ((a, bytes), rest)) :
    reader cursor = .ok (a, rest) ∧
      bytes = cursor.real.take (cursor.real.length - rest.real.length) := by
  unfold consumed at ran
  cases outcome : reader cursor with
  | error e => simp [outcome, Except.map] at ran
  | ok pair =>
    simp only [outcome, Except.map, Except.ok.injEq, Prod.mk.injEq] at ran
    obtain ⟨⟨rfl, rfl⟩, rfl⟩ := ran
    exact ⟨rfl, rfl⟩

/-! ## Sequencing -/

theorem bind_apply (first : Reader ε α) (next : α → Reader ε β) (cursor : Cursor) :
    (first >>= next) cursor =
      match first cursor with
      | .ok (a, rest) => next a rest
      | .error e => .error e := by
  show (first cursor >>= fun p => next p.1 p.2) = _
  cases first cursor <;> rfl

theorem pure_apply (a : α) (cursor : Cursor) :
    (pure a : Reader ε α) cursor = .ok (a, cursor) := rfl

theorem bind_success {first : Reader ε α} {next : α → Reader ε β} {cursor : Cursor}
    {result : β × Cursor} (ran : (first >>= next) cursor = .ok result) :
    ∃ a middle, first cursor = .ok (a, middle) ∧ next a middle = .ok result := by
  rw [bind_apply] at ran
  cases outcome : first cursor with
  | ok pair => exact ⟨pair.1, pair.2, rfl, by simpa [outcome] using ran⟩
  | error e => simp [outcome] at ran

theorem bind_error {first : Reader ε α} {next : α → Reader ε β} {cursor : Cursor} {e : ε}
    (failed : (first >>= next) cursor = .error e) :
    first cursor = .error e ∨ ∃ a rest, first cursor = .ok (a, rest) ∧ next a rest = .error e := by
  rw [bind_apply] at failed
  cases ran : first cursor with
  | error e' =>
    rw [ran] at failed
    cases failed
    exact .inl rfl
  | ok read =>
    rw [ran] at failed
    exact .inr ⟨read.1, read.2, rfl, failed⟩

theorem map_eq_bind (f : α → β) (reader : Reader ε α) :
    f <$> reader = reader >>= fun a => pure (f a) := by
  funext cursor
  rw [bind_apply]
  show (reader cursor >>= fun p => _) = _
  cases reader cursor <;> rfl

theorem lift_success {result : Except ε α} {cursor : Cursor} {a : α} {rest : Cursor}
    (ran : lift result cursor = .ok (a, rest)) : result = .ok a ∧ rest = cursor := by
  cases result with
  | error e => simp [lift, Except.map] at ran
  | ok value => simpa [lift, Except.map, eq_comm, and_comm] using ran

theorem mapError_success {f : ε → ε'} {reader : Reader ε α} {cursor : Cursor} {result : α × Cursor}
    (ran : mapError f reader cursor = .ok result) : reader cursor = .ok result := by
  unfold mapError at ran
  cases outcome : reader cursor with
  | error e => simp [outcome, Except.mapError] at ran
  | ok pair => simpa [outcome, Except.mapError] using ran

/-! ## Which bytes a reader reads a value off -/

/-- In front of anything at all, `bytes` read as `a` and exactly they are consumed. -/
def Reads (reader : Reader ε α) (bytes : Bytes) (a : α) : Prop :=
  ∀ rest pad, reader ⟨bytes ++ rest, pad⟩ = .ok (a, ⟨rest, pad⟩)

/-- As the whole of an unpadded buffer, `bytes` read as `a`. -/
def ReadsAll (reader : Reader ε α) (bytes : Bytes) (a : α) : Prop :=
  reader (.of bytes) = .ok (a, .of [])

theorem Reads.all {reader : Reader ε α} {bytes : Bytes} {a : α} (reads : Reads reader bytes a) :
    ReadsAll reader bytes a := by
  simpa [ReadsAll, Cursor.of] using reads [] 0

theorem Reads.pure (a : α) : Reads (pure a : Reader ε α) [] a := fun _ _ => rfl

theorem Reads.bind {first : Reader ε α} {next : α → Reader ε β} {front back : Bytes} {a : α} {b : β}
    (head : Reads first front a) (tail : Reads (next a) back b) :
    Reads (first >>= next) (front ++ back) b := by
  intro rest pad
  rw [bind_apply, List.append_assoc, head]
  exact tail rest pad

theorem Reads.bind_all {first : Reader ε α} {next : α → Reader ε β} {front back : Bytes} {a : α}
    {b : β} (head : Reads first front a) (tail : ReadsAll (next a) back b) :
    ReadsAll (first >>= next) (front ++ back) b := by
  unfold ReadsAll Cursor.of
  rw [bind_apply, head]
  exact tail

/-- A step that consumes nothing may stand in front of any reader. -/
theorem Reads.silent {first : Reader ε α} {next : α → Reader ε β} {bytes : Bytes} {a : α} {b : β}
    (head : Reads first [] a) (tail : Reads (next a) bytes b) : Reads (first >>= next) bytes b := by
  simpa using head.bind tail

theorem Reads.silent_all {first : Reader ε α} {next : α → Reader ε β} {bytes : Bytes} {a : α} {b : β}
    (head : Reads first [] a) (tail : ReadsAll (next a) bytes b) :
    ReadsAll (first >>= next) bytes b := by
  simpa using head.bind_all tail

/-- A last step that consumes nothing. -/
theorem Reads.last {first : Reader ε α} {next : α → Reader ε β} {bytes : Bytes} {a : α} {b : β}
    (head : Reads first bytes a) (tail : Reads (next a) [] b) : Reads (first >>= next) bytes b := by
  have whole : Reads (first >>= next) (bytes ++ []) b := head.bind tail
  rwa [List.append_nil] at whole

theorem reads_lift {result : Except ε α} {a : α} (succeeds : result = .ok a) :
    Reads (lift result) [] a := by
  intro rest pad
  simp [lift, succeeds, Except.map]

/-- A check that passes is no obstacle to reading what follows it. -/
theorem Reads.check {result : Except ε α} {next : α → Reader ε β} {bytes : Bytes} {a : α} {b : β}
    (succeeds : result = .ok a) (tail : Reads (next a) bytes b) :
    Reads (lift result >>= next) bytes b :=
  (reads_lift succeeds).silent tail

theorem Reads.check_all {result : Except ε α} {next : α → Reader ε β} {bytes : Bytes} {a : α} {b : β}
    (succeeds : result = .ok a) (tail : ReadsAll (next a) bytes b) :
    ReadsAll (lift result >>= next) bytes b :=
  (reads_lift succeeds).silent_all tail

/-- A last step that only wraps up the value. -/
theorem Reads.wrap {reader : Reader ε α} {bytes : Bytes} {a : α} (f : α → β)
    (reads : Reads reader bytes a) : Reads (reader >>= fun a => Pure.pure (f a)) bytes (f a) :=
  reads.last (Reads.pure (f a))

theorem ReadsAll.wrap_all {reader : Reader ε α} {bytes : Bytes} {a : α} (f : α → β)
    (reads : ReadsAll reader bytes a) :
    ReadsAll (reader >>= fun a => Pure.pure (f a)) bytes (f a) := by
  unfold ReadsAll at reads ⊢
  rw [bind_apply, reads]
  rfl

/-- After the whole buffer, a step that needs no bytes. -/
theorem ReadsAll.then {first : Reader ε α} {next : α → Reader ε β} {bytes : Bytes} {a : α} {b : β}
    (head : ReadsAll first bytes a) (tail : Reads (next a) [] b) :
    ReadsAll (first >>= next) bytes b := by
  unfold ReadsAll at head ⊢
  rw [bind_apply, head]
  exact tail [] 0

theorem ReadsAll.remaining {next : Nat → Reader ε β} {bytes : Bytes} {b : β}
    (tail : ReadsAll (next bytes.length) bytes b) :
    ReadsAll (remaining >>= next) bytes b := tail

theorem Reads.measured {reader : Reader ε α} {bytes : Bytes} {a : α} (reads : Reads reader bytes a) :
    Reads (measured reader) bytes (a, bytes.length) := by
  intro rest pad
  simp [ByteCursor.measured, reads rest pad, Except.map, Cursor.remaining]
  omega

theorem Reads.consumed {reader : Reader ε α} {bytes : Bytes} {a : α} (reads : Reads reader bytes a) :
    Reads (consumed reader) bytes (a, bytes) := by
  intro rest pad
  simp [ByteCursor.consumed, reads rest pad, Except.map]

theorem Reads.mapError {f : ε → ε'} {reader : Reader ε α} {bytes : Bytes} {a : α}
    (reads : Reads reader bytes a) : Reads (mapError f reader) bytes a := by
  intro rest pad
  simp [ByteCursor.mapError, reads rest pad, Except.mapError]

theorem Reads.map {reader : Reader ε α} {bytes : Bytes} {a : α} (f : α → β)
    (reads : Reads reader bytes a) : Reads (f <$> reader) bytes (f a) := by
  rw [map_eq_bind]
  exact reads.wrap f

theorem Reads.map_all {reader : Reader ε α} {bytes : Bytes} {a : α} (f : α → β)
    (reads : ReadsAll reader bytes a) : ReadsAll (f <$> reader) bytes (f a) := by
  rw [map_eq_bind]
  exact reads.wrap_all f

theorem reads_takeByte (short : ε) (byte : UInt8) : Reads (takeByte short) [byte] byte :=
  fun _ _ => rfl

theorem reads_takeBytes (short : ε) (bytes : Bytes) :
    Reads (takeBytes short bytes.length) bytes bytes := by
  intro rest pad
  simp [takeBytes, Cursor.remaining]
  omega

theorem reads_skipBytes (short : ε) (bytes : Bytes) :
    Reads (skipBytes short bytes.length) bytes () := by
  intro rest pad
  simp [skipBytes, Cursor.remaining]
  omega

/-- Whether the whole of `bytes`, and nothing less, is a value of `reader`'s. -/
def consumesAll (reader : Reader ε α) (bytes : Bytes) : Bool :=
  match reader (.of bytes) with
  | .ok (_, rest) => rest.remaining == 0
  | .error _ => false

theorem consumesAll_iff {reader : Reader ε α} {bytes : Bytes} :
    consumesAll reader bytes = true ↔ ∃ a, ReadsAll reader bytes a := by
  unfold consumesAll ReadsAll
  cases outcome : reader (.of bytes) with
  | error e => simp
  | ok pair =>
    obtain ⟨a, ⟨real, pad⟩⟩ := pair
    simp [Cursor.remaining, Cursor.of]

/-- Read the whole of `bytes`, refusing any left over as `trailing`. -/
def wholly (trailing : ε) (reader : Reader ε α) (bytes : Bytes) : Except ε α :=
  match reader (.of bytes) with
  | .ok (a, rest) => if rest.remaining != 0 then .error trailing else .ok a
  | .error e => .error e

theorem wholly_ok {trailing : ε} {reader : Reader ε α} {bytes : Bytes} {a : α} :
    wholly trailing reader bytes = .ok a ↔ ReadsAll reader bytes a := by
  unfold wholly ReadsAll
  cases outcome : reader (.of bytes) with
  | error e => simp
  | ok pair =>
    obtain ⟨b, ⟨real, pad⟩⟩ := pair
    by_cases empty : (⟨real, pad⟩ : Cursor).remaining = 0 <;>
      simp [empty] <;> simp [Cursor.remaining, Cursor.of] at empty ⊢
    · simp [empty]
    · exact fun _ nil => by simpa using empty nil

/-! ## What a reader's success says -/

/-- On plain bytes, success consumes a prefix `used` of which `P` holds. -/
def Parses (reader : Reader ε α) (P : α → Bytes → Prop) : Prop :=
  ∀ real a rest, reader (.of real) = .ok (a, rest) →
    ∃ used, real = used ++ rest.real ∧ rest.pad = 0 ∧ P a used

/-- What a reader accepts it reads off the bytes it consumed, whatever follows them. -/
def Local (reader : Reader ε α) : Prop := Parses reader fun a used => Reads reader used a

/-- A reader of plain bytes leaves plain bytes. -/
theorem Parses.plain {reader : Reader ε α} {P : α → Bytes → Prop} (parses : Parses reader P)
    {real : Bytes} {a : α} {rest : Cursor} (ran : reader (.of real) = .ok (a, rest)) :
    ∃ left, rest = .of left := by
  obtain ⟨-, -, plain, -⟩ := parses _ _ _ ran
  obtain ⟨left, pad⟩ := rest
  cases plain
  exact ⟨left, rfl⟩

theorem Parses.imp {reader : Reader ε α} {P Q : α → Bytes → Prop} (parses : Parses reader P)
    (weaker : ∀ a used, P a used → Q a used) : Parses reader Q := by
  intro real a rest ran
  obtain ⟨used, split, plain, holds⟩ := parses real a rest ran
  exact ⟨used, split, plain, weaker a used holds⟩

theorem Parses.and {reader : Reader ε α} {P Q : α → Bytes → Prop} (left : Parses reader P)
    (right : Parses reader Q) : Parses reader fun a used => P a used ∧ Q a used := by
  intro real a rest ran
  obtain ⟨used, split, plain, holds⟩ := left real a rest ran
  obtain ⟨other, otherSplit, _, also⟩ := right real a rest ran
  have same : other = used := List.append_cancel_right (otherSplit.symm.trans split)
  subst same
  exact ⟨other, split, plain, holds, also⟩

theorem Parses.pure (a : α) : Parses (pure a : Reader ε α) fun b used => b = a ∧ used = [] := by
  intro real b rest ran
  cases ran
  exact ⟨[], rfl, rfl, rfl, rfl⟩

theorem Parses.bind {first : Reader ε α} {next : α → Reader ε β} {P : α → Bytes → Prop}
    {Q : α → β → Bytes → Prop} (head : Parses first P) (tail : ∀ a, Parses (next a) (Q a)) :
    Parses (first >>= next) fun b used =>
      ∃ a front back, used = front ++ back ∧ P a front ∧ Q a b back := by
  intro real b rest ran
  obtain ⟨a, middle, firstRan, nextRan⟩ := bind_success ran
  obtain ⟨front, split, plain, holds⟩ := head real a middle firstRan
  have middleEq : middle = .of middle.real := by
    cases middle; cases plain; rfl
  rw [middleEq] at nextRan
  obtain ⟨back, splitBack, plainBack, also⟩ := tail a middle.real b rest nextRan
  exact ⟨front ++ back, by rw [split, splitBack, List.append_assoc], plainBack,
    a, front, back, rfl, holds, also⟩

/-- The sequencing rule in continuation form: each later step may use what the
earlier ones established. -/
theorem Parses.seq {first : Reader ε α} {next : α → Reader ε β} {P : α → Bytes → Prop}
    {Q : β → Bytes → Prop} (head : Parses first P)
    (tail : ∀ a front, P a front → Parses (next a) fun b back => Q b (front ++ back)) :
    Parses (first >>= next) Q := by
  intro real b rest ran
  obtain ⟨a, middle, firstRan, nextRan⟩ := bind_success ran
  obtain ⟨front, split, plain, holds⟩ := head real a middle firstRan
  have middleEq : middle = .of middle.real := by
    cases middle; cases plain; rfl
  rw [middleEq] at nextRan
  obtain ⟨back, splitBack, plainBack, also⟩ := tail a front holds middle.real b rest nextRan
  exact ⟨front ++ back, by rw [split, splitBack, List.append_assoc], plainBack, also⟩

theorem Parses.ret {a : α} {P : α → Bytes → Prop} (holds : P a []) :
    Parses (Pure.pure a : Reader ε α) P := by
  intro real b rest ran
  cases ran
  exact ⟨[], rfl, rfl, holds⟩

theorem Parses.check {result : Except ε α} {next : α → Reader ε β} {P : β → Bytes → Prop}
    (tail : ∀ a, result = .ok a → Parses (next a) P) : Parses (lift result >>= next) P := by
  intro real b rest ran
  obtain ⟨a, middle, checked, nextRan⟩ := bind_success ran
  obtain ⟨succeeds, same⟩ := lift_success checked
  subst same
  exact tail a succeeds real b rest nextRan

theorem Parses.remaining {next : Nat → Reader ε β} {P : β → Bytes → Prop}
    (tail : ∀ left, Parses (next left) P) : Parses (remaining >>= next) P :=
  fun real b rest ran => tail real.length real b rest ran

theorem parses_lift (result : Except ε α) :
    Parses (lift result) fun a used => result = .ok a ∧ used = [] := by
  intro real a rest ran
  obtain ⟨succeeds, same⟩ := lift_success ran
  subst same
  exact ⟨[], rfl, rfl, succeeds, rfl⟩

theorem parses_fail (error : ε) (P : α → Bytes → Prop) : Parses (fail error : Reader ε α) P := by
  intro real a rest ran
  cases ran

theorem Parses.mapError {f : ε → ε'} {reader : Reader ε α} {P : α → Bytes → Prop}
    (parses : Parses reader P) : Parses (mapError f reader) P :=
  fun real a rest ran => parses real a rest (mapError_success ran)

theorem Parses.measured {reader : Reader ε α} {P : α → Bytes → Prop} (parses : Parses reader P) :
    Parses (measured reader) fun read used => P read.1 used ∧ read.2 = used.length := by
  rintro real ⟨a, len⟩ rest ran
  obtain ⟨read, rfl⟩ := measured_success ran
  obtain ⟨used, split, plain, holds⟩ := parses real a rest read
  refine ⟨used, split, plain, holds, ?_⟩
  simp [Cursor.of, Cursor.remaining, split, plain]

theorem Parses.consumed {reader : Reader ε α} {P : α → Bytes → Prop} (parses : Parses reader P) :
    Parses (consumed reader) fun read used => P read.1 used ∧ read.2 = used := by
  rintro real ⟨a, bytes⟩ rest ran
  obtain ⟨read, rfl⟩ := consumed_success ran
  obtain ⟨used, split, plain, holds⟩ := parses real a rest read
  refine ⟨used, split, plain, holds, ?_⟩
  simp [Cursor.of, split]

theorem parses_takeByte (short : ε) : Parses (takeByte short) fun byte used => used = [byte] := by
  intro real byte rest ran
  cases real with
  | nil => simp [takeByte, Cursor.of] at ran
  | cons head tail =>
    simp only [takeByte, Cursor.of, Except.ok.injEq, Prod.mk.injEq] at ran
    obtain ⟨rfl, rfl⟩ := ran
    exact ⟨[head], rfl, rfl, rfl⟩

theorem takeBytes_of (short : ε) (count : Nat) (bytes : Bytes) :
    takeBytes short count (.of bytes) =
      if bytes.length < count then .error short else .ok (bytes.take count, .of (bytes.drop count)) := by
  have length : (Cursor.of bytes).remaining = bytes.length := rfl
  unfold takeBytes
  by_cases few : bytes.length < count
  · rw [if_pos few, if_pos (by rwa [length])]
  · have enough : count - bytes.length = 0 := by omega
    rw [if_neg few, if_neg (by rwa [length])]
    simp [Cursor.of, enough]

theorem parses_takeBytes (short : ε) (count : Nat) :
    Parses (takeBytes short count) fun bytes used => bytes = used ∧ used.length = count := by
  intro real bytes rest ran
  unfold takeBytes Cursor.of Cursor.remaining at ran
  split at ran
  · cases ran
  · rename_i enough
    simp only [Nat.add_zero, Nat.not_lt] at enough
    simp only [Except.ok.injEq, Prod.mk.injEq] at ran
    obtain ⟨rfl, rfl⟩ := ran
    refine ⟨real.take count, (List.take_append_drop count real).symm, by simp, ?_, ?_⟩
    · simp [Nat.sub_eq_zero_of_le enough]
    · simp [enough]

theorem parses_skipBytes (short : ε) (count : Nat) :
    Parses (skipBytes short count) fun _ used => used.length = count := by
  intro real _ rest ran
  unfold skipBytes Cursor.of Cursor.remaining at ran
  split at ran
  · cases ran
  · rename_i enough
    simp only [Nat.add_zero, Nat.not_lt] at enough
    cases ran
    exact ⟨real.take count, (List.take_append_drop count real).symm, by simp, by simp [enough]⟩

theorem Local.bind {first : Reader ε α} {next : α → Reader ε β} (head : Local first)
    (tail : ∀ a, Local (next a)) : Local (first >>= next) := by
  refine (Parses.bind head tail).imp ?_
  rintro b used ⟨a, front, back, rfl, reads, readsNext⟩
  exact reads.bind readsNext

theorem Local.pure (a : α) : Local (pure a : Reader ε α) := by
  refine (Parses.pure a).imp ?_
  rintro b used ⟨rfl, rfl⟩
  exact Reads.pure b

theorem local_lift (result : Except ε α) : Local (lift result) := by
  refine (parses_lift result).imp ?_
  rintro a used ⟨succeeds, rfl⟩
  exact reads_lift succeeds

theorem local_fail (error : ε) : Local (fail error : Reader ε α) := parses_fail error _

theorem Local.mapError {f : ε → ε'} {reader : Reader ε α} (reads : Local reader) :
    Local (mapError f reader) := by
  refine (Parses.mapError (f := f) reads).imp ?_
  intro a used ran
  exact ran.mapError

theorem Local.map {reader : Reader ε α} (f : α → β) (reads : Local reader) :
    Local (f <$> reader) := by
  rw [map_eq_bind]
  exact reads.bind fun a => Local.pure (f a)

theorem local_takeByte (short : ε) : Local (takeByte short) := by
  refine (parses_takeByte short).imp ?_
  rintro byte used rfl
  exact reads_takeByte short byte

theorem local_takeBytes (short : ε) (count : Nat) : Local (takeBytes short count) := by
  refine (parses_takeBytes short count).imp ?_
  rintro bytes used ⟨rfl, rfl⟩
  exact reads_takeBytes short _

/-- A local reader that ate a whole buffer reads the same value off it anywhere. -/
theorem Local.reads_of_all {reader : Reader ε α} {bytes : Bytes} {a : α} (isLocal : Local reader)
    (all : ReadsAll reader bytes a) : Reads reader bytes a := by
  obtain ⟨used, split, _, reads⟩ := isLocal bytes a (.of []) all
  have same : used = bytes := by simpa [Cursor.of] using split.symm
  exact same ▸ reads

/-! ## Readers with a canonical writing -/

/-- What `reader` accepts it reads off the bytes it took, and equally off `write`'s,
which are no more. -/
def Canonical (reader : Reader ε α) (write : α → Bytes) : Prop :=
  Parses reader fun a used =>
    Reads reader used a ∧ Reads reader (write a) a ∧ (write a).length ≤ used.length

/-- A whole value rewritten canonically; bytes that are no value stay as they are. -/
def canonicalForm (reader : Reader ε α) (write : α → Bytes) (bytes : Bytes) : Bytes :=
  match reader (.of bytes) with
  | .ok (a, rest) => if rest.remaining = 0 then write a else bytes
  | .error _ => bytes

variable {reader : Reader ε α} {write : α → Bytes} {bytes : Bytes} {a : α}

theorem Canonical.isLocal (canonical : Canonical reader write) : Local reader :=
  canonical.imp fun _ _ holds => holds.1

/-- On a whole value the rule holds of all the bytes. -/
theorem Canonical.whole (canonical : Canonical reader write) (all : ReadsAll reader bytes a) :
    Reads reader bytes a ∧ Reads reader (write a) a ∧ (write a).length ≤ bytes.length := by
  obtain ⟨used, split, _, holds⟩ := canonical bytes a (.of []) all
  have same : used = bytes := by simpa [Cursor.of] using split.symm
  exact same ▸ holds

theorem canonicalForm_eq (all : ReadsAll reader bytes a) :
    canonicalForm reader write bytes = write a := by
  unfold canonicalForm
  rw [all]
  rfl

/-- Rewriting neither makes nor unmakes a whole value, nor changes which. -/
theorem Canonical.form_reads (canonical : Canonical reader write) :
    ReadsAll reader (canonicalForm reader write bytes) a ↔ ReadsAll reader bytes a := by
  by_cases some : ∃ b, ReadsAll reader bytes b
  · obtain ⟨b, all⟩ := some
    have rewritten := (canonical.whole all).2.1.all
    rw [canonicalForm_eq all]
    unfold ReadsAll at rewritten all ⊢
    rw [rewritten, all]
  · have same : canonicalForm reader write bytes = bytes := by
      unfold canonicalForm
      split
      · rename_i b rest outcome
        split
        · rename_i empty
          refine absurd ⟨b, ?_⟩ some
          obtain ⟨real, pad⟩ := rest
          simp only [Cursor.remaining, Nat.add_eq_zero_iff, List.length_eq_zero_iff] at empty
          obtain ⟨rfl, rfl⟩ := empty
          exact outcome
        · rfl
      · rfl
    rw [same]

/-! ## Short buffers -/

/-- Bytes of which `raw` comes first hold it whole or are a proper prefix of it. -/
theorem whole_or_short {buf unfed raw rest : Bytes} (bytes : buf ++ unfed = raw ++ rest) :
    (∃ more, buf = raw ++ more ∧ more ++ unfed = rest) ∨
      ∃ part, raw = buf ++ part ∧ part ≠ [] ∧ unfed = part ++ rest := by
  rcases List.append_eq_append_iff.mp bytes with ⟨part, whole, later⟩ | ⟨more, whole, later⟩
  · by_cases nothing : part = []
    · subst nothing
      exact .inl ⟨[], by simp [whole], by simpa using later⟩
    · exact .inr ⟨part, whole, nothing, later⟩
  · exact .inl ⟨more, whole, later.symm⟩

/-- On every proper prefix of `bytes` the reader fails, and its error says that more
bytes are needed. -/
def Starves (incomplete : ε → Prop) (reader : Reader ε α) (bytes : Bytes) : Prop :=
  ∀ front back, bytes = front ++ back → back ≠ [] →
    ∃ e, reader (.of front) = .error e ∧ incomplete e

/-- `bytes` read as `a` whatever follows them, and no fewer of them read at all. -/
structure Spells (incomplete : ε → Prop) (reader : Reader ε α) (bytes : Bytes) (a : α) : Prop where
  reads : Reads reader bytes a
  starves : Starves incomplete reader bytes

/-- What a reader accepts is spelled by the bytes it took. -/
def Exact (incomplete : ε → Prop) (reader : Reader ε α) : Prop :=
  Parses reader fun a used => Spells incomplete reader used a

section Short
variable {incomplete : ε → Prop} {first : Reader ε α} {next : α → Reader ε β} {a : α} {b : β}
  {bytes front back : Bytes}

theorem starves_nil (reader : Reader ε α) : Starves incomplete reader [] := by
  intro front back split more
  exact absurd (List.append_eq_nil_iff.mp split.symm).2 more

theorem Spells.bind (head : Spells incomplete first front a) (tail : Spells incomplete (next a) back b) :
    Spells incomplete (first >>= next) (front ++ back) b := by
  refine ⟨head.reads.bind tail.reads, ?_⟩
  intro got missing split more
  rw [bind_apply]
  rcases List.append_eq_append_iff.mp split with ⟨part, rfl, rest⟩ | ⟨part, rest, -⟩
  · -- the cut is behind `front`
    have whole : first (.of (front ++ part)) = .ok (a, .of part) := head.reads part 0
    obtain ⟨e, failed, waits⟩ := tail.starves part missing rest more
    exact ⟨e, by rw [whole]; exact failed, waits⟩
  · by_cases none : part = []
    · subst none
      rw [List.append_nil] at rest
      subst rest
      have whole : first (.of front) = .ok (a, .of []) := head.reads.all
      by_cases nothing : back = []
      · simp_all
      · obtain ⟨e, failed, waits⟩ := tail.starves [] back rfl nothing
        exact ⟨e, by rw [whole]; exact failed, waits⟩
    · obtain ⟨e, failed, waits⟩ := head.starves got part rest none
      exact ⟨e, by rw [failed], waits⟩

theorem Spells.pure (a : α) : Spells incomplete (pure a : Reader ε α) [] a :=
  ⟨Reads.pure a, starves_nil _⟩

theorem spells_lift {result : Except ε α} (succeeds : result = .ok a) :
    Spells incomplete (lift result) [] a :=
  ⟨reads_lift succeeds, starves_nil _⟩

/-- A last step that consumes nothing. -/
theorem Spells.last (head : Spells incomplete first bytes a) (tail : Reads (next a) [] b) :
    Spells incomplete (first >>= next) bytes b := by
  have whole : Spells incomplete (first >>= next) (bytes ++ []) b := head.bind ⟨tail, starves_nil _⟩
  rwa [List.append_nil] at whole

/-- A check that passes is no obstacle to reading what follows it. -/
theorem Spells.check {result : Except ε α} (succeeds : result = .ok a)
    (tail : Spells incomplete (next a) bytes b) : Spells incomplete (lift result >>= next) bytes b := by
  have whole : Spells incomplete (lift result >>= next) ([] ++ bytes) b :=
    (spells_lift succeeds).bind tail
  rwa [List.nil_append] at whole

theorem Spells.wrap (f : α → β) (spells : Spells incomplete first bytes a) :
    Spells incomplete (first >>= fun a => Pure.pure (f a)) bytes (f a) :=
  spells.last (Reads.pure (f a))

theorem Spells.map (f : α → β) (spells : Spells incomplete first bytes a) :
    Spells incomplete (f <$> first) bytes (f a) := by
  rw [map_eq_bind]
  exact spells.wrap f

theorem Spells.measured (spells : Spells incomplete first bytes a) :
    Spells incomplete (measured first) bytes (a, bytes.length) := by
  refine ⟨spells.reads.measured, ?_⟩
  intro got missing split more
  obtain ⟨e, failed, waits⟩ := spells.starves got missing split more
  exact ⟨e, by simp [ByteCursor.measured, failed, Except.map], waits⟩

theorem Spells.mapError {f : ε' → ε} {incomplete' : ε' → Prop} {reader : Reader ε' α}
    (waits : ∀ e, incomplete' e → incomplete (f e)) (spells : Spells incomplete' reader bytes a) :
    Spells incomplete (mapError f reader) bytes a := by
  refine ⟨spells.reads.mapError, ?_⟩
  intro got missing split more
  obtain ⟨e, failed, short⟩ := spells.starves got missing split more
  exact ⟨f e, by simp [ByteCursor.mapError, failed, Except.mapError], waits e short⟩

theorem spells_takeByte {short : ε} (waits : incomplete short) (byte : UInt8) :
    Spells incomplete (takeByte short) [byte] byte := by
  refine ⟨reads_takeByte short byte, ?_⟩
  intro got missing split more
  cases got with
  | nil => exact ⟨short, rfl, waits⟩
  | cons head tail => simp_all

theorem proper_prefix_short (split : bytes = front ++ back) (more : back ≠ []) :
    (Cursor.of front).remaining < bytes.length := by
  have positive := List.length_pos_of_ne_nil more
  simp only [split, Cursor.of, Cursor.remaining, List.length_append]
  omega

theorem spells_takeBytes {short : ε} (waits : incomplete short) (bytes : Bytes) :
    Spells incomplete (takeBytes short bytes.length) bytes bytes := by
  refine ⟨reads_takeBytes short bytes, ?_⟩
  intro got missing split more
  exact ⟨short, if_pos (proper_prefix_short split more), waits⟩

theorem spells_skipBytes {short : ε} (waits : incomplete short) (bytes : Bytes) :
    Spells incomplete (skipBytes short bytes.length) bytes () := by
  refine ⟨reads_skipBytes short bytes, ?_⟩
  intro got missing split more
  exact ⟨short, if_pos (proper_prefix_short split more), waits⟩

theorem Exact.bind (head : Exact incomplete first) (tail : ∀ a, Exact incomplete (next a)) :
    Exact incomplete (first >>= next) := by
  refine (Parses.bind head tail).imp ?_
  rintro b used ⟨a, front, back, rfl, spells, spellsNext⟩
  exact spells.bind spellsNext

theorem Exact.pure (a : α) : Exact incomplete (pure a : Reader ε α) := by
  refine (Parses.pure a).imp ?_
  rintro b used ⟨rfl, rfl⟩
  exact Spells.pure b

theorem exact_lift (result : Except ε α) : Exact incomplete (lift result) := by
  refine (parses_lift result).imp ?_
  rintro a used ⟨succeeds, rfl⟩
  exact spells_lift succeeds

theorem Exact.mapError {f : ε' → ε} {incomplete' : ε' → Prop} {reader : Reader ε' α}
    (waits : ∀ e, incomplete' e → incomplete (f e)) (exact' : Exact incomplete' reader) :
    Exact incomplete (mapError f reader) :=
  (Parses.mapError exact').imp fun _ _ spells => spells.mapError waits

theorem Exact.map (f : α → β) (exact' : Exact incomplete first) : Exact incomplete (f <$> first) := by
  rw [map_eq_bind]
  exact exact'.bind fun a => Exact.pure (f a)

theorem exact_takeByte {short : ε} (waits : incomplete short) : Exact incomplete (takeByte short) := by
  refine (parses_takeByte short).imp ?_
  rintro byte used rfl
  exact spells_takeByte waits byte

/-- What ate a whole buffer is spelled by it. -/
theorem Exact.spells (exact' : Exact incomplete first) (all : ReadsAll first bytes a) :
    Spells incomplete first bytes a := by
  obtain ⟨used, split, _, spells⟩ := exact' bytes a (.of []) all
  have same : used = bytes := by simpa [Cursor.of] using split.symm
  exact same ▸ spells

end Short

/-! ## Reading ahead of the bytes -/

/-- Padding never passes for bytes: a success either ran out of bytes and into the
padding, or is the success of the bytes alone. -/
def Honest (reader : Reader ε α) : Prop :=
  ∀ real pad a rest, reader ⟨real, pad⟩ = .ok (a, rest) →
    (rest.real = [] ∧ rest.pad < pad) ∨
      (rest.pad = pad ∧ reader (.of real) = .ok (a, .of rest.real) ∧ ∃ used, real = used ++ rest.real)

theorem Honest.pure (a : α) : Honest (pure a : Reader ε α) := by
  rintro real pad b rest ran
  cases ran
  exact .inr ⟨rfl, rfl, [], rfl⟩

theorem honest_lift (result : Except ε α) : Honest (lift result) := by
  rintro real pad a rest ran
  obtain ⟨succeeds, rfl⟩ := lift_success ran
  exact .inr ⟨rfl, by simp [lift, succeeds, Except.map, Cursor.of], [], rfl⟩

theorem Honest.bind {first : Reader ε α} {next : α → Reader ε β} (head : Honest first)
    (tail : ∀ a, Honest (next a)) : Honest (first >>= next) := by
  rintro real pad b rest ran
  obtain ⟨a, ⟨left, padLeft⟩, firstRan, nextRan⟩ := bind_success ran
  rcases head _ _ _ _ firstRan with ⟨rfl, ate⟩ | ⟨rfl, alone, used, rfl⟩
  · -- the padding was touched, and what follows can only touch more of it
    simp only at ate nextRan
    rcases tail a _ _ _ _ nextRan with ⟨empty, more⟩ | ⟨same, -, gone, nothing⟩
    · exact .inl ⟨empty, by omega⟩
    · exact .inl ⟨(List.append_eq_nil_iff.mp nothing.symm).2, by omega⟩
  · rcases tail a _ _ _ _ nextRan with ⟨empty, more⟩ | ⟨same, nextAlone, more, split⟩
    · exact .inl ⟨empty, more⟩
    · simp only at split alone nextAlone
      refine .inr ⟨same, ?_, used ++ more, by rw [List.append_assoc, ← split]⟩
      rw [bind_apply, alone]
      exact nextAlone

theorem Honest.map {reader : Reader ε α} (f : α → β) (honest : Honest reader) :
    Honest (f <$> reader) := by
  rw [map_eq_bind]
  exact honest.bind fun a => Honest.pure (f a)

theorem Honest.mapError {f : ε → ε'} {reader : Reader ε α} (honest : Honest reader) :
    Honest (mapError f reader) := by
  intro real pad a rest ran
  rcases honest _ _ _ _ (mapError_success ran) with ate | ⟨same, alone, split⟩
  · exact .inl ate
  · exact .inr ⟨same, by simp [ByteCursor.mapError, alone, Except.mapError], split⟩

theorem honest_fail (error : ε) : Honest (fail error : Reader ε α) := by
  intro real pad a rest ran
  cases ran

theorem honest_takeByte (short : ε) : Honest (takeByte short) := by
  intro real pad byte rest ran
  cases real with
  | nil =>
    simp only [takeByte] at ran
    split at ran
    · rename_i padded
      cases ran
      exact .inl ⟨rfl, Nat.sub_lt padded Nat.one_pos⟩
    · cases ran
  | cons head tail =>
    cases ran
    exact .inr ⟨rfl, rfl, [byte], rfl⟩

theorem honest_skipBytes (short : ε) (count : Nat) : Honest (skipBytes short count) := by
  intro real pad _ rest ran
  unfold skipBytes at ran
  split at ran
  · cases ran
  · rename_i fed
    have total : ¬ real.length + pad < count := fed
    cases ran
    by_cases enough : count ≤ real.length
    · refine .inr ⟨by simp only; omega, ?_, real.take count, (List.take_append_drop count real).symm⟩
      simp [skipBytes, Cursor.of, Cursor.remaining, Nat.not_lt.mpr enough,
        Nat.sub_eq_zero_of_le enough]
    · refine .inl ⟨List.drop_eq_nil_of_le (Nat.le_of_not_le enough), ?_⟩
      simp only
      omega

/-! ## A header and the payload it announces -/

/-- A header and, stepped over, the payload it announces. -/
def framed (short : ε) (reader : Reader ε α) (payloadLength : α → Nat) : Reader ε α := do
  let header ← reader
  skipBytes short (payloadLength header)
  return header

theorem framed_success {short : ε} {reader : Reader ε α} {payloadLength : α → Nat}
    {cursor rest : Cursor} {header : α}
    (ran : framed short reader payloadLength cursor = .ok (header, rest)) :
    ∃ middle, reader cursor = .ok (header, middle) ∧ payloadLength header ≤ middle.remaining ∧
      rest.remaining + payloadLength header = middle.remaining := by
  obtain ⟨read, middle, header, ran⟩ := bind_success ran
  obtain ⟨_, after, skipped, ran⟩ := bind_success ran
  cases ran
  refine ⟨middle, header, ?_⟩
  unfold skipBytes at skipped
  split at skipped
  · cases skipped
  · cases skipped
    simp only [Cursor.remaining, List.length_drop] at *
    omega

section Framed
variable {short : ε} {reader : Reader ε α} {payloadLength : α → Nat} {incomplete : ε → Prop}
  {framing payload front back : Bytes} {header : α}

theorem Spells.framed (waits : incomplete short) (spells : Spells incomplete reader framing header)
    (length : payloadLength header = payload.length) :
    Spells incomplete (framed short reader payloadLength) (framing ++ payload) header := by
  refine spells.bind ?_
  rw [length]
  exact (spells_skipBytes waits payload).wrap fun _ => header

/-- Measured before all of it has arrived, a value whose framing has arrived is the value
it will be, at its full length. -/
theorem measured_framed (spells : Spells incomplete reader framing header)
    (length : payloadLength header = payload.length) {pad : Nat}
    (reach : payload.length ≤ front.length + pad) (whole : framing ++ front ++ back = framing ++ payload) :
    ∃ rest, measured (ByteCursor.framed short reader payloadLength) ⟨framing ++ front, pad⟩ =
      .ok ((header, (framing ++ payload).length), rest) := by
  have read := spells.reads front pad
  have enough : ¬ (⟨front, pad⟩ : Cursor).remaining < payload.length := by
    simp only [Cursor.remaining]; omega
  have within : front.length ≤ payload.length := by
    have lengths := congrArg List.length whole
    simp only [List.length_append] at lengths
    omega
  have ran : ByteCursor.framed short reader payloadLength ⟨framing ++ front, pad⟩ =
      .ok (header, ⟨front.drop payload.length, pad - (payload.length - front.length)⟩) := by
    unfold ByteCursor.framed
    rw [bind_apply, read]
    simp only [length]
    rw [bind_apply]
    simp only [skipBytes, if_neg enough]
    rfl
  refine ⟨⟨front.drop payload.length, pad - (payload.length - front.length)⟩, ?_⟩
  simp only [measured, ran, Except.map, Except.ok.injEq, Prod.mk.injEq, true_and, and_true]
  simp only [Cursor.remaining, List.length_append, List.length_drop]
  omega

/-- What is measured against padding either counts padding as framing, or is the value the
bytes belong to. -/
theorem measured_framed_success (honest : Honest reader)
    (spells : Spells incomplete reader framing header)
    (length : payloadLength header = payload.length) (cut : framing ++ payload = front ++ back)
    {pad wireLen : Nat} {found : α} {rest : Cursor}
    (ran : measured (ByteCursor.framed short reader payloadLength) ⟨front, pad⟩ =
      .ok ((found, wireLen), rest)) :
    front.length < wireLen - payloadLength found ∨
      (∃ part, front = framing ++ part) ∧ found = header ∧ wireLen = (framing ++ payload).length ∧
        (framing ++ payload).length ≤ front.length + pad := by
  obtain ⟨framedRan, rfl⟩ := measured_success ran
  obtain ⟨⟨left, padLeft⟩, read, enough, balance⟩ := framed_success framedRan
  rcases honest _ _ _ _ read with ⟨rfl, ate⟩ | ⟨rfl, alone, used, rfl⟩
  · left
    simp only [Cursor.remaining, List.length_nil] at *
    omega
  · rcases List.append_eq_append_iff.mp cut with ⟨part, split, -⟩ | ⟨part, split, -⟩
    · right
      rw [split] at read
      have same := (spells.reads part padLeft).symm.trans read
      cases same
      refine ⟨⟨left, split⟩, rfl, ?_⟩
      have lengths := congrArg List.length cut
      have parts := congrArg List.length split
      simp only [Cursor.remaining, List.length_append] at *
      constructor <;> omega
    · by_cases none : part = []
      · subst none
        right
        rw [List.append_nil] at split
        have same := (spells.reads [] padLeft).symm.trans (by simpa [split] using read)
        cases same
        refine ⟨⟨[], by simp [split]⟩, rfl, ?_⟩
        have lengths := congrArg List.length cut
        have parts := congrArg List.length split
        simp only [Cursor.remaining, List.length_append, List.length_nil] at *
        constructor <;> omega
      · obtain ⟨e, failed, -⟩ := spells.starves _ _ split none
        rw [failed] at alone
        cases alone

end Framed

/-! ## Two readers in step -/

/-- `fast` fails just as `slow` does, and where it does not both stop at one place, with
values in relation `R`. -/
def InStep (slow : Reader ε α) (fast : Reader ε β) (R : α → β → Prop) : Prop :=
  ∀ cursor, match fast cursor with
    | .error e => slow cursor = .error e
    | .ok (b, rest) => ∃ a, slow cursor = .ok (a, rest) ∧ R a b

section InStep
variable {slow : Reader ε α} {fast : Reader ε β} {R : α → β → Prop}

theorem InStep.error (inStep : InStep slow fast R) {cursor : Cursor} {e : ε}
    (failed : fast cursor = .error e) : slow cursor = .error e := by
  have here := inStep cursor
  rwa [failed] at here

theorem InStep.ok (inStep : InStep slow fast R) {cursor rest : Cursor} {b : β}
    (ran : fast cursor = .ok (b, rest)) : ∃ a, slow cursor = .ok (a, rest) ∧ R a b := by
  have here := inStep cursor
  rwa [ran] at here

theorem InStep.refl (reader : Reader ε α) : InStep reader reader Eq := by
  intro cursor
  split
  · assumption
  · exact ⟨_, by assumption, rfl⟩

theorem InStep.pure {a : α} {b : β} (related : R a b) :
    InStep (pure a : Reader ε α) (pure b : Reader ε β) R := fun _ => ⟨a, rfl, related⟩

theorem InStep.bind {S : α' → β' → Prop} {slowNext : α → Reader ε α'} {fastNext : β → Reader ε β'}
    (head : InStep slow fast R) (tail : ∀ a b, R a b → InStep (slowNext a) (fastNext b) S) :
    InStep (slow >>= slowNext) (fast >>= fastNext) S := by
  intro cursor
  rw [bind_apply, bind_apply]
  cases first : fast cursor with
  | error e => rw [head.error first]
  | ok read =>
    obtain ⟨a, ran, related⟩ := head.ok first
    rw [ran]
    exact tail a read.1 related read.2

theorem InStep.imp {S : α → β → Prop} (inStep : InStep slow fast R) (weaker : ∀ a b, R a b → S a b) :
    InStep slow fast S := by
  intro cursor
  have here := inStep cursor
  split at here
  · assumption
  · obtain ⟨a, ran, related⟩ := here
    exact ⟨a, ran, weaker _ _ related⟩

theorem InStep.measured (inStep : InStep slow fast R) :
    InStep slow (measured fast) fun a b => R a b.1 := by
  intro cursor
  unfold ByteCursor.measured
  cases ran : fast cursor with
  | error e => exact inStep.error ran
  | ok read => exact inStep.ok ran

/-- Bytes are read or stepped over. -/
theorem inStep_skipBytes (short : ε) (count : Nat) :
    InStep (takeBytes short count) (skipBytes short count) fun bytes _ => bytes.length = count := by
  intro cursor
  unfold skipBytes takeBytes
  split_ifs with few
  · rfl
  · refine ⟨_, rfl, ?_⟩
    dsimp only
    rw [List.length_append, List.length_take, List.length_replicate]
    omega

end InStep

end Moqtap.ByteCursor
