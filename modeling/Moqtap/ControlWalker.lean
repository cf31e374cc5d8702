import Moqtap.ControlParser

/-!
Where the messages of a forwarded control stream end, `ControlFrameWalker` in
`moqtap-proxy`'s `session.rs`.

The walker counts lengths and decodes nothing: a Message Type is measured by its
first byte and not read.  It stands between two messages exactly where what it
has been shown is whole messages (`walked_boundary`), and `advance` names the
first such place in a chunk (`advance_eq`).
-/

namespace Moqtap.ControlWalker

open ByteCursor Varint CodecTypes ControlParser

def maxControlHeader : ℕ := 16

def maxControlPayload : ℕ := 1024 * 1024

/-- `header` is the part of the buffer that has been filled. -/
structure ControlFrameWalker where
  draft : DraftVersion
  remaining : ℕ
  header : Bytes
  lost : Bool
  deriving DecidableEq, Repr

inductive HeaderStep
  | needMore
  | payload (len : ℕ)
  | lost
  deriving DecidableEq, Repr

/-- `header_step`, of the header collected so far. -/
def headerStep (draft : DraftVersion) (header : Bytes) : HeaderStep :=
  match header with
  | [] => .needMore
  | first :: _ =>
    let typeLen := draft.varintLen first
    if maxControlHeader < typeLen then .lost
    else if header.length < typeLen then .needMore
    else if draft.usesFixedLengthFraming then
      match header[typeLen]?, header[typeLen + 1]? with
      | some hi, some lo => .payload ((hi.toNat <<< 8) ||| lo.toNat)
      | _, _ => .needMore
    else
      match header[typeLen]? with
      | none => .needMore
      | some first =>
        let lenLen := draft.varintLen first
        if maxControlHeader < typeLen + lenLen then .lost
        else if header.length < typeLen + lenLen then .needMore
        else
          match peekVarint draft ((header.drop typeLen).take lenLen) with
          | some len => if len ≤ maxControlPayload then .payload len else .lost
          | none => .lost

namespace ControlFrameWalker

def new (draft : DraftVersion) : ControlFrameWalker :=
  { draft := draft, remaining := 0, header := [], lost := false }

def atBoundary (walker : ControlFrameWalker) : Bool :=
  !walker.lost && walker.remaining == 0 && walker.header.isEmpty

/-- The loop of `advance`, for at most `fuel` turns: `data` is what is left of the
chunk from offset `i` on. -/
def advanceLoop : ℕ → ControlFrameWalker → ℕ → Option ℕ → Bytes → ControlFrameWalker × Option ℕ
  | 0, walker, _, first, _ => (walker, first)
  | _, walker, _, first, [] => (walker, first)
  | fuel + 1, walker, i, first, byte :: rest =>
    if 0 < walker.remaining then
      let take := min walker.remaining (byte :: rest).length
      let left := walker.remaining - take
      advanceLoop fuel { walker with remaining := left } (i + take)
        (if left = 0 then first.or (some (i + take)) else first) ((byte :: rest).drop take)
    else if walker.header.length = maxControlHeader then ({ walker with lost := true }, first)
    else
      let header := walker.header ++ [byte]
      match headerStep walker.draft header with
      | .needMore => advanceLoop fuel { walker with header := header } (i + 1) first rest
      | .lost => ({ walker with header := header, lost := true }, first)
      | .payload len =>
        advanceLoop fuel { walker with header := [], remaining := len } (i + 1)
          (if len = 0 then first.or (some (i + 1)) else first) rest

/-- Every turn takes a byte at least, so the chunk's length is fuel enough. -/
def advance (walker : ControlFrameWalker) (data : Bytes) : ControlFrameWalker × Option ℕ :=
  if walker.lost then (walker, none) else advanceLoop data.length walker 0 none data

end ControlFrameWalker

open ControlFrameWalker

/-! ## One byte at a time -/

/-- What one more byte does to a walker. -/
def observe (walker : ControlFrameWalker) (byte : UInt8) : ControlFrameWalker :=
  if walker.lost then walker
  else if 0 < walker.remaining then { walker with remaining := walker.remaining - 1 }
  else if walker.header.length = maxControlHeader then { walker with lost := true }
  else
    let header := walker.header ++ [byte]
    match headerStep walker.draft header with
    | .needMore => { walker with header := header }
    | .lost => { walker with header := header, lost := true }
    | .payload len => { walker with header := [], remaining := len }

/-- The first place in a chunk behind which the walker stands between messages. -/
def firstBoundary : ControlFrameWalker → Bytes → Option ℕ
  | _, [] => none
  | walker, byte :: rest =>
    if (observe walker byte).atBoundary then some 1
    else (firstBoundary (observe walker byte) rest).map (· + 1)

variable {draft : DraftVersion} {walker : ControlFrameWalker} {data : Bytes}

theorem observe_lost (lost : walker.lost = true) (byte : UInt8) : observe walker byte = walker :=
  if_pos lost

theorem foldl_lost (lost : walker.lost = true) (data : Bytes) : data.foldl observe walker = walker := by
  induction data with
  | nil => rfl
  | cons byte rest ih => rw [List.foldl_cons, observe_lost lost, ih]

theorem firstBoundary_lost (lost : walker.lost = true) (data : Bytes) :
    firstBoundary walker data = none := by
  induction data with
  | nil => rfl
  | cons byte rest ih =>
    have inside : ¬ walker.atBoundary = true := by simp [atBoundary, lost]
    rw [firstBoundary, observe_lost lost, if_neg inside, ih]
    rfl

theorem observe_payload (live : walker.lost = false) (owed : 0 < walker.remaining) (byte : UInt8) :
    observe walker byte = { walker with remaining := walker.remaining - 1 } := by
  rw [observe, live, if_neg Bool.false_ne_true, if_pos owed]

/-- Payload bytes are counted down, and the last of them ends the message. -/
theorem walk_payload (live : walker.lost = false) (bare : walker.header = []) {taken : ℕ}
    (positive : 0 < taken) (owed : taken ≤ walker.remaining) (there : taken ≤ data.length) :
    data.foldl observe walker =
        (data.drop taken).foldl observe { walker with remaining := walker.remaining - taken } ∧
      firstBoundary walker data = if taken = walker.remaining then some taken
        else (firstBoundary { walker with remaining := walker.remaining - taken }
          (data.drop taken)).map (· + taken) := by
  induction taken generalizing walker data with
  | zero => exact absurd positive (Nat.lt_irrefl 0)
  | succ taken ih =>
    obtain ⟨byte, rest, rfl⟩ : ∃ byte rest, data = byte :: rest :=
      List.exists_cons_of_length_pos (Nat.lt_of_lt_of_le (Nat.succ_pos _) there)
    have inside : taken ≤ rest.length := Nat.le_of_succ_le_succ there
    rw [List.foldl_cons, firstBoundary, observe_payload live (by omega), List.drop_succ_cons]
    cases taken with
    | zero =>
      refine ⟨rfl, ?_⟩
      by_cases last : 1 = walker.remaining
      · rw [if_pos last, if_pos (by simp [atBoundary, live, bare, ← last])]
      · rw [if_neg last, if_neg (by simp [atBoundary, live, bare]; omega)]
        rfl
    | succ taken =>
      have within : taken + 1 ≤ walker.remaining - 1 := by omega
      obtain ⟨walked, found⟩ := @ih { walker with remaining := walker.remaining - 1 } rest live bare
        (Nat.succ_pos taken) within inside
      dsimp only at walked found
      have left : walker.remaining - 1 - (taken + 1) = walker.remaining - (taken + 1 + 1) := by omega
      rw [left] at walked found
      refine ⟨walked, ?_⟩
      rw [if_neg (by simp [atBoundary, live, bare]; omega), found]
      by_cases last : taken + 1 + 1 = walker.remaining
      · rw [if_pos (by omega), if_pos last]
        rfl
      · rw [if_neg (by omega), if_neg last, Option.map_map]
        congr 1

/-- **`advance` is a byte at a time**, and answers the first place between messages. -/
theorem advanceLoop_eq {fuel i : ℕ} {first : Option ℕ} (enough : data.length ≤ fuel)
    (live : walker.lost = false) (bare : 0 < walker.remaining → walker.header = []) :
    advanceLoop fuel walker i first data =
      (data.foldl observe walker, first.or ((firstBoundary walker data).map (i + ·))) := by
  induction fuel generalizing walker data i first with
  | zero =>
    obtain rfl := List.length_eq_zero_iff.mp (Nat.le_zero.mp enough)
    exact congrArg (Prod.mk _) (Option.or_none).symm
  | succ fuel ih =>
    cases data with
    | nil => exact congrArg (Prod.mk _) (Option.or_none).symm
    | cons byte rest =>
      have fits : rest.length ≤ fuel := Nat.le_of_succ_le_succ enough
      rw [advanceLoop]
      by_cases owed : 0 < walker.remaining
      · rw [if_pos owed]
        dsimp only
        have positive : 0 < min walker.remaining (byte :: rest).length :=
          Nat.lt_min.mpr ⟨owed, Nat.succ_pos _⟩
        obtain ⟨walked, found⟩ := walk_payload live (bare owed) positive (Nat.min_le_left ..)
          (Nat.min_le_right ..)
        have shorter : ((byte :: rest).drop (min walker.remaining (byte :: rest).length)).length ≤ fuel := by
          rw [List.length_drop]
          omega
        rw [walked, found]
        refine (@ih { walker with remaining := walker.remaining - _ } _ _ _ shorter live
          fun _ => bare owed).trans (congrArg (Prod.mk _) ?_)
        by_cases last : min walker.remaining (byte :: rest).length = walker.remaining
        · rw [if_pos last, if_pos (by omega), Option.or_assoc]
          rfl
        · rw [if_neg last, if_neg (by omega), Option.map_map]
          refine congrArg (Option.or first) (congrArg (Option.map · _) (funext fun n => ?_))
          simp only [Function.comp_apply]
          omega
      · rw [if_neg owed, List.foldl_cons, firstBoundary]
        by_cases full : walker.header.length = maxControlHeader
        · have observed : observe walker byte = { walker with lost := true } := by
            rw [observe, live, if_neg Bool.false_ne_true, if_neg owed, if_pos full]
          rw [if_pos full, observed, foldl_lost rfl, firstBoundary_lost rfl, if_neg (by simp [atBoundary])]
          exact congrArg (Prod.mk _) (Option.or_none).symm
        · rw [if_neg full]
          dsimp only
          cases step : headerStep walker.draft (walker.header ++ [byte]) with
          | needMore =>
            have observed : observe walker byte = { walker with header := walker.header ++ [byte] } := by
              rw [observe, live, if_neg Bool.false_ne_true, if_neg owed, if_neg full]
              simp only [step]
            rw [observed, if_neg (by simp [atBoundary]), Option.map_map]
            refine (@ih { walker with header := walker.header ++ [byte] } _ _ _ fits live
              fun positive => absurd positive owed).trans (congrArg (Prod.mk _) (congrArg (Option.or first)
                (congrArg (Option.map · _) (funext fun n => ?_))))
            simp only [Function.comp_apply]
            omega
          | lost =>
            have observed : observe walker byte =
                { walker with header := walker.header ++ [byte], lost := true } := by
              rw [observe, live, if_neg Bool.false_ne_true, if_neg owed, if_neg full]
              simp only [step]
            rw [observed, foldl_lost rfl, firstBoundary_lost rfl, if_neg (by simp [atBoundary])]
            exact congrArg (Prod.mk _) (Option.or_none).symm
          | payload len =>
            have observed : observe walker byte = { walker with header := [], remaining := len } := by
              rw [observe, live, if_neg Bool.false_ne_true, if_neg owed, if_neg full]
              simp only [step]
            rw [observed]
            refine (@ih { walker with header := [], remaining := len } _ _ _ fits live
              fun _ => rfl).trans (congrArg (Prod.mk _) ?_)
            by_cases empty : len = 0
            · rw [if_pos empty, if_pos (by simp [atBoundary, live, empty]), Option.or_assoc]
              rfl
            · rw [if_neg empty, if_neg (by simp [atBoundary, live, empty]), Option.map_map]
              refine congrArg (Option.or first) (congrArg (Option.map · _) (funext fun n => ?_))
              simp only [Function.comp_apply]
              omega

theorem advance_eq (bare : 0 < walker.remaining → walker.header = []) (data : Bytes) :
    walker.advance data = (data.foldl observe walker, firstBoundary walker data) := by
  unfold advance
  cases live : walker.lost with
  | true => rw [if_pos rfl, foldl_lost live, firstBoundary_lost live]
  | false =>
    rw [if_neg Bool.false_ne_true, advanceLoop_eq (Nat.le_refl _) live bare, Option.none_or]
    refine congrArg (Prod.mk _) ?_
    simp

/-! ## Messages -/

/-- A whole field, as long as its first byte says. -/
def Measured (draft : DraftVersion) (field : Bytes) : Prop :=
  ∃ first, field.head? = some first ∧ field.length = draft.varintLen first

/-- A type, a length and a payload of that length. -/
def Message (draft : DraftVersion) (message : Bytes) : Prop :=
  ∃ type length payload, message = type ++ length ++ payload ∧ Measured draft type ∧
    LengthField draft length payload.length ∧ payload.length ≤ maxControlPayload

/-- Messages one behind the other, and nothing else. -/
def Whole (draft : DraftVersion) (bytes : Bytes) : Prop :=
  ∃ messages : List Bytes, (∀ message ∈ messages, Message draft message) ∧ bytes = messages.flatten

theorem whole_nil : Whole draft [] := ⟨[], by simp, rfl⟩

theorem Whole.snoc {bytes message : Bytes} (whole : Whole draft bytes) (next : Message draft message) :
    Whole draft (bytes ++ message) := by
  obtain ⟨messages, all, rfl⟩ := whole
  refine ⟨messages ++ [message], ?_, by simp⟩
  intro m member
  rcases List.mem_append.mp member with old | new
  · exact all m old
  · rw [List.mem_singleton.mp new]
    exact next

theorem Measured.cons {field : Bytes} (measured : Measured draft field) :
    ∃ first tail, field = first :: tail ∧ tail.length + 1 = draft.varintLen first := by
  obtain ⟨first, starts, length⟩ := measured
  cases field with
  | nil => exact nomatch starts
  | cons byte tail =>
    obtain rfl := Option.some.inj starts
    exact ⟨byte, tail, rfl, length⟩

/-- Where the length is a varint, no field is longer than eight bytes. -/
theorem varintLen_le_eight (variable' : draft.usesFixedLengthFraming = false) (first : UInt8) :
    draft.varintLen first ≤ 8 := by
  have small : first.toNat >>> 6 ≤ 3 := by
    rw [Nat.shiftRight_eq_div_pow]
    have := first.toNat_lt
    omega
  have length : draft.varintLen first = 1 <<< (first.toNat >>> 6) := by
    cases draft <;> first | rfl | cases variable'
  rw [length]
  generalize first.toNat >>> 6 = bits at small
  interval_cases bits <;> decide

theorem headerStep_untyped {first : UInt8} {tail : Bytes}
    (short : tail.length + 1 < draft.varintLen first) : headerStep draft (first :: tail) = .needMore := by
  have inside : ¬ maxControlHeader < draft.varintLen first :=
    Nat.not_lt.mpr ((varintLen_le draft first).trans (by decide))
  rw [headerStep, if_neg inside]
  exact if_pos short

/-- What is behind the type decides. -/
def lengthStep (draft : DraftVersion) (rest : Bytes) : HeaderStep :=
  if draft.usesFixedLengthFraming then
    match rest with
    | hi :: lo :: _ => .payload ((hi.toNat <<< 8) ||| lo.toNat)
    | _ => .needMore
  else
    match rest with
    | [] => .needMore
    | first :: _ =>
      if rest.length < draft.varintLen first then .needMore
      else
        match peekVarint draft (rest.take (draft.varintLen first)) with
        | some len => if len ≤ maxControlPayload then .payload len else .lost
        | none => .lost

theorem headerStep_typed {type : Bytes} (typed : Measured draft type) (rest : Bytes) :
    headerStep draft (type ++ rest) = lengthStep draft rest := by
  obtain ⟨first, tail, rfl, measured⟩ := typed.cons
  have inside : ¬ maxControlHeader < draft.varintLen first :=
    Nat.not_lt.mpr ((varintLen_le draft first).trans (by decide))
  have long : ¬ (first :: tail ++ rest).length < draft.varintLen first := by
    rw [List.length_append, List.length_cons]
    omega
  have here (n : ℕ) : (first :: tail ++ rest)[draft.varintLen first + n]? = rest[n]? := by
    rw [List.getElem?_append_right (by simp; omega)]
    congr 1
    simp only [List.length_cons]
    omega
  have behind : (first :: tail ++ rest).drop (draft.varintLen first) = rest := by
    rw [← measured]
    exact List.drop_left' rfl
  rw [List.cons_append, headerStep, ← List.cons_append, if_neg inside, if_neg long, here 1]
  unfold lengthStep
  have first' := here 0
  rw [Nat.add_zero] at first'
  rw [first', behind]
  cases fixed : draft.usesFixedLengthFraming with
  | true =>
    rw [if_pos rfl, if_pos rfl]
    match rest with
    | [] => rfl
    | [_] => rfl
    | _ :: _ :: _ => rfl
  | false =>
    rw [if_neg Bool.false_ne_true, if_neg Bool.false_ne_true]
    cases rest with
    | nil => rfl
    | cons byte more =>
      have fits : ¬ maxControlHeader < draft.varintLen first + draft.varintLen byte := by
        have := varintLen_le_eight fixed first
        have := varintLen_le_eight fixed byte
        unfold maxControlHeader
        omega
      have same : (first :: tail ++ byte :: more).length < draft.varintLen first + draft.varintLen byte ↔
          (byte :: more).length < draft.varintLen byte := by
        rw [List.length_append, List.length_cons]
        omega
      simp only [List.getElem?_cons_zero, if_neg fits, same]

theorem fixed_length_bound (hi lo : UInt8) : (hi.toNat <<< 8) ||| lo.toNat ≤ maxControlPayload := by
  have high : hi.toNat <<< 8 < 2 ^ 16 := by
    rw [Nat.shiftLeft_eq]
    have := hi.toNat_lt
    omega
  have low : lo.toNat < 2 ^ 16 := lo.toNat_lt.trans (by decide)
  exact (Nat.or_lt_two_pow high low).le.trans (by decide)

/-- A whole length field is read, and no part of one. -/
theorem lengthStep_whole {field : Bytes} {len : ℕ} (whole : LengthField draft field len)
    (bounded : len ≤ maxControlPayload) :
    lengthStep draft field = .payload len ∧
      ∀ front, front <+: field → front ≠ field → lengthStep draft front = .needMore := by
  unfold LengthField at whole
  unfold lengthStep
  cases fixed : draft.usesFixedLengthFraming with
  | true =>
    rw [fixed, if_pos rfl] at whole
    obtain ⟨hi, lo, rfl, rfl⟩ := whole
    refine ⟨rfl, ?_⟩
    intro front part proper
    have short := Nat.lt_of_le_of_ne part.length_le fun same => proper (part.eq_of_length same)
    match front with
    | [] => rfl
    | [_] => rfl
    | _ :: _ :: more =>
      simp only [List.length_cons, List.length_nil] at short
      omega
  | false =>
    rw [fixed, if_neg Bool.false_ne_true] at whole
    obtain ⟨first, tail, rfl, measured⟩ := whole.cons
    constructor
    · have there : ¬ (first :: tail).length < draft.varintLen first := by
        rw [List.length_cons]
        omega
      have all : (first :: tail).take (draft.varintLen first) = first :: tail :=
        List.take_of_length_le (by rw [List.length_cons]; omega)
      simp only [Bool.false_eq_true, if_false, if_neg there, all, whole.peeks, if_pos bounded]
    · intro front part proper
      have shorter := Nat.lt_of_le_of_ne part.length_le fun same => proper (part.eq_of_length same)
      rw [List.length_cons, measured] at shorter
      cases front with
      | nil => rfl
      | cons byte more =>
        obtain ⟨rfl, -⟩ := List.cons_prefix_cons.mp part
        simp only [Bool.false_eq_true, if_false, if_pos shorter]

/-- A length that is read where the byte before it read none is a whole length field. -/
theorem lengthStep_payload {front : Bytes} {byte : UInt8} {len : ℕ}
    (step : lengthStep draft (front ++ [byte]) = .payload len)
    (before : lengthStep draft front = .needMore) :
    LengthField draft (front ++ [byte]) len ∧ len ≤ maxControlPayload := by
  unfold lengthStep at step before
  unfold LengthField
  cases fixed : draft.usesFixedLengthFraming with
  | true =>
    rw [fixed, if_pos rfl] at step before
    rw [if_pos rfl]
    match front with
    | [] => cases step
    | [hi] =>
      cases step
      exact ⟨⟨hi, byte, rfl, rfl⟩, fixed_length_bound hi byte⟩
    | _ :: _ :: _ => cases before
  | false =>
    rw [fixed, if_neg Bool.false_ne_true] at step before
    rw [if_neg Bool.false_ne_true]
    obtain ⟨first, tail, field⟩ : ∃ first tail, front ++ [byte] = first :: tail :=
      List.exists_cons_of_ne_nil (by simp)
    rw [field] at step ⊢
    dsimp only at step
    split_ifs at step with short
    have length : (first :: tail).length = draft.varintLen first := by
      refine Nat.le_antisymm ?_ (Nat.le_of_not_lt short)
      cases front with
      | nil =>
        obtain ⟨rfl, rfl⟩ := List.cons.inj field
        exact varintLen_pos draft _
      | cons head more =>
        obtain ⟨rfl, ended⟩ : head = first ∧ more ++ [byte] = tail := List.cons.inj field
        by_contra longer
        have total : tail.length = more.length + 1 := by
          rw [← ended, List.length_append, List.length_singleton]
        rw [List.length_cons] at longer
        have there : ¬ (head :: more).length < draft.varintLen head := by
          rw [List.length_cons]
          omega
        have same : (head :: tail).take (draft.varintLen head) =
            (head :: more).take (draft.varintLen head) := by
          rw [← ended, ← List.cons_append]
          exact List.take_append_of_le_length (Nat.le_of_not_lt there)
        dsimp only at before
        rw [if_neg there, ← same] at before
        rcases peeked : peekVarint draft ((head :: tail).take (draft.varintLen head)) with - | value
        · rw [peeked] at step
          cases step
        · rw [peeked] at before
          dsimp only at before
          split_ifs at before
    rw [List.take_of_length_le length.le] at step
    split at step
    · rename_i value peeked
      split_ifs at step with bounded
      cases step
      exact ⟨⟨⟨first, rfl, length⟩, peeked⟩, bounded⟩
    · cases step

/-- A length that is read where the byte before it read none ends a header. -/
theorem headerStep_payload {front : Bytes} {byte : UInt8} {len : ℕ}
    (step : headerStep draft (front ++ [byte]) = .payload len)
    (before : front = [] ∨ headerStep draft front = .needMore) :
    ∃ type length, front ++ [byte] = type ++ length ∧ Measured draft type ∧
      LengthField draft length len ∧ len ≤ maxControlPayload := by
  obtain ⟨first, tail, header⟩ : ∃ first tail, front ++ [byte] = first :: tail :=
    List.exists_cons_of_ne_nil (by simp)
  by_cases untyped : tail.length + 1 < draft.varintLen first
  · rw [header, headerStep_untyped untyped] at step
    cases step
  have long : draft.varintLen first ≤ (front ++ [byte]).length := by
    rw [header, List.length_cons]
    omega
  have positive := varintLen_pos draft first
  have typed : Measured draft ((front ++ [byte]).take (draft.varintLen first)) := by
    refine ⟨first, ?_, by rw [List.length_take, Nat.min_eq_left long]⟩
    rw [header, List.head?_take, if_neg (by omega)]
    rfl
  have split := List.take_append_drop (draft.varintLen first) (front ++ [byte])
  rw [← split, headerStep_typed typed] at step
  -- the length field starts behind the type, so the byte before stood in it or at its front
  have inside : draft.varintLen first ≤ front.length := by
    by_contra ends
    have none : (front ++ [byte]).drop (draft.varintLen first) = [] := by
      rw [List.drop_eq_nil_iff, List.length_append, List.length_singleton]
      omega
    rw [none] at step
    unfold lengthStep at step
    split_ifs at step
  have field : (front ++ [byte]).drop (draft.varintLen first) =
      front.drop (draft.varintLen first) ++ [byte] := List.drop_append_of_le_length inside
  have same : (front ++ [byte]).take (draft.varintLen first) = front.take (draft.varintLen first) :=
    List.take_append_of_le_length inside
  have waits : lengthStep draft (front.drop (draft.varintLen first)) = .needMore := by
    rcases before with rfl | before
    · rw [List.length_nil] at inside
      omega
    · rw [← headerStep_typed (same ▸ typed), List.take_append_drop]
      exact before
  rw [field] at step
  obtain ⟨sized, bounded⟩ := lengthStep_payload step waits
  exact ⟨_, _, (field ▸ split).symm, typed, sized, bounded⟩

/-! ## What a walker has been shown -/

/-- Whole messages, and the part of one that the walker is inside. -/
inductive Walked (draft : DraftVersion) (shown : Bytes) : ControlFrameWalker → Prop
  | header {whole part : Bytes} (messages : Whole draft whole) (split : shown = whole ++ part)
      (waits : part = [] ∨ headerStep draft part = .needMore) : Walked draft shown ⟨draft, 0, part, false⟩
  | payload {whole type length payload : Bytes} {remaining : ℕ} (messages : Whole draft whole)
      (split : shown = whole ++ (type ++ length ++ payload)) (typed : Measured draft type)
      (sized : LengthField draft length (payload.length + remaining))
      (bounded : payload.length + remaining ≤ maxControlPayload) (owed : 0 < remaining) :
      Walked draft shown ⟨draft, remaining, [], false⟩
  | lost {walker : ControlFrameWalker} (latched : walker.lost = true) : Walked draft shown walker

theorem Walked.observe {shown : Bytes} (walked : Walked draft shown walker) (byte : UInt8) :
    Walked draft (shown ++ [byte]) (observe walker byte) := by
  cases walked with
  | lost latched =>
    rw [observe_lost latched]
    exact .lost latched
  | @payload whole type length payload remaining messages split typed sized bounded owed =>
    rw [observe_payload rfl owed]
    have longer : shown ++ [byte] = whole ++ (type ++ length ++ (payload ++ [byte])) := by
      rw [split]
      simp only [List.append_assoc]
    have total : (payload ++ [byte]).length + (remaining - 1) = payload.length + remaining := by
      rw [List.length_append, List.length_singleton]
      omega
    by_cases last : remaining = 1
    · subst last
      rw [← total] at sized bounded
      have next : Message draft (type ++ length ++ (payload ++ [byte])) :=
        ⟨type, length, _, rfl, typed, sized, bounded⟩
      exact .header (messages.snoc next) (longer.trans (List.append_nil _).symm) (.inl rfl)
    · have several : 0 < remaining - 1 := by omega
      exact .payload messages longer typed (total.symm ▸ sized) (total.symm ▸ bounded) several
  | @header whole part messages split waits =>
    have longer : shown ++ [byte] = whole ++ (part ++ [byte]) := by rw [split, List.append_assoc]
    unfold ControlWalker.observe
    rw [if_neg Bool.false_ne_true, if_neg (Nat.lt_irrefl 0)]
    dsimp only
    split_ifs with full
    · exact .lost rfl
    · cases step : headerStep draft (part ++ [byte]) with
      | needMore => exact .header messages longer (.inr step)
      | lost => exact .lost rfl
      | payload len =>
        obtain ⟨type, length, ends, typed, sized, bounded⟩ := headerStep_payload step waits
        rw [ends] at longer
        cases len with
        | zero =>
          have next : Message draft (type ++ length) :=
            ⟨type, length, [], (List.append_nil _).symm, typed, sized, bounded⟩
          exact .header (messages.snoc next) (longer.trans (List.append_assoc .. ▸
            (List.append_nil _).symm)) (.inl rfl)
        | succ len =>
          rw [← List.append_nil (type ++ length)] at longer
          refine .payload messages longer typed ?_ ?_ (Nat.succ_pos len)
          · rwa [List.length_nil, Nat.zero_add]
          · rwa [List.length_nil, Nat.zero_add]

theorem walked (draft : DraftVersion) (shown : Bytes) :
    Walked draft shown (shown.foldl observe (new draft)) := by
  induction shown using List.reverseRecOn with
  | nil => exact .header whole_nil rfl (.inl rfl)
  | append_singleton shown byte ih =>
    rw [List.foldl_append]
    exact ih.observe byte

theorem Walked.whole {shown : Bytes} (walked : Walked draft shown walker)
    (boundary : walker.atBoundary = true) : Whole draft shown := by
  cases walked with
  | lost latched => simp [atBoundary, latched] at boundary
  | payload _ _ _ _ _ owed =>
    simp only [atBoundary, Bool.not_false, Bool.true_and, List.isEmpty_nil, Bool.and_true,
      beq_iff_eq] at boundary
    omega
  | @header whole part messages split waits =>
    have none : part = [] := by simpa [atBoundary] using boundary
    rw [split, none, List.append_nil]
    exact messages

/-! ## Whole messages leave the walker where it started -/

/-- A header is collected as long as it says nothing. -/
theorem collect {header : Bytes} (field : Bytes) (room : (header ++ field).length ≤ maxControlHeader)
    (silent : ∀ front, front <+: field → front ≠ [] → headerStep draft (header ++ front) = .needMore) :
    field.foldl observe ⟨draft, 0, header, false⟩ = ⟨draft, 0, header ++ field, false⟩ := by
  induction field generalizing header with
  | nil => rw [List.append_nil, List.foldl_nil]
  | cons byte rest ih =>
    have short : header.length ≠ maxControlHeader := by
      rw [List.length_append, List.length_cons] at room
      omega
    have waits : headerStep draft (header ++ [byte]) = .needMore :=
      silent [byte] (List.cons_prefix_cons.mpr ⟨rfl, List.nil_prefix⟩) (List.cons_ne_nil _ _)
    have observed : observe ⟨draft, 0, header, false⟩ byte = ⟨draft, 0, header ++ [byte], false⟩ := by
      rw [observe, if_neg Bool.false_ne_true, if_neg (Nat.lt_irrefl 0), if_neg short]
      simp only [waits]
    rw [List.foldl_cons, observed]
    have behind : header ++ [byte] ++ rest = header ++ byte :: rest := List.append_cons .. ▸ rfl
    rw [← behind]
    apply ih
    · rwa [behind]
    · intro front part _
      rw [← List.append_cons]
      exact silent (byte :: front) (List.cons_prefix_cons.mpr ⟨rfl, part⟩) (List.cons_ne_nil _ _)

theorem header_fits {type length : Bytes} {len : ℕ} (typed : Measured draft type)
    (sized : LengthField draft length len) : (type ++ length).length ≤ maxControlHeader := by
  obtain ⟨first, tail, rfl, measured⟩ := typed.cons
  unfold LengthField at sized
  rw [List.length_append, List.length_cons]
  unfold maxControlHeader
  cases fixed : draft.usesFixedLengthFraming with
  | true =>
    rw [fixed, if_pos rfl] at sized
    obtain ⟨hi, lo, rfl, rfl⟩ := sized
    have := varintLen_le draft first
    simp only [List.length_cons, List.length_nil]
    omega
  | false =>
    rw [fixed, if_neg Bool.false_ne_true] at sized
    obtain ⟨first', tail', rfl, measured'⟩ := sized.cons
    have := varintLen_le_eight fixed first
    have := varintLen_le_eight fixed first'
    rw [List.length_cons]
    omega

theorem LengthField.nonempty {length : Bytes} {len : ℕ} (sized : LengthField draft length len) :
    length ≠ [] := by
  rintro rfl
  unfold LengthField at sized
  split_ifs at sized
  · obtain ⟨hi, lo, empty, -⟩ := sized
    cases empty
  · obtain ⟨first, tail, empty, -⟩ := sized.cons
    cases empty

/-- The last byte of a header reads it. -/
theorem foldl_header {type length : Bytes} {len : ℕ} (typed : Measured draft type)
    (sized : LengthField draft length len) (bounded : len ≤ maxControlPayload) :
    (type ++ length).foldl observe (new draft) = ⟨draft, len, [], false⟩ := by
  obtain ⟨reads, waits⟩ := lengthStep_whole sized bounded
  obtain ⟨front, last, rfl⟩ := length.eq_nil_or_concat'.resolve_left (LengthField.nonempty sized)
  have fits := header_fits typed sized
  have silent : ∀ part, part <+: type ++ front → part ≠ [] →
      headerStep draft ([] ++ part) = .needMore := by
    intro part inside nonempty
    rw [List.nil_append]
    rcases List.prefix_or_prefix_of_prefix inside (List.prefix_append type front) with short | long
    · by_cases same : part = type
      · rw [same, ← List.append_nil type, headerStep_typed typed]
        exact waits [] List.nil_prefix (List.concat_ne_nil _ _).symm
      · have shorter := Nat.lt_of_le_of_ne short.length_le fun length => same (short.eq_of_length length)
        obtain ⟨first, tail, rfl, measured⟩ := typed.cons
        obtain ⟨byte, more, rfl⟩ := List.exists_cons_of_ne_nil nonempty
        obtain ⟨rfl, -⟩ := List.cons_prefix_cons.mp short
        exact headerStep_untyped (by simp only [List.length_cons] at shorter; omega)
    · obtain ⟨tail, rfl⟩ := long
      have within := (List.prefix_append_right_inj type).mp inside
      rw [headerStep_typed typed]
      refine waits tail (within.trans (List.prefix_append ..)) fun same => ?_
      have length := within.length_le
      rw [same, List.length_append, List.length_singleton] at length
      omega
  have collected : (type ++ front).foldl observe (new draft) = ⟨draft, 0, type ++ front, false⟩ :=
    collect _ (by rw [← List.append_assoc, List.length_append] at fits; exact (Nat.le_add_right ..).trans fits)
      silent
  have room : (type ++ front).length ≠ maxControlHeader := by
    rw [← List.append_assoc, List.length_append, List.length_singleton] at fits
    omega
  have step : headerStep draft (type ++ front ++ [last]) = .payload len := by
    rw [List.append_assoc, headerStep_typed typed, reads]
  rw [← List.append_assoc, List.foldl_append, collected, List.foldl_cons, List.foldl_nil, observe,
    if_neg Bool.false_ne_true, if_neg (Nat.lt_irrefl 0), if_neg room]
  simp only [step]

theorem foldl_message {message : Bytes} (whole : Message draft message) :
    message.foldl observe (new draft) = new draft := by
  obtain ⟨type, length, payload, rfl, typed, sized, bounded⟩ := whole
  rw [List.foldl_append, foldl_header typed sized bounded]
  cases payload with
  | nil => rfl
  | cons byte rest =>
    obtain ⟨walked, -⟩ := @walk_payload ⟨draft, (byte :: rest).length, [], false⟩ (byte :: rest) rfl rfl _
      (Nat.succ_pos rest.length) (Nat.le_refl _) (Nat.le_refl _)
    have none : (byte :: rest).drop rest.length.succ = [] := List.drop_length
    rw [walked, none, List.foldl_nil]
    dsimp only
    rw [List.length_cons, Nat.sub_self]
    rfl

theorem foldl_whole {bytes : Bytes} (whole : Whole draft bytes) :
    bytes.foldl observe (new draft) = new draft := by
  obtain ⟨messages, all, rfl⟩ := whole
  induction messages with
  | nil => rfl
  | cons message rest ih =>
    rw [List.flatten_cons, List.foldl_append, foldl_message (all message (List.mem_cons_self ..))]
    exact ih fun m member => all m (List.mem_cons_of_mem _ member)

/-- **The walker stands between messages exactly behind whole messages.** -/
theorem walked_boundary (draft : DraftVersion) (shown : Bytes) :
    (shown.foldl observe (new draft)).atBoundary = true ↔ Whole draft shown := by
  constructor
  · exact (walked draft shown).whole
  · intro whole
    rw [foldl_whole whole]
    rfl

/-! ## Messages and boundaries are where they are -/

theorem Measured.unique {field field' rest rest' : Bytes} (measured : Measured draft field)
    (measured' : Measured draft field') (same : field ++ rest = field' ++ rest') :
    field = field' ∧ rest = rest' := by
  obtain ⟨first, tail, rfl, length⟩ := measured.cons
  obtain ⟨first', tail', rfl, length'⟩ := measured'.cons
  obtain rfl : first = first' := (List.cons.inj same).1
  exact List.append_inj same (by simp only [List.length_cons]; omega)

theorem length_unique {field field' rest rest' : Bytes} {len len' : ℕ}
    (sized : LengthField draft field len) (sized' : LengthField draft field' len')
    (same : field ++ rest = field' ++ rest') : field = field' ∧ rest = rest' ∧ len = len' := by
  unfold LengthField at sized sized'
  split_ifs at sized sized'
  · obtain ⟨hi, lo, rfl, rfl⟩ := sized
    obtain ⟨hi', lo', rfl, rfl⟩ := sized'
    simp only [List.cons_append, List.nil_append, List.cons.injEq] at same
    obtain ⟨rfl, rfl, rfl⟩ := same
    exact ⟨rfl, rfl, rfl⟩
  · obtain ⟨rfl, rfl⟩ := Measured.unique sized.measured sized'.measured same
    exact ⟨rfl, rfl, Option.some.inj (sized.peeks.symm.trans sized'.peeks)⟩

theorem message_unique {message message' rest rest' : Bytes} (whole : Message draft message)
    (whole' : Message draft message') (same : message ++ rest = message' ++ rest') :
    message = message' ∧ rest = rest' := by
  obtain ⟨type, length, payload, rfl, typed, sized, -⟩ := whole
  obtain ⟨type', length', payload', rfl, typed', sized', -⟩ := whole'
  simp only [List.append_assoc] at same
  obtain ⟨rfl, behind⟩ := typed.unique typed' same
  obtain ⟨rfl, payloads, sizes⟩ := length_unique sized sized' behind
  obtain ⟨rfl, rfl⟩ := List.append_inj payloads sizes
  exact ⟨rfl, rfl⟩

theorem Message.nonempty {message : Bytes} (whole : Message draft message) : message ≠ [] := by
  rintro rfl
  obtain ⟨type, length, payload, empty, typed, -⟩ := whole
  obtain ⟨first, tail, rfl, -⟩ := typed.cons
  cases empty

/-- Whole messages at the head of a sequence of messages are the first of these. -/
theorem whole_leading {bytes rest : Bytes} {messages : List Bytes} (whole : Whole draft bytes)
    (all : ∀ message ∈ messages, Message draft message) (split : bytes ++ rest = messages.flatten) :
    ∃ k, bytes = (messages.take k).flatten := by
  obtain ⟨leading, each, rfl⟩ := whole
  induction leading generalizing messages with
  | nil => exact ⟨0, rfl⟩
  | cons message leading ih =>
    have first := each message (List.mem_cons_self ..)
    cases messages with
    | nil =>
      have empty := (List.append_eq_nil_iff.mp split).1
      exact absurd (List.append_eq_nil_iff.mp empty).1 first.nonempty
    | cons message' messages =>
      rw [List.flatten_cons, List.flatten_cons, List.append_assoc] at split
      obtain ⟨rfl, behind⟩ := message_unique first (all message' (List.mem_cons_self ..)) split
      obtain ⟨k, same⟩ := ih (fun m member => all m (List.mem_cons_of_mem _ member))
        (fun m member => each m (List.mem_cons_of_mem _ member)) behind
      exact ⟨k + 1, by rw [List.flatten_cons, same, List.take_succ_cons, List.flatten_cons]⟩

/-- The place `advance` answers: behind whole messages, and the first such in the chunk. -/
theorem firstBoundary_some {n : ℕ} (found : firstBoundary walker data = some n) :
    0 < n ∧ n ≤ data.length ∧ ((data.take n).foldl observe walker).atBoundary = true ∧
      ∀ m, 0 < m → m < n → ((data.take m).foldl observe walker).atBoundary = false := by
  induction data generalizing walker n with
  | nil => cases found
  | cons byte rest ih =>
    rw [firstBoundary] at found
    split_ifs at found with boundary
    · cases found
      refine ⟨Nat.one_pos, Nat.succ_le_succ (Nat.zero_le _), boundary, ?_⟩
      intro m positive below
      omega
    · obtain ⟨before, later, rfl⟩ := Option.map_eq_some_iff.mp found
      obtain ⟨positive, inside, there, none⟩ := ih later
      refine ⟨Nat.succ_pos _, Nat.succ_le_succ inside, there, ?_⟩
      intro m _ below
      cases m with
      | zero => omega
      | succ m =>
        cases m with
        | zero => exact Bool.eq_false_iff.mpr boundary
        | succ m => exact none (m + 1) (Nat.succ_pos m) (by omega)

theorem firstBoundary_none (missing : firstBoundary walker data = none) {m : ℕ} (positive : 0 < m)
    (inside : m ≤ data.length) : ((data.take m).foldl observe walker).atBoundary = false := by
  induction data generalizing walker m with
  | nil => exact absurd (Nat.lt_of_lt_of_le positive inside) (Nat.lt_irrefl 0)
  | cons byte rest ih =>
    rw [firstBoundary] at missing
    split_ifs at missing with boundary
    have missing := Option.map_eq_none_iff.mp missing
    cases m with
    | zero => exact absurd positive (Nat.lt_irrefl 0)
    | succ m =>
      cases m with
      | zero => exact Bool.eq_false_iff.mpr boundary
      | succ m => exact ih missing (Nat.succ_pos m) (Nat.le_of_succ_le_succ inside)

/-- Inside a payload the header is empty. -/
theorem walked_bare (draft : DraftVersion) (shown : Bytes) :
    0 < (shown.foldl observe (new draft)).remaining → (shown.foldl observe (new draft)).header = [] := by
  induction shown using List.reverseRecOn with
  | nil => exact fun _ => rfl
  | append_singleton shown byte ih =>
    rw [List.foldl_append, List.foldl_cons, List.foldl_nil]
    generalize shown.foldl observe (new draft) = walker at ih
    intro owed
    unfold observe at owed ⊢
    split_ifs at owed ⊢ with lost inside full
    · exact ih owed
    · exact ih inside
    · exact absurd owed inside
    · dsimp only at owed ⊢
      cases step : headerStep walker.draft (walker.header ++ [byte]) with
      | needMore =>
        simp only [step] at owed
        exact absurd owed inside
      | lost =>
        simp only [step] at owed
        exact absurd owed inside
      | payload => rfl

end Moqtap.ControlWalker
