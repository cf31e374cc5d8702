import Mathlib

/-! The CBOR values a trace is written from, and the two rules its writer keeps for those it never
looked at: an integral number is an integer, a byte string carries no tag 64. Rewriting can make two
keys one, so a map loses its repeats after it, and `normalised_settled` says what is left is a fixed
point. A byte string under two of the tags loses one a pass, which `plain` excludes. -/
namespace Moqtap.Cbor

/-! ## Floats -/

/-- A binary64 by its bits. -/
structure F64 where
  bits : UInt64
  deriving DecidableEq, Repr

namespace F64

def negative (f : F64) : Bool := decide (2 ^ 63 ≤ f.bits.toNat)

def exponent (f : F64) : Nat := f.bits.toNat / 2 ^ 52 % 2 ^ 11

def fraction (f : F64) : Nat := f.bits.toNat % 2 ^ 52

def isNan (f : F64) : Bool := decide (f.exponent = 2047 ∧ f.fraction ≠ 0)

def isZero (f : F64) : Bool := decide (f.bits.toNat % 2 ^ 63 = 0)

/-- IEEE equality: a NaN equals nothing, and the zeros are equal. -/
def ieeeEq (f g : F64) : Bool := !f.isNan && !g.isNan && (f.bits == g.bits || f.isZero && g.isZero)

/-- The magnitude of a float without a fractional part, up to `2 ^ 53`. -/
def magnitude (f : F64) : Option Nat :=
  if f.exponent = 0 then if f.fraction = 0 then some 0 else none
  else if f.exponent < 1075 then
    if (2 ^ 52 + f.fraction) % 2 ^ (1075 - f.exponent) = 0 then
      some ((2 ^ 52 + f.fraction) / 2 ^ (1075 - f.exponent))
    else none
  else if f.exponent = 1075 then some (2 ^ 52 + f.fraction)
  else if f.exponent = 1076 ∧ f.fraction = 0 then some (2 ^ 53)
  else none

/-- The integer a float stands for, where `fract() == 0.0` and `abs() <= 2^53`. -/
def toInteger (f : F64) : Option Int :=
  f.magnitude.map fun n : Nat => if f.negative then -(n : Int) else n

/-- The bits of the float nearest to a natural number, ties to the even one. -/
def nearestBits (n : Nat) : Nat :=
  if n = 0 then 0
  else if n.log2 ≤ 52 then (1023 + n.log2) * 2 ^ 52 + (n * 2 ^ (52 - n.log2) - 2 ^ 52)
  else
    let unit := 2 ^ (n.log2 - 52)
    let up := if unit < 2 * (n % unit) ∨ unit = 2 * (n % unit) ∧ n / unit % 2 = 1 then 1 else 0
    (1023 + n.log2) * 2 ^ 52 + (n / unit + up - 2 ^ 52)

/-- `n as f64` on an `i64`. -/
def ofInteger (n : Int) : F64 :=
  ⟨.ofNat (if n < 0 then 2 ^ 63 + nearestBits n.natAbs else nearestBits n.natAbs)⟩

def one : F64 := ⟨0x3FF0000000000000⟩

/-- In `(0.0, 1.0]`: positive floats are ordered as their bits, and those of a NaN and of a
negative float are greater than those of one. -/
def isRate (f : F64) : Bool := decide (0 < f.bits.toNat ∧ f.bits.toNat ≤ one.bits.toNat)

end F64

/-! ## Values -/

inductive Value where
  | integer (n : Int)
  | bytes (raw : List UInt8)
  | float (f : F64)
  | text (s : String)
  | bool (b : Bool)
  | null
  | tag (tag : Nat) (inner : Value)
  | array (items : List Value)
  | map (pairs : List (Value × Value))
  deriving Repr

namespace Value

def asText : Value → Option String
  | .text s => some s
  | _ => none

mutual

/-- Equality as the CBOR library derives it. -/
def beq : Value → Value → Bool
  | .integer a, .integer b => a == b
  | .bytes a, .bytes b => a == b
  | .float a, .float b => a.ieeeEq b
  | .text a, .text b => a == b
  | .bool a, .bool b => a == b
  | .null, .null => true
  | .tag s a, .tag t b => s == t && beq a b
  | .array a, .array b => beqItems a b
  | .map a, .map b => beqPairs a b
  | _, _ => false

def beqItems : List Value → List Value → Bool
  | [], [] => true
  | a :: as, b :: bs => beq a b && beqItems as bs
  | _, _ => false

def beqPairs : List (Value × Value) → List (Value × Value) → Bool
  | [], [] => true
  | (k, v) :: as, (l, w) :: bs => beq k l && beq v w && beqPairs as bs
  | _, _ => false

end

/-- The bytes a tag stands for, where it is that of an array of unsigned bytes. -/
def typedArray (tag : Nat) (inner : Value) : Option (List UInt8) :=
  match inner with
  | .bytes raw => if tag = 64 then some raw else none
  | _ => none

end Value

/-- One key in the file: a NaN is the same key as another. -/
def sameKey (one other : Value) : Bool :=
  match one, other with
  | .float a, .float b => a.isNan && b.isNan || a.ieeeEq b
  | one, other => one.beq other

/-- The first entry of each key stays in its place. -/
def deduplicated (entries : List (Value × Value)) : List (Value × Value) :=
  entries.foldl (fun kept entry =>
    if kept.any fun already => sameKey already.1 entry.1 then kept else kept ++ [entry]) []

/-- An integral number is written as an integer. -/
def numberValue (f : F64) : Value :=
  match f.toInteger with
  | some n => .integer n
  | none => .float f

mutual

/-- A value in the encoding the format requires of a writer. -/
def normalised : Value → Value
  | .float f => numberValue f
  | .tag tag inner =>
    match Value.typedArray tag inner with
    | some raw => .bytes raw
    | none => .tag tag (normalised inner)
  | .array items => .array (normalisedItems items)
  | .map pairs => .map (deduplicated (normalisedPairs pairs))
  | .integer n => .integer n
  | .bytes raw => .bytes raw
  | .text s => .text s
  | .bool b => .bool b
  | .null => .null

def normalisedItems : List Value → List Value
  | [] => []
  | item :: items => normalised item :: normalisedItems items

def normalisedPairs : List (Value × Value) → List (Value × Value)
  | [] => []
  | (key, value) :: pairs => (normalised key, normalised value) :: normalisedPairs pairs

end

/-- The entries of a map about to be emitted. -/
def writtenEntries (entries : List (Value × Value)) : List (Value × Value) :=
  deduplicated (normalisedPairs entries)

/-- Whether a key belongs in a map's store of unrecognised keys. -/
def goesToStore (key : Value) (writesKey : String → Bool) : Bool := !key.asText.any writesKey

/-- The store's entries to write after a map's own keys. -/
def storeEntries (extra : List (Value × Value)) (writesKey : String → Bool) : List (Value × Value) :=
  writtenEntries (extra.filter fun entry => goesToStore entry.1 writesKey)

/-- The entries behind the names already taken that no field is holding. -/
def unrecognisedFrom (writesKey : String → Bool) (taken : List String) :
    List (Value × Value) → List (Value × Value)
  | [] => []
  | (key, value) :: pairs =>
    match key.asText with
    | some name =>
      if writesKey name && !taken.contains name then unrecognisedFrom writesKey (name :: taken) pairs
      else (key, value) :: unrecognisedFrom writesKey taken pairs
    | none => (key, value) :: unrecognisedFrom writesKey taken pairs

/-- Every entry that the decoded map does not write out of a field of its own. -/
def unrecognised (pairs : List (Value × Value)) (writesKey : String → Bool) : List (Value × Value) :=
  unrecognisedFrom writesKey [] pairs

/-! ## Reading -/

/-- `u64::try_from`. -/
def unsigned (n : Int) : Option UInt64 :=
  if 0 ≤ n ∧ n.toNat < 2 ^ 64 then some (.ofNat n.toNat) else none

/-- `i64::try_from`. -/
def signed (n : Int) : Option Int64 :=
  if Int64.minValue.toInt ≤ n ∧ n ≤ Int64.maxValue.toInt then some (.ofInt n) else none

namespace Value

/-- An unsigned integer, the float form accepted. -/
def asU64 : Value → Option UInt64
  | .integer n => unsigned n
  | .float f => f.toInteger.bind unsigned
  | _ => none

/-- A signed integer, the float form accepted. -/
def asI64 : Value → Option Int64
  | .integer n => signed n
  | .float f => f.toInteger.bind signed
  | _ => none

/-- A byte string, plain or as a typed array. -/
def asBytes : Value → Option (List UInt8)
  | .bytes raw => some raw
  | .tag t inner => typedArray t inner
  | _ => none

end Value

/-- The first entry for a key. -/
def find (pairs : List (Value × Value)) (key : String) : Option Value :=
  (pairs.find? fun entry => entry.1.asText == some key).map Prod.snd

/-- The first entry for a key that can be used. -/
def firstUsable (read : Value → Option α) (pairs : List (Value × Value)) (key : String) : Option α :=
  pairs.findSome? fun entry => if entry.1.asText = some key then read entry.2 else none

/-! ## What the rules ask -/

/-- No two entries are written under one key. -/
def Distinct (pairs : List (Value × Value)) : Prop :=
  pairs.Pairwise fun entry later => sameKey entry.1 later.1 = false

instance (pairs : List (Value × Value)) : Decidable (Distinct pairs) :=
  inferInstanceAs (Decidable (pairs.Pairwise _))

mutual

/-- The encoding rules, at every depth: no integral float, no byte string under tag 64, no key
twice. -/
def conforming : Value → Bool
  | .float f => f.toInteger.isNone
  | .tag tag inner => (Value.typedArray tag inner).isNone && conforming inner
  | .array items => conformingItems items
  | .map pairs => decide (Distinct pairs) && conformingPairs pairs
  | _ => true

def conformingItems : List Value → Bool
  | [] => true
  | item :: items => conforming item && conformingItems items

def conformingPairs : List (Value × Value) → Bool
  | [] => true
  | (key, value) :: pairs => conforming key && conforming value && conformingPairs pairs

end

/-- A byte string under two of the tags. -/
def doublyTagged (tag : Nat) (inner : Value) : Bool :=
  tag == 64 && match inner with
    | .tag tag inner => (Value.typedArray tag inner).isSome
    | _ => false

mutual

/-- No byte string is under two of the tags, at any depth. -/
def plain : Value → Bool
  | .tag tag inner => !doublyTagged tag inner && plain inner
  | .array items => plainItems items
  | .map pairs => plainPairs pairs
  | _ => true

def plainItems : List Value → Bool
  | [] => true
  | item :: items => plain item && plainItems items

def plainPairs : List (Value × Value) → Bool
  | [] => true
  | (key, value) :: pairs => plain key && plain value && plainPairs pairs

end

theorem normalisedPairs_eq (pairs : List (Value × Value)) :
    normalisedPairs pairs = pairs.map fun entry => (normalised entry.1, normalised entry.2) := by
  induction pairs with
  | nil => rfl
  | cons entry pairs ih => exact congrArg ((normalised entry.1, normalised entry.2) :: ·) ih

theorem conformingPairs_iff {pairs : List (Value × Value)} : conformingPairs pairs = true ↔
    ∀ entry ∈ pairs, conforming entry.1 = true ∧ conforming entry.2 = true := by
  induction pairs with
  | nil => simp [conformingPairs]
  | cons entry pairs ih => simp [conformingPairs, ih]

theorem plainPairs_iff {pairs : List (Value × Value)} : plainPairs pairs = true ↔
    ∀ entry ∈ pairs, plain entry.1 = true ∧ plain entry.2 = true := by
  induction pairs with
  | nil => simp [plainPairs]
  | cons entry pairs ih => simp [plainPairs, ih]

/-! ## A map without repeats -/

/-- One step of `deduplicated`. -/
def keepFirst (kept : List (Value × Value)) (entry : Value × Value) : List (Value × Value) :=
  if kept.any fun already => sameKey already.1 entry.1 then kept else kept ++ [entry]

theorem deduplicated_eq (entries : List (Value × Value)) :
    deduplicated entries = entries.foldl keepFirst [] := rfl

theorem keepFirst_sublist (kept : List (Value × Value)) (entry : Value × Value) :
    (keepFirst kept entry).Sublist (kept ++ [entry]) := by
  unfold keepFirst
  split
  · exact List.sublist_append_left ..
  · exact .refl _

theorem foldl_keepFirst_sublist (entries kept : List (Value × Value)) :
    (entries.foldl keepFirst kept).Sublist (kept ++ entries) := by
  induction entries generalizing kept with
  | nil => simp
  | cons entry entries ih =>
    have step := (keepFirst_sublist kept entry).append_right entries
    rw [List.append_assoc] at step
    exact (ih _).trans step

theorem keepFirst_distinct {kept : List (Value × Value)} (distinct : Distinct kept)
    (entry : Value × Value) : Distinct (keepFirst kept entry) := by
  unfold keepFirst
  split
  · exact distinct
  · rename_i apart
    refine List.pairwise_append.mpr ⟨distinct, List.pairwise_singleton .., fun already member _ last => ?_⟩
    cases List.mem_singleton.mp last
    simp only [List.any_eq_true, not_exists, not_and] at apart
    exact Bool.eq_false_iff.mpr (apart already member)

theorem deduplicated_distinct (entries : List (Value × Value)) : Distinct (deduplicated entries) := by
  have behind (entries kept : List (Value × Value)) (distinct : Distinct kept) :
      Distinct (entries.foldl keepFirst kept) := by
    induction entries generalizing kept with
    | nil => exact distinct
    | cons entry entries ih => exact ih _ (keepFirst_distinct distinct entry)
  exact behind entries [] .nil

theorem deduplicated_sublist (entries : List (Value × Value)) :
    (deduplicated entries).Sublist entries :=
  foldl_keepFirst_sublist entries []

/-- Nothing is dropped where no key repeats. -/
theorem deduplicated_of_distinct {entries : List (Value × Value)} (distinct : Distinct entries) :
    deduplicated entries = entries := by
  have behind (entries kept : List (Value × Value)) (distinct : Distinct (kept ++ entries)) :
      entries.foldl keepFirst kept = kept ++ entries := by
    induction entries generalizing kept with
    | nil => simp
    | cons entry entries ih =>
      have apart := (List.pairwise_append.mp distinct).2.2
      have step : keepFirst kept entry = kept ++ [entry] := by
        refine if_neg fun repeated => ?_
        obtain ⟨already, member, same⟩ := List.any_eq_true.mp repeated
        rw [apart already member entry List.mem_cons_self] at same
        cases same
      rw [List.foldl_cons, step, ih _ (by simpa using distinct), List.append_assoc, List.singleton_append]
  exact behind entries [] distinct

/-! ## What the rewriting does to one value -/

theorem normalised_float (f : F64) :
    f.toInteger = none ∧ normalised (.float f) = .float f ∨
      ∃ n, f.toInteger = some n ∧ normalised (.float f) = .integer n := by
  change _ ∧ numberValue f = _ ∨ ∃ n, _ ∧ numberValue f = _
  rw [numberValue]
  cases f.toInteger with
  | none => exact .inl ⟨rfl, rfl⟩
  | some n => exact .inr ⟨n, rfl, rfl⟩

theorem normalised_tag (t : Nat) (inner : Value) :
    Value.typedArray t inner = none ∧ normalised (.tag t inner) = .tag t (normalised inner) ∨
      ∃ raw, Value.typedArray t inner = some raw ∧ normalised (.tag t inner) = .bytes raw := by
  rw [normalised]
  cases Value.typedArray t inner with
  | none => exact .inl ⟨rfl, rfl⟩
  | some raw => exact .inr ⟨raw, rfl, rfl⟩

/-! ## The rewriting is settled -/

theorem numberValue_conforming (f : F64) : conforming (numberValue f) = true := by
  unfold numberValue
  cases whole : f.toInteger with
  | some n => rfl
  | none => simp [conforming, whole]

/-- What is left under a tag is not a typed array, where it was not one and is plain. -/
theorem typedArray_normalised {t : Nat} {inner : Value} (untyped : Value.typedArray t inner = none)
    (once : doublyTagged t inner = false) : Value.typedArray t (normalised inner) = none := by
  cases inner with
  | float f =>
    rcases normalised_float f with ⟨-, same⟩ | ⟨n, -, same⟩
    · rw [same, untyped]
    · rw [same]
      rfl
  | tag u innermost =>
    rcases normalised_tag u innermost with ⟨-, same⟩ | ⟨raw, typed, same⟩
    · rw [same]
      rfl
    · have other : t ≠ 64 := by simpa [doublyTagged, typed] using once
      simp [same, Value.typedArray, other]
  | bytes raw => simpa [normalised] using untyped
  | _ => rfl

mutual

theorem normalised_conforming : (v : Value) → plain v = true → conforming (normalised v) = true
  | .float f, _ => numberValue_conforming f
  | .tag t inner, plained => by
    obtain ⟨once, inside⟩ : doublyTagged t inner = false ∧ plain inner = true := by
      simpa [plain] using plained
    rcases normalised_tag t inner with ⟨untyped, same⟩ | ⟨raw, -, same⟩
    · simp [same, conforming, typedArray_normalised untyped once, normalised_conforming inner inside]
    · rw [same]
      rfl
  | .array items, plained => normalisedItems_conforming items plained
  | .map pairs, plained => by
    have each := conformingPairs_iff.mp (normalisedPairs_conforming pairs plained)
    have kept : conformingPairs (deduplicated (normalisedPairs pairs)) = true :=
      conformingPairs_iff.mpr fun entry member => each entry ((deduplicated_sublist _).subset member)
    simp [normalised, conforming, kept, deduplicated_distinct]
  | .integer _, _ | .bytes _, _ | .text _, _ | .bool _, _ | .null, _ => rfl

theorem normalisedItems_conforming : (items : List Value) → plainItems items = true →
    conformingItems (normalisedItems items) = true
  | [], _ => rfl
  | item :: items, plained => by
    obtain ⟨here, rest⟩ : plain item = true ∧ plainItems items = true := by
      simpa [plainItems] using plained
    simp [normalisedItems, conformingItems, normalised_conforming item here,
      normalisedItems_conforming items rest]

theorem normalisedPairs_conforming : (pairs : List (Value × Value)) → plainPairs pairs = true →
    conformingPairs (normalisedPairs pairs) = true
  | [], _ => rfl
  | (key, value) :: pairs, plained => by
    obtain ⟨⟨here, there⟩, rest⟩ : (plain key = true ∧ plain value = true) ∧ plainPairs pairs = true := by
      simpa [plainPairs] using plained
    simp [normalisedPairs, conformingPairs, normalised_conforming key here,
      normalised_conforming value there, normalisedPairs_conforming pairs rest]

end

mutual

/-- A conforming value is written as it is. -/
theorem normalised_of_conforming : (v : Value) → conforming v = true → normalised v = v
  | .float f, conforms => by
    have fractional : f.toInteger = none := by simpa [conforming] using conforms
    simp [normalised, numberValue, fractional]
  | .tag t inner, conforms => by
    obtain ⟨untyped, inside⟩ : Value.typedArray t inner = none ∧ conforming inner = true := by
      simpa [conforming] using conforms
    simp [normalised, untyped, normalised_of_conforming inner inside]
  | .array items, conforms => congrArg Value.array (normalisedItems_of_conforming items conforms)
  | .map pairs, conforms => by
    obtain ⟨distinct, inside⟩ : Distinct pairs ∧ conformingPairs pairs = true := by
      simpa [conforming] using conforms
    simp [normalised, normalisedPairs_of_conforming pairs inside, deduplicated_of_distinct distinct]
  | .integer _, _ | .bytes _, _ | .text _, _ | .bool _, _ | .null, _ => rfl

theorem normalisedItems_of_conforming : (items : List Value) → conformingItems items = true →
    normalisedItems items = items
  | [], _ => rfl
  | item :: items, conforms => by
    obtain ⟨here, rest⟩ : conforming item = true ∧ conformingItems items = true := by
      simpa [conformingItems] using conforms
    simp [normalisedItems, normalised_of_conforming item here, normalisedItems_of_conforming items rest]

theorem normalisedPairs_of_conforming : (pairs : List (Value × Value)) →
    conformingPairs pairs = true → normalisedPairs pairs = pairs
  | [], _ => rfl
  | (key, value) :: pairs, conforms => by
    obtain ⟨⟨here, there⟩, rest⟩ :
        (conforming key = true ∧ conforming value = true) ∧ conformingPairs pairs = true := by
      simpa [conformingPairs] using conforms
    simp [normalisedPairs, normalised_of_conforming key here, normalised_of_conforming value there,
      normalisedPairs_of_conforming pairs rest]

end

/-- A second pass changes nothing. -/
theorem normalised_settled {v : Value} (plained : plain v = true) :
    normalised (normalised v) = normalised v :=
  normalised_of_conforming _ (normalised_conforming v plained)

/-! ## What a reader sees through it -/

@[simp] theorem asText_normalised (v : Value) : (normalised v).asText = v.asText := by
  cases v with
  | float f =>
    rcases normalised_float f with ⟨-, same⟩ | ⟨n, -, same⟩
    · rw [same]
    · rw [same]
      rfl
  | tag t inner =>
    rcases normalised_tag t inner with ⟨-, same⟩ | ⟨raw, -, same⟩
    · rw [same]
      rfl
    · rw [same]
      rfl
  | _ => rfl

@[simp] theorem asU64_normalised (v : Value) : (normalised v).asU64 = v.asU64 := by
  cases v with
  | float f =>
    rcases normalised_float f with ⟨-, same⟩ | ⟨n, whole, same⟩
    · rw [same]
    · simp [same, Value.asU64, whole]
  | tag t inner =>
    rcases normalised_tag t inner with ⟨-, same⟩ | ⟨raw, -, same⟩
    · rw [same]
      rfl
    · rw [same]
      rfl
  | _ => rfl

@[simp] theorem asI64_normalised (v : Value) : (normalised v).asI64 = v.asI64 := by
  cases v with
  | float f =>
    rcases normalised_float f with ⟨-, same⟩ | ⟨n, whole, same⟩
    · rw [same]
    · simp [same, Value.asI64, whole]
  | tag t inner =>
    rcases normalised_tag t inner with ⟨-, same⟩ | ⟨raw, -, same⟩
    · rw [same]
      rfl
    · rw [same]
      rfl
  | _ => rfl

theorem asBytes_normalised {v : Value} (plained : plain v = true) :
    (normalised v).asBytes = v.asBytes := by
  cases v with
  | float f =>
    rcases normalised_float f with ⟨-, same⟩ | ⟨n, -, same⟩
    · rw [same]
    · rw [same]
      rfl
  | tag t inner =>
    obtain ⟨once, -⟩ : doublyTagged t inner = false ∧ plain inner = true := by simpa [plain] using plained
    rcases normalised_tag t inner with ⟨untyped, same⟩ | ⟨raw, typed, same⟩
    · simp [same, Value.asBytes, untyped, typedArray_normalised untyped once]
    · simp [same, Value.asBytes, typed]
  | _ => rfl

/-! ## Stores -/

/-- A store that is written back as it is. -/
structure Settled (writesKey : String → Bool) (store : List (Value × Value)) : Prop where
  distinct : Distinct store
  conforms : conformingPairs store = true
  apart : ∀ entry ∈ store, goesToStore entry.1 writesKey = true

variable {writesKey : String → Bool} {extra store pairs : List (Value × Value)} {key : String}

theorem mem_storeEntries {entry : Value × Value} (member : entry ∈ storeEntries extra writesKey) :
    ∃ stored ∈ extra, goesToStore stored.1 writesKey = true ∧
      entry = (normalised stored.1, normalised stored.2) := by
  have mapped := (deduplicated_sublist _).subset member
  rw [normalisedPairs_eq] at mapped
  obtain ⟨stored, kept, rfl⟩ := List.mem_map.mp mapped
  obtain ⟨stored', goes⟩ := List.mem_filter.mp kept
  exact ⟨stored, stored', goes, rfl⟩

theorem storeEntries_settled (plained : plainPairs extra = true) :
    Settled writesKey (storeEntries extra writesKey) where
  distinct := deduplicated_distinct _
  conforms := by
    refine conformingPairs_iff.mpr fun entry member => ?_
    obtain ⟨stored, held, -, rfl⟩ := mem_storeEntries member
    have plain := plainPairs_iff.mp plained stored held
    exact ⟨normalised_conforming _ plain.1, normalised_conforming _ plain.2⟩
  apart entry member := by
    obtain ⟨stored, -, goes, rfl⟩ := mem_storeEntries member
    simpa [goesToStore] using goes

theorem Settled.written (settled : Settled writesKey store) : storeEntries store writesKey = store := by
  unfold storeEntries writtenEntries
  rw [List.filter_eq_self.mpr settled.apart, normalisedPairs_of_conforming _ settled.conforms,
    deduplicated_of_distinct settled.distinct]

/-! ## Looking up -/

variable {read : Value → Option α}

theorem find_eq (pairs : List (Value × Value)) (key : String) :
    find pairs key = firstUsable some pairs key := by
  induction pairs with
  | nil => rfl
  | cons entry pairs ih =>
    unfold find firstUsable at ih ⊢
    by_cases here : entry.1.asText = some key <;> simp [here, ih]

theorem firstUsable_eq_none : firstUsable read pairs key = none ↔
    ∀ entry ∈ pairs, entry.1.asText = some key → read entry.2 = none := by
  simp [firstUsable, List.findSome?_eq_none_iff]

theorem firstUsable_append (pairs later : List (Value × Value)) : firstUsable read (pairs ++ later) key =
    (firstUsable read pairs key).or (firstUsable read later key) :=
  List.findSome?_append

/-- What no entry of a map gives, none of its store gives. -/
theorem firstUsable_none_of_subset (within : store ⊆ pairs) (missing : firstUsable read pairs key = none) :
    firstUsable read store key = none :=
  firstUsable_eq_none.mpr fun entry member => firstUsable_eq_none.mp missing entry (within member)

theorem firstUsable_none_of_written (through : ∀ v, plain v = true → read v = none → read (normalised v) = none)
    (plained : plainPairs extra = true) (missing : firstUsable read extra key = none) :
    firstUsable read (storeEntries extra writesKey) key = none := by
  refine firstUsable_eq_none.mpr fun entry member named => ?_
  obtain ⟨stored, held, -, rfl⟩ := mem_storeEntries member
  exact through _ (plainPairs_iff.mp plained stored held).2
    (firstUsable_eq_none.mp missing stored held (by simpa using named))

/-- A text key is one key with no other text. -/
theorem sameKey_text {v : Value} {name : String} (text : v.asText = some name) (other : Value) :
    sameKey other v = (other.asText == some name) := by
  cases v with
  | text s =>
    cases text
    cases other <;> simp [sameKey, Value.beq, Value.asText]
  | _ => cases text

theorem firstUsable_keepFirst (kept : List (Value × Value)) (entry : Value × Value) :
    firstUsable some (keepFirst kept entry) key =
      (firstUsable some kept key).or (firstUsable some [entry] key) := by
  unfold keepFirst
  split
  · rename_i repeated
    by_cases here : entry.1.asText = some key
    · obtain ⟨already, member, same⟩ := List.any_eq_true.mp repeated
      rw [sameKey_text here, beq_iff_eq] at same
      cases found : firstUsable some kept key with
      | some v => rfl
      | none => exact nomatch firstUsable_eq_none.mp found already member same
    · simp [firstUsable, here]
  · exact firstUsable_append kept [entry]

theorem firstUsable_deduplicated (entries : List (Value × Value)) :
    firstUsable some (deduplicated entries) key = firstUsable some entries key := by
  have behind (kept : List (Value × Value)) : firstUsable some (entries.foldl keepFirst kept) key =
      (firstUsable some kept key).or (firstUsable some entries key) := by
    induction entries generalizing kept with
    | nil => exact Option.or_none.symm
    | cons entry entries ih =>
      rw [List.foldl_cons, ih, firstUsable_keepFirst, Option.or_assoc, ← firstUsable_append]
      rfl
  exact behind []

/-- The first entry of a key in a store is the first that is written. -/
theorem firstUsable_storeEntries (foreign : writesKey key = false) :
    firstUsable some (storeEntries extra writesKey) key = (firstUsable some extra key).map normalised := by
  rw [storeEntries, writtenEntries, firstUsable_deduplicated, normalisedPairs_eq]
  induction extra with
  | nil => rfl
  | cons entry extra ih =>
    unfold firstUsable at ih ⊢
    by_cases here : entry.1.asText = some key
    · simp [goesToStore, here, foreign]
    · by_cases goes : goesToStore entry.1 writesKey = true <;> simp [here, goes, ih]

/-- What is looked up in the entries of a map that no field holds. -/
theorem firstUsable_unrecognised (foreign : writesKey key = false) :
    firstUsable read (unrecognised pairs writesKey) key = firstUsable read pairs key := by
  have behind (taken : List String) : firstUsable read (unrecognisedFrom writesKey taken pairs) key =
      firstUsable read pairs key := by
    induction pairs generalizing taken with
    | nil => rfl
    | cons entry pairs ih =>
      obtain ⟨key', value⟩ := entry
      have behind (taken : List String) : firstUsable read ((key', value) :: unrecognisedFrom writesKey taken pairs) key =
          firstUsable read ((key', value) :: pairs) key := by
        rw [← List.singleton_append, firstUsable_append, ih, ← firstUsable_append, List.singleton_append]
      unfold unrecognisedFrom
      cases name : key'.asText with
      | none => exact behind taken
      | some name' =>
        dsimp only
        split
        · rename_i own
          have other : name' ≠ key := by
            rintro rfl
            simp [foreign] at own
          rw [ih]
          simp [firstUsable, name, other]
        · exact behind taken
  exact behind []

theorem unrecognised_sublist (pairs : List (Value × Value)) (writesKey : String → Bool) :
    (unrecognised pairs writesKey).Sublist pairs := by
  have behind (taken : List String) : (unrecognisedFrom writesKey taken pairs).Sublist pairs := by
    induction pairs generalizing taken with
    | nil => exact .slnil
    | cons entry pairs ih =>
      obtain ⟨key, value⟩ := entry
      unfold unrecognisedFrom
      split
      · split
        · exact (ih _).cons _
        · exact (ih _).cons_cons _
      · exact (ih _).cons_cons _
  exact behind []

/-! ## Maps written from fields -/

/-- A map's own keys and their values. -/
abbrev Fields := List (String × Value)

/-- A key that is written where its field holds something. -/
def whenHeld (key : String) (held : Option Value) : Fields := held.toList.map (key, ·)

/-- Fields as entries of a map. -/
def named (fields : Fields) : List (Value × Value) := fields.map fun field => (.text field.1, field.2)

@[simp] theorem named_nil : named [] = [] := rfl

@[simp] theorem named_append (fields later : Fields) : named (fields ++ later) = named fields ++ named later :=
  List.map_append

@[simp] theorem firstUsable_nil : firstUsable read [] key = none := rfl

@[simp] theorem firstUsable_named_cons (field : String × Value) (fields : Fields) :
    firstUsable read (named (field :: fields)) key =
      if field.1 = key then (read field.2).or (firstUsable read (named fields) key)
      else firstUsable read (named fields) key := by
  unfold firstUsable named
  rw [List.map_cons, List.findSome?_cons]
  by_cases here : field.1 = key
  · rw [if_pos (by simp [Value.asText, here]), if_pos here]
    cases read field.2 <;> rfl
  · rw [if_neg (by simp [Value.asText, here]), if_neg here]

@[simp] theorem firstUsable_named_whenHeld (name : String) (held : Option Value) :
    firstUsable read (named (whenHeld name held)) key = if name = key then held.bind read else none := by
  cases held with
  | none => simp [whenHeld]
  | some value => simp [whenHeld]

/-- The keys written are of those a map has, in their order. -/
theorem keys_whenHeld_sublist (name : String) (held : Option Value) :
    ((whenHeld name held).map Prod.fst).Sublist [name] := by
  cases held with
  | none => exact List.nil_sublist _
  | some value => exact .refl _

theorem conformingPairs_append (pairs later : List (Value × Value)) :
    conformingPairs (pairs ++ later) = (conformingPairs pairs && conformingPairs later) := by
  induction pairs with
  | nil => rfl
  | cons entry pairs ih => simp [conformingPairs, ih, Bool.and_assoc]

@[simp] theorem conforming_named_cons (field : String × Value) (fields : Fields) :
    conformingPairs (named (field :: fields)) = (conforming field.2 && conformingPairs (named fields)) := by
  simp [named, conformingPairs, conforming]

@[simp] theorem conforming_named_whenHeld (name : String) (held : Option Value) :
    conformingPairs (named (whenHeld name held)) = held.all conforming := by
  cases held <;> simp [whenHeld, conformingPairs]

/-- Fields and a settled store behind them are a map with no key twice. -/
theorem distinct_named {fields : Fields} (written : ∀ field ∈ fields, writesKey field.1 = true)
    (nodup : (fields.map Prod.fst).Nodup) (settled : Settled writesKey store) :
    Distinct (named fields ++ store) := by
  refine List.pairwise_append.mpr ⟨?_, settled.distinct, ?_⟩
  · unfold named
    rw [List.pairwise_map]
    exact (List.pairwise_map.mp nodup).imp fun apart => by simp [sameKey, Value.beq, apart]
  · intro own member entry stored
    obtain ⟨field, held, rfl⟩ := List.mem_map.mp member
    have goes := settled.apart entry stored
    rw [Bool.eq_false_iff]
    intro same
    cases name : entry.1.asText with
    | none =>
      obtain ⟨key, value⟩ := entry
      cases key with
      | text s => cases name
      | _ => simp [sameKey, Value.beq] at same
    | some name' =>
      rw [sameKey_text name] at same
      have key : field.1 = name' := by simpa [Value.asText] using same
      simp [goesToStore, name, ← key, written field held] at goes

/-- A reader of written fields and a settled store finds the store unrecognised. -/
theorem unrecognised_named {fields : Fields} (written : ∀ field ∈ fields, writesKey field.1 = true)
    (nodup : (fields.map Prod.fst).Nodup)
    (apart : ∀ entry ∈ store, goesToStore entry.1 writesKey = true) :
    unrecognised (named fields ++ store) writesKey = store := by
  have stored (taken : List String) : unrecognisedFrom writesKey taken store = store := by
    induction store with
    | nil => rfl
    | cons entry store ih =>
      obtain ⟨key, value⟩ := entry
      have goes := apart _ List.mem_cons_self
      have rest := ih fun entry member => apart entry (List.mem_cons_of_mem _ member)
      unfold unrecognisedFrom
      cases name : key.asText with
      | none => exact congrArg _ rest
      | some name' =>
        have foreign : writesKey name' = false := by simpa [goesToStore, name] using goes
        simp [foreign, rest]
  have behind (taken : List String) (free : ∀ field ∈ fields, field.1 ∉ taken) :
      unrecognisedFrom writesKey taken (named fields ++ store) = store := by
    induction fields generalizing taken with
    | nil => exact stored taken
    | cons field fields ih =>
      obtain ⟨fresh, nodup⟩ := List.nodup_cons.mp nodup
      have own : (writesKey field.1 && !taken.contains field.1) = true := by
        simp [written field List.mem_cons_self, free field List.mem_cons_self]
      have step : unrecognisedFrom writesKey taken (named (field :: fields) ++ store) =
          unrecognisedFrom writesKey (field.1 :: taken) (named fields ++ store) := if_pos own
      rw [step]
      refine ih (fun field member => written field (List.mem_cons_of_mem _ member)) nodup _ ?_
      intro other member taken'
      rcases List.mem_cons.mp taken' with same | taken'
      · exact fresh (same ▸ List.mem_map_of_mem member)
      · exact free other (List.mem_cons_of_mem _ member) taken'
  exact behind [] fun _ _ => List.not_mem_nil

end Moqtap.Cbor
