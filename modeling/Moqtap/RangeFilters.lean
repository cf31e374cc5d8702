import Moqtap.Draft22Parameters

/-! Range Filters (`range_filter.rs`) and what a request keeps of them
(`range_filter_parameters` and `apply_filter_update` of `draft22/endpoint.rs`).
A REQUEST_UPDATE replaces the filters of every Parameter Type it mentions and
leaves the others alone. -/
namespace Moqtap.RangeFilters
open ByteCursor Varint CodecTypes

def subgroupFilterParameter : Nat := 0x25
def objectPropertyFilterParameter : Nat := 0x28
def priorityFilterParameter : Nat := 0x27
def trackPropertyFilterParameter : Nat := 0x29

def isRangeFilter (parameterType : Nat) : Bool :=
  subgroupFilterParameter ≤ parameterType && parameterType ≤ trackPropertyFilterParameter

def carriesAPropertyType (parameterType : Nat) : Bool :=
  parameterType == objectPropertyFilterParameter || parameterType == trackPropertyFilterParameter

structure FilterRange where
  start : Nat
  «end» : Option Nat
  deriving DecidableEq, Repr

structure RangeFilter where
  parameterType : Nat
  setId : UInt8
  propertyType : Option Nat
  ranges : List FilterRange
  deriving DecidableEq, Repr

inductive RangeFilterError where
  | notARangeFilter (parameterType : Nat)
  | malformed (detail : String)
  | deltaOverflow (base delta : Nat)
  | priorityAboveTheField (value : Nat)
  | propertyTypeIsNotAnInteger (propertyType : Nat)
  deriving DecidableEq, Repr

/-! ## Decoding -/

def shortOf (detail : String) : Reader RangeFilterError Nat := do
  let v ← mapError (fun _ => RangeFilterError.malformed detail) (VarInt.decodeMoqt .moqt18)
  return v.val

def resolveDelta (base delta : Nat) : Except RangeFilterError Nat :=
  okOr (checkedAdd base delta) (.deltaOverflow base delta)

/-- The `while buf.has_remaining()` loop: a Start counts from the End before it, an
End from its own Start, and only the last End may be missing. -/
def decodeRanges : Nat → Nat → Reader RangeFilterError (List FilterRange)
  | 0, _ => pure []
  | fuel + 1, previousEnd => do
    if (← remaining) = 0 then
      return []
    else
      let start ← lift (resolveDelta previousEnd (← shortOf "a Range's Start is short"))
      if (← remaining) = 0 then
        return [⟨start, none⟩]
      else
        let stop ← lift (resolveDelta start (← shortOf "a Range's End is short"))
        let rest ← decodeRanges fuel stop
        return ⟨start, some stop⟩ :: rest

/-- A range takes a byte at least, so as many rounds as bytes are enough. -/
def decodeStructure (parameterType : Nat) (bytes : Bytes) : Except RangeFilterError RangeFilter :=
  if isRangeFilter parameterType = false then .error (.notARangeFilter parameterType)
  else if bytes = [] then .ok ⟨parameterType, 0, none, []⟩
  else
    let reader : Reader RangeFilterError RangeFilter := do
      let setId ← takeByte (.malformed "it ends before the SetID")
      let propertyType ← if carriesAPropertyType parameterType then
          some <$> shortOf "it ends before the Property Type this filter type carries"
        else pure none
      let ranges ← decodeRanges bytes.length 0
      return ⟨parameterType, setId, propertyType, ranges⟩
    (reader (.of bytes)).map Prod.fst

def FilterRange.values (range : FilterRange) : List Nat := range.start :: range.end.toList

def checkItsOwnTypes (filter : RangeFilter) : Except RangeFilterError Unit := do
  match filter.propertyType with
  | some propertyType =>
    refuseIf (propertyType % 2 != 0) (.propertyTypeIsNotAnInteger propertyType)
  | none => .ok ()
  if filter.parameterType = priorityFilterParameter then
    checkAll (fun value => refuseIf (255 < value) (.priorityAboveTheField value))
      (filter.ranges.flatMap FilterRange.values)
  else .ok ()

def decode (parameterType : Nat) (bytes : Bytes) : Except RangeFilterError RangeFilter := do
  let filter ← decodeStructure parameterType bytes
  checkItsOwnTypes filter
  return filter

/-- `decode_all_moqt`: parameters that are no Range Filter are skipped. -/
def decodeAll : List KeyValuePair → Except RangeFilterError (List RangeFilter)
  | [] => .ok []
  | parameter :: rest =>
    if isRangeFilter parameter.key.val = false then decodeAll rest
    else
      match parameter.value with
      | .varint _ => .error (.malformed
          "its value is a bare varint where the type defines a filter")
      | .bytes bytes => do
        let filter ← decode parameter.key.val bytes
        let filters ← decodeAll rest
        return filter :: filters

def totalRanges (filters : List RangeFilter) : Nat := (filters.map fun f => f.ranges.length).sum

def RangeFilter.key (filter : RangeFilter) : Nat × UInt8 × Option Nat :=
  (filter.parameterType, filter.setId, filter.propertyType)

/-- The loop of `first_repeated_key`, `seen` holding the keys so far. -/
def firstRepeatedFrom (seen : List (Nat × UInt8 × Option Nat)) :
    List RangeFilter → Option (Nat × UInt8 × Option Nat)
  | [] => none
  | filter :: rest =>
    if seen.contains filter.key then some filter.key else firstRepeatedFrom (filter.key :: seen) rest

def firstRepeatedKey : List RangeFilter → Option (Nat × UInt8 × Option Nat) := firstRepeatedFrom []

/-! ## What a request keeps -/

/-- An empty value is the removal form, which is no filter to keep. -/
def isRemoval (value : KvpValue) : Bool := value == .bytes []

def rangeFilterParameters (parameters : List KeyValuePair) : List KeyValuePair :=
  (parameters.filter fun p => isRangeFilter p.key.val).filter fun p => !isRemoval p.value

def applyFilterUpdate (inForce update : List KeyValuePair) : List KeyValuePair :=
  let mentioned := (update.map fun p => p.key.val).filter isRangeFilter
  (inForce.filter fun p => !mentioned.contains p.key.val) ++ rangeFilterParameters update

/-- A Parameter Type the update does not mention keeps its filters. -/
theorem applyFilterUpdate_unmentioned {inForce update : List KeyValuePair} {p : KeyValuePair}
    (held : p ∈ inForce) (unmentioned : ∀ q ∈ update, q.key.val ≠ p.key.val) :
    p ∈ applyFilterUpdate inForce update := by
  refine List.mem_append_left _ (List.mem_filter.mpr ⟨held, ?_⟩)
  rw [Bool.not_eq_true', List.contains_eq_mem, decide_eq_false_iff_not, List.mem_filter, List.mem_map]
  rintro ⟨⟨q, member, same⟩, -⟩
  exact unmentioned q member same

/-- An update that mentions no Range Filter changes none. -/
theorem applyFilterUpdate_none {inForce update : List KeyValuePair}
    (absent : ∀ p ∈ update, isRangeFilter p.key.val = false) :
    applyFilterUpdate inForce update = inForce := by
  have mentioned : (update.map fun p => p.key.val).filter isRangeFilter = [] := by
    rw [List.filter_eq_nil_iff]
    intro key member
    obtain ⟨p, held, rfl⟩ := List.mem_map.mp member
    simp [absent p held]
  have kept : (update.filter fun p => isRangeFilter p.key.val) = [] := by
    rw [List.filter_eq_nil_iff]
    intro p held
    simp [absent p held]
  simp [applyFilterUpdate, rangeFilterParameters, mentioned, kept]

end Moqtap.RangeFilters
