import Moqtap.ByteCursor
import Moqtap.TraceEvents
import Mathlib.Data.String.Basic

/-! A trace header's map, written and read, with the maps of its segment and its sampling.

Unlike an event's reader, a header's takes the first entry of a key whatever it holds, so what is
asked of a store is about the first entry of each key left out (`Passed`). -/
namespace Moqtap.Trace
open Cbor

/-! ## Open enumerations -/

inductive Perspective.Known where
  | client
  | server
  | observer
  | relayTap
  deriving DecidableEq, Repr

/-- Who recorded a trace. -/
abbrev Perspective := OpenEnum Perspective.Known

instance : Spelling Perspective.Known where
  spelling
    | .client => "client"
    | .server => "server"
    | .observer => "observer"
    | .relayTap => "relay-tap"
  all := [.client, .server, .observer, .relayTap]
  complete known := by cases known <;> decide
  distinct a b same := by cases a <;> cases b <;> first | rfl | simp at same

inductive DetailLevel.Known where
  | control
  | headers
  | headersSizes
  | headersData
  | full
  deriving DecidableEq, Repr

/-- What a trace records. -/
abbrev DetailLevel := OpenEnum DetailLevel.Known

instance : Spelling DetailLevel.Known where
  spelling
    | .control => "control"
    | .headers => "headers"
    | .headersSizes => "headers+sizes"
    | .headersData => "headers+data"
    | .full => "full"
  all := [.control, .headers, .headersSizes, .headersData, .full]
  complete known := by cases known <;> decide
  distinct a b same := by cases a <;> cases b <;> first | rfl | simp at same

inductive DropPolicy.Known where
  | head
  | tail
  | sampled
  deriving DecidableEq, Repr

/-- Which events a source that could not keep up dropped. -/
abbrev DropPolicy := OpenEnum DropPolicy.Known

instance : Spelling DropPolicy.Known where
  spelling
    | .head => "head"
    | .tail => "tail"
    | .sampled => "sampled"
  all := [.head, .tail, .sampled]
  complete known := by cases known <;> decide
  distinct a b same := by cases a <;> cases b <;> first | rfl | simp at same

/-! ## Reading a key -/

def asBool : Value → Option Bool
  | .bool b => some b
  | _ => none

def asMap : Value → Option (List (Value × Value))
  | .map pairs => some pairs
  | _ => none

section Lookup
variable (pairs : List (Value × Value)) (key : String)

def findText : Option String := (find pairs key).bind Value.asText

def findUint : Option UInt64 := (find pairs key).bind Value.asU64

def findBool : Option Bool := (find pairs key).bind asBool

/-- A text a header cannot do without, and `label` its name in an error. -/
def requiredText (label : String) : Except Unusable String :=
  match find pairs key with
  | some v =>
    match v.asText with
    | some s => .ok s
    | none => .error (.invalidHeader s!"'{label}' is not a text string")
  | none => .error (.invalidHeader s!"missing '{label}'")

def requiredUint (label : String) : Except Unusable UInt64 :=
  match find pairs key with
  | some v =>
    match v.asU64 with
    | some n => .ok n
    | none => .error (.invalidHeader s!"'{label}' is not an unsigned integer")
  | none => .error (.invalidHeader s!"missing '{label}'")

end Lookup

/-! ## Segments -/

/-- One segment of a stream recorded in several files. -/
structure SegmentInfo where
  sequence : UInt64
  durationMs : Option UInt64 := none
  streamId : Option String := none
  continues : Option Bool := none
  extra : List (Value × Value) := []

namespace SegmentInfo

def writesKey (info : SegmentInfo) (key : String) : Bool :=
  key == "sequence" || (key == "durationMs" && info.durationMs.isSome) ||
    (key == "streamId" && info.streamId.isSome) || (key == "continues" && info.continues.isSome)

def fields (info : SegmentInfo) : Fields :=
  [("sequence", uint info.sequence)] ++ whenHeld "durationMs" (info.durationMs.map uint) ++
    whenHeld "streamId" (info.streamId.map .text) ++ whenHeld "continues" (info.continues.map .bool)

def entries (info : SegmentInfo) : List (Value × Value) :=
  named info.fields ++ storeEntries info.extra info.writesKey

def toValue (info : SegmentInfo) : Value := .map info.entries

def fromPairs (pairs : List (Value × Value)) : Except Unusable SegmentInfo := do
  let sequence ← requiredUint pairs "sequence" "segment.sequence"
  let info : SegmentInfo :=
    ⟨sequence, findUint pairs "durationMs", findText pairs "streamId", findBool pairs "continues", []⟩
  return { info with extra := unrecognised pairs info.writesKey }

end SegmentInfo

/-! ## Sampling -/

/-- A rate in its range; an integer is read as the float nearest to it. -/
def asRate (v : Value) : Option F64 :=
  let rate := match v with
    | .float f => some f
    | .integer n => (signed n).map fun n : Int64 => F64.ofInteger n.toInt
    | _ => none
  rate.filter F64.isRate

/-- Event types, all or none of them. -/
def asEventTypes (v : Value) : Option (List UInt64) :=
  match v with
  | .array items => items.mapM Value.asU64
  | _ => none

/-- What a source dropped, and by which rule. -/
structure SamplingInfo where
  effectiveRate : Option F64 := none
  maxEventsPerSec : Option UInt64 := none
  dropPolicy : Option DropPolicy := none
  droppedTotal : Option UInt64 := none
  droppedSegment : Option UInt64 := none
  rule : Option String := none
  ruleLang : Option String := none
  appliesTo : Option (List UInt64) := none
  extra : List (Value × Value) := []

namespace SamplingInfo

def writesKey (info : SamplingInfo) (key : String) : Bool :=
  (key == "effectiveRate" && info.effectiveRate.isSome) ||
    (key == "maxEventsPerSec" && info.maxEventsPerSec.isSome) ||
    (key == "dropPolicy" && info.dropPolicy.isSome) ||
    (key == "droppedTotal" && info.droppedTotal.isSome) ||
    (key == "droppedSegment" && info.droppedSegment.isSome) || (key == "rule" && info.rule.isSome) ||
    (key == "ruleLang" && info.ruleLang.isSome) || (key == "appliesTo" && info.appliesTo.isSome)

def fields (info : SamplingInfo) : Fields :=
  whenHeld "effectiveRate" (info.effectiveRate.map numberValue) ++
    whenHeld "maxEventsPerSec" (info.maxEventsPerSec.map uint) ++
    whenHeld "dropPolicy" (info.dropPolicy.map fun policy => .text policy.asStr) ++
    whenHeld "droppedTotal" (info.droppedTotal.map uint) ++
    whenHeld "droppedSegment" (info.droppedSegment.map uint) ++
    whenHeld "rule" (info.rule.map .text) ++ whenHeld "ruleLang" (info.ruleLang.map .text) ++
    whenHeld "appliesTo" (info.appliesTo.map fun types => .array (types.map uint))

def entries (info : SamplingInfo) : List (Value × Value) :=
  named info.fields ++ storeEntries info.extra info.writesKey

def toValue (info : SamplingInfo) : Value := .map info.entries

def fromPairs (pairs : List (Value × Value)) : SamplingInfo :=
  let info : SamplingInfo := {
    effectiveRate := (find pairs "effectiveRate").bind asRate
    maxEventsPerSec := findUint pairs "maxEventsPerSec"
    dropPolicy := (findText pairs "dropPolicy").map .parse
    droppedTotal := findUint pairs "droppedTotal"
    droppedSegment := findUint pairs "droppedSegment"
    rule := findText pairs "rule"
    ruleLang := findText pairs "ruleLang"
    appliesTo := (find pairs "appliesTo").bind asEventTypes }
  { info with extra := unrecognised pairs info.writesKey }

end SamplingInfo

/-! ## Custom metadata -/

/-- An ordered map with text keys. -/
@[ext] structure Custom where
  entries : List (String × Value)
  ordered : entries.Pairwise fun entry later => entry.1 < later.1

/-- Insertion into an ordered map; a key that is held gets the value. -/
def insertEntry (key : String) (value : Value) : List (String × Value) → List (String × Value)
  | [] => [(key, value)]
  | entry :: entries =>
    if key < entry.1 then (key, value) :: entry :: entries
    else if key = entry.1 then (key, value) :: entries
    else entry :: insertEntry key value entries

theorem mem_insertEntry {key : String} {value : Value} {entries : List (String × Value)}
    {entry : String × Value} (member : entry ∈ insertEntry key value entries) :
    entry = (key, value) ∨ entry ∈ entries := by
  induction entries with
  | nil => exact .inl (List.mem_singleton.mp member)
  | cons first entries ih =>
    unfold insertEntry at member
    split_ifs at member
    · exact List.mem_cons.mp member
    · exact (List.mem_cons.mp member).imp_right (List.mem_cons_of_mem _)
    · rcases List.mem_cons.mp member with rfl | member
      · exact .inr List.mem_cons_self
      · exact (ih member).imp_right (List.mem_cons_of_mem _)

theorem insertEntry_ordered {key : String} {value : Value} {entries : List (String × Value)}
    (ordered : entries.Pairwise fun entry later => entry.1 < later.1) :
    (insertEntry key value entries).Pairwise fun entry later => entry.1 < later.1 := by
  induction entries with
  | nil => exact List.pairwise_singleton ..
  | cons first entries ih =>
    obtain ⟨before, ordered'⟩ := List.pairwise_cons.mp ordered
    unfold insertEntry
    split_ifs with less same
    · refine List.pairwise_cons.mpr ⟨fun entry member => ?_, ordered⟩
      rcases List.mem_cons.mp member with rfl | member
      · exact less
      · exact less.trans (before entry member)
    · exact List.pairwise_cons.mpr ⟨fun entry member => same ▸ before entry member, ordered'⟩
    · refine List.pairwise_cons.mpr ⟨fun entry member => ?_, ih ordered'⟩
      rcases mem_insertEntry member with rfl | member
      · exact lt_of_le_of_ne (not_lt.mp less) (Ne.symm same)
      · exact before entry member

namespace Custom

def empty : Custom := ⟨[], .nil⟩

def insert (custom : Custom) (entry : String × Value) : Custom :=
  ⟨insertEntry entry.1 entry.2 custom.entries, insertEntry_ordered custom.ordered⟩

/-- Kept where the map can hold it exactly: every key a text, and none twice. -/
def ofPairs (pairs : List (Value × Value)) : Option Custom :=
  ((pairs.mapM fun entry : Value × Value => entry.1.asText.map (·, entry.2)).map fun entries =>
    entries.foldl insert empty).filter fun custom => custom.entries.length == pairs.length

/-- The values in the encoding the format asks for. -/
def normalised (custom : Custom) : Custom where
  entries := custom.entries.map fun entry => (entry.1, Cbor.normalised entry.2)
  ordered := List.pairwise_map.mpr custom.ordered

def toValue (custom : Custom) : Value :=
  .map (custom.entries.map fun entry => (.text entry.1, Cbor.normalised entry.2))

end Custom

def asCustom (v : Value) : Option Custom := (asMap v).bind Custom.ofPairs

/-! ## Headers -/

structure TraceHeader where
  protocol : String
  perspective : Perspective
  detail : DetailLevel
  startTime : UInt64
  endTime : Option UInt64 := none
  transport : Option String := none
  source : Option String := none
  endpoint : Option String := none
  sessionId : Option String := none
  segment : Option SegmentInfo := none
  sampling : Option SamplingInfo := none
  custom : Option Custom := none
  extra : List (Value × Value) := []

namespace TraceHeader

def writesKey (header : TraceHeader) (key : String) : Bool :=
  ["protocol", "perspective", "detail", "startTime"].contains key ||
    (key == "endTime" && header.endTime.isSome) || (key == "transport" && header.transport.isSome) ||
    (key == "source" && header.source.isSome) || (key == "endpoint" && header.endpoint.isSome) ||
    (key == "sessionId" && header.sessionId.isSome) || (key == "segment" && header.segment.isSome) ||
    (key == "sampling" && header.sampling.isSome) || (key == "custom" && header.custom.isSome)

def fields (header : TraceHeader) : Fields :=
  [("protocol", .text header.protocol), ("perspective", .text header.perspective.asStr),
    ("detail", .text header.detail.asStr), ("startTime", uint header.startTime)] ++
    whenHeld "endTime" (header.endTime.map uint) ++ whenHeld "transport" (header.transport.map .text) ++
    whenHeld "source" (header.source.map .text) ++ whenHeld "endpoint" (header.endpoint.map .text) ++
    whenHeld "sessionId" (header.sessionId.map .text) ++
    whenHeld "segment" (header.segment.map SegmentInfo.toValue) ++
    whenHeld "sampling" (header.sampling.map SamplingInfo.toValue) ++
    whenHeld "custom" (header.custom.map Custom.toValue)

def entries (header : TraceHeader) : List (Value × Value) :=
  named header.fields ++ storeEntries header.extra header.writesKey

def toValue (header : TraceHeader) : Value := .map header.entries

/-- A segment that is no map is not read, and one without its number fails the header. -/
def readSegment (pairs : List (Value × Value)) : Except Unusable (Option SegmentInfo) :=
  match (find pairs "segment").bind asMap with
  | some segment => (SegmentInfo.fromPairs segment).map some
  | none => .ok none

def fromValue (v : Value) : Except Unusable TraceHeader :=
  match v with
  | .map pairs => do
    let protocol ← requiredText pairs "protocol" "protocol"
    let perspective ← requiredText pairs "perspective" "perspective"
    let detail ← requiredText pairs "detail" "detail"
    let startTime ← requiredUint pairs "startTime" "startTime"
    let segment ← readSegment pairs
    let header : TraceHeader := {
      protocol
      perspective := .parse perspective
      detail := .parse detail
      startTime
      endTime := findUint pairs "endTime"
      transport := findText pairs "transport"
      source := findText pairs "source"
      endpoint := findText pairs "endpoint"
      sessionId := findText pairs "sessionId"
      segment
      sampling := ((find pairs "sampling").bind asMap).map SamplingInfo.fromPairs
      custom := (find pairs "custom").bind asCustom }
    return { header with extra := unrecognised pairs header.writesKey }
  | _ => .error (.invalidHeader "header is not a CBOR map")

end TraceHeader

/-! ## Rates -/

theorem exponent_fraction (f : F64) (positive : f.bits.toNat < 2 ^ 63) :
    f.bits.toNat = f.exponent * 2 ^ 52 + f.fraction := by
  unfold F64.exponent F64.fraction
  omega

theorem fraction_lt (f : F64) : f.fraction < 2 ^ 52 := Nat.mod_lt _ (by decide)

/-- The bits of one. -/
theorem one_bits : F64.one.bits.toNat = 1023 * 2 ^ 52 := by decide

theorem eq_one {f : F64} (positive : f.bits.toNat < 2 ^ 63) (exponent : f.exponent = 1023)
    (fraction : f.fraction = 0) : f = F64.one := by
  have bits := exponent_fraction f positive
  rw [exponent, fraction] at bits
  obtain ⟨bits'⟩ := f
  exact congrArg F64.mk (UInt64.toNat_inj.mp (bits.trans one_bits.symm))

/-- A significand is a multiple of a power of two above its own only at the power itself. -/
theorem significand_dvd {fraction shift : Nat} (small : fraction < 2 ^ 52) (above : 52 ≤ shift)
    (divides : (2 ^ 52 + fraction) % 2 ^ shift = 0) : shift = 52 ∧ fraction = 0 := by
  have exact' : shift = 52 := by
    by_contra other
    have more : 2 ^ 53 ≤ 2 ^ shift := Nat.pow_le_pow_right (by decide) (by omega)
    rw [Nat.mod_eq_of_lt (by omega)] at divides
    omega
  subst exact'
  exact ⟨rfl, by omega⟩

/-- One is the only rate without a fractional part. -/
theorem rate_integer {f : F64} {n : Int} (rate : f.isRate = true) (whole : f.toInteger = some n) :
    n = 1 ∧ f = F64.one := by
  obtain ⟨positive, most⟩ : 0 < f.bits.toNat ∧ f.bits.toNat ≤ F64.one.bits.toNat := by
    simpa [F64.isRate] using rate
  rw [one_bits] at most
  have bits := exponent_fraction f (by omega)
  have small := fraction_lt f
  obtain ⟨magnitude, found, same⟩ := Option.map_eq_some_iff.mp whole
  have sign : f.negative = false := by
    simp only [F64.negative, decide_eq_false_iff_not]
    omega
  unfold F64.magnitude at found
  by_cases subnormal : f.exponent = 0
  · rw [if_pos subnormal, if_neg (by omega)] at found
    cases found
  · rw [if_neg subnormal, if_pos (by omega)] at found
    split at found
    · rename_i divides
      obtain ⟨shift, fraction⟩ := significand_dvd small (by omega) divides
      have exponent : f.exponent = 1023 := by omega
      rw [exponent, fraction] at found
      cases found
      rw [sign] at same
      exact ⟨same.symm, eq_one (by omega) exponent fraction⟩
    · cases found

/-- One is the only float that stands for one. -/
theorem integer_one {f : F64} (whole : f.toInteger = some 1) : f = F64.one := by
  obtain ⟨magnitude, found, same⟩ := Option.map_eq_some_iff.mp whole
  have small := fraction_lt f
  cases sign : f.negative with
  | true =>
    rw [sign] at same
    have less : -(magnitude : Int) = 1 := same
    omega
  | false =>
    have positive : f.bits.toNat < 2 ^ 63 := by
      simp only [F64.negative, decide_eq_false_iff_not] at sign
      omega
    rw [sign] at same
    have one : magnitude = 1 := by
      have same : (magnitude : Int) = 1 := same
      omega
    subst one
    unfold F64.magnitude at found
    split at found
    · split at found <;> cases found
    · split at found
      · split at found
        · rename_i divides
          simp only [Option.some.injEq] at found
          have power := Nat.div_add_mod (2 ^ 52 + f.fraction) (2 ^ (1075 - f.exponent))
          rw [found, divides] at power
          have above : 52 ≤ 1075 - f.exponent := by
            by_contra below
            have less : 2 ^ (1075 - f.exponent) ≤ 2 ^ 51 := Nat.pow_le_pow_right (by decide) (by omega)
            omega
          obtain ⟨shift, fraction⟩ := significand_dvd small above divides
          exact eq_one positive (by omega) fraction
        · cases found
      · split at found
        · simp only [Option.some.injEq] at found
          omega
        · split at found <;> cases found

theorem nearestBits_bounds {n : Nat} (more : 2 ≤ n) (most : n ≤ 2 ^ 63) :
    1023 * 2 ^ 52 < F64.nearestBits n ∧ F64.nearestBits n < 2 ^ 63 := by
  have positive : n ≠ 0 := by omega
  have least : 1 ≤ n.log2 := (Nat.le_log2 positive).mpr more
  have greatest : n.log2 ≤ 63 := by
    by_contra beyond
    have big := Nat.log2_self_le positive
    have power : 2 ^ 64 ≤ 2 ^ n.log2 := Nat.pow_le_pow_right (by decide) (by omega)
    omega
  have below := Nat.lt_log2_self (n := n)
  unfold F64.nearestBits
  rw [if_neg positive]
  split
  · rename_i few
    have scaled : n * 2 ^ (52 - n.log2) < 2 ^ 53 := by
      have same : 2 ^ (n.log2 + 1) * 2 ^ (52 - n.log2) = 2 ^ 53 := by
        rw [← Nat.pow_add]
        congr 1
        omega
      rw [← same]
      exact Nat.mul_lt_mul_of_pos_right below (by positivity)
    omega
  · rename_i many
    have quotient : n / 2 ^ (n.log2 - 52) < 2 ^ 53 := by
      have same : 2 ^ 53 * 2 ^ (n.log2 - 52) = 2 ^ (n.log2 + 1) := by
        rw [← Nat.pow_add]
        congr 1
        omega
      exact Nat.div_lt_of_lt_mul (by rw [Nat.mul_comm, same]; exact below)
    dsimp only
    split <;> omega

theorem nearestBits_lt {n : Nat} (most : n ≤ 2 ^ 63) : F64.nearestBits n < 2 ^ 63 := by
  match n with
  | 0 | 1 => decide
  | n + 2 => exact (nearestBits_bounds (by omega) most).2

/-- The only integer in a rate's range is one. -/
theorem isRate_ofInteger {n : Int} (least : -2 ^ 63 ≤ n) (most : n < 2 ^ 63) (other : n ≠ 1) :
    (F64.ofInteger n).isRate = false := by
  have small : F64.nearestBits n.natAbs < 2 ^ 63 := nearestBits_lt (by omega)
  unfold F64.isRate F64.ofInteger
  rw [decide_eq_false_iff_not, one_bits]
  split
  · rw [UInt64.toNat_ofNat_of_lt' (by change _ < 2 ^ 64; omega)]
    omega
  · rename_i positive
    rw [UInt64.toNat_ofNat_of_lt' (by change _ < 2 ^ 64; omega)]
    by_cases zero : n = 0
    · subst zero
      decide
    · have beyond := (nearestBits_bounds (n := n.natAbs) (by omega) (by omega)).1
      omega

/-! ## Reading back -/

section Held
variable {write : α → Value} {read : Value → Option α} {store : List (Value × Value)} {key : String}

theorem find_back {held : Option α} (inverse : ∀ a ∈ held, read (write a) = some a)
    (missing : held = none → (find store key).bind read = none) :
    ((held.map write).or (firstUsable some store key)).bind read = held := by
  cases held with
  | none =>
    rw [find_eq] at missing
    exact missing rfl
  | some a => exact inverse a rfl

theorem find_spelling {κ : Type} [Spelling κ] {held : Option (OpenEnum κ)}
    (canonical : ∀ name ∈ held, name.Canonical) (missing : held = none → findText store key = none) :
    ((((held.map fun name => Value.text name.asStr).or (firstUsable some store key)).bind
      Value.asText).map OpenEnum.parse) = held := by
  cases held with
  | none =>
    rw [findText, find_eq] at missing
    simp [missing rfl]
  | some name => simp [OpenEnum.parse_asStr (canonical name rfl)]

end Held

@[simp] theorem asBool_bool (b : Bool) : asBool (.bool b) = some b := rfl

@[simp] theorem asMap_map (pairs : List (Value × Value)) : asMap (.map pairs) = some pairs := rfl

namespace SegmentInfo

/-- What some entries are to give no reader: the keys a segment leaves out. -/
def Unread (info : SegmentInfo) (pairs : List (Value × Value)) : Prop :=
  (info.durationMs = none → findUint pairs "durationMs" = none) ∧
  (info.streamId = none → findText pairs "streamId" = none) ∧
  (info.continues = none → findBool pairs "continues" = none)

/-- A segment that is written as it is held. -/
structure Settled (info : SegmentInfo) : Prop where
  unread : info.Unread info.extra
  store : Cbor.Settled info.writesKey info.extra

theorem writesKey_iff (info : SegmentInfo) (key : String) :
    info.writesKey key = true ↔ key ∈ info.fields.map Prod.fst := by
  simp only [writesKey, fields, Bool.or_eq_true, Bool.and_eq_true, beq_iff_eq, List.map_append,
    List.mem_append, mem_keys_whenHeld, Option.isSome_map, List.map_cons, List.map_nil, List.mem_singleton]
  grind

theorem keys_nodup (info : SegmentInfo) : (info.fields.map Prod.fst).Nodup := by
  simp [fields, List.nodup_append, nodup_keys_whenHeld, or_imp, forall_and, -List.mem_map]

theorem Settled.read {info : SegmentInfo} (settled : info.Settled) :
    fromPairs info.entries = .ok info := by
  rw [entries, settled.store.written]
  obtain ⟨durationMs, streamId, continues⟩ := settled.unread
  have taken := unrecognised_named (fun field member => (info.writesKey_iff _).mpr (List.mem_map_of_mem member))
    info.keys_nodup settled.store.apart
  have duration : findUint (named info.fields ++ info.extra) "durationMs" = info.durationMs := by
    simp [findUint, find_eq, fields, firstUsable_append, find_back (fun n _ => asU64_uint n) durationMs]
  have stream : findText (named info.fields ++ info.extra) "streamId" = info.streamId := by
    simp [findText, find_eq, fields, firstUsable_append, find_back (fun s _ => asText_text s) streamId]
  have continues : findBool (named info.fields ++ info.extra) "continues" = info.continues := by
    simp [findBool, find_eq, fields, firstUsable_append, find_back (fun b _ => asBool_bool b) continues]
  have sequence : requiredUint (named info.fields ++ info.extra) "sequence" "segment.sequence" =
      .ok info.sequence := by
    simp [requiredUint, find_eq, fields, firstUsable_append]
  unfold fromPairs
  rw [sequence, duration, stream, continues]
  exact congrArg (fun extra => Except.ok { info with extra }) taken

end SegmentInfo

theorem asRate_numberValue {r : F64} (rate : r.isRate = true) : asRate (numberValue r) = some r := by
  unfold numberValue
  cases whole : r.toInteger with
  | none => simp [asRate, rate]
  | some n =>
    obtain ⟨rfl, rfl⟩ := rate_integer rate whole
    decide

theorem mapM_asU64 (types : List UInt64) : types.mapM (Value.asU64 ∘ uint) = some types := by
  induction types with
  | nil => rfl
  | cons n types ih => simp [List.mapM_cons, ih]

theorem asEventTypes_array (types : List UInt64) : asEventTypes (.array (types.map uint)) = some types := by
  simp [asEventTypes, mapM_asU64]

namespace SamplingInfo

/-- What some entries are to give no reader: the keys that are left out. -/
def Unread (info : SamplingInfo) (pairs : List (Value × Value)) : Prop :=
  (info.effectiveRate = none → (find pairs "effectiveRate").bind asRate = none) ∧
  (info.maxEventsPerSec = none → findUint pairs "maxEventsPerSec" = none) ∧
  (info.dropPolicy = none → findText pairs "dropPolicy" = none) ∧
  (info.droppedTotal = none → findUint pairs "droppedTotal" = none) ∧
  (info.droppedSegment = none → findUint pairs "droppedSegment" = none) ∧
  (info.rule = none → findText pairs "rule" = none) ∧
  (info.ruleLang = none → findText pairs "ruleLang" = none) ∧
  (info.appliesTo = none → (find pairs "appliesTo").bind asEventTypes = none)

/-- Sampling metadata that is written as it is held. -/
structure Settled (info : SamplingInfo) : Prop where
  rate : ∀ r ∈ info.effectiveRate, r.isRate = true
  canonical : ∀ policy ∈ info.dropPolicy, policy.Canonical
  unread : info.Unread info.extra
  store : Cbor.Settled info.writesKey info.extra

theorem writesKey_iff (info : SamplingInfo) (key : String) :
    info.writesKey key = true ↔ key ∈ info.fields.map Prod.fst := by
  simp only [writesKey, fields, Bool.or_eq_true, Bool.and_eq_true, beq_iff_eq, List.map_append,
    List.mem_append, mem_keys_whenHeld, Option.isSome_map]
  grind

theorem keys_nodup (info : SamplingInfo) : (info.fields.map Prod.fst).Nodup := by
  simp [fields, List.nodup_append, nodup_keys_whenHeld, or_imp, forall_and, -List.mem_map]

theorem Settled.read {info : SamplingInfo} (settled : info.Settled) :
    fromPairs info.entries = info := by
  rw [entries, settled.store.written]
  obtain ⟨rate, most, policy, total, segment, rule, lang, applies⟩ := settled.unread
  have taken := unrecognised_named (fun field member => (info.writesKey_iff _).mpr (List.mem_map_of_mem member))
    info.keys_nodup settled.store.apart
  have rate : (find (named info.fields ++ info.extra) "effectiveRate").bind asRate = info.effectiveRate := by
    simp [find_eq, fields, firstUsable_append,
      find_back (fun r held => asRate_numberValue (settled.rate r held)) rate]
  have most : findUint (named info.fields ++ info.extra) "maxEventsPerSec" = info.maxEventsPerSec := by
    simp [findUint, find_eq, fields, firstUsable_append, find_back (fun n _ => asU64_uint n) most]
  have policy : (findText (named info.fields ++ info.extra) "dropPolicy").map .parse = info.dropPolicy := by
    simp [findText, find_eq, fields, firstUsable_append, find_spelling settled.canonical policy]
  have total : findUint (named info.fields ++ info.extra) "droppedTotal" = info.droppedTotal := by
    simp [findUint, find_eq, fields, firstUsable_append, find_back (fun n _ => asU64_uint n) total]
  have segment : findUint (named info.fields ++ info.extra) "droppedSegment" = info.droppedSegment := by
    simp [findUint, find_eq, fields, firstUsable_append, find_back (fun n _ => asU64_uint n) segment]
  have rule : findText (named info.fields ++ info.extra) "rule" = info.rule := by
    simp [findText, find_eq, fields, firstUsable_append, find_back (fun s _ => asText_text s) rule]
  have lang : findText (named info.fields ++ info.extra) "ruleLang" = info.ruleLang := by
    simp [findText, find_eq, fields, firstUsable_append, find_back (fun s _ => asText_text s) lang]
  have applies : (find (named info.fields ++ info.extra) "appliesTo").bind asEventTypes = info.appliesTo := by
    simp [find_eq, fields, firstUsable_append, find_back (fun types _ => asEventTypes_array types) applies]
  unfold fromPairs
  rw [rate, most, policy, total, segment, rule, lang, applies]
  exact congrArg (fun extra => { info with extra }) taken

end SamplingInfo

namespace Custom

theorem insertEntry_last {key : String} {value : Value} {entries : List (String × Value)}
    (last : ∀ entry ∈ entries, entry.1 < key) : insertEntry key value entries = entries ++ [(key, value)] := by
  induction entries with
  | nil => rfl
  | cons first entries ih =>
    have before := last first List.mem_cons_self
    unfold insertEntry
    rw [if_neg before.not_gt, if_neg before.ne', ih fun entry member => last entry (List.mem_cons_of_mem _ member)]
    rfl

theorem foldl_insert {custom : Custom} {entries : List (String × Value)}
    (ordered : (custom.entries ++ entries).Pairwise fun entry later => entry.1 < later.1) :
    (entries.foldl insert custom).entries = custom.entries ++ entries := by
  induction entries generalizing custom with
  | nil => exact (List.append_nil _).symm
  | cons entry entries ih =>
    have before := (List.pairwise_append.mp ordered).2.2
    have step : (custom.insert entry).entries = custom.entries ++ [entry] :=
      insertEntry_last fun earlier member => before earlier member entry List.mem_cons_self
    rw [List.foldl_cons, ih (by rw [step]; simpa using ordered), step, List.append_assoc, List.singleton_append]

theorem asCustom_toValue (custom : Custom) : asCustom custom.toValue = some custom.normalised := by
  have texts (entries : List (String × Value)) :
      (entries.map fun entry => (Value.text entry.1, entry.2)).mapM
        (fun entry : Value × Value => entry.1.asText.map (·, entry.2)) = some entries := by
    induction entries with
    | nil => rfl
    | cons entry entries ih => simp [List.mapM_cons, ih]
  have value : custom.toValue = .map (custom.normalised.entries.map fun entry => (.text entry.1, entry.2)) := by
    simp [toValue, normalised, Function.comp_def]
  have held : (custom.normalised.entries.foldl insert empty).entries = custom.normalised.entries :=
    foldl_insert custom.normalised.ordered
  rw [value]
  unfold asCustom asMap ofPairs
  rw [Option.bind_some, texts, Option.map_some, Option.filter_some, if_pos (by simp [held])]
  exact congrArg some (Custom.ext held)

end Custom

namespace TraceHeader

/-- What some entries are to give no reader: the keys a header leaves out. -/
def Unread (header : TraceHeader) (pairs : List (Value × Value)) : Prop :=
  (header.endTime = none → findUint pairs "endTime" = none) ∧
  (header.transport = none → findText pairs "transport" = none) ∧
  (header.source = none → findText pairs "source" = none) ∧
  (header.endpoint = none → findText pairs "endpoint" = none) ∧
  (header.sessionId = none → findText pairs "sessionId" = none) ∧
  (header.segment = none → (find pairs "segment").bind asMap = none) ∧
  (header.sampling = none → (find pairs "sampling").bind asMap = none) ∧
  (header.custom = none → (find pairs "custom").bind asCustom = none)

/-- A header that is written as it is held. -/
structure Settled (header : TraceHeader) : Prop where
  perspective : header.perspective.Canonical
  detail : header.detail.Canonical
  segment : ∀ info ∈ header.segment, info.Settled
  sampling : ∀ info ∈ header.sampling, info.Settled
  custom : ∀ custom ∈ header.custom, custom.normalised = custom
  unread : header.Unread header.extra
  store : Cbor.Settled header.writesKey header.extra

theorem writesKey_iff (header : TraceHeader) (key : String) :
    header.writesKey key = true ↔ key ∈ header.fields.map Prod.fst := by
  simp only [writesKey, fields, Bool.or_eq_true, Bool.and_eq_true, beq_iff_eq, List.map_append,
    List.mem_append, mem_keys_whenHeld, Option.isSome_map, List.contains_iff_mem, List.mem_cons,
    List.not_mem_nil, List.map_cons, List.map_nil]
  grind

theorem keys_nodup (header : TraceHeader) : (header.fields.map Prod.fst).Nodup := by
  simp [fields, List.nodup_append, nodup_keys_whenHeld, or_imp, forall_and, -List.mem_map]

theorem find_map {α : Type} {write : α → Value} {inner : α → List (Value × Value)} {held : Option α}
    {store : List (Value × Value)} {key : String} (each : ∀ a, write a = .map (inner a))
    (missing : held = none → (find store key).bind asMap = none) :
    ((held.map write).or (firstUsable some store key)).bind asMap = held.map inner := by
  cases held with
  | none =>
    rw [find_eq] at missing
    exact missing rfl
  | some a =>
    change (some (write a)).bind asMap = _
    rw [each]
    rfl

/-- A settled header is read back as it is held. -/
theorem Settled.read {header : TraceHeader} (settled : header.Settled) :
    fromValue header.toValue = .ok header := by
  rw [toValue, entries, settled.store.written]
  obtain ⟨endTime, transport, source, endpoint, sessionId, segment, sampling, custom⟩ := settled.unread
  have taken := unrecognised_named (fun field member => (header.writesKey_iff _).mpr (List.mem_map_of_mem member))
    header.keys_nodup settled.store.apart
  have segment : readSegment (named header.fields ++ header.extra) = .ok header.segment := by
    have found : (find (named header.fields ++ header.extra) "segment").bind asMap =
        header.segment.map SegmentInfo.entries := by
      simp [find_eq, fields, firstUsable_append,
        find_map (fun info : SegmentInfo => (rfl : info.toValue = .map info.entries)) segment]
    unfold readSegment
    rw [found]
    cases held : header.segment with
    | none => rfl
    | some info => exact congrArg (Except.map some) (settled.segment info held).read
  have sampling : ((find (named header.fields ++ header.extra) "sampling").bind asMap).map
      SamplingInfo.fromPairs = header.sampling := by
    have found : (find (named header.fields ++ header.extra) "sampling").bind asMap =
        header.sampling.map SamplingInfo.entries := by
      simp [find_eq, fields, firstUsable_append,
        find_map (fun info : SamplingInfo => (rfl : info.toValue = .map info.entries)) sampling]
    rw [found]
    cases held : header.sampling with
    | none => rfl
    | some info => exact congrArg some (settled.sampling info held).read
  have custom : (find (named header.fields ++ header.extra) "custom").bind asCustom = header.custom := by
    have inverse (custom : Custom) (held : custom ∈ header.custom) : asCustom custom.toValue = some custom := by
      rw [custom.asCustom_toValue, settled.custom custom held]
    simp [find_eq, fields, firstUsable_append, find_back inverse custom]
  have endTime : findUint (named header.fields ++ header.extra) "endTime" = header.endTime := by
    simp [findUint, find_eq, fields, firstUsable_append, find_back (fun n _ => asU64_uint n) endTime]
  have transport : findText (named header.fields ++ header.extra) "transport" = header.transport := by
    simp [findText, find_eq, fields, firstUsable_append, find_back (fun s _ => asText_text s) transport]
  have source : findText (named header.fields ++ header.extra) "source" = header.source := by
    simp [findText, find_eq, fields, firstUsable_append, find_back (fun s _ => asText_text s) source]
  have endpoint : findText (named header.fields ++ header.extra) "endpoint" = header.endpoint := by
    simp [findText, find_eq, fields, firstUsable_append, find_back (fun s _ => asText_text s) endpoint]
  have sessionId : findText (named header.fields ++ header.extra) "sessionId" = header.sessionId := by
    simp [findText, find_eq, fields, firstUsable_append, find_back (fun s _ => asText_text s) sessionId]
  have required : requiredText (named header.fields ++ header.extra) "protocol" "protocol" = .ok header.protocol ∧
      requiredText (named header.fields ++ header.extra) "perspective" "perspective" =
        .ok header.perspective.asStr ∧
      requiredText (named header.fields ++ header.extra) "detail" "detail" = .ok header.detail.asStr ∧
      requiredUint (named header.fields ++ header.extra) "startTime" "startTime" = .ok header.startTime := by
    simp [requiredText, requiredUint, find_eq, fields, firstUsable_append]
  obtain ⟨protocol, perspective, detail, startTime⟩ := required
  simp only [fromValue, protocol, perspective, detail, startTime, segment, sampling, custom, endTime, transport,
    source, endpoint, sessionId, except_ok_bind, OpenEnum.parse_asStr settled.perspective,
    OpenEnum.parse_asStr settled.detail]
  exact congrArg (fun extra => Except.ok { header with extra }) taken

end TraceHeader

theorem SegmentInfo.Settled.fresh {info : SegmentInfo} (extra : info.extra = []) : info.Settled where
  unread := by rw [extra]; exact ⟨fun _ => rfl, fun _ => rfl, fun _ => rfl⟩
  store := by rw [extra]; exact ⟨.nil, rfl, nofun⟩

theorem SamplingInfo.Settled.fresh {info : SamplingInfo} (extra : info.extra = [])
    (rate : ∀ r ∈ info.effectiveRate, r.isRate = true)
    (canonical : ∀ policy ∈ info.dropPolicy, policy.Canonical) : info.Settled where
  rate := rate
  canonical := canonical
  unread := by
    rw [extra]
    exact ⟨fun _ => rfl, fun _ => rfl, fun _ => rfl, fun _ => rfl, fun _ => rfl, fun _ => rfl, fun _ => rfl,
      fun _ => rfl⟩
  store := by rw [extra]; exact ⟨.nil, rfl, nofun⟩

namespace TraceHeader

/-- **A header is read back exactly as it was made**, whatever it leaves out, where its names are
those of the format, its rate is in range and its custom metadata is as the format asks. -/
theorem header_read_back {header : TraceHeader} (extra : header.extra = [])
    (perspective : header.perspective.Canonical) (detail : header.detail.Canonical)
    (segment : ∀ info ∈ header.segment, info.extra = [])
    (sampling : ∀ info ∈ header.sampling, info.extra = [] ∧ (∀ r ∈ info.effectiveRate, r.isRate = true) ∧
      ∀ policy ∈ info.dropPolicy, policy.Canonical)
    (custom : ∀ custom ∈ header.custom, ∀ entry ∈ custom.entries, conforming entry.2 = true) :
    fromValue header.toValue = .ok header := by
  refine Settled.read ⟨perspective, detail, fun info held => .fresh (segment info held),
    fun info held => ?_, fun custom' held => ?_, ?_, ?_⟩
  · obtain ⟨extra, rate, canonical⟩ := sampling info held
    exact .fresh extra rate canonical
  · refine Custom.ext ((List.map_congr_left fun entry member => ?_).trans (List.map_id _))
    exact congrArg (Prod.mk entry.1) (normalised_of_conforming _ (custom custom' held entry member))
  · rw [extra]
    exact ⟨fun _ => rfl, fun _ => rfl, fun _ => rfl, fun _ => rfl, fun _ => rfl, fun _ => rfl, fun _ => rfl,
      fun _ => rfl⟩
  · rw [extra]
    exact ⟨.nil, rfl, nofun⟩

/-- A header with a rate of a half and with custom metadata. -/
def sampled : TraceHeader where
  protocol := "moq"
  perspective := .known .relayTap
  detail := .other "x"
  startTime := 9
  segment := some { sequence := 0, continues := some false }
  sampling := some { effectiveRate := some ⟨0x3FE0000000000000⟩, appliesTo := some [3, 4] }
  custom := some ⟨[("payloadMasked", .bool true)], List.pairwise_singleton ..⟩

theorem header_read_back_sampled : fromValue sampled.toValue = .ok sampled := by
  refine header_read_back rfl (nofun) ?_ ?_ ?_ ?_
  · intro s same known
    cases same
    cases known <;> decide
  · rintro info ⟨⟩
    rfl
  · rintro info ⟨⟩
    refine ⟨rfl, ?_, nofun⟩
    rintro r ⟨⟩
    decide
  · rintro custom ⟨⟩ entry member
    cases List.mem_singleton.mp member
    rfl

end TraceHeader

end Moqtap.Trace
