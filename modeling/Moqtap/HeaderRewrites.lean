import Moqtap.TraceHeaders
import Moqtap.TraceRewrites

/-! A header's map that was read and is written again.

The maps of its segment and its sampling are settled before its own is. What a reader could not use
stays unusable in the encoding the format asks for, with one exception: a `"custom"` that repeats a
text key loses the repeat, and is a map of its own when it is read again. -/
namespace Moqtap.Trace
open Cbor
open ByteCursor (except_bind_iff)

section Passed
variable {pairs : List (Value × Value)} {writesKey : String → Bool} {key : String}

theorem find_plain (plained : plainPairs pairs = true) {v : Value} (found : find pairs key = some v) :
    plain v = true := by
  obtain ⟨entry, held, rfl⟩ := Option.map_eq_some_iff.mp found
  exact (plainPairs_iff.mp plained entry (List.mem_of_find?_eq_some held)).2

/-- What the first entry of a key left out could not be used as, it cannot be used as once it is
written. -/
theorem find_passed {read : Value → Option α} (plained : plainPairs pairs = true)
    (through : ∀ v, find pairs key = some v → plain v = true → read v = none → read (normalised v) = none)
    (foreign : writesKey key = false) (missing : (find pairs key).bind read = none) :
    (find (storeEntries (unrecognised pairs writesKey) writesKey) key).bind read = none := by
  have found : find (storeEntries (unrecognised pairs writesKey) writesKey) key =
      (find pairs key).map normalised := by
    rw [find_eq, find_eq, firstUsable_storeEntries foreign, firstUsable_unrecognised foreign]
  rw [found]
  cases first : find pairs key with
  | none => rfl
  | some v =>
    rw [first] at missing
    exact through v first (find_plain plained first) missing

theorem uint_passed (plained : plainPairs pairs = true) (foreign : writesKey key = false)
    (missing : findUint pairs key = none) :
    findUint (storeEntries (unrecognised pairs writesKey) writesKey) key = none :=
  find_passed plained (fun v _ _ absent => (asU64_normalised v).trans absent) foreign missing

theorem text_passed (plained : plainPairs pairs = true) (foreign : writesKey key = false)
    (missing : findText pairs key = none) :
    findText (storeEntries (unrecognised pairs writesKey) writesKey) key = none :=
  find_passed plained (fun v _ _ absent => (asText_normalised v).trans absent) foreign missing

theorem asBool_normalised (v : Value) : asBool (normalised v) = asBool v := by
  cases v with
  | float f =>
    rcases normalised_float f with ⟨-, same⟩ | ⟨n, -, same⟩
    · rw [same]
    · rw [same]
      rfl
  | tag t inner =>
    rcases normalised_tag t inner with ⟨-, same⟩ | ⟨raw, -, same⟩
    · rw [same]
      rfl
    · rw [same]
      rfl
  | _ => rfl

theorem asMap_normalised (v : Value) :
    asMap (normalised v) = (asMap v).map fun pairs => deduplicated (normalisedPairs pairs) := by
  cases v with
  | float f =>
    rcases normalised_float f with ⟨-, same⟩ | ⟨n, -, same⟩
    · rw [same]
      rfl
    · rw [same]
      rfl
  | tag t inner =>
    rcases normalised_tag t inner with ⟨-, same⟩ | ⟨raw, -, same⟩
    · rw [same]
      rfl
    · rw [same]
      rfl
  | _ => rfl

theorem asMap_passed (v : Value) (absent : asMap v = none) : asMap (normalised v) = none := by
  rw [asMap_normalised, absent]
  rfl

theorem asEventTypes_normalised (v : Value) : asEventTypes (normalised v) = asEventTypes v := by
  cases v with
  | array items =>
    change (normalisedItems items).mapM Value.asU64 = items.mapM Value.asU64
    induction items with
    | nil => rfl
    | cons item items ih => simp [normalisedItems, List.mapM_cons, ih]
  | float f =>
    rcases normalised_float f with ⟨-, same⟩ | ⟨n, -, same⟩
    · rw [same]
    · rw [same]
      rfl
  | tag t inner =>
    rcases normalised_tag t inner with ⟨-, same⟩ | ⟨raw, -, same⟩
    · rw [same]
      rfl
    · rw [same]
      rfl
  | _ => rfl

/-- A whole number that is no rate as a float is none as an integer. -/
theorem asRate_ofWhole {f : F64} {n : Int} (whole : f.toInteger = some n) (outside : f.isRate = false) :
    asRate (.integer n) = none := by
  have other : n ≠ 1 := by
    rintro rfl
    rw [integer_one whole] at outside
    exact absurd outside (by decide)
  change ((signed n).map fun n : Int64 => F64.ofInteger n.toInt).filter F64.isRate = none
  unfold signed
  split
  · rename_i range
    rw [Int64.toInt_minValue, Int64.toInt_maxValue] at range
    have back : (Int64.ofInt n).toInt = n := Int64.toInt_ofInt_of_le (by omega) (by omega)
    have refused : (F64.ofInteger n).isRate = false := isRate_ofInteger (by omega) (by omega) other
    simp [back, refused]
  · rfl

theorem asRate_passed (v : Value) (absent : asRate v = none) : asRate (normalised v) = none := by
  cases v with
  | float f =>
    have outside : f.isRate = false := by simpa [asRate, Option.filter_some] using absent
    rcases normalised_float f with ⟨-, same⟩ | ⟨n, whole, same⟩
    · rw [same, absent]
    · rw [same, asRate_ofWhole whole outside]
  | tag t inner =>
    rcases normalised_tag t inner with ⟨-, same⟩ | ⟨raw, -, same⟩
    · rw [same]
      rfl
    · rw [same]
      rfl
  | _ => exact absent

end Passed

/-! ## Segments -/

theorem conforming_entries {fields : Fields} {store : List (Value × Value)} {writesKey : String → Bool}
    (written : ∀ field ∈ fields, writesKey field.1 = true) (nodup : (fields.map Prod.fst).Nodup)
    (settled : Settled writesKey store) (own : conformingPairs (named fields) = true) :
    conforming (.map (named fields ++ store)) = true := by
  refine Bool.and_eq_true_iff.mpr ⟨decide_eq_true (distinct_named written nodup settled), ?_⟩
  rw [conformingPairs_append, own, settled.conforms, Bool.and_self]

theorem unrecognised_plain {pairs : List (Value × Value)} (plained : plainPairs pairs = true)
    (writesKey : String → Bool) : plainPairs (unrecognised pairs writesKey) = true :=
  plainPairs_iff.mpr fun entry member =>
    plainPairs_iff.mp plained entry ((unrecognised_sublist ..).subset member)

namespace SegmentInfo

/-- What a rewritten segment says. -/
def written (info : SegmentInfo) : SegmentInfo :=
  { info with extra := storeEntries info.extra info.writesKey }

section Read
variable {info : SegmentInfo} {pairs : List (Value × Value)}

theorem fromPairs_ok (read : fromPairs pairs = .ok info) :
    info.Unread pairs ∧ info.extra = unrecognised pairs info.writesKey := by
  simp only [fromPairs, except_bind_iff] at read
  obtain ⟨sequence, -, same⟩ := read
  cases same
  exact ⟨⟨id, id, id⟩, rfl⟩

theorem written_settled (read : fromPairs pairs = .ok info) (plained : plainPairs pairs = true) :
    info.written.Settled := by
  obtain ⟨⟨durationMs, streamId, continues⟩, extra⟩ := fromPairs_ok read
  refine ⟨⟨fun absent => ?_, fun absent => ?_, fun absent => ?_⟩, ?_⟩
  · rw [written, extra]
    exact uint_passed plained (by simp [writesKey, show info.durationMs = none from absent]) (durationMs absent)
  · rw [written, extra]
    exact text_passed plained (by simp [writesKey, show info.streamId = none from absent]) (streamId absent)
  · rw [written, extra]
    exact find_passed plained (fun v _ _ absent => (asBool_normalised v).trans absent)
      (by simp [writesKey, show info.continues = none from absent]) (continues absent)
  · rw [written, extra]
    exact storeEntries_settled (unrecognised_plain plained _)

theorem written_entries (read : fromPairs pairs = .ok info) (plained : plainPairs pairs = true) :
    info.written.entries = info.entries :=
  congrArg (named info.fields ++ ·) (written_settled read plained).store.written

theorem toValue_conforming (read : fromPairs pairs = .ok info) (plained : plainPairs pairs = true) :
    conforming info.toValue = true := by
  have own : conformingPairs (named info.fields) = true := by
    simp [fields, conformingPairs_append, conforming_held conforming_uint, conforming_held conforming_text,
      conforming_held (fun b => (rfl : conforming (.bool b) = true))]
  exact conforming_entries (fun field member => (info.writesKey_iff _).mpr (List.mem_map_of_mem member))
    info.keys_nodup (written_settled read plained).store own

end Read

end SegmentInfo

/-! ## Sampling -/

namespace SamplingInfo

/-- What rewritten sampling metadata says. -/
def written (info : SamplingInfo) : SamplingInfo :=
  { info with extra := storeEntries info.extra info.writesKey }

section Read
variable {pairs : List (Value × Value)}

theorem fromPairs_unread (pairs : List (Value × Value)) : (fromPairs pairs).Unread pairs :=
  ⟨id, id, Option.map_eq_none_iff.mp, id, id, id, id, id⟩

theorem fromPairs_extra (pairs : List (Value × Value)) :
    (fromPairs pairs).extra = unrecognised pairs (fromPairs pairs).writesKey := rfl

theorem written_settled (plained : plainPairs pairs = true) : (fromPairs pairs).written.Settled := by
  have rates : ∀ r ∈ (fromPairs pairs).effectiveRate, r.isRate = true := by
    intro r held
    obtain ⟨v, -, rated⟩ := Option.bind_eq_some_iff.mp held
    unfold asRate at rated
    exact (Option.filter_eq_some_iff.mp rated).2
  have canonical : ∀ policy ∈ (fromPairs pairs).dropPolicy, policy.Canonical := parsed_canonical _
  have extra := fromPairs_extra pairs
  obtain ⟨rate, most, policy, total, segment, rule, lang, applies⟩ := fromPairs_unread pairs
  generalize fromPairs pairs = info at *
  refine ⟨rates, canonical, ?_, ?_⟩
  · rw [written, extra]
    refine ⟨fun absent => ?_, fun absent => ?_, fun absent => ?_, fun absent => ?_, fun absent => ?_,
      fun absent => ?_, fun absent => ?_, fun absent => ?_⟩
    all_goals dsimp only at absent
    · exact find_passed plained (fun v _ _ => asRate_passed v) (by simp [writesKey, absent]) (rate absent)
    · exact uint_passed plained (by simp [writesKey, absent]) (most absent)
    · exact text_passed plained (by simp [writesKey, absent]) (policy absent)
    · exact uint_passed plained (by simp [writesKey, absent]) (total absent)
    · exact uint_passed plained (by simp [writesKey, absent]) (segment absent)
    · exact text_passed plained (by simp [writesKey, absent]) (rule absent)
    · exact text_passed plained (by simp [writesKey, absent]) (lang absent)
    · exact find_passed plained (fun v _ _ absent => (asEventTypes_normalised v).trans absent)
        (by simp [writesKey, absent]) (applies absent)
  · rw [written, extra]
    exact storeEntries_settled (unrecognised_plain plained _)

theorem written_entries (plained : plainPairs pairs = true) :
    (fromPairs pairs).written.entries = (fromPairs pairs).entries :=
  congrArg (named (fromPairs pairs).fields ++ ·) (written_settled plained).store.written

theorem toValue_conforming (plained : plainPairs pairs = true) :
    conforming (fromPairs pairs).toValue = true := by
  have spelled (held : Option DropPolicy) :
      (held.map fun policy => Value.text policy.asStr).all conforming = true :=
    conforming_held (fun policy => conforming_text policy.asStr) held
  have own : conformingPairs (named (fromPairs pairs).fields) = true := by
    simp only [fields, named_append, conformingPairs_append, conforming_named_whenHeld, spelled,
      conforming_held numberValue_conforming, conforming_held conforming_uint, conforming_held conforming_text,
      conforming_held (conforming_array conforming_uint), Bool.and_self]
  refine conforming_entries (fun field member => ?_) (keys_nodup _) (written_settled plained).store own
  exact ((fromPairs pairs).writesKey_iff _).mpr (List.mem_map_of_mem member)

end Read

end SamplingInfo

/-! ## Custom metadata -/

namespace Custom

theorem mem_foldl_insert {custom : Custom} {entries : List (String × Value)} {entry : String × Value}
    (member : entry ∈ (entries.foldl insert custom).entries) : entry ∈ custom.entries ∨ entry ∈ entries := by
  induction entries generalizing custom with
  | nil => exact .inl member
  | cons first entries ih =>
    rcases ih member with held | held
    · rcases mem_insertEntry held with rfl | held
      · exact .inr List.mem_cons_self
      · exact .inl held
    · exact .inr (List.mem_cons_of_mem _ held)

theorem mapM_text_mem {pairs : List (Value × Value)} {entries : List (String × Value)}
    (texts : (pairs.mapM fun entry : Value × Value => entry.1.asText.map (·, entry.2)) = some entries)
    {entry : String × Value} (member : entry ∈ entries) : (.text entry.1, entry.2) ∈ pairs := by
  induction pairs generalizing entries with
  | nil =>
    cases texts
    cases member
  | cons first pairs ih =>
    rw [List.mapM_cons] at texts
    obtain ⟨head, named, rest⟩ := Option.bind_eq_some_iff.mp texts
    obtain ⟨tail, behind, same⟩ := Option.bind_eq_some_iff.mp rest
    cases same
    rcases List.mem_cons.mp member with rfl | member
    · obtain ⟨key, value⟩ := first
      obtain ⟨s, text, rfl⟩ := Option.map_eq_some_iff.mp named
      cases key with
      | text s' =>
        cases text
        exact List.mem_cons_self
      | _ => cases text
    · exact List.mem_cons_of_mem _ (ih behind member)

/-- A value of a map that was kept is one of the pairs it was made of. -/
theorem ofPairs_mem {pairs : List (Value × Value)} {custom : Custom} (kept : ofPairs pairs = some custom)
    {entry : String × Value} (member : entry ∈ custom.entries) : (.text entry.1, entry.2) ∈ pairs := by
  unfold ofPairs at kept
  obtain ⟨held, -⟩ := Option.filter_eq_some_iff.mp kept
  obtain ⟨entries, texts, rfl⟩ := Option.map_eq_some_iff.mp held
  rcases mem_foldl_insert member with none' | member
  · cases none'
  · exact mapM_text_mem texts member

theorem normalised_plain {custom : Custom} (plained : ∀ entry ∈ custom.entries, plain entry.2 = true) :
    custom.normalised.normalised = custom.normalised := by
  refine Custom.ext ?_
  simp only [normalised, List.map_map]
  refine List.map_congr_left fun entry member => ?_
  exact congrArg (Prod.mk entry.1) (normalised_settled (plained entry member))

theorem toValue_normalised {custom : Custom} (plained : ∀ entry ∈ custom.entries, plain entry.2 = true) :
    custom.normalised.toValue = custom.toValue := by
  refine congrArg Value.map ?_
  simp only [normalised, List.map_map]
  refine List.map_congr_left fun entry member => ?_
  exact congrArg (Prod.mk (Value.text entry.1)) (normalised_settled (plained entry member))

theorem toValue_conforming {custom : Custom} (plained : ∀ entry ∈ custom.entries, plain entry.2 = true) :
    conforming custom.toValue = true := by
  refine Bool.and_eq_true_iff.mpr ⟨decide_eq_true ?_, conformingPairs_iff.mpr fun entry member => ?_⟩
  · refine List.pairwise_map.mpr (custom.ordered.imp fun less => ?_)
    simpa [sameKey, Value.beq] using less.ne
  · obtain ⟨held, kept, rfl⟩ := List.mem_map.mp member
    exact ⟨rfl, normalised_conforming _ (plained held kept)⟩

theorem insertEntry_length {key : String} {value : Value} {entries : List (String × Value)}
    (fresh : key ∉ entries.map Prod.fst) : (insertEntry key value entries).length = entries.length + 1 := by
  induction entries with
  | nil => rfl
  | cons first entries ih =>
    rw [List.map_cons, List.mem_cons, not_or] at fresh
    unfold insertEntry
    rw [if_neg fresh.1]
    split_ifs
    · rfl
    · exact congrArg (· + 1) (ih fresh.2)

theorem foldl_insert_length {custom : Custom} {entries : List (String × Value)}
    (nodup : (entries.map Prod.fst).Nodup) (apart : ∀ entry ∈ entries, entry.1 ∉ custom.entries.map Prod.fst) :
    (entries.foldl insert custom).entries.length = custom.entries.length + entries.length := by
  induction entries generalizing custom with
  | nil => rfl
  | cons first entries ih =>
    obtain ⟨fresh, nodup⟩ := List.nodup_cons.mp nodup
    have length : (custom.insert first).entries.length = custom.entries.length + 1 :=
      insertEntry_length (apart first List.mem_cons_self)
    rw [List.foldl_cons, ih nodup, length, List.length_cons, Nat.add_assoc, Nat.add_comm 1]
    intro entry member held
    obtain ⟨earlier, held, same⟩ := List.mem_map.mp held
    rcases mem_insertEntry held with rfl | held
    · exact fresh (List.mem_map.mpr ⟨entry, member, same.symm⟩)
    · exact apart entry (List.mem_cons_of_mem _ member) (List.mem_map.mpr ⟨earlier, held, same⟩)

/-- Text keys of which none repeats are held. -/
theorem ofPairs_isSome {pairs : List (Value × Value)} (texts : ∀ entry ∈ pairs, entry.1.asText.isSome = true)
    (nodup : (pairs.map fun entry => entry.1.asText).Nodup) : ofPairs pairs ≠ none := by
  have read : ∃ entries, (pairs.mapM fun entry : Value × Value => entry.1.asText.map (·, entry.2)) = some entries ∧
      (entries.map fun entry => some entry.1) = pairs.map fun entry => entry.1.asText := by
    clear nodup
    induction pairs with
    | nil => exact ⟨[], rfl, rfl⟩
    | cons first pairs ih =>
      obtain ⟨s, text⟩ := Option.isSome_iff_exists.mp (texts first List.mem_cons_self)
      obtain ⟨entries, read, names⟩ := ih fun entry member => texts entry (List.mem_cons_of_mem _ member)
      exact ⟨(s, first.2) :: entries, by simp [List.mapM_cons, text, read], by simp [text, names]⟩
  obtain ⟨entries, read, names⟩ := read
  have fresh : (entries.map Prod.fst).Nodup := by
    have mapped : (entries.map Prod.fst).map some = entries.map fun entry => some entry.1 := List.map_map
    rw [← names, ← mapped] at nodup
    exact nodup.of_map _
  have length : (entries.foldl insert empty).entries.length = pairs.length := by
    rw [foldl_insert_length fresh fun entry _ => List.not_mem_nil]
    have lengths := congrArg List.length names
    rw [List.length_map, List.length_map] at lengths
    exact (Nat.zero_add _).trans lengths
  unfold ofPairs
  rw [read, Option.map_some, Option.filter_some, if_pos (by simp [length])]
  exact Option.some_ne_none _

theorem ofPairs_eq_none {pairs : List (Value × Value)} {entry : Value × Value} (member : entry ∈ pairs)
    (other : entry.1.asText = none) : ofPairs pairs = none := by
  have read : (pairs.mapM fun entry : Value × Value => entry.1.asText.map (·, entry.2)) = none := by
    induction pairs with
    | nil => cases member
    | cons first pairs ih =>
      rw [List.mapM_cons]
      rcases List.mem_cons.mp member with rfl | member
      · rw [other]
        rfl
      · cases first.1.asText with
        | none => rfl
        | some s =>
          rw [ih member]
          rfl
  unfold ofPairs
  rw [read]
  rfl

end Custom

/-- A key that is no text is one key with no text. -/
theorem sameKey_other {key other : Value} (same : sameKey key other = true) (none' : other.asText = none) :
    key.asText = none := by
  cases key with
  | text s => cases other <;> simp [sameKey, Value.beq, Value.asText] at same none'
  | _ => rfl

/-- A map with a key that is no text has one when its repeats are dropped. -/
theorem deduplicated_other {entries : List (Value × Value)} {entry : Value × Value}
    (member : entry ∈ entries) (other : entry.1.asText = none) :
    ∃ kept ∈ deduplicated entries, kept.1.asText = none := by
  have behind (entries kept : List (Value × Value))
      (held : ∃ entry ∈ kept ++ entries, entry.1.asText = none) :
      ∃ entry ∈ entries.foldl keepFirst kept, entry.1.asText = none := by
    induction entries generalizing kept with
    | nil => simpa using held
    | cons first entries ih =>
      refine ih _ ?_
      obtain ⟨entry, member, other⟩ := held
      unfold keepFirst
      split
      · rename_i repeated
        rw [List.mem_append, List.mem_cons] at member
        rcases member with member | rfl | member
        · exact ⟨entry, List.mem_append_left _ member, other⟩
        · obtain ⟨already, held, same⟩ := List.any_eq_true.mp repeated
          exact ⟨already, List.mem_append_left _ held, sameKey_other same other⟩
        · exact ⟨entry, List.mem_append_right _ member, other⟩
      · exact ⟨entry, by simpa using member, other⟩
  exact behind entries [] ⟨entry, member, other⟩

/-- A map of text keys none of which repeats. -/
def Once (v : Value) : Prop :=
  ∀ custom, v = .map custom → (∀ entry ∈ custom, entry.1.asText.isSome = true) →
    (custom.map fun entry => entry.1.asText).Nodup

theorem asCustom_passed {v : Value} (once : Once v) (absent : asCustom v = none) :
    asCustom (normalised v) = none := by
  unfold asCustom at absent ⊢
  rw [asMap_normalised]
  cases v with
  | map custom =>
    change Custom.ofPairs (deduplicated (normalisedPairs custom)) = none
    have other : ∃ entry ∈ custom, entry.1.asText = none := by
      by_contra texts
      push Not at texts
      have texts (entry : Value × Value) (member : entry ∈ custom) : entry.1.asText.isSome = true :=
        Option.isSome_iff_ne_none.mpr (texts entry member)
      exact Custom.ofPairs_isSome texts (once custom rfl texts) absent
    obtain ⟨entry, member, other⟩ := other
    have written : (normalised entry.1, normalised entry.2) ∈ normalisedPairs custom := by
      rw [normalisedPairs_eq]
      exact List.mem_map.mpr ⟨entry, member, rfl⟩
    obtain ⟨kept, member, other⟩ := deduplicated_other written ((asText_normalised _).trans other)
    exact Custom.ofPairs_eq_none member other
  | _ => rfl

/-! ## Headers -/

namespace TraceHeader

/-- What a rewritten header says: what it did, its values in the encoding the format asks for. -/
def written (header : TraceHeader) : TraceHeader :=
  { header with
    segment := header.segment.map SegmentInfo.written
    sampling := header.sampling.map SamplingInfo.written
    custom := header.custom.map Custom.normalised
    extra := storeEntries header.extra header.writesKey }

section Read
variable {header : TraceHeader} {pairs : List (Value × Value)}

/-- What is known of a header read. -/
structure Reads (pairs : List (Value × Value)) (header : TraceHeader) : Prop where
  perspective : header.perspective.Canonical
  detail : header.detail.Canonical
  segment : ∀ info ∈ header.segment, ∃ inner, find pairs "segment" = some (.map inner) ∧
    SegmentInfo.fromPairs inner = .ok info
  sampling : ∀ info ∈ header.sampling, ∃ inner, find pairs "sampling" = some (.map inner) ∧
    SamplingInfo.fromPairs inner = info
  custom : ∀ custom ∈ header.custom, ∃ inner, find pairs "custom" = some (.map inner) ∧
    Custom.ofPairs inner = some custom
  unread : header.Unread pairs
  extra : header.extra = unrecognised pairs header.writesKey

theorem asMap_some {v : Value} {inner : List (Value × Value)} (read : asMap v = some inner) :
    v = .map inner := by
  cases v with
  | map pairs =>
    cases read
    rfl
  | _ => cases read

theorem find_asMap {key : String} {inner : List (Value × Value)}
    (read : (find pairs key).bind asMap = some inner) : find pairs key = some (.map inner) := by
  obtain ⟨v, found, read⟩ := Option.bind_eq_some_iff.mp read
  rw [found, asMap_some read]

theorem readSegment_ok {segment : Option SegmentInfo} (read : readSegment pairs = .ok segment) :
    (segment = none → (find pairs "segment").bind asMap = none) ∧
      ∀ info ∈ segment, ∃ inner, find pairs "segment" = some (.map inner) ∧
        SegmentInfo.fromPairs inner = .ok info := by
  unfold readSegment at read
  cases found : (find pairs "segment").bind asMap with
  | none =>
    rw [found] at read
    cases read
    exact ⟨fun _ => rfl, nofun⟩
  | some inner =>
    rw [found] at read
    cases inside : SegmentInfo.fromPairs inner with
    | error e =>
      simp [inside, Except.map] at read
    | ok info =>
      simp only [inside, Except.map, Except.ok.injEq] at read
      subst read
      refine ⟨nofun, fun info held => ?_⟩
      cases held
      exact ⟨inner, find_asMap found, inside⟩

theorem fromValue_reads (read : fromValue (.map pairs) = .ok header) : Reads pairs header := by
  simp only [fromValue, except_bind_iff] at read
  obtain ⟨protocol, -, perspective, -, detail, -, startTime, -, segment, inner, same⟩ := read
  cases same
  obtain ⟨missing, segments⟩ := readSegment_ok inner
  refine ⟨OpenEnum.parse_canonical _, OpenEnum.parse_canonical _, segments, fun info held => ?_,
    fun custom held => ?_, ⟨id, id, id, id, id, missing, Option.map_eq_none_iff.mp, id⟩, rfl⟩
  · obtain ⟨inner, found, same⟩ := Option.map_eq_some_iff.mp held
    exact ⟨inner, find_asMap found, same⟩
  · obtain ⟨v, found, kept⟩ := Option.bind_eq_some_iff.mp held
    obtain ⟨inner, read, kept⟩ := Option.bind_eq_some_iff.mp kept
    rw [found, asMap_some read]
    exact ⟨inner, rfl, kept⟩

/-- What a header's custom metadata holds is plain where its map is. -/
theorem custom_plain (reads : Reads pairs header) (plained : plainPairs pairs = true) :
    ∀ custom ∈ header.custom, ∀ entry ∈ custom.entries, plain entry.2 = true := by
  intro custom held entry member
  obtain ⟨inner, found, kept⟩ := reads.custom custom held
  have inside : plainPairs inner = true := find_plain plained found
  exact (plainPairs_iff.mp inside _ (Custom.ofPairs_mem kept member)).2

theorem written_writesKey (header : TraceHeader) : header.written.writesKey = header.writesKey := by
  funext key
  simp [writesKey, written]

theorem written_settled (reads : Reads pairs header) (plained : plainPairs pairs = true)
    (once : ∀ v, find pairs "custom" = some v → Once v) : header.written.Settled := by
  obtain ⟨endTime, transport, source, endpoint, sessionId, segment, sampling, custom⟩ := reads.unread
  refine ⟨reads.perspective, reads.detail, fun info held => ?_, fun info held => ?_, fun custom held => ?_, ?_, ?_⟩
  · obtain ⟨info, held', rfl⟩ := Option.map_eq_some_iff.mp held
    obtain ⟨inner, found, read⟩ := reads.segment info held'
    exact SegmentInfo.written_settled read (find_plain plained found)
  · obtain ⟨info, held', rfl⟩ := Option.map_eq_some_iff.mp held
    obtain ⟨inner, found, rfl⟩ := reads.sampling info held'
    exact SamplingInfo.written_settled (find_plain plained found)
  · obtain ⟨custom, held', rfl⟩ := Option.map_eq_some_iff.mp held
    exact Custom.normalised_plain (custom_plain reads plained custom held')
  · have extra : header.written.extra = storeEntries (unrecognised pairs header.writesKey) header.writesKey := by
      rw [← reads.extra]
      rfl
    rw [extra]
    refine ⟨fun absent => ?_, fun absent => ?_, fun absent => ?_, fun absent => ?_, fun absent => ?_,
      fun absent => ?_, fun absent => ?_, fun absent => ?_⟩
    all_goals simp only [written, Option.map_eq_none_iff] at absent
    · exact uint_passed plained (by simp [writesKey, absent]) (endTime absent)
    · exact text_passed plained (by simp [writesKey, absent]) (transport absent)
    · exact text_passed plained (by simp [writesKey, absent]) (source absent)
    · exact text_passed plained (by simp [writesKey, absent]) (endpoint absent)
    · exact text_passed plained (by simp [writesKey, absent]) (sessionId absent)
    · exact find_passed plained (fun v _ _ => asMap_passed v) (by simp [writesKey, absent]) (segment absent)
    · exact find_passed plained (fun v _ _ => asMap_passed v) (by simp [writesKey, absent]) (sampling absent)
    · exact find_passed plained (fun v found _ => asCustom_passed (once v found)) (by simp [writesKey, absent])
        (custom absent)
  · rw [written_writesKey]
    exact storeEntries_settled (reads.extra ▸ unrecognised_plain plained _)

/-- Writing it again writes the same. -/
theorem written_toValue (reads : Reads pairs header) (plained : plainPairs pairs = true)
    (once : ∀ v, find pairs "custom" = some v → Once v) : header.written.toValue = header.toValue := by
  have segment : header.written.segment.map SegmentInfo.toValue = header.segment.map SegmentInfo.toValue := by
    cases held : header.segment with
    | none => simp [written, held]
    | some info =>
      obtain ⟨inner, found, read⟩ := reads.segment info held
      simp [written, held, SegmentInfo.toValue, SegmentInfo.written_entries read (find_plain plained found)]
  have sampling : header.written.sampling.map SamplingInfo.toValue =
      header.sampling.map SamplingInfo.toValue := by
    cases held : header.sampling with
    | none => simp [written, held]
    | some info =>
      obtain ⟨inner, found, rfl⟩ := reads.sampling info held
      simp [written, held, SamplingInfo.toValue, SamplingInfo.written_entries (find_plain plained found)]
  have custom : header.written.custom.map Custom.toValue = header.custom.map Custom.toValue := by
    cases held : header.custom with
    | none => simp [written, held]
    | some custom =>
      simp [written, held, Custom.toValue_normalised (custom_plain reads plained custom held)]
  have fields : header.written.fields = header.fields := by
    unfold TraceHeader.fields
    rw [segment, sampling, custom]
    rfl
  have store := (written_settled reads plained once).store.written
  unfold toValue entries
  rw [fields, store]
  rfl

theorem toValue_conforming (reads : Reads pairs header) (plained : plainPairs pairs = true) :
    conforming header.toValue = true := by
  have segment : (header.segment.map SegmentInfo.toValue).all conforming = true := by
    cases held : header.segment with
    | none => rfl
    | some info =>
      obtain ⟨inner, found, read⟩ := reads.segment info held
      exact SegmentInfo.toValue_conforming read (find_plain plained found)
  have sampling : (header.sampling.map SamplingInfo.toValue).all conforming = true := by
    cases held : header.sampling with
    | none => rfl
    | some info =>
      obtain ⟨inner, found, rfl⟩ := reads.sampling info held
      exact SamplingInfo.toValue_conforming (find_plain plained found)
  have custom : (header.custom.map Custom.toValue).all conforming = true := by
    cases held : header.custom with
    | none => rfl
    | some custom => exact Custom.toValue_conforming (custom_plain reads plained custom held)
  have own : conformingPairs (named header.fields) = true := by
    simp [TraceHeader.fields, conformingPairs_append, conforming_held conforming_uint,
      conforming_held conforming_text, segment, sampling, custom]
  have stored : Cbor.Settled header.writesKey (storeEntries header.extra header.writesKey) :=
    storeEntries_settled (reads.extra ▸ unrecognised_plain plained _)
  exact conforming_entries (fun field member => (header.writesKey_iff _).mpr (List.mem_map_of_mem member))
    header.keys_nodup stored own

end Read

/-- **Rewriting a header is conformant and a fixed point.** Of every value that is accepted as a
header, has no byte string under two of the tags and no text key twice in its `"custom"`, the map
written back keeps the encoding rules at every depth; it is read as the same header, what was not
read in the encoding asked for, and that is written as the same map. -/
theorem header_rewritten {pairs : List (Value × Value)} {header : TraceHeader}
    (read : fromValue (.map pairs) = .ok header) (plained : plainPairs pairs = true)
    (once : ∀ v, find pairs "custom" = some v → Once v) : conforming header.toValue = true ∧
      fromValue header.toValue = .ok header.written ∧ header.written.toValue = header.toValue := by
  have reads := fromValue_reads read
  have same := written_toValue reads plained once
  refine ⟨toValue_conforming reads plained, ?_, same⟩
  rw [← same]
  exact (written_settled reads plained once).read

/-- A header whose end time and custom metadata cannot be used, the first of them said twice. -/
def oddPairs : List (Value × Value) := [(.text "startTime", .float ⟨0x4008000000000000⟩),
  (.text "detail", .text "full"), (.text "perspective", .text "bird"), (.text "protocol", .text "moq"),
  (.text "endTime", .null), (.text "sampling", .map [(.text "effectiveRate", .float F64.one), (.text "rule", .null)]),
  (.text "custom", .map [(.integer 1, .float F64.one)]), (.text "endTime", uint 4)]

theorem header_rewritten_odd : ∃ header, fromValue (.map oddPairs) = .ok header ∧ conforming header.toValue = true ∧
    header.toValue = .map [(.text "protocol", .text "moq"), (.text "perspective", .text "bird"),
      (.text "detail", .text "full"), (.text "startTime", uint 3),
      (.text "sampling", .map [(.text "effectiveRate", .integer 1), (.text "rule", .null)]),
      (.text "endTime", .null), (.text "custom", .map [(.integer 1, .integer 1)])] ∧
    fromValue header.toValue = .ok header.written := by
  have read : ∃ header, fromValue (.map oddPairs) = .ok header := ⟨_, rfl⟩
  obtain ⟨header, read⟩ := read
  have once : ∀ v, find oddPairs "custom" = some v → Once v := by
    intro v found custom same texts
    cases found
    cases same
    exact absurd (texts _ List.mem_cons_self) (by decide)
  obtain ⟨conforms, again, -⟩ := header_rewritten read (by decide) once
  refine ⟨header, read, conforms, ?_, again⟩
  cases read
  rfl

end TraceHeader

end Moqtap.Trace
