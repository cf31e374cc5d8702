import Mathlib
import Moqtap.JsonText

/-! The `grp` and `obj` records of an upload body: rows written as columns, most of them as
deltas, and the reader that undoes them.

`Col.Holds` says which cells a column's text spells, and a push adds one. `GrpState.deltas` is
the row of numbers a push writes; `GrpReading.Follows` ties what the reader remembers to what the
writer does, pair by pair, and reading a row's deltas gives back the row and keeps the tie. -/

namespace Moqtap.ColumnDeltas
open JsonText

/-! ## Columns and objects of text -/

/-- The largest integer a JSON number carries exactly. -/
def maxSafeInteger : ℤ := 2 ^ 53 - 1

inductive IdForm where
  | auto
  | string
  deriving DecidableEq

structure Col where
  text : Text := []

namespace Col

def sep (col : Col) : Col := ⟨col.text ++ [if col.text = [] then '[' else ',']⟩

def int (col : Col) (v : ℤ) : Col := ⟨col.sep.text ++ decimal v⟩

def id (col : Col) (v : ℤ) (form : IdForm) : Col :=
  if form = .auto ∧ -maxSafeInteger ≤ v ∧ v ≤ maxSafeInteger then ⟨col.sep.text ++ decimal v⟩
  else ⟨col.sep.text ++ '"' :: decimal v ++ ['"']⟩

def finish (col : Col) : Text := (if col.text = [] then ['['] else col.text) ++ [']']

end Col

structure Obj where
  text : Text

namespace Obj

def new : Obj := ⟨['{']⟩

def key (o : Obj) (k : String) : Obj :=
  ⟨(if 1 < o.text.length then o.text ++ [','] else o.text) ++ quote k ++ [':']⟩

def str (o : Obj) (k v : String) : Obj := ⟨(o.key k).text ++ quote v⟩

def int (o : Obj) (k : String) (v : ℤ) : Obj := ⟨(o.key k).text ++ decimal v⟩

def raw (o : Obj) (k : String) (json : Text) : Obj := ⟨(o.key k).text ++ json⟩

def finish (o : Obj) : Text := o.text ++ ['}']

end Obj

/-! ## Rows -/

/-- A relay and a track of the body. -/
abbrev Key := ℕ × ℕ

/-- The pair's previous value, and the list with `v` in its place. -/
def pairLast {α : Type} : List (Key × α) → Key → α → Option α × List (Key × α)
  | [], key, v => (none, [(key, v)])
  | (k, old) :: rest, key, v =>
    if k = key then (some old, (k, v) :: rest)
    else ((pairLast rest key v).1, (k, old) :: (pairLast rest key v).2)

structure GrpRow where
  c : ℕ
  tr : ℕ
  g : UInt64
  fo : UInt64
  sendUs : Int64
  spanUs : Int64
  objects : UInt64
  bytes : UInt64
  deriving DecidableEq

/-- One element of each column. -/
structure GrpDeltas where
  c : ℤ
  tr : ℤ
  g : ℤ
  fo : ℤ
  t0 : ℤ
  d : ℤ
  n : ℤ
  b : ℤ

structure GrpCols where
  c : Col := {}
  tr : Col := {}
  g : Col := {}
  fo : Col := {}
  t0 : Col := {}
  d : Col := {}
  n : Col := {}
  b : Col := {}

def GrpCols.push (cols : GrpCols) (form : IdForm) (x : GrpDeltas) : GrpCols where
  c := cols.c.int x.c
  tr := cols.tr.int x.tr
  g := cols.g.id x.g form
  fo := cols.fo.id x.fo form
  t0 := cols.t0.int x.t0
  d := cols.d.int x.d
  n := cols.n.int x.n
  b := cols.b.int x.b

def GrpCols.named (cols : GrpCols) : List (String × Col) :=
  [("c", cols.c), ("tr", cols.tr), ("g", cols.g), ("fo", cols.fo), ("t0", cols.t0),
    ("d", cols.d), ("n", cols.n), ("b", cols.b)]

/-- The loop's variables. -/
structure GrpState where
  cols : GrpCols := {}
  last : List (Key × UInt64) := []
  prevSend : Int64

namespace GrpState

/-- What the loop's body writes of a row. -/
def deltas (state : GrpState) (r : GrpRow) : GrpDeltas where
  c := r.c
  tr := r.tr
  g := match (pairLast state.last (r.c, r.tr) r.g).1 with
    | none => r.g.toNat
    | some p => r.g.toNat - p.toNat
  fo := r.fo.toNat
  t0 := r.sendUs.toInt - state.prevSend.toInt
  d := r.spanUs.toInt
  n := r.objects.toNat
  b := r.bytes.toNat

def push (form : IdForm) (state : GrpState) (r : GrpRow) : GrpState where
  cols := state.cols.push form (state.deltas r)
  last := (pairLast state.last (r.c, r.tr) r.g).2
  prevSend := r.sendUs

end GrpState

def grpBase (rows : List GrpRow) : Int64 := (rows.head?.map (·.sendUs)).getD 0

/-- The columns' object, `fo` left out unless some row needs it. -/
def grpCols (cols : GrpCols) (withFo : Bool) : Obj :=
  cols.named.foldl
    (fun c (name, col) => if name = "fo" ∧ ¬ withFo then c else c.raw name col.finish) Obj.new

def grpJson (rows : List GrpRow) (form : IdForm) : Text :=
  let base := grpBase rows
  let state := rows.foldl (GrpState.push form) { prevSend := base }
  let withFo := rows.any fun r => r.fo ≠ 0
  let o := Obj.new.str "t" "grp"
  let o := o.int "v" 1
  let o := o.int "base" base.toInt
  let o := o.raw "cols" (grpCols state.cols withFo).finish
  o.finish

structure ObjRow where
  c : ℕ
  tr : ℕ
  g : UInt64
  o : UInt64
  bytes : UInt64
  sendUs : Int64
  deriving DecidableEq

structure ObjDeltas where
  c : ℤ
  tr : ℤ
  g : ℤ
  o : ℤ
  s : ℤ
  sentAt : ℤ

structure ObjCols where
  c : Col := {}
  tr : Col := {}
  g : Col := {}
  o : Col := {}
  s : Col := {}
  sentAt : Col := {}

def ObjCols.push (cols : ObjCols) (form : IdForm) (x : ObjDeltas) : ObjCols where
  c := cols.c.int x.c
  tr := cols.tr.int x.tr
  g := cols.g.id x.g form
  o := cols.o.id x.o form
  s := cols.s.int x.s
  sentAt := cols.sentAt.int x.sentAt

def ObjCols.named (cols : ObjCols) : List (String × Col) :=
  [("c", cols.c), ("tr", cols.tr), ("g", cols.g), ("o", cols.o), ("s", cols.s), ("at", cols.sentAt)]

structure ObjState where
  cols : ObjCols := {}
  last : List (Key × UInt64 × UInt64) := []
  prevSend : Int64

namespace ObjState

def deltas (state : ObjState) (r : ObjRow) : ObjDeltas :=
  let prev := (pairLast state.last (r.c, r.tr) (r.g, r.o)).1
  { c := r.c
    tr := r.tr
    g := match prev with
      | none => r.g.toNat
      | some (g, _) => r.g.toNat - g.toNat
    o := match prev with
      | some (g, o) => if g = r.g then r.o.toNat - o.toNat else r.o.toNat
      | none => r.o.toNat
    s := r.bytes.toNat
    sentAt := r.sendUs.toInt - state.prevSend.toInt }

def push (form : IdForm) (state : ObjState) (r : ObjRow) : ObjState where
  cols := state.cols.push form (state.deltas r)
  last := (pairLast state.last (r.c, r.tr) (r.g, r.o)).2
  prevSend := r.sendUs

end ObjState

def objBase (rows : List ObjRow) : Int64 := (rows.head?.map (·.sendUs)).getD 0

def objCols (cols : ObjCols) : Obj :=
  cols.named.foldl (fun c (name, col) => c.raw name col.finish) Obj.new

def objJson (rows : List ObjRow) (form : IdForm) : Text :=
  let base := objBase rows
  let state := rows.foldl (ObjState.push form) { prevSend := base }
  let o := Obj.new.str "t" "obj"
  let o := o.int "v" 1
  let o := o.int "base" base.toInt
  let o := o.raw "cols" (objCols state.cols).finish
  o.finish

/-! ## The reader -/

/-- As deep as the reader lets a record nest. -/
def maxDepth : ℕ := 128

def parse (text : Text) : Option Json := exactly (value maxDepth) text

/-- An element is a number or a decimal string. -/
def readInteger : Json → Option ℤ
  | .num n => some n
  | .str s => exactly integer s.toList
  | _ => none

def elements (cols : Json) (name : String) : Option (List Json) :=
  (cols.field name).bind Json.elements?

def column (cols : Json) (name : String) : Option (List ℤ) :=
  (elements cols name).bind (·.mapM readInteger)

/-- The base and the columns of a record of one kind. -/
def readRecord (kind : String) (record : Json) : Option (ℤ × Json) := do
  let .str t ← record.field "t" | none
  let v ← (record.field "v").bind readInteger
  guard (t = kind ∧ v = 1)
  let base ← (record.field "base").bind readInteger
  return (base, ← record.field "cols")

/-- All zero when the column is absent. -/
def foColumn (cols : Json) (len : ℕ) : Option (List ℤ) :=
  if (cols.field "fo").isSome then column cols "fo" else some (List.replicate len 0)

/-- The columns side by side, when they are equally long. -/
def grpTable (cols : Json) : Option (List GrpDeltas) := do
  let relay ← column cols "c"
  let tr ← column cols "tr"
  let g ← column cols "g"
  let fo ← foColumn cols relay.length
  let t0 ← column cols "t0"
  let d ← column cols "d"
  let n ← column cols "n"
  let b ← column cols "b"
  guard ([tr, g, fo, t0, d, n, b].all (·.length = relay.length))
  (List.range relay.length).mapM fun i =>
    GrpDeltas.mk <$> relay[i]? <*> tr[i]? <*> g[i]? <*> fo[i]? <*> t0[i]? <*> d[i]? <*> n[i]? <*> b[i]?

/-- What the reader remembers between rows. -/
structure GrpReading where
  last : ℤ × ℤ → Option ℤ := fun _ => none
  send : ℤ

def GrpReading.group (reading : GrpReading) (x : GrpDeltas) : ℤ :=
  match reading.last (x.c, x.tr) with
  | none => x.g
  | some p => p + x.g

def GrpReading.row (reading : GrpReading) (x : GrpDeltas) : GrpRow × GrpReading :=
  let g := reading.group x
  let send := reading.send + x.t0
  ({ c := x.c.toNat, tr := x.tr.toNat, g := .ofInt g, fo := .ofInt x.fo, sendUs := .ofInt send
     spanUs := .ofInt x.d, objects := .ofInt x.n, bytes := .ofInt x.b },
    { last := Function.update reading.last (x.c, x.tr) (some g), send })

def GrpReading.rows (reading : GrpReading) : List GrpDeltas → List GrpRow
  | [] => []
  | x :: rest => (reading.row x).1 :: (reading.row x).2.rows rest

def readGrp (text : Text) : Option (List GrpRow) := do
  let (base, cols) ← readRecord "grp" (← parse text)
  return GrpReading.rows { send := base } (← grpTable cols)

def objTable (cols : Json) : Option (List ObjDeltas) := do
  let relay ← column cols "c"
  let tr ← column cols "tr"
  let g ← column cols "g"
  let o ← column cols "o"
  let s ← column cols "s"
  let sentAt ← column cols "at"
  guard ([tr, g, o, s, sentAt].all (·.length = relay.length))
  (List.range relay.length).mapM fun i =>
    ObjDeltas.mk <$> relay[i]? <*> tr[i]? <*> g[i]? <*> o[i]? <*> s[i]? <*> sentAt[i]?

structure ObjReading where
  last : ℤ × ℤ → Option (ℤ × ℤ) := fun _ => none
  send : ℤ

def ObjReading.group (reading : ObjReading) (x : ObjDeltas) : ℤ :=
  match reading.last (x.c, x.tr) with
  | none => x.g
  | some (p, _) => p + x.g

def ObjReading.object (reading : ObjReading) (x : ObjDeltas) : ℤ :=
  match reading.last (x.c, x.tr) with
  | none => x.o
  | some (p, o) => if p = reading.group x then o + x.o else x.o

def ObjReading.row (reading : ObjReading) (x : ObjDeltas) : ObjRow × ObjReading :=
  let g := reading.group x
  let o := reading.object x
  let send := reading.send + x.sentAt
  ({ c := x.c.toNat, tr := x.tr.toNat, g := .ofInt g, o := .ofInt o, bytes := .ofInt x.s
     sendUs := .ofInt send },
    { last := Function.update reading.last (x.c, x.tr) (some (g, o)), send })

def ObjReading.rows (reading : ObjReading) : List ObjDeltas → List ObjRow
  | [] => []
  | x :: rest => (reading.row x).1 :: (reading.row x).2.rows rest

def readObj (text : Text) : Option (List ObjRow) := do
  let (base, cols) ← readRecord "obj" (← parse text)
  return ObjReading.rows { send := base } (← objTable cols)

/-- The elements of a column of a record that are written as numbers. -/
def bareNumbers (text : Text) (name : String) : List ℤ :=
  let cells := (parse text).bind fun record => (record.field "cols").bind (elements · name)
  (cells.getD []).filterMap fun
    | .num n => some n
    | _ => none

/-! ## What a column's text spells -/

/-- The cell an identifier becomes. -/
def idCell (form : IdForm) (v : ℤ) : Json :=
  if form = .auto ∧ -maxSafeInteger ≤ v ∧ v ≤ maxSafeInteger then .num v
  else .str (String.ofList (decimal v))

theorem reads_idCell (form : IdForm) (v : ℤ) (depth : ℕ) :
    Reads (value (depth + 1)) (if form = .auto ∧ -maxSafeInteger ≤ v ∧ v ≤ maxSafeInteger then decimal v
      else '"' :: decimal v ++ ['"']) (idCell form v) := by
  unfold idCell
  split_ifs
  · apply reads_num
  · rw [← quote_decimal]
    apply reads_str

theorem readInteger_idCell (form : IdForm) (v : ℤ) : readInteger (idCell form v) = some v := by
  unfold idCell
  split_ifs
  · rfl
  · simp [readInteger, (reads_integer v).exactly]

theorem idCell_safe (form : IdForm) (v n : ℤ) (bare : idCell form v = .num n) :
    |n| ≤ maxSafeInteger := by
  unfold idCell at bare
  split_ifs at bare with safe
  obtain ⟨rfl⟩ := bare
  exact abs_le.mpr safe.2

variable {cells : List Json} {texts : List Text}

/-- The column's text so far, for a reader that goes one level deeper. -/
def Col.Holds (depth : ℕ) (col : Col) (cells : List Json) : Prop :=
  ∃ texts, List.Forall₂ (Reads (value (depth + 1))) texts cells ∧
    col.text = if texts = [] then [] else '[' :: commas texts

namespace Col.Holds
variable {depth : ℕ} {col : Col}

theorem empty : Col.Holds depth {} [] := ⟨[], .nil, rfl⟩

theorem push {text : Text} {cell : Json} (holds : col.Holds depth cells)
    (reads : Reads (value (depth + 1)) text cell) :
    Col.Holds depth ⟨col.sep.text ++ text⟩ (cells ++ [cell]) := by
  obtain ⟨texts, spelled, shape⟩ := holds
  refine ⟨texts ++ [text], List.rel_append spelled (.cons reads .nil), ?_⟩
  simp only [Col.sep, shape, commas_snoc]
  by_cases none : texts = [] <;> simp [none]

theorem int (holds : col.Holds depth cells) (v : ℤ) :
    (col.int v).Holds depth (cells ++ [.num v]) :=
  holds.push (reads_num depth v)

theorem id (holds : col.Holds depth cells) (v : ℤ) (form : IdForm) :
    (col.id v form).Holds depth (cells ++ [idCell form v]) := by
  have pushed := holds.push (reads_idCell form v depth)
  unfold Col.id
  split_ifs at pushed ⊢ with safe
  · exact pushed
  · simpa using pushed

theorem finish (holds : col.Holds depth cells) :
    Reads (value (depth + 2)) col.finish (.arr cells) := by
  obtain ⟨texts, spelled, shape⟩ := holds
  have read := reads_arr spelled
  by_cases none : texts = []
  · simpa [Col.finish, shape, none, commas] using read
  · simpa [Col.finish, shape, none] using read

end Col.Holds

/-- The object's text so far, its values nested no deeper than `depth`. -/
def Obj.Holds (depth : ℕ) (o : Obj) (fields : List (String × Json)) : Prop :=
  ∃ texts, List.Forall₂ (Reads (pair (value depth))) texts fields ∧ o.text = '{' :: commas texts

namespace Obj.Holds
variable {depth : ℕ} {o : Obj} {fields : List (String × Json)}

theorem new : Obj.new.Holds depth [] := ⟨[], .nil, rfl⟩

theorem raw {k : String} {json : Text} {v : Json} (holds : o.Holds depth fields)
    (reads : Reads (value depth) json v) : (o.raw k json).Holds depth (fields ++ [(k, v)]) := by
  obtain ⟨texts, spelled, shape⟩ := holds
  refine ⟨texts ++ [fieldText k json], List.rel_append spelled (.cons (reads_pair k reads) .nil), ?_⟩
  have empty := commas_eq_nil (pair_starved (value depth)) spelled
  by_cases none : texts = []
  · simp [Obj.raw, Obj.key, shape, commas, none, fieldText]
  · have filled : 0 < (commas texts).length := List.length_pos_iff.mpr (mt empty.mp none)
    simp [Obj.raw, Obj.key, shape, commas_snoc, none, fieldText, filled]

theorem int {k : String} (holds : o.Holds (depth + 1) fields) (v : ℤ) :
    (o.int k v).Holds (depth + 1) (fields ++ [(k, .num v)]) :=
  holds.raw (reads_num depth v)

theorem str {k : String} (holds : o.Holds (depth + 1) fields) (v : String) :
    (o.str k v).Holds (depth + 1) (fields ++ [(k, .str v)]) :=
  holds.raw (reads_str depth v)

theorem finish (holds : o.Holds depth fields) : Reads (value (depth + 1)) o.finish (.obj fields) := by
  obtain ⟨texts, spelled, shape⟩ := holds
  simpa [Obj.finish, shape] using reads_obj spelled

end Obj.Holds

/-! ## What the reader remembers -/

section Pairs
variable {α : Type} (last : List (Key × α)) (key key' : Key) (v : α)

theorem pairLast_fst : (pairLast last key v).1 = last.lookup key := by
  induction last with
  | nil => rfl
  | cons entry last ih =>
    obtain ⟨k, old⟩ := entry
    by_cases same : k = key
    · simp [pairLast, same]
    · have other : (key == k) = false := by simpa using Ne.symm same
      simp [pairLast, same, List.lookup, other, ih]

theorem pairLast_snd :
    (pairLast last key v).2.lookup key' = if key' = key then some v else last.lookup key' := by
  induction last with
  | nil => by_cases same : key' = key <;> simp [pairLast, List.lookup, same, beq_false_of_ne]
  | cons entry last ih =>
    obtain ⟨k, old⟩ := entry
    by_cases found : k = key
    · subst found
      by_cases same : key' = k <;> simp [pairLast, List.lookup, same, beq_false_of_ne]
    · by_cases same : key' = k
      · simp [pairLast, found, List.lookup, same]
      · simp [pairLast, found, List.lookup, same, beq_false_of_ne, ih]

end Pairs

/-- A reader's memory holds of each pair what the writer's list does. -/
def Remembers {α β : Type} (read : α → β) (memory : ℤ × ℤ → Option β) (last : List (Key × α)) :
    Prop :=
  ∀ c tr : ℕ, memory (c, tr) = (last.lookup (c, tr)).map read

theorem Remembers.update {α β : Type} {read : α → β} {memory : ℤ × ℤ → Option β}
    {last : List (Key × α)} (remembers : Remembers read memory last) (c tr : ℕ) (v : α) :
    Remembers read (Function.update memory (c, tr) (some (read v))) (pairLast last (c, tr) v).2 := by
  intro c' tr'
  by_cases same : c' = c ∧ tr' = tr
  · simp [pairLast_snd, same]
  · simp [pairLast_snd, same, remembers c' tr']

theorem ofInt_toNat (x : UInt64) : UInt64.ofInt x.toNat = x := by
  have small : (x.toNat : ℤ) % 2 ^ 64 = x.toNat :=
    Int.emod_eq_of_lt (by simp) (by exact_mod_cast x.toNat_lt)
  rw [UInt64.ofInt, small]
  simp

structure GrpReading.Follows (reading : GrpReading) (state : GrpState) : Prop where
  last : Remembers (fun g => (g.toNat : ℤ)) reading.last state.last
  send : reading.send = state.prevSend.toInt

namespace GrpReading.Follows
variable {reading : GrpReading} {state : GrpState}

theorem group (follows : reading.Follows state) (r : GrpRow) :
    reading.group (state.deltas r) = r.g.toNat := by
  simp only [GrpReading.group, GrpState.deltas, follows.last r.c r.tr, pairLast_fst]
  cases state.last.lookup (r.c, r.tr) <;> simp

theorem send_row (follows : reading.Follows state) (r : GrpRow) :
    reading.send + (state.deltas r).t0 = r.sendUs.toInt := by
  simp [GrpState.deltas, follows.send]

theorem row (follows : reading.Follows state) (r : GrpRow) :
    (reading.row (state.deltas r)).1 = r := by
  simp only [GrpReading.row, follows.group r, follows.send_row r]
  simp [GrpState.deltas, ofInt_toNat]

theorem push (follows : reading.Follows state) (form : IdForm) (r : GrpRow) :
    (reading.row (state.deltas r)).2.Follows (state.push form r) where
  last := by
    simp only [GrpReading.row, follows.group r]
    exact follows.last.update r.c r.tr r.g
  send := follows.send_row r

end GrpReading.Follows

/-- The rows of numbers the loop writes. -/
def GrpState.written (form : IdForm) (state : GrpState) : List GrpRow → List GrpDeltas
  | [] => []
  | r :: rest => state.deltas r :: (state.push form r).written form rest

theorem GrpReading.Follows.rows {reading : GrpReading} {state : GrpState} (form : IdForm)
    (follows : reading.Follows state) (rows : List GrpRow) :
    reading.rows (state.written form rows) = rows := by
  induction rows generalizing reading state with
  | nil => rfl
  | cons r rest ih => simp [GrpState.written, GrpReading.rows, follows.row r, ih (follows.push form r)]

structure ObjReading.Follows (reading : ObjReading) (state : ObjState) : Prop where
  last : Remembers (fun (g, o) => ((g.toNat : ℤ), (o.toNat : ℤ))) reading.last state.last
  send : reading.send = state.prevSend.toInt

namespace ObjReading.Follows
variable {reading : ObjReading} {state : ObjState}

theorem group (follows : reading.Follows state) (r : ObjRow) :
    reading.group (state.deltas r) = r.g.toNat := by
  simp only [ObjReading.group, ObjState.deltas, follows.last r.c r.tr, pairLast_fst]
  cases state.last.lookup (r.c, r.tr) <;> simp

theorem object (follows : reading.Follows state) (r : ObjRow) :
    reading.object (state.deltas r) = r.o.toNat := by
  rw [ObjReading.object, follows.group r]
  simp only [ObjState.deltas, follows.last r.c r.tr, pairLast_fst]
  cases state.last.lookup (r.c, r.tr) with
  | none => simp
  | some previous =>
    obtain ⟨g, o⟩ := previous
    by_cases same : g = r.g
    · simp [same]
    · have apart : (g.toNat : ℤ) ≠ r.g.toNat := by
        simpa [UInt64.toNat_inj] using same
      simp [same, apart]

theorem send_row (follows : reading.Follows state) (r : ObjRow) :
    reading.send + (state.deltas r).sentAt = r.sendUs.toInt := by
  simp [ObjState.deltas, follows.send]

theorem row (follows : reading.Follows state) (r : ObjRow) :
    (reading.row (state.deltas r)).1 = r := by
  simp only [ObjReading.row, follows.group r, follows.object r, follows.send_row r]
  simp [ObjState.deltas, ofInt_toNat]

theorem push (follows : reading.Follows state) (form : IdForm) (r : ObjRow) :
    (reading.row (state.deltas r)).2.Follows (state.push form r) where
  last := by
    simp only [ObjReading.row, follows.group r, follows.object r]
    exact follows.last.update r.c r.tr (r.g, r.o)
  send := follows.send_row r

end ObjReading.Follows

def ObjState.written (form : IdForm) (state : ObjState) : List ObjRow → List ObjDeltas
  | [] => []
  | r :: rest => state.deltas r :: (state.push form r).written form rest

theorem ObjReading.Follows.rows {reading : ObjReading} {state : ObjState} (form : IdForm)
    (follows : reading.Follows state) (rows : List ObjRow) :
    reading.rows (state.written form rows) = rows := by
  induction rows generalizing reading state with
  | nil => rfl
  | cons r rest ih => simp [ObjState.written, ObjReading.rows, follows.row r, ih (follows.push form r)]

/-! ## The records -/

structure GrpCols.Hold (depth : ℕ) (form : IdForm) (cols : GrpCols) (xs : List GrpDeltas) : Prop where
  c : cols.c.Holds depth (xs.map (.num ·.c))
  tr : cols.tr.Holds depth (xs.map (.num ·.tr))
  g : cols.g.Holds depth (xs.map (idCell form ·.g))
  fo : cols.fo.Holds depth (xs.map (idCell form ·.fo))
  t0 : cols.t0.Holds depth (xs.map (.num ·.t0))
  d : cols.d.Holds depth (xs.map (.num ·.d))
  n : cols.n.Holds depth (xs.map (.num ·.n))
  b : cols.b.Holds depth (xs.map (.num ·.b))

namespace GrpCols.Hold
variable {depth : ℕ} {form : IdForm} {cols : GrpCols} {xs : List GrpDeltas}

theorem empty : GrpCols.Hold depth form {} [] := by
  constructor <;> exact Col.Holds.empty

theorem push (holds : cols.Hold depth form xs) (x : GrpDeltas) :
    (cols.push form x).Hold depth form (xs ++ [x]) := by
  constructor <;> rw [List.map_append]
  · exact holds.c.int x.c
  · exact holds.tr.int x.tr
  · exact holds.g.id x.g form
  · exact holds.fo.id x.fo form
  · exact holds.t0.int x.t0
  · exact holds.d.int x.d
  · exact holds.n.int x.n
  · exact holds.b.int x.b

end GrpCols.Hold

theorem GrpState.written_held {depth : ℕ} {form : IdForm} {state : GrpState} {xs : List GrpDeltas}
    (holds : state.cols.Hold depth form xs) (rows : List GrpRow) :
    (rows.foldl (GrpState.push form) state).cols.Hold depth form (xs ++ state.written form rows) := by
  induction rows generalizing state xs with
  | nil => simpa [written] using holds
  | cons r rest ih =>
    have next := @ih (state.push form r) _ (holds.push (state.deltas r))
    simpa [written] using next

/-- The fields of a `grp` record's columns. -/
def grpFields (form : IdForm) (xs : List GrpDeltas) (withFo : Bool) : List (String × Json) :=
  [("c", .arr (xs.map (.num ·.c))), ("tr", .arr (xs.map (.num ·.tr))),
    ("g", .arr (xs.map (idCell form ·.g)))] ++
  (if withFo then [("fo", .arr (xs.map (idCell form ·.fo)))] else []) ++
  [("t0", .arr (xs.map (.num ·.t0))), ("d", .arr (xs.map (.num ·.d))),
    ("n", .arr (xs.map (.num ·.n))), ("b", .arr (xs.map (.num ·.b)))]

theorem reads_grpCols {depth : ℕ} {form : IdForm} {cols : GrpCols} {xs : List GrpDeltas}
    (holds : cols.Hold depth form xs) (withFo : Bool) :
    Reads (value (depth + 3)) (grpCols cols withFo).finish (.obj (grpFields form xs withFo)) := by
  apply Obj.Holds.finish
  have front := ((Obj.Holds.new.raw (k := "c") holds.c.finish).raw (k := "tr") holds.tr.finish).raw
    (k := "g") holds.g.finish
  cases withFo with
  | true =>
    exact ((((front.raw (k := "fo") holds.fo.finish).raw (k := "t0") holds.t0.finish).raw (k := "d")
      holds.d.finish).raw (k := "n") holds.n.finish).raw (k := "b") holds.b.finish
  | false =>
    exact (((front.raw (k := "t0") holds.t0.finish).raw (k := "d") holds.d.finish).raw (k := "n")
      holds.n.finish).raw (k := "b") holds.b.finish

structure ObjCols.Hold (depth : ℕ) (form : IdForm) (cols : ObjCols) (xs : List ObjDeltas) : Prop where
  c : cols.c.Holds depth (xs.map (.num ·.c))
  tr : cols.tr.Holds depth (xs.map (.num ·.tr))
  g : cols.g.Holds depth (xs.map (idCell form ·.g))
  o : cols.o.Holds depth (xs.map (idCell form ·.o))
  s : cols.s.Holds depth (xs.map (.num ·.s))
  sentAt : cols.sentAt.Holds depth (xs.map (.num ·.sentAt))

namespace ObjCols.Hold
variable {depth : ℕ} {form : IdForm} {cols : ObjCols} {xs : List ObjDeltas}

theorem empty : ObjCols.Hold depth form {} [] := by
  constructor <;> exact Col.Holds.empty

theorem push (holds : cols.Hold depth form xs) (x : ObjDeltas) :
    (cols.push form x).Hold depth form (xs ++ [x]) := by
  constructor <;> rw [List.map_append]
  · exact holds.c.int x.c
  · exact holds.tr.int x.tr
  · exact holds.g.id x.g form
  · exact holds.o.id x.o form
  · exact holds.s.int x.s
  · exact holds.sentAt.int x.sentAt

end ObjCols.Hold

theorem ObjState.written_held {depth : ℕ} {form : IdForm} {state : ObjState} {xs : List ObjDeltas}
    (holds : state.cols.Hold depth form xs) (rows : List ObjRow) :
    (rows.foldl (ObjState.push form) state).cols.Hold depth form (xs ++ state.written form rows) := by
  induction rows generalizing state xs with
  | nil => simpa [written] using holds
  | cons r rest ih =>
    have next := @ih (state.push form r) _ (holds.push (state.deltas r))
    simpa [written] using next

/-- The fields of an `obj` record's columns. -/
def objFields (form : IdForm) (xs : List ObjDeltas) : List (String × Json) :=
  [("c", .arr (xs.map (.num ·.c))), ("tr", .arr (xs.map (.num ·.tr))),
    ("g", .arr (xs.map (idCell form ·.g))), ("o", .arr (xs.map (idCell form ·.o))),
    ("s", .arr (xs.map (.num ·.s))), ("at", .arr (xs.map (.num ·.sentAt)))]

theorem reads_objCols {depth : ℕ} {form : IdForm} {cols : ObjCols} {xs : List ObjDeltas}
    (holds : cols.Hold depth form xs) :
    Reads (value (depth + 3)) (objCols cols).finish (.obj (objFields form xs)) := by
  apply Obj.Holds.finish
  exact (((((Obj.Holds.new.raw (k := "c") holds.c.finish).raw (k := "tr") holds.tr.finish).raw
    (k := "g") holds.g.finish).raw (k := "o") holds.o.finish).raw (k := "s") holds.s.finish).raw
    (k := "at") holds.sentAt.finish

/-- A record of one kind around its columns. -/
def recordFields (kind : String) (base : ℤ) (cols : Json) : List (String × Json) :=
  [("t", .str kind), ("v", .num 1), ("base", .num base), ("cols", cols)]

theorem reads_record {depth : ℕ} {kind : String} {base : ℤ} {text : Text} {cols : Json}
    (reads : Reads (value (depth + 3)) text cols) :
    Reads (value (depth + 4)) ((((Obj.new.str "t" kind).int "v" 1).int "base" base).raw "cols" text).finish
      (.obj (recordFields kind base cols)) := by
  apply Obj.Holds.finish
  exact (((Obj.Holds.new.str (k := "t") kind).int (k := "v") 1).int (k := "base") base).raw reads

/-! ## Reading the columns back -/

theorem mapM_readInteger {α : Type} {cell : α → Json} {number : α → ℤ}
    (reads : ∀ x, readInteger (cell x) = some (number x)) (xs : List α) :
    (xs.map cell).mapM readInteger = some (xs.map number) := by
  induction xs with
  | nil => rfl
  | cons x xs ih => simp [reads x, ih]

/-- Indexing one by one gives the list back. -/
theorem mapM_range {α : Type} {xs : List α} {row : ℕ → Option α}
    (rows : ∀ i, row i = xs[i]?) : (List.range xs.length).mapM row = some xs := by
  induction xs generalizing row with
  | nil => rfl
  | cons x xs ih =>
    have later : ∀ i, row (i + 1) = xs[i]? := fun i => by simp [rows]
    have tail := ih later
    rw [List.length_cons, List.range_succ_eq_map, List.mapM_cons, List.mapM_map]
    simp only [Function.comp_def, Nat.succ_eq_add_one, tail, rows 0]
    simp

theorem column_arr {cols : Json} {name : String} {cells : List Json} {numbers : List ℤ}
    (there : cols.field name = some (.arr cells)) (reads : cells.mapM readInteger = some numbers) :
    column cols name = some numbers := by
  simp [column, elements, there, Json.elements?, reads]

section Columns
variable {α : Type} {cols : Json} {name : String} {xs : List α} {f : α → ℤ}

theorem column_num (there : cols.field name = some (.arr (xs.map (.num <| f ·)))) :
    column cols name = some (xs.map f) :=
  column_arr there (mapM_readInteger (fun _ => rfl) xs)

theorem column_id {form : IdForm} (there : cols.field name = some (.arr (xs.map (idCell form <| f ·)))) :
    column cols name = some (xs.map f) :=
  column_arr there (mapM_readInteger (fun x => readInteger_idCell form (f x)) xs)

end Columns

theorem foColumn_fields (form : IdForm) (xs : List GrpDeltas) (withFo : Bool)
    (zero : withFo = false → ∀ x ∈ xs, x.fo = 0) :
    foColumn (.obj (grpFields form xs withFo)) xs.length = some (xs.map (·.fo)) := by
  cases withFo with
  | true =>
    have there : Json.field (.obj (grpFields form xs true)) "fo" =
        some (.arr (xs.map (idCell form ·.fo))) := rfl
    exact column_id there
  | false =>
    rw [List.map_eq_replicate_iff.mpr (zero rfl)]
    rfl

theorem grpTable_fields (form : IdForm) (xs : List GrpDeltas) (withFo : Bool)
    (zero : withFo = false → ∀ x ∈ xs, x.fo = 0) :
    grpTable (.obj (grpFields form xs withFo)) = some xs := by
  have rows : ∀ i : ℕ, GrpDeltas.mk <$> (xs.map (·.c))[i]? <*> (xs.map (·.tr))[i]? <*>
      (xs.map (·.g))[i]? <*> (xs.map (·.fo))[i]? <*> (xs.map (·.t0))[i]? <*> (xs.map (·.d))[i]? <*>
      (xs.map (·.n))[i]? <*> (xs.map (·.b))[i]? = xs[i]? := by
    intro i
    simp only [List.getElem?_map]
    cases xs[i]? <;> rfl
  have table := mapM_range rows
  have fo := foColumn_fields form xs withFo zero
  generalize shape : Json.obj (grpFields form xs withFo) = cols at fo ⊢
  have field : ∀ name, cols.field name = (grpFields form xs withFo).lookup name := by
    intro name
    rw [← shape, Json.field]
  have c : column cols "c" = some (xs.map (·.c)) := column_num (field "c")
  have tr : column cols "tr" = some (xs.map (·.tr)) := column_num (field "tr")
  have g : column cols "g" = some (xs.map (·.g)) := column_id (field "g")
  have t0 : column cols "t0" = some (xs.map (·.t0)) := column_num (by cases withFo <;> exact field "t0")
  have d : column cols "d" = some (xs.map (·.d)) := column_num (by cases withFo <;> exact field "d")
  have n : column cols "n" = some (xs.map (·.n)) := column_num (by cases withFo <;> exact field "n")
  have b : column cols "b" = some (xs.map (·.b)) := column_num (by cases withFo <;> exact field "b")
  simp only [grpTable, c, tr, g, t0, d, n, b, List.length_map, fo, Option.bind_eq_bind, Option.bind_some]
  simpa using table

theorem objTable_fields (form : IdForm) (xs : List ObjDeltas) :
    objTable (.obj (objFields form xs)) = some xs := by
  have rows : ∀ i : ℕ, ObjDeltas.mk <$> (xs.map (·.c))[i]? <*> (xs.map (·.tr))[i]? <*>
      (xs.map (·.g))[i]? <*> (xs.map (·.o))[i]? <*> (xs.map (·.s))[i]? <*>
      (xs.map (·.sentAt))[i]? = xs[i]? := by
    intro i
    simp only [List.getElem?_map]
    cases xs[i]? <;> rfl
  have table := mapM_range rows
  generalize shape : Json.obj (objFields form xs) = cols
  have field : ∀ name, cols.field name = (objFields form xs).lookup name := by
    intro name
    rw [← shape, Json.field]
  have c : column cols "c" = some (xs.map (·.c)) := column_num (field "c")
  have tr : column cols "tr" = some (xs.map (·.tr)) := column_num (field "tr")
  have g : column cols "g" = some (xs.map (·.g)) := column_id (field "g")
  have o : column cols "o" = some (xs.map (·.o)) := column_id (field "o")
  have s : column cols "s" = some (xs.map (·.s)) := column_num (field "s")
  have sentAt : column cols "at" = some (xs.map (·.sentAt)) := column_num (field "at")
  simp only [objTable, c, tr, g, o, s, sentAt, List.length_map, Option.bind_eq_bind, Option.bind_some]
  simpa using table

/-! ## Both records -/

theorem readRecord_fields (kind : String) (base : ℤ) (cols : Json) :
    readRecord kind (.obj (recordFields kind base cols)) = some (base, cols) := by
  simp [readRecord, recordFields, Json.field, List.lookup, readInteger]

/-- No number of a column of identifiers is past what JSON carries exactly. -/
theorem bare_safe {text : Text} {record : Json} (parsed : parse text = some record) (name : String)
    (ids : ∀ cells, (record.field "cols").bind (elements · name) = some cells →
      ∀ cell ∈ cells, ∃ form v, cell = idCell form v) (n : ℤ) (bare : n ∈ bareNumbers text name) :
    |n| ≤ maxSafeInteger := by
  simp only [bareNumbers, parsed, Option.bind_some] at bare
  cases found : (record.field "cols").bind (elements · name) with
  | none => simp [found] at bare
  | some cells =>
    simp only [found, Option.getD_some, List.mem_filterMap] at bare
    obtain ⟨cell, member, number⟩ := bare
    obtain ⟨form, v, rfl⟩ := ids cells found cell member
    apply idCell_safe form v
    cases shape : idCell form v with
    | num m => simpa [shape] using number
    | str s => simp [shape] at number
    | arr cells => simp [shape] at number
    | obj fields => simp [shape] at number

section Records
variable (form : IdForm)

/-- The numbers of a `grp` record's columns. -/
def grpWritten (rows : List GrpRow) : List GrpDeltas :=
  GrpState.written form { prevSend := grpBase rows } rows

/-- The numbers of an `obj` record's columns. -/
def objWritten (rows : List ObjRow) : List ObjDeltas :=
  ObjState.written form { prevSend := objBase rows } rows

theorem written_fo (state : GrpState) (rows : List GrpRow) :
    ∀ x ∈ state.written form rows, ∃ r ∈ rows, x.fo = r.fo.toNat := by
  induction rows generalizing state with
  | nil => simp [GrpState.written]
  | cons r rest ih =>
    intro x member
    rcases List.mem_cons.mp member with rfl | later
    · exact ⟨r, by simp, rfl⟩
    · obtain ⟨r', inside, same⟩ := ih _ x later
      exact ⟨r', by simp [inside], same⟩

theorem parse_grpJson (rows : List GrpRow) :
    parse (grpJson rows form) = some (.obj (recordFields "grp" (grpBase rows).toInt
      (.obj (grpFields form (grpWritten form rows) (rows.any fun r => r.fo ≠ 0))))) := by
  have start : GrpCols.Hold 124 form (GrpState.cols { prevSend := grpBase rows }) [] :=
    GrpCols.Hold.empty
  have cols := reads_grpCols (GrpState.written_held start rows) (rows.any fun r => r.fo ≠ 0)
  exact (reads_record cols).exactly

theorem parse_objJson (rows : List ObjRow) :
    parse (objJson rows form) = some (.obj (recordFields "obj" (objBase rows).toInt
      (.obj (objFields form (objWritten form rows))))) := by
  have start : ObjCols.Hold 124 form (ObjState.cols { prevSend := objBase rows }) [] :=
    ObjCols.Hold.empty
  have cols := reads_objCols (ObjState.written_held start rows)
  exact (reads_record cols).exactly

theorem read_grpJson (rows : List GrpRow) : readGrp (grpJson rows form) = some rows := by
  have zero : (rows.any fun r => r.fo ≠ 0) = false → ∀ x ∈ grpWritten form rows, x.fo = 0 := by
    intro none x member
    obtain ⟨r, inside, same⟩ := written_fo form _ rows x member
    have absent : r.fo = 0 := by simpa using List.any_eq_false.mp none r inside
    simp [same, absent]
  have follows : GrpReading.Follows { send := (grpBase rows).toInt } { prevSend := grpBase rows } :=
    ⟨fun _ _ => rfl, rfl⟩
  have back := follows.rows form rows
  have table := grpTable_fields form _ _ zero
  simp only [readGrp, parse_grpJson, Option.bind_eq_bind, Option.bind_some, readRecord_fields, table]
  exact congrArg some back

theorem read_objJson (rows : List ObjRow) : readObj (objJson rows form) = some rows := by
  have follows : ObjReading.Follows { send := (objBase rows).toInt } { prevSend := objBase rows } :=
    ⟨fun _ _ => rfl, rfl⟩
  have back := follows.rows form rows
  simp only [readObj, parse_objJson, Option.bind_eq_bind, Option.bind_some, readRecord_fields,
    objTable_fields]
  exact congrArg some back

theorem bare_grpJson (rows : List GrpRow) (name : String) (column : name ∈ ["g", "fo"]) :
    ∀ n ∈ bareNumbers (grpJson rows form) name, |n| ≤ maxSafeInteger := by
  apply bare_safe (parse_grpJson form rows)
  generalize grpWritten form rows = xs, (rows.any fun r => r.fo ≠ 0) = withFo
  intro cells found cell member
  have either : name = "g" ∨ name = "fo" := by simpa using column
  rcases either with rfl | rfl
  · obtain rfl : xs.map (idCell form ·.g) = cells := Option.some.inj found
    obtain ⟨x, -, rfl⟩ := List.mem_map.mp member
    exact ⟨form, x.g, rfl⟩
  · cases withFo with
    | true =>
      obtain rfl : xs.map (idCell form ·.fo) = cells := Option.some.inj found
      obtain ⟨x, -, rfl⟩ := List.mem_map.mp member
      exact ⟨form, x.fo, rfl⟩
    | false => cases found

theorem bare_objJson (rows : List ObjRow) (name : String) (column : name ∈ ["g", "o"]) :
    ∀ n ∈ bareNumbers (objJson rows form) name, |n| ≤ maxSafeInteger := by
  apply bare_safe (parse_objJson form rows)
  generalize objWritten form rows = xs
  intro cells found cell member
  have either : name = "g" ∨ name = "o" := by simpa using column
  rcases either with rfl | rfl
  · obtain rfl : xs.map (idCell form ·.g) = cells := Option.some.inj found
    obtain ⟨x, -, rfl⟩ := List.mem_map.mp member
    exact ⟨form, x.g, rfl⟩
  · obtain rfl : xs.map (idCell form ·.o) = cells := Option.some.inj found
    obtain ⟨x, -, rfl⟩ := List.mem_map.mp member
    exact ⟨form, x.o, rfl⟩

end Records

/-- The columns of either record give back the rows they were written from, and an identifier
written as a number is one every JSON reader carries exactly. -/
theorem columns_determine_rows (form : IdForm) :
    (∀ rows, readGrp (grpJson rows form) = some rows ∧
      ∀ name ∈ ["g", "fo"], ∀ n ∈ bareNumbers (grpJson rows form) name, |n| ≤ maxSafeInteger) ∧
    (∀ rows, readObj (objJson rows form) = some rows ∧
      ∀ name ∈ ["g", "o"], ∀ n ∈ bareNumbers (objJson rows form) name, |n| ≤ maxSafeInteger) := by
  refine ⟨fun rows => ⟨read_grpJson form rows, ?_⟩, fun rows => ⟨read_objJson form rows, ?_⟩⟩
  · exact bare_grpJson form rows
  · exact bare_objJson form rows

end Moqtap.ColumnDeltas
