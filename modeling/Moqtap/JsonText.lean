import Mathlib

/-! JSON text over its characters: decimal integers, quoted strings, and the commas between the
elements of an array or an object. A `Reader` takes a value off the front of a text; `Reads` says
what it takes off a given spelling, whatever follows, as long as that does not go on with a digit.

Nothing here knows a record. Numbers are whole: the text of a fraction or an exponent is not
read. -/
namespace Moqtap.JsonText

abbrev Text := List Char

inductive Json where
  | num (n : ℤ)
  | str (s : String)
  | arr (elements : List Json)
  | obj (fields : List (String × Json))

/-- The first field under a name. -/
def Json.field : Json → String → Option Json
  | .obj fields, name => fields.lookup name
  | _, _ => none

def Json.elements? : Json → Option (List Json)
  | .arr elements => some elements
  | _ => none

/-! ## Spellings -/

def decimal : ℤ → Text
  | .ofNat n => Nat.toDigits 10 n
  | .negSucc n => '-' :: Nat.toDigits 10 (n + 1)

/-- Four lower-case hexadecimal digits. -/
def hex4 (n : ℕ) : Text := (Nat.toDigits 16 n).leftpad 4 '0'

/-- A character of a string, as `JSON.stringify` writes it. -/
def escape (ch : Char) : Text :=
  if ch = '"' then ['\\', '"']
  else if ch = '\\' then ['\\', '\\']
  else if ch = '\x08' then ['\\', 'b']
  else if ch = '\x0c' then ['\\', 'f']
  else if ch = '\n' then ['\\', 'n']
  else if ch = '\r' then ['\\', 'r']
  else if ch = '\t' then ['\\', 't']
  else if ch.toNat < 0x20 then '\\' :: 'u' :: hex4 ch.toNat
  else [ch]

def quote (s : String) : Text := '"' :: s.toList.flatMap escape ++ ['"']

/-- Items with a comma between one and the next. -/
def commas : List Text → Text
  | [] => []
  | item :: rest => item ++ rest.flatMap (',' :: ·)

theorem commas_snoc (items : List Text) (item : Text) :
    commas (items ++ [item]) = if items = [] then item else commas items ++ ',' :: item := by
  cases items <;> simp [commas]

/-! ## Readers -/

abbrev Reader (α : Type) := StateT Text Option α

variable {α β : Type}

/-- What may follow a number without becoming part of it. -/
def Stops (rest : Text) : Prop := ∀ c ∈ rest.head?, ¬ c.isDigit

/-- The reader takes `value` off `text` and leaves what follows. -/
def Reads (reader : Reader α) (text : Text) (value : α) : Prop :=
  ∀ rest, Stops rest → reader (text ++ rest) = some (value, rest)

@[simp] theorem stops_nil : Stops [] := by simp [Stops]

@[simp] theorem stops_cons (c : Char) (rest : Text) : Stops (c :: rest) ↔ ¬ c.isDigit := by
  simp [Stops]

theorem Reads.whole {reader : Reader α} {text : Text} {value : α}
    (reads : Reads reader text value) : reader text = some (value, []) := by
  simpa using reads [] stops_nil

/-- A reader of all of a text. -/
def exactly (reader : Reader α) (text : Text) : Option α :=
  match reader text with
  | some (value, []) => some value
  | _ => none

theorem Reads.exactly {reader : Reader α} {text : Text} {value : α}
    (reads : Reads reader text value) : exactly reader text = some value := by
  simp [JsonText.exactly, reads.whole]

def nextChar : Reader Char
  | [] => none
  | c :: rest => some (c, rest)

def expect (c : Char) : Reader Unit
  | [] => none
  | head :: rest => if head = c then some ((), rest) else none

/-! ## Numbers -/

def natural : Reader ℕ := fun text =>
  match text.takeWhile Char.isDigit with
  | [] => none
  | digits => some (Nat.ofDigitChars 10 digits 0, text.dropWhile Char.isDigit)

def integer : Reader ℤ
  | '-' :: rest => (natural rest).map fun (n, rest) => (-n, rest)
  | text => (natural text).map fun (n, rest) => (n, rest)

/-- A text of digits alone, read up to where the digits stop. -/
theorem natural_digits (digits rest : Text) (nonempty : digits ≠ [])
    (all : ∀ c ∈ digits, c.isDigit) (stops : Stops rest) :
    natural (digits ++ rest) = some (Nat.ofDigitChars 10 digits 0, rest) := by
  have stop : rest.takeWhile Char.isDigit = [] ∧ rest.dropWhile Char.isDigit = rest := by
    cases rest with
    | nil => simp
    | cons c rest => simp_all
  have taken : (digits ++ rest).takeWhile Char.isDigit = digits := by
    rw [List.takeWhile_append_of_pos all, stop.1, List.append_nil]
  have dropped : (digits ++ rest).dropWhile Char.isDigit = rest := by
    rw [List.dropWhile_append_of_pos all, stop.2]
  rw [natural, taken, dropped]
  cases digits with
  | nil => contradiction
  | cons => rfl

theorem reads_natural (n : ℕ) : Reads natural (Nat.toDigits 10 n) n := by
  intro rest stops
  rw [natural_digits _ _ Nat.toDigits_ne_nil
    (fun c digit => Nat.isDigit_of_mem_toDigits (by simp) (by simp) digit) stops]
  simp

/-- Digits never begin with the sign. -/
theorem integer_unsigned (c : Char) (text : Text) (digit : c.isDigit) :
    integer (c :: text) = (natural (c :: text)).map fun (n, rest) => (n, rest) := by
  have notSign : c ≠ '-' := by
    rintro rfl
    simp at digit
  apply integer.eq_2
  rintro rest ⟨rfl⟩
  contradiction

theorem toDigits_digit {n : ℕ} {c : Char} (member : c ∈ Nat.toDigits 10 n) : c.isDigit :=
  Nat.isDigit_of_mem_toDigits (by simp) (by simp) member

theorem decimal_digit {n : ℤ} {c : Char} (member : c ∈ decimal n) : c = '-' ∨ c.isDigit := by
  cases n with
  | ofNat n => exact .inr (toDigits_digit member)
  | negSucc n => exact (List.mem_cons.mp member).imp_right toDigits_digit

theorem decimal_ne_nil (n : ℤ) : decimal n ≠ [] := by
  cases n <;> simp [decimal]

theorem reads_integer (n : ℤ) : Reads integer (decimal n) n := by
  intro rest stops
  cases n with
  | ofNat n =>
    have read := reads_natural n rest stops
    rw [decimal]
    cases shape : Nat.toDigits 10 n with
    | nil => simp at shape
    | cons c text =>
      have digit : c.isDigit := toDigits_digit (n := n) (by simp [shape])
      rw [shape, List.cons_append] at read
      rw [List.cons_append, integer_unsigned c _ digit, read]
      rfl
  | negSucc n =>
    simp [decimal, integer, reads_natural (n + 1) rest stops, Int.negSucc_eq]

/-! ## Strings -/

/-- The character a short escape stands for. -/
def unescape : Char → Option Char
  | '"' => some '"'
  | '\\' => some '\\'
  | '/' => some '/'
  | 'b' => some '\x08'
  | 'f' => some '\x0c'
  | 'n' => some '\n'
  | 'r' => some '\r'
  | 't' => some '\t'
  | _ => none

def hexDigit (c : Char) : Option ℕ := (List.range 16).find? fun n => n.digitChar = c.toLower

def hexValue (digits : Text) : Option ℕ :=
  digits.foldlM (fun value c => (hexDigit c).map (16 * value + ·)) 0

/-- A string's characters, up to the quote that closes it. -/
def characters : Reader Text
  | [] => none
  | '"' :: rest => some ([], rest)
  | '\\' :: 'u' :: a :: b :: c :: d :: rest =>
    (hexValue [a, b, c, d]).bind fun code =>
      (characters rest).map fun (s, rest) => (Char.ofNat code :: s, rest)
  | '\\' :: c :: rest =>
    (unescape c).bind fun ch => (characters rest).map fun (s, rest) => (ch :: s, rest)
  | c :: rest => (characters rest).map fun (s, rest) => (c :: s, rest)

def string : Reader String
  | '"' :: rest => (characters rest).map fun (s, rest) => (String.ofList s, rest)
  | _ => none

theorem hexValue_hex4 (n : ℕ) (control : n < 0x20) : hexValue (hex4 n) = some n := by
  revert n
  decide

theorem hex4_shape (n : ℕ) (control : n < 0x20) : ∃ a b c d, hex4 n = [a, b, c, d] := by
  have four : (hex4 n).length = 4 := by
    revert n
    decide
  exact List.length_eq_four.mp four

/-- An escaped character is read back as itself, and the string goes on behind it. -/
theorem characters_escape (ch : Char) (rest : Text) :
    characters (escape ch ++ rest) = (characters rest).map fun (s, rest) => (ch :: s, rest) := by
  unfold escape
  split_ifs with quote slash backspace feed line carriage tab control
  all_goals try subst ch
  all_goals try simp [characters, unescape]
  · obtain ⟨a, b, c, d, shape⟩ := hex4_shape ch.toNat control
    have code := hexValue_hex4 ch.toNat control
    rw [shape] at code ⊢
    simp [characters, code]
  · rw [characters.eq_5 _ _ quote (by simp [slash]) (by simp [slash])]

theorem reads_string (s : String) : Reads string (quote s) s := by
  have body : ∀ (cs : Text) (rest : Text),
      characters (cs.flatMap escape ++ '"' :: rest) = some (cs, rest) := by
    intro cs rest
    induction cs with
    | nil => simp [characters]
    | cons c cs ih => simp [characters_escape, ih]
  intro rest _
  simp [quote, string, body]

theorem escape_plain {c : Char} (plain : c = '-' ∨ c.isDigit) : escape c = [c] := by
  rcases plain with rfl | digit
  · simp [escape]
  · have low : 48 ≤ c.toNat := by
      simp only [Char.isDigit, Bool.and_eq_true, decide_eq_true_eq] at digit
      exact digit.1
    unfold escape
    split_ifs with quote slash backspace feed line carriage tab control
    case neg => rfl
    all_goals first | omega | (subst c; simp at digit)

/-- A decimal between quotes needs no escape. -/
theorem quote_decimal (n : ℤ) : quote (String.ofList (decimal n)) = '"' :: decimal n ++ ['"'] := by
  have plain : (decimal n).flatMap escape = (decimal n).flatMap ([·]) :=
    List.flatMap_congr fun c member => escape_plain (decimal_digit member)
  simp [quote, plain]

/-! ## Arrays and objects -/

/-- One item, then as many more as commas announce. -/
def items (item : Reader α) : ℕ → Reader (List α)
  | 0 => fun _ => none
  | fuel + 1 => fun text => (item text).bind fun (first, rest) => match rest with
    | ',' :: rest => (items item fuel rest).map fun (more, rest) => (first :: more, rest)
    | rest => some ([first], rest)

/-- Items up to a closing character. No item is shorter than a character, so the text's length
bounds their number. -/
def listed (item : Reader α) (close : Char) : Reader (List α) := fun text =>
  match text with
  | c :: rest =>
    if c = close then some ([], rest)
    else (items item text.length text).bind fun (values, rest) =>
      (expect close rest).map fun (_, rest) => (values, rest)
  | [] => none

/-- A field of an object. -/
def pair (value : Reader α) : Reader (String × α) := fun text =>
  (string text).bind fun (name, rest) => (expect ':' rest).bind fun (_, rest) =>
    (value rest).map fun (value, rest) => ((name, value), rest)

/-- A value nested no deeper than `depth`. -/
def value : ℕ → Reader Json
  | 0, _ => none
  | depth + 1, '[' :: rest =>
    (listed (value depth) ']' rest).map fun (elements, rest) => (.arr elements, rest)
  | depth + 1, '{' :: rest =>
    (listed (pair (value depth)) '}' rest).map fun (fields, rest) => (.obj fields, rest)
  | _ + 1, '"' :: rest => (string ('"' :: rest)).map fun (s, rest) => (.str s, rest)
  | _ + 1, text => (integer text).map fun (n, rest) => (.num n, rest)

section Lists
variable {item : Reader α} {close : Char} {texts : List Text} {values : List α}

theorem items_commas (first : Text) (head : α) (reads : Reads item first head)
    (more : List.Forall₂ (Reads item) texts values) (fuel : ℕ) (enough : texts.length < fuel)
    (notComma : close ≠ ',') (notDigit : ¬ close.isDigit) (rest : Text) :
    items item fuel (commas (first :: texts) ++ close :: rest) =
      some (head :: values, close :: rest) := by
  induction more generalizing first head fuel with
  | nil =>
    obtain ⟨fuel, rfl⟩ : ∃ n, fuel = n + 1 := ⟨fuel - 1, by simp at enough; omega⟩
    have read := reads (close :: rest) (by simpa using notDigit)
    simp [items, commas, read, notComma]
  | @cons text value texts values next more ih =>
    obtain ⟨fuel, rfl⟩ : ∃ n, fuel = n + 1 := ⟨fuel - 1, by simp at enough; omega⟩
    have tail := ih text value next fuel (by simpa using enough)
    have read := reads (',' :: (commas (text :: texts) ++ close :: rest)) (by simp)
    simp only [commas, List.flatMap_cons, List.cons_append, List.append_assoc] at read tail ⊢
    simp [items, read, tail]

/-- The items of a list are read back when no item starts as the list ends. -/
theorem listed_commas (item : Reader α) (close : Char) (starved : item [] = none)
    (refuses : ∀ rest, item (close :: rest) = none) (notComma : close ≠ ',') (notDigit : ¬ close.isDigit)
    (reads : List.Forall₂ (Reads item) texts values) :
    Reads (listed item close) (commas texts ++ [close]) values := by
  intro rest _
  cases reads with
  | nil => simp [commas, listed]
  | @cons first head texts values reads more =>
    cases first with
    | nil => simpa [starved] using reads.whole
    | cons c first =>
      have opens : c ≠ close := by
        rintro rfl
        simpa [refuses] using reads.whole
      have enough : texts.length < (commas ((c :: first) :: texts) ++ close :: rest).length := by
        simp [commas]
        omega
      have read := items_commas _ _ reads more _ enough notComma notDigit rest
      simp only [commas, List.cons_append, List.append_assoc, List.nil_append] at read ⊢
      rw [listed, if_neg opens, read]
      simp [expect]

end Lists

theorem value_starved (depth : ℕ) : value depth [] = none := by
  cases depth <;> simp [value, integer, natural]

theorem value_refuses (depth : ℕ) (rest : Text) : value depth (']' :: rest) = none := by
  cases depth <;> simp [value, integer, natural]

/-- What begins like a number is read as one. -/
theorem value_number (depth : ℕ) (c : Char) (text : Text) (number : c = '-' ∨ c.isDigit) :
    value (depth + 1) (c :: text) = (integer (c :: text)).map fun (n, rest) => (.num n, rest) := by
  have other : c ≠ '[' ∧ c ≠ '{' ∧ c ≠ '"' := by
    refine ⟨?_, ?_, ?_⟩ <;> rintro rfl <;> simp at number
  apply value.eq_5
  · rintro rest ⟨rfl⟩
    exact other.1 rfl
  · rintro rest ⟨rfl⟩
    exact other.2.1 rfl
  · rintro rest ⟨rfl⟩
    exact other.2.2 rfl

theorem reads_num (depth : ℕ) (n : ℤ) : Reads (value (depth + 1)) (decimal n) (.num n) := by
  intro rest stops
  have read := reads_integer n rest stops
  cases shape : decimal n with
  | nil => exact absurd shape (decimal_ne_nil n)
  | cons c text =>
    have number : c = '-' ∨ c.isDigit := decimal_digit (n := n) (by simp [shape])
    rw [shape, List.cons_append] at read
    rw [List.cons_append, value_number depth c _ number, read]
    rfl

theorem reads_str (depth : ℕ) (s : String) : Reads (value (depth + 1)) (quote s) (.str s) := by
  intro rest stops
  have read := reads_string s rest stops
  simp only [quote, List.cons_append] at read ⊢
  rw [value, read]
  rfl

theorem reads_arr {depth : ℕ} {texts : List Text} {values : List Json}
    (reads : List.Forall₂ (Reads (value depth)) texts values) :
    Reads (value (depth + 1)) ('[' :: commas texts ++ [']']) (.arr values) := by
  intro rest stops
  have read := listed_commas (value depth) ']' (value_starved depth) (value_refuses depth) (by simp)
    (by simp) reads rest stops
  simp only [List.cons_append] at read ⊢
  rw [value, read]
  rfl

theorem commas_eq_nil {reader : Reader α} {texts : List Text} {values : List α}
    (starved : reader [] = none) (reads : List.Forall₂ (Reads reader) texts values) :
    commas texts = [] ↔ texts = [] := by
  cases reads with
  | nil => simp [commas]
  | @cons first value texts values reads more =>
    have filled : first ≠ [] := by
      rintro rfl
      simpa [starved] using reads.whole
    simp [commas, filled]

/-- A field as an object holds it. -/
def fieldText (name : String) (text : Text) : Text := quote name ++ ':' :: text

theorem reads_pair {reader : Reader α} {text : Text} {value : α} (name : String)
    (reads : Reads reader text value) : Reads (pair reader) (fieldText name text) (name, value) := by
  intro rest stops
  have named := reads_string name (':' :: (text ++ rest)) (by simp)
  simp [pair, fieldText, named, expect, reads rest stops]

theorem pair_starved (reader : Reader α) : pair reader [] = none := by
  simp [pair, string]

theorem reads_obj {depth : ℕ} {texts : List Text} {fields : List (String × Json)}
    (reads : List.Forall₂ (Reads (pair (value depth))) texts fields) :
    Reads (value (depth + 1)) ('{' :: commas texts ++ ['}']) (.obj fields) := by
  intro rest stops
  have read := listed_commas (pair (value depth)) '}' (pair_starved _) (by simp [pair, string])
    (by simp) (by simp) reads rest stops
  simp only [List.cons_append] at read ⊢
  rw [value, read]
  rfl

end Moqtap.JsonText
