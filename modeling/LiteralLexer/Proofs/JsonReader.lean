import LiteralLexer.Text.Decimal
import LiteralLexer.Text.JsonText

/-!
A reader for JSON texts, as the other side of what the renderer writes. It takes all of JSON: values
of every kind and however deep, white space between any two tokens, every escape, and numbers with a
fraction and an exponent. The one thing that it refuses and other readers may take is half of a
surrogate pair, which is no character.

A value is read off the front of a text, with the rest handed on. What is written here is read back
in front of any rest; behind a number the rest must not go on with the number.
-/
namespace LiteralLexer

/-- What a JSON text stands for. A number is `digits` times ten to the power of `exponent`. Members
stand in the order of the text. -/
inductive Json where
  | null
  | bool (value : Bool)
  | number (digits exponent : Int)
  | text (value : String)
  | array (items : List Json)
  | object (members : List (String × Json))

namespace JsonReader

/-- What was read, changed by `f`, in front of the same rest. -/
def mapRead (f : α → β) (read : Option (α × List Char)) : Option (β × List Char) :=
  read.map fun p => (f p.1, p.2)

@[simp] theorem mapRead_none (f : α → β) : mapRead f none = none := rfl
@[simp] theorem mapRead_some (f : α → β) (a : α) (rest : List Char) :
    mapRead f (some (a, rest)) = some (f a, rest) := rfl

/-- The white space between tokens. -/
def isGap (c : Char) : Bool := [' ', '\t', '\n', '\r'].contains c

def skipGap (text : List Char) : List Char := text.dropWhile isGap

@[simp] theorem skipGap_blank (text : List Char) : skipGap (' ' :: text) = skipGap text := rfl

/-! ### Strings -/

/-- The code that a letter behind a backslash stands for. -/
def escapeCode? : Char → Option Nat
  | '"' => some 0x22
  | '\\' => some 0x5C
  | '/' => some 0x2F
  | 'b' => some 0x08
  | 'f' => some 0x0C
  | 'n' => some 0x0A
  | 'r' => some 0x0D
  | 't' => some 0x09
  | _ => none

/-- The codes in a string up to its closing quote. An escape `\u` may stand for half of a surrogate
pair. -/
def codes : List Char → Option (List Nat × List Char)
  | [] => none
  | '"' :: rest => some ([], rest)
  | '\\' :: 'u' :: a :: b :: c :: d :: rest =>
    if [a, b, c, d].all isHexDigit then mapRead (hexValue [a, b, c, d] :: ·) (codes rest) else none
  | '\\' :: c :: rest => (escapeCode? c).bind fun code => mapRead (code :: ·) (codes rest)
  | c :: rest => if c.toNat < 0x20 then none else mapRead (c.toNat :: ·) (codes rest)

/-- The characters with the codes, a surrogate pair being one character. -/
def characters : List Nat → Option (List Char)
  | [] => some []
  | [code] => if code.isValidChar then some [Char.ofNat code] else none
  | code :: next :: rest =>
    if 0xD800 ≤ code ∧ code < 0xDC00 ∧ 0xDC00 ≤ next ∧ next < 0xE000 then
      let paired := 0x10000 + (code - 0xD800) * 0x400 + (next - 0xDC00)
      (characters rest).map (Char.ofNat paired :: ·)
    else if code.isValidChar then (characters (next :: rest)).map (Char.ofNat code :: ·)
    else none

/-- A string behind its opening quote. -/
def string (text : List Char) : Option (String × List Char) := do
  let (read, rest) ← codes text
  let found ← characters read
  some (String.ofList found, rest)

/-! ### Numbers -/

/-- One digit or more, as many as there are. -/
def digits (text : List Char) : Option (List Char × List Char) :=
  let found := text.takeWhile Char.isDigit
  if found = [] then none else some (found, text.dropWhile Char.isDigit)

/-- The digits in front of a decimal point: no zero stands in front of another digit. -/
def whole (text : List Char) : Option (List Char × List Char) := do
  let (found, rest) ← digits text
  if found.head? = some '0' ∧ found ≠ ['0'] then none else some (found, rest)

/-- The digits behind a decimal point, if there is one. -/
def fraction : List Char → Option (List Char × List Char)
  | '.' :: rest => digits rest
  | text => some ([], text)

def minus : List Char → Int × List Char
  | '-' :: rest => (-1, rest)
  | text => (1, text)

def plusOrMinus : List Char → Int × List Char
  | '+' :: rest => (1, rest)
  | text => minus text

def exponent : List Char → Option (Int × List Char)
  | [] => some (0, [])
  | c :: rest =>
    if c = 'e' ∨ c = 'E' then do
      let (sign, rest) := plusOrMinus rest
      let (found, rest) ← digits rest
      some (sign * Nat.ofDigitChars 10 found 0, rest)
    else some (0, c :: rest)

def number (text : List Char) : Option (Json × List Char) := do
  let (sign, rest) := minus text
  let (front, rest) ← whole rest
  let (back, rest) ← fraction rest
  let (power, rest) ← exponent rest
  some (.number (sign * Nat.ofDigitChars 10 (front ++ back) 0) (power - back.length), rest)

/-! ### Values -/

/-- At most `n` items and at least one, with commas between them and `close` behind them. -/
def items (close : Char) (item : List Char → Option (α × List Char)) :
    Nat → List Char → Option (List α × List Char)
  | 0, _ => none
  | n + 1, text => do
    let (first, rest) ← item text
    match skipGap rest with
    | [] => none
    | c :: rest =>
      if c = close then some ([first], rest)
      else if c = ',' then mapRead (first :: ·) (items close item n rest)
      else none

/-- The inside of an array or an object up to `close`. There are no more items than characters. -/
def listed (close : Char) (item : List Char → Option (α × List Char)) (text : List Char) :
    Option (List α × List Char) :=
  match skipGap text with
  | [] => none
  | c :: rest => if c = close then some ([], rest) else items close item text.length text

/-- A member of an object: its name, a colon and its value. -/
def member (item : List Char → Option (Json × List Char)) (text : List Char) :
    Option ((String × Json) × List Char) :=
  match skipGap text with
  | '"' :: rest => do
    let (name, rest) ← string rest
    match skipGap rest with
    | ':' :: rest => mapRead (name, ·) (item rest)
    | _ => none
  | _ => none

/-- A value in which arrays and objects are nested less than `depth` deep. -/
def value : Nat → List Char → Option (Json × List Char)
  | 0, _ => none
  | depth + 1, text =>
    match skipGap text with
    | '"' :: rest => mapRead Json.text (string rest)
    | '[' :: rest => mapRead Json.array (listed ']' (value depth) rest)
    | '{' :: rest => mapRead Json.object (listed '}' (member (value depth)) rest)
    | 'n' :: 'u' :: 'l' :: 'l' :: rest => some (.null, rest)
    | 't' :: 'r' :: 'u' :: 'e' :: rest => some (.bool true, rest)
    | 'f' :: 'a' :: 'l' :: 's' :: 'e' :: rest => some (.bool false, rest)
    | rest => number rest

/-- The value that a text stands for. No text is nested deeper than it is long. -/
def parse (text : List Char) : Option Json := do
  let (found, rest) ← value (text.length + 1) text
  if skipGap rest = [] then some found else none

example :
    parse "\x7b\"a\": [1, -20.5e+3, true, null], \"\\u00e9\\ud83d\\ude00\": \x7b\x7d\x7d".toList =
    some (.object [("a", .array [.number 1 0, .number (-205) 2, .bool true, .null]),
      ("é😀", .object [])]) := by
  rfl

example : parse "[1,]".toList = none := by rfl
example : parse "\x7b\"a\" 1\x7d".toList = none := by rfl
example : parse "01".toList = none := by rfl

/-! ### Reading back -/

/-- The four digits in which a control is escaped. -/
theorem hexText_control {n : Nat} (hn : n < 0x20) :
    hexText 4 n = ['0', '0', (n / 16).digitChar, (n % 16).digitChar] ∧
      (hexText 4 n).all isHexDigit = true ∧ hexValue (hexText 4 n) = n := by
  have hall : ∀ n < 0x20, hexText 4 n = ['0', '0', (n / 16).digitChar, (n % 16).digitChar] ∧
      (hexText 4 n).all isHexDigit = true ∧ hexValue (hexText 4 n) = n := by decide
  exact hall n hn

theorem codes_control {n : Nat} (rest : List Char) (hn : n < 0x20) :
    codes ('\\' :: 'u' :: hexText 4 n ++ rest) = mapRead (n :: ·) (codes rest) := by
  obtain ⟨htext, hdigits, hvalue⟩ := hexText_control hn
  rw [htext] at hdigits hvalue ⊢
  simp only [List.cons_append, List.nil_append]
  rw [codes, if_pos hdigits, hvalue]

/-- A character that needs no escape is read as it stands. -/
theorem codes_plain {c : Char} (rest : List Char) (hquote : c ≠ '"') (hslash : c ≠ '\\')
    (hcontrol : 0x20 ≤ c.toNat) : codes (c :: rest) = mapRead (c.toNat :: ·) (codes rest) := by
  rw [codes]
  · rw [if_neg (by omega)]
  all_goals simp_all

/-- The characters that are escaped by one letter or by themselves. -/
def lettered : List Char := ['"', '\\', '\n', '\r', '\t', '\x08', '\x0c']

theorem jsonChar_cases (c : Char) :
    c ∈ lettered ∨ (c.toNat < 0x20 ∧ jsonChar c = '\\' :: 'u' :: hexText 4 c.toNat) ∨
      (0x20 ≤ c.toNat ∧ c ≠ '"' ∧ c ≠ '\\' ∧ jsonChar c = [c]) := by
  by_cases hletter : c ∈ lettered
  · exact .inl hletter
  · simp only [lettered, List.mem_cons, List.not_mem_nil, or_false, not_or] at hletter
    obtain ⟨hquote, hslash, hnewline, hreturn, htab, hback, hfeed⟩ := hletter
    have hchar : jsonChar c =
        if c.toNat < 0x20 then '\\' :: 'u' :: hexText 4 c.toNat else [c] := by
      unfold jsonChar
      rw [if_neg (not_or.mpr ⟨hquote, hslash⟩), if_neg hnewline, if_neg hreturn, if_neg htab,
        if_neg hback, if_neg hfeed]
    by_cases hcontrol : c.toNat < 0x20
    · exact .inr (.inl ⟨hcontrol, hchar.trans (if_pos hcontrol)⟩)
    · exact .inr (.inr ⟨by omega, hquote, hslash, hchar.trans (if_neg hcontrol)⟩)

theorem codes_jsonChar (c : Char) (rest : List Char) :
    codes (jsonChar c ++ rest) = mapRead (c.toNat :: ·) (codes rest) := by
  rcases jsonChar_cases c with hletter | ⟨hcontrol, hchar⟩ | ⟨hcontrol, hquote, hslash, hchar⟩
  · simp only [lettered, List.mem_cons, List.not_mem_nil, or_false] at hletter
    rcases hletter with rfl | rfl | rfl | rfl | rfl | rfl | rfl <;> rfl
  · rw [hchar]
    exact codes_control rest hcontrol
  · rw [hchar]
    exact codes_plain rest hquote hslash hcontrol

theorem codes_jsonText (text rest : List Char) :
    codes (text.flatMap jsonChar ++ '"' :: rest) = some (text.map Char.toNat, rest) := by
  induction text with
  | nil => rfl
  | cons c text ih =>
    rw [List.flatMap_cons, List.append_assoc, codes_jsonChar, ih]
    rfl

theorem isValidChar_toNat (c : Char) : c.toNat.isValidChar := c.valid

theorem characters_toNat (text : List Char) : characters (text.map Char.toNat) = some text := by
  induction text with
  | nil => rfl
  | cons c text ih =>
    cases text with
    | nil => simp [characters, isValidChar_toNat]
    | cons next text =>
      have hhigh : ¬ (0xD800 ≤ c.toNat ∧ c.toNat < 0xDC00 ∧ 0xDC00 ≤ next.toNat ∧
          next.toNat < 0xE000) := by
        have := isValidChar_toNat c
        unfold Nat.isValidChar at this
        omega
      rw [List.map_cons] at ih
      rw [List.map_cons, List.map_cons, characters, if_neg hhigh, if_pos (isValidChar_toNat c), ih,
        Char.ofNat_toNat]
      rfl

/-- A JSON string is read back behind its opening quote. -/
theorem string_jsonText (text : String) (rest : List Char) :
    string (text.toList.flatMap jsonChar ++ '"' :: rest) = some (text, rest) := by
  simp [string, codes_jsonText, characters_toNat]

/-- Nothing in front of `rest` that is a number goes on in `rest`. -/
def EndsNumber (rest : List Char) : Prop :=
  ∀ c ∈ rest.head?, c.isDigit = false ∧ c ≠ '.' ∧ c ≠ 'e' ∧ c ≠ 'E'

theorem EndsNumber.fraction {rest : List Char} (h : EndsNumber rest) :
    fraction rest = some ([], rest) := by
  cases rest with
  | nil => rfl
  | cons c rest =>
    obtain ⟨-, hpoint, -, -⟩ := h c rfl
    unfold JsonReader.fraction
    split
    · rename_i heq
      exact absurd (List.cons.inj heq).1 hpoint
    · rfl

theorem EndsNumber.exponent {rest : List Char} (h : EndsNumber rest) :
    exponent rest = some (0, rest) := by
  cases rest with
  | nil => rfl
  | cons c rest =>
    obtain ⟨-, -, hsmall, hlarge⟩ := h c rfl
    exact if_neg (not_or.mpr ⟨hsmall, hlarge⟩)

theorem digits_append {found rest : List Char} (hne : found ≠ [])
    (hfound : ∀ c ∈ found, c.isDigit = true) (hrest : EndsNumber rest) :
    digits (found ++ rest) = some (found, rest) := by
  have hstop : rest.takeWhile Char.isDigit = [] ∧ rest.dropWhile Char.isDigit = rest := by
    cases rest with
    | nil => exact ⟨rfl, rfl⟩
    | cons c rest => simp [(hrest c rfl).1]
  unfold digits
  rw [List.takeWhile_append_of_pos hfound, List.dropWhile_append_of_pos hfound, hstop.1, hstop.2,
    List.append_nil, if_neg hne]

/-- Digits as they are written have a leading zero only for the number zero. -/
theorem head?_toDigits {n : Nat} (h : (Nat.toDigits 10 n).head? = some '0') : n = 0 := by
  induction n using Nat.strongRecOn with
  | _ n ih =>
    rw [Nat.toDigits_eq_if (by decide)] at h
    split at h
    · have hall : ∀ n < 10, n.digitChar = '0' → n = 0 := by decide
      exact hall n ‹_› (by simpa using h)
    · rw [List.head?_append, Option.or_of_isSome (by simp)] at h
      have := ih (n / 10) (by omega) h
      omega

theorem whole_toDigits (n : Nat) {rest : List Char} (hrest : EndsNumber rest) :
    whole (Nat.toDigits 10 n ++ rest) = some (Nat.toDigits 10 n, rest) := by
  have hdigits := digits_append Nat.toDigits_ne_nil
    (fun c => Nat.isDigit_of_mem_toDigits (b := 10) (n := n) (by decide) (by decide)) hrest
  have hzero : ¬ ((Nat.toDigits 10 n).head? = some '0' ∧ Nat.toDigits 10 n ≠ ['0']) := by
    rintro ⟨hhead, hne⟩
    rw [head?_toDigits hhead] at hne
    exact hne rfl
  simp only [whole, hdigits, Option.bind_eq_bind, Option.bind_some, if_neg hzero]

theorem exists_toDigits (n : Nat) :
    ∃ c more, Nat.toDigits 10 n = c :: more ∧ c.isDigit = true := by
  obtain ⟨c, more, htext⟩ := List.exists_cons_of_ne_nil (Nat.toDigits_ne_nil (n := n) (b := 10))
  have hmem : c ∈ Nat.toDigits 10 n := htext ▸ List.mem_cons_self
  exact ⟨c, more, htext, Nat.isDigit_of_mem_toDigits (by decide) (by decide) hmem⟩

theorem minus_toDigits (n : Nat) (rest : List Char) :
    minus (Nat.toDigits 10 n ++ rest) = (1, Nat.toDigits 10 n ++ rest) := by
  obtain ⟨c, more, htext, hdigit⟩ := exists_toDigits n
  rw [htext, List.cons_append]
  unfold minus
  split
  · rename_i heq
    rw [(List.cons.inj heq).1] at hdigit
    exact absurd hdigit (by decide)
  · rfl

theorem number_of_minus {text rest : List Char} {sign : Int} {n : Nat}
    (htext : minus text = (sign, Nat.toDigits 10 n ++ rest)) (hrest : EndsNumber rest) :
    number text = some (.number (sign * n) 0, rest) := by
  have hvalue : Nat.ofDigitChars 10 (Nat.toDigits 10 n) 0 = n :=
    Nat.ofDigitChars_toDigits (by decide) (by decide)
  simp [number, htext, whole_toDigits n hrest, hrest.fraction, hrest.exponent, hvalue]

/-- An integer is read back in front of what does not go on with it. -/
theorem number_decimal (n : Int) {rest : List Char} (hrest : EndsNumber rest) :
    number (decimal n ++ rest) = some (.number n 0, rest) := by
  by_cases hn : n < 0
  · have htext : minus (decimal n ++ rest) = (-1, Nat.toDigits 10 n.natAbs ++ rest) := by
      rw [decimal, if_pos hn]
      rfl
    have habs : -1 * (n.natAbs : Int) = n := by omega
    rw [number_of_minus htext hrest, habs]
  · have htext : minus (decimal n ++ rest) = (1, Nat.toDigits 10 n.natAbs ++ rest) := by
      rw [decimal, if_neg hn]
      exact minus_toDigits n.natAbs rest
    have habs : 1 * (n.natAbs : Int) = n := by omega
    rw [number_of_minus htext hrest, habs]

section Lists

variable {close : Char} {item : List Char → Option (β × List Char)}

theorem items_last {n : Nat} {text rest : List Char} {first : β}
    (hclose : close = ']' ∨ close = '}') (hfirst : item text = some (first, close :: rest)) :
    items close item (n + 1) text = some ([first], rest) := by
  rcases hclose with rfl | rfl <;> simp [items, hfirst, skipGap, isGap]

theorem items_comma {n : Nat} {text rest : List Char} {first : β}
    (hclose : close = ']' ∨ close = '}') (hfirst : item text = some (first, ',' :: rest)) :
    items close item (n + 1) text = mapRead (first :: ·) (items close item n rest) := by
  rcases hclose with rfl | rfl <;> simp [items, hfirst, skipGap, isGap]

theorem items_blank (hblank : ∀ text, item (' ' :: text) = item text) (n : Nat)
    (text : List Char) : items close item n (' ' :: text) = items close item n text := by
  cases n with
  | zero => rfl
  | succ n => simp only [items, hblank]

variable {write : α → List Char} {f : α → β}

/-- Items that are written with a comma and a blank between any two are read back in their order. -/
theorem items_joined (hclose : close = ']' ∨ close = '}')
    (hblank : ∀ text, item (' ' :: text) = item text) {as : List α} (hne : as ≠ [])
    (hitem : ∀ a ∈ as, ∀ c rest, c = ',' ∨ c = close →
      item (write a ++ c :: rest) = some (f a, c :: rest))
    {n : Nat} (hn : as.length ≤ n) (rest : List Char) :
    items close item n ([',', ' '].intercalate (as.map write) ++ close :: rest) =
      some (as.map f, rest) := by
  induction as generalizing n with
  | nil => exact absurd rfl hne
  | cons a as ih =>
    obtain ⟨n, rfl⟩ : ∃ m, n = m + 1 := ⟨n - 1, by simp at hn; omega⟩
    have hfirst := hitem a List.mem_cons_self
    cases as with
    | nil =>
      rw [List.map_singleton, List.intercalate_singleton,
        items_last hclose (hfirst close rest (.inr rfl))]
      rfl
    | cons b as =>
      have hrest := ih (List.cons_ne_nil b as)
        (fun a ha => hitem a (List.mem_cons_of_mem _ ha)) (Nat.le_of_succ_le_succ hn)
      have htext : [',', ' '].intercalate ((a :: b :: as).map write) ++ close :: rest =
          write a ++ ',' :: ' ' ::
            ([',', ' '].intercalate ((b :: as).map write) ++ close :: rest) := by
        simp [List.intercalate_cons_cons]
      rw [htext, items_comma hclose (hfirst ',' _ (.inl rfl)), items_blank hblank, hrest]
      rfl

/-- There are not more items than characters in what is written. -/
theorem length_le_length_joined (write : α → List Char) (as : List α) :
    as.length ≤ ([',', ' '].intercalate (as.map write)).length + 1 := by
  induction as with
  | nil => exact Nat.zero_le _
  | cons a as ih =>
    cases as with
    | nil => simp
    | cons b as =>
      simp only [List.map_cons, List.intercalate_cons_cons, List.length_append,
        List.length_cons, List.length_nil] at ih ⊢
      omega

theorem joined_quote (as : List α) (hne : as ≠ [])
    (hquote : ∀ a ∈ as, ∃ more, write a = '"' :: more) :
    ∃ more, [',', ' '].intercalate (as.map write) = '"' :: more := by
  cases as with
  | nil => exact absurd rfl hne
  | cons a as =>
    obtain ⟨more, hmore⟩ := hquote a List.mem_cons_self
    cases as with
    | nil => exact ⟨more, by simpa using hmore⟩
    | cons b as =>
      refine ⟨more ++ [',', ' '] ++ [',', ' '].intercalate ((b :: as).map write), ?_⟩
      rw [List.map_cons, List.map_cons, List.intercalate_cons_cons, hmore]
      rfl

/-- A list of what starts with a quote is read back, the empty one too. -/
theorem listed_joined (hclose : close = ']' ∨ close = '}')
    (hblank : ∀ text, item (' ' :: text) = item text) (as : List α)
    (hquote : ∀ a ∈ as, ∃ more, write a = '"' :: more)
    (hitem : ∀ a ∈ as, ∀ c rest, c = ',' ∨ c = close →
      item (write a ++ c :: rest) = some (f a, c :: rest)) (rest : List Char) :
    listed close item ([',', ' '].intercalate (as.map write) ++ close :: rest) =
      some (as.map f, rest) := by
  by_cases hne : as = []
  · subst hne
    rcases hclose with rfl | rfl <;> rfl
  · have hread := items_joined hclose hblank hne hitem
      (n := ([',', ' '].intercalate (as.map write) ++ close :: rest).length)
      (by have := length_le_length_joined write as; simp; omega) rest
    obtain ⟨more, hmore⟩ := joined_quote as hne hquote
    have hopen : '"' ≠ close := by rcases hclose with rfl | rfl <;> decide
    rw [hmore] at hread ⊢
    exact (if_neg hopen).trans hread

end Lists

/-! ### Written values -/

theorem value_blank (depth : Nat) (text : List Char) :
    value depth (' ' :: text) = value depth text := by
  cases depth with
  | zero => rfl
  | succ depth => simp only [value, skipGap_blank]

theorem member_blank (item : List Char → Option (Json × List Char)) (text : List Char) :
    member item (' ' :: text) = member item text := by
  simp only [member, skipGap_blank]

theorem member_quote (item : List Char → Option (Json × List Char)) {text rest : List Char}
    {name : String} (hname : string text = some (name, ':' :: rest)) :
    member item ('"' :: text) = mapRead (name, ·) (item rest) := by
  simp [member, skipGap, isGap, hname]

theorem value_quote (depth : Nat) (rest : List Char) :
    value (depth + 1) ('"' :: rest) = mapRead Json.text (string rest) := rfl

theorem value_bracket (depth : Nat) (rest : List Char) :
    value (depth + 1) ('[' :: rest) = mapRead Json.array (listed ']' (value depth) rest) := rfl

theorem value_brace (depth : Nat) (rest : List Char) :
    value (depth + 1) ('{' :: rest) =
      mapRead Json.object (listed '}' (member (value depth)) rest) :=
  rfl

theorem value_jsonText (depth : Nat) (text : String) (rest : List Char) :
    value (depth + 1) (jsonText text.toList ++ rest) = some (.text text, rest) := by
  have hopen : jsonText text.toList ++ rest =
      '"' :: (text.toList.flatMap jsonChar ++ '"' :: rest) := by
    simp [jsonText]
  rw [hopen, value_quote, string_jsonText, mapRead_some]

/-- What starts with a minus sign or a digit is read as a number. -/
theorem value_of_number (depth : Nat) {c : Char} (hc : c = '-' ∨ c.isDigit = true)
    (rest : List Char) : value (depth + 1) (c :: rest) = number (c :: rest) := by
  have hne : ∀ d, (d != '-' && !d.isDigit) = true → c ≠ d := by
    rintro d hd rfl
    simp only [Bool.and_eq_true, bne_iff_ne, Bool.not_eq_true'] at hd
    rcases hc with hminus | hdigit
    · exact hd.1 hminus
    · exact Bool.false_ne_true (hd.2.symm.trans hdigit)
  have hskip : skipGap (c :: rest) = c :: rest := by
    have hgap : isGap c = false := by
      simp [isGap, hne ' ' (by decide), hne '\t' (by decide), hne '\n' (by decide),
        hne '\r' (by decide)]
    simp [skipGap, hgap]
  unfold value
  rw [hskip]
  split
  case h_7 => rfl
  all_goals
    rename_i heq
    exact absurd (List.cons.inj heq).1 (hne _ (by decide))

theorem exists_decimal (n : Int) :
    ∃ c more, decimal n = c :: more ∧ (c = '-' ∨ c.isDigit = true) := by
  unfold decimal
  split
  · exact ⟨'-', _, rfl, .inl rfl⟩
  · obtain ⟨c, more, htext, hdigit⟩ := exists_toDigits n.natAbs
    exact ⟨c, more, htext, .inr hdigit⟩

theorem value_decimal (depth : Nat) (n : Int) {rest : List Char} (hrest : EndsNumber rest) :
    value (depth + 1) (decimal n ++ rest) = some (.number n 0, rest) := by
  obtain ⟨c, more, htext, hc⟩ := exists_decimal n
  have hnumber := number_decimal n hrest
  rw [htext, List.cons_append] at hnumber ⊢
  rw [value_of_number depth hc, hnumber]

theorem value_texts (depth : Nat) (texts : List String) (rest : List Char) :
    value (depth + 2) ('[' ::
        [',', ' '].intercalate (texts.map fun text => jsonText text.toList) ++ ']' :: rest) =
      some (.array (texts.map .text), rest) := by
  have hlisted : listed ']' (value (depth + 1))
      ([',', ' '].intercalate (texts.map fun text => jsonText text.toList) ++ ']' :: rest) =
        some (texts.map Json.text, rest) :=
    listed_joined (.inl rfl) (value_blank (depth + 1)) texts (fun text _ => ⟨_, rfl⟩)
      (fun text _ c rest _ => value_jsonText depth text (c :: rest)) rest
  rw [List.cons_append, value_bracket, hlisted, mapRead_some]

end JsonReader
end LiteralLexer
