import LiteralLexer.Proofs.Place
import LiteralLexer.Piece

/-!
Which pieces there are, and how they are written. The reader of a piece is exact: it reads a piece
just if the piece is legal in its alphabet and the text starts with the spelling of the piece. A
legal piece always denotes a code that its alphabet has.
-/
namespace LiteralLexer

/-- The codes of an alphabet: those of characters in text, those of bytes in byte text. -/
def Alphabet.Holds : Alphabet → Nat → Prop
  | .text, code => code.isValidChar
  | .bytes, code => code < 0x100

instance : (alphabet : Alphabet) → (code : Nat) → Decidable (alphabet.Holds code)
  | .text, code => inferInstanceAs (Decidable code.isValidChar)
  | .bytes, code => inferInstanceAs (Decidable (code < 0x100))

theorem toNat_ofNat_of_valid {n : Nat} (h : n.isValidChar) : (Char.ofNat n).toNat = n := by
  rw [Char.ofNat, dif_pos h]
  rfl

/-- The code that the escape of a single letter denotes. -/
def SimpleEscape.code : SimpleEscape → Nat
  | newline => 0x0A
  | carriageReturn => 0x0D
  | tab => 0x09
  | backslash => 0x5C
  | null => 0x00
  | apostrophe => 0x27
  | quote => 0x22

namespace Piece

/-- The code that a piece denotes. -/
def code : Piece → Nat
  | plain char => char.toNat
  | lineEnd => 0x0A
  | simple escape => escape.code
  | hex high low => hexValue [high, low]
  | braced digits => hexValue digits

/-- Whether a piece may stand in a literal of the alphabet. -/
def Legal (alphabet : Alphabet) : Piece → Prop
  | plain char =>
    char ≠ '\\' ∧ char ≠ '\r' ∧ (alphabet = .bytes → char.toNat ≤ maxAsciiEscape)
  | lineEnd | simple _ => True
  | hex high low =>
    isHexDigit high = true ∧ isHexDigit low = true ∧
      (alphabet = .text → hexValue [high, low] ≤ maxAsciiEscape)
  | braced digits =>
    alphabet = .text ∧ digits ≠ [] ∧ digits.length ≤ maxBracedDigits ∧
      (∀ d ∈ digits, isHexDigit d = true) ∧ hexValue digits ≤ maxCodePoint ∧
      ¬(firstSurrogate ≤ hexValue digits ∧ hexValue digits ≤ lastSurrogate)

instance (alphabet : Alphabet) : (piece : Piece) → Decidable (piece.Legal alphabet)
  | plain char =>
    inferInstanceAs (Decidable (char ≠ '\\' ∧ char ≠ '\r' ∧
      (alphabet = .bytes → char.toNat ≤ maxAsciiEscape)))
  | lineEnd | simple _ => .isTrue trivial
  | hex high low =>
    inferInstanceAs (Decidable (isHexDigit high = true ∧ isHexDigit low = true ∧
      (alphabet = .text → hexValue [high, low] ≤ maxAsciiEscape)))
  | braced digits =>
    letI : Decidable (∀ d ∈ digits, isHexDigit d = true) :=
      decidable_of_iff (digits.all isHexDigit = true) List.all_eq_true
    inferInstanceAs (Decidable (alphabet = .text ∧ digits ≠ [] ∧
      digits.length ≤ maxBracedDigits ∧ (∀ d ∈ digits, isHexDigit d = true) ∧
      hexValue digits ≤ maxCodePoint ∧
      ¬(firstSurrogate ≤ hexValue digits ∧ hexValue digits ≤ lastSurrogate)))

theorem hexValue_pair (high low : Char) :
    hexValue [high, low] = 16 * hexDigitValue high + hexDigitValue low := by
  simp [hexValue]

/-- A pair of digits stays below U+0080 just if the first of them is below eight. -/
theorem isLead_text_iff (c : Char) :
    isLead .text c = true ↔ isHexDigit c = true ∧ hexDigitValue c < 8 := by
  constructor
  · intro h
    have hc : c ∈ hexDigits.take 8 := by
      have hrange : 48 ≤ c.toNat ∧ c.toNat ≤ 55 := of_decide_eq_true h
      have hall : ∀ n : Fin 56, 48 ≤ n.val → Char.ofNat n.val ∈ hexDigits.take 8 := by decide
      have hmem := hall ⟨c.toNat, by omega⟩ hrange.1
      rwa [Char.ofNat_toNat] at hmem
    have hall : ((hexDigits.take 8).all fun d =>
        isHexDigit d && decide (hexDigitValue d < 8)) = true := by decide
    simpa using List.all_eq_true.mp hall c hc
  · rintro ⟨hdigit, hvalue⟩
    have hc : c ∈ hexDigits := by simpa [isHexDigit] using hdigit
    have hall : (hexDigits.all fun d =>
        !decide (hexDigitValue d < 8) || isLead .text d) = true := by decide
    simpa [hvalue] using List.all_eq_true.mp hall c hc

theorem legal_hex_iff (alphabet : Alphabet) (high low : Char) :
    (hex high low).Legal alphabet ↔ isLead alphabet high = true ∧ isHexDigit low = true := by
  cases alphabet with
  | bytes => simp [Legal, isLead]
  | text =>
    rw [isLead_text_iff]
    simp only [Legal, hexValue_pair, maxAsciiEscape, forall_const]
    constructor
    · rintro ⟨hhigh, hlow, hle⟩
      exact ⟨⟨hhigh, by omega⟩, hlow⟩
    · rintro ⟨⟨hhigh, hlt⟩, hlow⟩
      have := hexDigitValue_lt hlow
      exact ⟨hhigh, hlow, by omega⟩

theorem scanHex_cons (alphabet : Alphabet) (high low : Char) (more : List Char) :
    scanHex alphabet ⟨high :: low :: more, 0⟩ =
      if (hex high low).Legal alphabet then .ok (hex high low, ⟨more, 0⟩)
      else .error (.fault (.badHexPair alphabet) (high :: low :: more)) := by
  simp [scanHex, legal_hex_iff]

/-- Too little text is told about as other text that holds no pair of digits is. -/
theorem scanHex_short (alphabet : Alphabet) {chars : List Char} (h : chars.length < 2) :
    scanHex alphabet ⟨chars, 0⟩ = .error (.fault (.badHexPair alphabet) chars) := by
  cases chars with
  | nil => rfl
  | cons high rest =>
    cases rest with
    | nil => rfl
    | cons low more =>
      simp only [List.length_cons] at h
      omega

theorem scanHex_eq_ok_iff {alphabet : Alphabet} {chars : List Char} {piece : Piece} {rest : Ahead} :
    scanHex alphabet ⟨chars, 0⟩ = .ok (piece, rest) ↔
      ∃ high low more, piece = hex high low ∧ rest = ⟨more, 0⟩ ∧ piece.Legal alphabet ∧
        chars = high :: low :: more := by
  constructor
  · intro h
    unfold scanHex at h
    split at h
    · rename_i high low hwindow
      split at h
      · rename_i hdigits
        cases h
        refine ⟨high, low, chars.drop 2, rfl, Ahead.drop_mk_zero chars 2, ?_, ?_⟩
        · rw [legal_hex_iff]
          simpa using hdigits
        · have := List.take_append_drop 2 chars
          rw [Ahead.window_mk_zero] at hwindow
          rw [hwindow] at this
          exact this.symm
      · cases h
    · cases h
  · rintro ⟨high, low, more, rfl, rfl, hlegal, rfl⟩
    rw [legal_hex_iff] at hlegal
    simp [scanHex, hlegal]

/-- The digits that are read in front of `rest`: all there are, or as many as braces may hold. -/
structure DigitRun (digits rest : List Char) : Prop where
  length_le : digits.length ≤ maxBracedDigits
  isHexDigit : ∀ d ∈ digits, isHexDigit d = true
  stop : ∀ c ∈ rest.head?, LiteralLexer.isHexDigit c = true → digits.length = maxBracedDigits

section
variable {digits rest : List Char}

theorem DigitRun.takeWhile_take (h : DigitRun digits rest) :
    ((digits ++ rest).take maxBracedDigits).takeWhile LiteralLexer.isHexDigit = digits := by
  rw [List.take_append, List.take_of_length_le h.length_le,
    List.takeWhile_append_of_pos h.isHexDigit]
  cases rest with
  | nil => simp
  | cons c cs =>
    by_cases hc : LiteralLexer.isHexDigit c = true
    · simp [h.stop c rfl hc]
    · cases maxBracedDigits - digits.length <;> simp [hc]

/-- Every text starts with a run of digits, be it the empty one. -/
theorem exists_digitRun (inside : List Char) :
    ∃ digits rest, inside = digits ++ rest ∧ DigitRun digits rest := by
  -- The number of digits that may still come goes down with each of them.
  have hrun (most : Nat) : ∃ digits rest, inside = digits ++ rest ∧ digits.length ≤ most ∧
      (∀ d ∈ digits, isHexDigit d = true) ∧
      ∀ c ∈ rest.head?, isHexDigit c = true → digits.length = most := by
    induction inside generalizing most with
    | nil => exact ⟨[], [], rfl, Nat.zero_le _, by simp, by simp⟩
    | cons c cs ih =>
      by_cases hread : 0 < most ∧ isHexDigit c = true
      · obtain ⟨hmost, hdigit⟩ := hread
        obtain ⟨digits, rest, rfl, hlength, hdigits, hstop⟩ := ih (most - 1)
        refine ⟨c :: digits, rest, rfl, ?_, by simpa [hdigit] using hdigits, ?_⟩
        · rw [List.length_cons]
          omega
        · intro d hd hdigit
          have := hstop d hd hdigit
          rw [List.length_cons]
          omega
      · refine ⟨[], c :: cs, rfl, Nat.zero_le _, by simp, fun d hd hdigit => ?_⟩
        obtain rfl : c = d := by simpa using hd
        have hmost : ¬0 < most := fun hmost => hread ⟨hmost, hdigit⟩
        rw [List.length_nil]
        omega
  obtain ⟨digits, rest, rfl, hlength, hdigits, hstop⟩ := hrun maxBracedDigits
  exact ⟨digits, rest, rfl, hlength, hdigits, hstop⟩

theorem DigitRun.append (h : DigitRun digits rest) (hrest : rest ≠ []) (more : List Char) :
    DigitRun digits (rest ++ more) := by
  obtain ⟨c, cs, rfl⟩ := List.exists_cons_of_ne_nil hrest
  exact ⟨h.length_le, h.isHexDigit, h.stop⟩

end

section
variable {digits chars more : List Char} {close : Char} {piece : Piece} {rest : Ahead}

theorem scanBraces_unbraced (h : ∀ inside, left ≠ '{' :: inside) :
    scanBraces ⟨left, 0⟩ = .error (.fault .unbraced left) := by
  unfold scanBraces
  split
  · rename_i inside hchars
    exact absurd hchars (h inside)
  · rfl

theorem scanBraces_ended (h : DigitRun digits []) :
    scanBraces ⟨'{' :: digits, 0⟩ = .error (.fault .endInBraces []) := by
  have hdigits := h.takeWhile_take
  rw [List.append_nil] at hdigits
  simp [scanBraces, hdigits]

/-- With something behind the digits, braces are read as these and the next character say. -/
theorem scanBraces_digits (h : DigitRun digits (close :: more)) :
    scanBraces ⟨'{' :: (digits ++ close :: more), 0⟩ =
      if digits = [] ∨ close ≠ '}' then .error (.fault .badBraces (close :: more))
      else if maxCodePoint < hexValue digits then
        .error (.fault (.codePointTooLarge digits) (digits ++ close :: more))
      else if firstSurrogate ≤ hexValue digits ∧ hexValue digits ≤ lastSurrogate then
        .error (.fault (.surrogate digits) (digits ++ close :: more))
      else .ok (braced digits, ⟨more, 0⟩) := by
  simp only [scanBraces, Ahead.drop_mk_zero, List.drop_succ_cons, List.drop_zero,
    h.takeWhile_take, List.drop_left, Nat.lt_irrefl, false_and, if_false]

theorem scanBraces_eq_ok_iff :
    scanBraces ⟨chars, 0⟩ = .ok (piece, rest) ↔
      ∃ digits more, piece = braced digits ∧ rest = ⟨more, 0⟩ ∧ piece.Legal .text ∧
        chars = '{' :: digits ++ '}' :: more := by
  constructor
  · intro h
    by_cases hbrace : ∃ inside, chars = '{' :: inside
    · obtain ⟨inside, rfl⟩ := hbrace
      obtain ⟨digits, behind, rfl, hrun⟩ := exists_digitRun inside
      cases behind with
      | nil =>
        rw [List.append_nil, scanBraces_ended hrun] at h
        cases h
      | cons close more =>
        rw [scanBraces_digits hrun] at h
        split at h
        · cases h
        · rename_i hclose
          split at h
          · cases h
          · rename_i hsize
            split at h
            · cases h
            · rename_i hsurrogate
              cases h
              obtain ⟨hne, rfl⟩ : digits ≠ [] ∧ close = '}' := by simpa using hclose
              exact ⟨digits, more, rfl, rfl, ⟨rfl, hne, hrun.length_le, hrun.isHexDigit,
                Nat.not_lt.mp hsize, hsurrogate⟩, rfl⟩
    · rw [scanBraces_unbraced (not_exists.mp hbrace)] at h
      cases h
  · rintro ⟨digits, more, rfl, rfl, ⟨-, hne, hlength, hdigits, hsize, hsurrogate⟩, rfl⟩
    have hrun : DigitRun digits ('}' :: more) := by
      refine ⟨hlength, hdigits, fun c hc hdigit => ?_⟩
      obtain rfl : '}' = c := by simpa using hc
      exact absurd hdigit (by decide)
    rw [List.cons_append, scanBraces_digits hrun, if_neg (by simpa using hne),
      if_neg (Nat.not_lt.mpr hsize), if_neg hsurrogate]

end

theorem scanEscape_eq_ok_iff {alphabet : Alphabet} {chars : List Char} {piece : Piece}
    {rest : Ahead} :
    scanEscape alphabet ⟨chars, 0⟩ = .ok (piece, rest) ↔
      ∃ more, rest = ⟨more, 0⟩ ∧ piece.Legal alphabet ∧ (∀ char, piece ≠ plain char) ∧
        '\\' :: chars = piece.spelling ++ more := by
  constructor
  · intro h
    cases chars with
    | nil => cases h
    | cons letter tail =>
      simp only [scanEscape, Ahead.drop_mk_zero, List.drop_succ_cons, List.drop_zero] at h
      split at h
      · rename_i escape hletter
        cases h
        have hspelling : letter = escape.letter := SimpleEscape.eq_letter_of_ofLetter? hletter
        exact ⟨tail, rfl, trivial, by simp, by simp [spelling, hspelling]⟩
      · split at h
        · rename_i hx
          obtain ⟨high, low, more, rfl, rfl, hlegal, rfl⟩ := scanHex_eq_ok_iff.mp h
          exact ⟨more, rfl, hlegal, by simp, by simp [spelling, hx]⟩
        · split at h
          · rename_i hu
            obtain ⟨rfl, rfl⟩ := hu
            obtain ⟨digits, more, rfl, rfl, hlegal, rfl⟩ := scanBraces_eq_ok_iff.mp h
            exact ⟨more, rfl, hlegal, by simp, by simp [spelling]⟩
          · cases h
  · rintro ⟨more, rfl, hlegal, hplain, hchars⟩
    cases piece with
    | plain char => exact absurd rfl (hplain char)
    | lineEnd => simp [spelling] at hchars
    | simple escape =>
      obtain rfl : chars = escape.letter :: more := by simpa [spelling] using hchars
      simp [scanEscape]
    | hex high low =>
      obtain rfl : chars = 'x' :: high :: low :: more := by simpa [spelling] using hchars
      have hread : scanHex alphabet ⟨high :: low :: more, 0⟩ = .ok (hex high low, ⟨more, 0⟩) :=
        scanHex_eq_ok_iff.mpr ⟨high, low, more, rfl, rfl, hlegal, rfl⟩
      have hletter : SimpleEscape.ofLetter? 'x' = none := by decide
      simp [scanEscape, hletter, hread]
    | braced digits =>
      obtain rfl : alphabet = .text := hlegal.1
      obtain rfl : chars = 'u' :: ('{' :: digits ++ '}' :: more) := by
        simpa [spelling] using hchars
      have hread : scanBraces ⟨'{' :: digits ++ '}' :: more, 0⟩ =
          .ok (braced digits, ⟨more, 0⟩) :=
        scanBraces_eq_ok_iff.mpr ⟨digits, more, rfl, rfl, hlegal, rfl⟩
      have hletter : SimpleEscape.ofLetter? 'u' = none := by decide
      simp only [scanEscape, hletter, Ahead.drop_mk_zero, List.drop_succ_cons, List.drop_zero]
      rw [hread]
      rfl

/-- The reader of a piece reads exactly the spellings of the legal pieces. -/
theorem scan_eq_ok_iff {alphabet : Alphabet} {first : Char} {after : List Char} {piece : Piece}
    {rest : Ahead} :
    scan alphabet first ⟨after, 0⟩ = .ok (piece, rest) ↔
      ∃ more, rest = ⟨more, 0⟩ ∧ piece.Legal alphabet ∧
        first :: after = piece.spelling ++ more := by
  constructor
  · intro h
    unfold scan at h
    split at h
    · rename_i hfirst
      obtain ⟨more, hrest, hlegal, -, hchars⟩ := scanEscape_eq_ok_iff.mp h
      exact ⟨more, hrest, hlegal, hfirst ▸ hchars⟩
    · rename_i hescape
      split at h
      · rename_i hreturn
        split at h
        · rename_i tail hafter
          simp only at hafter
          subst hafter
          cases h
          exact ⟨tail, rfl, trivial, by simp [spelling, hreturn]⟩
        · cases h
      · rename_i hreturn
        split at h
        · cases h
        · rename_i hascii
          cases h
          exact ⟨after, rfl, ⟨hescape, hreturn, by simpa using hascii⟩, rfl⟩
  · rintro ⟨more, rfl, hlegal, hchars⟩
    by_cases hescape : first = '\\'
    · subst hescape
      have hplain : ∀ char, piece ≠ plain char := by
        rintro char rfl
        obtain ⟨hne, -, -⟩ := hlegal
        exact hne (List.cons.inj hchars).1.symm
      rw [scan, if_pos rfl]
      exact scanEscape_eq_ok_iff.mpr ⟨more, rfl, hlegal, hplain, hchars⟩
    · cases piece with
      | plain char =>
        obtain ⟨rfl, rfl⟩ : first = char ∧ after = more := by simpa [spelling] using hchars
        obtain ⟨-, hreturn, hascii⟩ := hlegal
        have hbytes : ¬(alphabet = .bytes ∧ maxAsciiEscape < first.toNat) := by
          rintro ⟨halphabet, hlarge⟩
          have := hascii halphabet
          omega
        rw [scan, if_neg hescape, if_neg hreturn, if_neg hbytes]
      | lineEnd =>
        obtain ⟨rfl, rfl⟩ : first = '\r' ∧ after = '\n' :: more := by
          simpa [spelling] using hchars
        simp [scan]
      | simple escape => exact absurd (List.cons.inj hchars).1 hescape
      | hex high low => exact absurd (List.cons.inj hchars).1 hescape
      | braced digits => exact absurd (List.cons.inj hchars).1 hescape

-- The alphabets part at U+0080, where text has to go on with braces.
example : (hex '7' 'f').Legal .text ∧ ¬(hex '8' '0').Legal .text ∧ (hex '8' '0').Legal .bytes ∧
    (braced ['8', '0']).Legal .text := by decide

/-- The code of a legal piece is one of its alphabet, so a character or a byte with that code
exists. -/
theorem Legal.holds_code {alphabet : Alphabet} {piece : Piece} (h : piece.Legal alphabet) :
    alphabet.Holds piece.code := by
  cases piece with
  | plain char =>
    obtain ⟨-, -, hascii⟩ := h
    cases alphabet with
    | text => exact char.valid
    | bytes =>
      have hle := hascii rfl
      simp only [maxAsciiEscape] at hle
      simp only [Alphabet.Holds, code]
      omega
  | lineEnd => cases alphabet <;> decide
  | simple escape => cases alphabet <;> cases escape <;> decide
  | hex high low =>
    obtain ⟨hhigh, hlow, hle⟩ := h
    have := hexDigitValue_lt hhigh
    have := hexDigitValue_lt hlow
    cases alphabet with
    | text =>
      have hle := hle rfl
      simp only [maxAsciiEscape] at hle
      exact .inl (by simp only [code]; omega)
    | bytes =>
      simp only [Alphabet.Holds, code, hexValue_pair]
      omega
  | braced digits =>
    obtain ⟨rfl, -, -, -, hsize, hsurrogate⟩ := h
    simp only [maxCodePoint, firstSurrogate, lastSurrogate] at hsize hsurrogate
    simp only [Alphabet.Holds, code, Nat.isValidChar]
    omega

/-- The character that a legal piece denotes has the code of the piece. -/
theorem Legal.toNat_value {alphabet : Alphabet} {piece : Piece} (h : piece.Legal alphabet) :
    piece.value.toNat = piece.code := by
  have hcode := h.holds_code
  have hvalid : piece.code.isValidChar := by
    cases alphabet with
    | text => exact hcode
    | bytes => exact .inl (Nat.lt_trans hcode (by decide))
  cases piece with
  | plain char => rfl
  | lineEnd => rfl
  | simple escape => cases escape <;> rfl
  | hex high low => exact toNat_ofNat_of_valid hvalid
  | braced digits => exact toNat_ofNat_of_valid hvalid

end Piece
end LiteralLexer
