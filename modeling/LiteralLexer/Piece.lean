import LiteralLexer.Reading
import LiteralLexer.Text.Blank

/-!
Pieces: the units of quoted literals. A piece is what one character of the value is written as: a
plain character, CR LF, or an escape. Pieces keep their spelling, so the value is a function of the
piece and nothing of the source is lost. In byte literals a piece denotes a character below U+0100,
and the byte is its code.
-/
namespace LiteralLexer

/-- The escapes of a single letter. -/
inductive SimpleEscape where
  | newline | carriageReturn | tab | backslash | null | apostrophe | quote
  deriving DecidableEq, Repr

namespace SimpleEscape

def all : List SimpleEscape := [newline, carriageReturn, tab, backslash, null, apostrophe, quote]

def letter : SimpleEscape → Char
  | newline => 'n'
  | carriageReturn => 'r'
  | tab => 't'
  | backslash => '\\'
  | null => '0'
  | apostrophe => '\''
  | quote => '"'

def value : SimpleEscape → Char
  | newline => '\n'
  | carriageReturn => '\r'
  | tab => '\t'
  | backslash => '\\'
  | null => '\x00'
  | apostrophe => '\''
  | quote => '"'

def ofLetter? (c : Char) : Option SimpleEscape := all.find? fun e => e.letter = c

@[simp] theorem ofLetter?_letter (e : SimpleEscape) : ofLetter? e.letter = some e := by
  cases e <;> decide

theorem eq_letter_of_ofLetter? {c : Char} {e : SimpleEscape} (h : ofLetter? c = some e) :
    c = e.letter := by
  have := List.find?_some h
  simpa using Eq.symm (of_decide_eq_true this)

end SimpleEscape

inductive Piece where
  | plain (char : Char)
  | lineEnd
  | simple (escape : SimpleEscape)
  | hex (high low : Char)
  | braced (digits : List Char)
  deriving DecidableEq, Repr

/-- The largest code that two hexadecimal digits may give in text. -/
def maxAsciiEscape : Nat := 0x7F

def maxCodePoint : Nat := 0x10FFFF

def firstSurrogate : Nat := 0xD800

def lastSurrogate : Nat := 0xDFFF

/-- How many digits braces may hold. -/
def maxBracedDigits : Nat := 6

namespace Piece

/-- The character that a piece denotes. -/
def value : Piece → Char
  | plain char => char
  | lineEnd => '\n'
  | simple escape => escape.value
  | hex high low => Char.ofNat (hexValue [high, low])
  | braced digits => Char.ofNat (hexValue digits)

/-- The characters that a piece is written with. -/
def spelling : Piece → List Char
  | plain char => [char]
  | lineEnd => ['\r', '\n']
  | simple escape => ['\\', escape.letter]
  | hex high low => ['\\', 'x', high, low]
  | braced digits => '\\' :: 'u' :: '{' :: digits ++ ['}']

/-- Whether a pair of hexadecimal digits may start with `c`. -/
def isLead : Alphabet → Char → Bool
  | .text, c => decide ('0' ≤ c ∧ c ≤ '7')
  | .bytes, c => isHexDigit c

/-- Reads the two digits of an escape by code. -/
def scanHex (alphabet : Alphabet) (ahead : Ahead) : Reading Piece :=
  match ahead.window 2 with
  | [high, low] =>
    if isLead alphabet high && isHexDigit low then .ok (.hex high low, ahead.drop 2)
    else .error (.fault (.badHexPair alphabet) ahead.chars)
  | _ => .error (.fault (.badHexPair alphabet) ahead.chars)

/-- Reads the braces behind the `u` of an escape and what they hold. -/
def scanBraces (ahead : Ahead) : Reading Piece :=
  match ahead.chars with
  | '{' :: _ =>
    let inside := ahead.drop 1
    let digits := (inside.chars.take maxBracedDigits).takeWhile isHexDigit
    let rest := inside.drop digits.length
    match rest.chars with
    | [] => .error (.fault .endInBraces [])
    | close :: _ =>
      if digits = [] ∨ close ≠ '}' then .error (.fault .badBraces rest.chars)
      else if 0 < inside.seam ∧ inside.seam ≤ digits.length then .error (.abort .noDigits)
      else if maxCodePoint < hexValue digits then
        .error (.fault (.codePointTooLarge digits) inside.chars)
      else if firstSurrogate ≤ hexValue digits ∧ hexValue digits ≤ lastSurrogate then
        .error (.fault (.surrogate digits) inside.chars)
      else .ok (.braced digits, rest.drop 1)
  | _ => .error (.fault .unbraced ahead.chars)

/-- Reads an escape from behind its backslash. -/
def scanEscape (alphabet : Alphabet) (ahead : Ahead) : Reading Piece :=
  match ahead.chars with
  | [] => .error (.fault .endInEscape [])
  | letter :: _ =>
    match SimpleEscape.ofLetter? letter with
    | some escape => .ok (.simple escape, ahead.drop 1)
    | none =>
      if letter = 'x' then scanHex alphabet (ahead.drop 1)
      else if letter = 'u' ∧ alphabet = .text then scanBraces (ahead.drop 1)
      else .error (.fault (.badEscape alphabet letter) ahead.chars)

/-- Reads a piece that starts with `first`. -/
def scan (alphabet : Alphabet) (first : Char) (after : Ahead) : Reading Piece :=
  if first = '\\' then scanEscape alphabet after
  else if first = '\r' then
    match after.chars with
    | '\n' :: _ => .ok (.lineEnd, after.drop 1)
    | _ => .error (.fault .bareCarriageReturn (first :: after.chars))
  else if alphabet = .bytes ∧ maxAsciiEscape < first.toNat then
    .error (.fault (.nonAscii first) (first :: after.chars))
  else .ok (.plain first, after)

theorem scanHex_length_le {alphabet : Alphabet} {ahead rest : Ahead} {piece : Piece}
    (h : scanHex alphabet ahead = .ok (piece, rest)) : rest.chars.length ≤ ahead.chars.length := by
  unfold scanHex at h
  split at h
  · split at h
    · cases h
      simp
    · cases h
  · cases h

theorem scanBraces_length_le {ahead rest : Ahead} {piece : Piece}
    (h : scanBraces ahead = .ok (piece, rest)) : rest.chars.length ≤ ahead.chars.length := by
  unfold scanBraces at h
  split at h
  · dsimp only at h
    split at h
    · cases h
    · repeat' (split at h)
      all_goals cases h
      simp only [Ahead.drop_chars, List.length_drop]
      omega
  · cases h

theorem scanEscape_length_le {alphabet : Alphabet} {ahead rest : Ahead} {piece : Piece}
    (h : scanEscape alphabet ahead = .ok (piece, rest)) :
    rest.chars.length ≤ ahead.chars.length := by
  have hdrop : (ahead.drop 1).chars.length ≤ ahead.chars.length := by simp
  unfold scanEscape at h
  split at h
  · cases h
  · split at h
    · cases h
      exact hdrop
    · split at h
      · exact Nat.le_trans (scanHex_length_le h) hdrop
      · split at h
        · exact Nat.le_trans (scanBraces_length_le h) hdrop
        · cases h

/-- A piece never gives back what was in front of it. -/
theorem scan_length_le {alphabet : Alphabet} {first : Char} {after rest : Ahead} {piece : Piece}
    (h : scan alphabet first after = .ok (piece, rest)) :
    rest.chars.length ≤ after.chars.length := by
  unfold scan at h
  split at h
  · exact scanEscape_length_le h
  · split at h
    · split at h
      · cases h
        simp
      · cases h
    · split at h
      · cases h
      · cases h
        exact Nat.le_refl _

end Piece
end LiteralLexer
