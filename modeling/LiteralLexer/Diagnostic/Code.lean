import LiteralLexer.Text.Decimal

/-!
The codes of everything that can be wrong with a source. A code has a name and a number of four
digits; numbers below 3100 are about reading at all, those below 3200 about the inside of a
literal, those below 3300 about comments and tokens, and the rest about a source as a whole.
-/
namespace LiteralLexer

inductive Code where
  | unexpectedEnd
  | unterminatedLiteral | invalidEscape | invalidHexEscape | invalidUnicodeEscape
  | invalidCodePoint | bareCarriageReturn | nonAsciiByte | unclosedCharLiteral
  | invalidRawDelimiter
  | unterminatedBlockComment | noTrivia | wordNotBroken | expectedToken
  | unknownLiteral | trailingInput
  deriving DecidableEq, Repr

namespace Code

/-- Every code, by number. -/
def all : List Code :=
  [unexpectedEnd, unterminatedLiteral, invalidEscape, invalidHexEscape, invalidUnicodeEscape,
   invalidCodePoint, bareCarriageReturn, nonAsciiByte, unclosedCharLiteral, invalidRawDelimiter,
   unterminatedBlockComment, noTrivia, wordNotBroken, expectedToken, unknownLiteral, trailingInput]

def name : Code → String
  | unexpectedEnd => "UNEXPECTED_EOF"
  | unterminatedLiteral => "UNTERMINATED_LITERAL"
  | invalidEscape => "INVALID_ESCAPE"
  | invalidHexEscape => "INVALID_HEX_ESCAPE"
  | invalidUnicodeEscape => "INVALID_UNICODE_ESCAPE"
  | invalidCodePoint => "INVALID_CODE_POINT"
  | bareCarriageReturn => "BARE_CARRIAGE_RETURN"
  | nonAsciiByte => "NON_ASCII_BYTE"
  | unclosedCharLiteral => "UNCLOSED_CHAR_LITERAL"
  | invalidRawDelimiter => "INVALID_RAW_DELIMITER"
  | unterminatedBlockComment => "UNTERMINATED_BLOCK_COMMENT"
  | noTrivia => "NO_TRIVIA"
  | wordNotBroken => "WORD_NOT_BROKEN"
  | expectedToken => "EXPECTED_TOKEN"
  | unknownLiteral => "UNKNOWN_LITERAL"
  | trailingInput => "TRAILING_INPUT"

def number : Code → Nat
  | unexpectedEnd => 3001
  | unterminatedLiteral => 3101
  | invalidEscape => 3102
  | invalidHexEscape => 3103
  | invalidUnicodeEscape => 3104
  | invalidCodePoint => 3105
  | bareCarriageReturn => 3106
  | nonAsciiByte => 3107
  | unclosedCharLiteral => 3108
  | invalidRawDelimiter => 3109
  | unterminatedBlockComment => 3201
  | noTrivia => 3202
  | wordNotBroken => 3203
  | expectedToken => 3204
  | unknownLiteral => 3301
  | trailingInput => 3302

theorem mem_all (code : Code) : code ∈ all := by
  cases code <;> decide

theorem number_injective {a b : Code} (h : a.number = b.number) : a = b := by
  cases a <;> cases b <;> first | rfl | exact absurd h (by decide)

/-- A number that is no code's. -/
structure Unknown where
  number : Int
  deriving DecidableEq, Repr

def Unknown.message (u : Unknown) : String :=
  decimalText u.number ++ " is not a valid DiagnosticCode"

def ofNumber (n : Int) : Except Unknown Code :=
  match all.find? fun code => (code.number : Int) = n with
  | some code => .ok code
  | none => .error ⟨n⟩

def ofName? (name : String) : Option Code := all.find? fun code => code.name = name

/-- Advice on how to mend what the code stands for. -/
def hint? : Code → Option String
  | unterminatedLiteral => some "Add the closing delimiter"
  | invalidEscape => some <|
    "Valid escapes are \\n \\r \\t \\\\ \\0 \\' \\\" \\x.. and \\u\x7b...\x7d " ++
    "(\\u\x7b...\x7d is not allowed in byte literals)"
  | invalidHexEscape => some
    "Text literals accept \\x00 to \\x7F; byte literals accept \\x00 to \\xFF"
  | invalidUnicodeEscape => some "Write 1 to 6 hex digits inside braces: \\u\x7b1F600\x7d"
  | invalidCodePoint => some
    "Code points must be at most 10FFFF and outside the surrogate range D800-DFFF"
  | bareCarriageReturn => some "Use \\r\\n line endings or write the \\r escape"
  | nonAsciiByte => some "Write non-ASCII bytes as \\x escapes"
  | unclosedCharLiteral => some "Character and byte literals hold exactly one value"
  | invalidRawDelimiter => some "Raw strings open with r, zero or more '#', then '\"'"
  | unterminatedBlockComment => some "Every '/*' needs a matching '*/'"
  | _ => none

end Code
end LiteralLexer
