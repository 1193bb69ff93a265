import LiteralLexer.Diagnostic.Code
import LiteralLexer.Text.Quoted

/-!
Why a reading fails. A cause carries what its message names and nothing about the place; the code,
the message and the tokens that could have stood there are functions of it.
-/
namespace LiteralLexer

/-- What a quoted literal holds: characters, or bytes written as characters below U+0080. -/
inductive Alphabet where
  | text | bytes
  deriving DecidableEq, Repr

inductive Cause where
  /-- The input ends inside of a body that double quotes close. -/
  | unterminatedBody (alphabet : Alphabet)
  /-- The input ends where an apostrophe has to stand. -/
  | unterminatedSingle
  | emptySingle (alphabet : Alphabet)
  | unclosedSingle (found : Char)
  | endInEscape
  | badEscape (alphabet : Alphabet) (letter : Char)
  | badHexPair (alphabet : Alphabet)
  /-- No brace stands behind the `u` of an escape. -/
  | unbraced
  | badBraces
  | endInBraces
  | codePointTooLarge (digits : List Char)
  | surrogate (digits : List Char)
  | bareCarriageReturn
  | nonAscii (found : Char)
  | badRawDelimiter
  | unterminatedRaw (hashes : Nat)
  /-- The input ends inside of a block comment, `depth` comments deep. -/
  | unterminatedComment (depth : Int)
  | noComment
  | noTrivia
  | wordGoesOn (found : Char)
  | missingToken (token : List Char)
  | noLiteral
  | trailing (found : Char)
  deriving DecidableEq, Repr

namespace Cause

def code : Cause → Code
  | unterminatedBody _ | unterminatedSingle | emptySingle _ | endInEscape | unterminatedRaw _ =>
    .unterminatedLiteral
  | unclosedSingle _ => .unclosedCharLiteral
  | badEscape _ _ => .invalidEscape
  | badHexPair _ => .invalidHexEscape
  | unbraced | badBraces | endInBraces => .invalidUnicodeEscape
  | codePointTooLarge _ | surrogate _ => .invalidCodePoint
  | bareCarriageReturn => .bareCarriageReturn
  | nonAscii _ => .nonAsciiByte
  | badRawDelimiter => .invalidRawDelimiter
  | unterminatedComment _ => .unterminatedBlockComment
  | noComment | missingToken _ => .expectedToken
  | noTrivia => .noTrivia
  | wordGoesOn _ => .wordNotBroken
  | noLiteral => .unknownLiteral
  | trailing _ => .trailingInput

/-- A character as a message quotes it. -/
def charText (c : Char) : String := String.ofList (quoted [c])

/-- A code point as a message names it. -/
def codePointText (digits : List Char) : String :=
  "U+" ++ String.ofList (digits.map Char.toUpper)

/-- What closes a raw text that opened with `hashes` markers. -/
def rawClose (hashes : Nat) : List Char := '"' :: List.replicate hashes '#'

def message : Cause → String
  | unterminatedBody .text => "Unterminated text literal"
  | unterminatedBody .bytes => "Unterminated byte-text literal"
  | unterminatedSingle => "Unterminated literal"
  | emptySingle .text => "Empty character literal"
  | emptySingle .bytes => "Empty byte literal"
  | unclosedSingle found => "Expected closing quote after single value, found " ++ charText found
  | endInEscape => "Unexpected EOF in escape sequence"
  | badEscape .text letter => "Invalid escape sequence: \\" ++ String.ofList [letter]
  | badEscape .bytes letter =>
    "Invalid escape sequence in byte literal: \\" ++ String.ofList [letter]
  | badHexPair .text => "Invalid hex escape (expected 2 hex digits in 00-7F)"
  | badHexPair .bytes => "Invalid hex escape (expected 2 hex digits in 00-FF)"
  | unbraced => "Invalid Unicode escape (expected '\x7b' after \\u)"
  | badBraces => "Invalid Unicode escape (expected 1 to 6 hex digits followed by '\x7d')"
  | endInBraces => "Unexpected EOF in Unicode escape"
  | codePointTooLarge digits =>
    "Invalid Unicode code point: " ++ codePointText digits ++ " (max U+10FFFF)"
  | surrogate digits =>
    "Invalid surrogate code point: " ++ codePointText digits ++ " (surrogates not allowed)"
  | bareCarriageReturn => "Bare carriage return in literal (expected CRLF)"
  | nonAscii found => "Non-ASCII character " ++ charText found ++ " in byte literal"
  | badRawDelimiter => "Invalid raw string delimiter (expected '#' or '\"')"
  | unterminatedRaw hashes =>
    "Unterminated raw string (expected '" ++ String.ofList (rawClose hashes) ++ "')"
  | unterminatedComment depth =>
    "Unterminated block comment (depth " ++ decimalText depth ++ " at end of input)"
  | noComment => "Expected block comment"
  | noTrivia => "Expected whitespace or comment"
  | wordGoesOn found => "Expected word break, found identifier character " ++ charText found
  | missingToken token => "Expected " ++ String.ofList (quoted token)
  | noLiteral => "Expected a literal"
  | trailing found => "Unexpected input after literal: " ++ charText found

/-- What could have stood where the reading failed. -/
def expected : Cause → List String
  | unterminatedBody _ => ["\""]
  | unterminatedSingle | unclosedSingle _ => ["'"]
  | badHexPair _ => ["0-9", "a-f", "A-F"]
  | unbraced => ["\x7b"]
  | badBraces => ["0-9", "a-f", "A-F", "\x7d"]
  | endInBraces => ["\x7d"]
  | bareCarriageReturn => ["\n"]
  | badRawDelimiter => ["#", "\""]
  | unterminatedRaw hashes => [String.ofList (rawClose hashes)]
  | unterminatedComment _ => ["*/"]
  | noComment => ["/*"]
  | missingToken token => [String.ofList token]
  | noLiteral => ["\"", "'", "b\"", "b'", "r\"", "r#"]
  | emptySingle _ | endInEscape | badEscape _ _ | codePointTooLarge _ | surrogate _ | nonAscii _
  | noTrivia | wordGoesOn _ | trailing _ => []

end Cause
end LiteralLexer
