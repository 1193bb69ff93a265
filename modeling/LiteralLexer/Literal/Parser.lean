import LiteralLexer.Body
import LiteralLexer.Literal.Basic
import LiteralLexer.RawText
import LiteralLexer.Trivia

/-!
Reading a literal. Its kind is known from its opening, the decoder of that kind reads the rest, and
the span is the whole token. What a caller may want to trace is given as events beside the outcome.
-/
namespace LiteralLexer

namespace LiteralKind

/-- The characters that a literal opens with, as far as they tell its kind. -/
def openings : LiteralKind → List (List Char)
  | text => [['"']]
  | char => [['\'']]
  | byteText => [['b', '"']]
  | byte => [['b', '\'']]
  | rawText => [['r', '#'], ['r', '"']]

/-- How many characters of its opening a literal's decoder leaves to the caller. -/
def openingLength : LiteralKind → Nat
  | text | char | rawText => 1
  | byteText | byte => 2

/-- The kind of the literal at the cursor, if one opens there. -/
def at? (c : Cursor) : Option LiteralKind :=
  all.find? fun kind => kind.openings.any c.startsWith

/-- Decodes from behind the opening of a literal. An apostrophe has to close what it opened. -/
def decode (kind : LiteralKind) (c : Cursor) : Outcome LiteralValue :=
  match kind with
  | text => (decodeText c).map .text
  | char => (decodeChar c false).map .char
  | byteText => (decodeByteText c).map .byteText
  | byte => (decodeByte c false).map .byte
  | rawText => (decodeRawText c).map fun raw => .rawText raw.text raw.hashes

end LiteralKind

/-- The literal with its span put in; a literal that starts before its source has no span. -/
def spanned (start : Cursor) (value : LiteralValue) (after : Cursor) : Outcome Literal :=
  match Span.ofBounds start.pos after.pos with
  | .ok span => .done ⟨value, some span⟩ after
  | .error fault => .aborted (.badSpan fault)

/-- Reads the literal at the cursor itself. -/
def literalAt (c : Cursor) : Outcome Literal :=
  match LiteralKind.at? c with
  | none => .failed (Cause.noLiteral.at c.pos)
  | some kind => (kind.decode (c.advance kind.openingLength)).bind (spanned c)

/-- What happens while a source is read. -/
inductive Event where
  | openCommentBefore (position : Int)
  | noLiteral (position : Int) (message : String)
  | parsed (kind : LiteralKind) (start stop : Int)
  | decodeFailed (position : Int) (message : String)
  | openCommentAfter (position : Int)
  | trailingInput (position : Int)
  deriving DecidableEq, Repr

def Event.message : Event → String
  | openCommentBefore position =>
    "Unterminated block comment before literal at " ++ decimalText position
  | noLiteral position message =>
    "No literal at position " ++ decimalText position ++ ": " ++ message
  | parsed kind start stop =>
    "Parsed " ++ kind.name ++ " literal at " ++ decimalText start ++ "-" ++ decimalText stop
  | decodeFailed position message =>
    "Literal decode failed at " ++ decimalText position ++ ": " ++ message
  | openCommentAfter position =>
    "Unterminated block comment after literal at " ++ decimalText position
  | trailingInput position => "Trailing input after literal at " ++ decimalText position

/-- Reads a literal after trivia. -/
def parseLiteral (c : Cursor) : Outcome Literal :=
  (optionalTrivia c).bind fun _ start => literalAt start

end LiteralLexer
