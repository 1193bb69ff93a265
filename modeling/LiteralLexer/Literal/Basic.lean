import LiteralLexer.Span

/-!
Literals. A literal is a decoded value of one of five kinds, with the span of the whole token if it
was read from a source. Two literals are equal only if their spans are.
-/
namespace LiteralLexer

inductive LiteralKind where
  | text | char | byteText | byte | rawText
  deriving DecidableEq, Repr

namespace LiteralKind

def all : List LiteralKind := [text, char, byteText, byte, rawText]

def name : LiteralKind → String
  | text => "text"
  | char => "char"
  | byteText => "byte_text"
  | byte => "byte"
  | rawText => "raw_text"

end LiteralKind

inductive LiteralValue where
  | text (value : List Char)
  | char (value : Char)
  | byteText (value : List UInt8)
  | byte (value : UInt8)
  /-- Raw text keeps the number of markers on each of its sides. -/
  | rawText (value : List Char) (hashes : Nat)
  deriving DecidableEq, Repr

def LiteralValue.kind : LiteralValue → LiteralKind
  | text _ => .text
  | char _ => .char
  | byteText _ => .byteText
  | byte _ => .byte
  | rawText _ _ => .rawText

structure Literal where
  value : LiteralValue
  span : Option Span := none
  deriving DecidableEq, Repr

def Literal.kind (l : Literal) : LiteralKind := l.value.kind

end LiteralLexer
