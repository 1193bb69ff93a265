import LiteralLexer.Reading

/-!
Raw text. A raw text opens with a run of markers and a double quote, and closes at the first double
quote that as many markers follow; more markers behind it are left alone. Nothing in between is an
escape, and every CR is left out.
-/
namespace LiteralLexer

structure RawText where
  text : List Char
  hashes : Nat
  deriving DecidableEq, Repr

namespace RawText

/-- Reads up to the close of a raw text that opened with `markers`. The text so far is in `sofar`,
last character first. -/
def scan (markers sofar : List Char) : List Char → Nat → Reading RawText
  | [], _ => .error (.fault (.unterminatedRaw markers.length) [])
  | c :: cs, seam =>
    let after : Ahead := ⟨cs, seam - 1⟩
    if c = '"' && after.startsWith markers then
      .ok (⟨sofar.reverse, markers.length⟩, after.drop markers.length)
    else scan markers (if c = '\r' then sofar else c :: sofar) cs (seam - 1)

/-- Reads from the first marker on. -/
def read (ahead : Ahead) : Reading RawText :=
  let markers := ahead.chars.takeWhile (· == '#')
  let opening := ahead.drop markers.length
  match opening.chars with
  | '"' :: body => scan markers [] body (opening.seam - 1)
  | _ => .error (.fault .badRawDelimiter opening.chars)

end RawText

/-- Decodes a raw text from its first marker, or from its quote if there is no marker. -/
def decodeRawText (c : Cursor) : Outcome RawText := c.read RawText.read

end LiteralLexer
