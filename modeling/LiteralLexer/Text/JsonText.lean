import LiteralLexer.Text.HexDigit

/-!
Text as a JSON string. The double quote, the backslash and the characters below U+0020 are escaped,
five of them by a letter and the others by four hexadecimal digits; all else stands as it is.
-/
namespace LiteralLexer

def jsonChar (c : Char) : List Char :=
  if c = '"' ∨ c = '\\' then ['\\', c]
  else if c = '\n' then ['\\', 'n']
  else if c = '\r' then ['\\', 'r']
  else if c = '\t' then ['\\', 't']
  else if c = '\x08' then ['\\', 'b']
  else if c = '\x0c' then ['\\', 'f']
  else if c.toNat < 0x20 then '\\' :: 'u' :: hexText 4 c.toNat
  else [c]

/-- `text` as a JSON string, with its quotes. -/
def jsonText (text : List Char) : List Char := '"' :: text.flatMap jsonChar ++ ['"']

end LiteralLexer
