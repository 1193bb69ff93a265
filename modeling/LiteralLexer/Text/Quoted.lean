import LiteralLexer.Text.HexDigit
import LiteralLexer.Text.Printable

/-!
Text quoted for a message. The quote is an apostrophe, unless the text holds an apostrophe and no
double quote. The quote and the backslash get a backslash, tab and line ends have letters of their
own, and any other character that cannot be shown is written by its code in two, four or eight
hexadecimal digits.
-/
namespace LiteralLexer

/-- The code of `c` behind the shortest of the three marks that has room for it. -/
def codeEscape (c : Char) : List Char :=
  if c.toNat ≤ 0xFF then '\\' :: 'x' :: hexText 2 c.toNat
  else if c.toNat ≤ 0xFFFF then '\\' :: 'u' :: hexText 4 c.toNat
  else '\\' :: 'U' :: hexText 8 c.toNat

/-- One character between the quotes `quote`. -/
def quotedChar (quote c : Char) : List Char :=
  if c = quote ∨ c = '\\' then ['\\', c]
  else if c = '\n' then ['\\', 'n']
  else if c = '\r' then ['\\', 'r']
  else if c = '\t' then ['\\', 't']
  else if isPrintable c then [c]
  else codeEscape c

/-- The quote that `quoted` puts around `text`. -/
def quoteFor (text : List Char) : Char :=
  if text.contains '\'' && !text.contains '"' then '"' else '\''

def quoted (text : List Char) : List Char :=
  let quote := quoteFor text
  quote :: text.flatMap (quotedChar quote) ++ [quote]

end LiteralLexer
