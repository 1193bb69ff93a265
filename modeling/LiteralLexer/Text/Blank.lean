/-!
Blank characters. White space is the Unicode property White_Space; the information separators
U+001C to U+001F are not in it. Between tokens the two direction marks are blank as well, but the
run after a line continuation stops at them.
-/
namespace LiteralLexer

/-- The characters with the property White_Space. -/
def whiteSpace : List Char :=
  ['\t', '\n', '\x0b', '\x0c', '\r', ' ', '\u0085', '\u00a0', '\u1680', '\u2000', '\u2001',
   '\u2002', '\u2003', '\u2004', '\u2005', '\u2006', '\u2007', '\u2008', '\u2009', '\u200a',
   '\u2028', '\u2029', '\u202f', '\u205f', '\u3000']

/-- The left-to-right mark and the right-to-left mark. -/
def bidiMarks : List Char := ['\u200e', '\u200f']

def isWhiteSpace (c : Char) : Bool := whiteSpace.contains c

/-- Whether `c` may stand between two tokens. -/
def isBlank (c : Char) : Bool := isWhiteSpace c || bidiMarks.contains c

theorem isBlank_of_isWhiteSpace {c : Char} (h : isWhiteSpace c = true) : isBlank c = true := by
  simp [isBlank, h]

end LiteralLexer
