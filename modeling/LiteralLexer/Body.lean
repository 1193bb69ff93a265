import LiteralLexer.Piece

/-!
The bodies of quoted literals, from behind the opening quote. Between double quotes stands any
number of pieces, and a backslash at the end of a line joins the line to the next one: it and all
white space after it denote nothing. Between apostrophes stands exactly one piece, and no joined
lines; an apostrophe of its own is a piece like any other.
-/
namespace LiteralLexer

/-- Whether a line ends here. -/
def startsLineEnd (chars : List Char) : Bool :=
  match chars with
  | c :: _ => c = '\n' || c = '\r'
  | [] => false

namespace Body

/-- Reads up to the closing double quote. The characters denoted so far are in `sofar`, last one
first. -/
def scan (alphabet : Alphabet) (sofar : List Char) : Ahead → Reading (List Char)
  | ⟨[], _⟩ => .error (.fault (.unterminatedBody alphabet) [])
  | ⟨c :: cs, seam⟩ =>
    let after : Ahead := ⟨cs, seam - 1⟩
    if c = '"' then .ok (sofar.reverse, after)
    else if c = '\\' && startsLineEnd cs then
      scan alphabet sofar (after.dropWhile isWhiteSpace)
    else
      match _ : Piece.scan alphabet c after with
      | .error stop => .error stop
      | .ok (piece, rest) => scan alphabet (piece.value :: sofar) rest
  termination_by ahead => ahead.chars.length
  decreasing_by
    · have := (List.dropWhile_sublist (l := cs) isWhiteSpace).length_le
      simp only [Ahead.dropWhile_chars, List.length_cons]
      omega
    · have hle : _ ≤ cs.length := Piece.scan_length_le ‹_›
      simp only [List.length_cons]
      omega

end Body

/-- Reads up to the closing double quote. -/
def readBody (alphabet : Alphabet) (ahead : Ahead) : Reading (List Char) :=
  Body.scan alphabet [] ahead

/-- Reads the apostrophe that closes a single piece. The end of input stands for it if `allowEnd`
says so. -/
def closeSingle (allowEnd : Bool) (value : Char) (ahead : Ahead) : Reading Char :=
  match ahead.chars with
  | [] => if allowEnd then .ok (value, ahead) else .error (.fault .unterminatedSingle [])
  | found :: _ =>
    if found = '\'' then .ok (value, ahead.drop 1)
    else .error (.fault (.unclosedSingle found) ahead.chars)

/-- Reads one piece and its closing apostrophe. -/
def readSingle (alphabet : Alphabet) (allowEnd : Bool) (ahead : Ahead) : Reading Char :=
  match ahead.chars with
  | [] => .error (.fault (.emptySingle alphabet) [])
  | first :: _ =>
    match Piece.scan alphabet first (ahead.drop 1) with
    | .error stop => .error stop
    | .ok (piece, rest) => closeSingle allowEnd piece.value rest

/-- The byte that a character of a byte literal stands for. -/
def byteOf (c : Char) : UInt8 := UInt8.ofNat c.toNat

/-- Decodes the body of a text literal. -/
def decodeText (c : Cursor) : Outcome (List Char) := c.read (readBody .text)

/-- Decodes the body of a byte-text literal. -/
def decodeByteText (c : Cursor) : Outcome (List UInt8) :=
  (c.read (readBody .bytes)).map (List.map byteOf)

/-- Decodes the body of a character literal. -/
def decodeChar (c : Cursor) (allowEnd : Bool) : Outcome Char := c.read (readSingle .text allowEnd)

/-- Decodes the body of a byte literal. -/
def decodeByte (c : Cursor) (allowEnd : Bool) : Outcome UInt8 :=
  (c.read (readSingle .bytes allowEnd)).map byteOf

end LiteralLexer
