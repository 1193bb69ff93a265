import LiteralLexer.Ahead
import LiteralLexer.Failure

/-!
Cursors. A cursor is a source with a position in it. Positions are not checked: one past the end
is at the end of input, and one before the start counts from the end, as single characters and
slices do. Only reading a single character further before the start than the source is long is an
abort.
-/
namespace LiteralLexer

structure Cursor where
  source : List Char
  pos : Int
  deriving DecidableEq, Repr

namespace Cursor

def isEnd (c : Cursor) : Bool := decide ((c.source.length : Int) ≤ c.pos)

/-- Whether the position is further before the start than the source is long. -/
def outOfRange (c : Cursor) : Bool := decide (c.pos + c.source.length < 0)

/-- The character at a position within reach. -/
def fetch (c : Cursor) (pos : Int) : Except Abort Char :=
  match charAt? c.source pos with
  | some char => .ok char
  | none => .error .outOfRange

def current (c : Cursor) : Except Abort Char :=
  if c.isEnd then .error (.endOfInput c.pos) else c.fetch c.pos

/-- The character `offset` further on, or nothing from the end of input on. -/
def peek (c : Cursor) (offset : Int) : Except Abort (Option Char) :=
  if (c.source.length : Int) ≤ c.pos + offset then .ok none
  else (c.fetch (c.pos + offset)).map some

/-- What reading from the cursor meets. -/
def ahead (c : Cursor) : Ahead :=
  if 0 ≤ c.pos then ⟨c.source.drop c.pos.toNat, 0⟩
  else
    let before := min c.pos.natAbs c.source.length
    ⟨c.source.drop (c.source.length - before) ++ c.source, before⟩

@[simp] theorem ahead_mk_natCast (source : List Char) (n : Nat) :
    ahead ⟨source, n⟩ = ⟨source.drop n, 0⟩ := by
  simp [ahead]

/-- The source from the position on. -/
def rest (c : Cursor) : List Char := sliceFrom c.source c.pos

/-- How many characters there are before the end of input. -/
def remaining (c : Cursor) : Nat := (c.source.length - c.pos).toNat

/-- The source from the position up to a bound. -/
def sliceTo (c : Cursor) (stop : Int) : List Char := slice c.source c.pos stop

/-- The next `count` characters, as far as there are so many. -/
def next (c : Cursor) (count : Int) : List Char := c.sliceTo (c.pos + count)

/-- Whether the pattern comes next. Past the end not even the empty pattern does. -/
def startsWith (c : Cursor) (pattern : List Char) : Bool :=
  decide (c.pos ≤ c.source.length) && c.ahead.startsWith pattern

/-- The cursor `count` further on, but not past the end. -/
def advance (c : Cursor) (count : Int) : Cursor :=
  { c with pos := min (c.pos + count) c.source.length }

/-- The cursor at the end of its source. -/
def finish (c : Cursor) : Cursor := { c with pos := c.source.length }

/-- The cursor past the current character, if `text` is that character and nothing else. -/
def expect (c : Cursor) (text : List Char) : Except Abort (Option Cursor) :=
  if c.isEnd then .ok none
  else (c.fetch c.pos).map fun char => if text = [char] then some (c.advance 1) else none

def lineColumn (c : Cursor) : LineColumn := LiteralLexer.lineColumn c.source c.pos

/-- The position at which reading from the cursor meets just `rest`. -/
def place (c : Cursor) (rest : List Char) : Int :=
  if rest.length = c.ahead.chars.length then c.pos else c.source.length - rest.length

end Cursor
end LiteralLexer
