import LiteralLexer.Text.Slice

/-!
Lines and columns of a position, both counted from one. A line ends after its LF, so a position
right behind an LF is column one of the next line. The column is counted from the position itself:
for a position outside of the text it goes on below one or past the end of the last line.
-/
namespace LiteralLexer

structure LineColumn where
  line : Nat
  column : Int
  deriving DecidableEq, Repr

/-- The characters after the last LF of `text`, all of them if there is no LF. -/
def lastLine (text : List Char) : List Char :=
  (text.reverse.takeWhile (· != '\n')).reverse

def lineColumn (source : List Char) (pos : Int) : LineColumn :=
  let before := source.take (boundIn source.length pos)
  ⟨before.count '\n' + 1, (lastLine before).length + 1 + (pos - before.length)⟩

theorem lineColumn_line_pos (source : List Char) (pos : Int) :
    1 ≤ (lineColumn source pos).line := by
  simp [lineColumn]

/-- A position that is not in front of the text has a column. -/
theorem lineColumn_column_pos (source : List Char) (n : Nat) :
    1 ≤ (lineColumn source n).column := by
  simp only [lineColumn, boundIn_natCast, List.length_take]
  omega

end LiteralLexer
