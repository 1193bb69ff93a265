import LiteralLexer.Cause
import LiteralLexer.Diagnostic.Basic
import LiteralLexer.Text.LineColumn

/-!
Failures and aborts. A failure is a cause with its place: the caller may go on from where it was,
and may turn the failure into a diagnostic. An abort is a reading that has no answer at all.
-/
namespace LiteralLexer

structure Failure where
  code : Code
  message : String
  position : Int
  expected : List String
  deriving DecidableEq, Repr

/-- The failure for a cause at a position. -/
def Cause.at (cause : Cause) (position : Int) : Failure :=
  ⟨cause.code, cause.message, position, cause.expected⟩

/-- The nearest position within a text of `length` characters. -/
def nearestIn (length : Nat) (position : Int) : Nat := min position.toNat length

theorem nearestIn_le (length : Nat) (position : Int) : nearestIn length position ≤ length := by
  unfold nearestIn
  omega

theorem nearestIn_natCast {length n : Nat} (h : n ≤ length) : nearestIn length n = n := by
  unfold nearestIn
  omega

/-- The empty source span at a position, with the position's line and column. -/
def SourceSpan.point (source : List Char) (position : Nat) : SourceSpan where
  start := position
  stop := position
  start_le_stop := Nat.le_refl _
  line := (lineColumn source position).line
  column := (lineColumn source position).column.toNat
  one_le_line := lineColumn_line_pos source position
  one_le_column := by
    have := lineColumn_column_pos source position
    omega

/-- The diagnostic that tells a reader of `source` about a failure in it. -/
def Failure.diagnose (failure : Failure) (source : List Char) : Diagnostic where
  code := failure.code
  message := failure.message
  span := some (SourceSpan.point source (nearestIn source.length failure.position))
  hint := failure.code.hint?
  expected := failure.expected

/-- Why a reading has no answer. -/
inductive Abort where
  /-- A character was asked for where the input has ended. -/
  | endOfInput (position : Int)
  /-- A character was asked for further before the start than the source is long. -/
  | outOfRange
  /-- The digits of an escape run through the start of the source and are no part of it. -/
  | noDigits
  | badSpan (fault : SpanFault)
  deriving DecidableEq, Repr

def Abort.message : Abort → String
  | .endOfInput position => (Diagnostic.unexpectedEnd position).message
  | .outOfRange => "string index out of range"
  | .noDigits => "invalid literal for int() with base 16: ''"
  | .badSpan fault => fault.message

end LiteralLexer
