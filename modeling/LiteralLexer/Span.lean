import LiteralLexer.Text.Decimal

/-!
Spans of a source. A span runs from its start up to its stop and never backwards; a source span
also names the line and column of its start, both counted from one. Bounds that come from outside
are checked in a fixed order, and the first one that is wrong is the fault.
-/
namespace LiteralLexer

structure Span where
  start : Nat
  stop : Nat
  start_le_stop : start ≤ stop
  deriving DecidableEq, Repr

/-- Why two bounds are no span. -/
inductive SpanFault where
  | negativeStart (start : Int)
  | stopBeforeStart (start stop : Int)
  deriving DecidableEq, Repr

def SpanFault.message : SpanFault → String
  | .negativeStart start => "Span start must be >= 0, got " ++ decimalText start
  | .stopBeforeStart start stop =>
    "Span end (" ++ decimalText stop ++ ") must be >= start (" ++ decimalText start ++ ")"

/-- The span between two bounds. -/
def Span.ofBounds (start stop : Int) : Except SpanFault Span :=
  if h : start < 0 then .error (.negativeStart start)
  else if h' : stop < start then .error (.stopBeforeStart start stop)
  else .ok ⟨start.toNat, stop.toNat, by omega⟩

structure SourceSpan extends Span where
  line : Nat
  column : Nat
  one_le_line : 1 ≤ line
  one_le_column : 1 ≤ column
  deriving DecidableEq, Repr

/-- Why four numbers are no source span. -/
inductive SourceSpanFault where
  | span (fault : SpanFault)
  | lineBelowOne (line : Int)
  | columnBelowOne (column : Int)
  deriving DecidableEq, Repr

def SourceSpanFault.message : SourceSpanFault → String
  | .span (.negativeStart start) => "SourceSpan.start must be >= 0, got " ++ decimalText start
  | .span (.stopBeforeStart start stop) =>
    "SourceSpan.end (" ++ decimalText stop ++ ") must be >= start (" ++ decimalText start ++ ")"
  | .lineBelowOne line =>
    "SourceSpan.line must be >= 1 (1-indexed), got " ++ decimalText line
  | .columnBelowOne column =>
    "SourceSpan.column must be >= 1 (1-indexed), got " ++ decimalText column

/-- The source span with the given bounds, line and column. -/
def SourceSpan.ofNumbers (start stop line column : Int) : Except SourceSpanFault SourceSpan :=
  match Span.ofBounds start stop with
  | .error fault => .error (.span fault)
  | .ok span =>
    if hl : line < 1 then .error (.lineBelowOne line)
    else if hc : column < 1 then .error (.columnBelowOne column)
    else .ok ⟨span, line.toNat, column.toNat, by omega, by omega⟩

end LiteralLexer
