import LiteralLexer.Cursor

/-!
Readings and outcomes. A reading starts from what lies ahead and gives a value with what then lies
ahead, or stops. Readings know nothing of positions; placed at a cursor, a reading becomes an
outcome, in which the cursor has moved on or the failure has its position. So a reading depends on
no text in front of it.
-/
namespace LiteralLexer

/-- Why a reading stops: a fault with what was ahead of it, or an abort. -/
inductive Stop where
  | fault (cause : Cause) (rest : List Char)
  | abort (abort : Abort)
  deriving DecidableEq, Repr

abbrev Reading (α : Type) := Except Stop (α × Ahead)

/-- What comes of a parser at a cursor. -/
inductive Outcome (α : Type) where
  | done (value : α) (cursor : Cursor)
  | failed (failure : Failure)
  | aborted (abort : Abort)
  deriving DecidableEq, Repr

namespace Outcome

/-- Goes on with the value and cursor of a parser that is done. -/
def bind (outcome : Outcome α) (next : α → Cursor → Outcome β) : Outcome β :=
  match outcome with
  | done value cursor => next value cursor
  | failed failure => failed failure
  | aborted abort => aborted abort

@[simp] theorem bind_done (value : α) (cursor : Cursor) (next : α → Cursor → Outcome β) :
    (done value cursor).bind next = next value cursor := rfl

@[simp] theorem bind_failed (failure : Failure) (next : α → Cursor → Outcome β) :
    (failed failure).bind next = failed failure := rfl

@[simp] theorem bind_aborted (abort : Abort) (next : α → Cursor → Outcome β) :
    (aborted abort).bind next = aborted abort := rfl

def map (f : α → β) (outcome : Outcome α) : Outcome β :=
  outcome.bind fun value cursor => done (f value) cursor

end Outcome

namespace Cursor

/-- A reading that started at the cursor, with the positions put in. -/
def locate (c : Cursor) (reading : Reading α) : Outcome α :=
  match reading with
  | .ok (value, rest) => .done value { c with pos := c.place rest.chars }
  | .error (.fault cause rest) => .failed (cause.at (c.place rest))
  | .error (.abort abort) => .aborted abort

/-- A parser that starts by reading a single character. -/
def read (c : Cursor) (reader : Ahead → Reading α) : Outcome α :=
  if c.outOfRange then .aborted .outOfRange else c.locate (reader c.ahead)

end Cursor
end LiteralLexer
