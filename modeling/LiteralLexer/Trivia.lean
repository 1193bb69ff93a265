import LiteralLexer.Comment
import LiteralLexer.Text.Blank

/-!
Trivia: what may stand in front of a token, that is blanks and comments that are no documentation.
Trivia is read as far as it goes. A block comment that never closes is the one thing in it that
fails.
-/
namespace LiteralLexer

/-- Reads all trivia that starts here, which may be none. -/
def readTrivia (ahead : Ahead) : Reading Unit :=
  match _ : ahead.chars with
  | [] => .ok ((), ahead)
  | c :: _ =>
    match CommentKind.of? ahead with
    | some .line => readTrivia ahead.nextLine
    | some .block =>
      match _ : BlockComment.read ahead with
      | .error stop => .error stop
      | .ok ((), rest) => readTrivia rest
    | _ => if isBlank c then readTrivia (ahead.drop 1) else .ok ((), ahead)
  termination_by ahead.chars.length
  decreasing_by
    · exact Ahead.nextLine_length_lt (by simp_all)
    · exact BlockComment.read_length_lt ‹_›
    · simp_all

/-- Skips trivia, if there is any. A cursor out of range can only stand in front of a comment. -/
def optionalTrivia (c : Cursor) : Outcome Unit :=
  if c.outOfRange ∧ c.commentKind? ≠ some .line ∧ c.commentKind? ≠ some .block then
    .aborted .outOfRange
  else c.locate (readTrivia c.ahead)

/-- Skips trivia; that there is none is a failure. -/
def skipTrivia (c : Cursor) : Outcome Unit :=
  (optionalTrivia c).bind fun _ after =>
    if after.pos = c.pos then .failed (Cause.noTrivia.at c.pos) else .done () after

/-- The cursor past all trivia, or where it was if skipping the trivia fails. -/
def skipBlank (c : Cursor) : Except Abort Cursor :=
  match skipTrivia c with
  | .done () after => .ok after
  | .failed _ => .ok c
  | .aborted abort => .error abort

end LiteralLexer
