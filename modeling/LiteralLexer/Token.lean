import LiteralLexer.Text.WordChar
import LiteralLexer.Trivia

/-!
Tokens with a fixed spelling. Both kinds may have trivia in front of them. A keyword also has to end
where it ends: no character that goes on a word may follow it.
-/
namespace LiteralLexer

/-- Requires that no word goes on at the cursor. -/
def wordBreak (c : Cursor) : Outcome Unit :=
  c.read fun ahead =>
    match ahead.chars with
    | [] => .ok ((), ahead)
    | found :: _ =>
      if isWordChar found then .error (.fault (.wordGoesOn found) ahead.chars)
      else .ok ((), ahead)

/-- Matches a token at the cursor itself. -/
def tokenAt (token : List Char) (c : Cursor) : Outcome (List Char) :=
  if c.startsWith token then .done token (c.advance token.length)
  else .failed ((Cause.missingToken token).at c.pos)

/-- Matches a token after trivia. -/
def punct (c : Cursor) (token : List Char) : Outcome (List Char) :=
  (optionalTrivia c).bind fun _ start => tokenAt token start

/-- Matches a token after trivia that is not the start of a longer word. -/
def keyword (c : Cursor) (token : List Char) : Outcome (List Char) :=
  (punct c token).bind fun token after => (wordBreak after).map fun _ => token

end LiteralLexer
