import LiteralLexer.Diagnostic.Code
import LiteralLexer.Span

/-!
A diagnostic is what a reader of a source is told: a code, a message, and as far as they are known
the place, advice, and the tokens that could have stood there.
-/
namespace LiteralLexer

structure Diagnostic where
  code : Code
  message : String
  span : Option SourceSpan := none
  hint : Option String := none
  expected : List String := []
  severity : String := "error"
  deriving DecidableEq, Repr

/-- The diagnostic for reading a character where the input has ended. -/
def Diagnostic.unexpectedEnd (pos : Int) : Diagnostic where
  code := .unexpectedEnd
  message := "Unexpected EOF at position " ++ decimalText pos
  hint := some "Check for unclosed literals or incomplete syntax"

end LiteralLexer
