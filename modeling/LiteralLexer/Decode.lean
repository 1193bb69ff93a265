import LiteralLexer.Diagnostic.Render
import LiteralLexer.Recording

/-!
Decoding a source that holds one literal and nothing else but trivia. Whatever is wrong with the
source becomes one diagnostic with a line and a column.
-/
namespace LiteralLexer

/-- The length of the longest source that is decoded. -/
def maxSourceSize : Nat := 10 * 1024 * 1024

/-- Why a source is not decoded. -/
inductive DecodeError where
  | tooLong (length : Nat)
  | malformed (diagnostic : Diagnostic)
  | aborted (abort : Abort)
  deriving DecidableEq, Repr

def DecodeError.message : DecodeError → String
  | tooLong length =>
    "Source exceeds maximum size (" ++ decimalText length ++ " > " ++
      decimalText maxSourceSize ++ " characters)"
  | malformed diagnostic => diagnostic.render
  | aborted abort => abort.message

/-- The error that tells a reader of `source` about a failure in it. -/
def DecodeError.ofFailure (source : List Char) (failure : Failure) : DecodeError :=
  .malformed (failure.diagnose source)

/-- What is told of a source where no failure was recorded, before the literal or after one that
ends at a position. -/
structure Fallback where
  before : Failure
  after : Int → Failure

def Fallback.standard : Fallback where
  before := ⟨.unknownLiteral, "Expected a literal", 0, []⟩
  after position := ⟨.unterminatedBlockComment, "Unterminated block comment", position, []⟩

/-- Decodes a source against the slot of the last failure, with what there is to tell of it. -/
def recordDecode (fallback : Fallback) (source : List Char) :
    StateM (Option Failure) (Except DecodeError Literal × List Event) := do
  if maxSourceSize < source.length then return (.error (.tooLong source.length), [])
  match ← (Recording.traceLiteral ⟨source, 0⟩).run with
  | .error abort => return (.error (.aborted abort), [])
  | .ok (none, events) =>
    let failure := (← get).getD fallback.before
    return (.error (.ofFailure source failure),
      events ++ [.decodeFailed failure.position failure.message])
  | .ok (some (literal, after), events) =>
    match ← (Recording.optionalTrivia after).run with
    | .error abort => return (.error (.aborted abort), events)
    | .ok none =>
      let failure := (← get).getD (fallback.after after.pos)
      return (.error (.ofFailure source failure), events ++ [.openCommentAfter failure.position])
    | .ok (some ((), last)) =>
      match last.current with
      | .ok found =>
        return (.error (.ofFailure source ((Cause.trailing found).at last.pos)),
          events ++ [.trailingInput last.pos])
      | .error _ => return (.ok literal, events)

/-- Decodes a source where `slot` holds the last failure. -/
def decodeAfter (slot : Option Failure) (source : List Char) : Except DecodeError Literal :=
  ((recordDecode .standard source).run slot).1.1

/-- Decodes a source, with what there is to tell of it. -/
def traceDecode (source : List Char) : Except DecodeError Literal × List Event :=
  ((recordDecode .standard source).run none).1

end LiteralLexer
