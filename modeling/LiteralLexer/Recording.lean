import LiteralLexer.Literal.Parser
import LiteralLexer.Token

/-!
Parsers as their callers meet them. A parser that fails gives its caller nothing; why it failed it
leaves in a slot that all parsers share. Each parser empties the slot before it reads, so whatever
is found there afterwards was put there by the last call. Parsers that are made of others run these
one after the other against the same slot, and some of them go by what they find in it.
-/
namespace LiteralLexer

/-- A run against the slot of the last failure. An abort ends the run, and the slot stays as it is.
-/
abbrev Recording := ExceptT Abort (StateM (Option Failure))

namespace Recording

/-- What a run gives that finds `slot` in the slot, with what it leaves there. -/
def runFrom (slot : Option Failure) (r : Recording α) : Except Abort α × Option Failure :=
  (ExceptT.run r).run slot

def forget : Recording Unit := set (none : Option Failure)

def record (failure : Failure) : Recording Unit := set (some failure)

def lastFailure : Recording (Option Failure) := get

/-- Hands an outcome to the caller: the value and the cursor behind it, or nothing. -/
def hand (outcome : Outcome α) : Recording (Option (α × Cursor)) :=
  match outcome with
  | .done value after => return some (value, after)
  | .failed failure => do
    record failure
    return none
  | .aborted abort => throw abort

/-- Changes the value that is given, if one is. -/
def mapValue (f : α → β) (r : Recording (Option (α × Cursor))) :
    Recording (Option (β × Cursor)) := do
  return (← r).map fun (value, after) => (f value, after)

/-- Hands an outcome to the caller, with the slot emptied before. -/
def handFresh (outcome : Outcome α) : Recording (Option (α × Cursor)) := do
  forget
  hand outcome

def decodeText (c : Cursor) : Recording (Option (List Char × Cursor)) :=
  handFresh (LiteralLexer.decodeText c)

def decodeByteText (c : Cursor) : Recording (Option (List UInt8 × Cursor)) :=
  handFresh (LiteralLexer.decodeByteText c)

def decodeChar (c : Cursor) (allowEnd : Bool) : Recording (Option (Char × Cursor)) :=
  handFresh (LiteralLexer.decodeChar c allowEnd)

def decodeByte (c : Cursor) (allowEnd : Bool) : Recording (Option (UInt8 × Cursor)) :=
  handFresh (LiteralLexer.decodeByte c allowEnd)

def decodeRawText (c : Cursor) : Recording (Option (RawText × Cursor)) :=
  handFresh (LiteralLexer.decodeRawText c)

def blockComment (c : Cursor) : Recording (Option (List Char × Cursor)) :=
  handFresh (LiteralLexer.blockComment c)

def wordBreak (c : Cursor) : Recording (Option (Unit × Cursor)) :=
  handFresh (LiteralLexer.wordBreak c)

def skipTrivia (c : Cursor) : Recording (Option (Unit × Cursor)) :=
  handFresh (LiteralLexer.skipTrivia c)

/-- Skips trivia, if there is any. Only a comment that never closes is a failure, and stays
recorded. -/
def optionalTrivia (c : Cursor) : Recording (Option (Unit × Cursor)) := do
  match ← skipTrivia c with
  | some skipped => return some skipped
  | none =>
    match ← lastFailure with
    | some failure =>
      if failure.code = .unterminatedBlockComment then return none
      else
        forget
        return some ((), c)
    | none =>
      forget
      return some ((), c)

/-- The cursor past all trivia, or where it was if skipping the trivia fails. -/
def skipBlank (c : Cursor) : Recording Cursor := do
  match ← skipTrivia c with
  | some ((), after) => return after
  | none => return c

/-- Matches a token after trivia. -/
def punct (c : Cursor) (token : List Char) : Recording (Option (List Char × Cursor)) := do
  match ← optionalTrivia c with
  | none => return none
  | some ((), start) => hand (tokenAt token start)

/-- Matches a token after trivia that is not the start of a longer word. -/
def keyword (c : Cursor) (token : List Char) : Recording (Option (List Char × Cursor)) := do
  match ← punct c token with
  | none => return none
  | some (token, after) =>
    match ← wordBreak after with
    | none => return none
    | some _ => return some (token, after)

/-- Reads the literal at the cursor itself. -/
def literalAt (c : Cursor) : Recording (Option (Literal × Cursor)) :=
  match LiteralKind.at? c with
  | none => hand (.failed (Cause.noLiteral.at c.pos))
  | some kind => do
    match ← handFresh (kind.decode (c.advance kind.openingLength)) with
    | none => return none
    | some (value, after) => hand (spanned c value after)

/-- Reads a literal after trivia, with what there is to tell of it. -/
def traceLiteral (c : Cursor) : Recording (Option (Literal × Cursor) × List Event) := do
  match ← optionalTrivia c with
  | none => return (none, [.openCommentBefore c.pos])
  | some ((), start) =>
    match ← literalAt start with
    | some (literal, after) =>
      return (some (literal, after), [.parsed literal.kind start.pos after.pos])
    | none =>
      let failure? ← lastFailure
      return (none, [.noLiteral start.pos (failure?.elim "unknown failure" Failure.message)])

/-- Reads a literal after trivia. -/
def parseLiteral (c : Cursor) : Recording (Option (Literal × Cursor)) := do
  return (← traceLiteral c).1

end Recording
end LiteralLexer
