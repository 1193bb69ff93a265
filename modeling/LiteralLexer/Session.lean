import LiteralLexer.Recording

/-!
Sessions. A session runs operations on one source, one after the other: questions to the current
cursor, moves of it, and calls of parsers. A parser that is done moves the cursor. A session also
keeps the slot of the last failure, against which its calls run.
-/
namespace LiteralLexer

/-- A call of a parser that can fail. -/
inductive Call where
  | text | byteText
  | char (allowEnd : Bool)
  | byte (allowEnd : Bool)
  | rawText
  | blockComment
  | skipTrivia | optionalTrivia | wordBreak
  | punct (token : List Char)
  | keyword (token : List Char)
  | literal
  deriving DecidableEq, Repr

/-- What an operation answers. -/
inductive Answer where
  | nothing
  | bool (value : Bool)
  | number (value : Nat)
  | text (value : List Char)
  | byteText (value : List UInt8)
  | byte (value : UInt8)
  | rawText (value : RawText)
  | literal (value : Literal)
  | lineColumn (value : LineColumn)
  | commentKind (value : CommentKind)
  deriving DecidableEq, Repr

/-- Calls the parser at a cursor. -/
def Call.run (call : Call) (c : Cursor) : Outcome Answer :=
  match call with
  | text => (decodeText c).map .text
  | byteText => (decodeByteText c).map .byteText
  | char allowEnd => (decodeChar c allowEnd).map fun value => .text [value]
  | byte allowEnd => (decodeByte c allowEnd).map .byte
  | rawText => (decodeRawText c).map .rawText
  | blockComment => (LiteralLexer.blockComment c).map .text
  | skipTrivia => (LiteralLexer.skipTrivia c).map fun _ => .nothing
  | optionalTrivia => (LiteralLexer.optionalTrivia c).map fun _ => .nothing
  | wordBreak => (LiteralLexer.wordBreak c).map fun _ => .nothing
  | punct token => (LiteralLexer.punct c token).map .text
  | keyword token => (LiteralLexer.keyword c token).map .text
  | literal => (parseLiteral c).map .literal

/-- Calls the parser at a cursor, as its caller meets it. -/
def Call.record (call : Call) (c : Cursor) : Recording (Option (Answer × Cursor)) :=
  match call with
  | text => (Recording.decodeText c).mapValue .text
  | byteText => (Recording.decodeByteText c).mapValue .byteText
  | char allowEnd => (Recording.decodeChar c allowEnd).mapValue fun value => .text [value]
  | byte allowEnd => (Recording.decodeByte c allowEnd).mapValue .byte
  | rawText => (Recording.decodeRawText c).mapValue .rawText
  | blockComment => (Recording.blockComment c).mapValue .text
  | skipTrivia => (Recording.skipTrivia c).mapValue fun _ => .nothing
  | optionalTrivia => (Recording.optionalTrivia c).mapValue fun _ => .nothing
  | wordBreak => (Recording.wordBreak c).mapValue fun _ => .nothing
  | punct token => (Recording.punct c token).mapValue .text
  | keyword token => (Recording.keyword c token).mapValue .text
  | literal => (Recording.parseLiteral c).mapValue .literal

/-- A question to a cursor. -/
inductive Query where
  | isEnd | current | rest | remaining
  | peek (offset : Int)
  | startsWith (pattern : List Char)
  | next (count : Int)
  | sliceTo (stop : Int)
  | lineColumn | commentKind
  deriving DecidableEq, Repr

def Query.answer (query : Query) (c : Cursor) : Except Abort Answer :=
  match query with
  | isEnd => .ok (.bool c.isEnd)
  | current => c.current.map fun char => .text [char]
  | rest => .ok (.text c.rest)
  | remaining => .ok (.number c.remaining)
  | peek offset =>
    (c.peek offset).map fun
      | some char => .text [char]
      | none => .nothing
  | startsWith pattern => .ok (.bool (c.startsWith pattern))
  | next count => .ok (.text (c.next count))
  | sliceTo stop => .ok (.text (c.sliceTo stop))
  | lineColumn => .ok (.lineColumn c.lineColumn)
  | commentKind =>
    match c.commentKind? with
    | some kind => .ok (.commentKind kind)
    | none => .ok .nothing

inductive Operation where
  | ask (query : Query)
  | advance (count : Int)
  | finish
  | seek (pos : Int)
  | expect (text : List Char)
  | skipBlank
  | forget
  | call (call : Call)
  deriving DecidableEq, Repr

/-- How an operation went. -/
inductive Reply where
  | answered (answer : Answer)
  | refused
  | aborted (abort : Abort)
  deriving DecidableEq, Repr

structure Session where
  cursor : Cursor
  lastFailure : Option Failure := none
  deriving DecidableEq, Repr

namespace Session

/-- Calls a parser at the current cursor. -/
def call (s : Session) (call : Call) : Reply × Session :=
  match (call.record s.cursor).runFrom s.lastFailure with
  | (.ok (some (answer, after)), slot) => (.answered answer, ⟨after, slot⟩)
  | (.ok none, slot) => (.refused, ⟨s.cursor, slot⟩)
  | (.error abort, slot) => (.aborted abort, ⟨s.cursor, slot⟩)

def step (s : Session) : Operation → Reply × Session
  | .ask query =>
    match query.answer s.cursor with
    | .ok answer => (.answered answer, s)
    | .error abort => (.aborted abort, s)
  | .advance count => (.answered .nothing, { s with cursor := s.cursor.advance count })
  | .finish => (.answered .nothing, { s with cursor := s.cursor.finish })
  | .seek pos => (.answered .nothing, { s with cursor := ⟨s.cursor.source, pos⟩ })
  | .expect text =>
    match s.cursor.expect text with
    | .ok (some after) => (.answered .nothing, { s with cursor := after })
    | .ok none => (.refused, s)
    | .error abort => (.aborted abort, s)
  | .skipBlank =>
    match (Recording.skipBlank s.cursor).runFrom s.lastFailure with
    | (.ok after, slot) => (.answered .nothing, ⟨after, slot⟩)
    | (.error abort, slot) => (.aborted abort, ⟨s.cursor, slot⟩)
  | .forget => (.answered .nothing, { s with lastFailure := none })
  | .call call => s.call call

/-- What a step of the session has to tell. -/
def events (s : Session) : Operation → List Event
  | .call .literal =>
    match ((Recording.traceLiteral s.cursor).runFrom s.lastFailure).1 with
    | .ok (_, events) => events
    | .error _ => []
  | _ => []

end Session
end LiteralLexer
