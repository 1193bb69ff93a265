import LiteralLexer.Reading

/-!
Comments. A line comment runs up to the end of its line, and a block comment up to the mark that
closes it; block comments nest. A third character tells documentation from plain comments: an
exclamation mark makes an inner one, the doubled character an outer one, unless it is tripled.
-/
namespace LiteralLexer

inductive CommentKind where
  | line | block | outerDoc | innerDoc
  deriving DecidableEq, Repr

namespace CommentKind

def all : List CommentKind := [line, block, outerDoc, innerDoc]

def name : CommentKind → String
  | line => "line"
  | block => "block"
  | outerDoc => "outer_doc"
  | innerDoc => "inner_doc"

/-- The kind of the comment that starts here with `/` and `mark`. -/
def ofMark (ahead : Ahead) (mark : Char) (plain : CommentKind) : CommentKind :=
  if ahead.startsWith ['/', mark, '!'] then innerDoc
  else if ahead.startsWith ['/', mark, mark] && !ahead.startsWith ['/', mark, mark, mark] then
    outerDoc
  else plain

/-- The kind of the comment that starts here, if one does. -/
def of? (ahead : Ahead) : Option CommentKind :=
  if ahead.startsWith ['/', '/'] then some (ofMark ahead '/' line)
  else if ahead.startsWith ['/', '*'] then some (ofMark ahead '*' block)
  else none

end CommentKind

namespace BlockComment

/-- Reads up to the mark that closes the outermost of `depth` open block comments. Marks are taken
from left to right and do not overlap. -/
def scan (depth : Int) : List Char → Nat → Reading Unit
  | a :: b :: rest, seam =>
    let pair := Ahead.window ⟨a :: b :: rest, seam⟩ 2
    if pair = ['/', '*'] then scan (depth + 1) rest (seam - 2)
    else if pair = ['*', '/'] then
      if depth = 1 then .ok ((), ⟨rest, seam - 2⟩) else scan (depth - 1) rest (seam - 2)
    else scan depth (b :: rest) (seam - 1)
  | rest, _ => .error (.fault (.unterminatedComment depth) rest)

/-- Reads the block comment that starts here. One that never closes is a fault of its start. -/
def read (ahead : Ahead) : Reading Unit :=
  match scan 0 ahead.chars ahead.seam with
  | .error (.fault cause _) => .error (.fault cause ahead.chars)
  | reading => reading

theorem scan_length_lt {depth : Int} {chars : List Char} {seam : Nat} {rest : Ahead}
    (h : scan depth chars seam = .ok ((), rest)) : rest.chars.length < chars.length := by
  fun_induction scan depth chars seam with
  | case1 depth a b tail seam pair hopen ih =>
    have := ih h
    simp only [List.length_cons]
    omega
  | case2 a b tail seam pair hopen hclose =>
    cases h
    simp only [List.length_cons]
    omega
  | case3 depth a b tail seam pair hopen hclose hdepth ih =>
    have := ih h
    simp only [List.length_cons]
    omega
  | case4 depth a b tail seam pair hopen hclose ih =>
    have := ih h
    simp only [List.length_cons] at this ⊢
    omega
  | case5 => cases h

theorem read_length_lt {ahead rest : Ahead} (h : read ahead = .ok ((), rest)) :
    rest.chars.length < ahead.chars.length := by
  unfold read at h
  split at h
  · cases h
  · exact scan_length_lt h

end BlockComment

/-- The block comment at the cursor, of whichever kind. -/
def blockComment (c : Cursor) : Outcome (List Char) :=
  if c.startsWith ['/', '*'] then
    (c.locate (BlockComment.read c.ahead)).bind fun _ after => .done (c.sliceTo after.pos) after
  else .failed (Cause.noComment.at c.pos)

/-- The kind of the comment at the cursor, if one starts there. -/
def Cursor.commentKind? (c : Cursor) : Option CommentKind := CommentKind.of? c.ahead

end LiteralLexer
