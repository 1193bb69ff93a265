import LiteralLexer.Diagnostic.Basic
import LiteralLexer.Diagnostic.Record
import LiteralLexer.Text.Quoted
import LiteralLexer.Text.Slice

/-!
Diagnostics as text, in three layouts. The detailed layout has a line each for the message, the
place, the expected tokens and the advice, as far as there are any; the second layout is the message
alone; the third is a JSON object. A renderer may clip texts to a limit, and may colour the severity
in the detailed layout. Control characters in a message are shown as escapes.
-/
namespace LiteralLexer

inductive Layout where
  | detailed | oneLine | json
  deriving DecidableEq, Repr

namespace Layout

def all : List Layout := [detailed, oneLine, json]

def name : Layout → String
  | detailed => "rust"
  | oneLine => "simple"
  | json => "json"

/-- A name that is no layout's. -/
structure Unknown where
  name : String
  deriving DecidableEq, Repr

def Unknown.message (u : Unknown) : String :=
  String.ofList (quoted u.name.toList) ++ " is not a valid OutputFormat"

def ofName (name : String) : Except Unknown Layout :=
  match all.find? fun layout => layout.name = name with
  | some layout => .ok layout
  | none => .error ⟨name⟩

end Layout

/-- How diagnostics are rendered. -/
structure Renderer where
  layout : Layout := .detailed
  clips : Bool := false
  colours : Bool := false
  /-- The length beyond which a text is clipped; below zero it counts from the end of the text. -/
  limit : Int := 100
  deriving DecidableEq, Repr

/-- A character as it is shown: controls by a letter or by their code. -/
def shownChar (c : Char) : List Char :=
  if c = '\t' then ['\\', 't']
  else if c = '\n' then ['\\', 'n']
  else if c = '\r' then ['\\', 'r']
  else if c.toNat < 0x20 ∨ c.toNat = 0x7F then '\\' :: 'x' :: hexText 2 c.toNat
  else [c]

def shown (text : List Char) : List Char := text.flatMap shownChar

namespace Renderer

/-- The text up to the limit, with three dots if something is left out. -/
def clip (r : Renderer) (text : String) : List Char :=
  if r.clips ∧ r.limit < text.toList.length then
    slice text.toList 0 r.limit ++ ['.', '.', '.']
  else text.toList

/-- The severity in front of the detailed layout; all that is no warning is an error. -/
def severity (r : Renderer) (d : Diagnostic) : String :=
  if d.severity = "warning" then
    if r.colours then "\x1b[1;33mwarning\x1b[0m" else "warning"
  else
    if r.colours then "\x1b[1;31merror\x1b[0m" else "error"

/-- The line on the message, which every diagnostic has. -/
def messageLine (r : Renderer) (d : Diagnostic) : List Char :=
  (r.severity d).toList ++ '[' :: d.code.name.toList ++ [']', ':', ' '] ++
    shown (r.clip d.message)

def placeLine (span : SourceSpan) : List Char :=
  "  --> line ".toList ++ decimal span.line ++ ", column ".toList ++ decimal span.column

def expectedLine (expected : List String) : List Char :=
  "  = expected: ".toList ++
    shown ([',', ' '].intercalate (expected.map fun token => '\'' :: token.toList ++ ['\'']))

def hintLine (r : Renderer) (hint : String) : List Char := "  = help: ".toList ++ r.clip hint

/-- The lines of the detailed layout. -/
def detailedLines (r : Renderer) (d : Diagnostic) : List (List Char) :=
  r.messageLine d ::
    (d.span.map placeLine).toList ++
    (if d.expected = [] then [] else [expectedLine d.expected]) ++
    ((d.hint.filter (· ≠ "")).map r.hintLine).toList

def oneLine (r : Renderer) (d : Diagnostic) : List Char :=
  d.code.name.toList ++ [':', ' '] ++ shown (r.clip d.message)

/-- The members of the JSON object for a diagnostic. -/
def record (r : Renderer) (d : Diagnostic) : Record :=
  [("code", .text d.code.name), ("code_value", .number d.code.number),
    ("message", .text (String.ofList (r.clip d.message))), ("severity", .text d.severity)] ++
  (match d.span with
    | none => []
    | some span =>
      [("line", .number span.line), ("column", .number span.column),
        ("start", .number span.start), ("end", .number span.stop)]) ++
  (if d.expected = [] then [] else [("expected", .texts d.expected)]) ++
  ((d.hint.filter (· ≠ "")).map fun hint =>
    ("hint", Field.text (String.ofList (r.clip hint)))).toList

/-- The characters of a rendered diagnostic. -/
def write (r : Renderer) (d : Diagnostic) : List Char :=
  match r.layout with
  | .detailed => ['\n'].intercalate (r.detailedLines d)
  | .oneLine => r.oneLine d
  | .json => (r.record d).write

def render (r : Renderer) (d : Diagnostic) : String := String.ofList (r.write d)

/-- Several diagnostics, a blank line between any two. -/
def renderAll (r : Renderer) (ds : List Diagnostic) : String :=
  String.ofList (['\n', '\n'].intercalate (ds.map r.write))

end Renderer

/-- The text of a diagnostic where nothing else is asked for. -/
def Diagnostic.render (d : Diagnostic) : String := Renderer.render {} d

end LiteralLexer
