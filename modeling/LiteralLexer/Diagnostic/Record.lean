import LiteralLexer.Text.Decimal
import LiteralLexer.Text.JsonText

/-!
JSON objects of the flat kind that a diagnostic needs: each member is a text, an integer or a list
of texts, and members are written in the order in which they are listed, with a blank after each
comma and colon.
-/
namespace LiteralLexer

inductive Field where
  | text (value : String)
  | number (value : Int)
  | texts (values : List String)
  deriving DecidableEq, Repr

def Field.write : Field → List Char
  | .text value => jsonText value.toList
  | .number value => decimal value
  | .texts values =>
    '[' :: [',', ' '].intercalate (values.map fun value => jsonText value.toList) ++ [']']

abbrev Record := List (String × Field)

/-- The object with the members of the record. -/
def Record.write (record : Record) : List Char :=
  let member (m : String × Field) := jsonText m.1.toList ++ [':', ' '] ++ m.2.write
  '{' :: [',', ' '].intercalate (record.map member) ++ ['}']

end LiteralLexer
