/-!
Hexadecimal digits, read and written. Reading takes both cases; writing uses lower case and pads
with zeros to a fixed width.
-/
namespace LiteralLexer

/-- The hexadecimal digits, those of lower case before those of upper case. -/
def hexDigits : List Char :=
  ['0', '1', '2', '3', '4', '5', '6', '7', '8', '9', 'a', 'b', 'c', 'd', 'e', 'f',
   'A', 'B', 'C', 'D', 'E', 'F']

def isHexDigit (c : Char) : Bool := hexDigits.contains c

/-- The value of one digit. It means nothing for other characters. -/
def hexDigitValue (c : Char) : Nat :=
  if c.isDigit then c.toNat - '0'.toNat
  else if 'a' ≤ c then c.toNat - 'a'.toNat + 10
  else c.toNat - 'A'.toNat + 10

theorem hexDigitValue_lt {c : Char} (h : isHexDigit c = true) : hexDigitValue c < 16 := by
  have hall : (hexDigits.all fun d => decide (hexDigitValue d < 16)) = true := by decide
  have hc : c ∈ hexDigits := by simpa [isHexDigit] using h
  simpa using List.all_eq_true.mp hall c hc

/-- The number that a run of digits writes, most significant digit first. -/
def hexValue (digits : List Char) : Nat :=
  digits.foldl (fun n d => 16 * n + hexDigitValue d) 0

/-- `n` in lower-case digits, with zeros in front up to `width`. -/
def hexText (width n : Nat) : List Char :=
  let digits := Nat.toDigits 16 n
  List.replicate (width - digits.length) '0' ++ digits

end LiteralLexer
