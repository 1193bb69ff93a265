/-!
Parts of a text between two bounds. A bound below zero counts from the end of the text; after that
one correction both bounds are held within the text, and a part whose bounds are out of order is
empty.
-/
namespace LiteralLexer

/-- The place in a text of `length` characters that the bound `i` stands for. -/
def boundIn (length : Nat) (i : Int) : Nat :=
  if i < 0 then (length + i).toNat else min i.toNat length

theorem boundIn_le (length : Nat) (i : Int) : boundIn length i ≤ length := by
  unfold boundIn
  split <;> omega

@[simp] theorem boundIn_natCast (length n : Nat) : boundIn length n = min n length := by
  unfold boundIn
  rw [if_neg (by omega), Int.toNat_natCast]

/-- The characters of `text` from the bound `start` up to the bound `stop`. -/
def slice (text : List Char) (start stop : Int) : List Char :=
  (text.take (boundIn text.length stop)).drop (boundIn text.length start)

/-- The characters of `text` from the bound `start` on. -/
def sliceFrom (text : List Char) (start : Int) : List Char :=
  text.drop (boundIn text.length start)

/-- One character, counted from the end if `i` is negative; nothing outside of the text. -/
def charAt? (text : List Char) (i : Int) : Option Char :=
  if i < 0 then
    if (text.length : Int) + i < 0 then none else text[(text.length + i).toNat]?
  else text[i.toNat]?

@[simp] theorem charAt?_natCast (text : List Char) (n : Nat) : charAt? text n = text[n]? := by
  unfold charAt?
  rw [if_neg (by omega), Int.toNat_natCast]

end LiteralLexer
