/-!
Integers in decimal digits, a minus sign in front of the negative ones.
-/
namespace LiteralLexer

def decimal (n : Int) : List Char :=
  if n < 0 then '-' :: Nat.toDigits 10 n.natAbs else Nat.toDigits 10 n.natAbs

/-- `decimal` for use in a message. -/
def decimalText (n : Int) : String := String.ofList (decimal n)

theorem decimalText_eq_toString (n : Int) : decimalText n = toString n := by
  cases n with
  | ofNat m =>
    have hnonneg : ¬Int.ofNat m < 0 := Int.not_lt.mpr (Int.natCast_nonneg m)
    rw [decimalText, decimal, if_neg hnonneg]
    exact Nat.repr_eq_ofList_toDigits.symm
  | negSucc m =>
    rw [decimalText, decimal, if_pos (Int.negSucc_lt_zero m)]
    change String.ofList ('-' :: Nat.toDigits 10 (m + 1)) = "-" ++ (m + 1).repr
    rw [Nat.repr_eq_ofList_toDigits, ← String.toList_inj]
    simp

end LiteralLexer
