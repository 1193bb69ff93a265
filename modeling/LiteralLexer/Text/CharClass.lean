/-!
Classes of characters, given as inclusive ranges of code points. The tables of Unicode properties
are values of this type.
-/
namespace LiteralLexer

/-- A set of characters as a list of inclusive ranges of code points. -/
structure CharClass where
  ranges : List (Nat × Nat)

/-- Whether some range of the class holds `c`. -/
def CharClass.contains (k : CharClass) (c : Char) : Bool :=
  k.ranges.any fun r => decide (r.1 ≤ c.toNat ∧ c.toNat ≤ r.2)

theorem CharClass.contains_iff (k : CharClass) (c : Char) :
    k.contains c = true ↔ ∃ r ∈ k.ranges, r.1 ≤ c.toNat ∧ c.toNat ≤ r.2 := by
  simp [CharClass.contains]

end LiteralLexer
