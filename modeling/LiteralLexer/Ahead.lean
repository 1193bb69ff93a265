/-!
What reading from a place in a source meets. From an ordinary place that is the rest of the source.
Places before the start count from the end: reading from there meets the last characters first and
then passes through the start to meet the whole source. The seam is the number of characters up to
that passage, zero if it is behind the reader or never comes. Single characters are read across a
seam, but nothing that is compared or taken as a block of several characters reaches over it.
-/
namespace LiteralLexer

structure Ahead where
  chars : List Char
  seam : Nat
  deriving DecidableEq, Repr

namespace Ahead

/-- What is met after `n` characters. -/
def drop (ahead : Ahead) (n : Nat) : Ahead := ⟨ahead.chars.drop n, ahead.seam - n⟩

@[simp] theorem drop_chars (ahead : Ahead) (n : Nat) :
    (ahead.drop n).chars = ahead.chars.drop n := rfl

@[simp] theorem drop_seam (ahead : Ahead) (n : Nat) : (ahead.drop n).seam = ahead.seam - n := rfl

/-- What is met after the leading characters with the property `p`. -/
def dropWhile (ahead : Ahead) (p : Char → Bool) : Ahead :=
  ⟨ahead.chars.dropWhile p, ahead.seam - (ahead.chars.takeWhile p).length⟩

@[simp] theorem dropWhile_chars (ahead : Ahead) (p : Char → Bool) :
    (ahead.dropWhile p).chars = ahead.chars.dropWhile p := rfl

/-- Whether the pattern comes next, all of it before the seam. -/
def startsWith (ahead : Ahead) (pattern : List Char) : Bool :=
  (ahead.seam == 0 || decide (pattern.length ≤ ahead.seam)) && pattern.isPrefixOf ahead.chars

@[simp] theorem startsWith_mk_zero (chars pattern : List Char) :
    startsWith ⟨chars, 0⟩ pattern = pattern.isPrefixOf chars := rfl

/-- The next `n` characters as one block; nothing if the block would touch the seam. -/
def window (ahead : Ahead) (n : Nat) : List Char :=
  if ahead.seam = 0 ∨ n < ahead.seam then ahead.chars.take n else []

@[simp] theorem window_mk_zero (chars : List Char) (n : Nat) :
    window ⟨chars, 0⟩ n = chars.take n := rfl

/-- What is met after the next LF. No LF is found beyond the seam: then nothing more is met. -/
def nextLine (ahead : Ahead) : Ahead :=
  let line := if ahead.seam = 0 then ahead.chars else ahead.chars.take ahead.seam
  ⟨(line.dropWhile (· != '\n')).drop 1, 0⟩

@[simp] theorem nextLine_mk_zero (chars : List Char) :
    nextLine ⟨chars, 0⟩ = ⟨(chars.dropWhile (· != '\n')).drop 1, 0⟩ := rfl

theorem nextLine_length_lt {ahead : Ahead} (h : ahead.chars ≠ []) :
    ahead.nextLine.chars.length < ahead.chars.length := by
  have hpos := List.length_pos_iff.mpr h
  have hdrop (l : List Char) : (l.dropWhile (· != '\n')).length ≤ l.length :=
    (List.dropWhile_sublist _).length_le
  simp only [nextLine, List.length_drop]
  split
  · have := hdrop ahead.chars
    omega
  · have := hdrop (ahead.chars.take ahead.seam)
    have := List.length_take_le ahead.seam ahead.chars
    have := List.length_take_le' ahead.seam ahead.chars
    omega

end Ahead
end LiteralLexer
