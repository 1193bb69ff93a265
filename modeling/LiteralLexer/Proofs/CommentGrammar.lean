import LiteralLexer.Comment
import LiteralLexer.Proofs.Bounds

/-!
Which texts are block comments. Between its two marks a block comment holds other block comments
and characters of its own, with which no mark starts. A scan that counts open comments closes just
where this grammar does, and if it closes nowhere it has counted the marks that are left open.
-/
namespace LiteralLexer

/-- A pattern that goes on over a character goes on over one of its own. -/
theorem prefix_append_cons_iff {pattern text rest : List Char} {d : Char} (h : d ∉ pattern) :
    pattern <+: text ++ d :: rest ↔ pattern <+: text := by
  constructor
  · intro hstart
    by_cases hlength : pattern.length ≤ text.length
    · exact List.prefix_of_prefix_length_le hstart (List.prefix_append text (d :: rest)) hlength
    · have hlt : text.length < pattern.length := by omega
      have hd : pattern[text.length] = d := by
        rw [hstart.getElem hlt]
        simp
      exact absurd (hd ▸ List.getElem_mem hlt) h
  · intro hstart
    exact hstart.trans (List.prefix_append _ _)

theorem prefix_append_iff {pattern text : List Char} (h : pattern.length ≤ text.length)
    (rest : List Char) : pattern <+: text ++ rest ↔ pattern <+: text := by
  constructor
  · intro hstart
    exact List.prefix_of_prefix_length_le hstart (List.prefix_append text rest) h
  · intro hstart
    exact hstart.trans (List.prefix_append _ _)

namespace BlockComment

def openMark : List Char := ['/', '*']

def closeMark : List Char := ['*', '/']

/-- A mark comes first in the text. -/
def StartsMark (chars : List Char) : Prop := openMark <+: chars ∨ closeMark <+: chars

theorem startsMark_append_iff {chars : List Char} (h : 2 ≤ chars.length) (rest : List Char) :
    StartsMark (chars ++ rest) ↔ StartsMark chars := by
  have hopen : openMark.length ≤ chars.length := h
  have hclose : closeMark.length ≤ chars.length := h
  exact or_congr (prefix_append_iff hopen rest) (prefix_append_iff hclose rest)

/-- What stands between the marks of a block comment. The mark that closes the comment is part of
what follows a character. -/
inductive Inside : List Char → Prop where
  | nil : Inside []
  | nested {inner rest : List Char} :
    Inside inner → Inside rest → Inside (openMark ++ inner ++ closeMark ++ rest)
  | char {c : Char} {rest : List Char} :
    Inside rest → ¬StartsMark (c :: rest ++ closeMark) → Inside (c :: rest)

/-- The number of marks that open less the number of marks that close. Marks are taken from left to
right and do not overlap. -/
def balance : List Char → Int
  | '/' :: '*' :: rest => balance rest + 1
  | '*' :: '/' :: rest => balance rest - 1
  | _ :: rest => balance rest
  | [] => 0

theorem scan_open (depth : Int) (rest : List Char) :
    scan depth (openMark ++ rest) 0 = scan (depth + 1) rest 0 := by
  simp [openMark, scan]

theorem scan_close_one (rest : List Char) :
    scan 1 (closeMark ++ rest) 0 = .ok ((), ⟨rest, 0⟩) := by
  simp [closeMark, scan]

theorem scan_close {depth : Int} (h : depth ≠ 1) (rest : List Char) :
    scan depth (closeMark ++ rest) 0 = scan (depth - 1) rest 0 := by
  simp [closeMark, scan, h]

theorem scan_char (depth : Int) {c d : Char} {rest : List Char}
    (h : ¬StartsMark (c :: d :: rest)) :
    scan depth (c :: d :: rest) 0 = scan depth (d :: rest) 0 := by
  have hopen : ¬(c = '/' ∧ d = '*') := by
    rintro ⟨rfl, rfl⟩
    exact h (.inl ⟨rest, rfl⟩)
  have hclose : ¬(c = '*' ∧ d = '/') := by
    rintro ⟨rfl, rfl⟩
    exact h (.inr ⟨rest, rfl⟩)
  simp [scan, hopen, hclose]

/-- The inside of a comment takes a scan to the mark that closes the comment, at the depth at which
it came in. -/
theorem scan_inside {inside : List Char} (h : Inside inside) {depth : Int} (hdepth : 1 ≤ depth)
    (rest : List Char) :
    scan depth (inside ++ closeMark ++ rest) 0 = scan depth (closeMark ++ rest) 0 := by
  induction h generalizing depth rest with
  | nil => rfl
  | @nested inner tail _ _ hinner htail =>
    have hne : depth + 1 ≠ 1 := by omega
    calc scan depth (openMark ++ inner ++ closeMark ++ tail ++ closeMark ++ rest) 0
        = scan depth (openMark ++ (inner ++ closeMark ++ (tail ++ closeMark ++ rest))) 0 := by
          simp only [List.append_assoc]
      _ = scan (depth + 1) (closeMark ++ (tail ++ closeMark ++ rest)) 0 := by
          rw [scan_open, hinner (by omega)]
      _ = scan depth (tail ++ closeMark ++ rest) 0 := by
          rw [scan_close hne, Int.add_sub_cancel]
      _ = scan depth (closeMark ++ rest) 0 := htail hdepth rest
  | @char c tail _ hmark ih =>
    rw [← ih hdepth rest]
    obtain ⟨d, more, hnext⟩ : ∃ d more, tail ++ closeMark = d :: more := by
      cases tail with
      | nil => exact ⟨_, _, rfl⟩
      | cons d tail => exact ⟨_, _, rfl⟩
    rw [List.cons_append, hnext] at hmark
    rw [List.cons_append, List.cons_append, hnext]
    apply scan_char
    intro hstarts
    exact hmark ((startsMark_append_iff (by simp) rest).mp hstarts)

/-- The text closes `n` comments that are open, one after the other, and goes on with `rest`. -/
def Closes (rest : List Char) : Nat → List Char → Prop
  | 0, chars => chars = rest
  | n + 1, chars =>
    ∃ inside more, Inside inside ∧ chars = inside ++ closeMark ++ more ∧ Closes rest n more

theorem closes_open {rest chars : List Char} {n : Nat} (h : Closes rest (n + 2) chars) :
    Closes rest (n + 1) (openMark ++ chars) := by
  obtain ⟨inner, more, hinner, rfl, tail, last, htail, rfl, hlast⟩ := h
  exact ⟨_, last, .nested hinner htail, by simp, hlast⟩

theorem closes_close {rest chars : List Char} {n : Nat} (h : Closes rest n chars) :
    Closes rest (n + 1) (closeMark ++ chars) :=
  ⟨[], chars, .nil, rfl, h⟩

theorem closes_char {rest chars : List Char} {c : Char} {n : Nat} (h : Closes rest (n + 1) chars)
    (hmark : ¬StartsMark (c :: chars)) : Closes rest (n + 1) (c :: chars) := by
  obtain ⟨inside, more, hinside, rfl, hmore⟩ := h
  refine ⟨c :: inside, more, .char hinside ?_, rfl, hmore⟩
  intro hstarts
  exact hmark ((startsMark_append_iff (by simp [closeMark]) more).mpr hstarts)

/-- A scan that comes to an end has closed every comment that was open. -/
theorem closes_of_scan {depth : Int} {chars : List Char} {seam : Nat} {rest : Ahead}
    (h : scan depth chars seam = .ok ((), rest)) (hseam : seam = 0) {n : Nat}
    (hdepth : depth = n + 1) : rest.seam = 0 ∧ Closes rest.chars (n + 1) chars := by
  fun_induction scan depth chars seam generalizing n with
  | case1 depth a b tail seam pair hopen ih =>
    subst hseam
    obtain ⟨rfl, rfl⟩ : a = '/' ∧ b = '*' := by simpa [pair] using hopen
    obtain ⟨hrest, hcloses⟩ := ih h rfl (n := n + 1) (by omega)
    exact ⟨hrest, closes_open hcloses⟩
  | case2 a b tail seam pair _ hclose =>
    subst hseam
    obtain ⟨rfl, rfl⟩ : a = '*' ∧ b = '/' := by simpa [pair] using hclose
    obtain rfl : n = 0 := by omega
    cases h
    exact ⟨rfl, closes_close rfl⟩
  | case3 depth a b tail seam pair _ hclose hone ih =>
    subst hseam
    obtain ⟨rfl, rfl⟩ : a = '*' ∧ b = '/' := by simpa [pair] using hclose
    obtain ⟨m, rfl⟩ : ∃ m, n = m + 1 := ⟨n - 1, by omega⟩
    obtain ⟨hrest, hcloses⟩ := ih h rfl (n := m) (by omega)
    exact ⟨hrest, closes_close hcloses⟩
  | case4 depth a b tail seam pair hopen hclose ih =>
    subst hseam
    obtain ⟨hrest, hcloses⟩ := ih h rfl hdepth
    refine ⟨hrest, closes_char hcloses ?_⟩
    rintro (⟨more, hmore⟩ | ⟨more, hmore⟩)
    · cases hmore
      exact hopen rfl
    · cases hmore
      exact hclose rfl
  | case5 => cases h

/-- The reader of block comments reads exactly the texts of the grammar. -/
theorem read_eq_ok_iff {chars : List Char} {rest : Ahead} :
    read ⟨openMark ++ chars, 0⟩ = .ok ((), rest) ↔
      ∃ inside more, rest = ⟨more, 0⟩ ∧ Inside inside ∧ chars = inside ++ closeMark ++ more := by
  have hread : read ⟨openMark ++ chars, 0⟩ = .ok ((), rest) ↔ scan 1 chars 0 = .ok ((), rest) := by
    rw [read, scan_open, Int.zero_add]
    split <;> simp_all
  rw [hread]
  constructor
  · intro h
    obtain ⟨hseam, inside, more, hinside, hchars, hmore⟩ := closes_of_scan h rfl (n := 0) rfl
    cases rest with
    | mk chars seam =>
      cases hseam
      cases hmore
      exact ⟨inside, chars, rfl, hinside, hchars⟩
  · rintro ⟨inside, more, rfl, hinside, rfl⟩
    rw [scan_inside hinside (Int.le_refl 1), scan_close_one]

/-- A scan that fails has met all marks, and fails at the depth that they leave. -/
theorem scan_error {depth : Int} {chars : List Char} {seam : Nat} {stop : Stop}
    (h : scan depth chars seam = .error stop) (hseam : seam = 0) :
    ∃ rest, stop = .fault (.unterminatedComment (depth + balance chars)) rest := by
  fun_induction scan depth chars seam with
  | case1 depth a b tail seam pair hopen ih =>
    subst hseam
    obtain ⟨rfl, rfl⟩ : a = '/' ∧ b = '*' := by simpa [pair] using hopen
    obtain ⟨rest, hrest⟩ := ih h rfl
    refine ⟨rest, ?_⟩
    rw [hrest, balance, Int.add_assoc, Int.add_comm 1]
  | case2 => cases h
  | case3 depth a b tail seam pair _ hclose _ ih =>
    subst hseam
    obtain ⟨rfl, rfl⟩ : a = '*' ∧ b = '/' := by simpa [pair] using hclose
    obtain ⟨rest, hrest⟩ := ih h rfl
    refine ⟨rest, ?_⟩
    rw [hrest, balance]
    congr 2
    omega
  | case4 depth a b tail seam pair hopen hclose ih =>
    subst hseam
    obtain ⟨rest, hrest⟩ := ih h rfl
    refine ⟨rest, ?_⟩
    have hbalance : balance (a :: b :: tail) = balance (b :: tail) := by
      rw [balance]
      · rintro more rfl ⟨⟩
        exact hopen rfl
      · rintro more rfl ⟨⟩
        exact hclose rfl
    rw [hrest, hbalance]
  | case5 depth chars seam hshort =>
    cases h
    have hbalance : balance chars = 0 := by
      cases chars with
      | nil => rfl
      | cons a more =>
        cases more with
        | nil => simp [balance]
        | cons b tail => exact absurd rfl (hshort a b tail)
    rw [hbalance, Int.add_zero]
    exact ⟨chars, rfl⟩

/-- A block comment that never closes is a fault of its start, at the depth that its marks leave. -/
theorem read_open {text : List Char} (hopen : openMark <+: text)
    (h : ∀ inside more, Inside inside → text ≠ openMark ++ inside ++ closeMark ++ more) :
    read ⟨text, 0⟩ = .error (.fault (.unterminatedComment (balance text)) text) := by
  obtain ⟨chars, rfl⟩ := hopen
  cases hread : read ⟨openMark ++ chars, 0⟩ with
  | ok result =>
    obtain ⟨⟨⟩, rest⟩ := result
    obtain ⟨inside, more, -, hinside, rfl⟩ := read_eq_ok_iff.mp hread
    exact absurd (by simp) (h inside more hinside)
  | error stop =>
    unfold read at hread
    split at hread
    · rename_i cause rest hscan
      obtain ⟨_, hstop⟩ := scan_error hscan rfl
      cases hstop
      rw [Int.zero_add] at hread
      exact hread.symm
    · rename_i hscan
      obtain ⟨_, rfl⟩ := scan_error hread rfl
      exact absurd hread (hscan _ _)

end BlockComment

/-- What is told of a block comment that is open `depth` comments deep at the end of the input. -/
def Failure.openComment (depth position : Int) : Failure :=
  ⟨.unterminatedBlockComment,
    "Unterminated block comment (depth " ++ toString depth ++ " at end of input)", position, ["*/"]⟩

theorem Cause.at_unterminatedComment (depth position : Int) :
    (Cause.unterminatedComment depth).at position = .openComment depth position := by
  rw [Failure.openComment, ← decimalText_eq_toString]
  rfl

end LiteralLexer
