import LiteralLexer.Proofs.BodyUnits
import LiteralLexer.Proofs.PieceFaults

/-!
Texts that are no body. The reader of bodies stops just on those texts that are a row of units with
something at fault behind it: the end of the text, or what neither starts a unit nor is the closing
quote. What lies behind the place of a fault by two characters or more has no part in it.
-/
namespace LiteralLexer
namespace BodyUnit

/-- The units stand one after the other in front of `rest`, each of them where it fits. -/
def IsRow (alphabet : Alphabet) (rest : List Char) : List BodyUnit → Prop
  | [] => True
  | unit :: units => unit.Fits alphabet (units.flatMap spelling ++ rest) ∧ IsRow alphabet rest units

instance decidableIsRow (alphabet : Alphabet) (rest : List Char) :
    (units : List BodyUnit) → Decidable (IsRow alphabet rest units)
  | [] => .isTrue trivial
  | unit :: units =>
    letI := decidableIsRow alphabet rest units
    inferInstanceAs (Decidable
      (unit.Fits alphabet (units.flatMap spelling ++ rest) ∧ IsRow alphabet rest units))

-- A row may end in front of anything but white space that its last joint would have taken.
example : IsRow .text ['\\'] [.piece (.plain 'a'), .joint '\n' [' ']] ∧
    ¬IsRow .text [' '] [.joint '\n' []] := by decide

variable {alphabet : Alphabet} {unit : BodyUnit} {units : List BodyUnit}
  {text rest chars : List Char}

theorem Fits.of_append (h : unit.Fits alphabet (text ++ rest)) : unit.Fits alphabet text := by
  cases unit with
  | piece piece => exact h
  | joint lineEnd space =>
    refine ⟨h.1, h.2.1, ?_⟩
    cases text with
    | nil => simp
    | cons c cs => exact h.2.2

theorem Fits.append (h : unit.Fits alphabet text) (htext : text ≠ []) (more : List Char) :
    unit.Fits alphabet (text ++ more) := by
  obtain ⟨c, cs, rfl⟩ := List.exists_cons_of_ne_nil htext
  cases unit with
  | piece piece => exact h
  | joint lineEnd space => exact h

theorem IsRow.isBody (h : IsRow alphabet rest units) : IsBody alphabet units := by
  induction units with
  | nil => trivial
  | cons unit units ih => exact ⟨h.1.of_append, ih h.2⟩

theorem IsRow.append (h : IsRow alphabet rest units) (hrest : rest ≠ []) (more : List Char) :
    IsRow alphabet (rest ++ more) units := by
  induction units with
  | nil => trivial
  | cons unit units ih =>
    refine ⟨?_, ih h.2⟩
    rw [← List.append_assoc]
    exact h.1.append (List.append_ne_nil_of_right_ne_nil _ hrest) more

/-- A backslash at the end of a line starts a joint, with all white space that follows. -/
theorem exists_joint (alphabet : Alphabet) (h : startsLineEnd chars = true) :
    ∃ lineEnd space, '\\' :: chars =
        (joint lineEnd space).spelling ++ chars.dropWhile isWhiteSpace ∧
      (joint lineEnd space).Fits alphabet (chars.dropWhile isWhiteSpace) := by
  cases chars with
  | nil => cases h
  | cons lineEnd tail =>
    have hend : lineEnd = '\n' ∨ lineEnd = '\r' := by simpa [startsLineEnd] using h
    have hspace : ∀ c ∈ tail.takeWhile isWhiteSpace, isWhiteSpace c = true :=
      fun c hc => List.mem_takeWhile_imp hc
    refine ⟨lineEnd, tail.takeWhile isWhiteSpace, ?_, hend, hspace, Body.head?_dropWhile⟩
    rw [List.dropWhile_cons_of_pos (Body.isWhiteSpace_of_lineEnd hend), spelling, List.cons_append,
      List.cons_append, List.takeWhile_append_dropWhile]

end BodyUnit

namespace Body

open BodyUnit (IsRow)

/-- What is wrong where a unit or the closing quote has to stand, with the text in front of the
place and from there on. -/
inductive Fault (alphabet : Alphabet) : List Char → Cause → List Char → Prop where
  | ended : Fault alphabet [] (.unterminatedBody alphabet) []
  | piece {c : Char} {cs taken left : List Char} {cause : Cause} : StartsPiece c cs →
    taken ++ left = c :: cs → Piece.Fault alphabet taken cause left →
      Fault alphabet taken cause left

section
variable {alphabet : Alphabet} {unit : BodyUnit} {units : List BodyUnit}
  {taken left rest chars sofar : List Char} {cause : Cause} {stop : Stop}

/-- What is at fault starts no unit, however much of it were taken. -/
theorem Fault.not_fits (h : Fault alphabet taken cause left)
    (heq : taken ++ left = unit.spelling ++ rest) : ¬unit.Fits alphabet rest := by
  intro hfits
  cases h with
  | ended => cases unit with
    | piece piece =>
      obtain ⟨c, cs, hchars, -⟩ := piece_spelling hfits.1 hfits.2 rest
      cases heq.trans hchars
    | joint lineEnd space => cases heq
  | @piece c cs _ _ _ hstarts hchars hfault =>
    have hspelling : unit.spelling ++ rest = c :: cs := heq.symm.trans hchars
    cases unit with
    | piece piece =>
      have hread : Piece.scan alphabet c ⟨cs, 0⟩ = .ok (piece, ⟨rest, 0⟩) :=
        Piece.scan_eq_ok_iff.mpr ⟨rest, rfl, hfits.1, hspelling.symm⟩
      have hstop : Piece.scan alphabet c ⟨cs, 0⟩ = .error (.fault cause left) :=
        Piece.scan_eq_error_iff.mpr ⟨taken, cause, left, rfl, hchars.symm, hfault⟩
      rw [hread] at hstop
      cases hstop
    | joint lineEnd space =>
      obtain ⟨rfl, rfl⟩ : '\\' = c ∧ lineEnd :: (space ++ rest) = cs := List.cons.inj hspelling
      have hend : startsLineEnd (lineEnd :: (space ++ rest)) = true := by
        simpa [startsLineEnd] using hfits.1
      have hjoint := hstarts.2
      rw [hend] at hjoint
      cases hjoint

theorem Fault.ne_quote (h : Fault alphabet taken cause left) (more : List Char) :
    taken ++ left ≠ '"' :: more := by
  intro heq
  cases h with
  | ended => cases heq
  | piece hstarts hchars => exact hstarts.1 (List.cons.inj (hchars.symm.trans heq)).1

theorem Fault.append (h : Fault alphabet taken cause left) (hleft : 2 ≤ left.length)
    (more : List Char) : Fault alphabet taken cause (left ++ more) := by
  cases h with
  | ended => simp at hleft
  | @piece c cs _ _ _ hstarts hchars hfault =>
    have hcs : cs ≠ [] := by
      have hlength := congrArg List.length hchars
      rw [List.length_append, List.length_cons] at hlength
      rw [← List.length_pos_iff]
      omega
    obtain ⟨d, ds, rfl⟩ := List.exists_cons_of_ne_nil hcs
    have hmore : StartsPiece c (d :: ds ++ more) := hstarts
    refine .piece hmore ?_ (hfault.append hleft more)
    rw [← List.append_assoc, hchars, List.cons_append]

/-- A unit is read where it fits. -/
theorem scan_unit (h : unit.Fits alphabet rest) (sofar : List Char) :
    scan alphabet sofar ⟨unit.spelling ++ rest, 0⟩ =
      scan alphabet (unit.value.reverse ++ sofar) ⟨rest, 0⟩ := by
  cases unit with
  | piece piece =>
    obtain ⟨c, cs, hchars, hstarts⟩ := piece_spelling h.1 h.2 rest
    have hread : Piece.scan alphabet c ⟨cs, 0⟩ = .ok (piece, ⟨rest, 0⟩) :=
      Piece.scan_eq_ok_iff.mpr ⟨rest, rfl, h.1, hchars.symm⟩
    rw [BodyUnit.spelling, hchars, scan_piece hstarts hread]
    rfl
  | joint lineEnd space =>
    obtain ⟨hend, hspace, hrest⟩ := h
    have hstarts : startsLineEnd (lineEnd :: space ++ rest) = true := by
      simpa [startsLineEnd] using hend
    have hblank : ∀ c ∈ lineEnd :: space, isWhiteSpace c = true :=
      List.forall_mem_cons.mpr ⟨isWhiteSpace_of_lineEnd hend, hspace⟩
    rw [BodyUnit.spelling, List.cons_append, scan_joint hstarts, dropWhile_run hblank hrest]
    rfl

theorem scan_row (h : IsRow alphabet rest units) (sofar : List Char) :
    scan alphabet sofar ⟨units.flatMap BodyUnit.spelling ++ rest, 0⟩ =
      scan alphabet ((units.flatMap BodyUnit.value).reverse ++ sofar) ⟨rest, 0⟩ := by
  induction units generalizing sofar with
  | nil => rfl
  | cons unit units ih =>
    rw [List.flatMap_cons, List.append_assoc, scan_unit h.1, ih h.2, List.flatMap_cons,
      List.reverse_append, List.append_assoc]

theorem Fault.scan_eq (h : Fault alphabet taken cause left) (sofar : List Char) :
    scan alphabet sofar ⟨taken ++ left, 0⟩ = .error (.fault cause left) := by
  cases h with
  | ended => exact scan_nil alphabet sofar
  | piece hstarts hchars hfault =>
    rw [hchars]
    exact scan_stop hstarts
      (Piece.scan_eq_error_iff.mpr ⟨taken, cause, left, rfl, hchars.symm, hfault⟩) sofar

/-- Reading a body stops just behind a row of units, at what is no unit and no quote. -/
theorem scan_eq_error_iff :
    scan alphabet sofar ⟨chars, 0⟩ = .error stop ↔
      ∃ units taken cause left, stop = .fault cause left ∧
        chars = units.flatMap BodyUnit.spelling ++ (taken ++ left) ∧
        IsRow alphabet (taken ++ left) units ∧ Fault alphabet taken cause left := by
  constructor
  · intro h
    -- What is read before the fault is put in front of the row of the rest, unit by unit.
    induction chars using read_induction alphabet generalizing sofar with
    | nil =>
      rw [scan_nil] at h
      cases h
      exact ⟨[], [], _, [], rfl, rfl, trivial, .ended⟩
    | quote cs =>
      rw [scan_quote] at h
      cases h
    | joint cs hend ih =>
      rw [scan_joint hend] at h
      obtain ⟨units, taken, cause, left, rfl, hchars, hrow, hfault⟩ := ih h
      obtain ⟨lineEnd, space, hspelling, hfits⟩ := BodyUnit.exists_joint alphabet hend
      rw [hchars] at hspelling hfits
      refine ⟨.joint lineEnd space :: units, taken, cause, left, rfl, ?_, ⟨hfits, hrow⟩, hfault⟩
      rw [hspelling, List.flatMap_cons, List.append_assoc]
    | piece c cs piece more hstarts hpiece ih =>
      rw [scan_piece hstarts hpiece] at h
      obtain ⟨units, taken, cause, left, rfl, rfl, hrow, hfault⟩ := ih h
      obtain ⟨_, hmore, hlegal, hchars⟩ := Piece.scan_eq_ok_iff.mp hpiece
      cases hmore
      have hquote : piece ≠ .plain '"' := by
        rintro rfl
        exact hstarts.1 (List.cons.inj hchars).1
      refine ⟨.piece piece :: units, taken, cause, left, rfl, ?_, ⟨⟨hlegal, hquote⟩, hrow⟩, hfault⟩
      rw [hchars, List.flatMap_cons, List.append_assoc]
      rfl
    | stop c cs reason hstarts hpiece =>
      rw [scan_stop hstarts hpiece] at h
      cases h
      obtain ⟨taken, cause, left, rfl, hchars, hfault⟩ := Piece.scan_eq_error_iff.mp hpiece
      exact ⟨[], taken, cause, left, rfl, hchars, trivial, .piece hstarts hchars.symm hfault⟩
  · rintro ⟨units, taken, cause, left, rfl, rfl, hrow, hfault⟩
    rw [scan_row hrow, hfault.scan_eq]

end

end Body
end LiteralLexer
