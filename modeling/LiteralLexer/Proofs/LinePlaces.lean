import Mathlib.Algebra.GroupWithZero.Nat
import LiteralLexer.Proofs.LineEnds
import LiteralLexer.Proofs.Place

/-!
Lines and columns as places. The lines of a text are what stands between its line feeds, and each of
them has one column more than characters: the last one is that of the LF behind the line, or of the
end of the text. So every position of a text is in one column of one line, positions follow each
other as their places do, and a span that is built from a place passes the checks on spans.
-/
namespace LiteralLexer

/-- The position at which the line starts that has `n` lines in front of it. -/
def lineStart (lines : List (List Char)) (n : Nat) : Nat :=
  ((lines.take n).map fun line => line.length + 1).sum

/-- In a text of these lines, the line and the column are those of the position `p`. -/
structure LineColumn.PlaceOf (lines : List (List Char)) (place : LineColumn) (p : Nat) : Prop where
  one_le_line : 1 ≤ place.line
  line_le : place.line ≤ lines.length
  one_le_column : 1 ≤ place.column
  column_le : ∃ line, lines[place.line - 1]? = some line ∧ place.column ≤ line.length + 1
  position_eq : (p : Int) = lineStart lines (place.line - 1) + place.column - 1

/-- Places in reading order: by line, and by column within a line. -/
def LineColumn.Before (a b : LineColumn) : Prop :=
  a.line < b.line ∨ a.line = b.line ∧ a.column < b.column

section
variable {lines : List (List Char)} {line : List Char} {n m : Nat}

theorem lineStart_append (front rest : List (List Char)) :
    lineStart (front ++ rest) front.length = (front.map fun line => line.length + 1).sum := by
  rw [lineStart, List.take_left]

theorem lineStart_succ (h : lines[n]? = some line) :
    lineStart lines (n + 1) = lineStart lines n + (line.length + 1) := by
  simp [lineStart, List.take_add_one, h]

theorem lineStart_mono (h : n ≤ m) : lineStart lines n ≤ lineStart lines m := by
  obtain ⟨k, rfl⟩ := Nat.exists_eq_add_of_le h
  rw [lineStart, lineStart, List.take_add, List.map_append, List.sum_append]
  exact Nat.le_add_right _ _

end

namespace LineColumn

variable {lines : List (List Char)} {a b : LineColumn} {p q : Nat}

theorem before_trichotomy (a b : LineColumn) : a.Before b ∨ a = b ∨ b.Before a := by
  cases a
  cases b
  simp only [Before, LineColumn.mk.injEq]
  omega

/-- A later line starts behind the last column of an earlier one. -/
theorem PlaceOf.lt (h : a.PlaceOf lines p) (h' : b.PlaceOf lines q) (hab : a.Before b) : p < q := by
  have hp := h.position_eq
  have hq := h'.position_eq
  obtain hline | ⟨hline, hcolumn⟩ := hab
  · obtain ⟨line, hget, hcolumn⟩ := h.column_le
    have hone := h.one_le_line
    have hone' := h'.one_le_column
    have hend := lineStart_succ hget
    have hstart : lineStart lines (a.line - 1 + 1) ≤ lineStart lines (b.line - 1) :=
      lineStart_mono (by omega)
    omega
  · rw [← hline] at hq
    omega

theorem PlaceOf.lt_iff (h : a.PlaceOf lines p) (h' : b.PlaceOf lines q) : p < q ↔ a.Before b := by
  refine ⟨fun hlt => ?_, h.lt h'⟩
  obtain hab | rfl | hba := before_trichotomy a b
  · exact hab
  · have hp := h.position_eq
    have hq := h'.position_eq
    omega
  · exact absurd (h'.lt h hba) (by omega)

end LineColumn

/-! ### The place of a position -/

theorem length_splitOn_lineFeed (text : List Char) :
    (text.splitOn '\n').length = text.count '\n' + 1 := by
  induction text with
  | nil => rfl
  | cons c text ih =>
    rw [List.splitOn_cons_eq_if_modifyHead]
    by_cases hc : c = '\n'
    · simp [hc, ih]
    · simp [hc, ih]

/-- Each line takes its characters and an LF, the last one only its characters. -/
theorem sum_splitOn_lineFeed (text : List Char) :
    ((text.splitOn '\n').map fun line => line.length + 1).sum = text.length + 1 := by
  induction text with
  | nil => rfl
  | cons c text ih =>
    rw [List.splitOn_cons_eq_if_modifyHead]
    by_cases hc : c = '\n'
    · simp only [hc, beq_self_eq_true, if_true, List.map_cons, List.sum_cons, ih, List.length_nil,
        List.length_cons]
      omega
    · obtain ⟨line, lines, hlines⟩ := List.exists_cons_of_ne_nil (List.splitOn_ne_nil '\n' text)
      rw [hlines] at ih
      simp only [List.map_cons, List.sum_cons] at ih
      simp only [beq_eq_false_iff_ne.mpr hc, hlines, Bool.false_eq_true, if_false,
        List.modifyHead_cons, List.map_cons, List.sum_cons, List.length_cons]
      omega

/-- What has no LF in it starts the first line. -/
theorem exists_splitOn_append {line : List Char} (h : '\n' ∉ line) (ahead : List Char) :
    ∃ more rest, (line ++ ahead).splitOn '\n' = (line ++ more) :: rest := by
  by_cases hahead : '\n' ∈ ahead
  · obtain ⟨more, rest, rfl, hmore⟩ := List.eq_append_cons_of_mem hahead
    refine ⟨more, rest.splitOn '\n', ?_⟩
    rw [← List.append_assoc]
    exact List.splitOn_append_cons_self_of_not_mem (by simp [h, hmore]) rest
  · exact ⟨ahead, [], List.splitOn_eq_singleton (by simp [h, hahead])⟩

theorem lastLine_of_notMem {text : List Char} (h : '\n' ∉ text) : lastLine text = text := by
  have hall : ∀ c ∈ text.reverse, (c != '\n') = true := by
    intro c hc
    simp only [bne_iff_ne, ne_eq]
    rintro rfl
    exact h (List.mem_reverse.mp hc)
  rw [lastLine, List.takeWhile_eq_self_iff.mpr hall, List.reverse_reverse]

/-- A place is told by the lines in front of it and what of its own line lies in front of it. -/
theorem LineColumn.placeOf_of_lines {front rest : List (List Char)} {line more : List Char}
    {p : Nat}
    (hp : p = (front.map fun line => line.length + 1).sum + line.length) :
    (⟨front.length + 1, line.length + 1⟩ : LineColumn).PlaceOf
      (front ++ (line ++ more) :: rest) p where
  one_le_line := Nat.le_add_left 1 front.length
  line_le := by simp
  one_le_column := by
    simp only
    omega
  column_le := by
    refine ⟨line ++ more, by simp, ?_⟩
    simp only [List.length_append]
    omega
  position_eq := by
    simp only [Nat.add_sub_cancel, lineStart_append]
    omega

theorem lineColumn_placeOf (behind ahead : List Char) :
    (lineColumn (behind ++ ahead) behind.length).PlaceOf ((behind ++ ahead).splitOn '\n')
      behind.length := by
  rw [lineColumn_append]
  by_cases hfeed : '\n' ∈ behind
  · -- The lines in front of the last LF are those of the text in front of it.
    obtain ⟨front, line, rfl, hline⟩ := exists_last_lineFeed hfeed
    obtain ⟨more, rest, hrest⟩ := exists_splitOn_append hline ahead
    have hlines : (front ++ '\n' :: line ++ ahead).splitOn '\n' =
        front.splitOn '\n' ++ (line ++ more) :: rest := by
      rw [List.append_assoc, List.cons_append, List.splitOn_append_cons_self, hrest]
    have hcount : (front ++ '\n' :: line).count '\n' = (front.splitOn '\n').length := by
      rw [length_splitOn_lineFeed]
      simp [List.count_eq_zero.mpr hline]
    rw [hcount, lastLine_of_lineFeed hline, hlines]
    apply LineColumn.placeOf_of_lines
    rw [sum_splitOn_lineFeed, List.length_append, List.length_cons]
    omega
  · obtain ⟨more, rest, hlines⟩ := exists_splitOn_append hfeed ahead
    rw [List.count_eq_zero.mpr hfeed, lastLine_of_notMem hfeed, hlines]
    have hfirst : behind.length =
        (([] : List (List Char)).map fun line => line.length + 1).sum + behind.length := by simp
    exact LineColumn.placeOf_of_lines hfirst

/-- What is built from a position in a text is what the checks on spans let through. -/
theorem SourceSpan.ofNumbers_point (source : List Char) (n : Nat) :
    SourceSpan.ofNumbers n n (lineColumn source n).line (lineColumn source n).column =
      .ok (SourceSpan.point source n) := by
  have hline := lineColumn_line_pos source n
  have hcolumn := lineColumn_column_pos source n
  have hspan : Span.ofBounds n n = .ok ⟨n, n, Nat.le_refl n⟩ := by simp [Span.ofBounds]
  rw [ofNumbers, hspan]
  simp only
  rw [dif_neg (by omega), dif_neg (by omega)]
  rfl

/-- Every position in a source has a line and a column among the lines that the source is split
into, and the diagnostic of a failure at the position names just these. Positions are in the order
of their lines and columns, so no two of them share both. Wherever a failure may have its position,
the span of its diagnostic passes the checks on spans, at the nearest position in the source. -/
theorem lineColumn_identifies (source : List Char) :
    (∀ p : Nat, p ≤ source.length →
      (⟨source, p⟩ : Cursor).lineColumn.PlaceOf (source.splitOn '\n') p ∧
        ∀ failure : Failure, failure.position = p → ∃ span,
          (failure.diagnose source).span = some span ∧
            (⟨span.line, span.column⟩ : LineColumn) = (⟨source, p⟩ : Cursor).lineColumn) ∧
      (∀ p q : Nat, p ≤ source.length → q ≤ source.length →
        (p < q ↔
          (⟨source, p⟩ : Cursor).lineColumn.Before (⟨source, q⟩ : Cursor).lineColumn) ∧
          ((⟨source, p⟩ : Cursor).lineColumn = (⟨source, q⟩ : Cursor).lineColumn → p = q)) ∧
      ∀ failure : Failure,
        let nearest : Int := min (max failure.position 0) source.length
        ∃ span, (failure.diagnose source).span = some span ∧
          SourceSpan.ofNumbers nearest nearest (lineColumn source nearest).line
            (lineColumn source nearest).column = .ok span := by
  have hplace (p : Nat) (hp : p ≤ source.length) :
      (lineColumn source p).PlaceOf (source.splitOn '\n') p := by
    obtain ⟨behind, ahead, rfl, rfl⟩ := exists_behind_ahead hp
    exact lineColumn_placeOf behind ahead
  refine ⟨fun p hp => ⟨hplace p hp, fun failure hfailure => ⟨_, rfl, ?_⟩⟩, fun p q hp hq => ?_,
    fun failure => ⟨_, rfl, ?_⟩⟩
  · have hcolumn := (hplace p hp).one_le_column
    rw [hfailure, nearestIn_natCast hp]
    simp only [SourceSpan.point, Int.toNat_of_nonneg (Int.le_trans Int.one_nonneg hcolumn)]
    rfl
  · refine ⟨(hplace p hp).lt_iff (hplace q hq), fun heq => ?_⟩
    have hp := (hplace p hp).position_eq
    have hq := (hplace q hq).position_eq
    change lineColumn source p = lineColumn source q at heq
    rw [heq] at hp
    omega
  · have hnearest : min (max failure.position 0) (source.length : Int) =
        nearestIn source.length failure.position := by
      unfold nearestIn
      omega
    simp only [hnearest]
    exact SourceSpan.ofNumbers_point source _

/-- An LF is in the last column of the line in front of it, and what follows it starts a line. -/
theorem lineColumn_identifies_feed :
    (⟨2, 1⟩ : LineColumn).PlaceOf [['a'], []] 2 ∧ (⟨1, 2⟩ : LineColumn).Before ⟨2, 1⟩ ∧
      ∃ span, ((Cause.noLiteral.at 2).diagnose ['a', '\n']).span = some span ∧
        (⟨span.line, span.column⟩ : LineColumn) = ⟨2, 1⟩ := by
  have h := lineColumn_identifies ['a', '\n']
  have hfailure := (h.1 2 (by decide)).2 (Cause.noLiteral.at 2) rfl
  exact ⟨(h.1 2 (by decide)).1, (h.2.1 1 2 (by decide) (by decide)).1.mp (by decide), hfailure⟩

end LiteralLexer
