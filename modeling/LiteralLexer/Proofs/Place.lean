import LiteralLexer.Reading

/-!
Places in a source. A cursor within its source stands between two texts, the one behind it and the
one ahead. Seen this way no operation of a cursor involves an index: what is read moves from the
front of the text ahead to the end of the text behind.
-/
namespace LiteralLexer

@[simp] theorem Ahead.drop_mk_zero (chars : List Char) (n : Nat) :
    Ahead.drop ⟨chars, 0⟩ n = ⟨chars.drop n, 0⟩ := by
  simp [Ahead.drop]

@[simp] theorem Ahead.dropWhile_mk_zero (chars : List Char) (p : Char → Bool) :
    Ahead.dropWhile ⟨chars, 0⟩ p = ⟨chars.dropWhile p, 0⟩ := by
  simp [Ahead.dropWhile]

/-- A place in a source has a text behind it and one ahead. -/
theorem exists_behind_ahead {source : List Char} {p : Nat} (hp : p ≤ source.length) :
    ∃ behind ahead, source = behind ++ ahead ∧ p = behind.length :=
  ⟨source.take p, source.drop p, by simp, by simp [hp]⟩

/-- Two places in a source have a text between them. -/
theorem exists_taken {source : List Char} {p q : Nat} (hpq : p ≤ q) (hq : q ≤ source.length) :
    ∃ behind taken rest, source = behind ++ (taken ++ rest) ∧ p = behind.length ∧
      q = (behind ++ taken).length := by
  obtain ⟨front, rest, rfl, rfl⟩ := exists_behind_ahead hq
  obtain ⟨behind, taken, rfl, rfl⟩ := exists_behind_ahead hpq
  exact ⟨behind, taken, rest, List.append_assoc _ _ _, rfl, rfl⟩

theorem take_taken (behind taken rest : List Char) :
    ((behind ++ (taken ++ rest)).drop behind.length).take
      ((behind ++ taken).length - behind.length) = taken := by
  simp

namespace Cursor

/-- The cursor with `behind` in front of it in the source and `ahead` after it. -/
def between (behind ahead : List Char) : Cursor := ⟨behind ++ ahead, behind.length⟩

/-- A cursor within its source, both ends included. -/
structure Within (c : Cursor) : Prop where
  nonneg : 0 ≤ c.pos
  le_length : c.pos ≤ c.source.length

variable (behind middle ahead : List Char)

@[simp] theorem between_source : (between behind ahead).source = behind ++ ahead := rfl

@[simp] theorem between_pos : (between behind ahead).pos = behind.length := rfl

theorem between_within : (between behind ahead).Within := by
  constructor
  · simp
  · simp only [between_pos, between_source, List.length_append]
    omega

/-- Every cursor within its source stands between two texts. -/
theorem Within.eq_between {c : Cursor} (h : c.Within) :
    c = between (c.source.take c.pos.toNat) (c.source.drop c.pos.toNat) := by
  obtain ⟨hpos, hlen⟩ := h
  cases c with
  | mk source pos =>
    simp only at hpos hlen
    have hmin : min pos.toNat source.length = pos.toNat := by omega
    simp only [between, List.take_append_drop, List.length_take, hmin, Int.toNat_of_nonneg hpos]

theorem mk_zero_eq_between (source : List Char) : (⟨source, 0⟩ : Cursor) = between [] source := rfl

theorem mk_append_eq_between :
    (⟨behind ++ (middle ++ ahead), (behind ++ middle).length⟩ : Cursor) =
      between (behind ++ middle) ahead := by
  simp only [between, List.append_assoc]

@[simp] theorem between_ahead : (between behind ahead).ahead = ⟨ahead, 0⟩ := by
  rw [between, ahead_mk_natCast, List.drop_left]

@[simp] theorem between_outOfRange : (between behind ahead).outOfRange = false := by
  have hle : ¬(behind.length : Int) + (behind ++ ahead).length < 0 := by omega
  rw [outOfRange, between_source, between_pos, decide_eq_false hle]

theorem Within.ahead_eq {c : Cursor} (h : c.Within) : c.ahead = ⟨c.ahead.chars, 0⟩ := by
  rw [h.eq_between, between_ahead]

theorem Within.outOfRange_eq {c : Cursor} (h : c.Within) : c.outOfRange = false := by
  rw [h.eq_between, between_outOfRange]

@[simp] theorem between_isEnd : (between behind ahead).isEnd = decide (ahead = []) := by
  simp only [isEnd, between_source, between_pos, List.length_append, ← List.length_eq_zero_iff]
  congr 1
  apply propext
  omega

theorem between_startsWith (pattern : List Char) :
    (between behind ahead).startsWith pattern = pattern.isPrefixOf ahead := by
  have hle : (behind.length : Int) ≤ (behind ++ ahead).length := by
    simp only [List.length_append]
    omega
  rw [startsWith, between_ahead, Ahead.startsWith_mk_zero, between_source, between_pos,
    decide_eq_true hle, Bool.true_and]

theorem between_current_cons (c : Char) :
    (between behind (c :: ahead)).current = .ok c := by
  rw [current, between_isEnd]
  simp [fetch, between]

theorem between_current_nil :
    (between behind []).current = .error (.endOfInput behind.length) := by
  simp [current]

/-- Moving on by the length of what comes next is moving past it. -/
@[simp] theorem between_advance :
    (between behind (middle ++ ahead)).advance middle.length =
      between (behind ++ middle) ahead := by
  simp only [advance, between, List.append_assoc, List.length_append, Cursor.mk.injEq, true_and]
  omega

theorem between_place (rest : List Char) :
    (between behind (middle ++ rest)).place rest = (behind ++ middle).length := by
  simp only [place, between_ahead, between_source, between_pos, List.length_append]
  split <;> omega

theorem between_place_of_suffix {rest : List Char} (h : rest <:+ ahead) :
    (behind.length : Int) ≤ (between behind ahead).place rest ∧
      (between behind ahead).place rest ≤ (between behind ahead).source.length := by
  obtain ⟨middle, rfl⟩ := h
  rw [between_place]
  simp only [between_source, List.length_append]
  omega

@[simp] theorem between_locate_ok (value : α) (rest : List Char) :
    (between behind (middle ++ rest)).locate (.ok (value, ⟨rest, 0⟩)) =
      .done value (between (behind ++ middle) rest) := by
  simp only [locate, between_place]
  simp only [between, List.append_assoc]

@[simp] theorem between_locate_fault (cause : Cause) (rest : List Char) :
    (between behind (middle ++ rest)).locate (.error (.fault cause rest) : Reading α) =
      .failed (cause.at (behind ++ middle).length) := by
  simp only [locate, between_place]

/-- A fault behind `taken` and all that lies in front of it. -/
theorem between_locate_fault_taken (front taken rest : List Char) (cause : Cause) :
    (between behind (front ++ (taken ++ rest))).locate (.error (.fault cause rest) : Reading α) =
      .failed (cause.at ((behind ++ front).length + taken.length)) := by
  rw [← List.append_assoc, between_locate_fault, ← List.append_assoc, List.length_append,
    Int.natCast_add]

theorem between_pos_le (front : List Char) :
    (between behind ahead).pos ≤ (behind ++ front).length := by
  simp only [between_pos, List.length_append]
  omega

/-- Nothing comes of a reading that stops. -/
theorem locate_error_ne_done (c : Cursor) (stop : Stop) (value : α) (after : Cursor) :
    c.locate (.error stop : Reading α) ≠ .done value after := by
  cases stop <;> simp [locate]

@[simp] theorem between_read (reader : Ahead → Reading α) :
    (between behind ahead).read reader = (between behind ahead).locate (reader ⟨ahead, 0⟩) := by
  simp [read]

end Cursor
end LiteralLexer
