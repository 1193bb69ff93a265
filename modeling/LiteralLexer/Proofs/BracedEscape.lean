import LiteralLexer.Proofs.BodyGrammar
import LiteralLexer.Proofs.PieceFaults

/-!
Code points in braces. What stands behind the `u` of an escape is read just if it is one to six
digits between braces and their value is the code of a character. A value that is no such code is
told of at the first digit. Anything else is told of where the braces are given up: at the place of
the missing brace, or behind the digits that follow the brace, six of them at most.
-/
namespace LiteralLexer
namespace Piece

/-- From `p` up to `e` the source has one to six hexadecimal digits between braces. -/
structure BracesStand (source : List Char) (p : Nat) (digits : List Char) (e : Nat) : Prop where
  start_le : p ≤ e
  le_length : e ≤ source.length
  taken : (source.drop p).take (e - p) = '{' :: digits ++ ['}']
  one_le : 1 ≤ digits.length
  length_le : digits.length ≤ 6
  mem_hexDigits : ∀ d ∈ digits, d ∈ hexDigits

/-- The codes of characters: up to the largest, and none of the surrogates. -/
def IsScalar (code : Nat) : Prop := code ≤ 0x10FFFF ∧ ¬(0xD800 ≤ code ∧ code ≤ 0xDFFF)

/-- How many hexadecimal digits stand at `p`, one behind the other. -/
def digitsAt (source : List Char) (p : Nat) : Nat :=
  ((source.drop p).takeWhile isHexDigit).length

/-- The character that is read from the braces at a cursor. -/
def readBraced (c : Cursor) : Outcome Char := (c.read scanBraces).map value

section
variable {source behind ahead digits rest : List Char} {p e : Nat}

theorem isHexDigit_iff {d : Char} : isHexDigit d = true ↔ d ∈ hexDigits := List.contains_iff_mem

/-- As many digits are read as stand there, but not more than braces may hold. -/
theorem DigitRun.length_eq (h : DigitRun digits rest) :
    digits.length = min 6 ((digits ++ rest).takeWhile LiteralLexer.isHexDigit).length := by
  have hlength : digits.length ≤ 6 := h.length_le
  cases rest with
  | nil =>
    rw [List.append_nil, List.takeWhile_eq_self_iff.mpr h.isHexDigit]
    omega
  | cons c cs =>
    rw [List.takeWhile_append_of_pos h.isHexDigit, List.length_append]
    by_cases hc : LiteralLexer.isHexDigit c = true
    · have hfull : digits.length = 6 := h.stop c rfl hc
      omega
    · rw [List.takeWhile_cons_of_neg hc, List.length_nil]
      omega

theorem BracesStand.digitRun (h : BracesStand source p digits e) (rest : List Char) :
    DigitRun digits ('}' :: rest) where
  length_le := h.length_le
  isHexDigit d hd := isHexDigit_iff.mpr (h.mem_hexDigits d hd)
  stop c hc hdigit := by
    obtain rfl : '}' = c := by simpa using hc
    exact absurd hdigit (by decide)

/-- Braces that stand in a source are read as the value of their digits says. -/
theorem BracesStand.read_eq (h : BracesStand source p digits e) :
    (⟨source, p⟩ : Cursor).read scanBraces =
      if maxCodePoint < hexValue digits then .failed ((Cause.codePointTooLarge digits).at (p + 1))
      else if firstSurrogate ≤ hexValue digits ∧ hexValue digits ≤ lastSurrogate then
        .failed ((Cause.surrogate digits).at (p + 1))
      else .done (braced digits) ⟨source, e⟩ := by
  have hrun := h.digitRun
  have hne : digits ≠ [] := List.length_pos_iff.mp h.one_le
  obtain ⟨behind, token, rest, rfl, rfl, rfl⟩ := exists_taken h.start_le h.le_length
  obtain rfl : token = '{' :: digits ++ ['}'] := (take_taken behind token rest).symm.trans h.taken
  have hahead : '{' :: digits ++ ['}'] ++ rest = '{' :: (digits ++ '}' :: rest) := by simp
  have hdone := Cursor.between_locate_ok behind ('{' :: digits ++ ['}']) (braced digits) rest
  have hplace (cause : Cause) : (Cursor.between behind ('{' :: (digits ++ '}' :: rest))).locate
      (.error (.fault cause (digits ++ '}' :: rest)) : Reading Piece) =
        .failed (cause.at (behind.length + 1)) := by
    simpa using Cursor.between_locate_fault behind ['{'] cause (digits ++ '}' :: rest)
  rw [hahead] at hdone
  rw [Cursor.mk_append_eq_between, hahead]
  change (Cursor.between behind _).read scanBraces = _
  rw [Cursor.between_read, scanBraces_digits (hrun rest), if_neg (by simpa using hne)]
  by_cases hlarge : maxCodePoint < hexValue digits
  · rw [if_pos hlarge, if_pos hlarge, hplace]
  · rw [if_neg hlarge, if_neg hlarge]
    by_cases hsurrogate : firstSurrogate ≤ hexValue digits ∧ hexValue digits ≤ lastSurrogate
    · rw [if_pos hsurrogate, if_pos hsurrogate, hplace]
    · rw [if_neg hsurrogate, if_neg hsurrogate, hdone]

theorem BracesStand.of_between (hne : digits ≠ []) (hlength : digits.length ≤ 6)
    (hdigits : ∀ d ∈ digits, isHexDigit d = true) (behind rest : List Char) :
    BracesStand (behind ++ ('{' :: digits ++ '}' :: rest)) behind.length digits
      (behind ++ ('{' :: digits ++ ['}'])).length where
  start_le := by simp
  le_length := by
    simp only [List.length_append, List.length_cons, List.length_nil]
    omega
  taken := by
    have h := take_taken behind ('{' :: digits ++ ['}']) rest
    simpa using h
  one_le := List.length_pos_iff.mpr hne
  length_le := hlength
  mem_hexDigits d hd := isHexDigit_iff.mp (hdigits d hd)

theorem place_behind_digits (h : DigitRun digits rest) (behind : List Char) :
    ((behind ++ '{' :: digits).length : Int) =
      behind.length + 1 + min 6 ((digits ++ rest).takeWhile isHexDigit).length := by
  have hlength := h.length_eq
  simp only [List.length_append, List.length_cons]
  omega

/-- Where no braces stand, the place of the failure depends on whether one opens there. -/
theorem between_read_not_stand
    (h : ∀ digits e, ¬BracesStand (behind ++ ahead) behind.length digits e) :
    ∃ failure, (Cursor.between behind ahead).read scanBraces = .failed failure ∧
      failure.code = .invalidUnicodeEscape ∧
      (ahead.head? ≠ some '{' → failure.position = behind.length) ∧
      ∀ inside, ahead = '{' :: inside →
        failure.position = behind.length + 1 + min 6 (inside.takeWhile isHexDigit).length := by
  rw [Cursor.between_read]
  cases hscan : scanBraces ⟨ahead, 0⟩ with
  | ok result =>
    obtain ⟨piece, last⟩ := result
    obtain ⟨digits, more, rfl, -, hlegal, rfl⟩ := scanBraces_eq_ok_iff.mp hscan
    obtain ⟨-, hne, hlength, hdigits, -, -⟩ := hlegal
    exact absurd (.of_between hne hlength hdigits behind more) (h _ _)
  | error stop =>
    obtain ⟨taken, cause, left, rfl, rfl, hfault⟩ := scanBraces_eq_error_iff.mp hscan
    refine ⟨_, Cursor.between_locate_fault behind taken cause left, ?_⟩
    cases hfault with
    | unbraced hnone =>
      refine ⟨rfl, fun _ => by simp [Cause.at], fun inside hinside => absurd hinside (hnone inside)⟩
    | ended hrun =>
      refine ⟨rfl, fun hopen => absurd rfl hopen, fun inside hinside => ?_⟩
      obtain rfl := (List.cons.inj hinside).2
      exact place_behind_digits hrun behind
    | unclosed hrun =>
      refine ⟨rfl, fun hopen => absurd rfl hopen, fun inside hinside => ?_⟩
      obtain rfl := (List.cons.inj hinside).2
      exact place_behind_digits hrun behind
    | tooLarge hrun hne | surrogate hrun hne =>
      exact absurd (.of_between hne hrun.length_le hrun.isHexDigit behind _) (h _ _)

theorem BracesStand.legal (h : BracesStand source p digits e)
    (hscalar : IsScalar (hexValue digits)) :
    (braced digits).Legal .text :=
  ⟨rfl, List.length_pos_iff.mp h.one_le, h.length_le, (h.digitRun []).isHexDigit, hscalar.1,
    hscalar.2⟩

theorem BracesStand.read_scalar (h : BracesStand source p digits e)
    (hscalar : IsScalar (hexValue digits)) :
    (⟨source, p⟩ : Cursor).read scanBraces = .done (braced digits) ⟨source, e⟩ := by
  have hlarge : ¬maxCodePoint < hexValue digits := Nat.not_lt.mpr hscalar.1
  have hsurrogate : ¬(firstSurrogate ≤ hexValue digits ∧ hexValue digits ≤ lastSurrogate) :=
    hscalar.2
  rw [h.read_eq, if_neg hlarge, if_neg hsurrogate]

theorem BracesStand.read_not_scalar (h : BracesStand source p digits e)
    (hscalar : ¬IsScalar (hexValue digits)) :
    ∃ failure, (⟨source, p⟩ : Cursor).read scanBraces = .failed failure ∧
      failure.code = .invalidCodePoint ∧ failure.position = p + 1 := by
  rw [h.read_eq]
  by_cases hlarge : maxCodePoint < hexValue digits
  · rw [if_pos hlarge]
    exact ⟨_, rfl, rfl, rfl⟩
  · have hsurrogate : firstSurrogate ≤ hexValue digits ∧ hexValue digits ≤ lastSurrogate :=
      not_not.mp fun hnot => hscalar ⟨Nat.not_lt.mp hlarge, hnot⟩
    rw [if_neg hlarge, if_pos hsurrogate]
    exact ⟨_, rfl, rfl, rfl⟩

/-- Where no braces stand, the failure is told of at the missing brace or behind the digits. -/
theorem read_not_stand (hp : p ≤ source.length) (h : ∀ digits e, ¬BracesStand source p digits e) :
    ∃ failure, (⟨source, p⟩ : Cursor).read scanBraces = .failed failure ∧
      failure.code = .invalidUnicodeEscape ∧
      (source[p]? ≠ some '{' → failure.position = p) ∧
      (source[p]? = some '{' → failure.position = p + 1 + min 6 (digitsAt source (p + 1))) := by
  obtain ⟨behind, ahead, rfl, rfl⟩ := exists_behind_ahead hp
  obtain ⟨failure, hread, hcode, hmissing, hopen⟩ := between_read_not_stand h
  have hhead : (behind ++ ahead)[behind.length]? = ahead.head? := by
    rw [← List.head?_drop, List.drop_left]
  rw [hhead]
  refine ⟨failure, hread, hcode, hmissing, fun hbrace => ?_⟩
  obtain ⟨inside, rfl⟩ := List.head?_eq_some_iff.mp hbrace
  have hinside : (behind ++ '{' :: inside).drop (behind.length + 1) = inside := by
    rw [← List.drop_drop, List.drop_left, List.drop_one, List.tail_cons]
  rw [digitsAt, hinside]
  exact hopen inside rfl

theorem read_eq_done_iff (hp : p ≤ source.length) {piece : Piece} {after : Cursor} :
    (⟨source, p⟩ : Cursor).read scanBraces = .done piece after ↔
      ∃ digits e, BracesStand source p digits e ∧ IsScalar (hexValue digits) ∧
        piece = braced digits ∧ after = ⟨source, e⟩ := by
  constructor
  · intro hread
    by_cases hstand : ∃ digits e, BracesStand source p digits e
    · obtain ⟨digits, e, hstand⟩ := hstand
      by_cases hscalar : IsScalar (hexValue digits)
      · rw [hstand.read_scalar hscalar] at hread
        cases hread
        exact ⟨digits, e, hstand, hscalar, rfl, rfl⟩
      · obtain ⟨failure, hfailed, -⟩ := hstand.read_not_scalar hscalar
        rw [hfailed] at hread
        cases hread
    · obtain ⟨failure, hfailed, -⟩ := read_not_stand hp fun digits e h => hstand ⟨digits, e, h⟩
      rw [hfailed] at hread
      cases hread
  · rintro ⟨digits, e, hstand, hscalar, rfl, rfl⟩
    exact hstand.read_scalar hscalar

/-- A failure with this code is told of nothing but braces whose digits write no character. -/
theorem exists_stand_of_code (hp : p ≤ source.length) {failure : Failure}
    (hfailed : (⟨source, p⟩ : Cursor).read scanBraces = .failed failure)
    (hcode : failure.code = .invalidCodePoint) :
    ∃ digits e, BracesStand source p digits e ∧ ¬IsScalar (hexValue digits) := by
  by_cases hstand : ∃ digits e, BracesStand source p digits e
  · obtain ⟨digits, e, hstand⟩ := hstand
    refine ⟨digits, e, hstand, fun hscalar => ?_⟩
    rw [hstand.read_scalar hscalar] at hfailed
    cases hfailed
  · obtain ⟨other, hother, hcode', -⟩ := read_not_stand hp fun digits e h => hstand ⟨digits, e, h⟩
    rw [hfailed] at hother
    cases hother
    rw [hcode] at hcode'
    cases hcode'

end

/-- What stands behind the `u` of an escape is a character just if it is one to six digits between
braces that write the code of the character, and then it is read up to behind the second brace. If
what the digits write is no code of a character, the place of the failure is the first digit. In all
other cases another failure is told, whose place is where the first brace is missing, or else behind
the digits that follow it, or the first six of them. -/
theorem read_braces_located (source : List Char) (p : Nat) (hp : p ≤ source.length) :
    (∀ c after, readBraced ⟨source, p⟩ = .done c after ↔
      ∃ digits e, BracesStand source p digits e ∧ IsScalar (hexValue digits) ∧
        c.toNat = hexValue digits ∧ after = ⟨source, e⟩) ∧
    ((∃ failure, readBraced ⟨source, p⟩ = .failed failure ∧ failure.code = .invalidCodePoint ∧
        failure.position = p + 1) ↔
      ∃ digits e, BracesStand source p digits e ∧ ¬IsScalar (hexValue digits)) ∧
    ((∀ digits e, ¬BracesStand source p digits e) →
      ∃ failure, readBraced ⟨source, p⟩ = .failed failure ∧ failure.code = .invalidUnicodeEscape ∧
        (source[p]? ≠ some '{' → failure.position = p) ∧
        (source[p]? = some '{' →
          failure.position = p + 1 + min 6 (digitsAt source (p + 1)))) := by
  refine ⟨fun c after => ?_, ?_, fun h => ?_⟩
  · rw [readBraced, Outcome.map_eq_done_iff]
    constructor
    · rintro ⟨piece, hread, rfl⟩
      obtain ⟨digits, e, hstand, hscalar, rfl, rfl⟩ := (read_eq_done_iff hp).mp hread
      exact ⟨digits, e, hstand, hscalar, (hstand.legal hscalar).toNat_value, rfl⟩
    · rintro ⟨digits, e, hstand, hscalar, hc, rfl⟩
      refine ⟨braced digits, hstand.read_scalar hscalar, Char.toNat_inj.mp ?_⟩
      rw [hc]
      exact (hstand.legal hscalar).toNat_value
  · constructor
    · rintro ⟨failure, hfailed, hcode, -⟩
      exact exists_stand_of_code hp (Outcome.map_eq_failed_iff.mp hfailed) hcode
    · rintro ⟨digits, e, hstand, hscalar⟩
      obtain ⟨failure, hfailed, hfailure⟩ := hstand.read_not_scalar hscalar
      exact ⟨failure, Outcome.map_eq_failed_iff.mpr hfailed, hfailure⟩
  · obtain ⟨failure, hfailed, hfailure⟩ := read_not_stand hp h
    exact ⟨failure, Outcome.map_eq_failed_iff.mpr hfailed, hfailure⟩

/-- Six digits of a character, six of a surrogate, and none. -/
theorem read_braces_located_six :
    readBraced ⟨['u', '{', '0', '0', '0', '0', '4', '1', '}'], 1⟩ =
      .done 'A' ⟨['u', '{', '0', '0', '0', '0', '4', '1', '}'], 9⟩ ∧
    (∃ failure, readBraced ⟨['{', '0', '0', 'D', '8', '0', '0', '}'], 0⟩ = .failed failure ∧
      failure.code = .invalidCodePoint ∧ failure.position = 1) ∧
    ∃ failure, readBraced ⟨['{', '}'], 0⟩ = .failed failure ∧
      failure.code = .invalidUnicodeEscape ∧ failure.position = 1 := by
  have hread := read_braces_located ['u', '{', '0', '0', '0', '0', '4', '1', '}'] 1 (by decide)
  have hsurrogate := read_braces_located ['{', '0', '0', 'D', '8', '0', '0', '}'] 0 (by decide)
  have hempty := read_braces_located ['{', '}'] 0 (by decide)
  have hletter : ∀ d ∈ ['0', '0', '0', '0', '4', '1'], isHexDigit d = true :=
    List.all_eq_true.mp rfl
  have hhalf : ∀ d ∈ ['0', '0', 'D', '8', '0', '0'], isHexDigit d = true := List.all_eq_true.mp rfl
  refine ⟨(hread.1 'A' _).mpr ⟨_, 9, .of_between (by decide) (by decide) hletter ['u'] [],
      ⟨by decide, by decide⟩, by decide, rfl⟩,
    hsurrogate.2.1.mpr ⟨_, 8, .of_between (by decide) (by decide) hhalf [] [],
      fun h => absurd h.2 (by decide)⟩, ?_⟩
  · -- Two characters are too few for braces with a digit between them.
    have hnone (digits : List Char) (e : Nat) : ¬BracesStand ['{', '}'] 0 digits e := by
      intro h
      have hlength := congrArg List.length h.taken
      have hone := h.one_le
      simp only [List.length_take, List.length_drop, List.length_append, List.length_cons,
        List.length_nil] at hlength
      omega
    obtain ⟨failure, hfailed, hcode, -, hplace⟩ := hempty.2.2 hnone
    exact ⟨failure, hfailed, hcode, hplace rfl⟩

end Piece
end LiteralLexer
