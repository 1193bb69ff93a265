import LiteralLexer.Proofs.PieceGrammar

/-!
What is no piece, and where it is told of. The faults of a piece are a grammar beside that of the
pieces: each constructor has the text in front of the place of the fault, its cause, and the text
from there on. The reader of a piece fails exactly on these, so the place of a fault and whether it
is still one with more text behind it are read off the constructors.
-/
namespace LiteralLexer
namespace Piece

/-- What is wrong behind the `u` of an escape, with the text in front of the place and from there
on. -/
inductive BracesFault : List Char → Cause → List Char → Prop where
  | unbraced {left : List Char} :
    (∀ inside, left ≠ '{' :: inside) → BracesFault [] .unbraced left
  | ended {digits : List Char} : DigitRun digits [] → BracesFault ('{' :: digits) .endInBraces []
  | unclosed {digits more : List Char} {close : Char} : DigitRun digits (close :: more) →
    digits = [] ∨ close ≠ '}' → BracesFault ('{' :: digits) .badBraces (close :: more)
  | tooLarge {digits more : List Char} : DigitRun digits ('}' :: more) → digits ≠ [] →
    maxCodePoint < hexValue digits →
    BracesFault ['{'] (.codePointTooLarge digits) (digits ++ '}' :: more)
  | surrogate {digits more : List Char} : DigitRun digits ('}' :: more) → digits ≠ [] →
    hexValue digits ≤ maxCodePoint →
    firstSurrogate ≤ hexValue digits ∧ hexValue digits ≤ lastSurrogate →
    BracesFault ['{'] (.surrogate digits) (digits ++ '}' :: more)

/-- What is wrong where a piece has to stand, with the text in front of the place and from there on.
-/
inductive Fault (alphabet : Alphabet) : List Char → Cause → List Char → Prop where
  | ended : Fault alphabet ['\\'] .endInEscape []
  | letter {letter : Char} {more : List Char} : SimpleEscape.ofLetter? letter = none →
    letter ≠ 'x' → ¬(letter = 'u' ∧ alphabet = .text) →
    Fault alphabet ['\\'] (.badEscape alphabet letter) (letter :: more)
  | hexPair {left : List Char} :
    (∀ high low more, left = high :: low :: more → ¬(hex high low).Legal alphabet) →
    Fault alphabet ['\\', 'x'] (.badHexPair alphabet) left
  | braces {taken left : List Char} {cause : Cause} : alphabet = .text →
    BracesFault taken cause left → Fault alphabet ('\\' :: 'u' :: taken) cause left
  | bareReturn {more : List Char} : (∀ rest, more ≠ '\n' :: rest) →
    Fault alphabet [] .bareCarriageReturn ('\r' :: more)
  | nonAscii {found : Char} {more : List Char} : alphabet = .bytes → found ≠ '\\' → found ≠ '\r' →
    maxAsciiEscape < found.toNat → Fault alphabet [] (.nonAscii found) (found :: more)

section
variable {alphabet : Alphabet} {chars taken left : List Char} {cause : Cause} {stop : Stop}

/-- Braces are told of as at fault just if they are. -/
theorem scanBraces_eq_error_iff :
    scanBraces ⟨chars, 0⟩ = .error stop ↔
      ∃ taken cause left, stop = .fault cause left ∧ chars = taken ++ left ∧
        BracesFault taken cause left := by
  constructor
  · intro h
    by_cases hbrace : ∃ inside, chars = '{' :: inside
    · obtain ⟨inside, rfl⟩ := hbrace
      obtain ⟨digits, rest, rfl, hrun⟩ := exists_digitRun inside
      cases rest with
      | nil =>
        rw [List.append_nil, scanBraces_ended hrun] at h
        cases h
        exact ⟨_, _, _, rfl, by simp, .ended hrun⟩
      | cons close more =>
        rw [scanBraces_digits hrun] at h
        split at h
        · rename_i hclose
          cases h
          exact ⟨_, _, _, rfl, rfl, .unclosed hrun hclose⟩
        · rename_i hclose
          obtain ⟨hne, rfl⟩ : digits ≠ [] ∧ close = '}' := by simpa using hclose
          split at h
          · rename_i hlarge
            cases h
            exact ⟨_, _, _, rfl, rfl, .tooLarge hrun hne hlarge⟩
          · rename_i hlarge
            split at h
            · rename_i hsurrogate
              cases h
              exact ⟨_, _, _, rfl, rfl, .surrogate hrun hne (by omega) hsurrogate⟩
            · cases h
    · have hnone : ∀ inside, chars ≠ '{' :: inside := not_exists.mp hbrace
      rw [scanBraces_unbraced hnone] at h
      cases h
      exact ⟨[], _, _, rfl, rfl, .unbraced hnone⟩
  · rintro ⟨taken, cause, left, rfl, rfl, hfault⟩
    cases hfault with
    | unbraced hnone => exact scanBraces_unbraced hnone
    | ended hrun => rw [List.append_nil, scanBraces_ended hrun]
    | unclosed hrun hclose => rw [List.cons_append, scanBraces_digits hrun, if_pos hclose]
    | tooLarge hrun hne hlarge =>
      rw [List.singleton_append, scanBraces_digits hrun, if_neg (by simpa using hne), if_pos hlarge]
    | surrogate hrun hne hlarge hsurrogate =>
      rw [List.singleton_append, scanBraces_digits hrun, if_neg (by simpa using hne),
        if_neg (by omega), if_pos hsurrogate]

/-- No pair of digits that is legal comes first in the text. -/
theorem scanHex_error
    (h : ∀ high low more, chars = high :: low :: more → ¬(hex high low).Legal alphabet) :
    scanHex alphabet ⟨chars, 0⟩ = .error (.fault (.badHexPair alphabet) chars) := by
  cases chars with
  | nil => exact scanHex_short alphabet (by simp)
  | cons high rest =>
    cases rest with
    | nil => exact scanHex_short alphabet (by simp)
    | cons low more => rw [scanHex_cons, if_neg (h high low more rfl)]

theorem scanHex_eq_error_iff :
    scanHex alphabet ⟨chars, 0⟩ = .error stop ↔
      stop = .fault (.badHexPair alphabet) chars ∧
        ∀ high low more, chars = high :: low :: more → ¬(hex high low).Legal alphabet := by
  constructor
  · intro h
    have hnone : ∀ high low more, chars = high :: low :: more →
        ¬(hex high low).Legal alphabet := by
      rintro high low more rfl hlegal
      rw [scanHex_cons, if_pos hlegal] at h
      cases h
    rw [scanHex_error hnone] at h
    exact ⟨(Except.error.inj h).symm, hnone⟩
  · rintro ⟨rfl, hnone⟩
    exact scanHex_error hnone

theorem scan_escape (alphabet : Alphabet) (ahead : Ahead) :
    scan alphabet '\\' ahead = scanEscape alphabet ahead := rfl

theorem scan_bareReturn (alphabet : Alphabet) (h : ∀ more, chars ≠ '\n' :: more) :
    scan alphabet '\r' ⟨chars, 0⟩ = .error (.fault .bareCarriageReturn ('\r' :: chars)) := by
  simp [scan]

/-- The letters that no escape has are told of; the others are read on, each in its way. -/
theorem scanEscape_of_none {letter : Char} (h : SimpleEscape.ofLetter? letter = none)
    (tail : List Char) :
    scanEscape alphabet ⟨letter :: tail, 0⟩ =
      if letter = 'x' then scanHex alphabet ⟨tail, 0⟩
      else if letter = 'u' ∧ alphabet = .text then scanBraces ⟨tail, 0⟩
      else .error (.fault (.badEscape alphabet letter) (letter :: tail)) := by
  simp only [scanEscape, h, Ahead.drop_mk_zero, List.drop_succ_cons, List.drop_zero]

theorem exists_fault_of_scanEscape (h : scanEscape alphabet ⟨chars, 0⟩ = .error stop) :
    ∃ taken cause left, stop = .fault cause left ∧ '\\' :: chars = taken ++ left ∧
      Fault alphabet taken cause left := by
  cases chars with
  | nil =>
    cases h
    exact ⟨_, _, _, rfl, rfl, .ended⟩
  | cons letter tail =>
    cases hletter : SimpleEscape.ofLetter? letter with
    | some escape =>
      simp only [scanEscape, hletter] at h
      cases h
    | none =>
      rw [scanEscape_of_none hletter] at h
      split at h
      · rename_i hx
        obtain ⟨rfl, hnone⟩ := scanHex_eq_error_iff.mp h
        exact ⟨_, _, _, rfl, by rw [hx]; rfl, .hexPair hnone⟩
      · rename_i hx
        split at h
        · rename_i hu
          obtain ⟨taken, cause, left, rfl, rfl, hfault⟩ := scanBraces_eq_error_iff.mp h
          exact ⟨_, _, _, rfl, by rw [hu.1]; rfl, .braces hu.2 hfault⟩
        · rename_i hu
          cases h
          exact ⟨_, _, _, rfl, rfl, .letter hletter hx hu⟩

/-- The reader of a piece stops just at the faults. -/
theorem scan_eq_error_iff {first : Char} :
    scan alphabet first ⟨chars, 0⟩ = .error stop ↔
      ∃ taken cause left, stop = .fault cause left ∧ first :: chars = taken ++ left ∧
        Fault alphabet taken cause left := by
  constructor
  · intro h
    by_cases hescape : first = '\\'
    · rw [hescape, scan_escape] at h
      rw [hescape]
      exact exists_fault_of_scanEscape h
    · by_cases hreturn : first = '\r'
      · subst hreturn
        by_cases hfeed : ∃ more, chars = '\n' :: more
        · obtain ⟨more, rfl⟩ := hfeed
          cases h
        · have hbare : ∀ more, chars ≠ '\n' :: more := not_exists.mp hfeed
          rw [scan_bareReturn alphabet hbare] at h
          cases h
          exact ⟨[], _, _, rfl, rfl, .bareReturn hbare⟩
      · simp only [scan, hescape, hreturn, if_false] at h
        split at h
        · rename_i hlarge
          cases h
          exact ⟨[], _, _, rfl, rfl, .nonAscii hlarge.1 hescape hreturn hlarge.2⟩
        · cases h
  · rintro ⟨taken, cause, left, rfl, hchars, hfault⟩
    cases hfault with
    | ended =>
      obtain ⟨rfl, rfl⟩ := List.cons.inj hchars
      rfl
    | @letter letter more hletter hx hu =>
      obtain ⟨rfl, rfl⟩ : first = '\\' ∧ chars = letter :: more := List.cons.inj hchars
      rw [scan_escape, scanEscape_of_none hletter, if_neg hx, if_neg hu]
    | hexPair hnone =>
      obtain ⟨rfl, rfl⟩ : first = '\\' ∧ chars = 'x' :: left := List.cons.inj hchars
      rw [scan_escape, scanEscape_of_none (by decide), if_pos rfl]
      exact scanHex_error hnone
    | @braces taken _ _ halphabet hfault =>
      obtain ⟨rfl, rfl⟩ : first = '\\' ∧ chars = 'u' :: (taken ++ left) := List.cons.inj hchars
      rw [scan_escape, scanEscape_of_none (by decide), if_neg (by decide), if_pos ⟨rfl, halphabet⟩]
      exact scanBraces_eq_error_iff.mpr ⟨_, _, _, rfl, rfl, hfault⟩
    | bareReturn hbare =>
      obtain ⟨rfl, rfl⟩ := List.cons.inj hchars
      exact scan_bareReturn alphabet hbare
    | nonAscii hbytes hescape hreturn hlarge =>
      obtain ⟨rfl, rfl⟩ := List.cons.inj hchars
      simp [scan, hescape, hreturn, hbytes, hlarge]

theorem BracesFault.append (h : BracesFault taken cause left) (hleft : left ≠ [])
    (more : List Char) : BracesFault taken cause (left ++ more) := by
  cases h with
  | unbraced hnone =>
    refine .unbraced fun inside heq => ?_
    obtain ⟨c, cs, rfl⟩ := List.exists_cons_of_ne_nil hleft
    obtain rfl : c = '{' := (List.cons.inj heq).1
    exact hnone cs rfl
  | ended => exact absurd rfl hleft
  | unclosed hrun hclose => exact .unclosed (hrun.append (by simp) more) hclose
  | tooLarge hrun hne hlarge =>
    rw [List.append_assoc]
    exact .tooLarge (hrun.append (by simp) more) hne hlarge
  | surrogate hrun hne hlarge hsurrogate =>
    rw [List.append_assoc]
    exact .surrogate (hrun.append (by simp) more) hne hlarge hsurrogate

/-- A fault with two characters from its place on is the same fault with more text behind these. -/
theorem Fault.append (h : Fault alphabet taken cause left) (hleft : 2 ≤ left.length)
    (more : List Char) : Fault alphabet taken cause (left ++ more) := by
  cases h with
  | ended => simp at hleft
  | letter hletter hx hu => exact .letter hletter hx hu
  | hexPair hnone =>
    refine .hexPair fun high low last heq => ?_
    match left, hleft with
    | _ :: _ :: tail, _ =>
      obtain ⟨rfl, rfl, -⟩ : _ = high ∧ _ = low ∧ tail ++ more = last := by simpa using heq
      exact hnone _ _ tail rfl
  | braces halphabet hfault =>
    refine .braces halphabet (hfault.append ?_ more)
    rintro rfl
    simp at hleft
  | @bareReturn chars hbare =>
    refine .bareReturn fun rest heq => ?_
    match chars, hleft with
    | c :: cs, _ =>
      obtain rfl : c = '\n' := (List.cons.inj heq).1
      exact hbare cs rfl
  | nonAscii hbytes hescape hreturn hlarge => exact .nonAscii hbytes hescape hreturn hlarge

/-- A piece that is read is read with more text behind it too, which is then left. -/
theorem scan_append {first : Char} {piece : Piece} {rest : Ahead}
    (h : scan alphabet first ⟨chars, 0⟩ = .ok (piece, rest)) (more : List Char) :
    ∃ last, rest = ⟨last, 0⟩ ∧
      scan alphabet first ⟨chars ++ more, 0⟩ = .ok (piece, ⟨last ++ more, 0⟩) := by
  obtain ⟨last, rfl, hlegal, hchars⟩ := scan_eq_ok_iff.mp h
  refine ⟨last, rfl, scan_eq_ok_iff.mpr ⟨last ++ more, rfl, hlegal, ?_⟩⟩
  rw [← List.append_assoc, ← hchars, List.cons_append]

theorem scan_fault_append {first : Char}
    (h : scan alphabet first ⟨chars, 0⟩ = .error (.fault cause left)) (hleft : 2 ≤ left.length)
    (more : List Char) :
    scan alphabet first ⟨chars ++ more, 0⟩ = .error (.fault cause (left ++ more)) := by
  obtain ⟨taken, _, _, hstop, hchars, hfault⟩ := scan_eq_error_iff.mp h
  cases hstop
  refine scan_eq_error_iff.mpr ⟨taken, cause, left ++ more, rfl, ?_, hfault.append hleft more⟩
  rw [← List.append_assoc, ← hchars, List.cons_append]

end

end Piece
end LiteralLexer
