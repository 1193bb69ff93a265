import LiteralLexer.Body
import LiteralLexer.Proofs.Place
import LiteralLexer.RawText
import LiteralLexer.Trivia

/-!
Readings stay within what they are given. On a text with no seam a reading never aborts, what it
leaves is an end of the text, and so is the place at which it fails. How much a reading takes at
least is a number of its own, zero only for those that may take nothing.
-/
namespace LiteralLexer

/-- A reading of `chars` takes at least `least` characters if it succeeds, and names a place in
`chars` if it fails. -/
def Reading.Within (least : Nat) (chars : List Char) : Reading α → Prop
  | .ok (_, rest) =>
    rest.seam = 0 ∧ rest.chars <:+ chars ∧ least + rest.chars.length ≤ chars.length
  | .error (.fault _ rest) => rest <:+ chars
  | .error (.abort _) => False

namespace Reading

@[simp] theorem within_ok {least : Nat} {chars : List Char} {value : α} {rest : Ahead} :
    Within least chars (.ok (value, rest)) ↔
      rest.seam = 0 ∧ rest.chars <:+ chars ∧ least + rest.chars.length ≤ chars.length := Iff.rfl

@[simp] theorem within_fault {least : Nat} {chars rest : List Char} {cause : Cause} :
    Within least chars (.error (.fault cause rest) : Reading α) ↔ rest <:+ chars := Iff.rfl

@[simp] theorem within_abort {least : Nat} {chars : List Char} {abort : Abort} :
    ¬Within least chars (.error (.abort abort) : Reading α) := id

/-- What is within the end of a text is within the text, and what lies in front of the end counts
as taken. -/
theorem Within.widen {least more : Nat} {chars whole : List Char} {r : Reading α}
    (h : Within least chars r) (hsuffix : chars <:+ whole)
    (hlength : more + chars.length ≤ least + whole.length) : Within more whole r := by
  match r, h with
  | .ok (_, rest), ⟨hseam, hrest, htaken⟩ =>
    exact ⟨hseam, hrest.trans hsuffix, by omega⟩
  | .error (.fault _ rest), hrest => exact List.IsSuffix.trans hrest hsuffix

/-- The form of `Within.widen` for a single character. -/
theorem Within.cons {least : Nat} {chars : List Char} {r : Reading α} (h : Within least chars r)
    (c : Char) : Within (least + 1) (c :: chars) r := by
  apply h.widen (List.suffix_cons c chars)
  simp only [List.length_cons]
  omega

end Reading

open Reading (Within)

namespace Piece

theorem scanHex_within (alphabet : Alphabet) (chars : List Char) :
    Within 0 chars (scanHex alphabet ⟨chars, 0⟩) := by
  unfold scanHex
  split
  · split
    · simp [List.drop_suffix]
    · simp
  · simp

theorem scanBraces_within (chars : List Char) : Within 0 chars (scanBraces ⟨chars, 0⟩) := by
  unfold scanBraces
  split
  · rename_i inside heq
    simp only at heq
    subst heq
    simp only [Ahead.drop_mk_zero, List.drop_succ_cons, List.drop_zero, Nat.lt_irrefl, false_and,
      ↓reduceIte]
    generalize (inside.take maxBracedDigits).takeWhile isHexDigit = digits
    have hinside : inside <:+ '{' :: inside := List.suffix_cons _ _
    split
    · simp
    · rename_i close rest hrest
      have hdrop : close :: rest <:+ '{' :: inside := by
        rw [← hrest]
        exact (List.drop_suffix _ _).trans hinside
      split
      · simpa [hrest] using hdrop
      · split
        · exact hinside
        · split
          · exact hinside
          · have hrest' : rest <:+ '{' :: inside := (List.suffix_cons _ _).trans hdrop
            simpa [hrest] using ⟨hrest', hrest'.length_le⟩
  · simp

theorem scanEscape_within (alphabet : Alphabet) (chars : List Char) :
    Within 0 chars (scanEscape alphabet ⟨chars, 0⟩) := by
  cases chars with
  | nil => simp [scanEscape]
  | cons letter rest =>
    have hrest : rest <:+ letter :: rest := List.suffix_cons _ _
    simp only [scanEscape, Ahead.drop_mk_zero, List.drop_succ_cons, List.drop_zero]
    split
    · simp
    · split
      · exact (scanHex_within alphabet rest).widen hrest (by simp)
      · split
        · exact (scanBraces_within rest).widen hrest (by simp)
        · simp

theorem scan_within (alphabet : Alphabet) (first : Char) (chars : List Char) :
    Within 1 (first :: chars) (scan alphabet first ⟨chars, 0⟩) := by
  have hchars : chars <:+ first :: chars := List.suffix_cons _ _
  unfold scan
  split
  · exact (scanEscape_within alphabet chars).cons first
  · split
    · split
      · rename_i rest heq
        simp only at heq
        subst heq
        have hrest : rest <:+ first :: '\n' :: rest := ⟨[first, '\n'], rfl⟩
        simp only [Ahead.drop_mk_zero, List.drop_succ_cons, List.drop_zero, Reading.within_ok,
          hrest, List.length_cons, true_and]
        omega
      · simp
    · split
      · simp
      · simp only [Reading.within_ok, hchars, List.length_cons, true_and]
        omega

end Piece

theorem Body.scan_within (alphabet : Alphabet) (sofar : List Char) (ahead : Ahead)
    (hseam : ahead.seam = 0) : Within 1 ahead.chars (Body.scan alphabet sofar ahead) := by
  fun_induction Body.scan alphabet sofar ahead with
  | case1 => simp
  | case2 sofar cs seam after =>
    simp only at hseam
    simp only [after, hseam, Reading.within_ok, List.suffix_cons, List.length_cons, true_and]
    omega
  | case3 sofar c cs seam after _ _ ih =>
    simp only at hseam
    subst hseam
    simp only [after, Nat.zero_sub, Ahead.dropWhile_mk_zero, forall_const] at ih
    have hrest : cs.dropWhile isWhiteSpace <:+ c :: cs :=
      (List.dropWhile_suffix _).trans (List.suffix_cons c cs)
    simp only [after, Nat.zero_sub, Ahead.dropWhile_mk_zero]
    exact ih.widen hrest (Nat.add_le_add_left hrest.length_le 1)
  | case4 sofar c cs seam after _ _ stop hpiece =>
    simp only at hseam
    subst hseam
    have h := Piece.scan_within alphabet c cs
    simp only [after, Nat.zero_sub] at hpiece
    rw [hpiece] at h
    cases stop with
    | fault cause rest => exact h
    | abort abort => exact h
  | case5 sofar c cs seam after _ _ piece rest hpiece ih =>
    simp only at hseam
    subst hseam
    have h := Piece.scan_within alphabet c cs
    simp only [after, Nat.zero_sub] at hpiece
    rw [hpiece] at h
    obtain ⟨hrest, hsuffix, htaken⟩ := h
    exact (ih hrest).widen hsuffix (by simp only [List.length_cons] at htaken ⊢; omega)

theorem closeSingle_within (allowEnd : Bool) (value : Char) (chars : List Char) :
    Within 0 chars (closeSingle allowEnd value ⟨chars, 0⟩) := by
  cases chars with
  | nil => cases allowEnd <;> simp [closeSingle]
  | cons found rest =>
    simp only [closeSingle, Ahead.drop_mk_zero, List.drop_succ_cons, List.drop_zero]
    split <;> simp

theorem readSingle_within (alphabet : Alphabet) (allowEnd : Bool) (chars : List Char) :
    Within 1 chars (readSingle alphabet allowEnd ⟨chars, 0⟩) := by
  cases chars with
  | nil => simp [readSingle]
  | cons first after =>
    have h := Piece.scan_within alphabet first after
    simp only [readSingle, Ahead.drop_mk_zero, List.drop_succ_cons, List.drop_zero]
    split
    · rename_i stop hpiece
      rw [hpiece] at h
      cases stop with
      | fault cause rest => exact h
      | abort abort => exact h
    · rename_i piece rest hpiece
      rw [hpiece] at h
      obtain ⟨hseam, hsuffix, htaken⟩ := h
      cases rest with
      | mk chars seam =>
        simp only at hseam hsuffix htaken
        subst hseam
        exact (closeSingle_within allowEnd piece.value chars).widen hsuffix (by omega)

namespace RawText

theorem scan_within (markers sofar chars : List Char) :
    Within 1 chars (scan markers sofar chars 0) := by
  induction chars generalizing sofar with
  | nil => simp [scan]
  | cons c cs ih =>
    have hcs : cs <:+ c :: cs := List.suffix_cons _ _
    simp only [scan, Nat.zero_sub]
    split
    · have hrest : cs.drop markers.length <:+ c :: cs := (List.drop_suffix _ _).trans hcs
      simp only [Ahead.drop_mk_zero, Reading.within_ok, hrest, List.length_drop, List.length_cons,
        true_and]
      omega
    · exact (ih _).widen hcs (by simp)

theorem read_within (chars : List Char) : Within 1 chars (read ⟨chars, 0⟩) := by
  have hdrop (n : Nat) : chars.drop n <:+ chars := List.drop_suffix n chars
  simp only [read, Ahead.drop_mk_zero]
  generalize (chars.takeWhile (· == '#')) = markers
  split
  · rename_i body hbody
    simp only [Nat.zero_sub]
    have hsuffix : body <:+ chars := (List.suffix_cons _ _).trans (hbody ▸ hdrop markers.length)
    exact (scan_within markers [] body).widen hsuffix (by have := hsuffix.length_le; omega)
  · exact hdrop markers.length

end RawText

namespace BlockComment

theorem scan_within (depth : Int) (chars : List Char) (seam : Nat) (hseam : seam = 0) :
    Within 1 chars (scan depth chars seam) := by
  fun_induction scan depth chars seam with
  | case1 depth a b rest seam pair _ ih =>
    exact (ih (by omega)).widen (List.suffix_append [a, b] rest)
      (by simp only [List.length_cons]; omega)
  | case2 a b rest seam pair _ _ =>
    have hrest : rest <:+ a :: b :: rest := List.suffix_append [a, b] rest
    simp only [hseam, Reading.within_ok, hrest, List.length_cons, true_and]
    omega
  | case3 depth a b rest seam pair _ _ _ ih =>
    exact (ih (by omega)).widen (List.suffix_append [a, b] rest)
      (by simp only [List.length_cons]; omega)
  | case4 depth a b rest seam pair _ _ ih =>
    exact (ih (by omega)).widen (List.suffix_cons a (b :: rest)) (by simp)
  | case5 => exact List.suffix_rfl

theorem read_within (chars : List Char) : Within 1 chars (read ⟨chars, 0⟩) := by
  have h := scan_within 0 chars 0 rfl
  unfold read
  split
  · exact List.suffix_rfl
  · exact h

end BlockComment

theorem Ahead.nextLine_suffix (chars : List Char) : (nextLine ⟨chars, 0⟩).chars <:+ chars :=
  (List.drop_suffix _ _).trans (List.dropWhile_suffix _)

theorem readTrivia_within (ahead : Ahead) (hseam : ahead.seam = 0) :
    Within 0 ahead.chars (readTrivia ahead) := by
  fun_induction readTrivia ahead with
  | case1 ahead _ => simp [hseam]
  | case2 ahead c tail _ _ ih =>
    have hsuffix : ahead.nextLine.chars <:+ ahead.chars := by
      cases ahead with
      | mk chars seam =>
        simp only at hseam
        subst hseam
        exact Ahead.nextLine_suffix chars
    exact (ih rfl).widen hsuffix (by have := hsuffix.length_le; omega)
  | case3 ahead c tail _ _ stop hread =>
    have h := BlockComment.read_within ahead.chars
    rw [← hseam, hread] at h
    cases stop with
    | fault cause rest => exact h
    | abort abort => exact h
  | case4 ahead c tail _ _ rest hread ih =>
    have h := BlockComment.read_within ahead.chars
    rw [← hseam, hread] at h
    obtain ⟨hrest, hsuffix, _⟩ := h
    exact (ih hrest).widen hsuffix (by have := hsuffix.length_le; omega)
  | case5 ahead c tail _ _ _ _ ih =>
    have hsuffix : (ahead.drop 1).chars <:+ ahead.chars := List.drop_suffix 1 ahead.chars
    exact (ih (by simp [hseam])).widen hsuffix (by have := hsuffix.length_le; omega)
  | case6 ahead c tail _ _ _ _ => simp [hseam]

/-- A parser at `c` that goes on by at least `least` characters if it is done, and fails at a place
from `c` on. -/
def Outcome.Within (c : Cursor) (least : Nat) : Outcome α → Prop
  | .done _ after =>
    after.source = c.source ∧ c.pos + least ≤ after.pos ∧ after.pos ≤ c.source.length
  | .failed failure => c.pos ≤ failure.position ∧ failure.position ≤ c.source.length
  | .aborted _ => False

namespace Outcome

@[simp] theorem within_done {c after : Cursor} {least : Nat} {value : α} :
    Within c least (.done value after) ↔
      after.source = c.source ∧ c.pos + least ≤ after.pos ∧ after.pos ≤ c.source.length := Iff.rfl

@[simp] theorem within_failed {c : Cursor} {least : Nat} {failure : Failure} :
    Within c least (.failed failure : Outcome α) ↔
      c.pos ≤ failure.position ∧ failure.position ≤ c.source.length := Iff.rfl

@[simp] theorem within_aborted {c : Cursor} {least : Nat} {abort : Abort} :
    ¬Within c least (.aborted abort : Outcome α) := id

/-- What starts at a later cursor of the same source is within an earlier one. -/
theorem Within.earlier {c start : Cursor} {least more : Nat} {o : Outcome α}
    (h : o.Within start least) (hsource : start.source = c.source)
    (hpos : c.pos + more ≤ start.pos + least) (hle : c.pos ≤ start.pos) : o.Within c more := by
  match o, h with
  | .done _ after, ⟨hafter, hmoved, hlength⟩ =>
    exact ⟨hafter.trans hsource, by omega, by rw [← hsource]; exact hlength⟩
  | .failed failure, ⟨hfrom, hto⟩ => exact ⟨by omega, by rw [← hsource]; exact hto⟩

theorem Within.bind {c : Cursor} {least : Nat} {o : Outcome α} {next : α → Cursor → Outcome β}
    (more : Nat) (h : o.Within c least)
    (hnext : ∀ value after, o = .done value after → after.source = c.source →
      c.pos ≤ after.pos → after.pos ≤ after.source.length → (next value after).Within after more) :
    (o.bind next).Within c (least + more) := by
  match o, h with
  | .done value after, ⟨hsource, hmoved, hlength⟩ =>
    have h := hnext value after rfl hsource (by omega) (by rw [hsource]; exact hlength)
    exact h.earlier hsource (by omega) (by omega)
  | .failed failure, h => exact h

theorem Within.map {c : Cursor} {least : Nat} {o : Outcome α} (f : α → β)
    (h : o.Within c least) : (o.map f).Within c least := by
  match o, h with
  | .done _ _, h => exact h
  | .failed _, h => exact h

end Outcome

/-- A reading that stays within the text ahead becomes an outcome that stays within the source. -/
theorem Cursor.Within.locate {c : Cursor} (hc : c.Within) {least : Nat} {r : Reading α}
    (h : Reading.Within least c.ahead.chars r) : (c.locate r).Within c least := by
  rw [hc.eq_between] at h ⊢
  generalize c.source.take c.pos.toNat = behind at h ⊢
  generalize c.source.drop c.pos.toNat = ahead at h ⊢
  rw [Cursor.between_ahead] at h
  match r, h with
  | .ok (value, ⟨chars, seam⟩), ⟨hseam, ⟨middle, hmiddle⟩, htaken⟩ =>
    simp only at hseam hmiddle htaken
    subst hseam hmiddle
    simp only [List.length_append] at htaken
    simp only [Cursor.between_locate_ok, Outcome.within_done, Cursor.between_source,
      Cursor.between_pos, List.append_assoc, List.length_append, true_and]
    omega
  | .error (.fault cause rest), hrest =>
    exact Cursor.between_place_of_suffix behind ahead hrest

theorem Cursor.Within.read {c : Cursor} (hc : c.Within) {least : Nat} {reader : Ahead → Reading α}
    (h : ∀ chars, Reading.Within least chars (reader ⟨chars, 0⟩)) :
    (c.read reader).Within c least := by
  rw [Cursor.read, hc.outOfRange_eq]
  apply hc.locate
  rw [hc.ahead_eq]
  exact h _

end LiteralLexer
