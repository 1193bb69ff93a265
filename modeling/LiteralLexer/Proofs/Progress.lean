import LiteralLexer.Session
import LiteralLexer.Proofs.Bounds

/-!
Parsers make progress. At a cursor within its source every parser is done at a later cursor of that
source or fails at a place ahead; none of them aborts. Each call has a number of characters that it
takes at least if it succeeds.
-/
namespace LiteralLexer

open Outcome (Within)

variable {c : Cursor}

theorem decodeText_within (hc : c.Within) : (decodeText c).Within c 1 :=
  hc.read fun chars => Body.scan_within .text [] ⟨chars, 0⟩ rfl

theorem decodeByteText_within (hc : c.Within) : (decodeByteText c).Within c 1 :=
  (hc.read fun chars => Body.scan_within .bytes [] ⟨chars, 0⟩ rfl).map _

theorem decodeChar_within (hc : c.Within) (allowEnd : Bool) :
    (decodeChar c allowEnd).Within c 1 :=
  hc.read fun chars => readSingle_within .text allowEnd chars

theorem decodeByte_within (hc : c.Within) (allowEnd : Bool) :
    (decodeByte c allowEnd).Within c 1 :=
  (hc.read fun chars => readSingle_within .bytes allowEnd chars).map _

theorem decodeRawText_within (hc : c.Within) : (decodeRawText c).Within c 1 :=
  hc.read fun chars => RawText.read_within chars

theorem blockComment_within (hc : c.Within) : (blockComment c).Within c 1 := by
  unfold blockComment
  split
  · have hread : (c.locate (BlockComment.read c.ahead)).Within c 1 := by
      apply hc.locate
      rw [hc.ahead_eq]
      exact BlockComment.read_within c.ahead.chars
    apply hread.bind 0
    intro _ after _ _ _ hlength
    exact ⟨rfl, by omega, hlength⟩
  · exact ⟨Int.le_refl c.pos, hc.le_length⟩

theorem optionalTrivia_within (hc : c.Within) : (optionalTrivia c).Within c 0 := by
  unfold optionalTrivia
  rw [if_neg (by simp [hc.outOfRange_eq])]
  apply hc.locate
  rw [hc.ahead_eq]
  exact readTrivia_within ⟨c.ahead.chars, 0⟩ rfl

theorem skipTrivia_within (hc : c.Within) : (skipTrivia c).Within c 1 := by
  have h := optionalTrivia_within hc
  unfold skipTrivia
  cases htrivia : optionalTrivia c with
  | done value after =>
    rw [htrivia] at h
    obtain ⟨hsource, hmoved, hlength⟩ := h
    rw [Outcome.bind_done]
    split
    · exact ⟨Int.le_refl c.pos, hc.le_length⟩
    · exact ⟨hsource, by omega, hlength⟩
  | failed failure =>
    rw [htrivia] at h
    exact h
  | aborted abort =>
    rw [htrivia] at h
    exact h

theorem wordBreak_within (hc : c.Within) : (wordBreak c).Within c 0 := by
  apply hc.read
  intro chars
  cases chars with
  | nil => simp
  | cons found rest => cases h : isWordChar found <;> simp [h]

/-- A pattern that comes next is not longer than what is ahead. -/
theorem Cursor.Within.startsWith_length (hc : c.Within) {pattern : List Char}
    (h : c.startsWith pattern = true) : c.pos + pattern.length ≤ c.source.length := by
  rw [hc.eq_between] at h ⊢
  rw [Cursor.between_startsWith] at h
  have hle := (List.isPrefixOf_iff_prefix.mp h).length_le
  simp only [Cursor.between_pos, Cursor.between_source, List.length_append]
  omega

theorem tokenAt_within (hc : c.Within) (token : List Char) :
    (tokenAt token c).Within c token.length := by
  unfold tokenAt
  split
  · rename_i hstarts
    have hlength := hc.startsWith_length hstarts
    have hpos : (c.advance token.length).pos = c.pos + token.length := by
      simp only [Cursor.advance]
      omega
    exact ⟨rfl, by omega, by omega⟩
  · exact ⟨Int.le_refl c.pos, hc.le_length⟩

theorem punct_within (hc : c.Within) (token : List Char) :
    (punct c token).Within c token.length := by
  have h : (punct c token).Within c (0 + token.length) :=
    (optionalTrivia_within hc).bind token.length fun _ _ _ _ hpos hlength =>
      tokenAt_within ⟨by have := hc.nonneg; omega, hlength⟩ token
  rwa [Nat.zero_add] at h

theorem keyword_within (hc : c.Within) (token : List Char) :
    (keyword c token).Within c token.length :=
  (punct_within hc token).bind 0 fun _ _ _ _ hpos hlength =>
    (wordBreak_within ⟨by have := hc.nonneg; omega, hlength⟩).map _

theorem LiteralKind.decode_within (hc : c.Within) (kind : LiteralKind) :
    (kind.decode c).Within c 1 := by
  cases kind with
  | text => exact (decodeText_within hc).map _
  | char => exact (decodeChar_within hc false).map _
  | byteText => exact (decodeByteText_within hc).map _
  | byte => exact (decodeByte_within hc false).map _
  | rawText => exact (decodeRawText_within hc).map _

/-- A span never runs backwards, so putting it in never aborts. -/
theorem spanned_eq_done {start after : Cursor} (value : LiteralValue) (hstart : 0 ≤ start.pos)
    (hafter : start.pos ≤ after.pos) : ∃ span : Span, span.start = start.pos ∧
      span.stop = after.pos ∧ spanned start value after = .done ⟨value, some span⟩ after := by
  have hneg : ¬start.pos < 0 := by omega
  have hback : ¬after.pos < start.pos := by omega
  refine ⟨⟨start.pos.toNat, after.pos.toNat, by omega⟩, Int.toNat_of_nonneg hstart,
    Int.toNat_of_nonneg (by omega), ?_⟩
  simp [spanned, Span.ofBounds, hneg, hback]

theorem literalAt_within (hc : c.Within) : (literalAt c).Within c 1 := by
  unfold literalAt
  split
  · exact ⟨Int.le_refl c.pos, hc.le_length⟩
  · rename_i kind _
    have hpos : c.pos ≤ (c.advance kind.openingLength).pos := by
      have := hc.le_length
      simp only [Cursor.advance]
      omega
    have hadvance : (c.advance kind.openingLength).Within := by
      refine ⟨by have := hc.nonneg; omega, ?_⟩
      simp only [Cursor.advance]
      omega
    have hdecode : (kind.decode (c.advance kind.openingLength)).Within c 1 :=
      (LiteralKind.decode_within hadvance kind).earlier rfl (by omega) hpos
    apply hdecode.bind 0
    intro value after _ _ hafter hlength
    obtain ⟨span, _, _, hspan⟩ := spanned_eq_done value hc.nonneg hafter
    rw [hspan]
    exact ⟨rfl, by omega, hlength⟩

theorem parseLiteral_within (hc : c.Within) : (parseLiteral c).Within c 1 := by
  have h : (parseLiteral c).Within c (0 + 1) :=
    (optionalTrivia_within hc).bind 1 fun _ _ _ _ hpos hlength =>
      literalAt_within ⟨by have := hc.nonneg; omega, hlength⟩
  rwa [Nat.zero_add] at h

/-- How many characters a call takes at least if it succeeds. -/
def Call.least : Call → Nat
  | optionalTrivia | wordBreak => 0
  | punct token | keyword token => token.length
  | text | byteText | char _ | byte _ | rawText | blockComment | skipTrivia | literal => 1

theorem Call.run_within (hc : c.Within) (call : Call) : (call.run c).Within c call.least := by
  cases call with
  | text => exact (decodeText_within hc).map _
  | byteText => exact (decodeByteText_within hc).map _
  | char allowEnd => exact (decodeChar_within hc allowEnd).map _
  | byte allowEnd => exact (decodeByte_within hc allowEnd).map _
  | rawText => exact (decodeRawText_within hc).map _
  | blockComment => exact (blockComment_within hc).map _
  | skipTrivia => exact (skipTrivia_within hc).map _
  | optionalTrivia => exact (optionalTrivia_within hc).map _
  | wordBreak => exact (wordBreak_within hc).map _
  | punct token => exact (punct_within hc token).map _
  | keyword token => exact (keyword_within hc token).map _
  | literal => exact (parseLiteral_within hc).map _

end LiteralLexer
