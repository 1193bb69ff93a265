import LiteralLexer.Proofs.LiteralGrammar
import LiteralLexer.Proofs.TriviaGrammar

/-!
Literals behind trivia. A parser of literals goes past all trivia that starts at the cursor, and
what comes of it is decided by the text that follows. It succeeds just if that text starts with a
literal, and where the literal ends does not depend on what is behind its end.
-/
namespace LiteralLexer

open BlockComment (balance)

/-- No trivia starts with the opening of a literal. -/
theorem LiteralKind.Opens.not_startsTrivia {kind : LiteralKind} {text : List Char}
    (h : kind.Opens text) : ¬StartsTrivia text := by
  obtain ⟨more, rfl⟩ := h.exists_eq
  rintro (⟨c, rest, hc, hblank⟩ | hline | hblock)
  · have hfirst : isBlank c = false := by
      cases kind <;> cases hc <;> decide
    rw [hfirst] at hblank
    cases hblank
  · obtain ⟨rest, hrest⟩ := hline.exists_eq
    cases kind <;> cases hrest
  · obtain ⟨rest, hrest⟩ := hblock.exists_eq
    cases kind <;> cases hrest

theorem not_startsTrivia_nil : ¬StartsTrivia [] := fun h => h.ne_nil rfl

theorem Spells.length_pos {value : LiteralValue} {token : List Char} (h : Spells value token) :
    0 < token.length := by
  cases h <;> simp

/-- Trivia that is not all of the input stays trivia whatever follows it. -/
theorem Trivia.before {text rest : List Char} (h : Trivia text rest) (hrest : rest ≠ [])
    (other : List Char) : Trivia text other := by
  induction h with
  | nil => exact .nil
  | item hitem _ ih => exact .item hitem (ih hrest)
  | lastLine _ _ => exact absurd rfl hrest

section
variable {before token rest : List Char} {value : LiteralValue} (behind : List Char)

theorem parseLiteral_open (h : Trivia before rest) (hopen : OpenComment rest) :
    parseLiteral (.between behind (before ++ rest)) =
      .failed ((Cause.unterminatedComment (balance rest)).at (behind ++ before).length) := by
  rw [parseLiteral, optionalTrivia_open behind h hopen, Outcome.bind_failed]

theorem parseLiteral_behind (h : Trivia before rest) (hrest : ¬StartsTrivia rest) :
    parseLiteral (.between behind (before ++ rest)) =
      literalAt (.between (behind ++ before) rest) := by
  rw [parseLiteral, optionalTrivia_done behind h hrest, Outcome.bind_done]

theorem parseLiteral_token (h : Trivia before (token ++ rest)) (htoken : Spells value token) :
    parseLiteral (.between behind (before ++ (token ++ rest))) =
      .done (.of (behind ++ before) value token) (.between (behind ++ before ++ token) rest) := by
  rw [parseLiteral_behind behind h (htoken.opens rest).not_startsTrivia]
  exact literalAt_eq_done_iff.mpr ⟨value, token, rest, htoken, rfl, rfl, rfl⟩

end

/-- A literal is read just if the text ahead starts with trivia and a text that spells it. -/
theorem parseLiteral_eq_done_iff {behind ahead : List Char} {literal : Literal} {after : Cursor} :
    parseLiteral (.between behind ahead) = .done literal after ↔
      ∃ before value token rest, ahead = before ++ (token ++ rest) ∧
        Trivia before (token ++ rest) ∧ Spells value token ∧
        literal = .of (behind ++ before) value token ∧
        after = .between (behind ++ before ++ token) rest := by
  constructor
  · intro h
    obtain ⟨before, last, rfl, hbefore, hlast | hopen⟩ := exists_trivia ahead
    · rw [parseLiteral_behind behind hbefore hlast] at h
      obtain ⟨value, token, rest, htoken, rfl, hliteral, hafter⟩ := literalAt_eq_done_iff.mp h
      exact ⟨before, value, token, rest, rfl, hbefore, htoken, hliteral, hafter⟩
    · rw [parseLiteral_open behind hbefore hopen] at h
      cases h
  · rintro ⟨before, value, token, rest, rfl, hbefore, htoken, rfl, rfl⟩
    exact parseLiteral_token behind hbefore htoken

end LiteralLexer
