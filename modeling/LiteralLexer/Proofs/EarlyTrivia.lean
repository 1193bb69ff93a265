import LiteralLexer.Proofs.BehindTrivia
import LiteralLexer.Proofs.SideChannel

/-!
Trivia skipped early. A parser that skips trivia before it reads anything else takes no notice of
how much of the trivia in front of it has been skipped already. It may start behind any number of
items of it, or where skipping blanks leads: it is done at the same place with the same value, or it
fails there alike. That includes a comment further on that never closes, for which skipping blanks
stays where it is.
-/
namespace LiteralLexer

/-- The calls that skip trivia before they read anything else. -/
inductive Call.SkipsFirst : Call → Prop where
  | optionalTrivia : SkipsFirst optionalTrivia
  | punct (token : List Char) : SkipsFirst (punct token)
  | keyword (token : List Char) : SkipsFirst (keyword token)
  | literal : SkipsFirst literal

section
variable (behind : List Char) {text rest : List Char}

/-- What is read of `rest` has its places in the source, wherever in front of `rest` the cursor is.
-/
theorem Cursor.between_locate_append {least : Nat} {r : Reading α}
    (h : Reading.Within least rest r) :
    (between behind (text ++ rest)).locate r = (between (behind ++ text) rest).locate r := by
  cases r with
  | ok result =>
    obtain ⟨value, last, seam⟩ := result
    obtain ⟨rfl, ⟨taken, rfl⟩, -⟩ := h
    rw [← List.append_assoc, between_locate_ok, between_locate_ok, List.append_assoc]
  | error stop =>
    cases stop with
    | fault cause last =>
      obtain ⟨taken, rfl⟩ := h
      rw [← List.append_assoc, between_locate_fault, between_locate_fault, List.append_assoc]
    | abort abort => exact absurd h id

theorem optionalTrivia_behind (h : Trivia text rest) :
    optionalTrivia (.between (behind ++ text) rest) =
      optionalTrivia (.between behind (text ++ rest)) := by
  have hrest : Reading.Within 0 rest (readTrivia ⟨rest, 0⟩) := readTrivia_within ⟨rest, 0⟩ rfl
  rw [optionalTrivia_between, optionalTrivia_between, readTrivia_append h,
    Cursor.between_locate_append behind hrest]

theorem punct_behind (h : Trivia text rest) (token : List Char) :
    punct (.between (behind ++ text) rest) token =
      punct (.between behind (text ++ rest)) token := by
  rw [punct, punct, optionalTrivia_behind behind h]

theorem keyword_behind (h : Trivia text rest) (token : List Char) :
    keyword (.between (behind ++ text) rest) token =
      keyword (.between behind (text ++ rest)) token := by
  rw [keyword, keyword, punct_behind behind h]

theorem parseLiteral_of_trivia (h : Trivia text rest) :
    parseLiteral (.between (behind ++ text) rest) =
      parseLiteral (.between behind (text ++ rest)) := by
  rw [parseLiteral, parseLiteral, optionalTrivia_behind behind h]

/-- One call of a parser that skips trivia, from behind some of the trivia and from in front of it.
-/
theorem Call.SkipsFirst.run_behind {call : Call} (hcall : call.SkipsFirst) (h : Trivia text rest) :
    call.run (.between (behind ++ text) rest) = call.run (.between behind (text ++ rest)) := by
  cases hcall with
  | optionalTrivia => rw [run, run, optionalTrivia_behind behind h]
  | punct token => rw [run, run, punct_behind behind h]
  | keyword token => rw [run, run, keyword_behind behind h]
  | literal => rw [run, run, parseLiteral_of_trivia behind h]

end

/-- Skipping blanks leads behind some of the trivia ahead: all of it, or nothing if a comment in it
never closes. -/
theorem skipBlank_between (behind ahead : List Char) :
    ∃ text rest, ahead = text ++ rest ∧ Trivia text rest ∧
      skipBlank (.between behind ahead) = .ok (.between (behind ++ text) rest) := by
  obtain ⟨text, rest, rfl, htext, hrest | hopen⟩ := exists_trivia ahead
  · refine ⟨text, rest, rfl, htext, ?_⟩
    have hdone := optionalTrivia_done behind htext hrest
    rw [skipBlank, skipTrivia, hdone, Outcome.bind_done]
    cases text with
    | nil => simp
    | cons c cs =>
      rw [if_neg]
      simp only [Cursor.between_pos, List.length_append, List.length_cons]
      omega
  · refine ⟨[], text ++ rest, rfl, .nil, ?_⟩
    rw [skipBlank, skipTrivia, optionalTrivia_open behind htext hopen, Outcome.bind_failed,
      List.append_nil]

/-- Trivia may be skipped early. A parser that skips trivia first, called behind any items of the
trivia that starts at a place, gives and leaves what it does when called at that place. The same
goes for skipping blanks first and calling the parser where that leads. -/
theorem Call.record_behind_trivia (source : List Char) (p : Nat) (hp : p ≤ source.length)
    (call : Call) (hcall : call.SkipsFirst) (slot slot' : Option Failure) :
    (∀ q, p ≤ q → q ≤ source.length →
      Trivia ((source.drop p).take (q - p)) (source.drop q) →
        (call.record ⟨source, q⟩).runFrom slot = (call.record ⟨source, p⟩).runFrom slot') ∧
    (Recording.skipBlank ⟨source, p⟩ >>= call.record).runFrom slot =
      (call.record ⟨source, p⟩).runFrom slot' := by
  constructor
  · intro q hpq hq htrivia
    obtain ⟨behind, text, rest, rfl, rfl, rfl⟩ := exists_taken hpq hq
    rw [take_taken, ← List.append_assoc, List.drop_left] at htrivia
    rw [Cursor.mk_append_eq_between, call.record_tells _ slot, call.record_tells _ slot',
      hcall.run_behind behind htrivia]
    rfl
  · obtain ⟨behind, ahead, rfl, rfl⟩ := exists_behind_ahead hp
    obtain ⟨text, rest, rfl, htext, hblank⟩ := skipBlank_between behind ahead
    change (Recording.skipBlank (.between behind (text ++ rest)) >>= call.record).runFrom slot = _
    rw [Recording.runFrom_bind, Recording.skipBlank_runFrom, hblank]
    change (call.record (.between (behind ++ text) rest)).runFrom _ = _
    rw [call.record_tells, call.record_tells _ slot', hcall.run_behind behind htext]
    rfl

/-- A line comment is skipped early, and the comment behind it that never closes is still met. -/
theorem Call.record_behind_trivia_open :
    ((Call.keyword ['b']).record ⟨['/', '/', '\n', ' ', '/', '*', 'b'], 3⟩).runFrom none =
      (.ok none, some ((Cause.unterminatedComment 1).at 4)) := by
  have hline : TriviaItem (['/', '/'] ++ ['\n']) := .line (by decide) (by decide)
  have htrivia : Trivia ['/', '/', '\n', ' '] ['/', '*', 'b'] :=
    .item hline (.item (.blank rfl) .nil)
  have hopen : OpenComment ['/', '*', 'b'] := by
    refine ⟨by decide, fun inside more _ heq => ?_⟩
    have hlength := congrArg List.length heq
    simp only [BlockComment.openMark, BlockComment.closeMark, List.length_append,
      List.length_cons, List.length_nil] at hlength
    omega
  have hfront : (Call.keyword ['b']).run (.between [] ['/', '/', '\n', ' ', '/', '*', 'b']) =
      .failed ((Cause.unterminatedComment 1).at 4) := by
    have hfailed := optionalTrivia_open [] htrivia hopen
    simp only [List.cons_append, List.nil_append] at hfailed
    rw [run, LiteralLexer.keyword, LiteralLexer.punct, hfailed]
    rfl
  have hearly := (record_behind_trivia ['/', '/', '\n', ' ', '/', '*', 'b'] 0 (by decide)
    (.keyword ['b']) (.keyword ['b']) none none).1 3 (by decide) (by decide) (.item hline .nil)
  refine hearly.trans ?_
  have htells := (Call.keyword ['b']).record_tells
    (.between [] ['/', '/', '\n', ' ', '/', '*', 'b']) none
  rw [hfront] at htells
  exact htells

end LiteralLexer
