import LiteralLexer.Proofs.PieceGrammar
import LiteralLexer.Proofs.Progress
import LiteralLexer.Proofs.SideChannel

/-!
Sessions of parsers are safe. A session that starts within its source and only calls parsers stays
within the source, never aborts and never goes back, and what is wrong is always wrong somewhere
from the cursor on. The characters and bytes that escapes denote on the way all exist.
-/
namespace LiteralLexer

/-- Whether the operation calls a parser. -/
def Operation.IsParser : Operation → Prop
  | .call _ | .skipBlank => True
  | .ask _ | .advance _ | .finish | .seek _ | .expect _ | .forget => False

instance : (operation : Operation) → Decidable operation.IsParser
  | .call _ | .skipBlank => .isTrue trivial
  | .ask _ | .advance _ | .finish | .seek _ | .expect _ | .forget => .isFalse id

/-- How many characters an operation takes at least if it succeeds. -/
def Operation.least : Operation → Nat
  | .call parser => parser.least
  | .skipBlank | .ask _ | .advance _ | .finish | .seek _ | .expect _ | .forget => 0

namespace Session

/-- The session after some operations. -/
def after (s : Session) : List Operation → Session
  | [] => s
  | operation :: operations => (s.step operation).2.after operations

/-- What holds of a step from within the source. -/
structure SafeStep (s : Session) (operation : Operation) : Prop where
  answers : ∀ abort, (s.step operation).1 ≠ .aborted abort
  source : (s.step operation).2.cursor.source = s.cursor.source
  forward : s.cursor.pos ≤ (s.step operation).2.cursor.pos
  within : (s.step operation).2.cursor.pos ≤ s.cursor.source.length
  takes : ∀ answer, (s.step operation).1 = .answered answer →
    s.cursor.pos + operation.least ≤ (s.step operation).2.cursor.pos
  stays : (s.step operation).1 = .refused → (s.step operation).2.cursor = s.cursor
  wordBreak : operation = .call .wordBreak → (s.step operation).2.cursor = s.cursor
  recorded : ∀ failure, (s.step operation).2.lastFailure = some failure →
    s.cursor.pos ≤ failure.position ∧ failure.position ≤ s.cursor.source.length

variable {s : Session}

/-- A step that moves on safely and leaves nothing in the slot. -/
theorem SafeStep.of_moved {operation : Operation} {answer : Answer} {after : Cursor}
    (hstep : s.step operation = (.answered answer, ⟨after, none⟩))
    (hafter : (Outcome.done answer after).Within s.cursor operation.least)
    (hbreak : operation = .call .wordBreak → after = s.cursor) : s.SafeStep operation := by
  obtain ⟨hsource, htaken, hlength⟩ := hafter
  exact {
    answers := by simp [hstep]
    source := by simpa [hstep] using hsource
    forward := by
      rw [hstep]
      show s.cursor.pos ≤ after.pos
      omega
    within := by simpa [hstep] using hlength
    takes := by simpa [hstep] using htaken
    stays := by simp [hstep]
    wordBreak := by simpa [hstep] using hbreak
    recorded := by simp [hstep] }

/-- A step that stays where it is and leaves a failure ahead of it in the slot. -/
theorem SafeStep.of_stayed {operation : Operation} {reply : Reply} {failure : Failure}
    (hs : s.cursor.Within) (hstep : s.step operation = (reply, ⟨s.cursor, some failure⟩))
    (hfailure : (Outcome.failed failure : Outcome Answer).Within s.cursor operation.least)
    (hreply : reply = .refused ∨ reply = .answered .nothing ∧ operation.least = 0) :
    s.SafeStep operation := by
  exact {
    answers := by obtain rfl | ⟨rfl, -⟩ := hreply <;> simp [hstep]
    source := by simp [hstep]
    forward := by simp [hstep]
    within := by simpa [hstep] using hs.le_length
    takes := by
      obtain rfl | ⟨rfl, hleast⟩ := hreply
      · simp [hstep]
      · simp [hstep, hleast]
    stays := by simp [hstep]
    wordBreak := by simp [hstep]
    recorded := by
      rw [hstep]
      rintro other ⟨⟩
      exact hfailure }

theorem step_call (s : Session) (parser : Call) :
    s.step (.call parser) =
      match parser.run s.cursor with
      | .done answer after => (.answered answer, ⟨after, none⟩)
      | .failed failure => (.refused, ⟨s.cursor, some failure⟩)
      | .aborted abort => (.aborted abort, ⟨s.cursor, none⟩) := by
  rw [step, Session.call, parser.record_tells s.cursor s.lastFailure]
  cases parser.run s.cursor <;> rfl

theorem step_skipBlank (s : Session) :
    s.step .skipBlank =
      match LiteralLexer.skipTrivia s.cursor with
      | .done () after => (.answered .nothing, ⟨after, none⟩)
      | .failed failure => (.answered .nothing, ⟨s.cursor, some failure⟩)
      | .aborted abort => (.aborted abort, ⟨s.cursor, none⟩) := by
  rw [step, Recording.skipBlank_runFrom, LiteralLexer.skipBlank]
  cases LiteralLexer.skipTrivia s.cursor <;> rfl

theorem wordBreak_run_done {c after : Cursor} {answer : Answer}
    (h : Call.wordBreak.run c = .done answer after) : after = c := by
  unfold Call.run at h
  dsimp only at h
  cases hbreak : LiteralLexer.wordBreak c with
  | done value last =>
    rw [hbreak] at h
    cases h
    exact Recording.wordBreak_done hbreak
  | failed failure => simp [hbreak, Outcome.map] at h
  | aborted abort => simp [hbreak, Outcome.map] at h

theorem call_safe (hs : s.cursor.Within) (parser : Call) : s.SafeStep (.call parser) := by
  have hrun := parser.run_within hs
  have hstep := s.step_call parser
  cases houtcome : parser.run s.cursor with
  | done answer after =>
    rw [houtcome] at hrun hstep
    refine .of_moved hstep hrun ?_
    rintro ⟨⟩
    exact wordBreak_run_done houtcome
  | failed failure =>
    rw [houtcome] at hrun hstep
    exact .of_stayed hs hstep hrun (.inl rfl)
  | aborted abort =>
    rw [houtcome] at hrun
    exact absurd hrun id

theorem skipBlank_safe (hs : s.cursor.Within) : s.SafeStep .skipBlank := by
  have hskip := skipTrivia_within hs
  have hstep := s.step_skipBlank
  cases houtcome : LiteralLexer.skipTrivia s.cursor with
  | done value after =>
    rw [houtcome] at hskip hstep
    refine .of_moved hstep ?_ (by simp)
    exact Outcome.Within.earlier hskip rfl (by simp only [Operation.least]; omega) (Int.le_refl _)
  | failed failure =>
    rw [houtcome] at hskip hstep
    exact .of_stayed hs hstep hskip (.inr ⟨rfl, rfl⟩)
  | aborted abort =>
    rw [houtcome] at hskip
    exact absurd hskip id

theorem step_safe (hs : s.cursor.Within) {operation : Operation} (h : operation.IsParser) :
    s.SafeStep operation := by
  cases operation with
  | call parser => exact call_safe hs parser
  | skipBlank => exact skipBlank_safe hs
  | ask query => exact absurd h id
  | advance count => exact absurd h id
  | finish => exact absurd h id
  | seek pos => exact absurd h id
  | expect text => exact absurd h id
  | forget => exact absurd h id

/-- A safe step leaves the session within its source. -/
theorem SafeStep.cursor_within {operation : Operation} (h : s.SafeStep operation)
    (hs : s.cursor.Within) : (s.step operation).2.cursor.Within := by
  have := hs.nonneg
  have := h.forward
  refine ⟨by omega, ?_⟩
  rw [h.source]
  exact h.within

theorem after_within (hs : s.cursor.Within) {operations : List Operation}
    (h : ∀ operation ∈ operations, operation.IsParser) :
    (s.after operations).cursor.Within ∧
      (s.after operations).cursor.source = s.cursor.source := by
  induction operations generalizing s with
  | nil => exact ⟨hs, rfl⟩
  | cons operation operations ih =>
    obtain ⟨hfirst, hothers⟩ := List.forall_mem_cons.mp h
    have hstep := step_safe hs hfirst
    obtain ⟨hwithin, hsource⟩ := ih (hstep.cursor_within hs) hothers
    exact ⟨hwithin, hsource.trans hstep.source⟩

/-- From any place in any source and with anything in the slot, every parser that a session calls
takes a safe step, and every piece that it reads on the way denotes a character or byte. -/
theorem after_step_safe (source : List Char) (start : Nat) (slot : Option Failure)
    (operations : List Operation) (operation : Operation) (hstart : start ≤ source.length)
    (h : ∀ called ∈ operations ++ [operation], called.IsParser) :
    let reached := after ⟨⟨source, start⟩, slot⟩ operations
    reached.cursor.source = source ∧ (0 ≤ reached.cursor.pos ∧ reached.cursor.pos ≤ source.length) ∧
      reached.SafeStep operation ∧
      ∀ alphabet first rest piece last, Piece.scan alphabet first ⟨rest, 0⟩ = .ok (piece, last) →
        alphabet.Holds piece.code ∧ piece.value.toNat = piece.code := by
  intro reached
  obtain ⟨hoperations, hoperation⟩ := List.forall_mem_append.mp h
  have hfirst : (⟨source, start⟩ : Cursor).Within := ⟨by simp, by simpa using hstart⟩
  obtain ⟨hwithin, hsource⟩ := after_within (s := ⟨⟨source, start⟩, slot⟩) hfirst hoperations
  refine ⟨hsource, ⟨hwithin.nonneg, ?_⟩, step_safe hwithin (hoperation operation (by simp)), ?_⟩
  · have := hwithin.le_length
    rwa [hsource] at this
  · intro alphabet first rest piece last hscan
    obtain ⟨more, -, hlegal, -⟩ := Piece.scan_eq_ok_iff.mp hscan
    exact ⟨hlegal.holds_code, hlegal.toNat_value⟩

/-- The source ends inside of the escape that the second parser meets. -/
theorem after_step_safe_truncated :
    (after ⟨⟨[' ', '\\', 'x'], 0⟩, none⟩ [.skipBlank, .call .wordBreak]).SafeStep (.call .text) :=
  (after_step_safe [' ', '\\', 'x'] 0 none [.skipBlank, .call .wordBreak] (.call .text)
    (by decide) (by decide)).2.2.1

end Session
end LiteralLexer
