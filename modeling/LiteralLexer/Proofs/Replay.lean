import LiteralLexer.Proofs.Progress
import LiteralLexer.Proofs.SideChannel

/-!
Calls one after the other. Each call has a cursor of its own, and all of them share the slot of the
last failure. What a call gives and what it leaves in the slot do not depend on the calls before it,
and a call at a position that is not in front of its source never aborts.
-/
namespace LiteralLexer

/-- A cursor past the end of its source. -/
def Cursor.Past (c : Cursor) : Prop := (c.source.length : Int) < c.pos

namespace Cursor.Past

variable {c : Cursor}

theorem ahead_eq (h : c.Past) : c.ahead = ⟨[], 0⟩ := by
  unfold Cursor.Past at h
  have hpos : 0 ≤ c.pos := by omega
  have hdrop : c.source.drop c.pos.toNat = [] := List.drop_eq_nil_of_le (by omega)
  rw [Cursor.ahead, if_pos hpos, hdrop]

theorem outOfRange_eq (h : c.Past) : c.outOfRange = false := by
  unfold Cursor.Past at h
  exact decide_eq_false (by omega)

theorem startsWith_eq (h : c.Past) (pattern : List Char) : c.startsWith pattern = false := by
  have hle : ¬c.pos ≤ c.source.length := by
    unfold Cursor.Past at h
    omega
  rw [Cursor.startsWith, decide_eq_false hle, Bool.false_and]

theorem optionalTrivia_eq (h : c.Past) : optionalTrivia c = .done () c := by
  have hread : readTrivia ⟨[], 0⟩ = .ok ((), ⟨[], 0⟩) := by simp [readTrivia]
  simp [optionalTrivia, h.outOfRange_eq, h.ahead_eq, hread, Cursor.locate, Cursor.place]

theorem wordBreak_eq (h : c.Past) : wordBreak c = .done () c := by
  simp [wordBreak, Cursor.read, h.outOfRange_eq, h.ahead_eq, Cursor.locate, Cursor.place]

theorem literalAt_eq (h : c.Past) : literalAt c = .failed (Cause.noLiteral.at c.pos) := by
  have hkind : LiteralKind.at? c = none := by
    apply List.find?_eq_none.mpr
    intro kind _
    simp [h.startsWith_eq]
  rw [literalAt, hkind]

end Cursor.Past

/-- Past the end there is nothing to take: a call is done where it is, or it fails. -/
theorem Call.run_past {c : Cursor} (h : c.Past) (call : Call) :
    (∃ answer, call.run c = .done answer c) ∨
      ∃ cause : Cause, call.run c = .failed (cause.at c.pos) := by
  have hread {α : Type} (reader : Ahead → Reading α) {cause : Cause}
      (hr : reader ⟨[], 0⟩ = .error (.fault cause [])) :
      c.read reader = .failed (cause.at c.pos) := by
    simp [Cursor.read, h.outOfRange_eq, h.ahead_eq, hr, Cursor.locate, Cursor.place]
  have hbody (alphabet : Alphabet) :
      readBody alphabet ⟨[], 0⟩ = .error (.fault (.unterminatedBody alphabet) []) := by
    simp [readBody, Body.scan]
  cases call with
  | text =>
    refine .inr ⟨.unterminatedBody .text, ?_⟩
    rw [run, decodeText, hread _ (hbody .text)]
    rfl
  | byteText =>
    refine .inr ⟨.unterminatedBody .bytes, ?_⟩
    rw [run, decodeByteText, hread _ (hbody .bytes)]
    rfl
  | char allowEnd =>
    refine .inr ⟨.emptySingle .text, ?_⟩
    rw [run, decodeChar, hread _ rfl]
    rfl
  | byte allowEnd =>
    refine .inr ⟨.emptySingle .bytes, ?_⟩
    rw [run, decodeByte, hread _ rfl]
    rfl
  | rawText =>
    refine .inr ⟨.badRawDelimiter, ?_⟩
    rw [run, decodeRawText, hread _ rfl]
    rfl
  | blockComment =>
    refine .inr ⟨.noComment, ?_⟩
    simp [run, LiteralLexer.blockComment, h.startsWith_eq, Outcome.map]
  | skipTrivia =>
    refine .inr ⟨.noTrivia, ?_⟩
    simp [run, LiteralLexer.skipTrivia, h.optionalTrivia_eq, Outcome.map]
  | optionalTrivia =>
    refine .inl ⟨.nothing, ?_⟩
    simp [run, h.optionalTrivia_eq, Outcome.map]
  | wordBreak =>
    refine .inl ⟨.nothing, ?_⟩
    simp [run, h.wordBreak_eq, Outcome.map]
  | punct token =>
    refine .inr ⟨.missingToken token, ?_⟩
    simp [run, LiteralLexer.punct, h.optionalTrivia_eq, tokenAt, h.startsWith_eq, Outcome.map]
  | keyword token =>
    refine .inr ⟨.missingToken token, ?_⟩
    simp [run, LiteralLexer.keyword, LiteralLexer.punct, h.optionalTrivia_eq, tokenAt,
      h.startsWith_eq, Outcome.map]
  | literal =>
    refine .inr ⟨.noLiteral, ?_⟩
    simp [run, parseLiteral, h.optionalTrivia_eq, h.literalAt_eq, Outcome.map]

/-- What the caller gets of a call, with what the slot then holds. -/
abbrev Shown := Except Abort (Option (Answer × Cursor)) × Option Failure

/-- The call has succeeded and left the slot empty, or it has failed and left a failure there. -/
def Shown.Agrees (shown : Shown) : Prop :=
  (∃ answer after, shown = (.ok (some (answer, after)), none)) ∨
    ∃ failure, shown = (.ok none, some failure)

/-- Runs calls one after the other, the first one against `slot`. -/
def replay : List (Call × Cursor) → Option Failure → List Shown
  | [], _ => []
  | (call, c) :: calls, slot =>
    let shown := (call.record c).runFrom slot
    shown :: replay calls shown.2

theorem Call.run_ne_aborted {c : Cursor} (hpos : 0 ≤ c.pos) (call : Call) (abort : Abort) :
    call.run c ≠ .aborted abort := by
  by_cases hle : c.pos ≤ c.source.length
  · have h := call.run_within ⟨hpos, hle⟩
    intro heq
    rw [heq] at h
    exact h
  · have hpast : c.Past := by
      unfold Cursor.Past
      omega
    obtain ⟨answer, h⟩ | ⟨cause, h⟩ := call.run_past hpast <;> simp [h]

theorem Call.record_agrees {c : Cursor} (hpos : 0 ≤ c.pos) (call : Call) (slot : Option Failure) :
    Shown.Agrees ((call.record c).runFrom slot) := by
  rw [call.record_tells c slot]
  cases hrun : call.run c with
  | done answer after => exact .inl ⟨answer, after, rfl⟩
  | failed failure => exact .inr ⟨failure, rfl⟩
  | aborted abort => exact absurd hrun (call.run_ne_aborted hpos abort)

/-- A call takes no notice of the slot, so a run of calls is as if each found it empty. -/
theorem replay_eq_map (calls : List (Call × Cursor)) (slot : Option Failure) :
    replay calls slot = calls.map fun entry => (entry.1.record entry.2).runFrom none := by
  induction calls generalizing slot with
  | nil => rfl
  | cons entry calls ih =>
    obtain ⟨call, c⟩ := entry
    rw [replay, ih, List.map_cons, call.record_tells c slot, call.record_tells c none]

theorem skipBlank_eq_ok {c : Cursor} (hpos : 0 ≤ c.pos) : ∃ after, skipBlank c = .ok after := by
  have h := Call.run_ne_aborted hpos .skipTrivia
  unfold skipBlank
  cases hskip : skipTrivia c with
  | done value after => exact ⟨after, rfl⟩
  | failed failure => exact ⟨c, rfl⟩
  | aborted abort => simp [Call.run, hskip, Outcome.map] at h

/-- The slot carries nothing from one call to another. Each call gives and leaves what it would if
the slot had been empty, so a failure that is found there is the call's own; it is found there just
if the call has failed. Skipping blanks and decoding do not depend on the slot either. -/
theorem replay_independent (calls : List (Call × Cursor)) (hpos : ∀ entry ∈ calls, 0 ≤ entry.2.pos)
    (slot : Option Failure) :
    (replay calls slot = calls.map fun entry => (entry.1.record entry.2).runFrom none) ∧
      (∀ shown ∈ replay calls slot, shown.Agrees) ∧
      (∀ c : Cursor, 0 ≤ c.pos →
        ∃ after, ∀ found, ((Recording.skipBlank c).runFrom found).1 = .ok after) ∧
      ∀ source, decodeAfter slot source = decodeAfter none source := by
  refine ⟨replay_eq_map calls slot, ?_, ?_, ?_⟩
  · intro shown hshown
    rw [replay_eq_map] at hshown
    obtain ⟨entry, hentry, rfl⟩ := List.mem_map.mp hshown
    exact Call.record_agrees (hpos entry hentry) entry.1 none
  · intro c hc
    obtain ⟨after, hafter⟩ := skipBlank_eq_ok hc
    refine ⟨after, fun found => ?_⟩
    rw [Recording.skipBlank_runFrom, hafter]
  · intro source
    rw [decodeAfter, decodeAfter, recordDecode_run, recordDecode_run]

/-- The failure of an open comment, left by an earlier call, has no part in skipping trivia. -/
theorem replay_after_open_comment :
    replay [(.optionalTrivia, ⟨['a'], 0⟩), (.wordBreak, ⟨['a'], 0⟩)]
        (some ((Cause.unterminatedComment 1).at 0)) =
      [(Call.optionalTrivia.record ⟨['a'], 0⟩).runFrom none,
        (Call.wordBreak.record ⟨['a'], 0⟩).runFrom none] :=
  (replay_independent _ (by decide) _).1

end LiteralLexer
