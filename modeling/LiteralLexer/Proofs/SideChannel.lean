import LiteralLexer.Decode
import LiteralLexer.Session
import LiteralLexer.Proofs.Bounds

/-!
The slot of the last failure. Whatever a parser finds in the slot, what it gives and what it leaves
there are those of its outcome: nothing after a success, the failure itself after a failure. So the
parsers that go by the slot only ever go by a failure of their own call.
-/
namespace LiteralLexer

/-- What the caller of a parser with this outcome is given. -/
def Outcome.given : Outcome α → Except Abort (Option (α × Cursor))
  | done value after => .ok (some (value, after))
  | failed _ => .ok none
  | aborted abort => .error abort

/-- What a parser with this outcome leaves in the slot. -/
def Outcome.left : Outcome α → Option Failure
  | failed failure => some failure
  | done _ _ | aborted _ => none

@[simp] theorem Outcome.given_done (value : α) (after : Cursor) :
    (done value after).given = .ok (some (value, after)) := rfl
@[simp] theorem Outcome.given_failed (failure : Failure) :
    (failed failure : Outcome α).given = .ok none := rfl
@[simp] theorem Outcome.given_aborted (abort : Abort) :
    (aborted abort : Outcome α).given = .error abort := rfl
@[simp] theorem Outcome.left_done (value : α) (after : Cursor) :
    (done value after).left = none := rfl
@[simp] theorem Outcome.left_failed (failure : Failure) :
    (failed failure : Outcome α).left = some failure := rfl
@[simp] theorem Outcome.left_aborted (abort : Abort) :
    (aborted abort : Outcome α).left = none := rfl

theorem Outcome.given_eq_some_iff {o : Outcome α} {value : α} {after : Cursor} :
    o.given = .ok (some (value, after)) ↔ o = .done value after := by
  cases o <;> simp

theorem Outcome.told_failed_iff {o : Outcome α} {failure : Failure} :
    (o.given, o.left) = (.ok none, some failure) ↔ o = .failed failure := by
  cases o <;> simp

namespace Recording

theorem runFrom_bind (slot : Option Failure) (r : Recording α) (next : α → Recording β) :
    (r >>= next).runFrom slot =
      match r.runFrom slot with
      | (.ok value, slot) => (next value).runFrom slot
      | (.error abort, slot) => (.error abort, slot) := by
  simp only [runFrom, ExceptT.run_bind, StateT.run_bind]
  obtain ⟨result, slot⟩ := (ExceptT.run r).run slot
  cases result <;> rfl

@[simp] theorem runFrom_map (slot : Option Failure) (f : α → β) (r : Recording α) :
    (f <$> r).runFrom slot = ((r.runFrom slot).1.map f, (r.runFrom slot).2) := by
  rw [map_eq_pure_bind, runFrom_bind]
  obtain ⟨result, slot⟩ := r.runFrom slot
  cases result <;> rfl

@[simp] theorem runFrom_pure (slot : Option Failure) (value : α) :
    (pure value : Recording α).runFrom slot = (.ok value, slot) := rfl

@[simp] theorem runFrom_lastFailure (slot : Option Failure) :
    lastFailure.runFrom slot = (.ok slot, slot) := rfl

/-- The run comes to this outcome, whatever it finds in the slot. -/
def Tells (r : Recording (Option (α × Cursor))) (o : Outcome α) : Prop :=
  ∀ slot, r.runFrom slot = (o.given, o.left)

theorem hand_runFrom_none (o : Outcome α) : (hand o).runFrom none = (o.given, o.left) := by
  cases o <;> rfl

theorem handFresh_tells (o : Outcome α) : Tells (handFresh o) o := by
  intro slot
  rw [handFresh, runFrom_bind]
  exact hand_runFrom_none o

theorem Tells.mapValue {r : Recording (Option (α × Cursor))} {o : Outcome α} (h : Tells r o)
    (f : α → β) : Tells (r.mapValue f) (o.map f) := by
  intro slot
  rw [Recording.mapValue, runFrom_bind, h slot]
  cases o <;> rfl

/-- The failure of a block comment is recorded under a code that only it has. -/
theorem blockComment_scan_code {depth : Int} {chars rest : List Char} {seam : Nat} {cause : Cause}
    (h : BlockComment.scan depth chars seam = .error (.fault cause rest)) :
    cause.code = .unterminatedBlockComment := by
  fun_induction BlockComment.scan depth chars seam with
  | case1 _ _ _ _ _ _ _ ih => exact ih h
  | case2 => cases h
  | case3 _ _ _ _ _ _ _ _ _ ih => exact ih h
  | case4 _ _ _ _ _ _ _ _ ih => exact ih h
  | case5 => cases h; rfl

theorem readTrivia_code {ahead : Ahead} {cause : Cause} {rest : List Char}
    (h : readTrivia ahead = .error (.fault cause rest)) :
    cause.code = .unterminatedBlockComment := by
  fun_induction readTrivia ahead with
  | case1 => cases h
  | case2 _ _ _ _ _ ih => exact ih h
  | case3 _ _ _ _ _ stop hread =>
    cases h
    unfold BlockComment.read at hread
    split at hread
    · rename_i hscan
      cases hread
      exact blockComment_scan_code hscan
    · rename_i hscan
      exact blockComment_scan_code hread
  | case4 _ _ _ _ _ _ _ ih => exact ih h
  | case5 _ _ _ _ _ _ _ ih => exact ih h
  | case6 => cases h

theorem optionalTrivia_failed_code {c : Cursor} {failure : Failure}
    (h : LiteralLexer.optionalTrivia c = .failed failure) :
    failure.code = .unterminatedBlockComment := by
  unfold LiteralLexer.optionalTrivia at h
  split at h
  · cases h
  · unfold Cursor.locate at h
    split at h
    · cases h
    · rename_i hread
      cases h
      exact readTrivia_code hread
    · cases h

theorem optionalTrivia_done_source {c after : Cursor}
    (h : LiteralLexer.optionalTrivia c = .done () after) : after.source = c.source := by
  unfold LiteralLexer.optionalTrivia at h
  split at h
  · cases h
  · unfold Cursor.locate at h
    split at h <;> cases h
    rfl

/-- Skipping trivia fails in two ways, and the code that it has just recorded tells them apart. -/
theorem optionalTrivia_tells (c : Cursor) :
    Tells (optionalTrivia c) (LiteralLexer.optionalTrivia c) := by
  intro slot
  rw [optionalTrivia, runFrom_bind, skipTrivia, handFresh_tells (LiteralLexer.skipTrivia c) slot]
  unfold LiteralLexer.skipTrivia
  cases hskip : LiteralLexer.optionalTrivia c with
  | done value after =>
    by_cases hpos : after.pos = c.pos
    · have hsame : after = c := by
        have hsource := optionalTrivia_done_source hskip
        cases after
        cases c
        simp_all
      rw [hsame, Outcome.bind_done, if_pos rfl]
      rfl
    · rw [Outcome.bind_done, if_neg hpos]
      rfl
  | failed failure =>
    have hcode := optionalTrivia_failed_code hskip
    simp only [Outcome.bind_failed, Outcome.given_failed, Outcome.left_failed, runFrom_bind,
      runFrom_lastFailure, hcode, ↓reduceIte, runFrom_pure]
  | aborted abort => rfl

theorem skipBlank_runFrom (c : Cursor) (slot : Option Failure) :
    (skipBlank c).runFrom slot =
      (LiteralLexer.skipBlank c, (LiteralLexer.skipTrivia c).left) := by
  rw [skipBlank, runFrom_bind, skipTrivia, handFresh_tells (LiteralLexer.skipTrivia c) slot,
    LiteralLexer.skipBlank]
  cases LiteralLexer.skipTrivia c <;> rfl

theorem punct_tells (c : Cursor) (token : List Char) :
    Tells (punct c token) (LiteralLexer.punct c token) := by
  intro slot
  rw [punct, runFrom_bind, optionalTrivia_tells c slot, LiteralLexer.punct]
  cases LiteralLexer.optionalTrivia c with
  | done value start => exact hand_runFrom_none (tokenAt token start)
  | failed failure => rfl
  | aborted abort => rfl

/-- A word break takes nothing. -/
theorem wordBreak_done {c after : Cursor} (h : LiteralLexer.wordBreak c = .done () after) :
    after = c := by
  unfold LiteralLexer.wordBreak Cursor.read at h
  dsimp only at h
  cases hrange : c.outOfRange with
  | true => simp [hrange] at h
  | false =>
    cases hchars : c.ahead.chars with
    | nil => simpa [hrange, hchars, Cursor.locate, Cursor.place] using h.symm
    | cons found rest =>
      cases hword : isWordChar found with
      | true => simp [hrange, hchars, hword, Cursor.locate] at h
      | false => simpa [hrange, hchars, hword, Cursor.locate, Cursor.place] using h.symm

theorem keyword_tells (c : Cursor) (token : List Char) :
    Tells (keyword c token) (LiteralLexer.keyword c token) := by
  intro slot
  rw [keyword, runFrom_bind, punct_tells c token slot, LiteralLexer.keyword]
  cases LiteralLexer.punct c token with
  | done token after =>
    simp only [Outcome.given_done, Outcome.left_done, Outcome.bind_done, runFrom_bind, wordBreak,
      handFresh_tells (LiteralLexer.wordBreak after) none]
    cases hbreak : LiteralLexer.wordBreak after with
    | done value last =>
      rw [wordBreak_done hbreak]
      rfl
    | failed failure => rfl
    | aborted abort => rfl
  | failed failure => rfl
  | aborted abort => rfl

theorem literalAt_tells (c : Cursor) : Tells (literalAt c) (LiteralLexer.literalAt c) := by
  intro slot
  unfold literalAt LiteralLexer.literalAt
  cases LiteralKind.at? c with
  | none => rfl
  | some kind =>
    simp only [runFrom_bind, handFresh_tells _ slot]
    cases kind.decode (c.advance kind.openingLength) with
    | done value after => exact hand_runFrom_none (spanned c value after)
    | failed failure => rfl
    | aborted abort => rfl

/-- Reading a literal also tells some events, and these too do not depend on the slot. -/
theorem traceLiteral_runFrom (c : Cursor) : ∃ events, ∀ slot,
    (traceLiteral c).runFrom slot =
      ((LiteralLexer.parseLiteral c).given.map fun given => (given, events),
        (LiteralLexer.parseLiteral c).left) := by
  unfold traceLiteral LiteralLexer.parseLiteral
  cases htrivia : LiteralLexer.optionalTrivia c with
  | done value start =>
    cases hliteral : LiteralLexer.literalAt start with
    | done literal after =>
      refine ⟨[.parsed literal.kind start.pos after.pos], fun slot => ?_⟩
      simp [runFrom_bind, optionalTrivia_tells c slot, htrivia, literalAt_tells start none,
        hliteral, Except.map]
    | failed failure =>
      refine ⟨[.noLiteral start.pos failure.message], fun slot => ?_⟩
      simp [runFrom_bind, optionalTrivia_tells c slot, htrivia, literalAt_tells start none,
        hliteral, Except.map]
    | aborted abort =>
      refine ⟨[], fun slot => ?_⟩
      simp [runFrom_bind, optionalTrivia_tells c slot, htrivia, literalAt_tells start none,
        hliteral, Except.map]
  | failed failure =>
    refine ⟨[.openCommentBefore c.pos], fun slot => ?_⟩
    simp [runFrom_bind, optionalTrivia_tells c slot, htrivia, Except.map]
  | aborted abort =>
    refine ⟨[], fun slot => ?_⟩
    simp [runFrom_bind, optionalTrivia_tells c slot, htrivia, Except.map]

theorem parseLiteral_tells (c : Cursor) :
    Tells (parseLiteral c) (LiteralLexer.parseLiteral c) := by
  intro slot
  obtain ⟨events, hevents⟩ := traceLiteral_runFrom c
  rw [parseLiteral, runFrom_bind, hevents slot]
  cases LiteralLexer.parseLiteral c <;> rfl

end Recording

/-- Each call comes to the outcome that its parser has without a slot. -/
theorem Call.record_tells (call : Call) (c : Cursor) :
    Recording.Tells (call.record c) (call.run c) := by
  cases call with
  | text => exact (Recording.handFresh_tells _).mapValue Answer.text
  | byteText => exact (Recording.handFresh_tells _).mapValue Answer.byteText
  | char allowEnd =>
    exact (Recording.handFresh_tells _).mapValue fun value => Answer.text [value]
  | byte allowEnd => exact (Recording.handFresh_tells _).mapValue Answer.byte
  | rawText => exact (Recording.handFresh_tells _).mapValue Answer.rawText
  | blockComment => exact (Recording.handFresh_tells _).mapValue Answer.text
  | skipTrivia => exact (Recording.handFresh_tells _).mapValue fun _ => Answer.nothing
  | wordBreak => exact (Recording.handFresh_tells _).mapValue fun _ => Answer.nothing
  | optionalTrivia => exact (Recording.optionalTrivia_tells c).mapValue fun _ => Answer.nothing
  | punct token => exact (Recording.punct_tells c token).mapValue Answer.text
  | keyword token => exact (Recording.keyword_tells c token).mapValue Answer.text
  | literal => exact (Recording.parseLiteral_tells c).mapValue Answer.literal

theorem stateM_run_bind (m : StateM σ α) (next : α → StateM σ β) (s : σ) :
    (m >>= next).run s = (next (m.run s).1).run (m.run s).2 := rfl

/-- What decoding a source comes to when no slot has a part in it. -/
def decodeOutcome (source : List Char) : Except DecodeError Literal :=
  if maxSourceSize < source.length then .error (.tooLong source.length)
  else
    match parseLiteral ⟨source, 0⟩ with
    | .aborted abort => .error (.aborted abort)
    | .failed failure => .error (.ofFailure source failure)
    | .done literal after =>
      match optionalTrivia after with
      | .aborted abort => .error (.aborted abort)
      | .failed failure => .error (.ofFailure source failure)
      | .done () last =>
        match last.current with
        | .ok found => .error (.ofFailure source ((Cause.trailing found).at last.pos))
        | .error _ => .ok literal

/-- Decoding never falls back on a failure of its own: where it looks into the slot, the parser
that has just failed has left one there. -/
theorem recordDecode_run (fallback : Fallback) (source : List Char) (slot : Option Failure) :
    ((recordDecode fallback source).run slot).1.1 = decodeOutcome source := by
  unfold recordDecode decodeOutcome
  split
  · rfl
  · obtain ⟨events, hevents⟩ := Recording.traceLiteral_runFrom ⟨source, 0⟩
    have hliteral := hevents slot
    unfold Recording.runFrom at hliteral
    rw [stateM_run_bind, hliteral]
    cases parseLiteral ⟨source, 0⟩ with
    | failed failure => rfl
    | aborted abort => rfl
    | done literal after =>
      have htrivia := Recording.optionalTrivia_tells after none
      unfold Recording.runFrom at htrivia
      simp only [Outcome.given_done, Outcome.left_done, Except.map, stateM_run_bind, htrivia]
      cases optionalTrivia after with
      | failed failure => rfl
      | aborted abort => rfl
      | done value last =>
        simp only [Outcome.given_done, Outcome.left_done]
        cases last.current <;> rfl

end LiteralLexer
