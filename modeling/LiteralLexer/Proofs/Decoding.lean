import LiteralLexer.Proofs.BehindTrivia
import LiteralLexer.Proofs.SideChannel

/-!
Decoding is exact. A source is decoded just if it is a literal with trivia around it. Any other
source is told about with the one failure that it has: reading from the left, the first thing in it
that is neither trivia nor part of a literal.
-/
namespace LiteralLexer

open BlockComment (balance)

/-- The source is one literal with trivia in front of it and behind it. -/
structure Holds (source before token after : List Char) (value : LiteralValue) : Prop where
  source_eq : source = before ++ (token ++ after)
  before : Trivia before (token ++ after)
  token : Spells value token
  after : Trivia after []

/-- The failure of a source that is no literal with trivia around it. -/
inductive Rejection (source : List Char) : Failure → Prop where
  /-- A comment in front of the literal never closes. -/
  | openBefore {before rest : List Char} :
    source = before ++ rest → Trivia before rest → OpenComment rest →
    Rejection source (.openComment (balance rest) before.length)
  /-- No literal opens behind the trivia. -/
  | noLiteral {before rest : List Char} :
    source = before ++ rest → Trivia before rest → ¬StartsTrivia rest →
    (∀ kind : LiteralKind, ¬kind.Opens rest) →
    Rejection source
      ⟨.unknownLiteral, "Expected a literal", before.length,
        ["\"", "'", "b\"", "b'", "r\"", "r#"]⟩
  /-- The decoder of the literal that opens behind the trivia fails. -/
  | decoder {before more : List Char} {kind : LiteralKind} {failure : Failure} :
    source = before ++ (kind.opening ++ more) → Trivia before (kind.opening ++ more) →
    kind.Opens (kind.opening ++ more) →
    kind.decode (.between (before ++ kind.opening) more) = .failed failure →
    Rejection source failure
  /-- A comment behind the literal never closes. -/
  | openAfter {before token after rest : List Char} {value : LiteralValue} :
    source = before ++ (token ++ (after ++ rest)) → Trivia before (token ++ (after ++ rest)) →
    Spells value token → Trivia after rest → OpenComment rest →
    Rejection source (.openComment (balance rest) (before ++ token ++ after).length)
  /-- Something else stands behind the trivia that follows the literal. -/
  | trailing {before token after more : List Char} {value : LiteralValue} {found : Char} :
    source = before ++ (token ++ (after ++ found :: more)) →
    Trivia before (token ++ (after ++ found :: more)) → Spells value token →
    Trivia after (found :: more) → ¬StartsTrivia (found :: more) →
    Rejection source
      ⟨.trailingInput, "Unexpected input after literal: " ++ Cause.charText found,
        (before ++ token ++ after).length, []⟩

variable {source : List Char}

theorem Holds.decodeOutcome_eq {before token after : List Char} {value : LiteralValue}
    (hsize : source.length ≤ maxSourceSize) (h : Holds source before token after value) :
    decodeOutcome source = .ok (.of before value token) := by
  obtain ⟨rfl, hbefore, htoken, hafter⟩ := h
  have htrivia := optionalTrivia_done (before ++ token) hafter not_startsTrivia_nil
  rw [List.append_nil] at htrivia
  rw [decodeOutcome, if_neg (Nat.not_lt.mpr hsize), Cursor.mk_zero_eq_between,
    parseLiteral_token [] hbefore htoken, List.nil_append]
  simp only [htrivia, Cursor.between_current_nil]

theorem Rejection.decodeOutcome_eq {failure : Failure} (hsize : source.length ≤ maxSourceSize)
    (h : Rejection source failure) :
    decodeOutcome source = .error (.ofFailure source failure) := by
  rw [decodeOutcome, if_neg (Nat.not_lt.mpr hsize), Cursor.mk_zero_eq_between]
  cases h with
  | openBefore heq hbefore hopen =>
    subst heq
    rw [parseLiteral_open [] hbefore hopen, List.nil_append, Cause.at_unterminatedComment]
  | noLiteral heq hbefore hrest hopens =>
    subst heq
    rw [parseLiteral_behind [] hbefore hrest, literalAt, LiteralKind.at?_eq_none_iff.mpr hopens]
    rfl
  | @decoder before more kind failure heq hbefore hopens hdecode =>
    subst heq
    rw [parseLiteral_behind [] hbefore hopens.not_startsTrivia, List.nil_append, literalAt,
      LiteralKind.at?_eq_some_iff.mpr hopens]
    simp only [kind.advance_opening, hdecode, Outcome.bind_failed]
  | openAfter heq hbefore htoken hafter hopen =>
    subst heq
    rw [parseLiteral_token [] hbefore htoken, List.nil_append]
    simp only [optionalTrivia_open _ hafter hopen, Cause.at_unterminatedComment]
  | trailing heq hbefore htoken hafter hrest =>
    subst heq
    rw [parseLiteral_token [] hbefore htoken, List.nil_append]
    simp only [optionalTrivia_done _ hafter hrest, Cursor.between_current_cons,
      Cursor.between_pos]
    rfl

/-- Behind a literal there is either trivia up to the end or a reason to reject the source. -/
theorem holds_or_rejection_behind {before token rest : List Char} {value : LiteralValue}
    (hbefore : Trivia before (token ++ rest)) (htoken : Spells value token) :
    (∃ after, Holds (before ++ (token ++ rest)) before token after value) ∨
      ∃ failure, Rejection (before ++ (token ++ rest)) failure := by
  obtain ⟨after, last, rfl, hafter, hlast | hopen⟩ := exists_trivia rest
  · cases last with
    | nil =>
      rw [List.append_nil] at hbefore ⊢
      exact .inl ⟨after, rfl, hbefore, htoken, hafter⟩
    | cons found more => exact .inr ⟨_, .trailing rfl hbefore htoken hafter hlast⟩
  · exact .inr ⟨_, .openAfter rfl hbefore htoken hafter hopen⟩

/-- Every source is a literal with trivia around it, or it is rejected for some failure. -/
theorem holds_or_rejection (source : List Char) :
    (∃ before token after value, Holds source before token after value) ∨
      ∃ failure, Rejection source failure := by
  obtain ⟨before, rest, rfl, hbefore, hrest | hopen⟩ := exists_trivia source
  · by_cases hopens : ∃ kind : LiteralKind, kind.Opens rest
    · obtain ⟨kind, hkind⟩ := hopens
      obtain ⟨more, rfl⟩ := hkind.exists_eq
      cases hdecode : kind.decode (.between (before ++ kind.opening) more) with
      | done value last =>
        obtain ⟨tail, rest, rfl, hspells, rfl, rfl⟩ := LiteralKind.decode_eq_done_iff.mp hdecode
        rw [← List.append_assoc value.kind.opening] at hbefore ⊢
        obtain ⟨after, hholds⟩ | hrejection := holds_or_rejection_behind hbefore hspells
        · exact .inl ⟨before, _, after, value, hholds⟩
        · exact .inr hrejection
      | failed failure => exact .inr ⟨failure, .decoder rfl hbefore hkind hdecode⟩
      | aborted abort =>
        have hwithin := kind.decode_within (Cursor.between_within (before ++ kind.opening) more)
        rw [hdecode] at hwithin
        exact absurd hwithin id
    · exact .inr ⟨_, .noLiteral rfl hbefore hrest (not_exists.mp hopens)⟩
  · exact .inr ⟨_, .openBefore rfl hbefore hopen⟩

theorem decodeAfter_eq (slot : Option Failure) (source : List Char) :
    decodeAfter slot source = decodeOutcome source :=
  recordDecode_run .standard source slot

theorem Holds.unique {before token after before' token' after' : List Char}
    {value value' : LiteralValue} (hsize : source.length ≤ maxSourceSize)
    (h : Holds source before token after value) (h' : Holds source before' token' after' value') :
    before' = before ∧ token' = token ∧ after' = after ∧ value' = value := by
  have hliteral := (h'.decodeOutcome_eq hsize).symm.trans (h.decodeOutcome_eq hsize)
  simp only [Literal.of, Except.ok.injEq, Literal.mk.injEq, Option.some.injEq, Span.mk.injEq]
    at hliteral
  obtain ⟨hvalue, hstart, hstop⟩ := hliteral
  have hsource := h'.source_eq.symm.trans h.source_eq
  obtain ⟨hbefore, hrest⟩ := List.append_inj hsource hstart
  obtain ⟨htoken, hafter⟩ := List.append_inj hrest (by omega)
  exact ⟨hbefore, htoken, hafter, hvalue⟩

/-- A source is decoded just if it is one literal with trivia around it. There is only one way in
which it is, and what comes of it is the value of the literal with the place of its token. -/
theorem decode_eq_ok_iff (source : List Char) (hsize : source.length ≤ maxSourceSize)
    (slot : Option Failure) (literal : Literal) :
    (decodeAfter slot source = .ok literal ↔ ∃ before token after value,
      Holds source before token after value ∧ literal = .of before value token) ∧
      ∀ before token after value before' token' after' value',
        Holds source before token after value → Holds source before' token' after' value' →
        before' = before ∧ token' = token ∧ after' = after ∧ value' = value := by
  refine ⟨⟨?_, ?_⟩, fun _ _ _ _ _ _ _ _ h h' => h.unique hsize h'⟩
  · intro h
    rw [decodeAfter_eq] at h
    obtain ⟨before, token, after, value, hholds⟩ | ⟨failure, hrejection⟩ :=
      holds_or_rejection source
    · rw [hholds.decodeOutcome_eq hsize] at h
      cases h
      exact ⟨before, token, after, value, hholds, rfl⟩
    · rw [hrejection.decodeOutcome_eq hsize] at h
      cases h
  · rintro ⟨before, token, after, value, hholds, rfl⟩
    rw [decodeAfter_eq, hholds.decodeOutcome_eq hsize]

/-- A text with an escape in it, a blank in front of it, and a comment behind it that ends with the
source. -/
theorem decode_eq_ok_escape :
    decodeAfter none [' ', '"', 'a', '\\', 'n', '"', ' ', '/', '/', 'b'] =
      .ok (.of [' '] (.text ['a', '\n']) ['"', 'a', '\\', 'n', '"']) := by
  have hbody : BodyText .text ['a', '\\', 'n'] ['a', '\n'] :=
    .piece (by decide : (Piece.plain 'a').Legal .text) (by decide)
      (.piece (by decide : (Piece.simple .newline).Legal .text) (by decide) .nil)
  have htoken : Spells (.text ['a', '\n']) ['"', 'a', '\\', 'n', '"'] := .text hbody
  have hafter : Trivia [' ', '/', '/', 'b'] [] :=
    .item (.blank rfl) (.lastLine (by decide) (by decide))
  exact ((decode_eq_ok_iff [' ', '"', 'a', '\\', 'n', '"', ' ', '/', '/', 'b'] (by decide)
    none _).1).mpr ⟨[' '], _, _, _, ⟨rfl, .item (.blank rfl) .nil, htoken, hafter⟩, rfl⟩

/-- The failure of a rejected source has its place in the source. -/
theorem Rejection.position {failure : Failure} (h : Rejection source failure) :
    0 ≤ failure.position ∧ failure.position ≤ source.length := by
  cases h with
  | openBefore heq | noLiteral heq | openAfter heq | trailing heq =>
    subst heq
    simp only [Failure.openComment, List.length_append]
    omega
  | @decoder before more kind failure heq _ _ hdecode =>
    have hwithin := kind.decode_within (Cursor.between_within (before ++ kind.opening) more)
    rw [hdecode] at hwithin
    obtain ⟨hfrom, hto⟩ := hwithin
    rw [Cursor.between_pos] at hfrom
    rw [Cursor.between_source, List.append_assoc, ← heq] at hto
    exact ⟨by omega, hto⟩

/-- The span of a diagnostic is the place of the failure, if that is in the source. -/
theorem Failure.diagnose_span {failure : Failure} (h : 0 ≤ failure.position)
    (hle : failure.position ≤ source.length) :
    ∃ span, (failure.diagnose source).span = some span ∧
      (span.start : Int) = failure.position ∧ (span.stop : Int) = failure.position := by
  have hnearest : (nearestIn source.length failure.position : Int) = failure.position := by
    obtain ⟨n, hn⟩ := Int.eq_ofNat_of_zero_le h
    rw [hn, nearestIn_natCast (by omega)]
  exact ⟨_, rfl, hnearest, hnearest⟩

/-- Two failures in the source that are told about alike are the same failure. -/
theorem Failure.eq_of_diagnose_eq {failure other : Failure} (h : 0 ≤ failure.position)
    (hle : failure.position ≤ source.length) (hother : 0 ≤ other.position)
    (hotherle : other.position ≤ source.length)
    (heq : other.diagnose source = failure.diagnose source) : other = failure := by
  obtain ⟨span, hspan, hstart, -⟩ := diagnose_span h hle
  obtain ⟨span', hspan', hstart', -⟩ := diagnose_span hother hotherle
  rw [heq, hspan] at hspan'
  cases hspan'
  have hcode : other.code = failure.code := congrArg Diagnostic.code heq
  have hmessage : other.message = failure.message := congrArg Diagnostic.message heq
  have hexpected : other.expected = failure.expected := congrArg Diagnostic.expected heq
  have hposition : other.position = failure.position := hstart'.symm.trans hstart
  cases failure
  cases other
  simp only at hcode hmessage hexpected hposition
  rw [hcode, hmessage, hexpected, hposition]

theorem Rejection.unique {failure other : Failure} (hsize : source.length ≤ maxSourceSize)
    (h : Rejection source failure) (hother : Rejection source other) : other = failure := by
  have herror := (hother.decodeOutcome_eq hsize).symm.trans (h.decodeOutcome_eq hsize)
  simp only [DecodeError.ofFailure, Except.error.injEq, DecodeError.malformed.injEq] at herror
  exact Failure.eq_of_diagnose_eq h.position.1 h.position.2 hother.position.1 hother.position.2
    herror

/-- A source that is not decoded is told about with the one failure for which it is rejected. The
span of what is told is the place of that failure, which lies in the source, so it is nowhere moved
into the source. What would be told if no failure had been recorded has no part in it. -/
theorem decode_eq_error_iff (source : List Char) (hsize : source.length ≤ maxSourceSize)
    (slot : Option Failure) :
    (∀ error, decodeAfter slot source = .error error ↔
      ∃ failure, Rejection source failure ∧ error = .malformed (failure.diagnose source)) ∧
      (∀ failure, Rejection source failure →
        (∀ other, Rejection source other → other = failure) ∧
          failure.position ≤ source.length ∧
          ∃ span, (failure.diagnose source).span = some span ∧
            (span.start : Int) = failure.position ∧ (span.stop : Int) = failure.position) ∧
      ∀ fallback, ((recordDecode fallback source).run slot).1.1 = decodeAfter slot source := by
  refine ⟨fun error => ⟨?_, ?_⟩, fun failure h => ⟨fun other => h.unique hsize, ?_⟩, ?_⟩
  · intro h
    rw [decodeAfter_eq] at h
    obtain ⟨before, token, after, value, hholds⟩ | ⟨failure, hrejection⟩ :=
      holds_or_rejection source
    · rw [hholds.decodeOutcome_eq hsize] at h
      cases h
    · rw [hrejection.decodeOutcome_eq hsize] at h
      cases h
      exact ⟨failure, hrejection, rfl⟩
  · rintro ⟨failure, hrejection, rfl⟩
    rw [decodeAfter_eq, hrejection.decodeOutcome_eq hsize]
    rfl
  · exact ⟨h.position.2, failure.diagnose_span h.position.1 h.position.2⟩
  · intro fallback
    rw [recordDecode_run, decodeAfter_eq]

/-- A digit opens no literal. -/
theorem decode_eq_error_digit :
    decodeAfter none [' ', '1'] =
      .error (.malformed ((Cause.noLiteral.at 1).diagnose [' ', '1'])) := by
  have htrivia : Trivia [' '] ['1'] := .item (.blank rfl) .nil
  have hplain (mark : Char) : ¬PlainComment mark ['1'] := by
    intro h
    obtain ⟨more, hmore⟩ := h.exists_eq
    cases hmore
  have hrest : ¬StartsTrivia ['1'] := by
    rintro (⟨c, more, ⟨⟩, hblank⟩ | hline | hblock)
    · cases hblank
    · exact hplain '/' hline
    · exact hplain '*' hblock
  have hopens (kind : LiteralKind) : ¬kind.Opens ['1'] := by
    intro h
    obtain ⟨more, hmore⟩ := h.exists_eq
    cases kind <;> cases hmore
  exact ((decode_eq_error_iff [' ', '1'] (by decide) none).1 _).mpr
    ⟨_, .noLiteral rfl htrivia hrest hopens, rfl⟩

end LiteralLexer
