import LiteralLexer.Proofs.Decoding
import LiteralLexer.Proofs.FirstFault

/-!
What a source that is not decoded is told to lack. The tokens that could have stood at the place of
its failure are a choice of few fixed texts, with one exception: the close of a raw text has as many
markers as the opening, and the opening stands in the source.
-/
namespace LiteralLexer

/-- What is expected is one of a few fixed texts, or a close whose opening has room in `length`
characters with an `r` in front of it. -/
def Cause.ExpectsWithin (length : Nat) : Cause → Prop
  | .missingToken _ => False
  | .unterminatedRaw hashes => hashes + 2 ≤ length
  | _ => True

section
variable {alphabet : Alphabet} {chars behind ahead taken left source : List Char} {cause : Cause}
  {length : Nat} {failure : Failure}

theorem Cause.ExpectsWithin.mono (h : cause.ExpectsWithin length) {more : Nat}
    (hle : length ≤ more) : cause.ExpectsWithin more := by
  cases cause with
  | unterminatedRaw hashes => exact Nat.le_trans h hle
  | missingToken token => exact h
  | _ => trivial

theorem Piece.BracesFault.expectsWithin (h : BracesFault taken cause left) :
    cause.ExpectsWithin length := by
  cases h <;> trivial

theorem Piece.Fault.expectsWithin (h : Fault alphabet taken cause left) :
    cause.ExpectsWithin length := by
  cases h with
  | braces _ hfault => exact hfault.expectsWithin
  | _ => trivial

theorem Body.Fault.expectsWithin (h : Fault alphabet taken cause left) :
    cause.ExpectsWithin length := by
  cases h with
  | ended => trivial
  | piece _ _ hfault => exact hfault.expectsWithin

theorem readBody_expectsWithin (h : readBody alphabet ⟨chars, 0⟩ = .error (.fault cause left)) :
    cause.ExpectsWithin length := by
  obtain ⟨units, taken, _, _, hstop, -, -, hfault⟩ := Body.scan_eq_error_iff.mp h
  cases hstop
  exact hfault.expectsWithin

theorem readSingle_expectsWithin {allowEnd : Bool}
    (h : readSingle alphabet allowEnd ⟨chars, 0⟩ = .error (.fault cause left)) :
    cause.ExpectsWithin length := by
  cases chars with
  | nil =>
    cases h
    trivial
  | cons first after =>
    simp only [readSingle, Ahead.drop_mk_zero, List.drop_succ_cons, List.drop_zero] at h
    split at h
    · rename_i stop hscan
      cases h
      obtain ⟨taken, _, _, hstop, -, hfault⟩ := Piece.scan_eq_error_iff.mp hscan
      cases hstop
      exact hfault.expectsWithin
    · unfold closeSingle at h
      split at h
      · split at h
        · cases h
        · cases h
          trivial
      · split at h
        · cases h
        · cases h
          trivial

theorem RawText.read_expectsWithin (h : read ⟨chars, 0⟩ = .error (.fault cause left)) :
    cause.ExpectsWithin (chars.length + 1) := by
  obtain ⟨n, rest, rfl, hrest⟩ := exists_markers chars
  by_cases hquote : ∃ body, rest = '"' :: body
  · obtain ⟨body, rfl⟩ := hquote
    rw [read_markers] at h
    cases scan_error h
    simp only [Cause.ExpectsWithin, List.length_append, List.length_replicate, List.length_cons]
    omega
  · rw [read_not_quote n hrest (not_exists.mp hquote)] at h
    cases h
    trivial

/-- What fails at a cursor fails for a fault of its reading. -/
theorem Cursor.exists_expectsWithin {reader : Ahead → Reading α}
    (hreader : ∀ cause left, reader ⟨ahead, 0⟩ = .error (.fault cause left) →
      cause.ExpectsWithin length)
    (h : (between behind ahead).read reader = .failed failure) :
    ∃ (cause : Cause) (position : Int), failure = cause.at position ∧
      cause.ExpectsWithin length := by
  rw [between_read] at h
  cases hreading : reader ⟨ahead, 0⟩ with
  | ok result =>
    rw [hreading] at h
    cases h
  | error stop =>
    rw [hreading] at h
    cases stop with
    | fault cause left =>
      cases h
      exact ⟨cause, _, rfl, hreader cause left hreading⟩
    | abort abort => cases h

theorem LiteralKind.decode_expectsWithin {kind : LiteralKind}
    (h : kind.decode (.between behind ahead) = .failed failure) :
    ∃ (cause : Cause) (position : Int), failure = cause.at position ∧
      cause.ExpectsWithin (ahead.length + 1) := by
  have hmap := @Outcome.map_eq_failed_iff
  cases kind with
  | text =>
    rw [decode, hmap] at h
    exact Cursor.exists_expectsWithin (fun _ _ => readBody_expectsWithin) h
  | byteText =>
    rw [decode, decodeByteText, hmap, hmap] at h
    exact Cursor.exists_expectsWithin (fun _ _ => readBody_expectsWithin) h
  | char =>
    rw [decode, hmap] at h
    exact Cursor.exists_expectsWithin (fun _ _ => readSingle_expectsWithin) h
  | byte =>
    rw [decode, decodeByte, hmap, hmap] at h
    exact Cursor.exists_expectsWithin (fun _ _ => readSingle_expectsWithin) h
  | rawText =>
    rw [decode, hmap] at h
    exact Cursor.exists_expectsWithin (fun _ _ => RawText.read_expectsWithin) h

theorem Rejection.exists_cause (h : Rejection source failure) :
    ∃ (cause : Cause) (position : Int), failure = cause.at position ∧
      cause.ExpectsWithin source.length := by
  cases h with
  | openBefore | openAfter =>
    exact ⟨_, _, (Cause.at_unterminatedComment _ _).symm, trivial⟩
  | noLiteral => exact ⟨.noLiteral, _, rfl, trivial⟩
  | trailing => exact ⟨.trailing _, _, rfl, trivial⟩
  | @decoder before more kind failure heq _ _ hdecode =>
    obtain ⟨cause, position, rfl, hwithin⟩ := kind.decode_expectsWithin hdecode
    refine ⟨cause, position, rfl, hwithin.mono ?_⟩
    have hopening : 1 ≤ kind.opening.length := by cases kind <;> decide
    rw [heq, List.length_append, List.length_append]
    omega

end

/-- A source of markers with a quote behind them lacks the close of a raw text. -/
theorem Rejection.of_markers (n : Nat) :
    Rejection ('r' :: (List.replicate n '#' ++ ['"'])) ((Cause.unterminatedRaw n).at (n + 2)) := by
  have hopens : LiteralKind.rawText.Opens ('r' :: (List.replicate n '#' ++ ['"'])) := by
    cases n with
    | zero => exact ⟨['r', '"'], by decide, [], rfl⟩
    | succ n => exact ⟨['r', '#'], by decide, List.replicate n '#' ++ ['"'], rfl⟩
  have hopening : RawText.read ⟨List.replicate n '#' ++ ['"'], 0⟩ =
      .error (.fault (.unterminatedRaw n) []) := by
    rw [RawText.read_markers, RawText.scan, List.length_replicate]
  have hplace := Cursor.between_locate_fault (α := RawText) ['r'] (List.replicate n '#' ++ ['"'])
    (.unterminatedRaw n) []
  have hend : (['r'] ++ (List.replicate n '#' ++ ['"'])).length = n + 2 := by simp
  rw [List.append_nil, hend] at hplace
  have hread : (Cursor.between ['r'] (List.replicate n '#' ++ ['"'])).read RawText.read =
      .failed ((Cause.unterminatedRaw n).at (n + 2)) := by
    rw [Cursor.between_read, hopening, hplace]
    rfl
  have hsource : 'r' :: (List.replicate n '#' ++ ['"']) =
      [] ++ (LiteralKind.rawText.opening ++ (List.replicate n '#' ++ ['"'])) := rfl
  exact .decoder hsource .nil hopens (Outcome.map_eq_failed_iff.mpr hread)

/-- Where a source holds no literal, any of the openings is expected. -/
theorem Rejection.of_empty : Rejection [] (Cause.noLiteral.at 0) := by
  have hsource : ([] : List Char) = [] ++ [] := rfl
  refine .noLiteral hsource .nil not_startsTrivia_nil fun kind hopens => ?_
  obtain ⟨more, hmore⟩ := hopens.exists_eq
  cases kind <;> cases hmore

theorem decodeAfter_eq_malformed_iff {slot : Option Failure} {source : List Char} {d : Diagnostic} :
    decodeAfter slot source = .error (.malformed d) ↔
      source.length ≤ maxSourceSize ∧ ∃ failure, Rejection source failure ∧
        d = failure.diagnose source := by
  rw [decodeAfter_eq]
  constructor
  · intro h
    have hsize : source.length ≤ maxSourceSize := by
      by_contra hlong
      rw [decodeOutcome, if_pos (Nat.lt_of_not_le hlong)] at h
      cases h
    obtain ⟨before, token, after, value, hholds⟩ | ⟨failure, hrejection⟩ :=
      holds_or_rejection source
    · rw [hholds.decodeOutcome_eq hsize] at h
      cases h
    · rw [hrejection.decodeOutcome_eq hsize] at h
      cases h
      exact ⟨hsize, failure, hrejection, rfl⟩
  · rintro ⟨hsize, failure, hrejection, rfl⟩
    exact hrejection.decodeOutcome_eq hsize

end LiteralLexer
