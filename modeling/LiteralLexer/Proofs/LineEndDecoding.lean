import LiteralLexer.Proofs.Decoding
import LiteralLexer.Proofs.LineEndReading

/-!
Sources with line ends of either kind. Decoding tells no more of the line ends in a source than how
the lines are counted: a source and its image in which a CR stands in front of every LF hold the
same literal, or they have the same thing wrong with them in the same line and column.
-/
namespace LiteralLexer

/-- The place in the image of a source that belongs to the place between two texts. -/
def Cursor.image (behind ahead : List Char) : Cursor :=
  .between (crlf false behind) (crlf (returnAfter false behind) ahead)

/-- How an outcome at the place between two texts and one at its image go together, if values are
looked at through `view`. -/
inductive Outcome.Alike (view : α → β) (behind ahead : List Char) :
    Outcome α → Outcome α → Prop where
  | done {value value' : α} (taken rest : List Char) :
    ahead = taken ++ rest → view value = view value' →
    Alike view behind ahead (.done value (.between (behind ++ taken) rest))
      (.done value' (.image (behind ++ taken) rest))
  | failed {cause cause' : Cause} (taken rest : List Char) :
    ahead = taken ++ rest → cause.Alike cause' →
    Alike view behind ahead (.failed (cause.at (behind ++ taken).length))
      (.failed (cause'.at (crlf false (behind ++ taken)).length))

/-- What is told of two sources goes together: the literals have the same value, or the diagnostics
differ in nothing but what their messages quote and in how characters are counted. -/
inductive DecodesAlike : Except DecodeError Literal → Except DecodeError Literal → Prop where
  | decoded {literal literal' : Literal} : literal.value = literal'.value →
    DecodesAlike (.ok literal) (.ok literal')
  | malformed {diagnostic diagnostic' : Diagnostic} {span span' : SourceSpan} :
    diagnostic.code = diagnostic'.code → diagnostic.expected = diagnostic'.expected →
    diagnostic.hint = diagnostic'.hint → diagnostic.span = some span →
    diagnostic'.span = some span' → span.line = span'.line → span.column = span'.column →
    DecodesAlike (.error (.malformed diagnostic)) (.error (.malformed diagnostic'))

open Outcome (Alike)

variable {behind ahead : List Char}

theorem Cursor.image_append (behind taken rest : List Char) :
    image behind (taken ++ rest) =
      between (crlf false behind) (crlf (returnAfter false behind) taken ++
        crlf (returnAfter false (behind ++ taken)) rest) := by
  rw [image, crlf_append, returnAfter_append]

/-- Readings that go together do so at a cursor. -/
theorem Reading.Alike.locate {view : α → β} {r r' : Reading α}
    (h : Reading.Alike view (returnAfter false behind) ahead r r') :
    Outcome.Alike view behind ahead ((Cursor.between behind ahead).locate r)
      ((Cursor.image behind ahead).locate r') := by
  cases h with
  | @ok value value' last rest hreach hview =>
    obtain ⟨taken, rfl, rfl⟩ := hreach.exists_taken
    rw [Cursor.image_append, ← returnAfter_append, Cursor.between_locate_ok,
      Cursor.between_locate_ok, ← crlf_append]
    exact .done taken rest rfl hview
  | @fault cause cause' last rest hreach hcause =>
    obtain ⟨taken, rfl, rfl⟩ := hreach.exists_taken
    rw [Cursor.image_append, ← returnAfter_append, Cursor.between_locate_fault,
      Cursor.between_locate_fault, ← crlf_append]
    exact .failed taken rest rfl hcause

section
variable {view : α → β} {o o' : Outcome α}

theorem Outcome.Alike.after {taken rest : List Char} (h : Alike view (behind ++ taken) rest o o') :
    Alike view behind (taken ++ rest) o o' := by
  cases h with
  | done more last heq hview =>
    rw [List.append_assoc]
    exact .done (taken ++ more) last (by rw [heq, List.append_assoc]) hview
  | failed more last heq hcause =>
    rw [List.append_assoc]
    exact .failed (taken ++ more) last (by rw [heq, List.append_assoc]) hcause

theorem Outcome.Alike.done_here {value value' : α} (h : view value = view value') :
    Alike view behind ahead (.done value (.between behind ahead))
      (.done value' (.image behind ahead)) := by
  have hdone : Alike view behind ahead (.done value (.between (behind ++ []) ahead))
      (.done value' (.image (behind ++ []) ahead)) := .done [] ahead rfl h
  rwa [List.append_nil] at hdone

theorem Outcome.Alike.failed_here {cause cause' : Cause} (h : cause.Alike cause') :
    Alike view behind ahead (.failed (cause.at behind.length))
      (.failed (cause'.at (crlf false behind).length)) := by
  have hfailed : Alike view behind ahead (.failed (cause.at (behind ++ []).length))
      (.failed (cause'.at (crlf false (behind ++ [])).length)) := .failed [] ahead rfl h
  rwa [List.append_nil] at hfailed

theorem Outcome.Alike.bind {view' : γ → δ} {next : α → Cursor → Outcome γ}
    {next' : α → Cursor → Outcome γ} (h : Alike view behind ahead o o')
    (hnext : ∀ value value' taken rest, ahead = taken ++ rest → view value = view value' →
      Alike view' (behind ++ taken) rest (next value (.between (behind ++ taken) rest))
        (next' value' (.image (behind ++ taken) rest))) :
    Alike view' behind ahead (o.bind next) (o'.bind next') := by
  cases h with
  | done taken rest heq hview =>
    subst heq
    exact (hnext _ _ taken rest rfl hview).after
  | failed taken rest heq hcause => exact .failed taken rest heq hcause

theorem Outcome.Alike.map (f : α → γ) {o o' : Outcome α} (h : Alike id behind ahead o o') :
    Alike id behind ahead (o.map f) (o'.map f) :=
  h.bind fun _ _ _ _ _ hvalue => .done_here (congrArg f hvalue)

end

theorem optionalTrivia_alike (behind ahead : List Char) :
    Alike id behind ahead (optionalTrivia (.between behind ahead))
      (optionalTrivia (.image behind ahead)) := by
  rw [Cursor.image, optionalTrivia_between, optionalTrivia_between]
  exact (readTrivia_alike _ ahead).locate

theorem LiteralKind.opens_crlf_iff {b : Bool} {kind : LiteralKind} {text : List Char} :
    kind.Opens (crlf b text) ↔ kind.Opens text := by
  have hinline : ∀ opening ∈ kind.openings, Inline opening := by
    cases kind <;> decide
  exact exists_congr fun opening => and_congr_right fun hopening =>
    prefix_crlf_iff (hinline opening hopening)

theorem LiteralKind.at?_image (behind ahead : List Char) :
    at? (.image behind ahead) = at? (.between behind ahead) := by
  ext kind
  rw [Cursor.image, at?_eq_some_iff, at?_eq_some_iff, opens_crlf_iff]

/-- Moving on past an opening is moving on past it in the image. -/
theorem LiteralKind.advance_image (kind : LiteralKind) (behind more : List Char) :
    (Cursor.image behind (kind.opening ++ more)).advance kind.openingLength =
      .image (behind ++ kind.opening) more := by
  have hopening : crlf (returnAfter false behind) kind.opening = kind.opening :=
    crlf_of_notMem (by cases kind <;> decide)
  rw [Cursor.image_append, hopening, kind.advance_opening, Cursor.image, crlf_append, hopening]

theorem LiteralKind.decode_alike (kind : LiteralKind) (behind ahead : List Char) :
    Alike id behind ahead (kind.decode (.between behind ahead))
      (kind.decode (.image behind ahead)) := by
  have hread {α : Type} {reader : Ahead → Reading α}
      (h : Reading.Alike id (returnAfter false behind) ahead (reader ⟨ahead, 0⟩)
        (reader ⟨crlf (returnAfter false behind) ahead, 0⟩)) :
      Alike id behind ahead ((Cursor.between behind ahead).read reader)
        ((Cursor.image behind ahead).read reader) := by
    rw [Cursor.image, Cursor.between_read, Cursor.between_read]
    exact h.locate
  cases kind with
  | text => exact (hread (Body.scan_alike .text ahead [] _)).map _
  | char => exact (hread (readSingle_alike .text false _ ahead)).map _
  | byteText => exact ((hread (Body.scan_alike .bytes ahead [] _)).map _).map _
  | byte => exact ((hread (readSingle_alike .bytes false _ ahead)).map _).map _
  | rawText => exact (hread (RawText.read_alike _ ahead)).map _

theorem spanned_alike (value : LiteralValue) (behind taken rest : List Char) :
    Alike Literal.value (behind ++ taken) rest
      (spanned (.between behind (taken ++ rest)) value (.between (behind ++ taken) rest))
      (spanned (.image behind (taken ++ rest)) value (.image (behind ++ taken) rest)) := by
  have himage := spanned_between (crlf false behind) (crlf (returnAfter false behind) taken)
    (crlf (returnAfter false (behind ++ taken)) rest) value
  rw [← Cursor.image_append, ← crlf_append, ← Cursor.image] at himage
  rw [spanned_between, himage]
  exact .done_here rfl

theorem literalAt_alike (behind ahead : List Char) :
    Alike Literal.value behind ahead (literalAt (.between behind ahead))
      (literalAt (.image behind ahead)) := by
  unfold literalAt
  rw [LiteralKind.at?_image]
  cases hkind : LiteralKind.at? (.between behind ahead) with
  | none => exact .failed_here (.refl _)
  | some kind =>
    obtain ⟨more, rfl⟩ := (LiteralKind.at?_eq_some_iff.mp hkind).exists_eq
    simp only
    rw [kind.advance_opening, kind.advance_image]
    refine Outcome.Alike.after ((kind.decode_alike (behind ++ kind.opening) more).bind ?_)
    rintro value _ taken rest rfl rfl
    rw [← List.append_assoc kind.opening, List.append_assoc behind]
    exact spanned_alike value behind (kind.opening ++ taken) rest

theorem parseLiteral_alike (behind ahead : List Char) :
    Alike Literal.value behind ahead (parseLiteral (.between behind ahead))
      (parseLiteral (.image behind ahead)) :=
  (optionalTrivia_alike behind ahead).bind fun _ _ _ _ _ _ => literalAt_alike _ _

theorem Cause.Alike.decodes {cause cause' : Cause} (h : cause.Alike cause')
    (behind ahead : List Char) :
    DecodesAlike (.error (.ofFailure (behind ++ ahead) (cause.at behind.length)))
      (.error (.ofFailure (crlf false (behind ++ ahead))
        (cause'.at (crlf false behind).length))) := by
  have hnearest : nearestIn (behind ++ ahead).length behind.length = behind.length :=
    nearestIn_natCast (by simp)
  have himage : nearestIn (crlf false (behind ++ ahead)).length (crlf false behind).length =
      (crlf false behind).length :=
    nearestIn_natCast (by simp [crlf_append])
  have hplace := lineColumn_crlf behind ahead
  refine .malformed h.code h.expected (congrArg Code.hint? h.code) rfl rfl ?_ ?_
  · simp only [SourceSpan.point, Cause.at, hnearest, himage, hplace]
  · simp only [SourceSpan.point, Cause.at, hnearest, himage, hplace]

theorem decodeOutcome_alike {source : List Char}
    (hsize : (crlf false source).length ≤ maxSourceSize) :
    DecodesAlike (decodeOutcome source) (decodeOutcome (crlf false source)) := by
  have hlength := length_le_crlf false source
  have hliteral := parseLiteral_alike [] source
  have hstart : Cursor.image [] source = ⟨crlf false source, 0⟩ := rfl
  rw [decodeOutcome, decodeOutcome, if_neg (by omega), if_neg (by omega), ← hstart,
    Cursor.mk_zero_eq_between]
  generalize parseLiteral (.between [] source) = o at hliteral ⊢
  generalize parseLiteral (.image [] source) = o' at hliteral ⊢
  cases hliteral with
  | failed taken rest heq hcause =>
    subst heq
    exact hcause.decodes taken rest
  | @done literal literal' taken rest heq hvalue =>
    subst heq
    have htrivia := optionalTrivia_alike ([] ++ taken) rest
    simp only
    generalize optionalTrivia (.between ([] ++ taken) rest) = t at htrivia ⊢
    generalize optionalTrivia (.image ([] ++ taken) rest) = t' at htrivia ⊢
    cases htrivia with
    | failed more last heq hcause =>
      subst heq
      rw [← List.append_assoc]
      exact hcause.decodes (taken ++ more) last
    | done more last heq _ =>
      subst heq
      cases last with
      | nil =>
        have himage : Cursor.image ([] ++ taken ++ more) [] =
            .between (crlf false ([] ++ taken ++ more)) [] := rfl
        simp only [himage, Cursor.between_current_nil]
        exact .decoded hvalue
      | cons found tail =>
        obtain ⟨found', tail', himage, -⟩ :=
          crlf_exists_cons (returnAfter false ([] ++ taken ++ more)) found tail
        have hfound : (Cause.trailing found).Alike (.trailing found') := ⟨rfl, rfl⟩
        simp only [Cursor.image, himage, Cursor.between_current_cons, Cursor.between_pos]
        rw [← List.append_assoc]
        exact hfound.decodes (taken ++ more) (found :: tail)

/-- Line ends of two characters are line ends. A source and its image, if they are not too long, are
decoded to literals of the same value, or both are told about under the same code with the same
expected tokens, the same hint, and the same line and column. -/
theorem decode_crlf (source : List Char) (hsize : (crlf false source).length ≤ maxSourceSize)
    (slot slot' : Option Failure) :
    DecodesAlike (decodeAfter slot source) (decodeAfter slot' (crlf false source)) := by
  rw [decodeAfter_eq, decodeAfter_eq]
  exact decodeOutcome_alike hsize

/-- A line end of either kind between apostrophes. -/
theorem decode_crlf_char : (crlf false ['\'', '\n', '\'']).length ≤ maxSourceSize ∧
    DecodesAlike (decodeAfter none ['\'', '\n', '\''])
      (decodeAfter none ['\'', '\r', '\n', '\'']) := by
  have hsize : (crlf false ['\'', '\n', '\'']).length ≤ maxSourceSize := by decide
  exact ⟨hsize, decode_crlf ['\'', '\n', '\''] hsize none none⟩

end LiteralLexer
