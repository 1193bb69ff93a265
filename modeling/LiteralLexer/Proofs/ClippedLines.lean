import LiteralLexer.Proofs.ExpectedTokens
import LiteralLexer.Proofs.LinePlaces
import LiteralLexer.Proofs.RenderedLines

/-!
How long the lines of a diagnostic are where texts are clipped. A character takes at most four to be
shown, so the lines on the message and the advice are bounded by the limit, and the line on the
place by the digits of a position in the longest source. The expected tokens are not clipped: the
close of a raw text stands in the output with every marker of the opening. What bounds that line is
the size of the sources that are decoded at all, and the constant is no smaller than that.
-/
namespace LiteralLexer

theorem length_shownChar_le (c : Char) : (shownChar c).length ≤ 4 := by
  cases hc : isControl c with
  | true => exact shownChar_of_control (·.length ≤ 4) hc (by decide)
  | false => simp [shownChar_eq_self hc]

theorem length_shown_le (text : List Char) : (shown text).length ≤ 4 * text.length := by
  induction text with
  | nil => exact Nat.le_refl 0
  | cons c text ih =>
    have hchar := length_shownChar_le c
    have hlength : (shown (c :: text)).length = (shownChar c).length + (shown text).length :=
      List.length_append
    rw [hlength, List.length_cons]
    omega

theorem Code.length_name_le (code : Code) : code.name.toList.length ≤ 26 := by
  cases code <;> decide

theorem Code.controls_hint {code : Code} {hint : String} (h : code.hint? = some hint) :
    controls hint.toList = [] := by
  cases code <;> cases h <;> decide +kernel

theorem length_decimal_le {n : Nat} (h : n < 100000000) : (decimal n).length ≤ 8 := by
  have hnonneg : ¬(n : Int) < 0 := by omega
  rw [decimal, if_neg hnonneg, Int.natAbs_natCast,
    Nat.length_toDigits_le_iff (by decide) (by decide)]
  exact h

/-- Lines are counted up to one more than the LFs, columns up to one more than the characters. -/
theorem SourceSpan.point_le (source : List Char) {p : Nat} (hp : p ≤ source.length) :
    (point source p).line ≤ source.length + 1 ∧ (point source p).column ≤ source.length + 1 := by
  obtain ⟨behind, ahead, rfl, rfl⟩ := exists_behind_ahead hp
  have hplace := lineColumn_placeOf behind ahead
  have hline := hplace.line_le
  have hposition := hplace.position_eq
  have hcount : (behind ++ ahead).count '\n' ≤ (behind ++ ahead).length := List.count_le_length
  rw [length_splitOn_lineFeed] at hline
  simp only [point]
  constructor
  · omega
  · omega

namespace Renderer

/-- The detailed layout without colours, its texts clipped at `m` characters. -/
def clipped (m : Nat) : Renderer where
  clips := true
  limit := m

variable (r : Renderer) (d : Diagnostic) (m : Nat)

/-- What is left of a text has no controls if the text has none. -/
theorem controls_clip {text : String} (h : controls text.toList = []) :
    controls (r.clip text) = [] := by
  unfold clip
  split
  · refine controls_append_eq_nil ?_ (by decide)
    rw [controls_eq_nil_iff] at h ⊢
    exact fun c hc => h c (List.mem_of_mem_take (List.mem_of_mem_drop hc))
  · exact h

/-- A text that is longer than the limit keeps at most `m` characters, with dots behind them. -/
theorem clip_cases (text : String) :
    ((clipped m).clip text).length ≤ m ∨
      ∃ front, front.length ≤ m ∧ (clipped m).clip text = front ++ ['.', '.', '.'] := by
  unfold clip
  split
  · refine .inr ⟨_, ?_, rfl⟩
    simp only [clipped, slice, List.length_drop, List.length_take, boundIn_natCast]
    omega
  · rename_i hshort
    simp only [clipped, true_and] at hshort
    exact .inl (by omega)

theorem length_clip_le (text : String) : ((clipped m).clip text).length ≤ m + 3 := by
  obtain hshort | ⟨front, hfront, hclip⟩ := clip_cases m text
  · omega
  · simp only [hclip, List.length_append, List.length_cons, List.length_nil]
    omega

/-- The dots behind a clipped text are shown as they are. -/
theorem length_shown_clip_le (text : String) :
    (shown ((clipped m).clip text)).length ≤ 4 * m + 3 := by
  obtain hshort | ⟨front, hfront, hclip⟩ := clip_cases m text
  · have hlength := length_shown_le ((clipped m).clip text)
    omega
  · have hlength := length_shown_le front
    have hdots : shown (front ++ ['.', '.', '.']) = shown front ++ ['.', '.', '.'] :=
      List.flatMap_append
    rw [hclip, hdots, List.length_append]
    simp only [List.length_cons, List.length_nil]
    omega

theorem length_severity_le (hcolours : r.colours = false) : (r.severity d).toList.length ≤ 7 := by
  unfold severity
  rw [hcolours]
  split <;> decide

theorem length_messageLine_le : ((clipped m).messageLine d).length ≤ 4 * m + 40 := by
  have hseverity := (clipped m).length_severity_le d rfl
  have hname := d.code.length_name_le
  have hmessage := length_shown_clip_le m d.message
  simp only [messageLine, List.length_append, List.length_cons, List.length_nil]
  omega

theorem length_placeLine (span : SourceSpan) :
    (placeLine span).length = (decimal span.line).length + (decimal span.column).length + 20 := by
  unfold placeLine
  simp
  omega

theorem length_placeLine_le {span : SourceSpan} (hline : span.line < 100000000)
    (hcolumn : span.column < 100000000) : (placeLine span).length ≤ 36 := by
  have hline := length_decimal_le hline
  have hcolumn := length_decimal_le hcolumn
  rw [length_placeLine]
  omega

theorem length_hintLine (hint : String) :
    (r.hintLine hint).length = (r.clip hint).length + 10 := by
  unfold hintLine
  simp

theorem length_hintLine_le (hint : String) : ((clipped m).hintLine hint).length ≤ m + 13 := by
  have hclip := length_clip_le m hint
  rw [length_hintLine]
  omega

theorem length_expectedLine (expected : List String) :
    (expectedLine expected).length = (shown ([',', ' '].intercalate
      (expected.map fun token => '\'' :: token.toList ++ ['\'']))).length + 14 := by
  unfold expectedLine
  simp

/-- The close of a raw text is written with all its markers. -/
theorem length_expectedLine_rawClose (n : Nat) :
    (expectedLine [String.ofList (Cause.rawClose n)]).length = n + 17 := by
  have hmarkers : controls (List.replicate n '#') = [] := by
    rw [controls_eq_nil_iff]
    intro c hc
    rw [List.eq_of_mem_replicate hc]
    decide
  have hclose : controls ('\'' :: Cause.rawClose n ++ ['\'']) = [] :=
    controls_append_eq_nil (controls_cons_eq_nil (by decide)
      (controls_cons_eq_nil (by decide) hmarkers)) (by decide)
  rw [length_expectedLine]
  simp only [List.map_cons, List.map_nil, String.toList_ofList, List.intercalate_singleton,
    shown_eq_self hclose]
  simp [Cause.rawClose]

end Renderer

open Renderer

section
variable {source line : List Char} {failure : Failure} {cause : Cause} {length m n : Nat}
  {slot : Option Failure} {d : Diagnostic}

/-- A line on expected tokens is short, or it is the one on the close of a raw text. -/
theorem Cause.ExpectsWithin.length_expectedLine (h : cause.ExpectsWithin length) :
    (expectedLine cause.expected).length ≤ 46 ∨
      ∃ n, n + 2 ≤ length ∧ cause.expected = [String.ofList (rawClose n)] := by
  cases cause with
  | unterminatedRaw n => exact .inr ⟨n, h, rfl⟩
  | missingToken token => exact h.elim
  | _ =>
    refine .inl ?_
    rw [length_expectedLine, expected]
    decide

/-- No advice on a failure has a control in it, so that the lines are those of the layout. -/
theorem Failure.lines_diagnose (failure : Failure) (source : List Char) (m : Nat) :
    ((clipped m).write (failure.diagnose source)).splitOn '\n' =
      (clipped m).detailedLines (failure.diagnose source) := by
  have hhint : ∀ hint ∈ (failure.diagnose source).hint, controls ((clipped m).clip hint) = [] :=
    fun hint hmem => (clipped m).controls_clip (Code.controls_hint hmem)
  exact splitOn_joined (by simp [detailedLines])
    (((clipped m).controls_detailedLines_iff _ rfl).mpr hhint)

/-- A line is short, or it is the one on expected tokens, and they are the close of a raw text. -/
theorem Rejection.line_le (hsize : source.length ≤ maxSourceSize) (h : Rejection source failure)
    (hline : line ∈ (clipped m).detailedLines (failure.diagnose source)) :
    line.length ≤ 4 * m + 46 ∨
      ∃ n, n + 2 ≤ source.length ∧ failure.expected = [String.ofList (Cause.rawClose n)] ∧
        line = expectedLine failure.expected := by
  obtain ⟨cause, position, rfl, hexpects⟩ := h.exists_cause
  obtain hmessage | ⟨span, hspan, hplace⟩ | ⟨-, hexpected⟩ | ⟨hint, -, -, hhint⟩ :=
    ((clipped m).mem_detailedLines _).mp hline
  · have hlength := length_messageLine_le ((cause.at position).diagnose source) m
    rw [hmessage]
    omega
  · have hpoint := SourceSpan.point_le source (nearestIn_le source.length position)
    have hmost : maxSourceSize + 1 < 100000000 := by decide
    obtain rfl := Option.some.inj hspan
    have hlength : (placeLine (SourceSpan.point source (nearestIn source.length position))).length ≤
        36 := length_placeLine_le (by omega) (by omega)
    rw [hplace]
    exact .inl (Nat.le_trans hlength (by omega))
  · obtain hshort | ⟨n, hn, hclose⟩ := hexpects.length_expectedLine
    · rw [hexpected]
      exact .inl (Nat.le_trans hshort (Nat.le_add_left _ _))
    · exact .inr ⟨n, hn, hclose, hexpected⟩
  · have hlength := length_hintLine_le m hint
    rw [hhint]
    omega

theorem line_le_of_malformed (hdecode : decodeAfter slot source = .error (.malformed d))
    (hline : line ∈ ((clipped m).write d).splitOn '\n') :
    line.length ≤ 4 * m + 46 ∨
      ∃ n, n + 2 ≤ source.length ∧ d.expected = [String.ofList (Cause.rawClose n)] ∧
        line.length = n + 17 := by
  obtain ⟨hsize, failure, hrejection, rfl⟩ := decodeAfter_eq_malformed_iff.mp hdecode
  rw [Failure.lines_diagnose] at hline
  obtain hshort | ⟨n, hn, hclose, rfl⟩ := hrejection.line_le hsize hline
  · exact .inl hshort
  · rw [hclose]
    exact .inr ⟨n, hn, hclose, length_expectedLine_rawClose n⟩

/-- Where tokens are expected there is a line on them, however short the texts are clipped. -/
theorem expectedLine_mem_of_malformed (hdecode : decodeAfter slot source = .error (.malformed d))
    (hsome : d.expected ≠ []) (m : Nat) :
    expectedLine d.expected ∈ ((clipped m).write d).splitOn '\n' := by
  obtain ⟨-, failure, -, rfl⟩ := decodeAfter_eq_malformed_iff.mp hdecode
  rw [Failure.lines_diagnose]
  exact ((clipped m).mem_detailedLines _).mpr (.inr (.inr (.inl ⟨hsome, rfl⟩)))

theorem exists_rawClose_line (hdecode : decodeAfter slot source = .error (.malformed d))
    (hclose : d.expected = [String.ofList (Cause.rawClose n)]) (m : Nat) :
    ∃ line ∈ ((clipped m).write d).splitOn '\n', line.length = n + 17 := by
  have hline := expectedLine_mem_of_malformed hdecode (hclose ▸ List.cons_ne_nil _ _) m
  rw [hclose] at hline
  exact ⟨_, hline, length_expectedLine_rawClose n⟩

/-- With room for the lines of fixed texts, only the markers of a close can make a line too long. -/
theorem lines_le_iff {K : Nat} (hK : 46 ≤ K)
    (hdecode : decodeAfter slot source = .error (.malformed d)) :
    (∀ line ∈ ((clipped m).write d).splitOn '\n', line.length ≤ 4 * m + K) ↔
      ∀ n, d.expected = [String.ofList (Cause.rawClose n)] → n + 17 ≤ 4 * m + K := by
  constructor
  · intro h n hclose
    obtain ⟨line, hline, hlength⟩ := exists_rawClose_line hdecode hclose m
    exact hlength ▸ h line hline
  · intro h line hline
    obtain hshort | ⟨n, -, hclose, hlength⟩ := line_le_of_malformed hdecode hline
    · omega
    · exact hlength ▸ h n hclose

/-- Markers with a quote behind them call for a close with as many markers. -/
theorem exists_malformed_markers (hsize : n + 2 ≤ maxSourceSize) (slot : Option Failure) :
    ∃ d, decodeAfter slot ('r' :: (List.replicate n '#' ++ ['"'])) = .error (.malformed d) ∧
      d.expected = [String.ofList (Cause.rawClose n)] := by
  have hlength : ('r' :: (List.replicate n '#' ++ ['"'])).length = n + 2 := by simp
  exact ⟨_, decodeAfter_eq_malformed_iff.mpr
    ⟨hlength.trans_le hsize, _, Rejection.of_markers n, rfl⟩, rfl⟩

end

/-- For sources of up to `limit` characters that are not decoded, no line of the clipped diagnostic
is longer than four times the limit of clipping and `K`. -/
def BoundsLines (limit K : Nat) : Prop :=
  ∀ (source : List Char) (slot : Option Failure) (d : Diagnostic), source.length ≤ limit →
    decodeAfter slot source = .error (.malformed d) →
      ∀ m : Nat, ∀ line ∈ ((clipped m).write d).splitOn '\n', line.length ≤ 4 * m + K

/-- The openings of the literals make the longest line that does not grow with the source. -/
theorem BoundsLines.openings_le {limit K : Nat} (h : BoundsLines limit K) : 46 ≤ K := by
  have hopenings : (expectedLine Cause.noLiteral.expected).length = 46 := by decide
  have hdecode : decodeAfter none [] = .error (.malformed ((Cause.noLiteral.at 0).diagnose [])) :=
    decodeAfter_eq_malformed_iff.mpr ⟨Nat.zero_le _, _, Rejection.of_empty, rfl⟩
  have hline := expectedLine_mem_of_malformed hdecode (List.cons_ne_nil _ _) 0
  have hle : (expectedLine Cause.noLiteral.expected).length ≤ 4 * 0 + K :=
    h [] none _ (Nat.zero_le _) hdecode 0 _ hline
  omega

theorem BoundsLines.markers_le {limit K n : Nat} (h : BoundsLines limit K) (hlimit : n + 2 ≤ limit)
    (hsize : n + 2 ≤ maxSourceSize) : n + 17 ≤ K := by
  have hlength : ('r' :: (List.replicate n '#' ++ ['"'])).length = n + 2 := by simp
  obtain ⟨d, hdecode, hclose⟩ := exists_malformed_markers hsize none
  obtain ⟨line, hline, hcount⟩ := exists_rawClose_line hdecode hclose 0
  have hle := h _ none d (hlength.trans_le hlimit) hdecode 0 line hline
  omega

theorem boundsLines_iff {limit K : Nat} :
    BoundsLines limit K ↔ 46 ≤ K ∧ min limit maxSourceSize + 15 ≤ K := by
  constructor
  · intro h
    have hopenings := h.openings_le
    by_cases hroom : 2 ≤ min limit maxSourceSize
    · have hmarkers : min limit maxSourceSize - 2 + 17 ≤ K := h.markers_le (by omega) (by omega)
      omega
    · omega
  · rintro ⟨hopenings, hlimit⟩ source slot d hsource hdecode m line hline
    have hsize := (decodeAfter_eq_malformed_iff.mp hdecode).1
    obtain hshort | ⟨n, hn, -, hlength⟩ := line_le_of_malformed hdecode hline
    · omega
    · omega

/-- With the texts of a diagnostic clipped, four times the limit of clipping and a constant bound
every line, whatever source is not decoded. The least constant for the sources of up to some length
is that length and 15, and 46 for the shortest: a raw text that lacks its close is reported with the
whole close, 17 characters more than it has markers, and clipping leaves that line as it is. From 46
on it is the only line that can be too long. -/
theorem clippedLines_le :
    (∃ K : Nat, ∀ (source : List Char) (slot : Option Failure) (d : Diagnostic),
      decodeAfter slot source = .error (.malformed d) →
        ∀ m : Nat, ∀ line ∈ ((clipped m).write d).splitOn '\n', line.length ≤ 4 * m + K) ∧
      (∀ limit K : Nat, BoundsLines limit K ↔ 46 ≤ K ∧ min limit maxSourceSize + 15 ≤ K) ∧
      ∀ (source : List Char) (slot : Option Failure) (d : Diagnostic),
        decodeAfter slot source = .error (.malformed d) → ∀ K : Nat, 46 ≤ K → ∀ m : Nat,
          ((∀ line ∈ ((clipped m).write d).splitOn '\n', line.length ≤ 4 * m + K) ↔
            ∀ n, d.expected = [String.ofList (Cause.rawClose n)] → n + 17 ≤ 4 * m + K) := by
  have hbound : BoundsLines maxSourceSize (maxSourceSize + 15) :=
    boundsLines_iff.mpr ⟨by decide, by omega⟩
  refine ⟨⟨maxSourceSize + 15, fun source slot d hdecode => ?_⟩, fun limit K => boundsLines_iff,
    fun source slot d hdecode K hK m => lines_le_iff hK hdecode⟩
  have hsize := (decodeAfter_eq_malformed_iff.mp hdecode).1
  exact hbound source slot d hsize hdecode

/-- Forty markers and a quote make a line of 57 characters: one too many for texts clipped at their
start, and not too many for texts clipped behind one character. -/
theorem clippedLines_le_forty :
    (∃ d, decodeAfter none ('r' :: (List.replicate 40 '#' ++ ['"'])) = .error (.malformed d) ∧
      (∃ K : Nat, ∀ line ∈ ((clipped 20).write d).splitOn '\n', line.length ≤ 4 * 20 + K) ∧
      46 ≤ 56 ∧ ¬(∀ line ∈ ((clipped 0).write d).splitOn '\n', line.length ≤ 56) ∧
      ∀ line ∈ ((clipped 1).write d).splitOn '\n', line.length ≤ 60) ∧
      BoundsLines 42 57 ∧ ¬BoundsLines 42 56 := by
  have hsize : 40 + 2 ≤ maxSourceSize := by decide
  obtain ⟨d, hdecode, hclose⟩ := exists_malformed_markers hsize none
  obtain ⟨⟨K, hbound⟩, hleast, hlines⟩ := clippedLines_le
  have hforty := hlines _ none d hdecode 56 (by decide)
  refine ⟨⟨d, hdecode, ⟨K, hbound _ none d hdecode 20⟩, by decide, fun h => ?_,
    (hforty 1).mpr fun n hn => ?_⟩,
    (hleast 42 57).mpr (by decide), fun h => absurd ((hleast 42 56).mp h) (by decide)⟩
  · exact absurd ((hforty 0).mp h 40 hclose) (by decide)
  · have hlength := length_expectedLine_rawClose n
    rw [← hn, hclose, length_expectedLine_rawClose] at hlength
    omega

end LiteralLexer
