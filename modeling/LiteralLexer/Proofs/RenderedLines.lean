import LiteralLexer.Diagnostic.Render

/-!
What a rendered diagnostic may do to a log that holds one diagnostic after the other: end lines of
its own, or send other control characters. Without colours the layout of one line has no control
character at all, whatever the message. In the detailed layout the lines are joined by line feeds,
and the lines on the message, the place and the expected tokens have no control in them; the line of
advice is clipped but not escaped, so that its controls stand in the output as they are. The output
has the lines that the parts of the diagnostic call for just if there are none.
-/
namespace LiteralLexer

/-- The controls among the first 128 codes: those below U+0020, and U+007F. -/
def isControl (c : Char) : Bool := decide (c.toNat < 0x20 ∨ c.toNat = 0x7F)

/-- The controls in `text`, in their order. -/
def controls (text : List Char) : List Char := text.filter isControl

@[simp] theorem controls_nil : controls [] = [] := rfl

@[simp] theorem controls_append (xs ys : List Char) :
    controls (xs ++ ys) = controls xs ++ controls ys := List.filter_append ..

theorem controls_eq_nil_iff {text : List Char} :
    controls text = [] ↔ ∀ c ∈ text, isControl c = false := by
  simp [controls, List.filter_eq_nil_iff]

theorem controls_cons_eq_nil {c : Char} {text : List Char} (hc : isControl c = false)
    (htext : controls text = []) : controls (c :: text) = [] := by
  simpa [controls, hc] using htext

theorem controls_append_eq_nil {xs ys : List Char} (hxs : controls xs = [])
    (hys : controls ys = []) : controls (xs ++ ys) = [] := by
  rw [controls_append, hxs, hys, List.append_nil]

theorem controls_intercalate (sep : List Char) (lines : List (List Char)) :
    controls (sep.intercalate lines) = (controls sep).intercalate (lines.map controls) := by
  induction lines with
  | nil => rfl
  | cons line lines ih =>
    cases lines with
    | nil => simp
    | cons next lines => simpa [List.intercalate_cons_cons] using ih

/-! ### What is written without controls -/

theorem shownChar_eq_self {c : Char} (hc : isControl c = false) : shownChar c = [c] := by
  have hne : ∀ d : Char, isControl d = true → c ≠ d := by
    rintro d hd rfl
    exact Bool.noConfusion (hc.symm.trans hd)
  have hcode : ¬(c.toNat < 0x20 ∨ c.toNat = 0x7F) := by simpa [isControl] using hc
  unfold shownChar
  rw [if_neg (hne _ (by decide)), if_neg (hne _ (by decide)), if_neg (hne _ (by decide)),
    if_neg hcode]

theorem shown_eq_self {text : List Char} (h : controls text = []) : shown text = text := by
  rw [controls_eq_nil_iff] at h
  induction text with
  | nil => rfl
  | cons c text ih =>
    have hhead := shownChar_eq_self (h c List.mem_cons_self)
    have htail := ih fun d hd => h d (List.mem_cons_of_mem c hd)
    calc shown (c :: text) = shownChar c ++ shown text := rfl
      _ = c :: text := by rw [hhead, htail, List.singleton_append]

/-- What holds of the texts that stand for the controls is seen from their codes. -/
theorem shownChar_of_control (P : List Char → Prop) {c : Char} (hc : isControl c = true)
    (h : ∀ n < 0x80, P (shownChar (Char.ofNat n))) : P (shownChar c) := by
  have hcode : c.toNat < 0x80 := by
    have : c.toNat < 0x20 ∨ c.toNat = 0x7F := by simpa [isControl] using hc
    omega
  simpa using h c.toNat hcode

theorem controls_shownChar (c : Char) : controls (shownChar c) = [] := by
  cases hc : isControl c with
  | true => exact shownChar_of_control (controls · = []) hc (by decide)
  | false =>
    rw [shownChar_eq_self hc, controls_eq_nil_iff]
    simpa using hc

theorem controls_shown (text : List Char) : controls (shown text) = [] := by
  induction text with
  | nil => rfl
  | cons c text ih => exact controls_append_eq_nil (controls_shownChar c) ih

theorem isControl_of_isDigit {c : Char} (h : c.isDigit = true) : isControl c = false := by
  have hbounds : 48 ≤ c.toNat ∧ c.toNat ≤ 57 := by
    simpa [Char.isDigit, UInt32.le_iff_toNat_le] using h
  simp only [isControl, decide_eq_false_iff_not]
  omega

theorem controls_decimal (n : Int) : controls (decimal n) = [] := by
  have hdigits : controls (Nat.toDigits 10 n.natAbs) = [] :=
    controls_eq_nil_iff.mpr fun c hc =>
      isControl_of_isDigit (Nat.isDigit_of_mem_toDigits (by decide) (by decide) hc)
  unfold decimal
  split
  · exact controls_cons_eq_nil (by decide) hdigits
  · exact hdigits

theorem Code.controls_name (code : Code) : controls code.name.toList = [] := by
  cases code <;> decide

namespace Renderer

variable (r : Renderer) (d : Diagnostic)

theorem controls_severity (hcolours : r.colours = false) : controls (r.severity d).toList = [] := by
  unfold severity
  rw [hcolours]
  split <;> decide

theorem controls_messageLine (hcolours : r.colours = false) : controls (r.messageLine d) = [] := by
  refine controls_append_eq_nil (controls_append_eq_nil (controls_append_eq_nil
    (r.controls_severity d hcolours) ?_) (by decide)) (controls_shown _)
  exact controls_cons_eq_nil (by decide) d.code.controls_name

theorem controls_placeLine (span : SourceSpan) : controls (placeLine span) = [] :=
  controls_append_eq_nil (controls_append_eq_nil (controls_append_eq_nil
    (by decide) (controls_decimal _)) (by decide)) (controls_decimal _)

theorem controls_expectedLine (expected : List String) : controls (expectedLine expected) = [] :=
  controls_append_eq_nil (by decide) (controls_shown _)

/-- The advice passes through to the output as it is, clipped. -/
theorem controls_hintLine (hint : String) :
    controls (r.hintLine hint) = controls (r.clip hint) := by
  have hlabel : controls "  = help: ".toList = [] := by decide
  unfold hintLine
  rw [controls_append, hlabel, List.nil_append]

theorem controls_oneLine : controls (r.oneLine d) = [] :=
  controls_append_eq_nil (controls_append_eq_nil d.code.controls_name (by decide))
    (controls_shown _)

theorem controls_clip_empty : controls (r.clip "") = [] := by
  unfold clip
  split
  · exact controls_append_eq_nil (by simp [slice]) (by decide)
  · rfl

end Renderer

/-! ### Texts that are joined from lines -/

/-- The text is `n` lines, and the line feeds between them are all the controls in it. -/
structure JoinsLines (text : List Char) (n : Nat) : Prop where
  controls_eq : controls text = List.replicate (n - 1) '\n'
  lines : (text.splitOn '\n').length = n

/-- Every control of the joined text is one of a line, or stands between two. -/
theorem length_controls_joined {lines : List (List Char)} (hne : lines ≠ []) :
    (controls (['\n'].intercalate lines)).length + 1 =
      lines.length + (lines.flatMap controls).length := by
  have hfeed : controls ['\n'] = ['\n'] := by decide
  induction lines with
  | nil => exact absurd rfl hne
  | cons line lines ih =>
    cases lines with
    | nil => simp; omega
    | cons next lines =>
      have ih := ih (List.cons_ne_nil _ _)
      rw [List.intercalate_cons_cons, controls_append, controls_append, hfeed]
      simp only [List.length_append, List.length_cons, List.length_nil,
        List.flatMap_cons] at ih ⊢
      omega

theorem joined_replicate_nil (n : Nat) :
    ['\n'].intercalate (List.replicate (n + 1) []) = List.replicate n '\n' := by
  induction n with
  | zero => rfl
  | succ n ih =>
    rw [List.replicate_succ] at ih
    rw [List.replicate_succ, List.replicate_succ, List.intercalate_cons_cons, ih]
    rfl

/-- Lines without controls are what their joined text is split into. -/
theorem splitOn_joined {lines : List (List Char)} (hne : lines ≠ [])
    (hclean : ∀ line ∈ lines, controls line = []) :
    (['\n'].intercalate lines).splitOn '\n' = lines := by
  have hfree : ∀ line ∈ lines, '\n' ∉ line := fun line hline hmem =>
    absurd (controls_eq_nil_iff.mp (hclean line hline) _ hmem) (by decide)
  exact List.splitOn_intercalate '\n' hfree hne

theorem joinsLines_joined {lines : List (List Char)} (hne : lines ≠ [])
    (hclean : ∀ line ∈ lines, controls line = []) :
    JoinsLines (['\n'].intercalate lines) lines.length where
  controls_eq := by
    have hfeed : controls ['\n'] = ['\n'] := by decide
    have hlength : lines.length = lines.length - 1 + 1 := by
      have := List.length_pos_iff.mpr hne
      omega
    have hempty : lines.map controls = List.replicate (lines.length - 1 + 1) [] :=
      hlength ▸ List.map_eq_replicate_iff.mpr hclean
    rw [controls_intercalate, hfeed, hempty, joined_replicate_nil]
  lines := by rw [splitOn_joined hne hclean]

/-- Lines that are joined stay what they are just if none of them has a control of its own. -/
theorem joinsLines_joined_iff {lines : List (List Char)} (hne : lines ≠ []) :
    JoinsLines (['\n'].intercalate lines) lines.length ↔ ∀ line ∈ lines, controls line = [] := by
  refine ⟨fun h line hline => ?_, joinsLines_joined hne⟩
  have hcount := length_controls_joined hne
  have hpos : 0 < lines.length := List.length_pos_iff.mpr hne
  rw [h.controls_eq, List.length_replicate] at hcount
  have hnone : lines.flatMap controls = [] := List.eq_nil_of_length_eq_zero (by omega)
  exact List.flatMap_eq_nil_iff.mp hnone line hline

/-- The lines that the parts of a diagnostic call for in the detailed layout. -/
def Diagnostic.lineCount (d : Diagnostic) : Nat :=
  1 + (if d.span = none then 0 else 1) + (if d.expected = [] then 0 else 1) +
    (if d.hint = none ∨ d.hint = some "" then 0 else 1)

namespace Renderer

variable (r : Renderer) (d : Diagnostic)

theorem length_detailedLines : (r.detailedLines d).length = d.lineCount := by
  have hplace : (d.span.map placeLine).toList.length = if d.span = none then 0 else 1 := by
    cases d.span <;> rfl
  have hexpected : (if d.expected = [] then [] else [expectedLine d.expected]).length =
      if d.expected = [] then 0 else 1 := by
    split <;> rfl
  have hhint : ((d.hint.filter (· ≠ "")).map r.hintLine).toList.length =
      if d.hint = none ∨ d.hint = some "" then 0 else 1 := by
    cases d.hint with
    | none => rfl
    | some hint => by_cases hempty : hint = "" <;> simp [Option.filter, hempty]
  unfold detailedLines Diagnostic.lineCount
  rw [List.length_append, List.length_append, List.length_cons, hplace, hexpected, hhint]
  omega

theorem mem_detailedLines {line : List Char} :
    line ∈ r.detailedLines d ↔
      line = r.messageLine d ∨ (∃ span ∈ d.span, line = placeLine span) ∨
        (d.expected ≠ [] ∧ line = expectedLine d.expected) ∨
        ∃ hint ∈ d.hint, hint ≠ "" ∧ line = r.hintLine hint := by
  simp only [eq_comm (a := line)]
  simp [detailedLines, and_assoc, eq_comm (b := line)]

/-- Without colours, only the advice can bring controls into the detailed layout. -/
theorem controls_detailedLines_iff (hcolours : r.colours = false) :
    (∀ line ∈ r.detailedLines d, controls line = []) ↔
      ∀ hint ∈ d.hint, controls (r.clip hint) = [] := by
  constructor
  · intro hlines hint hmem
    by_cases hempty : hint = ""
    · rw [hempty]
      exact r.controls_clip_empty
    · have hadvice : r.hintLine hint ∈ r.detailedLines d :=
        (r.mem_detailedLines d).mpr (.inr (.inr (.inr ⟨hint, hmem, hempty, rfl⟩)))
      exact (r.controls_hintLine hint).symm.trans (hlines _ hadvice)
  · intro hhint line hline
    rcases (r.mem_detailedLines d).mp hline with
      rfl | ⟨span, -, rfl⟩ | ⟨-, rfl⟩ | ⟨hint, hmem, -, rfl⟩
    · exact r.controls_messageLine d hcolours
    · exact controls_placeLine span
    · exact controls_expectedLine d.expected
    · exact (r.controls_hintLine hint).trans (hhint hint hmem)

/-- Without colours the layout of one line is one line. The detailed layout has the lines that the
parts of the diagnostic call for, and no controls but the line feeds between them, just if the
advice has no control up to where it is clipped. -/
theorem write_joinsLines (hcolours : r.colours = false) :
    (r.layout = .oneLine → JoinsLines (r.write d) 1) ∧
      (r.layout = .detailed →
        (JoinsLines (r.write d) d.lineCount ↔
          ∀ hint ∈ d.hint, ∀ c ∈ r.clip hint, isControl c = false)) := by
  refine ⟨fun hlayout => ?_, fun hlayout => ?_⟩
  · have hwrite : r.write d = ['\n'].intercalate [r.oneLine d] := by
      rw [List.intercalate_singleton]
      simp only [write, hlayout]
    rw [hwrite]
    exact joinsLines_joined (List.cons_ne_nil _ _) (by simp [r.controls_oneLine d])
  · have hwrite : r.write d = ['\n'].intercalate (r.detailedLines d) := by
      simp only [write, hlayout]
    have hne : r.detailedLines d ≠ [] := by simp [detailedLines]
    rw [hwrite, ← r.length_detailedLines d, joinsLines_joined_iff hne,
      r.controls_detailedLines_iff d hcolours]
    simp only [controls_eq_nil_iff]

/-- A line feed in a message, and one in advice that stands behind the limit. -/
theorem write_joinsLines_clipped :
    JoinsLines (Renderer.write ⟨.oneLine, false, false, 100⟩
        ⟨.invalidEscape, "a\nb", none, some "a\nb", [], "error"⟩) 1 ∧
      JoinsLines (Renderer.write ⟨.detailed, true, false, 1⟩
        ⟨.invalidEscape, "a\nb", none, some "a\nb", [], "error"⟩) 2 := by
  have hone := write_joinsLines ⟨.oneLine, false, false, 100⟩
    ⟨.invalidEscape, "a\nb", none, some "a\nb", [], "error"⟩ rfl
  have hdetailed := write_joinsLines ⟨.detailed, true, false, 1⟩
    ⟨.invalidEscape, "a\nb", none, some "a\nb", [], "error"⟩ rfl
  refine ⟨hone.1 rfl, (hdetailed.2 rfl).mpr fun hint hmem => ?_⟩
  obtain rfl := Option.some.inj hmem
  exact controls_eq_nil_iff.mp (by decide)

/-- With no limit, the same advice adds a line of its own to the output. -/
theorem not_joinsLines_unclipped :
    ¬ JoinsLines (Renderer.write ⟨.detailed, false, false, 100⟩
      ⟨.invalidEscape, "m", none, some "a\nb", [], "error"⟩) 2 := by
  intro h
  exact absurd h.controls_eq (by decide)

end Renderer
end LiteralLexer
