import LiteralLexer.Text.LineColumn
import Mathlib.Data.List.TakeWhile

/-!
Line ends of two characters. In the image of a text every LF that stood alone has a CR in front of
it. Whether the first character of a text stands alone depends on what the text follows, so images
are taken of a text with a flag: whether a CR stands right in front of it. A place in a text has a
place in the image, and both are in the same line and column.
-/
namespace LiteralLexer

/-- The text with a CR in front of every LF that has none. The flag tells whether a CR stands in
front of the text. -/
def crlf : Bool → List Char → List Char
  | _, [] => []
  | behindReturn, c :: cs =>
    if c = '\n' ∧ behindReturn = false then '\r' :: '\n' :: crlf false cs
    else c :: crlf (c == '\r') cs

example : crlf false ['a', '\n', '\r', '\n', '\n', '\r'] =
    ['a', '\r', '\n', '\r', '\n', '\r', '\n', '\r'] := by decide

/-- The flag behind a text, if `behindReturn` is the flag in front of it. -/
def returnAfter (behindReturn : Bool) : List Char → Bool
  | [] => behindReturn
  | c :: cs => returnAfter (c == '\r') cs

/-- No line ends in the text, and none starts with its last character. -/
def Inline (text : List Char) : Prop := ∀ c ∈ text, c ≠ '\n' ∧ c ≠ '\r'

instance (text : List Char) : Decidable (Inline text) :=
  List.decidableBAll (fun c => c ≠ '\n' ∧ c ≠ '\r') text

variable {b : Bool} {c : Char} {chars cs text rest : List Char}

theorem inline_cons_iff : Inline (c :: cs) ↔ (c ≠ '\n' ∧ c ≠ '\r') ∧ Inline cs :=
  List.forall_mem_cons

@[simp] theorem crlf_nil (b : Bool) : crlf b [] = [] := rfl

@[simp] theorem crlf_lineFeed (cs : List Char) :
    crlf false ('\n' :: cs) = '\r' :: '\n' :: crlf false cs := rfl

theorem crlf_copy (h : c = '\n' → b = true) : crlf b (c :: cs) = c :: crlf (c == '\r') cs := by
  rw [crlf, if_neg]
  rintro ⟨hc, hb⟩
  rw [h hc] at hb
  cases hb

theorem crlf_char (h : c ≠ '\n') : crlf b (c :: cs) = c :: crlf (c == '\r') cs :=
  crlf_copy fun hc => absurd hc h

@[simp] theorem crlf_inline_cons (hfeed : c ≠ '\n') (hreturn : c ≠ '\r') :
    crlf b (c :: cs) = c :: crlf false cs := by
  rw [crlf_char hfeed, beq_false_of_ne hreturn]

/-- A character of a text is an LF that stands alone, or it is copied. -/
theorem crlf_cons_cases (b : Bool) (c : Char) (cs : List Char) :
    (c = '\n' ∧ b = false ∧ crlf b (c :: cs) = '\r' :: '\n' :: crlf false cs) ∨
      ((c = '\n' → b = true) ∧ crlf b (c :: cs) = c :: crlf (c == '\r') cs) := by
  by_cases h : c = '\n' ∧ b = false
  · obtain ⟨rfl, rfl⟩ := h
    exact .inl ⟨rfl, rfl, rfl⟩
  · have hcopy : c = '\n' → b = true := by simpa using h
    exact .inr ⟨hcopy, crlf_copy hcopy⟩

/-- The image of a text that is not empty is none either, and it starts with `d` only if the text
does. -/
theorem crlf_exists_cons (b : Bool) (c : Char) (cs : List Char) :
    ∃ c' cs', crlf b (c :: cs) = c' :: cs' ∧ ∀ d, d ≠ '\r' → c ≠ d → c' ≠ d := by
  obtain ⟨-, -, heq⟩ | ⟨-, heq⟩ := crlf_cons_cases b c cs
  · exact ⟨_, _, heq, fun d hd _ => hd.symm⟩
  · exact ⟨_, _, heq, fun d _ hc => hc⟩

theorem crlf_append (b : Bool) (text rest : List Char) :
    crlf b (text ++ rest) = crlf b text ++ crlf (returnAfter b text) rest := by
  induction text generalizing b with
  | nil => rfl
  | cons c cs ih =>
    obtain ⟨rfl, rfl, -⟩ | ⟨hcopy, -⟩ := crlf_cons_cases b c cs
    · simp [returnAfter, ih]
    · simp [returnAfter, ih, crlf_copy hcopy]

theorem returnAfter_append (b : Bool) (text rest : List Char) :
    returnAfter b (text ++ rest) = returnAfter (returnAfter b text) rest := by
  induction text generalizing b with
  | nil => rfl
  | cons c cs ih => exact ih (c == '\r')

theorem length_le_crlf (b : Bool) (text : List Char) : text.length ≤ (crlf b text).length := by
  induction text generalizing b with
  | nil => exact Nat.le_refl 0
  | cons c cs ih =>
    obtain ⟨-, -, heq⟩ | ⟨-, heq⟩ := crlf_cons_cases b c cs
    · rw [heq]
      have := ih false
      simp only [List.length_cons]
      omega
    · rw [heq]
      exact Nat.succ_le_succ (ih _)

/-- A text without LF is its own image. -/
theorem crlf_of_notMem (h : '\n' ∉ text) : crlf b text = text := by
  induction text generalizing b with
  | nil => rfl
  | cons c cs ih =>
    rw [List.mem_cons, not_or] at h
    rw [crlf_char (Ne.symm h.1), ih h.2]

theorem Inline.returnAfter (h : Inline text) : returnAfter false text = false := by
  induction text with
  | nil => rfl
  | cons c cs ih =>
    obtain ⟨⟨-, hc⟩, hcs⟩ := inline_cons_iff.mp h
    rw [LiteralLexer.returnAfter, beq_false_of_ne hc, ih hcs]

theorem Inline.crlf_append (h : Inline text) (rest : List Char) :
    crlf false (text ++ rest) = text ++ crlf false rest := by
  have hfeed : '\n' ∉ text := fun hmem => (h _ hmem).1 rfl
  rw [LiteralLexer.crlf_append, crlf_of_notMem hfeed, h.returnAfter]

/-- What has no part in a line end comes first in an image just if it comes first in the text. -/
theorem crlf_eq_cons_iff (hfeed : c ≠ '\n') (hreturn : c ≠ '\r') :
    crlf b chars = c :: rest ↔ ∃ cs, chars = c :: cs ∧ rest = crlf false cs := by
  constructor
  · intro h
    cases chars with
    | nil => cases h
    | cons d cs =>
      obtain ⟨-, -, heq⟩ | ⟨-, heq⟩ := crlf_cons_cases b d cs
      · rw [heq] at h
        exact absurd (List.cons.inj h).1.symm hreturn
      · rw [heq] at h
        obtain ⟨rfl, rfl⟩ := List.cons.inj h
        exact ⟨cs, rfl, by rw [beq_false_of_ne hreturn]⟩
  · rintro ⟨cs, rfl, rfl⟩
    rw [crlf_inline_cons hfeed hreturn]

theorem crlf_ne_cons (hfeed : c ≠ '\n') (hreturn : c ≠ '\r') (h : ∀ cs, chars ≠ c :: cs)
    (rest : List Char) : crlf b chars ≠ c :: rest := by
  intro heq
  obtain ⟨cs, hchars, -⟩ := (crlf_eq_cons_iff hfeed hreturn).mp heq
  exact h cs hchars

/-- Behind a CR no LF comes first in an image if none comes first in the text. -/
theorem crlf_ne_lineFeed (h : ∀ more, chars ≠ '\n' :: more) (more : List Char) :
    crlf true chars ≠ '\n' :: more := by
  cases chars with
  | nil => simp
  | cons c cs =>
    rw [crlf_copy fun _ => rfl]
    rintro ⟨⟩
    exact h cs rfl

theorem prefix_crlf_iff {pattern : List Char} (h : Inline pattern) :
    pattern <+: crlf b chars ↔ pattern <+: chars := by
  induction pattern generalizing b chars with
  | nil => simp
  | cons c pattern ih =>
    obtain ⟨⟨hfeed, hreturn⟩, hpattern⟩ := inline_cons_iff.mp h
    constructor
    · rintro ⟨tail, htail⟩
      obtain ⟨cs, rfl, hrest⟩ := (crlf_eq_cons_iff hfeed hreturn).mp htail.symm
      exact List.cons_prefix_cons.mpr ⟨rfl, (ih hpattern).mp ⟨tail, hrest⟩⟩
    · rintro ⟨tail, rfl⟩
      rw [List.cons_append, crlf_inline_cons hfeed hreturn]
      exact List.cons_prefix_cons.mpr ⟨rfl, (ih hpattern).mpr (List.prefix_append _ _)⟩

theorem count_crlf (b : Bool) (text : List Char) : (crlf b text).count '\n' = text.count '\n' := by
  induction text generalizing b with
  | nil => rfl
  | cons c cs ih =>
    obtain ⟨rfl, rfl, -⟩ | ⟨hcopy, -⟩ := crlf_cons_cases b c cs
    · simp [ih]
    · simp [crlf_copy hcopy, ih, List.count_cons]

theorem lastLine_of_lineFeed {front line : List Char} (h : '\n' ∉ line) :
    lastLine (front ++ '\n' :: line) = line := by
  have hall : ∀ c ∈ line.reverse, (c != '\n') = true := by
    intro c hc
    simp only [bne_iff_ne, ne_eq]
    rintro rfl
    exact h (List.mem_reverse.mp hc)
  rw [lastLine, List.reverse_append, List.reverse_cons, List.append_assoc,
    List.takeWhile_append_of_pos hall]
  simp

/-- A text with an LF in it has a last line behind the last of them. -/
theorem exists_last_lineFeed (h : '\n' ∈ text) :
    ∃ front line, text = front ++ '\n' :: line ∧ '\n' ∉ line := by
  obtain ⟨line, front, hreverse, hline⟩ := List.eq_append_cons_of_mem (List.mem_reverse.mpr h)
  refine ⟨front.reverse, line.reverse, ?_, fun hmem => hline (List.mem_reverse.mp hmem)⟩
  rw [← List.reverse_reverse text, hreverse]
  simp

/-- The image of a text has the same last line: no LF is in it. -/
theorem lastLine_crlf (b : Bool) (text : List Char) : lastLine (crlf b text) = lastLine text := by
  by_cases hfeed : '\n' ∈ text
  · obtain ⟨front, line, rfl, hline⟩ := exists_last_lineFeed hfeed
    obtain ⟨front', himage⟩ :
        ∃ front', crlf b (front ++ '\n' :: line) = front' ++ '\n' :: line := by
      rw [crlf_append]
      cases returnAfter b front with
      | false => exact ⟨crlf b front ++ ['\r'], by simp [crlf_of_notMem hline]⟩
      | true => exact ⟨crlf b front, by simp [crlf_copy, crlf_of_notMem hline]⟩
    rw [himage, lastLine_of_lineFeed hline, lastLine_of_lineFeed hline]
  · rw [crlf_of_notMem hfeed]

theorem lineColumn_append (behind ahead : List Char) :
    lineColumn (behind ++ ahead) behind.length =
      ⟨behind.count '\n' + 1, (lastLine behind).length + 1⟩ := by
  have hbound : boundIn (behind ++ ahead).length behind.length = behind.length := by
    rw [boundIn_natCast, List.length_append]
    omega
  rw [lineColumn, hbound, List.take_left]
  simp

/-- A place in a text and its place in the image are in the same line and column. -/
theorem lineColumn_crlf (behind ahead : List Char) :
    lineColumn (crlf false (behind ++ ahead)) (crlf false behind).length =
      lineColumn (behind ++ ahead) behind.length := by
  rw [crlf_append, lineColumn_append, lineColumn_append, count_crlf, lastLine_crlf]

end LiteralLexer
