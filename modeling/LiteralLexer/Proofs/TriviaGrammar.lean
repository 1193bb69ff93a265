import LiteralLexer.Proofs.CommentGrammar
import LiteralLexer.Trivia
import Mathlib.Data.List.TakeWhile

/-!
Which texts are trivia. A text is trivia in front of another one if it is made of blanks and of
plain comments that end. Every text splits into the trivia that it starts with and a rest, with
which no more trivia starts, or only a block comment that never closes. The reader of trivia finds
this split.
-/
namespace LiteralLexer

open BlockComment (openMark closeMark Inside balance)

/-- A comment with `mark` behind its slash comes first in the text, and it is no documentation. -/
def PlainComment (mark : Char) (text : List Char) : Prop :=
  ['/', mark] <+: text ∧ ¬['/', mark, '!'] <+: text ∧
    (['/', mark, mark] <+: text → ['/', mark, mark, mark] <+: text)

namespace PlainComment

instance (mark : Char) (text : List Char) : Decidable (PlainComment mark text) :=
  inferInstanceAs (Decidable (_ ∧ ¬_ ∧ (_ → _)))

variable {mark : Char} {text : List Char}

/-- A character that has no part in the opening of a comment may follow the comment or not. -/
theorem append_cons_iff {d : Char} (hslash : d ≠ '/') (hmark : d ≠ mark) (hbang : d ≠ '!')
    (rest : List Char) : PlainComment mark (text ++ d :: rest) ↔ PlainComment mark text := by
  unfold PlainComment
  rw [prefix_append_cons_iff (by simp [hslash, hmark]),
    prefix_append_cons_iff (by simp [hslash, hmark, hbang]),
    prefix_append_cons_iff (by simp [hslash, hmark]),
    prefix_append_cons_iff (by simp [hslash, hmark])]

/-- Four characters of a comment are enough to tell what it is. -/
theorem append_iff (h : 4 ≤ text.length) (rest : List Char) :
    PlainComment mark (text ++ rest) ↔ PlainComment mark text := by
  have hcut {pattern : List Char} (hpattern : pattern.length ≤ 4) :
      pattern <+: text ++ rest ↔ pattern <+: text :=
    prefix_append_iff (Nat.le_trans hpattern h) rest
  unfold PlainComment
  rw [hcut (by simp), hcut (by simp), hcut (by simp), hcut (by simp)]

theorem exists_eq (h : PlainComment mark text) : ∃ more, text = '/' :: mark :: more := by
  obtain ⟨more, rfl⟩ := h.1
  exact ⟨more, rfl⟩

end PlainComment

namespace CommentKind

theorem ofMark_eq_iff {plain : CommentKind} (hinner : plain ≠ innerDoc) (houter : plain ≠ outerDoc)
    (chars : List Char) (mark : Char) :
    ofMark ⟨chars, 0⟩ mark plain = plain ↔ ¬['/', mark, '!'] <+: chars ∧
      (['/', mark, mark] <+: chars → ['/', mark, mark, mark] <+: chars) := by
  simp only [ofMark, Ahead.startsWith_mk_zero, ← List.isPrefixOf_iff_prefix]
  by_cases hbang : ['/', mark, '!'].isPrefixOf chars = true
  · simp [hbang, hinner.symm]
  · by_cases htwice : ['/', mark, mark].isPrefixOf chars = true
    · by_cases hthrice : ['/', mark, mark, mark].isPrefixOf chars = true
      · simp [hbang, hthrice]
      · simp [hbang, htwice, hthrice, houter.symm]
    · simp [hbang, htwice]

theorem ofMark_plain_or (ahead : Ahead) (mark : Char) (plain : CommentKind) :
    ofMark ahead mark plain = plain ∨ ofMark ahead mark plain = innerDoc ∨
      ofMark ahead mark plain = outerDoc := by
  unfold ofMark
  split
  · exact .inr (.inl rfl)
  · split
    · exact .inr (.inr rfl)
    · exact .inl rfl

theorem of?_eq_line_iff (chars : List Char) :
    of? ⟨chars, 0⟩ = some line ↔ PlainComment '/' chars := by
  unfold of? PlainComment
  rw [Ahead.startsWith_mk_zero, Ahead.startsWith_mk_zero, ← List.isPrefixOf_iff_prefix]
  by_cases hslash : ['/', '/'].isPrefixOf chars = true
  · simp only [hslash, if_true, Option.some.injEq, true_and]
    exact ofMark_eq_iff (by decide) (by decide) chars '/'
  · simp only [hslash, false_and, iff_false, Bool.false_eq_true, if_false]
    split
    · obtain h | h | h := ofMark_plain_or ⟨chars, 0⟩ '*' block <;> simp [h]
    · simp

theorem of?_eq_block_iff (chars : List Char) :
    of? ⟨chars, 0⟩ = some block ↔ PlainComment '*' chars := by
  unfold of? PlainComment
  rw [Ahead.startsWith_mk_zero, Ahead.startsWith_mk_zero, ← List.isPrefixOf_iff_prefix]
  by_cases hslash : ['/', '/'].isPrefixOf chars = true
  · have hstar : ¬['/', '*'].isPrefixOf chars = true := by
      rw [List.isPrefixOf_iff_prefix] at hslash ⊢
      obtain ⟨more, rfl⟩ := hslash
      simp
    simp only [hslash, hstar, if_true]
    obtain h | h | h := ofMark_plain_or ⟨chars, 0⟩ '/' line <;> simp [h]
  · by_cases hstar : ['/', '*'].isPrefixOf chars = true
    · simp only [hslash, hstar, if_true, Option.some.injEq, true_and, Bool.false_eq_true, if_false]
      exact ofMark_eq_iff (by decide) (by decide) chars '*'
    · simp [hslash, hstar]

-- A block comment of nothing but its marks has the opening of documentation.
example : ¬PlainComment '*' ['/', '*', '*', '/'] ∧ PlainComment '*' ['/', '*', '*', '*'] := by
  decide

end CommentKind

/-- One item of trivia that ends of itself. -/
inductive TriviaItem : List Char → Prop where
  | blank {c : Char} : isBlank c = true → TriviaItem [c]
  | line {text : List Char} : PlainComment '/' text → '\n' ∉ text → TriviaItem (text ++ ['\n'])
  | block {inside : List Char} : PlainComment '*' (openMark ++ inside ++ closeMark) →
    Inside inside → TriviaItem (openMark ++ inside ++ closeMark)

/-- The text is trivia in front of `rest`. A line comment may end with the input. -/
inductive Trivia : List Char → List Char → Prop where
  | nil {rest : List Char} : Trivia [] rest
  | item {item text rest : List Char} :
    TriviaItem item → Trivia text rest → Trivia (item ++ text) rest
  | lastLine {text : List Char} : PlainComment '/' text → '\n' ∉ text → Trivia text []

/-- A blank or a plain comment comes first in the text. -/
def StartsTrivia (text : List Char) : Prop :=
  (∃ c more, text = c :: more ∧ isBlank c = true) ∨ PlainComment '/' text ∨ PlainComment '*' text

/-- A plain block comment comes first in the text and never closes. -/
def OpenComment (text : List Char) : Prop :=
  PlainComment '*' text ∧
    ∀ inside more, Inside inside → text ≠ openMark ++ inside ++ closeMark ++ more

theorem TriviaItem.length_pos {item : List Char} (h : TriviaItem item) : 0 < item.length := by
  cases h <;> simp [openMark]

theorem StartsTrivia.ne_nil {text : List Char} (h : StartsTrivia text) : text ≠ [] := by
  obtain ⟨c, more, rfl, -⟩ | h | h := h
  · simp
  · obtain ⟨more, rfl⟩ := h.exists_eq
    simp
  · obtain ⟨more, rfl⟩ := h.exists_eq
    simp

/-- A text with which trivia starts has an item of trivia in front, or it is a comment as far as it
goes. -/
theorem StartsTrivia.split {text : List Char} (h : StartsTrivia text) :
    (∃ item rest, text = item ++ rest ∧ TriviaItem item) ∨
      (PlainComment '/' text ∧ '\n' ∉ text) ∨ OpenComment text := by
  obtain ⟨c, more, rfl, hblank⟩ | hline | hblock := h
  · exact .inl ⟨[c], more, rfl, .blank hblank⟩
  · by_cases hlf : '\n' ∈ text
    · obtain ⟨inside, rest, rfl, hinside⟩ := List.eq_append_cons_of_mem hlf
      rw [PlainComment.append_cons_iff (by decide) (by decide) (by decide)] at hline
      exact .inl ⟨inside ++ ['\n'], rest, by simp, .line hline hinside⟩
    · exact .inr (.inl ⟨hline, hlf⟩)
  · by_cases hcloses : ∃ inside more, Inside inside ∧ text = openMark ++ inside ++ closeMark ++ more
    · obtain ⟨inside, more, hinside, rfl⟩ := hcloses
      rw [PlainComment.append_iff (by simp [openMark, closeMark])] at hblock
      exact .inl ⟨_, more, rfl, .block hblock hinside⟩
    · refine .inr (.inr ⟨hblock, fun inside more hinside heq => ?_⟩)
      exact hcloses ⟨inside, more, hinside, heq⟩

/-- Every text splits into trivia and a rest with which no more trivia starts that ends. -/
theorem exists_trivia (chars : List Char) : ∃ text rest, chars = text ++ rest ∧ Trivia text rest ∧
    (¬StartsTrivia rest ∨ OpenComment rest) := by
  obtain ⟨n, hn⟩ : ∃ n, chars.length = n := ⟨_, rfl⟩
  induction n using Nat.strongRecOn generalizing chars with
  | ind n ih =>
    by_cases hstarts : StartsTrivia chars
    · obtain ⟨item, rest, rfl, hitem⟩ | ⟨hline, hlf⟩ | hopen := hstarts.split
      · have hlt : rest.length < n := by
          have := hitem.length_pos
          rw [← hn, List.length_append]
          omega
        obtain ⟨text, last, rfl, htext, hlast⟩ := ih rest.length hlt rest rfl
        exact ⟨item ++ text, last, by simp, .item hitem htext, hlast⟩
      · exact ⟨chars, [], by simp, .lastLine hline hlf, .inl fun h => h.ne_nil rfl⟩
      · exact ⟨[], chars, rfl, .nil, .inr hopen⟩
    · exact ⟨[], chars, rfl, .nil, .inl hstarts⟩

theorem Ahead.nextLine_of_notMem {text : List Char} (h : '\n' ∉ text) :
    nextLine ⟨text, 0⟩ = ⟨[], 0⟩ := by
  have hall : text.dropWhile (· != '\n') = [] := by
    rw [List.dropWhile_eq_nil_iff]
    intro c hc
    simp only [bne_iff_ne, ne_eq]
    rintro rfl
    exact h hc
  simp [hall]

theorem Ahead.nextLine_append {text : List Char} (h : '\n' ∉ text) (rest : List Char) :
    nextLine ⟨text ++ '\n' :: rest, 0⟩ = ⟨rest, 0⟩ := by
  have hall : ∀ c ∈ text, (c != '\n') = true := by
    intro c hc
    simp only [bne_iff_ne, ne_eq]
    rintro rfl
    exact h hc
  simp [List.dropWhile_append_of_pos hall]

theorem readTrivia_line {text : List Char} (h : PlainComment '/' text) :
    readTrivia ⟨text, 0⟩ = readTrivia (Ahead.nextLine ⟨text, 0⟩) := by
  have hkind := (CommentKind.of?_eq_line_iff text).mpr h
  obtain ⟨more, rfl⟩ := h.exists_eq
  rw [readTrivia]
  simp [hkind]

theorem readTrivia_block {text : List Char} (h : PlainComment '*' text) :
    readTrivia ⟨text, 0⟩ =
      match BlockComment.read ⟨text, 0⟩ with
      | .error stop => .error stop
      | .ok ((), rest) => readTrivia rest := by
  have hkind := (CommentKind.of?_eq_block_iff text).mpr h
  obtain ⟨more, rfl⟩ := h.exists_eq
  rw [readTrivia]
  simp only [hkind]
  split <;> simp_all

theorem readTrivia_item {item : List Char} (h : TriviaItem item) (rest : List Char) :
    readTrivia ⟨item ++ rest, 0⟩ = readTrivia ⟨rest, 0⟩ := by
  cases h with
  | @blank c hblank =>
    have hslash : c ≠ '/' := by
      rintro rfl
      exact absurd hblank (by decide)
    have hkind : CommentKind.of? ⟨c :: rest, 0⟩ = none := by
      simp [CommentKind.of?, hslash.symm]
    rw [List.singleton_append, readTrivia]
    simp [hkind, hblank]
  | @line text hplain hlf =>
    have hline : PlainComment '/' (text ++ '\n' :: rest) :=
      (PlainComment.append_cons_iff (by decide) (by decide) (by decide) rest).mpr hplain
    rw [List.append_assoc, List.singleton_append, readTrivia_line hline,
      Ahead.nextLine_append hlf]
  | @block inside hplain hinside =>
    have hblock := (PlainComment.append_iff (by simp [openMark, closeMark]) rest).mpr hplain
    have hread : BlockComment.read ⟨openMark ++ inside ++ closeMark ++ rest, 0⟩ =
        .ok ((), ⟨rest, 0⟩) := by
      rw [List.append_assoc, List.append_assoc]
      exact BlockComment.read_eq_ok_iff.mpr ⟨inside, rest, rfl, hinside, by simp⟩
    rw [readTrivia_block hblock, hread]

/-- Trivia has no part in what is read after it. -/
theorem readTrivia_append {text rest : List Char} (h : Trivia text rest) :
    readTrivia ⟨text ++ rest, 0⟩ = readTrivia ⟨rest, 0⟩ := by
  induction h with
  | nil => rfl
  | item hitem _ ih => rw [List.append_assoc, readTrivia_item hitem, ih]
  | lastLine hline hlf =>
    rw [List.append_nil, readTrivia_line hline, Ahead.nextLine_of_notMem hlf]

theorem readTrivia_stop {text : List Char} (h : ¬StartsTrivia text) :
    readTrivia ⟨text, 0⟩ = .ok ((), ⟨text, 0⟩) := by
  cases text with
  | nil => simp [readTrivia]
  | cons c more =>
    have hline : CommentKind.of? ⟨c :: more, 0⟩ ≠ some .line := by
      rw [ne_eq, CommentKind.of?_eq_line_iff]
      exact fun hline => h (.inr (.inl hline))
    have hblock : CommentKind.of? ⟨c :: more, 0⟩ ≠ some .block := by
      rw [ne_eq, CommentKind.of?_eq_block_iff]
      exact fun hblock => h (.inr (.inr hblock))
    have hblank : isBlank c = false := by
      rw [Bool.eq_false_iff]
      exact fun hblank => h (.inl ⟨c, more, rfl, hblank⟩)
    rw [readTrivia]
    simp only
    split <;> simp_all

theorem readTrivia_open {text : List Char} (h : OpenComment text) :
    readTrivia ⟨text, 0⟩ = .error (.fault (.unterminatedComment (balance text)) text) := by
  rw [readTrivia_block h.1, BlockComment.read_open h.1.1 h.2]

theorem optionalTrivia_between (behind ahead : List Char) :
    optionalTrivia (.between behind ahead) =
      (Cursor.between behind ahead).locate (readTrivia ⟨ahead, 0⟩) := by
  simp [optionalTrivia]

variable {text rest : List Char} (behind : List Char)

/-- Trivia at a cursor is skipped if it leads to something that is none. -/
theorem optionalTrivia_done (h : Trivia text rest) (hrest : ¬StartsTrivia rest) :
    optionalTrivia (.between behind (text ++ rest)) =
      .done () (.between (behind ++ text) rest) := by
  rw [optionalTrivia_between, readTrivia_append h, readTrivia_stop hrest,
    Cursor.between_locate_ok]

/-- A comment behind trivia that never closes is a failure at its start. -/
theorem optionalTrivia_open (h : Trivia text rest) (hrest : OpenComment rest) :
    optionalTrivia (.between behind (text ++ rest)) =
      .failed ((Cause.unterminatedComment (balance rest)).at (behind ++ text).length) := by
  rw [optionalTrivia_between, readTrivia_append h, readTrivia_open hrest,
    Cursor.between_locate_fault]

end LiteralLexer
