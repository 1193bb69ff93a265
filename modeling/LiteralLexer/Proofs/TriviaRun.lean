import LiteralLexer.Proofs.SideChannel
import LiteralLexer.Proofs.TriviaGrammar

/-!
How far trivia goes. From a place in a source there is a longest row of items of trivia, and
skipping trivia goes just as far as this row does. It goes no further for a comment of
documentation, wherever in the row one starts. A plain block comment behind the row that never
closes makes it fail, with the items in front of that comment lost; for want of any item it fails
too.
-/
namespace LiteralLexer

open BlockComment (balance)

/-- A comment of documentation comes first in the text. -/
def DocComment (text : List Char) : Prop :=
  ∃ mark, (mark = '/' ∨ mark = '*') ∧
    (['/', mark, '!'] <+: text ∨ ['/', mark, mark] <+: text ∧ ¬['/', mark, mark, mark] <+: text)

namespace DocComment

variable {text : List Char}

/-- No comment is both plain and documentation: its second character tells which mark to look for.
-/
theorem not_plainComment (h : DocComment text) (mark : Char) : ¬PlainComment mark text := by
  rintro ⟨hstart, hbang, hthrice⟩
  obtain ⟨own, -, hdoc⟩ := h
  have hown : ['/', own] <+: text := by
    obtain hinner | ⟨houter, -⟩ := hdoc
    · exact List.IsPrefix.trans ⟨['!'], rfl⟩ hinner
    · exact List.IsPrefix.trans ⟨[own], rfl⟩ houter
  obtain ⟨⟩ : ['/', own] = ['/', mark] :=
    (List.prefix_of_prefix_length_le hown hstart (Nat.le_refl 2)).eq_of_length rfl
  obtain hinner | ⟨houter, hthird⟩ := hdoc
  · exact hbang hinner
  · exact hthird (hthrice houter)

theorem not_openComment (h : DocComment text) : ¬OpenComment text :=
  fun hopen => h.not_plainComment '*' hopen.1

theorem not_startsTrivia (h : DocComment text) : ¬StartsTrivia text := by
  rintro (⟨c, more, rfl, hblank⟩ | hline | hblock)
  · obtain ⟨mark, -, ⟨rest, hrest⟩ | ⟨⟨rest, hrest⟩, -⟩⟩ := h
    · cases hrest
      exact absurd hblank (by decide)
    · cases hrest
      exact absurd hblank (by decide)
  · exact h.not_plainComment '/' hline
  · exact h.not_plainComment '*' hblock

end DocComment

/-- No row of trivia goes further than one behind which none starts, for all rows lead the reader
there. -/
theorem Trivia.length_le {text rest text' rest' : List Char} (h : Trivia text rest)
    (hrest : ¬StartsTrivia rest ∨ OpenComment rest) (h' : Trivia text' rest')
    (heq : text' ++ rest' = text ++ rest) : text'.length ≤ text.length := by
  have hread : readTrivia ⟨rest', 0⟩ = readTrivia ⟨rest, 0⟩ := by
    rw [← readTrivia_append h', heq, readTrivia_append h]
  have hwithin : Reading.Within 0 rest' (readTrivia ⟨rest', 0⟩) := readTrivia_within ⟨rest', 0⟩ rfl
  have hsuffix : rest <:+ rest' := by
    rw [hread] at hwithin
    obtain hstop | hopen := hrest
    · rw [readTrivia_stop hstop] at hwithin
      exact hwithin.2.1
    · rw [readTrivia_open hopen] at hwithin
      exact hwithin
  have hlength := congrArg List.length heq
  have hle := hsuffix.length_le
  simp only [List.length_append] at hlength
  omega

/-- Between the places `p` and `q` there are items of trivia and nothing else. -/
structure TriviaUpTo (source : List Char) (p q : Nat) : Prop where
  start_le : p ≤ q
  le_length : q ≤ source.length
  trivia : Trivia ((source.drop p).take (q - p)) (source.drop q)

/-- The items of trivia from `p` on end at `e`, and no row of items from `p` on ends further on. -/
structure TriviaRun (source : List Char) (p e : Nat) : Prop extends TriviaUpTo source p e where
  longest : ∀ q, TriviaUpTo source p q → q ≤ e

section
variable {source : List Char} {p q e : Nat}

/-- Items of trivia between two places are a text between what is behind and what is ahead. -/
theorem TriviaUpTo.exists_text (h : TriviaUpTo source p q) :
    ∃ behind text rest, source = behind ++ (text ++ rest) ∧ p = behind.length ∧
      q = (behind ++ text).length ∧ source.drop q = rest ∧ Trivia text rest := by
  obtain ⟨behind, text, rest, rfl, rfl, rfl⟩ := exists_taken h.start_le h.le_length
  have htrivia := h.trivia
  rw [take_taken, ← List.append_assoc, List.drop_left] at htrivia
  refine ⟨behind, text, rest, rfl, rfl, rfl, ?_, htrivia⟩
  rw [← List.append_assoc, List.drop_left]

theorem TriviaUpTo.of_text {behind text rest : List Char} (h : Trivia text rest) :
    TriviaUpTo (behind ++ (text ++ rest)) behind.length (behind ++ text).length := by
  refine ⟨by simp, by simp, ?_⟩
  rwa [take_taken, ← List.append_assoc, List.drop_left]

/-- A row of trivia is the longest one if what follows it is no trivia that ends. -/
theorem TriviaUpTo.run_of_stop (h : TriviaUpTo source p e)
    (hstop : ¬StartsTrivia (source.drop e) ∨ OpenComment (source.drop e)) :
    TriviaRun source p e := by
  refine ⟨h, fun q hq => ?_⟩
  obtain ⟨behind, text, rest, rfl, rfl, rfl, hrest, htext⟩ := h.exists_text
  obtain ⟨behind', text', rest', hsource, hplace, rfl, -, htext'⟩ := hq.exists_text
  obtain ⟨rfl, heq⟩ := List.append_inj hsource hplace
  rw [hrest] at hstop
  have hle := htext.length_le hstop htext' heq.symm
  simp only [List.length_append]
  omega

theorem exists_triviaRun (hp : p ≤ source.length) : ∃ e, TriviaRun source p e ∧
    (¬StartsTrivia (source.drop e) ∨ OpenComment (source.drop e)) := by
  obtain ⟨behind, ahead, rfl, rfl⟩ := exists_behind_ahead hp
  obtain ⟨text, rest, rfl, htext, hstop⟩ := exists_trivia ahead
  have hdrop : (behind ++ (text ++ rest)).drop (behind ++ text).length = rest := by
    rw [← List.append_assoc, List.drop_left]
  rw [← hdrop] at hstop
  exact ⟨_, (TriviaUpTo.of_text htext).run_of_stop hstop, hstop⟩

namespace TriviaRun

theorem unique (h : TriviaRun source p e) (h' : TriviaRun source p q) : q = e :=
  Nat.le_antisymm (h.longest q h'.toTriviaUpTo) (h'.longest e h.toTriviaUpTo)

/-- Behind the longest row no trivia starts, but for a comment that never closes. -/
theorem stop (h : TriviaRun source p e) :
    ¬StartsTrivia (source.drop e) ∨ OpenComment (source.drop e) := by
  obtain ⟨q, hq, hstop⟩ := exists_triviaRun (Nat.le_trans h.start_le h.le_length)
  rwa [← h.unique hq]

/-- Documentation ends the row in which it stands. -/
theorem eq_of_docComment (h : TriviaRun source p e) (hq : TriviaUpTo source p q)
    (hdoc : DocComment (source.drop q)) : q = e :=
  h.unique (hq.run_of_stop (.inl hdoc.not_startsTrivia))

/-- From its end on the longest row is the empty one. -/
theorem again (h : TriviaRun source p e) : TriviaRun source e e := by
  have hempty : TriviaUpTo source e e := by
    refine ⟨Nat.le_refl e, h.le_length, ?_⟩
    rw [Nat.sub_self, List.take_zero]
    exact .nil
  exact hempty.run_of_stop h.stop

/-- Trivia that is optional is skipped up to the end of the longest row. -/
theorem optionalTrivia_done (h : TriviaRun source p e) (hopen : ¬OpenComment (source.drop e)) :
    optionalTrivia ⟨source, p⟩ = .done () ⟨source, e⟩ := by
  have hstop := h.stop.resolve_right hopen
  obtain ⟨behind, text, rest, rfl, rfl, rfl, hrest, htext⟩ := h.exists_text
  rw [hrest] at hstop
  rw [Cursor.mk_append_eq_between]
  exact LiteralLexer.optionalTrivia_done behind htext hstop

theorem optionalTrivia_open (h : TriviaRun source p e) (hopen : OpenComment (source.drop e)) :
    optionalTrivia ⟨source, p⟩ =
      .failed ((Cause.unterminatedComment (balance (source.drop e))).at e) := by
  obtain ⟨behind, text, rest, rfl, rfl, rfl, hrest, htext⟩ := h.exists_text
  rw [hrest] at hopen ⊢
  exact LiteralLexer.optionalTrivia_open behind htext hopen

theorem skipTrivia_open (h : TriviaRun source p e) (hopen : OpenComment (source.drop e)) :
    skipTrivia ⟨source, p⟩ =
      .failed ((Cause.unterminatedComment (balance (source.drop e))).at e) := by
  rw [skipTrivia, h.optionalTrivia_open hopen, Outcome.bind_failed]

theorem skipTrivia_none (h : TriviaRun source p p) (hopen : ¬OpenComment (source.drop p)) :
    skipTrivia ⟨source, p⟩ = .failed (Cause.noTrivia.at p) := by
  rw [skipTrivia, h.optionalTrivia_done hopen, Outcome.bind_done, if_pos rfl]

theorem skipTrivia_done (h : TriviaRun source p e) (hopen : ¬OpenComment (source.drop e))
    (hsome : e ≠ p) : skipTrivia ⟨source, p⟩ = .done () ⟨source, e⟩ := by
  have hmoved : (e : Int) ≠ p := fun heq => hsome (Int.natCast_inj.mp heq)
  rw [skipTrivia, h.optionalTrivia_done hopen, Outcome.bind_done, if_neg hmoved]

end TriviaRun
end

/-- Skipping trivia goes as far as the longest row of items from the place on, and fails at the end
of the row if a plain block comment opens there that never closes; an empty row is a failure too. A
comment of documentation between two items, or in front of them, is where the row ends. What has
been skipped cannot be skipped again. -/
theorem skipTrivia_run (source : List Char) (p : Nat) (hp : p ≤ source.length)
    (slot : Option Failure) :
    (∃ e, TriviaRun source p e) ∧
    ∀ e, TriviaRun source p e →
      (OpenComment (source.drop e) →
        (Recording.skipTrivia ⟨source, p⟩).runFrom slot =
          (.ok none, some (.openComment (balance (source.drop e)) e))) ∧
      (¬OpenComment (source.drop e) → e = p →
        (Recording.skipTrivia ⟨source, p⟩).runFrom slot =
          (.ok none, some ⟨.noTrivia, "Expected whitespace or comment", p, []⟩)) ∧
      (¬OpenComment (source.drop e) → e ≠ p →
        (Recording.skipTrivia ⟨source, p⟩).runFrom slot = (.ok (some ((), ⟨source, e⟩)), none) ∧
        ∀ slot', (Recording.skipTrivia ⟨source, e⟩).runFrom slot' =
          (.ok none, some ⟨.noTrivia, "Expected whitespace or comment", e, []⟩)) ∧
      ∀ q, TriviaUpTo source p q → DocComment (source.drop q) →
        q = e ∧ ¬OpenComment (source.drop e) := by
  rw [Recording.skipTrivia, Recording.handFresh_tells]
  refine ⟨(exists_triviaRun hp).imp fun _ h => h.1, fun e hrun => ⟨?_, ?_, ?_, ?_⟩⟩
  · intro hopen
    rw [hrun.skipTrivia_open hopen, Cause.at_unterminatedComment]
    rfl
  · rintro hopen rfl
    rw [hrun.skipTrivia_none hopen]
    rfl
  · intro hopen hsome
    rw [hrun.skipTrivia_done hopen hsome]
    refine ⟨rfl, fun slot' => ?_⟩
    rw [Recording.skipTrivia, Recording.handFresh_tells, hrun.again.skipTrivia_none hopen]
    rfl
  · intro q hq hdoc
    obtain rfl := hrun.eq_of_docComment hq hdoc
    exact ⟨rfl, hdoc.not_openComment⟩

/-- Behind a blank and a line comment trivia ends at a comment of documentation. -/
theorem skipTrivia_run_doc :
    (Recording.skipTrivia ⟨[' ', '/', '/', '\n', '/', '*', '*', '/'], 0⟩).runFrom none =
      (.ok (some ((), ⟨[' ', '/', '/', '\n', '/', '*', '*', '/'], 4⟩)), none) := by
  have hline : TriviaItem (['/', '/'] ++ ['\n']) := .line (by decide) (by decide)
  have hrow : TriviaUpTo [' ', '/', '/', '\n', '/', '*', '*', '/'] 0 4 :=
    ⟨by decide, by decide, .item (.blank rfl) (.item hline .nil)⟩
  have hdoc : DocComment ['/', '*', '*', '/'] := ⟨'*', .inr rfl, .inr (by decide)⟩
  obtain ⟨⟨e, hrun⟩, hskip⟩ :=
    skipTrivia_run [' ', '/', '/', '\n', '/', '*', '*', '/'] 0 (by decide) none
  obtain ⟨-, -, hdone, hends⟩ := hskip e hrun
  obtain ⟨rfl, hopen⟩ := hends 4 hrow hdoc
  exact (hdone hopen (by decide)).1

end LiteralLexer
