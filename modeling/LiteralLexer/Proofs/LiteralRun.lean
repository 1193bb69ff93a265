import LiteralLexer.Proofs.Context
import LiteralLexer.Proofs.Decoding
import LiteralLexer.Proofs.SafeSession

/-!
Literals one after the other. A session that reads literal after literal from the start of a source
comes to an end, and loses nothing of the source on the way: the literals lie one behind the other
with nothing but trivia in between. And texts of literals that are put one behind the other, with or
without trivia in between, are read back as the literals that they are.
-/
namespace LiteralLexer

/-- Literals that a session reads one after the other, each from where the one before has ended. -/
inductive LiteralRun : Session → List Literal → Session → Prop where
  | nil {s : Session} : LiteralRun s [] s
  | cons {s next last : Session} {literal : Literal} {literals : List Literal} :
    s.call .literal = (.answered (.literal literal), next) → LiteralRun next literals last →
    LiteralRun s (literal :: literals) last

/-- The text may stand in front of a literal: skipping trivia in the text alone takes all of it. -/
def IsGap (text : List Char) : Prop :=
  text = [] ∨ Session.call ⟨⟨text, 0⟩, none⟩ .skipTrivia =
    (.answered .nothing, ⟨⟨text, text.length⟩, none⟩)

/-- The literals lie in the source one behind the other from `start` on, with gaps in front of them.
-/
inductive Laid (source : List Char) : Nat → List Literal → Prop where
  | nil {start : Nat} : Laid source start []
  | cons {start : Nat} {literal : Literal} {span : Span} {literals : List Literal} :
    literal.span = some span → start ≤ span.start → span.start < span.stop →
    span.stop ≤ source.length → IsGap ((source.drop start).take (span.start - start)) →
    Laid source span.stop literals → Laid source start (literal :: literals)

theorem isGap_of_trivia {text : List Char} (h : Trivia text []) : IsGap text := by
  cases text with
  | nil => exact .inl rfl
  | cons c cs =>
    have hdone := optionalTrivia_done [] h not_startsTrivia_nil
    rw [List.append_nil, List.nil_append, ← Cursor.mk_zero_eq_between] at hdone
    have hrun : Call.skipTrivia.run ⟨c :: cs, 0⟩ =
        .done .nothing ⟨c :: cs, (c :: cs).length⟩ := by
      rw [Call.run, skipTrivia, hdone, Outcome.bind_done, if_neg (by simp; omega), Cursor.between,
        List.append_nil]
      rfl
    have hstep := Session.step_call ⟨⟨c :: cs, 0⟩, none⟩ .skipTrivia
    rw [hrun] at hstep
    exact .inr hstep

section
variable {behind before token rest : List Char} {value : LiteralValue}
  {slot : Option Failure}

/-- One step of a run: trivia and the text of a literal are taken. -/
theorem Session.call_literal (hbefore : Trivia before (token ++ rest))
    (htoken : Spells value token) :
    Session.call ⟨.between behind (before ++ (token ++ rest)), slot⟩ .literal =
      (.answered (.literal (.of (behind ++ before) value token)),
        ⟨.between (behind ++ before ++ token) rest, none⟩) := by
  have hstep := Session.step_call ⟨.between behind (before ++ (token ++ rest)), slot⟩ .literal
  rw [Call.run, parseLiteral_token behind hbefore htoken] at hstep
  exact hstep

/-- Where no literal is read the session is refused one. -/
theorem Session.call_literal_or_refused (behind ahead : List Char) (slot : Option Failure) :
    (∃ before value token rest, ahead = before ++ (token ++ rest) ∧
      Trivia before (token ++ rest) ∧ Spells value token) ∨
    (Session.call ⟨.between behind ahead, slot⟩ .literal).1 = .refused := by
  have hstep := Session.step_call ⟨.between behind ahead, slot⟩ .literal
  have hrun := Call.literal.run_within (Cursor.between_within behind ahead)
  cases hread : Call.literal.run (.between behind ahead) with
  | done answer after =>
    obtain ⟨literal, hliteral, -⟩ := Outcome.map_eq_done_iff.mp hread
    obtain ⟨before, value, token, rest, hahead, hbefore, htoken, -⟩ :=
      parseLiteral_eq_done_iff.mp hliteral
    exact .inl ⟨before, value, token, rest, hahead, hbefore, htoken⟩
  | failed failure =>
    rw [hread] at hstep
    exact .inr (congrArg Prod.fst hstep)
  | aborted abort =>
    rw [hread] at hrun
    exact absurd hrun id

/-- One step of a layout. -/
theorem Laid.cons_of {literals : List Literal} (hbefore : Trivia before (token ++ rest))
    (htoken : Spells value token)
    (h : Laid (behind ++ before ++ token ++ rest) (behind ++ before ++ token).length literals) :
    Laid (behind ++ (before ++ (token ++ rest))) behind.length
      (.of (behind ++ before) value token :: literals) := by
  have hne : token ++ rest ≠ [] :=
    List.append_ne_nil_of_left_ne_nil (List.length_pos_iff.mp htoken.length_pos) rest
  have hpos := htoken.length_pos
  have hgap : ((behind ++ (before ++ (token ++ rest))).drop behind.length).take
      ((behind ++ before).length - behind.length) = before := by
    simp
  refine .cons rfl ?_ ?_ ?_ ?_ ?_
  · simp
  · simp only
    omega
  · simp only [List.length_append]
    omega
  · rw [hgap]
    exact isGap_of_trivia (hbefore.before hne [])
  · rw [List.length_append] at h
    simpa only [List.append_assoc] using h

end

/-- From every place literals are read up to where there is no other one. -/
theorem LiteralRun.exists_last (behind ahead : List Char) (slot : Option Failure) :
    ∃ literals last, LiteralRun ⟨.between behind ahead, slot⟩ literals last ∧
      (last.call .literal).1 = .refused ∧ Laid (behind ++ ahead) behind.length literals := by
  obtain ⟨n, hn⟩ : ∃ n, ahead.length = n := ⟨_, rfl⟩
  induction n using Nat.strongRecOn generalizing behind ahead slot with
  | ind n ih =>
    obtain ⟨before, value, token, rest, rfl, hbefore, htoken⟩ | hrefused :=
      Session.call_literal_or_refused behind ahead slot
    · have hlt : rest.length < n := by
        have := htoken.length_pos
        simp only [List.length_append] at hn
        omega
      obtain ⟨literals, last, hrun, hlast, hlaid⟩ :=
        ih rest.length hlt (behind ++ before ++ token) rest none rfl
      exact ⟨_, last, .cons (Session.call_literal hbefore htoken) hrun, hlast,
        hlaid.cons_of hbefore htoken⟩
    · exact ⟨[], _, .nil, hrefused, .nil⟩

/-- A run that has come to its end has read whatever another run from there has. -/
theorem LiteralRun.prefix_of_last {s last reached : Session} {literals other : List Literal}
    (h : LiteralRun s literals last) (hlast : (last.call .literal).1 = .refused)
    (hother : LiteralRun s other reached) : other <+: literals := by
  induction hother generalizing literals with
  | nil => exact List.nil_prefix
  | cons hcall _ ih =>
    cases h with
    | nil =>
      rw [hcall] at hlast
      cases hlast
    | cons hcall' hrun =>
      rw [hcall] at hcall'
      cases hcall'
      exact (List.prefix_cons_inj _).mpr (ih hrun)

/-- Items of trivia one after the other are trivia. -/
theorem Trivia.of_items {items : List (List Char)} (h : ∀ item ∈ items, TriviaItem item)
    (rest : List Char) : Trivia items.flatten rest := by
  induction items with
  | nil => exact .nil
  | cons item items ih =>
    obtain ⟨hitem, hitems⟩ := List.forall_mem_cons.mp h
    exact .item hitem (ih hitems)

/-- A text that spells a literal decodes to it. -/
theorem Spells.decode_eq {value : LiteralValue} {token : List Char} (h : Spells value token)
    (hsize : token.length ≤ maxSourceSize) (slot : Option Failure) :
    decodeAfter slot token = .ok (.of [] value token) := by
  have hholds : Holds token [] token [] value :=
    ⟨by simp, .nil, h, .nil⟩
  rw [decodeAfter_eq, hholds.decodeOutcome_eq hsize]

/-- A text that decodes to a literal without any trivia around it spells the literal. -/
theorem spells_of_decode {slot : Option Failure} {token : List Char} {literal : Literal}
    (hdecode : decodeAfter slot token = .ok literal)
    (hspan : literal.span = some ⟨0, token.length, Nat.zero_le _⟩) :
    Spells literal.value token ∧ literal = .of [] literal.value token := by
  have hsize : token.length ≤ maxSourceSize := by
    by_contra hlong
    rw [decodeAfter_eq, decodeOutcome, if_pos (Nat.not_le.mp hlong)] at hdecode
    cases hdecode
  rw [decodeAfter_eq] at hdecode
  obtain ⟨before, inner, after, value, hholds⟩ | ⟨failure, hrejection⟩ := holds_or_rejection token
  · rw [hholds.decodeOutcome_eq hsize] at hdecode
    cases hdecode
    simp only [Literal.of, Option.some.injEq, Span.mk.injEq] at hspan
    obtain ⟨hstart, hstop⟩ := hspan
    have hsource := hholds.source_eq
    obtain rfl : before = [] := List.length_eq_zero_iff.mp hstart
    have hlength := congrArg List.length hsource
    simp only [List.nil_append, List.length_append, List.length_nil] at hlength hstop
    obtain rfl : after = [] := List.length_eq_zero_iff.mp (by omega)
    obtain rfl : token = inner := by simpa using hsource
    exact ⟨hholds.token, rfl⟩
  · rw [hrejection.decodeOutcome_eq hsize] at hdecode
    cases hdecode

/-- A text that decodes to a literal, with items of trivia to put in front of it. -/
structure Entry where
  trivia : List (List Char)
  token : List Char
  literal : Literal
  trivia_items : ∀ item ∈ trivia, TriviaItem item
  decode_token : decodeAfter none token = .ok literal
  span_token : literal.span = some ⟨0, token.length, Nat.zero_le _⟩

namespace Entry

def text (entry : Entry) : List Char := entry.trivia.flatten ++ entry.token

/-- The literals of the entries, where they stand if the text of the entries starts at `start`. -/
def place : Nat → List Entry → List Literal
  | _, [] => []
  | start, entry :: entries =>
    entry.literal.shift (start + entry.trivia.flatten.length) ::
      place (start + entry.text.length) entries

theorem spells (entry : Entry) : Spells entry.literal.value entry.token :=
  (spells_of_decode entry.decode_token entry.span_token).1

theorem literal_shift (entry : Entry) (behind : List Char) :
    entry.literal.shift behind.length = .of behind entry.literal.value entry.token := by
  rw [(spells_of_decode entry.decode_token entry.span_token).2]
  simp [Literal.shift, Literal.of, Span.shift]

/-- A run over the texts of entries reads their literals, whatever lies behind and ahead. -/
theorem literalRun (entries : List Entry) (behind rest : List Char) (slot : Option Failure) :
    ∃ last, LiteralRun ⟨.between behind (entries.flatMap text ++ rest), slot⟩
        (place behind.length entries) last ∧
      last.cursor = .between (behind ++ entries.flatMap text) rest := by
  induction entries generalizing behind slot with
  | nil => exact ⟨_, .nil, by simp⟩
  | cons entry entries ih =>
    obtain ⟨last, hrun, hlast⟩ := ih (behind ++ entry.trivia.flatten ++ entry.token) none
    have hcall : Session.call
        ⟨.between behind ((entry :: entries).flatMap text ++ rest), slot⟩ .literal =
          (.answered (.literal (entry.literal.shift (behind ++ entry.trivia.flatten).length)),
            ⟨.between (behind ++ entry.trivia.flatten ++ entry.token)
              (entries.flatMap text ++ rest), none⟩) := by
      have hahead : (entry :: entries).flatMap text ++ rest =
          entry.trivia.flatten ++ (entry.token ++ (entries.flatMap text ++ rest)) := by
        simp [text]
      rw [hahead, entry.literal_shift]
      exact Session.call_literal (.of_items entry.trivia_items _) entry.spells
    have hplace : place behind.length (entry :: entries) =
        entry.literal.shift (behind ++ entry.trivia.flatten).length ::
          place (behind ++ entry.trivia.flatten ++ entry.token).length entries := by
      simp [place, text]
    refine ⟨last, ?_, ?_⟩
    · rw [hplace]
      exact .cons hcall hrun
    · rw [hlast]
      simp [text]

end Entry

/-- Reading literal after literal loses nothing. From the start of any source this comes to an end,
where no other literal can be read, and then the literals lie one behind the other with nothing but
trivia in between; whoever stops earlier has read the first ones of them. And if a source starts
with the texts of literals, with items of trivia in between or without, then just these literals are
read first, each where its text is. -/
theorem LiteralRun.lossless :
    (∀ source slot, ∃ literals last, LiteralRun ⟨⟨source, 0⟩, slot⟩ literals last ∧
      (last.call .literal).1 = .refused ∧ Laid source 0 literals ∧
      ∀ other reached, LiteralRun ⟨⟨source, 0⟩, slot⟩ other reached → other <+: literals) ∧
    ∀ (entries : List Entry) rest slot, ∃ last,
      LiteralRun ⟨⟨entries.flatMap Entry.text ++ rest, 0⟩, slot⟩ (Entry.place 0 entries) last ∧
        last.cursor = .between (entries.flatMap Entry.text) rest := by
  constructor
  · intro source slot
    obtain ⟨literals, last, hrun, hlast, hlaid⟩ := exists_last [] source slot
    exact ⟨literals, last, hrun, hlast, hlaid, fun other reached => hrun.prefix_of_last hlast⟩
  · intro entries rest slot
    exact Entry.literalRun entries [] rest slot

/-- A raw text, and another one directly behind it that opens with a marker. -/
theorem LiteralRun.lossless_adjacent :
    ∃ last, LiteralRun ⟨⟨['r', '"', '"', 'r', '#', '"', '"', '#'], 0⟩, none⟩
      [⟨.rawText [] 0, some ⟨0, 3, by decide⟩⟩, ⟨.rawText [] 1, some ⟨3, 8, by decide⟩⟩] last ∧
        last.cursor = ⟨['r', '"', '"', 'r', '#', '"', '"', '#'], 8⟩ := by
  have hbody (n : Nat) : ¬Cause.rawClose n <:+: [] := by simp [Cause.rawClose]
  have hfirst : Spells (.rawText [] 0) ['r', '"', '"'] := .rawText 0 (hbody 0)
  have hsecond : Spells (.rawText [] 1) ['r', '#', '"', '"', '#'] := .rawText 1 (hbody 1)
  exact lossless.2
    [⟨[], _, _, by simp, hfirst.decode_eq (by decide) none, rfl⟩,
      ⟨[], _, _, by simp, hsecond.decode_eq (by decide) none, rfl⟩] [] none

end LiteralLexer
