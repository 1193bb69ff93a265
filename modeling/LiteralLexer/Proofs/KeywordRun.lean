import LiteralLexer.Proofs.TriviaRun

/-!
Which keyword stands at a place. Behind all trivia from the place on there is a longest word, which
may be empty, and a keyword that is a word is matched just if it is this one, neither a part of it
nor more than it. So no two words are matched at one place.
-/
namespace LiteralLexer

/-- Nothing but characters that go on a word. -/
def IsWord (word : List Char) : Prop := ∀ c ∈ word, isWordChar c = true

instance (word : List Char) : Decidable (IsWord word) :=
  decidable_of_iff (word.all isWordChar = true) List.all_eq_true

/-- The longest word that the text starts with. -/
structure WordRun (text word : List Char) : Prop where
  isWord : IsWord word
  start : word <+: text
  longest : ∀ other, IsWord other → other <+: text → other.length ≤ word.length

/-- No word goes on with the text. -/
def BreaksWord (text : List Char) : Prop := ∀ c ∈ text.head?, isWordChar c = false

@[simp] theorem breaksWord_nil : BreaksWord [] := by
  simp [BreaksWord]

@[simp] theorem breaksWord_cons_iff {c : Char} {more : List Char} :
    BreaksWord (c :: more) ↔ isWordChar c = false := by
  simp [BreaksWord]

namespace WordRun

variable {text rest word other : List Char}

theorem unique (h : WordRun text word) (h' : WordRun text other) : other = word := by
  have hlength := Nat.le_antisymm (h.longest other h'.isWord h'.start)
    (h'.longest word h.isWord h.start)
  exact (List.prefix_of_prefix_length_le h'.start h.start hlength.le).eq_of_length hlength

theorem of_breaksWord (hword : IsWord word) (hrest : BreaksWord rest) :
    WordRun (word ++ rest) word := by
  refine ⟨hword, List.prefix_append word rest, fun other hother ⟨last, heq⟩ => ?_⟩
  obtain ⟨more, rfl, -⟩ | ⟨more, rfl, rfl⟩ := List.append_eq_append_iff.mp heq
  · rw [List.length_append]
    omega
  · cases more with
    | nil => rw [List.append_nil]
    | cons c more =>
      rw [List.cons_append, breaksWord_cons_iff, hother c (by simp)] at hrest
      cases hrest

theorem breaksWord (h : WordRun (word ++ rest) word) : BreaksWord rest := by
  cases rest with
  | nil => exact breaksWord_nil
  | cons c more =>
    rw [breaksWord_cons_iff]
    by_contra hgoes
    have hlonger : IsWord (word ++ [c]) := by
      intro d hd
      obtain hd | rfl : d ∈ word ∨ d = c := by simpa using hd
      · exact h.isWord d hd
      · simpa using hgoes
    have hle := h.longest _ hlonger ⟨more, by simp⟩
    rw [List.length_append, List.length_singleton] at hle
    omega

end WordRun

theorem Outcome.bind_eq_done_iff {o : Outcome α} {next : α → Cursor → Outcome β} {value : β}
    {after : Cursor} :
    o.bind next = .done value after ↔
      ∃ given last, o = .done given last ∧ next given last = .done value after := by
  cases o with
  | done given last =>
    simp only [bind_done, done.injEq]
    constructor
    · exact fun h => ⟨given, last, ⟨rfl, rfl⟩, h⟩
    · rintro ⟨_, _, ⟨rfl, rfl⟩, h⟩
      exact h
  | failed failure => simp
  | aborted abort => simp

section
variable {behind ahead token value : List Char} {after : Cursor}

theorem tokenAt_eq_done_iff :
    tokenAt token (.between behind ahead) = .done value after ↔
      ∃ rest, ahead = token ++ rest ∧ value = token ∧ after = .between (behind ++ token) rest := by
  rw [tokenAt, Cursor.between_startsWith]
  constructor
  · intro h
    split at h
    · rename_i hstart
      obtain ⟨rest, rfl⟩ := List.isPrefixOf_iff_prefix.mp hstart
      rw [Cursor.between_advance] at h
      cases h
      exact ⟨rest, rfl, rfl, rfl⟩
    · cases h
  · rintro ⟨rest, rfl, rfl, rfl⟩
    rw [if_pos (List.isPrefixOf_iff_prefix.mpr (List.prefix_append _ _)), Cursor.between_advance]

theorem wordBreak_eq_done_iff :
    wordBreak (.between behind ahead) = .done () after ↔
      BreaksWord ahead ∧ after = .between behind ahead := by
  have hstay := Cursor.between_locate_ok behind [] () ahead
  rw [List.nil_append, List.append_nil] at hstay
  rw [wordBreak, Cursor.between_read]
  cases ahead with
  | nil =>
    simp only [hstay, Outcome.done.injEq, breaksWord_nil, true_and]
    exact eq_comm
  | cons c more =>
    cases hword : isWordChar c with
    | true => simp [hword, Cursor.locate]
    | false =>
      simp only [hword, Bool.false_eq_true, if_false, hstay, Outcome.done.injEq,
        breaksWord_cons_iff, true_and]
      exact eq_comm

end

section
variable {source token value : List Char} {p e : Nat} {after : Cursor}

/-- Behind the trivia from the place on a keyword is matched where no word goes on behind it. -/
theorem TriviaRun.keyword_eq_done_iff (h : TriviaRun source p e)
    (hopen : ¬OpenComment (source.drop e)) :
    keyword ⟨source, p⟩ token = .done value after ↔
      ∃ rest, source.drop e = token ++ rest ∧ BreaksWord rest ∧ value = token ∧
        after = ⟨source, (e + token.length : Nat)⟩ := by
  obtain ⟨behind, ahead, rfl, rfl⟩ := exists_behind_ahead h.le_length
  have hplace (rest : List Char) : Cursor.between (behind ++ token) rest =
      ⟨behind ++ (token ++ rest), (behind.length + token.length : Nat)⟩ := by
    rw [← Cursor.mk_append_eq_between, List.length_append]
  rw [keyword, punct, h.optionalTrivia_done hopen, Outcome.bind_done, List.drop_left]
  change (tokenAt token (.between behind ahead)).bind _ = _ ↔ _
  rw [Outcome.bind_eq_done_iff]
  constructor
  · rintro ⟨_, _, htoken, hdone⟩
    obtain ⟨rest, rfl, rfl, rfl⟩ := tokenAt_eq_done_iff.mp htoken
    obtain ⟨_, _, hbreak, hdone⟩ := Outcome.bind_eq_done_iff.mp hdone
    obtain ⟨hrest, rfl⟩ := wordBreak_eq_done_iff.mp hbreak
    cases hdone
    exact ⟨rest, rfl, hrest, rfl, hplace rest⟩
  · rintro ⟨rest, rfl, hrest, rfl, rfl⟩
    refine ⟨value, _, tokenAt_eq_done_iff.mpr ⟨rest, rfl, rfl, rfl⟩, ?_⟩
    rw [wordBreak_eq_done_iff.mpr ⟨hrest, rfl⟩, hplace]
    rfl

/-- A keyword that is a word is matched just if it is the longest word behind the trivia. -/
theorem keyword_eq_done_iff_wordRun (hp : p ≤ source.length) (hword : IsWord token) :
    keyword ⟨source, p⟩ token = .done value after ↔
      ∃ e : Nat, TriviaRun source p e ∧ ¬OpenComment (source.drop e) ∧
        WordRun (source.drop e) token ∧ value = token ∧
        after = ⟨source, (e + token.length : Nat)⟩ := by
  constructor
  · intro h
    obtain ⟨e, hrun, -⟩ := exists_triviaRun hp
    by_cases hopen : OpenComment (source.drop e)
    · rw [keyword, punct, hrun.optionalTrivia_open hopen] at h
      cases h
    · obtain ⟨rest, hdrop, hrest, rfl, rfl⟩ := (hrun.keyword_eq_done_iff hopen).mp h
      exact ⟨e, hrun, hopen, hdrop ▸ .of_breaksWord hword hrest, rfl, rfl⟩
  · rintro ⟨e, hrun, hopen, hlongest, rfl, rfl⟩
    obtain ⟨rest, hdrop⟩ := hlongest.start
    rw [← hdrop] at hlongest
    exact (hrun.keyword_eq_done_iff hopen).mpr ⟨rest, hdrop.symm, hlongest.breaksWord, rfl, rfl⟩

end

/-- Which keyword is matched at a place is settled by the source. A word is matched just if no
comment stays open in front of it and it is all of the longest word behind the longest row of
trivia; the cursor is then behind it. Two words that are matched at one place are the same. -/
theorem keyword_unambiguous (source : List Char) (p : Nat) (hp : p ≤ source.length) :
    (∀ token slot value after, IsWord token →
      (((Recording.keyword ⟨source, p⟩ token).runFrom slot).1 = .ok (some (value, after)) ↔
        ∃ e : Nat, TriviaRun source p e ∧ ¬OpenComment (source.drop e) ∧
          WordRun (source.drop e) token ∧ value = token ∧
          after = ⟨source, (e + token.length : Nat)⟩)) ∧
    ∀ token token' slot slot' given given', IsWord token → IsWord token' →
      ((Recording.keyword ⟨source, p⟩ token).runFrom slot).1 = .ok (some given) →
      ((Recording.keyword ⟨source, p⟩ token').runFrom slot').1 = .ok (some given') →
      token' = token := by
  have hiff : ∀ token slot value after, IsWord token →
      (((Recording.keyword ⟨source, p⟩ token).runFrom slot).1 = .ok (some (value, after)) ↔
        ∃ e : Nat, TriviaRun source p e ∧ ¬OpenComment (source.drop e) ∧
          WordRun (source.drop e) token ∧ value = token ∧
          after = ⟨source, (e + token.length : Nat)⟩) := by
    intro token slot value after hword
    rw [Recording.keyword_tells, Outcome.given_eq_some_iff]
    exact keyword_eq_done_iff_wordRun hp hword
  refine ⟨hiff, fun token token' slot slot' given given' hword hword' h h' => ?_⟩
  obtain ⟨e, hrun, -, hlongest, -⟩ := (hiff token slot _ _ hword).mp h
  obtain ⟨e', hrun', -, hlongest', -⟩ := (hiff token' slot' _ _ hword').mp h'
  obtain rfl := hrun.unique hrun'
  exact hlongest.unique hlongest'

/-- Behind a comment and a blank, `fn` is all of the word, which a `+` ends. -/
theorem keyword_unambiguous_behind :
    let source := ['/', '/', '\n', ' ', 'f', 'n', '+']
    ((Recording.keyword ⟨source, 0⟩ ['f', 'n']).runFrom none).1 =
        .ok (some (['f', 'n'], ⟨source, 6⟩)) ∧
      ∀ token given, IsWord token →
        ((Recording.keyword ⟨source, 0⟩ token).runFrom none).1 = .ok (some given) →
        token = ['f', 'n'] := by
  intro source
  have hline : TriviaItem (['/', '/'] ++ ['\n']) := .line (by decide) (by decide)
  have hstop : ¬StartsTrivia ['f', 'n', '+'] := by
    rintro (⟨c, more, hc, hblank⟩ | hline | hblock)
    · cases hc
      exact absurd hblank (by decide)
    · obtain ⟨more, hmore⟩ := hline.exists_eq
      cases hmore
    · obtain ⟨more, hmore⟩ := hblock.exists_eq
      cases hmore
  have hrun : TriviaRun source 0 4 :=
    TriviaUpTo.run_of_stop
      ⟨by decide, by decide, .item hline (.item (.blank rfl) .nil)⟩ (.inl hstop)
  have hlongest : WordRun (['f', 'n'] ++ ['+']) ['f', 'n'] :=
    .of_breaksWord (by decide) (breaksWord_cons_iff.mpr (by decide +kernel))
  obtain ⟨hiff, hunique⟩ := keyword_unambiguous source 0 (by decide)
  have hmatched : ((Recording.keyword ⟨source, 0⟩ ['f', 'n']).runFrom none).1 =
      .ok (some (['f', 'n'], ⟨source, 6⟩)) :=
    (hiff ['f', 'n'] none _ _ (by decide)).mpr
      ⟨4, hrun, fun hopen => hstop (.inr (.inr hopen.1)), hlongest, rfl, rfl⟩
  exact ⟨hmatched, fun token given hword h =>
    hunique ['f', 'n'] token none none _ given (by decide) hword hmatched h⟩

end LiteralLexer
