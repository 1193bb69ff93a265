import LiteralLexer.Body
import LiteralLexer.Proofs.CommentGrammar
import LiteralLexer.Proofs.PieceGrammar
import LiteralLexer.RawText
import Mathlib.Data.List.TakeWhile

/-!
The bodies of literals, from behind the opening up to the closing, which always has to be there.
Each reader of bodies is exact: it reads the texts of its grammar, each up to the first place where
the literal closes, and nothing else.
-/
namespace LiteralLexer

/-- The reader reads exactly the texts that spell something, whatever comes behind them. -/
def Reads (reader : Ahead → Reading α) (spells : α → List Char → Prop) : Prop :=
  ∀ chars value more, reader ⟨chars, 0⟩ = .ok (value, ⟨more, 0⟩) ↔
    ∃ token, spells value token ∧ chars = token ++ more

section
variable {p : Char → Bool} {run rest : List Char}

/-- A run of characters with a property is taken as a whole if one without it follows. -/
theorem takeWhile_run (hrun : ∀ c ∈ run, p c = true) (hrest : ∀ c ∈ rest.head?, p c = false) :
    (run ++ rest).takeWhile p = run := by
  rw [List.takeWhile_append_of_pos hrun]
  cases rest with
  | nil => rw [List.takeWhile_nil, List.append_nil]
  | cons c cs => rw [List.takeWhile_cons_of_neg (by simp [hrest c rfl]), List.append_nil]

theorem dropWhile_run (hrun : ∀ c ∈ run, p c = true) (hrest : ∀ c ∈ rest.head?, p c = false) :
    (run ++ rest).dropWhile p = rest := by
  rw [List.dropWhile_append_of_pos hrun]
  cases rest with
  | nil => rfl
  | cons c cs => rw [List.dropWhile_cons_of_neg (by simp [hrest c rfl])]

end

/-- A quote is no white space, so a text that ends with one goes on without white space where it did
so before. -/
theorem head?_append_quote {text : List Char} (h : ∀ c ∈ text.head?, isWhiteSpace c = false)
    (more : List Char) : ∀ c ∈ (text ++ '"' :: more).head?, isWhiteSpace c = false := by
  cases text with
  | nil =>
    have hquote : isWhiteSpace '"' = false := by decide
    simpa using hquote
  | cons c cs => exact h

/-- The text between two double quotes, with what it denotes. The white space that joins two lines
is taken as far as it goes. -/
inductive BodyText (alphabet : Alphabet) : List Char → List Char → Prop where
  | nil : BodyText alphabet [] []
  | piece {piece : Piece} {text value : List Char} :
    piece.Legal alphabet → piece ≠ .plain '"' → BodyText alphabet text value →
    BodyText alphabet (piece.spelling ++ text) (piece.value :: value)
  | joint {space text value : List Char} :
    startsLineEnd space = true → (∀ c ∈ space, isWhiteSpace c = true) →
    (∀ c ∈ text.head?, isWhiteSpace c = false) → BodyText alphabet text value →
    BodyText alphabet ('\\' :: space ++ text) value

namespace Body

/-- Before the text `cs` the character `c` starts neither the end of a body nor a joint. -/
def StartsPiece (c : Char) (cs : List Char) : Prop :=
  c ≠ '"' ∧ (c = '\\' && startsLineEnd cs) = false

/-- No piece but a plain quote can be taken for the end of a body or for a joint. -/
theorem piece_spelling {alphabet : Alphabet} {piece : Piece} (hlegal : piece.Legal alphabet)
    (hquote : piece ≠ .plain '"') (rest : List Char) :
    ∃ c cs, piece.spelling ++ rest = c :: cs ∧ StartsPiece c cs := by
  cases piece with
  | plain char =>
    obtain ⟨hescape, -, -⟩ := hlegal
    refine ⟨char, rest, rfl, fun h => hquote (by rw [h]), ?_⟩
    simp [hescape]
  | lineEnd => exact ⟨'\r', '\n' :: rest, rfl, by decide, rfl⟩
  | simple escape =>
    refine ⟨'\\', escape.letter :: rest, rfl, by decide, ?_⟩
    cases escape <;> rfl
  | hex high low => exact ⟨'\\', 'x' :: high :: low :: rest, rfl, by decide, rfl⟩
  | braced digits => exact ⟨'\\', _, rfl, by decide, rfl⟩

theorem startsLineEnd_append {space : List Char} (h : startsLineEnd space = true)
    (rest : List Char) : startsLineEnd (space ++ rest) = true := by
  cases space with
  | nil => cases h
  | cons c cs => exact h

theorem isWhiteSpace_of_lineEnd {c : Char} (h : c = '\n' ∨ c = '\r') : isWhiteSpace c = true := by
  obtain rfl | rfl := h <;> decide

/-- A body that starts with a line end has white space in front. -/
theorem startsLineEnd_takeWhile {chars : List Char} (h : startsLineEnd chars = true) :
    startsLineEnd (chars.takeWhile isWhiteSpace) = true := by
  cases chars with
  | nil => cases h
  | cons c cs =>
    have hend : c = '\n' ∨ c = '\r' := by simpa [startsLineEnd] using h
    rw [List.takeWhile_cons_of_pos (isWhiteSpace_of_lineEnd hend)]
    exact h

theorem head?_dropWhile {chars : List Char} :
    ∀ c ∈ (chars.dropWhile isWhiteSpace).head?, isWhiteSpace c = false := by
  intro c hc
  have h := List.head?_dropWhile_not isWhiteSpace chars
  rw [Option.mem_def] at hc
  rw [hc] at h
  exact h

section
variable {alphabet : Alphabet} {c : Char} {cs more : List Char} {piece : Piece}

theorem scan_nil (alphabet : Alphabet) (sofar : List Char) :
    scan alphabet sofar ⟨[], 0⟩ = .error (.fault (.unterminatedBody alphabet) []) := by
  rw [scan]

@[simp] theorem scan_quote (alphabet : Alphabet) (sofar cs : List Char) :
    scan alphabet sofar ⟨'"' :: cs, 0⟩ = .ok (sofar.reverse, ⟨cs, 0⟩) := by
  simp [scan]

theorem scan_joint (h : startsLineEnd cs = true) (sofar : List Char) :
    scan alphabet sofar ⟨'\\' :: cs, 0⟩ =
      scan alphabet sofar ⟨cs.dropWhile isWhiteSpace, 0⟩ := by
  rw [scan]
  simp [h]

theorem scan_piece (hc : StartsPiece c cs)
    (h : Piece.scan alphabet c ⟨cs, 0⟩ = .ok (piece, ⟨more, 0⟩)) (sofar : List Char) :
    scan alphabet sofar ⟨c :: cs, 0⟩ = scan alphabet (piece.value :: sofar) ⟨more, 0⟩ := by
  rw [scan]
  simp only [hc.1, hc.2, if_false, Bool.false_eq_true, Nat.zero_sub]
  split
  · rename_i hscan
    rw [h] at hscan
    cases hscan
  · rename_i hscan
    rw [h] at hscan
    cases hscan
    rfl

theorem scan_stop (hc : StartsPiece c cs) {stop : Stop}
    (h : Piece.scan alphabet c ⟨cs, 0⟩ = .error stop) (sofar : List Char) :
    scan alphabet sofar ⟨c :: cs, 0⟩ = .error stop := by
  rw [scan]
  simp only [hc.1, hc.2, if_false, Bool.false_eq_true, Nat.zero_sub]
  split
  · rename_i hscan
    rw [h] at hscan
    cases hscan
    rfl
  · rename_i hscan
    rw [h] at hscan
    cases hscan

/-- Induction along a body as it is read in one of the alphabets. -/
theorem read_induction (alphabet : Alphabet) {motive : List Char → Prop} (nil : motive [])
    (quote : ∀ cs, motive ('"' :: cs))
    (joint : ∀ cs, startsLineEnd cs = true → motive (cs.dropWhile isWhiteSpace) →
      motive ('\\' :: cs))
    (piece : ∀ c cs piece more, StartsPiece c cs →
      Piece.scan alphabet c ⟨cs, 0⟩ = .ok (piece, ⟨more, 0⟩) → motive more → motive (c :: cs))
    (stop : ∀ c cs stop, StartsPiece c cs → Piece.scan alphabet c ⟨cs, 0⟩ = .error stop →
      motive (c :: cs)) (chars : List Char) : motive chars := by
  obtain ⟨n, hn⟩ : ∃ n, chars.length = n := ⟨_, rfl⟩
  induction n using Nat.strongRecOn generalizing chars with
  | ind n ih =>
    cases chars with
    | nil => exact nil
    | cons c cs =>
      rw [List.length_cons] at hn
      by_cases hquote : c = '"'
      · exact hquote ▸ quote cs
      · cases hjoint : c = '\\' && startsLineEnd cs with
        | true =>
          obtain ⟨rfl, hend⟩ : c = '\\' ∧ startsLineEnd cs = true := by simpa using hjoint
          have hle := (List.dropWhile_sublist (l := cs) isWhiteSpace).length_le
          exact joint cs hend (ih _ (by omega) _ rfl)
        | false =>
          cases hpiece : Piece.scan alphabet c ⟨cs, 0⟩ with
          | error reason => exact stop c cs reason ⟨hquote, hjoint⟩ hpiece
          | ok result =>
            obtain ⟨found, rest⟩ := result
            obtain ⟨more, rfl, -, -⟩ := Piece.scan_eq_ok_iff.mp hpiece
            have hle : more.length ≤ cs.length := Piece.scan_length_le hpiece
            exact piece c cs found more ⟨hquote, hjoint⟩ hpiece (ih _ (by omega) _ rfl)

end

theorem scan_sound {alphabet : Alphabet} {sofar result : List Char} {ahead rest : Ahead}
    (h : scan alphabet sofar ahead = .ok (result, rest)) (hseam : ahead.seam = 0) :
    ∃ text value more, rest = ⟨more, 0⟩ ∧ BodyText alphabet text value ∧
      ahead.chars = text ++ '"' :: more ∧ result = sofar.reverse ++ value := by
  fun_induction Body.scan alphabet sofar ahead with
  | case1 => cases h
  | case2 sofar cs seam after =>
    simp only at hseam
    subst hseam
    obtain ⟨rfl, hrest⟩ := Prod.mk.inj (Except.ok.inj h)
    exact ⟨[], [], cs, hrest.symm, .nil, rfl, by simp⟩
  | case3 sofar c cs seam after hquote hjoint ih =>
    simp only at hseam
    subst hseam
    simp only [after, Nat.zero_sub, Ahead.dropWhile_mk_zero] at h ih
    obtain ⟨text, value, more, rfl, htext, hchars, rfl⟩ := ih h trivial
    obtain ⟨rfl, hend⟩ : c = '\\' ∧ startsLineEnd cs = true := by simpa using hjoint
    refine ⟨'\\' :: cs.takeWhile isWhiteSpace ++ text, value, more, rfl, ?_, ?_, rfl⟩
    · refine .joint (startsLineEnd_takeWhile hend) ?_ ?_ htext
      · exact fun c hc => List.mem_takeWhile_imp hc
      · intro c hc
        have hhead : c ∈ (cs.dropWhile isWhiteSpace).head? := by
          rw [hchars, List.head?_append]
          simp [Option.mem_def.mp hc]
        exact head?_dropWhile c hhead
    · simp only [List.cons_append, List.append_assoc, ← hchars, List.takeWhile_append_dropWhile]
  | case4 => cases h
  | case5 sofar c cs seam after hquote hjoint piece rest' hpiece ih =>
    simp only at hseam
    subst hseam
    obtain ⟨middle, rfl, hlegal, hchars⟩ := Piece.scan_eq_ok_iff.mp hpiece
    obtain ⟨text, value, more, rfl, htext, rfl, rfl⟩ := ih h rfl
    refine ⟨piece.spelling ++ text, piece.value :: value, more, rfl, ?_, ?_, by simp⟩
    · refine .piece hlegal ?_ htext
      rintro rfl
      exact hquote (List.cons.inj hchars).1
    · rw [List.append_assoc]
      exact hchars

theorem scan_complete {alphabet : Alphabet} {text value : List Char}
    (h : BodyText alphabet text value) (sofar more : List Char) :
    scan alphabet sofar ⟨text ++ '"' :: more, 0⟩ = .ok (sofar.reverse ++ value, ⟨more, 0⟩) := by
  induction h generalizing sofar with
  | nil => simp
  | @piece piece text value hlegal hquote _ ih =>
    obtain ⟨c, cs, hchars, hstarts⟩ := piece_spelling hlegal hquote (text ++ '"' :: more)
    have hpiece : Piece.scan alphabet c ⟨cs, 0⟩ = .ok (piece, ⟨text ++ '"' :: more, 0⟩) :=
      Piece.scan_eq_ok_iff.mpr ⟨_, rfl, hlegal, hchars.symm⟩
    rw [List.append_assoc, hchars, scan_piece hstarts hpiece, ih]
    simp
  | @joint space text value hend hspace hhead _ ih =>
    have hdrop : (space ++ (text ++ '"' :: more)).dropWhile isWhiteSpace = text ++ '"' :: more :=
      dropWhile_run hspace (head?_append_quote hhead more)
    rw [List.cons_append, List.cons_append, List.append_assoc,
      scan_joint (startsLineEnd_append hend _), hdrop, ih]

end Body

/-- Reading up to the closing quote reads exactly the bodies. -/
theorem readBody_reads (alphabet : Alphabet) :
    Reads (readBody alphabet) fun value token =>
      ∃ text, BodyText alphabet text value ∧ token = text ++ ['"'] := by
  intro chars value more
  constructor
  · intro h
    obtain ⟨text, denoted, last, hrest, htext, hchars, rfl⟩ := Body.scan_sound h rfl
    cases hrest
    simp only at hchars
    exact ⟨_, ⟨text, htext, rfl⟩, by simp [hchars]⟩
  · rintro ⟨_, ⟨text, htext, rfl⟩, rfl⟩
    rw [List.append_assoc]
    exact Body.scan_complete htext [] more

/-- Reading a single piece reads exactly the legal pieces with an apostrophe behind them. -/
theorem readSingle_reads (alphabet : Alphabet) :
    Reads (readSingle alphabet false) fun value token =>
      ∃ piece : Piece, piece.Legal alphabet ∧ value = piece.value ∧
        token = piece.spelling ++ ['\''] := by
  intro chars value more
  constructor
  · intro h
    cases chars with
    | nil => cases h
    | cons first after =>
      simp only [readSingle, Ahead.drop_mk_zero, List.drop_succ_cons, List.drop_zero] at h
      split at h
      · cases h
      · rename_i piece rest hpiece
        obtain ⟨last, rfl, hlegal, hchars⟩ := Piece.scan_eq_ok_iff.mp hpiece
        cases last with
        | nil => cases h
        | cons found tail =>
          simp only [closeSingle, Ahead.drop_mk_zero, List.drop_succ_cons, List.drop_zero] at h
          split at h
          · rename_i hfound
            cases h
            exact ⟨_, ⟨piece, hlegal, rfl, rfl⟩, by simp [hchars, hfound]⟩
          · cases h
  · rintro ⟨_, ⟨piece, hlegal, rfl, rfl⟩, rfl⟩
    cases hchars : piece.spelling ++ ['\''] ++ more with
    | nil => simp at hchars
    | cons first after =>
      have hpiece : Piece.scan alphabet first ⟨after, 0⟩ = .ok (piece, ⟨'\'' :: more, 0⟩) :=
        Piece.scan_eq_ok_iff.mpr ⟨_, rfl, hlegal, by simp [← hchars]⟩
      simp [readSingle, hpiece, closeSingle]

namespace RawText

open Cause (rawClose)

/-- The close of a raw text cannot lie across the end of a body that another close follows. -/
theorem rawClose_of_append {n : Nat} {c : Char} {body more : List Char}
    (h : rawClose n <+: c :: body ++ rawClose n ++ more) : rawClose n <+: c :: body := by
  have hquote : '"' ∉ List.replicate n '#' := by
    rw [List.mem_replicate]
    simp
  simp only [rawClose, List.cons_append, List.append_assoc, List.cons_prefix_cons] at h ⊢
  exact ⟨h.1, (prefix_append_cons_iff hquote).mp h.2⟩

theorem scan_cons (n : Nat) (sofar : List Char) (c : Char) (cs : List Char) :
    scan (List.replicate n '#') sofar (c :: cs) 0 =
      if rawClose n <+: c :: cs then .ok (⟨sofar.reverse, n⟩, ⟨cs.drop n, 0⟩)
      else scan (List.replicate n '#') (if c = '\r' then sofar else c :: sofar) cs 0 := by
  have hclose : rawClose n <+: c :: cs ↔
      (c = '"' && (Ahead.mk cs 0).startsWith (List.replicate n '#')) = true := by
    rw [rawClose, List.cons_prefix_cons, eq_comm (a := '"')]
    simp
  rw [scan]
  simp only [Nat.zero_sub, hclose, List.length_replicate, Ahead.drop_mk_zero]

/-- A raw text is read up to the first place where it closes. -/
theorem scan_eq_ok_iff {n : Nat} {sofar chars more : List Char} {raw : RawText} :
    scan (List.replicate n '#') sofar chars 0 = .ok (raw, ⟨more, 0⟩) ↔
      ∃ body, ¬rawClose n <:+: body ∧ chars = body ++ rawClose n ++ more ∧
        raw = ⟨sofar.reverse ++ body.filter (· != '\r'), n⟩ := by
  induction chars generalizing sofar with
  | nil => simp [scan, rawClose]
  | cons c cs ih =>
    rw [scan_cons]
    split
    · rename_i hclose
      constructor
      · intro h
        cases h
        obtain ⟨tail, htail⟩ := hclose
        refine ⟨[], by simp [rawClose], ?_, by simp⟩
        cases htail
        simp [rawClose]
      · rintro ⟨body, hbody, hchars, rfl⟩
        cases body with
        | nil =>
          obtain ⟨rfl, rfl⟩ := List.cons.inj hchars
          simp
        | cons b body =>
          rw [hchars] at hclose
          exact absurd (rawClose_of_append hclose).isInfix hbody
    · rename_i hclose
      rw [ih]
      constructor
      · rintro ⟨body, hbody, rfl, rfl⟩
        refine ⟨c :: body, ?_, rfl, ?_⟩
        · rw [List.infix_cons_iff]
          rintro (hstart | hinfix)
          · exact hclose (hstart.trans ⟨rawClose n ++ more, by simp⟩)
          · exact hbody hinfix
        · by_cases hreturn : c = '\r' <;> simp [hreturn]
      · rintro ⟨body, hbody, hchars, rfl⟩
        cases body with
        | nil => exact absurd ⟨more, hchars.symm⟩ hclose
        | cons b body =>
          obtain ⟨rfl, rfl⟩ := List.cons.inj hchars
          refine ⟨body, fun hinfix => hbody (List.infix_cons hinfix), rfl, ?_⟩
          by_cases hreturn : c = '\r' <;> simp [hreturn]

/-- Every text starts with a run of markers, which may be empty. -/
theorem exists_markers (chars : List Char) :
    ∃ n rest, chars = List.replicate n '#' ++ rest ∧ ∀ c ∈ rest.head?, c ≠ '#' := by
  induction chars with
  | nil => exact ⟨0, [], rfl, by simp⟩
  | cons c cs ih =>
    by_cases hc : c = '#'
    · obtain ⟨n, rest, rfl, hrest⟩ := ih
      exact ⟨n + 1, rest, by rw [hc]; rfl, hrest⟩
    · exact ⟨0, c :: cs, rfl, by simpa using hc⟩

theorem takeWhile_markers (n : Nat) {rest : List Char} (h : ∀ c ∈ rest.head?, c ≠ '#') :
    (List.replicate n '#' ++ rest).takeWhile (· == '#') = List.replicate n '#' := by
  apply takeWhile_run
  · simp
  · intro c hc
    simpa using h c hc

theorem read_markers (n : Nat) (body : List Char) :
    read ⟨List.replicate n '#' ++ '"' :: body, 0⟩ = scan (List.replicate n '#') [] body 0 := by
  have hmarkers := @takeWhile_markers n ('"' :: body) (by simp)
  simp [read, hmarkers]

theorem read_not_quote (n : Nat) {rest : List Char} (h : ∀ c ∈ rest.head?, c ≠ '#')
    (hquote : ∀ body, rest ≠ '"' :: body) :
    read ⟨List.replicate n '#' ++ rest, 0⟩ = .error (.fault .badRawDelimiter rest) := by
  simp [read, takeWhile_markers n h]

/-- Reading a raw text reads exactly the texts with as many markers on one side as on the other. -/
theorem read_reads :
    Reads read fun raw token =>
      ∃ n body, ¬rawClose n <:+: body ∧ raw = ⟨body.filter (· != '\r'), n⟩ ∧
        token = List.replicate n '#' ++ '"' :: body ++ rawClose n := by
  intro chars raw more
  constructor
  · intro h
    obtain ⟨n, rest, rfl, hrest⟩ := exists_markers chars
    by_cases hquote : ∃ body, rest = '"' :: body
    · obtain ⟨body, rfl⟩ := hquote
      rw [read_markers] at h
      obtain ⟨body, hbody, rfl, rfl⟩ := scan_eq_ok_iff.mp h
      exact ⟨_, ⟨n, body, hbody, rfl, rfl⟩, by simp⟩
    · rw [read_not_quote n hrest (not_exists.mp hquote)] at h
      cases h
  · rintro ⟨_, ⟨n, body, hbody, rfl, rfl⟩, rfl⟩
    rw [List.append_assoc, List.append_assoc, List.cons_append, read_markers]
    exact scan_eq_ok_iff.mpr ⟨body, hbody, by simp, rfl⟩

end RawText

theorem Outcome.map_eq_done_iff {f : α → β} {o : Outcome α} {value : β} {after : Cursor} :
    o.map f = .done value after ↔ ∃ given, o = .done given after ∧ f given = value := by
  cases o with
  | done given last =>
    simp only [Outcome.map, Outcome.bind_done, Outcome.done.injEq]
    constructor
    · rintro ⟨hvalue, hafter⟩
      exact ⟨given, ⟨rfl, hafter⟩, hvalue⟩
    · rintro ⟨_, ⟨rfl, hafter⟩, hvalue⟩
      exact ⟨hvalue, hafter⟩
  | failed failure => simp [Outcome.map]
  | aborted abort => simp [Outcome.map]

theorem Outcome.map_map (f : α → β) (g : β → γ) (o : Outcome α) :
    (o.map f).map g = o.map (g ∘ f) := by
  cases o <;> rfl

theorem Outcome.map_eq_failed_iff {f : α → β} {o : Outcome α} {failure : Failure} :
    o.map f = .failed failure ↔ o = .failed failure := by
  cases o <;> simp [Outcome.map]

/-- What a parser gives that starts by reading a single character, if its reader is exact. -/
theorem Reads.done_iff {reader : Ahead → Reading α} {spells : α → List Char → Prop}
    (h : Reads reader spells) {least : Nat}
    (hwithin : ∀ chars, Reading.Within least chars (reader ⟨chars, 0⟩)) {behind ahead : List Char}
    {value : α} {after : Cursor} :
    (Cursor.between behind ahead).read reader = .done value after ↔
      ∃ token rest, spells value token ∧ ahead = token ++ rest ∧
        after = .between (behind ++ token) rest := by
  rw [Cursor.between_read]
  constructor
  · intro hread
    have hahead := hwithin ahead
    cases hreader : reader ⟨ahead, 0⟩ with
    | error stop =>
      rw [hreader] at hread
      cases stop <;> cases hread
    | ok result =>
      obtain ⟨found, last, seam⟩ := result
      rw [hreader] at hahead hread
      obtain ⟨rfl, ⟨token, rfl⟩, -⟩ := hahead
      rw [Cursor.between_locate_ok] at hread
      cases hread
      obtain ⟨spelling, hspells, hsplit⟩ := (h _ _ _).mp hreader
      obtain rfl := List.append_cancel_right hsplit
      exact ⟨token, last, hspells, rfl, rfl⟩
  · rintro ⟨token, rest, hspells, rfl, rfl⟩
    rw [(h _ _ _).mpr ⟨token, hspells, rfl⟩, Cursor.between_locate_ok]

section
variable {reader : Ahead → Reading α} {spells : α → List Char → Prop} {least : Nat}
  {source : List Char} {p : Nat} {value : α} {after : Cursor}

/-- The form of `Reads.done_iff` for a place in a source: what lies between there and the end of the
reading is spelled. -/
theorem Reads.done_iff_taken (h : Reads reader spells)
    (hwithin : ∀ chars, Reading.Within least chars (reader ⟨chars, 0⟩)) (hp : p ≤ source.length) :
    (⟨source, p⟩ : Cursor).read reader = .done value after ↔
      ∃ e : Nat, p ≤ e ∧ e ≤ source.length ∧ after = ⟨source, e⟩ ∧
        spells value ((source.drop p).take (e - p)) := by
  constructor
  · intro hread
    obtain ⟨behind, ahead, rfl, rfl⟩ := exists_behind_ahead hp
    obtain ⟨token, rest, hspells, rfl, rfl⟩ := (h.done_iff hwithin).mp hread
    refine ⟨(behind ++ token).length, ?_, ?_, ?_, ?_⟩
    · simp
    · simp only [List.length_append]
      omega
    · exact (Cursor.mk_append_eq_between behind token rest).symm
    · rwa [take_taken]
  · rintro ⟨e, hpe, he, rfl, hspells⟩
    obtain ⟨behind, token, rest, rfl, rfl, rfl⟩ := exists_taken hpe he
    rw [take_taken] at hspells
    rw [Cursor.mk_append_eq_between]
    exact (h.done_iff hwithin).mpr ⟨token, rest, hspells, rfl, rfl⟩

/-- A reading that is exact does not depend on what follows its end. -/
theorem Reads.done_take (h : Reads reader spells)
    (hwithin : ∀ chars, Reading.Within least chars (reader ⟨chars, 0⟩)) (hp : p ≤ source.length)
    (hread : (⟨source, p⟩ : Cursor).read reader = .done value after) (suffix : List Char) :
    (⟨source.take after.pos.toNat ++ suffix, p⟩ : Cursor).read reader =
      .done value ⟨source.take after.pos.toNat ++ suffix, after.pos⟩ := by
  obtain ⟨behind, ahead, rfl, rfl⟩ := exists_behind_ahead hp
  obtain ⟨token, rest, hspells, rfl, rfl⟩ := (h.done_iff hwithin).mp hread
  have hkept : (behind ++ (token ++ rest)).take (behind ++ token).length = behind ++ token := by
    rw [← List.append_assoc, List.take_left]
  have hdone : (Cursor.between behind (token ++ suffix)).read reader =
      .done value (.between (behind ++ token) suffix) :=
    (h.done_iff hwithin).mpr ⟨token, suffix, hspells, rfl, rfl⟩
  simp only [Cursor.between_pos, Int.toNat_natCast, hkept]
  simpa only [Cursor.between, List.append_assoc] using hdone

/-- A text that is spelled is read up to its end. -/
theorem Reads.done_whole (h : Reads reader spells)
    (hwithin : ∀ chars, Reading.Within least chars (reader ⟨chars, 0⟩)) {text : List Char}
    (hspells : spells value text) :
    (⟨text, 0⟩ : Cursor).read reader = .done value ⟨text, text.length⟩ := by
  have hall : text = text ++ [] := (List.append_nil text).symm
  have hdone : (Cursor.between [] text).read reader = .done value (.between text []) :=
    (h.done_iff hwithin).mpr ⟨text, [], hspells, hall, rfl⟩
  rw [Cursor.mk_zero_eq_between, hdone, Cursor.between, List.append_nil]

end

end LiteralLexer
