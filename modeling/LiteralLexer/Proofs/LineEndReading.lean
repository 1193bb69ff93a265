import LiteralLexer.Proofs.BodyGrammar
import LiteralLexer.Proofs.LineEnds
import LiteralLexer.Proofs.PieceFaults
import LiteralLexer.Proofs.SideChannel
import LiteralLexer.Proofs.TriviaGrammar

/-!
Readings of a text and of its image with line ends of two characters. Each reader goes through both
in the same way: it comes to the same value and to corresponding places, or it stops at
corresponding places for causes that are told alike but for what their messages quote.
-/
namespace LiteralLexer

/-- Reading on from the first text comes to the second one. A flag tells of each text whether a CR
stands in front of it. -/
inductive Reaches : Bool → List Char → Bool → List Char → Prop where
  | here {b : Bool} {chars : List Char} : Reaches b chars b chars
  | next {b last : Bool} {c : Char} {cs rest : List Char} :
    Reaches (c == '\r') cs last rest → Reaches b (c :: cs) last rest

/-- The causes have the same code, and the same could have stood in their places. -/
structure Cause.Alike (cause cause' : Cause) : Prop where
  code : cause.code = cause'.code
  expected : cause.expected = cause'.expected

/-- How a reading of `chars` and one of their image go together, if values are looked at through
`view`. -/
inductive Reading.Alike (view : α → β) (b : Bool) (chars : List Char) :
    Reading α → Reading α → Prop where
  | ok {value value' : α} {last : Bool} {rest : List Char} :
    Reaches b chars last rest → view value = view value' →
    Alike view b chars (.ok (value, ⟨rest, 0⟩)) (.ok (value', ⟨crlf last rest, 0⟩))
  | fault {cause cause' : Cause} {last : Bool} {rest : List Char} :
    Reaches b chars last rest → cause.Alike cause' →
    Alike view b chars (.error (.fault cause rest)) (.error (.fault cause' (crlf last rest)))

open Reading (Alike)

variable {b last : Bool} {c : Char} {chars cs rest : List Char}

theorem Cause.Alike.refl (cause : Cause) : cause.Alike cause := ⟨rfl, rfl⟩

namespace Reaches

theorem skip (hc : c ≠ '\r') (h : Reaches false cs last rest) : Reaches b (c :: cs) last rest := by
  rw [← beq_false_of_ne hc] at h
  exact .next h

theorem trans {far : Bool} {more : List Char} (h : Reaches b chars last rest)
    (hmore : Reaches last rest far more) : Reaches b chars far more := by
  induction h with
  | here => exact hmore
  | next _ ih => exact .next (ih hmore)

theorem inline {text : List Char} (h : Inline text) (rest : List Char) :
    Reaches false (text ++ rest) false rest := by
  induction text with
  | nil => exact .here
  | cons c cs ih =>
    obtain ⟨⟨-, hc⟩, hcs⟩ := inline_cons_iff.mp h
    exact .skip hc (ih hcs)

theorem exists_taken (h : Reaches b chars last rest) :
    ∃ taken, chars = taken ++ rest ∧ last = returnAfter b taken := by
  induction h with
  | here => exact ⟨[], rfl, rfl⟩
  | @next b last c cs rest _ ih =>
    obtain ⟨taken, rfl, rfl⟩ := ih
    exact ⟨c :: taken, rfl, rfl⟩

theorem of_append (b : Bool) (taken rest : List Char) :
    Reaches b (taken ++ rest) (returnAfter b taken) rest := by
  induction taken generalizing b with
  | nil => exact .here
  | cons c cs ih => exact .next (ih _)

end Reaches

section
variable {view : α → β} {r r' : Reading α}

theorem Reading.Alike.after (hreach : Reaches b chars last rest) (h : Alike view last rest r r') :
    Alike view b chars r r' := by
  cases h with
  | ok hmore hview => exact .ok (hreach.trans hmore) hview
  | fault hmore hcause => exact .fault (hreach.trans hmore) hcause

theorem Reading.Alike.next (h : Alike view (c == '\r') cs r r') : Alike view b (c :: cs) r r' :=
  h.after (.next .here)

end

theorem inline_of_isHexDigit {c : Char} (h : isHexDigit c = true) : c ≠ '\n' ∧ c ≠ '\r' := by
  constructor <;> rintro rfl <;> exact absurd h (by decide)

theorem startsLineEnd_crlf (b : Bool) (chars : List Char) :
    startsLineEnd (crlf b chars) = startsLineEnd chars := by
  cases chars with
  | nil => rfl
  | cons c cs =>
    obtain ⟨rfl, -, heq⟩ | ⟨-, heq⟩ := crlf_cons_cases b c cs <;> simp [heq, startsLineEnd]

/-- White space goes on just as far in the image. -/
theorem dropWhile_crlf (b : Bool) (chars : List Char) :
    ∃ last, Reaches b chars last (chars.dropWhile isWhiteSpace) ∧
      (crlf b chars).dropWhile isWhiteSpace = crlf last (chars.dropWhile isWhiteSpace) := by
  induction chars generalizing b with
  | nil => exact ⟨b, .here, rfl⟩
  | cons c cs ih =>
    obtain ⟨last, hreach, hdrop⟩ := ih (c == '\r')
    obtain ⟨rfl, rfl, heq⟩ | ⟨-, heq⟩ := crlf_cons_cases b c cs
    · rw [heq, List.dropWhile_cons_of_pos (by decide), List.dropWhile_cons_of_pos (by decide),
        List.dropWhile_cons_of_pos (by decide)]
      exact ⟨last, .next hreach, hdrop⟩
    · by_cases hspace : isWhiteSpace c = true
      · rw [heq, List.dropWhile_cons_of_pos hspace, List.dropWhile_cons_of_pos hspace]
        exact ⟨last, .next hreach, hdrop⟩
      · rw [heq, List.dropWhile_cons_of_neg hspace, List.dropWhile_cons_of_neg hspace]
        exact ⟨b, .here, heq.symm⟩

namespace Piece

theorem scanHex_alike (alphabet : Alphabet) (chars : List Char) :
    Alike value false chars (scanHex alphabet ⟨chars, 0⟩)
      (scanHex alphabet ⟨crlf false chars, 0⟩) := by
  by_cases hpair : ∃ high low more, chars = high :: low :: more ∧ (hex high low).Legal alphabet
  · obtain ⟨high, low, more, rfl, hlegal⟩ := hpair
    obtain ⟨hhigh, hhigh'⟩ := inline_of_isHexDigit hlegal.1
    obtain ⟨hlow, hlow'⟩ := inline_of_isHexDigit hlegal.2.1
    rw [crlf_inline_cons hhigh hhigh', crlf_inline_cons hlow hlow', scanHex_cons, scanHex_cons,
      if_pos hlegal, if_pos hlegal]
    exact .ok (.skip hhigh' (.skip hlow' .here)) rfl
  · have hnone : ∀ high low more, chars = high :: low :: more →
        ¬(hex high low).Legal alphabet :=
      fun high low more heq hlegal => hpair ⟨high, low, more, heq, hlegal⟩
    have himage : ∀ high low more, crlf false chars = high :: low :: more →
        ¬(hex high low).Legal alphabet := by
      intro high low more heq hlegal
      obtain ⟨hhigh, hhigh'⟩ := inline_of_isHexDigit hlegal.1
      obtain ⟨hlow, hlow'⟩ := inline_of_isHexDigit hlegal.2.1
      obtain ⟨cs, rfl, hcs⟩ := (crlf_eq_cons_iff hhigh hhigh').mp heq
      obtain ⟨ds, rfl, -⟩ := (crlf_eq_cons_iff hlow hlow').mp hcs.symm
      exact hnone high low ds rfl hlegal
    rw [scanHex_error hnone, scanHex_error himage]
    exact .fault .here (.refl _)

theorem DigitRun.inline {digits : List Char} (h : DigitRun digits rest) : Inline digits :=
  fun d hd => inline_of_isHexDigit (h.isHexDigit d hd)

/-- Braces hold the same digits in the image. -/
theorem DigitRun.crlf {digits : List Char} (h : DigitRun digits rest) :
    DigitRun digits (crlf false rest) := by
  refine ⟨h.length_le, h.isHexDigit, fun d hd hdigit => ?_⟩
  cases rest with
  | nil => cases hd
  | cons c cs =>
    obtain ⟨-, -, heq⟩ | ⟨-, heq⟩ := crlf_cons_cases false c cs
    · obtain rfl : '\r' = d := by simpa [heq] using hd
      exact absurd hdigit (by decide)
    · obtain rfl : c = d := by simpa [heq] using hd
      exact h.stop c rfl hdigit

theorem scanBraces_alike (chars : List Char) :
    Alike value false chars (scanBraces ⟨chars, 0⟩) (scanBraces ⟨crlf false chars, 0⟩) := by
  by_cases hbrace : ∃ inside, chars = '{' :: inside
  · obtain ⟨inside, rfl⟩ := hbrace
    obtain ⟨digits, rest, rfl, hrun⟩ := exists_digitRun inside
    have hreach : Reaches false (digits ++ rest) false rest := .inline hrun.inline rest
    have himage : DigitRun digits (crlf false rest) := hrun.crlf
    rw [crlf_inline_cons (by decide) (by decide)]
    refine .after (.skip (by decide) .here) ?_
    rw [hrun.inline.crlf_append]
    cases rest with
    | nil =>
      rw [crlf_nil, List.append_nil] at *
      rw [scanBraces_ended hrun]
      exact .fault hreach (.refl _)
    | cons close tail =>
      rw [scanBraces_digits hrun]
      by_cases hclose : digits = [] ∨ close ≠ '}'
      · obtain ⟨close', tail', heq, hne⟩ := crlf_exists_cons false close tail
        have hclose' : digits = [] ∨ close' ≠ '}' := hclose.imp_right (hne '}' (by decide))
        rw [heq] at himage ⊢
        rw [scanBraces_digits himage, if_pos hclose, if_pos hclose', ← heq]
        exact .fault hreach (.refl _)
      · obtain ⟨-, rfl⟩ : digits ≠ [] ∧ close = '}' := by simpa using hclose
        -- The faults that are left have their place at the first digit.
        have hinside : digits ++ '}' :: crlf false tail = crlf false (digits ++ '}' :: tail) := by
          rw [hrun.inline.crlf_append, crlf_inline_cons (by decide) (by decide)]
        rw [crlf_inline_cons (by decide) (by decide)] at himage ⊢
        rw [scanBraces_digits himage, if_neg hclose, if_neg hclose, hinside]
        split
        · exact .fault .here (.refl _)
        · split
          · exact .fault .here (.refl _)
          · exact .ok (hreach.trans (.skip (by decide) .here)) rfl
  · have hnone : ∀ inside, chars ≠ '{' :: inside := not_exists.mp hbrace
    have himage : ∀ inside, crlf false chars ≠ '{' :: inside :=
      crlf_ne_cons (by decide) (by decide) hnone
    rw [scanBraces_unbraced hnone, scanBraces_unbraced himage]
    exact .fault .here (.refl _)

theorem scanEscape_alike (alphabet : Alphabet) (chars : List Char) :
    Alike value false chars (scanEscape alphabet ⟨chars, 0⟩)
      (scanEscape alphabet ⟨crlf false chars, 0⟩) := by
  cases chars with
  | nil => exact .fault .here (.refl _)
  | cons letter tail =>
    obtain ⟨rfl, -, heq⟩ | ⟨-, heq⟩ := crlf_cons_cases false letter tail
    · have hfeed : SimpleEscape.ofLetter? '\n' = none := by decide
      have hreturn : SimpleEscape.ofLetter? '\r' = none := by decide
      simp only [crlf_lineFeed, scanEscape, hfeed, hreturn, Char.reduceEq, false_and, if_false]
      exact .fault .here ⟨rfl, rfl⟩
    · simp only [heq, scanEscape, Ahead.drop_mk_zero, List.drop_succ_cons, List.drop_zero]
      cases SimpleEscape.ofLetter? letter with
      | some escape => exact .ok (.next .here) rfl
      | none =>
        by_cases hx : letter = 'x'
        · simp only [hx, if_true]
          exact .next (scanHex_alike alphabet tail)
        · by_cases hu : letter = 'u' ∧ alphabet = .text
          · obtain ⟨rfl, rfl⟩ := hu
            simp only [Char.reduceEq, and_self, if_true, if_false]
            exact .next (scanBraces_alike tail)
          · simp only [hx, hu, if_false]
            rw [← heq]
            exact .fault .here (.refl _)

theorem scan_lineEnd (alphabet : Alphabet) (rest : List Char) :
    scan alphabet '\r' ⟨'\n' :: rest, 0⟩ = .ok (lineEnd, ⟨rest, 0⟩) :=
  scan_eq_ok_iff.mpr ⟨rest, rfl, trivial, rfl⟩

/-- A piece with a first character that is copied into the image. -/
theorem scan_alike_copy (alphabet : Alphabet) (cs : List Char) (h : c = '\n' → b = true) :
    Alike value b (c :: cs) (scan alphabet c ⟨cs, 0⟩)
      (scan alphabet c ⟨crlf (c == '\r') cs, 0⟩) := by
  by_cases hreturn : c = '\r'
  · subst hreturn
    by_cases hfeed : ∃ more, cs = '\n' :: more
    · obtain ⟨more, rfl⟩ := hfeed
      rw [crlf_copy (by decide), scan_lineEnd, scan_lineEnd]
      exact .ok (.next (.next .here)) rfl
    · have hbare : ∀ more, cs ≠ '\n' :: more := not_exists.mp hfeed
      have himage : crlf b ('\r' :: cs) = '\r' :: crlf true cs := crlf_copy h
      rw [beq_self_eq_true, scan_bareReturn alphabet hbare,
        scan_bareReturn alphabet (crlf_ne_lineFeed hbare), ← himage]
      exact .fault .here (.refl _)
  · unfold scan
    by_cases hescape : c = '\\'
    · simp only [hescape, if_true]
      exact .next (scanEscape_alike alphabet cs)
    · simp only [hescape, hreturn, if_false]
      split
      · rw [← crlf_copy h]
        exact .fault .here (.refl _)
      · exact .ok (.next .here) rfl

/-- A piece and its image. They start with the same character or with an LF and a CR. -/
theorem scan_alike (alphabet : Alphabet) (b : Bool) (c : Char) (cs : List Char) :
    ∃ c' cs', crlf b (c :: cs) = c' :: cs' ∧ (Body.StartsPiece c cs → Body.StartsPiece c' cs') ∧
      Alike value b (c :: cs) (scan alphabet c ⟨cs, 0⟩) (scan alphabet c' ⟨cs', 0⟩) := by
  obtain ⟨rfl, rfl, heq⟩ | ⟨hcopy, heq⟩ := crlf_cons_cases b c cs
  · refine ⟨_, _, heq, fun _ => ⟨by decide, rfl⟩, ?_⟩
    have hplain : scan alphabet '\n' ⟨cs, 0⟩ = .ok (plain '\n', ⟨cs, 0⟩) :=
      scan_eq_ok_iff.mpr ⟨cs, rfl, ⟨by decide, by decide, fun _ => by decide⟩, rfl⟩
    rw [hplain, scan_lineEnd]
    exact .ok (.next .here) rfl
  · refine ⟨_, _, heq, fun hstarts => ?_, scan_alike_copy alphabet cs hcopy⟩
    rw [Body.StartsPiece, startsLineEnd_crlf]
    exact hstarts

end Piece

theorem Body.scan_alike (alphabet : Alphabet) (chars sofar : List Char) (b : Bool) :
    Alike id b chars (scan alphabet sofar ⟨chars, 0⟩) (scan alphabet sofar ⟨crlf b chars, 0⟩) := by
  induction chars using Body.read_induction alphabet generalizing sofar b with
  | nil =>
    rw [crlf_nil, scan_nil]
    exact .fault .here (.refl _)
  | quote cs =>
    rw [crlf_inline_cons (by decide) (by decide), scan_quote, scan_quote]
    exact .ok (.skip (by decide) .here) rfl
  | joint cs hend ih =>
    obtain ⟨last, hreach, hdrop⟩ := dropWhile_crlf false cs
    have himage : startsLineEnd (crlf false cs) = true := by rw [startsLineEnd_crlf, hend]
    rw [crlf_inline_cons (by decide) (by decide), scan_joint hend, scan_joint himage, hdrop]
    exact (ih sofar last).after (.skip (by decide) hreach)
  | piece c cs piece more hstarts hpiece ih =>
    obtain ⟨c', cs', himage, hstarts', hstep⟩ := Piece.scan_alike alphabet b c cs
    generalize hpiece' : Piece.scan alphabet c' ⟨cs', 0⟩ = r at hstep
    rw [hpiece] at hstep
    cases hstep with
    | ok hreach hvalue =>
      -- The pieces may be an LF and a CR LF, but what they denote is the same.
      rw [himage, scan_piece hstarts hpiece, scan_piece (hstarts' hstarts) hpiece', ← hvalue]
      exact (ih _ _).after hreach
  | stop c cs stop hstarts hstop =>
    obtain ⟨c', cs', himage, hstarts', hstep⟩ := Piece.scan_alike alphabet b c cs
    generalize hstop' : Piece.scan alphabet c' ⟨cs', 0⟩ = r at hstep
    rw [hstop] at hstep
    cases hstep with
    | fault hreach hcause =>
      rw [himage, scan_stop hstarts hstop, scan_stop (hstarts' hstarts) hstop']
      exact .fault hreach hcause

theorem closeSingle_alike (allowEnd : Bool) (value : Char) (b : Bool) (chars : List Char) :
    Alike id b chars (closeSingle allowEnd value ⟨chars, 0⟩)
      (closeSingle allowEnd value ⟨crlf b chars, 0⟩) := by
  cases chars with
  | nil =>
    cases allowEnd with
    | true => exact .ok .here rfl
    | false => exact .fault .here (.refl _)
  | cons found rest =>
    by_cases hfound : found = '\''
    · subst hfound
      rw [crlf_inline_cons (by decide) (by decide)]
      exact .ok (.skip (by decide) .here) rfl
    · obtain ⟨found', rest', himage, hne⟩ := crlf_exists_cons b found rest
      have hfound' : found' ≠ '\'' := hne '\'' (by decide) hfound
      simp only [closeSingle, himage, hfound, hfound', if_false]
      rw [← himage]
      exact .fault .here ⟨rfl, rfl⟩

theorem readSingle_alike (alphabet : Alphabet) (allowEnd : Bool) (b : Bool) (chars : List Char) :
    Alike id b chars (readSingle alphabet allowEnd ⟨chars, 0⟩)
      (readSingle alphabet allowEnd ⟨crlf b chars, 0⟩) := by
  cases chars with
  | nil => exact .fault .here (.refl _)
  | cons c cs =>
    obtain ⟨c', cs', himage, -, hstep⟩ := Piece.scan_alike alphabet b c cs
    simp only [himage, readSingle, Ahead.drop_mk_zero, List.drop_succ_cons, List.drop_zero]
    generalize Piece.scan alphabet c ⟨cs, 0⟩ = r at hstep ⊢
    generalize Piece.scan alphabet c' ⟨cs', 0⟩ = r' at hstep ⊢
    cases hstep with
    | ok hreach hvalue =>
      simp only [← hvalue]
      exact (closeSingle_alike allowEnd _ _ _).after hreach
    | fault hreach hcause => exact .fault hreach hcause

theorem inline_replicate_hash (n : Nat) : Inline (List.replicate n '#') := by
  intro c hc
  rw [(List.mem_replicate.mp hc).2]
  decide

namespace RawText

open Cause (rawClose)

theorem inline_rawClose (n : Nat) : Inline (rawClose n) :=
  inline_cons_iff.mpr ⟨by decide, inline_replicate_hash n⟩

theorem scan_alike (n : Nat) (chars sofar : List Char) (b : Bool) :
    Alike id b chars (scan (List.replicate n '#') sofar chars 0)
      (scan (List.replicate n '#') sofar (crlf b chars) 0) := by
  induction chars generalizing sofar b with
  | nil => exact .fault .here (.refl _)
  | cons c cs ih =>
    obtain ⟨rfl, rfl, heq⟩ | ⟨hcopy, heq⟩ := crlf_cons_cases b c cs
    · have hline (rest : List Char) : ¬rawClose n <+: '\n' :: rest := by simp [rawClose]
      have hreturn (rest : List Char) : ¬rawClose n <+: '\r' :: rest := by simp [rawClose]
      rw [heq, scan_cons, if_neg (hline _), scan_cons, if_neg (hreturn _), scan_cons,
        if_neg (hline _)]
      exact (ih _ false).next
    · by_cases hclose : rawClose n <+: c :: cs
      · have himage : rawClose n <+: c :: crlf (c == '\r') cs := by
          rw [← heq]
          exact (prefix_crlf_iff (inline_rawClose n)).mpr hclose
        rw [heq, scan_cons, if_pos hclose, scan_cons, if_pos himage]
        obtain ⟨tail, htail⟩ := hclose
        obtain ⟨rfl, rfl⟩ : '"' = c ∧ List.replicate n '#' ++ tail = cs := List.cons.inj htail
        have hdrop (rest : List Char) : (List.replicate n '#' ++ rest).drop n = rest := by simp
        have hmarkers := inline_replicate_hash n
        rw [beq_false_of_ne (by decide), hmarkers.crlf_append, hdrop, hdrop]
        exact .ok (.skip (by decide) (.inline hmarkers tail)) rfl
      · have himage : ¬rawClose n <+: c :: crlf (c == '\r') cs := by
          rw [← heq, prefix_crlf_iff (inline_rawClose n)]
          exact hclose
        rw [heq, scan_cons, if_neg hclose, scan_cons, if_neg himage]
        exact (ih _ _).next

theorem read_alike (b : Bool) (chars : List Char) :
    Alike id b chars (read ⟨chars, 0⟩) (read ⟨crlf b chars, 0⟩) := by
  obtain ⟨n, rest, rfl, hrest⟩ := exists_markers chars
  have hmarkers : crlf b (List.replicate n '#') = List.replicate n '#' :=
    crlf_of_notMem fun h => (inline_replicate_hash n _ h).1 rfl
  rw [crlf_append, hmarkers]
  refine .after (.of_append b _ rest) ?_
  generalize returnAfter b (List.replicate n '#') = last
  by_cases hquote : ∃ body, rest = '"' :: body
  · obtain ⟨body, rfl⟩ := hquote
    rw [crlf_inline_cons (by decide) (by decide), read_markers, read_markers]
    exact (scan_alike n body [] false).after (.skip (by decide) .here)
  · have hnone : ∀ body, rest ≠ '"' :: body := not_exists.mp hquote
    have himage : ∀ body, crlf last rest ≠ '"' :: body :=
      crlf_ne_cons (by decide) (by decide) hnone
    have hhead : ∀ c ∈ (crlf last rest).head?, c ≠ '#' := by
      rintro _ hc rfl
      obtain ⟨tail, htail⟩ := List.head?_eq_some_iff.mp hc
      obtain ⟨cs, rfl, -⟩ := (crlf_eq_cons_iff (by decide) (by decide)).mp htail
      exact hrest '#' rfl rfl
    rw [read_not_quote n hrest hnone, read_not_quote n hhead himage]
    exact .fault .here (.refl _)

end RawText

namespace BlockComment

/-- How a scan of `chars` and one of their image go together. A scan that fails tells nothing of the
place. -/
inductive ScanAlike (b : Bool) (chars : List Char) : Reading Unit → Reading Unit → Prop where
  | ok {last : Bool} {rest : List Char} : Reaches b chars last rest →
    ScanAlike b chars (.ok ((), ⟨rest, 0⟩)) (.ok ((), ⟨crlf last rest, 0⟩))
  | fault {cause : Cause} {rest rest' : List Char} :
    ScanAlike b chars (.error (.fault cause rest)) (.error (.fault cause rest'))

theorem crlf_openMark (tail : List Char) :
    crlf b ('/' :: '*' :: tail) = openMark ++ crlf false tail := by
  simp [openMark]

theorem crlf_closeMark (tail : List Char) :
    crlf b ('*' :: '/' :: tail) = closeMark ++ crlf false tail := by
  simp [closeMark]

theorem ScanAlike.after {r r' : Reading Unit} (hreach : Reaches b chars last rest)
    (h : ScanAlike last rest r r') : ScanAlike b chars r r' := by
  cases h with
  | ok hmore => exact .ok (hreach.trans hmore)
  | fault => exact .fault

theorem startsMark_crlf_iff : StartsMark (crlf b chars) ↔ StartsMark chars :=
  or_congr (prefix_crlf_iff (by decide)) (prefix_crlf_iff (by decide))

theorem not_startsMark_cons (hslash : c ≠ '/') (hstar : c ≠ '*') (cs : List Char) :
    ¬StartsMark (c :: cs) := by
  rintro (⟨_, ⟨⟩⟩ | ⟨_, ⟨⟩⟩)
  · exact hslash rfl
  · exact hstar rfl

theorem scan_alike (depth : Int) (chars : List Char) (seam : Nat) (hseam : seam = 0) (b : Bool) :
    ScanAlike b chars (scan depth chars seam) (scan depth (crlf b chars) 0) := by
  fun_induction scan depth chars seam generalizing b with
  | case1 depth a d tail seam pair hopen ih =>
    subst hseam
    obtain ⟨rfl, rfl⟩ : a = '/' ∧ d = '*' := by simpa [pair] using hopen
    rw [crlf_openMark, scan_open]
    exact (ih rfl false).after (.skip (by decide) (.skip (by decide) .here))
  | case2 a d tail seam pair _ hclose =>
    subst hseam
    obtain ⟨rfl, rfl⟩ : a = '*' ∧ d = '/' := by simpa [pair] using hclose
    rw [crlf_closeMark, scan_close_one]
    exact .ok (.skip (by decide) (.skip (by decide) .here))
  | case3 depth a d tail seam pair _ hclose hone ih =>
    subst hseam
    obtain ⟨rfl, rfl⟩ : a = '*' ∧ d = '/' := by simpa [pair] using hclose
    rw [crlf_closeMark, scan_close hone]
    exact (ih rfl false).after (.skip (by decide) (.skip (by decide) .here))
  | case4 depth a d tail seam pair hopen hclose ih =>
    subst hseam
    have hmark : ¬StartsMark (a :: d :: tail) := by
      rintro (⟨more, ⟨⟩⟩ | ⟨more, ⟨⟩⟩)
      · exact hopen rfl
      · exact hclose rfl
    -- No mark starts here, and neither of the two characters of a line end has part in one.
    refine .after (.next .here) ?_
    obtain ⟨rfl, rfl, heq⟩ | ⟨-, heq⟩ := crlf_cons_cases b a (d :: tail)
    · obtain ⟨d', tail', hnext, -⟩ := crlf_exists_cons false d tail
      rw [heq, scan_char depth (not_startsMark_cons (by decide) (by decide) _), hnext,
        scan_char depth (not_startsMark_cons (by decide) (by decide) _), ← hnext]
      exact ih rfl false
    · obtain ⟨d', tail', hnext, -⟩ := crlf_exists_cons (a == '\r') d tail
      rw [← startsMark_crlf_iff (b := b), heq, hnext] at hmark
      rw [heq, hnext, scan_char depth hmark, ← hnext]
      exact ih rfl _
  | case5 depth chars seam hshort =>
    cases chars with
    | nil => exact .fault
    | cons a more =>
      cases more with
      | nil =>
        obtain ⟨rfl, rfl, -⟩ | ⟨hcopy, -⟩ := crlf_cons_cases b a []
        · rw [crlf_lineFeed, scan_char depth (not_startsMark_cons (by decide) (by decide) _)]
          exact .fault
        · rw [crlf_copy hcopy]
          exact .fault
      | cons d tail => exact absurd rfl (hshort a d tail)

theorem read_alike (b : Bool) (chars : List Char) :
    Alike id b chars (read ⟨chars, 0⟩) (read ⟨crlf b chars, 0⟩) := by
  have hscan := scan_alike 0 chars 0 rfl b
  unfold read
  simp only
  generalize scan 0 chars 0 = r at hscan ⊢
  generalize scan 0 (crlf b chars) 0 = r' at hscan ⊢
  cases hscan with
  | ok hreach => exact .ok hreach rfl
  | fault => exact .fault .here (.refl _)

end BlockComment

theorem plainComment_crlf_iff {mark : Char} (hmark : Inline [mark]) :
    PlainComment mark (crlf b chars) ↔ PlainComment mark chars := by
  have hcons {more : List Char} (hmore : Inline more) : Inline (mark :: more) :=
    inline_cons_iff.mpr ⟨(inline_cons_iff.mp hmark).1, hmore⟩
  have hslash {more : List Char} (hmore : Inline more) : Inline ('/' :: more) :=
    inline_cons_iff.mpr ⟨by decide, hmore⟩
  unfold PlainComment
  rw [prefix_crlf_iff (hslash hmark), prefix_crlf_iff (hslash (hcons (by decide))),
    prefix_crlf_iff (hslash (hcons hmark)), prefix_crlf_iff (hslash (hcons (hcons hmark)))]

theorem startsTrivia_of_crlf (h : StartsTrivia (crlf b chars)) : StartsTrivia chars := by
  obtain ⟨c, more, hchars, hblank⟩ | hline | hblock := h
  · cases chars with
    | nil => cases hchars
    | cons d ds =>
      obtain ⟨rfl, -, -⟩ | ⟨-, heq⟩ := crlf_cons_cases b d ds
      · exact .inl ⟨'\n', ds, rfl, by decide⟩
      · rw [heq] at hchars
        cases hchars
        exact .inl ⟨_, _, rfl, hblank⟩
  · exact .inr (.inl ((plainComment_crlf_iff (by decide)).mp hline))
  · exact .inr (.inr ((plainComment_crlf_iff (by decide)).mp hblock))

theorem nextLine_crlf (b : Bool) (chars : List Char) :
    ∃ last rest, Reaches b chars last rest ∧ Ahead.nextLine ⟨chars, 0⟩ = ⟨rest, 0⟩ ∧
      Ahead.nextLine ⟨crlf b chars, 0⟩ = ⟨crlf last rest, 0⟩ := by
  by_cases hfeed : '\n' ∈ chars
  · obtain ⟨line, rest, rfl, hline⟩ := List.eq_append_cons_of_mem hfeed
    refine ⟨false, rest, (Reaches.of_append b line _).trans (.next .here),
      Ahead.nextLine_append hline rest, ?_⟩
    rw [crlf_append, crlf_of_notMem hline]
    cases returnAfter b line with
    | false =>
      have hreturn : '\n' ∉ line ++ ['\r'] := by simpa using hline
      rw [crlf_lineFeed, List.append_cons, Ahead.nextLine_append hreturn]
    | true =>
      rw [crlf_copy (by decide), Ahead.nextLine_append hline]
      rfl
  · have hreach := Reaches.of_append b chars []
    rw [List.append_nil] at hreach
    exact ⟨_, [], hreach, Ahead.nextLine_of_notMem hfeed,
      by rw [crlf_of_notMem hfeed, Ahead.nextLine_of_notMem hfeed, crlf_nil]⟩

theorem readTrivia_blank (h : isBlank c = true) (rest : List Char) :
    readTrivia ⟨c :: rest, 0⟩ = readTrivia ⟨rest, 0⟩ :=
  readTrivia_item (.blank h) rest

theorem readTrivia_alike (b : Bool) (chars : List Char) :
    Alike id b chars (readTrivia ⟨chars, 0⟩) (readTrivia ⟨crlf b chars, 0⟩) := by
  obtain ⟨n, hn⟩ : ∃ n, chars.length = n := ⟨_, rfl⟩
  induction n using Nat.strongRecOn generalizing chars b with
  | ind n ih =>
    by_cases hstarts : StartsTrivia chars
    · have hne := hstarts.ne_nil
      obtain ⟨c, more, rfl, hblank⟩ | hline | hblock := hstarts
      · have hmore := ih more.length (by simp [← hn]) (c == '\r') more rfl
        rw [readTrivia_blank hblank]
        obtain ⟨rfl, rfl, heq⟩ | ⟨-, heq⟩ := crlf_cons_cases b c more
        · rw [heq, readTrivia_blank (by decide), readTrivia_blank hblank]
          exact hmore.next
        · rw [heq, readTrivia_blank hblank]
          exact hmore.next
      · have himage : PlainComment '/' (crlf b chars) :=
          (plainComment_crlf_iff (by decide)).mpr hline
        obtain ⟨last, rest, hreach, hnext, hnext'⟩ := nextLine_crlf b chars
        have hlt : rest.length < n := by
          have hlt : (Ahead.nextLine ⟨chars, 0⟩).chars.length < chars.length :=
            Ahead.nextLine_length_lt hne
          rw [hnext, hn] at hlt
          exact hlt
        rw [readTrivia_line hline, readTrivia_line himage, hnext, hnext']
        exact (ih _ hlt last rest rfl).after hreach
      · have himage : PlainComment '*' (crlf b chars) :=
          (plainComment_crlf_iff (by decide)).mpr hblock
        rw [readTrivia_block hblock, readTrivia_block himage]
        have hread := BlockComment.read_alike b chars
        have hlt (rest : Ahead) (h : BlockComment.read ⟨chars, 0⟩ = .ok ((), rest)) :
            rest.chars.length < n := by
          rw [← hn]
          exact BlockComment.read_length_lt h
        generalize BlockComment.read ⟨chars, 0⟩ = r at hread hlt ⊢
        generalize BlockComment.read ⟨crlf b chars, 0⟩ = r' at hread ⊢
        cases hread with
        | ok hreach _ => exact (ih _ (hlt _ rfl) _ _ rfl).after hreach
        | fault hreach hcause => exact .fault hreach hcause
    · have himage : ¬StartsTrivia (crlf b chars) := fun h => hstarts (startsTrivia_of_crlf h)
      rw [readTrivia_stop hstarts, readTrivia_stop himage]
      exact .ok .here rfl

end LiteralLexer
