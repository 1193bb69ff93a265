import LiteralLexer.Proofs.Lockstep

/-!
Units of bodies. A body between double quotes is a row of units: pieces, of which each denotes one
character or one byte, and joints, which denote nothing. The decoders of bodies succeed just on the
rows of their alphabet, up to the quote behind them, and give what the units denote, one after the
other. A text is such a row in at most one way, and what follows the quote has no part in it.
-/
namespace LiteralLexer

/-- A unit of a body between double quotes. -/
inductive BodyUnit where
  | piece (piece : Piece)
  /-- A backslash in front of the end of a line, with the white space that follows. -/
  | joint (lineEnd : Char) (space : List Char)
  deriving DecidableEq, Repr

namespace BodyUnit

def spelling : BodyUnit → List Char
  | piece p => p.spelling
  | joint lineEnd space => '\\' :: lineEnd :: space

/-- The characters that a unit denotes. -/
def value : BodyUnit → List Char
  | piece p => [p.value]
  | joint _ _ => []

/-- The codes of what a unit denotes. -/
def codes : BodyUnit → List Nat
  | piece p => [p.code]
  | joint _ _ => []

/-- Whether a unit may stand in a body in front of `rest`. All white space behind the end of a line
that is joined is part of the joint. -/
def Fits (alphabet : Alphabet) (rest : List Char) : BodyUnit → Prop
  | piece p => p.Legal alphabet ∧ p ≠ .plain '"'
  | joint lineEnd space => (lineEnd = '\n' ∨ lineEnd = '\r') ∧
      (∀ c ∈ space, isWhiteSpace c = true) ∧ ∀ c ∈ rest.head?, isWhiteSpace c = false

instance (alphabet : Alphabet) (rest : List Char) :
    (unit : BodyUnit) → Decidable (unit.Fits alphabet rest)
  | piece p => inferInstanceAs (Decidable (p.Legal alphabet ∧ p ≠ .plain '"'))
  | joint lineEnd space =>
    letI : Decidable (∀ c ∈ space, isWhiteSpace c = true) :=
      decidable_of_iff (space.all isWhiteSpace = true) List.all_eq_true
    letI : Decidable (∀ c ∈ rest.head?, isWhiteSpace c = false) :=
      decidable_of_iff (rest.head?.all (!isWhiteSpace ·) = true) (by cases rest <;> simp)
    inferInstanceAs (Decidable ((lineEnd = '\n' ∨ lineEnd = '\r') ∧
      (∀ c ∈ space, isWhiteSpace c = true) ∧ ∀ c ∈ rest.head?, isWhiteSpace c = false))

/-- The units make up a body: each of them fits in front of the others that follow it. -/
def IsBody (alphabet : Alphabet) : List BodyUnit → Prop
  | [] => True
  | unit :: units => unit.Fits alphabet (units.flatMap spelling) ∧ IsBody alphabet units

instance decidableIsBody (alphabet : Alphabet) :
    (units : List BodyUnit) → Decidable (IsBody alphabet units)
  | [] => .isTrue trivial
  | unit :: units =>
    letI := decidableIsBody alphabet units
    inferInstanceAs
      (Decidable (unit.Fits alphabet (units.flatMap spelling) ∧ IsBody alphabet units))

-- White space behind a joint is no unit of its own in text, while a letter there is one.
example : IsBody .text [.joint '\n' ['\u2003'], .piece (.plain 'a')] ∧
    ¬IsBody .text [.joint '\n' [], .piece (.plain ' ')] ∧
    ¬IsBody .bytes [.joint '\n' [], .piece (.plain '\u2003')] := by decide

variable {alphabet : Alphabet} {unit unit' : BodyUnit} {units units' : List BodyUnit}
  {rest rest' more more' : List Char}

/-- A row of units is a body of the grammar, which denotes what the units do. -/
theorem IsBody.bodyText (h : IsBody alphabet units) :
    BodyText alphabet (units.flatMap spelling) (units.flatMap value) := by
  induction units with
  | nil => exact .nil
  | cons unit units ih =>
    obtain ⟨hunit, hunits⟩ := h
    cases unit with
    | piece piece => exact .piece hunit.1 hunit.2 (ih hunits)
    | joint lineEnd space =>
      obtain ⟨hend, hspace, hhead⟩ := hunit
      have hstarts : startsLineEnd (lineEnd :: space) = true := by simpa [startsLineEnd] using hend
      exact .joint hstarts
        (List.forall_mem_cons.mpr ⟨Body.isWhiteSpace_of_lineEnd hend, hspace⟩) hhead (ih hunits)

/-- Every body of the grammar is a row of units. -/
theorem exists_of_bodyText {text value : List Char} (h : BodyText alphabet text value) :
    ∃ units, IsBody alphabet units ∧ text = units.flatMap spelling ∧
      value = units.flatMap BodyUnit.value := by
  induction h with
  | nil => exact ⟨[], trivial, rfl, rfl⟩
  | @piece piece _ _ hlegal hquote _ ih =>
    obtain ⟨units, hunits, rfl, rfl⟩ := ih
    exact ⟨.piece piece :: units, ⟨⟨hlegal, hquote⟩, hunits⟩, rfl, rfl⟩
  | @joint space _ _ hstarts hspace hhead _ ih =>
    obtain ⟨units, hunits, rfl, rfl⟩ := ih
    cases space with
    | nil => cases hstarts
    | cons lineEnd space =>
      have hend : lineEnd = '\n' ∨ lineEnd = '\r' := by simpa [startsLineEnd] using hstarts
      have hspace : ∀ c ∈ space, isWhiteSpace c = true := fun c hc => hspace c (.tail _ hc)
      exact ⟨.joint lineEnd space :: units, ⟨⟨hend, hspace, hhead⟩, hunits⟩, rfl, rfl⟩

/-- The characters that the units of a body denote have the codes that the units denote. -/
theorem IsBody.map_toNat (h : IsBody alphabet units) :
    (units.flatMap value).map Char.toNat = units.flatMap codes := by
  induction units with
  | nil => rfl
  | cons unit units ih =>
    obtain ⟨hunit, hunits⟩ := h
    cases unit with
    | piece piece => simp [value, codes, hunit.1.toNat_value, ih hunits]
    | joint lineEnd space => simpa [value, codes] using ih hunits

/-- The bytes that the units of a body of byte text denote have the codes that the units denote. -/
theorem IsBody.map_byteOf (h : IsBody .bytes units) :
    ((units.flatMap value).map byteOf).map UInt8.toNat = units.flatMap codes := by
  have hbyte : ∀ c ∈ units.flatMap value, (byteOf c).toNat = c.toNat :=
    fun c hc => toNat_byteOf (h.bodyText.toNat_lt c hc)
  rw [← h.map_toNat, List.map_map]
  exact List.map_congr_left hbyte

/-- Reading up to the closing quote reads exactly the rows of units. -/
theorem readBody_reads_units (alphabet : Alphabet) :
    Reads (readBody alphabet) fun result token =>
      ∃ units, IsBody alphabet units ∧ token = units.flatMap spelling ++ ['"'] ∧
        result = units.flatMap value := by
  intro chars result more
  rw [readBody_reads alphabet chars result more]
  constructor
  · rintro ⟨_, ⟨text, htext, rfl⟩, rfl⟩
    obtain ⟨units, hunits, rfl, rfl⟩ := exists_of_bodyText htext
    exact ⟨_, ⟨units, hunits, rfl, rfl⟩, rfl⟩
  · rintro ⟨_, ⟨units, hunits, rfl, rfl⟩, rfl⟩
    exact ⟨_, ⟨_, hunits.bodyText, rfl⟩, rfl⟩

theorem Fits.append_quote (h : unit.Fits alphabet rest) (more : List Char) :
    unit.Fits alphabet (rest ++ '"' :: more) := by
  cases unit with
  | piece piece => exact h
  | joint lineEnd space => exact ⟨h.1, h.2.1, head?_append_quote h.2.2 more⟩

/-- A piece never reads like a joint. -/
theorem Fits.piece_ne_joint {piece : Piece} {lineEnd : Char} {space : List Char}
    (h : (BodyUnit.piece piece).Fits alphabet rest)
    (h' : (BodyUnit.joint lineEnd space).Fits alphabet rest') :
    piece.spelling ++ rest ≠ '\\' :: lineEnd :: space ++ rest' := by
  intro heq
  obtain ⟨c, cs, hchars, -, hjoint⟩ := Body.piece_spelling h.1 h.2 rest
  have htext : c :: cs = '\\' :: lineEnd :: (space ++ rest') := hchars.symm.trans heq
  obtain ⟨rfl, rfl⟩ := List.cons.inj htext
  have hstarts : startsLineEnd (lineEnd :: (space ++ rest')) = true := by
    simpa [startsLineEnd] using h'.1
  rw [hstarts] at hjoint
  cases hjoint

/-- A text starts with one unit at most. For pieces the reader decides which one it is, for joints
the run of white space. -/
theorem Fits.unique (h : unit.Fits alphabet rest) (h' : unit'.Fits alphabet rest')
    (heq : unit.spelling ++ rest = unit'.spelling ++ rest') : unit' = unit ∧ rest' = rest := by
  cases unit with
  | piece piece =>
    cases unit' with
    | piece piece' =>
      obtain ⟨c, cs, hchars, -⟩ := Body.piece_spelling h.1 h.2 rest
      have hread : Piece.scan alphabet c ⟨cs, 0⟩ = .ok (piece, ⟨rest, 0⟩) :=
        Piece.scan_eq_ok_iff.mpr ⟨rest, rfl, h.1, hchars.symm⟩
      have hread' : Piece.scan alphabet c ⟨cs, 0⟩ = .ok (piece', ⟨rest', 0⟩) :=
        Piece.scan_eq_ok_iff.mpr ⟨rest', rfl, h'.1, hchars.symm.trans heq⟩
      rw [hread] at hread'
      cases hread'
      exact ⟨rfl, rfl⟩
    | joint lineEnd space => exact absurd heq (h.piece_ne_joint h')
  | joint lineEnd space =>
    cases unit' with
    | piece piece' => exact absurd heq.symm (h'.piece_ne_joint h)
    | joint lineEnd' space' =>
      have htext : '\\' :: lineEnd :: (space ++ rest) = '\\' :: lineEnd' :: (space' ++ rest') := heq
      obtain ⟨rfl, htail⟩ := List.cons.inj (List.cons.inj htext).2
      obtain ⟨-, hspace, hrest⟩ := h
      obtain ⟨-, hspace', hrest'⟩ := h'
      have hrun : space' = space := by
        rw [← takeWhile_run hspace' hrest', ← takeWhile_run hspace hrest, htail]
      subst hrun
      exact ⟨rfl, (List.append_cancel_left htail).symm⟩

/-- No unit starts with the quote that closes a body. -/
theorem Fits.spelling_ne_quote (h : unit.Fits alphabet rest) (more : List Char) :
    unit.spelling ++ rest ≠ '"' :: more := by
  intro heq
  cases unit with
  | piece piece =>
    obtain ⟨c, cs, hchars, hquote, -⟩ := Body.piece_spelling h.1 h.2 rest
    exact hquote (List.cons.inj (hchars.symm.trans heq)).1
  | joint lineEnd space => cases (List.cons.inj heq).1

/-- A text that starts with a body and its quote does so in one way. -/
theorem IsBody.unique (h : IsBody alphabet units) (h' : IsBody alphabet units')
    (heq : units.flatMap spelling ++ '"' :: more = units'.flatMap spelling ++ '"' :: more') :
    units' = units ∧ more' = more := by
  induction units generalizing units' with
  | nil =>
    cases units' with
    | nil => exact ⟨rfl, (List.cons.inj heq).2.symm⟩
    | cons unit' units' =>
      rw [List.flatMap_cons, List.append_assoc] at heq
      exact absurd heq.symm ((h'.1.append_quote more').spelling_ne_quote more)
  | cons unit units ih =>
    rw [List.flatMap_cons, List.append_assoc] at heq
    cases units' with
    | nil => exact absurd heq ((h.1.append_quote more).spelling_ne_quote more')
    | cons unit' units' =>
      rw [List.flatMap_cons, List.append_assoc] at heq
      obtain ⟨rfl, htail⟩ := (h.1.append_quote more).unique (h'.1.append_quote more') heq
      obtain ⟨rfl, rfl⟩ := ih h.2 h'.2 htail.symm
      exact ⟨rfl, rfl⟩

theorem IsBody.fits_of_mem (h : IsBody alphabet units) (hunit : unit ∈ units) :
    ∃ rest, unit.Fits alphabet rest := by
  induction units with
  | nil => cases hunit
  | cons first units ih =>
    cases hunit with
    | head => exact ⟨_, h.1⟩
    | tail _ hlater => exact ih h.2 hlater

end BodyUnit

/-- A piece of byte text is written in ASCII, and it is no escape in braces. -/
theorem Piece.Legal.spelling_bytes {piece : Piece} (h : piece.Legal .bytes) :
    ¬['\\', 'u'] <+: piece.spelling ∧ IsAsciiText piece.spelling := by
  have hascii {text : List Char} (h : (text.all fun c => c.toNat ≤ maxAsciiEscape) = true) :
      IsAsciiText text := by simpa [IsAsciiText] using h
  have hdigit {d : Char} (hd : isHexDigit d = true) : d.toNat ≤ maxAsciiEscape := by
    have hmem : d ∈ hexDigits := by simpa [isHexDigit] using hd
    exact hascii (by decide) d hmem
  cases piece with
  | plain char => exact ⟨by simp [spelling], by simpa [IsAsciiText, spelling] using h.2.2 rfl⟩
  | lineEnd => exact ⟨by decide, hascii (by decide)⟩
  | simple escape => cases escape <;> exact ⟨by decide, hascii (by decide)⟩
  | hex high low =>
    obtain ⟨hhigh, hlow, -⟩ := h
    refine ⟨by simp [spelling], fun c hc => ?_⟩
    obtain rfl | rfl | rfl | rfl : c = '\\' ∨ c = 'x' ∨ c = high ∨ c = low := by
      simpa [spelling] using hc
    · decide
    · decide
    · exact hdigit hhigh
    · exact hdigit hlow
  | braced digits => cases h.1

/-- Only in the white space of a joint byte text has characters above U+007F. -/
theorem BodyUnit.Fits.spelling_bytes {unit : BodyUnit} {rest : List Char}
    (h : unit.Fits .bytes rest) :
    ¬['\\', 'u'] <+: unit.spelling ∧ ∀ c ∈ unit.spelling, maxAsciiEscape < c.toNat →
      ∃ lineEnd space, unit = .joint lineEnd space ∧ c ∈ space ∧ isWhiteSpace c = true := by
  cases unit with
  | piece piece =>
    obtain ⟨hbraced, hascii⟩ := h.1.spelling_bytes
    exact ⟨hbraced, fun c hc hlarge => absurd (hascii c hc) (Nat.not_le.mpr hlarge)⟩
  | joint lineEnd space =>
    obtain ⟨hend, hspace, -⟩ := h
    have hmarks : '\\'.toNat ≤ maxAsciiEscape ∧ lineEnd.toNat ≤ maxAsciiEscape ∧ lineEnd ≠ 'u' := by
      obtain rfl | rfl := hend <;> decide
    refine ⟨by simp [spelling, hmarks.2.2.symm], fun c hc hlarge => ?_⟩
    obtain rfl | rfl | hc : c = '\\' ∨ c = lineEnd ∨ c ∈ space := by simpa [spelling] using hc
    · exact absurd hmarks.1 (Nat.not_le.mpr hlarge)
    · exact absurd hmarks.2.1 (Nat.not_le.mpr hlarge)
    · exact ⟨lineEnd, space, rfl, hc, hspace c hc⟩

open BodyUnit (IsBody)

/-- A text body is decoded up to an end just if what lies before the end is a row of units of text
and a closing quote, and then it is decoded as what the units denote. A text starts with such a row
and its quote in one way only, and what follows the end has no part in the decoding. -/
theorem decodeText_iff_units (source : List Char) (p : Nat) (hp : p ≤ source.length)
    (slot : Option Failure) :
    (∀ text after,
      ((Recording.decodeText ⟨source, p⟩).runFrom slot).1 = .ok (some (text, after)) ↔
        ∃ (e : Nat) (units : List BodyUnit), p ≤ e ∧ e ≤ source.length ∧ after = ⟨source, e⟩ ∧
          IsBody .text units ∧
          (source.drop p).take (e - p) = units.flatMap BodyUnit.spelling ++ ['"'] ∧
          text.map Char.toNat = units.flatMap BodyUnit.codes) ∧
    (∀ (units units' : List BodyUnit) (more more' : List Char),
      IsBody .text units → IsBody .text units' →
      units.flatMap BodyUnit.spelling ++ '"' :: more =
        units'.flatMap BodyUnit.spelling ++ '"' :: more' →
      units' = units ∧ more' = more) ∧
    ∀ text after,
      ((Recording.decodeText ⟨source, p⟩).runFrom slot).1 = .ok (some (text, after)) →
        ∀ suffix,
          (Recording.decodeText ⟨source.take after.pos.toNat ++ suffix, p⟩).runFrom slot =
            (.ok (some (text, ⟨source.take after.pos.toNat ++ suffix, after.pos⟩)), none) := by
  have hreads := BodyUnit.readBody_reads_units .text
  have hwithin (chars : List Char) := Body.scan_within .text [] ⟨chars, 0⟩ rfl
  have hdone (text : List Char) (after : Cursor) :
      ((Recording.decodeText ⟨source, p⟩).runFrom slot).1 = .ok (some (text, after)) ↔
        decodeText ⟨source, p⟩ = .done text after := by
    rw [Recording.decodeText, Recording.handFresh_tells, Outcome.given_eq_some_iff]
  refine ⟨fun text after => ?_, fun _ _ _ _ h h' => h.unique h', fun text after h suffix => ?_⟩
  · rw [hdone, decodeText, hreads.done_iff_taken hwithin hp]
    constructor
    · rintro ⟨e, hpe, he, rfl, units, hunits, htaken, rfl⟩
      exact ⟨e, units, hpe, he, rfl, hunits, htaken, hunits.map_toNat⟩
    · rintro ⟨e, units, hpe, he, rfl, hunits, htaken, hcodes⟩
      have htext : text = units.flatMap BodyUnit.value := by
        rw [← hunits.map_toNat] at hcodes
        exact (List.map_inj_right fun _ _ => Char.toNat_inj.mp).mp hcodes
      exact ⟨e, hpe, he, rfl, units, hunits, htaken, htext⟩
  · have htake := hreads.done_take hwithin hp ((hdone text after).mp h) suffix
    rw [Recording.decodeText, Recording.handFresh_tells, decodeText, htake]
    rfl

/-- Every letter that may follow a backslash, and a joint, which takes all white space behind it.
What follows the closing quote is left. -/
theorem decodeText_iff_units_joint :
    ((Recording.decodeText ⟨['\\', 'n', '\\', 'r', '\\', 't', '\\', '\\', '\\', '0', '\\', '\'',
        '\\', '"', '\\', '\n', ' ', '\u2003', '\\', 'x', '4', '1', '"', '"'], 0⟩).runFrom none).1 =
      .ok (some (['\n', '\r', '\t', '\\', '\x00', '\'', '"', 'A'],
        ⟨['\\', 'n', '\\', 'r', '\\', 't', '\\', '\\', '\\', '0', '\\', '\'',
          '\\', '"', '\\', '\n', ' ', '\u2003', '\\', 'x', '4', '1', '"', '"'], 23⟩)) :=
  ((decodeText_iff_units ['\\', 'n', '\\', 'r', '\\', 't', '\\', '\\', '\\', '0', '\\', '\'',
    '\\', '"', '\\', '\n', ' ', '\u2003', '\\', 'x', '4', '1', '"', '"'] 0 (by decide) none).1
    _ _).mpr
      ⟨23, [.piece (.simple .newline), .piece (.simple .carriageReturn), .piece (.simple .tab),
        .piece (.simple .backslash), .piece (.simple .null), .piece (.simple .apostrophe),
        .piece (.simple .quote), .joint '\n' [' ', '\u2003'], .piece (.hex '4' '1')], by decide,
        by decide, rfl, by decide, by decide, by decide⟩

/-- A byte-text body is decoded up to an end just if what lies before the end is a row of units of
byte text and a closing quote, and then it is decoded as the bytes that the units denote. No unit of
it is an escape in braces, and none but the joints holds a character above U+007F, in their white
space. -/
theorem decodeByteText_iff_units (source : List Char) (p : Nat) (hp : p ≤ source.length)
    (slot : Option Failure) :
    (∀ bytes after,
      ((Recording.decodeByteText ⟨source, p⟩).runFrom slot).1 = .ok (some (bytes, after)) ↔
        ∃ (e : Nat) (units : List BodyUnit), p ≤ e ∧ e ≤ source.length ∧ after = ⟨source, e⟩ ∧
          IsBody .bytes units ∧
          (source.drop p).take (e - p) = units.flatMap BodyUnit.spelling ++ ['"'] ∧
          bytes.map UInt8.toNat = units.flatMap BodyUnit.codes) ∧
    ∀ units, IsBody .bytes units → ∀ unit ∈ units,
      ¬['\\', 'u'] <+: unit.spelling ∧ ∀ c ∈ unit.spelling, 0x7F < c.toNat →
        ∃ lineEnd space, unit = .joint lineEnd space ∧ c ∈ space ∧ isWhiteSpace c = true := by
  have hreads := BodyUnit.readBody_reads_units .bytes
  have hwithin (chars : List Char) := Body.scan_within .bytes [] ⟨chars, 0⟩ rfl
  refine ⟨fun bytes after => ?_, fun units hunits unit hunit => ?_⟩
  · rw [Recording.decodeByteText, Recording.handFresh_tells, Outcome.given_eq_some_iff,
      decodeByteText, Outcome.map_eq_done_iff]
    constructor
    · rintro ⟨result, hread, rfl⟩
      obtain ⟨e, hpe, he, rfl, units, hunits, htaken, rfl⟩ :=
        (hreads.done_iff_taken hwithin hp).mp hread
      exact ⟨e, units, hpe, he, rfl, hunits, htaken, hunits.map_byteOf⟩
    · rintro ⟨e, units, hpe, he, rfl, hunits, htaken, hcodes⟩
      have hbytes : (units.flatMap BodyUnit.value).map byteOf = bytes := by
        rw [← hunits.map_byteOf] at hcodes
        exact ((List.map_inj_right fun _ _ => UInt8.toNat_inj.mp).mp hcodes).symm
      exact ⟨_, (hreads.done_iff_taken hwithin hp).mpr
        ⟨e, hpe, he, rfl, units, hunits, htaken, rfl⟩, hbytes⟩
  · obtain ⟨rest, hfits⟩ := hunits.fits_of_mem hunit
    exact hfits.spelling_bytes

/-- A byte above U+007F is written as its digits, a tab as its letter, and white space above U+007F
stands behind a joint. -/
theorem decodeByteText_iff_units_large :
    ((Recording.decodeByteText ⟨['\\', 'x', 'f', 'F', '\\', 't', '\\', '\r', '\u00a0', '"', ' '],
        0⟩).runFrom none).1 =
      .ok (some ([0xFF, 0x09],
        ⟨['\\', 'x', 'f', 'F', '\\', 't', '\\', '\r', '\u00a0', '"', ' '], 10⟩)) :=
  ((decodeByteText_iff_units ['\\', 'x', 'f', 'F', '\\', 't', '\\', '\r', '\u00a0', '"', ' '] 0
    (by decide) none).1 _ _).mpr
      ⟨10, [.piece (.hex 'f' 'F'), .piece (.simple .tab), .joint '\r' ['\u00a0']], by decide,
        by decide, rfl, by decide, by decide, by decide⟩

end LiteralLexer
