import LiteralLexer.Proofs.BodyGrammar
import LiteralLexer.Proofs.SideChannel

/-!
Text and byte text keep in step. Read as text and as byte text, a body comes to the same as long as
both go on. They part where one of them meets what only the other can hold: byte text at an escape
in braces or at a character above U+007F, text at two digits of U+0080 or more.
-/
namespace LiteralLexer

/-- Byte text stops in `chars` at what only text can hold. -/
inductive OnlyInText (chars : List Char) : Stop → Prop where
  | braced {more : List Char} : '\\' :: 'u' :: more <:+ chars →
    OnlyInText chars (.fault (.badEscape .bytes 'u') ('u' :: more))
  | nonAscii {found : Char} {more : List Char} : found :: more <:+ chars →
    maxAsciiEscape < found.toNat → OnlyInText chars (.fault (.nonAscii found) (found :: more))

/-- Text stops in `chars` at what only byte text can hold. -/
inductive OnlyInBytes (chars : List Char) : Stop → Prop where
  | hex {high low : Char} {more : List Char} : '\\' :: 'x' :: high :: low :: more <:+ chars →
    isHexDigit high = true → isHexDigit low = true → maxAsciiEscape < hexValue [high, low] →
    OnlyInBytes chars (.fault (.badHexPair .text) (high :: low :: more))

/-- How a reading of `chars` as text and one as byte text go together. A value that both can come to
is `ascii`, and one that only byte text comes to is not. -/
inductive Lockstep (ascii : α → Prop) (chars : List Char) : Reading α → Reading α → Prop where
  | both {value : α} {rest : Ahead} : ascii value →
    Lockstep ascii chars (.ok (value, rest)) (.ok (value, rest))
  | onlyText {value : α} {rest : Ahead} {stop : Stop} : OnlyInText chars stop →
    Lockstep ascii chars (.ok (value, rest)) (.error stop)
  | onlyBytes {value : α} {rest : Ahead} {stop : Stop} : OnlyInBytes chars stop → ¬ascii value →
    Lockstep ascii chars (.error stop) (.ok (value, rest))
  | neither {stop stop' : Stop} : Lockstep ascii chars (.error stop) (.error stop')

theorem OnlyInText.widen {chars whole : List Char} {stop : Stop} (h : OnlyInText chars stop)
    (hsuffix : chars <:+ whole) : OnlyInText whole stop := by
  cases h with
  | braced hchars => exact .braced (hchars.trans hsuffix)
  | nonAscii hchars hlarge => exact .nonAscii (hchars.trans hsuffix) hlarge

theorem OnlyInBytes.widen {chars whole : List Char} {stop : Stop} (h : OnlyInBytes chars stop)
    (hsuffix : chars <:+ whole) : OnlyInBytes whole stop := by
  cases h with
  | hex hchars hhigh hlow hlarge => exact .hex (hchars.trans hsuffix) hhigh hlow hlarge

theorem Lockstep.widen {ascii : α → Prop} {chars whole : List Char} {r r' : Reading α}
    (h : Lockstep ascii chars r r') (hsuffix : chars <:+ whole) : Lockstep ascii whole r r' := by
  cases h with
  | both hvalue => exact .both hvalue
  | onlyText hstop => exact .onlyText (hstop.widen hsuffix)
  | onlyBytes hstop hvalue => exact .onlyBytes (hstop.widen hsuffix) hvalue
  | neither => exact .neither

namespace Piece

/-- The piece denotes a character up to U+007F. -/
def IsAscii (piece : Piece) : Prop := piece.value.toNat ≤ maxAsciiEscape

theorem scanHex_lockstep (chars : List Char) :
    Lockstep IsAscii ('\\' :: 'x' :: chars) (scanHex .text ⟨chars, 0⟩)
      (scanHex .bytes ⟨chars, 0⟩) := by
  by_cases hshort : chars.length < 2
  · rw [scanHex_short .text hshort, scanHex_short .bytes hshort]
    exact .neither
  · obtain ⟨high, low, more, rfl⟩ : ∃ high low more, chars = high :: low :: more := by
      cases chars with
      | nil => simp at hshort
      | cons high rest =>
        cases rest with
        | nil => simp at hshort
        | cons low more => exact ⟨high, low, more, rfl⟩
    rw [scanHex_cons, scanHex_cons]
    by_cases hbytes : (hex high low).Legal .bytes
    · have hcode : (hex high low).value.toNat = hexValue [high, low] := hbytes.toNat_value
      rw [if_pos hbytes]
      obtain ⟨hhigh, hlow, -⟩ := hbytes
      by_cases hle : hexValue [high, low] ≤ maxAsciiEscape
      · have htext : (hex high low).Legal .text := ⟨hhigh, hlow, fun _ => hle⟩
        rw [if_pos htext]
        exact .both (hcode.trans_le hle)
      · have htext : ¬(hex high low).Legal .text := fun h => hle (h.2.2 rfl)
        rw [if_neg htext]
        refine .onlyBytes (.hex List.suffix_rfl hhigh hlow (Nat.lt_of_not_le hle)) ?_
        rw [IsAscii, hcode]
        exact hle
    · have htext : ¬(hex high low).Legal .text := fun h => hbytes ⟨h.1, h.2.1, by simp⟩
      rw [if_neg hbytes, if_neg htext]
      exact .neither

theorem scanEscape_lockstep (chars : List Char) :
    Lockstep IsAscii ('\\' :: chars) (scanEscape .text ⟨chars, 0⟩)
      (scanEscape .bytes ⟨chars, 0⟩) := by
  cases chars with
  | nil => exact .neither
  | cons letter tail =>
    simp only [scanEscape, Ahead.drop_mk_zero, List.drop_succ_cons, List.drop_zero]
    cases hletter : SimpleEscape.ofLetter? letter with
    | some escape =>
      have hascii : IsAscii (simple escape) := by
        rw [IsAscii]
        cases escape <;> decide
      exact .both hascii
    | none =>
      by_cases hx : letter = 'x'
      · simp only [hx, if_true]
        exact scanHex_lockstep tail
      · by_cases hu : letter = 'u'
        · simp only [hu, reduceCtorEq, and_false, if_true, if_false, and_self, Char.reduceEq]
          cases scanBraces ⟨tail, 0⟩ with
          | ok result => exact .onlyText (.braced List.suffix_rfl)
          | error stop => exact .neither
        · simp only [hx, hu, false_and, if_false]
          exact .neither

/-- One piece in the two alphabets. -/
theorem scan_lockstep (first : Char) (after : List Char) :
    Lockstep IsAscii (first :: after) (scan .text first ⟨after, 0⟩)
      (scan .bytes first ⟨after, 0⟩) := by
  unfold scan
  by_cases hescape : first = '\\'
  · simp only [hescape, if_true]
    exact scanEscape_lockstep after
  · by_cases hreturn : first = '\r'
    · simp only [hreturn, if_true, Char.reduceEq, if_false]
      split
      · have hascii : IsAscii lineEnd := by
          rw [IsAscii]
          decide
        exact .both hascii
      · exact .neither
    · by_cases hlarge : maxAsciiEscape < first.toNat
      · simp only [hescape, hreturn, hlarge, if_false, reduceCtorEq, false_and, and_self, if_true]
        exact .onlyText (.nonAscii List.suffix_rfl hlarge)
      · simp only [hescape, hreturn, hlarge, if_false, and_false]
        exact .both (Nat.le_of_not_lt hlarge)

end Piece

/-- The text holds characters up to U+007F only. -/
def IsAsciiText (text : List Char) : Prop := ∀ c ∈ text, c.toNat ≤ maxAsciiEscape

/-- A whole body in the two alphabets, from where both have read the same so far. -/
theorem Body.scan_lockstep (chars sofar : List Char) (hsofar : IsAsciiText sofar) :
    Lockstep IsAsciiText chars (scan .text sofar ⟨chars, 0⟩) (scan .bytes sofar ⟨chars, 0⟩) := by
  induction chars using Body.read_induction .text generalizing sofar with
  | nil =>
    rw [scan_nil, scan_nil]
    exact .neither
  | quote cs =>
    rw [scan_quote, scan_quote]
    exact .both fun c hc => hsofar c (List.mem_reverse.mp hc)
  | joint cs hend ih =>
    rw [scan_joint hend, scan_joint hend]
    exact (ih sofar hsofar).widen ((List.dropWhile_suffix _).trans (List.suffix_cons _ _))
  | piece c cs piece more hstarts hpiece ih =>
    have hstep := Piece.scan_lockstep c cs
    rw [hpiece] at hstep
    rw [scan_piece hstarts hpiece]
    cases hbytes : Piece.scan .bytes c ⟨cs, 0⟩ with
    | error stop =>
      rw [hbytes] at hstep
      rw [scan_stop hstarts hbytes]
      -- Text goes on alone, to its own end or to a stop of its own.
      cases scan .text (piece.value :: sofar) ⟨more, 0⟩ with
      | ok result =>
        cases hstep with
        | onlyText hstop => exact .onlyText hstop
      | error stop => exact .neither
    | ok result =>
      rw [hbytes] at hstep
      cases hstep with
      | both hascii =>
        rw [scan_piece hstarts hbytes]
        have hmore := Piece.scan_within .text c cs
        rw [hpiece] at hmore
        exact (ih _ (List.forall_mem_cons.mpr ⟨hascii, hsofar⟩)).widen hmore.2.1
  | stop c cs stop hstarts hstop =>
    have hstep := Piece.scan_lockstep c cs
    rw [hstop] at hstep
    rw [scan_stop hstarts hstop]
    cases hbytes : Piece.scan .bytes c ⟨cs, 0⟩ with
    | error other =>
      rw [scan_stop hstarts hbytes]
      exact .neither
    | ok result =>
      obtain ⟨piece, rest⟩ := result
      obtain ⟨more, rfl, -, -⟩ := Piece.scan_eq_ok_iff.mp hbytes
      rw [hbytes] at hstep
      rw [scan_piece hstarts hbytes]
      -- Byte text goes on alone, and the byte that text stopped at is part of what it comes to.
      cases hrest : scan .bytes (piece.value :: sofar) ⟨more, 0⟩ with
      | error other => exact .neither
      | ok result =>
        obtain ⟨value, last⟩ := result
        obtain ⟨_, denoted, _, -, -, -, rfl⟩ := scan_sound hrest rfl
        cases hstep with
        | onlyBytes hstop hascii =>
          refine .onlyBytes hstop fun hvalue => hascii (hvalue _ ?_)
          simp

/-- Every character that byte text denotes has a code that fits a byte. -/
theorem BodyText.toNat_lt {text value : List Char} (h : BodyText .bytes text value) :
    ∀ c ∈ value, c.toNat < 0x100 := by
  induction h with
  | nil => simp
  | piece hlegal _ _ ih =>
    refine List.forall_mem_cons.mpr ⟨?_, ih⟩
    rw [hlegal.toNat_value]
    exact hlegal.holds_code
  | joint _ _ _ _ ih => exact ih

theorem toNat_byteOf {c : Char} (h : c.toNat < 0x100) : (byteOf c).toNat = c.toNat := by
  rw [byteOf, UInt8.toNat_ofNat']
  exact Nat.mod_eq_of_lt h

/-- A failure ahead of the cursor at what only text can hold: the `u` of an escape, or a character
above U+007F. -/
inductive Failure.InTextOnly (c : Cursor) (failure : Failure) : Prop where
  | braced {behind more : List Char} : c.source = behind ++ '\\' :: 'u' :: more →
    c.pos ≤ behind.length → failure.position = behind.length + 1 →
    failure.code = .invalidEscape → InTextOnly c failure
  | nonAscii {behind more : List Char} {found : Char} : c.source = behind ++ found :: more →
    c.pos ≤ behind.length → failure.position = behind.length → 0x7F < found.toNat →
    failure.code = .nonAsciiByte → InTextOnly c failure

/-- A failure ahead of the cursor at what only byte text can hold: the two digits of an escape, of a
value above U+007F. -/
inductive Failure.InBytesOnly (c : Cursor) (failure : Failure) : Prop where
  | hex {behind more : List Char} {high low : Char} :
    c.source = behind ++ '\\' :: 'x' :: high :: low :: more → c.pos ≤ behind.length →
    failure.position = behind.length + 2 → isHexDigit high = true → isHexDigit low = true →
    0x7F < hexValue [high, low] → failure.code = .invalidHexEscape → InBytesOnly c failure

theorem OnlyInText.locate {ahead : List Char} {stop : Stop} (h : OnlyInText ahead stop)
    (behind : List Char) :
    ∃ failure, (Cursor.between behind ahead).locate (.error stop : Reading α) = .failed failure ∧
      failure.InTextOnly (.between behind ahead) := by
  cases h with
  | braced hsuffix =>
    obtain ⟨front, rfl⟩ := hsuffix
    exact ⟨_, Cursor.between_locate_fault_taken behind front ['\\'] _ _,
      .braced (List.append_assoc behind front _).symm (Cursor.between_pos_le behind _ front) rfl
        rfl⟩
  | nonAscii hsuffix hlarge =>
    obtain ⟨front, rfl⟩ := hsuffix
    exact ⟨_, Cursor.between_locate_fault behind front _ _,
      .nonAscii (List.append_assoc behind front _).symm
        (Cursor.between_pos_le behind _ front) rfl hlarge rfl⟩

theorem OnlyInBytes.locate {ahead : List Char} {stop : Stop} (h : OnlyInBytes ahead stop)
    (behind : List Char) :
    ∃ failure, (Cursor.between behind ahead).locate (.error stop : Reading α) = .failed failure ∧
      failure.InBytesOnly (.between behind ahead) := by
  cases h with
  | hex hsuffix hhigh hlow hlarge =>
    obtain ⟨front, rfl⟩ := hsuffix
    exact ⟨_, Cursor.between_locate_fault_taken behind front ['\\', 'x'] _ _,
      .hex (List.append_assoc behind front _).symm (Cursor.between_pos_le behind _ front) rfl hhigh
        hlow hlarge rfl⟩

/-- The bytes of a text that holds more than ASCII do so too. -/
theorem map_byteOf_not_ascii {value : List Char} (hvalue : ∀ c ∈ value, c.toNat < 0x100)
    (h : ¬IsAsciiText value) : ¬∀ b ∈ value.map byteOf, b.toNat ≤ maxAsciiEscape := by
  intro hbytes
  refine h fun c hc => ?_
  rw [← toNat_byteOf (hvalue c hc)]
  exact hbytes _ (List.mem_map_of_mem hc)

/-- What the two decoders come to at one cursor. -/
inductive DecodedInStep (c : Cursor) : Outcome (List Char) → Outcome (List UInt8) → Prop where
  | both {text : List Char} {after : Cursor} : IsAsciiText text →
    DecodedInStep c (.done text after) (.done (text.map byteOf) after)
  | onlyText {text : List Char} {after : Cursor} {failure : Failure} : failure.InTextOnly c →
    DecodedInStep c (.done text after) (.failed failure)
  | onlyBytes {bytes : List UInt8} {after : Cursor} {failure : Failure} : failure.InBytesOnly c →
    (¬∀ b ∈ bytes, b.toNat ≤ maxAsciiEscape) →
    DecodedInStep c (.failed failure) (.done bytes after)
  | neither {o : Outcome (List Char)} {o' : Outcome (List UInt8)} :
    (∀ text after, o ≠ .done text after) → (∀ bytes after, o' ≠ .done bytes after) →
    DecodedInStep c o o'

theorem decode_inStep (behind ahead : List Char) :
    DecodedInStep (.between behind ahead) (decodeText (.between behind ahead))
      (decodeByteText (.between behind ahead)) := by
  have hstep := Body.scan_lockstep ahead [] (by simp [IsAsciiText])
  rw [decodeText, decodeByteText, Cursor.between_read, Cursor.between_read, readBody, readBody]
  cases htext : Body.scan .text [] ⟨ahead, 0⟩ with
  | ok result =>
    rw [htext] at hstep
    cases hbytes : Body.scan .bytes [] ⟨ahead, 0⟩ with
    | ok result' =>
      rw [hbytes] at hstep
      cases hstep with
      | both hascii => exact .both hascii
    | error stop =>
      rw [hbytes] at hstep
      cases hstep with
      | onlyText hstop =>
        obtain ⟨failure, hfailed, hfailure⟩ := hstop.locate behind (α := List Char)
        rw [hfailed]
        exact .onlyText hfailure
  | error stop =>
    rw [htext] at hstep
    cases hbytes : Body.scan .bytes [] ⟨ahead, 0⟩ with
    | ok result =>
      obtain ⟨_, value, _, -, hvalue, -, rfl⟩ := Body.scan_sound hbytes rfl
      rw [hbytes] at hstep
      cases hstep with
      | onlyBytes hstop hascii =>
        obtain ⟨failure, hfailed, hfailure⟩ := hstop.locate behind (α := List Char)
        rw [hfailed]
        exact .onlyBytes hfailure (map_byteOf_not_ascii hvalue.toNat_lt hascii)
    | error stop' =>
      refine .neither (Cursor.locate_error_ne_done _ stop) fun bytes after h => ?_
      obtain ⟨value, hvalue, -⟩ := Outcome.map_eq_done_iff.mp h
      exact Cursor.locate_error_ne_done _ stop' value after hvalue

/-- The two decoders of bodies keep in step, whatever earlier calls have left in the slot. Where
both succeed they read the same, and it is ASCII. Byte text that is ASCII is text. Where just one of
them succeeds, the other one has failed at what only the first can hold. -/
theorem decodeText_decodeByteText_inStep (c : Cursor) (hpos : 0 ≤ c.pos)
    (hlength : c.pos ≤ c.source.length) (slot slot' : Option Failure) :
    let asText := (Recording.decodeText c).runFrom slot
    let asBytes := (Recording.decodeByteText c).runFrom slot'
    (∀ text after bytes last, asText.1 = .ok (some (text, after)) →
      asBytes.1 = .ok (some (bytes, last)) →
      last = after ∧ bytes.map UInt8.toNat = text.map Char.toNat ∧ ∀ b ∈ bytes, b.toNat ≤ 0x7F) ∧
    (∀ bytes last, asBytes.1 = .ok (some (bytes, last)) → (∀ b ∈ bytes, b.toNat ≤ 0x7F) →
      ∃ text after, asText.1 = .ok (some (text, after))) ∧
    (∀ text after, asText.1 = .ok (some (text, after)) → asBytes.1 = .ok none →
      ∃ failure, asBytes.2 = some failure ∧ failure.InTextOnly c) ∧
    ∀ bytes last, asBytes.1 = .ok (some (bytes, last)) → asText.1 = .ok none →
      ∃ failure, asText.2 = some failure ∧ failure.InBytesOnly c := by
  have hc : c.Within := ⟨hpos, hlength⟩
  have hstep := decode_inStep (c.source.take c.pos.toNat) (c.source.drop c.pos.toNat)
  rw [← hc.eq_between] at hstep
  rw [Recording.decodeText, Recording.decodeByteText, Recording.handFresh_tells _ slot,
    Recording.handFresh_tells _ slot']
  generalize decodeText c = o at hstep ⊢
  generalize decodeByteText c = o' at hstep ⊢
  simp only [Outcome.given_eq_some_iff]
  cases hstep with
  | @both text after hascii =>
    have hcode : ∀ c ∈ text, (byteOf c).toNat = c.toNat := by
      intro c hc
      exact toNat_byteOf (Nat.lt_of_le_of_lt (hascii c hc) (by decide))
    refine ⟨?_, ?_, ?_, ?_⟩
    · rintro _ _ _ _ ⟨⟩ ⟨⟩
      refine ⟨rfl, ?_, ?_⟩
      · simpa using hcode
      · intro b hb
        obtain ⟨c, hc, rfl⟩ := List.mem_map.mp hb
        rw [hcode c hc]
        exact hascii c hc
    · exact fun _ _ _ _ => ⟨_, _, rfl⟩
    · rintro _ _ _ ⟨⟩
    · rintro _ _ _ ⟨⟩
  | onlyText hfailure =>
    refine ⟨?_, ?_, ?_, ?_⟩
    · rintro _ _ _ _ _ ⟨⟩
    · rintro _ _ ⟨⟩
    · exact fun _ _ _ _ => ⟨_, rfl, hfailure⟩
    · rintro _ _ ⟨⟩
  | onlyBytes hfailure hlarge =>
    refine ⟨?_, ?_, ?_, ?_⟩
    · rintro _ _ _ _ ⟨⟩
    · rintro _ _ ⟨⟩ hascii
      exact absurd hascii hlarge
    · rintro _ _ ⟨⟩
    · exact fun _ _ _ _ => ⟨_, rfl, hfailure⟩
  | neither htext hbytes =>
    refine ⟨?_, ?_, ?_, ?_⟩
    · exact fun text after _ _ h => absurd h (htext text after)
    · exact fun bytes last h => absurd h (hbytes bytes last)
    · exact fun text after h => absurd h (htext text after)
    · exact fun bytes last h => absurd h (hbytes bytes last)

/-- A byte above U+007F is where text fails and byte text does not. -/
theorem decodeText_decodeByteText_inStep_large :
    let c : Cursor := ⟨['\\', 'x', '8', '0', '"'], 0⟩
    ((Recording.decodeByteText c).runFrom none).1 = .ok (some ([0x80], ⟨c.source, 5⟩)) ∧
      ((Recording.decodeText c).runFrom none).1 = .ok none ∧
      ∃ failure, ((Recording.decodeText c).runFrom none).2 = some failure ∧
        failure.InBytesOnly c := by
  intro c
  have hstarts : Body.StartsPiece '\\' ['x', '8', '0', '"'] := ⟨by decide, rfl⟩
  have hpiece : Piece.scan .bytes '\\' ⟨['x', '8', '0', '"'], 0⟩ =
      .ok (.hex '8' '0', ⟨['"'], 0⟩) := rfl
  have hbytes : ((Recording.decodeByteText c).runFrom none).1 =
      .ok (some ([0x80], ⟨c.source, 5⟩)) := by
    rw [Recording.decodeByteText, Recording.handFresh_tells, decodeByteText, Cursor.read, readBody]
    show (Outcome.map _
      (Cursor.locate _ (Body.scan .bytes [] ⟨['\\', 'x', '8', '0', '"'], 0⟩))).given = _
    rw [Body.scan_piece hstarts hpiece, Body.scan_quote]
    rfl
  have htext : ((Recording.decodeText c).runFrom none).1 = .ok none := by
    rw [Recording.decodeText, Recording.handFresh_tells, decodeText, Cursor.read, readBody]
    show (Cursor.locate _ (Body.scan .text [] ⟨['\\', 'x', '8', '0', '"'], 0⟩)).given = _
    rw [Body.scan_stop hstarts rfl]
    rfl
  exact ⟨hbytes, htext,
    (decodeText_decodeByteText_inStep c (by decide) (by decide) none none).2.2.2 _ _ hbytes htext⟩

end LiteralLexer
