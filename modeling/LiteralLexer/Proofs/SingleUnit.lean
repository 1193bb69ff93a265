import LiteralLexer.Proofs.BodyUnits

/-!
Single values and the units of bodies. Between apostrophes stands one unit of those that make up a
body between double quotes, other than a joint; a double quote can stand there besides, which closes
a body. The apostrophe itself is such a unit. The end of the input can stand for the closing
apostrophe where a caller allows it, and that is all that it changes.
-/
namespace LiteralLexer

/-- The units that are single values. -/
inductive BodyUnit.Single (alphabet : Alphabet) : BodyUnit → Prop where
  | piece {piece : Piece} : (BodyUnit.piece piece).Fits alphabet [] → Single alphabet (.piece piece)
  | quote : Single alphabet (.piece (.plain '"'))

section
variable {alphabet : Alphabet} {piece : Piece} {unit : BodyUnit}

theorem BodyUnit.single_piece_iff :
    (BodyUnit.piece piece).Single alphabet ↔ piece.Legal alphabet := by
  constructor
  · intro h
    cases h with
    | piece hfits => exact hfits.1
    | quote => cases alphabet <;> decide
  · intro hlegal
    by_cases hquote : piece = .plain '"'
    · exact hquote ▸ .quote
    · exact .piece ⟨hlegal, hquote⟩

theorem BodyUnit.Single.exists_piece (h : unit.Single alphabet) :
    ∃ piece, unit = .piece piece ∧ piece.Legal alphabet := by
  cases unit with
  | piece piece => exact ⟨piece, rfl, single_piece_iff.mp h⟩
  | joint lineEnd space => cases h

/-- A piece in front of anything is read as what it denotes, and then only the close is wanting. -/
theorem readSingle_piece (h : piece.Legal alphabet) (allowEnd : Bool) (more : List Char) :
    readSingle alphabet allowEnd ⟨piece.spelling ++ more, 0⟩ =
      closeSingle allowEnd piece.value ⟨more, 0⟩ := by
  cases hchars : piece.spelling ++ more with
  | nil => cases piece <;> cases hchars
  | cons first after =>
    have hscan : Piece.scan alphabet first ⟨after, 0⟩ = .ok (piece, ⟨more, 0⟩) :=
      Piece.scan_eq_ok_iff.mpr ⟨more, rfl, h, hchars.symm⟩
    simp [readSingle, hscan]

/-- Unless the text is a piece as far as it goes, it makes no difference whether it may end there.
-/
theorem readSingle_allowEnd {chars : List Char}
    (h : ∀ piece : Piece, piece.Legal alphabet → chars ≠ piece.spelling) :
    readSingle alphabet true ⟨chars, 0⟩ = readSingle alphabet false ⟨chars, 0⟩ := by
  cases chars with
  | nil => rfl
  | cons first after =>
    simp only [readSingle, Ahead.drop_mk_zero, List.drop_succ_cons, List.drop_zero]
    cases hscan : Piece.scan alphabet first ⟨after, 0⟩ with
    | error stop => rfl
    | ok result =>
      obtain ⟨piece, rest⟩ := result
      obtain ⟨more, rfl, hlegal, hchars⟩ := Piece.scan_eq_ok_iff.mp hscan
      cases more with
      | nil => exact absurd (hchars.trans (List.append_nil _)) (h piece hlegal)
      | cons found more => rfl

theorem read_single_closed (h : piece.Legal alphabet) (behind : List Char) :
    (Cursor.between behind (piece.spelling ++ ['\''])).read (readSingle alphabet false) =
      .done piece.value (.between (behind ++ (piece.spelling ++ ['\''])) []) :=
  ((readSingle_reads alphabet).done_iff (readSingle_within alphabet false)).mpr
    ⟨_, [], ⟨piece, h, rfl, rfl⟩, (List.append_nil _).symm, rfl⟩

theorem read_single_end (h : piece.Legal alphabet) (behind : List Char) :
    (Cursor.between behind piece.spelling).read (readSingle alphabet true) =
      .done piece.value (.between (behind ++ piece.spelling) []) := by
  have hread := readSingle_piece h true []
  have hend := Cursor.between_locate_ok behind piece.spelling piece.value []
  rw [List.append_nil] at hread hend
  rw [Cursor.between_read, hread]
  exact hend

end

theorem Outcome.told_done {o : Outcome α} {value : α} {after : Cursor} (h : o = .done value after) :
    (o.given, o.left) = (.ok (some (value, after)), none) := by
  rw [h, given_done, left_done]

theorem Outcome.map_id (o : Outcome α) : o.map id = o := by
  cases o <;> rfl

/-- How a decoder of single values in the alphabet goes at the place `p` by one unit of a body. The
values have their codes by `code`, and `body` is the decoder of bodies. -/
structure DecodesOneUnit (alphabet : Alphabet) (code : α → Nat)
    (single : Cursor → Bool → Recording (Option (α × Cursor)))
    (body : Cursor → Recording (Option (List α × Cursor))) (source : List Char) (p : Nat) :
    Prop where
  /-- With a close that has to be there, what is taken is the unit and an apostrophe. -/
  closed_iff : ∀ slot value after,
    ((single ⟨source, p⟩ false).runFrom slot).1 = .ok (some (value, after)) ↔
      ∃ (e : Nat) (unit : BodyUnit), p ≤ e ∧ e ≤ source.length ∧ after = ⟨source, e⟩ ∧
        unit.Single alphabet ∧ (source.drop p).take (e - p) = unit.spelling ++ ['\''] ∧
        unit.codes = [code value]
  /-- The unit makes up a body, unless it is the quote that closes one. -/
  in_body : ∀ slot (unit : BodyUnit), unit.Single alphabet → unit ≠ .piece (.plain '"') →
    let text := unit.spelling ++ ['"']
    ∃ value, unit.codes = [code value] ∧
      (body ⟨text, 0⟩).runFrom slot = (.ok (some ([value], ⟨text, text.length⟩)), none)
  /-- That the input may end makes no difference if what is left of it is no unit. -/
  open_eq : ∀ slot, (∀ unit : BodyUnit, unit.Single alphabet → source.drop p ≠ unit.spelling) →
    (single ⟨source, p⟩ true).runFrom slot = (single ⟨source, p⟩ false).runFrom slot
  /-- If what is left is a unit, the value is that with an apostrophe behind the input. -/
  open_end : ∀ slot slot' (unit : BodyUnit), unit.Single alphabet → source.drop p = unit.spelling →
    let text := source ++ ['\'']
    ∃ value, unit.codes = [code value] ∧
      (single ⟨source, p⟩ true).runFrom slot =
        (.ok (some (value, ⟨source, source.length⟩)), none) ∧
      (single ⟨text, p⟩ false).runFrom slot' = (.ok (some (value, ⟨text, text.length⟩)), none)

section
variable {alphabet : Alphabet} {code : α → Nat}
  {single : Cursor → Bool → Recording (Option (α × Cursor))}
  {body : Cursor → Recording (Option (List α × Cursor))} {source : List Char} {p : Nat}

/-- The decoders of an alphabet go by units if they are the readers of the alphabet with each value
changed to one of the same code. -/
theorem decodesOneUnit_of (of : Char → α) (hinj : Function.Injective code)
    (hcode : ∀ piece : Piece, piece.Legal alphabet → code (of piece.value) = piece.code)
    (hsingle : ∀ c allowEnd,
      (single c allowEnd).Tells ((c.read (readSingle alphabet allowEnd)).map of))
    (hbody : ∀ c, (body c).Tells ((c.read (readBody alphabet)).map (List.map of)))
    (hp : p ≤ source.length) : DecodesOneUnit alphabet code single body source p where
  closed_iff := by
    intro slot value after
    have hwithin := readSingle_within alphabet false
    rw [hsingle, Outcome.given_eq_some_iff, Outcome.map_eq_done_iff]
    constructor
    · rintro ⟨given, hread, rfl⟩
      obtain ⟨e, hpe, he, rfl, piece, hlegal, rfl, htaken⟩ :=
        ((readSingle_reads alphabet).done_iff_taken hwithin hp).mp hread
      exact ⟨e, .piece piece, hpe, he, rfl, BodyUnit.single_piece_iff.mpr hlegal, htaken,
        by rw [hcode piece hlegal]; rfl⟩
    · rintro ⟨e, unit, hpe, he, rfl, hunit, htaken, hcodes⟩
      obtain ⟨piece, rfl, hlegal⟩ := hunit.exists_piece
      refine ⟨piece.value, ?_, hinj ?_⟩
      · exact ((readSingle_reads alphabet).done_iff_taken hwithin hp).mpr
          ⟨e, hpe, he, rfl, piece, hlegal, rfl, htaken⟩
      · rw [hcode piece hlegal]
        exact (List.cons.inj hcodes).1
  in_body := by
    intro slot unit hunit hquote text
    obtain ⟨piece, rfl, hlegal⟩ := hunit.exists_piece
    have hunits : BodyUnit.IsBody alphabet [.piece piece] :=
      ⟨⟨hlegal, fun h => hquote (by rw [h])⟩, trivial⟩
    have hread : (⟨text, 0⟩ : Cursor).read (readBody alphabet) =
        .done [piece.value] ⟨text, text.length⟩ :=
      (BodyUnit.readBody_reads_units alphabet).done_whole
        (fun chars => Body.scan_within alphabet [] ⟨chars, 0⟩ rfl)
        ⟨[.piece piece], hunits, by rw [List.flatMap_singleton], rfl⟩
    refine ⟨of piece.value, by rw [hcode piece hlegal]; rfl, ?_⟩
    rw [hbody]
    exact Outcome.told_done (Outcome.map_eq_done_iff.mpr ⟨_, hread, rfl⟩)
  open_eq := by
    intro slot hunits
    have hpieces : ∀ piece : Piece, piece.Legal alphabet → source.drop p ≠ piece.spelling :=
      fun piece hlegal => hunits (.piece piece) (BodyUnit.single_piece_iff.mpr hlegal)
    obtain ⟨behind, ahead, rfl, rfl⟩ := exists_behind_ahead hp
    rw [List.drop_left] at hpieces
    change (single (.between behind ahead) true).runFrom slot =
      (single (.between behind ahead) false).runFrom slot
    rw [hsingle, hsingle, Cursor.between_read, Cursor.between_read, readSingle_allowEnd hpieces]
  open_end := by
    intro slot slot' unit hunit hend text
    obtain ⟨piece, rfl, hlegal⟩ := hunit.exists_piece
    obtain ⟨behind, ahead, rfl, rfl⟩ := exists_behind_ahead hp
    obtain rfl : ahead = piece.spelling := by rwa [List.drop_left] at hend
    refine ⟨of piece.value, by rw [hcode piece hlegal]; rfl, ?_, ?_⟩
    · have hread := read_single_end hlegal behind
      simp only [Cursor.between, List.append_nil] at hread
      rw [hsingle]
      exact Outcome.told_done (Outcome.map_eq_done_iff.mpr ⟨_, hread, rfl⟩)
    · have hread := read_single_closed hlegal behind
      simp only [Cursor.between, List.append_nil, ← List.append_assoc] at hread
      rw [hsingle]
      exact Outcome.told_done (Outcome.map_eq_done_iff.mpr ⟨_, hread, rfl⟩)

end

/-- A decoder of single values is one step of the decoder of bodies with the same alphabet: it takes
one unit of a body that is no joint, or a double quote, and gives what the unit denotes. The
apostrophe is a unit like others. Where the input may end in place of the closing apostrophe, all
that changes is that a unit at the very end is taken too, with the value that it has in front of an
apostrophe. -/
theorem decodeChar_decodeByte_one_unit (source : List Char) (p : Nat) (hp : p ≤ source.length) :
    (∀ alphabet, BodyUnit.Single alphabet (.piece (.plain '\''))) ∧
    DecodesOneUnit .text Char.toNat Recording.decodeChar Recording.decodeText source p ∧
    DecodesOneUnit .bytes UInt8.toNat Recording.decodeByte Recording.decodeByteText source p := by
  refine ⟨fun alphabet => ?_, ?_, ?_⟩
  · rw [BodyUnit.single_piece_iff]
    cases alphabet <;> decide
  · refine decodesOneUnit_of id (fun _ _ => Char.toNat_inj.mp)
      (fun piece hlegal => hlegal.toNat_value) (fun c allowEnd => ?_) (fun c => ?_) hp
    · rw [Outcome.map_id]
      exact Recording.handFresh_tells _
    · rw [List.map_id_fun, Outcome.map_id]
      exact Recording.handFresh_tells _
  · refine decodesOneUnit_of byteOf (fun _ _ => UInt8.toNat_inj.mp) (fun piece hlegal => ?_)
      (fun c allowEnd => Recording.handFresh_tells _) (fun c => Recording.handFresh_tells _) hp
    have hcode := hlegal.toNat_value
    rw [toNat_byteOf (hcode.trans_lt hlegal.holds_code), hcode]

/-- The input ends behind an escape, which is taken as with an apostrophe behind it. -/
theorem decodeChar_decodeByte_one_unit_open :
    (Recording.decodeByte ⟨['b', '\\', 'x', 'f', 'f'], 1⟩ true).runFrom none =
      (.ok (some (0xFF, ⟨['b', '\\', 'x', 'f', 'f'], 5⟩)), none) := by
  have hunit : BodyUnit.Single .bytes (.piece (.hex 'f' 'f')) :=
    BodyUnit.single_piece_iff.mpr (by decide)
  obtain ⟨-, -, hbytes⟩ := decodeChar_decodeByte_one_unit ['b', '\\', 'x', 'f', 'f'] 1 (by decide)
  obtain ⟨value, hcodes, hopen, -⟩ := hbytes.open_end none none _ hunit rfl
  obtain rfl : value = 0xFF := UInt8.toNat_inj.mp (List.cons.inj hcodes).1.symm
  exact hopen

end LiteralLexer
