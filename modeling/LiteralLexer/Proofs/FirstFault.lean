import LiteralLexer.Proofs.BodyFaults
import LiteralLexer.Proofs.RawTextClose

/-!
The first fault of a literal. A decoder of bodies that fails has taken a row of units, and the code
of its failure says how far behind the row the place is that it tells of. Two characters from that
place on are enough for the failure to be final: no text behind them changes it.
-/
namespace LiteralLexer

/-- How far from `u`, where something is at fault, failures with this code have their place in an
input of `length` characters. -/
def Code.Locates (code : Code) (u place length : Int) : Prop :=
  match code with
  | .bareCarriageReturn | .nonAsciiByte => place = u
  | .invalidEscape => place = u + 1
  | .invalidHexEscape => place = u + 2
  | .invalidCodePoint => place = u + 3
  | .invalidUnicodeEscape => u + 2 ≤ place ∧ place ≤ u + 9
  | .unterminatedLiteral => place = length ∧ (u = place ∨ u = place - 1)
  | _ => False

/-- Neither a unit nor the closing quote of a body comes next. -/
def Body.Stuck (alphabet : Alphabet) (chars : List Char) : Prop :=
  (∀ (unit : BodyUnit) rest, chars = unit.spelling ++ rest → ¬unit.Fits alphabet rest) ∧
    ∀ rest, chars ≠ '"' :: rest

/-- The reader's faults stay as they are with more text behind them, from two characters on. -/
def Settled (reader : Ahead → Reading α) : Prop :=
  ∀ chars cause left, reader ⟨chars, 0⟩ = .error (.fault cause left) → 2 ≤ left.length →
    ∀ more, reader ⟨chars ++ more, 0⟩ = .error (.fault cause (left ++ more))

section
variable {alphabet : Alphabet} {taken left : List Char} {cause : Cause}

theorem Piece.BracesFault.locates (h : BracesFault taken cause left) (u : Int) :
    cause.code.Locates u (u + 2 + taken.length) (u + 2 + (taken ++ left).length) := by
  cases h with
  | unbraced => simp only [Cause.code, Code.Locates, List.length_nil]; omega
  | @ended digits hrun =>
    have hle : digits.length ≤ 6 := hrun.length_le
    simp only [Cause.code, Code.Locates, List.length_cons]
    omega
  | @unclosed digits _ _ hrun =>
    have hle : digits.length ≤ 6 := hrun.length_le
    simp only [Cause.code, Code.Locates, List.length_cons]
    omega
  | tooLarge => simp only [Cause.code, Code.Locates, List.length_singleton]; omega
  | surrogate => simp only [Cause.code, Code.Locates, List.length_singleton]; omega

theorem Piece.Fault.locates (h : Fault alphabet taken cause left) (u : Int) :
    cause.code.Locates u (u + taken.length) (u + (taken ++ left).length) := by
  cases h with
  | ended => exact ⟨rfl, .inr (by simp)⟩
  | letter => exact rfl
  | hexPair => exact rfl
  | @braces taken _ _ _ hfault =>
    have h := hfault.locates u
    simp only [List.cons_append, List.length_cons]
    convert h using 1 <;> omega
  | bareReturn => exact Int.add_zero u
  | nonAscii => exact Int.add_zero u

theorem Body.Fault.locates (h : Fault alphabet taken cause left) (u : Int) :
    cause.code.Locates u (u + taken.length) (u + (taken ++ left).length) := by
  cases h with
  | ended => exact ⟨rfl, .inl (Int.add_zero u).symm⟩
  | piece _ _ hfault => exact hfault.locates u

theorem Body.Fault.stuck (h : Fault alphabet taken cause left) : Stuck alphabet (taken ++ left) :=
  ⟨fun _ _ => h.not_fits, h.ne_quote⟩

end

theorem readBody_settled (alphabet : Alphabet) : Settled (readBody alphabet) := by
  intro chars cause left h hleft more
  obtain ⟨units, taken, _, _, hstop, rfl, hrow, hfault⟩ := Body.scan_eq_error_iff.mp h
  cases hstop
  have hne : taken ++ left ≠ [] := by
    rw [← List.length_pos_iff, List.length_append]
    omega
  have hmore := hrow.append hne more
  rw [List.append_assoc] at hmore
  exact Body.scan_eq_error_iff.mpr
    ⟨units, taken, cause, left ++ more, rfl, by simp, hmore, hfault.append hleft more⟩

theorem readSingle_settled (alphabet : Alphabet) (allowEnd : Bool) :
    Settled (readSingle alphabet allowEnd) := by
  intro chars cause left h hleft more
  cases chars with
  | nil =>
    cases h
    simp at hleft
  | cons first after =>
    simp only [readSingle, List.cons_append, Ahead.drop_mk_zero, List.drop_succ_cons,
      List.drop_zero] at h ⊢
    cases hpiece : Piece.scan alphabet first ⟨after, 0⟩ with
    | error stop =>
      rw [hpiece] at h
      cases h
      rw [Piece.scan_fault_append hpiece hleft more]
    | ok result =>
      obtain ⟨piece, rest⟩ := result
      obtain ⟨last, rfl, hmore⟩ := Piece.scan_append hpiece more
      rw [hpiece] at h
      rw [hmore]
      cases last with
      | nil =>
        cases allowEnd <;> cases h
        simp at hleft
      | cons found tail =>
        simp only [closeSingle, List.cons_append] at h ⊢
        split at h
        · cases h
        · rename_i hfound
          cases h
          rw [if_neg hfound, List.cons_append]

theorem RawText.read_settled : Settled read := by
  intro chars cause left h hleft more
  obtain ⟨n, rest, rfl, hrest⟩ := exists_markers chars
  by_cases hquote : ∃ body, rest = '"' :: body
  · obtain ⟨body, rfl⟩ := hquote
    rw [read_markers] at h
    cases scan_error h
    simp at hleft
  · rw [read_not_quote n hrest (not_exists.mp hquote)] at h
    cases h
    have hne : left ≠ [] := List.length_pos_iff.mp (by omega)
    obtain ⟨c, cs, rfl⟩ := List.exists_cons_of_ne_nil hne
    rw [List.append_assoc]
    refine read_not_quote n hrest fun body heq => hquote ⟨cs, ?_⟩
    rw [(List.cons.inj heq).1]

/-- A failure is final if the character that it tells of is not the last one of the source. -/
theorem Settled.failed_append {reader : Ahead → Reading α} (h : Settled reader) {least : Nat}
    (hwithin : ∀ chars, Reading.Within least chars (reader ⟨chars, 0⟩)) {source : List Char}
    {p : Nat} (hp : p ≤ source.length) {failure : Failure}
    (hfailed : (⟨source, p⟩ : Cursor).read reader = .failed failure)
    (hplace : failure.position + 1 < source.length) (more : List Char) :
    (⟨source ++ more, p⟩ : Cursor).read reader = .failed failure := by
  obtain ⟨behind, ahead, rfl, rfl⟩ := exists_behind_ahead hp
  change (Cursor.between behind ahead).read reader = _ at hfailed
  have hread := hwithin ahead
  rw [Cursor.between_read] at hfailed
  match hreading : reader ⟨ahead, 0⟩ with
  | .ok result => rw [hreading] at hfailed; cases hfailed
  | .error (.abort abort) => rw [hreading] at hfailed; cases hfailed
  | .error (.fault cause left) =>
    rw [hreading] at hread hfailed
    obtain ⟨taken, rfl⟩ := hread
    rw [Cursor.between_locate_fault] at hfailed
    cases hfailed
    -- The position is as far from the end of the source as what is left of it is long.
    have hleft : 2 ≤ left.length := by
      simp only [Cause.at, List.length_append] at hplace
      omega
    rw [List.append_assoc]
    change (Cursor.between behind _).read reader = _
    rw [Cursor.between_read, h _ _ _ hreading hleft, List.append_assoc, Cursor.between_locate_fault]

/-- The call that decodes the bodies between double quotes that are written in the alphabet. -/
def Call.body : Alphabet → Call
  | .text => text
  | .bytes => byteText

/-- What a body is decoded as. -/
def Answer.body : Alphabet → List Char → Answer
  | .text, value => text value
  | .bytes, value => byteText (value.map byteOf)

theorem Call.body_run (alphabet : Alphabet) (c : Cursor) :
    (body alphabet).run c = (c.read (readBody alphabet)).map (Answer.body alphabet) := by
  cases alphabet with
  | text => rfl
  | bytes => exact Outcome.map_map _ _ _

/-- The calls that decode the body of a literal. -/
inductive Call.Decodes : Call → Prop where
  | text : Decodes text
  | byteText : Decodes byteText
  | char (allowEnd : Bool) : Decodes (char allowEnd)
  | byte (allowEnd : Bool) : Decodes (byte allowEnd)
  | rawText : Decodes rawText

theorem Call.Decodes.run_append {call : Call} (h : call.Decodes) {source : List Char} {p : Nat}
    (hp : p ≤ source.length) {failure : Failure} (hfailed : call.run ⟨source, p⟩ = .failed failure)
    (hplace : failure.position + 1 < source.length) (more : List Char) :
    call.run ⟨source ++ more, p⟩ = .failed failure := by
  have hbody (alphabet : Alphabet) (chars : List Char) :=
    Body.scan_within alphabet [] ⟨chars, 0⟩ rfl
  cases h with
  | text =>
    rw [run, decodeText, Outcome.map_eq_failed_iff] at hfailed ⊢
    exact (readBody_settled .text).failed_append (hbody .text) hp hfailed hplace more
  | byteText =>
    rw [run, decodeByteText, Outcome.map_map, Outcome.map_eq_failed_iff] at hfailed ⊢
    exact (readBody_settled .bytes).failed_append (hbody .bytes) hp hfailed hplace more
  | char allowEnd =>
    rw [run, decodeChar, Outcome.map_eq_failed_iff] at hfailed ⊢
    exact (readSingle_settled .text allowEnd).failed_append (readSingle_within .text allowEnd) hp
      hfailed hplace more
  | byte allowEnd =>
    rw [run, decodeByte, Outcome.map_map, Outcome.map_eq_failed_iff] at hfailed ⊢
    exact (readSingle_settled .bytes allowEnd).failed_append (readSingle_within .bytes allowEnd) hp
      hfailed hplace more
  | rawText =>
    rw [run, decodeRawText, Outcome.map_eq_failed_iff] at hfailed ⊢
    exact RawText.read_settled.failed_append RawText.read_within hp hfailed hplace more

/-- Decoding a body fails just behind a row of units, where something is at fault. -/
theorem readBody_failed_iff {alphabet : Alphabet} {behind ahead : List Char} {failure : Failure} :
    (Cursor.between behind ahead).read (readBody alphabet) = .failed failure ↔
      ∃ units taken cause left, ahead = units.flatMap BodyUnit.spelling ++ (taken ++ left) ∧
        BodyUnit.IsRow alphabet (taken ++ left) units ∧ Body.Fault alphabet taken cause left ∧
        failure = cause.at ((behind ++ units.flatMap BodyUnit.spelling).length + taken.length) := by
  rw [Cursor.between_read, readBody]
  constructor
  · intro h
    cases hscan : Body.scan alphabet [] ⟨ahead, 0⟩ with
    | ok result =>
      rw [hscan] at h
      cases h
    | error stop =>
      obtain ⟨units, taken, cause, left, rfl, rfl, hrow, hfault⟩ := Body.scan_eq_error_iff.mp hscan
      rw [hscan, Cursor.between_locate_fault_taken] at h
      cases h
      exact ⟨units, taken, cause, left, rfl, hrow, hfault, rfl⟩
  · rintro ⟨units, taken, cause, left, rfl, hrow, hfault, rfl⟩
    rw [Body.scan_row hrow, hfault.scan_eq, Cursor.between_locate_fault_taken]

/-- The units of a row are decoded if a closing quote takes the place of what follows them. -/
theorem Call.body_run_row {alphabet : Alphabet} {rest : List Char} {units : List BodyUnit}
    (h : BodyUnit.IsRow alphabet rest units) :
    let text := units.flatMap BodyUnit.spelling ++ ['"']
    (body alphabet).run ⟨text, 0⟩ =
      .done (Answer.body alphabet (units.flatMap BodyUnit.value)) ⟨text, text.length⟩ := by
  intro text
  have hwithin (chars : List Char) := Body.scan_within alphabet [] ⟨chars, 0⟩ rfl
  have hread : (⟨text, 0⟩ : Cursor).read (readBody alphabet) =
      .done (units.flatMap BodyUnit.value) ⟨text, text.length⟩ :=
    (BodyUnit.readBody_reads_units alphabet).done_whole hwithin ⟨units, h.isBody, rfl, rfl⟩
  rw [body_run]
  exact Outcome.map_eq_done_iff.mpr ⟨_, hread, rfl⟩

/-- If a body fails to be decoded, it is a row of units up to some place, where no unit and no
closing quote comes next. The row is decoded if a quote closes it there, and the code of the failure
says how far from that place the position is that it has. Whichever decoder fails, more text behind
the source does not change its failure if the position is not that of the last character or the end.
-/
theorem Call.record_first_fault (source : List Char) (p : Nat) (hp : p ≤ source.length)
    (slot slot' : Option Failure) :
    (∀ alphabet failure,
      ((body alphabet).record ⟨source, p⟩).runFrom slot = (.ok none, some failure) →
        ∃ (u : Nat) (units : List BodyUnit),
          p ≤ u ∧ (u : Int) ≤ failure.position ∧ failure.position ≤ source.length ∧
          (source.drop p).take (u - p) = units.flatMap BodyUnit.spelling ∧
          BodyUnit.IsRow alphabet (source.drop u) units ∧
          (let text := (source.drop p).take (u - p) ++ ['"']
           ((body alphabet).record ⟨text, 0⟩).runFrom slot' =
            (.ok (some (Answer.body alphabet (units.flatMap BodyUnit.value),
              ⟨text, text.length⟩)), none)) ∧
          Body.Stuck alphabet (source.drop u) ∧
          failure.code.Locates u failure.position source.length) ∧
    ∀ (call : Call) failure, call.Decodes →
      (call.record ⟨source, p⟩).runFrom slot = (.ok none, some failure) →
        failure.position + 1 < source.length → ∀ more,
          (call.record ⟨source ++ more, p⟩).runFrom slot' = (.ok none, some failure) := by
  constructor
  · intro alphabet failure h
    rw [record_tells, Outcome.told_failed_iff, body_run, Outcome.map_eq_failed_iff] at h
    obtain ⟨behind, ahead, rfl, rfl⟩ := exists_behind_ahead hp
    obtain ⟨units, taken, cause, left, rfl, hrow, hfault, rfl⟩ := readBody_failed_iff.mp h
    have hdrop : (behind ++ (units.flatMap BodyUnit.spelling ++ (taken ++ left))).drop
        (behind ++ units.flatMap BodyUnit.spelling).length = taken ++ left := by
      rw [← List.append_assoc, List.drop_left]
    refine ⟨(behind ++ units.flatMap BodyUnit.spelling).length, units, ?_⟩
    rw [take_taken, hdrop]
    refine ⟨by simp, ?_, ?_, rfl, hrow, ?_, hfault.stuck, ?_⟩
    · simp only [Cause.at]
      omega
    · simp only [Cause.at, List.length_append]
      omega
    · intro text
      rw [record_tells, body_run_row hrow]
      rfl
    · have hplace := hfault.locates (behind ++ units.flatMap BodyUnit.spelling).length
      rwa [← Int.natCast_add _ (taken ++ left).length, ← List.length_append, List.append_assoc]
        at hplace
  · intro call failure hdecodes h hplace more
    rw [record_tells, Outcome.told_failed_iff] at h ⊢
    exact hdecodes.run_append hp h hplace more

/-- The escape behind the `a` has one digit only, which shows at the quote and no text can mend. -/
theorem Call.record_first_fault_digit :
    Body.Stuck .text ['\\', 'x', '4', '"', ' '] ∧
      ∀ more, (Call.text.record ⟨['a', '\\', 'x', '4', '"', ' '] ++ more, 0⟩).runFrom none =
        (.ok none, some ((Cause.badHexPair .text).at 3)) := by
  have hpair : Piece.Fault .text ['\\', 'x'] (.badHexPair .text) ['4', '"', ' '] := by
    refine .hexPair fun high low more heq => ?_
    cases heq
    decide
  have hfault : Body.Fault .text ['\\', 'x'] (.badHexPair .text) ['4', '"', ' '] :=
    .piece (c := '\\') ⟨by decide, by decide⟩ rfl hpair
  have hread : Call.text.run (.between [] ['a', '\\', 'x', '4', '"', ' ']) =
      .failed ((Cause.badHexPair .text).at 3) :=
    Outcome.map_eq_failed_iff.mpr (readBody_failed_iff.mpr
      ⟨[.piece (.plain 'a')], _, _, _, rfl, by decide, hfault, rfl⟩)
  have htold : (Call.text.record ⟨['a', '\\', 'x', '4', '"', ' '], 0⟩).runFrom none =
      (.ok none, some ((Cause.badHexPair .text).at 3)) :=
    (Call.text.record_tells _ none).trans (Outcome.told_failed_iff.mpr hread)
  have hmain := record_first_fault ['a', '\\', 'x', '4', '"', ' '] 0 (by decide) none none
  refine ⟨?_, hmain.2 Call.text _ .text htold (by decide)⟩
  obtain ⟨u, units, -, -, -, -, -, -, hstuck, hplace⟩ := hmain.1 .text _ htold
  obtain rfl : u = 1 := by
    have hplace : (3 : Int) = u + 2 := hplace
    omega
  exact hstuck

end LiteralLexer
