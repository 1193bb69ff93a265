import LiteralLexer.Proofs.BodyGrammar
import LiteralLexer.Proofs.Progress

/-!
Which texts are literals. A literal is an opening, a body in the grammar of its kind and a closing.
The opening alone tells the kind, so a text starts with a literal in at most one way.
-/
namespace LiteralLexer

open Cause (rawClose)

/-- The texts of literals, each beside the value that it denotes. -/
inductive Spells : LiteralValue → List Char → Prop where
  | text {body value : List Char} :
    BodyText .text body value → Spells (.text value) ('"' :: (body ++ ['"']))
  | char {piece : Piece} :
    piece.Legal .text → Spells (.char piece.value) ('\'' :: (piece.spelling ++ ['\'']))
  | byteText {body value : List Char} :
    BodyText .bytes body value →
    Spells (.byteText (value.map byteOf)) ('b' :: '"' :: (body ++ ['"']))
  | byte {piece : Piece} :
    piece.Legal .bytes →
    Spells (.byte (byteOf piece.value)) ('b' :: '\'' :: (piece.spelling ++ ['\'']))
  | rawText {body : List Char} (n : Nat) :
    ¬rawClose n <:+: body →
    Spells (.rawText (body.filter (· != '\r')) n)
      ('r' :: (List.replicate n '#' ++ '"' :: body ++ rawClose n))

namespace LiteralKind

/-- The characters of its opening that a literal's decoder leaves to the caller. -/
def opening : LiteralKind → List Char
  | text => ['"']
  | char => ['\'']
  | byteText => ['b', '"']
  | byte => ['b', '\'']
  | rawText => ['r']

theorem opening_length (kind : LiteralKind) : kind.opening.length = kind.openingLength := by
  cases kind <;> rfl

/-- A literal of this kind opens with the text. -/
def Opens (kind : LiteralKind) (text : List Char) : Prop :=
  ∃ opening ∈ kind.openings, opening <+: text

theorem Opens.unique {kind other : LiteralKind} {text : List Char} (h : kind.Opens text)
    (hother : other.Opens text) : kind = other := by
  have hdisjoint : ∀ opening ∈ kind.openings, ∀ opening' ∈ other.openings,
      opening <+: opening' ∨ opening' <+: opening → kind = other := by
    cases kind <;> cases other <;> decide
  obtain ⟨opening, hopening, hfirst⟩ := h
  obtain ⟨opening', hopening', hsecond⟩ := hother
  exact hdisjoint opening hopening opening' hopening'
    (List.prefix_or_prefix_of_prefix hfirst hsecond)

theorem Opens.exists_eq {kind : LiteralKind} {text : List Char} (h : kind.Opens text) :
    ∃ more, text = kind.opening ++ more := by
  have hall : ∀ opening ∈ kind.openings, kind.opening <+: opening := by
    cases kind <;> decide
  obtain ⟨opening, hopening, more, rfl⟩ := h
  obtain ⟨rest, rfl⟩ := hall opening hopening
  exact ⟨rest ++ more, by simp⟩

theorem mem_all (kind : LiteralKind) : kind ∈ all := by
  cases kind <;> decide

theorem any_startsWith_iff (kind : LiteralKind) (behind ahead : List Char) :
    kind.openings.any (Cursor.between behind ahead).startsWith = true ↔ kind.Opens ahead := by
  simp [Opens, Cursor.between_startsWith]

theorem at?_eq_some_iff {kind : LiteralKind} {behind ahead : List Char} :
    at? (.between behind ahead) = some kind ↔ kind.Opens ahead := by
  constructor
  · intro h
    have hany := List.find?_some (p := fun k : LiteralKind => k.openings.any _) h
    exact (any_startsWith_iff kind behind ahead).mp hany
  · intro h
    cases hat : at? (.between behind ahead) with
    | none =>
      have hnone := List.find?_eq_none.mp hat kind kind.mem_all
      exact absurd ((any_startsWith_iff kind behind ahead).mpr h) hnone
    | some other =>
      have hany := List.find?_some (p := fun k : LiteralKind => k.openings.any _) hat
      rw [h.unique ((any_startsWith_iff other behind ahead).mp hany)]

theorem at?_eq_none_iff {behind ahead : List Char} :
    at? (.between behind ahead) = none ↔ ∀ kind : LiteralKind, ¬kind.Opens ahead := by
  rw [Option.eq_none_iff_forall_ne_some]
  exact forall_congr' fun kind => not_congr at?_eq_some_iff

end LiteralKind

theorem Spells.opens {value : LiteralValue} {token : List Char} (h : Spells value token)
    (rest : List Char) : value.kind.Opens (token ++ rest) := by
  cases h with
  | text _ => exact ⟨_, .head _, _, rfl⟩
  | char _ => exact ⟨_, .head _, _, rfl⟩
  | byteText _ => exact ⟨_, .head _, _, rfl⟩
  | byte _ => exact ⟨_, .head _, _, rfl⟩
  | rawText n _ =>
    cases n with
    | zero => exact ⟨_, .tail _ (.head _), _, rfl⟩
    | succ n => exact ⟨_, .head _, _, rfl⟩

/-- The decoder of a kind reads exactly what follows the opening in the literals of the kind. -/
theorem LiteralKind.decode_eq_done_iff {kind : LiteralKind} {behind ahead : List Char}
    {value : LiteralValue} {after : Cursor} :
    kind.decode (.between behind ahead) = .done value after ↔
      ∃ tail rest, value.kind = kind ∧ Spells value (kind.opening ++ tail) ∧
        ahead = tail ++ rest ∧ after = .between (behind ++ tail) rest := by
  have hbodies (alphabet : Alphabet) (chars : List Char) :=
    Body.scan_within alphabet [] ⟨chars, 0⟩ rfl
  cases kind with
  | text =>
    simp only [decode, decodeText, Outcome.map_eq_done_iff,
      (readBody_reads .text).done_iff (hbodies .text)]
    constructor
    · rintro ⟨_, ⟨_, rest, ⟨body, hbody, rfl⟩, rfl, rfl⟩, rfl⟩
      exact ⟨body ++ ['"'], rest, rfl, .text hbody, rfl, rfl⟩
    · rintro ⟨tail, rest, -, hspells, rfl, rfl⟩
      cases hspells with
      | text hbody => exact ⟨_, ⟨_, rest, ⟨_, hbody, rfl⟩, rfl, rfl⟩, rfl⟩
  | char =>
    simp only [decode, decodeChar, Outcome.map_eq_done_iff,
      (readSingle_reads .text).done_iff (readSingle_within .text false)]
    constructor
    · rintro ⟨_, ⟨_, rest, ⟨piece, hlegal, rfl, rfl⟩, rfl, rfl⟩, rfl⟩
      exact ⟨_, rest, rfl, .char hlegal, rfl, rfl⟩
    · rintro ⟨tail, rest, -, hspells, rfl, rfl⟩
      cases hspells with
      | char hlegal => exact ⟨_, ⟨_, rest, ⟨_, hlegal, rfl, rfl⟩, rfl, rfl⟩, rfl⟩
  | byteText =>
    simp only [decode, decodeByteText, Outcome.map_eq_done_iff,
      (readBody_reads .bytes).done_iff (hbodies .bytes)]
    constructor
    · rintro ⟨_, ⟨_, ⟨_, rest, ⟨body, hbody, rfl⟩, rfl, rfl⟩, rfl⟩, rfl⟩
      exact ⟨body ++ ['"'], rest, rfl, .byteText hbody, rfl, rfl⟩
    · rintro ⟨tail, rest, -, hspells, rfl, rfl⟩
      cases hspells with
      | byteText hbody => exact ⟨_, ⟨_, ⟨_, rest, ⟨_, hbody, rfl⟩, rfl, rfl⟩, rfl⟩, rfl⟩
  | byte =>
    simp only [decode, decodeByte, Outcome.map_eq_done_iff,
      (readSingle_reads .bytes).done_iff (readSingle_within .bytes false)]
    constructor
    · rintro ⟨_, ⟨_, ⟨_, rest, ⟨piece, hlegal, rfl, rfl⟩, rfl, rfl⟩, rfl⟩, rfl⟩
      exact ⟨_, rest, rfl, .byte hlegal, rfl, rfl⟩
    · rintro ⟨tail, rest, -, hspells, rfl, rfl⟩
      cases hspells with
      | byte hlegal => exact ⟨_, ⟨_, ⟨_, rest, ⟨_, hlegal, rfl, rfl⟩, rfl, rfl⟩, rfl⟩, rfl⟩
  | rawText =>
    simp only [decode, decodeRawText, Outcome.map_eq_done_iff,
      RawText.read_reads.done_iff RawText.read_within]
    constructor
    · rintro ⟨_, ⟨_, rest, ⟨n, body, hbody, rfl, rfl⟩, rfl, rfl⟩, rfl⟩
      exact ⟨_, rest, rfl, .rawText n hbody, rfl, rfl⟩
    · rintro ⟨tail, rest, -, hspells, rfl, rfl⟩
      cases hspells with
      | rawText n hbody => exact ⟨_, ⟨_, rest, ⟨n, _, hbody, rfl, rfl⟩, rfl, rfl⟩, rfl⟩

/-- The literal with the value and span of the token between two texts. -/
def Literal.of (behind : List Char) (value : LiteralValue) (token : List Char) : Literal where
  value := value
  span := some ⟨behind.length, behind.length + token.length, Nat.le_add_right _ _⟩

theorem spanned_between (behind token rest : List Char) (value : LiteralValue) :
    spanned (.between behind (token ++ rest)) value (.between (behind ++ token) rest) =
      .done (.of behind value token) (.between (behind ++ token) rest) := by
  have hfirst : 0 ≤ (Cursor.between behind (token ++ rest)).pos := by simp
  have hlast : (Cursor.between behind (token ++ rest)).pos ≤
      (Cursor.between (behind ++ token) rest).pos := by
    simp only [Cursor.between_pos, List.length_append]
    omega
  obtain ⟨span, hstart, hstop, hspan⟩ := spanned_eq_done value hfirst hlast
  rw [hspan]
  cases span with
  | mk start stop start_le_stop =>
    simp only [Cursor.between_pos, List.length_append] at hstart hstop
    obtain rfl : start = behind.length := by omega
    obtain rfl : stop = behind.length + token.length := by omega
    rfl

/-- Moving on by the length of an opening is moving past it. -/
theorem LiteralKind.advance_opening (kind : LiteralKind) (behind more : List Char) :
    (Cursor.between behind (kind.opening ++ more)).advance kind.openingLength =
      .between (behind ++ kind.opening) more := by
  rw [← kind.opening_length, Cursor.between_advance]

/-- A literal is read at a cursor just if the text ahead starts with one that spells it. -/
theorem literalAt_eq_done_iff {behind ahead : List Char} {literal : Literal} {after : Cursor} :
    literalAt (.between behind ahead) = .done literal after ↔
      ∃ value token rest, Spells value token ∧ ahead = token ++ rest ∧
        literal = .of behind value token ∧ after = .between (behind ++ token) rest := by
  constructor
  · intro h
    unfold literalAt at h
    split at h
    · cases h
    · rename_i kind hkind
      obtain ⟨more, rfl⟩ := (LiteralKind.at?_eq_some_iff.mp hkind).exists_eq
      rw [kind.advance_opening] at h
      cases hdecode : kind.decode (.between (behind ++ kind.opening) more) with
      | failed failure =>
        rw [hdecode] at h
        cases h
      | aborted abort =>
        rw [hdecode] at h
        cases h
      | done value last =>
        obtain ⟨tail, rest, -, hspells, rfl, rfl⟩ := LiteralKind.decode_eq_done_iff.mp hdecode
        rw [hdecode, Outcome.bind_done, List.append_assoc, ← List.append_assoc,
          spanned_between] at h
        cases h
        exact ⟨value, _, rest, hspells, by simp, rfl, rfl⟩
  · rintro ⟨value, token, rest, hspells, rfl, rfl, rfl⟩
    have hkind : LiteralKind.at? (.between behind (token ++ rest)) = some value.kind :=
      LiteralKind.at?_eq_some_iff.mpr (hspells.opens rest)
    obtain ⟨tail, rfl⟩ : ∃ tail, token = value.kind.opening ++ tail := by
      cases hspells <;> exact ⟨_, rfl⟩
    have hdecode : value.kind.decode (.between (behind ++ value.kind.opening) (tail ++ rest)) =
        .done value (.between (behind ++ value.kind.opening ++ tail) rest) :=
      LiteralKind.decode_eq_done_iff.mpr ⟨tail, rest, rfl, hspells, rfl, rfl⟩
    unfold literalAt
    rw [hkind]
    simp only [List.append_assoc, LiteralKind.advance_opening] at hdecode ⊢
    rw [hdecode, Outcome.bind_done, ← List.append_assoc, spanned_between]

end LiteralLexer
