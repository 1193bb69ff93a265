import LiteralLexer.Proofs.CommentGrammar
import LiteralLexer.Proofs.SideChannel

/-!
How deep a block comment is. The depth behind a text is the number of marks in it that open less the
number of marks that close. Behind a prefix of a comment the depth is positive, and behind the whole
comment it is zero. So a text starts with one comment at most, and this is the shortest balanced
text that it starts with. A comment that never closes is left open at a positive depth.
-/
namespace LiteralLexer
namespace BlockComment

/-- The text is a block comment, from the mark that opens it to the mark that closes it. -/
def Complete (text : List Char) : Prop :=
  ∃ inside, Inside inside ∧ text = openMark ++ inside ++ closeMark

/-- The marks of a text, taken from left to right without overlap. -/
def marks : List Char → List (List Char)
  | '/' :: '*' :: rest => openMark :: marks rest
  | '*' :: '/' :: rest => closeMark :: marks rest
  | _ :: rest => marks rest
  | [] => []

/-- How many comments are open behind a text. -/
def depthBehind (text : List Char) : Int :=
  (marks text).count openMark - (marks text).count closeMark

theorem balance_eq_depthBehind (text : List Char) : balance text = depthBehind text := by
  have hopen : (closeMark == openMark) = false := by decide
  have hclose : (openMark == closeMark) = false := by decide
  unfold depthBehind
  induction text using balance.induct with
  | case1 rest ih =>
    rw [balance, marks, ih, List.count_cons_self, List.count_cons, hclose]
    simp only [Bool.false_eq_true, if_false, Nat.add_zero, Int.natCast_add]
    omega
  | case2 rest ih =>
    rw [balance, marks, ih, List.count_cons_self, List.count_cons, hopen]
    simp only [Bool.false_eq_true, if_false, Nat.add_zero, Int.natCast_add]
    omega
  | case3 c rest hopen' hclose' ih => rw [balance, marks, ih] <;> assumption
  | case4 => rfl

theorem depthBehind_open (text : List Char) :
    depthBehind (openMark ++ text) = 1 + depthBehind text := by
  rw [← balance_eq_depthBehind, ← balance_eq_depthBehind, Int.add_comm]
  rfl

/-- A scan that fails has never closed all that is open. -/
theorem scan_left_pos {depth left : Int} {chars rest : List Char} {seam : Nat}
    (h : scan depth chars seam = .error (.fault (.unterminatedComment left) rest))
    (hdepth : 1 ≤ depth) : 1 ≤ left := by
  fun_induction scan depth chars seam with
  | case1 depth a b tail seam pair _ ih => exact ih h (by omega)
  | case2 => cases h
  | case3 depth a b tail seam pair _ _ hone ih => exact ih h (by omega)
  | case4 depth a b tail seam pair _ _ ih => exact ih h hdepth
  | case5 => cases h; exact hdepth

/-- Where a scan is still on its way, the depth is what the marks behind it make. -/
theorem depth_pos_of_scan {depth : Int} {chars : List Char} {stop : Stop}
    (h : scan depth chars 0 = .error stop) (hdepth : 1 ≤ depth) :
    1 ≤ depth + depthBehind chars := by
  obtain ⟨rest, rfl⟩ := scan_error h rfl
  rw [← balance_eq_depthBehind]
  exact scan_left_pos h hdepth

/-- Up to the mark that closes it the inside of a comment is balanced, and the mark is one more. -/
theorem depthBehind_inside {inside : List Char} (h : Inside inside) :
    depthBehind (inside ++ closeMark) = -1 := by
  -- With one comment more around it the scan goes on behind the mark, to the end of the text.
  have hscan : scan 2 (inside ++ closeMark) 0 = .error (.fault (.unterminatedComment 1) []) := by
    have hend := scan_inside h (by decide : (1 : Int) ≤ 2) []
    rwa [List.append_nil, List.append_nil] at hend
  obtain ⟨rest, hrest⟩ := scan_error hscan rfl
  rw [balance_eq_depthBehind] at hrest
  simp only [Stop.fault.injEq, Cause.unterminatedComment.injEq] at hrest
  omega

namespace Complete

variable {text text' chars front : List Char}

theorem depthBehind_eq (h : Complete text) : depthBehind text = 0 := by
  obtain ⟨inside, hinside, rfl⟩ := h
  rw [List.append_assoc, depthBehind_open, depthBehind_inside hinside]
  rfl

theorem read_append (h : Complete text) (rest : List Char) :
    read ⟨text ++ rest, 0⟩ = .ok ((), ⟨rest, 0⟩) := by
  obtain ⟨inside, hinside, rfl⟩ := h
  rw [List.append_assoc, List.append_assoc]
  exact read_eq_ok_iff.mpr ⟨inside, rest, rfl, hinside, by simp⟩

/-- A text starts with one comment at most, for the reader is a function. -/
theorem unique (h : Complete text) (h' : Complete text') (hstart : text <+: chars)
    (hstart' : text' <+: chars) : text' = text := by
  obtain ⟨rest, rfl⟩ := hstart
  obtain ⟨rest', heq⟩ := hstart'
  have hread := h'.read_append rest'
  rw [heq, h.read_append rest] at hread
  cases hread
  exact List.append_cancel_right heq

end Complete

section
variable {chars : List Char} (hopen : openMark <+: chars)
  (hnever : ∀ text, text <+: chars → ¬Complete text)
include hopen hnever

/-- A text that opens a comment and closes none is open behind each of its marks. -/
theorem depthBehind_pos_of_open : 1 ≤ depthBehind chars := by
  obtain ⟨rest, rfl⟩ := hopen
  rw [depthBehind_open]
  cases hscan : scan 1 rest 0 with
  | error stop => exact depth_pos_of_scan hscan (Int.le_refl 1)
  | ok result =>
    obtain ⟨-, inside, more, hinside, rfl, -⟩ := closes_of_scan hscan rfl (n := 0) rfl
    exact absurd ⟨inside, hinside, rfl⟩ (hnever _ ⟨more, by simp⟩)

theorem read_of_open :
    read ⟨chars, 0⟩ = .error (.fault (.unterminatedComment (depthBehind chars)) chars) := by
  rw [← balance_eq_depthBehind]
  refine read_open hopen fun inside more hinside heq => ?_
  exact hnever _ ⟨more, heq.symm⟩ ⟨inside, hinside, rfl⟩

end

/-- Behind every prefix of a comment that holds the first mark the comment is still open. -/
theorem Complete.depthBehind_pos {text front : List Char} (h : Complete text)
    (hfront : front <+: text) (hshort : front.length < text.length) (hmark : 2 ≤ front.length) :
    1 ≤ depthBehind front := by
  have hopen : openMark <+: front := by
    obtain ⟨inside, -, rfl⟩ := h
    exact List.prefix_of_prefix_length_le ⟨inside ++ closeMark, by simp⟩ hfront hmark
  refine depthBehind_pos_of_open hopen fun found hfound hcomplete => ?_
  obtain rfl := h.unique hcomplete (List.prefix_refl text) (hfound.trans hfront)
  have hle := hfound.length_le
  omega

end BlockComment

open BlockComment (Complete openMark depthBehind)

section
variable (behind : List Char) {ahead : List Char}

theorem Cursor.between_sliceTo (text rest : List Char) :
    (between behind (text ++ rest)).sliceTo (behind ++ text).length = text := by
  have hlength : (behind ++ text).length ≤ (behind ++ (text ++ rest)).length := by simp
  simp only [sliceTo, slice, between_source, between_pos, boundIn_natCast]
  rw [Nat.min_eq_left hlength, Nat.min_eq_left (by simp), ← List.append_assoc, List.take_left,
    List.drop_left]

theorem blockComment_between :
    blockComment (.between behind ahead) =
      if openMark <+: ahead then
        ((Cursor.between behind ahead).locate (BlockComment.read ⟨ahead, 0⟩)).bind
          fun _ after => .done ((Cursor.between behind ahead).sliceTo after.pos) after
      else .failed (Cause.noComment.at behind.length) := by
  rw [blockComment, Cursor.between_startsWith, Cursor.between_ahead, Cursor.between_pos]
  simp only [List.isPrefixOf_iff_prefix]
  rfl

theorem blockComment_done {text : List Char} (h : Complete text) (rest : List Char) :
    blockComment (.between behind (text ++ rest)) =
      .done text (.between (behind ++ text) rest) := by
  have hopen : openMark <+: text ++ rest := by
    obtain ⟨inside, -, rfl⟩ := h
    exact ⟨inside ++ BlockComment.closeMark ++ rest, by simp⟩
  rw [blockComment_between, if_pos hopen, h.read_append, Cursor.between_locate_ok,
    Outcome.bind_done, Cursor.between_pos, Cursor.between_sliceTo]

theorem blockComment_open (hopen : openMark <+: ahead)
    (hnever : ∀ text, text <+: ahead → ¬Complete text) :
    blockComment (.between behind ahead) =
      .failed ((Cause.unterminatedComment (depthBehind ahead)).at behind.length) := by
  have hfault := Cursor.between_locate_fault behind [] (.unterminatedComment (depthBehind ahead))
    ahead (α := Unit)
  rw [List.nil_append, List.append_nil] at hfault
  rw [blockComment_between, if_pos hopen, BlockComment.read_of_open hopen hnever, hfault,
    Outcome.bind_failed]

theorem blockComment_none (h : ¬openMark <+: ahead) :
    blockComment (.between behind ahead) = .failed (Cause.noComment.at behind.length) := by
  rw [blockComment_between, if_neg h]

theorem blockComment_eq_done_iff {text : List Char} {after : Cursor} :
    blockComment (.between behind ahead) = .done text after ↔
      ∃ rest, Complete text ∧ ahead = text ++ rest ∧ after = .between (behind ++ text) rest := by
  constructor
  · intro h
    by_cases hopen : openMark <+: ahead
    · by_cases hcloses : ∃ found, found <+: ahead ∧ Complete found
      · obtain ⟨found, ⟨rest, rfl⟩, hfound⟩ := hcloses
        rw [blockComment_done behind hfound] at h
        cases h
        exact ⟨rest, hfound, rfl, rfl⟩
      · have hnever : ∀ found, found <+: ahead → ¬Complete found :=
          fun found hstart hfound => hcloses ⟨found, hstart, hfound⟩
        rw [blockComment_open behind hopen hnever] at h
        cases h
    · rw [blockComment_none behind hopen] at h
      cases h
  · rintro ⟨rest, hcomplete, rfl, rfl⟩
    exact blockComment_done behind hcomplete rest

end

/-- A block comment is matched just if the text from the place on starts with one, and then the text
that is given is that comment. No other comment starts there, and it is closed where its depth first
comes back to zero. If there is an opening mark and no comment, the match fails at the place, and
the depth it names is positive and that of the whole text ahead; without an opening mark it fails
for want of a comment. -/
theorem blockComment_iff_complete (source : List Char) (p : Nat) (hp : p ≤ source.length)
    (slot : Option Failure) :
    (∀ text after,
      ((Recording.blockComment ⟨source, p⟩).runFrom slot).1 = .ok (some (text, after)) ↔
        Complete text ∧ text <+: source.drop p ∧ after = ⟨source, (p + text.length : Nat)⟩) ∧
    (∀ text, Complete text → text <+: source.drop p →
      depthBehind text = 0 ∧
      (∀ front, front <+: source.drop p → 2 ≤ front.length → front.length < text.length →
        1 ≤ depthBehind front) ∧
      ∀ text', Complete text' → text' <+: source.drop p → text' = text) ∧
    (openMark <+: source.drop p → (∀ text, text <+: source.drop p → ¬Complete text) →
      1 ≤ depthBehind (source.drop p) ∧
      (Recording.blockComment ⟨source, p⟩).runFrom slot =
        (.ok none, some ⟨.unterminatedBlockComment,
          "Unterminated block comment (depth " ++ toString (depthBehind (source.drop p)) ++
            " at end of input)", p, ["*/"]⟩)) ∧
    (¬openMark <+: source.drop p →
      (Recording.blockComment ⟨source, p⟩).runFrom slot =
        (.ok none, some ⟨.expectedToken, "Expected block comment", p, ["/*"]⟩)) := by
  obtain ⟨behind, ahead, rfl, rfl⟩ := exists_behind_ahead hp
  have hrun : (Recording.blockComment ⟨behind ++ ahead, behind.length⟩).runFrom slot =
      ((blockComment (.between behind ahead)).given, (blockComment (.between behind ahead)).left) :=
    Recording.handFresh_tells _ slot
  rw [List.drop_left, hrun]
  refine ⟨fun text after => ?_, fun text htext hstart => ⟨htext.depthBehind_eq, ?_, ?_⟩, ?_, ?_⟩
  · rw [Outcome.given_eq_some_iff, blockComment_eq_done_iff]
    constructor
    · rintro ⟨rest, hcomplete, rfl, rfl⟩
      refine ⟨hcomplete, List.prefix_append text rest, ?_⟩
      rw [Cursor.between, List.append_assoc, List.length_append]
    · rintro ⟨hcomplete, ⟨rest, rfl⟩, rfl⟩
      refine ⟨rest, hcomplete, rfl, ?_⟩
      rw [Cursor.between, List.append_assoc, List.length_append]
  · intro front hfront hmark hshort
    have hprefix := List.prefix_of_prefix_length_le hfront hstart (Nat.le_of_lt hshort)
    exact htext.depthBehind_pos hprefix hshort hmark
  · exact fun text' htext' hstart' => htext.unique htext' hstart hstart'
  · intro hopen hnever
    rw [blockComment_open behind hopen hnever, Cause.at_unterminatedComment]
    exact ⟨BlockComment.depthBehind_pos_of_open hopen hnever, rfl⟩
  · intro hnone
    rw [blockComment_none behind hnone]
    rfl

/-- A comment with another one in it, between marks that overlap, and one that is left open with
another one in it, where the last mark is no close. -/
theorem blockComment_iff_complete_nested :
    ((Recording.blockComment ⟨['a', '/', '*', '/', '*', '*', '/', '*', '/', '/'], 1⟩).runFrom
        none).1 =
      .ok (some (['/', '*', '/', '*', '*', '/', '*', '/'],
        ⟨['a', '/', '*', '/', '*', '*', '/', '*', '/', '/'], 9⟩)) ∧
    (Recording.blockComment ⟨['a', '/', '*', ' ', '/', '*', '/'], 1⟩).runFrom none =
      (.ok none, some ⟨.unterminatedBlockComment,
        "Unterminated block comment (depth 2 at end of input)", 1, ["*/"]⟩) := by
  have hclosed := blockComment_iff_complete
    ['a', '/', '*', '/', '*', '*', '/', '*', '/', '/'] 1 (by decide) none
  have hopen := blockComment_iff_complete ['a', '/', '*', ' ', '/', '*', '/'] 1 (by decide) none
  have hcomplete : Complete ['/', '*', '/', '*', '*', '/', '*', '/'] :=
    ⟨['/', '*', '*', '/'], .nested .nil .nil, rfl⟩
  have hnever : ∀ text, text <+: ['/', '*', ' ', '/', '*', '/'] → ¬Complete text := by
    rintro text ⟨rest, hrest⟩ h
    have hread := h.read_append rest
    rw [hrest] at hread
    cases hread
  exact ⟨(hclosed.1 _ _).mpr ⟨hcomplete, by decide, rfl⟩,
    (hopen.2.2.1 (by decide) hnever).2.trans rfl⟩

end LiteralLexer
