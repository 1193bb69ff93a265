import LiteralLexer.Proofs.BehindTrivia
import LiteralLexer.Proofs.Replay

/-!
What stands around a literal has no part in it. Text in front of the place where a parser starts
only moves the places that it tells of, for every parser. Behind a literal there is nothing that the
parser of literals goes by: a literal is complete where it ends.
-/
namespace LiteralLexer

def Span.shift (n : Nat) (span : Span) : Span where
  start := n + span.start
  stop := n + span.stop
  start_le_stop := Nat.add_le_add_left span.start_le_stop n

def Literal.shift (n : Nat) (literal : Literal) : Literal :=
  { literal with span := literal.span.map (Span.shift n) }

/-- Of all answers only literals tell of a place. -/
def Answer.shift (n : Nat) : Answer → Answer
  | literal value => literal (value.shift n)
  | answer => answer

def Failure.shift (n : Nat) (failure : Failure) : Failure :=
  { failure with position := n + failure.position }

@[simp] theorem Cause.shift_at (cause : Cause) (n : Nat) (pos : Int) :
    (cause.at pos).shift n = cause.at (n + pos) := rfl

namespace Cursor

/-- The same cursor with `front` put before its source. -/
def shift (front : List Char) (c : Cursor) : Cursor := ⟨front ++ c.source, front.length + c.pos⟩

variable {c : Cursor} (front : List Char)

@[simp] theorem shift_source : (c.shift front).source = front ++ c.source := rfl

@[simp] theorem shift_pos : (c.shift front).pos = front.length + c.pos := rfl

theorem shift_between (behind ahead : List Char) :
    (between behind ahead).shift front = between (front ++ behind) ahead := by
  simp [shift, between]

theorem Within.shift_ahead (hc : c.Within) : (c.shift front).ahead = c.ahead := by
  rw [hc.eq_between, shift_between, between_ahead, between_ahead]

theorem Within.shift_outOfRange (hc : c.Within) : (c.shift front).outOfRange = c.outOfRange := by
  rw [hc.eq_between, shift_between, between_outOfRange, between_outOfRange]

theorem Within.shift_startsWith (hc : c.Within) (pattern : List Char) :
    (c.shift front).startsWith pattern = c.startsWith pattern := by
  rw [hc.eq_between, shift_between, between_startsWith, between_startsWith]

theorem Within.shift_place (hc : c.Within) (rest : List Char) :
    (c.shift front).place rest = front.length + c.place rest := by
  rw [place, place, hc.shift_ahead front, shift_pos, shift_source, List.length_append]
  split <;> omega

theorem shift_advance (c : Cursor) (count : Int) :
    (c.shift front).advance count = (c.advance count).shift front := by
  simp only [advance, shift, List.length_append, Cursor.mk.injEq, true_and]
  omega

theorem Within.advance (hc : c.Within) (n : Nat) : (c.advance n).Within := by
  have := hc.nonneg
  have := hc.le_length
  constructor
  · simp only [Cursor.advance]
    omega
  · simp only [Cursor.advance]
    omega

theorem Within.shift_sliceTo (hc : c.Within) {stop : Int} (hstop : 0 ≤ stop) :
    (c.shift front).sliceTo (front.length + stop) = c.sliceTo stop := by
  obtain ⟨n, hn⟩ := Int.eq_ofNat_of_zero_le hc.nonneg
  obtain ⟨m, rfl⟩ := Int.eq_ofNat_of_zero_le hstop
  simp only [sliceTo, slice, shift_source, shift_pos, hn, ← Int.natCast_add, boundIn_natCast,
    List.length_append, Nat.add_min_add_left, List.take_length_add_append,
    List.drop_length_add_append]

end Cursor

namespace Outcome

/-- What comes of a parser if `front` is put before the source, where `f` does so in the value. -/
def shift (front : List Char) (f : α → β) : Outcome α → Outcome β
  | done value after => done (f value) (after.shift front)
  | failed failure => failed (failure.shift front.length)
  | aborted abort => aborted abort

variable {c : Cursor} {least : Nat} (front : List Char)

theorem shift_map {f : α → β} {f' : γ → δ} {g : α → γ} {g' : β → δ}
    (h : ∀ value, g' (f value) = f' (g value)) (o : Outcome α) :
    (o.shift front f).map g' = (o.map g).shift front f' := by
  cases o <;> simp [shift, Outcome.map, h]

/-- The form of `shift_map` for values without a place. -/
theorem shift_id_map (g : α → β) (o : Outcome α) :
    (o.shift front id).map g = (o.map g).shift front id :=
  shift_map front (fun _ => by rfl) o

/-- A parser that goes on with another one is shifted if both are. -/
theorem Within.shift_bind (hc : c.Within) {o : Outcome α} (ho : o.Within c least)
    {next : α → Cursor → Outcome β} {last : α → Cursor → Outcome γ} {f : β → γ}
    (hnext : ∀ value after, o = .done value after → after.Within →
      last value (after.shift front) = (next value after).shift front f) :
    (o.shift front id).bind last = (o.bind next).shift front f := by
  cases o with
  | done value after =>
    obtain ⟨hsource, hpos, hlength⟩ := ho
    exact hnext value after rfl ⟨by have := hc.nonneg; omega, by rwa [hsource]⟩
  | failed failure => rfl
  | aborted abort => rfl

end Outcome

section
variable {c : Cursor} (hc : c.Within) (front : List Char)
include hc

theorem Cursor.Within.shift_locate (r : Reading α) :
    (c.shift front).locate r = (c.locate r).shift front id := by
  cases r with
  | ok result =>
    simp only [Cursor.locate, Outcome.shift, hc.shift_place front]
    rfl
  | error stop =>
    cases stop <;> simp [Cursor.locate, Outcome.shift, hc.shift_place front]

theorem Cursor.Within.shift_read (reader : Ahead → Reading α) :
    (c.shift front).read reader = (c.read reader).shift front id := by
  rw [Cursor.read, Cursor.read, hc.shift_outOfRange front, hc.shift_ahead front,
    hc.shift_locate front]
  split <;> rfl

theorem blockComment_shift :
    blockComment (c.shift front) = (blockComment c).shift front id := by
  unfold blockComment
  rw [hc.shift_startsWith front, hc.shift_ahead front, hc.shift_locate front]
  split
  · have hread : (c.locate (BlockComment.read c.ahead)).Within c 1 := by
      apply hc.locate
      rw [hc.ahead_eq]
      exact BlockComment.read_within c.ahead.chars
    refine hread.shift_bind front hc fun _ after _ hafter => ?_
    rw [Cursor.shift_pos, hc.shift_sliceTo front hafter.nonneg]
    rfl
  · rfl

theorem optionalTrivia_shift :
    optionalTrivia (c.shift front) = (optionalTrivia c).shift front id := by
  have hcomment : (c.shift front).commentKind? = c.commentKind? := by
    rw [Cursor.commentKind?, Cursor.commentKind?, hc.shift_ahead front]
  unfold optionalTrivia
  rw [hcomment, hc.shift_outOfRange front, hc.shift_ahead front, hc.shift_locate front]
  split <;> rfl

theorem skipTrivia_shift : skipTrivia (c.shift front) = (skipTrivia c).shift front id := by
  unfold skipTrivia
  rw [optionalTrivia_shift hc front]
  refine (optionalTrivia_within hc).shift_bind front hc fun _ after _ _ => ?_
  have hpos : (after.shift front).pos = (c.shift front).pos ↔ after.pos = c.pos := by
    simp
  simp only [hpos]
  split <;> rfl

theorem wordBreak_shift : wordBreak (c.shift front) = (wordBreak c).shift front id :=
  hc.shift_read front _

theorem tokenAt_shift (token : List Char) :
    tokenAt token (c.shift front) = (tokenAt token c).shift front id := by
  unfold tokenAt
  rw [hc.shift_startsWith front, Cursor.shift_advance]
  split <;> rfl

theorem punct_shift (token : List Char) :
    punct (c.shift front) token = (punct c token).shift front id := by
  unfold punct
  rw [optionalTrivia_shift hc front]
  exact (optionalTrivia_within hc).shift_bind front hc fun _ _ _ hafter =>
    tokenAt_shift hafter front token

theorem keyword_shift (token : List Char) :
    keyword (c.shift front) token = (keyword c token).shift front id := by
  unfold keyword
  rw [punct_shift hc front]
  refine (punct_within hc token).shift_bind front hc fun token after _ hafter => ?_
  rw [wordBreak_shift hafter front]
  exact Outcome.shift_id_map front _ _

theorem decodeByteText_shift :
    decodeByteText (c.shift front) = (decodeByteText c).shift front id := by
  rw [decodeByteText, decodeByteText, hc.shift_read front]
  exact Outcome.shift_id_map front _ _

theorem decodeByte_shift (allowEnd : Bool) :
    decodeByte (c.shift front) allowEnd = (decodeByte c allowEnd).shift front id := by
  rw [decodeByte, decodeByte, hc.shift_read front]
  exact Outcome.shift_id_map front _ _

theorem LiteralKind.decode_shift (kind : LiteralKind) :
    kind.decode (c.shift front) = (kind.decode c).shift front id := by
  have hmap {α : Type} {o moved : Outcome α} (h : moved = o.shift front id)
      (g : α → LiteralValue) : moved.map g = (o.map g).shift front id := by
    rw [h, Outcome.shift_id_map]
  cases kind with
  | text => exact hmap (hc.shift_read front _) _
  | char => exact hmap (hc.shift_read front _) _
  | byteText => exact hmap (decodeByteText_shift hc front) _
  | byte => exact hmap (decodeByte_shift hc front false) _
  | rawText => exact hmap (hc.shift_read front _) _

end

theorem spanned_shift {start after : Cursor} (value : LiteralValue) (hstart : 0 ≤ start.pos)
    (hafter : start.pos ≤ after.pos) (front : List Char) :
    spanned (start.shift front) value (after.shift front) =
      (spanned start value after).shift front (Literal.shift front.length) := by
  have hstart' : 0 ≤ (start.shift front).pos := by
    simp only [Cursor.shift_pos]
    omega
  have hafter' : (start.shift front).pos ≤ (after.shift front).pos := by
    simp only [Cursor.shift_pos]
    omega
  obtain ⟨span, hspan, hspan', heq⟩ := spanned_eq_done value hstart hafter
  obtain ⟨moved, hmoved, hmoved', hmovedeq⟩ := spanned_eq_done value hstart' hafter'
  obtain rfl : moved = span.shift front.length := by
    rw [Cursor.shift_pos] at hmoved hmoved'
    cases moved
    simp only [Span.shift, Span.mk.injEq] at hmoved hmoved' ⊢
    omega
  rw [heq, hmovedeq]
  rfl

section
variable {c : Cursor} (hc : c.Within) (front : List Char)
include hc

theorem literalAt_shift :
    literalAt (c.shift front) = (literalAt c).shift front (Literal.shift front.length) := by
  have hkind : LiteralKind.at? (c.shift front) = LiteralKind.at? c := by
    unfold LiteralKind.at?
    congr 1
    funext kind
    congr 1
    funext opening
    exact hc.shift_startsWith front opening
  unfold literalAt
  rw [hkind]
  cases LiteralKind.at? c with
  | none => rfl
  | some kind =>
    have hadvance := hc.advance kind.openingLength
    have hpos : c.pos ≤ (c.advance kind.openingLength).pos := by
      have := hc.le_length
      simp only [Cursor.advance]
      omega
    have hdecode := kind.decode_within hadvance
    simp only [Cursor.shift_advance, kind.decode_shift hadvance front]
    refine hdecode.shift_bind front hadvance fun value after hafter _ => ?_
    rw [hafter] at hdecode
    exact spanned_shift value hc.nonneg (by have := hdecode.2.1; omega) front

theorem parseLiteral_shift :
    parseLiteral (c.shift front) = (parseLiteral c).shift front (Literal.shift front.length) := by
  unfold parseLiteral
  rw [optionalTrivia_shift hc front]
  exact (optionalTrivia_within hc).shift_bind front hc fun _ _ _ hstart =>
    literalAt_shift hstart front

/-- Every parser goes on from a place as if there was nothing in front of it. -/
theorem Call.run_shift (call : Call) :
    call.run (c.shift front) = (call.run c).shift front (Answer.shift front.length) := by
  have hmap {α : Type} {o moved : Outcome α} (h : moved = o.shift front id) {g : α → Answer}
      (hg : ∀ value, Answer.shift front.length (g value) = g value) :
      moved.map g = (o.map g).shift front (Answer.shift front.length) := by
    rw [h]
    exact Outcome.shift_map front (fun value => (hg value).symm) o
  cases call with
  | text => exact hmap (hc.shift_read front _) fun _ => rfl
  | byteText => exact hmap (decodeByteText_shift hc front) fun _ => rfl
  | char allowEnd => exact hmap (hc.shift_read front _) fun _ => rfl
  | byte allowEnd => exact hmap (decodeByte_shift hc front allowEnd) fun _ => rfl
  | rawText => exact hmap (hc.shift_read front _) fun _ => rfl
  | blockComment => exact hmap (blockComment_shift hc front) fun _ => rfl
  | skipTrivia => exact hmap (skipTrivia_shift hc front) fun _ => rfl
  | optionalTrivia => exact hmap (optionalTrivia_shift hc front) fun _ => rfl
  | wordBreak => exact hmap (wordBreak_shift hc front) fun _ => rfl
  | punct token => exact hmap (punct_shift hc front token) fun _ => rfl
  | keyword token => exact hmap (keyword_shift hc front token) fun _ => rfl
  | literal =>
    rw [run, run, parseLiteral_shift hc front]
    exact Outcome.shift_map front (fun _ => by rfl) _

end

/-- What a caller sees of a call if `front` is put before the source. -/
def Shown.shift (front : List Char) (shown : Shown) : Shown :=
  (shown.1.map (Option.map fun given => (given.1.shift front.length, given.2.shift front)),
    shown.2.map (Failure.shift front.length))

theorem Call.record_shift {c : Cursor} (hc : c.Within) (front : List Char) (call : Call)
    (slot slot' : Option Failure) :
    (call.record (c.shift front)).runFrom slot =
      Shown.shift front ((call.record c).runFrom slot') := by
  rw [call.record_tells _ slot, call.record_tells _ slot', call.run_shift hc front]
  cases call.run c <;> rfl

/-- A literal is read alike whatever follows its end. -/
theorem parseLiteral_take {source : List Char} {p : Nat} (hp : p ≤ source.length)
    {literal : Literal} {after : Cursor} (h : parseLiteral ⟨source, p⟩ = .done literal after)
    (suffix : List Char) :
    parseLiteral ⟨source.take after.pos.toNat ++ suffix, p⟩ =
      .done literal ⟨source.take after.pos.toNat ++ suffix, after.pos⟩ := by
  obtain ⟨behind, ahead, rfl, rfl⟩ := exists_behind_ahead hp
  obtain ⟨before, value, token, rest, rfl, hbefore, htoken, rfl, rfl⟩ :=
    parseLiteral_eq_done_iff.mp h
  have hkept : (behind ++ (before ++ (token ++ rest))).take (behind ++ before ++ token).length =
      behind ++ (before ++ token) := by
    simp [← List.append_assoc]
  have hne : token ++ rest ≠ [] :=
    List.append_ne_nil_of_left_ne_nil (List.length_pos_iff.mp htoken.length_pos) rest
  have hdone := parseLiteral_token behind (hbefore.before hne (token ++ suffix)) htoken
  simp only [Cursor.between_pos, Int.toNat_natCast, hkept]
  simpa only [Cursor.between, List.append_assoc] using hdone

/-- Every parser does the same at a place whatever text stands in front of the source: only the
places that it tells of are moved by that text. And a literal that is read from a place is read from
there alike, up to the same end, whatever text follows it in the source. -/
theorem Call.record_in_context (source : List Char) (p : Nat) (hp : p ≤ source.length)
    (slot slot' : Option Failure) :
    (∀ front (call : Call),
      (call.record ⟨front ++ source, front.length + p⟩).runFrom slot =
        Shown.shift front ((call.record ⟨source, p⟩).runFrom slot')) ∧
    ∀ literal after,
      ((Call.literal.record ⟨source, p⟩).runFrom slot').1 = .ok (some (.literal literal, after)) →
        ∀ suffix, (Call.literal.record ⟨source.take after.pos.toNat ++ suffix, p⟩).runFrom slot =
          (.ok (some (.literal literal, ⟨source.take after.pos.toNat ++ suffix, after.pos⟩)),
            none) := by
  constructor
  · intro front call
    have hc : (⟨source, p⟩ : Cursor).Within := ⟨by simp, by simpa using hp⟩
    exact call.record_shift hc front slot slot'
  · intro literal after h suffix
    rw [Call.literal.record_tells _ slot'] at h
    obtain ⟨found, hfound, hliteral⟩ :=
      Outcome.map_eq_done_iff.mp (Outcome.given_eq_some_iff.mp h)
    obtain rfl : found = literal := by simpa using hliteral
    rw [Call.literal.record_tells _ slot, Call.run, parseLiteral_take hp hfound suffix]
    rfl

/-- A raw text that has no markers, with one right behind its end. -/
theorem Call.record_in_context_raw :
    (Call.literal.record ⟨[' ', 'r', '"', '"'] ++ ['#'], 0⟩).runFrom none =
      (.ok (some (.literal (.of [' '] (.rawText [] 0) ['r', '"', '"']),
        ⟨[' ', 'r', '"', '"'] ++ ['#'], 4⟩)), none) := by
  have hbody : ¬Cause.rawClose 0 <:+: [] := by simp [Cause.rawClose]
  have htoken : Spells (.rawText [] 0) ['r', '"', '"'] := .rawText 0 hbody
  have htrivia : Trivia [' '] (['r', '"', '"'] ++ []) := .item (.blank rfl) .nil
  have hdone := parseLiteral_token [] htrivia htoken
  have hread : ((Call.literal.record ⟨[' ', 'r', '"', '"'], 0⟩).runFrom none).1 =
      .ok (some (.literal (.of [' '] (.rawText [] 0) ['r', '"', '"']),
        ⟨[' ', 'r', '"', '"'], 4⟩)) := by
    rw [Call.literal.record_tells _ none]
    exact Outcome.given_eq_some_iff.mpr (Outcome.map_eq_done_iff.mpr ⟨_, hdone, rfl⟩)
  exact (record_in_context [' ', 'r', '"', '"'] 0 (by decide) none none).2 _ _ hread ['#']

end LiteralLexer
