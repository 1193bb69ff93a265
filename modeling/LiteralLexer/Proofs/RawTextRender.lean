import LiteralLexer.Proofs.RawTextClose
import Mathlib.Data.List.Infix

/-!
Raw texts written back. A raw text that was decoded can be written again with as many markers, and
it reads as itself just if it does not hold its own close. What closes a raw text is looked for in
the source, though, and only then the CRs are left out: where they have kept a quote and its markers
apart, the text holds a close that its body did not.
-/
namespace LiteralLexer
namespace RawText

open Cause (rawClose)

/-- The raw text with its markers and quotes on either side. -/
def render (raw : RawText) : List Char :=
  List.replicate raw.hashes '#' ++ '"' :: raw.text ++ rawClose raw.hashes

theorem filter_return_eq_self {text : List Char} (h : '\r' ∉ text) :
    text.filter (· != '\r') = text := by
  rw [List.filter_eq_self]
  intro c hc
  simp only [bne_iff_ne, ne_eq]
  rintro rfl
  exact h hc

/-- What stands together in a text of which some characters were left out comes from one part of it.
-/
theorem infix_filter_iff {p : Char → Bool} {pattern text : List Char} :
    pattern <:+: text.filter p ↔ ∃ part, part <:+: text ∧ part.filter p = pattern := by
  constructor
  · rintro ⟨front, rest, h⟩
    obtain ⟨whole, last, rfl, hwhole, -⟩ := List.filter_eq_append_iff.mp h.symm
    obtain ⟨first, part, rfl, -, hpart⟩ := List.filter_eq_append_iff.mp hwhole
    exact ⟨part, ⟨first, last, rfl⟩, hpart⟩
  · rintro ⟨part, hpart, rfl⟩
    exact hpart.filter p

section
variable {n : Nat} {body : List Char}

/-- Without its CRs a body holds a close just if CRs stand inside of one. -/
theorem rawClose_infix_filter_iff (hbody : ¬rawClose n <:+: body) :
    rawClose n <:+: body.filter (· != '\r') ↔
      ∃ part, part <:+: body ∧ '\r' ∈ part ∧ part.filter (· != '\r') = rawClose n := by
  rw [infix_filter_iff]
  constructor
  · rintro ⟨part, hpart, hclose⟩
    refine ⟨part, hpart, ?_, hclose⟩
    by_contra hreturn
    rw [filter_return_eq_self hreturn] at hclose
    exact hbody (hclose ▸ hpart)
  · rintro ⟨part, hpart, -, hclose⟩
    exact ⟨part, hpart, hclose⟩

/-- Without markers a close is a single character, and no CR can stand inside of it. -/
theorem not_quote_infix_filter (hbody : ¬rawClose 0 <:+: body) :
    ¬rawClose 0 <:+: body.filter (· != '\r') := by
  have hquote : rawClose 0 = ['"'] := rfl
  rw [hquote, List.singleton_infix_iff] at hbody ⊢
  exact fun hmem => hbody (List.mem_of_mem_filter hmem)

end

/-- A raw text without a CR reads as itself just if it does not hold its close. -/
theorem decode_render_iff {raw : RawText} (hreturn : '\r' ∉ raw.text) :
    decodeRawText ⟨raw.render, 0⟩ = .done raw ⟨raw.render, raw.render.length⟩ ↔
      ¬rawClose raw.hashes <:+: raw.text := by
  have hall : (raw.render.drop 0).take (raw.render.length - 0) = raw.render := by simp
  change decodeRawText ⟨raw.render, (0 : Nat)⟩ = _ ↔ _
  rw [decodeRawText_eq_done_iff (Nat.zero_le _)]
  constructor
  · rintro ⟨e, body, hstands, hafter, hraw⟩
    obtain rfl : raw.render.length = e := Int.natCast_inj.mp (congrArg Cursor.pos hafter)
    have hhashes : raw.hashes = markersAt raw.render 0 := congrArg RawText.hashes hraw
    rw [← hhashes] at hstands
    have hrender := hall.symm.trans hstands.taken
    have htext : raw.text = body := by simpa [render] using hrender
    rw [htext]
    exact hstands.free
  · intro hfree
    have hstands : Stands raw.render 0 raw.hashes raw.text raw.render.length :=
      ⟨Nat.zero_le _, Nat.le_refl _, hfree, hall⟩
    refine ⟨_, raw.text, ?_, rfl, ?_⟩
    · rwa [hstands.markersAt_eq]
    · rw [hstands.markersAt_eq, filter_return_eq_self hreturn]

end RawText

open Cause (rawClose)

/-- A raw text that was decoded and is written back with its own markers reads as itself, up to the
end of the input, just if it does not hold its close. The body that it was decoded from held none.
So the text holds one just if the body has a part with a CR in it that is a close once the CRs are
left out, and never if it has no markers. -/
theorem decodeRawText_render_iff (source : List Char) (p : Nat) (hp : p ≤ source.length)
    (slot slot' : Option Failure) (raw : RawText) (after : Cursor)
    (h : ((Recording.decodeRawText ⟨source, p⟩).runFrom slot).1 = .ok (some (raw, after))) :
    ((Recording.decodeRawText ⟨raw.render, 0⟩).runFrom slot' =
        (.ok (some (raw, ⟨raw.render, raw.render.length⟩)), none) ↔
      ¬rawClose raw.hashes <:+: raw.text) ∧
    (rawClose raw.hashes <:+: raw.text → 0 < raw.hashes) ∧
    ∃ e body, RawText.Stands source p raw.hashes body e ∧ after = ⟨source, e⟩ ∧
      raw.text = body.filter (· != '\r') ∧
      (rawClose raw.hashes <:+: raw.text ↔
        ∃ part, part <:+: body ∧ '\r' ∈ part ∧
          part.filter (· != '\r') = rawClose raw.hashes) := by
  rw [Recording.decodeRawText, Recording.handFresh_tells, Outcome.given_eq_some_iff,
    RawText.decodeRawText_eq_done_iff hp] at h
  obtain ⟨e, body, hstands, rfl, rfl⟩ := h
  generalize RawText.markersAt source p = n at hstands
  refine ⟨?_, ?_, e, body, hstands, rfl, rfl, RawText.rawClose_infix_filter_iff hstands.free⟩
  · rw [← RawText.decode_render_iff (by simp), Recording.decodeRawText, Recording.handFresh_tells,
      Prod.mk.injEq, Outcome.given_eq_some_iff]
    exact and_iff_left_of_imp fun hdone => by rw [hdone, Outcome.left_done]
  · intro hclose
    cases n with
    | zero => exact absurd hclose (RawText.not_quote_infix_filter hstands.free)
    | succ n => exact Nat.succ_pos n

/-- A CR at the end of a line is left out, and the text reads as itself. -/
theorem decodeRawText_render_iff_line :
    let raw : RawText := ⟨['"', 'a', '\n', '#'], 1⟩
    (Recording.decodeRawText ⟨raw.render, 0⟩).runFrom none =
      (.ok (some (raw, ⟨raw.render, raw.render.length⟩)), none) :=
  (decodeRawText_render_iff ['#', '"', '"', 'a', '\r', '\n', '#', '"', '#'] 0 (by decide) none none
    ⟨['"', 'a', '\n', '#'], 1⟩ _ rfl).1.mpr (by decide)

/-- Where a CR stands between a quote and its marker, the text does not read as itself. -/
theorem decodeRawText_render_return :
    let source := ['#', '"', '"', '\r', '#', '"', '#']
    let raw : RawText := ⟨['"', '#'], 1⟩
    ((Recording.decodeRawText ⟨source, 0⟩).runFrom none).1 = .ok (some (raw, ⟨source, 7⟩)) ∧
      raw.render = ['#', '"', '"', '#', '"', '#'] ∧
      ((Recording.decodeRawText ⟨raw.render, 0⟩).runFrom none).1 =
        .ok (some (⟨[], 1⟩, ⟨raw.render, 4⟩)) := by
  decide

end LiteralLexer
