import LiteralLexer.Proofs.BodyGrammar
import LiteralLexer.Proofs.SideChannel

/-!
Where a raw text closes. What can close it is looked for from left to right, but that it has not
closed yet is a property of the body alone: a close cannot lie across the end of a body that another
close follows. So a raw text has one body, and it is the shortest one that a close follows.
-/
namespace LiteralLexer
namespace RawText

open Cause (rawClose)

section
variable {n : Nat}

/-- Reading up to a close stops only where the text does. -/
theorem scan_error {sofar chars : List Char} {stop : Stop}
    (h : scan (List.replicate n '#') sofar chars 0 = .error stop) :
    stop = .fault (.unterminatedRaw n) [] := by
  induction chars generalizing sofar with
  | nil =>
    simp only [scan, List.length_replicate, Except.error.injEq] at h
    exact h.symm
  | cons c cs ih =>
    rw [scan_cons] at h
    split at h
    · cases h
    · exact ih h

/-- A body without a close in it ends no later than any text that a close follows. -/
theorem length_le_of_close {body more front more' : List Char} (hbody : ¬rawClose n <:+: body)
    (h : body ++ rawClose n ++ more = front ++ rawClose n ++ more') :
    body.length ≤ front.length := by
  by_contra hlt
  have hstart : front <+: body ++ rawClose n ++ more :=
    ⟨rawClose n ++ more', by rw [h, List.append_assoc]⟩
  rw [List.append_assoc] at hstart
  obtain ⟨tail, rfl⟩ : front <+: body :=
    List.prefix_of_prefix_length_le hstart (List.prefix_append body _) (by omega)
  cases tail with
  | nil => simp at hlt
  | cons c tail =>
    have htail : c :: tail ++ rawClose n ++ more = rawClose n ++ more' := by
      simpa only [List.append_assoc, List.append_cancel_left_eq] using h
    have hclose : rawClose n <+: c :: tail := rawClose_of_append ⟨more', htail.symm⟩
    exact hbody (hclose.isInfix.trans (List.suffix_append front (c :: tail)).isInfix)

end

/-- The length of the run of markers at a place, all of it. -/
def markersAt (source : List Char) (p : Nat) : Nat :=
  ((source.drop p).takeWhile (· == '#')).length

/-- From `p` to `e` there stands a raw text with `n` markers on each side, whose body holds no close
of it. -/
structure Stands (source : List Char) (p n : Nat) (body : List Char) (e : Nat) : Prop where
  start_le : p ≤ e
  le_length : e ≤ source.length
  free : ¬rawClose n <:+: body
  taken : (source.drop p).take (e - p) = List.replicate n '#' ++ '"' :: body ++ rawClose n

namespace Stands

variable {source : List Char} {p n : Nat} {body : List Char} {e : Nat}

theorem drop_eq (h : Stands source p n body e) :
    source.drop p = List.replicate n '#' ++ '"' :: (body ++ rawClose n ++ source.drop e) := by
  have hsplit := List.take_append_drop (e - p) (source.drop p)
  rw [h.taken, List.drop_drop, Nat.add_sub_cancel' h.start_le] at hsplit
  simpa using hsplit.symm

/-- A quote ends the run of markers, so no raw text has fewer of them on its sides. -/
theorem markersAt_eq (h : Stands source p n body e) : markersAt source p = n := by
  rw [markersAt, h.drop_eq, takeWhile_markers n (by simp), List.length_replicate]

theorem drop_body (h : Stands source p n body e) :
    source.drop (p + n + 1) = body ++ rawClose n ++ source.drop e := by
  have hopening : (List.replicate n '#' ++ ['"']).length = n + 1 := by simp
  rw [Nat.add_assoc, ← List.drop_drop, h.drop_eq, List.append_cons]
  exact List.drop_left' hopening

/-- As many markers are taken behind the body as in front of it, however many there are. -/
theorem stop_eq (h : Stands source p n body e) : e = p + n + 1 + body.length + 1 + n := by
  have hlength := congrArg List.length h.taken
  have hstart := h.start_le
  have hstop := h.le_length
  simp only [List.length_take, List.length_drop, List.length_append, List.length_replicate,
    List.length_cons, rawClose] at hlength
  omega

/-- No close stands further to the left. -/
theorem leftmost (h : Stands source p n body e) {front more : List Char}
    (hclose : source.drop (p + n + 1) = front ++ rawClose n ++ more) :
    body.length ≤ front.length :=
  length_le_of_close h.free (h.drop_body.symm.trans hclose)

theorem unique {body' : List Char} {e' : Nat} (h : Stands source p n body e)
    (h' : Stands source p n body' e') : body' = body ∧ e' = e := by
  have hlength : body'.length = body.length :=
    Nat.le_antisymm (h'.leftmost h.drop_body) (h.leftmost h'.drop_body)
  have hdrop := h'.drop_body.symm.trans h.drop_body
  rw [List.append_assoc, List.append_assoc] at hdrop
  refine ⟨(List.append_inj hdrop hlength).1, ?_⟩
  rw [h'.stop_eq, h.stop_eq, hlength]

end Stands

section
variable {source : List Char} {p : Nat}

/-- Every place has a run of markers ahead, and behind it what starts with no marker. -/
theorem exists_opening (hp : p ≤ source.length) :
    ∃ behind rest, source = behind ++ (List.replicate (markersAt source p) '#' ++ rest) ∧
      p = behind.length ∧ (∀ c ∈ rest.head?, c ≠ '#') ∧
      source[p + markersAt source p]? = rest.head? := by
  obtain ⟨behind, ahead, rfl, rfl⟩ := exists_behind_ahead hp
  obtain ⟨n, rest, rfl, hrest⟩ := exists_markers ahead
  have hmarkers : markersAt (behind ++ (List.replicate n '#' ++ rest)) behind.length = n := by
    rw [markersAt, List.drop_left, takeWhile_markers n hrest, List.length_replicate]
  rw [hmarkers]
  refine ⟨behind, rest, rfl, rfl, hrest, ?_⟩
  rw [← List.getElem?_drop, List.drop_left, ← List.head?_drop, List.drop_left']
  exact List.length_replicate

theorem decodeRawText_eq_done_iff (hp : p ≤ source.length) {raw : RawText} {after : Cursor} :
    decodeRawText ⟨source, p⟩ = .done raw after ↔
      ∃ (e : Nat) (body : List Char), Stands source p (markersAt source p) body e ∧
        after = ⟨source, e⟩ ∧ raw = ⟨body.filter (· != '\r'), markersAt source p⟩ := by
  rw [decodeRawText, read_reads.done_iff_taken read_within hp]
  constructor
  · rintro ⟨e, hpe, he, rfl, n, body, hbody, rfl, htaken⟩
    have hstands : Stands source p n body e := ⟨hpe, he, hbody, htaken⟩
    rw [hstands.markersAt_eq]
    exact ⟨e, body, hstands, rfl, rfl⟩
  · rintro ⟨e, body, hstands, rfl, rfl⟩
    exact ⟨e, hstands.start_le, hstands.le_length, rfl, _, body, hstands.free, rfl, hstands.taken⟩

/-- Without a quote behind the markers nothing is read. -/
theorem decodeRawText_not_quote (hp : p ≤ source.length)
    (hquote : source[p + markersAt source p]? ≠ some '"') :
    decodeRawText ⟨source, p⟩ =
      .failed (Cause.badRawDelimiter.at (p + markersAt source p : Nat)) := by
  obtain ⟨behind, rest, hsource, hplace, hrest, hnext⟩ := exists_opening hp
  have hnone (body : List Char) : rest ≠ '"' :: body := by
    rintro rfl
    exact hquote hnext
  generalize markersAt source p = n at *
  subst hsource hplace
  change (Cursor.between behind _).read read = _
  rw [Cursor.between_read, read_not_quote n hrest hnone, Cursor.between_locate_fault,
    List.length_append, List.length_replicate]

/-- With a quote there, all of the source is read before it turns out that no close follows. -/
theorem decodeRawText_open (hp : p ≤ source.length)
    (hquote : source[p + markersAt source p]? = some '"')
    (hopen : ∀ body e, ¬Stands source p (markersAt source p) body e) :
    decodeRawText ⟨source, p⟩ =
      .failed ((Cause.unterminatedRaw (markersAt source p)).at source.length) := by
  have hnever (raw : RawText) (after : Cursor) : decodeRawText ⟨source, p⟩ ≠ .done raw after := by
    rw [Ne, decodeRawText_eq_done_iff hp]
    rintro ⟨e, body, hstands, -, -⟩
    exact hopen body e hstands
  obtain ⟨behind, rest, hsource, hplace, -, hnext⟩ := exists_opening hp
  obtain ⟨chars, rfl⟩ := List.head?_eq_some_iff.mp (hnext.symm.trans hquote)
  generalize markersAt source p = n at *
  subst hsource hplace
  have hread : decodeRawText ⟨behind ++ (List.replicate n '#' ++ '"' :: chars), behind.length⟩ =
      (Cursor.between behind (List.replicate n '#' ++ '"' :: chars)).locate
        (scan (List.replicate n '#') [] chars 0) := by
    rw [← read_markers]
    exact Cursor.between_read _ _ _
  rw [hread] at hnever ⊢
  cases hscan : scan (List.replicate n '#') [] chars 0 with
  | ok result =>
    rw [hscan] at hnever
    exact absurd rfl (hnever _ _)
  | error stop =>
    rw [scan_error hscan]
    simpa using Cursor.between_locate_fault behind (List.replicate n '#' ++ '"' :: chars)
      (.unterminatedRaw n) []

end

end RawText

/-- A raw text is decoded up to an end just if from the place to that end there stands a raw text
with all the markers of the run at the place on either side, and then it is decoded as the body
without the CRs in it. No other body stands there, no close lies further to the left, and more
markers behind the close are left. If no quote follows the run, decoding fails behind the run; if
one does and no raw text stands there, it fails at the end of the source. -/
theorem decodeRawText_iff_stands (source : List Char) (p : Nat) (hp : p ≤ source.length)
    (slot : Option Failure) :
    (∀ raw after,
      ((Recording.decodeRawText ⟨source, p⟩).runFrom slot).1 = .ok (some (raw, after)) ↔
        ∃ (e : Nat) (body : List Char),
          RawText.Stands source p (RawText.markersAt source p) body e ∧
          after = ⟨source, e⟩ ∧
          raw = ⟨body.filter (· != '\r'), RawText.markersAt source p⟩) ∧
    (∀ n body e, RawText.Stands source p n body e →
      e = p + n + 1 + body.length + 1 + n ∧
      (∀ body' e', RawText.Stands source p n body' e' → body' = body ∧ e' = e) ∧
      ∀ front more, source.drop (p + n + 1) = front ++ Cause.rawClose n ++ more →
        body.length ≤ front.length) ∧
    (source[p + RawText.markersAt source p]? ≠ some '"' →
      (Recording.decodeRawText ⟨source, p⟩).runFrom slot =
        (.ok none, some ⟨.invalidRawDelimiter,
          "Invalid raw string delimiter (expected '#' or '\"')",
          (p + RawText.markersAt source p : Nat), ["#", "\""]⟩)) ∧
    (source[p + RawText.markersAt source p]? = some '"' →
      (∀ body e, ¬RawText.Stands source p (RawText.markersAt source p) body e) →
        (Recording.decodeRawText ⟨source, p⟩).runFrom slot =
          (.ok none, some ⟨.unterminatedLiteral,
            "Unterminated raw string (expected '" ++
              String.ofList (Cause.rawClose (RawText.markersAt source p)) ++ "')",
            source.length, [String.ofList (Cause.rawClose (RawText.markersAt source p))]⟩)) := by
  rw [Recording.decodeRawText, Recording.handFresh_tells]
  refine ⟨fun raw after => ?_, fun n body e h => ⟨h.stop_eq, fun _ _ => h.unique, ?_⟩, ?_, ?_⟩
  · rw [Outcome.given_eq_some_iff, RawText.decodeRawText_eq_done_iff hp]
  · exact fun front more => h.leftmost
  · intro hquote
    rw [RawText.decodeRawText_not_quote hp hquote]
    rfl
  · intro hquote hopen
    rw [RawText.decodeRawText_open hp hquote hopen]
    rfl

/-- A quote that too few markers follow is part of the body, and a marker too many is left. -/
theorem decodeRawText_iff_stands_extra :
    ((Recording.decodeRawText ⟨['r', '#', '"', '"', '\r', 'a', '"', '#', '#'], 1⟩).runFrom none).1 =
      .ok (some (⟨['"', 'a'], 1⟩, ⟨['r', '#', '"', '"', '\r', 'a', '"', '#', '#'], 8⟩)) :=
  ((decodeRawText_iff_stands ['r', '#', '"', '"', '\r', 'a', '"', '#', '#'] 1 (by decide) none).1
    _ _).mpr
      ⟨8, ['"', '\r', 'a'], ⟨by decide, by decide, by decide, by decide⟩, rfl, by decide⟩

end LiteralLexer
