import LiteralLexer.Diagnostic.Render
import LiteralLexer.Proofs.JsonReader
import LiteralLexer.Proofs.RenderedLines
import Mathlib.Data.List.Forall2

/-!
Diagnostics in the JSON layout are read back as they were. A record is read back member by member,
whatever texts it holds, and no character below U+0020 stands in it as it is. So a blank line, which
separates diagnostics, never occurs in one of them, and a text that is cut at its blank lines gives
one object for each diagnostic, with the members that the diagnostic has values for and no other.
-/
namespace LiteralLexer

/-! ### Records -/

def Field.json : Field → Json
  | .text value => .text value
  | .number value => .number value 0
  | .texts values => .array (values.map .text)

def Record.json (record : Record) : Json := .object (record.map fun m => (m.1, m.2.json))

/-- One member as it is written. -/
def Record.memberText (m : String × Field) : List Char :=
  jsonText m.1.toList ++ [':', ' '] ++ m.2.write

theorem Record.write_eq (record : Record) :
    record.write = '{' :: [',', ' '].intercalate (record.map memberText) ++ ['}'] := rfl

namespace JsonReader

theorem endsNumber_of_mark {c : Char} (hc : c = ',' ∨ c = '}') (rest : List Char) :
    EndsNumber (c :: rest) := by
  rintro d ⟨⟩
  rcases hc with rfl | rfl <;> decide

theorem value_write (depth : Nat) (field : Field) {rest : List Char} (hrest : EndsNumber rest) :
    value (depth + 2) (field.write ++ rest) = some (field.json, rest) := by
  cases field with
  | text text => exact value_jsonText (depth + 1) text rest
  | number n => exact value_decimal (depth + 1) n hrest
  | texts texts =>
    have hread := value_texts depth texts rest
    have hwrite : (Field.texts texts).write ++ rest =
        '[' :: [',', ' '].intercalate (texts.map fun text => jsonText text.toList) ++
          ']' :: rest := by
      simp [Field.write]
    rw [hwrite, hread]
    rfl

theorem member_write (depth : Nat) (m : String × Field) {rest : List Char}
    (hrest : EndsNumber rest) :
    member (value (depth + 2)) (Record.memberText m ++ rest) =
      some ((m.1, m.2.json), rest) := by
  have hwrite : Record.memberText m ++ rest =
      '"' :: (m.1.toList.flatMap jsonChar ++ '"' :: ':' :: ' ' :: (m.2.write ++ rest)) := by
    simp [Record.memberText, jsonText]
  rw [hwrite, member_quote _ (string_jsonText m.1 _), value_blank, value_write depth m.2 hrest,
    mapRead_some]

theorem value_record (depth : Nat) (record : Record) (rest : List Char) :
    value (depth + 3) (record.write ++ rest) = some (record.json, rest) := by
  have hlisted : listed '}' (member (value (depth + 2)))
      ([',', ' '].intercalate (record.map Record.memberText) ++ '}' :: rest) =
        some (record.map fun m => (m.1, m.2.json), rest) :=
    listed_joined (.inr rfl) (member_blank _) record (fun m _ => ⟨_, rfl⟩)
      (fun m _ c rest hc => member_write depth m (endsNumber_of_mark hc rest)) rest
  have hwrite : record.write ++ rest =
      '{' :: ([',', ' '].intercalate (record.map Record.memberText) ++ '}' :: rest) := by
    simp [Record.write_eq]
  rw [hwrite, value_brace, hlisted, mapRead_some]
  rfl

/-- A record is read back as it was. -/
theorem parse_write (record : Record) : parse record.write = some record.json := by
  have hlength : 2 ≤ record.write.length := by simp [Record.write_eq]
  obtain ⟨depth, hdepth⟩ : ∃ depth, record.write.length + 1 = depth + 3 :=
    ⟨record.write.length - 2, by omega⟩
  have hread := value_record depth record []
  rw [List.append_nil] at hread
  unfold parse
  rw [hdepth, hread]
  rfl

end JsonReader

/-! ### Characters below U+0020 -/

/-- No character below U+0020 stands in the text as it is. -/
def NoRawControl (text : List Char) : Prop := ∀ c ∈ text, 0x20 ≤ c.toNat

theorem noRawControl_iff {text : List Char} :
    NoRawControl text ↔ (text.all fun c => decide (0x20 ≤ c.toNat)) = true := by
  simp [NoRawControl]

theorem NoRawControl.append {xs ys : List Char} (hxs : NoRawControl xs) (hys : NoRawControl ys) :
    NoRawControl (xs ++ ys) := fun c hc => (List.mem_append.mp hc).elim (hxs c) (hys c)

theorem noRawControl_of_controls {text : List Char} (h : controls text = []) :
    NoRawControl text := by
  intro c hc
  have hclean := controls_eq_nil_iff.mp h c hc
  simp only [isControl, decide_eq_false_iff_not] at hclean
  omega

theorem NoRawControl.intercalate {sep : List Char} {lines : List (List Char)}
    (hsep : NoRawControl sep) (hlines : ∀ line ∈ lines, NoRawControl line) :
    NoRawControl (sep.intercalate lines) := by
  induction lines with
  | nil => exact fun c hc => absurd hc List.not_mem_nil
  | cons line lines ih =>
    have hline := hlines line List.mem_cons_self
    have ih := ih fun line hmem => hlines line (List.mem_cons_of_mem _ hmem)
    cases lines with
    | nil => simpa using hline
    | cons next lines =>
      rw [List.intercalate_cons_cons]
      exact (hline.append hsep).append ih

theorem noRawControl_jsonChar (c : Char) : NoRawControl (jsonChar c) := by
  rcases JsonReader.jsonChar_cases c with hletter | ⟨hcontrol, hchar⟩ | ⟨hcontrol, -, -, hchar⟩
  · simp only [JsonReader.lettered, List.mem_cons, List.not_mem_nil, or_false] at hletter
    rcases hletter with rfl | rfl | rfl | rfl | rfl | rfl | rfl <;>
      exact noRawControl_iff.mpr (by decide)
  · have hall : ∀ n < 0x20,
        (('\\' :: 'u' :: hexText 4 n).all fun c => decide (0x20 ≤ c.toNat)) = true := by decide
    rw [hchar]
    exact noRawControl_iff.mpr (hall c.toNat hcontrol)
  · rw [hchar]
    exact fun d hd => List.mem_singleton.mp hd ▸ hcontrol

theorem noRawControl_jsonText (text : List Char) : NoRawControl (jsonText text) := by
  intro c hc
  have hquote : 0x20 ≤ '"'.toNat := by decide
  rcases List.mem_append.mp hc with hc | hc
  · rcases List.mem_cons.mp hc with rfl | hc
    · exact hquote
    · obtain ⟨d, -, hmem⟩ := List.mem_flatMap.mp hc
      exact noRawControl_jsonChar d c hmem
  · rw [List.mem_singleton.mp hc]
    exact hquote

/-- What stands between two items of a list. -/
theorem noRawControl_comma : NoRawControl [',', ' '] := noRawControl_iff.mpr (by decide)

theorem NoRawControl.enclosed {text : List Char} {opening close : Char}
    (htext : NoRawControl text) (hopening : 0x20 ≤ opening.toNat) (hclose : 0x20 ≤ close.toNat) :
    NoRawControl (opening :: text ++ [close]) := by
  simpa [NoRawControl, or_imp, forall_and, hopening, hclose] using htext

theorem Field.noRawControl_write (field : Field) : NoRawControl field.write := by
  cases field with
  | text text => exact noRawControl_jsonText text.toList
  | number n => exact noRawControl_of_controls (controls_decimal n)
  | texts texts =>
    refine NoRawControl.enclosed (noRawControl_comma.intercalate fun line hline => ?_)
      (by decide) (by decide)
    obtain ⟨text, -, rfl⟩ := List.mem_map.mp hline
    exact noRawControl_jsonText text.toList

theorem Record.noRawControl_write (record : Record) : NoRawControl record.write := by
  refine NoRawControl.enclosed (noRawControl_comma.intercalate fun line hline => ?_)
    (by decide) (by decide)
  obtain ⟨m, -, rfl⟩ := List.mem_map.mp hline
  have hcolon : NoRawControl [':', ' '] := noRawControl_iff.mpr (by decide)
  exact ((noRawControl_jsonText m.1.toList).append hcolon).append m.2.noRawControl_write

/-! ### Blank lines -/

/-- The parts of a text between its blank lines. The text is cut at two line feeds, from the left.
-/
def splitBlankLines : List Char → List (List Char)
  | [] => [[]]
  | '\n' :: '\n' :: rest => [] :: splitBlankLines rest
  | c :: rest => (splitBlankLines rest).modifyHead (c :: ·)

theorem splitBlankLines_cons {c : Char} (hc : c ≠ '\n') (rest : List Char) :
    splitBlankLines (c :: rest) = (splitBlankLines rest).modifyHead (c :: ·) := by
  rw [splitBlankLines]
  rintro rest rfl
  exact absurd rfl hc

theorem splitBlankLines_append {piece : List Char} (hpiece : '\n' ∉ piece) (rest : List Char) :
    splitBlankLines (piece ++ '\n' :: '\n' :: rest) = piece :: splitBlankLines rest := by
  induction piece with
  | nil => rfl
  | cons c piece ih =>
    have hc : c ≠ '\n' := fun heq => hpiece (heq ▸ List.mem_cons_self)
    rw [List.cons_append, splitBlankLines_cons hc,
      ih fun hmem => hpiece (List.mem_cons_of_mem _ hmem)]
    rfl

theorem splitBlankLines_of_notMem {piece : List Char} (hpiece : '\n' ∉ piece) :
    splitBlankLines piece = [piece] := by
  induction piece with
  | nil => rfl
  | cons c piece ih =>
    have hc : c ≠ '\n' := fun heq => hpiece (heq ▸ List.mem_cons_self)
    rw [splitBlankLines_cons hc, ih fun hmem => hpiece (List.mem_cons_of_mem _ hmem)]
    rfl

/-- Pieces without line feeds that are joined by blank lines are got back. -/
theorem splitBlankLines_joined {pieces : List (List Char)} (hne : pieces ≠ [])
    (hpieces : ∀ piece ∈ pieces, '\n' ∉ piece) :
    splitBlankLines (['\n', '\n'].intercalate pieces) = pieces := by
  induction pieces with
  | nil => exact absurd rfl hne
  | cons piece pieces ih =>
    have hpiece := hpieces piece List.mem_cons_self
    cases pieces with
    | nil =>
      rw [List.intercalate_singleton]
      exact splitBlankLines_of_notMem hpiece
    | cons next pieces =>
      have hrest := ih (List.cons_ne_nil _ _)
        fun piece hmem => hpieces piece (List.mem_cons_of_mem _ hmem)
      rw [List.intercalate_cons_cons, List.append_assoc]
      exact (splitBlankLines_append hpiece _).trans (congrArg _ hrest)

/-! ### Diagnostics -/

/-- The value that a diagnostic has for a member of its JSON object, if it has one. -/
def Diagnostic.member? (d : Diagnostic) : String → Option Json
  | "code" => some (.text d.code.name)
  | "code_value" => some (.number d.code.number 0)
  | "message" => some (.text d.message)
  | "severity" => some (.text d.severity)
  | "line" => d.span.map fun span => .number span.line 0
  | "column" => d.span.map fun span => .number span.column 0
  | "start" => d.span.map fun span => .number span.start 0
  | "end" => d.span.map fun span => .number span.stop 0
  | "expected" => if d.expected = [] then none else some (.array (d.expected.map .text))
  | "hint" => (d.hint.filter (· ≠ "")).map .text
  | _ => none

def memberNames : List String :=
  ["code", "code_value", "message", "severity", "line", "column", "start", "end", "expected",
    "hint"]

theorem Diagnostic.member?_eq_none (d : Diagnostic) {name : String} (hname : name ∉ memberNames) :
    d.member? name = none := by
  unfold member?
  split
  case h_11 => rfl
  all_goals exact absurd (by decide) hname

/-- Those of the names for which there is a value, each with its value. -/
def valued (value? : String → Option Json) (names : List String) : List (String × Json) :=
  names.filterMap fun name => (value? name).map (name, ·)

theorem valued_sublist (value? : String → Option Json) (names : List String) :
    ((valued value? names).map Prod.fst).Sublist names := by
  induction names with
  | nil => exact List.Sublist.refl []
  | cons name names ih =>
    cases hvalue : value? name with
    | none => simpa [valued, hvalue] using ih.cons name
    | some value => simpa [valued, hvalue] using ih

theorem lookup_valued (value? : String → Option Json) (names : List String) (name : String) :
    (valued value? names).lookup name = if name ∈ names then value? name else none := by
  induction names with
  | nil => rfl
  | cons first names ih =>
    unfold valued at ih ⊢
    by_cases hname : name = first
    · subst hname
      cases hvalue : value? name with
      | none => simp [hvalue, ih]
      | some value => simp [hvalue]
    · have hbeq : (name == first) = false := by simpa using hname
      cases hvalue : value? first with
      | none => simp [hvalue, ih, hname]
      | some value => simp [hvalue, ih, hname, List.lookup_cons, hbeq]

/-- The text is the JSON object with the members of the diagnostic, each once, and with no character
below U+0020 in it. -/
structure Describes (text : List Char) (d : Diagnostic) : Prop where
  raw : NoRawControl text
  object : ∃ members, JsonReader.parse text = some (.object members) ∧
    (members.map Prod.fst).Nodup ∧ ∀ name, members.lookup name = d.member? name

namespace Renderer

/-- The record of a diagnostic stands for the members that the diagnostic has values for. -/
theorem json_record (r : Renderer) (d : Diagnostic) (hclips : r.clips = false) :
    (r.record d).json = .object (valued d.member? memberNames) := by
  have hclip : ∀ text, String.ofList (r.clip text) = text := by
    simp [clip, hclips]
  unfold Record.json record valued Diagnostic.member?
  cases d.span <;> cases d.hint.filter (· ≠ "") <;> by_cases hexpected : d.expected = [] <;>
    simp [memberNames, Field.json, hclip, hexpected]

theorem write_describes (r : Renderer) (d : Diagnostic) (hlayout : r.layout = .json)
    (hclips : r.clips = false) : Describes (r.write d) d := by
  have hwrite : r.write d = (r.record d).write := by
    simp only [write, hlayout]
  have hparse : JsonReader.parse (r.write d) = some (.object (valued d.member? memberNames)) := by
    rw [hwrite, JsonReader.parse_write, r.json_record d hclips]
  have hnodup : ((valued d.member? memberNames).map Prod.fst).Nodup :=
    (valued_sublist d.member? memberNames).nodup (by decide)
  refine ⟨hwrite ▸ (r.record d).noRawControl_write, _, hparse, hnodup, fun name => ?_⟩
  rw [lookup_valued]
  split
  · rfl
  · exact (d.member?_eq_none ‹_›).symm

/-- Cut at its blank lines, the text for several diagnostics is one object for each, in order. -/
theorem renderAll_describes (r : Renderer) (ds : List Diagnostic) (hlayout : r.layout = .json)
    (hclips : r.clips = false) (hne : ds ≠ []) :
    List.Forall₂ Describes (splitBlankLines (r.renderAll ds).toList) ds := by
  -- A line feed in a text is escaped, so the line feeds in the output are those between objects.
  have hpieces : ∀ piece ∈ ds.map r.write, '\n' ∉ piece := by
    intro piece hpiece hmem
    obtain ⟨d, -, rfl⟩ := List.mem_map.mp hpiece
    exact absurd ((r.write_describes d hlayout hclips).raw _ hmem) (by decide)
  have hsplit : splitBlankLines (r.renderAll ds).toList = ds.map r.write := by
    rw [renderAll, String.toList_ofList]
    exact splitBlankLines_joined (by simpa using hne) hpieces
  rw [hsplit, List.forall₂_map_left_iff]
  exact List.forall₂_same.mpr fun d _ => r.write_describes d hlayout hclips

/-- Two diagnostics, with a blank line, quotes and backslashes in their texts. -/
theorem renderAll_describes_two :
    List.Forall₂ Describes
      (splitBlankLines (Renderer.renderAll ⟨.json, false, false, 100⟩
        [⟨.invalidEscape, "a\n\nb", some ⟨⟨1, 2, by decide⟩, 1, 1, by decide, by decide⟩,
            some "\"\\n\"", ["'", "\\"], "error"⟩,
          ⟨.noTrivia, "", none, some "", [], "warning"⟩]).toList)
      [⟨.invalidEscape, "a\n\nb", some ⟨⟨1, 2, by decide⟩, 1, 1, by decide, by decide⟩,
          some "\"\\n\"", ["'", "\\"], "error"⟩,
        ⟨.noTrivia, "", none, some "", [], "warning"⟩] :=
  renderAll_describes _ _ rfl rfl (List.cons_ne_nil _ _)

end Renderer
end LiteralLexer
