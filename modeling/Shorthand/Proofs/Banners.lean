import Shorthand.Proofs.Body
import Shorthand.Proofs.ReadBack
import Shorthand.Proofs.Schema

/-! The artifacts of a bundle under their banners, and the text cut at the banners again. A banner
begins with a slash. No line of an artifact does: code has lines that begin with a letter, a blank or a
brace, and after the first line of a written value all lines begin with a blank or a bracket. -/
namespace Shorthand
open Text

namespace Text
variable {s t : Text} {c : Char}

/-- No line begins with a slash. -/
def Slashless (t : Text) : Prop := ∀ line ∈ lines t, line.head? ≠ some '/'

/-- Every line after the first begins with a character, and that is no slash. -/
def Inset (t : Text) : Prop := ∀ line ∈ (lines t).tail, ∃ c ∈ line.head?, c ≠ '/'

lemma inset_of_not_mem (h : '\n' ∉ s) : Inset s := by
  rw [Inset, lines_of_not_mem h]
  exact nofun

lemma inset_newline (hs : '\n' ∉ s) (hc : c ∈ s.head?) (hslash : c ≠ '/') : Inset ('\n' :: s) := by
  rw [Inset, ← List.nil_append ('\n' :: s), lines_append_newline, lines_of_not_mem hs]
  exact List.forall_mem_singleton.mpr ⟨c, hc, hslash⟩

/-- A line that goes on in the second text has begun in the first one. -/
lemma Inset.append (hs : Inset s) (ht : Inset t) : Inset (s ++ t) := by
  obtain ⟨front, last, first, back, hlines, hlines', hboth⟩ := lines_append_text s t
  rw [Inset, hlines] at hs
  rw [Inset, hlines'] at ht
  rw [Inset, hboth]
  cases front with
  | nil => exact ht
  | cons f front =>
    -- The line across both is not the first, so it has begun in `s` with a character.
    rw [List.cons_append, List.tail_cons, List.forall_mem_append, List.forall_mem_singleton] at hs
    rw [List.cons_append, List.tail_cons, List.forall_mem_append, List.forall_mem_cons]
    obtain ⟨c, hc, hslash⟩ := hs.2
    exact ⟨hs.1, ⟨c, List.mem_head?_append_of_mem_head? hc, hslash⟩, ht⟩

lemma Inset.slashless (h : Inset (c :: s)) (hslash : c ≠ '/') (hline : c ≠ '\n') :
    Slashless (c :: s) := by
  obtain ⟨first, back, -, hlines⟩ := lines_append (s := [c]) (by simpa using hline.symm) s
  rw [List.singleton_append] at hlines
  rw [Inset, hlines] at h
  rw [Slashless, hlines, List.forall_mem_cons]
  refine ⟨by simpa using hslash, fun line hmem hhead => ?_⟩
  obtain ⟨d, hd, hne⟩ := h line hmem
  exact hne (Option.mem_unique hd hhead)

end Text

namespace Json
variable {v : Json} {ok : Text → Prop}

/-- Line feeds are escaped. -/
lemma newline_not_mem_quote (s : Text) : '\n' ∉ quote s := by
  have hhex : ∀ n < 0x20, '\n' ∉ "\\u".toList ++ hex 4 n := by decide
  have hchar : ∀ c, '\n' ∉ encodeChar c := by
    intro c
    unfold encodeChar
    split_ifs with h1 h2 h3 h4 h5 h6 h7 h8
    · decide
    · decide
    · decide
    · decide
    · decide
    · decide
    · decide
    · exact hhex _ h8
    · rw [List.mem_singleton]
      rintro rfl
      exact h3 rfl
  simp [quote, hchar]

lemma newline_not_mem_ofInt (n : Int) : '\n' ∉ ofInt n := by
  have hdigits (n : Nat) : '\n' ∉ ofNat n := fun hmem => absurd (run_ofNat n _ hmem) (by decide)
  cases n with
  | ofNat n => exact hdigits n
  | negSucc n => exact List.not_mem_cons_of_ne_of_not_mem (by decide) (hdigits (n + 1))

lemma inset_item (depth : Nat) : Inset (Style.indented.item depth) := by
  refine inset_newline (c := ' ') ?_ ?_ (by decide)
  · simp [List.mem_replicate]
  · simp [List.replicate_succ, Nat.mul_add]

lemma inset_close (depth : Nat) {c : Char} (hline : c ≠ '\n') (hslash : c ≠ '/') :
    Inset (Style.indented.close depth ++ [c]) := by
  have hfeed (n : Nat) : '\n' ∉ List.replicate n ' ' ++ [c] := by
    simp [List.mem_replicate, hline.symm]
  change Inset ('\n' :: (List.replicate (2 * depth) ' ' ++ [c]))
  cases 2 * depth with
  | zero => exact inset_newline (hfeed 0) rfl hslash
  | succ n => exact inset_newline (hfeed (n + 1)) rfl (show ' ' ≠ '/' by decide)

lemma inset_printElements (depth : Nat) {vs : List Json}
    (h : ∀ v ∈ vs, Inset (printAt .indented (depth + 1) v)) :
    Inset (printElements .indented depth vs) := by
  induction vs with
  | nil => exact inset_of_not_mem List.not_mem_nil
  | cons v vs ih =>
    rw [List.forall_mem_cons] at h
    have hcomma : Inset [','] := inset_of_not_mem (by decide)
    exact ((hcomma.append (inset_item depth)).append h.1).append (ih h.2)

lemma inset_printMembers (depth : Nat) {ms : List (Text × Json)}
    (h : ∀ m ∈ ms, Inset (printAt .indented (depth + 1) m.2)) :
    Inset (printMembers .indented depth ms) := by
  induction ms with
  | nil => exact inset_of_not_mem List.not_mem_nil
  | cons m ms ih =>
    rw [List.forall_mem_cons] at h
    have hcomma : Inset [','] := inset_of_not_mem (by decide)
    have hname : Inset (quote m.1) := inset_of_not_mem (newline_not_mem_quote m.1)
    have hcolon : Inset Style.indented.colon := inset_of_not_mem (by decide)
    exact ((((hcomma.append (inset_item depth)).append hname).append hcolon).append h.1).append
      (ih h.2)

/-- After the first line of a written value, every line begins with a blank or a bracket. -/
theorem inset_printAt (hv : Regular ok v) (depth : Nat) : Inset (printAt .indented depth v) := by
  induction hv generalizing depth with
  | null => exact inset_of_not_mem (s := "null".toList) (by decide)
  | bool b =>
    cases b with
    | true => exact inset_of_not_mem (s := "true".toList) (by decide)
    | false => exact inset_of_not_mem (s := "false".toList) (by decide)
  | int _ => exact inset_of_not_mem (newline_not_mem_ofInt _)
  | str _ => exact inset_of_not_mem (newline_not_mem_quote _)
  | @arr vs _ ih =>
    cases vs with
    | nil => exact inset_of_not_mem (s := ['[', ']']) (by decide)
    | cons v vs =>
      have hopen : Inset ['['] := inset_of_not_mem (by decide)
      have hmore := inset_printElements depth fun u hu => ih u (List.mem_cons_of_mem v hu) (depth + 1)
      rw [printAt, List.append_assoc]
      exact (((hopen.append (inset_item depth)).append (ih v List.mem_cons_self (depth + 1))).append
        hmore).append (inset_close depth (by decide) (by decide))
  | @obj ms _ _ _ ih =>
    cases ms with
    | nil => exact inset_of_not_mem (s := ['{', '}']) (by decide)
    | cons m ms =>
      have hopen : Inset ['{'] := inset_of_not_mem (by decide)
      have hname : Inset (quote m.1) := inset_of_not_mem (newline_not_mem_quote m.1)
      have hcolon : Inset Style.indented.colon := inset_of_not_mem (by decide)
      have hmore := inset_printMembers depth fun u hu => ih u (List.mem_cons_of_mem m hu) (depth + 1)
      rw [printAt, List.append_assoc]
      exact (((((hopen.append (inset_item depth)).append hname).append hcolon).append
        (ih m List.mem_cons_self (depth + 1))).append hmore).append
        (inset_close depth (by decide) (by decide))

lemma IsExact.slashless_pretty (h : v.IsExact) : Slashless v.pretty := by
  have hspells : Spells (fun _ => replacement) v.pretty (.value v) :=
    spells_printAt indented_isBlank h 0
  have hinset : Inset v.pretty := inset_printAt h 0
  obtain ⟨c, s, hcs, hc⟩ := hspells.starts
  rw [hcs] at hinset ⊢
  refine hinset.slashless ?_ ?_ <;>
    · rintro rfl
      cases hc

/-- A value can be told from its text. -/
lemma IsExact.pretty_inj {w : Json} (hv : v.IsExact) (hw : w.IsExact) (h : v.pretty = w.pretty) :
    v = w := by
  have hread := hv.readsBack.text fun _ => replacement
  rw [h, hw.readsBack.text] at hread
  exact (Except.ok.inj hread).symm

end Json

namespace Artifact
variable {text : Text}

/-- Code in whole lines: none begins with a slash, and the last one ends in something visible. -/
def IsCode (text : Text) : Prop :=
  ∃ ls, text = unlines ls ∧ (∃ last ∈ ls.getLast?, Solid last) ∧
    ∀ line ∈ ls, '\n' ∉ line ∧ line.head? ≠ some '/'

lemma IsCode.slashless (h : IsCode text) : Slashless text := by
  obtain ⟨ls, rfl, -, hlines⟩ := h
  rw [Slashless, lines_unlines fun line hline => (hlines line hline).1, List.forall_mem_append]
  exact ⟨fun line hline => (hlines line hline).2, List.forall_mem_singleton.mpr nofun⟩

/-- Only the final line feed is trimmed. -/
lemma IsCode.trimRight_append (h : IsCode text) : trimRight text ++ ['\n'] = text := by
  obtain ⟨ls, rfl, ⟨last, hlast, hsolid⟩, -⟩ := h
  obtain ⟨front, rfl⟩ := List.getLast?_eq_some_iff.mp hlast
  have htrim : trimRight (last ++ ['\n']) = last := by
    have hfeed : isBlank '\n' = true := rfl
    rw [trimRight, List.reverse_append, List.reverse_singleton, List.singleton_append,
      List.dropWhile_cons_of_pos hfeed]
    exact hsolid.trimRight
  have hne : trimRight (last ++ ['\n']) ≠ [] := by
    rw [htrim]
    exact hsolid.ne_nil
  rw [unlines_append, unlines_cons, unlines_nil, Text.trimRight_append hne, htrim, List.append_assoc]

end Artifact

namespace Record
variable {r : Record}

/-- The lines of the interface. -/
def interfaceLines (r : Record) : List Text :=
  ("export interface ".toList ++ r.name ++ " \x7b".toList) ::
    r.fields.map (fun f => "  ".toList ++ f.declaration) ++ ["\x7d".toList]

/-- Tidying the interface of a printable record changes nothing. -/
theorem interface_eq_unlines (h : r.Printable) :
    Artifact.interface r.name r.fields = unlines r.interfaceLines := by
  have hopen : " \x7b\n".toList = " \x7b".toList ++ ['\n'] := rfl
  have hclose : "\x7d\n".toList = "\x7d".toList ++ ['\n'] := rfl
  have hbody : Artifact.body r.fields =
      unlines (r.fields.map fun f => "  ".toList ++ f.declaration) := by
    rw [Artifact.body, unlines, List.flatMap_map]
    refine List.flatMap_congr fun f hf => ?_
    have hline : '\n' ∉ "  ".toList ++ f.declaration := by simp [newline_not_mem_declaration h hf]
    rw [Field.code, Artifact.tidy_line hline (f.declaration_solid.append_left _)]
  rw [Artifact.interface_eq_body (Identifier.newline_not_mem h.name.nameChars), interfaceLines, hbody]
  simp only [hopen, hclose, unlines_append, unlines_cons, unlines_nil, List.append_assoc,
    List.cons_append, List.nil_append]

lemma isCode_typeAlias (h : r.Printable) : Artifact.IsCode (Artifact.typeAlias r.name r.fields) := by
  refine ⟨_, typeAlias_eq_unlines h, ⟨"\x7d;".toList, ?_, ⟨';', rfl, rfl⟩⟩, fun line hline => ?_⟩
  · rw [aliasLines, List.getLast?_append]
    rfl
  refine ⟨newline_not_mem_aliasLines h line hline, ?_⟩
  rcases mem_aliasLines hline with rfl | ⟨f, -, rfl⟩ | rfl <;> rintro ⟨⟩

lemma isCode_interface (h : r.Printable) : Artifact.IsCode (Artifact.interface r.name r.fields) := by
  refine ⟨_, interface_eq_unlines h, ⟨"\x7d".toList, ?_, ⟨'\x7d', rfl, rfl⟩⟩,
    fun line hline => ?_⟩
  · rw [interfaceLines, List.getLast?_append]
    rfl
  simp only [interfaceLines, List.cons_append, List.mem_cons, List.mem_append, List.mem_map,
    List.not_mem_nil, or_false] at hline
  rcases hline with rfl | ⟨f, hf, rfl⟩ | rfl
  · exact ⟨by simp [Identifier.newline_not_mem h.name.nameChars], by rintro ⟨⟩⟩
  · exact ⟨by simp [newline_not_mem_declaration h hf], by rintro ⟨⟩⟩
  · exact ⟨by decide, by rintro ⟨⟩⟩

lemma isCode_schema (h : r.Printable) (strict : Bool) :
    Artifact.IsCode (Artifact.schema r.name r.fields strict) := by
  have hname := Identifier.newline_not_mem h.name.nameChars
  have hfields : ∀ f ∈ r.fields, '\n' ∉ f.name := fun f hf =>
    Identifier.newline_not_mem (h.fields f hf).1.nameChars
  have hexpr : ∀ type, '\n' ∉ validatorText type := fun type =>
    (FieldType.isValidator_print (FieldType.zod type)).newline_not_mem
  have hlast : (schemaLines validatorText strict r).getLast? =
      some ("export type ".toList ++ r.name ++ " = z.infer<typeof ".toList ++ r.name ++
        "Schema>;".toList) := by
    rw [schemaLines, List.getLast?_append]
    rfl
  have hsolid : Artifact.Solid "Schema>;".toList := ⟨';', rfl, rfl⟩
  refine ⟨_, schema_eq_unlines hname hfields strict, ⟨_, hlast, hsolid.append_left _⟩,
    fun line hline => ?_⟩
  refine ⟨newline_not_mem_schemaLines hname hfields hexpr line hline, ?_⟩
  simp only [schemaLines, List.cons_append, List.nil_append, List.mem_cons, List.mem_append,
    List.mem_map, List.not_mem_nil, or_false] at hline
  rcases hline with rfl | rfl | rfl | ⟨f, hf, rfl⟩ | rfl | rfl | rfl
  · rintro ⟨⟩
  · rintro ⟨⟩
  · rintro ⟨⟩
  · rintro ⟨⟩
  · cases strict <;> rintro ⟨⟩
  · rintro ⟨⟩
  · rintro ⟨⟩

end Record

namespace Bundle
open Dialect (styleOf)

/-- What stands above an artifact. -/
inductive Banner where
  | type
  | interface
  | zod
  | sample
  deriving DecidableEq, Repr

namespace Banner

def list : List Banner := [.type, .interface, .zod, .sample]

def text : Banner → Text
  | .type => "// --- TYPE ---".toList
  | .interface => "// --- INTERFACE ---".toList
  | .zod => "// --- ZOD ---".toList
  | .sample => "// --- EXAMPLE (required fields only) ---".toList

def ofLine? (line : Text) : Option Banner := list.find? (·.text == line)

lemma ofLine?_text (banner : Banner) : ofLine? banner.text = some banner := by
  cases banner <;> decide

lemma newline_not_mem_text (banner : Banner) : '\n' ∉ banner.text := by
  cases banner <;> decide

lemma ofLine?_eq_none {line : Text} (h : line.head? ≠ some '/') : ofLine? line = none := by
  rw [ofLine?, List.find?_eq_none]
  intro banner _ heq
  rw [← beq_iff_eq.mp heq] at h
  cases banner <;> exact h rfl

end Banner

variable {options : Options} {clock : Clock} {raw : Text} {b b' : Bundle} {s : Banner × Text}

/-- The text of the artifact for a banner. -/
def shown (b : Bundle) : Banner → Option Text
  | .type => some b.typeText
  | .interface => b.interfaceText
  | .zod => b.zodText
  | .sample => b.sample.map fun members => (Json.obj members).pretty

/-- The artifacts that are there, each with its banner. -/
def sections (b : Bundle) : List (Banner × Text) :=
  Banner.list.filterMap fun banner => (b.shown banner).map (banner, ·)

/-- Each banner among the lines, with the lines down to the next one. -/
def underBanners : List Text → List (Banner × List Text)
  | [] => []
  | line :: ls =>
    match Banner.ofLine? line with
    | some banner => (banner, ls.takeWhile fun l => (Banner.ofLine? l).isNone) :: underBanners ls
    | none => underBanners ls

/-- Cut a text at its banners. -/
def cutSections (text : Text) : List (Banner × Text) :=
  (underBanners (lines text)).map fun s => (s.1, join ['\n'] s.2)

lemma underBanners_append {ls : List Text} (h : ∀ line ∈ ls, Banner.ofLine? line = none)
    (rest : List Text) : underBanners (ls ++ rest) = underBanners rest := by
  induction ls with
  | nil => rfl
  | cons line ls ih =>
    rw [List.forall_mem_cons] at h
    rw [List.cons_append, underBanners, h.1]
    exact ih h.2

/-- Lines that are no banners are found under the banner above them. -/
lemma underBanners_flatMap {ss : List (Banner × List Text)}
    (h : ∀ s ∈ ss, ∀ line ∈ s.2, Banner.ofLine? line = none) :
    underBanners (ss.flatMap fun s => s.1.text :: s.2) = ss := by
  induction ss with
  | nil => rfl
  | cons s ss ih =>
    rw [List.forall_mem_cons] at h
    -- The next section begins with its banner, so that the lines of this one end there.
    have hstop : (ss.flatMap fun s => s.1.text :: s.2).takeWhile
        (fun l => (Banner.ofLine? l).isNone) = [] := by
      cases ss with
      | nil => rfl
      | cons s' ss => simp [Banner.ofLine?_text]
    have hlines : ∀ line ∈ s.2, (Banner.ofLine? line).isNone = true := by
      intro line hline
      rw [h.1 line hline]
      rfl
    rw [List.flatMap_cons, List.cons_append, underBanners, Banner.ofLine?_text,
      List.takeWhile_append_of_pos hlines, hstop, List.append_nil, underBanners_append h.1, ih h.2]

/-- Texts under their banners are cut apart again, if no line of theirs begins like a banner. -/
theorem cutSections_join {ss : List (Banner × Text)} (hne : ss ≠ [])
    (h : ∀ s ∈ ss, Slashless s.2) :
    cutSections (join ['\n'] (ss.map fun s => s.1.text ++ '\n' :: s.2)) = ss := by
  have hlines : lines (join ['\n'] (ss.map fun s => s.1.text ++ '\n' :: s.2)) =
      (ss.map fun s => (s.1, lines s.2)).flatMap fun s => s.1.text :: s.2 := by
    rw [lines_join (by simpa using hne), List.flatMap_map, List.flatMap_map]
    refine List.flatMap_congr fun s _ => ?_
    rw [lines_append_newline, lines_of_not_mem s.1.newline_not_mem_text, List.singleton_append]
  have hcut : underBanners ((ss.map fun s => (s.1, lines s.2)).flatMap fun s => s.1.text :: s.2) =
      ss.map fun s => (s.1, lines s.2) := by
    refine underBanners_flatMap fun s hs line hline => ?_
    obtain ⟨s', hs', rfl⟩ := List.mem_map.mp hs
    exact Banner.ofLine?_eq_none (h s' hs' line hline)
  rw [cutSections, hlines, hcut, List.map_map]
  simp only [Function.comp_def, join_lines, Prod.mk.eta, List.map_id']

lemma mem_sections : s ∈ b.sections ↔ b.shown s.1 = some s.2 := by
  obtain ⟨banner, text⟩ := s
  simp only [sections, List.mem_filterMap, Option.map_eq_some_iff, Prod.mk.injEq]
  constructor
  · rintro ⟨_, -, _, hshown, rfl, rfl⟩
    exact hshown
  · intro hshown
    exact ⟨banner, by cases banner <;> decide, text, hshown, rfl, rfl⟩

/-- The sections tell what is there and what is not. -/
lemma shown_eq_of_sections (h : b.sections = b'.sections) : b.shown = b'.shown := by
  funext banner
  refine Option.ext fun text => ?_
  have hiff := mem_sections (b := b) (s := (banner, text))
  rw [h, mem_sections] at hiff
  exact hiff.symm

/-- The pieces that a section is put together from. -/
def pieces : Banner × Text → List Text
  | (.sample, text) => [Banner.sample.text, text]
  | (banner, text) => underBanner banner.text text

lemma renderAll_eq_pieces (b : Bundle) :
    b.renderAll = join ['\n'] (b.sections.flatMap pieces) := by
  obtain ⟨record, typeText, interfaceText, zodText, sample⟩ := b
  cases interfaceText <;> cases zodText <;> cases sample <;> rfl

lemma pieces_ne_nil (s : Banner × Text) : pieces s ≠ [] := by
  obtain ⟨banner, text⟩ := s
  cases banner <;> exact List.cons_ne_nil _ _

lemma join_flatMap_pieces (ss : List (Banner × Text)) :
    join ['\n'] (ss.flatMap pieces) = join ['\n'] (ss.map fun s => join ['\n'] (pieces s)) := by
  induction ss with
  | nil => rfl
  | cons s ss ih =>
    cases ss with
    | nil => simp [join_cons]
    | cons s' ss =>
      have hne : (s' :: ss).flatMap pieces ≠ [] := by simp [pieces_ne_nil]
      rw [List.flatMap_cons, join_append (pieces_ne_nil s) hne, ih]
      simp [join_cons]

/-- An artifact stands under its banner as it is, since its empty line puts the final line feed back. -/
lemma join_pieces (h : s.1 = .sample ∨ Artifact.IsCode s.2) :
    join ['\n'] (pieces s) = s.1.text ++ '\n' :: s.2 := by
  obtain ⟨banner, text⟩ := s
  have hcode (hcode : Artifact.IsCode text) :
      join ['\n'] (underBanner banner.text text) = banner.text ++ '\n' :: text := by
    conv_rhs => rw [← hcode.trimRight_append]
    simp [underBanner, join_cons]
  cases banner with
  | sample => simp [pieces, join_cons]
  | type => exact hcode (h.resolve_left nofun)
  | interface => exact hcode (h.resolve_left nofun)
  | zod => exact hcode (h.resolve_left nofun)

lemma isExact_sample (h : build options clock raw = .ok b) :
    ∀ members ∈ b.sample, (Json.obj members).IsExact := by
  obtain ⟨r, members, -, hsample, rfl⟩ := exists_of_build h
  rintro members rfl
  obtain ⟨now, hnow⟩ := sampleFor_ok hsample
  have hregular : Json.Regular (Free fun _ => false) (.obj members) :=
    Artifact.sample_regular (fun _ _ => rfl) (fun _ _ _ _ => rfl) hnow
  exact hregular.isExact

/-- Under a banner stands code, or the example as it is written. -/
lemma shown_cases (h : build options clock raw = .ok b)
    (hline : styleOf (trim raw) = .slashed → '\n' ∉ raw) {banner : Banner} {text : Text}
    (hshown : b.shown banner = some text) :
    (banner = .sample ∧ ∃ v : Json, v.IsExact ∧ text = v.pretty) ∨ Artifact.IsCode text := by
  have hexact := isExact_sample h
  obtain ⟨r, members, hread, -, rfl⟩ := exists_of_build h
  have hprintable := Record.printable_of_read hread hline
  cases banner with
  | type =>
    obtain rfl := Option.some.inj hshown
    exact .inr (Record.isCode_typeAlias hprintable)
  | interface =>
    obtain ⟨-, htext⟩ := Option.ite_none_right_eq_some.mp hshown
    obtain rfl := Option.some.inj htext
    exact .inr (Record.isCode_interface hprintable)
  | zod =>
    obtain ⟨-, htext⟩ := Option.ite_none_right_eq_some.mp hshown
    obtain rfl := Option.some.inj htext
    exact .inr (Record.isCode_schema hprintable options.strictZod)
  | sample =>
    obtain ⟨ms, hms, htext⟩ := Option.map_eq_some_iff.mp hshown
    exact .inl ⟨rfl, .obj ms, hexact ms hms, htext.symm⟩

lemma renderAll_eq_join (h : build options clock raw = .ok b)
    (hline : styleOf (trim raw) = .slashed → '\n' ∉ raw) :
    b.renderAll = join ['\n'] (b.sections.map fun s => s.1.text ++ '\n' :: s.2) := by
  rw [renderAll_eq_pieces, join_flatMap_pieces]
  refine congrArg _ (List.map_congr_left fun s hs => join_pieces ?_)
  exact (shown_cases h hline (mem_sections.mp hs)).imp_left And.left

lemma cutSections_renderAll (h : build options clock raw = .ok b)
    (hline : styleOf (trim raw) = .slashed → '\n' ∉ raw) :
    cutSections b.renderAll = b.sections := by
  have hne : b.sections ≠ [] := List.ne_nil_of_mem (mem_sections (s := (.type, b.typeText)).mpr rfl)
  rw [renderAll_eq_join h hline]
  refine cutSections_join hne fun s hs => ?_
  rcases shown_cases h hline (mem_sections.mp hs) with ⟨-, v, hv, htext⟩ | hcode
  · rw [htext]
    exact hv.slashless_pretty
  · exact hcode.slashless

/-- An example can be told from its text. -/
lemma sample_eq_of_shown (h : build options clock raw = .ok b) {options' : Options} {clock' : Clock}
    {raw' : Text} (h' : build options' clock' raw' = .ok b')
    (hshown : b.shown .sample = b'.shown .sample) : b.sample = b'.sample := by
  have hexact := isExact_sample h
  have hexact' := isExact_sample h'
  unfold shown at hshown
  cases hs : b.sample with
  | none =>
    rw [hs, Option.map_none, eq_comm, Option.map_eq_none_iff] at hshown
    exact hshown.symm
  | some members =>
    rw [hs, Option.map_some, eq_comm, Option.map_eq_some_iff] at hshown
    obtain ⟨members', hs', htext⟩ := hshown
    have hobj := (hexact' members' hs').pretty_inj (hexact members hs) htext
    rw [hs', Json.obj.inj hobj]

/-- The text of all artifacts is each of them, unchanged, under its banner; cutting it at the banners
gives them back; and so two spaced texts, whatever the options and the clock, that give the same text
of all artifacts have the same artifacts. -/
theorem renderAll_splits_into_artifacts (hstyle : styleOf (trim raw) = .spaced)
    (h : build options clock raw = .ok b) :
    b.renderAll = join ['\n'] (b.sections.map fun s => s.1.text ++ '\n' :: s.2) ∧
      cutSections b.renderAll = b.sections ∧
      ∀ (options' : Options) (clock' : Clock) (raw' : Text) (b' : Bundle),
        styleOf (trim raw') = .spaced → build options' clock' raw' = .ok b' →
        b.renderAll = b'.renderAll →
        b.typeText = b'.typeText ∧ b.interfaceText = b'.interfaceText ∧ b.zodText = b'.zodText ∧
          b.sample = b'.sample := by
  have hline : styleOf (trim raw) = .slashed → '\n' ∉ raw := by
    rw [hstyle]
    exact nofun
  refine ⟨renderAll_eq_join h hline, cutSections_renderAll h hline, ?_⟩
  intro options' clock' raw' b' hstyle' h' hsame
  have hline' : styleOf (trim raw') = .slashed → '\n' ∉ raw' := by
    rw [hstyle']
    exact nofun
  have hsections : b.sections = b'.sections := by
    rw [← cutSections_renderAll h hline, hsame, cutSections_renderAll h' hline']
  have hshown := congrFun (shown_eq_of_sections hsections)
  exact ⟨Option.some.inj (hshown .type), hshown .interface, hshown .zod,
    sample_eq_of_shown h h' (hshown .sample)⟩

/-- Two texts of one record, under options that differ where nothing is shown of it. -/
theorem renderAll_of_sample_splits :
    ∃ b b', build { zod := false } (.present (.ofEpoch 0)) "user at:d tags? id".toList = .ok b ∧
      build { zod := false, strictZod := true } (.present (.ofEpoch 0))
        " User at:Date; tags?:s[], id!:s".toList = .ok b' ∧
      b.sections.map Prod.fst = [.type, .interface, .sample] ∧
      cutSections b.renderAll = b.sections ∧
      b.renderAll = b'.renderAll ∧ b.sample = b'.sample := by
  have hread : Dialect.read { zod := false } "user at:d tags? id".toList =
      .ok ⟨"User".toList, [⟨"at".toList, "Date".toList, true⟩,
        ⟨"tags".toList, "string[]".toList, false⟩, ⟨"id".toList, "string".toList, true⟩]⟩ := by
    decide +kernel
  have hread' : Dialect.read { zod := false, strictZod := true }
      " User at:Date; tags?:s[], id!:s".toList =
      .ok ⟨"User".toList, [⟨"at".toList, "Date".toList, true⟩,
        ⟨"tags".toList, "string[]".toList, false⟩, ⟨"id".toList, "string".toList, true⟩]⟩ := by
    decide +kernel
  have hoptions (r members) :
      assemble { zod := false, strictZod := true } r members =
        assemble { zod := false } r members := by
    simp only [assemble, Bool.false_eq_true, if_false]
  have hbanners (r members) : (assemble { zod := false } r (some members)).sections.map Prod.fst =
      [.type, .interface, .sample] := rfl
  obtain ⟨members, hbuild⟩ := exists_build (Moment.ofEpoch_isUniversal 0).inRange _
  have hb := hbuild _ _ hread
  have hb' := hbuild _ _ hread'
  rw [hoptions] at hb'
  obtain ⟨-, hcut, hsame⟩ := renderAll_splits_into_artifacts (by decide +kernel) hb
  obtain ⟨-, -, -, hsample⟩ := hsame _ _ _ _ (by decide +kernel) hb' rfl
  exact ⟨_, _, hb, hb', hbanners _ _, hcut, rfl, hsample⟩

end Bundle
end Shorthand
