import Shorthand.Proofs.Separator

/-! A record that was read from a spaced text can be written down in full, with every mark and every
type, and is read back from that text whatever the options are. -/
namespace Shorthand
open Text Dialect

namespace Field

/-- The field in full: its name, the mark that says whether it is required, its type and a
semicolon. -/
def written (f : Field) : Text :=
  f.name ++ (if f.required then ['!'] else ['?']) ++ ':' :: f.type ++ [';']

end Field

/-- The type name and all fields in full, a blank before each. -/
def Record.canonical (r : Record) : Text := r.name ++ r.fields.flatMap fun f => ' ' :: f.written

namespace Dialect.Spaced
variable {f : Field}

lemma Legible.bare (h : Legible f) : Free isSpecial f.name := bare_of_nameChars h.name.nameChars

lemma Legible.marked_free (h : Legible f) : Free isDelimiter (f.name ++ markText (some f.required)) :=
  marked_delimiters h.bare _

lemma written_eq (f : Field) :
    f.written = join [':'] [f.name ++ markText (some f.required), f.type] ++ [';'] := by
  cases hr : f.required <;> simp [Field.written, markText, join_cons, hr]

lemma written_segments (h : Legible f) :
    ∀ segment ∈ [f.name ++ markText (some f.required), f.type], Piece (· == ':') segment := by
  rw [List.forall_mem_cons, List.forall_mem_singleton]
  refine ⟨⟨by simp [h.name.ne_nil], h.marked_free.mono fun _ => isDelimiter_of_colon⟩, ?_⟩
  exact h.type.mono fun c hc => by simp [isStop, hc]

lemma written_piece (h : Legible f) : Piece isBreak f.written := by
  have hmarked : Free isBreak (f.name ++ markText (some f.required)) :=
    h.marked_free.mono fun _ => isDelimiter_of_isBreak
  have htype : Free isBreak f.type := h.type.2.mono fun c hc => by simp [isStop, hc]
  have hbreak : isBreak ':' = false ∧ isBreak ';' = false := by decide
  rw [written_eq]
  refine ⟨by simp, ?_⟩
  rw [join_cons, free_append, free_append]
  exact ⟨⟨hmarked, by simp [htype, hbreak]⟩, by simp [hbreak]⟩

/-- A legible field is read back from its written form. -/
theorem readItem_written (options : Options) (h : Legible f) :
    readItem options f.written = .ok f := by
  have hsegments := written_segments h
  have hname : markedName (f.name ++ markText (some f.required)) = .ok ⟨f.name, some f.required⟩ := by
    rw [markedName_marked h.bare, if_neg h.name.ne_nil, Identifier.fieldName_eq_self h.name]
  have hpart : namePart (f.name ++ markText (some f.required)) [] =
      f.name ++ markText (some f.required) := by
    simp [namePart, unquote_marked h.bare]
  have hne : (f.name ++ markText (some f.required)).isEmpty = false := by simp [h.name.ne_nil]
  -- One semicolon comes off the end, so that one at the end of the type stays.
  rw [written_eq, readItem, dropMark_concat]
  simp only [endsIn_join hsegments, split_join hsegments, hpart, hne, hname, Bool.false_eq_true,
    if_false]
  simp [Except.map, field, h.resolved]

/-- A record of legible fields is read back from its canonical text. -/
lemma read_canonical_of_legible (options : Options) {r : Record}
    (hname : Identifier.IsTypeName r.name) (hsome : r.fields ≠ [])
    (hfields : ∀ f ∈ r.fields, Legible f) :
    Dialect.read options r.canonical = .ok r := by
  have hbare : Free isSpecial r.name := bare_of_nameChars hname.nameChars
  have hjoin : r.canonical = join [' '] (r.name :: r.fields.map Field.written) := by
    simp [Record.canonical, join_cons, List.flatMap_map]
  have hpieces : ∀ t ∈ r.fields.map Field.written, Piece isBreak t := by
    intro t ht
    obtain ⟨f, hf, rfl⟩ := List.mem_map.mp ht
    exact written_piece (hfields f hf)
  have hitems : readItems (readItem options) 0 (r.fields.map Field.written) = .ok r.fields := by
    rw [readItems_eq_ok_iff, List.forall₂_map_left_iff, List.forall₂_same]
    exact fun f hf => readItem_written options (hfields f hf)
  rw [hjoin, read_join options ⟨hname.ne_nil, bare_gaps hbare⟩ (bare_style hbare) hpieces, outcome,
    unquote_bare hbare, hitems, Identifier.typeName_eq_self hname]
  simp [hname.ne_nil, hsome, Except.map]

/-- The canonical text of a record that was read from a spaced text is read as that record, under
any options. -/
theorem read_canonical_of_read {options : Options} {raw : Text} {r : Record}
    (hstyle : styleOf (trim raw) = .spaced) (h : Dialect.read options raw = .ok r)
    (options' : Options) : Dialect.read options' r.canonical = .ok r := by
  obtain ⟨hname, items, hsome, hpieces, hitems⟩ := read_spaced_ok hstyle h
  apply read_canonical_of_legible options' hname
  · intro hnil
    rw [hnil, List.forall₂_nil_right_iff] at hitems
    exact hsome hitems
  · intro f hf
    obtain ⟨item, hitem, hread⟩ := exists_item_of_field hitems f hf
    exact readItem_legible (hpieces item hitem).2 hread

/-- A digit, a reserved word, a type that ends in a semicolon, and a type that is guessed. -/
theorem read_canonical_sample :
    Dialect.read { optionalByDefault := true } "2d-point 1st:s[][] class!:Map<K>;; isOpen".toList =
        .ok ⟨"2dPoint".toList, [⟨"_1st".toList, "string[][]".toList, false⟩,
          ⟨"class_".toList, "Map<K>;".toList, true⟩, ⟨"isOpen".toList, "boolean".toList, false⟩]⟩ ∧
      Dialect.read {} "2dPoint _1st?:string[][]; class_!:Map<K>;; isOpen?:boolean;".toList =
        .ok ⟨"2dPoint".toList, [⟨"_1st".toList, "string[][]".toList, false⟩,
          ⟨"class_".toList, "Map<K>;".toList, true⟩, ⟨"isOpen".toList, "boolean".toList, false⟩]⟩ := by
  have hread : Dialect.read { optionalByDefault := true }
      "2d-point 1st:s[][] class!:Map<K>;; isOpen".toList =
        .ok ⟨"2dPoint".toList, [⟨"_1st".toList, "string[][]".toList, false⟩,
          ⟨"class_".toList, "Map<K>;".toList, true⟩, ⟨"isOpen".toList, "boolean".toList, false⟩]⟩ := by
    decide +kernel
  exact ⟨hread, read_canonical_of_read (by decide) hread {}⟩

end Dialect.Spaced
end Shorthand
