import Shorthand.Dialect.Reader
import Shorthand.Proofs.Except
import Shorthand.Proofs.FieldType
import Shorthand.Proofs.Identifier

/-! What reading an item and reading a record can give: names with and without a mark, item lists
that are read one by one, and the fields that come out of a text in either dialect. -/
namespace Shorthand.Dialect
open Text

def isQuote (c : Char) : Bool := c == '\'' || c == '"'
def isMark (c : Char) : Bool := c == '!' || c == '?'

/-- The mark that says whether a field is required. -/
def markText : Option Bool → Text
  | some true => ['!']
  | some false => ['?']
  | none => []

section Names
variable {c : Char} {s name : Text}

lemma unquote_cons (h : Free isBlank (c :: s)) :
    unquote (c :: s) = if isQuote c && endsIn c (c :: s) then s.dropLast else c :: s := by
  rw [unquote, trim_of_free h]
  rfl

lemma unquote_eq_self (hb : Free isBlank s) (hq : ∀ c ∈ s.head?, isQuote c = false) :
    unquote s = s := by
  cases s with
  | nil => rfl
  | cons c s => simp [unquote_cons hb, hq c (by simp)]

lemma unquote_eq_self_of_last (hb : Free isBlank s) (hq : ∀ c ∈ s.getLast?, isQuote c = false) :
    unquote s = s := by
  cases s with
  | nil => rfl
  | cons c s =>
    have hquote : (isQuote c && endsIn c (c :: s)) = false := by
      by_contra hn
      obtain ⟨hc, hlast⟩ := Bool.and_eq_true_iff.mp (by simpa using hn)
      rw [hq c (by simpa [endsIn] using hlast)] at hc
      cases hc
    rw [unquote_cons hb, hquote]
    rfl

lemma dropMark_concat : dropMark c (s ++ [c]) = s := by simp [dropMark]

lemma dropMark_of_not_endsIn (h : endsIn c s = false) : dropMark c s = s := by simp [dropMark, h]

lemma dropMark_subset (c : Char) (s : Text) : dropMark c s ⊆ s := by
  unfold dropMark
  split_ifs
  · exact List.dropLast_subset s
  · exact List.Subset.refl s

lemma mark_not_mem (h : Free isMark name) : '!' ∉ name ∧ '?' ∉ name :=
  ⟨fun hc => absurd (h _ hc) (by decide), fun hc => absurd (h _ hc) (by decide)⟩

lemma markOf_append (h : Free isMark name) (mark : Option Bool) :
    markOf (name ++ markText mark) = mark := by
  obtain ⟨hr, ho⟩ := mark_not_mem h
  rcases mark with _ | _ | _
  · simp [markOf, markText, endsIn_of_not_mem hr, endsIn_of_not_mem ho]
  · simp [markOf, markText]
  · simp [markOf, markText]

lemma unmark_append (hb : Free isBlank name) (h : Free isMark name) (mark : Option Bool) :
    unmark (name ++ markText mark) = name := by
  obtain ⟨hr, ho⟩ := mark_not_mem h
  have hr' : dropMark '!' name = name := dropMark_of_not_endsIn (endsIn_of_not_mem hr)
  have ho' : dropMark '?' name = name := dropMark_of_not_endsIn (endsIn_of_not_mem ho)
  rcases mark with _ | _ | _
  · simp [unmark, markText, hr', ho', trim_of_free hb]
  · have hd : dropMark '!' (name ++ ['?']) = name ++ ['?'] := dropMark_of_not_endsIn (by simp)
    simp [unmark, markText, hd, dropMark_concat, trim_of_free hb]
  · simp [unmark, markText, dropMark_concat, ho', trim_of_free hb]

/-- A bare name with any mark behind it is read as that name with that mark. -/
lemma markedName_append (hb : Free isBlank name) (h : Free isMark name) (mark : Option Bool) :
    markedName (name ++ markText mark) =
      if name = [] then .error .emptyName else .ok ⟨Identifier.fieldName name, mark⟩ := by
  have hmark : Free isBlank (markText mark) := by rcases mark with _ | _ | _ <;> decide
  have htrim : trim (name ++ markText mark) = name ++ markText mark :=
    trim_of_free (free_append.mpr ⟨hb, hmark⟩)
  simp [markedName, htrim, unmark_append hb h, markOf_append h]

lemma markedName_ok {raw : Text} {m : MarkedName} (h : markedName raw = .ok m) :
    Identifier.IsFieldName m.name := by
  simp only [markedName] at h
  split_ifs at h
  obtain rfl := Except.ok.inj h
  dsimp only
  exact Identifier.isFieldName_fieldName _

end Names

section Items
variable {read : Text → Except Fault Field} {items : List Text} {fields : List Field} {index : Nat}

/-- Items are read if and only if each of them is, one field for each. -/
theorem readItems_eq_ok_iff :
    readItems read index items = .ok fields ↔
      List.Forall₂ (fun item field => read item = .ok field) items fields := by
  induction items generalizing index fields with
  | nil => cases fields <;> simp [readItems]
  | cons item items ih =>
    rw [readItems]
    cases hitem : read item with
    | error fault =>
      constructor
      · intro h
        cases h
      · intro h
        cases h with
        | cons hfirst _ =>
          rw [hitem] at hfirst
          cases hfirst
    | ok field =>
      constructor
      · intro h
        obtain ⟨rest, hrest, rfl⟩ := exists_of_map_ok h
        exact .cons hitem (ih.mp hrest)
      · intro h
        cases h with
        | cons hfirst hrest =>
          rw [hitem] at hfirst
          cases hfirst
          simp [ih.mpr hrest, Except.map]

lemma readItems_congr {read' : Text → Except Fault Field}
    (h : ∀ item ∈ items, read item = read' item) :
    readItems read index items = readItems read' index items := by
  induction items generalizing index with
  | nil => rfl
  | cons item items ih =>
    simp only [List.forall_mem_cons] at h
    rw [readItems, readItems, h.1, ih h.2]

lemma exists_item_of_field {α β : Type} {R : α → β → Prop} {items : List α} {fields : List β}
    (h : List.Forall₂ R items fields) : ∀ field ∈ fields, ∃ item ∈ items, R item field := by
  induction h with
  | nil => simp
  | cons hfirst _ ih =>
    simp only [List.forall_mem_cons]
    refine ⟨⟨_, by simp, hfirst⟩, ?_⟩
    intro field hfield
    obtain ⟨item, hitem, hR⟩ := ih field hfield
    exact ⟨item, by simp [hitem], hR⟩

lemma fields_ne_nil {R : Text → Field → Prop} (h : List.Forall₂ R items fields)
    (hne : items ≠ []) : fields ≠ [] := by
  rintro rfl
  exact hne (List.forall₂_nil_right_iff.mp h)

end Items

namespace Spaced

/-- Ends a segment of an item. -/
def isStop (c : Char) : Bool := isBreak c || c == ':'

lemma isBreak_of_isBlank {c : Char} (h : isBlank c = true) : isBreak c = true := by
  simp [isBreak, isGap, h]

lemma isStop_of_isAlpha {c : Char} (h : c.isAlpha = true) : isStop c = false := by
  have hne : ∀ d : Char, d.isAlpha = false → c ≠ d := fun d => ne_of_class h
  simp [isStop, isBreak, isGap, isBlank_of_isAlpha h, hne ',' rfl, hne '/' rfl, hne ':' rfl]

/-- A field that the dialect can write: its name and its type are what reading them gives, and no
separator stands in the type. -/
structure Legible (f : Field) : Prop where
  name : Identifier.IsFieldName f.name
  type : Piece isStop f.type
  resolved : FieldType.resolve f.type = f.type

lemma piece_resolve {type : Text} (h : Piece isStop type) : Piece isStop (FieldType.resolve type) := by
  have hb : Free isBlank type := h.2.mono fun c hc => by simp [isStop, isBreak_of_isBlank hc]
  refine ⟨FieldType.resolve_ne_nil ?_, FieldType.resolve_free (fun _ => isStop_of_isAlpha) h.2⟩
  rw [trim_of_free hb]
  exact h.1

lemma split_type {item type : Text} (h : (split item).2 = some type) :
    Piece (· == ':') type ∧ type ⊆ item := by
  unfold split at h
  split at h
  · next first word later heq =>
    cases h
    exact mem_fragments (heq ▸ by simp : type ∈ segments item)
  · cases h

/-- Segments written with colons between them are split again. -/
lemma split_join {marked type : Text} {later : List Text}
    (h : ∀ segment ∈ marked :: type :: later, Piece (· == ':') segment) :
    split (join [':'] (marked :: type :: later)) = (namePart marked later, some type) := by
  rw [split, segments, fragments_join rfl h]

/-- Fields that are read from an item are legible. -/
theorem readItem_legible {options : Options} {item : Text} {f : Field}
    (hitem : Free isBreak item) (h : readItem options item = .ok f) : Legible f := by
  simp only [readItem] at h
  split_ifs at h
  obtain ⟨name, hname, rfl⟩ := exists_of_map_ok h
  -- The type is what some word without separators stands for, written or guessed.
  obtain ⟨word, hword, htype⟩ : ∃ word, Piece isStop word ∧
      (field options name (split (dropMark ';' item)).2).type = FieldType.resolve word := by
    cases hs : (split (dropMark ';' item)).2 with
    | none =>
      obtain ⟨word, hmem, hinfer⟩ := FieldType.infer_eq_resolve name.name
      have hwords : ∀ word ∈ ["d".toList, "b".toList, "s".toList, "s[]".toList],
          Piece isStop word := by decide
      exact ⟨word, hwords word hmem, hinfer⟩
    | some word =>
      obtain ⟨⟨hne, hcolon⟩, hsub⟩ := split_type hs
      refine ⟨word, ⟨hne, fun c hc => ?_⟩, rfl⟩
      have hbreak := hitem c (dropMark_subset _ _ (hsub hc))
      simp only [isStop, hbreak, hcolon c hc, Bool.or_self]
  refine ⟨markedName_ok hname, ?_, ?_⟩
  · rw [htype]
    exact piece_resolve hword
  · rw [htype]
    exact FieldType.resolve_resolve word

end Spaced

/-- Separates parts of a text in one of the dialects. -/
def isDelimiter (c : Char) : Bool := Spaced.isStop c || c == '-' || c == ';'

/-- Has a meaning of its own in a name. -/
def isSpecial (c : Char) : Bool := isDelimiter c || isMark c || isQuote c

section Bare
variable {c : Char} {word : Text}

lemma isDelimiter_of_isBlank (h : isBlank c = true) : isDelimiter c = true := by
  simp [isDelimiter, Spaced.isStop, Spaced.isBreak_of_isBlank h]

lemma isDelimiter_of_isBreak (h : Spaced.isBreak c = true) : isDelimiter c = true := by
  simp [isDelimiter, Spaced.isStop, h]

lemma isDelimiter_of_colon (h : (c == ':') = true) : isDelimiter c = true := by
  simp [isDelimiter, Spaced.isStop, h]

lemma isSpecial_of_isDelimiter (h : isDelimiter c = true) : isSpecial c = true := by
  simp [isSpecial, h]

/-- Sanitized names have nothing special in them. -/
lemma isSpecial_of_isNameChar (h : Identifier.isNameChar c = true) : isSpecial c = false := by
  have hne : ∀ d : Char, Identifier.isNameChar d = false → c ≠ d := fun d => ne_of_class h
  simp [isSpecial, isDelimiter, Spaced.isStop, Spaced.isBreak, Spaced.isGap, isMark, isQuote,
    Identifier.isBlank_of_isNameChar h, hne ',' rfl, hne '/' rfl, hne ':' rfl, hne '-' rfl,
    hne ';' rfl, hne '!' rfl, hne '?' rfl, hne '\'' rfl, hne '"' rfl]

lemma bare_of_nameChars (h : Run Identifier.isNameChar word) : Free isSpecial word :=
  fun c hc => isSpecial_of_isNameChar (h c hc)

lemma bare_blanks (h : Free isSpecial word) : Free isBlank word :=
  h.mono fun _ hc => isSpecial_of_isDelimiter (isDelimiter_of_isBlank hc)

lemma bare_marks (h : Free isSpecial word) : Free isMark word :=
  h.mono fun c hc => by simp [isSpecial, hc]

lemma bare_quotes (h : Free isSpecial word) : Free isQuote word :=
  h.mono fun c hc => by simp [isSpecial, hc]

lemma bare_gaps (h : Free isSpecial word) : Free Spaced.isGap word :=
  h.mono fun c hc => isSpecial_of_isDelimiter (isDelimiter_of_isBreak (by simp [Spaced.isBreak, hc]))

lemma bare_style (h : Free isSpecial word) : ¬ Slashed.opening <+: word := by
  rintro ⟨t, rfl⟩
  exact absurd (h ':' (by simp [Slashed.opening])) (by decide)

lemma markText_delimiters (mark : Option Bool) : Free isDelimiter (markText mark) := by
  rcases mark with _ | _ | _ <;> decide

lemma marked_delimiters (h : Free isSpecial word) (mark : Option Bool) :
    Free isDelimiter (word ++ markText mark) :=
  free_append.mpr ⟨h.mono fun _ => isSpecial_of_isDelimiter, markText_delimiters mark⟩

lemma markText_quotes (mark : Option Bool) : Free isQuote (markText mark) := by
  rcases mark with _ | _ | _ <;> decide

/-- No quote stands in a bare name with its mark. -/
lemma unquote_marked (h : Free isSpecial word) (mark : Option Bool) :
    unquote (word ++ markText mark) = word ++ markText mark := by
  have hblank : Free isBlank (markText mark) :=
    (markText_delimiters mark).mono fun _ => isDelimiter_of_isBlank
  have hquote : Free isQuote (word ++ markText mark) :=
    free_append.mpr ⟨bare_quotes h, markText_quotes mark⟩
  exact unquote_eq_self (free_append.mpr ⟨bare_blanks h, hblank⟩)
    fun c hc => hquote c (List.mem_of_mem_head? hc)

lemma unquote_bare (h : Free isSpecial word) : unquote word = word := by
  simpa [markText] using unquote_marked h none

lemma markedName_marked (h : Free isSpecial word) (mark : Option Bool) :
    markedName (word ++ markText mark) =
      if word = [] then .error .emptyName else .ok ⟨Identifier.fieldName word, mark⟩ :=
  markedName_append (bare_blanks h) (bare_marks h) mark

end Bare

section Joined
variable {name type : Text} {later : List Text}

lemma colon_pieces {segments : List Text} (h : ∀ segment ∈ segments, Piece isDelimiter segment) :
    ∀ segment ∈ segments, Piece (· == ':') segment :=
  fun segment hsegment => (h segment hsegment).mono fun _ => isDelimiter_of_colon

/-- A chunk that is written as segments. -/
lemma Slashed.readChunk_join (options : Options)
    (h : ∀ segment ∈ name :: type :: later, Piece isDelimiter segment) (hquote : unquote name = name) :
    readChunk options (join [':'] (name :: type :: later)) =
      (markedName name).map fun marked => field options marked type later := by
  have hne : name.isEmpty = false := by simpa using (h name (by simp)).1
  rw [readChunk, fragments_join rfl (colon_pieces h)]
  simp only [hquote, hne, Bool.false_eq_true, if_false]

/-- An item that is written as segments. -/
lemma Spaced.readItem_join (options : Options)
    (h : ∀ segment ∈ name :: type :: later, Piece isDelimiter segment) (hquote : unquote name = name) :
    readItem options (join [':'] (name :: type :: later)) =
      (markedName (namePart name later)).map fun marked => field options marked (some type) := by
  have hsemi : dropMark ';' (join [':'] (name :: type :: later)) = join [':'] (name :: type :: later) := by
    apply dropMark_of_not_endsIn
    apply endsIn_of_not_mem
    rw [← free_beq_iff]
    refine join_free (by decide) fun segment hsegment => ?_
    exact (h segment hsegment).2.mono fun c hc => by simp [isDelimiter, hc]
  have hne : (namePart name later).isEmpty = false := by
    have hname := (h name (by simp)).1
    simp only [namePart, hquote]
    split_ifs
    · simp
    · simpa using hname
  simp only [readItem, hsemi, endsIn_join (colon_pieces h), split_join (colon_pieces h), hne,
    Bool.false_eq_true, if_false]

end Joined

namespace Slashed

/-- The type of a field that is read from a chunk is written in the chunk. -/
theorem readChunk_ok {options : Options} {chunk : Text} {f : Field}
    (h : readChunk options chunk = .ok f) :
    Identifier.IsFieldName f.name ∧ ∃ word, word ⊆ chunk ∧ f.type = FieldType.resolve word := by
  unfold readChunk at h
  split at h
  · next first type later heq =>
    split_ifs at h
    obtain ⟨name, hname, rfl⟩ := exists_of_map_ok h
    have hmem : type ∈ fragments (· == ':') chunk := by simp [heq]
    exact ⟨markedName_ok hname, type, (mem_fragments hmem).2, rfl⟩
  · cases h

lemma halves_isInfix (text : Text) : (halves text).2 <:+: text := by
  unfold halves
  split
  · next head body rest heq => exact (splitOnP_mem (· == '-') text body (by simp [heq])).2
  · exact List.nil_infix
  · exact List.nil_infix

end Slashed

variable {options : Options} {raw : Text} {r : Record}

lemma styleOf_eq_slashed (h : Slashed.opening <+: raw) : styleOf raw = .slashed := by
  rw [styleOf, startsWith, List.isPrefixOf_iff_prefix.mpr h]
  rfl

lemma styleOf_eq_spaced (h : ¬ Slashed.opening <+: raw) : styleOf raw = .spaced := by
  rw [styleOf, startsWith, if_neg]
  rwa [List.isPrefixOf_iff_prefix]

/-- A record that is read from a spaced text. -/
theorem read_spaced_ok (hstyle : styleOf (trim raw) = .spaced) (h : read options raw = .ok r) :
    Identifier.IsTypeName r.name ∧ ∃ items, items ≠ [] ∧ (∀ item ∈ items, Piece Spaced.isBreak item) ∧
      List.Forall₂ (fun item field => Spaced.readItem options item = .ok field) items r.fields := by
  simp only [read, hstyle, Spaced.read] at h
  split_ifs at h with _ _ hitems
  obtain ⟨fields, hfields, rfl⟩ := exists_of_map_ok h
  refine ⟨?_, _, by simpa using hitems, ?_, readItems_eq_ok_iff.mp hfields⟩
  · dsimp only
    exact Identifier.isTypeName_typeName _
  · intro item hitem
    exact (mem_fragments hitem).1

/-- A record that is read from a slashed text. -/
theorem read_slashed_ok (hstyle : styleOf (trim raw) = .slashed) (h : read options raw = .ok r) :
    Identifier.IsTypeName r.name ∧ ∃ chunks, chunks ≠ [] ∧ (∀ chunk ∈ chunks, chunk ⊆ raw) ∧
      List.Forall₂ (fun chunk field => Slashed.readChunk options chunk = .ok field)
        chunks r.fields := by
  simp only [read, hstyle, Slashed.read] at h
  split_ifs at h with _ hchunks _
  obtain ⟨fields, hfields, rfl⟩ := exists_of_map_ok h
  refine ⟨?_, _, by simpa using hchunks, ?_, readItems_eq_ok_iff.mp hfields⟩
  · dsimp only
    exact Identifier.isTypeName_typeName _
  · intro chunk hchunk c hc
    exact trim_subset raw ((Slashed.halves_isInfix _).subset ((mem_fragments hchunk).2 hc))

/-- Whatever the dialect, a record has a name and at least one field, and all its names are
sanitized. -/
theorem read_names (h : read options raw = .ok r) :
    Identifier.IsTypeName r.name ∧ r.fields ≠ [] ∧
      ∀ f ∈ r.fields, Identifier.IsFieldName f.name := by
  cases hstyle : styleOf (trim raw) with
  | spaced =>
    obtain ⟨hname, items, hne, hpieces, hitems⟩ := read_spaced_ok hstyle h
    refine ⟨hname, fields_ne_nil hitems hne, fun f hf => ?_⟩
    obtain ⟨item, hitem, hread⟩ := exists_item_of_field hitems f hf
    exact (Spaced.readItem_legible (hpieces item hitem).2 hread).name
  | slashed =>
    obtain ⟨hname, chunks, hne, -, hitems⟩ := read_slashed_ok hstyle h
    refine ⟨hname, fields_ne_nil hitems hne, fun f hf => ?_⟩
    obtain ⟨chunk, -, hread⟩ := exists_item_of_field hitems f hf
    exact (Slashed.readChunk_ok hread).1

/-- All names of a record are on one line. -/
lemma read_lines (h : read options raw = .ok r) :
    '\n' ∉ r.name ∧ ∀ f ∈ r.fields, '\n' ∉ f.name := by
  obtain ⟨hname, -, hfields⟩ := read_names h
  exact ⟨Identifier.newline_not_mem hname.nameChars, fun f hf =>
    Identifier.newline_not_mem (hfields f hf).nameChars⟩

/-- Reading looks at one switch only. -/
theorem read_congr {o o' : Options} (h : o.optionalByDefault = o'.optionalByDefault) (raw : Text) :
    read o raw = read o' raw := by
  have hitem : Spaced.readItem o = Spaced.readItem o' := by
    funext item
    simp only [Spaced.readItem, Spaced.field, h]
  have hchunk : Slashed.readChunk o = Slashed.readChunk o' := by
    funext chunk
    simp only [Slashed.readChunk, Slashed.field, h]
  simp only [read, Spaced.read, Slashed.read, hitem, hchunk]

end Shorthand.Dialect
