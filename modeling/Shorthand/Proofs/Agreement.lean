import Shorthand.Bundle.Basic
import Shorthand.Proofs.Separator

/-! The two dialects denote the same records. A list of entries that both dialects can write is
written in each of them, and both texts are read as what the entries mean. -/
namespace Shorthand.Dialect
open Text

/-- A field as both dialects can write it: a name with or without a mark, a type, and later
segments. A required mark does not go together with the segment `o`. -/
structure Entry where
  name : Text
  mark : Option Bool
  type : Text
  later : List Text
  name_free : Free isSpecial name
  type_piece : Piece isDelimiter type
  later_piece : ∀ segment ∈ later, Piece isDelimiter segment
  mark_later : mark = some true → ['o'] ∉ later

namespace Entry

/-- There is a name, or at least a mark in its place. -/
def Named (e : Entry) : Prop := e.name ≠ [] ∨ e.mark ≠ none

def marked (e : Entry) : Text := e.name ++ markText e.mark

/-- The entry with colons between its segments. -/
def text (e : Entry) : Text := join [':'] (e.marked :: e.type :: e.later)

/-- The field that an entry stands for. -/
def meaning (options : Options) (e : Entry) : Field where
  name := Identifier.fieldName e.name
  type := FieldType.resolve e.type
  required := e.mark.getD (!e.later.contains ['o'] && !options.optionalByDefault)

/-- What reading an entry gives in either dialect. -/
def outcome (options : Options) (e : Entry) : Except Fault Field :=
  if e.name = [] then .error .emptyName else .ok (e.meaning options)

variable (e : Entry) (options : Options)

lemma marked_ne_nil {e : Entry} (h : e.Named) : e.marked ≠ [] := by
  rcases h with h | h
  · simp [marked, h]
  · cases hm : e.mark with
    | none => exact absurd hm h
    | some b => cases b <;> simp [marked, markText, hm]

variable {e}

lemma segments_piece (h : e.Named) :
    ∀ segment ∈ e.marked :: e.type :: e.later, Piece isDelimiter segment := by
  simp only [List.forall_mem_cons]
  exact ⟨⟨marked_ne_nil h, marked_delimiters e.name_free e.mark⟩, e.type_piece, e.later_piece⟩

lemma segments_colon (h : e.Named) :
    ∀ segment ∈ e.marked :: e.type :: e.later, Piece (· == ':') segment :=
  colon_pieces (segments_piece h)

lemma fragments_text (h : e.Named) :
    fragments (· == ':') e.text = e.marked :: e.type :: e.later := fragments_join rfl (segments_colon h)

lemma text_ne_nil (h : e.Named) : e.text ≠ [] := by
  intro hnil
  have hf := fragments_text h
  rw [hnil] at hf
  cases hf

/-- Colons are the only delimiters in a written entry. -/
lemma text_free {cut : Char → Bool} (h : e.Named)
    (hcut : ∀ c, cut c = true → isDelimiter c = true) (hcolon : cut ':' = false) :
    Free cut e.text := by
  apply join_free (by simp [hcolon])
  intro segment hsegment
  exact (segments_piece h segment hsegment).2.mono hcut

lemma text_piece (h : e.Named) : Piece Spaced.isBreak e.text :=
  ⟨text_ne_nil h, text_free h (fun _ => isDelimiter_of_isBreak) (by decide)⟩

/-- Reading a written entry as a chunk of a slashed text. -/
theorem readChunk_text (h : e.Named) : Slashed.readChunk options e.text = e.outcome options := by
  rw [text, Slashed.readChunk_join options (segments_piece h) (unquote_marked e.name_free e.mark),
    marked, markedName_marked e.name_free, outcome]
  split_ifs
  · rfl
  · rfl

/-- The name part of a written entry: a later segment `o` has the effect of a question mark, and
does nothing where there is a mark already. -/
lemma markedName_namePart (h : e.Named) :
    (markedName (Spaced.namePart e.marked e.later)).map
      (fun name => Spaced.field options name (some e.type)) = e.outcome options := by
  have hsame : (markedName e.marked).map (fun name => Spaced.field options name (some e.type)) =
      if e.name = [] then .error .emptyName else
        .ok ⟨Identifier.fieldName e.name, FieldType.resolve e.type,
          e.mark.getD (!options.optionalByDefault)⟩ := by
    rw [marked, markedName_marked e.name_free]
    split_ifs
    · rfl
    · rfl
  have hunquote : unquote e.marked = e.marked := unquote_marked e.name_free e.mark
  rw [Spaced.namePart, hunquote]
  by_cases ho : ['o'] ∈ e.later
  · have hcontains : e.later.contains ['o'] = true := by simpa using ho
    rcases hmark : e.mark with _ | _ | _
    · -- Without a mark the segment puts a question mark behind the name.
      have hname : e.name ≠ [] := by simpa [Named, hmark] using h
      have hmarked : e.marked = e.name := by simp [marked, markText, hmark]
      have hend : endsIn '?' e.name = false :=
        endsIn_of_not_mem (mark_not_mem (bare_marks e.name_free)).2
      have hread := markedName_marked e.name_free (some false)
      rw [markText, if_neg hname] at hread
      simp only [hcontains, hmarked, hend, Bool.not_false, Bool.and_self, if_true, hread]
      simp [Except.map, Spaced.field, outcome, meaning, hname, hmark, ho]
    · have hend : endsIn '?' e.marked = true := by simp [marked, markText, hmark]
      simp only [hend, Bool.not_true, Bool.and_false, Bool.false_eq_true, if_false, hsame]
      simp [outcome, meaning, hmark]
    · exact absurd ho (e.mark_later hmark)
  · have hcontains : e.later.contains ['o'] = false := by simpa using ho
    simp only [hcontains, Bool.false_and, Bool.false_eq_true, if_false, hsame, outcome, meaning,
      Bool.not_false, Bool.true_and]

/-- Reading a written entry as an item of a spaced text. -/
theorem readItem_text (h : e.Named) : Spaced.readItem options e.text = e.outcome options := by
  rw [text, Spaced.readItem_join options (segments_piece h) (unquote_marked e.name_free e.mark)]
  exact markedName_namePart options h

end Entry

/-- The entries with a slash between them, after the opening, the type word and a hyphen. -/
def slashedText (word : Text) (entries : List Entry) : Text :=
  Slashed.opening ++ word ++ '-' :: join ['/'] (entries.map Entry.text)

/-- The entries with a blank between them, after the type word and a blank. -/
def spacedText (word : Text) (entries : List Entry) : Text :=
  word ++ ' ' :: join [' '] (entries.map Entry.text)

section Texts
variable (options : Options) {word : Text} {entries : List Entry}

lemma texts_free {cut : Char → Bool} (hcut : ∀ c, cut c = true → isDelimiter c = true)
    (hcolon : cut ':' = false) (hslash : cut '/' = false) (hnamed : ∀ e ∈ entries, e.Named) :
    Free cut (join ['/'] (entries.map Entry.text)) := by
  apply join_free (by simp [hslash])
  intro t ht
  obtain ⟨e, he, rfl⟩ := List.mem_map.mp ht
  exact Entry.text_free (hnamed e he) hcut hcolon

lemma halves_slashedText (hword : Free isSpecial word) (hnamed : ∀ e ∈ entries, e.Named) :
    Slashed.halves (slashedText word entries) =
      (Slashed.opening ++ word, join ['/'] (entries.map Entry.text)) := by
  have hhead : ∀ c ∈ Slashed.opening ++ word, (c == '-') = false := by
    have hw : Free (· == '-') word := hword.mono fun c hc => by simp [isSpecial, isDelimiter, hc]
    exact free_append.mpr ⟨by decide, hw⟩
  have hbody : ∀ c ∈ join ['/'] (entries.map Entry.text), (c == '-') = false :=
    texts_free (fun c hc => by simp [isDelimiter, hc]) (by decide) (by decide) hnamed
  rw [Slashed.halves, slashedText,
    List.splitOnP_append_cons_of_forall_mem hhead '-' rfl, List.splitOnP_eq_singleton hbody]

lemma trim_slashedText (hword : Free isSpecial word) (hnamed : ∀ e ∈ entries, e.Named) :
    trim (slashedText word entries) = slashedText word entries := by
  apply trim_of_free
  have hbody : Free isBlank (join ['/'] (entries.map Entry.text)) :=
    texts_free (fun _ => isDelimiter_of_isBlank) (by decide) (by decide) hnamed
  exact free_append.mpr ⟨free_append.mpr ⟨by decide, bare_blanks hword⟩,
    free_cons.mpr ⟨by decide, hbody⟩⟩

/-- A slashed text gives its chunks, each read on its own. -/
lemma read_slashedText (hne : word ≠ []) (hword : Free isSpecial word) (hsome : entries ≠ [])
    (hnamed : ∀ e ∈ entries, e.Named) :
    read options (slashedText word entries) =
      (readItems (Slashed.readChunk options) 0 (entries.map Entry.text)).map fun fields =>
        ⟨Identifier.typeName word, fields⟩ := by
  have hstyle : styleOf (slashedText word entries) = .slashed := by
    apply styleOf_eq_slashed
    rw [slashedText, List.append_assoc]
    exact List.prefix_append _ _
  have hchunks : fragments (· == '/') (join ['/'] (entries.map Entry.text)) =
      entries.map Entry.text := by
    apply fragments_join rfl
    intro t ht
    obtain ⟨e, he, rfl⟩ := List.mem_map.mp ht
    exact (Entry.text_piece (hnamed e he)).mono fun c hc => by simp [Spaced.isBreak, hc]
  have hdrop : (Slashed.opening ++ word).drop Slashed.opening.length = word := List.drop_left
  have htext : (slashedText word entries).isEmpty = false := by simp [slashedText]
  simp only [read, trim_slashedText hword hnamed, htext, hstyle, Slashed.read,
    halves_slashedText hword hnamed, hchunks, hdrop, unquote_bare hword]
  simp [hne, hsome]

/-- A spaced text gives its items, each read on its own. -/
lemma read_spacedText (hne : word ≠ []) (hword : Free isSpecial word) (hsome : entries ≠ [])
    (hnamed : ∀ e ∈ entries, e.Named) :
    read options (spacedText word entries) =
      (readItems (Spaced.readItem options) 0 (entries.map Entry.text)).map fun fields =>
        ⟨Identifier.typeName word, fields⟩ := by
  have hjoin : spacedText word entries = join [' '] (word :: entries.map Entry.text) := by
    obtain ⟨e, es, rfl⟩ := List.exists_cons_of_ne_nil hsome
    simp [spacedText, join_cons]
  have hpieces : ∀ t ∈ entries.map Entry.text, Piece Spaced.isBreak t := by
    intro t ht
    obtain ⟨e, he, rfl⟩ := List.mem_map.mp ht
    exact Entry.text_piece (hnamed e he)
  rw [hjoin, Spaced.read_join options ⟨hne, bare_gaps hword⟩ (bare_style hword) hpieces, Spaced.outcome,
    unquote_bare hword]
  simp [hne, hsome]

/-- Written entries are read alike as items and as chunks. -/
lemma readItems_texts (hnamed : ∀ e ∈ entries, e.Named) :
    readItems (Spaced.readItem options) 0 (entries.map Entry.text) =
      readItems (Slashed.readChunk options) 0 (entries.map Entry.text) := by
  apply readItems_congr
  intro t ht
  obtain ⟨e, he, rfl⟩ := List.mem_map.mp ht
  rw [Entry.readItem_text options (hnamed e he), Entry.readChunk_text options (hnamed e he)]

/-- Entries that all have a name are read as the fields they stand for. -/
lemma readItems_meaning (hnames : ∀ e ∈ entries, e.name ≠ []) :
    readItems (Slashed.readChunk options) 0 (entries.map Entry.text) =
      .ok (entries.map (Entry.meaning options)) := by
  rw [readItems_eq_ok_iff, List.forall₂_map_left_iff, List.forall₂_map_right_iff,
    List.forall₂_same]
  intro e he
  rw [Entry.readChunk_text options (Or.inl (hnames e he)), Entry.outcome, if_neg (hnames e he)]

end Texts

/-- The two dialects denote the same records. Entries written in either of them, each with a name or
at least a mark in its place, are read with the same outcome, so that the same artifacts are made
from them; where every entry has a name, the outcome is the record that the entries stand for. -/
theorem read_slashedText_eq_spacedText (options : Options) (clock : Clock) (word : Text)
    (entries : List Entry) (hne : word ≠ []) (hword : Free isSpecial word) (hsome : entries ≠ [])
    (hnamed : ∀ e ∈ entries, e.Named) :
    read options (slashedText word entries) = read options (spacedText word entries) ∧
      (Bundle.build options clock (slashedText word entries)).map Bundle.toJson =
        (Bundle.build options clock (spacedText word entries)).map Bundle.toJson ∧
      ((∀ e ∈ entries, e.name ≠ []) → read options (slashedText word entries) =
        .ok ⟨Identifier.typeName word, entries.map (Entry.meaning options)⟩) := by
  have hslashed := read_slashedText options hne hword hsome hnamed
  have hspaced := read_spacedText options hne hword hsome hnamed
  rw [readItems_texts options hnamed] at hspaced
  refine ⟨hslashed.trans hspaced.symm, ?_, ?_⟩
  · rw [Bundle.build, Bundle.build, hslashed, hspaced]
  · intro hnames
    rw [hslashed, readItems_meaning options hnames]
    rfl

/-- Entries with every kind of mark, later segments, and quotes in a type. -/
def sampleEntries : List Entry :=
  [⟨"email".toList, none, "s".toList, [], by decide, by decide, by decide, by decide⟩,
    ⟨"isAdmin".toList, none, "b".toList, ["x".toList, "o".toList], by decide, by decide,
      by decide, by decide⟩,
    ⟨"class".toList, some true, "'a'|\"b\"[]".toList, [], by decide, by decide, by decide,
      by decide⟩,
    ⟨"tags".toList, some false, "s[]".toList, ["o".toList], by decide, by decide, by decide,
      by decide⟩]

theorem read_sampleEntries :
    (∀ e ∈ sampleEntries, e.Named ∧ e.name ≠ []) ∧
      read {} "type:user_profile-email:s/isAdmin:b:x:o/class!:'a'|\"b\"[]/tags?:s[]:o".toList =
        read {} "user_profile email:s isAdmin:b:x:o class!:'a'|\"b\"[] tags?:s[]:o".toList ∧
      read {} "type:user_profile-email:s/isAdmin:b:x:o/class!:'a'|\"b\"[]/tags?:s[]:o".toList =
        .ok ⟨"UserProfile".toList, [⟨"email".toList, "string".toList, true⟩,
          ⟨"isAdmin".toList, "boolean".toList, false⟩,
          ⟨"class_".toList, "'a'|\"b\"[]".toList, true⟩,
          ⟨"tags".toList, "string[]".toList, false⟩]⟩ := by
  have hnames : ∀ e ∈ sampleEntries, e.name ≠ [] := by decide
  obtain ⟨hsame, -, hok⟩ := read_slashedText_eq_spacedText {} (.given (.ofEpoch 0))
    "user_profile".toList sampleEntries (by decide) (by decide) (by decide)
    fun e he => Or.inl (hnames e he)
  exact ⟨fun e he => ⟨Or.inl (hnames e he), hnames e he⟩, hsame,
    (hok hnames).trans (by decide +kernel)⟩

/-- An entry without a name and without a mark. -/
def unnamedEntry : Entry := ⟨[], none, "s".toList, [], by decide, by decide, by decide, by decide⟩

/-- Without a name and a mark the dialects part: a chunk needs two segments, and an item of one
segment is a name. -/
theorem read_unnamedEntry_differs :
    ¬ ∀ (options : Options) (word : Text) (entries : List Entry), word ≠ [] →
      Free isSpecial word → entries ≠ [] →
      read options (slashedText word entries) = read options (spacedText word entries) := by
  intro h
  have hslashed : read {} (slashedText "User".toList [unnamedEntry]) =
      .error ⟨.badChunk, some ":s".toList, some 0⟩ := by decide +kernel
  have hspaced : read {} (spacedText "User".toList [unnamedEntry]) =
      .ok ⟨"User".toList, [⟨"s".toList, "string".toList, true⟩]⟩ := by decide +kernel
  have hsame := h {} "User".toList [unnamedEntry] (by decide) (by decide) (by decide)
  rw [hslashed, hspaced] at hsame
  cases hsame

end Shorthand.Dialect
