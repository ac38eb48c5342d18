import Shorthand.Proofs.Items

/-! The segment `o` behind a type. It leaves the name and the type of a field alone and makes the field
optional. In a slashed text an exclamation mark behind the name wins over it; in a spaced text it
covers the exclamation mark, so that it wins. -/
namespace Shorthand
open Text

namespace Identifier
variable {s : Text} {c : Char}

/-- What is neither kept nor a separator does not count in a name. -/
def counts (c : Char) : Bool := isKept c || isSeparator c

lemma splitOnP_filter (s : Text) :
    (s.filter counts).splitOnP isSeparator = (s.splitOnP isSeparator).map (List.filter counts) := by
  induction s with
  | nil => simp
  | cons c s ih =>
    rw [List.splitOnP_cons_eq_if_modifyHead]
    cases hsep : isSeparator c with
    | true =>
      have hcounts : counts c = true := by simp [counts, hsep]
      simp [hcounts, List.splitOnP_cons_eq_if_modifyHead, hsep, ih]
    | false =>
      obtain ⟨word, words, hcut⟩ := List.exists_cons_of_ne_nil (List.splitOnP_ne_nil isSeparator s)
      rw [hcut] at ih ⊢
      cases hcounts : counts c with
      | true => simp [hcounts, List.splitOnP_cons_eq_if_modifyHead, hsep, ih]
      | false => simp [hcounts, ih]

lemma pascal_filter (s : Text) : pascal (s.filter counts) = pascal s := by
  have hword (word : Text) : (word.filter counts).filter isKept = word.filter isKept := by
    rw [List.filter_filter]
    congr 1
    funext c
    cases hkept : isKept c <;> simp [counts, hkept]
  simp only [pascal, splitOnP_filter, List.flatMap_map, hword]

/-- A character behind a word that does not count changes nothing in its name. -/
lemma fieldName_concat (hs : Free isBlank s) (hc : counts c = false) :
    fieldName (s ++ [c]) = fieldName s := by
  have hblank : isBlank c = false := by
    by_contra hn
    simp [counts, isSeparator, Bool.not_eq_false _ ▸ hn] at hc
  have htrim : trim (s ++ [c]) = s ++ [c] := trim_of_free (by simp [hs, hblank])
  have hpascal : pascal (s ++ [c]) = pascal s := by
    rw [← pascal_filter (s ++ [c]), ← pascal_filter s]
    simp [hc]
  simp only [fieldName, Sanitizer.fieldName, htrim, trim_of_free hs, camel, hpascal]

end Identifier

namespace Dialect
variable {name word : Text} {c : Char}

lemma fieldName_dropMark (hb : Free isBlank word) (hc : Identifier.counts c = false) :
    Identifier.fieldName (dropMark c word) = Identifier.fieldName word := by
  unfold dropMark
  split_ifs with hend
  · have hlast : word.getLast? = some c := by simpa [endsIn] using hend
    obtain ⟨front, rfl⟩ := List.getLast?_eq_some_iff.mp hlast
    rw [List.dropLast_concat, Identifier.fieldName_concat (free_append.mp hb).1 hc]
  · rfl

/-- Marks do not get into a name. -/
lemma fieldName_unmark (hb : Free isBlank word) :
    Identifier.fieldName (unmark word) = Identifier.fieldName word := by
  have hmark : Free isBlank (dropMark '!' word) := hb.subset (dropMark_subset _ _)
  have hboth : Free isBlank (dropMark '?' (dropMark '!' word)) := hmark.subset (dropMark_subset _ _)
  rw [unmark, trim_of_free hboth, fieldName_dropMark hmark (by decide),
    fieldName_dropMark hb (by decide)]

lemma dropMark_eq_iff {s : Text} :
    dropMark c word = s ↔ endsIn c word = false ∧ word = s ∨ word = s ++ [c] := by
  unfold dropMark
  split_ifs with hend
  · have hlast : word.getLast? = some c := by simpa [endsIn] using hend
    obtain ⟨front, rfl⟩ := List.getLast?_eq_some_iff.mp hlast
    simp
  · have hne : word ≠ s ++ [c] := by
      rintro rfl
      simp at hend
    simp [hend, hne]

/-- Words that consist of marks only. -/
lemma unmark_eq_nil_iff (hb : Free isBlank word) :
    unmark word = [] ↔ word = [] ∨ word = "!".toList ∨ word = "?".toList ∨ word = "?!".toList := by
  have hmark : Free isBlank (dropMark '!' word) := hb.subset (dropMark_subset _ _)
  rw [unmark, trim_of_free (hmark.subset (dropMark_subset _ _)), dropMark_eq_iff, dropMark_eq_iff,
    dropMark_eq_iff]
  constructor
  · rintro (⟨-, ⟨-, rfl⟩ | rfl⟩ | ⟨-, rfl⟩ | rfl)
    · exact .inl rfl
    · exact .inr (.inl rfl)
    · exact .inr (.inr (.inl rfl))
    · exact .inr (.inr (.inr rfl))
  · rintro (rfl | rfl | rfl | rfl) <;> decide

lemma markedName_eq (hb : Free isBlank word) :
    markedName word = if unmark word = [] then .error .emptyName
      else .ok ⟨Identifier.fieldName word, markOf word⟩ := by
  simp only [markedName, trim_of_free hb, fieldName_unmark hb, List.isEmpty_iff]

/-- A question mark at the end is the mark. -/
lemma markOf_of_question (h : endsIn '?' word = true) : markOf word = some false := by
  have hlast : word.getLast? = some '?' := by simpa [endsIn] using h
  simp [markOf, endsIn, hlast]

lemma unmark_concat_question (hb : Free isBlank word) : unmark (word ++ ['?']) = word := by
  have hdrop : dropMark '!' (word ++ ['?']) = word ++ ['?'] := dropMark_of_not_endsIn (by simp)
  rw [unmark, hdrop, dropMark_concat, trim_of_free hb]

/-- Stands neither in a name nor in a type. -/
def isStructural (c : Char) : Bool := isDelimiter c || isQuote c

section OptionalSegment
variable {options : Options} {type : Text}

lemma delimiters_of_structural (h : Piece isStructural word) : Piece isDelimiter word :=
  h.mono fun c hc => by simp [isStructural, hc]

lemma blanks_of_structural (h : Piece isStructural word) : Free isBlank word :=
  h.2.mono fun c hc => by simp [isStructural, isDelimiter_of_isBlank hc]

lemma unquote_of_structural (h : Piece isStructural word) : unquote word = word := by
  refine unquote_eq_self (blanks_of_structural h) fun c hc => ?_
  have hfree := h.2 c (List.mem_of_mem_head? hc)
  simp only [isStructural, Bool.or_eq_false_iff] at hfree
  exact hfree.2

/-- Without the segment both dialects read a name and a type alike. -/
lemma readOne_plain (options : Options) (style : Style) (hname : Piece isStructural name)
    (htype : Piece isStructural type) :
    readOne options style (join [':'] [name, type]) =
      if unmark name = [] then .error .emptyName
      else .ok ⟨Identifier.fieldName name, FieldType.resolve type,
        (markOf name).getD (!options.optionalByDefault)⟩ := by
  have hsegments : ∀ segment ∈ [name, type], Piece isDelimiter segment := by
    simp [delimiters_of_structural hname, delimiters_of_structural htype]
  have hquote := unquote_of_structural hname
  cases style with
  | spaced =>
    rw [readOne, Spaced.readItem_join options hsegments hquote]
    simp only [Spaced.namePart, hquote, List.contains_nil, Bool.false_and, Bool.false_eq_true,
      if_false, markedName_eq (blanks_of_structural hname)]
    split_ifs <;> rfl
  | slashed =>
    rw [readOne, Slashed.readChunk_join options hsegments hquote,
      markedName_eq (blanks_of_structural hname)]
    split_ifs
    · rfl
    · simp [Except.map, Slashed.field]

/-- A slashed chunk: the exclamation mark decides. -/
lemma readChunk_optional (options : Options) (hname : Piece isStructural name)
    (htype : Piece isStructural type) :
    Slashed.readChunk options (join [':'] [name, type, ['o']]) =
      if unmark name = [] then .error .emptyName
      else .ok ⟨Identifier.fieldName name, FieldType.resolve type, endsIn '!' name⟩ := by
  have hsegments : ∀ segment ∈ [name, type, ['o']], Piece isDelimiter segment := by
    simp only [List.forall_mem_cons]
    exact ⟨delimiters_of_structural hname, delimiters_of_structural htype, by decide, by simp⟩
  have hrequired : (markOf name).getD false = endsIn '!' name := by
    unfold markOf
    split_ifs with hrequired hoptional
    · simp [hrequired]
    · simpa using hrequired
    · simpa using hrequired
  rw [Slashed.readChunk_join options hsegments (unquote_of_structural hname),
    markedName_eq (blanks_of_structural hname)]
  split_ifs
  · rfl
  · simp [Except.map, Slashed.field, hrequired]

/-- A spaced item: a question mark is put behind the name and is the mark that is read. -/
lemma readItem_optional (options : Options) (hname : Piece isStructural name)
    (htype : Piece isStructural type) :
    Spaced.readItem options (join [':'] [name, type, ['o']]) =
      if name = "?".toList then .error .emptyName
      else .ok ⟨Identifier.fieldName name, FieldType.resolve type, false⟩ := by
  have hsegments : ∀ segment ∈ [name, type, ['o']], Piece isDelimiter segment := by
    simp only [List.forall_mem_cons]
    exact ⟨delimiters_of_structural hname, delimiters_of_structural htype, by decide, by simp⟩
  have hblank := blanks_of_structural hname
  have hquote := unquote_of_structural hname
  rw [Spaced.readItem_join options hsegments hquote]
  cases hend : endsIn '?' name with
  | true =>
    have hpart : Spaced.namePart name [['o']] = name := by simp [Spaced.namePart, hquote, hend]
    have hnone : unmark name = [] ↔ name = "?".toList := by
      rw [unmark_eq_nil_iff hblank]
      constructor
      · rintro (rfl | rfl | rfl | rfl)
        · exact absurd rfl hname.1
        · cases hend
        · rfl
        · cases hend
      · exact fun h => .inr (.inr (.inl h))
    rw [hpart, markedName_eq hblank, markOf_of_question hend]
    simp only [hnone]
    split_ifs <;> rfl
  | false =>
    have hpart : Spaced.namePart name [['o']] = name ++ ['?'] := by
      simp [Spaced.namePart, hquote, hend]
    have hne : name ≠ "?".toList := by
      rintro rfl
      cases hend
    have hmarked : Free isBlank (name ++ ['?']) := free_append.mpr ⟨hblank, by decide⟩
    rw [hpart, markedName_eq hmarked, markOf_of_question (by simp), unmark_concat_question hblank,
      if_neg hname.1, if_neg hne, Identifier.fieldName_concat hblank (by decide)]
    rfl

lemma exists_ok_ite_iff {fault : Fault} {field : Field} {p : Prop} [Decidable p] :
    (∃ f, (if p then .error fault else .ok field : Except Fault Field) = .ok f) ↔ ¬ p := by
  split_ifs with hp
  · simp [hp]
  · simp [hp]

lemma eq_of_ite_eq_ok {fault : Fault} {field f : Field} {p : Prop} [Decidable p]
    (h : (if p then .error fault else .ok field : Except Fault Field) = .ok f) : field = f := by
  split_ifs at h
  exact Except.ok.inj h

/-- What the segment does to one item. -/
lemma readOne_optional (options : Options) (style : Style) (hname : Piece isStructural name)
    (htype : Piece isStructural type) :
    ((∃ f', readOne options style (join [':'] [name, type, ['o']]) = .ok f') ↔
      (∃ f, readOne options style (join [':'] [name, type]) = .ok f) ∨
        style = .spaced ∧ (name = "!".toList ∨ name = "?!".toList)) ∧
    (∀ f f', readOne options style (join [':'] [name, type]) = .ok f →
      readOne options style (join [':'] [name, type, ['o']]) = .ok f' →
        f'.name = f.name ∧ f'.type = f.type) ∧
    ∀ f', readOne options style (join [':'] [name, type, ['o']]) = .ok f' →
      (f'.required = true ↔ style = .slashed ∧ endsIn '!' name = true) := by
  rw [readOne_plain options style hname htype]
  cases style with
  | spaced =>
    simp only [readOne, readItem_optional options hname htype, exists_ok_ite_iff]
    refine ⟨?_, ?_, ?_⟩
    · -- Of the words that are marks only, the question mark alone is not read with the segment either.
      rw [unmark_eq_nil_iff (blanks_of_structural hname)]
      constructor
      · intro hne
        by_cases hmark : name = "!".toList ∨ name = "?!".toList
        · exact .inr ⟨trivial, hmark⟩
        · left
          rintro (h | h | h | h)
          · exact hname.1 h
          · exact hmark (.inl h)
          · exact hne h
          · exact hmark (.inr h)
      · rintro (hnone | ⟨-, rfl | rfl⟩)
        · exact fun h => hnone (.inr (.inr (.inl h)))
        · decide
        · decide
    · intro f f' hf hf'
      rw [← eq_of_ite_eq_ok hf, ← eq_of_ite_eq_ok hf']
      exact ⟨rfl, rfl⟩
    · intro f' hf'
      rw [← eq_of_ite_eq_ok hf']
      simp
  | slashed =>
    simp only [readOne, readChunk_optional options hname htype, exists_ok_ite_iff]
    refine ⟨by simp, ?_, ?_⟩
    · intro f f' hf hf'
      rw [← eq_of_ite_eq_ok hf, ← eq_of_ite_eq_ok hf']
      exact ⟨rfl, rfl⟩
    · intro f' hf'
      rw [← eq_of_ite_eq_ok hf']
      simp

/-- Two texts of one dialect with one type word, whose items differ in one place. -/
structure OneItemApart (before after : List Text) (item item' raw raw' : Text) : Prop where
  style : styleOf (trim raw') = styleOf (trim raw)
  word : typeWord raw' = typeWord raw
  items : itemsOf raw = before ++ item :: after
  items' : itemsOf raw' = before ++ item' :: after

/-- The segment `o` behind the type of an item, with items around it that can be read. It changes
neither the name nor the type of the field, nor anything else in the record. A slashed chunk is read
with the segment if and only if it is read without it, and the field is required if and only if an
exclamation mark stands behind the name. A spaced item is never required with the segment, and is
also read when its name is nothing but an exclamation mark, with or without a question mark before. -/
theorem optional_segment_spares_name_and_type (options : Options) {name type : Text}
    (hname : Piece isStructural name) (htype : Piece isStructural type) {before after : List Text}
    {raw raw' : Text}
    (hapart : OneItemApart before after (join [':'] [name, type]) (join [':'] [name, type, ['o']])
      raw raw')
    (hword : typeWord raw ≠ [])
    (haround : ∀ item ∈ before ++ after, ∃ f, readOne options (styleOf (trim raw)) item = .ok f) :
    ((∃ r', read options raw' = .ok r') ↔ (∃ r, read options raw = .ok r) ∨
      styleOf (trim raw) = .spaced ∧ (name = "!".toList ∨ name = "?!".toList)) ∧
    (∀ r r', read options raw = .ok r → read options raw' = .ok r' →
      r'.name = r.name ∧ ∃ fields f f' rest, fields.length = before.length ∧
        r.fields = fields ++ f :: rest ∧ r'.fields = fields ++ f' :: rest ∧
        f'.name = f.name ∧ f'.type = f.type) ∧
    ∀ r', read options raw' = .ok r' → ∃ f', r'.fields[before.length]? = some f' ∧
      (f'.required = true ↔ styleOf (trim raw) = .slashed ∧ endsIn '!' name = true) := by
  rw [List.forall_mem_append] at haround
  obtain ⟨fields, hbefore⟩ := exists_fields haround.1
  obtain ⟨rest, hafter⟩ := exists_fields haround.2
  have hlength := hbefore.length_eq
  have hread (r : Record) := read_around_iff (r := r) hword hapart.items hbefore hafter
  have hread' (r : Record) : read options raw' = .ok r ↔
      ∃ f', readOne options (styleOf (trim raw)) (join [':'] [name, type, ['o']]) = .ok f' ∧
        r = ⟨Identifier.typeName (typeWord raw), fields ++ f' :: rest⟩ := by
    rw [← hapart.style] at hbefore hafter ⊢
    rw [← hapart.word] at hword ⊢
    exact read_around_iff hword hapart.items' hbefore hafter
  obtain ⟨haccepted, hsame, hrequired⟩ := readOne_optional options (styleOf (trim raw)) hname htype
  refine ⟨?_, ?_, ?_⟩
  · have hexists : (∃ r, read options raw = .ok r) ↔
        ∃ f, readOne options (styleOf (trim raw)) (join [':'] [name, type]) = .ok f := by
      simp only [hread]
      exact ⟨fun ⟨_, f, hf, _⟩ => ⟨f, hf⟩, fun ⟨f, hf⟩ => ⟨_, f, hf, rfl⟩⟩
    have hexists' : (∃ r', read options raw' = .ok r') ↔
        ∃ f', readOne options (styleOf (trim raw)) (join [':'] [name, type, ['o']]) = .ok f' := by
      simp only [hread']
      exact ⟨fun ⟨_, f', hf', _⟩ => ⟨f', hf'⟩, fun ⟨f', hf'⟩ => ⟨_, f', hf', rfl⟩⟩
    rw [hexists, hexists', haccepted]
  · intro r r' hr hr'
    obtain ⟨f, hf, rfl⟩ := (hread r).mp hr
    obtain ⟨f', hf', rfl⟩ := (hread' r').mp hr'
    exact ⟨rfl, fields, f, f', rest, hlength.symm, rfl, rfl, hsame f f' hf hf'⟩
  · intro r' hr'
    obtain ⟨f', hf', rfl⟩ := (hread' r').mp hr'
    exact ⟨f', by simp [hlength], hrequired f' hf'⟩

/-- In a chunk the exclamation mark stands, though fields are optional by default. -/
theorem exclamation_stands_in_chunk :
    ∃ r f, read { optionalByDefault := true } "type:User-id:n/email?!:s:o/tags:b".toList = .ok r ∧
      r.fields[1]? = some f ∧ f.required = true := by
  have hname : Piece isStructural "email?!".toList := by decide
  have htype : Piece isStructural "s".toList := by decide
  have hapart : OneItemApart ["id:n".toList] ["tags:b".toList]
      (join [':'] ["email?!".toList, "s".toList]) (join [':'] ["email?!".toList, "s".toList, ['o']])
      "type:User-id:n/email?!:s/tags:b".toList "type:User-id:n/email?!:s:o/tags:b".toList :=
    ⟨by decide, by decide +kernel, by decide +kernel, by decide +kernel⟩
  have haround : ∀ item ∈ ["id:n".toList] ++ ["tags:b".toList], ∃ f,
      readOne { optionalByDefault := true }
        (styleOf (trim "type:User-id:n/email?!:s/tags:b".toList)) item = .ok f := by
    simp only [List.cons_append, List.nil_append, List.forall_mem_cons]
    exact ⟨⟨⟨"id".toList, "number".toList, false⟩, by decide +kernel⟩,
      ⟨⟨"tags".toList, "boolean".toList, false⟩, by decide +kernel⟩, List.forall_mem_nil _⟩
  have hplain : read { optionalByDefault := true } "type:User-id:n/email?!:s/tags:b".toList =
      .ok ⟨"User".toList, [⟨"id".toList, "number".toList, false⟩,
        ⟨"email".toList, "string".toList, true⟩, ⟨"tags".toList, "boolean".toList, false⟩]⟩ := by
    decide +kernel
  obtain ⟨haccepted, -, hrequired⟩ := optional_segment_spares_name_and_type
    { optionalByDefault := true } hname htype hapart (by decide +kernel) haround
  obtain ⟨r, hr⟩ := haccepted.mpr (.inl ⟨_, hplain⟩)
  obtain ⟨f, hf, hiff⟩ := hrequired r hr
  exact ⟨r, f, hr, hf, hiff.mpr ⟨by decide, by decide⟩⟩

/-- In an item the segment puts the exclamation mark out of force, and lets a mark pass for a name. -/
theorem exclamation_falls_in_item :
    read {} "User email!:s".toList = .ok ⟨"User".toList, [⟨"email".toList, "string".toList, true⟩]⟩ ∧
      read {} "User email!:s:o".toList =
        .ok ⟨"User".toList, [⟨"email".toList, "string".toList, false⟩]⟩ ∧
      read {} "User !:s".toList = .error ⟨.emptyName, some "!:s".toList, some 0⟩ ∧
      read {} "User !:s:o".toList =
        .ok ⟨"User".toList, [⟨"prop".toList, "string".toList, false⟩]⟩ := by
  decide +kernel

end OptionalSegment

end Dialect
end Shorthand
