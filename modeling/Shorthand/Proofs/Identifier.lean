import Shorthand.Identifier.Sanitizer
import Shorthand.Proofs.Text

/-! The range of the two sanitizers: which texts can be names of types and of fields, and that
each of these names is left as it is when it is sanitized again. -/
namespace Shorthand.Identifier
open Text

/-- Characters of a sanitized name. The underscore only stands before a digit or after a reserved
word. -/
def isNameChar (c : Char) : Bool := isKept c || c == '_'

/-- Names of types: kept characters, the first of them no small letter. -/
structure IsTypeName (s : Text) : Prop where
  ne_nil : s ≠ []
  kept : Run isKept s
  head : ∀ c ∈ s.head?, c.isLower = false

/-- Names of fields: kept characters after a small letter or a dollar sign, the same after a digit
that is guarded, or a reserved word made harmless. -/
inductive IsFieldName : Text → Prop
  | camel {c : Char} {s : Text} (kept : Run isKept (c :: s)) (head : c.isUpper = false)
      (noDigit : c.isDigit = false) (free : c :: s ∉ reservedWords) : IsFieldName (c :: s)
  | guarded {c : Char} {s : Text} (kept : Run isKept (c :: s)) (digit : c.isDigit = true) :
      IsFieldName ('_' :: c :: s)
  | avoided {s : Text} (reserved : s ∈ reservedWords) : IsFieldName (s ++ ['_'])

lemma isUpper_of_isDigit {c : Char} (h : c.isDigit = true) : c.isUpper = false := by
  have hd := isDigit_iff.mp h
  by_contra hn
  have hu := isUpper_iff.mp (by simpa using hn)
  omega

lemma isDigit_of_isLower {c : Char} (h : c.isLower = true) : c.isDigit = false := by
  have hl := isLower_iff.mp h
  by_contra hn
  have hd := isDigit_iff.mp (by simpa using hn)
  omega

lemma isAlpha_of_isDigit {c : Char} (h : c.isDigit = true) : c.isAlpha = false := by
  have hlower : c.isLower = false := by
    by_contra hn
    rw [isDigit_of_isLower (by simpa using hn)] at h
    cases h
  rw [Char.isAlpha, isUpper_of_isDigit h, hlower]
  rfl

lemma isKept_bounds {c : Char} (h : isKept c = true) :
    c.toNat = 36 ∨ (48 ≤ c.toNat ∧ c.toNat ≤ 57) ∨ (65 ≤ c.toNat ∧ c.toNat ≤ 90) ∨
      (97 ≤ c.toNat ∧ c.toNat ≤ 122) := by
  simp only [isKept, Char.isAlphanum, Char.isAlpha, Bool.or_eq_true, beq_iff_eq] at h
  rcases h with ((hu | hl) | hd) | rfl
  · exact Or.inr (Or.inr (Or.inl (isUpper_iff.mp hu)))
  · exact Or.inr (Or.inr (Or.inr (isLower_iff.mp hl)))
  · exact Or.inr (Or.inl (isDigit_iff.mp hd))
  · exact Or.inl rfl

lemma isBlank_of_isKept {c : Char} (h : isKept c = true) : isBlank c = false := by
  have hb := isKept_bounds h
  simp only [isBlank, Bool.or_eq_false_iff, Bool.and_eq_false_iff, decide_eq_false_iff_not,
    beq_eq_false_iff_ne, not_le, ne_eq]
  omega

lemma isSeparator_of_isKept {c : Char} (h : isKept c = true) : isSeparator c = false := by
  have hd : c ≠ '-' := by rintro rfl; exact absurd h (by decide)
  have hu : c ≠ '_' := by rintro rfl; exact absurd h (by decide)
  simp [isSeparator, hd, hu, isBlank_of_isKept h]

lemma isBlank_of_isNameChar {c : Char} (h : isNameChar c = true) : isBlank c = false := by
  rcases Bool.or_eq_true_iff.mp h with hk | hu
  · exact isBlank_of_isKept hk
  · rw [beq_iff_eq.mp hu]
    rfl

lemma isKept_of_isLower {c : Char} (h : c.isLower = true) : isKept c = true := by
  simp [isKept, Char.isAlphanum, Char.isAlpha, h]

lemma isKept_toUpper {c : Char} (h : isKept c = true) : isKept c.toUpper = true := by
  by_cases hl : c.isLower = true
  · have ha : c.toUpper.isAlpha = true := by simp [Char.isAlpha, hl]
    simp [isKept, Char.isAlphanum, ha]
  · rwa [Char.toUpper_eq_of_not_isLower hl]

lemma isKept_toLower {c : Char} (h : isKept c = true) : isKept c.toLower = true := by
  by_cases hu : c.isUpper = true
  · have ha : c.toLower.isAlpha = true := by simp [Char.isAlpha, hu]
    simp [isKept, Char.isAlphanum, ha]
  · rwa [Char.toLower_eq_of_not_isUpper hu]

/-- The reserved words are words of small letters. -/
lemma reservedWords_lower : ∀ w ∈ reservedWords, w ≠ [] ∧ Run Char.isLower w := by
  decide

lemma run_isKept_of_reserved {w : Text} (h : w ∈ reservedWords) : Run isKept w :=
  fun c hc => isKept_of_isLower ((reservedWords_lower w h).2 c hc)

section Case

lemma capitalize_run {s : Text} (h : Run isKept s) : Run isKept (capitalize s) := by
  cases s with
  | nil => exact h
  | cons c s =>
    obtain ⟨hc, hs⟩ := run_cons.mp h
    exact run_cons.mpr ⟨isKept_toUpper hc, hs⟩

lemma capitalize_head (s : Text) : ∀ c ∈ (capitalize s).head?, c.isLower = false := by
  cases s with
  | nil => simp [capitalize]
  | cons c s => simp [capitalize]

lemma capitalize_eq_self {s : Text} (h : ∀ c ∈ s.head?, c.isLower = false) :
    capitalize s = s := by
  cases s with
  | nil => rfl
  | cons c s =>
    have hc : c.isLower = false := h c (by simp)
    rw [capitalize, Char.toUpper_eq_of_not_isLower (by simp [hc])]

lemma decapitalize_capitalize {c : Char} {s : Text} (h : c.isUpper = false) :
    decapitalize (capitalize (c :: s)) = c :: s := by
  rw [capitalize, decapitalize, Char.toLower_toUpper_eq_toLower,
    Char.toLower_eq_of_not_isUpper (by simp [h])]

lemma filter_isKept_run (s : Text) : Run isKept (s.filter isKept) :=
  fun _ hc => (List.mem_filter.mp hc).2

lemma run_flatMap_capitalize (words : List Text) :
    Run isKept (words.flatMap fun word => capitalize (word.filter isKept)) := by
  intro c hc
  obtain ⟨word, -, hword⟩ := List.mem_flatMap.mp hc
  exact capitalize_run (filter_isKept_run word) c hword

lemma head_flatMap_capitalize (words : List Text) :
    ∀ c ∈ (words.flatMap fun word => capitalize (word.filter isKept)).head?,
      c.isLower = false := by
  induction words with
  | nil => simp
  | cons word words ih =>
    intro c hc
    rw [List.flatMap_cons, List.head?_append] at hc
    cases hw : (capitalize (word.filter isKept)).head? with
    | none => exact ih c (by simpa [hw] using hc)
    | some d =>
      have hd : d = c := by simpa [hw] using hc
      subst hd
      exact capitalize_head (word.filter isKept) d (by simp [hw])

lemma pascal_run (s : Text) : Run isKept (pascal s) := run_flatMap_capitalize _

lemma pascal_head (s : Text) : ∀ c ∈ (pascal s).head?, c.isLower = false :=
  head_flatMap_capitalize _

lemma pascal_of_run {s : Text} (h : Run isKept s) : pascal s = capitalize s := by
  have hsep : ∀ c ∈ s, isSeparator c = false := fun c hc => isSeparator_of_isKept (h c hc)
  rw [pascal, List.splitOnP_eq_singleton hsep, List.flatMap_singleton,
    List.filter_eq_self.mpr (fun c hc => h c hc)]

/-- At a separator, what is before it and what is behind it stand side by side. -/
lemma pascal_append_cons {c : Char} (hc : isSeparator c = true) (s t : Text) :
    pascal (s ++ c :: t) = pascal s ++ pascal t := by
  rw [pascal, List.splitOnP_append_cons s t hc, List.flatMap_append, ← pascal, ← pascal]

@[simp] lemma pascal_nil : pascal [] = [] := rfl

lemma pascal_underscore_cons {s : Text} (h : Run isKept s) :
    pascal ('_' :: s) = capitalize s := by
  rw [← List.nil_append ('_' :: s), pascal_append_cons rfl, pascal_nil, List.nil_append,
    pascal_of_run h]

lemma pascal_append_underscore (s : Text) : pascal (s ++ ['_']) = pascal s := by
  rw [pascal_append_cons rfl, pascal_nil, List.append_nil]

lemma camel_run (s : Text) : Run isKept (camel s) := by
  have h := pascal_run s
  rw [camel]
  cases hp : pascal s with
  | nil => simp [decapitalize]
  | cons c t =>
    rw [hp] at h
    obtain ⟨hc, ht⟩ := run_cons.mp h
    exact run_cons.mpr ⟨isKept_toLower hc, ht⟩

lemma camel_head (s : Text) : ∀ c ∈ (camel s).head?, c.isUpper = false := by
  rw [camel]
  cases pascal s with
  | nil => simp [decapitalize]
  | cons c t => simp [decapitalize]

end Case

lemma newline_not_mem {s : Text} (h : Run isNameChar s) : '\n' ∉ s :=
  fun hmem => absurd (h _ hmem) (by decide)

lemma trim_of_nameChars {s : Text} (h : Run isNameChar s) : trim s = s :=
  trim_of_free fun c hc => isBlank_of_isNameChar (h c hc)

lemma run_nameChar {s : Text} (h : Run isKept s) : Run isNameChar s := by
  intro c hc
  simp [isNameChar, h c hc]

section Avoid
variable {z : Sanitizer} {s ending : Text}

lemma Sanitizer.avoid_of_free (h : s ∉ z.reserved) : z.avoid ending s = s := by
  have hr : z.isReserved s = false := by simpa [isReserved] using h
  simp [avoid, hr]

lemma Sanitizer.avoid_of_reserved (h : s ∈ z.reserved) : z.avoid ending s = s ++ ending := by
  have hr : z.isReserved s = true := by simpa [isReserved] using h
  simp [avoid, hr]

end Avoid

section TypeName

lemma IsTypeName.not_reserved {s : Text} (h : IsTypeName s) : s ∉ reservedWords := by
  intro hmem
  obtain ⟨hne, hlower⟩ := reservedWords_lower s hmem
  obtain ⟨c, t, rfl⟩ := List.exists_cons_of_ne_nil hne
  have hc := (run_cons.mp hlower).1
  rw [h.head c (by simp)] at hc
  cases hc

lemma IsTypeName.nameChars {s : Text} (h : IsTypeName s) : Run isNameChar s := run_nameChar h.kept

lemma IsTypeName.append {s t : Text} (h : IsTypeName s) (ht : Run isKept t) : IsTypeName (s ++ t) := by
  obtain ⟨c, u, rfl⟩ := List.exists_cons_of_ne_nil h.ne_nil
  exact ⟨by simp, run_append.mpr ⟨h.kept, ht⟩, by simpa using h.head⟩

lemma isTypeName_pascal (raw : Text) :
    IsTypeName (if (pascal (trim raw)).isEmpty then "Type".toList else pascal (trim raw)) := by
  split_ifs with hempty
  · exact ⟨by decide, by decide, by simp⟩
  · exact ⟨by simpa using hempty, pascal_run _, pascal_head _⟩

/-- Of a name of a type, a sanitizer looks only at whether it is reserved. -/
lemma IsTypeName.sanitized {s : Text} (h : IsTypeName s) (z : Sanitizer) :
    z.typeName s = z.avoid z.typeEnding s := by
  have hp : pascal (trim s) = s := by
    rw [trim_of_nameChars h.nameChars, pascal_of_run h.kept, capitalize_eq_self h.head]
  have hne : s.isEmpty = false := by simpa using h.ne_nil
  rw [Sanitizer.typeName, hp]
  simp only [hne, Bool.false_eq_true, if_false]

/-- With its capital, the name of a type is never a reserved word. -/
lemma typeName_eq_pascal (raw : Text) :
    typeName raw = if (pascal (trim raw)).isEmpty then "Type".toList else pascal (trim raw) := by
  rw [typeName, Sanitizer.typeName]
  exact Sanitizer.avoid_of_free (isTypeName_pascal raw).not_reserved

/-- Whatever the raw word is, a name of a type comes out. -/
theorem isTypeName_typeName (raw : Text) : IsTypeName (typeName raw) := by
  rw [typeName_eq_pascal]
  exact isTypeName_pascal raw

/-- A name of a type is its own sanitized form. -/
theorem typeName_eq_self {s : Text} (h : IsTypeName s) : typeName s = s := by
  rw [typeName, h.sanitized]
  exact Sanitizer.avoid_of_free h.not_reserved

end TypeName

section FieldName

/-- What is made of a word before the reserved words are looked at: kept characters after a small
letter or a dollar sign, or the same after a digit that is guarded. -/
inductive IsFieldStem : Text → Prop
  | plain {c : Char} {s : Text} (kept : Run isKept (c :: s)) (head : c.isUpper = false)
      (noDigit : c.isDigit = false) : IsFieldStem (c :: s)
  | guarded {c : Char} {s : Text} (kept : Run isKept (c :: s)) (digit : c.isDigit = true) :
      IsFieldStem ('_' :: c :: s)

lemma IsFieldName.ne_nil {s : Text} (h : IsFieldName s) : s ≠ [] := by
  cases h <;> simp

lemma IsFieldStem.nameChars {s : Text} (h : IsFieldStem s) : Run isNameChar s := by
  cases h with
  | plain kept => exact run_nameChar kept
  | guarded kept => exact run_cons.mpr ⟨rfl, run_nameChar kept⟩

lemma isFieldStem_of_reserved {w : Text} (h : w ∈ reservedWords) : IsFieldStem w := by
  obtain ⟨hne, hlower⟩ := reservedWords_lower w h
  obtain ⟨c, t, rfl⟩ := List.exists_cons_of_ne_nil hne
  have hl : c.isLower = true := (run_cons.mp hlower).1
  exact .plain (run_isKept_of_reserved h) (by simpa using Char.not_isUpper_of_isLower hl)
    (isDigit_of_isLower hl)

lemma IsFieldName.nameChars {s : Text} (h : IsFieldName s) : Run isNameChar s := by
  cases h with
  | camel kept head noDigit => exact (IsFieldStem.plain kept head noDigit).nameChars
  | guarded kept digit => exact (IsFieldStem.guarded kept digit).nameChars
  | avoided reserved =>
    exact run_append.mpr ⟨(isFieldStem_of_reserved reserved).nameChars, by decide⟩

lemma guardDigit_of_digit {c : Char} {s : Text} (h : c.isDigit = true) :
    Sanitizer.guardDigit (c :: s) = '_' :: c :: s := by
  simp [Sanitizer.guardDigit, h]

lemma guardDigit_of_no_digit {c : Char} {s : Text} (h : c.isDigit = false) :
    Sanitizer.guardDigit (c :: s) = c :: s := by
  simp [Sanitizer.guardDigit, h]

lemma Sanitizer.fieldName_of_camel (z : Sanitizer) {raw : Text} {c : Char} {s : Text}
    (h : camel (trim raw) = c :: s) :
    z.fieldName raw = z.avoid z.fieldEnding (guardDigit (c :: s)) := by
  rw [fieldName, h]
  rfl

/-- Whatever the raw word is, a sanitizer makes a stem of it and then looks only at whether that is
reserved. -/
lemma Sanitizer.exists_stem (z : Sanitizer) (raw : Text) :
    ∃ s, IsFieldStem s ∧ z.fieldName raw = z.avoid z.fieldEnding s := by
  cases hcamel : camel (trim raw) with
  | nil =>
    refine ⟨"prop".toList, .plain (by decide) rfl rfl, ?_⟩
    rw [fieldName, hcamel]
    rfl
  | cons c s =>
    have kept : Run isKept (c :: s) := hcamel ▸ camel_run (trim raw)
    have head : c.isUpper = false := camel_head (trim raw) c (by simp [hcamel])
    rw [z.fieldName_of_camel hcamel]
    cases hdigit : c.isDigit with
    | true => exact ⟨_, .guarded kept hdigit, by rw [guardDigit_of_digit hdigit]⟩
    | false => exact ⟨_, .plain kept head hdigit, by rw [guardDigit_of_no_digit hdigit]⟩

/-- A stem stays as it is. The underscore of a guarded one is a separator, so it is dropped and put
back. -/
lemma IsFieldStem.sanitized {s : Text} (h : IsFieldStem s) (z : Sanitizer) :
    z.fieldName s = z.avoid z.fieldEnding s := by
  have htrim := trim_of_nameChars h.nameChars
  cases h with
  | @plain c s kept head noDigit =>
    have hc : camel (trim (c :: s)) = c :: s := by
      rw [htrim, camel, pascal_of_run kept, decapitalize_capitalize head]
    rw [z.fieldName_of_camel hc, guardDigit_of_no_digit noDigit]
  | @guarded c s kept digit =>
    have hc : camel (trim ('_' :: c :: s)) = c :: s := by
      rw [htrim, camel, pascal_underscore_cons kept,
        decapitalize_capitalize (isUpper_of_isDigit digit)]
    rw [z.fieldName_of_camel hc, guardDigit_of_digit digit]

/-- Without the underscore behind it the stem comes up again. -/
lemma IsFieldStem.sanitized_append {s : Text} (h : IsFieldStem s) (z : Sanitizer) :
    z.fieldName (s ++ ['_']) = z.avoid z.fieldEnding s := by
  have hchars : Run isNameChar (s ++ ['_']) := run_append.mpr ⟨h.nameChars, by decide⟩
  have hcamel : camel (trim (s ++ ['_'])) = camel (trim s) := by
    rw [trim_of_nameChars hchars, trim_of_nameChars h.nameChars, camel, camel,
      pascal_append_underscore]
  rw [← h.sanitized z, Sanitizer.fieldName, Sanitizer.fieldName, hcamel]

lemma underscore_not_reserved (s : Text) : '_' :: s ∉ reservedWords := by
  intro hmem
  have hlower := (run_cons.mp (reservedWords_lower _ hmem).2).1
  exact absurd hlower (by decide)

/-- Whatever the raw word is, a name of a field comes out. -/
theorem isFieldName_fieldName (raw : Text) : IsFieldName (fieldName raw) := by
  obtain ⟨s, hs, hname⟩ := typescript.exists_stem raw
  rw [fieldName, hname]
  by_cases hmem : s ∈ reservedWords
  · rw [Sanitizer.avoid_of_reserved hmem]
    exact .avoided hmem
  · rw [Sanitizer.avoid_of_free hmem]
    cases hs with
    | plain kept head noDigit => exact .camel kept head noDigit hmem
    | guarded kept digit => exact .guarded kept digit

/-- A name of a field is its own sanitized form. -/
theorem fieldName_eq_self {s : Text} (h : IsFieldName s) : fieldName s = s := by
  cases h with
  | camel kept head noDigit free =>
    rw [fieldName, (IsFieldStem.plain kept head noDigit).sanitized]
    exact Sanitizer.avoid_of_free free
  | guarded kept digit =>
    rw [fieldName, (IsFieldStem.guarded kept digit).sanitized]
    exact Sanitizer.avoid_of_free (underscore_not_reserved _)
  | avoided reserved =>
    rw [fieldName, (isFieldStem_of_reserved reserved).sanitized_append]
    exact Sanitizer.avoid_of_reserved reserved

end FieldName

section Kebab

lemma lowerAfter_of_ascii {s : Text} (h : ∀ c ∈ s, c.toNat < 0x80) (before : Text) :
    lowerAfter before s = s.map Char.toLower := by
  induction s generalizing before with
  | nil => rfl
  | cons c s ih =>
    rw [List.forall_mem_cons] at h
    have hsigma : c.toNat ≠ 0x3A3 := by omega
    simp [lowerAfter, lowerChar, hsigma, h.1, ih h.2]

lemma hyphenate_subset (s : Text) : hyphenate s ⊆ '-' :: s := by
  fun_induction hyphenate s with
  | case1 => simp
  | case2 c => simp
  | case3 c d s _ ih =>
    intro e he
    have htail := @ih e
    simp only [List.mem_cons] at he htail ⊢
    tauto
  | case4 c d s _ ih =>
    intro e he
    have htail := @ih e
    simp only [List.mem_cons] at he htail ⊢
    tauto

lemma exists_hyphenate_cons (c : Char) (s : Text) : ∃ t, hyphenate (c :: s) = c :: t := by
  cases s with
  | nil => exact ⟨[], rfl⟩
  | cons d s =>
    rw [hyphenate]
    split_ifs
    · exact ⟨_, rfl⟩
    · exact ⟨_, rfl⟩

lemma hyphenateGaps_eq_self {s : Text} (h : ∀ c ∈ s, c ≠ '_' ∧ isBlank c = false) :
    hyphenateGaps false s = s := by
  induction s with
  | nil => rfl
  | cons c s ih =>
    rw [List.forall_mem_cons] at h
    simp [hyphenateGaps, h.1, ih h.2]

lemma hyphenate_chars {name : Text} (h : Run isKept name) :
    ∀ c ∈ hyphenate name, isKept c = true ∨ c = '-' := by
  intro c hc
  rcases List.mem_cons.mp (hyphenate_subset _ hc) with rfl | hc
  · exact .inr rfl
  · exact .inl (h c hc)

/-- There are no gaps in the name of a type, and all of it is ASCII. -/
lemma kebab_eq {name : Text} (h : Run isKept name) :
    kebab name = (hyphenate name).map Char.toLower := by
  have hgaps : ∀ c ∈ hyphenate name, c ≠ '_' ∧ isBlank c = false := by
    intro c hc
    rcases hyphenate_chars h c hc with hkept | rfl
    · exact ⟨ne_of_class hkept rfl, isBlank_of_isKept hkept⟩
    · decide
  have hascii : ∀ c ∈ hyphenate name, c.toNat < 0x80 := by
    intro c hc
    rcases hyphenate_chars h c hc with hkept | rfl
    · have hbounds := isKept_bounds hkept
      omega
    · decide
  rw [kebab, hyphenateGaps_eq_self hgaps, Text.lower, lowerAfter_of_ascii hascii]

/-- The name of a file for a type is made of kept characters and hyphens. -/
lemma kebab_chars {name : Text} (h : Run isKept name) :
    ∀ c ∈ kebab name, isKept c = true ∨ c = '-' := by
  intro c hc
  rw [kebab_eq h] at hc
  obtain ⟨d, hd, rfl⟩ := List.mem_map.mp hc
  rcases hyphenate_chars h d hd with hkept | rfl
  · exact .inl (isKept_toLower hkept)
  · exact .inr rfl

/-- A small letter, a digit or a dollar sign with the same or hyphens after it. -/
def IsStem (s : Text) : Prop :=
  ∃ c t, s = c :: t ∧ (c.isLower = true ∨ c.isDigit = true ∨ c = '$') ∧
    ∀ d ∈ t, d.isLower = true ∨ d.isDigit = true ∨ d = '$' ∨ d = '-'

lemma toLower_cases {c : Char} (h : isKept c = true) :
    c.toLower.isLower = true ∨ c.toLower.isDigit = true ∨ c.toLower = '$' := by
  simp only [isKept, Char.isAlphanum, Bool.or_eq_true, beq_iff_eq] at h
  rcases h with (halpha | hdigit) | rfl
  · exact .inl (by simpa using halpha)
  · rw [Char.toLower_eq_of_not_isUpper (by simp [isUpper_of_isDigit hdigit])]
    exact .inr (.inl hdigit)
  · exact .inr (.inr rfl)

/-- The file name of a type never begins with a hyphen, and has no capitals in it. -/
theorem isStem_kebab {name : Text} (hne : name ≠ []) (h : Run isKept name) : IsStem (kebab name) := by
  obtain ⟨c, s, rfl⟩ := List.exists_cons_of_ne_nil hne
  obtain ⟨t, ht⟩ := exists_hyphenate_cons c s
  refine ⟨c.toLower, t.map Char.toLower, by rw [kebab_eq h, ht, List.map_cons],
    toLower_cases (run_cons.mp h).1, fun d hd => ?_⟩
  obtain ⟨e, he, rfl⟩ := List.mem_map.mp hd
  rcases hyphenate_chars h e (by simp [ht, he]) with hkept | rfl
  · rcases toLower_cases hkept with hlower | hdigit | hdollar
    · exact .inl hlower
    · exact .inr (.inl hdigit)
    · exact .inr (.inr (.inl hdollar))
  · exact .inr (.inr (.inr rfl))

end Kebab
end Shorthand.Identifier
