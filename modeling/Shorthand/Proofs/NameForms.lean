import Shorthand.Proofs.Dialect

/-! The names that sanitizing can give, spelled out character by character. The forms are at once
the range and the fixed points of the two sanitizers, and every record that is read has names of
these forms. -/
namespace Shorthand.Identifier
open Text

/-- A small letter or a dollar sign with letters, digits and dollar signs after it, but no reserved
word; an underscore and a digit with such characters after them; or a reserved word with an
underscore behind it. -/
def FieldForm (s : Text) : Prop :=
  (∃ c t, s = c :: t ∧ (c.isLower = true ∨ c = '$') ∧ (∀ d ∈ t, d.isAlphanum = true ∨ d = '$') ∧
    s ∉ reservedWords) ∨
  (∃ c t, s = '_' :: c :: t ∧ c.isDigit = true ∧ ∀ d ∈ t, d.isAlphanum = true ∨ d = '$') ∨
  ∃ w ∈ reservedWords, s = w ++ ['_']

/-- A capital, a digit or a dollar sign with letters, digits and dollar signs after it. -/
def TypeForm (s : Text) : Prop :=
  ∃ c t, s = c :: t ∧ (c.isUpper = true ∨ c.isDigit = true ∨ c = '$') ∧
    ∀ d ∈ t, d.isAlphanum = true ∨ d = '$'

/-- A letter, an underscore or a dollar sign with the same or digits after it. -/
def IsIdentifier (s : Text) : Prop :=
  ∃ c t, s = c :: t ∧ (c.isAlpha = true ∨ c = '_' ∨ c = '$') ∧
    ∀ d ∈ t, d.isAlphanum = true ∨ d = '_' ∨ d = '$'

section Forms
variable {c : Char} {s : Text}

lemma isKept_iff : isKept c = true ↔ c.isAlphanum = true ∨ c = '$' := by
  simp [isKept]

lemma run_isKept_iff : Run isKept s ↔ ∀ d ∈ s, d.isAlphanum = true ∨ d = '$' := by
  simp only [Run, isKept_iff]

/-- A kept character is a letter, a digit or a dollar sign. -/
lemma isKept_cases (h : isKept c = true) :
    c.isUpper = true ∨ c.isLower = true ∨ c.isDigit = true ∨ c = '$' := by
  simp only [isKept, Char.isAlphanum, Char.isAlpha, Bool.or_eq_true, beq_iff_eq] at h
  tauto

lemma isFieldName_iff : IsFieldName s ↔ FieldForm s := by
  constructor
  · intro h
    cases h with
    | @camel c t kept head noDigit free =>
      obtain ⟨hc, ht⟩ := run_cons.mp kept
      refine .inl ⟨c, t, rfl, ?_, run_isKept_iff.mp ht, free⟩
      have hcases := isKept_cases hc
      simpa [head, noDigit] using hcases
    | @guarded c t kept digit =>
      exact .inr (.inl ⟨c, t, rfl, digit, run_isKept_iff.mp (run_cons.mp kept).2⟩)
    | @avoided w reserved => exact .inr (.inr ⟨w, reserved, rfl⟩)
  · rintro (⟨c, t, rfl, hc, ht, hfree⟩ | ⟨c, t, rfl, hc, ht⟩ | ⟨w, hw, rfl⟩)
    · have hrun := run_isKept_iff.mpr ht
      rcases hc with hlower | rfl
      · have hupper : c.isUpper = false := by simpa using Char.not_isUpper_of_isLower hlower
        exact .camel (run_cons.mpr ⟨isKept_of_isLower hlower, hrun⟩) hupper
          (isDigit_of_isLower hlower) hfree
      · exact .camel (run_cons.mpr ⟨rfl, hrun⟩) rfl rfl hfree
    · have hkept : isKept c = true := by simp [isKept, Char.isAlphanum, hc]
      exact .guarded (run_cons.mpr ⟨hkept, run_isKept_iff.mpr ht⟩) hc
    · exact .avoided hw

lemma isTypeName_iff : IsTypeName s ↔ TypeForm s := by
  constructor
  · intro h
    obtain ⟨c, t, rfl⟩ := List.exists_cons_of_ne_nil h.ne_nil
    obtain ⟨hc, ht⟩ := run_cons.mp h.kept
    have hlower := h.head c (by simp)
    refine ⟨c, t, rfl, ?_, run_isKept_iff.mp ht⟩
    have hcases := isKept_cases hc
    simpa [hlower] using hcases
  · rintro ⟨c, t, rfl, hc, ht⟩
    have hboth : isKept c = true ∧ c.isLower = false := by
      rcases hc with hupper | hdigit | rfl
      · exact ⟨by simp [isKept, Char.isAlphanum, Char.isAlpha, hupper],
          by simpa using Char.not_isLower_of_isUpper hupper⟩
      · refine ⟨by simp [isKept, Char.isAlphanum, hdigit], ?_⟩
        by_contra hlower
        rw [isDigit_of_isLower (by simpa using hlower)] at hdigit
        cases hdigit
      · exact ⟨rfl, rfl⟩
    refine ⟨by simp, run_cons.mpr ⟨hboth.1, run_isKept_iff.mpr ht⟩, ?_⟩
    intro d hd
    obtain rfl : c = d := by simpa using hd
    exact hboth.2

lemma IsFieldName.not_reserved (h : IsFieldName s) : s ∉ reservedWords := by
  cases h with
  | camel _ _ _ free => exact free
  | guarded => exact underscore_not_reserved _
  | avoided reserved =>
    intro hmem
    have hlower := (reservedWords_lower _ hmem).2 '_' (by simp)
    exact absurd hlower (by decide)

lemma isNameChar_iff :
    isNameChar c = true ↔ c.isAlphanum = true ∨ c = '_' ∨ c = '$' := by
  simp only [isNameChar, isKept, Bool.or_eq_true, beq_iff_eq]
  tauto

lemma IsFieldName.isIdentifier (h : IsFieldName s) : IsIdentifier s := by
  have hchars := h.nameChars
  obtain ⟨c, t, rfl⟩ := List.exists_cons_of_ne_nil h.ne_nil
  obtain ⟨-, ht⟩ := run_cons.mp hchars
  refine ⟨c, t, rfl, ?_, fun d hd => isNameChar_iff.mp (ht d hd)⟩
  -- The first character is a digit in none of the three forms.
  rcases isFieldName_iff.mp h with ⟨_, _, heq, hc, -⟩ | ⟨_, _, heq, -⟩ | ⟨w, hw, heq⟩
  · obtain ⟨rfl, -⟩ := List.cons.inj heq
    rcases hc with hlower | rfl
    · exact .inl (by simp [Char.isAlpha, hlower])
    · exact .inr (.inr rfl)
  · obtain ⟨rfl, -⟩ := List.cons.inj heq
    exact .inr (.inl rfl)
  · obtain ⟨hne, hlower⟩ := reservedWords_lower w hw
    obtain ⟨e, u, rfl⟩ := List.exists_cons_of_ne_nil hne
    obtain ⟨rfl, -⟩ := List.cons.inj heq
    exact .inl (by simp [Char.isAlpha, (run_cons.mp hlower).1])

end Forms

/-- The forms are the range and the fixed points of the sanitizers, and all names of a record that is
read, in either dialect, are fixed points and can be used as they are. -/
theorem sanitized_names_have_exact_forms :
    (∀ raw, FieldForm (fieldName raw)) ∧
      (∀ raw, TypeForm (typeName raw) ∧ typeName raw ∉ reservedWords) ∧
      (∀ s, FieldForm s → fieldName s = s) ∧
      (∀ s, TypeForm s → typeName s = s) ∧
      ∀ (options : Options) (raw : Text) (r : Record), Dialect.read options raw = .ok r →
        r.fields ≠ [] ∧
        (∀ f ∈ r.fields,
          IsIdentifier f.name ∧ f.name ∉ reservedWords ∧ fieldName f.name = f.name) ∧
        typeName r.name = r.name := by
  refine ⟨fun raw => isFieldName_iff.mp (isFieldName_fieldName raw), fun raw => ?_,
    fun s hs => fieldName_eq_self (isFieldName_iff.mpr hs),
    fun s hs => typeName_eq_self (isTypeName_iff.mpr hs), ?_⟩
  · have hname := isTypeName_typeName raw
    exact ⟨isTypeName_iff.mp hname, hname.not_reserved⟩
  · intro options raw r hread
    obtain ⟨hname, hne, hfields⟩ := Dialect.read_names hread
    refine ⟨hne, fun f hf => ?_, typeName_eq_self hname⟩
    have hfield := hfields f hf
    exact ⟨hfield.isIdentifier, hfield.not_reserved, fieldName_eq_self hfield⟩

/-- A slashed text whose field names take all three forms. -/
theorem names_of_sample_have_exact_forms :
    ∃ r, Dialect.read {} "type:1st $user-2nd place:n/class:s/$ID?:b".toList = .ok r ∧
      r.fields.map Field.name = ["_2ndPlace".toList, "class_".toList, "$ID".toList] ∧
      r.fields ≠ [] ∧
      (∀ f ∈ r.fields,
        IsIdentifier f.name ∧ f.name ∉ reservedWords ∧ fieldName f.name = f.name) ∧
      typeName r.name = r.name := by
  have hread : Dialect.read {} "type:1st $user-2nd place:n/class:s/$ID?:b".toList =
      .ok ⟨"1st$user".toList, [⟨"_2ndPlace".toList, "number".toList, true⟩,
        ⟨"class_".toList, "string".toList, true⟩, ⟨"$ID".toList, "boolean".toList, false⟩]⟩ := by
    decide +kernel
  exact ⟨_, hread, rfl, sanitized_names_have_exact_forms.2.2.2.2 _ _ _ hread⟩

end Shorthand.Identifier
