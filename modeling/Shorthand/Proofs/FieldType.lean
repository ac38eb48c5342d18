import Shorthand.FieldType.Inference
import Shorthand.Proofs.Text

/-! Resolving type words: what resolving does at each depth of array brackets, that resolved types
stay as they are, and which characters can come in. -/
namespace Shorthand.FieldType
open Text

lemma isArray_iff {type : Text} : isArray type = true ↔ ∃ e, type = e ++ brackets := by
  rw [isArray, endsWith, List.isSuffixOf_iff_suffix]
  exact ⟨fun ⟨e, h⟩ => ⟨e, h.symm⟩, fun ⟨e, h⟩ => ⟨e, h.symm⟩⟩

lemma brackets_eq : brackets = ['[', ']'] := rfl

@[simp] lemma isArray_append (e : Text) : isArray (e ++ brackets) = true := isArray_iff.mpr ⟨e, rfl⟩

@[simp] lemma element_append (e : Text) : element (e ++ brackets) = e := by
  have h : e ++ brackets = (e ++ ['[']) ++ [']'] := by simp [brackets_eq]
  rw [element, h, List.dropLast_concat, List.dropLast_concat]

lemma resolve_of_array {raw e : Text} (h : trim raw = e ++ brackets) :
    resolve raw = resolve e ++ brackets := by
  rw [resolve, h, isArray_append, element_append]
  rfl

lemma resolve_of_plain {raw : Text} (h : isArray (trim raw) = false) :
    resolve raw = expand (trim raw) := by
  rw [resolve, h]
  rfl

/-- Induction along the brackets of a type word. -/
theorem bracketInduction {motive : Text → Prop}
    (array : ∀ raw e, trim raw = e ++ brackets → motive e → motive raw)
    (plain : ∀ raw, isArray (trim raw) = false → motive raw) (raw : Text) : motive raw := by
  fun_induction resolve raw with
  | case1 raw h ih =>
    obtain ⟨e, he⟩ := isArray_iff.mp h
    rw [he, element_append] at ih
    exact array raw e he ih
  | case2 raw h => exact plain raw (by simpa using h)

/-- The types that have an abbreviation. -/
def builtins : List Text :=
  ["string".toList, "number".toList, "boolean".toList, "Date".toList, "unknown".toList, "any".toList]

lemma expand_mem (word : Text) : expand word = word ∨ expand word ∈ builtins := by
  unfold expand
  split <;> simp [builtins]

lemma builtins_letters : ∀ type ∈ builtins, type ≠ [] ∧ Run Char.isAlpha type := by decide

lemma expand_of_builtins : ∀ type ∈ builtins, expand type = type := by decide

lemma isArray_of_letters {type : Text} (h : Run Char.isAlpha type) : isArray type = false := by
  by_contra hn
  obtain ⟨e, rfl⟩ := isArray_iff.mp (by simpa using hn)
  exact absurd (h '[' (by simp [brackets_eq])) (by decide)

lemma expand_trim_plain {raw : Text} (h : isArray (trim raw) = false) :
    isArray (expand (trim raw)) = false ∧ trim (expand (trim raw)) = expand (trim raw) := by
  rcases expand_mem (trim raw) with he | hmem
  · rw [he]
    exact ⟨h, trim_trim raw⟩
  · have hletters := (builtins_letters _ hmem).2
    exact ⟨isArray_of_letters hletters, trim_of_free fun c hc => isBlank_of_isAlpha (hletters c hc)⟩

/-- An abbreviation stands for a type that is no abbreviation. -/
lemma expand_expand (word : Text) : expand (expand word) = expand word := by
  rcases expand_mem word with he | hmem
  · rw [he, he]
  · exact expand_of_builtins _ hmem

/-- Resolved types have no blank space around them. -/
lemma trim_resolve (raw : Text) : trim (resolve raw) = resolve raw := by
  have hends : (∀ c ∈ (resolve raw).head?, isBlank c = false) ∧
      (∀ c ∈ (resolve raw).getLast?, isBlank c = false) := by
    induction raw using bracketInduction with
    | array raw e he ih =>
      rw [resolve_of_array he]
      refine ⟨?_, ?_⟩
      · cases hr : resolve e with
        | nil =>
          simp [brackets_eq, isBlank]
        | cons c t =>
          rw [hr] at ih
          simpa using ih.1
      · simp [brackets_eq, isBlank]
    | plain raw h =>
      rw [resolve_of_plain h, ← (expand_trim_plain h).2]
      exact ⟨head_trim _, last_trim _⟩
  exact trim_of_ends hends.1 hends.2

/-- Resolving a resolved type changes nothing, at any depth of brackets. -/
theorem resolve_resolve (raw : Text) : resolve (resolve raw) = resolve raw := by
  induction raw using bracketInduction with
  | array raw e he ih =>
    -- Nothing blank is left at the end, so the same brackets come off again.
    have htrim : trim (resolve raw) = resolve e ++ brackets := by
      rw [trim_resolve, resolve_of_array he]
    rw [resolve_of_array htrim, ih, resolve_of_array he]
  | plain raw h =>
    obtain ⟨hplain, htrim⟩ := expand_trim_plain h
    rw [resolve_of_plain h, resolve_of_plain (by rw [htrim, hplain]), htrim, expand_expand]

/-- Resolving brings in nothing but letters. -/
theorem resolve_free {cut : Char → Bool} {raw : Text} (hcut : ∀ c, c.isAlpha = true → cut c = false)
    (h : Free cut raw) : Free cut (resolve raw) := by
  induction raw using bracketInduction with
  | array raw e he ih =>
    have ht : Free cut (e ++ brackets) := he ▸ h.subset (trim_subset raw)
    obtain ⟨hfe, hfb⟩ := free_append.mp ht
    rw [resolve_of_array he]
    exact free_append.mpr ⟨ih hfe, hfb⟩
  | plain raw hp =>
    rw [resolve_of_plain hp]
    rcases expand_mem (trim raw) with he | hmem
    · rw [he]
      exact h.subset (trim_subset raw)
    · exact fun c hc => hcut c ((builtins_letters _ hmem).2 c hc)

lemma resolve_ne_nil {raw : Text} (h : trim raw ≠ []) : resolve raw ≠ [] := by
  by_cases ha : isArray (trim raw) = true
  · obtain ⟨e, he⟩ := isArray_iff.mp ha
    rw [resolve_of_array he, brackets_eq]
    simp
  · rw [resolve_of_plain (by simpa using ha)]
    rcases expand_mem (trim raw) with he | hmem
    · rwa [he]
    · exact (builtins_letters _ hmem).1

lemma resolve_eq_nil_iff {raw : Text} : resolve raw = [] ↔ Run isBlank raw := by
  rw [← trim_eq_nil_iff]
  constructor
  · intro h
    by_contra hne
    exact resolve_ne_nil hne h
  · intro h
    rw [resolve_of_plain (by rw [h]; rfl), h]
    rfl

/-- A guessed type is what one of four type words stands for. -/
lemma infer_eq_resolve (name : Text) :
    ∃ word ∈ ["d".toList, "b".toList, "s".toList, "s[]".toList], infer name = resolve word := by
  have hd : resolve "d".toList = "Date".toList := resolve_of_plain rfl
  have hb : resolve "b".toList = "boolean".toList := resolve_of_plain rfl
  have hs : resolve "s".toList = "string".toList := resolve_of_plain rfl
  have ha : resolve "s[]".toList = "string[]".toList := by
    rw [resolve_of_array (e := "s".toList) rfl, hs]
    rfl
  simp only [infer]
  split_ifs
  · exact ⟨_, by simp, hd.symm⟩
  · exact ⟨_, by simp, hb.symm⟩
  · exact ⟨_, by simp, hs.symm⟩
  · exact ⟨_, by simp, ha.symm⟩
  · exact ⟨_, by simp, hs.symm⟩

end Shorthand.FieldType
