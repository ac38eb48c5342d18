import Shorthand.Artifact.Generator
import Shorthand.Proofs.NameForms

/-! Spellings of a name. Running words together is one pass over the text, and so it can be followed
through a hyphenated spelling character by character: what comes back of a name of a type are its
capitals behind small letters and digits, and the first one. -/
namespace Shorthand.Identifier
open Text
variable {c d : Char} {s name : Text}

section Scan

/-- Go through a text once and keep what a name can hold. A character that is kept becomes a capital
if it is the first one since a separator, or since the start; `fresh` says that it would be. -/
def scan (fresh : Bool) : Text → Text
  | [] => []
  | c :: s =>
    if isSeparator c then scan true s
    else if isKept c then (if fresh then c.toUpper else c) :: scan false s
    else scan fresh s

lemma scan_separator (h : isSeparator c = true) (fresh : Bool) (s : Text) :
    scan fresh (c :: s) = scan true s := by
  rw [scan, if_pos h]

lemma scan_kept (h : isKept c = true) (fresh : Bool) (s : Text) :
    scan fresh (c :: s) = (if fresh then c.toUpper else c) :: scan false s := by
  rw [scan, if_neg (by simp [isSeparator_of_isKept h]), if_pos h]

/-- A scan gives the words one after another, the first of them with or without its capital. -/
lemma scan_eq_words (s : Text) : ∃ word words, s.splitOnP isSeparator = word :: words ∧
    ∀ fresh, scan fresh s =
      (if fresh then capitalize (word.filter isKept) else word.filter isKept) ++
        words.flatMap fun word => capitalize (word.filter isKept) := by
  induction s with
  | nil => exact ⟨[], [], by simp, by simp [scan, capitalize]⟩
  | cons c s ih =>
    obtain ⟨word, words, hsplit, hscan⟩ := ih
    rw [List.splitOnP_cons_eq_if_modifyHead, hsplit]
    by_cases hsep : isSeparator c = true
    · refine ⟨[], word :: words, by simp [hsep], fun fresh => ?_⟩
      rw [scan_separator hsep, hscan]
      cases fresh <;> simp [capitalize]
    · refine ⟨c :: word, words, by simp [hsep], fun fresh => ?_⟩
      by_cases hkept : isKept c = true
      · rw [scan_kept hkept, hscan]
        cases fresh <;> simp [hkept, capitalize]
      · rw [scan, if_neg hsep, if_neg hkept, hscan]
        simp [hkept]

/-- Running words together is one pass. -/
theorem pascal_eq_scan (s : Text) : pascal s = scan true s := by
  obtain ⟨word, words, hsplit, hscan⟩ := scan_eq_words s
  rw [pascal, hsplit, List.flatMap_cons, hscan]
  rfl

end Scan

section Hyphens

/-- Words of small letters, digits and dollar signs with one hyphen between them. -/
structure IsHyphenated (s : Text) : Prop where
  chars : ∀ c ∈ s, c.isLower = true ∨ c.isDigit = true ∨ c = '$' ∨ c = '-'
  head : s.head? ≠ some '-'
  last : s.getLast? ≠ some '-'
  single : ¬ ['-', '-'] <:+: s

lemma last_hyphenate (s : Text) : (hyphenate s).getLast? = s.getLast? := by
  fun_induction hyphenate s with
  | case1 => rfl
  | case2 c => rfl
  | case3 c d s _ ih =>
    obtain ⟨t, ht⟩ := exists_hyphenate_cons d s
    rw [ht] at ih ⊢
    rw [List.getLast?_cons_cons, List.getLast?_cons_cons, ih, List.getLast?_cons_cons]
  | case4 c d s _ ih =>
    obtain ⟨t, ht⟩ := exists_hyphenate_cons d s
    rw [ht] at ih ⊢
    rw [List.getLast?_cons_cons, ih, List.getLast?_cons_cons]

/-- A hyphen is only put between two characters of the name. -/
lemma hyphenate_chain (h : Free (· == '-') s) :
    (hyphenate s).IsChain fun c d => c ≠ '-' ∨ d ≠ '-' := by
  fun_induction hyphenate s with
  | case1 => exact .nil
  | case2 c => exact .singleton c
  | case3 c d s _ ih =>
    obtain ⟨hc, hrest⟩ := free_cons.mp h
    have hd := (free_cons.mp hrest).1
    obtain ⟨t, ht⟩ := exists_hyphenate_cons d s
    rw [ht] at ih ⊢
    refine .cons_cons (.inl (by simpa using hc)) (.cons_cons (.inr (by simpa using hd)) (ih hrest))
  | case4 c d s _ ih =>
    obtain ⟨hc, hrest⟩ := free_cons.mp h
    obtain ⟨t, ht⟩ := exists_hyphenate_cons d s
    rw [ht] at ih ⊢
    exact .cons_cons (.inl (by simpa using hc)) (ih hrest)

lemma toLower_ne_hyphen (h : c ≠ '-') : c.toLower ≠ '-' := by
  by_cases hupper : c.isUpper = true
  · have hlower : c.toLower.isLower = true := by simp [Char.isAlpha, hupper]
    exact ne_of_class hlower rfl
  · rwa [Char.toLower_eq_of_not_isUpper hupper]

/-- Whatever the type, the hyphenated spelling of its name is well-formed. -/
theorem isHyphenated_kebab (h : IsTypeName name) : IsHyphenated (kebab name) := by
  have hne : ∀ c ∈ name, c ≠ '-' := fun c hc => ne_of_class (h.kept c hc) rfl
  obtain ⟨c, t, hstem, hc, ht⟩ := isStem_kebab h.ne_nil h.kept
  refine ⟨?_, ?_, ?_, ?_⟩
  · rw [hstem, List.forall_mem_cons]
    refine ⟨?_, ht⟩
    rcases hc with hlower | hdigit | hdollar
    · exact .inl hlower
    · exact .inr (.inl hdigit)
    · exact .inr (.inr (.inl hdollar))
  · rw [hstem]
    rintro ⟨⟩
    exact absurd hc (by decide)
  · rw [kebab_eq h.kept, List.getLast?_map, last_hyphenate]
    intro hlast
    obtain ⟨e, he, hhyphen⟩ := Option.map_eq_some_iff.mp hlast
    exact toLower_ne_hyphen (hne e (List.mem_of_getLast? he)) hhyphen
  · have hchain : (kebab name).IsChain fun c d => c ≠ '-' ∨ d ≠ '-' := by
      rw [kebab_eq h.kept, List.isChain_map]
      have hfree : Free (· == '-') name := fun c hc => by simpa using hne c hc
      refine (hyphenate_chain hfree).imp fun c d hcd => ?_
      exact hcd.imp toLower_ne_hyphen toLower_ne_hyphen
    rintro ⟨before, after, heq⟩
    rw [← heq, List.append_assoc, List.isChain_append] at hchain
    simpa using hchain.2.1

end Hyphens

section Return

/-- A capital comes right after a small letter or a digit only. -/
def Follows (c d : Char) : Prop := d.isUpper = true → c.isLower = true ∨ c.isDigit = true

instance (c d : Char) : Decidable (Follows c d) := inferInstanceAs (Decidable (_ → _))

/-- What comes back of a name behind its character `c`: capitals are lost where no hyphen stood. -/
def returned (c : Char) : Text → Text
  | [] => []
  | d :: s => (if (c.isLower || c.isDigit) && d.isUpper then d else d.toLower) :: returned d s

/-- A scan of the hyphenated spelling. -/
lemma scan_hyphenate (h : Run isKept (c :: s)) (fresh : Bool) :
    scan fresh ((hyphenate (c :: s)).map Char.toLower) =
      (if fresh then c.toUpper else c.toLower) :: returned c s := by
  induction s generalizing c fresh with
  | nil =>
    rw [hyphenate, List.map_singleton, scan_kept (isKept_toLower (run_cons.mp h).1),
      Char.toUpper_toLower_eq_toUpper]
    rfl
  | cons d s ih =>
    obtain ⟨hc, hrest⟩ := run_cons.mp h
    rw [hyphenate, returned]
    by_cases hcut : ((c.isLower || c.isDigit) && d.isUpper) = true
    · -- The hyphen makes the scan start a word, so that the capital comes back.
      have hupper : d.toUpper = d := by
        apply Char.toUpper_eq_of_not_isLower
        exact Char.not_isLower_of_isUpper (Bool.and_eq_true_iff.mp hcut).2
      rw [if_pos hcut, if_pos hcut, List.map_cons, List.map_cons, scan_kept (isKept_toLower hc),
        scan_separator (by decide), ih hrest, Char.toUpper_toLower_eq_toUpper, if_pos rfl, hupper]
    · rw [if_neg hcut, if_neg hcut, List.map_cons, scan_kept (isKept_toLower hc), ih hrest,
        Char.toUpper_toLower_eq_toUpper]
      rfl

lemma toLower_eq_self_iff : d.toLower = d ↔ d.isUpper = false := by
  constructor
  · intro h
    by_contra hn
    have hupper : d.isUpper = true := by simpa using hn
    have hlower : d.toLower.isLower = true := by simp [Char.isAlpha, hupper]
    rw [h] at hlower
    exact Char.not_isUpper_of_isLower hlower hupper
  · intro h
    exact Char.toLower_eq_of_not_isUpper (by simp [h])

/-- All of a name comes back if no capital of it was lost. -/
lemma returned_eq_self_iff : returned c s = s ↔ (c :: s).IsChain Follows := by
  induction s generalizing c with
  | nil => simp [returned]
  | cons d s ih =>
    rw [returned, List.cons.injEq, List.isChain_cons_cons, ih]
    refine and_congr_left fun _ => ?_
    by_cases hcut : ((c.isLower || c.isDigit) && d.isUpper) = true
    · rw [if_pos hcut]
      exact iff_of_true rfl fun _ => by simpa using (Bool.and_eq_true_iff.mp hcut).1
    · rw [if_neg hcut, toLower_eq_self_iff, Follows]
      simp only [Bool.and_eq_true, Bool.or_eq_true, not_and, Bool.not_eq_true] at hcut
      constructor
      · intro hsmall hupper
        rw [hsmall] at hupper
        cases hupper
      · intro hfollows
        by_contra hn
        have hupper : d.isUpper = true := by simpa using hn
        exact hn (hcut (hfollows hupper))

/-- Running the words of a hyphenated spelling together again. -/
theorem pascal_kebab_eq_self_iff (h : IsTypeName name) :
    pascal (kebab name) = name ↔ name.IsChain Follows := by
  obtain ⟨c, s, rfl⟩ := List.exists_cons_of_ne_nil h.ne_nil
  have hc : c.toUpper = c := Char.toUpper_eq_of_not_isLower (by simp [h.head c (by simp)])
  rw [pascal_eq_scan, kebab_eq h.kept, scan_hyphenate h.kept, if_pos rfl, hc, List.cons.injEq,
    returned_eq_self_iff]
  exact and_iff_right rfl

end Return
end Shorthand.Identifier

namespace Shorthand.Artifact
open Identifier

/-- The file names of types are words of small letters, digits and dollar signs with single hyphens
between them. The name of a type comes back from its hyphenated spelling if and only if every capital
behind its first character follows a small letter or a digit right away, and types whose names are
such have different files for an artifact. -/
theorem fileName_tells_returning_names_apart {name : Text} (hname : name ∈ Set.range typeName) :
    IsHyphenated (kebab name) ∧ (pascal (kebab name) = name ↔ name.IsChain Follows) ∧
      ∀ artifact, Set.InjOn (fileName · artifact) {n ∈ Set.range typeName | n.IsChain Follows} := by
  have htype : ∀ n ∈ Set.range typeName, IsTypeName n := by
    rintro n ⟨raw, rfl⟩
    exact isTypeName_typeName raw
  refine ⟨isHyphenated_kebab (htype name hname), pascal_kebab_eq_self_iff (htype name hname), ?_⟩
  rintro artifact n ⟨hn, hchain⟩ n' ⟨hn', hchain'⟩ hfile
  have hkebab : kebab n = kebab n' := by
    have hempty : n.isEmpty = false := by simpa using (htype n hn).ne_nil
    have hempty' : n'.isEmpty = false := by simpa using (htype n' hn').ne_nil
    simp only [fileName, hempty, hempty', Bool.false_eq_true, if_false, List.append_assoc] at hfile
    exact List.append_cancel_right hfile
  calc n = pascal (kebab n) := ((pascal_kebab_eq_self_iff (htype n hn)).mpr hchain).symm
    _ = pascal (kebab n') := by rw [hkebab]
    _ = n' := (pascal_kebab_eq_self_iff (htype n' hn')).mpr hchain'

/-- A digit and a dollar sign in names that come back, and a row of capitals in one that does not. -/
theorem fileName_tells_samples_apart :
    IsHyphenated (kebab "V2Api$key".toList) ∧
      pascal (kebab "V2Api$key".toList) = "V2Api$key".toList ∧
      fileName "V2Api$key".toList "zod".toList ≠ fileName "V2ApiKey".toList "zod".toList ∧
      pascal (kebab "HTTPServer".toList) ≠ "HTTPServer".toList := by
  have hname : "V2Api$key".toList ∈ Set.range typeName := ⟨"V2Api$key".toList, by decide +kernel⟩
  have hother : "V2ApiKey".toList ∈ Set.range typeName := ⟨"V2ApiKey".toList, by decide +kernel⟩
  have hcapitals : "HTTPServer".toList ∈ Set.range typeName :=
    ⟨"HTTPServer".toList, by decide +kernel⟩
  obtain ⟨hform, hreturns, hinj⟩ := fileName_tells_returning_names_apart hname
  refine ⟨hform, hreturns.mpr (by decide), ?_, fun hreturned => ?_⟩
  · exact (hinj "zod".toList).ne ⟨hname, by decide⟩ ⟨hother, by decide⟩ (by decide)
  · exact absurd ((fileName_tells_returning_names_apart hcapitals).2.1.mp hreturned) (by decide)

end Shorthand.Artifact
