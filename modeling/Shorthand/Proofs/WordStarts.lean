import Shorthand.Proofs.OptionalSegment
import Shorthand.Proofs.Spellings

/-! Where the capitals of a name come from. Running words together keeps the letters, digits and
dollar signs of a text in their order, and which of them become capitals can be told place by place:
those with no other one between them and the nearest separator. -/
namespace Shorthand.Identifier
open Text
variable {c : Char} {gap : Text}

/-- Behind `before` a word has still to begin: nothing that is kept stands behind its last separator,
or in all of it if it has none. -/
def AwaitsWord (before : Text) : Prop := Free isKept (before.rtakeWhile (! isSeparator ·))

instance (before : Text) : Decidable (AwaitsWord before) := inferInstanceAs (Decidable (Free _ _))

/-- What a name shows of a character and its place in the text. -/
def shown? (s : Text) (p : Char × Nat) : Option Char :=
  if isKept p.1 then some (if AwaitsWord (s.take p.2) then p.1.toUpper else p.1) else none

section Places

lemma awaitsWord_nil : AwaitsWord [] := by
  simp [AwaitsWord]

lemma awaitsWord_separator (h : isSeparator c = true) (before : Text) :
    AwaitsWord (before ++ [c]) := by
  rw [AwaitsWord, List.rtakeWhile_concat_neg _ _ _ (by simp [h])]
  exact free_nil

lemma not_awaitsWord_kept (h : isKept c = true) (before : Text) :
    ¬ AwaitsWord (before ++ [c]) := by
  rw [AwaitsWord, List.rtakeWhile_concat_pos _ _ _ (by simp [isSeparator_of_isKept h])]
  simp [h]

lemma awaitsWord_idle (hsep : isSeparator c = false) (hkept : isKept c = false) (before : Text) :
    AwaitsWord (before ++ [c]) ↔ AwaitsWord before := by
  rw [AwaitsWord, List.rtakeWhile_concat_pos _ _ _ (by simp [hsep])]
  simp [AwaitsWord, hkept]

/-- The state of a scan is what the characters before it say of the next one. -/
theorem scan_eq_shown (before s : Text) :
    scan (decide (AwaitsWord before)) s =
      (s.zipIdx before.length).filterMap (shown? (before ++ s)) := by
  -- Each character read moves from `s` to the end of `before`, and the places stay as they are.
  induction s generalizing before with
  | nil => rfl
  | cons c s ih =>
    have hplace : shown? (before ++ c :: s) (c, before.length) =
        if isKept c then some (if AwaitsWord before then c.toUpper else c) else none := by
      simp [shown?]
    have hlater := ih (before ++ [c])
    rw [List.length_append, List.length_singleton, List.append_assoc, List.singleton_append] at hlater
    rw [List.zipIdx_cons, List.filterMap_cons, hplace, ← hlater]
    by_cases hsep : isSeparator c = true
    · have hkept : isKept c = false := by
        by_contra hn
        rw [isSeparator_of_isKept (by simpa using hn)] at hsep
        cases hsep
      simp [scan_separator hsep, hkept, awaitsWord_separator hsep]
    · by_cases hkept : isKept c = true
      · simp [scan_kept hkept, hkept, not_awaitsWord_kept hkept]
      · have hidle := awaitsWord_idle (by simpa using hsep) (by simpa using hkept) before
        simp [scan, hsep, hkept, hidle]

theorem pascal_eq_shown (s : Text) : pascal s = s.zipIdx.filterMap (shown? s) := by
  rw [pascal_eq_scan, ← decide_eq_true awaitsWord_nil]
  exact scan_eq_shown [] s

end Places

lemma decapitalize_eq (s : Text) : decapitalize s = s.modifyHead Char.toLower := by
  cases s with
  | nil => rfl
  | cons c s => rfl

lemma pascal_run_append (h : Run isSeparator gap) (t : Text) : pascal (gap ++ t) = pascal t := by
  induction gap with
  | nil => rfl
  | cons c gap ih =>
    obtain ⟨hc, hgap⟩ := run_cons.mp h
    have hcut := pascal_append_cons hc [] (gap ++ t)
    rwa [pascal_nil, List.nil_append, List.nil_append, ih hgap] at hcut

/-- Words are spelled one by one, however wide the gaps between them. -/
lemma pascal_append_gap (hgap : gap ≠ []) (h : Run isSeparator gap) (s t : Text) :
    pascal (s ++ gap ++ t) = pascal s ++ pascal t := by
  obtain ⟨c, gap, rfl⟩ := List.exists_cons_of_ne_nil hgap
  obtain ⟨hc, hrest⟩ := run_cons.mp h
  rw [List.append_assoc, List.cons_append, pascal_append_cons hc, pascal_run_append hrest]

/-- Words are run together in one pass: the characters that a name can hold stay, in their order, and
become capitals where no other one of them stands between them and the nearest separator before them,
or the start. So a gap cuts a name in two, what is neither kept nor a separator can be left out
anywhere, and the spelling with a small first letter differs in this letter only. -/
theorem names_are_spelled_in_one_pass (s : Text) :
    pascal s = scan true s ∧ pascal s = s.zipIdx.filterMap (shown? s) ∧
      camel s = (s.zipIdx.filterMap (shown? s)).modifyHead Char.toLower ∧
      (∀ gap t, gap ≠ [] → Run isSeparator gap →
        pascal (s ++ gap ++ t) = pascal s ++ pascal t) ∧
      ∀ t, t.filter counts = s.filter counts → pascal t = pascal s := by
  refine ⟨pascal_eq_scan s, pascal_eq_shown s, ?_, fun gap t hgap h => pascal_append_gap hgap h s t, ?_⟩
  · rw [camel, decapitalize_eq, pascal_eq_shown]
  · intro t hsame
    rw [← pascal_filter t, hsame, pascal_filter]

/-- Words of nothing that is kept, and marks right before and behind the separators. -/
theorem names_of_marked_sample_are_spelled_in_one_pass :
    pascal "-@_#user é$a".toList = "User$a".toList ∧ camel "-@_#user é$a".toList = "user$a".toList ∧
      pascal ("-@_#user é$a".toList ++ " _\u3000".toList ++ "@xY".toList) =
        pascal "-@_#user é$a".toList ++ pascal "@xY".toList ∧
      pascal "-_us@er $a".toList = pascal "-@_#user é$a".toList := by
  obtain ⟨-, hshown, hcamel, hgap, hsame⟩ := names_are_spelled_in_one_pass "-@_#user é$a".toList
  exact ⟨hshown.trans (by decide), hcamel.trans (by decide), hgap _ _ (by decide) (by decide),
    hsame _ (by decide)⟩

end Shorthand.Identifier
