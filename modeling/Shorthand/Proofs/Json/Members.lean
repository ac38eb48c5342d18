import Mathlib
import Shorthand.Json.Basic

/-! Members of objects: gathering them keeps their order, makes their names differ, and goes together
with leaving out names and changing values. -/
namespace Shorthand.Json
variable {α β : Type} {name : Text} {value : α} {m : Text × α} {ms acc : List (Text × α)}

section Put

lemma put_of_not_mem (h : name ∉ acc.map Prod.fst) : put name value acc = acc ++ [(name, value)] := by
  induction acc with
  | nil => rfl
  | cons m acc ih =>
    obtain ⟨hne, hrest⟩ : name ≠ m.1 ∧ name ∉ acc.map Prod.fst := by simpa using h
    simp [put, hne.symm, ih hrest]

lemma map_fst_put_of_mem (h : name ∈ acc.map Prod.fst) :
    (put name value acc).map Prod.fst = acc.map Prod.fst := by
  induction acc with
  | nil => simp at h
  | cons m acc ih =>
    by_cases hm : m.1 = name
    · simp [put, hm]
    · have hrest : name ∈ acc.map Prod.fst := by
        rw [List.map_cons, List.mem_cons] at h
        exact h.resolve_left fun heq => hm heq.symm
      simp [put, hm, ih hrest]

lemma nodup_put (h : (acc.map Prod.fst).Nodup) : ((put name value acc).map Prod.fst).Nodup := by
  by_cases hmem : name ∈ acc.map Prod.fst
  · rwa [map_fst_put_of_mem hmem]
  · rw [put_of_not_mem hmem, List.map_append, List.nodup_append]
    refine ⟨h, by simp, ?_⟩
    rintro a ha b hb rfl
    exact hmem (by simpa [List.mem_singleton.mp hb] using ha)

lemma put_ne_nil (name : Text) (value : α) (acc : List (Text × α)) : put name value acc ≠ [] := by
  cases acc with
  | nil => simp [put]
  | cons m acc =>
    unfold put
    split_ifs <;> simp

lemma mem_put (h : m ∈ put name value acc) : m = (name, value) ∨ m ∈ acc := by
  induction acc with
  | nil => exact .inl (List.mem_singleton.mp h)
  | cons m' acc ih =>
    unfold put at h
    split_ifs at h with heq
    · rcases List.mem_cons.mp h with rfl | h
      · exact .inl (by rw [show m'.1 = name by simpa using heq])
      · exact .inr (List.mem_cons_of_mem _ h)
    · rcases List.mem_cons.mp h with rfl | h
      · exact .inr List.mem_cons_self
      · exact (ih h).imp_right (List.mem_cons_of_mem _)

/-- The member that is added is the only one of its name. -/
lemma mem_put_of_nodup (hacc : (acc.map Prod.fst).Nodup) (h : m ∈ put name value acc) :
    m = (name, value) ∨ m ∈ acc ∧ m.1 ≠ name := by
  induction acc with
  | nil => exact .inl (List.mem_singleton.mp h)
  | cons m' acc ih =>
    rw [List.map_cons, List.nodup_cons] at hacc
    unfold put at h
    split_ifs at h with heq
    · obtain rfl : m'.1 = name := by simpa using heq
      rcases List.mem_cons.mp h with rfl | h
      · exact .inl rfl
      · refine .inr ⟨List.mem_cons_of_mem _ h, fun hname => hacc.1 ?_⟩
        rw [← hname]
        exact List.mem_map_of_mem h
    · rcases List.mem_cons.mp h with rfl | h
      · exact .inr ⟨List.mem_cons_self, by simpa using heq⟩
      · exact (ih hacc.2 h).imp_right fun hm => ⟨List.mem_cons_of_mem _ hm.1, hm.2⟩

/-- The names after one more member: its own comes last if it is new. -/
lemma map_fst_put (name : Text) (value : α) (acc : List (Text × α)) :
    (put name value acc).map Prod.fst =
      if name ∈ acc.map Prod.fst then acc.map Prod.fst else acc.map Prod.fst ++ [name] := by
  split_ifs with hmem
  · exact map_fst_put_of_mem hmem
  · rw [put_of_not_mem hmem, List.map_append]
    rfl

lemma put_map (f : α → β) (name : Text) (value : α) (acc : List (Text × α)) :
    (put name value acc).map (fun m => (m.1, f m.2)) =
      put name (f value) (acc.map fun m => (m.1, f m.2)) := by
  induction acc with
  | nil => rfl
  | cons m acc ih =>
    by_cases hm : m.1 = name
    · simp [put, hm]
    · simp [put, hm, ih]

lemma put_filter (keep : Text → Bool) (name : Text) (value : α) (acc : List (Text × α)) :
    (put name value acc).filter (fun m => keep m.1) =
      if keep name then put name value (acc.filter fun m => keep m.1)
      else acc.filter fun m => keep m.1 := by
  induction acc with
  | nil => by_cases hkeep : keep name <;> simp [put, hkeep]
  | cons m acc ih =>
    by_cases hm : m.1 = name
    · subst hm
      by_cases hkeep : keep m.1 <;> simp [put, hkeep]
    · by_cases hkeep : keep name <;> by_cases hkeep' : keep m.1 <;>
        simp_all [put]

end Put

section OfPairs

lemma ofPairs_concat (ms : List (Text × α)) (m : Text × α) :
    ofPairs (ms ++ [m]) = put m.1 m.2 (ofPairs ms) := by
  simp [ofPairs, List.foldl_append]

lemma ofPairs_isEmpty (ms : List (Text × α)) : (ofPairs ms).isEmpty = ms.isEmpty := by
  induction ms using List.reverseRecOn with
  | nil => rfl
  | append_singleton ms m _ =>
    rw [ofPairs_concat, List.isEmpty_eq_false_iff.mpr (put_ne_nil _ _ _),
      List.isEmpty_eq_false_iff.mpr (by simp)]

lemma nodup_ofPairs (ms : List (Text × α)) : ((ofPairs ms).map Prod.fst).Nodup := by
  induction ms using List.reverseRecOn with
  | nil => exact List.nodup_nil
  | append_singleton ms m ih =>
    rw [ofPairs_concat]
    exact nodup_put ih

lemma mem_of_mem_ofPairs (h : m ∈ ofPairs ms) : m ∈ ms := by
  induction ms using List.reverseRecOn with
  | nil => cases h
  | append_singleton ms m' ih =>
    rw [ofPairs_concat] at h
    rcases mem_put h with rfl | h
    · simp
    · exact List.mem_append_left _ (ih h)

/-- The names are the names of the pairs, each once. -/
lemma mem_map_fst_ofPairs : name ∈ (ofPairs ms).map Prod.fst ↔ name ∈ ms.map Prod.fst := by
  induction ms using List.reverseRecOn with
  | nil => rfl
  | append_singleton ms m ih =>
    rw [ofPairs_concat, List.map_append, List.mem_append, ← ih]
    by_cases hmem : m.1 ∈ (ofPairs ms).map Prod.fst
    · rw [map_fst_put_of_mem hmem]
      constructor
      · exact .inl
      · rintro (h | h)
        · exact h
        · rwa [List.mem_singleton.mp h]
    · rw [put_of_not_mem hmem, List.map_append, List.mem_append]

lemma ofPairs_map (f : α → β) (ms : List (Text × α)) :
    (ofPairs ms).map (fun m => (m.1, f m.2)) = ofPairs (ms.map fun m => (m.1, f m.2)) := by
  induction ms using List.reverseRecOn with
  | nil => rfl
  | append_singleton ms m ih =>
    rw [ofPairs_concat, put_map, ih, List.map_append, List.map_singleton, ofPairs_concat]

lemma ofPairs_filter (keep : Text → Bool) (ms : List (Text × α)) :
    (ofPairs ms).filter (fun m => keep m.1) = ofPairs (ms.filter fun m => keep m.1) := by
  induction ms using List.reverseRecOn with
  | nil => rfl
  | append_singleton ms m ih =>
    rw [ofPairs_concat, put_filter, ih, List.filter_append]
    by_cases hkeep : keep m.1
    · simp [hkeep, ofPairs_concat]
    · simp [hkeep]

/-- Members whose names differ are kept as they are. -/
theorem ofPairs_of_nodup (h : (ms.map Prod.fst).Nodup) : ofPairs ms = ms := by
  induction ms using List.reverseRecOn with
  | nil => rfl
  | append_singleton ms m ih =>
    rw [List.map_append, List.nodup_append] at h
    have hnew : m.1 ∉ ms.map Prod.fst := fun hmem => h.2.2 _ hmem _ (by simp) rfl
    rw [ofPairs_concat, ih h.1, put_of_not_mem hnew]

end OfPairs
end Shorthand.Json
