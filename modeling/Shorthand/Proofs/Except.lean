import Mathlib

/-! What is known about the parts of a computation that may fail from how it ends. -/
namespace Shorthand
variable {ε α β : Type}

lemma exists_of_map_ok {x : Except ε α} {f : α → β} {b : β} (h : x.map f = .ok b) :
    ∃ a, x = .ok a ∧ f a = b := by
  cases x with
  | error e => cases h
  | ok a => exact ⟨a, rfl, by simpa [Except.map] using h⟩

lemma error_of_map_error {x : Except ε α} {f : α → β} {e : ε} (h : x.map f = .error e) :
    x = .error e := by
  cases x with
  | error e' => rw [Except.error.inj h]
  | ok a => cases h

lemma mapM_eq_ok_iff {f : α → Except ε β} {as : List α} {bs : List β} :
    as.mapM f = .ok bs ↔ List.Forall₂ (fun a b => f a = .ok b) as bs := by
  induction as generalizing bs with
  | nil =>
    rw [List.mapM_nil, List.forall₂_nil_left_iff]
    exact ⟨fun h => (Except.ok.inj h).symm, fun h => h ▸ rfl⟩
  | cons a as ih =>
    rw [List.mapM_cons, List.forall₂_cons_left_iff]
    cases hb : f a with
    | error e =>
      constructor
      · intro h
        cases h
      · rintro ⟨b, bs', h, -⟩
        cases h
    | ok b =>
      constructor
      · intro h
        cases hbs : as.mapM f with
        | error e =>
          rw [hbs] at h
          cases h
        | ok bs' =>
          rw [hbs] at h
          obtain rfl := Except.ok.inj h
          exact ⟨b, bs', rfl, ih.mp hbs, rfl⟩
      · rintro ⟨b', bs', hb', hbs, rfl⟩
        obtain rfl := Except.ok.inj hb'
        rw [ih.mpr hbs]
        rfl

end Shorthand
