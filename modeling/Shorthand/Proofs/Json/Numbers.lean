import Shorthand.Json.Reader
import Shorthand.Proofs.Except
import Shorthand.Proofs.Text

/-! Words and numbers of JSON: what they look like, apart from the functions that read them. Each is
read off the front of any text that goes on as one may after a value. -/
namespace Shorthand.Json
open Text

section Scalars
variable {p s t rest : Text} {c : Char} {v : Json}

/-- At least one digit, and nothing else. -/
def IsDigits (ds : Text) : Prop := ds ≠ [] ∧ Run Char.isDigit ds

/-- What may follow a value: blank space, a comma or a closing bracket. -/
def isEnd (c : Char) : Bool := isSpace c || c == ',' || c == ']' || c == '}'

/-- A zero, or digits that do not start with one. -/
inductive WholeText : Text → Prop
  | zero : WholeText ['0']
  | digits {c : Char} {ds : Text} : c ≠ '0' → c.isDigit = true → Run Char.isDigit ds →
      WholeText (c :: ds)

/-- A point with its digits, or nothing. -/
inductive FractionText : Text → Text → Prop
  | none : FractionText [] []
  | places {ds : Text} : IsDigits ds → FractionText ('.' :: ds) ds

/-- An exponent with its `e`, or nothing. -/
inductive ExponentText : Text → Option Int → Prop
  | none : ExponentText [] none
  | plain {c : Char} {ds : Text} : c = 'e' ∨ c = 'E' → IsDigits ds →
      ExponentText (c :: ds) (some (digitsValue ds))
  | plus {c : Char} {ds : Text} : c = 'e' ∨ c = 'E' → IsDigits ds →
      ExponentText (c :: '+' :: ds) (some (digitsValue ds))
  | minus {c : Char} {ds : Text} : c = 'e' ∨ c = 'E' → IsDigits ds →
      ExponentText (c :: '-' :: ds) (some (-digitsValue ds))

lemma isDigits_takeWhile (h : ¬ (s.takeWhile Char.isDigit).isEmpty = true) :
    IsDigits (s.takeWhile Char.isDigit) :=
  ⟨by simpa using h, run_takeWhile _ s⟩

lemma exponent_sound (s : Text) :
    ∃ x, s = x ++ (exponent s).2 ∧ ExponentText x (exponent s).1 := by
  unfold exponent
  split
  · exact ⟨[], rfl, .none⟩
  · next e t =>
    split_ifs with he
    · have he' : e = 'e' ∨ e = 'E' := by simpa using he
      split
      next negative u hu =>
      have hsplit : u = u.takeWhile Char.isDigit ++ u.dropWhile Char.isDigit :=
        List.takeWhile_append_dropWhile.symm
      dsimp only
      by_cases hempty : (u.takeWhile Char.isDigit).isEmpty = true
      · rw [if_pos hempty]
        exact ⟨[], rfl, .none⟩
      · rw [if_neg hempty]
        have hdigits := isDigits_takeWhile hempty
        split at hu
        · obtain ⟨rfl, rfl⟩ := Prod.mk.inj hu
          refine ⟨_, ?_, .minus he' hdigits⟩
          conv_lhs => rw [hsplit]
          rfl
        · obtain ⟨rfl, rfl⟩ := Prod.mk.inj hu
          refine ⟨_, ?_, .plus he' hdigits⟩
          conv_lhs => rw [hsplit]
          rfl
        · obtain ⟨rfl, rfl⟩ := Prod.mk.inj hu
          refine ⟨_, ?_, .plain he' hdigits⟩
          conv_lhs => rw [hsplit]
          rfl
    · exact ⟨[], rfl, .none⟩

lemma isDigit_of_isEnd (h : isEnd c = true) : c.isDigit = false := by
  simp only [isEnd, isSpace, Bool.or_eq_true, beq_iff_eq] at h
  rcases h with (((((rfl | rfl) | rfl) | rfl) | rfl) | rfl) | rfl <;> rfl

lemma opens_not_digit (h : Opens isEnd rest) : Opens (!Char.isDigit ·) rest :=
  fun c hc => by simp [isDigit_of_isEnd (h c hc)]

lemma exponent_of_end (h : Opens isEnd rest) : exponent rest = (none, rest) := by
  cases rest with
  | nil => rfl
  | cons c rest =>
    rw [opens_cons] at h
    have he : c ≠ 'e' ∧ c ≠ 'E' := ⟨ne_of_class h rfl, ne_of_class h rfl⟩
    simp [exponent, he]

lemma ExponentText.exponent {x : Text} {e : Option Int} (hx : ExponentText x e)
    (h : Opens isEnd rest) : exponent (x ++ rest) = (e, rest) := by
  have hdigits {ds : Text} (hds : IsDigits ds) : (ds ++ rest).takeWhile Char.isDigit = ds ∧
      (ds ++ rest).dropWhile Char.isDigit = rest ∧ ds.isEmpty = false :=
    ⟨takeWhile_run_append hds.2 (opens_not_digit h), dropWhile_run_append hds.2 (opens_not_digit h),
      by simpa using hds.1⟩
  cases hx with
  | none => exact exponent_of_end h
  | @plain c ds hc hds =>
    obtain ⟨htake, hdrop, hne⟩ := hdigits hds
    obtain ⟨hnil, hrun⟩ := hds
    cases ds with
    | nil => exact absurd rfl hnil
    | cons d ds =>
      have hd : d.isDigit = true := (run_cons.mp hrun).1
      have hminus : d ≠ '-' := ne_of_class hd rfl
      have hplus : d ≠ '+' := ne_of_class hd rfl
      rw [List.cons_append] at htake hdrop
      simp [Json.exponent, hc, htake, hdrop, hminus, hplus]
  | plus hc hds =>
    obtain ⟨htake, hdrop, hne⟩ := hdigits hds
    simp [Json.exponent, hc, htake, hdrop, hne]
  | minus hc hds =>
    obtain ⟨htake, hdrop, hne⟩ := hdigits hds
    simp [Json.exponent, hc, htake, hdrop, hne]

lemma fraction_sound (s : Text) :
    ∃ x, s = x ++ (fraction s).2 ∧ FractionText x (fraction s).1 := by
  unfold fraction
  split
  · next t =>
    dsimp only
    split_ifs with hempty
    · exact ⟨[], rfl, .none⟩
    · refine ⟨_, ?_, .places (isDigits_takeWhile hempty)⟩
      rw [List.cons_append, List.takeWhile_append_dropWhile]
  · exact ⟨[], rfl, .none⟩

lemma FractionText.fraction {x places : Text} (hx : FractionText x places)
    (h : Opens (!Char.isDigit ·) rest) (hpoint : rest.head? ≠ some '.') :
    fraction (x ++ rest) = (places, rest) := by
  cases hx with
  | none =>
    cases rest with
    | nil => rfl
    | cons c rest =>
      have hc : c ≠ '.' := by simpa using hpoint
      simp [Json.fraction, hc]
  | places hds =>
    have hne : places ≠ [] := hds.1
    simp [Json.fraction, takeWhile_run_append hds.2 h, dropWhile_run_append hds.2 h, hne]

lemma whole_sound (h : wholePart? s = some (t, rest)) : s = t ++ rest ∧ WholeText t := by
  unfold wholePart? at h
  split at h
  · cases h
  · next c s =>
    split_ifs at h with hzero hdigit
    · obtain ⟨rfl, rfl⟩ : [c] = t ∧ s = rest := by simpa using h
      obtain rfl : c = '0' := by simpa using hzero
      exact ⟨rfl, .zero⟩
    · obtain ⟨rfl, rfl⟩ : c :: s.takeWhile Char.isDigit = t ∧ s.dropWhile Char.isDigit = rest := by
        simpa using h
      exact ⟨by rw [List.cons_append, List.takeWhile_append_dropWhile],
        .digits (by simpa using hzero) hdigit (run_takeWhile _ s)⟩

lemma WholeText.wholePart? (ht : WholeText t) (h : Opens (!Char.isDigit ·) rest) :
    wholePart? (t ++ rest) = some (t, rest) := by
  cases ht with
  | zero => rfl
  | digits hzero hdigit hds =>
    simp [Json.wholePart?, hzero, hdigit, takeWhile_run_append hds h, dropWhile_run_append hds h]

/-- All digits are taken, but for those behind a zero. -/
lemma whole_opens (h : wholePart? s = some (t, rest)) (ht : 1 < t.length) :
    Opens (!Char.isDigit ·) rest := by
  unfold wholePart? at h
  split at h
  · cases h
  · next c s =>
    split_ifs at h
    · obtain ⟨rfl, -⟩ : [c] = t ∧ s = rest := by simpa using h
      exact absurd ht (by simp)
    · obtain ⟨-, rfl⟩ : c :: s.takeWhile Char.isDigit = t ∧ s.dropWhile Char.isDigit = rest := by
        simpa using h
      intro d hd
      have hstop := List.head?_dropWhile_not Char.isDigit s
      rw [Option.mem_def.mp hd] at hstop
      simpa using hstop

/-- The sign in front of a number. -/
def sign (negative : Bool) : Text := if negative then ['-'] else []

@[simp] lemma sign_true : sign true = ['-'] := rfl
@[simp] lemma sign_false : sign false = [] := rfl

/-- A number: a sign if it is negative, a whole part, a fraction and an exponent. -/
inductive NumberText : Text → Json → Prop
  | mk (negative : Bool) {whole x places y : Text} {e : Option Int} {v : Json} : WholeText whole →
      FractionText x places → ExponentText y e → numeral negative whole places e = .ok v →
      NumberText (sign negative ++ (whole ++ (x ++ y))) v

/-- What is read of a number, from what is read of its parts. -/
lemma number_of_parts (negative : Bool) {whole places u u' : Text} {e : Option Int}
    (hwhole : wholePart? t = some (whole, u)) (hfraction : fraction u = (places, u'))
    (hexponent : exponent u' = (e, rest)) :
    number (sign negative ++ t) = (numeral negative whole places e).map (·, rest) := by
  cases negative with
  | true => simp [number, hwhole, hfraction, hexponent]
  | false =>
    -- A sign would be no digit of the whole part.
    have hsign : ∀ u, t ≠ '-' :: u := by
      rintro u rfl
      cases hwhole
    rw [sign_false, List.nil_append, number]
    · simp only [hwhole, hfraction, hexponent]
    · exact hsign

/-- A text is no number, or starts with the parts of one. -/
lemma number_cases (s : Text) :
    number s = fail .value s ∨ ∃ negative t whole u, s = sign negative ++ t ∧
      wholePart? t = some (whole, u) := by
  unfold number
  split
  next negative t hsign =>
  have hs : s = sign negative ++ t := by
    split at hsign <;> obtain ⟨rfl, rfl⟩ := Prod.mk.inj hsign <;> rfl
  split
  · exact .inl rfl
  · next whole u hwhole => exact .inr ⟨negative, t, whole, u, hs, hwhole⟩

lemma number_sound (h : number s = .ok (v, rest)) : ∃ p, s = p ++ rest ∧ NumberText p v := by
  rcases number_cases s with hfail | ⟨negative, t, whole, u, rfl, hwhole⟩
  · rw [hfail] at h
    cases h
  · obtain ⟨ht, hw⟩ := whole_sound hwhole
    obtain ⟨x, hx, hplaces⟩ := fraction_sound u
    rcases hfraction : fraction u with ⟨places, u'⟩
    obtain ⟨y, hy, he⟩ := exponent_sound u'
    rcases hexponent : exponent u' with ⟨e, r⟩
    rw [hfraction] at hx hplaces
    rw [hexponent] at hy he
    rw [number_of_parts negative hwhole hfraction hexponent] at h
    obtain ⟨v', hv', hrest⟩ := exists_of_map_ok h
    obtain ⟨rfl, rfl⟩ := Prod.mk.inj hrest
    refine ⟨_, ?_, .mk negative hw hplaces he hv'⟩
    rw [ht, hx, hy]
    simp only [List.append_assoc]

/-- Neither a digit nor a point stands in front of an exponent. -/
lemma ExponentText.opens {y : Text} {e : Option Int} (hy : ExponentText y e)
    (h : Opens isEnd rest) :
    Opens (!Char.isDigit ·) (y ++ rest) ∧ (y ++ rest).head? ≠ some '.' := by
  have he {c : Char} (hc : c = 'e' ∨ c = 'E') : c.isDigit = false ∧ c ≠ '.' := by
    rcases hc with rfl | rfl <;> decide
  cases hy with
  | none =>
    refine ⟨opens_not_digit h, ?_⟩
    intro hpoint
    exact absurd (h '.' hpoint) (by decide)
  | plain hc _ => simpa using he hc
  | plus hc _ => simpa using he hc
  | minus hc _ => simpa using he hc

lemma FractionText.opens {x places : Text} (hx : FractionText x places)
    (h : Opens (!Char.isDigit ·) rest) : Opens (!Char.isDigit ·) (x ++ rest) := by
  cases hx with
  | none => exact h
  | places _ => simp

lemma WholeText.head (ht : WholeText t) : ∃ c t', t = c :: t' ∧ c.isDigit = true := by
  cases ht with
  | zero => exact ⟨_, _, rfl, rfl⟩
  | digits _ hc _ => exact ⟨_, _, rfl, hc⟩

/-- A number is read off the front of any text that goes on as one may after a value. -/
lemma NumberText.number (hp : NumberText p v) (h : Opens isEnd rest) :
    number (p ++ rest) = .ok (v, rest) := by
  obtain ⟨negative, hw, hx, hy, hv⟩ := hp
  obtain ⟨hdigit, hpoint⟩ := hy.opens h
  have hparts := number_of_parts negative (hw.wholePart? (hx.opens hdigit))
    (hx.fraction hdigit hpoint) (hy.exponent h)
  rw [hv] at hparts
  simp only [List.append_assoc]
  exact hparts

/-- A word or a number. -/
inductive ScalarText : Text → Json → Prop
  | word {w : Text × Json} : w ∈ words → ScalarText w.1 w.2
  | number {p : Text} {v : Json} : NumberText p v → ScalarText p v

lemma after?_eq_some {head : Text} (h : after? head s = some t) : s = head ++ t := by
  unfold after? at h
  split_ifs at h with hprefix
  obtain ⟨u, rfl⟩ := List.isPrefixOf_iff_prefix.mp hprefix
  rw [List.drop_left] at h
  rw [Option.some.inj h]

lemma scalar_sound (h : scalar s = .ok (v, rest)) : ∃ p, s = p ++ rest ∧ ScalarText p v := by
  unfold scalar at h
  split at h
  · next r hr =>
    obtain ⟨w, hw, hafter⟩ := List.exists_of_findSome?_eq_some hr
    obtain ⟨u, hu, rfl⟩ := Option.map_eq_some_iff.mp hafter
    obtain ⟨rfl, rfl⟩ := Prod.mk.inj (Except.ok.inj h)
    exact ⟨w.1, after?_eq_some hu, .word hw⟩
  · obtain ⟨p, hp, hnumber⟩ := number_sound h
    exact ⟨p, hp, .number hnumber⟩

lemma words_letters : ∀ w ∈ words, ∃ a b t, w.1 = a :: b :: t ∧ a.isDigit = false ∧
    b.isDigit = false := by
  intro w hw
  fin_cases hw <;> exact ⟨_, _, _, rfl, rfl, rfl⟩

lemma WholeText.no_word (ht : WholeText t) (negative : Bool) {w : Text × Json} (hw : w ∈ words) :
    after? w.1 (sign negative ++ (t ++ rest)) = none := by
  by_contra hne
  obtain ⟨u, hu⟩ := Option.ne_none_iff_exists'.mp hne
  obtain ⟨a, b, u', hword, ha, hb⟩ := words_letters w hw
  have heq := after?_eq_some hu
  rw [hword] at heq
  obtain ⟨c, t', rfl, hc⟩ := ht.head
  cases negative with
  | true =>
    obtain rfl : c = b := by simpa using congrArg (·.tail.head?) heq
    rw [hb] at hc
    cases hc
  | false =>
    obtain rfl : c = a := by simpa using congrArg List.head? heq
    rw [ha] at hc
    cases hc

/-- Digits, with or without a sign, start no word. -/
lemma scalar_eq_number (ht : WholeText t) (negative : Bool) (rest : Text) :
    scalar (sign negative ++ (t ++ rest)) = number (sign negative ++ (t ++ rest)) := by
  have hnone : words.findSome? (fun w =>
      (after? w.1 (sign negative ++ (t ++ rest))).map (w.2, ·)) = none := by
    rw [List.findSome?_eq_none_iff]
    intro w hw
    rw [ht.no_word negative hw]
    rfl
  rw [Json.scalar, hnone]

/-- A word or a number is read off the front of any text that goes on as one may after a value. -/
theorem ScalarText.scalar (hp : ScalarText p v) (h : Opens isEnd rest) :
    scalar (p ++ rest) = .ok (v, rest) := by
  cases hp with
  | word hw => fin_cases hw <;> rfl
  | number hp =>
    have hnumber := hp.number h
    obtain ⟨negative, hwhole, -, -, -⟩ := hp
    simp only [List.append_assoc] at hnumber ⊢
    rw [scalar_eq_number hwhole, hnumber]

/-- The characters of words and numbers. -/
def isScalarChar (c : Char) : Bool := c.isAlphanum || c == '-' || c == '+' || c == '.'

lemma ScalarText.chars (hp : ScalarText p v) : Run isScalarChar p := by
  have hdigits {ds : Text} (hds : Run Char.isDigit ds) : Run isScalarChar ds :=
    fun c hc => by simp [isScalarChar, Char.isAlphanum, hds c hc]
  have he {c : Char} (hc : c = 'e' ∨ c = 'E') : isScalarChar c = true := by
    rcases hc with rfl | rfl <;> rfl
  cases hp with
  | word hw => fin_cases hw <;> decide
  | number hp =>
    obtain ⟨negative, hwhole, hx, hy, -⟩ := hp
    refine run_append.mpr ⟨?_, run_append.mpr ⟨?_, run_append.mpr ⟨?_, ?_⟩⟩⟩
    · cases negative <;> decide
    · cases hwhole with
      | zero => decide
      | digits _ hc hds => exact hdigits (run_cons.mpr ⟨hc, hds⟩)
    · cases hx with
      | none => exact run_nil
      | places hds => exact run_cons.mpr ⟨rfl, hdigits hds.2⟩
    · cases hy with
      | none => exact run_nil
      | plain hc hds => exact run_cons.mpr ⟨he hc, hdigits hds.2⟩
      | plus hc hds => exact run_cons.mpr ⟨he hc, run_cons.mpr ⟨rfl, hdigits hds.2⟩⟩
      | minus hc hds => exact run_cons.mpr ⟨he hc, run_cons.mpr ⟨rfl, hdigits hds.2⟩⟩

lemma ScalarText.ne_nil (hp : ScalarText p v) : p ≠ [] := by
  cases hp with
  | word hw => fin_cases hw <;> decide
  | number hp =>
    obtain ⟨negative, hwhole, -, -, -⟩ := hp
    obtain ⟨c, t, rfl, -⟩ := hwhole.head
    simp

end Scalars
end Shorthand.Json
