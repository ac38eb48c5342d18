import Shorthand.Proofs.Json.Grammar

/-! Integers with too many digits. Main statement: a text is not read because of such an integer exactly
when the grammar leads to one, with all in front of it as it should be. -/
namespace Shorthand.Json
open Text

/-- An integer with too many digits. -/
inductive LongText : Text → LongInteger → Prop
  | mk (negative : Bool) {whole : Text} : WholeText whole → mostDigits < whole.length →
      LongText (sign negative ++ whole) ⟨some whole.length⟩

/-- No number goes on with the text. -/
structure StopsNumber (u : Text) : Prop where
  digit : Opens (!Char.isDigit ·) u
  fraction : (fraction u).1 = []
  exponent : (exponent u).1 = none

/-- What may be under way when an integer is met. -/
inductive Part where
  | value
  | members
  | elements

/-- The text leads to an integer that is too long. -/
inductive LeadsToLong (lone : Nat → Char) (integer : LongInteger) : Part → Text → Prop
  | number {p u : Text} : LongText p integer → StopsNumber u →
      LeadsToLong lone integer .value (p ++ u)
  | object {w s : Text} : Run isSpace w → LeadsToLong lone integer .members s →
      LeadsToLong lone integer .value ('{' :: (w ++ s))
  | array {w s : Text} : Run isSpace w → LeadsToLong lone integer .elements s →
      LeadsToLong lone integer .value ('[' :: (w ++ s))
  | member {p w w' s name : Text} : StringBody lone p name → Run isSpace w → Run isSpace w' →
      LeadsToLong lone integer .value s →
      LeadsToLong lone integer .members ('"' :: (p ++ (w ++ ':' :: (w' ++ s))))
  | laterMember {p w w' q x x' s name : Text} {v : Json} : StringBody lone p name → Run isSpace w →
      Run isSpace w' → Spells lone q (.value v) → Run isSpace x → Run isSpace x' →
      LeadsToLong lone integer .members s →
      LeadsToLong lone integer .members
        ('"' :: (p ++ (w ++ ':' :: (w' ++ (q ++ (x ++ ',' :: (x' ++ s)))))))
  | element {s : Text} : LeadsToLong lone integer .value s → LeadsToLong lone integer .elements s
  | laterElement {q x x' s : Text} {v : Json} : Spells lone q (.value v) → Run isSpace x →
      Run isSpace x' → LeadsToLong lone integer .elements s →
      LeadsToLong lone integer .elements (q ++ (x ++ ',' :: (x' ++ s)))

variable {lone : Nat → Char} {integer : LongInteger} {part : Part} {p s t u w rest : Text}

section Numbers

lemma stopsNumber_of_end (h : Opens isEnd u) : StopsNumber u where
  digit := opens_not_digit h
  fraction := by
    have hpoint : u.head? ≠ some '.' := fun hpoint => absurd (h '.' hpoint) (by decide)
    have hfraction := FractionText.none.fraction (opens_not_digit h) hpoint
    rw [List.nil_append] at hfraction
    rw [hfraction]
  exponent := by rw [exponent_of_end h]

/-- Without digits behind a point nothing is taken off. -/
lemma fraction_snd (h : (fraction u).1 = []) : (fraction u).2 = u := by
  obtain ⟨x, hx, hplaces⟩ := fraction_sound u
  rw [h] at hplaces
  cases hplaces with
  | none => exact hx.symm
  | places hdigits => exact absurd rfl hdigits.1

lemma StopsNumber.fraction_eq (h : StopsNumber u) : Json.fraction u = ([], u) :=
  Prod.ext h.fraction (fraction_snd h.fraction)

lemma StopsNumber.exponent_eq (h : StopsNumber u) : Json.exponent u = (none, u) := by
  obtain ⟨x, hx, he⟩ := exponent_sound u
  rw [h.exponent] at he
  cases he with
  | none => exact Prod.ext h.exponent hx.symm

lemma numeral_long {negative : Bool} {whole : Text} (h : mostDigits < whole.length) :
    numeral negative whole [] none = .error (.long ⟨some whole.length⟩) := by
  simp [numeral, h]

lemma LongText.scalar (hp : LongText p integer) (hu : StopsNumber u) :
    scalar (p ++ u) = .error (.long integer) := by
  obtain ⟨negative, hwhole, hlong⟩ := hp
  rw [List.append_assoc, scalar_eq_number hwhole,
    number_of_parts negative (hwhole.wholePart? hu.digit) hu.fraction_eq hu.exponent_eq,
    numeral_long hlong]
  rfl

lemma longText_of_number (h : number s = .error (.long integer)) :
    ∃ p u, s = p ++ u ∧ LongText p integer ∧ StopsNumber u := by
  rcases number_cases s with hfail | ⟨negative, t, whole, u, rfl, hwhole⟩
  · rw [hfail] at h
    cases h
  · obtain ⟨rfl, hw⟩ := whole_sound hwhole
    rcases hfraction : fraction u with ⟨places, u'⟩
    rcases hexponent : exponent u' with ⟨e, r⟩
    rw [number_of_parts negative hwhole hfraction hexponent] at h
    have hnumeral := error_of_map_error h
    unfold numeral at hnumeral
    split at hnumeral
    · cases hnumeral
    · split_ifs at hnumeral with hplaces hlong
      obtain rfl := Failure.long.inj (Except.error.inj hnumeral)
      obtain rfl : places = [] := by simpa using hplaces
      obtain rfl : u' = u := by
        have hnil := fraction_snd (by rw [hfraction])
        rwa [hfraction] at hnil
      refine ⟨sign negative ++ whole, u', by rw [List.append_assoc], .mk negative hw hlong, ?_⟩
      exact ⟨whole_opens hwhole ((by decide : 1 < mostDigits).trans hlong), by rw [hfraction],
        by rw [hexponent]⟩

lemma longText_of_scalar (h : scalar s = .error (.long integer)) :
    ∃ p u, s = p ++ u ∧ LongText p integer ∧ StopsNumber u := by
  unfold scalar at h
  split at h
  · cases h
  · exact longText_of_number h

end Numbers

section Failing

lemma LongText.head (hp : LongText p integer) : ∃ c t, p = c :: t ∧ isScalarChar c = true := by
  obtain ⟨negative, hwhole, -⟩ := hp
  obtain ⟨c, t, rfl, hc⟩ := hwhole.head
  cases negative with
  | true => exact ⟨_, _, rfl, rfl⟩
  | false => exact ⟨c, t, rfl, by simp [isScalarChar, Char.isAlphanum, hc]⟩

lemma LeadsToLong.leads (h : LeadsToLong lone integer part s) : Leads s := by
  induction h with
  | number hp _ =>
    obtain ⟨c, t, rfl, hc⟩ := hp.head
    exact ⟨c, _, rfl, by simp [isStart, hc]⟩
  | object _ _ _ => exact ⟨_, _, rfl, rfl⟩
  | array _ _ _ => exact ⟨_, _, rfl, rfl⟩
  | member _ _ _ _ _ => exact ⟨_, _, rfl, rfl⟩
  | laterMember _ _ _ _ _ _ _ _ => exact ⟨_, _, rfl, rfl⟩
  | element _ ih => exact ih
  | laterElement hq _ _ _ _ => exact hq.starts.append _

/-- Reading the text ends at an integer, by any number of steps from twice its length on. -/
def Part.FailsFrom (lone : Nat → Char) (integer : LongInteger) (s : Text) : Part → Prop
  | .value => ∀ n, 2 * s.length ≤ n + 1 → Json.value lone n s = .error (.long integer)
  | .members => ∀ n, 2 * s.length ≤ n → Json.members lone n s = .error (.long integer)
  | .elements => ∀ n, 2 * s.length ≤ n → Json.elements lone n s = .error (.long integer)

lemma LeadsToLong.failsFrom (h : LeadsToLong lone integer part s) : part.FailsFrom lone integer s := by
  have hleads := h.leads
  induction h with
  | number hp hu =>
    intro n hn
    obtain ⟨n, rfl⟩ := hleads.exists_succ hn
    obtain ⟨c, t, rfl, hc⟩ := hp.head
    rw [List.cons_append, value_of_scalarChar hc, ← List.cons_append, hp.scalar hu]
  | object hw h ih =>
    intro n hn
    obtain ⟨n, rfl⟩ := hleads.exists_succ hn
    simp only [List.length_cons, List.length_append] at hn
    rw [value_object hw h.leads, ih h.leads n (by omega)]
    rfl
  | array hw h ih =>
    intro n hn
    obtain ⟨n, rfl⟩ := hleads.exists_succ hn
    simp only [List.length_cons, List.length_append] at hn
    rw [value_array hw h.leads, ih h.leads n (by omega)]
    rfl
  | @member p w w' s name hname hw hw' h ih =>
    intro n hn
    obtain ⟨n, rfl⟩ := hleads.exists_succ (hn.trans n.le_succ)
    simp only [List.length_cons, List.length_append] at hn
    have hcolon := skip_append hw (s := ':' :: (w' ++ s)) (by simp [isSpace])
    simp only [members_succ, hname.string, hcolon, skip_append hw' h.leads.tight,
      ih h.leads n (by omega)]
  | @laterMember p w w' q x x' s name v hname hw hw' hq hx hx' h ih =>
    intro n hn
    obtain ⟨n, rfl⟩ := hleads.exists_succ (hn.trans n.le_succ)
    simp only [List.length_cons, List.length_append] at hn
    have hcolon := skip_append hw (s := ':' :: (w' ++ (q ++ (x ++ ',' :: (x' ++ s)))))
      (by simp [isSpace])
    have hcomma := skip_append hx (s := ',' :: (x' ++ s)) (by simp [isSpace])
    have hvalue := hq.readFrom n (x ++ ',' :: (x' ++ s)) (by omega) (opens_end hx rfl _)
    simp only [members_succ, hname.string, hcolon, skip_append hw' (hq.starts.append _).tight, hvalue,
      afterMember, hcomma, skip_append hx' h.leads.tight, ih h.leads n (by omega)]
    rfl
  | element h ih =>
    intro n hn
    obtain ⟨n, rfl⟩ := hleads.exists_succ (hn.trans n.le_succ)
    rw [elements_succ, ih hleads n (by omega)]
  | @laterElement q x x' s v hq hx hx' h ih =>
    intro n hn
    obtain ⟨n, rfl⟩ := hleads.exists_succ (hn.trans n.le_succ)
    simp only [List.length_cons, List.length_append] at hn
    have hcomma := skip_append hx (s := ',' :: (x' ++ s)) (by simp [isSpace])
    have hvalue := hq.readFrom n (x ++ ',' :: (x' ++ s)) (by omega) (opens_end hx rfl _)
    simp only [elements_succ, hvalue, afterElement, hcomma, skip_append hx' h.leads.tight,
      ih h.leads n (by omega)]
    rfl

end Failing

section Leading
variable {n : Nat}

/-- What fails at an integer in `n` steps leads to it. -/
structure Failing (lone : Nat → Char) (integer : LongInteger) (n : Nat) : Prop where
  value : ∀ {s}, value lone n s = .error (.long integer) → LeadsToLong lone integer .value s
  members : ∀ {s}, members lone n s = .error (.long integer) → LeadsToLong lone integer .members s
  elements : ∀ {s}, elements lone n s = .error (.long integer) → LeadsToLong lone integer .elements s

lemma value_failing (hn : Failing lone integer n)
    (h : value lone (n + 1) s = .error (.long integer)) : LeadsToLong lone integer .value s := by
  rw [value.eq_def] at h
  dsimp only at h
  split at h
  · exact absurd (error_of_map_error h) string_ne_long
  · next t =>
    obtain ⟨w, hw, ht⟩ := exists_skip t
    split at h
    · cases h
    · rw [ht]
      exact .object hw (hn.members (error_of_map_error h))
  · next t =>
    obtain ⟨w, hw, ht⟩ := exists_skip t
    split at h
    · cases h
    · rw [ht]
      exact .array hw (hn.elements (error_of_map_error h))
  · obtain ⟨p, u, rfl, hp, hu⟩ := longText_of_scalar h
    exact .number hp hu

lemma members_failing (hn : Failing lone integer n)
    (h : members lone (n + 1) s = .error (.long integer)) : LeadsToLong lone integer .members s := by
  rw [members.eq_def] at h
  dsimp only at h
  split at h
  · next t =>
    split at h
    · next f hname =>
      obtain rfl := Except.error.inj h
      exact absurd hname string_ne_long
    · next name u hname =>
      obtain ⟨p, rfl, hp⟩ := stringBody_of_string hname
      obtain ⟨w, hw, hu⟩ := exists_skip u
      split at h
      · next u' hu' =>
        obtain ⟨w', hw', hu''⟩ := exists_skip u'
        rw [hu, hu', hu'']
        split at h
        · next f hv =>
          obtain rfl := Except.error.inj h
          exact .member hp hw hw' (hn.value hv)
        · next v y hv =>
          obtain ⟨q, hq, hspells⟩ := (sound lone n).value hv
          obtain ⟨x, hx, hy⟩ := exists_skip y
          rw [hq, hy]
          split at h
          · cases h
          · next z hz =>
            obtain ⟨x', hx', hz'⟩ := exists_skip z
            rw [hz, hz']
            exact .laterMember hp hw hw' hspells hx hx' (hn.members (error_of_map_error h))
          · cases h
      · cases h
  · cases h

lemma elements_failing (hn : Failing lone integer n)
    (h : elements lone (n + 1) s = .error (.long integer)) : LeadsToLong lone integer .elements s := by
  rw [elements.eq_def] at h
  dsimp only at h
  split at h
  · next f hv =>
    obtain rfl := Except.error.inj h
    exact .element (hn.value hv)
  · next v y hv =>
    obtain ⟨q, hq, hspells⟩ := (sound lone n).value hv
    obtain ⟨x, hx, hy⟩ := exists_skip y
    rw [hq, hy]
    split at h
    · cases h
    · next z hz =>
      obtain ⟨x', hx', hz'⟩ := exists_skip z
      rw [hz, hz']
      exact .laterElement hspells hx hx' (hn.elements (error_of_map_error h))
    · cases h

lemma failing (lone : Nat → Char) (integer : LongInteger) (n : Nat) : Failing lone integer n := by
  induction n with
  | zero => exact ⟨nofun, nofun, nofun⟩
  | succ n ih => exact ⟨value_failing ih, members_failing ih, elements_failing ih⟩

end Leading

/-- Behind blank space, the text leads to an integer that is too long. -/
def MeetsLong (lone : Nat → Char) (integer : LongInteger) (text : Text) : Prop :=
  ∃ w s, text = w ++ s ∧ Run isSpace w ∧ LeadsToLong lone integer .value s

/-- Reading ends at an integer exactly when the text leads to it. -/
theorem readWith_long_iff {text : Text} :
    readWith lone text = .error (.long integer) ↔ MeetsLong lone integer text := by
  constructor
  · intro h
    obtain ⟨w, hw, htext⟩ := exists_skip text
    refine ⟨w, skip text, htext, hw, ?_⟩
    unfold readWith at h
    split_ifs at h
    · cases h
    split at h
    · next f hv =>
      obtain rfl := Except.error.inj h
      exact (failing lone integer _).value hv
    · split at h
      · cases h
      · cases h
  · rintro ⟨w, s, rfl, hw, hs⟩
    unfold readWith
    rw [if_neg (by simpa only [beq_iff_eq] using head_ne_mark hw hs.leads),
      skip_append hw hs.leads.tight, hs.failsFrom _ (by simp; omega)]

/-- The digits of an integer that is just too long. -/
def overlongDigits : Text := .replicate (mostDigits + 1) '1'

/-- An object with that integer. -/
def overlongObject : Text := ['{', '"', 'x', '"', ':'] ++ (overlongDigits ++ ['}'])

lemma overlongDigits_longText : LongText overlongDigits ⟨some (mostDigits + 1)⟩ := by
  have hdigits : Run Char.isDigit (.replicate mostDigits '1') := fun c hc => by
    rw [List.eq_of_mem_replicate hc]
    rfl
  have hlong := LongText.mk false (.digits (c := '1') (by decide) rfl hdigits) (by simp)
  rwa [List.length_cons, List.length_replicate] at hlong

/-- Whatever comes behind it, the object leads to its integer. -/
lemma overlongObject_leads (lone : Nat → Char) (u : Text) :
    LeadsToLong lone ⟨some (mostDigits + 1)⟩ .value (overlongObject ++ u) := by
  have hname : StringBody lone ['x', '"'] ['x'] := .plain (by decide) (by decide) (by decide) .close
  have hend : StopsNumber ('}' :: u) := stopsNumber_of_end (opens_end run_nil rfl u)
  have hleads := LeadsToLong.object run_nil
    (.member hname run_nil run_nil (.number overlongDigits_longText hend))
  rw [overlongObject, List.append_assoc, List.append_assoc]
  exact hleads

lemma overlongObject_meets (lone : Nat → Char) :
    MeetsLong lone ⟨some (mostDigits + 1)⟩ overlongObject := by
  have hleads := overlongObject_leads lone []
  rw [List.append_nil] at hleads
  exact ⟨[], overlongObject, rfl, run_nil, hleads⟩

lemma return_not_mem_overlongObject : '\r' ∉ overlongObject := by
  have hdigits : '\r' ∉ overlongDigits := fun h => absurd (List.eq_of_mem_replicate h) (by decide)
  simp [overlongObject, hdigits]

end Shorthand.Json
