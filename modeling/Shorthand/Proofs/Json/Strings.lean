import Shorthand.Json.Reader
import Shorthand.Proofs.Except
import Shorthand.Proofs.Text

/-! Blank space and strings of JSON: what a string looks like, apart from the function that reads it.
A string is read off the front of any text. -/
namespace Shorthand.Json
open Text

lemma reading_of_map_ok {α β : Type} {x : Reading α} {f : α → β} {b : β} {rest : Text}
    (h : x.map (fun r => (f r.1, r.2)) = .ok (b, rest)) :
    ∃ a, x = .ok (a, rest) ∧ f a = b := by
  obtain ⟨⟨a, s⟩, hx, hab⟩ := exists_of_map_ok h
  obtain ⟨rfl, rfl⟩ := Prod.mk.inj hab
  exact ⟨a, hx, rfl⟩

section Space
variable {w s : Text}

lemma exists_skip (s : Text) : ∃ w, Run isSpace w ∧ s = w ++ skip s :=
  ⟨s.takeWhile isSpace, run_takeWhile _ s, List.takeWhile_append_dropWhile.symm⟩

/-- The text does not start with blank space. -/
def Tight (s : Text) : Prop := Opens (!isSpace ·) s

@[simp] lemma tight_nil : Tight [] := opens_nil
@[simp] lemma tight_cons {c : Char} : Tight (c :: s) ↔ isSpace c = false := by simp [Tight]

lemma skip_append (hw : Run isSpace w) (hs : Tight s) : skip (w ++ s) = s :=
  dropWhile_run_append hw hs

end Space

section Strings
variable {lone : Nat → Char} {h p q rest s t : Text} {c e : Char} {n m size : Nat}

lemma length_of_hex4 (hn : hex4? h = some n) : h.length = 4 := by
  unfold hex4? at hn
  split at hn
  · rfl
  · cases hn

/-- What a numbered escape spells that has no partner. -/
def unitChar (lone : Nat → Char) (n : Nat) : Char := (Encoding.char? n).getD (lone n)

/-- The text starts with a numbered escape for the second half of a pair. -/
def OpensLow (p : Text) : Prop :=
  ∃ q m, p = '\\' :: 'u' :: q ∧ hex4? (q.take 4) = some m ∧ Encoding.isLowSurrogate m = true

/-- A string after its opening quote, and what it says. -/
inductive StringBody (lone : Nat → Char) : Text → Text → Prop
  | close : StringBody lone ['"'] []
  | plain {c : Char} {p s : Text} : c ≠ '"' → c ≠ '\\' → 0x20 ≤ c.toNat → StringBody lone p s →
      StringBody lone (c :: p) (c :: s)
  | escape {d e : Char} {p s : Text} : d ≠ 'u' → escaped? d = some e → StringBody lone p s →
      StringBody lone ('\\' :: d :: p) (e :: s)
  | unit {h p s : Text} {n : Nat} : hex4? h = some n →
      (Encoding.isHighSurrogate n = true → ¬ OpensLow p) → StringBody lone p s →
      StringBody lone ('\\' :: 'u' :: (h ++ p)) (unitChar lone n :: s)
  | pair {h h' p s : Text} {n m : Nat} : hex4? h = some n → hex4? h' = some m →
      Encoding.isHighSurrogate n = true → Encoding.isLowSurrogate m = true →
      StringBody lone p s →
      StringBody lone ('\\' :: 'u' :: (h ++ '\\' :: 'u' :: (h' ++ p)))
        (Char.ofNat (Encoding.joinSurrogates n m) :: s)

lemma StringBody.ne_nil (hp : StringBody lone p s) : p ≠ [] := by
  cases hp <;> simp

/-- Something follows the digits of a numbered escape in a string. -/
lemma StringBody.length_escape (hp : StringBody lone ('\\' :: 'u' :: q) s) : 5 ≤ q.length := by
  cases hp with
  | plain _ hc _ _ => exact absurd rfl hc
  | escape hd _ _ => exact absurd rfl hd
  | unit hn _ hp =>
    have := length_of_hex4 hn
    have := List.length_pos_iff.mpr hp.ne_nil
    rw [List.length_append]
    omega
  | pair hn _ _ _ _ =>
    have := length_of_hex4 hn
    rw [List.length_append, List.length_cons]
    omega

/-- Whether a string goes on with the second half of a pair does not depend on what follows it. -/
lemma StringBody.opensLow_append (hp : StringBody lone p s) (rest : Text) :
    OpensLow (p ++ rest) ↔ OpensLow p := by
  constructor
  · rintro ⟨q, m, hq, hm, hlow⟩
    obtain ⟨q', rfl⟩ : ∃ q', p = '\\' :: 'u' :: q' := by
      cases hp with
      | close => simp at hq
      | plain _ hc _ _ => simp [hc] at hq
      | escape hd _ _ => simp [hd] at hq
      | unit _ _ _ => exact ⟨_, rfl⟩
      | pair _ _ _ _ _ => exact ⟨_, rfl⟩
    have hlen := hp.length_escape
    obtain rfl : q' ++ rest = q := by simpa using hq
    rw [List.take_append_of_le_length (by omega)] at hm
    exact ⟨q', m, rfl, hm, hlow⟩
  · rintro ⟨q, m, rfl, hm, hlow⟩
    have hlen := hp.length_escape
    refine ⟨q ++ rest, m, rfl, ?_, hlow⟩
    rwa [List.take_append_of_le_length (by omega)]

lemma take_hex (hn : hex4? h = some n) (t : Text) : (h ++ t).take 4 = h ∧ (h ++ t).drop 4 = t := by
  have hlen := length_of_hex4 hn
  exact ⟨by rw [← hlen, List.take_left], by rw [← hlen, List.drop_left]⟩

lemma char?_of_high (hn : Encoding.isHighSurrogate n = true) : Encoding.char? n = none := by
  have hrange : 0xD800 ≤ n ∧ n < 0xDC00 := by simpa [Encoding.isHighSurrogate] using hn
  have hvalid : ¬ n.isValidChar := by
    rintro (hlt | hgt)
    · omega
    · omega
  simp [Encoding.char?, hvalid]

lemma opens_escape (h2 : t.take 2 = ['\\', 'u']) : t = '\\' :: 'u' :: t.drop 2 := by
  conv_lhs => rw [← List.take_append_drop 2 t, h2]
  rfl

lemma numbered_unit (lone : Nat → Char) (hn : hex4? h = some n) (ht : t ≠ [])
    (hlow : Encoding.isHighSurrogate n = true → ¬ OpensLow t) :
    numbered lone (h ++ t) = .ok (unitChar lone n, 4) := by
  obtain ⟨htake, hdrop⟩ := take_hex hn t
  have hdrop6 : (h ++ t).drop 6 = t.drop 2 := by rw [show 6 = 4 + 2 from rfl, ← List.drop_drop, hdrop]
  have hlong : ¬ (h ++ t).length ≤ 4 := by
    have := length_of_hex4 hn
    have := List.length_pos_iff.mpr ht
    rw [List.length_append]
    omega
  unfold numbered
  simp only [htake, hn, hlong, if_false, hdrop, hdrop6]
  split_ifs with hhigh
  · have hunit : unitChar lone n = lone n := by simp [unitChar, char?_of_high hhigh]
    rw [hunit]
    split
    · next m h2 hm =>
      have hnot : Encoding.isLowSurrogate m = false := by
        by_contra hm'
        exact hlow hhigh ⟨_, m, opens_escape h2, hm, by simpa using hm'⟩
      simp [hnot]
    · rfl
  · rfl

lemma numbered_pair (lone : Nat → Char) {h' : Text} (hn : hex4? h = some n)
    (hm : hex4? h' = some m) (hhigh : Encoding.isHighSurrogate n = true)
    (hlow : Encoding.isLowSurrogate m = true) (ht : t ≠ []) :
    numbered lone (h ++ '\\' :: 'u' :: (h' ++ t)) =
      .ok (Char.ofNat (Encoding.joinSurrogates n m), 10) := by
  obtain ⟨htake, hdrop⟩ := take_hex hn ('\\' :: 'u' :: (h' ++ t))
  have hdrop6 : (h ++ '\\' :: 'u' :: (h' ++ t)).drop 6 = h' ++ t := by
    rw [show 6 = 4 + 2 from rfl, ← List.drop_drop, hdrop]
    rfl
  have hlong : 10 < (h ++ '\\' :: 'u' :: (h' ++ t)).length := by
    have := length_of_hex4 hn
    have := length_of_hex4 hm
    have := List.length_pos_iff.mpr ht
    simp only [List.length_append, List.length_cons]
    omega
  have hshort : ¬ (h ++ '\\' :: 'u' :: (h' ++ t)).length ≤ 4 := by omega
  unfold numbered
  simp only [htake, hn, hshort, if_false, hhigh, if_true, hdrop, hdrop6, (take_hex hm t).1, hm,
    List.take_succ_cons, List.take_zero, hlow, hlong, decide_true, Bool.and_true]

/-- What a numbered escape can spell: one character with its partner, or what its own number says. -/
lemma numbered_cases (h : numbered lone t = .ok (e, size)) :
    ∃ n, hex4? (t.take 4) = some n ∧
      ((size = 10 ∧ Encoding.isHighSurrogate n = true ∧ ∃ m, t.drop 4 = '\\' :: 'u' :: t.drop 6 ∧
          hex4? ((t.drop 6).take 4) = some m ∧ Encoding.isLowSurrogate m = true ∧
          e = Char.ofNat (Encoding.joinSurrogates n m)) ∨
        (size = 4 ∧ e = unitChar lone n ∧
          (Encoding.isHighSurrogate n = true → OpensLow (t.drop 4) → t.length ≤ 10))) := by
  unfold numbered at h
  split at h
  · cases h
  · next n hn =>
    refine ⟨n, hn, ?_⟩
    split_ifs at h with hshort hhigh
    · have hunit : unitChar lone n = lone n := by simp [unitChar, char?_of_high hhigh]
      rw [hunit]
      have hopen : (t.drop 4).drop 2 = t.drop 6 := List.drop_drop
      split at h
      · next m h2 hm =>
        have heq : t.drop 4 = '\\' :: 'u' :: t.drop 6 := hopen ▸ opens_escape h2
        split_ifs at h with hlow
        · obtain ⟨rfl, rfl⟩ : _ = e ∧ _ = size := by simpa using h
          exact .inl ⟨rfl, hhigh, m, heq, hm, (Bool.and_eq_true _ _ ▸ hlow).1, rfl⟩
        · obtain ⟨rfl, rfl⟩ : _ = e ∧ _ = size := by simpa using h
          refine .inr ⟨rfl, rfl, ?_⟩
          rintro - ⟨q, m', hq, hm', hlow'⟩
          obtain rfl : t.drop 6 = q := by simpa [heq] using hq
          obtain rfl : m = m' := by simpa [hm] using hm'
          simpa [hlow'] using hlow
      · next hno =>
        obtain ⟨rfl, rfl⟩ : _ = e ∧ _ = size := by simpa using h
        refine .inr ⟨rfl, rfl, ?_⟩
        rintro - ⟨q, m, hq, hm, -⟩
        have h6 : t.drop 6 = q := by rw [← hopen, hq]; rfl
        exact absurd (by rw [h6, hm]) (hno m (by rw [hq]; rfl))
    · obtain ⟨rfl, rfl⟩ : _ = e ∧ _ = size := by simpa using h
      exact .inr ⟨rfl, rfl, fun hhigh' => absurd hhigh' hhigh⟩

/-- A string is read off the front of any text. -/
theorem StringBody.string (hp : StringBody lone p s) (start : Nat) (rest : Text) :
    string lone start (p ++ rest) = .ok (s, rest) := by
  induction hp with
  | close =>
    unfold Json.string
    simp
  | plain hquote hback hlow _ ih =>
    unfold Json.string
    simp [hquote, hback, Nat.not_lt.mpr hlow, ih, Except.map]
  | escape hd he _ ih => simp [Json.string, hd, he, ih, Except.map]
  | @unit h p s n hn hlow hp ih =>
    have hlow' := fun hhigh => mt (hp.opensLow_append rest).mp (hlow hhigh)
    have hread := numbered_unit lone hn (by simp [hp.ne_nil]) hlow'
    have hdrop := (take_hex hn (p ++ rest)).2
    simp [Json.string, hread, hdrop, ih, Except.map]
  | @pair h h' p s n m hn hm hhigh hlow hp ih =>
    have hread := numbered_pair lone (t := p ++ rest) hn hm hhigh hlow (by simp [hp.ne_nil])
    have hdrop : (h ++ '\\' :: 'u' :: (h' ++ (p ++ rest))).drop 10 = p ++ rest := by
      rw [show 10 = 4 + (2 + 4) from rfl, ← List.drop_drop, (take_hex hn _).2, ← List.drop_drop]
      exact (take_hex hm _).2
    simp [Json.string, hread, hdrop, ih, Except.map]

lemma stringBody_of_numbered (h : numbered lone t = .ok (e, size)) (hp : StringBody lone p s)
    (hdrop : t.drop size = p ++ rest) :
    ∃ q, t = q ++ rest ∧ StringBody lone ('\\' :: 'u' :: q) (e :: s) := by
  obtain ⟨n, hn, ⟨rfl, hhigh, m, hopen, hm, hlow, he⟩ | ⟨rfl, he, hlong⟩⟩ := numbered_cases h
  · have hsplit : t.drop 6 = (t.drop 6).take 4 ++ (p ++ rest) := by
      rw [← hdrop, show 10 = 6 + 4 from rfl, ← List.drop_drop, List.take_append_drop]
    refine ⟨t.take 4 ++ '\\' :: 'u' :: ((t.drop 6).take 4 ++ p), ?_, ?_⟩
    · conv_lhs => rw [← List.take_append_drop 4 t, hopen, hsplit]
      simp
    · rw [he]
      exact .pair hn hm hhigh hlow hp
  · rw [he]
    refine ⟨t.take 4 ++ p, ?_, .unit hn (fun hhigh hopen => ?_) hp⟩
    · conv_lhs => rw [← List.take_append_drop 4 t, hdrop]
      rw [List.append_assoc]
    · -- A second half is never cut off: the string goes on after its digits.
      have hshort := hlong hhigh (hdrop ▸ (hp.opensLow_append rest).mpr hopen)
      obtain ⟨q, -, rfl, -, -⟩ := hopen
      have hq := hp.length_escape
      have hlen := congrArg List.length hdrop
      simp only [List.length_drop, List.length_append, List.length_cons] at hlen
      omega

/-- What is read as a string has the form of one. -/
theorem stringBody_of_string {start : Nat} (h : string lone start t = .ok (s, rest)) :
    ∃ p, t = p ++ rest ∧ StringBody lone p s := by
  fun_induction string lone start t generalizing s with
  | case1 => cases h
  | case2 c t hquote =>
    obtain ⟨rfl, rfl⟩ : [] = s ∧ t = rest := by simpa using h
    exact ⟨['"'], by simpa using hquote, .close⟩
  | case3 => cases h
  | case4 => cases h
  | case5 c hquote hback d t hu e size hnum ih =>
    obtain ⟨s', hs', rfl⟩ := reading_of_map_ok (f := (_ :: ·)) h
    obtain ⟨p, hp, hbody⟩ := ih hs'
    obtain ⟨q, rfl, hq⟩ := stringBody_of_numbered hnum hbody hp
    obtain rfl : c = '\\' := by simpa using hback
    obtain rfl : d = 'u' := by simpa using hu
    exact ⟨'\\' :: 'u' :: q, rfl, hq⟩
  | case6 => cases h
  | case7 c hquote hback d t hu e he ih =>
    obtain ⟨s', hs', rfl⟩ := reading_of_map_ok (f := (_ :: ·)) h
    obtain ⟨p, rfl, hbody⟩ := ih hs'
    obtain rfl : c = '\\' := by simpa using hback
    exact ⟨'\\' :: d :: p, rfl, .escape (by simpa using hu) he hbody⟩
  | case8 => cases h
  | case9 c t hquote hback hlow ih =>
    obtain ⟨s', hs', rfl⟩ := reading_of_map_ok (f := (_ :: ·)) h
    obtain ⟨p, rfl, hbody⟩ := ih hs'
    exact ⟨c :: p, rfl, .plain (by simpa using hquote) (by simpa using hback) (by omega) hbody⟩

/-- A string holds no integer. -/
lemma string_ne_long {start : Nat} {integer : LongInteger} :
    string lone start t ≠ .error (.long integer) := by
  intro h
  fun_induction string lone start t with
  | case1 => cases h
  | case2 => cases h
  | case3 => cases h
  | case4 => cases h
  | case5 _ _ _ _ _ _ _ _ _ ih => exact ih (error_of_map_error h)
  | case6 => cases h
  | case7 _ _ _ _ _ _ _ _ ih => exact ih (error_of_map_error h)
  | case8 => cases h
  | case9 _ _ _ _ _ ih => exact ih (error_of_map_error h)

end Strings

end Shorthand.Json
