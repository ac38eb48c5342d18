import Shorthand.Proofs.Json.Grammar
import Shorthand.Proofs.Json.Members

/-! Readings that agree. A text says the same whichever way its lines end, and what it says depends on
the stand-ins for surrogates without their partner only where a text in it holds one. -/
namespace Shorthand.Json
open Text
variable {lone other : Nat → Char} {p s t w x : Text} {c : Char} {v : Json} {node : Node}

section LineEnds

lemma unifyNewlines_cons (hc : c ≠ '\r') (s : Text) :
    unifyNewlines (c :: s) = c :: unifyNewlines s := by
  simp [unifyNewlines, hc]

lemma unifyNewlines_append_of_free (hp : '\r' ∉ p) (x : Text) :
    unifyNewlines (p ++ x) = p ++ unifyNewlines x := by
  induction p with
  | nil => rfl
  | cons c p ih =>
    obtain ⟨hc, hp⟩ : '\r' ≠ c ∧ '\r' ∉ p := by simpa using hp
    rw [List.cons_append, unifyNewlines_cons hc.symm, ih hp, List.cons_append]

lemma unifyNewlines_of_free (hp : '\r' ∉ p) : unifyNewlines p = p := by
  simpa [unifyNewlines] using unifyNewlines_append_of_free hp []

/-- Only a line feed behind a carriage return is taken together with it. -/
lemma unifyNewlines_append (hx : x.head? ≠ some '\n') (w : Text) :
    unifyNewlines (w ++ x) = unifyNewlines w ++ unifyNewlines x := by
  fun_induction unifyNewlines w with
  | case1 => rfl
  | case2 s ih => simp [unifyNewlines, ih]
  | case3 c s hpair ih =>
    have hpair' : ∀ t, c = '\r' → s ++ x = '\n' :: t → False := by
      intro t hc ht
      cases s with
      | nil => exact hx (by simpa using congrArg List.head? ht)
      | cons d s =>
        obtain rfl : d = '\n' := by simpa using congrArg List.head? ht
        exact hpair s hc rfl
    rw [List.cons_append, unifyNewlines, ih, List.cons_append]
    exact hpair'

lemma run_unifyNewlines (hw : Run isSpace w) : Run isSpace (unifyNewlines w) := by
  fun_induction unifyNewlines w with
  | case1 => exact run_nil
  | case2 s ih =>
    exact run_cons.mpr ⟨rfl, ih (run_cons.mp (run_cons.mp hw).2).2⟩
  | case3 c s _ ih =>
    rw [run_cons] at hw
    refine run_cons.mpr ⟨?_, ih hw.2⟩
    split_ifs
    · rfl
    · exact hw.1

lemma hex4?_no_return {h : Text} {n : Nat} (hn : hex4? h = some n) : '\r' ∉ h := by
  unfold hex4? at hn
  split at hn
  · next a b c d =>
    have hdigit : ∀ e ∈ [a, b, c, d], (hexDigit? e).isSome = true := by
      simp only [Option.bind_eq_bind, Option.bind_eq_some_iff] at hn
      obtain ⟨a', ha, b', hb, c', hc, d', hd, -⟩ := hn
      simp [ha, hb, hc, hd]
    intro hmem
    exact absurd (hdigit _ hmem) (by decide)
  · cases hn

lemma StringBody.no_return (hp : StringBody lone p s) : '\r' ∉ p := by
  induction hp with
  | close => decide
  | plain _ _ hc _ ih =>
    refine List.not_mem_cons_of_ne_of_not_mem ?_ ih
    rintro rfl
    exact absurd hc (by decide)
  | @escape d e p s _ he _ ih =>
    refine List.not_mem_cons_of_ne_of_not_mem (by decide) (List.not_mem_cons_of_ne_of_not_mem ?_ ih)
    rintro rfl
    cases he
  | unit hn _ _ ih => simp [hex4?_no_return hn, ih]
  | pair hn hm _ _ _ ih => simp [hex4?_no_return hn, hex4?_no_return hm, ih]

lemma ScalarText.no_return (hp : ScalarText p v) : '\r' ∉ p :=
  fun hc => absurd (hp.chars _ hc) (by decide)

lemma unifyNewlines_space (hc : c ≠ '\n') (hc' : c ≠ '\r') (w t : Text) :
    unifyNewlines (w ++ c :: t) = unifyNewlines w ++ c :: unifyNewlines t := by
  rw [unifyNewlines_append (by simpa using hc), unifyNewlines_cons hc']

lemma unifyNewlines_leads (h : Leads s) (w : Text) :
    unifyNewlines (w ++ s) = unifyNewlines w ++ unifyNewlines s := by
  refine unifyNewlines_append ?_ w
  obtain ⟨c, s, rfl, hc⟩ := h
  simpa using ne_of_class hc rfl

/-- Line ends inside a node are blank space, and none of them reaches beyond it. -/
theorem Spells.unifyNewlines (hp : Spells lone p node) :
    (∀ x, unifyNewlines (p ++ x) = unifyNewlines p ++ unifyNewlines x) ∧
      Spells lone (unifyNewlines p) node := by
  have hnil : Text.unifyNewlines [] = [] := rfl
  induction hp with
  | string hp =>
    have hfree : '\r' ∉ '"' :: _ := List.not_mem_cons_of_ne_of_not_mem (by decide) hp.no_return
    rw [unifyNewlines_of_free hfree]
    exact ⟨unifyNewlines_append_of_free hfree, .string hp⟩
  | scalar hp =>
    rw [unifyNewlines_of_free hp.no_return]
    exact ⟨unifyNewlines_append_of_free hp.no_return, .scalar hp⟩
  | noMembers hw =>
    refine ⟨fun x => by simp [unifyNewlines_cons, unifyNewlines_space, hnil], ?_⟩
    simpa [unifyNewlines_cons, unifyNewlines_space, hnil] using
      Spells.noMembers (run_unifyNewlines hw)
  | object hw hp ih =>
    refine ⟨fun x => ?_, ?_⟩
    · simp [unifyNewlines_cons, unifyNewlines_leads (hp.starts.append x),
        unifyNewlines_leads hp.starts, ih.1]
    · simpa [unifyNewlines_cons, unifyNewlines_leads hp.starts] using
        Spells.object (run_unifyNewlines hw) ih.2
  | noElements hw =>
    refine ⟨fun x => by simp [unifyNewlines_cons, unifyNewlines_space, hnil], ?_⟩
    simpa [unifyNewlines_cons, unifyNewlines_space, hnil] using
      Spells.noElements (run_unifyNewlines hw)
  | array hw hp ih =>
    refine ⟨fun x => ?_, ?_⟩
    · simp [unifyNewlines_cons, unifyNewlines_leads (hp.starts.append x),
        unifyNewlines_leads hp.starts, ih.1]
    · simpa [unifyNewlines_cons, unifyNewlines_leads hp.starts] using
        Spells.array (run_unifyNewlines hw) ih.2
  | @member p w w' q r name v ms hname hw hw' hq hr ihq ihr =>
    have hsplit (x : Text) : Text.unifyNewlines ('"' :: (p ++ (w ++ ':' :: (w' ++ (q ++ (r ++ x)))))) =
        '"' :: (p ++ (Text.unifyNewlines w ++ ':' :: (Text.unifyNewlines w' ++
          (Text.unifyNewlines q ++ (Text.unifyNewlines r ++ Text.unifyNewlines x))))) := by
      rw [unifyNewlines_cons (by decide), unifyNewlines_append_of_free hname.no_return,
        unifyNewlines_space (by decide) (by decide), unifyNewlines_leads (hq.starts.append _), ihq.1,
        ihr.1]
    have hself := hsplit []
    simp only [hnil, List.append_nil] at hself
    refine ⟨fun x => ?_, ?_⟩
    · simpa [hself] using hsplit x
    · rw [hself]
      exact .member hname (run_unifyNewlines hw) (run_unifyNewlines hw') ihq.2 ihr.2
  | lastMember hw =>
    refine ⟨fun x => by simp [unifyNewlines_space, hnil], ?_⟩
    simpa [unifyNewlines_space, hnil] using Spells.lastMember (run_unifyNewlines hw)
  | nextMember hw hw' hp ih =>
    refine ⟨fun x => ?_, ?_⟩
    · simp [unifyNewlines_space, unifyNewlines_leads (hp.starts.append x),
        unifyNewlines_leads hp.starts, ih.1]
    · simpa [unifyNewlines_space, unifyNewlines_leads hp.starts] using
        Spells.nextMember (run_unifyNewlines hw) (run_unifyNewlines hw') ih.2
  | element hp hq ihp ihq =>
    refine ⟨fun x => by simp [ihp.1, ihq.1], ?_⟩
    rw [ihp.1]
    exact .element ihp.2 ihq.2
  | lastElement hw =>
    refine ⟨fun x => by simp [unifyNewlines_space, hnil], ?_⟩
    simpa [unifyNewlines_space, hnil] using Spells.lastElement (run_unifyNewlines hw)
  | nextElement hw hw' hp ih =>
    refine ⟨fun x => ?_, ?_⟩
    · simp [unifyNewlines_space, unifyNewlines_leads (hp.starts.append x),
        unifyNewlines_leads hp.starts, ih.1]
    · simpa [unifyNewlines_space, unifyNewlines_leads hp.starts] using
        Spells.nextElement (run_unifyNewlines hw) (run_unifyNewlines hw') ih.2

/-- A text holds the same value whichever way its lines end. -/
theorem Holds.unifyNewlines (h : Holds lone t v) : Holds lone (unifyNewlines t) v := by
  obtain ⟨w, p, w', rfl, hw, hw', hp⟩ := h
  refine ⟨Text.unifyNewlines w, Text.unifyNewlines p, Text.unifyNewlines w', ?_,
    run_unifyNewlines hw, run_unifyNewlines hw', hp.unifyNewlines.2⟩
  rw [unifyNewlines_leads (hp.starts.append w'), hp.unifyNewlines.1]

end LineEnds

section StandIns

/-- Neither a letter nor an underscore. -/
def isForeign (c : Char) : Bool := !(c.isAlpha || c == '_')

/-- The two texts are alike but for characters that are foreign in both. -/
def Twin (s t : Text) : Prop :=
  List.Forall₂ (fun c d => c = d ∨ (isForeign c = true ∧ isForeign d = true)) s t

/-- Texts that are alike are the same, or both hold a foreign character. -/
lemma Twin.eq_or_foreign (h : Twin s t) :
    s = t ∨ ((∃ c ∈ s, isForeign c = true) ∧ ∃ d ∈ t, isForeign d = true) := by
  induction h with
  | nil => exact .inl rfl
  | cons hcd _ ih =>
    rcases hcd with rfl | ⟨hc, hd⟩
    · rcases ih with rfl | ⟨⟨c, hc, hc'⟩, d, hd, hd'⟩
      · exact .inl rfl
      · exact .inr ⟨⟨c, List.mem_cons_of_mem _ hc, hc'⟩, d, List.mem_cons_of_mem _ hd, hd'⟩
    · exact .inr ⟨⟨_, List.mem_cons_self, hc⟩, _, List.mem_cons_self, hd⟩

lemma unitChar_twin (hlone : ∀ n, isForeign (lone n) = true) (hother : ∀ n, isForeign (other n) = true)
    (n : Nat) : unitChar lone n = unitChar other n ∨
      (isForeign (unitChar lone n) = true ∧ isForeign (unitChar other n) = true) := by
  unfold unitChar
  cases Encoding.char? n with
  | none => exact .inr ⟨hlone n, hother n⟩
  | some c => exact .inl rfl

lemma StringBody.twin (hlone : ∀ n, isForeign (lone n) = true)
    (hother : ∀ n, isForeign (other n) = true) (hp : StringBody lone p s) :
    ∃ t, StringBody other p t ∧ Twin s t := by
  induction hp with
  | close => exact ⟨[], .close, .nil⟩
  | plain hquote hback hc _ ih =>
    obtain ⟨t, ht, htwin⟩ := ih
    exact ⟨_, .plain hquote hback hc ht, .cons (.inl rfl) htwin⟩
  | escape hd he _ ih =>
    obtain ⟨t, ht, htwin⟩ := ih
    exact ⟨_, .escape hd he ht, .cons (.inl rfl) htwin⟩
  | unit hn hlow _ ih =>
    obtain ⟨t, ht, htwin⟩ := ih
    exact ⟨_, .unit hn hlow ht, .cons (unitChar_twin hlone hother _) htwin⟩
  | pair hn hm hhigh hlow _ ih =>
    obtain ⟨t, ht, htwin⟩ := ih
    exact ⟨_, .pair hn hm hhigh hlow ht, .cons (.inl rfl) htwin⟩

/-- Members with names that are alike and values that turn the same way. -/
def TwinMembers (ms ms' : List (Text × Json)) : Prop :=
  List.Forall₂ (fun m m' => Twin m.1 m'.1 ∧ m.2.isTrue = m'.2.isTrue) ms ms'

/-- Nodes that cannot be told apart by names without foreign characters. -/
inductive Node.Twin : Node → Node → Prop
  | value {v v' : Json} : v.isTrue = v'.isTrue → Twin (.value v) (.value v')
  | members {ms ms' : List (Text × Json)} : TwinMembers ms ms' → Twin (.members ms) (.members ms')
  | moreMembers {ms ms' : List (Text × Json)} : TwinMembers ms ms' →
      Twin (.moreMembers ms) (.moreMembers ms')
  | elements {v v' : Json} {vs vs' : List Json} : Twin (.elements (v :: vs)) (.elements (v' :: vs'))
  | moreElements {vs vs' : List Json} : Twin (.moreElements vs) (.moreElements vs')

lemma TwinMembers.isTrue {ms ms' : List (Text × Json)} (h : TwinMembers ms ms') :
    (Json.obj (ofPairs ms)).isTrue = (Json.obj (ofPairs ms')).isTrue := by
  cases h with
  | nil => rfl
  | cons _ _ => simp [Json.isTrue, ofPairs_isEmpty]

/-- Another stand-in for surrogates gives another reading of the same text, alike to the first. -/
theorem Spells.twin (hlone : ∀ n, isForeign (lone n) = true)
    (hother : ∀ n, isForeign (other n) = true) (hp : Spells lone p node) :
    ∃ node', Spells other p node' ∧ node.Twin node' := by
  induction hp with
  | string hp =>
    obtain ⟨t, ht, htwin⟩ := hp.twin hlone hother
    refine ⟨_, .string ht, .value ?_⟩
    cases htwin <;> rfl
  | scalar hp => exact ⟨_, .scalar hp, .value rfl⟩
  | noMembers hw => exact ⟨_, .noMembers hw, .value rfl⟩
  | object hw _ ih =>
    obtain ⟨_, hp, htwin⟩ := ih
    cases htwin with
    | members hms => exact ⟨_, .object hw hp, .value hms.isTrue⟩
  | noElements hw => exact ⟨_, .noElements hw, .value rfl⟩
  | array hw _ ih =>
    obtain ⟨_, hp, htwin⟩ := ih
    cases htwin
    exact ⟨_, .array hw hp, .value rfl⟩
  | member hname hw hw' _ _ ihq ihr =>
    obtain ⟨name, hname', htwin⟩ := hname.twin hlone hother
    obtain ⟨_, hq, htwinq⟩ := ihq
    obtain ⟨_, hr, htwinr⟩ := ihr
    cases htwinq with
    | value hv =>
      cases htwinr with
      | moreMembers hms => exact ⟨_, .member hname' hw hw' hq hr, .members (.cons ⟨htwin, hv⟩ hms)⟩
  | lastMember hw => exact ⟨_, .lastMember hw, .moreMembers .nil⟩
  | nextMember hw hw' _ ih =>
    obtain ⟨_, hp, htwin⟩ := ih
    cases htwin with
    | members hms => exact ⟨_, .nextMember hw hw' hp, .moreMembers hms⟩
  | element _ _ ihp ihq =>
    obtain ⟨_, hp, htwinp⟩ := ihp
    obtain ⟨_, hq, htwinq⟩ := ihq
    cases htwinp
    cases htwinq
    exact ⟨_, .element hp hq, .elements⟩
  | lastElement hw => exact ⟨_, .lastElement hw, .moreElements⟩
  | nextElement hw hw' _ ih =>
    obtain ⟨_, hp, htwin⟩ := ih
    cases htwin
    exact ⟨_, .nextElement hw hw' hp, .moreElements⟩

lemma ScalarText.ne_obj {ms : List (Text × Json)} : ¬ ScalarText p (.obj ms) := by
  generalize hv : Json.obj ms = v
  rintro (hw | hp)
  · fin_cases hw <;> cases hv
  · obtain ⟨negative, -, -, -, hnumeral⟩ := hp
    rw [← hv] at hnumeral
    unfold numeral at hnumeral
    split at hnumeral
    · cases hnumeral
    · split_ifs at hnumeral <;> cases hnumeral

/-- With another stand-in for surrogates an object reads alike. -/
theorem Holds.twin {o : List (Text × Json)} (hlone : ∀ n, isForeign (lone n) = true)
    (hother : ∀ n, isForeign (other n) = true) (h : Holds lone t (.obj o)) :
    ∃ ms ms', o = ofPairs ms ∧ TwinMembers ms ms' ∧ Holds other t (.obj (ofPairs ms')) := by
  obtain ⟨w, p, w', ht, hw, hw', hp⟩ := h
  cases hp with
  | scalar hp => exact absurd hp ScalarText.ne_obj
  | noMembers hv => exact ⟨[], [], rfl, .nil, w, _, w', ht, hw, hw', .noMembers hv⟩
  | object hv hp =>
    obtain ⟨_, hp', htwin⟩ := hp.twin hlone hother
    cases htwin with
    | members hms => exact ⟨_, _, rfl, hms, w, _, w', ht, hw, hw', .object hv hp'⟩

end StandIns
end Shorthand.Json
