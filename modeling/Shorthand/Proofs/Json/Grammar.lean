import Shorthand.Proofs.Json.Numbers
import Shorthand.Proofs.Json.Strings

/-! The grammar of JSON, apart from the functions that read it. Main statement: a text is read as a
value exactly when the grammar spells that value by it, with blank space around. -/
namespace Shorthand.Json
open Text

/-- What the parts of a text spell: a value, members or elements up to their closing bracket, or what
follows a member or an element up to that bracket. -/
inductive Node where
  | value (v : Json)
  | members (ms : List (Text × Json))
  | moreMembers (ms : List (Text × Json))
  | elements (vs : List Json)
  | moreElements (vs : List Json)

/-- The text spells the node. -/
inductive Spells (lone : Nat → Char) : Text → Node → Prop
  | string {p s : Text} : StringBody lone p s → Spells lone ('"' :: p) (.value (.str s))
  | scalar {p : Text} {v : Json} : ScalarText p v → Spells lone p (.value v)
  | noMembers {w : Text} : Run isSpace w → Spells lone ('{' :: (w ++ ['}'])) (.value (.obj []))
  | object {w p : Text} {ms : List (Text × Json)} : Run isSpace w → Spells lone p (.members ms) →
      Spells lone ('{' :: (w ++ p)) (.value (.obj (ofPairs ms)))
  | noElements {w : Text} : Run isSpace w → Spells lone ('[' :: (w ++ [']'])) (.value (.arr []))
  | array {w p : Text} {vs : List Json} : Run isSpace w → Spells lone p (.elements vs) →
      Spells lone ('[' :: (w ++ p)) (.value (.arr vs))
  | member {p w w' q r name : Text} {v : Json} {ms : List (Text × Json)} : StringBody lone p name →
      Run isSpace w → Run isSpace w' → Spells lone q (.value v) → Spells lone r (.moreMembers ms) →
      Spells lone ('"' :: (p ++ (w ++ ':' :: (w' ++ (q ++ r))))) (.members ((name, v) :: ms))
  | lastMember {w : Text} : Run isSpace w → Spells lone (w ++ ['}']) (.moreMembers [])
  | nextMember {w w' p : Text} {ms : List (Text × Json)} : Run isSpace w → Run isSpace w' →
      Spells lone p (.members ms) → Spells lone (w ++ ',' :: (w' ++ p)) (.moreMembers ms)
  | element {p q : Text} {v : Json} {vs : List Json} : Spells lone p (.value v) →
      Spells lone q (.moreElements vs) → Spells lone (p ++ q) (.elements (v :: vs))
  | lastElement {w : Text} : Run isSpace w → Spells lone (w ++ [']']) (.moreElements [])
  | nextElement {w w' p : Text} {vs : List Json} : Run isSpace w → Run isSpace w' →
      Spells lone p (.elements vs) → Spells lone (w ++ ',' :: (w' ++ p)) (.moreElements vs)

variable {lone : Nat → Char} {p s t w rest : Text} {v : Json} {node : Node}

section Reading

/-- Read on after a member. -/
def afterMember (lone : Nat → Char) (n : Nat) (name : Text) (v : Json) (s : Text) :
    Reading (List (Text × Json)) :=
  match skip s with
  | '}' :: u => .ok ([(name, v)], u)
  | ',' :: u => (members lone n (skip u)).map fun r => ((name, v) :: r.1, r.2)
  | u => fail .comma u

/-- Read on after an element. -/
def afterElement (lone : Nat → Char) (n : Nat) (v : Json) (s : Text) : Reading (List Json) :=
  match skip s with
  | ']' :: u => .ok ([v], u)
  | ',' :: u => (elements lone n (skip u)).map fun r => (v :: r.1, r.2)
  | u => fail .comma u

lemma elements_succ (n : Nat) (s : Text) :
    elements lone (n + 1) s =
      match value lone n s with
      | .error f => .error f
      | .ok (v, u) => afterElement lone n v u := rfl

lemma members_succ (n : Nat) (t : Text) :
    members lone (n + 1) ('"' :: t) =
      match string lone (t.length + 1) t with
      | .error f => .error f
      | .ok (name, u) =>
        match skip u with
        | ':' :: u =>
          match value lone n (skip u) with
          | .error f => .error f
          | .ok (v, u) => afterMember lone n name v u
        | u => fail .colon u := rfl

lemma isEnd_of_isSpace {c : Char} (h : isSpace c = true) : isEnd c = true := by simp [isEnd, h]

lemma opens_end {c : Char} (hw : Run isSpace w) (hc : isEnd c = true) (t : Text) :
    Opens isEnd (w ++ c :: t) := by
  cases w with
  | nil => simpa using hc
  | cons d w => simpa using isEnd_of_isSpace (run_cons.mp hw).1

/-- What a value starts with. -/
def isStart (c : Char) : Bool := isScalarChar c || c == '"' || c == '{' || c == '['

lemma isEnd_of_isStart {c : Char} (h : isStart c = true) : isEnd c = false := by
  by_contra hn
  simp only [isEnd, isSpace, Bool.not_eq_false, Bool.or_eq_true, beq_iff_eq] at hn
  rcases hn with (((((rfl | rfl) | rfl) | rfl) | rfl) | rfl) | rfl <;> cases h

/-- The text starts like a value. -/
def Leads (s : Text) : Prop := ∃ c t, s = c :: t ∧ isStart c = true

lemma Leads.append (h : Leads s) (t : Text) : Leads (s ++ t) := by
  obtain ⟨c, s, rfl, hc⟩ := h
  exact ⟨c, s ++ t, rfl, hc⟩

/-- There is at least one step for a text that is not empty. -/
lemma Leads.exists_succ {n : Nat} (h : Leads s) (hn : 2 * s.length ≤ n + 1) : ∃ m, n = m + 1 := by
  obtain ⟨c, s, rfl, -⟩ := h
  rw [List.length_cons] at hn
  exact ⟨n - 1, by omega⟩

lemma Leads.tight (h : Leads s) : Tight s := by
  obtain ⟨c, s, rfl, hc⟩ := h
  rw [tight_cons]
  by_contra hn
  have hend := isEnd_of_isSpace (by simpa using hn)
  rw [isEnd_of_isStart hc] at hend
  cases hend

lemma ScalarText.leads (hp : ScalarText p v) : Leads p := by
  have hchars := hp.chars
  cases p with
  | nil => exact absurd rfl hp.ne_nil
  | cons c t => exact ⟨c, t, rfl, by simp [isStart, (run_cons.mp hchars).1]⟩

/-- How a node starts: what follows a member or an element as one may after a value, all else in
another way. -/
def Node.Starts : Node → Text → Prop
  | .moreMembers _, p | .moreElements _, p => ∀ rest, Opens isEnd (p ++ rest)
  | _, p => Leads p

lemma Spells.starts (hp : Spells lone p node) : node.Starts p := by
  induction hp with
  | string _ => exact ⟨_, _, rfl, rfl⟩
  | scalar hp => exact hp.leads
  | noMembers _ => exact ⟨_, _, rfl, rfl⟩
  | object _ _ _ => exact ⟨_, _, rfl, rfl⟩
  | noElements _ => exact ⟨_, _, rfl, rfl⟩
  | array _ _ _ => exact ⟨_, _, rfl, rfl⟩
  | member _ _ _ _ _ _ _ => exact ⟨_, _, rfl, rfl⟩
  | lastMember hw =>
    intro rest
    rw [List.append_assoc]
    exact opens_end hw rfl _
  | nextMember hw _ _ _ =>
    intro rest
    rw [List.append_assoc]
    exact opens_end hw rfl _
  | element _ _ ih _ => exact Leads.append ih _
  | lastElement hw =>
    intro rest
    rw [List.append_assoc]
    exact opens_end hw rfl _
  | nextElement hw _ _ _ =>
    intro rest
    rw [List.append_assoc]
    exact opens_end hw rfl _

lemma value_of_scalarChar {c : Char} (hc : isScalarChar c = true) (n : Nat) (s : Text) :
    value lone (n + 1) (c :: s) = scalar (c :: s) := by
  have hne {d : Char} (hd : isScalarChar d = false) : c ≠ d := ne_of_class hc hd
  simp [value, hne (d := '"') rfl, hne (d := '{') rfl, hne (d := '[') rfl]

lemma value_scalar (hp : ScalarText p v) (n : Nat) (rest : Text) :
    value lone (n + 1) (p ++ rest) = scalar (p ++ rest) := by
  have hchars := hp.chars
  obtain ⟨c, t, rfl, -⟩ := hp.leads
  exact value_of_scalarChar (run_cons.mp hchars).1 n (t ++ rest)

lemma value_object (hw : Run isSpace w) (hs : Leads s) (n : Nat) :
    value lone (n + 1) ('{' :: (w ++ s)) =
      (members lone n s).map fun r => (.obj (ofPairs r.1), r.2) := by
  obtain ⟨c, t, rfl, hc⟩ := id hs
  have hne : c ≠ '}' := ne_of_class hc rfl
  simp [value, skip_append hw hs.tight, hne]

lemma value_array (hw : Run isSpace w) (hs : Leads s) (n : Nat) :
    value lone (n + 1) ('[' :: (w ++ s)) = (elements lone n s).map fun r => (.arr r.1, r.2) := by
  obtain ⟨c, t, rfl, hc⟩ := id hs
  have hne : c ≠ ']' := ne_of_class hc rfl
  simp [value, skip_append hw hs.tight, hne]

/-- The text is read as the node, by any number of steps from twice its length on. -/
def Node.ReadFrom (lone : Nat → Char) (p : Text) : Node → Prop
  | .value v => ∀ n rest, 2 * p.length ≤ n + 1 → Opens isEnd rest →
      Json.value lone n (p ++ rest) = .ok (v, rest)
  | .members ms => ∀ n rest, 2 * p.length ≤ n → Json.members lone n (p ++ rest) = .ok (ms, rest)
  | .moreMembers ms => ∀ n rest name v, 2 * p.length ≤ n + 2 →
      afterMember lone n name v (p ++ rest) = .ok ((name, v) :: ms, rest)
  | .elements vs => ∀ n rest, 2 * p.length ≤ n → Json.elements lone n (p ++ rest) = .ok (vs, rest)
  | .moreElements vs => ∀ n rest v, 2 * p.length ≤ n + 2 →
      afterElement lone n v (p ++ rest) = .ok (v :: vs, rest)

/-- What the grammar spells is read off the front of any text that goes on as one may there. -/
theorem Spells.readFrom (hp : Spells lone p node) : node.ReadFrom lone p := by
  have hstart := hp.starts
  induction hp with
  | string hp =>
    intro n rest hn _
    obtain ⟨n, rfl⟩ := hstart.exists_succ hn
    simp [value, hp.string, Except.map]
  | scalar hp =>
    intro n rest hn hrest
    obtain ⟨n, rfl⟩ := hstart.exists_succ hn
    rw [value_scalar hp, hp.scalar hrest]
  | noMembers hw =>
    intro n rest hn _
    obtain ⟨n, rfl⟩ := hstart.exists_succ hn
    simp [value, skip_append hw (s := '}' :: rest) (by simp [isSpace])]
  | object hw hp ih =>
    intro n rest hn _
    obtain ⟨n, rfl⟩ := hstart.exists_succ hn
    simp only [List.length_cons, List.length_append] at hn
    rw [List.cons_append, List.append_assoc, value_object hw (hp.starts.append rest),
      ih hp.starts n rest (by omega)]
    rfl
  | noElements hw =>
    intro n rest hn _
    obtain ⟨n, rfl⟩ := hstart.exists_succ hn
    simp [value, skip_append hw (s := ']' :: rest) (by simp [isSpace])]
  | array hw hp ih =>
    intro n rest hn _
    obtain ⟨n, rfl⟩ := hstart.exists_succ hn
    simp only [List.length_cons, List.length_append] at hn
    rw [List.cons_append, List.append_assoc, value_array hw (hp.starts.append rest),
      ih hp.starts n rest (by omega)]
    rfl
  | @member p w w' q r name v ms hname hw hw' hq hr ihq ihr =>
    intro n rest hn
    obtain ⟨n, rfl⟩ := hstart.exists_succ (hn.trans n.le_succ)
    simp only [List.length_cons, List.length_append] at hn
    have hcolon := skip_append hw (s := ':' :: (w' ++ (q ++ (r ++ rest)))) (by simp [isSpace])
    have hvalue := skip_append hw' (hq.starts.append (r ++ rest)).tight
    simp only [List.cons_append, List.append_assoc, members_succ, hname.string, hcolon, hvalue,
      ihq hq.starts n _ (by omega) (hr.starts rest)]
    exact ihr hr.starts n rest name v (by omega)
  | lastMember hw =>
    intro n rest name v _
    simp [afterMember, skip_append hw (s := '}' :: rest) (by simp [isSpace])]
  | @nextMember w w' p ms hw hw' hp ih =>
    intro n rest name v hn
    simp only [List.length_cons, List.length_append] at hn
    have hcomma := skip_append hw (s := ',' :: (w' ++ (p ++ rest))) (by simp [isSpace])
    have hnext := skip_append hw' (hp.starts.append rest).tight
    simp [afterMember, hcomma, hnext, ih hp.starts n rest (by omega), Except.map]
  | element hp hq ihp ihq =>
    intro n rest hn
    obtain ⟨n, rfl⟩ := hstart.exists_succ (hn.trans n.le_succ)
    simp only [List.length_append] at hn
    rw [List.append_assoc, elements_succ, ihp hp.starts n _ (by omega) (hq.starts rest)]
    exact ihq hq.starts n rest _ (by omega)
  | lastElement hw =>
    intro n rest v _
    simp [afterElement, skip_append hw (s := ']' :: rest) (by simp [isSpace])]
  | @nextElement w w' p vs hw hw' hp ih =>
    intro n rest v hn
    simp only [List.length_cons, List.length_append] at hn
    have hcomma := skip_append hw (s := ',' :: (w' ++ (p ++ rest))) (by simp [isSpace])
    have hnext := skip_append hw' (hp.starts.append rest).tight
    simp [afterElement, hcomma, hnext, ih hp.starts n rest (by omega), Except.map]

end Reading

section Spelling
variable {n : Nat} {ms : List (Text × Json)} {vs : List Json}

/-- What is read in `n` steps is spelled by the text in front of what is left. -/
structure Sound (lone : Nat → Char) (n : Nat) : Prop where
  value : ∀ {s v rest}, value lone n s = .ok (v, rest) →
    ∃ p, s = p ++ rest ∧ Spells lone p (.value v)
  members : ∀ {s ms rest}, members lone n s = .ok (ms, rest) →
    ∃ p, s = p ++ rest ∧ Spells lone p (.members ms)
  elements : ∀ {s vs rest}, elements lone n s = .ok (vs, rest) →
    ∃ p, s = p ++ rest ∧ Spells lone p (.elements vs)

lemma afterMember_sound (hn : Sound lone n) {name : Text}
    (h : afterMember lone n name v s = .ok (ms, rest)) :
    ∃ p ms', s = p ++ rest ∧ ms = (name, v) :: ms' ∧ Spells lone p (.moreMembers ms') := by
  obtain ⟨w, hw, hs⟩ := exists_skip s
  unfold afterMember at h
  split at h
  · next u hu =>
    obtain ⟨rfl, rfl⟩ : [(name, v)] = ms ∧ u = rest := by simpa using h
    exact ⟨w ++ ['}'], [], by rw [hs, hu]; simp, rfl, .lastMember hw⟩
  · next u hu =>
    obtain ⟨ms', hms', rfl⟩ := reading_of_map_ok h
    obtain ⟨w', hw', hs'⟩ := exists_skip u
    obtain ⟨p, hp, hspells⟩ := hn.members hms'
    refine ⟨w ++ ',' :: (w' ++ p), ms', ?_, rfl, .nextMember hw hw' hspells⟩
    rw [hs, hu, hs', hp]
    simp
  · cases h

lemma afterElement_sound (hn : Sound lone n) (h : afterElement lone n v s = .ok (vs, rest)) :
    ∃ p vs', s = p ++ rest ∧ vs = v :: vs' ∧ Spells lone p (.moreElements vs') := by
  obtain ⟨w, hw, hs⟩ := exists_skip s
  unfold afterElement at h
  split at h
  · next u hu =>
    obtain ⟨rfl, rfl⟩ : [v] = vs ∧ u = rest := by simpa using h
    exact ⟨w ++ [']'], [], by rw [hs, hu]; simp, rfl, .lastElement hw⟩
  · next u hu =>
    obtain ⟨vs', hvs', rfl⟩ := reading_of_map_ok h
    obtain ⟨w', hw', hs'⟩ := exists_skip u
    obtain ⟨p, hp, hspells⟩ := hn.elements hvs'
    refine ⟨w ++ ',' :: (w' ++ p), vs', ?_, rfl, .nextElement hw hw' hspells⟩
    rw [hs, hu, hs', hp]
    simp
  · cases h

lemma value_sound (hn : Sound lone n) (h : value lone (n + 1) s = .ok (v, rest)) :
    ∃ p, s = p ++ rest ∧ Spells lone p (.value v) := by
  rw [value.eq_def] at h
  dsimp only at h
  split at h
  · next t =>
    obtain ⟨name, hname, rfl⟩ := reading_of_map_ok h
    obtain ⟨p, rfl, hp⟩ := stringBody_of_string hname
    exact ⟨'"' :: p, rfl, .string hp⟩
  · next t =>
    obtain ⟨w, hw, ht⟩ := exists_skip t
    split at h
    · next u hu =>
      obtain ⟨rfl, rfl⟩ : .obj [] = v ∧ u = rest := by simpa using h
      exact ⟨'{' :: (w ++ ['}']), by rw [ht, hu]; simp, .noMembers hw⟩
    · next u hu =>
      obtain ⟨ms, hms, rfl⟩ := reading_of_map_ok (f := fun ms => Json.obj (ofPairs ms)) h
      obtain ⟨p, hp, hspells⟩ := hn.members hms
      exact ⟨'{' :: (w ++ p), by rw [ht, hp]; simp, .object hw hspells⟩
  · next t =>
    obtain ⟨w, hw, ht⟩ := exists_skip t
    split at h
    · next u hu =>
      obtain ⟨rfl, rfl⟩ : .arr [] = v ∧ u = rest := by simpa using h
      exact ⟨'[' :: (w ++ [']']), by rw [ht, hu]; simp, .noElements hw⟩
    · next u hu =>
      obtain ⟨vs, hvs, rfl⟩ := reading_of_map_ok h
      obtain ⟨p, hp, hspells⟩ := hn.elements hvs
      exact ⟨'[' :: (w ++ p), by rw [ht, hp]; simp, .array hw hspells⟩
  · obtain ⟨p, hp, hscalar⟩ := scalar_sound h
    exact ⟨p, hp, .scalar hscalar⟩

lemma members_sound (hn : Sound lone n) (h : members lone (n + 1) s = .ok (ms, rest)) :
    ∃ p, s = p ++ rest ∧ Spells lone p (.members ms) := by
  rw [members.eq_def] at h
  dsimp only at h
  split at h
  · next t =>
    split at h
    · cases h
    · next name u hname =>
      obtain ⟨p, rfl, hp⟩ := stringBody_of_string hname
      obtain ⟨w, hw, hu⟩ := exists_skip u
      split at h
      · next u' hu' =>
        obtain ⟨w', hw', hu''⟩ := exists_skip u'
        split at h
        · cases h
        · next v x hv =>
          obtain ⟨q, hq, hspells⟩ := hn.value hv
          obtain ⟨r, ms', rfl, rfl, hr⟩ := afterMember_sound hn h
          refine ⟨_, ?_, .member hp hw hw' hspells hr⟩
          rw [hu, hu', hu'', hq]
          simp
      · cases h
  · cases h

lemma elements_sound (hn : Sound lone n) (h : elements lone (n + 1) s = .ok (vs, rest)) :
    ∃ p, s = p ++ rest ∧ Spells lone p (.elements vs) := by
  rw [elements_succ] at h
  split at h
  · cases h
  · next v u hv =>
    obtain ⟨p, rfl, hp⟩ := hn.value hv
    obtain ⟨q, vs', rfl, rfl, hq⟩ := afterElement_sound hn h
    exact ⟨p ++ q, by rw [List.append_assoc], .element hp hq⟩

lemma sound (lone : Nat → Char) (n : Nat) : Sound lone n := by
  induction n with
  | zero => exact ⟨nofun, nofun, nofun⟩
  | succ n ih => exact ⟨value_sound ih, members_sound ih, elements_sound ih⟩

end Spelling

/-- The text holds the value, with blank space around it. -/
def Holds (lone : Nat → Char) (text : Text) (v : Json) : Prop :=
  ∃ w p w', text = w ++ (p ++ w') ∧ Run isSpace w ∧ Run isSpace w' ∧ Spells lone p (.value v)

lemma opens_of_space (hw : Run isSpace w) : Opens isEnd w :=
  fun c hc => isEnd_of_isSpace (hw.opens c hc)

/-- A text that starts like a value, or with blank space, has no byte order mark. -/
lemma head_ne_mark (hw : Run isSpace w) (hs : Leads s) :
    (w ++ s).head? ≠ some (Char.ofNat 0xFEFF) := by
  cases w with
  | nil =>
    obtain ⟨c, t, rfl, hc⟩ := hs
    simpa using ne_of_class hc rfl
  | cons c w => simpa using ne_of_class (run_cons.mp hw).1 rfl

/-- Reading accepts exactly the texts of the grammar, and gives the value they spell. -/
theorem readWith_eq_ok_iff {text : Text} : readWith lone text = .ok v ↔ Holds lone text v := by
  constructor
  · intro h
    unfold readWith at h
    split_ifs at h
    · cases h
    split at h
    · cases h
    · next v' rest hv =>
      split at h
      · next hrest =>
        obtain rfl := Except.ok.inj h
        obtain ⟨w, hw, htext⟩ := exists_skip text
        obtain ⟨w', hw', hrest'⟩ := exists_skip rest
        obtain ⟨p, hp, hspells⟩ := (sound lone _).value hv
        refine ⟨w, p, w', ?_, hw, hw', hspells⟩
        rw [htext, hp, hrest', hrest, List.append_nil]
      · cases h
  · rintro ⟨w, p, w', rfl, hw, hw', hp⟩
    have hleads := hp.starts.append w'
    have hvalue := hp.readFrom (2 * (w ++ (p ++ w')).length + 1) w' (by simp; omega)
      (opens_of_space hw')
    have hrest : skip w' = [] := by simpa using skip_append hw' tight_nil
    unfold readWith
    rw [if_neg (by simpa only [beq_iff_eq] using head_ne_mark hw hleads),
      skip_append hw hleads.tight, hvalue]
    simp only [hrest]

/-- A text holds one value at most. -/
lemma Holds.unique {text : Text} {v' : Json} (h : Holds lone text v) (h' : Holds lone text v') :
    v = v' := by
  have hread := readWith_eq_ok_iff.mpr h
  rw [readWith_eq_ok_iff.mpr h'] at hread
  exact (Except.ok.inj hread).symm

end Shorthand.Json
