import Mathlib
import Shorthand.Text.Basic

/-! Trimming, marks at the end of a text, and cutting a text into pieces. Everything about the
pieces rests on one equation: at a cut, the pieces before it and the pieces after it stand side by
side. -/
namespace Shorthand.Text

/-- No character of the text is in the class. -/
def Free (cut : Char → Bool) (s : Text) : Prop := ∀ c ∈ s, cut c = false

/-- Every character of the text is in the class. -/
def Run (cut : Char → Bool) (s : Text) : Prop := ∀ c ∈ s, cut c = true

/-- What can stand between two cuts: something, with no cut in it. -/
def Piece (cut : Char → Bool) (s : Text) : Prop := s ≠ [] ∧ Free cut s

/-- The text starts with a character of the class, if with any. -/
def Opens (cut : Char → Bool) (s : Text) : Prop := ∀ c ∈ s.head?, cut c = true

instance (cut : Char → Bool) (s : Text) : Decidable (Free cut s) :=
  decidable_of_iff (s.all (!cut ·) = true) (by simp [Free])
instance (cut : Char → Bool) (s : Text) : Decidable (Run cut s) :=
  decidable_of_iff (s.all cut = true) List.all_eq_true
instance (cut : Char → Bool) (s : Text) : Decidable (Piece cut s) :=
  inferInstanceAs (Decidable (_ ∧ _))
instance (cut : Char → Bool) (s : Text) : Decidable (Opens cut s) :=
  decidable_of_iff (s.head?.all cut = true) (by cases s <;> simp [Opens])

variable {cut wide : Char → Bool} {s t : Text} {c d : Char}

@[simp] lemma free_nil : Free cut [] := by simp [Free]
@[simp] lemma free_cons : Free cut (c :: s) ↔ cut c = false ∧ Free cut s := by simp [Free]
@[simp] lemma free_append : Free cut (s ++ t) ↔ Free cut s ∧ Free cut t := by
  simp only [Free, List.mem_append, or_imp, forall_and]
@[simp] lemma run_nil : Run cut [] := by simp [Run]
@[simp] lemma run_cons : Run cut (c :: s) ↔ cut c = true ∧ Run cut s := by simp [Run]
@[simp] lemma run_append : Run cut (s ++ t) ↔ Run cut s ∧ Run cut t := by
  simp only [Run, List.mem_append, or_imp, forall_and]
@[simp] lemma opens_nil : Opens cut [] := by simp [Opens]
@[simp] lemma opens_cons : Opens cut (c :: s) ↔ cut c = true := by simp [Opens]

lemma Free.mono (h : Free wide s) (hsub : ∀ c, cut c = true → wide c = true) : Free cut s := by
  intro c hc
  by_contra hn
  have hw := hsub c (by simpa using hn)
  rw [h c hc] at hw
  cases hw

lemma Piece.mono (h : Piece wide s) (hsub : ∀ c, cut c = true → wide c = true) : Piece cut s :=
  ⟨h.1, h.2.mono hsub⟩

lemma Free.subset (h : Free cut t) (hst : s ⊆ t) : Free cut s := fun c hc => h c (hst hc)

lemma free_beq_iff : Free (· == c) s ↔ c ∉ s := by
  constructor
  · intro h hc
    simpa using h c hc
  · intro h d hd
    have hne : d ≠ c := by rintro rfl; exact h hd
    simpa using hne

lemma Run.opens (h : Run cut s) : Opens cut s := by
  intro c hc
  exact h c (List.mem_of_mem_head? hc)

lemma Run.opens_append (h : Run cut s) (hs : s ≠ [] ∨ Opens cut t) : Opens cut (s ++ t) := by
  cases s with
  | nil => simpa using hs
  | cons c s => simpa using (run_cons.mp h).1

lemma run_takeWhile (cut : Char → Bool) (s : Text) : Run cut (s.takeWhile cut) :=
  fun _ hc => List.mem_takeWhile_imp hc

lemma takeWhile_run_append (hs : Run cut s) (ht : Opens (!cut ·) t) :
    (s ++ t).takeWhile cut = s := by
  rw [List.takeWhile_append_of_pos hs]
  cases t with
  | nil => simp
  | cons c t => simpa using ht

lemma dropWhile_run_append (hs : Run cut s) (ht : Opens (!cut ·) t) :
    (s ++ t).dropWhile cut = t := by
  rw [List.dropWhile_append_of_pos hs]
  cases t with
  | nil => rfl
  | cons c t =>
    have hc : cut c = false := by simpa using ht
    simp [hc]

/-- What stands before the first cut is determined by the whole. -/
lemma Free.append_inj {a b : Text} (ha : Free cut a) (hb : Free cut b) (hs : Opens cut s)
    (ht : Opens cut t) (h : a ++ s = b ++ t) : a = b ∧ s = t := by
  induction a generalizing b with
  | nil =>
    cases b with
    | nil => exact ⟨rfl, h⟩
    | cons d b =>
      rw [← List.nil_append s, h, List.cons_append, opens_cons] at hs
      simp [(free_cons.mp hb).1] at hs
  | cons c a ih =>
    cases b with
    | nil =>
      rw [← List.nil_append t, ← h, List.cons_append, opens_cons] at ht
      simp [(free_cons.mp ha).1] at ht
    | cons d b =>
      obtain ⟨rfl, htail⟩ := List.cons.inj h
      obtain ⟨rfl, hrest⟩ := ih (free_cons.mp ha).2 (free_cons.mp hb).2 htail
      exact ⟨rfl, hrest⟩

section Classes

lemma ne_of_class {p : Char → Bool} (hc : p c = true) (hd : p d = false) : c ≠ d := by
  rintro rfl
  rw [hc] at hd
  cases hd

lemma isUpper_iff : c.isUpper = true ↔ 65 ≤ c.toNat ∧ c.toNat ≤ 90 := by
  simp [Char.isUpper, UInt32.le_iff_toNat_le, ← Char.toNat_val]
lemma isLower_iff : c.isLower = true ↔ 97 ≤ c.toNat ∧ c.toNat ≤ 122 := by
  simp [Char.isLower, UInt32.le_iff_toNat_le, ← Char.toNat_val]
lemma isDigit_iff : c.isDigit = true ↔ 48 ≤ c.toNat ∧ c.toNat ≤ 57 := by
  simp [Char.isDigit, UInt32.le_iff_toNat_le, ← Char.toNat_val]

lemma isBlank_of_isAlpha (h : c.isAlpha = true) : isBlank c = false := by
  have hb : (65 ≤ c.toNat ∧ c.toNat ≤ 90) ∨ (97 ≤ c.toNat ∧ c.toNat ≤ 122) := by
    simpa [Char.isAlpha, ← isUpper_iff, ← isLower_iff] using h
  simp only [isBlank, Bool.or_eq_false_iff, Bool.and_eq_false_iff, decide_eq_false_iff_not,
    beq_eq_false_iff_ne, not_le, ne_eq]
  omega

/-- The characters of ASCII from the space on, and the line feed. -/
def isPlain (c : Char) : Bool := c == '\n' || (0x20 ≤ c.toNat && c.toNat < 0x80)

lemma isPlain_of_bounds (h : 0x20 ≤ c.toNat ∧ c.toNat < 0x80) : isPlain c = true := by
  simp [isPlain, h]

lemma bounds_of_isPlain (h : isPlain c = true) : 10 ≤ c.toNat ∧ c.toNat < 0x80 := by
  rcases Bool.or_eq_true_iff.mp h with hline | hvisible
  · rw [eq_of_beq hline]
    decide
  · simp only [Bool.and_eq_true, decide_eq_true_eq] at hvisible
    omega

/-- No plain character is in the class. -/
def AvoidsPlain (cut : Char → Bool) : Prop := ∀ c, isPlain c = true → cut c = false

lemma AvoidsPlain.free (hcut : AvoidsPlain cut) {s : Text} (h : Run isPlain s) : Free cut s :=
  fun c hc => hcut c (h c hc)

lemma AvoidsPlain.free_digits (hcut : AvoidsPlain cut) {s : Text} (h : Run Char.isDigit s) :
    Free cut s := by
  refine hcut.free fun c hc => isPlain_of_bounds ?_
  have hrange := isDigit_iff.mp (h c hc)
  omega

end Classes

section Trim

lemma trimLeft_of_head (h : ∀ c ∈ s.head?, isBlank c = false) : trimLeft s = s := by
  cases s with
  | nil => rfl
  | cons c s => simp [trimLeft, h c (by simp)]

lemma trimRight_of_last (h : ∀ c ∈ s.getLast?, isBlank c = false) : trimRight s = s := by
  have hr : trimLeft s.reverse = s.reverse := trimLeft_of_head (by simpa using h)
  simpa [trimRight, trimLeft] using congrArg List.reverse hr

lemma trim_of_ends (hh : ∀ c ∈ s.head?, isBlank c = false)
    (hl : ∀ c ∈ s.getLast?, isBlank c = false) : trim s = s := by
  rw [trim, trimLeft_of_head hh, trimRight_of_last hl]

lemma trim_of_free (h : Free isBlank s) : trim s = s :=
  trim_of_ends (fun c hc => h c (List.mem_of_mem_head? hc))
    (fun c hc => h c (List.mem_of_mem_getLast? hc))

lemma exists_trimLeft (s : Text) : ∃ lead, Run isBlank lead ∧ s = lead ++ trimLeft s :=
  ⟨s.takeWhile isBlank, fun _ hc => List.mem_takeWhile_imp hc,
    (List.takeWhile_append_dropWhile).symm⟩

lemma exists_trimRight (s : Text) : ∃ trail, Run isBlank trail ∧ s = trimRight s ++ trail := by
  obtain ⟨lead, hl, hs⟩ := exists_trimLeft s.reverse
  refine ⟨lead.reverse, fun c hc => hl c (by simpa using hc), ?_⟩
  have h := congrArg List.reverse hs
  rw [List.reverse_reverse, List.reverse_append] at h
  exact h

lemma trimRight_subset (s : Text) : trimRight s ⊆ s := by
  obtain ⟨trail, -, h⟩ := exists_trimRight s
  conv_rhs => rw [h]
  exact List.subset_append_left _ _

/-- Trimming takes off a run of blanks on either side, and nothing else. -/
lemma exists_trim (s : Text) :
    ∃ lead trail, Run isBlank lead ∧ Run isBlank trail ∧ s = lead ++ trim s ++ trail := by
  obtain ⟨lead, hl, hs⟩ := exists_trimLeft s
  obtain ⟨trail, ht, hr⟩ := exists_trimRight (trimLeft s)
  refine ⟨lead, trail, hl, ht, ?_⟩
  rw [List.append_assoc, trim, ← hr]
  exact hs

lemma trim_isInfix (s : Text) : trim s <:+: s := by
  obtain ⟨lead, trail, -, -, h⟩ := exists_trim s
  exact ⟨lead, trail, h.symm⟩

lemma trim_subset (s : Text) : trim s ⊆ s := (trim_isInfix s).subset

lemma trim_ne_nil (hc : c ∈ s) (hb : isBlank c = false) : trim s ≠ [] := by
  obtain ⟨lead, trail, hlead, htrail, h⟩ := exists_trim s
  intro hnil
  rw [h, hnil, List.append_nil] at hc
  rcases List.mem_append.mp hc with hc | hc
  · simp [hlead c hc] at hb
  · simp [htrail c hc] at hb

lemma head_trimLeft (s : Text) : ∀ c ∈ (trimLeft s).head?, isBlank c = false := by
  intro c hc
  have h := List.head?_dropWhile_not isBlank s
  rw [show (s.dropWhile isBlank).head? = some c from hc] at h
  simpa using h

lemma last_trimRight (s : Text) : ∀ c ∈ (trimRight s).getLast?, isBlank c = false := by
  intro c hc
  exact head_trimLeft s.reverse c (by simpa [trimRight, trimLeft] using hc)

lemma last_trim (s : Text) : ∀ c ∈ (trim s).getLast?, isBlank c = false := last_trimRight _

lemma head_trim (s : Text) : ∀ c ∈ (trim s).head?, isBlank c = false := by
  intro c hc
  obtain ⟨trail, -, h⟩ := exists_trimRight (trimLeft s)
  refine head_trimLeft s c ?_
  rw [h]
  exact List.mem_head?_append_of_mem_head? hc

@[simp] lemma trim_trim (s : Text) : trim (trim s) = trim s :=
  trim_of_ends (head_trim s) (last_trim s)

lemma trim_eq_nil_iff : trim s = [] ↔ Run isBlank s := by
  obtain ⟨lead, trail, hlead, htrail, hs⟩ := exists_trim s
  constructor
  · intro hnil
    rw [hs, hnil, List.append_nil]
    exact run_append.mpr ⟨hlead, htrail⟩
  · intro hrun
    cases ht : trim s with
    | nil => rfl
    | cons c t =>
      have hblank := hrun c (trim_subset s (by simp [ht]))
      rw [head_trim s c (by simp [ht])] at hblank
      cases hblank

lemma trimRight_append (h : trimRight t ≠ []) : trimRight (s ++ t) = s ++ trimRight t := by
  have hrest : (t.reverse.dropWhile isBlank).isEmpty = false := by simpa [trimRight] using h
  simp [trimRight, List.dropWhile_append, hrest]

lemma trimRight_append_run (h : Run isBlank t) (s : Text) : trimRight (s ++ t) = trimRight s := by
  have hrun : ∀ c ∈ t.reverse, isBlank c = true := fun c hc => h c (List.mem_reverse.mp hc)
  rw [trimRight, trimRight, List.reverse_append, List.dropWhile_append_of_pos hrun]

lemma trimRight_ne_nil (hc : isBlank c = false) : trimRight (c :: s) ≠ [] := by
  intro hnil
  obtain ⟨trail, htrail, hs⟩ := exists_trimRight (c :: s)
  rw [hnil, List.nil_append] at hs
  have hblank := htrail c (by rw [← hs]; exact List.mem_cons_self)
  rw [hc] at hblank
  cases hblank

lemma trimRight_append_cons (hc : isBlank c = false) (s t : Text) :
    trimRight (s ++ c :: t) = s ++ c :: trimRight t := by
  have hend : trimRight (c :: t) = c :: trimRight t := by
    by_cases ht : trimRight t = []
    · obtain ⟨trail, htrail, heq⟩ := exists_trimRight t
      have hrun : trimRight (c :: t) = trimRight [c] := by
        rw [heq, ht, List.nil_append]
        exact trimRight_append_run htrail [c]
      rw [hrun, ht]
      exact trimRight_of_last (by simpa using hc)
    · exact trimRight_append (s := [c]) ht
  rw [trimRight_append (trimRight_ne_nil hc), hend]

end Trim

section Last

@[simp] lemma endsIn_nil : endsIn c [] = false := rfl
@[simp] lemma endsIn_concat : endsIn c (s ++ [d]) = (d == c) := by simp [endsIn]

lemma endsIn_append (ht : t ≠ []) : endsIn c (s ++ t) = endsIn c t := by
  simp [endsIn, List.getLast?_append_of_ne_nil s ht]

lemma endsIn_of_not_mem (h : c ∉ s) : endsIn c s = false := by
  by_contra hn
  have hl : s.getLast? = some c := by simpa [endsIn] using hn
  exact h (List.mem_of_getLast? hl)

end Last

section Pieces

@[simp] lemma fragments_nil : fragments cut [] = [] := rfl

/-- At a cut, the pieces before it and the pieces after it stand side by side. -/
lemma fragments_append_cons (hc : cut c = true) (s t : Text) :
    fragments cut (s ++ c :: t) = fragments cut s ++ fragments cut t := by
  rw [fragments, List.splitOnP_append_cons s t hc, List.filter_append]
  rfl

lemma fragments_of_piece (h : Piece cut s) : fragments cut s = [s] := by
  rw [fragments, List.splitOnP_eq_singleton h.2]
  simp [h.1]

lemma fragments_run_append (h : Run cut s) (t : Text) :
    fragments cut (s ++ t) = fragments cut t := by
  induction s with
  | nil => rfl
  | cons c s ih =>
    obtain ⟨hc, hs⟩ := run_cons.mp h
    have hcut := fragments_append_cons hc [] (s ++ t)
    rw [List.nil_append, fragments_nil, List.nil_append] at hcut
    rw [List.cons_append, hcut, ih hs]

lemma fragments_of_run (h : Run cut s) : fragments cut s = [] := by
  simpa using fragments_run_append h []

lemma fragments_piece_append (h : Piece cut s) (ht : Opens cut t) :
    fragments cut (s ++ t) = s :: fragments cut t := by
  cases t with
  | nil => simp [fragments_of_piece h]
  | cons c t =>
    have hc := opens_cons.mp ht
    have hrun := fragments_append_cons hc [] t
    rw [fragments_append_cons hc, fragments_of_piece h]
    simpa using hrun.symm

lemma fragments_append_run (s : Text) (h : Run cut t) :
    fragments cut (s ++ t) = fragments cut s := by
  cases t with
  | nil => simp
  | cons c t =>
    obtain ⟨hc, ht⟩ := run_cons.mp h
    rw [fragments_append_cons hc, fragments_of_run ht, List.append_nil]

/-- Pieces, each after a run of cuts, are read back whatever the runs are. -/
lemma fragments_spread (ps : List (Text × Text)) (trail : Text)
    (hrun : ∀ p ∈ ps, p.1 ≠ [] ∧ Run cut p.1) (hpiece : ∀ p ∈ ps, Piece cut p.2)
    (htrail : Run cut trail) :
    fragments cut (ps.flatMap (fun p => p.1 ++ p.2) ++ trail) = ps.map Prod.snd := by
  induction ps with
  | nil => simpa using fragments_of_run htrail
  | cons p ps ih =>
    simp only [List.forall_mem_cons] at hrun hpiece
    have hopens : Opens cut (ps.flatMap (fun p => p.1 ++ p.2) ++ trail) := by
      cases ps with
      | nil => simpa using htrail.opens
      | cons q ps =>
        have hq := hrun.2 q (by simp)
        simpa using hq.2.opens_append (Or.inl hq.1)
    rw [List.flatMap_cons, List.append_assoc, List.append_assoc,
      fragments_run_append hrun.1.2, fragments_piece_append hpiece.1 hopens,
      ih hrun.2 hpiece.2, List.map_cons]

lemma join_cons (sep p : Text) (ps : List Text) :
    join sep (p :: ps) = p ++ ps.flatMap (sep ++ ·) := by
  induction ps generalizing p with
  | nil => simp [join]
  | cons q ps ih =>
    rw [List.flatMap_cons, List.append_assoc, ← ih q]
    simp [join, List.intercalate_cons_cons]

lemma join_append {sep : Text} {ps qs : List Text} (hps : ps ≠ []) (hqs : qs ≠ []) :
    join sep (ps ++ qs) = join sep ps ++ sep ++ join sep qs := by
  obtain ⟨p, ps, rfl⟩ := List.exists_cons_of_ne_nil hps
  obtain ⟨q, qs, rfl⟩ := List.exists_cons_of_ne_nil hqs
  simp [join_cons]

lemma join_free {sep : Text} {ps : List Text} (hsep : Free cut sep) (h : ∀ p ∈ ps, Free cut p) :
    Free cut (join sep ps) := by
  cases ps with
  | nil => simp [join]
  | cons p ps =>
    simp only [List.forall_mem_cons] at h
    rw [join_cons, free_append]
    refine ⟨h.1, ?_⟩
    intro c hc
    obtain ⟨q, hq, hc⟩ := List.mem_flatMap.mp hc
    exact free_append.mpr ⟨hsep, h.2 q hq⟩ c hc

lemma endsIn_join {ps : List Text} (h : ∀ p ∈ ps, Piece (· == c) p) :
    endsIn c (join [c] ps) = false := by
  induction ps with
  | nil => rfl
  | cons p ps ih =>
    rw [List.forall_mem_cons] at h
    cases ps with
    | nil =>
      rw [join_cons, List.flatMap_nil, List.append_nil]
      exact endsIn_of_not_mem (free_beq_iff.mp h.1.2)
    | cons q ps =>
      have hne : join [c] (q :: ps) ≠ [] := by simp [join_cons, (h.2 q (by simp)).1]
      have hjoin : join [c] (p :: q :: ps) = p ++ [c] ++ join [c] (q :: ps) := by
        simp [join, List.intercalate_cons_cons]
      rw [hjoin, endsIn_append hne]
      exact ih h.2

/-- Parts written with a cut between them are read back, but for the empty ones. -/
lemma fragments_join_of_free (hc : cut c = true) {ps : List Text} (h : ∀ p ∈ ps, Free cut p) :
    fragments cut (join [c] ps) = ps.filter (! ·.isEmpty) := by
  have hpart {p : Text} (hp : Free cut p) : fragments cut p = [p].filter (! ·.isEmpty) := by
    rw [fragments, List.splitOnP_eq_singleton hp]
  induction ps with
  | nil => rfl
  | cons p ps ih =>
    simp only [List.forall_mem_cons] at h
    rw [join_cons]
    cases ps with
    | nil => simpa using hpart h.1
    | cons q ps =>
      rw [List.flatMap_cons, List.append_assoc, List.singleton_append,
        fragments_append_cons hc, hpart h.1, ← join_cons, ih h.2, ← List.filter_append,
        List.singleton_append]

/-- Pieces written with a cut between them are read back. -/
lemma fragments_join (hc : cut c = true) {ps : List Text} (h : ∀ p ∈ ps, Piece cut p) :
    fragments cut (join [c] ps) = ps := by
  rw [fragments_join_of_free hc fun p hp => (h p hp).2, List.filter_eq_self]
  intro p hp
  simpa using (h p hp).1

/-- Blank space at the end of parts is blank space at the end of the last part. -/
lemma trimRight_join (hc : isBlank c = false) (ps : List Text) :
    trimRight (join [c] ps) = join [c] (ps.modifyLast trimRight) := by
  obtain rfl | ⟨init, p, rfl⟩ := List.eq_nil_or_concat' ps
  · rfl
  · rw [List.modifyLast_concat]
    cases init with
    | nil => simp [join]
    | cons q init =>
      rw [join_append (by simp) (by simp), join_append (by simp) (by simp), List.append_assoc,
        List.append_assoc]
      simpa [join] using trimRight_append_cons hc _ p

/-- Every part between cuts has no cut in it and stands in the text in one piece, the first one at its
start. -/
lemma splitOnP_parts (cut : Char → Bool) (s : Text) :
    (∀ p ∈ (s.splitOnP cut).head?, p <+: s) ∧ ∀ p ∈ s.splitOnP cut, Free cut p ∧ p <:+: s := by
  induction s with
  | nil => simp
  | cons c s ih =>
    obtain ⟨q, qs, hq⟩ := List.exists_cons_of_ne_nil (List.splitOnP_ne_nil cut s)
    rw [List.splitOnP_cons_eq_if_modifyHead]
    rw [hq] at ih ⊢
    simp only [List.head?_cons, Option.mem_some_iff, forall_eq', List.forall_mem_cons] at ih
    obtain ⟨hstart, ⟨hfree, hpart⟩, hrest⟩ := ih
    have hlater : ∀ p ∈ qs, Free cut p ∧ p <:+: c :: s :=
      fun p hp => ⟨(hrest p hp).1, List.infix_cons (hrest p hp).2⟩
    split_ifs with hc
    · refine ⟨by simp, ?_⟩
      simp only [List.forall_mem_cons]
      exact ⟨⟨free_nil, [], c :: s, rfl⟩, ⟨hfree, List.infix_cons hpart⟩, hlater⟩
    · have hfirst : c :: q <+: c :: s := (List.prefix_cons_inj c).mpr hstart
      simp only [List.modifyHead_cons, List.head?_cons, Option.mem_some_iff, forall_eq',
        List.forall_mem_cons]
      exact ⟨hfirst, ⟨free_cons.mpr ⟨by simpa using hc, hfree⟩, hfirst.isInfix⟩, hlater⟩

lemma splitOnP_mem (cut : Char → Bool) (s : Text) :
    ∀ p ∈ s.splitOnP cut, Free cut p ∧ p <:+: s := (splitOnP_parts cut s).2

/-- A text has no more pieces than characters. -/
lemma length_fragments_le (cut : Char → Bool) (s : Text) : (fragments cut s).length ≤ s.length := by
  unfold fragments
  induction s with
  | nil => simp
  | cons c s ih =>
    obtain ⟨q, qs, hq⟩ := List.exists_cons_of_ne_nil (List.splitOnP_ne_nil cut s)
    rw [List.splitOnP_cons_eq_if_modifyHead]
    rw [hq] at ih ⊢
    split_ifs with hc
    · simpa using ih.trans (Nat.le_succ _)
    · cases q with
      | nil => simpa using ih
      | cons d q => simpa using ih.trans (Nat.le_succ _)

lemma infix_of_mem_fragments {p : Text} (h : p ∈ fragments cut s) : p <:+: s :=
  (splitOnP_mem cut s p (List.mem_filter.mp h).1).2

/-- Every piece is something without a cut, made of characters of the text. -/
lemma mem_fragments {p : Text} (h : p ∈ fragments cut s) : Piece cut p ∧ p ⊆ s := by
  obtain ⟨hp, hne⟩ := List.mem_filter.mp h
  exact ⟨⟨by simpa using hne, (splitOnP_mem cut s p hp).1⟩, (infix_of_mem_fragments h).subset⟩

/-- Every character that is no cut is in one of the pieces. -/
lemma exists_mem_fragments (hc : cut c = false) (h : c ∈ s) : ∃ p ∈ fragments cut s, c ∈ p := by
  have hsplit : ∃ p ∈ s.splitOnP cut, c ∈ p := by
    induction s with
    | nil => cases h
    | cons d s ih =>
      obtain ⟨q, qs, hq⟩ := List.exists_cons_of_ne_nil (List.splitOnP_ne_nil cut s)
      rw [List.splitOnP_cons_eq_if_modifyHead]
      rw [hq] at ih ⊢
      split_ifs with hd
      · rcases List.mem_cons.mp h with rfl | h
        · rw [hc] at hd
          cases hd
        · obtain ⟨p, hp, hcp⟩ := ih h
          exact ⟨p, List.mem_cons_of_mem _ hp, hcp⟩
      · rcases List.mem_cons.mp h with rfl | h
        · exact ⟨c :: q, List.mem_cons_self, List.mem_cons_self⟩
        · obtain ⟨p, hp, hcp⟩ := ih h
          rcases List.mem_cons.mp hp with rfl | hp
          · exact ⟨d :: p, List.mem_cons_self, List.mem_cons_of_mem d hcp⟩
          · exact ⟨p, List.mem_cons_of_mem _ hp, hcp⟩
  obtain ⟨p, hp, hcp⟩ := hsplit
  exact ⟨p, List.mem_filter.mpr ⟨hp, by simpa using List.ne_nil_of_mem hcp⟩, hcp⟩

end Pieces
end Shorthand.Text
