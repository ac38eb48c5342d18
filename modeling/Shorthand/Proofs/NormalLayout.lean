import Shorthand.Proofs.Layout

/-! The normal form of layout. Tidying takes the lines stretch by stretch: of a stretch of blank lines
at most two empty ones stay, and the others lose the blank space at their end. What comes out has no
blank space at the end of a line and no three empty lines in a row, and code of this form is left as it
is. -/
namespace Shorthand.Artifact
open Text
variable {n : Nat} {line code : Text} {ls stretch : List Text}

/-- No line ends in blank space, and no three lines in a row are empty. -/
structure IsTidy (code : Text) : Prop where
  trimmed : ∀ line ∈ lines code, ∀ c ∈ line.getLast?, isBlank c = false
  spaced : ¬ [[], [], []] <:+: lines code

/-- Both lines are blank, or both are not. -/
def sameKind (line line' : Text) : Bool := isBlankLine line == isBlankLine line'

/-- The lines in stretches of one kind, each as long as can be. -/
def stretches (ls : List Text) : List (List Text) := ls.splitBy sameKind

/-- What tidying makes of a stretch. -/
def settle (stretch : List Text) : List Text :=
  if stretch.all isBlankLine then List.replicate (min 2 stretch.length) []
  else stretch.map trimRight

section Loop

/-- Behind `n` blank lines, a stretch of blank lines fills the gap up to two. -/
lemma tidyLines_gap (h : ∀ line ∈ stretch, isBlankLine line = true) (n : Nat) (ls : List Text) :
    tidyLines n (stretch ++ ls) =
      List.replicate (min (2 - n) stretch.length) [] ++ tidyLines (n + stretch.length) ls := by
  induction stretch generalizing n with
  | nil => simp
  | cons line stretch ih =>
    rw [List.forall_mem_cons] at h
    rw [List.cons_append, tidyLines_cons_blank h.1, ih h.2, List.length_cons]
    have hcount : n + 1 + stretch.length = n + (stretch.length + 1) := by omega
    rw [hcount, ← List.append_assoc]
    congr 1
    split_ifs with hn
    · have hgap : min (2 - n) (stretch.length + 1) = min (2 - (n + 1)) stretch.length + 1 := by omega
      rw [hgap, List.replicate_succ, List.singleton_append]
    · have hfull : 2 - n = 0 ∧ 2 - (n + 1) = 0 := by omega
      simp [hfull.1, hfull.2]

lemma tidyLines_block (hne : stretch ≠ []) (h : ∀ line ∈ stretch, isBlankLine line = false) (n : Nat)
    (ls : List Text) : tidyLines n (stretch ++ ls) = stretch.map trimRight ++ tidyLines 0 ls := by
  induction stretch generalizing n with
  | nil => exact absurd rfl hne
  | cons line stretch ih =>
    rw [List.forall_mem_cons] at h
    rw [List.cons_append, tidyLines_cons_visible h.1, List.map_cons, List.cons_append]
    congr 1
    cases stretch with
    | nil => rfl
    | cons next stretch => exact ih (by simp) h.2 0

/-- The count of blank lines does not matter where none follows. -/
lemma tidyLines_of_visible_head (h : ∀ line ∈ ls.head?, isBlankLine line = false) (n : Nat) :
    tidyLines n ls = tidyLines 0 ls := by
  cases ls with
  | nil => rfl
  | cons line ls =>
    have hline : isBlankLine line = false := h line (by simp)
    rw [tidyLines_cons_visible hline, tidyLines_cons_visible hline]

end Loop

section Stretches

lemma uniform_of_isChain (h : stretch.IsChain fun line line' => sameKind line line' = true) :
    (∀ line ∈ stretch, isBlankLine line = true) ∨ ∀ line ∈ stretch, isBlankLine line = false := by
  induction stretch with
  | nil => exact .inl (List.forall_mem_nil _)
  | cons line stretch ih =>
    rw [List.isChain_cons] at h
    cases stretch with
    | nil => cases hline : isBlankLine line <;> simp [hline]
    | cons next stretch =>
      have hsame : isBlankLine line = isBlankLine next := by
        simpa [sameKind] using h.1 next (by simp)
      refine (ih h.2).imp ?_ ?_
      · intro hall
        exact List.forall_mem_cons.mpr ⟨hsame.trans (hall next (by simp)), hall⟩
      · intro hall
        exact List.forall_mem_cons.mpr ⟨hsame.trans (hall next (by simp)), hall⟩

lemma settle_gap (h : ∀ line ∈ stretch, isBlankLine line = true) :
    settle stretch = List.replicate (min 2 stretch.length) [] := by
  rw [settle, if_pos (List.all_eq_true.mpr h)]

lemma settle_block (hne : stretch ≠ []) (h : ∀ line ∈ stretch, isBlankLine line = false) :
    settle stretch = stretch.map trimRight := by
  obtain ⟨line, stretch, rfl⟩ := List.exists_cons_of_ne_nil hne
  rw [settle, if_neg (by simp [h line (by simp)])]

/-- Stretches of both kinds in turn are tidied one by one. -/
lemma tidyLines_flatten {parts : List (List Text)} (hne : [] ∉ parts)
    (huniform : ∀ stretch ∈ parts, stretch.IsChain fun line line' => sameKind line line' = true)
    (hturn : parts.IsChain fun s s' => ∃ hs hs', sameKind (s.getLast hs) (s'.head hs') = false) :
    tidyLines 0 parts.flatten = parts.flatMap settle := by
  induction parts with
  | nil => rfl
  | cons stretch parts ih =>
    rw [List.mem_cons, not_or] at hne
    rw [List.forall_mem_cons] at huniform
    have hrest := ih hne.2 huniform.2 hturn.tail
    have hstretch : stretch ≠ [] := fun hnil => hne.1 hnil.symm
    rw [List.flatten_cons, List.flatMap_cons]
    rcases uniform_of_isChain huniform.1 with hblank | hvisible
    · rw [tidyLines_gap hblank, settle_gap hblank, ← hrest, tidyLines_of_visible_head]
      -- What follows a gap starts with a line that is not blank.
      cases parts with
      | nil => simp
      | cons next parts =>
        obtain ⟨⟨hlast, hhead, hkinds⟩, -⟩ := List.isChain_cons_cons.mp hturn
        rw [sameKind, hblank _ (List.getLast_mem hlast)] at hkinds
        obtain ⟨line, next, rfl⟩ := List.exists_cons_of_ne_nil hhead
        simpa using hkinds
    · rw [tidyLines_block hstretch hvisible, settle_block hstretch hvisible, hrest]

theorem tidyLines_eq_settled (ls : List Text) : tidyLines 0 ls = (stretches ls).flatMap settle := by
  conv_lhs => rw [← List.flatten_splitBy sameKind ls]
  exact tidyLines_flatten (List.nil_notMem_splitBy _ ls) (fun _ => List.isChain_of_mem_splitBy)
    (List.isChain_getLast_head_splitBy _ ls)

end Stretches

section Form

lemma solid_iff (hne : line ≠ []) : Solid line ↔ ∀ c ∈ line.getLast?, isBlank c = false := by
  rw [Solid, List.getLast?_eq_getLast_of_ne_nil hne]
  simp

/-- A line with something on it ends a row of empty lines. -/
lemma three_empty_iff (hne : line ≠ []) (hn : n ≤ 2) (ls : List Text) :
    [[], [], []] <:+: List.replicate n [] ++ line :: ls ↔ [[], [], []] <:+: ls := by
  interval_cases n <;> simp [List.replicate_succ, List.infix_cons_iff, hne.symm]

/-- Being in order behind `n` empty lines, said of all the lines together. -/
lemma settled_iff (hn : n ≤ 2) : Settled n ls ↔
    (∀ line ∈ ls, ∀ c ∈ line.getLast?, isBlank c = false) ∧
      ¬ [[], [], []] <:+: List.replicate n [] ++ ls := by
  induction ls generalizing n with
  | nil =>
    refine iff_of_true .nil ⟨List.forall_mem_nil _, fun hthree => ?_⟩
    have hlength := hthree.length_le
    simp at hlength
    omega
  | cons line ls ih =>
    rw [List.forall_mem_cons]
    by_cases hline : line = []
    · subst hline
      have hrow : List.replicate n [] ++ [] :: ls = List.replicate (n + 1) [] ++ ls := by
        rw [List.replicate_succ', List.append_assoc, List.singleton_append]
      rw [hrow]
      constructor
      · intro h
        cases h with
        | blank hlt hrest =>
          obtain ⟨htrimmed, hspaced⟩ := (ih hlt).mp hrest
          exact ⟨⟨by simp, htrimmed⟩, hspaced⟩
        | solid hsolid _ => exact absurd rfl hsolid.ne_nil
      · rintro ⟨⟨-, htrimmed⟩, hspaced⟩
        have hlt : n < 2 := by
          by_contra hge
          obtain rfl : n = 2 := by omega
          exact hspaced ⟨[], ls, rfl⟩
        exact .blank hlt ((ih hlt).mpr ⟨htrimmed, hspaced⟩)
    · rw [three_empty_iff hline hn, ← solid_iff hline]
      have hrest := ih (Nat.zero_le 2)
      rw [List.replicate_zero, List.nil_append] at hrest
      rw [and_assoc, ← hrest]
      constructor
      · intro h
        cases h with
        | blank => exact absurd rfl hline
        | solid hsolid hsettled => exact ⟨hsolid, hsettled⟩
      · rintro ⟨hsolid, hsettled⟩
        exact .solid hsolid hsettled

lemma isTidy_iff : IsTidy code ↔ Settled 0 (lines code) := by
  rw [settled_iff (Nat.zero_le 2)]
  exact ⟨fun h => ⟨h.trimmed, h.spaced⟩, fun h => ⟨h.1, h.2⟩⟩

lemma Settled.of_succ (h : Settled (n + 1) ls) : Settled n ls := by
  induction ls generalizing n with
  | nil => exact .nil
  | cons line ls ih =>
    cases h with
    | blank hn hrest => exact .blank (by omega) (ih hrest)
    | solid hline hrest => exact .solid hline hrest

/-- Whatever the lines are, tidying puts them in order. -/
lemma settled_tidyLines (n : Nat) (ls : List Text) : Settled n (tidyLines n ls) := by
  induction ls generalizing n with
  | nil => exact .nil
  | cons line ls ih =>
    cases hline : isBlankLine line with
    | true =>
      rw [tidyLines_cons_blank hline]
      split_ifs with hn
      · exact .blank hn (ih (n + 1))
      · -- The line is dropped, so that one blank line less stands before the rest.
        exact (ih (n + 1)).of_succ
    | false =>
      rw [tidyLines_cons_visible hline]
      refine .solid ?_ (ih 0)
      have hne : trimRight line ≠ [] := by
        rw [← List.isEmpty_eq_false_iff, isEmpty_trimRight, hline]
      exact (solid_iff hne).mpr (last_trimRight line)

lemma lines_tidy (code : Text) : lines (tidy code) = tidyLines 0 (lines code) := by
  have hfree : ∀ line ∈ tidyLines 0 (lines code), Free (· == '\n') line :=
    tidyLines_free (fun line hline => (splitOnP_mem _ code line hline).1) 0
  have hlines : ∀ line ∈ tidyLines 0 (lines code), lines line = [line] :=
    fun line hline => lines_of_not_mem (free_beq_iff.mp (hfree line hline))
  rw [tidy, lines_join (tidyLines_lines_ne_nil code), List.flatMap_congr hlines, List.flatMap_singleton']

theorem isTidy_tidy (code : Text) : IsTidy (tidy code) := by
  rw [isTidy_iff, lines_tidy]
  exact settled_tidyLines 0 (lines code)

theorem tidy_eq_self_iff : tidy code = code ↔ IsTidy code := by
  constructor
  · intro h
    rw [← h]
    exact isTidy_tidy code
  · intro h
    rw [tidy, tidyLines_of_settled (isTidy_iff.mp h), join_lines]

/-- The lines that can be seen stay, in their order, without the blank space at their end. -/
lemma filter_tidyLines (n : Nat) (ls : List Text) :
    (tidyLines n ls).filter (! ·.isEmpty) = (ls.filter (! isBlankLine ·)).map trimRight := by
  induction ls generalizing n with
  | nil => rfl
  | cons line ls ih =>
    cases hline : isBlankLine line with
    | true =>
      rw [tidyLines_cons_blank hline, List.filter_append, ih]
      split_ifs <;> simp [hline]
    | false =>
      have hkept : (trimRight line).isEmpty = false := by rw [isEmpty_trimRight, hline]
      rw [tidyLines_cons_visible hline]
      simp [hkept, hline, ih]

end Form

/-- Tidying computes a normal form. No line of the result ends in blank space, and no three in a row are
empty. Its lines with something on them are the lines of the code that are not blank, in their order and
without the blank space at their end; every stretch of blank lines, at the start and the end too, has at
most two empty lines in its place. Exactly the code that is of this form already stays as it is. -/
theorem tidy_computes_normal_form (code : Text) :
    IsTidy (tidy code) ∧
      (lines (tidy code)).filter (! ·.isEmpty) =
        ((lines code).filter (! isBlankLine ·)).map trimRight ∧
      lines (tidy code) = (stretches (lines code)).flatMap settle ∧
      (tidy code = code ↔ IsTidy code) ∧ tidy (tidy code) = tidy code := by
  refine ⟨isTidy_tidy code, ?_, ?_, tidy_eq_self_iff, tidy_eq_self_iff.mpr (isTidy_tidy code)⟩
  · rw [lines_tidy, filter_tidyLines]
  · rw [lines_tidy, tidyLines_eq_settled]

example : tidy "\n \n\t\na  \n\n\u2003\n\nb\n".toList = "\n\na\n\n\nb\n".toList := by decide

end Shorthand.Artifact
