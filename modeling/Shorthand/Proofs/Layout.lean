import Shorthand.Artifact.Layout
import Shorthand.Artifact.Template
import Shorthand.Proofs.Text

/-! Code that is laid out already: which lines tidying leaves as they are, and the lines of a text that
ends in a line feed. -/
namespace Shorthand

namespace Text
variable {ls : List Text}

/-- Lines with a line feed behind each. -/
def unlines (ls : List Text) : Text := ls.flatMap (· ++ ['\n'])

@[simp] lemma unlines_nil : unlines [] = [] := rfl

@[simp] lemma unlines_cons (l : Text) (ls : List Text) :
    unlines (l :: ls) = l ++ '\n' :: unlines ls := by
  simp [unlines]

@[simp] lemma unlines_append (ls ls' : List Text) : unlines (ls ++ ls') = unlines ls ++ unlines ls' :=
  List.flatMap_append

lemma lines_unlines (h : ∀ l ∈ ls, '\n' ∉ l) : lines (unlines ls) = ls ++ [[]] := by
  induction ls with
  | nil => rfl
  | cons l ls ih =>
    rw [List.forall_mem_cons] at h
    have hl : Free (· == '\n') l := free_beq_iff.mpr h.1
    rw [unlines_cons, lines, List.splitOnP_append_cons_of_forall_mem hl _ rfl, ← lines, ih h.2]
    rfl

lemma join_lines (s : Text) : join ['\n'] (lines s) = s := List.intercalate_splitOn '\n'

lemma lines_of_not_mem {s : Text} (h : '\n' ∉ s) : lines s = [s] :=
  List.splitOnP_eq_singleton (free_beq_iff.mpr h)

lemma lines_append_newline (s t : Text) : lines (s ++ '\n' :: t) = lines s ++ lines t :=
  List.splitOnP_append_cons s t rfl

/-- Where two texts meet, the last line of the one goes on with the first line of the other. -/
lemma lines_append_text (s t : Text) :
    ∃ front last first back, lines s = front ++ [last] ∧ lines t = first :: back ∧
      lines (s ++ t) = front ++ (last ++ first) :: back := by
  obtain ⟨first, back, ht⟩ := List.exists_cons_of_ne_nil (List.splitOnP_ne_nil (· == '\n') t)
  induction s with
  | nil => exact ⟨[], [], first, back, rfl, ht, ht⟩
  | cons c s ih =>
    obtain ⟨front, last, first', back', hs, ht', hst⟩ := ih
    obtain ⟨rfl, rfl⟩ := List.cons.inj (ht.symm.trans ht')
    simp only [lines] at hs hst
    simp only [lines, List.cons_append, List.splitOnP_cons_eq_if_modifyHead, hs, hst]
    split_ifs with hc
    · exact ⟨[] :: front, last, first, back, rfl, ht, rfl⟩
    · cases front with
      | nil => exact ⟨[], c :: last, first, back, rfl, ht, rfl⟩
      | cons f front => exact ⟨(c :: f) :: front, last, first, back, rfl, ht, rfl⟩

/-- A text without line feeds is put in front of the first line of the text behind it. -/
lemma lines_append {s : Text} (h : '\n' ∉ s) (t : Text) :
    ∃ line rest, lines t = line :: rest ∧ lines (s ++ t) = (s ++ line) :: rest := by
  obtain ⟨front, last, first, back, hs, ht, hst⟩ := lines_append_text s t
  rw [lines_of_not_mem h] at hs
  obtain ⟨rfl, rfl⟩ : front = [] ∧ last = s := by simpa [List.cons_eq_append_iff] using hs
  exact ⟨first, back, ht, hst⟩

lemma lines_join {ps : List Text} (h : ps ≠ []) : lines (join ['\n'] ps) = ps.flatMap lines := by
  induction ps with
  | nil => exact absurd rfl h
  | cons p ps ih =>
    cases ps with
    | nil => simp [join_cons]
    | cons q ps =>
      have hjoin : join ['\n'] (p :: q :: ps) = p ++ '\n' :: join ['\n'] (q :: ps) := by
        simp [join_cons]
      rw [hjoin, lines_append_newline, ih (by simp), ← List.flatMap_cons]

end Text

namespace Artifact
open Text
variable {n : Nat} {line : Text} {ls : List Text}

/-- The line ends in a character that can be seen. -/
def Solid (line : Text) : Prop := ∃ c ∈ line.getLast?, isBlank c = false

/-- Nothing on the line can be seen. -/
def isBlankLine (line : Text) : Bool := line.all isBlank

/-- Lines that are in order behind `n` blank ones. -/
inductive Settled : Nat → List Text → Prop
  | nil {n : Nat} : Settled n []
  | blank {n : Nat} {ls : List Text} : n < 2 → Settled (n + 1) ls → Settled n ([] :: ls)
  | solid {n : Nat} {line : Text} {ls : List Text} :
      Solid line → Settled 0 ls → Settled n (line :: ls)

lemma Solid.append_left (h : Solid line) (front : Text) : Solid (front ++ line) := by
  obtain ⟨c, hlast, hc⟩ := h
  refine ⟨c, ?_, hc⟩
  rw [Option.mem_def] at hlast ⊢
  rw [List.getLast?_append, hlast, Option.some_or]

lemma Solid.trimRight (h : Solid line) : trimRight line = line := by
  obtain ⟨c, hlast, hc⟩ := h
  refine trimRight_of_last fun d hd => ?_
  rw [Option.mem_unique hd hlast, hc]

lemma Solid.ne_nil (h : Solid line) : line ≠ [] := by
  rintro rfl
  obtain ⟨c, hlast, -⟩ := h
  cases hlast

lemma isEmpty_trimRight (line : Text) : (trimRight line).isEmpty = isBlankLine line := by
  rw [Bool.eq_iff_iff]
  simp [trimRight, isBlankLine]

lemma Solid.visible (h : Solid line) : isBlankLine line = false := by
  rw [← isEmpty_trimRight, h.trimRight, List.isEmpty_eq_false_iff]
  exact h.ne_nil

lemma tidyLines_cons_blank (h : isBlankLine line = true) (n : Nat) (ls : List Text) :
    tidyLines n (line :: ls) = (if n < 2 then [[]] else []) ++ tidyLines (n + 1) ls := by
  rw [tidyLines, isEmpty_trimRight, if_pos h]
  split_ifs <;> rfl

lemma tidyLines_cons_visible (h : isBlankLine line = false) (n : Nat) (ls : List Text) :
    tidyLines n (line :: ls) = trimRight line :: tidyLines 0 ls := by
  rw [tidyLines, isEmpty_trimRight, if_neg (by simp [h])]

lemma tidyLines_solid (h : Solid line) (n : Nat) (ls : List Text) :
    tidyLines n (line :: ls) = line :: tidyLines 0 ls := by
  rw [tidyLines_cons_visible h.visible, h.trimRight]

lemma tidyLines_blank (hn : n < 2) (ls : List Text) :
    tidyLines n ([] :: ls) = [] :: tidyLines (n + 1) ls := by
  rw [tidyLines_cons_blank rfl, if_pos hn, List.singleton_append]

/-- Lines that are in order stay as they are. -/
theorem tidyLines_of_settled (h : Settled n ls) : tidyLines n ls = ls := by
  induction h with
  | nil => rfl
  | blank hn _ ih => rw [tidyLines_blank hn, ih]
  | solid hline _ ih => rw [tidyLines_solid hline, ih]

lemma settled_append (h : ∀ line ∈ ls, Solid line) {rest : List Text} (hrest : Settled 0 rest) :
    Settled 0 (ls ++ rest) := by
  induction ls with
  | nil => exact hrest
  | cons line ls ih =>
    rw [List.forall_mem_cons] at h
    exact .solid h.1 (ih h.2)

/-- Code whose lines are in order, the empty one at its end included, stays as it is. -/
theorem tidy_unlines (hlines : ∀ line ∈ ls, '\n' ∉ line) (h : Settled 0 (ls ++ [[]])) :
    tidy (unlines ls) = unlines ls := by
  rw [tidy, lines_unlines hlines, tidyLines_of_settled h, ← lines_unlines hlines, join_lines]

section Parts
variable {code front : Text} {c : Char}

lemma newline_not_mem_singleton (hc : isBlank c = false) : '\n' ∉ [c] := by
  rw [List.mem_singleton]
  rintro rfl
  cases hc

lemma tidyLines_ne_nil (hn : n < 2) (h : ls ≠ []) : tidyLines n ls ≠ [] := by
  obtain ⟨line, ls, rfl⟩ := List.exists_cons_of_ne_nil h
  simp only [tidyLines]
  split_ifs <;> simp

lemma tidyLines_lines_ne_nil (code : Text) : tidyLines 0 (lines code) ≠ [] :=
  tidyLines_ne_nil (by decide) (List.splitOnP_ne_nil _ code)

lemma tidyLines_free {cut : Char → Bool} (h : ∀ line ∈ ls, Free cut line) (n : Nat) :
    ∀ line ∈ tidyLines n ls, Free cut line := by
  induction ls generalizing n with
  | nil => exact List.forall_mem_nil _
  | cons line ls ih =>
    rw [List.forall_mem_cons] at h
    unfold tidyLines
    dsimp only
    split_ifs
    · exact List.forall_mem_cons.mpr ⟨free_nil, ih h.2 _⟩
    · exact ih h.2 _
    · exact List.forall_mem_cons.mpr ⟨h.1.subset (trimRight_subset line), ih h.2 _⟩

/-- Whether a line is kept depends on nothing ahead of the last visible one before it. -/
lemma tidyLines_append (h : Solid line) (n : Nat) (ls rest : List Text) :
    tidyLines n (ls ++ line :: rest) = tidyLines n (ls ++ [line]) ++ tidyLines 0 rest := by
  induction ls generalizing n with
  | nil => simp [tidyLines_solid h, tidyLines]
  | cons l ls ih =>
    simp only [List.cons_append, tidyLines, ih]
    split_ifs <;> rfl

lemma Solid.exists_lines (h : Solid code) : ∃ ls line, Solid line ∧ lines code = ls ++ [line] := by
  obtain ⟨ls, line, hlines⟩ : ∃ ls line, lines code = ls ++ [line] :=
    ⟨_, _, (List.dropLast_append_getLast (List.splitOnP_ne_nil _ code)).symm⟩
  refine ⟨ls, line, ?_, hlines⟩
  have hcode : code = join ['\n'] (ls ++ [line]) := by rw [← hlines, join_lines]
  cases ls with
  | nil =>
    have hline : code = line := by simpa [join] using hcode
    rwa [← hline]
  | cons l ls =>
    rw [join_append (by simp) (by simp)] at hcode
    obtain ⟨c, hlast, hc⟩ := h
    refine ⟨c, ?_, hc⟩
    rw [hcode] at hlast
    cases line with
    | nil =>
      -- The code would end in a line feed.
      have hline : c = '\n' := by simpa [join] using hlast.symm
      rw [hline] at hc
      cases hc
    | cons d line => simpa [join, List.getLast?_append] using hlast

/-- Code is tidied part by part, if something visible stands right before the line feed between two
parts. -/
theorem tidy_append (h : Solid code) (rest : Text) :
    tidy (code ++ '\n' :: rest) = tidy code ++ '\n' :: tidy rest := by
  obtain ⟨ls, line, hline, hlines⟩ := h.exists_lines
  have hcut : tidyLines 0 (lines (code ++ '\n' :: rest)) =
      tidyLines 0 (lines code) ++ tidyLines 0 (lines rest) := by
    rw [lines_append_newline, hlines, List.append_assoc, List.singleton_append,
      tidyLines_append hline]
  rw [tidy, hcut, join_append (tidyLines_lines_ne_nil code) (tidyLines_lines_ne_nil rest), tidy, tidy,
    List.append_assoc, List.singleton_append]

/-- What stands ahead of something visible on the first line stays as it is. -/
theorem tidy_append_left (hfront : '\n' ∉ front) (hc : isBlank c = false) (rest : Text) :
    tidy (front ++ c :: rest) = front ++ tidy (c :: rest) := by
  obtain ⟨line, ls, -, hlines⟩ := lines_append (newline_not_mem_singleton hc) rest
  rw [List.singleton_append] at hlines
  obtain ⟨line', ls', hlines', hall⟩ := lines_append hfront (c :: rest)
  rw [hlines] at hlines'
  obtain ⟨rfl, rfl⟩ := List.cons.inj hlines'
  have hvisible : trimRight (c :: line) ≠ [] := trimRight_ne_nil hc
  have hboth : trimRight (front ++ c :: line) = front ++ trimRight (c :: line) :=
    trimRight_append hvisible
  simp [tidy, hall, hlines, tidyLines, hvisible, hboth, join_cons]

/-- Something visible in front stays in front. -/
lemma head_tidy (hc : isBlank c = false) (rest : Text) : (tidy (c :: rest)).head? = some c := by
  obtain ⟨line, ls, -, hlines⟩ := lines_append (newline_not_mem_singleton hc) rest
  rw [List.singleton_append] at hlines
  have hvisible : trimRight (c :: line) ≠ [] := trimRight_ne_nil hc
  obtain ⟨trail, -, hs⟩ := exists_trimRight (c :: line)
  obtain ⟨d, s, hd⟩ := List.exists_cons_of_ne_nil hvisible
  rw [hd] at hs
  obtain ⟨rfl, -⟩ := List.cons.inj hs
  simp [tidy, hlines, tidyLines, hd, join_cons]

end Parts

lemma flatMap_bodyLine (ls : List Text) :
    ls.flatMap bodyLine = unlines (ls.map ("  ".toList ++ ·)) := by
  rw [unlines, List.flatMap_map]
  rfl

end Artifact
end Shorthand
