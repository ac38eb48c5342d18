import Shorthand.Proofs.Items
import Shorthand.Proofs.Separator

/-! Where a fault is reported. A text is rejected as a whole, or for the first of its items that cannot
be read: the report names that item and its position, the items before it can be read, and those behind
it do not matter. -/
namespace Shorthand.Dialect
open Text

variable {options : Options} {raw : Text} {problem : Problem}

namespace Spaced

/-- The type word as it stands in a text, with quotes. -/
def firstWord (raw : Text) : Text := (head (trim raw)).1

lemma firstWord_piece (hstyle : styleOf (trim raw) = .spaced) (h : typeWord raw ≠ []) :
    Piece isGap (firstWord raw) := by
  refine ⟨?_, ?_⟩
  · intro hnil
    apply h
    rw [firstWord] at hnil
    simp only [typeWord, hstyle, hnil]
    rfl
  · intro c hc
    simpa using List.mem_takeWhile_imp hc

/-- The type word of a text behind gaps, and items behind it. -/
lemma read_firstWord (options : Options) {lead : Text} {tokens : List Text}
    (hstyle : styleOf (trim raw) = .spaced) (hword : typeWord raw ≠ []) (hlead : Run isGap lead)
    (hcomma : Slashed.opening <+: firstWord raw → ',' ∈ lead)
    (htokens : ∀ t ∈ tokens, Piece isBreak t) (hsome : tokens ≠ []) :
    Dialect.read options (lead ++ join [' '] (firstWord raw :: tokens)) =
      (readItems (readItem options) 0 tokens).map fun fields =>
        ⟨Identifier.typeName (typeWord raw), fields⟩ := by
  have hname : typeWord raw = unquote (firstWord raw) := by
    simp only [typeWord, hstyle, firstWord]
  rw [read_lead_join options hlead (firstWord_piece hstyle hword) hcomma htokens, hname]
  rw [hname] at hword
  exact outcome_eq options hword hsome

end Spaced

/-- A report names an item if and only if it gives a position, and then the item stands at that position
among the items and in one piece in the text. In a spaced text moreover the items before it, behind the
same type word, are read as one field each, and with it the text is rejected in the same way whatever
items follow. The type word may stand behind gaps, and does so behind a comma if it opens a slashed
text. -/
theorem reports_point_at_their_item (h : read options raw = .error problem) :
    (problem.token = none ↔ problem.index = none) ∧
      ∀ i, problem.index = some i → ∃ (position : Nat) (token : Text), i = position ∧
        problem.token = some token ∧ (itemsOf raw)[position]? = some token ∧ token <:+: raw ∧
        (styleOf (trim raw) = .spaced → ∀ lead, Run Spaced.isGap lead →
          (Slashed.opening <+: Spaced.firstWord raw → ',' ∈ lead) →
          (1 ≤ position → ∃ r, read options (lead ++ join [' ']
            (Spaced.firstWord raw :: (itemsOf raw).take position)) = .ok r ∧
              r.fields.length = position) ∧
          ∀ further, (∀ t ∈ further, Piece Spaced.isBreak t) → read options (lead ++ join [' ']
            (Spaced.firstWord raw :: ((itemsOf raw).take (position + 1) ++ further))) =
              .error problem) := by
  rcases read_error_cases h with
    ⟨htoken, hindex⟩ | ⟨hword, before, item, after, fields, fault, hitems, hbefore, hitem, rfl⟩
  · simp [htoken, hindex]
  · refine ⟨by simp, ?_⟩
    rintro i hi
    obtain rfl := Option.some.inj hi
    have hmem : item ∈ itemsOf raw := by simp [hitems]
    refine ⟨before.length, item, rfl, rfl, by simp [hitems], item_isInfix hmem, ?_⟩
    intro hstyle lead hlead hcomma
    have hpieces := spaced_item_piece hstyle
    rw [hstyle] at hbefore hitem
    rw [hitems] at hpieces ⊢
    simp only [List.forall_mem_append, List.forall_mem_cons] at hpieces
    refine ⟨?_, ?_⟩
    · intro hsome
      have htake : (before ++ item :: after).take before.length = before := by simp
      have hfields : readItems (Spaced.readItem options) 0 before = .ok fields :=
        readItems_eq_ok_iff.mpr hbefore
      refine ⟨⟨Identifier.typeName (typeWord raw), fields⟩, ?_, hbefore.length_eq.symm⟩
      rw [htake, Spaced.read_firstWord options hstyle hword hlead hcomma hpieces.1
        (List.ne_nil_of_length_pos hsome), hfields]
      rfl
    · intro further hfurther
      have htake : (before ++ item :: after).take (before.length + 1) ++ further =
          before ++ item :: further := by simp [List.take_append]
      have htokens : ∀ t ∈ before ++ item :: further, Piece Spaced.isBreak t := by
        simp only [List.forall_mem_append, List.forall_mem_cons]
        exact ⟨hpieces.1, hpieces.2.1, hfurther⟩
      have hfault : readItems (Spaced.readItem options) 0 (before ++ item :: further) =
          .error ⟨fault, some item, some before.length⟩ :=
        readItems_eq_error_iff.mpr ⟨before, item, further, fields, fault, rfl, hbefore, hitem, by simp⟩
      rw [htake, Spaced.read_firstWord options hstyle hword hlead hcomma htokens (by simp), hfault]
      rfl

/-- The second item of a text with quotes, commas and slashes. -/
theorem report_of_sample_points_at_item :
    ∃ problem, read {} "\"User\",, id!;/ ?!:s,x:".toList = .error problem ∧
      problem.index = some 1 ∧ problem.token = some "?!:s".toList ∧
      read {} "\"User\" id!; ?!:s and:n more".toList = .error problem := by
  have hread : read {} "\"User\",, id!;/ ?!:s,x:".toList =
      .error ⟨.emptyName, some "?!:s".toList, some 1⟩ := by decide +kernel
  have hitems : itemsOf "\"User\",, id!;/ ?!:s,x:".toList =
      ["id!;".toList, "?!:s".toList, "x:".toList] := by decide +kernel
  obtain ⟨-, hreport⟩ := reports_point_at_their_item hread
  obtain ⟨position, token, hposition, -, -, -, hspaced⟩ := hreport 1 rfl
  obtain rfl : position = 1 := by omega
  obtain ⟨-, hfurther⟩ := hspaced (by decide) [] run_nil fun h => absurd h (by decide +kernel)
  have hmore := hfurther ["and:n".toList, "more".toList] (by decide)
  rw [hitems] at hmore
  exact ⟨_, hread, rfl, rfl, hmore⟩

/-- A type word that opens a slashed text is one behind a comma only, and blank space at the end of a
text is not part of its last item. -/
theorem report_needs_comma_and_trimming :
    (read {} ",type:User a b:".toList = .error ⟨.danglingColon, some "b:".toList, some 1⟩ ∧
      itemsOf ",type:User a b:".toList = ["a".toList, "b:".toList] ∧
      Spaced.firstWord ",type:User a b:".toList = "type:User".toList ∧
      read {} "type:User a".toList = .error { fault := .missingFields .slashed }) ∧
    read {} "type:User-b ".toList = .error ⟨.badChunk, some "b".toList, some 0⟩ ∧
      fragments (· == '/') (Slashed.halves "type:User-b ".toList).2 = ["b ".toList] := by
  decide +kernel

end Shorthand.Dialect
