import Shorthand.Artifact.Generator
import Shorthand.Proofs.Dialect

/-! The items of a text in either dialect. They are read one by one: a record has one field for each,
and the type of a field is never empty but for a chunk whose type is blank. -/
namespace Shorthand
open Text

namespace Dialect

/-- The word that names the type, without quotes around it. -/
def typeWord (raw : Text) : Text :=
  match styleOf (trim raw) with
  | .slashed => unquote ((Slashed.halves (trim raw)).1.drop Slashed.opening.length)
  | .spaced => unquote (Spaced.head (trim raw)).1

/-- The items behind the type name, between the separators of the dialect. -/
def itemsOf (raw : Text) : List Text :=
  match styleOf (trim raw) with
  | .slashed => fragments (· == '/') (Slashed.halves (trim raw)).2
  | .spaced => Spaced.items (Spaced.head (trim raw)).2

/-- Read one item in a dialect. -/
def readOne (options : Options) : Style → Text → Except Fault Field
  | .slashed => Slashed.readChunk options
  | .spaced => Spaced.readItem options

/-- Items in front that can be read only shift the position of the others. -/
lemma readItems_append {read : Text → Except Fault Field} {items : List Text} {fields : List Field}
    (h : List.Forall₂ (fun item field => read item = .ok field) items fields) (index : Nat)
    (after : List Text) :
    readItems read index (items ++ after) =
      (readItems read (index + items.length) after).map (fields ++ ·) := by
  induction h generalizing index with
  | nil => cases hafter : readItems read index after <;> simp [hafter, Except.map]
  | cons hitem _ ih =>
    rw [List.cons_append, readItems, hitem]
    simp only [ih, List.length_cons]
    rw [Nat.add_assoc, Nat.add_comm 1]
    cases readItems read _ after <;> rfl

/-- Items are rejected for the first of them that cannot be read. -/
theorem readItems_eq_error_iff {read : Text → Except Fault Field} {items : List Text} {index : Nat}
    {problem : Problem} : readItems read index items = .error problem ↔
      ∃ before item after fields fault, items = before ++ item :: after ∧
        List.Forall₂ (fun item field => read item = .ok field) before fields ∧
        read item = .error fault ∧ problem = ⟨fault, some item, some (index + before.length : Nat)⟩ := by
  constructor
  · intro h
    induction items generalizing index with
    | nil => cases h
    | cons item items ih =>
      rw [readItems] at h
      cases hitem : read item with
      | error fault =>
        rw [hitem] at h
        exact ⟨[], item, items, [], fault, rfl, .nil, hitem, (Except.error.inj h).symm⟩
      | ok field =>
        rw [hitem] at h
        cases hrest : readItems read (index + 1) items with
        | ok fields =>
          simp only [hrest] at h
          cases h
        | error p =>
          simp only [hrest] at h
          obtain rfl := Except.error.inj h
          obtain ⟨before, bad, after, fields, fault, rfl, hbefore, hbad, hp⟩ := ih hrest
          refine ⟨item :: before, bad, after, field :: fields, fault, rfl, .cons hitem hbefore, hbad, ?_⟩
          rw [hp, List.length_cons, Nat.add_assoc, Nat.add_comm 1]
  · rintro ⟨before, item, after, fields, fault, rfl, hbefore, hitem, rfl⟩
    rw [readItems_append hbefore, readItems, hitem]
    rfl

variable {options : Options} {raw : Text} {r : Record}

lemma trim_ne_nil_of_items (h : itemsOf raw ≠ []) : trim raw ≠ [] := by
  intro hnil
  apply h
  rw [itemsOf, hnil]
  rfl

/-- A text is rejected as a whole, with no item to blame, or it has a type name and items. -/
lemma read_whole_or_items (options : Options) (raw : Text) :
    (∃ fault, read options raw = .error { fault }) ∨ typeWord raw ≠ [] ∧ itemsOf raw ≠ [] := by
  by_cases htext : trim raw = []
  · exact .inl ⟨_, by simp [read, htext]; rfl⟩
  · cases hstyle : styleOf (trim raw) with
    | spaced =>
      simp only [read, hstyle, Spaced.read, typeWord, itemsOf]
      split_ifs with _ hname hitems
      · exact .inl ⟨_, rfl⟩
      · exact .inl ⟨_, rfl⟩
      · exact .inl ⟨_, rfl⟩
      · exact .inr ⟨by simpa using hname, by simpa using hitems⟩
    | slashed =>
      simp only [read, hstyle, Slashed.read, typeWord, itemsOf]
      split_ifs with _ hitems hname
      · exact .inl ⟨_, rfl⟩
      · exact .inl ⟨_, rfl⟩
      · exact .inl ⟨_, rfl⟩
      · exact .inr ⟨by simpa using hname, by simpa using hitems⟩

/-- A text with a type name and items is read item by item. -/
lemma read_eq_readItems (options : Options) (hword : typeWord raw ≠ []) (hitems : itemsOf raw ≠ []) :
    read options raw = (readItems (readOne options (styleOf (trim raw))) 0 (itemsOf raw)).map
      fun fields => ⟨Identifier.typeName (typeWord raw), fields⟩ := by
  have htext := trim_ne_nil_of_items hitems
  cases hstyle : styleOf (trim raw) with
  | spaced =>
    simp only [typeWord, itemsOf, hstyle] at hword hitems
    simp [read, htext, hstyle, Spaced.read, hword, hitems, typeWord, itemsOf, readOne]
  | slashed =>
    simp only [typeWord, itemsOf, hstyle] at hword hitems
    simp [read, htext, hstyle, Slashed.read, hword, hitems, typeWord, itemsOf, readOne]

/-- Exactly when a text is read, and what it is read as. -/
theorem read_eq_ok_iff : read options raw = .ok r ↔
    typeWord raw ≠ [] ∧ itemsOf raw ≠ [] ∧ r.name = Identifier.typeName (typeWord raw) ∧
      List.Forall₂ (fun item field => readOne options (styleOf (trim raw)) item = .ok field)
        (itemsOf raw) r.fields := by
  constructor
  · intro h
    rcases read_whole_or_items options raw with ⟨fault, hfault⟩ | ⟨hword, hitems⟩
    · rw [h] at hfault
      cases hfault
    · rw [read_eq_readItems options hword hitems] at h
      obtain ⟨fields, hfields, rfl⟩ := exists_of_map_ok h
      exact ⟨hword, hitems, rfl, readItems_eq_ok_iff.mp hfields⟩
  · rintro ⟨hword, hitems, hname, hfields⟩
    rw [read_eq_readItems options hword hitems, readItems_eq_ok_iff.mpr hfields]
    simp [Except.map, ← hname]

/-- A text is rejected with no item to blame, or for the first of its items that cannot be read. -/
theorem read_error_cases {problem : Problem} (h : read options raw = .error problem) :
    problem.token = none ∧ problem.index = none ∨
      typeWord raw ≠ [] ∧ ∃ before item after fields fault, itemsOf raw = before ++ item :: after ∧
        List.Forall₂ (fun item field => readOne options (styleOf (trim raw)) item = .ok field)
          before fields ∧
        readOne options (styleOf (trim raw)) item = .error fault ∧
        problem = ⟨fault, some item, some before.length⟩ := by
  rcases read_whole_or_items options raw with ⟨fault, hfault⟩ | ⟨hword, hitems⟩
  · left
    obtain rfl := Except.error.inj (hfault.symm.trans h)
    exact ⟨rfl, rfl⟩
  · right
    refine ⟨hword, ?_⟩
    rw [read_eq_readItems options hword hitems] at h
    cases hread : readItems (readOne options (styleOf (trim raw))) 0 (itemsOf raw) with
    | ok fields =>
      rw [hread] at h
      cases h
    | error p =>
      rw [hread] at h
      obtain rfl := Except.error.inj h
      simpa using readItems_eq_error_iff.mp hread

/-- The items are the pieces of one part of the text. -/
lemma exists_body (raw : Text) : ∃ cut body, itemsOf raw = fragments cut body ∧ body <:+: raw := by
  unfold itemsOf
  cases styleOf (trim raw) with
  | slashed => exact ⟨_, _, rfl, (Slashed.halves_isInfix _).trans (trim_isInfix raw)⟩
  | spaced =>
    have hrest : (Spaced.head (trim raw)).2 <:+ trim raw :=
      (List.dropWhile_suffix _).trans (List.dropWhile_suffix _)
    exact ⟨_, _, rfl, hrest.isInfix.trans (trim_isInfix raw)⟩

/-- Items stand in the text in one piece. -/
lemma item_isInfix {item : Text} (h : item ∈ itemsOf raw) : item <:+: raw := by
  obtain ⟨cut, body, hitems, hbody⟩ := exists_body raw
  rw [hitems] at h
  exact (infix_of_mem_fragments h).trans hbody

lemma length_itemsOf_le (raw : Text) : (itemsOf raw).length ≤ raw.length := by
  obtain ⟨cut, body, hitems, hbody⟩ := exists_body raw
  rw [hitems]
  exact (length_fragments_le cut body).trans hbody.length_le

lemma spaced_item_piece (hstyle : styleOf (trim raw) = .spaced) :
    ∀ item ∈ itemsOf raw, Piece Spaced.isBreak item := by
  intro item hitem
  simp only [itemsOf, hstyle] at hitem
  exact (mem_fragments hitem).1

lemma exists_fields {read : Text → Except Fault Field} {items : List Text}
    (h : ∀ item ∈ items, ∃ field, read item = .ok field) :
    ∃ fields, List.Forall₂ (fun item field => read item = .ok field) items fields := by
  induction items with
  | nil => exact ⟨[], .nil⟩
  | cons item items ih =>
    rw [List.forall_mem_cons] at h
    obtain ⟨field, hfield⟩ := h.1
    obtain ⟨fields, hfields⟩ := ih h.2
    exact ⟨field :: fields, .cons hfield hfields⟩

/-- Among items that can be read, one item decides about the text, and only about its own field. -/
lemma read_around_iff {before after : List Text} {item : Text} {fields rest : List Field}
    (hword : typeWord raw ≠ []) (hitems : itemsOf raw = before ++ item :: after)
    (hbefore : List.Forall₂ (fun item field => readOne options (styleOf (trim raw)) item = .ok field)
      before fields)
    (hafter : List.Forall₂ (fun item field => readOne options (styleOf (trim raw)) item = .ok field)
      after rest) :
    read options raw = .ok r ↔ ∃ field, readOne options (styleOf (trim raw)) item = .ok field ∧
      r = ⟨Identifier.typeName (typeWord raw), fields ++ field :: rest⟩ := by
  have hsome : itemsOf raw ≠ [] := by simp [hitems]
  rw [read_eq_readItems options hword hsome, hitems, readItems_append hbefore, readItems]
  cases readOne options (styleOf (trim raw)) item with
  | error fault => simp [Except.map]
  | ok field => simp [readItems_eq_ok_iff.mpr hafter, Except.map, eq_comm]

section Types

/-- The type part of a chunk holds nothing but blank space. -/
def Slashed.BlankType (chunk : Text) : Prop :=
  ∃ first type later, fragments (· == ':') chunk = first :: type :: later ∧ Run isBlank type

lemma Slashed.readChunk_type {chunk : Text} {f : Field} (h : readChunk options chunk = .ok f) :
    ∃ first type later, fragments (· == ':') chunk = first :: type :: later ∧
      f.type = FieldType.resolve type := by
  unfold readChunk at h
  split at h
  · next first type later heq =>
    split_ifs at h
    obtain ⟨name, -, rfl⟩ := exists_of_map_ok h
    exact ⟨first, type, later, heq, rfl⟩
  · cases h

lemma Slashed.type_eq_nil_iff {chunk : Text} {f : Field} (h : readChunk options chunk = .ok f) :
    f.type = [] ↔ BlankType chunk := by
  obtain ⟨first, type, later, hsegments, htype⟩ := readChunk_type h
  rw [htype, FieldType.resolve_eq_nil_iff, BlankType, hsegments]
  constructor
  · intro hrun
    exact ⟨first, type, later, rfl, hrun⟩
  · rintro ⟨_, _, _, heq, hrun⟩
    cases heq
    exact hrun

/-- What reading an item gives for its type: something resolved, and something at all unless the item
is a chunk with a blank type. -/
lemma readOne_type {style : Style} {item : Text} {f : Field}
    (hitem : style = .spaced → Free Spaced.isBreak item) (h : readOne options style item = .ok f) :
    trim f.type = f.type ∧ (f.type = [] ↔ style = .slashed ∧ Slashed.BlankType item) := by
  cases style with
  | spaced =>
    have hlegible := Spaced.readItem_legible (hitem rfl) h
    refine ⟨?_, ?_⟩
    · rw [← hlegible.resolved, FieldType.trim_resolve]
    · simp [hlegible.type.1]
  | slashed =>
    obtain ⟨-, type, -, -, htype⟩ := Slashed.readChunk_type h
    refine ⟨?_, ?_⟩
    · rw [htype, FieldType.trim_resolve]
    · simpa using Slashed.type_eq_nil_iff h

/-- Fields have types without blank space around them. A type is empty only where a chunk of a slashed
text gives nothing but blank space for it. -/
theorem types_are_real_unless_blank (h : read options raw = .ok r) :
    List.Forall₂ (fun item field =>
      (∀ c ∈ field.type.head?, isBlank c = false) ∧ (∀ c ∈ field.type.getLast?, isBlank c = false) ∧
        (field.type = [] ↔ styleOf (trim raw) = .slashed ∧ Slashed.BlankType item))
      (itemsOf raw) r.fields := by
  obtain ⟨-, -, -, hfields⟩ := read_eq_ok_iff.mp h
  have hpieces : ∀ item ∈ itemsOf raw, styleOf (trim raw) = .spaced → Free Spaced.isBreak item :=
    fun item hitem hstyle => (spaced_item_piece hstyle item hitem).2
  refine ((List.forall₂_and_left _ _).mpr ⟨hpieces, hfields⟩).imp ?_
  rintro item field ⟨hpiece, hread⟩
  obtain ⟨htrim, hempty⟩ := readOne_type hpiece hread
  rw [← htrim]
  refine ⟨head_trim _, last_trim _, ?_⟩
  rw [htrim]
  exact hempty

/-- Blank space inside of brackets, a type of brackets alone and a blank type. -/
theorem types_of_blank_sample :
    ∃ r, read {} "type:User-tags: s [] :o/raw: []/none: \t:o".toList = .ok r ∧
      r.fields.map Field.type = ["string[]".toList, "[]".toList, []] ∧
      Slashed.BlankType "none: \t:o".toList ∧ ¬ Slashed.BlankType "raw: []".toList := by
  have hread : read {} "type:User-tags: s [] :o/raw: []/none: \t:o".toList =
      .ok ⟨"User".toList, [⟨"tags".toList, "string[]".toList, false⟩,
        ⟨"raw".toList, "[]".toList, true⟩, ⟨"none".toList, [], false⟩]⟩ := by decide +kernel
  have hitems : itemsOf "type:User-tags: s [] :o/raw: []/none: \t:o".toList =
      ["tags: s [] :o".toList, "raw: []".toList, "none: \t:o".toList] := by decide +kernel
  have htypes := types_are_real_unless_blank hread
  rw [hitems] at htypes
  cases htypes with
  | cons _ hrest =>
    cases hrest with
    | cons hraw hrest =>
      cases hrest with
      | cons hnone _ =>
        refine ⟨_, hread, rfl, (hnone.2.2.mp rfl).2, fun hblank => ?_⟩
        exact absurd (hraw.2.2.mpr ⟨by decide +kernel, hblank⟩) (by decide)

/-- A blank type is taken for a type, and declared. -/
theorem blank_type_is_declared :
    ∃ r, read {} "type:User-a: /b:s".toList = .ok r ∧ r.fields.map Field.type = [[], "string".toList] ∧
      Artifact.typeAlias r.name r.fields =
        "export type User = \x7b\n  a: ;\n  b: string;\n\x7d;\n".toList := by
  have hread : read {} "type:User-a: /b:s".toList =
      .ok ⟨"User".toList, [⟨"a".toList, [], true⟩, ⟨"b".toList, "string".toList, true⟩]⟩ := by
    decide +kernel
  exact ⟨_, hread, rfl, by decide +kernel⟩

end Types
end Dialect
end Shorthand
