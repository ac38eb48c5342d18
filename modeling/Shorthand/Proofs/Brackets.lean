import Shorthand.Artifact.Generator
import Shorthand.Proofs.Schema

/-! Array brackets at every depth. Three readers take brackets off the end of a type: resolving the
word, building the validator and choosing the placeholder. They find the same depth and the same type
inside, and what they say of that type stands in a table. -/
namespace Shorthand.FieldType
open Text

section Tables

/-- What the abbreviations stand for. -/
def abbreviations : List (Text × Text) :=
  [(['s'], "string".toList), (['n'], "number".toList), (['b'], "boolean".toList),
    (['d'], "Date".toList), (['u'], "unknown".toList), (['a'], "any".toList)]

/-- The validators of the types that have one. -/
def validators : List (Text × Text) :=
  [("string".toList, "z.string()".toList), ("number".toList, "z.number()".toList),
    ("boolean".toList, "z.boolean()".toList), ("Date".toList, "z.coerce.date()".toList),
    ("any".toList, "z.any()".toList), ("unknown".toList, "z.unknown()".toList)]

/-- The placeholders of the types that have one. -/
def placeholders (now : Moment) : List (Text × Except Moment.Fault Json) :=
  [("string".toList, .ok (.str [])), ("number".toList, .ok (.int 0)),
    ("boolean".toList, .ok (.bool false)), ("Date".toList, now.timestamp.map .str)]

lemma lookup_getD_cons {α : Type} (key word : Text) (value other : α) (table : List (Text × α)) :
    (((key, value) :: table).lookup word).getD other =
      if word == key then value else (table.lookup word).getD other := by
  rw [List.lookup_cons]
  cases word == key <;> rfl

/-- A word stands for what the table says, or for itself. -/
lemma expand_eq_lookup (word : Text) : expand word = (abbreviations.lookup word).getD word := by
  unfold expand
  split
  · rfl
  · rfl
  · rfl
  · rfl
  · rfl
  · rfl
  · next hs hn hb hd hu ha =>
    have hne {key : Text} (h : word = key → False) : (word == key) = false := beq_eq_false_iff_ne.mpr h
    simp only [abbreviations, lookup_getD_cons, hne hs, hne hn, hne hb, hne hd, hne hu, hne ha]
    rfl

lemma print_plainZod (type : Text) :
    (plainZod type).print = (validators.lookup type).getD "z.unknown()".toList := by
  simp only [validators, lookup_getD_cons]
  unfold plainZod
  split_ifs <;> rfl

lemma placeholder_of_plain {type : Text} (h : isArray type = false) (now : Moment) :
    Artifact.placeholder type now = ((placeholders now).lookup type).getD (.ok .null) := by
  simp only [placeholders, lookup_getD_cons]
  rw [Artifact.placeholder, h]
  rfl

end Tables

/-- Peeling a type word: its blank space is trimmed and a pair of brackets is taken off the end, again
and again. `depth` pairs come off, and `base` is left. -/
inductive Peels : Text → Nat → Text → Prop
  | base {raw : Text} : ¬ brackets <:+ trim raw → Peels raw 0 (trim raw)
  | layer {raw inner base : Text} {depth : Nat} :
    trim raw = inner ++ brackets → Peels inner depth base → Peels raw (depth + 1) base

section Peels
variable {raw base : Text} {depth : Nat}

lemma isArray_eq_false_iff {type : Text} : isArray type = false ↔ ¬ brackets <:+ type := by
  rw [← Bool.not_eq_true, isArray, endsWith, List.isSuffixOf_iff_suffix]

lemma exists_peels (raw : Text) : ∃ depth base, Peels raw depth base := by
  induction raw using bracketInduction with
  | array raw inner he ih =>
    obtain ⟨depth, base, hinner⟩ := ih
    exact ⟨depth + 1, base, .layer he hinner⟩
  | plain raw h => exact ⟨0, trim raw, .base (isArray_eq_false_iff.mp h)⟩

lemma Peels.unique {depth' : Nat} {base' : Text} (h : Peels raw depth base)
    (h' : Peels raw depth' base') : depth' = depth ∧ base' = base := by
  induction h generalizing depth' with
  | base hplain =>
    cases h' with
    | base _ => exact ⟨rfl, rfl⟩
    | layer he _ => exact absurd ⟨_, he.symm⟩ hplain
  | layer he _ ih =>
    cases h' with
    | base hplain => exact absurd ⟨_, he.symm⟩ hplain
    | layer he' hinner' =>
      obtain rfl := List.append_cancel_right (he'.symm.trans he)
      obtain ⟨rfl, rfl⟩ := ih hinner'
      exact ⟨rfl, rfl⟩

/-- What is left has no brackets, also when it was an abbreviation. -/
lemma Peels.isArray_expand (h : Peels raw depth base) : isArray (expand base) = false := by
  induction h with
  | base hplain => exact (expand_trim_plain (isArray_eq_false_iff.mpr hplain)).1
  | layer _ _ ih => exact ih

/-- The type with brackets behind it. -/
def nested (depth : Nat) (type : Text) : Text := type ++ (List.replicate depth brackets).flatten

lemma nested_succ (depth : Nat) (type : Text) :
    nested (depth + 1) type = nested depth type ++ brackets := by
  simp [nested, List.replicate_succ']

lemma Peels.resolve_eq (h : Peels raw depth base) : resolve raw = nested depth (expand base) := by
  induction h with
  | @base raw hplain =>
    rw [resolve_of_plain (isArray_eq_false_iff.mpr hplain)]
    simp [nested]
  | layer he _ ih => rw [resolve_of_array he, ih, nested_succ]

lemma print_zod_nested (depth : Nat) (type : Text) :
    (zod (nested depth type)).print =
      (List.replicate depth "z.array(".toList).flatten ++ (zod type).print ++
        List.replicate depth ')' := by
  induction depth with
  | zero =>
    simp only [nested, List.replicate_zero, List.flatten_nil, List.append_nil, List.nil_append]
  | succ depth ih =>
    -- The outermost call opens in front of the others and closes behind them.
    have harray (e : ZodExpr) : e.array.print = "z.array(".toList ++ e.print ++ ")".toList := rfl
    have hopen (s : Text) : (List.replicate (depth + 1) s).flatten =
        s ++ (List.replicate depth s).flatten := rfl
    have hclose : List.replicate (depth + 1) ')' = List.replicate depth ')' ++ ")".toList :=
      List.replicate_succ'
    rw [nested_succ, zod_append, harray, ih, hopen, hclose]
    simp only [List.append_assoc]

lemma zod_of_plain {type : Text} (h : isArray type = false) : zod type = plainZod type := by
  rw [zod, h]
  rfl

lemma isArray_nested {type : Text} (h : isArray type = false) (depth : Nat) :
    isArray (nested depth type) = true ↔ 1 ≤ depth := by
  cases depth with
  | zero => simp [nested, h]
  | succ depth => simp [nested_succ]

/-- Only an array is filled in with an empty list. -/
lemma placeholder_eq_empty_iff (type : Text) (now : Moment) :
    Artifact.placeholder type now = .ok (.arr []) ↔ isArray type = true := by
  unfold Artifact.placeholder
  split_ifs with harray
  · simp [harray]
  · simp [harray]
  · simp [harray]
  · simp [harray]
  · cases now.timestamp <;> simp [harray, Except.map]
  · simp [harray]

end Peels

/-- The readers of array brackets agree. Peeling a type word leaves one base at one depth; resolving the
word puts that many brackets behind the type that the base stands for, the validator wraps that many
arrays around the validator of that type, and the placeholder is an empty list if there are any
brackets, and otherwise that of the type. Resolving once more changes nothing. -/
theorem readers_of_brackets_agree (raw : Text) :
    ∃ depth base type, Peels raw depth base ∧
      (∀ depth' base', Peels raw depth' base' → depth' = depth ∧ base' = base) ∧
      type = (abbreviations.lookup base).getD base ∧
      resolve raw = type ++ (List.replicate depth brackets).flatten ∧
      (zod (resolve raw)).print = (List.replicate depth "z.array(".toList).flatten ++
        (validators.lookup type).getD "z.unknown()".toList ++ List.replicate depth ')' ∧
      (∀ now, (Artifact.placeholder (resolve raw) now = .ok (.arr []) ↔ 1 ≤ depth) ∧
        (depth = 0 → Artifact.placeholder (resolve raw) now =
          ((placeholders now).lookup type).getD (.ok .null))) ∧
      resolve (resolve raw) = resolve raw := by
  obtain ⟨depth, base, hpeels⟩ := exists_peels raw
  have hplain := hpeels.isArray_expand
  have hresolve := hpeels.resolve_eq
  refine ⟨depth, base, expand base, hpeels, fun _ _ => hpeels.unique, expand_eq_lookup base,
    hresolve, ?_, ?_, resolve_resolve raw⟩
  · rw [hresolve, print_zod_nested, zod_of_plain hplain, print_plainZod]
  · intro now
    refine ⟨?_, ?_⟩
    · rw [placeholder_eq_empty_iff, hresolve, isArray_nested hplain]
    · rintro rfl
      rw [hresolve, ← placeholder_of_plain hplain, nested]
      simp

end Shorthand.FieldType
