import Shorthand.Bundle.Render
import Shorthand.Proofs.Characters
import Shorthand.Proofs.Json.Limits
import Shorthand.Proofs.Json.Variants
import Shorthand.Proofs.Utf8

/-! Written JSON is read back: from its text, from the body of a request and from a file. Written once
more, the value that was read gives the same text. An integer with too many digits is neither written
nor read. -/
namespace Shorthand
open Text

namespace Json
variable {v : Json} {t : Text}

/-- A value made of null, truth values, integers with not too many digits, texts, arrays, and objects in
which no name stands twice. -/
def IsExact (v : Json) : Prop := Regular (fun _ => True) v

/-- The value is written as the text. However the text is read, it holds the value, and writing what was
read gives the text again. -/
structure ReadsBack (v : Json) (t : Text) : Prop where
  written : v.format = .ok t
  text : ∀ lone, readWith lone t = .ok v
  body : ∀ lone, (Encoding.decode? lone (Utf8.encode t)).map (readWith lone) = some (.ok v)
  file : (Utf8.decode (Utf8.encode t)).map (read ∘ unifyNewlines) = .ok (.ok v)
  again : ∀ lone u, readWith lone t = .ok u → u.format = .ok t

lemma Regular.isExact {ok : Text → Prop} (h : Regular ok v) : v.IsExact := by
  induction h with
  | null => exact .null
  | bool b => exact .bool b
  | int hn => exact .int hn
  | str _ => exact .str trivial
  | arr _ ih => exact .arr ih
  | obj hnames _ _ ih => exact .obj hnames (fun _ _ => trivial) ih

lemma allShort_iff {vs : List Json} : allShort vs = true ↔ ∀ v ∈ vs, v.isShort = true := by
  induction vs with
  | nil => simp [allShort]
  | cons v vs ih => simp [allShort, ih]

lemma membersShort_iff {ms : List (Text × Json)} :
    membersShort ms = true ↔ ∀ m ∈ ms, m.2.isShort = true := by
  induction ms with
  | nil => simp [membersShort]
  | cons m ms ih => simp [membersShort, ih]

lemma IsExact.isShort (h : v.IsExact) : v.isShort = true := by
  induction h with
  | null => rfl
  | bool b => rfl
  | int hn => exact decide_eq_true hn
  | str _ => rfl
  | arr _ ih => exact allShort_iff.mpr ih
  | obj _ _ _ ih => exact membersShort_iff.mpr ih

lemma IsExact.format_eq (h : v.IsExact) : v.format = .ok v.pretty := by
  rw [format, h.isShort, if_pos rfl]

/-- Control characters are escaped, so that of a class of them nothing is written. -/
lemma IsExact.pretty_free {cut : Char → Bool} (h : v.IsExact) (hcut : AvoidsPlain cut)
    (hvisible : ∀ c : Char, 0x20 ≤ c.toNat → cut c = false) : Free cut v.pretty :=
  printAt_free hcut (indented_isFree hcut)
    (fun _ _ => free_quote hcut fun c _ hc => hvisible c hc) h 0

lemma isPlain_of_isStart {c : Char} (h : isStart c = true) : isPlain c = true := by
  simp only [isStart, isScalarChar, Bool.or_eq_true, beq_iff_eq] at h
  rcases h with (((((halpha | rfl) | rfl) | rfl) | rfl) | rfl) | rfl
  · rcases Bool.or_eq_true_iff.mp halpha with hletter | hdigit
    · exact isPlain_of_isAlpha hletter
    · have hrange := isDigit_iff.mp hdigit
      apply isPlain_of_bounds
      omega
  all_goals rfl

/-- A written value starts with a plain character. -/
lemma IsExact.exists_pretty (h : v.IsExact) : ∃ c s, v.pretty = c :: s ∧ isPlain c = true := by
  have hspells : Spells (fun _ => replacement) v.pretty (.value v) :=
    spells_printAt indented_isBlank h 0
  obtain ⟨c, s, hcs, hc⟩ := hspells.starts
  exact ⟨c, s, hcs, isPlain_of_isStart hc⟩

/-- Nothing in the bytes of a written value hints at another encoding than UTF-8. -/
lemma IsExact.decode?_pretty (h : v.IsExact) (lone : Nat → Char) :
    Encoding.decode? lone (Utf8.encode v.pretty) = some v.pretty := by
  have hzero : Free (fun c => c.toNat == 0) v.pretty := by
    apply h.pretty_free
    · intro c hc
      have hbounds := bounds_of_isPlain hc
      rw [beq_eq_false_iff_ne]
      omega
    · intro c hc
      rw [beq_eq_false_iff_ne]
      omega
  obtain ⟨c, s, hcs, hc⟩ := h.exists_pretty
  have hbounds := bounds_of_isPlain hc
  rw [hcs] at hzero ⊢
  refine Encoding.decode?_encode hbounds.2 (by omega) (fun d hd => ?_) lone
  exact beq_eq_false_iff_ne.mp ((free_cons.mp hzero).2 d (List.mem_of_mem_head? hd))

/-- Carriage returns are escaped, so that no line end of a written value is changed. -/
lemma IsExact.unifyNewlines_pretty (h : v.IsExact) : unifyNewlines v.pretty = v.pretty := by
  have hreturn : Free (· == '\r') v.pretty := by
    apply h.pretty_free
    · intro c hc
      rw [beq_eq_false_iff_ne]
      rintro rfl
      exact absurd hc (by decide)
    · intro c hc
      rw [beq_eq_false_iff_ne]
      rintro rfl
      exact absurd hc (by decide)
  exact unifyNewlines_of_free fun hmem => absurd (hreturn _ hmem) (by decide)

theorem IsExact.readsBack (h : v.IsExact) : v.ReadsBack v.pretty := by
  have htext : ∀ lone, readWith lone v.pretty = .ok v := by
    intro lone
    have hread : readWith lone (v.pretty ++ []) = .ok v :=
      readWith_print indented_isBlank h run_nil
    rwa [List.append_nil] at hread
  refine ⟨h.format_eq, htext, fun lone => ?_, ?_, fun lone u hu => ?_⟩
  · rw [h.decode?_pretty, Option.map_some, htext]
  · rw [Utf8.decode_encode]
    have hread : read v.pretty = .ok v := htext _
    simp only [Except.map, Function.comp_apply, h.unifyNewlines_pretty, hread]
  · rw [htext] at hu
    obtain rfl := Except.ok.inj hu
    exact h.format_eq

/-- An integer with too many digits is neither written nor read. -/
structure Refused (n : Int) : Prop where
  written : (Json.int n).format = .error ⟨none⟩
  text : ∀ lone, readWith lone (ofInt n) = .error (.long ⟨some (ofNat n.natAbs).length⟩)

lemma longText_ofInt {n : Int} (h : ¬ IsShort n) :
    LongText (ofInt n) ⟨some (ofNat n.natAbs).length⟩ := by
  have hlong : mostDigits < (ofNat n.natAbs).length := Nat.lt_of_not_le h
  cases n with
  | ofNat n => exact .mk false (wholeText_ofNat n) hlong
  | negSucc n => exact .mk true (wholeText_ofNat (n + 1)) hlong

theorem refused_of_long {n : Int} (h : ¬ IsShort n) : Refused n := by
  refine ⟨?_, fun lone => ?_⟩
  · have hshort : (Json.int n).isShort = false := decide_eq_false h
    rw [format, hshort, if_neg Bool.false_ne_true]
  · have hleads : LeadsToLong lone _ .value (ofInt n ++ []) :=
      .number (longText_ofInt h) (stopsNumber_of_end opens_nil)
    rw [List.append_nil] at hleads
    exact readWith_long_iff.mpr ⟨[], ofInt n, rfl, run_nil, hleads⟩

end Json

namespace Bundle

/-- The JSON output of every bundle, and the written form of every exact value, reads back. Integers
with more digits than those of exact values are refused both ways. -/
theorem json_output_reads_back :
    (∀ options clock raw b, build options clock raw = .ok b → b.toJson.ReadsBack (b.render .json)) ∧
      (∀ v : Json, v.IsExact → v.ReadsBack v.pretty) ∧
      ∀ n : Int, ¬ Json.IsShort n → Json.Refused n := by
  refine ⟨fun options clock raw b hb => ?_, fun v hv => hv.readsBack, fun n hn =>
    Json.refused_of_long hn⟩
  have hregular : Json.Regular (Free fun _ => false) b.toJson :=
    toJson_regular (fun _ _ => rfl) (fun _ _ => rfl) hb
  exact hregular.isExact.readsBack

/-- A text whose custom type holds a quote, a backslash, a control character and a letter beyond
ASCII. -/
def oddText : Text := "type:note-body:\"\\\x01\xe9[]/at:d".toList

/-- A value with empty and nested parts, a negative number, and a name that is empty. -/
def oddValue : Json :=
  .obj [([], .arr [.int (-12), .null, .obj []]), ("\x7f\r\n".toList, .str oddText)]

theorem odd_output_reads_back :
    (∃ b, build {} (.present (.ofEpoch 0)) oddText = .ok b ∧ b.toJson.ReadsBack (b.render .json)) ∧
      oddValue.ReadsBack oddValue.pretty := by
  have hread : Dialect.read {} oddText = .ok ⟨"Note".toList,
      [⟨"body".toList, "\"\\\x01\xe9[]".toList, true⟩, ⟨"at".toList, "Date".toList, true⟩]⟩ := by
    decide +kernel
  have hvalue : oddValue.IsExact := by
    refine Json.regular_obj (by decide) ?_
    simp only [List.forall_mem_cons]
    refine ⟨⟨trivial, .arr ?_⟩, ⟨trivial, .str trivial⟩, nofun⟩
    simp only [List.forall_mem_cons]
    exact ⟨.int (by decide), .null, Json.regular_obj List.nodup_nil nofun, nofun⟩
  obtain ⟨members, hb⟩ := build_present (Moment.ofEpoch_isUniversal 0) hread
  exact ⟨⟨_, hb, json_output_reads_back.1 _ _ _ _ hb⟩, json_output_reads_back.2.1 _ hvalue⟩

/-- The least integer that is too long. -/
theorem power_of_ten_is_refused :
    (Json.int (10 ^ mostDigits)).format = .error ⟨none⟩ ∧
      Json.read (ofInt (10 ^ mostDigits)) = .error (.long ⟨some (mostDigits + 1)⟩) := by
  have habs : (10 ^ mostDigits : Int).natAbs = 10 ^ mostDigits := by simp [Int.natAbs_pow]
  have hlong : ¬ Json.IsShort (10 ^ mostDigits) := by simp [Json.isShort_iff, habs]
  have hmore : (ofNat (10 ^ mostDigits)).length ≤ mostDigits + 1 := by
    rw [ofNat, Nat.length_toDigits_le_iff (by decide) (Nat.succ_pos _)]
    exact Nat.pow_lt_pow_right (by decide) (Nat.lt_succ_self _)
  have hlength : (ofNat (10 ^ mostDigits)).length = mostDigits + 1 := by
    rw [Json.IsShort, habs] at hlong
    omega
  obtain ⟨hwritten, hread⟩ := Json.refused_of_long hlong
  rw [habs, hlength] at hread
  exact ⟨hwritten, hread _⟩

end Bundle
end Shorthand
