import Shorthand.Json.Printer
import Shorthand.Proofs.Json.Grammar
import Shorthand.Proofs.Json.Members

/-! Written JSON. A style that puts nothing but blank space between the tokens spells the value that is
written, so written values are read back; and which characters a written value can hold. -/
namespace Shorthand.Json
open Text
variable {lone : Nat → Char} {style : Style} {cut : Char → Bool} {ok : Text → Prop} {v : Json}

section Numerals

lemma run_ofNat (n : Nat) : Run Char.isDigit (ofNat n) :=
  fun _ hc => Nat.isDigit_of_mem_toDigits (by decide) (by decide) hc

lemma digitsValue_ofNat (n : Nat) : digitsValue (ofNat n) = n := Nat.ofDigitChars_ten_toDigits

lemma head_ofNat {n : Nat} (hn : 0 < n) : (ofNat n).head? ≠ some '0' := by
  induction n using Nat.strongRecOn with
  | ind n ih =>
    rw [ofNat, Nat.toDigits_eq_if (by decide)]
    split_ifs with hlt
    · interval_cases n <;> decide
    · have hhead := ih (n / 10) (by omega) (by omega)
      rw [List.head?_append_of_ne_nil _ Nat.toDigits_ne_nil]
      exact hhead

lemma wholeText_ofNat (n : Nat) : WholeText (ofNat n) := by
  rcases Nat.eq_zero_or_pos n with rfl | hn
  · exact .zero
  · have hrun := run_ofNat n
    have hhead := head_ofNat hn
    cases hdigits : ofNat n with
    | nil => exact absurd hdigits Nat.toDigits_ne_nil
    | cons c ds =>
      rw [hdigits] at hrun hhead
      exact .digits (by simpa using hhead) (run_cons.mp hrun).1 (run_cons.mp hrun).2

lemma isShort_iff {n : Int} : IsShort n ↔ n.natAbs < 10 ^ mostDigits :=
  Nat.length_toDigits_le_iff (by decide) (by decide)

lemma numeral_ofNat {n : Nat} (negative : Bool) (h : (ofNat n).length ≤ mostDigits) :
    numeral negative (ofNat n) [] none = .ok (.int (if negative then -(n : Int) else n)) := by
  simp [numeral, digitsValue_ofNat, Nat.not_lt.mpr h]

lemma numberText_ofInt {n : Int} (h : IsShort n) : NumberText (ofInt n) (.int n) := by
  cases n with
  | ofNat n =>
    have hnumber := NumberText.mk false (wholeText_ofNat n) .none .none (numeral_ofNat false h)
    rwa [List.append_nil, List.append_nil] at hnumber
  | negSucc n =>
    have hnumber := NumberText.mk true (wholeText_ofNat (n + 1)) .none .none (numeral_ofNat true h)
    rwa [List.append_nil, List.append_nil] at hnumber

end Numerals

section Quoting

lemma hex4?_hex : ∀ n < 0x20, hex4? (hex 4 n) = some n := by decide

/-- An encoded character goes in front of a string. -/
lemma StringBody.encodeChar {p s : Text} (hp : StringBody lone p s) (c : Char) :
    StringBody lone (encodeChar c ++ p) (c :: s) := by
  unfold Json.encodeChar
  split_ifs with h1 h2 h3 h4 h5 h6 h7 h8
  · obtain rfl : c = '"' := by simpa using h1
    exact .escape (by decide) rfl hp
  · obtain rfl : c = '\\' := by simpa using h2
    exact .escape (by decide) rfl hp
  · obtain rfl : c = '\n' := by simpa using h3
    exact .escape (by decide) rfl hp
  · obtain rfl : c = '\r' := by simpa using h4
    exact .escape (by decide) rfl hp
  · obtain rfl : c = '\t' := by simpa using h5
    exact .escape (by decide) rfl hp
  · obtain rfl : c = '\x08' := Char.toNat_inj.mp (by simpa using h6)
    exact .escape (by decide) rfl hp
  · obtain rfl : c = '\x0c' := Char.toNat_inj.mp (by simpa using h7)
    exact .escape (by decide) rfl hp
  · have hchar : unitChar lone c.toNat = c := by
      have hvalid : c.toNat.isValidChar := c.valid
      simp [unitChar, Encoding.char?, hvalid]
    have hhigh : Encoding.isHighSurrogate c.toNat = false := by
      simp [Encoding.isHighSurrogate]
      omega
    have h := StringBody.unit (hex4?_hex c.toNat h8) (by simp [hhigh]) hp
    rwa [hchar] at h
  · exact .plain (by simpa using h1) (by simpa using h2) (by omega) hp

lemma stringBody_quoted (s : Text) : StringBody lone (s.flatMap encodeChar ++ ['"']) s := by
  induction s with
  | nil => exact .close
  | cons c s ih =>
    rw [List.flatMap_cons, List.append_assoc]
    exact ih.encodeChar c

lemma spells_quote (s : Text) : Spells lone (quote s) (.value (.str s)) :=
  .string (stringBody_quoted s)

end Quoting

section Spelling

/-- A value without decimals, in which no integer has too many digits, no object has a name twice and
all texts are as `ok` says. -/
inductive Regular (ok : Text → Prop) : Json → Prop
  | null : Regular ok .null
  | bool (b : Bool) : Regular ok (.bool b)
  | int {n : Int} : IsShort n → Regular ok (.int n)
  | str {s : Text} : ok s → Regular ok (.str s)
  | arr {vs : List Json} : (∀ v ∈ vs, Regular ok v) → Regular ok (.arr vs)
  | obj {ms : List (Text × Json)} : (ms.map Prod.fst).Nodup → (∀ m ∈ ms, ok m.1) →
      (∀ m ∈ ms, Regular ok m.2) → Regular ok (.obj ms)

/-- The style puts only blank space and the colon between the tokens. -/
structure Style.IsBlank (style : Style) : Prop where
  item : ∀ depth, Run isSpace (style.item depth)
  colon : ∃ w w', Run isSpace w ∧ Run isSpace w' ∧ style.colon = w ++ ':' :: w'
  close : ∀ depth, Run isSpace (style.close depth)

lemma compact_isBlank : Style.compact.IsBlank :=
  ⟨fun _ => run_nil, ⟨[], [], run_nil, run_nil, rfl⟩, fun _ => run_nil⟩

lemma indented_isBlank : Style.indented.IsBlank := by
  have hline (n : Nat) : Run isSpace ('\n' :: List.replicate n ' ') := by
    rw [run_cons]
    refine ⟨rfl, fun c hc => ?_⟩
    rw [List.eq_of_mem_replicate hc]
    rfl
  exact ⟨fun _ => hline _, ⟨[], [' '], run_nil, by decide, rfl⟩, fun _ => hline _⟩

lemma spells_printElements (hstyle : style.IsBlank) (depth : Nat) {vs : List Json}
    (h : ∀ v ∈ vs, Spells lone (printAt style (depth + 1) v) (.value v)) :
    Spells lone (printElements style depth vs ++ (style.close depth ++ [']'])) (.moreElements vs) := by
  induction vs with
  | nil => exact .lastElement (hstyle.close depth)
  | cons v vs ih =>
    rw [List.forall_mem_cons] at h
    have hnext := Spells.nextElement run_nil (hstyle.item depth) (.element h.1 (ih h.2))
    simpa [printElements] using hnext

lemma spells_printMembers (hstyle : style.IsBlank) (depth : Nat) {ms : List (Text × Json)}
    (h : ∀ m ∈ ms, Spells lone (printAt style (depth + 1) m.2) (.value m.2)) :
    Spells lone (printMembers style depth ms ++ (style.close depth ++ ['}'])) (.moreMembers ms) := by
  obtain ⟨w, w', hw, hw', hcolon⟩ := hstyle.colon
  induction ms with
  | nil => exact .lastMember (hstyle.close depth)
  | cons m ms ih =>
    rw [List.forall_mem_cons] at h
    have hnext := Spells.nextMember run_nil (hstyle.item depth)
      (.member (stringBody_quoted m.1) hw hw' h.1 (ih h.2))
    simpa [printMembers, quote, hcolon] using hnext

/-- Whatever the style, a written value spells itself. -/
theorem spells_printAt (hstyle : style.IsBlank) (hv : Regular ok v) (depth : Nat) :
    Spells lone (printAt style depth v) (.value v) := by
  induction hv generalizing depth with
  | null => exact .scalar (.word (w := ("null".toList, .null)) (by simp [words]))
  | bool b =>
    cases b with
    | true => exact .scalar (.word (w := ("true".toList, .bool true)) (by simp [words]))
    | false => exact .scalar (.word (w := ("false".toList, .bool false)) (by simp [words]))
  | int hn => exact .scalar (.number (numberText_ofInt hn))
  | str _ => exact spells_quote _
  | @arr vs _ ih =>
    cases vs with
    | nil => exact .noElements run_nil
    | cons v vs =>
      have hmore := spells_printElements hstyle depth fun u hu =>
        ih u (List.mem_cons_of_mem v hu) (depth + 1)
      have harray := Spells.array (hstyle.item depth)
        (.element (ih v List.mem_cons_self (depth + 1)) hmore)
      simpa [printAt] using harray
  | @obj ms hnames _ _ ih =>
    cases ms with
    | nil => exact .noMembers run_nil
    | cons m ms =>
      obtain ⟨w, w', hw, hw', hcolon⟩ := hstyle.colon
      have hmore := spells_printMembers hstyle depth fun u hu =>
        ih u (List.mem_cons_of_mem m hu) (depth + 1)
      have hobject := Spells.object (hstyle.item depth) (.member (stringBody_quoted m.1) hw hw'
        (ih m List.mem_cons_self (depth + 1)) hmore)
      rw [ofPairs_of_nodup hnames] at hobject
      simpa [printAt, quote, hcolon] using hobject

lemma readWith_print (hstyle : style.IsBlank) (hv : Regular ok v) {w : Text} (hw : Run isSpace w) :
    readWith lone (printAt style 0 v ++ w) = .ok v :=
  readWith_eq_ok_iff.mpr ⟨[], _, w, rfl, run_nil, hw, spells_printAt hstyle hv 0⟩

end Spelling
section Characters

lemma free_ofInt (hcut : AvoidsPlain cut) (n : Int) : Free cut (ofInt n) := by
  cases n with
  | ofNat n => exact hcut.free_digits (run_ofNat n)
  | negSucc n =>
    exact free_cons.mpr ⟨hcut '-' rfl, hcut.free_digits (run_ofNat _)⟩

/-- The style puts nothing of the class between the tokens. -/
structure Style.IsFree (cut : Char → Bool) (style : Style) : Prop where
  item : ∀ depth, Free cut (style.item depth)
  colon : Free cut style.colon
  close : ∀ depth, Free cut (style.close depth)

lemma compact_isFree (hcut : AvoidsPlain cut) : Style.compact.IsFree cut :=
  ⟨fun _ => free_nil, hcut.free (by decide), fun _ => free_nil⟩

lemma indented_isFree (hcut : AvoidsPlain cut) :
    Style.indented.IsFree cut := by
  have hspace (n : Nat) : Free cut ('\n' :: List.replicate n ' ') := by
    refine free_cons.mpr ⟨hcut '\n' rfl, fun c hc => ?_⟩
    rw [List.eq_of_mem_replicate hc]
    exact hcut ' ' rfl
  exact ⟨fun _ => hspace _, hcut.free (by decide), fun _ => hspace _⟩

lemma run_hex : ∀ n < 0x20, Run isPlain (hex 4 n) := by decide

/-- Only what a text holds comes into its quoted form, and none of its control characters. -/
lemma free_quote (hcut : AvoidsPlain cut) {s : Text}
    (h : ∀ c ∈ s, 0x20 ≤ c.toNat → cut c = false) : Free cut (quote s) := by
  have hquote : cut '"' = false := hcut '"' rfl
  have hchars : Free cut (s.flatMap encodeChar) := by
    intro d hd
    obtain ⟨c, hc, hd⟩ := List.mem_flatMap.mp hd
    unfold encodeChar at hd
    split_ifs at hd with h1 h2 h3 h4 h5 h6 h7 h8
    · exact hcut.free (by decide) d hd
    · exact hcut.free (by decide) d hd
    · exact hcut.free (by decide) d hd
    · exact hcut.free (by decide) d hd
    · exact hcut.free (by decide) d hd
    · exact hcut.free (by decide) d hd
    · exact hcut.free (by decide) d hd
    · refine free_append.mpr ⟨hcut.free (by decide), hcut.free (run_hex _ h8)⟩ d hd
    · obtain rfl := List.mem_singleton.mp hd
      exact h d hc (by omega)
  exact free_cons.mpr ⟨hquote, free_append.mpr ⟨hchars, free_cons.mpr ⟨hquote, free_nil⟩⟩⟩

lemma printElements_free (hcut : AvoidsPlain cut) (hstyle : style.IsFree cut) (depth : Nat)
    {vs : List Json} (h : ∀ v ∈ vs, Free cut (printAt style (depth + 1) v)) :
    Free cut (printElements style depth vs) := by
  induction vs with
  | nil => exact free_nil
  | cons v vs ih =>
    rw [List.forall_mem_cons] at h
    simp [printElements, hcut ',' rfl, hstyle.item depth, h.1, ih h.2]

lemma printMembers_free (hcut : AvoidsPlain cut) (hstyle : style.IsFree cut) (depth : Nat)
    {ms : List (Text × Json)} (hnames : ∀ m ∈ ms, Free cut (quote m.1))
    (h : ∀ m ∈ ms, Free cut (printAt style (depth + 1) m.2)) :
    Free cut (printMembers style depth ms) := by
  induction ms with
  | nil => exact free_nil
  | cons m ms ih =>
    rw [List.forall_mem_cons] at h hnames
    simp [printMembers, hcut ',' rfl, hstyle.item depth, hstyle.colon, hnames.1,
      h.1, ih hnames.2 h.2]

/-- What a written value holds comes from its texts, apart from visible ASCII and the style. -/
theorem printAt_free (hcut : AvoidsPlain cut) (hstyle : style.IsFree cut)
    (hquote : ∀ s, ok s → Free cut (quote s)) (hv : Regular ok v) (depth : Nat) :
    Free cut (printAt style depth v) := by
  induction hv generalizing depth with
  | null => exact hcut.free (s := "null".toList) (by decide)
  | bool b =>
    cases b with
    | true => exact hcut.free (s := "true".toList) (by decide)
    | false => exact hcut.free (s := "false".toList) (by decide)
  | @int n _ => exact free_ofInt hcut n
  | str hs => exact hquote _ hs
  | @arr vs _ ih =>
    cases vs with
    | nil => exact hcut.free (s := ['[', ']']) (by decide)
    | cons v vs =>
      have hmore := printElements_free hcut hstyle depth fun u hu =>
        ih u (List.mem_cons_of_mem v hu) (depth + 1)
      simp [printAt, hcut '[' rfl, hcut ']' rfl,
        hstyle.item depth, hstyle.close depth, ih v List.mem_cons_self (depth + 1), hmore]
  | @obj ms _ hnames _ ih =>
    cases ms with
    | nil => exact hcut.free (s := ['{', '}']) (by decide)
    | cons m ms =>
      have hmore := printMembers_free hcut hstyle depth
        (fun u hu => hquote _ (hnames u (List.mem_cons_of_mem m hu)))
        (fun u hu => ih u (List.mem_cons_of_mem m hu) (depth + 1))
      simp [printAt, hcut '{' rfl, hcut '}' rfl,
        hstyle.item depth, hstyle.colon, hstyle.close depth, hquote _ (hnames m List.mem_cons_self),
        ih m List.mem_cons_self (depth + 1), hmore]

end Characters
end Shorthand.Json
