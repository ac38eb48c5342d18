import Shorthand.Proofs.Dialect

/-! Separators of the spaced dialect carry no meaning: whichever blanks, commas and slashes stand
between the items of a text, and around it, the outcome is that of the type word and the items
alone. -/
namespace Shorthand.Dialect.Spaced
open Text

/-- What a type word and a list of items amount to, with nothing said about separators. -/
def outcome (options : Options) (word : Text) (tokens : List Text) : Except Problem Record :=
  if (unquote word).isEmpty then .error { fault := .missingName .spaced }
  else if tokens.isEmpty then .error { fault := .missingFields .spaced }
  else (readItems (readItem options) 0 tokens).map fun fields =>
    ⟨Identifier.typeName (unquote word), fields⟩

lemma outcome_eq (options : Options) {word : Text} {tokens : List Text} (hword : unquote word ≠ [])
    (htokens : tokens ≠ []) :
    outcome options word tokens = (readItems (readItem options) 0 tokens).map fun fields =>
      ⟨Identifier.typeName (unquote word), fields⟩ := by
  simp [outcome, hword, htokens]

lemma isBreak_of_isGap {c : Char} (h : isGap c = true) : isBreak c = true := by simp [isBreak, h]

lemma isGap_of_isBlank {c : Char} (h : isBlank c = true) : isGap c = true := by simp [isGap, h]

section Head
variable {s t word : Text}

lemma head_run_append (h : Run isGap s) (t : Text) : head (s ++ t) = head t := by
  simp only [head, List.dropWhile_append_of_pos h]

lemma head_append (hword : Piece isGap word) (ht : Opens isGap t) : head (word ++ t) = (word, t) := by
  obtain ⟨c, w, rfl⟩ := List.exists_cons_of_ne_nil hword.1
  have hgap : ∀ d ∈ c :: w, (!isGap d) = true := fun d hd => by simp [hword.2 d hd]
  have hstart : (c :: w ++ t).dropWhile isGap = c :: w ++ t := by
    simp [(free_cons.mp hword.2).1]
  have hrest : t.takeWhile (!isGap ·) = [] ∧ t.dropWhile (!isGap ·) = t := by
    cases t with
    | nil => exact ⟨rfl, rfl⟩
    | cons d t => simp [opens_cons.mp ht]
  simp only [head, hstart, List.takeWhile_append_of_pos hgap, List.dropWhile_append_of_pos hgap,
    hrest.1, hrest.2, List.append_nil]

lemma head_of_run (h : Run isGap s) : head s = ([], []) := by
  have hnil := head_run_append h []
  rw [List.append_nil] at hnil
  exact hnil

/-- Every text is nothing but gaps, or gaps, a word and what follows it. -/
lemma exists_word (s : Text) : Run isGap s ∨ ∃ lead word rest, Run isGap lead ∧
    Piece isGap word ∧ Opens isGap rest ∧ s = lead ++ (word ++ rest) := by
  have hlead : Run isGap (s.takeWhile isGap) := fun _ hc => List.mem_takeWhile_imp hc
  have hs : s = s.takeWhile isGap ++ s.dropWhile isGap := List.takeWhile_append_dropWhile.symm
  cases hbody : s.dropWhile isGap with
  | nil =>
    left
    rw [hs, hbody, List.append_nil]
    exact hlead
  | cons c body =>
    right
    have hc : isGap c = false := by simpa [hbody] using List.head?_dropWhile_not isGap s
    refine ⟨_, (c :: body).takeWhile (!isGap ·), (c :: body).dropWhile (!isGap ·), hlead,
      ⟨by simp [hc], ?_⟩, ?_, ?_⟩
    · intro d hd
      simpa using List.mem_takeWhile_imp hd
    · intro d hd
      have h := List.head?_dropWhile_not (!isGap ·) (c :: body)
      rw [Option.mem_def.mp hd] at h
      simpa using h
    · rw [List.takeWhile_append_dropWhile, ← hbody]
      exact hs

/-- Gaps at the end of a text do not change its word, and bring no item. -/
lemma head_append_run (s : Text) (ht : Run isGap t) :
    (head (s ++ t)).1 = (head s).1 ∧ items (head (s ++ t)).2 = items (head s).2 := by
  rcases exists_word s with hs | ⟨lead, word, rest, hlead, hword, hrest, rfl⟩
  · rw [head_run_append hs, head_of_run hs, head_of_run ht]
    exact ⟨rfl, rfl⟩
  · have hopens : Opens isGap (rest ++ t) := by
      cases rest with
      | nil => exact ht.opens
      | cons c rest => simpa using hrest
    have hbreaks : Run isBreak t := fun c hc => isBreak_of_isGap (ht c hc)
    rw [List.append_assoc, List.append_assoc, head_run_append hlead, head_run_append hlead,
      head_append hword hopens, head_append hword hrest]
    exact ⟨rfl, fragments_append_run rest hbreaks⟩

lemma read_eq_outcome (options : Options) (s : Text) :
    read options s = outcome options (head s).1 (items (head s).2) := rfl

/-- Blank space around a text does not matter. -/
lemma read_trim (options : Options) (s : Text) : read options (trim s) = read options s := by
  obtain ⟨lead, trail, hlead, htrail, hs⟩ := exists_trim s
  have hl : Run isGap lead := fun c hc => isGap_of_isBlank (hlead c hc)
  have ht : Run isGap trail := fun c hc => isGap_of_isBlank (htrail c hc)
  obtain ⟨hword, hitems⟩ := head_append_run (trim s) ht
  have hhead : head s = head (trim s ++ trail) := by
    conv_lhs => rw [hs]
    rw [List.append_assoc, head_run_append hl]
  rw [read_eq_outcome, read_eq_outcome, hhead, hword, hitems]

end Head

section Style
variable {cut : Char → Bool} {p s t : Text}

/-- What has no cut in it and starts a text ends before the first cut. -/
lemma prefix_of_free (hp : Free cut p) (h : p <+: s ++ t) (ht : Opens cut t) : p <+: s := by
  rcases List.prefix_or_prefix_of_prefix h (List.prefix_append s t) with hps | ⟨u, rfl⟩
  · exact hps
  · have hu : u <+: t := (List.prefix_append_right_inj s).mp h
    cases u with
    | nil => simp
    | cons c u =>
      exfalso
      obtain ⟨v, rfl⟩ := hu
      have hcut : cut c = true := opens_cons.mp ht
      rw [hp c (by simp)] at hcut
      cases hcut

lemma opening_free : Free isBreak Slashed.opening := by decide

/-- Gaps in front of a word and separators behind it do not make a text slashed, unless the word opens
a slashed text and no comma stands before it. -/
lemma styleOf_trim {lead word rest : Text} (hlead : Run isGap lead) (hword : Piece isGap word)
    (hstyle : Slashed.opening <+: word → ',' ∈ lead) (hrest : Opens isBreak rest) :
    styleOf (trim (lead ++ (word ++ rest))) = .spaced := by
  obtain ⟨c, w, rfl⟩ := List.exists_cons_of_ne_nil hword.1
  have hblank : isBlank c = false := by
    by_contra hn
    have hgap := isGap_of_isBlank (by simpa using hn : isBlank c = true)
    rw [hword.2 c (by simp)] at hgap
    cases hgap
  have hnot : ¬ Slashed.opening <+: trim (lead ++ (c :: w ++ rest)) := by
    intro hp
    obtain ⟨trail, -, htrail⟩ := exists_trimRight (trimLeft (lead ++ (c :: w ++ rest)))
    have hleft : Slashed.opening <+: trimLeft (lead ++ (c :: w ++ rest)) := by
      rw [htrail]
      exact hp.trans (List.prefix_append _ _)
    rw [trimLeft, List.dropWhile_append] at hleft
    split_ifs at hleft with hempty
    · -- All of the lead is blank, so that there is no comma.
      simp only [List.cons_append, List.dropWhile_cons, hblank] at hleft
      have hcomma := hstyle (prefix_of_free opening_free hleft hrest)
      have hblanks : ∀ d ∈ lead, isBlank d = true := by
        rw [← List.dropWhile_eq_nil_iff]
        simpa using hempty
      exact absurd (hblanks ',' hcomma) (by decide)
    · -- A comma stands in front, and no slashed text starts with one.
      obtain ⟨d, l, hd⟩ := List.exists_cons_of_ne_nil (by simpa using hempty :
        lead.dropWhile isBlank ≠ [])
      rw [hd, List.cons_append] at hleft
      have hfirst : 't' = d := (List.cons_prefix_cons.mp hleft).1
      have hmem : d ∈ lead := (List.dropWhile_sublist isBlank).subset (by simp [hd])
      have hgap := hlead d hmem
      rw [← hfirst] at hgap
      exact absurd hgap (by decide)
  exact styleOf_eq_spaced hnot

/-- Such a text is read as a spaced one. -/
lemma read_eq_spaced (options : Options) {lead word rest : Text} (hlead : Run isGap lead)
    (hword : Piece isGap word) (hstyle : Slashed.opening <+: word → ',' ∈ lead)
    (hrest : Opens isBreak rest) :
    Dialect.read options (lead ++ (word ++ rest)) = read options (lead ++ (word ++ rest)) := by
  have hne : trim (lead ++ (word ++ rest)) ≠ [] := by
    obtain ⟨c, w, rfl⟩ := List.exists_cons_of_ne_nil hword.1
    have hblank : Free isBlank (c :: w) := hword.2.mono fun _ => isGap_of_isBlank
    exact trim_ne_nil (c := c) (by simp) (hblank c (by simp))
  simp [Dialect.read, hne, styleOf_trim hlead hword hstyle hrest, read_trim]

/-- A type word behind gaps, with something behind it that starts with a gap. -/
lemma read_append (options : Options) {lead word rest : Text} (hlead : Run isGap lead)
    (hword : Piece isGap word) (hstyle : Slashed.opening <+: word → ',' ∈ lead)
    (hrest : Opens isGap rest) :
    Dialect.read options (lead ++ (word ++ rest)) = outcome options word (items rest) := by
  have hbreaks : Opens isBreak rest := fun c hc => isBreak_of_isGap (hrest c hc)
  rw [read_eq_spaced options hlead hword hstyle hbreaks, read_eq_outcome, head_run_append hlead,
    head_append hword hrest]

end Style

/-- A text with its separators as they stand: gaps in front, the type word, every item after its
separators, and separators at the end. What follows the word starts with a gap; only where there is
no item, and the word is more than a pair of quotes, it may start with a slash. -/
structure Layout where
  lead : Text
  word : Text
  pieces : List (Text × Text)
  trail : Text
  lead_run : Run isGap lead
  word_piece : Piece isGap word
  word_style : ¬ Slashed.opening <+: word
  pieces_run : ∀ p ∈ pieces, p.1 ≠ [] ∧ Run isBreak p.1
  pieces_piece : ∀ p ∈ pieces, Piece isBreak p.2
  trail_run : Run isBreak trail
  rest_opens : Opens isGap (pieces.flatMap (fun p => p.1 ++ p.2) ++ trail) ∨
    pieces = [] ∧ unquote word ≠ []

namespace Layout

/-- What follows the type word. -/
def rest (l : Layout) : Text := l.pieces.flatMap (fun p => p.1 ++ p.2) ++ l.trail

def text (l : Layout) : Text := l.lead ++ (l.word ++ l.rest)

/-- The items, without their separators. -/
def tokens (l : Layout) : List Text := l.pieces.map Prod.snd

lemma items_rest (l : Layout) : items l.rest = l.tokens :=
  fragments_spread l.pieces l.trail l.pieces_run l.pieces_piece l.trail_run

lemma rest_breaks (l : Layout) : Opens isBreak l.rest := by
  rcases l.rest_opens with h | ⟨h, -⟩
  · exact fun c hc => isBreak_of_isGap (h c hc)
  · simpa [rest, h] using l.trail_run.opens

/-- A slash right behind the word is read as part of it, and no item is left. -/
lemma read_of_no_pieces (l : Layout) (options : Options) (hp : l.pieces = [])
    (hq : unquote l.word ≠ []) : read options l.text = outcome options l.word l.tokens := by
  have htokens : l.tokens = [] := by simp [tokens, hp]
  have hrest : l.rest = l.trail := by simp [rest, hp]
  -- The word that is read, and what is left behind it.
  generalize hw : l.word ++ l.trail.takeWhile (!isGap ·) = word
  generalize hr : l.trail.dropWhile (!isGap ·) = left
  have hsplit : l.word ++ l.rest = word ++ left := by
    rw [hrest, ← hw, ← hr, List.append_assoc, List.takeWhile_append_dropWhile]
  have hslash : Free isGap (l.trail.takeWhile (!isGap ·)) := by
    intro c hc
    simpa using List.mem_takeWhile_imp hc
  have hword : Piece isGap word := by
    rw [← hw]
    exact ⟨by simp [l.word_piece.1], free_append.mpr ⟨l.word_piece.2, hslash⟩⟩
  have hleft : Run isBreak left := by
    rw [← hr]
    exact fun c hc => l.trail_run c ((List.dropWhile_sublist _).subset hc)
  have hopens : Opens isGap left := by
    intro c hc
    have h := List.head?_dropWhile_not (!isGap ·) l.trail
    rw [hr, Option.mem_def.mp hc] at h
    simpa using h
  have hquote : unquote word ≠ [] := by
    by_cases hnil : l.trail.takeWhile (!isGap ·) = []
    · rwa [← hw, hnil, List.append_nil]
    · rw [unquote_eq_self_of_last (hword.2.mono fun _ => isGap_of_isBlank) ?_]
      · exact hword.1
      · intro c hc
        rw [← hw, List.getLast?_append_of_ne_nil _ hnil] at hc
        have hmem := List.mem_of_getLast? hc
        have hbreak := l.trail_run c ((List.takeWhile_sublist _).subset hmem)
        have hc' : c = '/' := by simpa [isBreak, hslash c hmem] using hbreak
        rw [hc']
        rfl
  rw [read_eq_outcome, text, hsplit, head_run_append l.lead_run, head_append hword hopens, items,
    fragments_of_run hleft, htokens]
  simp [outcome, hquote, hq]

/-- The outcome of reading a text depends on its type word and its items alone. -/
theorem read_text (l : Layout) (options : Options) :
    Dialect.read options l.text = outcome options l.word l.tokens := by
  have hstyle : Slashed.opening <+: l.word → ',' ∈ l.lead := fun h => absurd h l.word_style
  rcases l.rest_opens with hopens | ⟨hp, hq⟩
  · have hrest : Opens isGap l.rest := hopens
    rw [text, read_append options l.lead_run l.word_piece hstyle hrest, items_rest]
  · rw [text, read_eq_spaced options l.lead_run l.word_piece hstyle l.rest_breaks]
    exact l.read_of_no_pieces options hp hq

/-- The text with one blank between the type word and each of the items. -/
def plain (word : Text) (tokens : List Text) (hword : Piece isGap word)
    (hstyle : ¬ Slashed.opening <+: word) (htokens : ∀ t ∈ tokens, Piece isBreak t) : Layout where
  lead := []
  word := word
  pieces := tokens.map fun t => ([' '], t)
  trail := []
  lead_run := run_nil
  word_piece := hword
  word_style := hstyle
  pieces_run := by
    intro p hp
    obtain ⟨t, -, rfl⟩ := List.mem_map.mp hp
    exact ⟨by simp, by simp [isBreak, isGap, isBlank]⟩
  pieces_piece := by
    intro p hp
    obtain ⟨t, ht, rfl⟩ := List.mem_map.mp hp
    exact htokens t ht
  trail_run := run_nil
  rest_opens := by
    left
    cases tokens with
    | nil => simp
    | cons t tokens => simp [isGap, isBlank]

end Layout

/-- Items with a blank before each of them are found again. -/
lemma items_of_blanks {tokens : List Text} (h : ∀ t ∈ tokens, Piece isBreak t) :
    items (tokens.flatMap ([' '] ++ ·)) = tokens := by
  have hspread : fragments isBreak ((tokens.map fun t => ([' '], t)).flatMap (fun p => p.1 ++ p.2) ++ []) =
      (tokens.map fun t => ([' '], t)).map Prod.snd := by
    apply fragments_spread _ _ ?_ ?_ run_nil
    · intro p hp
      obtain ⟨t, -, rfl⟩ := List.mem_map.mp hp
      exact ⟨by simp, by simp [isBreak, isGap, isBlank]⟩
    · intro p hp
      obtain ⟨t, ht, rfl⟩ := List.mem_map.mp hp
      exact h t ht
  simpa [items, List.flatMap_map, Function.comp_def] using hspread

/-- A word behind gaps, and its items with blanks between them. -/
theorem read_lead_join (options : Options) {lead word : Text} {tokens : List Text}
    (hlead : Run isGap lead) (hword : Piece isGap word)
    (hstyle : Slashed.opening <+: word → ',' ∈ lead) (htokens : ∀ t ∈ tokens, Piece isBreak t) :
    Dialect.read options (lead ++ join [' '] (word :: tokens)) = outcome options word tokens := by
  have hopens : Opens isGap (tokens.flatMap ([' '] ++ ·)) := by
    cases tokens with
    | nil => simp
    | cons t tokens => simp [isGap, isBlank]
  rw [join_cons, read_append options hlead hword hstyle hopens, items_of_blanks htokens]

/-- The plain text of a word and its items is read as that word and those items. -/
theorem read_join (options : Options) {word : Text} {tokens : List Text} (hword : Piece isGap word)
    (hstyle : ¬ Slashed.opening <+: word) (htokens : ∀ t ∈ tokens, Piece isBreak t) :
    Dialect.read options (join [' '] (word :: tokens)) = outcome options word tokens :=
  read_lead_join options run_nil hword (fun h => absurd h hstyle) htokens

/-- The same item, or the item with a semicolon put behind it. -/
def Closes (token closed : Text) : Prop :=
  closed = token ∨ (endsIn ';' token = false ∧ closed = token ++ [';'])

lemma readItem_of_closes (options : Options) {token closed : Text} (h : Closes token closed) :
    readItem options closed = readItem options token := by
  rcases h with rfl | ⟨hend, rfl⟩
  · rfl
  · simp only [readItem, dropMark_concat, dropMark_of_not_endsIn hend]

lemma outcome_ok {options : Options} {word : Text} {tokens : List Text} {r : Record}
    (h : outcome options word tokens = .ok r) :
    List.Forall₂ (fun token field => readItem options token = .ok field) tokens r.fields := by
  simp only [outcome] at h
  split_ifs at h
  obtain ⟨fields, hfields, rfl⟩ := exists_of_map_ok h
  exact readItems_eq_ok_iff.mp hfields

lemma outcome_of_closes {options : Options} {word : Text} {tokens closed : List Text} {r : Record}
    (hclosed : List.Forall₂ Closes tokens closed) (h : outcome options word tokens = .ok r) :
    outcome options word closed = .ok r := by
  have hfields := outcome_ok h
  simp only [outcome] at h ⊢
  split_ifs at h with hname hnone
  obtain ⟨fields, -, rfl⟩ := exists_of_map_ok h
  have hclosedFields :
      List.Forall₂ (fun token field => readItem options token = .ok field) closed fields := by
    clear h hnone
    induction hclosed generalizing fields with
    | nil => simpa using hfields
    | cons hc _ ih =>
      cases hfields with
      | cons hf hrest => exact .cons ((readItem_of_closes options hc).trans hf) (ih _ hrest)
  have hsome : closed.isEmpty = false := by
    cases hclosed with
    | nil => simp at hnone
    | cons _ _ => rfl
  simp [hname, hsome, readItems_eq_ok_iff.mpr hclosedFields, Except.map]

/-- Separators carry no meaning and no item is lost, merged or moved: the outcome, record or
problem, is that of the plain text. There is one field for each item, it depends on that item and on
what is optional by default, and semicolons behind items change nothing. -/
theorem read_layout_eq_plain (options : Options) (l : Layout) :
    Dialect.read options l.text = Dialect.read options (join [' '] (l.word :: l.tokens)) ∧
      ∀ r, Dialect.read options l.text = .ok r →
        r.fields.length = l.tokens.length ∧
        List.Forall₂ (fun token field =>
          readItem { optionalByDefault := options.optionalByDefault } token = .ok field)
          l.tokens r.fields ∧
        ∀ closed : Layout, closed.word = l.word → List.Forall₂ Closes l.tokens closed.tokens →
          Dialect.read options closed.text = .ok r := by
  have htokens : ∀ t ∈ l.tokens, Piece isBreak t := by
    intro t ht
    obtain ⟨p, hp, rfl⟩ := List.mem_map.mp ht
    exact l.pieces_piece p hp
  refine ⟨?_, ?_⟩
  · rw [l.read_text, read_join options l.word_piece l.word_style htokens]
  · intro r hr
    rw [l.read_text] at hr
    have hfields := outcome_ok hr
    refine ⟨hfields.length_eq.symm, hfields, ?_⟩
    intro closed hword hclosed
    rw [closed.read_text, hword]
    exact outcome_of_closes hclosed hr

/-- Commas, tabs, line ends and slashes in every place that allows them. -/
def mixedLayout : Layout where
  lead := ",\r\n ".toList
  word := "User".toList
  pieces := [("\t, /".toList, "email:s".toList), ("\r\n".toList, "isAdmin?:b".toList),
    ("//".toList, "tags".toList)]
  trail := " /,".toList
  lead_run := by decide
  word_piece := by decide
  word_style := by decide
  pieces_run := by decide
  pieces_piece := by decide
  trail_run := by decide
  rest_opens := by decide

/-- The same items in plain text, two of them with a semicolon. -/
def closedLayout : Layout :=
  .plain "User".toList ["email:s;".toList, "isAdmin?:b".toList, "tags;".toList]
    (by decide) (by decide) (by decide)

def mixedRecord : Record where
  name := "User".toList
  fields := [⟨"email".toList, "string".toList, true⟩, ⟨"isAdmin".toList, "boolean".toList, false⟩,
    ⟨"tags".toList, "string[]".toList, true⟩]

theorem read_mixedLayout :
    Dialect.read {} mixedLayout.text = .ok mixedRecord ∧
      List.Forall₂ Closes mixedLayout.tokens closedLayout.tokens ∧
      Dialect.read {} closedLayout.text = .ok mixedRecord ∧
      Dialect.read {} "User email:s isAdmin?:b tags".toList = .ok mixedRecord := by
  have hread : Dialect.read {} mixedLayout.text = .ok mixedRecord := by decide +kernel
  have hcloses : List.Forall₂ Closes mixedLayout.tokens closedLayout.tokens :=
    .cons (.inr (by decide)) (.cons (.inl rfl) (.cons (.inr (by decide)) .nil))
  obtain ⟨hplain, hfields⟩ := read_layout_eq_plain {} mixedLayout
  exact ⟨hread, hcloses, (hfields mixedRecord hread).2.2 closedLayout rfl hcloses,
    hplain.symm.trans hread⟩

end Shorthand.Dialect.Spaced
