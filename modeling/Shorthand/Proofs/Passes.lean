import Shorthand.Proofs.Separator

/-! The passes in which a record text is read, one after another. A spaced text is normalized: line ends,
commas and runs of blank space become blanks, one each. It is parted at the first blank, and the rest is
split at blanks and slashes. Then each item is read with its place in hand, so that what is wrong with a
name is told where it is found. Main statements: the passes find the word and the items that `head` and
`items` find in one go, and items that know their places are read as `readItems` reads them. -/
namespace Shorthand

namespace Text
variable {cut fine : Char → Bool} {mark : Char} {p s t : Text}

section Runs

/-- Write a mark for each run of cuts; `within` says that a run has begun. -/
def squeeze (cut : Char → Bool) (mark : Char) : (within : Bool) → Text → Text
  | _, [] => []
  | within, c :: s =>
    if cut c then (if within then [] else [mark]) ++ squeeze cut mark true s
    else c :: squeeze cut mark false s

lemma fragments_cons_of_cut {c : Char} (hc : cut c = true) (s : Text) :
    fragments cut (c :: s) = fragments cut s :=
  fragments_append_cons hc [] s

/-- The pieces are left as they are. -/
lemma fragments_squeeze (hmark : cut mark = true) (s : Text) :
    fragments cut (squeeze cut mark true s) = fragments cut s ∧
      ∀ p, fragments cut (p ++ squeeze cut mark false s) = fragments cut (p ++ s) := by
  -- Outside a run the piece that has begun comes along as `p`, for the text may go on with it.
  induction s with
  | nil => exact ⟨rfl, fun p => rfl⟩
  | cons c s ih =>
    cases hc : cut c with
    | true =>
      simp only [squeeze, hc, if_true, Bool.false_eq_true, if_false]
      refine ⟨ih.1.trans (fragments_cons_of_cut hc s).symm, fun p => ?_⟩
      rw [List.singleton_append, fragments_append_cons hmark, ih.1, fragments_append_cons hc]
    | false =>
      simp only [squeeze, hc, Bool.false_eq_true, if_false]
      refine ⟨ih.2 [c], fun p => ?_⟩
      have hp := ih.2 (p ++ [c])
      rwa [List.append_assoc, List.append_assoc] at hp

/-- Behind a run comes no further cut. -/
lemma trimLeft_squeeze (s : Text) : trimLeft (squeeze isBlank ' ' true s) = squeeze isBlank ' ' true s := by
  induction s with
  | nil => rfl
  | cons c s ih =>
    cases hc : isBlank c with
    | true => simpa [squeeze, hc] using ih
    | false =>
      simp only [squeeze, hc, Bool.false_eq_true, if_false]
      exact trimLeft_of_head (by simpa using hc)

lemma trimRight_of_free (h : Free isBlank s) : trimRight s = s :=
  trimRight_of_last fun c hc => h c (List.mem_of_getLast? hc)

/-- A piece, a blank and what else there is. -/
lemma trimRight_piece_append (hp : Piece isBlank p) {ps : List Text} (hps : ∀ q ∈ ps, Piece isBlank q)
    (ht : trimRight t = join [' '] ps) : trimRight (p ++ ' ' :: t) = join [' '] (p :: ps) := by
  cases ps with
  | nil =>
    obtain ⟨trail, htrail, hs⟩ := exists_trimRight t
    have hrun : Run isBlank (' ' :: t) := by
      rw [hs, ht]
      exact run_cons.mpr ⟨rfl, htrail⟩
    rw [trimRight_append_run hrun, trimRight_of_free hp.2]
    simp [join]
  | cons q ps =>
    have hne : trimRight t ≠ [] := by
      rw [ht, join_cons]
      simp [(hps q List.mem_cons_self).1]
    have happend := trimRight_append (s := p ++ [' ']) hne
    rw [ht, List.append_assoc, List.singleton_append] at happend
    rw [happend, join_cons, join_cons, List.flatMap_cons]
    simp

/-- Once the runs of blank space are squeezed and the ends are trimmed, single blanks stand between the
pieces. -/
lemma trimRight_squeeze (s : Text) :
    trimRight (squeeze isBlank ' ' true s) = join [' '] (fragments isBlank s) ∧
      ∀ p, Piece isBlank p →
        trimRight (p ++ squeeze isBlank ' ' false s) = join [' '] (fragments isBlank (p ++ s)) := by
  induction s with
  | nil =>
    refine ⟨rfl, fun p hp => ?_⟩
    simp [squeeze, fragments_of_piece hp, trimRight_of_free hp.2, join]
  | cons c s ih =>
    cases hc : isBlank c with
    | true =>
      simp only [squeeze, hc, if_true, Bool.false_eq_true, if_false]
      refine ⟨ih.1.trans (congrArg _ (fragments_cons_of_cut hc s).symm), fun p hp => ?_⟩
      rw [fragments_append_cons hc, fragments_of_piece hp]
      exact trimRight_piece_append hp (fun q hq => (mem_fragments hq).1) ih.1
    | false =>
      simp only [squeeze, hc, Bool.false_eq_true, if_false]
      refine ⟨ih.2 [c] ⟨by simp, by simpa [Free] using hc⟩, fun p hp => ?_⟩
      have hpiece : Piece isBlank (p ++ [c]) :=
        ⟨by simp, free_append.mpr ⟨hp.2, by simpa [Free] using hc⟩⟩
      have hmore := ih.2 (p ++ [c]) hpiece
      rwa [List.append_assoc, List.append_assoc] at hmore

theorem trim_squeeze (s : Text) :
    trim (squeeze isBlank ' ' false s) = join [' '] (fragments isBlank s) := by
  cases s with
  | nil => rfl
  | cons c s =>
    cases hc : isBlank c with
    | true =>
      have hleft : trimLeft (squeeze isBlank ' ' false (c :: s)) =
          trimLeft (squeeze isBlank ' ' true s) := by
        simp [squeeze, hc, trimLeft, (by decide : isBlank ' ' = true)]
      rw [trim, hleft, trimLeft_squeeze, fragments_cons_of_cut hc]
      exact (trimRight_squeeze s).1
    | false =>
      have hleft : trimLeft (squeeze isBlank ' ' false (c :: s)) =
          [c] ++ squeeze isBlank ' ' false s := by
        simp [squeeze, hc, trimLeft]
      rw [trim, hleft]
      exact (trimRight_squeeze s).2 [c] ⟨by simp, by simpa [Free] using hc⟩

end Runs

section Cuts

/-- Cuts that agree on a text make the same pieces of it. -/
lemma fragments_congr (h : ∀ c ∈ s, cut c = fine c) : fragments cut s = fragments fine s := by
  have hsplit : s.splitOnP cut = s.splitOnP fine := by
    induction s with
    | nil => rfl
    | cons c s ih =>
      rw [List.forall_mem_cons] at h
      rw [List.splitOnP_cons_eq_if_modifyHead, List.splitOnP_cons_eq_if_modifyHead, h.1, ih h.2]
  rw [fragments, fragments, hsplit]

/-- More cuts make pieces of the pieces. -/
lemma fragments_finer (h : ∀ c, cut c = true → fine c = true) (hp : Free cut p) (s : Text) :
    fragments fine (p ++ s) = (fragments cut (p ++ s)).flatMap (fragments fine) := by
  have hwhole {p : Text} (hp : Free cut p) :
      fragments fine p = (fragments cut p).flatMap (fragments fine) := by
    by_cases hnil : p = []
    · rw [hnil]
      rfl
    · simp [fragments_of_piece ⟨hnil, hp⟩]
  induction s generalizing p with
  | nil =>
    rw [List.append_nil]
    exact hwhole hp
  | cons c s ih =>
    cases hc : cut c with
    | true =>
      rw [fragments_append_cons (h c hc), fragments_append_cons hc, List.flatMap_append, hwhole hp]
      exact congrArg _ (ih free_nil)
    | false =>
      have hmore := ih (free_append.mpr ⟨hp, by simpa [Free] using hc⟩ : Free cut (p ++ [c]))
      rwa [List.append_assoc] at hmore

end Cuts
end Text

namespace Dialect
open Text

namespace Spaced
variable {options : Options} {s word rest : Text}

/-- A carriage return with a line feed becomes a line feed; by itself it stays. -/
def mergeReturns : Text → Text
  | [] => []
  | '\r' :: '\n' :: s => '\n' :: mergeReturns s
  | c :: s => c :: mergeReturns s

/-- A comma and a line feed become blanks. -/
def blankOut (c : Char) : Char := if c == ',' || c == '\n' then ' ' else c

/-- A text with single blanks where there were line ends, commas and blank space. -/
def normalize (s : Text) : Text := trim (squeeze isBlank ' ' false ((mergeReturns s).map blankOut))

/-- What stands in front of the first blank, and what stands behind it. -/
def partAtBlank (s : Text) : Text × Text :=
  (s.takeWhile (· != ' '), (s.dropWhile (· != ' ')).tail)

/-- Splits the items of a normalized text. -/
def isSplit (c : Char) : Bool := isBlank c || c == '/'

/-- The items of a normalized text: the parts between runs of blanks and slashes that hold something. -/
def tokens (s : Text) : List Text :=
  (((squeeze isSplit '/' false s).splitOnP isSplit).map trim).filter (!·.isEmpty)

section Normalizing

lemma fragments_mergeReturns (p s : Text) :
    fragments isGap (p ++ mergeReturns s) = fragments isGap (p ++ s) := by
  fun_induction mergeReturns s generalizing p with
  | case1 => rfl
  | case2 s ih =>
    rw [fragments_append_cons (by decide), fragments_append_cons (by decide),
      fragments_cons_of_cut (by decide)]
    exact congrArg _ (ih [])
  | case3 c s _ ih =>
    have hmore := ih (p ++ [c])
    rwa [List.append_assoc, List.append_assoc] at hmore

lemma isBlank_blankOut (c : Char) : isBlank (blankOut c) = isGap c := by
  unfold blankOut isGap
  split_ifs with h
  · rcases Bool.or_eq_true_iff.mp h with hcomma | hline
    · rw [hcomma, Bool.or_true]
      rfl
    · rw [eq_of_beq hline]
      rfl
  · rw [Bool.not_eq_true, Bool.or_eq_false_iff] at h
    rw [h.1, Bool.or_false]

lemma blankOut_of_not_gap {c : Char} (h : isGap c = false) : blankOut c = c := by
  have hcomma : c ≠ ',' := fun hc => absurd h (by rw [hc]; decide)
  have hline : c ≠ '\n' := fun hc => absurd h (by rw [hc]; decide)
  simp [blankOut, hcomma, hline]

lemma fragments_blankOut (s : Text) :
    fragments isBlank (s.map blankOut) = fragments isGap s := by
  have hsplit : (s.map blankOut).splitOnP isBlank = s.splitOnP isGap := by
    induction s with
    | nil => rfl
    | cons c s ih =>
      rw [List.map_cons, List.splitOnP_cons_eq_if_modifyHead, List.splitOnP_cons_eq_if_modifyHead,
        isBlank_blankOut, ih]
      cases hc : isGap c with
      | true => rfl
      | false => rw [blankOut_of_not_gap hc]
  rw [fragments, fragments, hsplit]

/-- A normalized text is its pieces with single blanks between them. -/
theorem normalize_eq (s : Text) : normalize s = join [' '] (fragments isGap s) := by
  have hmerge := fragments_mergeReturns [] s
  rw [List.nil_append, List.nil_append] at hmerge
  rw [normalize, trim_squeeze, fragments_blankOut, hmerge]

lemma partAtBlank_join (hword : Piece isGap word) (ps : List Text) :
    partAtBlank (join [' '] (word :: ps)) = (word, join [' '] ps) := by
  have hletters : ∀ c ∈ word, (c != ' ') = true := fun c hc => by
    rw [bne_iff_ne]
    exact (ne_of_class (by decide : isGap ' ' = true) (hword.2 c hc)).symm
  rw [partAtBlank, join_cons, List.takeWhile_append_of_pos hletters,
    List.dropWhile_append_of_pos hletters]
  cases ps with
  | nil => simp [join]
  | cons q ps =>
    rw [join_cons, List.flatMap_cons]
    simp

lemma tokens_eq (s : Text) : tokens s = fragments isSplit s := by
  have hslash : isSplit '/' = true := by decide
  have hsqueeze := (fragments_squeeze hslash s).2 []
  rw [List.nil_append, List.nil_append] at hsqueeze
  have htrim : ((squeeze isSplit '/' false s).splitOnP isSplit).map trim =
      (squeeze isSplit '/' false s).splitOnP isSplit := by
    refine (List.map_congr_left fun p hp => trim_of_free fun c hc => ?_).trans (List.map_id' _)
    exact (Bool.or_eq_false_iff.mp ((splitOnP_mem isSplit _ p hp).1 c hc)).1
  rw [tokens, htrim, ← hsqueeze, fragments]

/-- No comma is left in a normalized text, so that its items are split where those of the text are. -/
lemma tokens_normalized (rest : Text) :
    tokens (join [' '] (fragments isGap rest)) = items rest := by
  have hcommas : ∀ c ∈ join [' '] (fragments isGap rest), isSplit c = isBreak c := by
    have hfree : Free (· == ',') (join [' '] (fragments isGap rest)) :=
      join_free (by decide) fun p hp c hc =>
        (Bool.or_eq_false_iff.mp ((mem_fragments hp).1.2 c hc)).2
    intro c hc
    have hcomma : (c == ',') = false := hfree c hc
    simp only [isSplit, isBreak, isGap, hcomma, Bool.or_false]
  have hpieces : fragments isGap (join [' '] (fragments isGap rest)) = fragments isGap rest :=
    fragments_join (by decide) fun p hp => (mem_fragments hp).1
  calc tokens (join [' '] (fragments isGap rest))
      = fragments isBreak (join [' '] (fragments isGap rest)) := by
        rw [tokens_eq, fragments_congr hcommas]
    _ = (fragments isGap rest).flatMap (fragments isBreak) := by
        rw [← List.nil_append (join _ _), fragments_finer (fun c => isBreak_of_isGap) free_nil,
          List.nil_append, hpieces]
    _ = items rest := (fragments_finer (fun c => isBreak_of_isGap) free_nil rest).symm

/-- The passes find the word in front and the items behind it. -/
theorem passes_eq (s : Text) :
    (partAtBlank (normalize s)).1 = (head s).1 ∧
      tokens (partAtBlank (normalize s)).2 = items (head s).2 := by
  rcases exists_word s with hs | ⟨lead, word, rest, hlead, hword, hrest, rfl⟩
  · rw [normalize_eq, fragments_of_run hs, head_of_run hs]
    exact ⟨rfl, rfl⟩
  · rw [normalize_eq, fragments_run_append hlead, fragments_piece_append hword hrest,
      partAtBlank_join hword, head_run_append hlead, head_append hword hrest]
    exact ⟨rfl, tokens_normalized rest⟩

end Normalizing
end Spaced

section Places
variable {read : Text → Except Fault Field} {readAt : Nat → Text → Except Problem Field}

/-- Items are read in order, each with its place in hand. -/
def readEach (readAt : Nat → Text → Except Problem Field) (items : List Text) :
    Except Problem (List Field) :=
  items.zipIdx.mapM fun p => readAt p.2 p.1

/-- What is wrong with an item, at its place. -/
def placed (index : Nat) (item : Text) (fault : Fault) : Problem := ⟨fault, some item, some index⟩

/-- Reading with the place in hand reports what is reported when the place is put to it afterwards. -/
def AgreesAt (read : Text → Except Fault Field) (readAt : Nat → Text → Except Problem Field)
    (item : Text) : Prop :=
  ∀ index, readAt index item = (read item).mapError (placed index item)

lemma readItems_eq_mapM {items : List Text} (h : ∀ item ∈ items, AgreesAt read readAt item)
    (index : Nat) :
    readItems read index items = (items.zipIdx index).mapM fun p => readAt p.2 p.1 := by
  induction items generalizing index with
  | nil => rfl
  | cons item items ih =>
    rw [List.forall_mem_cons] at h
    rw [readItems, List.zipIdx_cons, List.mapM_cons, h.1 index, ih h.2]
    cases read item with
    | error fault => rfl
    | ok field =>
      simp only [Except.mapError]
      cases (items.zipIdx (index + 1)).mapM fun p => readAt p.2 p.1 <;> rfl

theorem readEach_eq {items : List Text} (h : ∀ item ∈ items, AgreesAt read readAt item) :
    readEach readAt items = readItems read 0 items :=
  (readItems_eq_mapM h 0).symm

/-- A name with its mark, read where its item stands. -/
lemma map_markedNameAt (index : Nat) (item raw : Text) (f : MarkedName → Field) :
    (markedNameAt (some item) (some index) raw).map f =
      ((markedName raw).map f).mapError (placed index item) := by
  unfold markedNameAt
  cases markedName raw <;> rfl

end Places

/-- An item of the spaced dialect, read with its place in hand. -/
def Spaced.readItemAt (options : Options) (index : Nat) (item : Text) : Except Problem Field :=
  let cleaned := trim (dropMark ';' item)
  if endsIn ':' cleaned then .error ⟨.danglingColon, some item, some index⟩
  else if (split cleaned).1.isEmpty then .error ⟨.emptyItem, some item, some index⟩
  else (markedNameAt (some item) (some index) (split cleaned).1).map fun name =>
    field options name (split cleaned).2

/-- A chunk of the slashed dialect, read with its place in hand. -/
def Slashed.readChunkAt (options : Options) (index : Nat) (chunk : Text) : Except Problem Field :=
  match fragments (· == ':') chunk with
  | first :: type :: later =>
    if (unquote first).isEmpty then .error ⟨.badChunk, some chunk, some index⟩
    else (markedNameAt (some chunk) (some index) (unquote first)).map fun name =>
      field options name type later
  | _ => .error ⟨.badChunk, some chunk, some index⟩

lemma Spaced.readItemAt_agrees (options : Options) {item : Text} (h : Free isBlank item) :
    AgreesAt (readItem options) (readItemAt options) item := by
  intro index
  have htrim : trim (dropMark ';' item) = dropMark ';' item :=
    trim_of_free (h.subset (dropMark_subset ';' item))
  simp only [readItemAt, readItem, htrim, map_markedNameAt]
  split_ifs <;> rfl

lemma Slashed.readChunkAt_agrees (options : Options) (chunk : Text) :
    AgreesAt (readChunk options) (readChunkAt options) chunk := by
  intro index
  unfold readChunkAt readChunk
  rcases fragments (· == ':') chunk with _ | ⟨first, _ | ⟨type, later⟩⟩
  · rfl
  · rfl
  · simp only [map_markedNameAt]
    split_ifs <;> rfl

/-- A spaced text, read pass by pass. -/
def Spaced.readByPasses (options : Options) (text : Text) : Except Problem Record :=
  let (word, rest) := partAtBlank (normalize text)
  let name := unquote word
  if name.isEmpty then .error { fault := .missingName .spaced }
  else if (tokens rest).isEmpty then .error { fault := .missingFields .spaced }
  else (readEach (readItemAt options) (tokens rest)).map fun fields =>
    ⟨Identifier.typeName name, fields⟩

/-- The passes read what is read in one go. -/
theorem Spaced.readByPasses_eq (options : Options) (text : Text) :
    readByPasses options text = read options text := by
  obtain ⟨hword, hitems⟩ := passes_eq text
  have hblank : ∀ item ∈ items (head text).2, Free isBlank item := fun item hitem c hc =>
    (Bool.or_eq_false_iff.mp (Bool.or_eq_false_iff.mp ((mem_fragments hitem).1.2 c hc)).1).1
  have hread := readEach_eq fun item hitem => readItemAt_agrees options (hblank item hitem)
  simp only [readByPasses, Spaced.read, hword, hitems, hread]

/-- Chunks that know their places are read as they are without. -/
theorem Slashed.readEach_chunks (options : Options) (chunks : List Text) :
    readEach (readChunkAt options) chunks = readItems (readChunk options) 0 chunks :=
  readEach_eq fun chunk _ => readChunkAt_agrees options chunk

end Dialect
end Shorthand
