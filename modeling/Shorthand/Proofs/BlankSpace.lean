import Shorthand.Proofs.Items
import Shorthand.Proofs.Optionality

/-! Blank space around the parts of a slashed text. The type word, the names and the types mean the
same with blank space around them; a later segment is taken as it stands, so that `o` with blank
space beside it is no longer the `o` that makes a field optional. -/
namespace Shorthand
open Text

namespace Text
variable {s s' : Text}

/-- The second text is the first one with blank space around it. -/
def Cushioned (s s' : Text) : Prop :=
  ∃ lead trail, Run isBlank lead ∧ Run isBlank trail ∧ s' = lead ++ s ++ trail

lemma trim_append_run {trail : Text} (h : Run isBlank trail) (s : Text) : trim (s ++ trail) = trim s := by
  by_cases hs : Run isBlank s
  · rw [trim_eq_nil_iff.mpr hs, trim_eq_nil_iff]
    exact run_append.mpr ⟨hs, h⟩
  · have hleft : (s.dropWhile isBlank).isEmpty = false := by
      rw [List.isEmpty_eq_false_iff, ne_eq, List.dropWhile_eq_nil_iff]
      exact hs
    rw [trim, trim, trimLeft, List.dropWhile_append, hleft]
    exact trimRight_append_run h _

lemma Cushioned.trim_eq (h : Cushioned s s') : trim s' = trim s := by
  obtain ⟨lead, trail, hlead, htrail, rfl⟩ := h
  rw [trim_append_run htrail, trim, trimLeft, List.dropWhile_append_of_pos hlead]
  rfl

/-- Blank space in front stays when the end is trimmed. -/
lemma Cushioned.trimRight (h : Cushioned s s') (hs : ¬ Run isBlank s) :
    Cushioned (trimRight s) (trimRight s') := by
  obtain ⟨lead, trail, hlead, htrail, rfl⟩ := h
  have hne : Text.trimRight s ≠ [] := by
    intro hnil
    obtain ⟨rest, hrest, heq⟩ := exists_trimRight s
    rw [hnil, List.nil_append] at heq
    exact hs (heq ▸ hrest)
  refine ⟨lead, [], hlead, run_nil, ?_⟩
  rw [trimRight_append_run htrail, trimRight_append hne, List.append_nil]

end Text

namespace Dialect.Slashed

/-- Separates parts of a slashed text. -/
def isCut (c : Char) : Bool := c == '-' || c == '/' || c == ':'

/-- What can stand between two separators of a slashed text, other than blank space alone. -/
structure IsSegment (s : Text) : Prop where
  solid : ¬ Run isBlank s
  free : Free isCut s

instance (s : Text) : Decidable (IsSegment s) :=
  decidable_of_iff (¬ Run isBlank s ∧ Free isCut s) ⟨fun h => ⟨h.1, h.2⟩, fun h => ⟨h.1, h.2⟩⟩

/-- The parts of a slashed text: the type word, the chunks with their segments, and what stands from a
second hyphen on. -/
structure Parts where
  word : Text
  chunks : List (List Text)
  unread : Text
  word_free : Free (· == '-') word
  segments : ∀ chunk ∈ chunks, ∀ s ∈ chunk, IsSegment s
  unread_opens : Opens (· == '-') unread

namespace Parts

/-- The chunks with slashes between them, and colons between their segments. -/
def body (chunks : List (List Text)) : Text := join ['/'] (chunks.map (join [':']))

def text (p : Parts) : Text := opening ++ p.word ++ '-' :: (body p.chunks ++ p.unread)

/-- The chunks as they are read: blank space at the end of the whole text is not part of the last
segment. -/
def heard (p : Parts) : List (List Text) :=
  if p.unread = [] then p.chunks.modifyLast (·.modifyLast trimRight) else p.chunks

/-- The chunks as texts. A chunk without segments is none. -/
def items (chunks : List (List Text)) : List Text :=
  (chunks.map (join [':'])).filter (! ·.isEmpty)

/-- The same parts with blank space around the type word and the segments. -/
structure Cushions (p p' : Parts) : Prop where
  word : Cushioned p.word p'.word
  chunks : List.Forall₂ (List.Forall₂ Cushioned) p.chunks p'.chunks
  unread : p'.unread = [] ↔ p.unread = []

end Parts

/-- Nothing but a later segment `o` makes the field of a chunk optional. -/
def OptionalBySegment (options : Options) (chunk : List Text) : Prop :=
  options.optionalByDefault = false ∧ (∀ name ∈ chunk.head?, markOf (trim (unquote name)) = none) ∧
    ['o'] ∈ chunk.drop 2

section Segments
variable {s s' : Text}

lemma IsSegment.cushioned (h : IsSegment s) (hs : Cushioned s s') : IsSegment s' := by
  obtain ⟨lead, trail, hlead, htrail, rfl⟩ := hs
  have hblank (c : Char) (hc : isBlank c = true) : isCut c = false := by
    have hne : ∀ d : Char, isBlank d = false → c ≠ d := fun d => ne_of_class hc
    simp [isCut, hne '-' rfl, hne '/' rfl, hne ':' rfl]
  refine ⟨?_, ?_⟩
  · intro hrun
    exact h.solid (run_append.mp (run_append.mp hrun).1).2
  · refine free_append.mpr ⟨free_append.mpr ⟨?_, h.free⟩, ?_⟩
    · exact fun c hc => hblank c (hlead c hc)
    · exact fun c hc => hblank c (htrail c hc)

lemma IsSegment.trimRight (h : IsSegment s) : IsSegment (trimRight s) := by
  obtain ⟨trail, htrail, heq⟩ := exists_trimRight s
  refine ⟨fun hrun => h.solid ?_, ?_⟩
  · rw [heq]
    exact run_append.mpr ⟨hrun, htrail⟩
  · have hfree := h.free
    rw [heq] at hfree
    exact (free_append.mp hfree).1

lemma IsSegment.piece (h : IsSegment s) : Piece (· == ':') s := by
  refine ⟨?_, h.free.mono fun c hc => by simp [isCut, hc]⟩
  rintro rfl
  exact h.solid run_nil

/-- With blank space around it a segment is `o` only if it was without. -/
lemma eq_o_of_cushioned (h : IsSegment s) (hs : Cushioned s ['o']) : s = ['o'] := by
  obtain ⟨lead, trail, hlead, htrail, heq⟩ := hs
  have hne : s ≠ [] := h.piece.1
  have hlength := congrArg List.length heq
  have hpos : 0 < s.length := List.length_pos_iff.mpr hne
  simp only [List.length_append, List.length_singleton] at hlength
  have hlead' : lead = [] := List.length_eq_zero_iff.mp (by omega)
  have htrail' : trail = [] := List.length_eq_zero_iff.mp (by omega)
  rw [heq, hlead', htrail', List.nil_append, List.append_nil]

end Segments

section Text
variable {chunks : List (List Text)} {word rest : Text}

lemma forall₂_modifyLast {α β : Type} {R S : α → β → Prop} {f : α → α} {g : β → β} {as : List α}
    {bs : List β} (h : List.Forall₂ R as bs) (hkeep : ∀ a b, R a b → S a b)
    (hlast : ∀ a b, R a b → S (f a) (g b)) :
    List.Forall₂ S (as.modifyLast f) (bs.modifyLast g) := by
  induction h with
  | nil => exact .nil
  | @cons a b as bs hab hrest ih =>
    cases hrest with
    | nil => exact .cons (hlast a b hab) .nil
    | @cons a' b' as bs _ _ =>
      have has := List.modifyLast_append_of_right_ne_nil f [a] (a' :: as) (by simp)
      have hbs := List.modifyLast_append_of_right_ne_nil g [b] (b' :: bs) (by simp)
      rw [List.singleton_append] at has hbs
      rw [has, hbs]
      exact .cons (hkeep a b hab) ih

lemma forall_mem_modifyLast {α : Type} {P : α → Prop} {f : α → α} {as : List α} (h : ∀ a ∈ as, P a)
    (hlast : ∀ a, P a → P (f a)) : ∀ a ∈ as.modifyLast f, P a := by
  obtain rfl | ⟨init, last, rfl⟩ := List.eq_nil_or_concat' as
  · exact h
  · rw [List.forall_mem_append, List.forall_mem_singleton] at h
    rw [List.modifyLast_concat, List.forall_mem_append, List.forall_mem_singleton]
    exact ⟨h.1, hlast last h.2⟩

lemma trimRight_body (chunks : List (List Text)) :
    trimRight (Parts.body chunks) = Parts.body (chunks.modifyLast (·.modifyLast trimRight)) := by
  rw [Parts.body, Parts.body, trimRight_join (by decide)]
  obtain rfl | ⟨init, last, rfl⟩ := List.eq_nil_or_concat' chunks
  · rfl
  · simp only [List.map_append, List.map_singleton, List.modifyLast_concat,
      trimRight_join (show isBlank ':' = false by decide)]

lemma chunk_free {chunk : List Text} (h : ∀ s ∈ chunk, IsSegment s) {c : Char} (hcut : isCut c = true)
    (hc : c ≠ ':') : Free (· == c) (join [':'] chunk) := by
  apply join_free
  · simpa using hc.symm
  · intro s hs
    exact (h s hs).free.mono fun d hd => by rw [eq_of_beq hd, hcut]

lemma halves_body (hword : Free (· == '-') word) (h : ∀ chunk ∈ chunks, ∀ s ∈ chunk, IsSegment s)
    (hrest : Opens (· == '-') rest) :
    halves (opening ++ word ++ '-' :: (Parts.body chunks ++ rest)) =
      (opening ++ word, Parts.body chunks) := by
  have hhead : ∀ c ∈ opening ++ word, (c == '-') = false := free_append.mpr ⟨by decide, hword⟩
  have hbody : ∀ c ∈ Parts.body chunks, (c == '-') = false := by
    apply join_free (by decide)
    intro t ht
    obtain ⟨chunk, hchunk, rfl⟩ := List.mem_map.mp ht
    exact chunk_free (h chunk hchunk) (by decide) (by decide)
  rw [halves, List.splitOnP_append_cons_of_forall_mem hhead '-' rfl]
  cases rest with
  | nil => rw [List.append_nil, List.splitOnP_eq_singleton hbody]
  | cons c rest =>
    have hc : (c == '-') = true := by simpa using hrest
    rw [List.splitOnP_append_cons_of_forall_mem hbody c hc]

namespace Parts
variable (p : Parts)

lemma trim_text : trim p.text = opening ++ p.word ++ '-' :: (body p.heard ++ trimRight p.unread) := by
  have hleft : trimLeft p.text = p.text := by
    apply trimLeft_of_head
    rintro c ⟨⟩
    decide
  rw [trim, hleft, text, trimRight_append_cons (by decide)]
  cases hunread : p.unread with
  | nil =>
    rw [List.append_nil, trimRight_body, heard, if_pos hunread]
    exact congrArg (opening ++ p.word ++ '-' :: ·) (List.append_nil _).symm
  | cons c unread =>
    have hc : isBlank c = false := by
      have hopens := p.unread_opens
      rw [hunread, opens_cons] at hopens
      rw [eq_of_beq hopens]
      decide
    have hend := trimRight_append_cons hc [] unread
    rw [List.nil_append, List.nil_append] at hend
    rw [trimRight_append_cons hc, heard, if_neg (by simp [hunread]), hend]

lemma heard_segments : ∀ chunk ∈ p.heard, ∀ s ∈ chunk, IsSegment s := by
  rw [heard]
  split_ifs
  · refine forall_mem_modifyLast p.segments fun chunk hchunk => ?_
    exact forall_mem_modifyLast hchunk fun s hs => hs.trimRight
  · exact p.segments

lemma unread_trimmed : Opens (· == '-') (trimRight p.unread) := by
  intro c hc
  obtain ⟨trail, -, heq⟩ := exists_trimRight p.unread
  apply p.unread_opens c
  rw [heq]
  exact List.mem_head?_append_of_mem_head? hc

lemma styleOf_text : styleOf (trim p.text) = .slashed := by
  apply styleOf_eq_slashed
  rw [trim_text, List.append_assoc]
  exact List.prefix_append _ _

lemma halves_text : halves (trim p.text) = (opening ++ p.word, body p.heard) := by
  rw [trim_text]
  exact halves_body p.word_free p.heard_segments p.unread_trimmed

lemma typeWord_text : typeWord p.text = unquote p.word := by
  simp only [typeWord, styleOf_text, halves_text, List.drop_left]

lemma itemsOf_text : itemsOf p.text = items p.heard := by
  simp only [itemsOf, styleOf_text, halves_text]
  apply fragments_join_of_free rfl
  intro t ht
  obtain ⟨chunk, hchunk, rfl⟩ := List.mem_map.mp ht
  exact chunk_free (p.heard_segments chunk hchunk) (by decide) (by decide)

/-- Blank space at the end of the text is taken off both with and without the cushions. -/
lemma Cushions.heard {p p' : Parts} (h : p.Cushions p') :
    List.Forall₂ (List.Forall₂ Cushioned) p.heard p'.heard := by
  have hsegments : List.Forall₂ (List.Forall₂ fun s s' => IsSegment s ∧ Cushioned s s')
      p.chunks p'.chunks := by
    refine ((List.forall₂_and_left _ _).mpr ⟨p.segments, h.chunks⟩).imp ?_
    rintro chunk chunk' ⟨hchunk, hcushioned⟩
    exact (List.forall₂_and_left _ _).mpr ⟨hchunk, hcushioned⟩
  by_cases hend : p.unread = []
  · rw [Parts.heard, Parts.heard, if_pos hend, if_pos (h.unread.mpr hend)]
    refine forall₂_modifyLast hsegments (fun _ _ hchunk => hchunk.imp fun _ _ hs => hs.2) ?_
    intro chunk chunk' hchunk
    exact forall₂_modifyLast hchunk (fun _ _ hs => hs.2) fun _ _ hs => hs.2.trimRight hs.1.solid
  · rw [Parts.heard, Parts.heard, if_neg hend, if_neg fun hnil => hend (h.unread.mp hnil)]
    exact h.chunks

end Parts
end Text

section Chunks
variable {options : Options} {chunk chunk' : List Text} {f : Field} {s s' : Text}

lemma unquote_cushioned (h : Cushioned s s') : unquote s' = unquote s := by
  rw [unquote, unquote, h.trim_eq]

lemma resolve_cushioned (h : Cushioned s s') : FieldType.resolve s' = FieldType.resolve s := by
  rw [FieldType.resolve, h.trim_eq, ← FieldType.resolve]

/-- A chunk that is written as segments is read if it has a name and a type. -/
lemma readChunk_eq_ok_iff (h : ∀ s ∈ chunk, IsSegment s) :
    readChunk options (join [':'] chunk) = .ok f ↔ ∃ first type later name,
      chunk = first :: type :: later ∧ unquote first ≠ [] ∧ markedName (unquote first) = .ok name ∧
        f = field options name type later := by
  rw [readChunk, fragments_join rfl fun s hs => (h s hs).piece]
  constructor
  · intro hread
    split at hread
    · next first type later =>
      split_ifs at hread with hempty
      obtain ⟨name, hname, rfl⟩ := exists_of_map_ok hread
      exact ⟨first, type, later, name, rfl, by simpa using hempty, hname, rfl⟩
    · cases hread
  · rintro ⟨first, type, later, name, rfl, hne, hname, rfl⟩
    have hempty : (unquote first).isEmpty = false := by simpa using hne
    simp only [hempty, Bool.false_eq_true, if_false, hname]
    rfl

lemma mark_of_markedName {raw : Text} {name : MarkedName} (h : markedName raw = .ok name) :
    name.required = markOf (trim raw) := by
  simp only [markedName] at h
  split_ifs at h
  rw [← Except.ok.inj h]

/-- Later segments can lose an `o` to blank space, and get none by it. -/
lemma mem_of_mem_cushioned {later later' : List Text} (hlater : ∀ s ∈ later, IsSegment s)
    (h : List.Forall₂ Cushioned later later') (ho : ['o'] ∈ later') : ['o'] ∈ later := by
  induction h with
  | nil => exact ho
  | @cons s s' later later' hs _ ih =>
    rw [List.forall_mem_cons] at hlater
    rcases List.mem_cons.mp ho with rfl | ho
    · rw [eq_o_of_cushioned hlater.1 hs]
      exact List.mem_cons_self
    · exact List.mem_cons_of_mem _ (ih hlater.2 ho)

/-- Fields of one name and one type, where an `o` among the later segments may be lost. -/
lemma field_cushioned (options : Options) (name : MarkedName) {type type' : Text}
    {later later' : List Text} (htype : FieldType.resolve type' = FieldType.resolve type)
    (hlater : ['o'] ∈ later' → ['o'] ∈ later) :
    (field options name type' later').Loosened (field options name type later) ∧
      (field options name type' later' = field options name type later ↔
        (options.optionalByDefault = false ∧ name.required = none ∧ ['o'] ∈ later →
          ['o'] ∈ later')) := by
  have hsame : field options name type' later' = field options name type later ↔
      (field options name type' later').required = (field options name type later).required := by
    simp [field, htype]
  rw [hsame]
  cases hmark : name.required with
  | some mark =>
    refine ⟨⟨rfl, htype.symm, ?_⟩, ?_⟩
    · simp [field, hmark]
    · simp [field, hmark]
  | none =>
    refine ⟨⟨rfl, htype.symm, ?_⟩, ?_⟩
    · simp only [field, hmark, Option.getD_none, Bool.and_eq_true, Bool.not_eq_true',
        List.contains_eq_mem, decide_eq_false_iff_not]
      exact And.imp_left (mt hlater)
    · by_cases ho : ['o'] ∈ later
      · cases hdefault : options.optionalByDefault <;> simp [field, hmark, hdefault, ho]
      · have ho' : ['o'] ∉ later' := mt hlater ho
        simp [field, hmark, ho, ho']

lemma segments_cushioned (hchunk : ∀ s ∈ chunk, IsSegment s)
    (h : List.Forall₂ Cushioned chunk chunk') : ∀ s ∈ chunk', IsSegment s := by
  intro s' hs'
  obtain ⟨s, hs, hcushioned⟩ := exists_item_of_field h s' hs'
  exact (hchunk s hs).cushioned hcushioned

/-- Blank space around the segments of a chunk. -/
lemma readChunk_cushioned (hchunk : ∀ s ∈ chunk, IsSegment s) (h : List.Forall₂ Cushioned chunk chunk')
    (hread : readChunk options (join [':'] chunk) = .ok f) :
    ∃ f', readChunk options (join [':'] chunk') = .ok f' ∧ f'.Loosened f ∧
      (f' = f ↔ (OptionalBySegment options chunk → ['o'] ∈ chunk'.drop 2)) := by
  have hchunk' := segments_cushioned hchunk h
  obtain ⟨first, type, later, name, rfl, hne, hname, rfl⟩ := (readChunk_eq_ok_iff hchunk).mp hread
  obtain ⟨first', rest, hfirst, hrest, rfl⟩ := List.forall₂_cons_left_iff.mp h
  obtain ⟨type', later', htype, hlater, rfl⟩ := List.forall₂_cons_left_iff.mp hrest
  have hread' : readChunk options (join [':'] (first' :: type' :: later')) =
      .ok (field options name type' later') := by
    rw [readChunk_eq_ok_iff hchunk']
    refine ⟨first', type', later', name, rfl, ?_, ?_, rfl⟩
    · rwa [unquote_cushioned hfirst]
    · rwa [unquote_cushioned hfirst]
  have hsegments : ∀ s ∈ later, IsSegment s := fun s hs => hchunk s (by simp [hs])
  obtain ⟨hloosened, hsame⟩ := field_cushioned options name (resolve_cushioned htype)
    (mem_of_mem_cushioned hsegments hlater)
  refine ⟨_, hread', hloosened, ?_⟩
  rw [hsame, OptionalBySegment, mark_of_markedName hname]
  simp

lemma items_nil_cons (chunks : List (List Text)) : Parts.items ([] :: chunks) = Parts.items chunks := rfl

lemma items_cons {chunks : List (List Text)} (hchunk : ∀ s ∈ chunk, IsSegment s) (hne : chunk ≠ []) :
    Parts.items (chunk :: chunks) = join [':'] chunk :: Parts.items chunks := by
  obtain ⟨s, rest, rfl⟩ := List.exists_cons_of_ne_nil hne
  have hs : s ≠ [] := (hchunk s (by simp)).piece.1
  have hjoin : (join [':'] (s :: rest)).isEmpty = false := by simp [join_cons, hs]
  rw [Parts.items, List.map_cons, List.filter_cons, hjoin]
  rfl

/-- Blank space around the segments of all chunks, which are read one after another. -/
lemma readChunks_cushioned {chunks chunks' : List (List Text)} {fields : List Field}
    (hchunks : ∀ chunk ∈ chunks, ∀ s ∈ chunk, IsSegment s)
    (h : List.Forall₂ (List.Forall₂ Cushioned) chunks chunks')
    (hread : List.Forall₂ (fun item field => readChunk options item = .ok field)
      (Parts.items chunks) fields) :
    ∃ fields', List.Forall₂ (fun item field => readChunk options item = .ok field)
        (Parts.items chunks') fields' ∧
      List.Forall₂ Field.Loosened fields' fields ∧
      (fields' = fields ↔ List.Forall₂
        (fun chunk chunk' => OptionalBySegment options chunk → ['o'] ∈ chunk'.drop 2)
        chunks chunks') := by
  induction h generalizing fields with
  | nil => exact ⟨fields, hread, by cases hread; exact .nil, by simp⟩
  | @cons chunk chunk' chunks chunks' hcushioned _ ih =>
    rw [List.forall_mem_cons] at hchunks
    by_cases hne : chunk = []
    · obtain rfl := hne
      obtain rfl := List.forall₂_nil_left_iff.mp hcushioned
      have hnone : ¬ OptionalBySegment options [] := fun ho => by simpa using ho.2.2
      rw [items_nil_cons] at hread ⊢
      simpa [hnone] using ih hchunks.2 hread
    · have hne' : chunk' ≠ [] := by
        rintro rfl
        exact hne (List.forall₂_nil_right_iff.mp hcushioned)
      rw [items_cons hchunks.1 hne] at hread
      rw [items_cons (segments_cushioned hchunks.1 hcushioned) hne']
      obtain ⟨f, rest, hf, hrest, rfl⟩ := List.forall₂_cons_left_iff.mp hread
      obtain ⟨f', hf', hloosened, hsame⟩ := readChunk_cushioned hchunks.1 hcushioned hf
      obtain ⟨rest', hrest', hloose, hsames⟩ := ih hchunks.2 hrest
      refine ⟨f' :: rest', .cons hf' hrest', .cons hloosened hloose, ?_⟩
      rw [List.cons.injEq, List.forall₂_cons, hsame, hsames]

end Chunks

end Dialect.Slashed

namespace Dialect
open Slashed

/-- Blank space around the type word, the names, the types and the later segments of a slashed text
that is read. The text with the blank space is read too, as the same record but that optional fields
can have become required. It is the very same record if and only if each field that is optional by a
segment `o` alone still has an `o` without blank space beside it. -/
theorem blank_space_hides_only_optional_segment {options : Options} {p p' : Parts} {r : Record}
    (hcushions : p.Cushions p') (hread : read options p.text = .ok r) :
    ∃ r', read options p'.text = .ok r' ∧ r'.Loosened r ∧
      (r' = r ↔ List.Forall₂
        (fun chunk chunk' => OptionalBySegment options chunk → ['o'] ∈ chunk'.drop 2)
        p.heard p'.heard) := by
  obtain ⟨name, fields⟩ := r
  obtain ⟨hword, hitems, hname, hfields⟩ := read_eq_ok_iff.mp hread
  rw [p.styleOf_text, p.itemsOf_text] at hfields
  obtain ⟨fields', hfields', hloosened, hsame⟩ :=
    readChunks_cushioned p.heard_segments hcushions.heard hfields
  have hword' : typeWord p'.text = typeWord p.text := by
    rw [p.typeWord_text, p'.typeWord_text, unquote_cushioned hcushions.word]
  have hsome : itemsOf p'.text ≠ [] := by
    rw [p'.itemsOf_text]
    intro hnil
    rw [hnil, List.forall₂_nil_left_iff] at hfields'
    rw [hfields', List.forall₂_nil_left_iff] at hloosened
    rw [hloosened, List.forall₂_nil_right_iff] at hfields
    exact hitems (p.itemsOf_text.trans hfields)
  refine ⟨⟨name, fields'⟩, ?_, ⟨rfl, hloosened⟩, ?_⟩
  · rw [read_eq_ok_iff, hword', p'.styleOf_text]
    refine ⟨hword, hsome, hname, ?_⟩
    rw [p'.itemsOf_text]
    exact hfields'
  · rw [← hsame, Record.mk.injEq]
    exact and_iff_right rfl

/-- Parts without blank space. -/
def tightSample : Parts where
  word := "'user'".toList
  chunks := [["id!".toList, "n".toList, "o".toList],
    ["\"name\"".toList, "s".toList, "x".toList, "o".toList], ["tags".toList, "s[]".toList, "o".toList]]
  unread := []
  word_free := by decide
  segments := by decide
  unread_opens := by decide

/-- The same parts with blank space beside many of them. -/
def wideSample : Parts where
  word := " 'user'\t".toList
  chunks := [[" id!".toList, "\nn ".toList, " o ".toList],
    [" \"name\" ".toList, "s ".toList, "\tx".toList, "o".toList],
    ["tags ".toList, " s[]".toList, "o \n".toList]]
  unread := []
  word_free := by decide
  segments := by decide
  unread_opens := by decide

/-- An exclamation mark makes up for the first `o`, the second has no blank space beside it, and that
behind the last is at the end of the text. -/
theorem blank_space_in_sample_is_insignificant :
    wideSample.text =
        "type: 'user'\t- id!:\nn : o / \"name\" :s :\tx:o/tags : s[]:o \n".toList ∧
      read {} wideSample.text = read {} tightSample.text ∧
      ∃ r, read {} tightSample.text = .ok r ∧ r.fields.map Field.required = [true, false, false] := by
  have hblank (lead s trail : Text) (h : Run isBlank lead ∧ Run isBlank trail) :
      Cushioned s (lead ++ s ++ trail) := ⟨lead, trail, h.1, h.2, rfl⟩
  have hcushions : tightSample.Cushions wideSample := by
    refine ⟨hblank [' '] _ ['\t'] (by decide), ?_, Iff.rfl⟩
    refine .cons ?_ (.cons ?_ (.cons ?_ .nil))
    · exact .cons (hblank [' '] _ [] (by decide)) (.cons (hblank ['\n'] _ [' '] (by decide))
        (.cons (hblank [' '] _ [' '] (by decide)) .nil))
    · exact .cons (hblank [' '] _ [' '] (by decide)) (.cons (hblank [] _ [' '] (by decide))
        (.cons (hblank ['\t'] _ [] (by decide)) (.cons (hblank [] _ [] (by decide)) .nil)))
    · exact .cons (hblank [] _ [' '] (by decide)) (.cons (hblank [' '] _ [] (by decide))
        (.cons (hblank [] _ [' ', '\n'] (by decide)) .nil))
  have hread : read {} tightSample.text =
      .ok ⟨"User".toList, [⟨"id".toList, "number".toList, true⟩,
        ⟨"name".toList, "string".toList, false⟩, ⟨"tags".toList, "string[]".toList, false⟩]⟩ := by
    decide +kernel
  obtain ⟨r', hread', -, hsame⟩ := blank_space_hides_only_optional_segment hcushions hread
  refine ⟨by decide +kernel, ?_, _, hread, rfl⟩
  rw [hread', hread, hsame.mpr]
  refine .cons ?_ (.cons ?_ (.cons ?_ .nil))
  · intro ho
    exact absurd (ho.2.1 _ rfl) (by decide)
  · exact fun _ => by decide
  · exact fun _ => by decide

/-- With a blank before it the segment is not the optional segment any more. -/
theorem blank_before_segment_hides_it :
    read {} "type:User-a:s:o".toList = .ok ⟨"User".toList, [⟨"a".toList, "string".toList, false⟩]⟩ ∧
      read {} "type:User-a:s: o".toList =
        .ok ⟨"User".toList, [⟨"a".toList, "string".toList, true⟩]⟩ := by
  decide +kernel

end Dialect
end Shorthand
