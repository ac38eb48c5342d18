import Mathlib
import Shorthand.Text.Encoding

/-! UTF-8 read back: the bytes of a text split into its own characters, whichever way they are read. -/
namespace Shorthand.Text

namespace Utf8
variable {first a : UInt8} {more bytes : List UInt8} {lead : Lead} {m n : Nat}

lemma le_ofNat {b : UInt8} (h : b.toNat ≤ n) (hn : n < 256) : b ≤ UInt8.ofNat n := by
  rw [UInt8.le_iff_toNat_le, UInt8.toNat_ofNat_of_lt' hn]
  exact h

lemma ofNat_le {b : UInt8} (h : n ≤ b.toNat) : UInt8.ofNat n ≤ b := by
  rw [UInt8.le_iff_toNat_le, UInt8.toNat_ofNat']
  exact (Nat.mod_le n _).trans h

/-- A byte that goes on with a character. -/
def IsTail (b : UInt8) : Prop := 0x80 ≤ b ∧ b ≤ 0xBF

lemma isTail_ofNat (n : Nat) : IsTail (UInt8.ofNat (n % 64 + 128)) := by
  have hhigh : n % 64 + 128 ≤ 191 := by omega
  exact ⟨le_ofNat (Nat.le_add_left 128 _) (by omega), ofNat_le hhigh⟩

lemma continuation_of_tail (h : ∀ b ∈ more, IsTail b) (bytes : List UInt8) :
    continuation ⟨more.length, 0x80, 0xBF⟩ (more ++ bytes) = more := by
  induction more with
  | nil => simp [continuation]
  | cons b more ih =>
    rw [List.forall_mem_cons] at h
    simp only [List.length_cons, List.cons_append, continuation, h.1.1, h.1.2, ih h.2]
    simp

/-- A first byte, one in the range it announces and as many more as it announces spell a character. -/
lemma pieces_char (more : List UInt8) (hfirst : 0x80 ≤ first) (hlead : lead? first = some lead) (hlow : lead.low ≤ a)
    (hhigh : a ≤ lead.high) (hmore : ∀ b ∈ more, IsTail b) (hsize : lead.tail = more.length + 1) :
    pieces (first :: a :: (more ++ bytes)) =
      .char (Char.ofNat (codePoint first (a :: more))) :: pieces bytes := by
  obtain ⟨size, low, high⟩ := lead
  dsimp only at hlow hhigh hsize
  subst hsize
  have hnot : ¬ first < 0x80 := UInt8.not_lt.mpr hfirst
  have htail : continuation ⟨more.length + 1, low, high⟩ (a :: (more ++ bytes)) = a :: more := by
    simp [continuation, hlow, hhigh, continuation_of_tail hmore]
  rw [pieces, if_neg hnot, hlead]
  simp [htail]

lemma lead?_two (hn : 0xC2 ≤ n ∧ n ≤ 0xDF) : lead? (UInt8.ofNat n) = some { tail := 1 } := by
  have hmod : n % 256 = n := by omega
  simp [lead?, UInt8.le_iff_toNat_le, UInt8.toNat_ofNat', hmod, hn]

/-- After E0 and ED the next byte has half the range. -/
lemma lead?_three (hn : 0xE0 ≤ n ∧ n ≤ 0xEF) (hm : 0x80 ≤ m ∧ m ≤ 0xBF)
    (hlow : n = 0xE0 → 0xA0 ≤ m) (hhigh : n = 0xED → m ≤ 0x9F) :
    ∃ lead, lead? (UInt8.ofNat n) = some lead ∧ lead.tail = 2 ∧ lead.low ≤ UInt8.ofNat m ∧
      UInt8.ofNat m ≤ lead.high := by
  by_cases h0 : n = 0xE0
  · subst h0
    exact ⟨_, rfl, rfl, le_ofNat (hlow rfl) (by omega), ofNat_le hm.2⟩
  by_cases hD : n = 0xED
  · subst hD
    exact ⟨_, rfl, rfl, le_ofNat hm.1 (by omega), ofNat_le (hhigh rfl)⟩
  · have hmod : n % 256 = n := by omega
    have hlead : lead? (UInt8.ofNat n) = some { tail := 2 } := by
      simp only [lead?, ← UInt8.toNat_inj, beq_iff_eq, UInt8.le_iff_toNat_le, UInt8.toNat_ofNat',
        hmod, Bool.and_eq_true, decide_eq_true_eq, UInt8.reduceToNat]
      rw [if_neg (by omega), if_neg h0, if_neg hD, if_pos (by omega)]
    exact ⟨_, hlead, rfl, le_ofNat hm.1 (by omega), ofNat_le hm.2⟩

/-- After F0 and F4 the next byte has part of the range. -/
lemma lead?_four (hn : 0xF0 ≤ n ∧ n ≤ 0xF4) (hm : 0x80 ≤ m ∧ m ≤ 0xBF)
    (hlow : n = 0xF0 → 0x90 ≤ m) (hhigh : n = 0xF4 → m ≤ 0x8F) :
    ∃ lead, lead? (UInt8.ofNat n) = some lead ∧ lead.tail = 3 ∧ lead.low ≤ UInt8.ofNat m ∧
      UInt8.ofNat m ≤ lead.high := by
  by_cases h0 : n = 0xF0
  · subst h0
    exact ⟨_, rfl, rfl, le_ofNat (hlow rfl) (by omega), ofNat_le hm.2⟩
  by_cases h4 : n = 0xF4
  · subst h4
    exact ⟨_, rfl, rfl, le_ofNat hm.1 (by omega), ofNat_le (hhigh rfl)⟩
  · have hmod : n % 256 = n := by omega
    have hlead : lead? (UInt8.ofNat n) = some { tail := 3 } := by
      simp only [lead?, ← UInt8.toNat_inj, beq_iff_eq, UInt8.le_iff_toNat_le, UInt8.toNat_ofNat',
        hmod, Bool.and_eq_true, decide_eq_true_eq, UInt8.reduceToNat]
      rw [if_neg (by omega), if_neg (by omega), if_neg (by omega), if_neg (by omega), if_neg h0,
        if_neg h4, if_pos (by omega)]
    exact ⟨_, hlead, rfl, le_ofNat hm.1 (by omega), ofNat_le hm.2⟩

/-- The bytes of a character are read as that character, whatever follows them. -/
theorem pieces_encodeChar (c : Char) (bytes : List UInt8) :
    pieces (encodeChar c ++ bytes) = .char c :: pieces bytes := by
  have hvalid : c.toNat < 0xD800 ∨ 0xDFFF < c.toNat ∧ c.toNat < 0x110000 := c.valid
  have hchar : Char.ofNat c.toNat = c := Char.ofNat_toNat c
  have hval : c.val.toNat = c.toNat := rfl
  simp only [encodeChar, String.utf8EncodeChar, hval]
  generalize c.toNat = v at hvalid hchar
  split_ifs with h1 h2 h3
  · have hbyte : (UInt8.ofNat v).toNat = v := UInt8.toNat_ofNat_of_lt' (h1.trans_lt (by decide))
    have hlt : UInt8.ofNat v < 0x80 := by
      rw [UInt8.lt_iff_toNat_lt, hbyte]
      exact Nat.lt_succ_of_le h1
    rw [List.singleton_append, pieces, if_pos hlt, hbyte, hchar]
  · have hfirst : 128 ≤ v / 64 % 32 + 192 := by omega
    have hpoint : codePoint (UInt8.ofNat (v / 64 % 32 + 192)) [UInt8.ofNat (v % 64 + 128)] = v := by
      simp only [codePoint, List.foldl_cons, List.foldl_nil, UInt8.toNat_ofNat']
      simp
      omega
    refine (pieces_char [] (le_ofNat hfirst (by omega)) (lead?_two (by omega))
      (isTail_ofNat v).1 (isTail_ofNat v).2 (by simp) rfl).trans ?_
    rw [hpoint, hchar]
  · obtain ⟨lead, hlead, htail, hlow, hhigh⟩ := lead?_three (n := v / 4096 % 16 + 224)
      (m := v / 64 % 64 + 128) (by omega) (by omega) (by omega) (by omega)
    have hfirst : 128 ≤ v / 4096 % 16 + 224 := by omega
    have hpoint : codePoint (UInt8.ofNat (v / 4096 % 16 + 224))
        [UInt8.ofNat (v / 64 % 64 + 128), UInt8.ofNat (v % 64 + 128)] = v := by
      simp only [codePoint, List.foldl_cons, List.foldl_nil, UInt8.toNat_ofNat']
      simp
      omega
    refine (pieces_char [_] (le_ofNat hfirst (by omega)) hlead hlow hhigh
      (List.forall_mem_singleton.mpr (isTail_ofNat v)) htail).trans ?_
    rw [hpoint, hchar]
  · obtain ⟨lead, hlead, htail, hlow, hhigh⟩ := lead?_four (n := v / 262144 % 8 + 240)
      (m := v / 4096 % 64 + 128) (by omega) (by omega) (by omega) (by omega)
    have hfirst : 128 ≤ v / 262144 % 8 + 240 := by omega
    have hpoint : codePoint (UInt8.ofNat (v / 262144 % 8 + 240)) [UInt8.ofNat (v / 4096 % 64 + 128),
        UInt8.ofNat (v / 64 % 64 + 128), UInt8.ofNat (v % 64 + 128)] = v := by
      simp only [codePoint, List.foldl_cons, List.foldl_nil, UInt8.toNat_ofNat']
      simp
      omega
    have hmore : ∀ b ∈ [UInt8.ofNat (v / 64 % 64 + 128), UInt8.ofNat (v % 64 + 128)], IsTail b :=
      List.forall_mem_cons.mpr
        ⟨isTail_ofNat (v / 64), List.forall_mem_singleton.mpr (isTail_ofNat v)⟩
    refine (pieces_char [_, _] (le_ofNat hfirst (by omega)) hlead hlow hhigh hmore
      htail).trans ?_
    rw [hpoint, hchar]

/-- The bytes of a text split into its characters. -/
theorem pieces_encode (s : Text) : pieces (encode s) = s.map .char := by
  induction s with
  | nil => simp [encode, pieces]
  | cons c s ih =>
    rw [encode, List.flatMap_cons, pieces_encodeChar, ← encode, ih, List.map_cons]

lemma collect_chars (s : Text) (position : Nat) : collect position (s.map .char) = .ok s := by
  induction s generalizing position with
  | nil => rfl
  | cons c s ih => simp [collect, ih, Except.map]

theorem decode_encode (s : Text) : decode (encode s) = .ok s := by
  rw [decode, pieces_encode, collect_chars]

theorem decodeLossy_encode (s : Text) : decodeLossy (encode s) = s := by
  rw [decodeLossy, pieces_encode, List.map_map]
  exact List.map_id s

lemma encodeChar_of_ascii {c : Char} (h : c.toNat < 0x80) :
    encodeChar c = [UInt8.ofNat c.toNat] := by
  have hle : c.toNat ≤ 127 := by omega
  simp [encodeChar, String.utf8EncodeChar, hle]

/-- Only the zero character is written with a zero byte in front. -/
lemma exists_encodeChar {c : Char} (hc : c.toNat ≠ 0) :
    ∃ b bytes, encodeChar c = b :: bytes ∧ b ≠ 0 := by
  have hval : c.val.toNat = c.toNat := rfl
  have hne {n : Nat} (h : n % 256 ≠ 0) : UInt8.ofNat n ≠ 0 := by
    rw [Ne, ← UInt8.toNat_inj, UInt8.toNat_ofNat']
    exact h
  simp only [encodeChar, String.utf8EncodeChar, hval]
  split_ifs
  · exact ⟨_, _, rfl, hne (by omega)⟩
  · exact ⟨_, _, rfl, hne (by omega)⟩
  · exact ⟨_, _, rfl, hne (by omega)⟩
  · exact ⟨_, _, rfl, hne (by omega)⟩

end Utf8

namespace Encoding

lemma chars8?_chars (lone : Nat → Char) (s : Text) :
    chars8? lone (s.map .char) = some s := by
  induction s with
  | nil => rfl
  | cons c s ih => simp [chars8?, ih]

/-- Bytes of which the first is an ASCII character and the first two are not zero are UTF-8. -/
lemma detect_ascii {a : UInt8} {bytes : List UInt8} (ha : a < 0x80) (ha0 : a ≠ 0)
    (hbytes : ∀ b ∈ bytes.head?, b ≠ 0) : detect (a :: bytes) = (.utf8, a :: bytes) := by
  have hne {m : UInt8} (hm : 0x80 ≤ m) : (m == a) = false := by
    rw [beq_eq_false_iff_ne]
    rintro rfl
    exact absurd ha (UInt8.not_lt.mpr hm)
  have hmark : marks.find? (·.1.isPrefixOf (a :: bytes)) = none := by
    simp [marks, List.isPrefixOf, ha0.symm, hne]
  have hshown : shown (a :: bytes) = .utf8 := by
    unfold shown
    split <;> simp_all
  rw [detect, hmark, hshown]

/-- A text that starts with an ASCII character, and has no zero in front or right behind it, is read
back. -/
theorem decode?_encode {a : Char} {s : Text} (ha : a.toNat < 0x80) (ha0 : a.toNat ≠ 0)
    (hs : ∀ c ∈ s.head?, c.toNat ≠ 0) (lone : Nat → Char) :
    decode? lone (Utf8.encode (a :: s)) = some (a :: s) := by
  have hbyte : (UInt8.ofNat a.toNat).toNat = a.toNat :=
    UInt8.toNat_ofNat_of_lt' (ha.trans (by decide))
  have hbytes : Utf8.encode (a :: s) = UInt8.ofNat a.toNat :: Utf8.encode s := by
    simp [Utf8.encode, Utf8.encodeChar_of_ascii ha]
  have hpieces := Utf8.pieces_encode (a :: s)
  rw [hbytes] at hpieces
  have hlt : UInt8.ofNat a.toNat < 0x80 := by
    rw [UInt8.lt_iff_toNat_lt, hbyte]
    exact ha
  have hne : UInt8.ofNat a.toNat ≠ 0 := by
    rw [Ne, ← UInt8.toNat_inj, hbyte]
    exact ha0
  have hnext : ∀ b ∈ (Utf8.encode s).head?, b ≠ 0 := by
    cases s with
    | nil => nofun
    | cons c s =>
      obtain ⟨b, more, hc, hb⟩ := Utf8.exists_encodeChar (hs c rfl)
      simpa [Utf8.encode, hc] using hb
  rw [hbytes, decode?, detect_ascii hlt hne hnext]
  exact (congrArg (chars8? lone) hpieces).trans (chars8?_chars lone _)

end Encoding
end Shorthand.Text
