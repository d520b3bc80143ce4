import ScriptCore.Text.Bytes

/-!
# Cutting a text at byte offsets

A text in two or three pieces can be cut exactly where the pieces meet: `splitAtByte?_append` and
`slice?_append` give the pieces back from the byte offsets of their borders.  Two ways of cutting one
text at one offset are the same (`append_inj_byteLength`), since a character has at least one byte.

A byte below 128 can be looked for without decoding the text: it stands in no character but the one
that it alone is (`getElem?_bytes_iff`), so it is first met where this character is
(`findIdx?_bytes`).
-/

namespace ScriptCore.Text

/-- `String.utf8ByteSize` of a string is the `byteLength` of its characters. -/
theorem utf8ByteSize_ofList (cs : List Char) :
    (String.ofList cs).utf8ByteSize = byteLength cs := by
  induction cs with
  | nil => simp
  | cons c cs ih =>
    rw [← List.singleton_append, String.ofList_append, String.utf8ByteSize_append, ih,
      ← String.singleton_eq_ofList, String.utf8ByteSize_singleton, List.singleton_append,
      byteLength_cons]

/-- `String.utf8ByteSize` by the characters of the string. -/
theorem utf8ByteSize_eq (s : String) : s.utf8ByteSize = byteLength s.toList := by
  rw [← utf8ByteSize_ofList, String.ofList_toList]

/-- Only the empty text has no bytes: every character has one at least. -/
theorem byteLength_pos {cs : List Char} (h : cs ≠ []) : 0 < byteLength cs := by
  obtain ⟨c, cs, rfl⟩ := List.exists_cons_of_ne_nil h
  have := c.utf8Size_pos
  simp only [byteLength_cons]
  omega

/-- The empty text is the one without bytes. -/
theorem byteLength_eq_zero_iff {cs : List Char} : byteLength cs = 0 ↔ cs = [] := by
  constructor
  · intro h
    cases cs with
    | nil => rfl
    | cons c cs =>
      have := byteLength_pos (List.cons_ne_nil c cs)
      omega
  · rintro rfl
    exact byteLength_nil

/-- A text has no more characters than bytes. -/
theorem length_le_byteLength (cs : List Char) : cs.length ≤ byteLength cs := by
  induction cs with
  | nil => simp
  | cons c cs ih =>
    have := c.utf8Size_pos
    simp only [List.length_cons, byteLength_cons]
    omega

/-- `splitAtByte?` cuts a text where two pieces of it meet. -/
theorem splitAtByte?_append (a b : List Char) :
    splitAtByte? (byteLength a) (a ++ b) = some (a, b) := by
  induction a with
  | nil => simp [splitAtByte?]
  | cons c a ih =>
    have hpos := c.utf8Size_pos
    -- There is a first character, so the offset is not zero, and the cut comes behind it.
    obtain ⟨n, hn⟩ : ∃ n, c.utf8Size + byteLength a = n + 1 := ⟨_, (Nat.succ_pred (by omega)).symm⟩
    have hrest : n + 1 - c.utf8Size = byteLength a := by omega
    rw [byteLength_cons, hn, List.cons_append, splitAtByte?, if_pos (by omega), hrest, ih]
    rfl

/-- `splitAtByte?` gives two pieces of the text, the first one as long as was asked. -/
theorem eq_append_of_splitAtByte? {n : Nat} {cs before after : List Char}
    (h : splitAtByte? n cs = some (before, after)) :
    cs = before ++ after ∧ byteLength before = n := by
  fun_induction splitAtByte? n cs generalizing before after with
  | case1 cs =>
    simp only [Option.some.injEq, Prod.mk.injEq] at h
    obtain ⟨rfl, rfl⟩ := h
    exact ⟨rfl, rfl⟩
  | case2 => simp at h
  | case3 n c rest hle ih =>
    simp only [Option.map_eq_some_iff, Prod.exists, Prod.mk.injEq] at h
    obtain ⟨before', after', hsplit, rfl, rfl⟩ := h
    have ⟨hcs, hlen⟩ := ih hsplit
    refine ⟨by rw [hcs, List.cons_append], ?_⟩
    rw [byteLength_cons, hlen]
    omega
  | case4 => simp at h

/-- A text is cut in one way only at one offset. -/
theorem append_inj_byteLength {a b a' b' : List Char} (h : a ++ b = a' ++ b')
    (hlen : byteLength a = byteLength a') : a = a' ∧ b = b' := by
  have hcut := splitAtByte?_append a b
  rw [h, hlen, splitAtByte?_append] at hcut
  simp only [Option.some.injEq, Prod.mk.injEq] at hcut
  exact ⟨hcut.1.symm, hcut.2.symm⟩

/-- Of two cuts of a text, the later one has a piece more before it. -/
theorem exists_append_of_byteLength_le {a b a' b' : List Char} (h : a ++ b = a' ++ b')
    (hle : byteLength a ≤ byteLength a') : ∃ piece, a' = a ++ piece ∧ b = piece ++ b' := by
  rcases List.append_eq_append_iff.1 h with hlater | ⟨piece, rfl, rfl⟩
  · exact hlater
  · rw [byteLength_append] at hle
    have hpiece : piece = [] := byteLength_eq_zero_iff.1 (by omega)
    exact ⟨[], by simp [hpiece], by simp [hpiece]⟩

/-- `slice?` between the borders of a piece is the piece. -/
theorem slice?_append (a b c : List Char) :
    slice? (a ++ (b ++ c)) (byteLength a) (byteLength a + byteLength b) = some b := by
  have hlen : byteLength a + byteLength b - byteLength a = byteLength b := by omega
  simp only [slice?, Nat.le_add_right, if_true, splitAtByte?_append, hlen, Option.bind_some,
    Option.map_some]

/-- What `slice?` gives is as long as was asked. -/
theorem byteLength_of_slice? {cs piece : List Char} {start stop : Nat}
    (h : slice? cs start stop = some piece) : byteLength piece = stop - start := by
  unfold slice? at h
  split at h
  · simp only [Option.bind_eq_some_iff, Option.map_eq_some_iff, Prod.exists] at h
    obtain ⟨before, after, -, piece, rest, hpiece, rfl⟩ := h
    exact (eq_append_of_splitAtByte? hpiece).2
  · cases h

/-! ## Bytes -/

@[simp] theorem bytes_nil : bytes [] = [] := rfl

@[simp] theorem bytes_cons (c : Char) (cs : List Char) :
    bytes (c :: cs) = String.utf8EncodeChar c ++ bytes cs := rfl

/-- The bytes of two pieces are those of the one and then those of the other. -/
theorem bytes_append (a b : List Char) : bytes (a ++ b) = bytes a ++ bytes b :=
  List.flatMap_append

/-- `byteLength` counts the `bytes`. -/
theorem length_bytes (cs : List Char) : (bytes cs).length = byteLength cs := by
  induction cs with
  | nil => rfl
  | cons c cs ih =>
    rw [bytes_cons, List.length_append, ih, String.length_utf8EncodeChar, byteLength_cons]

/-- The `bytes` of a text are those that a string has in memory. -/
theorem bytes_toList (s : String) : bytes s.toList = s.toByteArray.data.toList := by
  rw [← String.utf8Encode_toList, List.utf8Encode, List.data_toByteArray]
  rfl

/-! ## Bytes below 128 -/

/-- The number of a character that is made of a byte is that of the byte. -/
theorem toNat_val_ofUInt8 (byte : UInt8) : (Char.ofUInt8 byte).val.toNat = byte.toNat :=
  UInt8.toNat_toUInt32 byte

/-- `String.utf8EncodeChar` makes one byte of a character below 128, its number. -/
theorem utf8EncodeChar_of_lt {c : Char} (h : c.val.toNat < 128) :
    String.utf8EncodeChar c = [UInt8.ofNat c.val.toNat] := by
  rw [String.utf8EncodeChar, if_pos (by omega)]

/-- `String.utf8EncodeChar` makes bytes of 128 or more of any other character, the first one and
those that continue it. -/
theorem le_of_mem_utf8EncodeChar {c : Char} (h : 128 ≤ c.val.toNat) {byte : UInt8}
    (hbyte : byte ∈ String.utf8EncodeChar c) : 128 ≤ byte.toNat := by
  rw [String.utf8EncodeChar, if_neg (by omega)] at hbyte
  -- Each of the two, three or four bytes has 128 or more added to it.
  split at hbyte
  · simp only [List.mem_cons, List.not_mem_nil, or_false] at hbyte
    rcases hbyte with rfl | rfl <;> rw [UInt8.toNat_ofNat'] <;> omega
  · split at hbyte <;> simp only [List.mem_cons, List.not_mem_nil, or_false] at hbyte
    · rcases hbyte with rfl | rfl | rfl <;> rw [UInt8.toNat_ofNat'] <;> omega
    · rcases hbyte with rfl | rfl | rfl | rfl <;> rw [UInt8.toNat_ofNat'] <;> omega

/-- A byte below 128 stands in no character but the one that it alone is. -/
theorem findIdx?_utf8EncodeChar {byte : UInt8} (hbyte : byte < 128) (c : Char) :
    (String.utf8EncodeChar c).findIdx? (· == byte) =
      if c = Char.ofUInt8 byte then some 0 else none := by
  have hlt : byte.toNat < 128 := by simpa [UInt8.lt_iff_toNat_lt] using hbyte
  have hchar : c = Char.ofUInt8 byte ↔ c.val.toNat = byte.toNat := by
    rw [Char.ext_iff, ← UInt32.toNat_inj, toNat_val_ofUInt8]
  by_cases hc : c.val.toNat < 128
  -- The one byte of the character is the one that is sought, or not.
  · have hsame : UInt8.ofNat c.val.toNat = byte ↔ c.val.toNat = byte.toNat := by
      rw [← UInt8.toNat_inj, UInt8.toNat_ofNat', Nat.mod_eq_of_lt (by omega)]
    simp only [utf8EncodeChar_of_lt hc, List.findIdx?_singleton, beq_iff_eq, hsame, hchar]
  · rw [if_neg (by rw [hchar]; omega), List.findIdx?_eq_none_iff]
    intro x hx
    have hle := le_of_mem_utf8EncodeChar (by omega) hx
    simp only [beq_eq_false_iff_ne, ne_eq]
    rintro rfl
    omega

/-- `String.utf8EncodeChar` takes back `Char.ofUInt8` below 128. -/
theorem utf8EncodeChar_ofUInt8 {byte : UInt8} (hbyte : byte < 128) :
    String.utf8EncodeChar (Char.ofUInt8 byte) = [byte] := by
  have hlt : byte.toNat < 128 := by simpa [UInt8.lt_iff_toNat_lt] using hbyte
  have hval := toNat_val_ofUInt8 byte
  rw [utf8EncodeChar_of_lt (by omega), hval, UInt8.ofNat_toNat]

/-- A character with a byte below 128 is that byte. -/
theorem eq_of_mem_utf8EncodeChar {byte : UInt8} (hbyte : byte < 128) {c : Char}
    (h : byte ∈ String.utf8EncodeChar c) : c = Char.ofUInt8 byte := by
  refine Decidable.byContradiction fun hc => ?_
  have hnone := findIdx?_utf8EncodeChar hbyte c
  rw [if_neg hc, List.findIdx?_eq_none_iff] at hnone
  exact absurd (hnone byte h) (by simp)

/-- A byte below 128 is one of the `bytes` exactly where its character begins. -/
theorem getElem?_bytes_iff {byte : UInt8} (hbyte : byte < 128) {cs : List Char} {i : Nat} :
    (bytes cs)[i]? = some byte ↔
      ∃ before after, cs = before ++ Char.ofUInt8 byte :: after ∧ byteLength before = i := by
  constructor
  · intro h
    induction cs generalizing i with
    | nil => cases h
    | cons c cs ih =>
      rw [bytes_cons, List.getElem?_append, String.length_utf8EncodeChar] at h
      split at h
      · -- The byte is all of the first character.
        obtain rfl := eq_of_mem_utf8EncodeChar hbyte (List.mem_of_getElem? h)
        have hsize : (Char.ofUInt8 byte).utf8Size = 1 := by
          rw [← String.length_utf8EncodeChar, utf8EncodeChar_ofUInt8 hbyte, List.length_singleton]
        exact ⟨[], cs, rfl, by rw [byteLength_nil]; omega⟩
      -- The byte belongs to a later character, and the place is counted from there.
      · obtain ⟨before, after, rfl, hlength⟩ := ih h
        exact ⟨c :: before, after, rfl, by rw [byteLength_cons]; omega⟩
  · rintro ⟨before, after, rfl, rfl⟩
    -- What stands before the character takes as many bytes as were passed.
    rw [bytes_append, ← length_bytes, List.getElem?_append_right (Nat.le_refl _), Nat.sub_self,
      bytes_cons, utf8EncodeChar_ofUInt8 hbyte]
    rfl

/-- A byte below 128 first stands where its character first does. -/
theorem findIdx?_bytes {byte : UInt8} (hbyte : byte < 128) (cs : List Char) :
    (bytes cs).findIdx? (· == byte) =
      if Char.ofUInt8 byte ∈ cs then
        some (byteLength (cs.takeWhile (· != Char.ofUInt8 byte)))
      else none := by
  induction cs with
  | nil => simp
  | cons c cs ih =>
    rw [bytes_cons, List.findIdx?_append, findIdx?_utf8EncodeChar hbyte, ih,
      String.length_utf8EncodeChar]
    by_cases hc : c = Char.ofUInt8 byte
    · simp [hc]
    · -- The bytes of another character are passed, however many they are.
      have hne : Char.ofUInt8 byte ≠ c := fun h => hc h.symm
      by_cases hmem : Char.ofUInt8 byte ∈ cs
      · simp [hc, hne, hmem, Nat.add_comm]
      · simp [hc, hne, hmem]

end ScriptCore.Text
