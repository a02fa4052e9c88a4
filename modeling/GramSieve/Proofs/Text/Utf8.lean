import GramSieve.Text.Utf8

namespace GramSieve.Text.Utf8

/-!
# Text as bytes and back

* `next_utf8EncodeChar` — the bytes of a character are read as that character, whatever follows.
* `decode_encode` — the bytes of a text are read as that text.
* `decodeLossy_of_decode` — nothing is replaced in bytes that are text.
-/

/-! ### Bytes by their numbers -/

theorem lengthOf_eq (a : UInt8) :
    lengthOf a = if a.toNat < 0x80 then some 1 else if a.toNat < 0xC2 then none
      else if a.toNat < 0xE0 then some 2 else if a.toNat < 0xF0 then some 3
      else if a.toNat < 0xF5 then some 4 else none := rfl

/-- The bytes behind the first one of a character are those from 0x80 to 0xBF. -/
theorem isContinuation_iff (b : UInt8) :
    isContinuation b = true ↔ 0x80 ≤ b.toNat ∧ b.toNat < 0xC0 := by
  rw [isContinuation, Bool.and_eq_true, decide_eq_true_iff, decide_eq_true_iff,
    UInt8.le_iff_toNat_le, UInt8.lt_iff_toNat_lt]
  rfl

/-- A second byte continues a character, and behind four first bytes its range is narrower: these
would start a character that has a shorter form, a surrogate or a number above all characters. -/
theorem isSecond_iff (a b : UInt8) :
    isSecond a b = true ↔ 0xC2 ≤ a.toNat ∧ a.toNat < 0xF5 ∧ 0x80 ≤ b.toNat ∧ b.toNat < 0xC0 ∧
      (a.toNat = 0xE0 → 0xA0 ≤ b.toNat) ∧ (a.toNat = 0xED → b.toNat < 0xA0) ∧
      (a.toNat = 0xF0 → 0x90 ≤ b.toNat) ∧ (a.toNat = 0xF4 → b.toNat < 0x90) := by
  simp only [isSecond, isContinuation, ← UInt8.toNat_inj, UInt8.lt_iff_toNat_lt,
    UInt8.le_iff_toNat_le, UInt8.toNat_ofNat]
  grind

theorem exists_byte {n : Nat} (h : n < 256) : (UInt8.ofNat n).toNat = n := by
  rw [UInt8.toNat_ofNat', Nat.mod_eq_of_lt h]

/-! ### Characters -/

section Next

variable {a b c d : UInt8} {rest : List UInt8}

theorem next_one (ha : a.toNat < 0x80) : next a rest = .char (Char.ofNat a.toNat) 1 := by
  rw [next, lengthOf_eq, if_pos ha]
  rfl

theorem next_two (ha : a.toNat < 0xE0) (hb : isSecond a b = true) :
    next a (b :: rest) = .char (Char.ofNat ((a.toNat % 32) * 64 + low b)) 2 := by
  have := (isSecond_iff a b).mp hb
  rw [next, lengthOf_eq, if_neg (by omega), if_neg (by omega), if_pos ha]
  simp [hb]

theorem next_three (ha : 0xE0 ≤ a.toNat) (ha' : a.toNat < 0xF0) (hb : isSecond a b = true)
    (hc : isContinuation c = true) :
    next a (b :: c :: rest) =
      .char (Char.ofNat ((a.toNat % 16) * 4096 + low b * 64 + low c)) 3 := by
  rw [next, lengthOf_eq, if_neg (by omega), if_neg (by omega), if_neg (by omega), if_pos ha']
  simp [hb, hc]

theorem next_four (ha : 0xF0 ≤ a.toNat) (hb : isSecond a b = true) (hc : isContinuation c = true)
    (hd : isContinuation d = true) :
    next a (b :: c :: d :: rest) =
      .char (Char.ofNat ((a.toNat % 8) * 262144 + low b * 4096 + low c * 64 + low d)) 4 := by
  have := (isSecond_iff a b).mp hb
  rw [next, lengthOf_eq, if_neg (by omega), if_neg (by omega), if_neg (by omega),
    if_neg (by omega), if_pos (by omega)]
  simp [hb, hc, hd]

end Next

/-- The bytes of a character are read as that character, whatever follows. -/
theorem next_utf8EncodeChar (c : Char) (rest : List UInt8) :
    ∃ a tail, String.utf8EncodeChar c = a :: tail ∧
      next a (tail ++ rest) = .char c (tail.length + 1) := by
  have hvalid : c.val.toNat < 0xD800 ∨ 0xDFFF < c.val.toNat ∧ c.val.toNat < 0x110000 := c.valid
  have hchar {n : Nat} (h : n = c.val.toNat) : Char.ofNat n = c := h ▸ Char.ofNat_toNat c
  rw [String.utf8EncodeChar.eq_1]
  generalize c.val.toNat = n at hvalid hchar
  -- One to four bytes, by the number of the character.
  split
  · refine ⟨_, [], rfl, ?_⟩
    have ha := exists_byte (n := n) (by omega)
    rw [List.nil_append, next_one (by omega), hchar ha]
    rfl
  split
  · refine ⟨_, [_], rfl, ?_⟩
    have ha := exists_byte (n := n / 64 % 32 + 192) (by omega)
    have hb := exists_byte (n := n % 64 + 128) (by omega)
    rw [List.singleton_append, next_two (by omega) ((isSecond_iff _ _).mpr (by omega)), low,
      hchar (by omega)]
    rfl
  split
  · refine ⟨_, [_, _], rfl, ?_⟩
    have ha := exists_byte (n := n / 4096 % 16 + 224) (by omega)
    have hb := exists_byte (n := n / 64 % 64 + 128) (by omega)
    have hc := exists_byte (n := n % 64 + 128) (by omega)
    rw [List.cons_append, List.singleton_append, next_three (by omega) (by omega)
      ((isSecond_iff _ _).mpr (by omega)) ((isContinuation_iff _).mpr (by omega)), low, low,
      hchar (by omega)]
    rfl
  · refine ⟨_, [_, _, _], rfl, ?_⟩
    have ha := exists_byte (n := n / 262144 % 8 + 240) (by omega)
    have hb := exists_byte (n := n / 4096 % 64 + 128) (by omega)
    have hc := exists_byte (n := n / 64 % 64 + 128) (by omega)
    have hd := exists_byte (n := n % 64 + 128) (by omega)
    rw [List.cons_append, List.cons_append, List.singleton_append, next_four (by omega)
      ((isSecond_iff _ _).mpr (by omega)) ((isContinuation_iff _).mpr (by omega))
      ((isContinuation_iff _).mpr (by omega)), low, low, low, hchar (by omega)]
    rfl

/-! ### Texts -/

theorem encode_append (cs ds : List Char) : encode (cs ++ ds) = encode cs ++ encode ds :=
  List.flatMap_append

/-- The bytes behind the first one of a character are passed over. -/
theorem decodeFrom_skip (index : Nat) (tail rest : List UInt8) :
    decodeFrom index tail.length (tail ++ rest) = decodeFrom (index + tail.length) 0 rest := by
  induction tail generalizing index with
  | nil => rfl
  | cons a tail ih =>
    rw [List.length_cons, List.cons_append, decodeFrom, ih, Nat.add_right_comm, Nat.add_assoc]

/-- What was encoded is decoded from whatever place on. -/
theorem decodeFrom_encode (index : Nat) (cs : List Char) :
    decodeFrom index 0 (encode cs) = .ok cs := by
  induction cs generalizing index with
  | nil => rfl
  | cons c cs ih =>
    obtain ⟨a, tail, hbytes, hnext⟩ := next_utf8EncodeChar c (encode cs)
    have hencode : encode (c :: cs) = a :: (tail ++ encode cs) := by
      rw [encode, List.flatMap_cons, hbytes]
      rfl
    rw [hencode, decodeFrom, hnext]
    simp only
    rw [Nat.add_sub_cancel, decodeFrom_skip, ih]
    rfl

/-- What was encoded is decoded to the same text. -/
theorem decode_encode (cs : List Char) : decode (encode cs) = .ok cs := decodeFrom_encode 0 cs

/-- Where no byte is wrong, none has to be replaced. -/
theorem decodeLossyFrom_of_decodeFrom {index skip : Nat} {bytes : List UInt8} {text : List Char}
    (h : decodeFrom index skip bytes = .ok text) : decodeLossyFrom skip bytes = text := by
  -- Both readers take the same steps until a byte is wrong.
  fun_induction decodeFrom index skip bytes generalizing text with
  | case1 =>
    rw [decodeLossyFrom]
    exact Except.ok.inj h
  | case2 index a rest skip ih =>
    rw [decodeLossyFrom]
    exact ih h
  | case3 index a rest c size hnext ih =>
    cases hrest : decodeFrom (index + 1) (size - 1) rest with
    | error fault =>
      rw [hrest] at h
      cases h
    | ok behind =>
      rw [hrest] at h
      rw [decodeLossyFrom, hnext]
      simp only
      rw [ih hrest]
      exact Except.ok.inj h
  | case4 | case5 => cases h

/-- So decoding with replacements gives what decoding gives. -/
theorem decodeLossy_of_decode {bytes : List UInt8} {text : List Char} (h : decode bytes = .ok text) :
    decodeLossy bytes = text :=
  decodeLossyFrom_of_decodeFrom h

theorem decodeLossy_encode (cs : List Char) : decodeLossy (encode cs) = cs :=
  decodeLossy_of_decode (decode_encode cs)

end GramSieve.Text.Utf8
