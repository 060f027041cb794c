import VncAccess.Text.Basic

/-!
# Bytes read as text

Reading bytes as text and taking the bytes of the text gives the bytes back, whether or not they are
UTF-8. Bytes that are UTF-8 are read as the characters of which they are the form.
-/

namespace VncAccess

namespace Utf8

variable {a b c d : UInt8} {n : Nat}

theorem continuation?_eq_some (h : continuation? b = some n) : b.toNat = 0x80 + n ∧ n < 0x40 := by
  unfold continuation? at h
  split at h
  · simp only [Option.some.injEq] at h
    omega
  · simp only [reduceCtorEq] at h

theorem toNat_ofNat (h : n < 0xD800 ∨ 0xE000 ≤ n ∧ n < 0x110000) : (Char.ofNat n).toNat = n := by
  have valid : n.isValidChar := by
    simp only [Nat.isValidChar]
    omega
  rw [Char.ofNat, dif_pos valid]
  rfl

theorem ofNat_eq (h : n = b.toNat) : UInt8.ofNat n = b := h ▸ UInt8.ofNat_toNat

theorem encodeChar_length_pos (ch : Char) : 0 < (encodeChar ch).length := by
  unfold encodeChar
  dsimp only
  repeat' split
  all_goals exact Nat.succ_pos _

/-! ## The bytes of a character from its number -/

theorem encodeChar_one (small : a.toNat < 0x80) : encodeChar (Char.ofNat a.toNat) = [a] := by
  have number := toNat_ofNat (n := a.toNat) (by omega)
  simp only [encodeChar, number, small, ↓reduceIte, UInt8.ofNat_toNat]

theorem encodeChar_two {k : Nat} (lead : 0xC0 ≤ a.toNat ∧ a.toNat < 0xE0) (hb : b.toNat = 0x80 + k)
    (hk : k < 0x40) (eq : n = (a.toNat - 0xC0) * 0x40 + k) (large : 0x80 ≤ n) :
    encodeChar (Char.ofNat n) = [a, b] := by
  have number := toNat_ofNat (n := n) (by omega)
  have first : 0xC0 + n / 0x40 = a.toNat := by omega
  have second : 0x80 + n % 0x40 = b.toNat := by omega
  have not_one : ¬ n < 0x80 := by omega
  have two : n < 0x800 := by omega
  simp only [encodeChar, number, not_one, two, ↓reduceIte, ofNat_eq first, ofNat_eq second]

theorem encodeChar_three {k l : Nat} (lead : 0xE0 ≤ a.toNat ∧ a.toNat < 0xF0)
    (hb : b.toNat = 0x80 + k) (hc : c.toNat = 0x80 + l) (hk : k < 0x40) (hl : l < 0x40)
    (eq : n = ((a.toNat - 0xE0) * 0x40 + k) * 0x40 + l) (large : 0x800 ≤ n)
    (scalar : n < 0xD800 ∨ 0xE000 ≤ n) : encodeChar (Char.ofNat n) = [a, b, c] := by
  have number := toNat_ofNat (n := n) (by omega)
  have first : 0xE0 + n / 0x1000 = a.toNat := by omega
  have second : 0x80 + n / 0x40 % 0x40 = b.toNat := by omega
  have third : 0x80 + n % 0x40 = c.toNat := by omega
  have not_one : ¬ n < 0x80 := by omega
  have not_two : ¬ n < 0x800 := by omega
  have three : n < 0x10000 := by omega
  simp only [encodeChar, number, not_one, not_two, three, ↓reduceIte, ofNat_eq first,
    ofNat_eq second, ofNat_eq third]

theorem encodeChar_four {k l m : Nat} (lead : 0xF0 ≤ a.toNat) (hb : b.toNat = 0x80 + k)
    (hc : c.toNat = 0x80 + l) (hd : d.toNat = 0x80 + m) (hk : k < 0x40) (hl : l < 0x40)
    (hm : m < 0x40) (eq : n = (((a.toNat - 0xF0) * 0x40 + k) * 0x40 + l) * 0x40 + m)
    (large : 0x10000 ≤ n) (small : n < 0x110000) : encodeChar (Char.ofNat n) = [a, b, c, d] := by
  have number := toNat_ofNat (n := n) (by omega)
  have first : 0xF0 + n / 0x40000 = a.toNat := by omega
  have second : 0x80 + n / 0x1000 % 0x40 = b.toNat := by omega
  have third : 0x80 + n / 0x40 % 0x40 = c.toNat := by omega
  have fourth : 0x80 + n % 0x40 = d.toNat := by omega
  have not_one : ¬ n < 0x80 := by omega
  have not_two : ¬ n < 0x800 := by omega
  have not_three : ¬ n < 0x10000 := by omega
  simp only [encodeChar, number, not_one, not_two, not_three, ↓reduceIte, ofNat_eq first,
    ofNat_eq second, ofNat_eq third, ofNat_eq fourth]

/-- A character that is read is the one that the bytes at the head belong to. -/
theorem decodeChar?_eq_some {bytes : Bytes} {ch : Char} {size : Nat}
    (h : decodeChar? bytes = some (ch, size)) :
    ∃ rest, bytes = encodeChar ch ++ rest ∧ size = (encodeChar ch).length := by
  cases bytes with
  | nil => cases h
  | cons a rest =>
      simp only [decodeChar?] at h
      split at h
      · next one =>
          cases h
          exact ⟨rest, by rw [encodeChar_one one]; rfl, by rw [encodeChar_one one]; rfl⟩
      split at h
      · cases h
      next lead₂ =>
      split at h
      · split at h
        · next b rest =>
            obtain ⟨k, hk, h⟩ := Option.bind_eq_some_iff.mp h
            obtain ⟨hb, hk⟩ := continuation?_eq_some hk
            split at h
            · next large =>
                cases h
                have eq := encodeChar_two (by omega) hb hk rfl large
                exact ⟨rest, by rw [eq]; rfl, by rw [eq]; rfl⟩
            · cases h
        · cases h
      next lead₃ =>
      split at h
      · split at h
        · next b c rest =>
            obtain ⟨k, hk, h⟩ := Option.bind_eq_some_iff.mp h
            obtain ⟨l, hl, h⟩ := Option.bind_eq_some_iff.mp h
            obtain ⟨hb, hk⟩ := continuation?_eq_some hk
            obtain ⟨hc, hl⟩ := continuation?_eq_some hl
            split at h
            · next large =>
                cases h
                have eq := encodeChar_three (by omega) hb hc hk hl rfl large.1 large.2
                exact ⟨rest, by rw [eq]; rfl, by rw [eq]; rfl⟩
            · cases h
        · cases h
      next lead₄ =>
      split at h
      · split at h
        · next b c d rest =>
            obtain ⟨k, hk, h⟩ := Option.bind_eq_some_iff.mp h
            obtain ⟨l, hl, h⟩ := Option.bind_eq_some_iff.mp h
            obtain ⟨m, hm, h⟩ := Option.bind_eq_some_iff.mp h
            obtain ⟨hb, hk⟩ := continuation?_eq_some hk
            obtain ⟨hc, hl⟩ := continuation?_eq_some hl
            obtain ⟨hd, hm⟩ := continuation?_eq_some hm
            split at h
            · next large =>
                cases h
                have eq := encodeChar_four (by omega) hb hc hd hk hl hm rfl large.1 large.2
                exact ⟨rest, by rw [eq]; rfl, by rw [eq]; rfl⟩
            · cases h
        · cases h
      · cases h

/-! ## The character at the head of bytes -/

theorem toNat_cases (c : Char) : c.toNat < 0xD800 ∨ 0xE000 ≤ c.toNat ∧ c.toNat < 0x110000 := by
  have valid := c.valid
  simp only [UInt32.isValidChar, Nat.isValidChar] at valid
  change c.toNat < _ ∨ _ < c.toNat ∧ c.toNat < _ at valid
  omega

/-- A character is written as in the UTF-8 form of a string. -/
theorem encodeChar_eq (c : Char) : encodeChar c = String.utf8EncodeChar c := by
  have bound := toNat_cases c
  have number : c.val.toNat = c.toNat := rfl
  simp only [encodeChar, String.utf8EncodeChar, number, Nat.lt_succ_iff.symm]
  split
  · rfl
  split
  · have lead : 0xC0 + c.toNat / 0x40 = c.toNat / 64 % 32 + 192 := by omega
    rw [lead, Nat.add_comm 0x80]
  split
  · have lead : 0xE0 + c.toNat / 0x1000 = c.toNat / 4096 % 16 + 224 := by omega
    rw [lead, Nat.add_comm 0x80, Nat.add_comm 0x80]
  · have lead : 0xF0 + c.toNat / 0x40000 = c.toNat / 262144 % 8 + 240 := by omega
    rw [lead, Nat.add_comm 0x80, Nat.add_comm 0x80, Nat.add_comm 0x80]

theorem continuation?_ofNat {k : Nat} (hk : k < 0x40) :
    continuation? (.ofNat (0x80 + k)) = some k := by
  have number : (UInt8.ofNat (0x80 + k)).toNat = 0x80 + k := by
    rw [UInt8.toNat_ofNat']
    omega
  rw [continuation?, number, if_pos (by omega), Nat.add_sub_cancel_left]

/-- The character is read from its bytes, whatever comes after them. -/
theorem decodeChar?_append (c : Char) (rest : Bytes) :
    decodeChar? (encodeChar c ++ rest) = some (c, (encodeChar c).length) := by
  have bound := toNat_cases c
  have back : Char.ofNat c.toNat = c := Char.ofNat_toNat c
  have byte {n : Nat} (hn : n < 0x100) : (UInt8.ofNat n).toNat = n := by
    rw [UInt8.toNat_ofNat']
    omega
  have tail (n : Nat) : continuation? (.ofNat (0x80 + n % 0x40)) = some (n % 0x40) :=
    continuation?_ofNat (Nat.mod_lt _ (by decide))
  unfold encodeChar
  dsimp only
  split
  · next one =>
      simp only [List.cons_append, decodeChar?, byte (Nat.lt_trans one (by decide)), one, back,
        ↓reduceIte, List.nil_append, List.length_singleton]
  split
  · next one two =>
      have lead := byte (n := 0xC0 + c.toNat / 0x40) (by omega)
      have value : (0xC0 + c.toNat / 0x40 - 0xC0) * 0x40 + c.toNat % 0x40 = c.toNat := by omega
      simp only [List.cons_append, List.nil_append, decodeChar?, lead, tail, Option.bind_eq_bind,
        Option.bind_some, value, back]
      rw [if_neg (by omega), if_neg (by omega), if_pos (by omega), if_pos (by omega)]
      rfl
  split
  · next one two three =>
      have lead := byte (n := 0xE0 + c.toNat / 0x1000) (by omega)
      have value : ((0xE0 + c.toNat / 0x1000 - 0xE0) * 0x40 + c.toNat / 0x40 % 0x40) * 0x40 +
          c.toNat % 0x40 = c.toNat := by omega
      simp only [List.cons_append, List.nil_append, decodeChar?, lead, tail, Option.bind_eq_bind,
        Option.bind_some, value, back]
      rw [if_neg (by omega), if_neg (by omega), if_neg (by omega), if_pos (by omega),
        if_pos (by omega)]
      rfl
  · next one two three =>
      have lead := byte (n := 0xF0 + c.toNat / 0x40000) (by omega)
      have value : (((0xF0 + c.toNat / 0x40000 - 0xF0) * 0x40 + c.toNat / 0x1000 % 0x40) * 0x40 +
          c.toNat / 0x40 % 0x40) * 0x40 + c.toNat % 0x40 = c.toNat := by omega
      simp only [List.cons_append, List.nil_append, decodeChar?, lead, tail, Option.bind_eq_bind,
        Option.bind_some, value, back]
      rw [if_neg (by omega), if_neg (by omega), if_neg (by omega), if_neg (by omega),
        if_pos (by omega), if_pos (by omega)]
      rfl

end Utf8

namespace Text

theorem readFrom_eq_drop (skip : Nat) (bytes : Bytes) :
    readFrom skip bytes = readFrom 0 (bytes.drop skip) := by
  induction skip generalizing bytes with
  | zero => rfl
  | succ skip ih =>
      cases bytes with
      | nil => cases skip <;> rfl
      | cons b rest => exact ih rest

/-- No byte is lost in reading, and none is added. -/
@[simp] theorem toBytes_ofBytes (bytes : Bytes) : (ofBytes bytes).toBytes = bytes := by
  suffices h : ∀ n (bytes : Bytes), bytes.length ≤ n → (readFrom 0 bytes).toBytes = bytes from
    h _ bytes (Nat.le_refl _)
  intro n
  induction n with
  | zero =>
      intro bytes short
      rw [List.length_eq_zero_iff.mp (Nat.le_zero.mp short)]
      rfl
  | succ n ih =>
      intro bytes short
      cases bytes with
      | nil => rfl
      | cons b rest =>
          have shorter (k : Nat) : (rest.drop k).length ≤ n := by
            simp only [List.length_cons, List.length_drop] at short ⊢
            omega
          rw [readFrom]
          split
          · next ch size decoded =>
              obtain ⟨rest', eq, rfl⟩ := Utf8.decodeChar?_eq_some decoded
              have tail : rest.drop ((Utf8.encodeChar ch).length - 1) = rest' := by
                have filled : 0 < (Utf8.encodeChar ch).length := Utf8.encodeChar_length_pos ch
                have drop := congrArg (List.drop (Utf8.encodeChar ch).length) eq
                rw [List.drop_left] at drop
                rw [← drop, ← Nat.succ_pred_eq_of_pos filled]
                rfl
              rw [readFrom_eq_drop, toBytes, List.flatMap_cons, ← toBytes, ih _ (shorter _), tail]
              exact eq.symm
          · rw [toBytes, List.flatMap_cons, ← toBytes]
            exact congrArg (b :: ·) (ih rest (shorter 0))

/-! ## UTF-8 -/

/-- The bytes are the UTF-8 form of some characters. -/
def IsUtf8 (bytes : Bytes) : Prop :=
  ∃ chars : List Char, bytes = chars.flatMap String.utf8EncodeChar

theorem ofBytes_append (c : Char) (rest : Bytes) :
    ofBytes (Utf8.encodeChar c ++ rest) = .char c :: ofBytes rest := by
  obtain ⟨b, more, eq⟩ := List.exists_cons_of_length_pos (Utf8.encodeChar_length_pos c)
  have decoded := Utf8.decodeChar?_append c rest
  have tail : (more ++ rest).drop ((Utf8.encodeChar c).length - 1) = rest := by
    rw [eq, List.length_cons, Nat.add_sub_cancel, List.drop_left]
  rw [eq, List.cons_append] at decoded ⊢
  rw [ofBytes, readFrom, decoded]
  dsimp only
  rw [readFrom_eq_drop, ← eq, tail]
  rfl

/-- What is written as characters is read as these characters. -/
theorem ofBytes_encoded (chars : List Char) :
    ofBytes (chars.flatMap Utf8.encodeChar) = ofChars chars := by
  induction chars with
  | nil => rfl
  | cons c chars ih => rw [List.flatMap_cons, ofBytes_append, ih]; rfl

theorem chars?_eq_some_iff {t : Text} {chars : List Char} :
    t.chars? = some chars ↔ t = ofChars chars := by
  induction t generalizing chars with
  | nil => cases chars <;> simp [chars?, ofChars]
  | cons g t ih =>
      cases g with
      | stray b => cases chars <;> simp [chars?, ofChars, Glyph.char?]
      | char c =>
          have step : chars? (.char c :: t) = (chars? t).bind fun cs => some (c :: cs) := by
            simp [chars?, Glyph.char?]
          rw [step, Option.bind_eq_some_iff]
          constructor
          · rintro ⟨cs, read, ⟨⟩⟩
            rw [ih.mp read]
            rfl
          · intro eq
            obtain ⟨_, cs, rfl, ⟨⟩, rfl⟩ := List.map_eq_cons_iff.mp eq.symm
            exact ⟨cs, ih.mpr rfl, rfl⟩

/-- Bytes are decoded to the characters of which they are the UTF-8 form. -/
theorem decode?_eq_some_iff {bytes : Bytes} {chars : List Char} :
    decode? bytes = some chars ↔ bytes = chars.flatMap String.utf8EncodeChar := by
  have form : (ofChars chars).toBytes = chars.flatMap Utf8.encodeChar := List.flatMap_map ..
  rw [decode?, chars?_eq_some_iff, ← funext Utf8.encodeChar_eq]
  constructor
  · intro read
    rw [← form, ← read, toBytes_ofBytes]
  · rintro rfl
    exact ofBytes_encoded chars

theorem isUtf8_iff_decode? {bytes : Bytes} :
    IsUtf8 bytes ↔ ∃ chars, decode? bytes = some chars := by
  simp only [decode?_eq_some_iff, IsUtf8]

theorem utf8?_ofBytes {bytes : Bytes} (encoded : IsUtf8 bytes) :
    (ofBytes bytes).utf8? = some bytes := by
  obtain ⟨chars, decoded⟩ := isUtf8_iff_decode?.mp encoded
  have form := decode?_eq_some_iff.mp decoded
  rw [← funext Utf8.encodeChar_eq] at form
  rw [utf8?, ← decode?, decoded, Option.map_some, ← form]

theorem utf8?_ofBytes_eq_none {bytes : Bytes} (stray : ¬ IsUtf8 bytes) :
    (ofBytes bytes).utf8? = none := by
  rw [utf8?, ← decode?, Option.map_eq_none_iff, Option.eq_none_iff_forall_ne_some]
  exact fun chars decoded => stray (isUtf8_iff_decode?.mpr ⟨chars, decoded⟩)

end Text
end VncAccess
