import BearerSession.Text.Utf8
import Mathlib

/-!
# Decoding what was encoded

The strict decoder gives back every text from its octets: `decode? (encode s) = some s`.

The argument is one character at a time. `step_utf8EncodeChar` runs the decoder's first step
on the one to four octets of a character, whatever follows them: the lead octet falls in the
range `lead` gives for its length, the continuation octets in the ranges the lead octet
allows, and the bits gathered are the character's value. The sequence of a whole text is the
concatenation of its characters' octets, so the strict decoder reads them back one by one.
-/

namespace BearerSession.Text.Utf8

/-! ## The lead octet of each length -/

theorem lead_one {b : UInt8} (h : b.toNat < 0x80) : lead b = some (0, 0x80, 0xBF) := by
  simp [lead, UInt8.lt_iff_toNat_lt, h]

theorem lead_two {b : UInt8} (h₁ : 0xC2 ≤ b.toNat) (h₂ : b.toNat < 0xE0) :
    lead b = some (1, 0x80, 0xBF) := by
  simp only [lead, UInt8.lt_iff_toNat_lt, beq_iff_eq, ← UInt8.toNat_inj, UInt8.reduceToNat]
  split_ifs <;> first | rfl | omega

theorem lead_three {b : UInt8} (h₁ : 0xE0 ≤ b.toNat) (h₂ : b.toNat < 0xF0) :
    lead b = some (2, if b.toNat = 0xE0 then 0xA0 else 0x80,
      if b.toNat = 0xED then 0x9F else 0xBF) := by
  simp only [lead, UInt8.lt_iff_toNat_lt, beq_iff_eq, ← UInt8.toNat_inj, UInt8.reduceToNat]
  split_ifs <;> first | rfl | omega

theorem lead_four {b : UInt8} (h₁ : 0xF0 ≤ b.toNat) (h₂ : b.toNat ≤ 0xF4) :
    lead b = some (3, if b.toNat = 0xF0 then 0x90 else 0x80,
      if b.toNat = 0xF4 then 0x8F else 0xBF) := by
  simp only [lead, UInt8.lt_iff_toNat_lt, beq_iff_eq, ← UInt8.toNat_inj, UInt8.reduceToNat]
  split_ifs <;> first | rfl | omega

/-! ## One character -/

theorem toNat_ofNat_of_lt {n : Nat} (h : n < 256) : (UInt8.ofNat n).toNat = n := by
  simp [Nat.mod_eq_of_lt h]

/-- A continuation octet in the range allowed adds its six bits to the code point. -/
theorem tail_succ {n : Nat} {lo hi c : UInt8} {acc : Nat} {rest : List UInt8}
    (hlo : lo.toNat ≤ c.toNat) (hhi : c.toNat ≤ hi.toNat) :
    tail (n + 1) lo hi acc (c :: rest) = tail n 0x80 0xBF (acc * 64 + c.toNat % 64) rest := by
  simp [tail, UInt8.le_iff_toNat_le, hlo, hhi]

/-- A continuation octet after the first, which lies in `0x80..0xBF`. -/
theorem tail_succ_cont {n : Nat} {c : UInt8} {acc : Nat} {rest : List UInt8}
    (hc : 0x80 ≤ c.toNat ∧ c.toNat ≤ 0xBF) :
    tail (n + 1) 0x80 0xBF acc (c :: rest) = tail n 0x80 0xBF (acc * 64 + c.toNat % 64) rest :=
  tail_succ hc.1 hc.2

/-- The step on a leading octet whose continuation octets gather the value of `c`. -/
theorem step_of_tail {b lo hi : UInt8} {n : Nat} {bytes rest : List UInt8} {c : Char}
    (hlead : lead b = some (n, lo, hi))
    (htail : tail n lo hi (leadBits b n) bytes = (some c.val.toNat, rest)) :
    step (b :: bytes) = some (some c, rest) := by
  simp only [step, hlead, htail, Option.map_some]
  rw [show Char.ofNat c.val.toNat = c from Char.ofNat_toNat c]

theorem step_utf8EncodeChar (c : Char) (rest : List UInt8) :
    step (String.utf8EncodeChar c ++ rest) = some (some c, rest) := by
  have hvalid : c.val.toNat < 0xD800 ∨ (0xDFFF < c.val.toNat ∧ c.val.toNat < 0x110000) := by
    simpa [UInt32.isValidChar, Nat.isValidChar] using c.valid
  -- simp writes the value of a character either way
  have hcv : c.toNat = c.val.toNat := rfl
  unfold String.utf8EncodeChar
  dsimp only
  split_ifs with h₁ h₂ h₃ <;> simp only [List.cons_append, List.nil_append]
  · -- one octet
    have hb := toNat_ofNat_of_lt (n := c.val.toNat) (by omega)
    refine step_of_tail (lead_one (by omega)) ?_
    rw [leadBits, hb, tail]
  · -- two octets
    have hb₀ := toNat_ofNat_of_lt (n := c.val.toNat / 64 % 0x20 + 0xc0) (by omega)
    have hb₁ := toNat_ofNat_of_lt (n := c.val.toNat % 0x40 + 0x80) (by omega)
    generalize UInt8.ofNat (c.val.toNat / 64 % 0x20 + 0xc0) = b₀ at hb₀ ⊢
    generalize UInt8.ofNat (c.val.toNat % 0x40 + 0x80) = b₁ at hb₁ ⊢
    refine step_of_tail (lead_two (by omega) (by omega)) ?_
    rw [tail_succ_cont (by omega), tail, leadBits, hb₀, hb₁]
    congr 2
    omega
  · -- three octets: the first continuation octet excludes overlong forms and surrogates
    have hb₀ := toNat_ofNat_of_lt (n := c.val.toNat / 4096 % 0x10 + 0xe0) (by omega)
    have hb₁ := toNat_ofNat_of_lt (n := c.val.toNat / 64 % 0x40 + 0x80) (by omega)
    have hb₂ := toNat_ofNat_of_lt (n := c.val.toNat % 0x40 + 0x80) (by omega)
    generalize UInt8.ofNat (c.val.toNat / 4096 % 0x10 + 0xe0) = b₀ at hb₀ ⊢
    generalize UInt8.ofNat (c.val.toNat / 64 % 0x40 + 0x80) = b₁ at hb₁ ⊢
    generalize UInt8.ofNat (c.val.toNat % 0x40 + 0x80) = b₂ at hb₂ ⊢
    refine step_of_tail (lead_three (by omega) (by omega)) ?_
    rw [tail_succ (by split_ifs <;> simp only [UInt8.reduceToNat] <;> omega)
        (by split_ifs <;> simp only [UInt8.reduceToNat] <;> omega),
      tail_succ_cont (by omega), tail, leadBits, hb₀, hb₁, hb₂]
    congr 2
    omega
  · -- four octets: the first continuation octet keeps the value at most U+10FFFF
    have hb₀ := toNat_ofNat_of_lt (n := c.val.toNat / 262144 % 0x08 + 0xf0) (by omega)
    have hb₁ := toNat_ofNat_of_lt (n := c.val.toNat / 4096 % 0x40 + 0x80) (by omega)
    have hb₂ := toNat_ofNat_of_lt (n := c.val.toNat / 64 % 0x40 + 0x80) (by omega)
    have hb₃ := toNat_ofNat_of_lt (n := c.val.toNat % 0x40 + 0x80) (by omega)
    generalize UInt8.ofNat (c.val.toNat / 262144 % 0x08 + 0xf0) = b₀ at hb₀ ⊢
    generalize UInt8.ofNat (c.val.toNat / 4096 % 0x40 + 0x80) = b₁ at hb₁ ⊢
    generalize UInt8.ofNat (c.val.toNat / 64 % 0x40 + 0x80) = b₂ at hb₂ ⊢
    generalize UInt8.ofNat (c.val.toNat % 0x40 + 0x80) = b₃ at hb₃ ⊢
    refine step_of_tail (lead_four (by omega) (by omega)) ?_
    rw [tail_succ (by split_ifs <;> simp only [UInt8.reduceToNat] <;> omega)
        (by split_ifs <;> simp only [UInt8.reduceToNat] <;> omega),
      tail_succ_cont (by omega), tail_succ_cont (by omega), tail]
    simp only [leadBits]
    rw [hb₀, hb₁, hb₂, hb₃]
    congr 2
    omega

/-! ## A whole text -/

theorem decodeCharsStrict?_flatMap (l : List Char) :
    decodeCharsStrict? (l.flatMap String.utf8EncodeChar) = some l := by
  induction l with
  | nil =>
    rw [decodeCharsStrict?]
    rfl
  | cons c l ih =>
    rw [decodeCharsStrict?, List.flatMap_cons]
    split
    · next h =>
      rw [step_utf8EncodeChar] at h
      cases h
    · next h =>
      rw [step_utf8EncodeChar] at h
      cases h
    · next c' rest h =>
      rw [step_utf8EncodeChar] at h
      cases h
      simp [ih]

/-- The octets of a packed array, as the loop of its conversion lists them. -/
theorem toList_loop (bs : ByteArray) (i : Nat) (r : List UInt8) :
    ByteArray.toList.loop bs i r = r.reverse ++ bs.data.toList.drop i := by
  induction i, r using ByteArray.toList.loop.induct bs with
  | case1 i r hlt ih =>
    rw [ByteArray.toList.loop, if_pos hlt, ih]
    have hi : i < bs.data.toList.length := by simpa using hlt
    have hget : bs.get! i = bs.data.toList[i] := by
      simp only [ByteArray.get!, Array.getElem_toList]
      exact getElem!_pos bs.data i (by simpa using hlt)
    rw [List.drop_eq_getElem_cons hi, hget]
    simp
  | case2 i r hge =>
    rw [ByteArray.toList.loop, if_neg hge]
    have hle : bs.data.toList.length ≤ i := by simpa using hge
    simp [List.drop_eq_nil_of_le hle]

theorem toList_eq_data_toList (bs : ByteArray) : bs.toList = bs.data.toList := by
  rw [ByteArray.toList, toList_loop]
  simp

theorem toUTF8_toList (s : String) : s.toUTF8.toList = s.toList.flatMap String.utf8EncodeChar := by
  rw [toList_eq_data_toList, String.toUTF8_eq_toByteArray, ← String.utf8Encode_toList]
  simp [List.utf8Encode]

theorem encode_eq_flatMap (s : String) : encode s = s.toList.flatMap String.utf8EncodeChar :=
  toUTF8_toList s

theorem encode_append (s t : String) : encode (s ++ t) = encode s ++ encode t := by
  simp [encode_eq_flatMap, String.toList_append]

theorem decode?_toUTF8 (s : String) : decode? s.toUTF8.toList = some s := by
  rw [decode?, toUTF8_toList, decodeCharsStrict?_flatMap, Option.map_some, String.ofList_toList]

theorem decode?_encode (s : String) : decode? (encode s) = some s :=
  decode?_toUTF8 s

end BearerSession.Text.Utf8
