import Mathlib
import SeedSync.Text.Base64

/-!
Base64 both ways: what is written is read back, and nothing else is read as the same bytes.
-/

namespace SeedSync.Base64

variable {a b c d : Char} {i j k l n : ℕ} {cs rest : List Char} {bs : List UInt8}

/-! ### Digits -/

lemma value?_digit (n : ℕ) : value? (digit n) = some (n % 64) := by
  have hall : ∀ m < 64, value? (alphabet.getD m 'A') = some m := by decide +kernel
  exact hall _ (Nat.mod_lt n (by decide))

lemma value?_eq_some_iff : value? c = some n ↔ n < 64 ∧ digit n = c := by
  constructor
  · intro h
    obtain ⟨hlt, hc, -⟩ := List.findIdx?_eq_some_iff_getElem.mp h
    have hlt' : n < 64 := hlt
    rw [digit, Nat.mod_eq_of_lt hlt', List.getD_eq_getElem _ _ hlt]
    exact ⟨hlt', beq_iff_eq.mp hc⟩
  · rintro ⟨hlt, rfl⟩
    rw [value?_digit, Nat.mod_eq_of_lt hlt]

lemma digit_congr {m n : ℕ} (h : m % 64 = n % 64) : digit m = digit n := by
  rw [digit, digit, h]

lemma ne_pad_of_value? (h : value? c = some n) : c ≠ '=' := by
  rintro rfl
  have hpad : value? '=' = none := by decide +kernel
  rw [hpad] at h
  cases h

lemma ofNat_eq_iff {x : UInt8} : UInt8.ofNat n = x ↔ n % 256 = x.toNat := by
  rw [← UInt8.toNat_inj, UInt8.toNat_ofNat']

/-! ### One group -/

lemma decode?_three (ha : value? a = some i) (hb : value? b = some j) (hc : value? c = some k)
    (hd : value? d = some l) (rest : List Char) : decode? (a :: b :: c :: d :: rest) =
      let n := ((i * 64 + j) * 64 + k) * 64 + l
      (decode? rest).map fun bs =>
        UInt8.ofNat (n / 65536) :: UInt8.ofNat (n / 256) :: UInt8.ofNat n :: bs := by
  have hd' := ne_pad_of_value? hd
  rw [decode?, ha, hb, hc, hd]
  · cases decode? rest <;> simp [Nat.shiftLeft_eq, Nat.shiftRight_eq_div_pow]
  · exact fun _ hpad => absurd hpad hd'
  · exact fun hpad => absurd hpad hd'

lemma decode?_two (ha : value? a = some i) (hb : value? b = some j) (hc : value? c = some k) :
    decode? [a, b, c, '='] =
      let n := (i * 64 + j) * 64 + k
      if n % 4 = 0 then some [UInt8.ofNat (n / 1024), UInt8.ofNat (n / 4)] else none := by
  rw [decode?, ha, hb, hc]
  · simp [Nat.shiftLeft_eq, Nat.shiftRight_eq_div_pow]
  · exact fun hpad => absurd hpad (ne_pad_of_value? hc)

lemma decode?_one (ha : value? a = some i) (hb : value? b = some j) :
    decode? [a, b, '=', '='] =
      let n := i * 64 + j
      if n % 16 = 0 then some [UInt8.ofNat (n / 16)] else none := by
  rw [decode?, ha, hb]
  simp [Nat.shiftLeft_eq, Nat.shiftRight_eq_div_pow]

/-- **What is written is read back.** -/
lemma decode?_encode (bs : List UInt8) : decode? (encode bs) = some bs := by
  fun_induction encode bs with
  | case1 => rfl
  | case2 a n =>
    have ha := a.toNat_lt
    have hn : n = a.toNat * 16 := Nat.shiftLeft_eq _ _
    rw [decode?_one (value?_digit _) (value?_digit _)]
    rw [Nat.shiftRight_eq_div_pow]
    have hjoin : n / 2 ^ 6 % 64 * 64 + n % 64 = n := by omega
    simp only [hjoin]
    rw [if_pos (by omega), ofNat_eq_iff.mpr (by omega : n / 16 % 256 = a.toNat)]
  | case3 a b n =>
    have ha := a.toNat_lt
    have hb := b.toNat_lt
    have hn : n = (a.toNat * 256 + b.toNat) * 4 := by simp [n, Nat.shiftLeft_eq]
    rw [decode?_two (value?_digit _) (value?_digit _) (value?_digit _)]
    simp only [Nat.shiftRight_eq_div_pow]
    have hjoin : (n / 2 ^ 12 % 64 * 64 + n / 2 ^ 6 % 64) * 64 + n % 64 = n := by omega
    rw [hjoin, if_pos (by omega), ofNat_eq_iff.mpr (by omega : n / 1024 % 256 = a.toNat),
      ofNat_eq_iff.mpr (by omega : n / 4 % 256 = b.toNat)]
  | case4 a b c rest n ih =>
    have ha := a.toNat_lt
    have hb := b.toNat_lt
    have hc := c.toNat_lt
    have hn : n = (a.toNat * 256 + b.toNat) * 256 + c.toNat := by simp [n, Nat.shiftLeft_eq]
    rw [decode?_three (value?_digit _) (value?_digit _) (value?_digit _) (value?_digit _), ih]
    simp only [Nat.shiftRight_eq_div_pow]
    have hjoin :
        ((n / 2 ^ 18 % 64 * 64 + n / 2 ^ 12 % 64) * 64 + n / 2 ^ 6 % 64) * 64 + n % 64 = n := by
      omega
    rw [hjoin, ofNat_eq_iff.mpr (by omega : n / 65536 % 256 = a.toNat),
      ofNat_eq_iff.mpr (by omega : n / 256 % 256 = b.toNat),
      ofNat_eq_iff.mpr (by omega : n % 256 = c.toNat)]
    rfl

/-! ### Bytes of a group -/

lemma encode_one (hn : n < 4096) (hpad : n % 16 = 0) :
    encode [UInt8.ofNat (n >>> 4)] = [digit (n / 64), digit n, '=', '='] := by
  have hjoin : n / 2 ^ 4 % 256 * 2 ^ 4 = n := by omega
  simp only [encode, UInt8.toNat_ofNat', Nat.shiftLeft_eq, Nat.shiftRight_eq_div_pow, hjoin]

lemma encode_two (hn : n < 262144) (hpad : n % 4 = 0) :
    encode [UInt8.ofNat (n >>> 10), UInt8.ofNat (n >>> 2)] =
      [digit (n / 4096), digit (n / 64), digit n, '='] := by
  have hjoin : (n / 2 ^ 10 % 256 * 2 ^ 8 + n / 2 ^ 2 % 256) * 2 ^ 2 = n := by omega
  simp only [encode, UInt8.toNat_ofNat', Nat.shiftLeft_eq, Nat.shiftRight_eq_div_pow, hjoin]

lemma encode_three (hn : n < 16777216) (bs : List UInt8) :
    encode (UInt8.ofNat (n >>> 16) :: UInt8.ofNat (n >>> 8) :: UInt8.ofNat n :: bs) =
      digit (n / 262144) :: digit (n / 4096) :: digit (n / 64) :: digit n :: encode bs := by
  have hjoin : (n / 2 ^ 16 % 256 * 2 ^ 8 + n / 2 ^ 8 % 256) * 2 ^ 8 + n % 256 = n := by omega
  simp only [encode, UInt8.toNat_ofNat', Nat.shiftLeft_eq, Nat.shiftRight_eq_div_pow, hjoin]

lemma eq_encode_of_decode? (h : decode? cs = some bs) : cs = encode bs := by
  fun_induction decode? cs generalizing bs with
  | case1 =>
    obtain rfl := Option.some.inj h
    rfl
  | case2 a b =>
    simp only [Option.bind_eq_bind, Option.bind_eq_some_iff, value?_eq_some_iff] at h
    obtain ⟨i, ⟨hi, rfl⟩, j, ⟨hj, rfl⟩, h⟩ := h
    split at h
    · next hpad =>
      obtain rfl := Option.some.inj h
      rw [Nat.shiftLeft_eq] at hpad ⊢
      rw [encode_one (by omega) hpad, digit_congr (by omega : (i * 2 ^ 6 + j) / 64 % 64 = i % 64),
        digit_congr (by omega : (i * 2 ^ 6 + j) % 64 = j % 64)]
    · cases h
  | case3 a b c _ =>
    simp only [Option.bind_eq_bind, Option.bind_eq_some_iff, value?_eq_some_iff] at h
    obtain ⟨i, ⟨hi, rfl⟩, j, ⟨hj, rfl⟩, k, ⟨hk, rfl⟩, h⟩ := h
    split at h
    · next hpad =>
      obtain rfl := Option.some.inj h
      simp only [Nat.shiftLeft_eq] at hpad ⊢
      set n := (i * 2 ^ 6 + j) * 2 ^ 6 + k with hn
      rw [encode_two (by omega) hpad, digit_congr (by omega : n / 4096 % 64 = i % 64),
        digit_congr (by omega : n / 64 % 64 = j % 64), digit_congr (by omega : n % 64 = k % 64)]
    · cases h
  | case4 a b c d rest _ _ ih =>
    simp only [Option.bind_eq_bind, Option.bind_eq_some_iff, value?_eq_some_iff] at h
    obtain ⟨i, ⟨hi, rfl⟩, j, ⟨hj, rfl⟩, k, ⟨hk, rfl⟩, l, ⟨hl, rfl⟩, tail, htail, h⟩ := h
    obtain rfl := Option.some.inj h
    simp only [Nat.shiftLeft_eq]
    set n := ((i * 2 ^ 6 + j) * 2 ^ 6 + k) * 2 ^ 6 + l with hn
    rw [encode_three (by omega), ← ih htail, digit_congr (by omega : n / 262144 % 64 = i % 64),
      digit_congr (by omega : n / 4096 % 64 = j % 64),
      digit_congr (by omega : n / 64 % 64 = k % 64), digit_congr (by omega : n % 64 = l % 64)]
  | case5 => cases h

lemma decode?_eq_some_iff : decode? cs = some bs ↔ cs = encode bs :=
  ⟨eq_encode_of_decode?, fun h => h ▸ decode?_encode bs⟩

end SeedSync.Base64
