import Mathlib
import SeedSync.Proofs.Error
import SeedSync.Proofs.Text.Utf8
import SeedSync.Text.Hex

/-!
What is read as hexadecimal: two digits for each byte, in either case. Bytes that are written are
among it, and are read back.
-/

namespace SeedSync.Hex

lemma join_halves (b : UInt8) : b >>> 4 <<< 4 ||| b &&& 15 = b := by
  have hb := b.toNat_lt
  have hlow : b.toNat &&& 15 = b.toNat % 2 ^ 4 := Nat.and_two_pow_sub_one_eq_mod b.toNat 4
  have hhigh : b.toNat >>> 4 = b.toNat / 2 ^ 4 := Nat.shiftRight_eq_div_pow b.toNat 4
  have hshift : (b.toNat / 2 ^ 4) <<< 4 = b.toNat / 2 ^ 4 * 2 ^ 4 := Nat.shiftLeft_eq _ 4
  refine UInt8.toNat_inj.mp ?_
  simp only [UInt8.toNat_or, UInt8.toNat_shiftLeft, UInt8.toNat_shiftRight, UInt8.toNat_and]
  change (b.toNat >>> 4) <<< 4 % 256 ||| b.toNat &&& 15 = b.toNat
  rw [hlow, hhigh, Nat.mod_eq_of_lt (by omega),
    ← Nat.shiftLeft_add_eq_or_of_lt (Nat.mod_lt _ (by decide)), hshift]
  omega

lemma halves_lt (b : UInt8) : b >>> 4 < 16 ∧ b &&& 15 < 16 := by
  have hb := b.toNat_lt
  have hlow : b.toNat &&& 15 = b.toNat % 2 ^ 4 := Nat.and_two_pow_sub_one_eq_mod b.toNat 4
  have hhigh : b.toNat >>> 4 = b.toNat / 2 ^ 4 := Nat.shiftRight_eq_div_pow b.toNat 4
  constructor
  · rw [UInt8.lt_iff_toNat_lt, UInt8.toNat_shiftRight]
    change b.toNat >>> 4 < 16
    omega
  · rw [UInt8.lt_iff_toNat_lt, UInt8.toNat_and]
    change b.toNat &&& 15 < 16
    omega

/-! ### In either case -/

def lower (b : UInt8) : UInt8 := if 65 ≤ b ∧ b ≤ 90 then b + 32 else b

lemma lower_digit {n : UInt8} (h : n < 16) : lower (digit n) = digit n := by
  have hall : ∀ n < 16, lower (digit (UInt8.ofNat n)) = digit (UInt8.ofNat n) := by decide
  simpa using hall n.toNat (UInt8.lt_iff_toNat_lt.mp h)

lemma value?_digit {n : UInt8} (h : n < 16) : value? (digit n) = some n := by
  have hall : ∀ n < 16, value? (digit (UInt8.ofNat n)) = some (UInt8.ofNat n) := by decide
  simpa using hall n.toNat (UInt8.lt_iff_toNat_lt.mp h)

lemma value?_lower (b : UInt8) : value? (lower b) = value? b := by
  have hall : ∀ b < 256, value? (lower (UInt8.ofNat b)) = value? (UInt8.ofNat b) := by
    decide +kernel
  simpa using hall b.toNat b.toNat_lt

lemma value?_eq_some_iff {b n : UInt8} : value? b = some n ↔ n < 16 ∧ lower b = digit n := by
  have hall : ∀ b < 256, (value? (UInt8.ofNat b)).all fun n =>
      decide (n < 16 ∧ lower (UInt8.ofNat b) = digit n) := by
    decide +kernel
  constructor
  · intro h
    have hb := hall b.toNat b.toNat_lt
    rw [UInt8.ofNat_toNat, h] at hb
    simpa using hb
  · rintro ⟨hn, hb⟩
    rw [← value?_lower, hb, value?_digit hn]

lemma encodeByte_join {h l : UInt8} (hh : h < 16) (hl : l < 16) :
    encodeByte (h <<< 4 ||| l) = [digit h, digit l] := by
  have hall : ∀ h < 16, ∀ l < 16,
      encodeByte (UInt8.ofNat h <<< 4 ||| UInt8.ofNat l) =
        [digit (UInt8.ofNat h), digit (UInt8.ofNat l)] := by
    decide +kernel
  have := hall h.toNat (UInt8.lt_iff_toNat_lt.mp hh) l.toNat (UInt8.lt_iff_toNat_lt.mp hl)
  rwa [UInt8.ofNat_toNat, UInt8.ofNat_toNat] at this

lemma decodePairs_of_lower {bs digits : List UInt8} (h : digits.map lower = bs.flatMap encodeByte)
    (position : ℕ) (done : Array UInt8) : decodePairs position done digits = .ok (done ++ bs) := by
  induction bs generalizing digits position done with
  | nil =>
    obtain rfl := List.map_eq_nil_iff.mp h
    simp [decodePairs]
  | cons b bs ih =>
    rw [List.flatMap_cons, encodeByte, List.cons_append, List.cons_append, List.nil_append] at h
    obtain ⟨hi, digits, rfl, hhi, h⟩ := List.map_eq_cons_iff.mp h
    obtain ⟨lo, digits, rfl, hlo, h⟩ := List.map_eq_cons_iff.mp h
    obtain ⟨hhigh, hlow⟩ := halves_lt b
    rw [decodePairs, value?_eq_some_iff.mpr ⟨hhigh, hhi⟩, value?_eq_some_iff.mpr ⟨hlow, hlo⟩]
    dsimp only
    rw [join_halves, ih h]
    simp

lemma lower_of_decodePairs {digits : List UInt8} {position : ℕ} {done out : Array UInt8}
    (heven : digits.length % 2 = 0) (h : decodePairs position done digits = .ok out) :
    ∃ bs : List UInt8, out = done ++ bs ∧ digits.map lower = bs.flatMap encodeByte := by
  fun_induction decodePairs position done digits with
  | case1 position done hi lo rest h₁ l hlo hhi ih =>
    obtain ⟨bs, rfl, hbs⟩ := ih (by simp only [List.length_cons] at heven; omega) h
    obtain ⟨hh, hhi⟩ := value?_eq_some_iff.mp hhi
    obtain ⟨hl, hlo⟩ := value?_eq_some_iff.mp hlo
    refine ⟨(h₁ <<< 4 ||| l) :: bs, by simp, ?_⟩
    rw [List.flatMap_cons, encodeByte_join hh hl, ← hbs, List.map_cons, List.map_cons, hhi, hlo]
    rfl
  | case2 => cases h
  | case3 => cases h
  | case4 rest position done hpair =>
    obtain rfl := Except.ok.inj h
    rcases rest with _ | ⟨x, _ | ⟨y, rest⟩⟩
    · exact ⟨[], by simp, rfl⟩
    · simp at heven
    · exact absurd rfl (hpair x y rest)

/-- **What is read as hexadecimal**: two digits for each byte, in either case. -/
lemma decode_eq_ok_iff {digits bs : List UInt8} :
    decode digits = .ok bs ↔ digits.map lower = bs.flatMap encodeByte := by
  have heven : (bs.flatMap encodeByte).length = bs.length * 2 := by
    rw [List.length_flatMap]
    simp [encodeByte]
  rw [decode]
  constructor
  · intro h
    split at h
    · cases h
    · obtain ⟨out, hout, rfl⟩ := map_ok.mp h
      obtain ⟨bs, rfl, hbs⟩ := lower_of_decodePairs (by omega) hout
      simpa using hbs
  · intro h
    have hlen := congrArg List.length h
    rw [List.length_map, heven] at hlen
    rw [if_neg (by omega), decodePairs_of_lower h]
    simp [Except.map]

/-! ### As text -/

lemma toNat_digit {n : UInt8} (h : n < 16) :
    48 ≤ (digit n).toNat ∧ (digit n).toNat < 127 := by
  have hall : ∀ n < 16,
      48 ≤ (digit (UInt8.ofNat n)).toNat ∧ (digit (UInt8.ofNat n)).toNat < 127 := by
    decide
  simpa using hall n.toNat (UInt8.lt_iff_toNat_lt.mp h)

lemma toNat_of_mem_digits {bs : List UInt8} {x : UInt8} (h : x ∈ bs.flatMap encodeByte) :
    48 ≤ x.toNat ∧ x.toNat < 127 := by
  obtain ⟨b, -, hx⟩ := List.mem_flatMap.mp h
  obtain ⟨hhigh, hlow⟩ := halves_lt b
  simp only [encodeByte, List.mem_cons, List.not_mem_nil, or_false] at hx
  rcases hx with rfl | rfl
  · exact toNat_digit hhigh
  · exact toNat_digit hlow

lemma toNat_ofNat_of_lt {n : ℕ} (h : n < 128) : (Char.ofNat n).toNat = n := by
  rw [Char.ofNat, dif_pos (.inl (by omega))]
  exact UInt32.toNat_ofNatLT

lemma toNat_of_mem_encode {bs : List UInt8} {c : Char} (h : c ∈ (encode bs).toList) :
    48 ≤ c.toNat ∧ c.toNat < 127 := by
  rw [encode, String.toList_ofList, List.mem_map] at h
  obtain ⟨x, hx, rfl⟩ := h
  have := toNat_of_mem_digits hx
  rwa [toNat_ofNat_of_lt (by omega)]

lemma toLower_lt_iff {c : Char} : c.toLower.toNat < 128 ↔ c.toNat < 128 := by
  have hall : ∀ n < 128, (Char.ofNat n).toLower.toNat < 128 := by decide +kernel
  refine ⟨fun h => ?_, fun h => by simpa using hall c.toNat h⟩
  rw [Char.toLower] at h
  split at h
  · next hupper =>
    have hle : c.toNat ≤ 'Z'.toNat := UInt32.le_iff_toNat_le.mp hupper.2
    exact hle.trans_lt (by decide)
  · exact h

lemma lower_byte {c : Char} (h : c.toNat < 128) :
    lower (UInt8.ofNat c.toNat) = UInt8.ofNat c.toLower.toNat := by
  have hall : ∀ n < 128, lower (UInt8.ofNat n) = UInt8.ofNat (Char.ofNat n).toLower.toNat := by
    decide +kernel
  have := hall c.toNat h
  rwa [Char.ofNat_toNat] at this

lemma lt_of_lower_lt {b : UInt8} (h : (lower b).toNat < 128) : b.toNat < 128 := by
  rw [lower] at h
  split at h
  · next hupper =>
    have hle := UInt8.le_iff_toNat_le.mp hupper.2
    exact hle.trans_lt (by decide)
  · exact h

lemma map_lower_ascii {cs : List Char} (h : ∀ c ∈ cs, c.toNat < 128) :
    (Utf8.ascii cs).map lower = Utf8.ascii (cs.map Char.toLower) := by
  rw [Utf8.ascii, Utf8.ascii, List.map_map, List.map_map]
  exact List.map_congr_left fun c hc => lower_byte (h c hc)

lemma ascii_encode (bs : List UInt8) : Utf8.ascii (encode bs).toList = bs.flatMap encodeByte := by
  rw [encode, String.toList_ofList, Utf8.ascii, List.map_map]
  refine (List.map_congr_left fun x hx => ?_).trans (List.map_id _)
  have := toNat_of_mem_digits hx
  simp [toNat_ofNat_of_lt (show x.toNat < 128 by omega)]

lemma toNat_lt_of_mem_encode (bs : List UInt8) : ∀ c ∈ (encode bs).toList, c.toNat < 128 :=
  fun c hc => (toNat_of_mem_encode hc).2.trans (by decide)

/-- **A text is read as hexadecimal** if it is what is written, in either case. -/
lemma decode_utf8_eq_ok_iff {cs : List Char} {bs : List UInt8} :
    decode (Utf8.encode (String.ofList cs)) = .ok bs ↔
      cs.map Char.toLower = (encode bs).toList := by
  have hwritten := toNat_lt_of_mem_encode bs
  rw [decode_eq_ok_iff]
  constructor
  · intro h
    have hascii : ∀ c ∈ cs, c.toNat < 128 := by
      refine Utf8.lt_of_forall_mem_encode fun b hb => lt_of_lower_lt ?_
      have hdigit : lower b ∈ bs.flatMap encodeByte := h ▸ List.mem_map_of_mem hb
      have := toNat_of_mem_digits hdigit
      omega
    have hlower : ∀ c ∈ cs.map Char.toLower, c.toNat < 128 :=
      List.forall_mem_map.mpr fun c hc => toLower_lt_iff.mpr (hascii c hc)
    rw [Utf8.encode_ofList_of_ascii hascii, map_lower_ascii hascii, ← ascii_encode] at h
    exact Utf8.ascii_inj hlower hwritten h
  · intro h
    have hascii : ∀ c ∈ cs, c.toNat < 128 := fun c hc =>
      toLower_lt_iff.mp (hwritten _ (h ▸ List.mem_map_of_mem hc))
    rw [Utf8.encode_ofList_of_ascii hascii, map_lower_ascii hascii, h, ascii_encode]

lemma decode_encode (bs : List UInt8) : decode (Utf8.encode (encode bs)) = .ok bs := by
  have hlower : (bs.flatMap encodeByte).map lower = bs.flatMap encodeByte := by
    rw [List.map_flatMap]
    refine List.flatMap_congr fun b _ => ?_
    obtain ⟨hhigh, hlow⟩ := halves_lt b
    rw [encodeByte, List.map_cons, List.map_singleton, lower_digit hhigh, lower_digit hlow]
  have hbytes : Utf8.encode (encode bs) = bs.flatMap encodeByte := by
    rw [← ascii_encode, ← Utf8.encode_ofList_of_ascii (toNat_lt_of_mem_encode bs),
      String.ofList_toList]
  rw [decode_eq_ok_iff, hbytes, hlower]

end SeedSync.Hex
