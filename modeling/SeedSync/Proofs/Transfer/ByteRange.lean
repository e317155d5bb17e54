import Mathlib
import SeedSync.Proofs.Text.Blank
import SeedSync.Proofs.Text.Decimal
import SeedSync.Transfer.ByteRange

/-!
The value of a Content-Range field: which texts are one, how a server writes it, and that it is read
back.
-/

namespace SeedSync

open Blank

namespace ByteRange

def totalText : Option ℕ → List Char
  | none => ['*']
  | some n => Decimal.render n

def contentRange (r : ByteRange) (total : Option ℕ) : List Char :=
  "bytes".toList ++ ' ' :: (Decimal.render r.first ++ '-' :: Decimal.render r.last) ++
    '/' :: totalText total

variable {r : ByteRange} {total : Option ℕ} {c : Char}

lemma toNat_of_mem_totalText (h : c ∈ totalText total) : 42 ≤ c.toNat ∧ c.toNat ≤ 57 := by
  cases total with
  | none =>
    obtain rfl := List.mem_singleton.mp h
    decide
  | some n =>
    have := Decimal.toNat_of_mem_render h
    omega

lemma toNat_of_mem_contentRange (h : c ∈ r.contentRange total) : 32 ≤ c.toNat ∧ c.toNat < 127 := by
  simp only [contentRange, List.mem_append, List.mem_cons] at h
  obtain (h | rfl | h | rfl | h) | rfl | h := h
  · have : ∀ c ∈ "bytes".toList, 32 ≤ c.toNat ∧ c.toNat < 127 := by simp
    exact this c h
  · decide
  · have := Decimal.toNat_of_mem_render h
    omega
  · decide
  · have := Decimal.toNat_of_mem_render h
    omega
  · decide
  · have := toNat_of_mem_totalText h
    omega

lemma trim_contentRange (r : ByteRange) (total : Option ℕ) :
    trim (' ' :: r.contentRange total) = r.contentRange total := by
  have hlast : trimEnd (totalText total) = totalText total :=
    dropTrailing_eq_self fun c hc => by
      have := toNat_of_mem_totalText hc
      exact isBlank_eq_false (by omega) (by omega)
  rw [trim_cons_of_blank (by decide), trim]
  have hfirst : trimStart (r.contentRange total) = r.contentRange total := rfl
  rw [hfirst, contentRange, trimEnd, dropTrailing_append_cons (by decide), ← trimEnd, hlast]

lemma bound?_eq_some_iff {cs : List Char} {n : ℕ} :
    bound? cs = some n ↔ Decimal.Denotes cs n ∧ n < UInt64.size := by
  rw [bound?, Option.filter_eq_some_iff, decide_eq_true_eq, Decimal.digits?_eq_some_iff_denotes]

/-- Just the values that name a range are read: the unit, one blank, the two places with a dash
between them, a slash, and any text. -/
lemma parseChars_eq_ok_iff {cs : List Char} : parseChars cs = .ok r ↔
    ∃ first last rest, cs = "bytes".toList ++ ' ' :: (first ++ '-' :: last ++ '/' :: rest) ∧
      Decimal.Denotes first r.first ∧ Decimal.Denotes last r.last ∧
      r.first ≤ r.last ∧ r.last < UInt64.size := by
  constructor
  · intro h
    rw [parseChars] at h
    dsimp only at h
    repeat' split at h
    all_goals cases h
    next _ unit spec hunit hbytes _ range rest hrest _ first last hdash _ f hfirst _ l hlast
      horder =>
    obtain ⟨rfl, -⟩ := Cut.eq_of_cut? hunit
    obtain ⟨rfl, -⟩ := Cut.eq_of_cut? hrest
    obtain ⟨rfl, -⟩ := Cut.eq_of_cut? hdash
    obtain ⟨hf, -⟩ := bound?_eq_some_iff.mp hfirst
    obtain ⟨hl, hlt⟩ := bound?_eq_some_iff.mp hlast
    exact ⟨first, last, rest, by rw [not_not.mp hbytes], hf, hl, not_lt.mp horder, hlt⟩
  · rintro ⟨first, last, rest, rfl, hfirst, hlast, horder, hlt⟩
    have hslash : '/' ∉ first ++ '-' :: last := by
      simp [hfirst.not_mem (c := '/') rfl, hlast.not_mem (c := '/') rfl]
    rw [parseChars, Cut.cut?_append_cons (by decide)]
    simp only [Cut.cut?_append_cons hslash, Cut.cut?_append_cons (hfirst.not_mem (c := '-') rfl),
      bound?_eq_some_iff.mpr ⟨hfirst, horder.trans_lt hlt⟩, bound?_eq_some_iff.mpr ⟨hlast, hlt⟩]
    simp [not_lt.mpr horder]

lemma parseChars_contentRange (horder : r.first ≤ r.last) (hlast : r.last < UInt64.size) :
    parseChars (r.contentRange total) = .ok r := by
  rw [parseChars_eq_ok_iff, contentRange, List.append_assoc, List.cons_append]
  exact ⟨_, _, _, rfl, Decimal.denotes_render _, Decimal.denotes_render _, horder, hlast⟩

/-! ### Lengths -/

/-- How many places a range has. The range of all places has one more than 64 bits can count. -/
def extent (r : ByteRange) : ℕ := r.last - r.first + 1

/-- A length is told up to multiples of what 64 bits can count. -/
lemma length_eq_mod (horder : r.first ≤ r.last) : r.length = r.extent % UInt64.size := by
  rw [length, UInt64.toNat_add, UInt64.toNat_sub, UInt64.toNat_ofNat', UInt64.toNat_ofNat',
    UInt64.toNat_one, extent]
  simp only [UInt64.size]
  omega

lemma length_eq_extent (horder : r.first ≤ r.last) (hfits : r.extent < UInt64.size) :
    r.length = r.extent := by
  rw [length_eq_mod horder, Nat.mod_eq_of_lt hfits]

/-- The ends are numbers of 64 bits, in order. -/
structure Valid (r : ByteRange) : Prop where
  order : r.first ≤ r.last
  last : r.last < UInt64.size

/-- Only the range of all places has a length that does not fit, and it is shown as empty. -/
lemma Valid.length_cases (h : r.Valid) :
    r.extent < UInt64.size ∧ r.length = r.extent ∨ r.extent = UInt64.size ∧ r.length = 0 := by
  have hlast := h.last
  rcases Nat.lt_or_ge r.extent UInt64.size with hlt | hge
  · exact .inl ⟨hlt, length_eq_extent h.order hlt⟩
  · have heq : r.extent = UInt64.size := by
      rw [extent] at hge ⊢
      omega
    exact .inr ⟨heq, by rw [length_eq_mod h.order, heq, Nat.mod_self]⟩

lemma stop_eq (h : r.last + 1 < UInt64.size) : r.stop = r.last + 1 := by
  rw [stop, UInt64.toNat_add, UInt64.toNat_ofNat', UInt64.toNat_one]
  simp only [UInt64.size] at h
  omega

lemma valid_of_parseChars {cs : List Char} (h : parseChars cs = .ok r) : r.Valid := by
  obtain ⟨-, -, -, -, -, -, horder, hlast⟩ := parseChars_eq_ok_iff.mp h
  exact ⟨horder, hlast⟩

/-! ### The values that are read -/

lemma toList_text (r : ByteRange) : r.text.toList =
    "bytes ".toList ++ Decimal.render r.first ++ '-' :: Decimal.render r.last ++ ['/', '*'] := by
  unfold ByteRange.text
  simp only [String.toList_ofList, List.append_assoc, List.cons_append, List.nil_append]

lemma parse_eq_ok_iff {value : String} : parse value = .ok r ↔ ∃ first last rest,
    value.toList = "bytes ".toList ++ first ++ '-' :: last ++ '/' :: rest ∧
      Decimal.Denotes first r.first ∧ Decimal.Denotes last r.last ∧
      r.first ≤ r.last ∧ r.last < 2 ^ 64 := by
  have hunit (cs : List Char) : "bytes".toList ++ ' ' :: cs = "bytes ".toList ++ cs := by simp
  have hsize : UInt64.size = 2 ^ 64 := by norm_num
  rw [parse, parseChars_eq_ok_iff, hsize]
  simp only [hunit, List.append_assoc]

/-- **Just the texts of ranges are read.** A value is read as a range if and only if it is the unit,
one blank, two runs of digits with a dash between them, a slash, and any text, and the runs denote
the two ends of the range in 64 bits, the first not behind the last. Each range of 64 bits is read
from its own text. -/
theorem reads_just_ranges (r : ByteRange) :
    (∀ value : String, parse value = .ok r ↔ ∃ first last rest,
      value.toList = "bytes ".toList ++ first ++ '-' :: last ++ '/' :: rest ∧
        Decimal.Denotes first r.first ∧ Decimal.Denotes last r.last ∧
        r.first ≤ r.last ∧ r.last < 2 ^ 64) ∧
    (r.first ≤ r.last → r.last < 2 ^ 64 → parse r.text = .ok r) := by
  refine ⟨fun _ => parse_eq_ok_iff, fun horder hlast => parse_eq_ok_iff.mpr ?_⟩
  exact ⟨_, _, _, toList_text r, Decimal.denotes_render _, Decimal.denotes_render _, horder, hlast⟩

/-- The last range of all is read, from its text with the longest numbers. -/
theorem reads_up_to_the_last_place :
    9 ≤ 2 ^ 64 - 1 ∧ 2 ^ 64 - 1 < 2 ^ 64 ∧
      (⟨9, 2 ^ 64 - 1⟩ : ByteRange).text = "bytes 9-18446744073709551615/*" ∧
      parse "bytes 9-18446744073709551615/*" = .ok ⟨9, 2 ^ 64 - 1⟩ := by
  have htext : (⟨9, 2 ^ 64 - 1⟩ : ByteRange).text = "bytes 9-18446744073709551615/*" := by
    rw [← String.toList_inj, toList_text]
    simp [Decimal.render, Decimal.digit]
  have hread := (reads_just_ranges ⟨9, 2 ^ 64 - 1⟩).2 (by norm_num) (by norm_num)
  rw [htext] at hread
  exact ⟨by norm_num, by norm_num, htext, hread⟩

end ByteRange

end SeedSync
