import Mathlib
import SeedSync.Files.Content

/-!
Writing inside of a file changes the bytes that are written over and no others.
-/

namespace SeedSync.Content

@[simp] lemma size_zeros (length : ℕ) : (zeros length).size = length := by simp [zeros]

lemma size_writeAt {file : Content} {offset : ℕ} {bs : List UInt8}
    (h : offset + bs.length ≤ file.size) :
    (writeAt file offset bs).size = file.size := by
  induction bs generalizing file offset with
  | nil => rfl
  | cons b bs ih =>
    rw [List.length_cons] at h
    rw [writeAt, dif_pos (by omega), ih (by rw [Array.size_set]; omega), Array.size_set]

lemma getElem?_writeAt {file : Content} {offset : ℕ} {bs : List UInt8}
    (h : offset + bs.length ≤ file.size) (x : ℕ) :
    (writeAt file offset bs)[x]? =
      if offset ≤ x ∧ x < offset + bs.length then bs[x - offset]? else file[x]? := by
  induction bs generalizing file offset with
  | nil => simp [writeAt]
  | cons b bs ih =>
    rw [List.length_cons] at h ⊢
    rw [writeAt, dif_pos (by omega), ih (by rw [Array.size_set]; omega)]
    rcases Nat.lt_trichotomy x offset with hx | rfl | hx
    · rw [if_neg (by omega), if_neg (by omega), Array.getElem?_set_ne _ (by omega)]
    · rw [if_neg (by omega), if_pos (by omega), Array.getElem?_set_self]
      simp
    · rw [Array.getElem?_set_ne _ (by omega), show x - offset = x - (offset + 1) + 1 by omega,
        List.getElem?_cons_succ]
      congr 1
      simp only [eq_iff_iff]
      omega

/-- The bytes of a file from `offset` on, at most `length` of them. -/
def slice (file : Content) (offset length : ℕ) : List UInt8 :=
  (file.toList.drop offset).take length

lemma getElem?_slice (file : Content) (offset length x : ℕ) :
    (slice file offset length)[x]? = if x < length then file[offset + x]? else none := by
  rw [slice, List.getElem?_take]
  split <;> simp

lemma slice_writeAt_self {file : Content} {offset : ℕ} {bs : List UInt8}
    (h : offset + bs.length ≤ file.size) :
    slice (writeAt file offset bs) offset bs.length = bs := by
  refine List.ext_getElem? fun x => ?_
  rw [getElem?_slice, getElem?_writeAt h]
  split
  · rw [if_pos (by omega), Nat.add_sub_cancel_left]
  · rw [List.getElem?_eq_none (by omega)]

lemma slice_writeAt_of_disjoint {file : Content} {offset offset' length : ℕ} {bs : List UInt8}
    (h : offset + bs.length ≤ file.size)
    (hd : offset' + length ≤ offset ∨ offset + bs.length ≤ offset') :
    slice (writeAt file offset bs) offset' length = slice file offset' length := by
  refine List.ext_getElem? fun x => ?_
  rw [getElem?_slice, getElem?_slice, getElem?_writeAt h]
  split
  · rw [if_neg (by omega)]
  · rfl

end SeedSync.Content
