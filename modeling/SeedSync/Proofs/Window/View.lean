import Mathlib
import SeedSync.Window.View

/-!
A view through the list of its bytes: what is read from a view depends on nothing else.
-/

namespace SeedSync.View

lemma toList_eq (v : View) : v.toList = (v.buf.toList.drop v.start).take v.size := by
  simp [toList]

@[simp] lemma length_toList (v : View) : v.toList.length = v.length := by
  simp [toList_eq, length]

@[simp] lemma toList_ofList (bs : List UInt8) : (ofList bs).toList = bs := by
  simp [toList_eq, ofList]

lemma part_eq (v : View) (offset length : ℕ) :
    v.part offset length = (v.toList.drop offset).take length := by
  rw [toList_eq, List.drop_take, List.take_take, List.drop_drop]
  simp only [part, Array.toList_extract, List.extract_eq_take_drop]
  congr 1
  omega

lemma slice_eq (v : View) (offset length : ℕ) :
    v.slice offset length = if offset + length ≤ v.length
      then .ok ((v.toList.drop offset).take length)
      else .error (.outsideWindow offset length v.length) := by
  rw [slice, part_eq]

lemma byte_eq (v : View) (i : ℕ) : v.byte i = v.toList.getD i 0 := by
  rw [byte, get?, toList_eq, List.getD_eq_getElem?_getD, List.getElem?_take]
  split <;> simp

/-! ### Views into a string of bytes -/

/-- The view shows `length` bytes of `D` from place `p` on. -/
structure Shows (v : View) (D : List UInt8) (p length : ℕ) : Prop where
  toList : v.toList = (D.drop p).take length
  fits : p + length ≤ D.length

namespace Shows

variable {v : View} {D : List UInt8} {p length : ℕ}

lemma length_eq (h : v.Shows D p length) : v.length = length := by
  have := h.fits
  rw [← length_toList, h.toList, List.length_take, List.length_drop]
  omega

lemma part_eq (h : v.Shows D p length) {offset n : ℕ} (hn : offset + n ≤ length) :
    v.part offset n = (D.drop (p + offset)).take n := by
  rw [View.part_eq, h.toList, List.drop_take, List.take_take, List.drop_drop]
  congr 1
  omega

lemma slice_eq (h : v.Shows D p length) {offset n : ℕ} (hn : offset + n ≤ length) :
    v.slice offset n = .ok ((D.drop (p + offset)).take n) := by
  rw [slice, if_pos (by rw [h.length_eq]; exact hn), h.part_eq hn]

lemma byte_eq (h : v.Shows D p length) {i : ℕ} (hi : i < length) :
    v.byte i = D.getD (p + i) 0 := by
  rw [View.byte_eq, h.toList]
  simp [List.getElem?_take_of_lt hi]

end Shows

end SeedSync.View
