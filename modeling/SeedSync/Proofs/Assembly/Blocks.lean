import Mathlib
import SeedSync.Assembly.Basic
import SeedSync.Proofs.Control.Tiling
import SeedSync.Proofs.Files.Content

/-!
The blocks of the output under assembly: their bytes lie side by side in the file, and completing
one of them leaves the others alone.

Whatever is done to an assembly completes some of its missing blocks and does nothing else to its
file. `Extends` says this with the blocks in question and the bytes that they are to hold; what a
whole run does follows from its steps.
-/

namespace SeedSync.Assembly

/-- What holds of an assembly at all times. -/
structure Sound (a : Assembly) : Prop where
  pos : 0 < a.header.blockSize
  sums : a.sums.size = a.header.numBlocks
  completed : a.completed.size = a.header.numBlocks
  file : a.file.size = a.header.length
  remaining : a.remaining = a.completed.toList.count false

def block (a : Assembly) (i : ℕ) : List UInt8 :=
  a.file.slice (a.header.blockOffset i) (a.header.blockLength i)

variable {a b d : Assembly} {i j : ℕ} {bytes : List UInt8}

lemma blockOffset_eq (a : Assembly) (i : ℕ) : a.blockOffset i = a.header.blockOffset i := rfl

lemma Sound.blockLength_eq (h : Sound a) (i : ℕ) : a.blockLength i = a.header.blockLength i := by
  rw [blockLength, numBlocks, h.sums, Header.blockLength]

lemma isBlockComplete_iff : a.isBlockComplete i = true ↔ a.completed[i]? = some true := by
  rw [isBlockComplete, Array.getD_eq_getD_getElem?]
  cases a.completed[i]? <;> simp

lemma Sound.lt_of_isBlockComplete (h : Sound a) (hi : a.isBlockComplete i = true) :
    i < a.header.numBlocks := by
  rw [← h.completed]
  exact (Array.getElem?_eq_some_iff.mp (isBlockComplete_iff.mp hi)).1

lemma Sound.getElem?_completed (h : Sound a) (hi : i < a.header.numBlocks) :
    a.completed[i]? = some (a.isBlockComplete i) := by
  rw [isBlockComplete, Array.getD_eq_getD_getElem?]
  rw [← h.completed] at hi
  simp [hi]

lemma Sound.remaining_eq (h : Sound a) : a.remaining =
    ((List.range a.header.numBlocks).filter fun i => !a.isBlockComplete i).length := by
  have hlist : a.completed.toList = (List.range a.header.numBlocks).map a.isBlockComplete := by
    refine List.ext_getElem? fun i => ?_
    rw [List.getElem?_map, Array.getElem?_toList]
    rcases Nat.lt_or_ge i a.header.numBlocks with hi | hi
    · rw [h.getElem?_completed hi, List.getElem?_range hi, Option.map_some]
    · rw [Array.getElem?_eq_none (by rw [h.completed]; exact hi),
        List.getElem?_eq_none (by simpa using hi), Option.map_none]
  rw [h.remaining, hlist, List.count, List.countP_map, List.countP_eq_length_filter]
  congr 2
  funext i
  cases h : a.isBlockComplete i <;> simp [h]

lemma Sound.remaining_eq_zero_iff (h : Sound a) :
    a.remaining = 0 ↔ ∀ i < a.header.numBlocks, a.isBlockComplete i = true := by
  rw [h.remaining_eq, List.length_eq_zero_iff, List.filter_eq_nil_iff]
  simp

lemma isComplete_iff (h : Sound a) :
    a.isComplete = true ↔ ∀ i < a.header.numBlocks, a.isBlockComplete i = true := by
  rw [isComplete, beq_iff_eq, h.remaining_eq_zero_iff]

/-! ### Completing a block -/

lemma isBlockComplete_complete (bytes : List UInt8) (hi : i < a.completed.size) :
    (a.complete i bytes).isBlockComplete j = true ↔ j = i ∨ a.isBlockComplete j = true := by
  rw [isBlockComplete_iff, isBlockComplete_iff]
  simp only [complete, Array.getElem?_setIfInBounds]
  by_cases hij : i = j
  · subst hij
    simp [hi]
  · simp [hij, Ne.symm hij]

lemma Sound.complete (h : Sound a) (hi : i < a.header.numBlocks)
    (hmissing : a.isBlockComplete i = false) (hlen : bytes.length = a.header.blockLength i) :
    Sound (a.complete i bytes) where
  pos := h.pos
  sums := h.sums
  completed := by simpa [Assembly.complete] using h.completed
  file := by
    have := Header.blockOffset_add_le h.pos hi
    simp only [Assembly.complete, blockOffset_eq]
    rw [Content.size_writeAt (by rw [h.file, hlen]; exact this)]
    exact h.file
  remaining := by
    have hget := h.getElem?_completed hi
    rw [hmissing] at hget
    obtain ⟨hlt, hval⟩ := Array.getElem?_eq_some_iff.mp hget
    simp only [Assembly.complete, h.remaining, Array.toList_setIfInBounds]
    rw [List.count_set (by simpa using hlt)]
    simp [hval]

lemma Sound.block_complete (h : Sound a) (hi : i < a.header.numBlocks)
    (hlen : bytes.length = a.header.blockLength i) (hj : j < a.header.numBlocks) :
    (a.complete i bytes).block j = if j = i then bytes else a.block j := by
  have hroom : a.header.blockOffset i + bytes.length ≤ a.file.size := by
    rw [hlen, h.file]
    exact Header.blockOffset_add_le h.pos hi
  split
  · next hji =>
    subst hji
    simp only [block, Assembly.complete, blockOffset_eq, ← hlen]
    exact Content.slice_writeAt_self hroom
  · next hji =>
    have := Header.disjoint_blocks h.pos hj hi hji
    exact Content.slice_writeAt_of_disjoint hroom (by rw [hlen]; exact this)

lemma Sound.getElem?_content (h : Sound a) {x : ℕ} (hx : x < a.header.length) :
    a.content[x]? = (a.block (x / a.header.blockSize))[x -
      a.header.blockOffset (x / a.header.blockSize)]? := by
  obtain ⟨hle, hlt⟩ := Header.mem_block_div h.pos hx
  rw [block, Content.getElem?_slice, if_pos (by omega), Nat.add_sub_cancel' hle, content,
    Array.getElem?_toList]

/-! ### What an operation does to the file -/

/-- The assembly has come from `a` by completing some of the missing blocks of which `addressed`
holds, each with the bytes that `supply` has for it. -/
structure Extends (addressed : ℕ → Prop) (supply : ℕ → List UInt8) (a b : Assembly) : Prop where
  sound : Sound b
  path : b.path = a.path
  header : b.header = a.header
  sums : b.sums = a.sums
  index : b.index = a.index
  kept : ∀ i, a.isBlockComplete i = true → b.isBlockComplete i = true
  gained : ∀ i, a.isBlockComplete i = false → b.isBlockComplete i = true →
    addressed i ∧ b.block i = supply i
  same : ∀ i < a.header.numBlocks, a.isBlockComplete i = true ∨ b.isBlockComplete i = false →
    b.block i = a.block i

namespace Extends

variable {addressed addressed' : ℕ → Prop} {supply supply' : ℕ → List UInt8}

lemma refl (h : Sound a) : Extends addressed supply a a :=
  ⟨h, rfl, rfl, rfl, rfl, fun _ => id, fun i h0 h1 => by simp [h0] at h1, fun _ _ _ => rfl⟩

lemma emit (h : Sound a) (e : Event) : Extends addressed supply a (a.emit e) :=
  ⟨⟨h.pos, h.sums, h.completed, h.file, h.remaining⟩, rfl, rfl, rfl, rfl, fun _ => id,
    fun i h0 h1 => by simp only [Assembly.emit, isBlockComplete] at h0 h1; simp [h0] at h1,
    fun _ _ _ => rfl⟩

lemma trans (h : Extends addressed supply a b) (h' : Extends addressed supply b d) :
    Extends addressed supply a d where
  sound := h'.sound
  path := h'.path.trans h.path
  header := h'.header.trans h.header
  sums := h'.sums.trans h.sums
  index := h'.index.trans h.index
  kept i hi := h'.kept i (h.kept i hi)
  gained i h0 h1 := by
    rcases Bool.eq_false_or_eq_true (b.isBlockComplete i) with hb | hb
    · have hlt := h.sound.lt_of_isBlockComplete hb
      rw [h'.same i hlt (.inl hb)]
      exact h.gained i h0 hb
    · exact h'.gained i hb h1
  same i hi hor := by
    have hi' : i < b.header.numBlocks := by rwa [h.header]
    rcases hor with h0 | h1
    · rw [h'.same i hi' (.inl (h.kept i h0)), h.same i hi (.inl h0)]
    · have hb : b.isBlockComplete i = false := by
        by_contra hb
        rw [h'.kept i (by simpa using hb)] at h1
        cases h1
      rw [h'.same i hi' (.inr h1), h.same i hi (.inr hb)]

lemma mono (h : Extends addressed supply a b) (ha : ∀ i, addressed i → addressed' i)
    (hs : ∀ i, addressed i → supply i = supply' i) : Extends addressed' supply' a b :=
  { h with
    gained := fun i h0 h1 =>
      have hg := h.gained i h0 h1
      ⟨ha i hg.1, hg.2.trans (hs i hg.1)⟩ }

lemma complete (h : Sound a) (hi : i < a.header.numBlocks) (hmissing : a.isBlockComplete i = false)
    (hlen : bytes.length = a.header.blockLength i) (ha : addressed i) (hs : bytes = supply i) :
    Extends addressed supply a (a.complete i bytes) where
  sound := h.complete hi hmissing hlen
  path := rfl
  header := rfl
  sums := rfl
  index := rfl
  kept j hj := (isBlockComplete_complete _ (by rwa [h.completed])).mpr (.inr hj)
  gained j h0 h1 := by
    rw [isBlockComplete_complete _ (by rwa [h.completed]), h0] at h1
    obtain rfl : j = i := by simpa using h1
    exact ⟨ha, by rw [h.block_complete hi hlen hi, if_pos rfl, hs]⟩
  same j hj hor := by
    have hne : j ≠ i := by
      rintro rfl
      rw [hmissing, Bool.eq_false_iff, ne_eq,
        isBlockComplete_complete _ (by rwa [h.completed])] at hor
      simp at hor
    rw [h.block_complete hi hlen hj, if_neg hne]

lemma block_eq (h : Extends addressed supply a b) {i : ℕ} (hi : i < a.header.numBlocks)
    (hor : a.isBlockComplete i = true ∨ ¬ addressed i) : b.block i = a.block i := by
  rcases Bool.eq_false_or_eq_true (a.isBlockComplete i) with ha | ha
  · exact h.same i hi (.inl ha)
  · rcases Bool.eq_false_or_eq_true (b.isBlockComplete i) with hb | hb
    · exact absurd (h.gained i ha hb).1 (hor.resolve_left (by simp [ha]))
    · exact h.same i hi (.inr hb)

lemma getElem?_content (h : Extends addressed supply a b) (ha : Sound a) {x : ℕ}
    (hx : x < a.header.length) (hor : a.isBlockComplete (x / a.header.blockSize) = true ∨
      ¬ addressed (x / a.header.blockSize)) : b.content[x]? = a.content[x]? := by
  have hi := Header.div_lt_numBlocks ha.pos hx
  rw [ha.getElem?_content hx, h.sound.getElem?_content (by rwa [h.header]), h.header,
    h.block_eq hi hor]

end Extends

end SeedSync.Assembly
