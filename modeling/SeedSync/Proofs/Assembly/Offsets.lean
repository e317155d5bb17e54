import Mathlib
import SeedSync.Assembly.Store
import SeedSync.Proofs.Assembly.Accounts
import SeedSync.Proofs.Assembly.Missing

/-!
The places of the blocks and of what is missing as numbers of 64 bits: none of the computations
that lead to them leaves these bounds, not even that of where a block behind the last one would be.
-/

namespace SeedSync

/-! ### Numbers of 64 bits -/

namespace Word

/-- A number, if it fits. -/
def fit? (n : ℕ) : Option ℕ := if n < UInt64.size then some n else none

def sub? (m n : ℕ) : Option ℕ := if n ≤ m then some (m - n) else none

/-- Adds one number after the other. -/
def sum? (l : List ℕ) : Option ℕ := l.foldlM (fun s n => fit? (s + n)) 0

lemma fit?_eq {n : ℕ} (h : n < UInt64.size) : fit? n = some n := if_pos h

lemma sub?_eq {m n : ℕ} (h : n ≤ m) : sub? m n = some (m - n) := if_pos h

/-- If the whole sum fits, so do all sums on the way to it. -/
lemma sum?_eq {l : List ℕ} (h : l.sum < UInt64.size) : sum? l = some l.sum := by
  have hfrom (s : ℕ) (hs : s + l.sum < UInt64.size) :
      l.foldlM (fun s n => fit? (s + n)) s = some (s + l.sum) := by
    clear h
    induction l generalizing s with
    | nil => rfl
    | cons n l ih =>
      rw [List.sum_cons, ← Nat.add_assoc] at hs ⊢
      rw [List.foldlM_cons, fit?_eq (by omega)]
      exact ih _ hs
  simpa [sum?] using hfrom 0 (by omega)

lemma mapM_eq {α β : Type} {f : α → Option β} {g : α → β} {l : List α}
    (h : ∀ x ∈ l, f x = some (g x)) : l.mapM f = some (l.map g) := by
  induction l with
  | nil => rfl
  | cons x l ih =>
    rw [List.forall_mem_cons] at h
    rw [List.mapM_cons, h.1, ih h.2]
    rfl

end Word

def ByteRange.length? (r : ByteRange) : Option ℕ := do
  let n ← Word.sub? r.last r.first
  Word.fit? (n + 1)

namespace Assembly

def blockOffset? (a : Assembly) (i : ℕ) : Option ℕ := Word.fit? (i * a.header.blockSize)

/-- The range of a run of blocks; it must not be empty. -/
def rangeOf? (a : Assembly) (run : ℕ × ℕ) : Option ByteRange := do
  let first ← a.blockOffset? run.1
  let stop ← a.blockOffset? run.2
  let last ← Word.sub? (min stop a.header.length) 1
  if first ≤ last then return ⟨first, last⟩ else none

def missingRanges? (a : Assembly) : Option (List ByteRange) :=
  (missingRuns 0 none a.completed.toList).mapM a.rangeOf?

def missingBytes? (a : Assembly) : Option ℕ := do
  let ranges ← a.missingRanges?
  let lengths ← ranges.mapM ByteRange.length?
  Word.sum? lengths

end Assembly

/-! ### Bounds -/

namespace Header

variable {h : Header} {i : ℕ}

/-- A block that begins behind the first one does so behind as many bytes as it may be long. So
twice the length bounds where it ends. -/
lemma blockOffset_lt (hb : 0 < h.blockSize) (hsize : h.blockSize < UInt64.size)
    (hlength : h.length ≤ Assembly.maxLength) (hi : i ≤ h.numBlocks) :
    h.blockOffset i < UInt64.size := by
  rcases i with _ | _ | k
  · rw [blockOffset, Nat.zero_mul]
    decide
  · rwa [blockOffset, Nat.zero_add, Nat.one_mul]
  · have hbegin := (lt_numBlocks_iff hb).mp (Nat.lt_of_succ_le hi)
    have hfirst : h.blockOffset 1 ≤ h.blockOffset (k + 1) := blockOffset_mono (by omega)
    rw [blockOffset, Nat.one_mul] at hfirst
    rw [blockOffset_succ]
    calc h.blockOffset (k + 1) + h.blockSize < h.length + h.length := by omega
      _ ≤ Assembly.maxLength + Assembly.maxLength := Nat.add_le_add hlength hlength
      _ < UInt64.size := by decide

end Header

namespace Assembly

variable {a : Assembly}

lemma maxLength_lt_size : maxLength < UInt64.size := by decide

section Checked

variable (h : Sound a) (hsize : a.header.blockSize < UInt64.size)
  (hlength : a.header.length ≤ maxLength)
include h hsize hlength

lemma Sound.blockOffset?_eq {i : ℕ} (hi : i ≤ a.header.numBlocks) :
    a.blockOffset? i = some (a.blockOffset i) :=
  Word.fit?_eq (Header.blockOffset_lt h.pos hsize hlength hi)

lemma Sound.rangeOf?_eq {run : ℕ × ℕ} (hrun : run ∈ missingRuns 0 none a.completed.toList) :
    a.rangeOf? run =
      some ⟨a.blockOffset run.1, min (a.blockOffset run.2) a.header.length - 1⟩ := by
  have hspans := h.spans_of_mem_missingRuns hrun
  have horder := hspans.first_le_last h
  have hlast := hspans.last
  simp only at horder
  rw [rangeOf?, h.blockOffset?_eq hsize hlength (hspans.lt.le.trans hspans.le),
    h.blockOffset?_eq hsize hlength hspans.le]
  simp only [Option.bind_eq_bind, Option.bind_some]
  -- a run has a block, and this a byte: the end of the range is not zero
  rw [Word.sub?_eq (by simp only [blockOffset_eq]; omega), Option.bind_some, if_pos horder]
  rfl

lemma Sound.missingRanges?_eq : a.missingRanges? = some a.missingRanges :=
  Word.mapM_eq fun _ hrun => h.rangeOf?_eq hsize hlength hrun

lemma Sound.missingBytes?_eq : a.missingBytes? = some a.missingBytes := by
  have hmax := maxLength_lt_size
  have hlengths : a.missingRanges.mapM ByteRange.length? =
      some (a.missingRanges.map ByteRange.length) := by
    refine Word.mapM_eq fun r hr => ?_
    obtain ⟨run, hrun, rfl⟩ := List.mem_map.mp hr
    have hspans := h.spans_of_mem_missingRuns hrun
    have hlast := hspans.last
    rw [ByteRange.length?, Word.sub?_eq (hspans.first_le_last h), hspans.length_eq h.pos]
    exact Word.fit?_eq (by omega)
  have hsum : (a.missingRanges.map ByteRange.length).sum < UInt64.size := by
    have hall := h.completeBytes_add_missingBytes
    have heq : a.missingBytes = (a.missingRanges.map ByteRange.length).sum := rfl
    omega
  rw [missingBytes?, h.missingRanges?_eq hsize hlength]
  simp only [Option.bind_eq_bind, Option.bind_some, hlengths]
  exact Word.sum?_eq hsum

end Checked

lemma sound_of_flags (hb : 0 < a.header.blockSize) (hsums : a.sums.size = a.header.numBlocks)
    (hflags : a.completed.size = a.header.numBlocks) :
    Sound { a with
      file := .zeros a.header.length
      remaining := a.completed.toList.count false } :=
  ⟨hb, hsums, hflags, Content.size_zeros _, rfl⟩

/-- **The blocks tile the file**: each byte lies in one of them, none is empty or reaches past the
end, and the last one has the length that is left. As long as the file can exist, the offsets of the
blocks and of the end behind them fit into 64 bits, and so do the ranges of what is missing and
their lengths, whatever is complete. -/
theorem tile_without_overflow (hb : 0 < a.header.blockSize)
    (hsize : a.header.blockSize < UInt64.size) (hlength : a.header.length ≤ maxLength)
    (hsums : a.sums.size = a.header.numBlocks) (hflags : a.completed.size = a.header.numBlocks) :
    (∀ i < a.header.numBlocks, 0 < a.blockLength i ∧ a.blockLength i ≤ a.header.blockSize ∧
      a.blockOffset i + a.blockLength i ≤ a.header.length) ∧
    (∀ x < a.header.length, ∃! i, i < a.header.numBlocks ∧
      a.blockOffset i ≤ x ∧ x < a.blockOffset i + a.blockLength i) ∧
    (∀ i, i + 1 = a.header.numBlocks → a.blockLength i = a.header.lastBlockSize ∧
      1 ≤ a.header.lastBlockSize ∧ a.header.lastBlockSize ≤ a.header.blockSize) ∧
    (a.header.numBlocks = 0 ↔ a.header.length = 0) ∧
    (∀ i ≤ a.header.numBlocks, a.blockOffset? i = some (a.blockOffset i)) ∧
    a.missingRanges? = some a.missingRanges ∧ a.missingBytes? = some a.missingBytes := by
  have h := sound_of_flags hb hsums hflags
  have hlen (i : ℕ) : a.blockLength i = a.header.blockLength i := h.blockLength_eq i
  refine ⟨fun i hi => ?_, fun x hx => ?_, fun i hi => ?_, Header.numBlocks_eq_zero_iff hb,
    fun i hi => h.blockOffset?_eq hsize hlength hi, h.missingRanges?_eq hsize hlength,
    h.missingBytes?_eq hsize hlength⟩
  · rw [hlen]
    exact ⟨Header.blockLength_pos hb hi, Header.blockLength_le hb hi,
      Header.blockOffset_add_le hb hi⟩
  · simp only [hlen]
    exact Header.existsUnique_block hb hx
  · have hlast : a.header.blockLength i = a.header.lastBlockSize := if_pos hi
    have hi' : i < a.header.numBlocks := by omega
    rw [hlen, hlast]
    exact ⟨rfl, hlast ▸ Header.blockLength_pos hb hi', hlast ▸ Header.blockLength_le hb hi'⟩

/-- The longest file, in one block that is as long as a block may be. -/
theorem tiles_in_one_huge_block : ∃ a : Assembly, a.header.length = maxLength ∧
    a.header.blockSize = UInt64.size - 1 ∧ a.header.numBlocks = 1 ∧
    a.blockOffset? 1 = some (UInt64.size - 1) ∧
    a.missingRanges? = some [⟨0, maxLength - 1⟩] ∧ a.missingBytes? = some maxLength := by
  let header : Header :=
    { Header.fourBytes 1 with
      length := maxLength, blockSize := UInt64.size - 1,
      length_lt := maxLength_lt_size, blockSize_lt := Nat.sub_one_lt (NeZero.ne UInt64.size) }
  have hn : header.numBlocks = 1 := by decide +kernel
  obtain ⟨-, -, -, -, hoffset, hranges, hbytes⟩ :=
    tile_without_overflow (a := start "huge" ⟨header, #[⟨0, .zero⟩], ∅, ∅⟩ #[])
      (by decide +kernel) (by decide +kernel) le_rfl hn.symm hn.symm
  refine ⟨_, rfl, rfl, hn, (hoffset 1 hn.ge).trans ?_, hranges.trans ?_, hbytes.trans ?_⟩
  all_goals decide +kernel

end Assembly

end SeedSync
