import Mathlib
import SeedSync.Proofs.Control.Table

/-!
The control file of a target: its table holds the sums of the target's blocks, the last of them
filled up with zeros.
-/

namespace SeedSync.ControlFile

/-- Block `i` of a target, with zeros where the target has ended. -/
def paddedBlock (blockSize : ℕ) (target : List UInt8) (i : ℕ) : List UInt8 :=
  let block := (target.drop (i * blockSize)).take blockSize
  block ++ List.replicate (blockSize - block.length) 0

lemma take_paddedBlock {blockSize n : ℕ} {target : List UInt8} {i : ℕ} (hn : n ≤ blockSize)
    (h : i * blockSize + n ≤ target.length) :
    (paddedBlock blockSize target i).take n = (target.drop (i * blockSize)).take n := by
  rw [paddedBlock, List.take_append_of_le_length, List.take_take, min_eq_left hn]
  rw [List.length_take, List.length_drop]
  omega

def sumsOf (header : Header) (target : List UInt8) : List BlockSum :=
  (List.range header.numBlocks).map fun i =>
    .ofBlock header.hashLengths.rolling header.hashLengths.strong
      (paddedBlock header.blockSize target i)

lemma exists_assemble_sumsOf (header : Header) (target : List UInt8) :
    ∃ c, assemble header (sumsOf header target) = .ok c := by
  refine ⟨_, if_neg ?_⟩
  simp [sumsOf]

variable {header : Header} {target : List UInt8} {c : ControlFile}

lemma getElem?_sumsOf (hc : assemble header (sumsOf header target) = .ok c) {i : ℕ}
    (hi : i < c.numBlocks) :
    c.sums[i]? = some (c.sumOf (paddedBlock header.blockSize target i)) := by
  have hn := numBlocks_eq hc
  obtain ⟨-, hh, hs, -, -⟩ := assemble_ok hc
  rw [hs, List.getElem?_toArray, sumsOf, List.getElem?_map, List.getElem?_range (by omega)]
  rw [Option.map_some, sumOf, hh]

end SeedSync.ControlFile

namespace SeedSync.Header

lemma small_lt_size {n : ℕ} (h : n < 256) : n < UInt64.size := h.trans (by decide)

def fourBytes (sequence : ℕ) : Header where
  version := "0.6.2"
  length := 4
  blockSize := 2
  hashLengths := ⟨sequence, 2, 3⟩
  sha1 := Vector.replicate 20 0
  url := "http://example.org/four"
  filename := "four"
  mtime := none
  length_lt := small_lt_size (by decide)
  blockSize_lt := small_lt_size (by decide)

def sixBytes : Header := { fourBytes 2 with length := 6, length_lt := small_lt_size (by decide) }

end SeedSync.Header
