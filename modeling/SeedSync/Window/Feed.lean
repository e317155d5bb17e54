import SeedSync.Stream.Source

/-!
What a scan reads: a seed, and behind its end some zero bytes that belong to no read of it.
-/

namespace SeedSync

structure Feed where
  source : Source
  zeros : Nat
  /-- The sizes of the reads of the seed that gave bytes, oldest first. -/
  reads : Array Nat

namespace Feed

def ofSource (source : Source) (zeros : Nat) : Feed := ⟨source, zeros, #[]⟩

def left (f : Feed) : Nat := f.source.rest.length + f.zeros

/-- At most `n` bytes, interruptions waited out. -/
def read (f : Feed) (n : Nat) : Except IoError (List UInt8) × Feed :=
  match f.source.readOn n with
  | (.error e, source) => (.error e, { f with source })
  | (.ok [], source) =>
    let z := min n f.zeros
    (.ok (List.replicate z 0), { f with source, zeros := f.zeros - z })
  | (.ok (b :: bs), source) =>
    (.ok (b :: bs), { f with source, reads := f.reads.push (b :: bs).length })

theorem left_of_read {f g : Feed} {n : Nat} {bs : List UInt8} (h : f.read n = (.ok bs, g)) :
    f.left = bs.length + g.left ∧ bs.length ≤ n := by
  unfold read at h
  split at h
  · simp at h
  · rename_i source hs
    have := Source.rest_of_readOn hs
    simp only [Prod.mk.injEq, Except.ok.injEq] at h
    obtain ⟨rfl, rfl⟩ := h
    simp [left, this.1]
    omega
  · rename_i b bs source hs
    have := Source.rest_of_readOn hs
    simp only [Prod.mk.injEq, Except.ok.injEq] at h
    obtain ⟨rfl, rfl⟩ := h
    refine ⟨?_, this.2⟩
    simp [left, this.1]
    omega

end Feed

end SeedSync
