import Mathlib
import SeedSync.Matching.Sink
import SeedSync.Proofs.Control.Target

/-!
Sinks that look blocks up as a search through the table would, and the least of them: it takes
every block and notes it. What a sink does not lose by single writes, it does not lose by several.
-/

namespace SeedSync

/-- The sink looks blocks up as a search through the table would. -/
def ControlFile.Searches {σ : Type} [BlockSink σ] (c : ControlFile) (sink : σ) : Prop :=
  ∀ s, BlockSink.positions sink s = c.blocksWith s

namespace BlockSink

variable {σ : Type} [BlockSink σ] {Inv : σ → Prop} {sink : σ}

/-- A property that a sink does not lose by being written to, or by noting a read. -/
structure Keeps (Inv : σ → Prop) : Prop where
  writeBlock : ∀ sink i w offset, Inv sink → Inv (BlockSink.writeBlock sink i w offset).2
  noteRead : ∀ sink n, Inv sink → Inv (BlockSink.noteRead sink n)

lemma Keeps.writeBlocks (hkeeps : Keeps Inv) (h : Inv sink) (w : View) (ws : List (ℕ × ℕ)) :
    Inv (BlockSink.writeBlocks sink w ws).2 := by
  induction ws generalizing sink with
  | nil => exact h
  | cons x ws ih =>
    obtain ⟨i, offset⟩ := x
    have hwritten := hkeeps.writeBlock sink i w offset h
    rw [BlockSink.writeBlocks]
    generalize BlockSink.writeBlock sink i w offset = result at hwritten
    obtain ⟨_ | _, sink'⟩ := result
    · exact hwritten
    · exact ih hwritten

end BlockSink

/-- A sink that takes every block, and the blocks that it took. -/
structure Ledger where
  control : ControlFile
  taken : List (ℕ × List UInt8)

namespace Ledger

instance : BlockSink Ledger where
  positions l s := l.control.blocksWith s
  writeBlock l i w offset :=
    (.ok true, { l with taken := l.taken ++ [(i, w.part offset l.control.header.blockSize)] })
  isComplete _ := false
  noteRead l _ := l

lemma searches (c : ControlFile) (taken : List (ℕ × List UInt8)) :
    c.Searches (⟨c, taken⟩ : Ledger) :=
  fun _ => rfl

lemma writeBlocks_fst (l : Ledger) (w : View) (ws : List (ℕ × ℕ)) :
    (BlockSink.writeBlocks l w ws).1 = .ok () := by
  induction ws generalizing l with
  | nil => rfl
  | cons x ws ih => exact ih _

end Ledger

end SeedSync
