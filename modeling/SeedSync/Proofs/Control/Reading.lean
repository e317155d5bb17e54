import Mathlib
import SeedSync.Proofs.Control.Table
import SeedSync.Proofs.Control.Values
import SeedSync.Proofs.Error

/-!
What is known of a control file that has been read.
-/

namespace SeedSync

/-- Widths that a header may state. -/
structure HashLengths.Accepted (l : HashLengths) : Prop where
  sequence : 1 ≤ l.sequence ∧ l.sequence ≤ 2
  rolling : 2 ≤ l.rolling ∧ l.rolling ≤ 4
  strong : 3 ≤ l.strong ∧ l.strong ≤ 16

namespace Header

variable {b b' : Buffered} {header : Header}

lemma ReadsHashLengths.accepted {value : List Char} {l : HashLengths}
    (h : ReadsHashLengths value l) : l.Accepted := by
  obtain ⟨x, y, z, -, -, -, -, ⟨-, hsequence⟩, ⟨-, hrolling⟩, -, hstrong⟩ := h
  exact ⟨hsequence, hrolling, hstrong⟩

namespace Fields

variable {f g : Fields}

/-- Among the values there is no block size of zero, and no width out of its range. -/
structure Fit (f : Fields) : Prop where
  blockSize : ∀ n ∈ f.blockSize, 0 < n.val
  hashLengths : f.hashLengths.Accepted

namespace Fit

lemma empty : Fields.empty.Fit where
  blockSize n hn := absurd hn (Option.not_mem_none n)
  hashLengths := by constructor <;> decide

lemma set (h : f.Fit) {key value : List Char} (hset : f.set key value = .ok g) : g.Fit := by
  rw [Fields.set] at hset
  dsimp only at hset
  split_ifs at hset
  · obtain rfl := Except.ok.inj hset
    exact ⟨h.blockSize, h.hashLengths⟩
  · obtain ⟨_, -, rfl⟩ := map_ok.mp hset
    exact ⟨h.blockSize, h.hashLengths⟩
  · obtain ⟨k, hk, rfl⟩ := map_ok.mp hset
    refine ⟨fun n hn => ?_, h.hashLengths⟩
    obtain rfl := Option.some.inj hn
    exact (blockSize?_eq_ok_iff.mp hk).2
  · obtain ⟨_, hl, rfl⟩ := map_ok.mp hset
    exact ⟨h.blockSize, (hashLengths?_eq_ok_iff.mp hl).accepted⟩
  · obtain ⟨_, -, rfl⟩ := map_ok.mp hset
    exact ⟨h.blockSize, h.hashLengths⟩
  · obtain rfl := Except.ok.inj hset
    exact ⟨h.blockSize, h.hashLengths⟩
  · obtain rfl := Except.ok.inj hset
    exact ⟨h.blockSize, h.hashLengths⟩
  · obtain ⟨_, -, rfl⟩ := map_ok.mp hset
    exact ⟨h.blockSize, h.hashLengths⟩
  · obtain rfl := Except.ok.inj hset
    exact h

lemma setLine (h : f.Fit) {line : List Char} (hset : f.setLine line = .ok g) : g.Fit := by
  rw [Fields.setLine] at hset
  split at hset
  · cases hset
  · exact h.set hset

lemma readFields (h : f.Fit) (hread : readFields f b = (.ok g, b')) : g.Fit := by
  induction hk : b.rest.length using Nat.strong_induction_on generalizing f b with
  | _ k ih =>
    subst hk
    unfold Header.readFields at hread
    split at hread
    · cases hread
    · cases hread
    · next x xs b₁ hline =>
      split at hread
      · cases hread
      split at hread
      · obtain rfl := Except.ok.inj (congrArg Prod.fst hread)
        exact h
      split at hread
      · cases hread
      · next f' hset =>
        have hlt := congrArg List.length (Buffered.rest_of_readUntil hline)
        exact ih b₁.rest.length (by simp at hlt; omega) (h.setLine hset) hread rfl

lemma finish (h : f.Fit) (hfinish : f.finish = .ok header) :
    0 < header.blockSize ∧ header.hashLengths.Accepted := by
  unfold Fields.finish at hfinish
  repeat' split at hfinish
  all_goals cases hfinish
  exact ⟨h.blockSize _ ‹f.blockSize = some _›, h.hashLengths⟩

end Fit

end Fields

lemma bounds_of_read (h : read b = (.ok header, b')) :
    0 < header.blockSize ∧ header.hashLengths.Accepted := by
  rw [read] at h
  split at h
  · cases h
  · next f b₁ hread =>
    split at h
    · cases h
    · next header' hfinish =>
      obtain rfl := Except.ok.inj (congrArg Prod.fst h)
      exact (Fields.Fit.empty.readFields hread).finish hfinish

end Header

/-- The sums are as many as there are blocks, and no block is empty. -/
lemma ControlFile.exists_assemble_of_read {c : ControlFile} {b b' : Buffered}
    (h : ControlFile.read b = (.ok c, b')) :
    ∃ sums, assemble c.header sums = .ok c ∧ 0 < c.header.blockSize := by
  rw [ControlFile.read] at h
  split at h
  · cases h
  · next header b₁ hread =>
    split at h
    · cases h
    · next sums b₂ hsums =>
      split at h
      · cases h
      · next c' hassemble =>
        obtain rfl := Except.ok.inj (congrArg Prod.fst h)
        obtain rfl : c'.header = header := (assemble_ok hassemble).2.1
        exact ⟨sums, hassemble, (Header.bounds_of_read hread).1⟩

end SeedSync
