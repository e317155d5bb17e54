import Mathlib
import SeedSync.Proofs.Control.Acceptance
import SeedSync.Proofs.Matching.Paired

/-!
A block has the same sum in both of its forms: as a matcher forms it, in registers that come to the
block by different ways, and as an entry of the block table spells it.
-/

namespace SeedSync

/-! ### Registers -/

/-- The ways in which a register comes to a block: its bytes are added up, it rolls on from the
block one byte earlier, or it takes over another one, whatever the width of that. -/
inductive RollingSum.Over (blockSize : ℕ) : ℕ → RollingSum → List UInt8 → Prop
  | init {width : ℕ} {s : RollingSum} {block : List UInt8} (hsize : s.blockSize = blockSize)
      (hmask : s.mask = maskOf width) (hlen : block.length = blockSize) :
      Over blockSize width (s.init block) block
  | update {width : ℕ} {s : RollingSum} {block : List UInt8} (old new : UInt8)
      (h : Over blockSize width s (old :: block)) :
      Over blockSize width (s.update old new) (block ++ [new])
  | initFrom {width width' : ℕ} {s other : RollingSum} {block : List UInt8}
      (hsize : s.blockSize = blockSize) (hmask : s.mask = maskOf width)
      (h : Over blockSize width' other block) : Over blockSize width (s.initFrom other) block

/-- The ways in which the strong sum of a block is set: it is computed, at once or unless it is
there, or taken over. -/
inductive StrongSum.Over (width : ℕ) : StrongSum → List UInt8 → Prop
  | compute {s : StrongSum} (block : List UInt8) (hwidth : s.width = min width 16) :
      Over width (s.compute block) block
  | ensure {s : StrongSum} {block : List UInt8} (hwidth : s.width = min width 16)
      (h : s.isSet = true → Over width s block) : Over width (s.ensure block) block
  | copyFrom {s other : StrongSum} {block : List UInt8} (hwidth : s.width = min width 16)
      (h : Over width other block) : Over width (s.copyFrom other) block

/-- The sums that matchers form of a block. -/
inductive BlockSum.Formed (header : Header) : BlockSum → List UInt8 → Prop
  /-- Block by block, the strong sum is computed where it is compared. -/
  | single {rolling : RollingSum} {block : List UInt8}
      (h : rolling.Over header.blockSize header.hashLengths.rolling block) :
      Formed header ⟨rolling.value, StrongBytes.ofBlock header.hashLengths.strong block⟩ block
  /-- In pairs, a draft has both of its parts set. -/
  | paired {d : Draft} {block : List UInt8}
      (hrolling : d.rolling.Over header.blockSize header.hashLengths.rolling block)
      (hstrong : d.strong.Over header.hashLengths.strong block) : Formed header d.sum block

/-- However a register has come to a block, it is as if the block had been added up. -/
lemma RollingSum.Over.eq_ofBlock {blockSize width : ℕ} {s : RollingSum} {block : List UInt8}
    (h : s.Over blockSize width block) :
    s = ofBlock blockSize width block ∧ block.length = blockSize := by
  induction h with
  | init hsize hmask hlen => exact ⟨by simp [ofBlock, RollingSum.init, empty, hsize, hmask], hlen⟩
  | update old new h ih =>
    obtain ⟨rfl, hlen⟩ := ih
    rw [List.length_cons] at hlen
    exact ⟨update_ofBlock hlen, by rw [List.length_append, List.length_singleton, hlen]⟩
  | initFrom hsize hmask h ih =>
    obtain ⟨rfl, hlen⟩ := ih
    exact ⟨by simp [ofBlock, RollingSum.init, RollingSum.initFrom, empty, hsize, hmask], hlen⟩

lemma StrongSum.Over.bytes_eq {width : ℕ} {s : StrongSum} {block : List UInt8}
    (h : s.Over width block) : s.bytes = StrongBytes.ofBlock width block := by
  have hcompute {s : StrongSum} (hwidth : s.width = min width 16) (block : List UInt8) :
      (s.compute block).bytes = StrongBytes.ofBlock width block := by
    rw [StrongSum.compute, StrongBytes.ofBlock, hwidth, StrongBytes.truncate_min]
    rfl
  induction h with
  | compute block hwidth => exact hcompute hwidth block
  | @ensure s block hwidth _ ih =>
    rw [StrongSum.ensure]
    split
    · next hset => exact ih hset
    · exact hcompute hwidth block
  | copyFrom _ _ ih => exact ih

lemma BlockSum.Formed.eq_ofBlock {header : Header} {s : BlockSum} {block : List UInt8}
    (h : s.Formed header block) :
    s = .ofBlock header.hashLengths.rolling header.hashLengths.strong block := by
  cases h with
  | single h =>
    obtain ⟨rfl, -⟩ := h.eq_ofBlock
    rfl
  | paired hrolling hstrong =>
    rw [Draft.sum, hrolling.eq_ofBlock.1, hstrong.bytes_eq]
    rfl

/-! ### Entries -/

namespace ControlFile

lemma spelled_inj {bs cs : List UInt8} (hlen : bs.length = cs.length)
    (h : spelled bs = spelled cs) : bs = cs := by
  induction bs using List.reverseRecOn generalizing cs with
  | nil => exact (List.length_eq_zero_iff.mp hlen.symm).symm
  | append_singleton bs b ih =>
    obtain ⟨cs, c, rfl⟩ := (List.eq_nil_or_concat' cs).resolve_left fun hnil => by
      simp [hnil] at hlen
    rw [List.length_append, List.length_append, List.length_singleton,
      List.length_singleton] at hlen
    rw [spelled_concat, spelled_concat] at h
    have hb := b.toNat_lt
    have hc := c.toNat_lt
    obtain rfl := UInt8.toNat_inj.mp (show b.toNat = c.toNat by omega)
    obtain rfl : bs = cs := ih (by omega) (by omega)
    rfl

lemma bigEndianBytes_inj {width : ℕ} (h : width ≤ 4) {m n : UInt32} :
    bigEndianBytes width m = bigEndianBytes width n ↔
      m &&& RollingSum.maskOf width = n &&& RollingSum.maskOf width := by
  constructor
  · intro heq
    rw [← bigEndian_bigEndianBytes h, heq, bigEndian_bigEndianBytes h]
  · intro heq
    refine spelled_inj (by rw [length_bigEndianBytes, length_bigEndianBytes]) ?_
    rw [spelled_bigEndianBytes h, spelled_bigEndianBytes h, ← toNat_and_maskOf h, heq,
      toNat_and_maskOf h]

end ControlFile

lemma StrongBytes.take_truncate (width : ℕ) (bytes : StrongBytes) :
    (truncate width bytes).toList.take width = bytes.toList.take width := by
  refine List.ext_getElem (by simp) fun i hi _ => ?_
  rw [List.length_take] at hi
  simp [truncate, show i < width by omega]

lemma StrongBytes.truncate_inj {width : ℕ} {x y : StrongBytes} :
    truncate width x = truncate width y ↔ x.toList.take width = y.toList.take width := by
  constructor
  · intro h
    rw [← take_truncate, h, take_truncate]
  · intro h
    rw [← ControlFile.ofList_take_toList, h, ControlFile.ofList_take_toList]

namespace ControlFile

/-- The entry of a block: the low bytes of its rolling sum, high end first, and the first bytes of
its MD4. -/
def entryOf (l : HashLengths) (block : List UInt8) : List UInt8 :=
  bigEndianBytes l.rolling (RollingSum.hash block) ++ (Md4.hash block).toList.take l.strong

lemma decodeEntry_entryOf {l : HashLengths} (hl : l.Accepted) (block : List UInt8) :
    decodeEntry l (entryOf l block) = .ofBlock l.rolling l.strong block :=
  decodeEntry_encodeEntry hl.rolling.2 ⟨RollingSum.hash block, Md4.hash block⟩

lemma length_entryOf {l : HashLengths} (hl : l.Accepted) (block : List UInt8) :
    (entryOf l block).length = l.rolling + l.strong :=
  length_encodeEntry hl.strong.2 ⟨RollingSum.hash block, Md4.hash block⟩

/-- **Table and matchers agree**: of a block a matcher forms, by whichever way it comes there, the
sum that is read from the entry of the block, and two blocks have equal sums just if their entries
are the same. -/
theorem reads_what_matchers_form {header : Header} (hl : header.hashLengths.Accepted)
    {s : BlockSum} {block : List UInt8} (hs : s.Formed header block) :
    (∀ (b : Buffered) (tail : List UInt8),
      b.rest = bigEndianBytes header.hashLengths.rolling (RollingSum.hash block) ++
        (Md4.hash block).toList.take header.hashLengths.strong ++ tail →
      ∃ b', readSums header 1 #[] b = (.ok [s], b') ∧ b'.rest = tail) ∧
    ∀ (s' : BlockSum) (block' : List UInt8), s'.Formed header block' →
      (s = s' ↔
        bigEndianBytes header.hashLengths.rolling (RollingSum.hash block) =
          bigEndianBytes header.hashLengths.rolling (RollingSum.hash block') ∧
        (Md4.hash block).toList.take header.hashLengths.strong =
          (Md4.hash block').toList.take header.hashLengths.strong) := by
  constructor
  · intro b tail hrest
    have hlen : (entryOf header.hashLengths block).length = header.entrySize :=
      length_entryOf hl block
    change b.rest = entryOf header.hashLengths block ++ tail at hrest
    have hle : 1 * header.entrySize ≤ b.rest.length := by
      rw [hrest, List.length_append]
      omega
    obtain ⟨c, hc, htail⟩ := exists_readSums_of_le hle #[]
    rw [hrest, Nat.one_mul, List.drop_left' hlen] at htail
    refine ⟨c, ?_, htail⟩
    rw [hc, sumsAt_succ, hrest, List.take_left' hlen, decodeEntry_entryOf hl, hs.eq_ofBlock]
    rfl
  · intro s' block' hs'
    rw [hs.eq_ofBlock, hs'.eq_ofBlock, bigEndianBytes_inj hl.rolling.2, ← StrongBytes.truncate_inj]
    exact BlockSum.mk.injEq _ _ _ _ ▸ Iff.rfl

/-- A sum over blocks of two that has rolled on to `[1, y]`, and was taken over at another width. -/
def rolledSum (y : UInt8) : BlockSum.Draft where
  rolling := (RollingSum.empty 2 2).initFrom (((RollingSum.empty 2 4).init [9, 1]).update 9 y)
  strong := (StrongSum.empty 3).copyFrom ((StrongSum.empty 3).ensure [1, y])

lemma formed_rolledSum (y : UInt8) : (rolledSum y).sum.Formed (.fourBytes 1) [1, y] := by
  have hinit : ((RollingSum.empty 2 4).init [9, 1]).Over 2 4 [9, 1] := .init rfl rfl rfl
  have hstrong : ((StrongSum.empty 3).ensure [1, y]).Over 3 [1, y] :=
    .ensure rfl fun hset => nomatch hset
  exact .paired (.initFrom rfl rfl (hinit.update 9 y)) (.copyFrom rfl hstrong)

theorem reads_the_rolled_sum : (rolledSum 2).sum.Formed (.fourBytes 1) [1, 2] ∧
    (rolledSum 2).sum ≠ (rolledSum 3).sum ∧
    ∃ b, readSums (.fourBytes 1) 1 #[]
      (.ofSource 3 (.ofBytes (entryOf (Header.fourBytes 1).hashLengths [1, 2] ++ [10]))) =
        (.ok [(rolledSum 2).sum], b) ∧ b.rest = [10] := by
  have hl : (Header.fourBytes 1).hashLengths.Accepted := by constructor <;> decide
  have hagree := reads_what_matchers_form hl (formed_rolledSum 2)
  refine ⟨formed_rolledSum 2, fun heq => ?_, hagree.1 _ [10] rfl⟩
  have hentries := (hagree.2 _ _ (formed_rolledSum 3)).mp heq
  exact absurd hentries.1 (by decide)

end ControlFile

end SeedSync
