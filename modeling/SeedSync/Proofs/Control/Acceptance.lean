import Mathlib
import SeedSync.Proofs.Control.Encoding
import SeedSync.Proofs.Control.Reading

/-!
Which tables are accepted, and what holds of every control file that is read: a table is read if
all its bytes are there, and otherwise the entry is named that is not.
-/

namespace SeedSync

namespace Header

variable {f g : Fields} {b b' : Buffered} {header : Header}

lemma precedes_readFields (h : readFields f b = (.ok g, b')) : b.Precedes b' := by
  induction hk : b.rest.length using Nat.strong_induction_on generalizing f b with
  | _ k ih =>
    subst hk
    have hprec := Buffered.precedes_readUntil 10 (b.rest.length + 1) #[] b
    unfold readFields at h
    split at h
    · cases h
    · cases h
    · next x xs b₁ hline =>
      have hstep : b.Precedes b₁ := by
        rw [Buffered.readLine] at hline
        rwa [hline] at hprec
      split at h
      · cases h
      split at h
      · obtain rfl := (Prod.mk.inj h).2
        exact hstep
      split at h
      · cases h
      · next f' _ =>
        have hlt := congrArg List.length (Buffered.rest_of_readUntil hline)
        exact hstep.trans (ih b₁.rest.length (by simp at hlt; omega) h rfl)

lemma precedes_read (h : read b = (.ok header, b')) : b.Precedes b' := by
  rw [read] at h
  split at h
  · cases h
  · next f b₁ hread =>
    split at h
    · cases h
    · obtain rfl := (Prod.mk.inj h).2
      exact precedes_readFields hread

end Header

namespace ControlFile

/-! ### Tables -/

/-- The sums in `n` entries at the front of these bytes. -/
def sumsAt (h : Header) (n : ℕ) (bytes : List UInt8) : List BlockSum :=
  (List.range n).map fun i =>
    decodeEntry h.hashLengths ((bytes.drop (i * h.entrySize)).take h.entrySize)

lemma sumsAt_succ (h : Header) (n : ℕ) (bytes : List UInt8) :
    sumsAt h (n + 1) bytes = decodeEntry h.hashLengths (bytes.take h.entrySize) ::
      sumsAt h n (bytes.drop h.entrySize) := by
  rw [sumsAt, List.range_succ_eq_map, List.map_cons, List.map_map, sumsAt]
  simp [Nat.succ_mul, Nat.add_comm]

variable {h : Header} {b : Buffered} {todo : ℕ}

/-- A table is read if it is there in full, and nothing beyond it. -/
lemma exists_readSums_of_le (hle : todo * h.entrySize ≤ b.rest.length) (done : Array BlockSum) :
    ∃ c, readSums h todo done b = (.ok (done.toList ++ sumsAt h todo b.rest), c) ∧
      c.rest = b.rest.drop (todo * h.entrySize) := by
  induction todo generalizing b done with
  | zero => exact ⟨b, by rw [sumsAt, List.range_zero, List.map_nil, List.append_nil]; rfl, by simp⟩
  | succ todo ih =>
    rw [Nat.succ_mul] at hle
    obtain ⟨c, hc, hrest, -⟩ := b.exists_readExactly (n := h.entrySize) (by omega)
    obtain ⟨d, hd, hdrest⟩ := ih (b := c) (by rw [hrest, List.length_drop]; omega)
      (done.push (decodeEntry h.hashLengths (b.rest.take h.entrySize)))
    refine ⟨d, ?_, by rw [hdrest, hrest, List.drop_drop, Nat.succ_mul, Nat.add_comm]⟩
    rw [readSums, hc]
    dsimp only
    rw [hd, hrest, sumsAt_succ]
    simp

/-- The failure of a table of `n` entries that breaks off in entry `i`: what failed behind its
bytes, or that they are too few. -/
def broken (ending : Option IoError) (i n : ℕ) : Error :=
  let e := ending.getD .endedEarly
  if e.kind = .unexpectedEnd then .control (.truncatedTable i n) else .io .controlFileRead e

lemma broken_of_ends {ending : Option IoError} (h : ∀ e ∈ ending, e.kind = .unexpectedEnd)
    (i n : ℕ) : broken ending i n = .control (.truncatedTable i n) := by
  refine if_pos ?_
  cases he : ending with
  | none => rfl
  | some e => exact h e he

lemma exists_readSums_of_lt (hlt : b.rest.length < todo * h.entrySize) (done : Array BlockSum) :
    ∃ c, readSums h todo done b = (.error (broken b.source.ending
      (done.size + b.rest.length / h.entrySize) (done.size + todo)), c) := by
  induction todo generalizing b done with
  | zero => omega
  | succ todo ih =>
    rw [Nat.succ_mul] at hlt
    by_cases hshort : b.rest.length < h.entrySize
    · obtain ⟨c, hc⟩ := b.exists_readExactly_short hshort
      refine ⟨c, ?_⟩
      rw [readSums, hc, Nat.div_eq_of_lt hshort]
      exact (apply_ite (fun e => (Except.error e, c)) _ _ _).symm
    · rw [not_lt] at hshort
      obtain ⟨c, hc, hrest, hprec⟩ := b.exists_readExactly hshort
      obtain ⟨d, hd⟩ := ih (b := c) (by rw [hrest, List.length_drop]; omega)
        (done.push (decodeEntry h.hashLengths (b.rest.take h.entrySize)))
      have hpos : 0 < h.entrySize := by
        by_contra hzero
        rw [Nat.eq_zero_of_not_pos hzero, Nat.mul_zero] at hlt
        omega
      refine ⟨d, ?_⟩
      rw [readSums, hc]
      dsimp only
      rw [hd, hprec.ending, Array.size_push, hrest, List.length_drop,
        Nat.div_eq_sub_div hpos hshort]
      congr 3 <;> omega

/-! ### Sums -/

variable {l : HashLengths}

lemma rolling_decodeEntry_lt (hl : l.Accepted) (entry : List UInt8) :
    (decodeEntry l entry).rolling.toNat < 2 ^ (8 * l.rolling) := by
  have hlen : (entry.take l.rolling).length ≤ l.rolling := List.length_take_le _ _
  have hpow : (2 : ℕ) ^ (8 * l.rolling) = 256 ^ l.rolling := by rw [Nat.pow_mul]
  calc (decodeEntry l entry).rolling.toNat = spelled (entry.take l.rolling) :=
        toNat_bigEndian (hlen.trans hl.rolling.2)
    _ < 256 ^ (entry.take l.rolling).length := spelled_lt _
    _ ≤ 2 ^ (8 * l.rolling) := hpow ▸ Nat.pow_le_pow_right (by decide) hlen

lemma strong_decodeEntry (l : HashLengths) (entry : List UInt8) {i : ℕ} (hi : i < 16)
    (hle : l.strong ≤ i) : (decodeEntry l entry).strong[i] = 0 := by
  rw [decodeEntry]
  dsimp only
  rw [StrongBytes.ofList, Vector.getElem_ofFn, List.getD_eq_getElem?_getD,
    List.getElem?_eq_none ((List.length_take_le _ _).trans hle), Option.getD_none]

/-! ### Control files -/

/-- A control file with a sum for each block, none wider than its header says, and with lookups that
answer for these sums. -/
structure WellFormed (c : ControlFile) : Prop where
  size : c.sums.size = c.header.length ⌈/⌉ c.header.blockSize
  rolling : ∀ s ∈ c.sums, s.rolling.toNat < 2 ^ (8 * c.header.hashLengths.rolling)
  strong : ∀ s ∈ c.sums, ∀ (i : ℕ) (hi : i < 16), c.header.hashLengths.strong ≤ i → s.strong[i] = 0
  hasRolling : ∀ x, c.hasRolling x = true ↔ ∃ s ∈ c.sums, s.rolling = x
  hasPair : ∀ x y, c.hasPair x y = true ↔ c.header.hashLengths.sequence = 2 ∧ c.Adjacent x y

lemma numBlocks_eq_ceilDiv (h : Header) : h.numBlocks = h.length ⌈/⌉ h.blockSize :=
  (Nat.ceilDiv_eq_add_pred_div _ _).symm

variable {c : ControlFile} {sums : List BlockSum}

lemma hasPair_eq_false (hc : assemble h sums = .ok c) (hseq : ¬ 1 < h.hashLengths.sequence)
    (x y : UInt32) : c.hasPair x y = false := by
  obtain ⟨-, -, -, -, hp⟩ := assemble_ok hc
  rw [if_neg hseq] at hp
  rw [hasPair, hp, Std.HashSet.contains_ofList]
  rfl

lemma wellFormed_of_assemble (hl : h.hashLengths.Accepted) {bytes : List UInt8}
    (hc : assemble h (sumsAt h h.numBlocks bytes) = .ok c) : c.WellFormed := by
  obtain ⟨hlen, rfl, hs, -, -⟩ := assemble_ok hc
  -- all that is to be known of a sum is that it was decoded
  have hmem : ∀ s ∈ c.sums, ∃ entry, s = decodeEntry c.header.hashLengths entry := by
    intro s hmem
    rw [hs, List.mem_toArray, sumsAt, List.mem_map] at hmem
    obtain ⟨i, -, rfl⟩ := hmem
    exact ⟨_, rfl⟩
  constructor
  case size => rw [← numBlocks_eq_ceilDiv, hs, List.size_toArray, hlen]
  case rolling =>
    intro s hmem'
    obtain ⟨entry, rfl⟩ := hmem s hmem'
    exact rolling_decodeEntry_lt hl entry
  case strong =>
    intro s hmem' i hi hle
    obtain ⟨entry, rfl⟩ := hmem s hmem'
    exact strong_decodeEntry _ entry hi hle
  case hasRolling =>
    intro x
    rw [hasRolling_iff hc]
    constructor
    · rintro ⟨q, s, hq, hx⟩
      exact ⟨s, Array.mem_of_getElem? hq, hx⟩
    · rintro ⟨s, hmem, hx⟩
      obtain ⟨q, hq⟩ := Array.mem_iff_getElem?.mp hmem
      exact ⟨q, s, hq, hx⟩
  case hasPair =>
    intro x y
    obtain ⟨hlo, hhi⟩ := hl.sequence
    by_cases hseq : 1 < c.header.hashLengths.sequence
    · rw [hasPair_iff hc hseq]
      exact (and_iff_right (by omega)).symm
    · rw [hasPair_eq_false hc hseq]
      refine ⟨fun hno => absurd hno (by decide), ?_⟩
      rintro ⟨htwo, -⟩
      omega

lemma exists_assemble_sumsAt (h : Header) (bytes : List UInt8) :
    ∃ c, assemble h (sumsAt h h.numBlocks bytes) = .ok c :=
  ⟨_, if_neg (by simp [sumsAt])⟩

section

variable {header : Header} {b b₁ : Buffered}

lemma exists_read_of_le (hheader : Header.read b = (.ok header, b₁))
    (hle : header.numBlocks * header.entrySize ≤ b₁.rest.length) :
    ∃ c b₂, assemble header (sumsAt header header.numBlocks b₁.rest) = .ok c ∧
      read b = (.ok c, b₂) ∧ b₂.rest = b₁.rest.drop (header.numBlocks * header.entrySize) := by
  obtain ⟨b₂, htable, hrest⟩ := exists_readSums_of_le hle #[]
  obtain ⟨c, hc⟩ := exists_assemble_sumsAt header b₁.rest
  refine ⟨c, b₂, hc, ?_, hrest⟩
  rw [read, hheader]
  dsimp only
  rw [htable]
  dsimp only
  rw [show (#[] : Array BlockSum).toList ++ sumsAt header header.numBlocks b₁.rest =
    sumsAt header header.numBlocks b₁.rest from rfl, hc]

lemma exists_read_of_lt (hheader : Header.read b = (.ok header, b₁))
    (hlt : b₁.rest.length < header.numBlocks * header.entrySize) :
    ∃ b₂, read b = (.error (broken b.source.ending (b₁.rest.length / header.entrySize)
      header.numBlocks), b₂) := by
  obtain ⟨b₂, htable⟩ := exists_readSums_of_lt hlt #[]
  refine ⟨b₂, ?_⟩
  rw [read, hheader]
  dsimp only
  rw [htable, (Header.precedes_read hheader).ending]
  simp

lemma exists_header_of_read {c : ControlFile} (h : (read b).1 = .ok c) :
    ∃ header b₁, Header.read b = (.ok header, b₁) := by
  rw [read] at h
  split at h
  · cases h
  · next header b₁ hheader => exact ⟨header, b₁, hheader⟩

end

/-- **A table is accepted if it is there in full**: behind an accepted header just the bytes of one
entry for each block are taken, however many these are, and where they are fewer the failure names
the entry that breaks off. Every control file that is read is well-formed. -/
theorem accepts_full_tables (b : Buffered) :
    (∀ header b₁, Header.read b = (.ok header, b₁) →
      let n := header.length ⌈/⌉ header.blockSize
      let width := header.hashLengths.rolling + header.hashLengths.strong
      ((∃ c, (read b).1 = .ok c) ↔ n * width ≤ b₁.rest.length) ∧
        (∀ c, (read b).1 = .ok c → c.header = header ∧
          c.sums.toList = sumsAt header n b₁.rest ∧
          (read b).2.rest = b₁.rest.drop (n * width)) ∧
        ((∀ e ∈ b.source.ending, e.kind = .unexpectedEnd) → b₁.rest.length < n * width →
          (read b).1 = .error (.control (.truncatedTable (b₁.rest.length / width) n)))) ∧
    ∀ c, (read b).1 = .ok c → c.WellFormed := by
  constructor
  · intro header b₁ hheader
    rw [← numBlocks_eq_ceilDiv]
    change (_ ↔ _ * header.entrySize ≤ _) ∧ _
    by_cases hle : header.numBlocks * header.entrySize ≤ b₁.rest.length
    · obtain ⟨c, b₂, hc, hread, hrest⟩ := exists_read_of_le hheader hle
      obtain ⟨-, hch, hcs, -, -⟩ := assemble_ok hc
      rw [hread]
      refine ⟨iff_of_true ⟨c, rfl⟩ hle, fun c' hc' => ?_, fun _ hlt => absurd hle hlt.not_ge⟩
      obtain rfl := Except.ok.inj hc'
      exact ⟨hch, by rw [hcs], hrest⟩
    · obtain ⟨b₂, hread⟩ := exists_read_of_lt hheader (not_le.mp hle)
      rw [hread]
      refine ⟨iff_of_false (fun ⟨c, hc⟩ => nomatch hc) hle, fun c hc => (nomatch hc), ?_⟩
      intro hend _
      rw [broken_of_ends hend]
      rfl
  · intro c hok
    obtain ⟨header, b₁, hheader⟩ := exists_header_of_read hok
    by_cases hle : header.numBlocks * header.entrySize ≤ b₁.rest.length
    · obtain ⟨c', b₂, hc, hread, -⟩ := exists_read_of_le hheader hle
      rw [hread] at hok
      obtain rfl := Except.ok.inj hok
      exact wellFormed_of_assemble (Header.bounds_of_read hheader).2 hc
    · obtain ⟨b₂, hread⟩ := exists_read_of_lt hheader (not_le.mp hle)
      rw [hread] at hok
      cases hok

def cutReader : Buffered := .ofSource 3
  ⟨fourLines.flatMap Header.Line.bytes ++
    (Header.lineBytes [] true ++ [10, 13, 10, 255, 13, 0, 10]),
    [.short 1, .interrupted], none⟩

theorem refuses_a_cut_table : ∃ header b₁, Header.read cutReader = (.ok header, b₁) ∧
    b₁.rest.length = 7 ∧ (read cutReader).1 = .error (.control (.truncatedTable 1 2)) ∧
    ∃ c, (read fourReader).1 = .ok c ∧ c.WellFormed := by
  obtain ⟨b₁, hheader, -, hrest⟩ :=
    describes_fourBytes.exists_read writable_fourBytes (b := cutReader) ⟨by decide, rfl⟩
  obtain ⟨b₂, hheader', -, hrest'⟩ :=
    describes_fourBytes.exists_read writable_fourBytes (b := fourReader)
      ⟨by decide, (List.append_assoc _ _ _).trans (List.append_assoc _ _ _)⟩
  have hn : (Header.fourBytes 1).length ⌈/⌉ (Header.fourBytes 1).blockSize = 2 := rfl
  have hcut := ((accepts_full_tables cutReader).1 _ _ hheader).2.2 (fun e he => nomatch he)
    (by rw [hrest, hn]; decide)
  obtain ⟨c, hc⟩ := ((accepts_full_tables fourReader).1 _ _ hheader').1.mpr (by rw [hrest']; decide)
  rw [hrest, hn] at hcut
  exact ⟨_, b₁, hheader, by rw [hrest]; rfl, hcut, c, hc, (accepts_full_tables fourReader).2 c hc⟩

end ControlFile

end SeedSync
