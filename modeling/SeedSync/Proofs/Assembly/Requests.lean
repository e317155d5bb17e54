import Mathlib
import SeedSync.Proofs.Assembly.Target

/-!
What an assembly asks for is what it lacks, in as few ranges as possible, and it takes what it has
asked for.
-/

namespace SeedSync.Assembly

variable {path : String} {c : ControlFile} {header : Header} {sums : List BlockSum} {a : Assembly}
  {t : Tree} {journal : Array Event}

lemma Filled.run (h : Filled path c (fun _ _ => True) a) (calls : List Call) :
    Filled path c (fun _ _ => True) (a.run calls) := by
  induction calls generalizing a with
  | nil => exact h
  | cons call calls ih =>
    exact ih (h.of_extends (call.extends_apply h.sound) fun _ _ _ => trivial)

/-- **The ranges are exact.** Whatever calls have been made on an assembly since it was opened, and
whether they succeeded or failed: the ranges of missing bytes are in order, none touches the next
one, and each starts and ends with blocks of the file; a byte of the file lies in one of them
exactly if its block is missing; the count of missing bytes adds up the missing blocks; and taking
the ranges, in any order, from bodies that reach to their ends succeeds and leaves nothing missing.
-/
theorem asks_for_what_is_missing (hc : ControlFile.assemble header sums = .ok c)
    (hb : 1 ≤ header.blockSize) (hopen : (openAt t path c journal).1 = .ok a) (calls : List Call) :
    let b := a.run calls
    b.missingRanges.Pairwise (fun q r => q.last + 1 < r.first) ∧
    (∀ r ∈ b.missingRanges, r.first ≤ r.last ∧ b.isAligned r = true) ∧
    (∀ x < header.length, (∃ r ∈ b.missingRanges, r.first ≤ x ∧ x ≤ r.last) ↔
      b.isBlockComplete (x / header.blockSize) = false) ∧
    b.missingBytes = (((List.range header.numBlocks).filter fun i => !b.isBlockComplete i).map
      header.blockLength).sum ∧
    ∀ (rs : List ByteRange) (body : ByteRange → Body), rs.Perm b.missingRanges →
      (∀ r ∈ rs, r.length ≤ (body r).bytes.length) →
      ∃ d, receiveAll body b rs = (.ok (), d) ∧ d.isComplete = true := by
  obtain rfl := eq_start_of_openAt hopen
  have hstart : Filled path c (fun _ _ => True) (start path c journal) := filled_start hc hb
  have hrun := hstart.run calls
  obtain rfl : c.header = header := (ControlFile.assemble_ok hc).2.1
  dsimp only
  generalize (start path c journal).run calls = b at hrun ⊢
  rw [← hrun.header]
  refine ⟨hrun.sound.pairwise_missingRanges, fun r hr => ?_,
    fun x => hrun.sound.mem_missingRanges_iff,
    hrun.sound.missingBytes_eq, fun rs body hrs hlong => ?_⟩
  · obtain ⟨f, s, hspans⟩ := hrun.sound.exists_spans hr
    exact ⟨hspans.first_le_last hrun.sound, hspans.isAligned⟩
  · obtain ⟨d, hd, hfilled, hall⟩ :=
      hrun.exists_receive_perm hrs hlong fun _ _ _ _ _ _ _ _ => trivial
    rw [← hfilled.header] at hall
    exact ⟨d, hd, (isComplete_iff hfilled.sound).mpr hall⟩

/-- A view that is too short for the second block, and one that is long enough. -/
def secondOfFour : List Call := [.write 1 (.ofList [7]) 0, .write 1 (.ofList [0, 3, 4]) 1]

/-- Three bytes in short reads, with an interruption between them. -/
def threeBytes : Body := .ofSource ⟨[1, 2, 9], [.short 1, .interrupted], none⟩ false

lemma isBlockComplete_secondOfFour (hc : ControlFile.assemble (.fourBytes 1) sums = .ok c) {i : ℕ} :
    ((start path c journal).run secondOfFour).isBlockComplete i = true ↔ i = 1 := by
  have hs := sound_start hc (by decide) path journal
  have hmissing := isBlockComplete_start path c journal
  obtain ⟨header, table, rollings, pairs⟩ := c
  obtain rfl : header = .fourBytes 1 := (ControlFile.assemble_ok hc).2.1
  set a := start path ⟨.fourBytes 1, table, rollings, pairs⟩ journal
  have hn : 1 < a.header.numBlocks := (by decide : 1 < (Header.fourBytes 1).numBlocks)
  have hlength : a.header.blockLength 1 = 2 := (by decide : (Header.fourBytes 1).blockLength 1 = 2)
  have hfirst : Call.apply a (.write 1 (.ofList [7]) 0) = a := by
    rw [Call.apply, writeBlock_of_missing hs _ _ hn (hmissing 1), hlength, if_neg (by decide)]
  have hsecond : Call.apply a (.write 1 (.ofList [0, 3, 4]) 1) =
      (a.complete 1 [3, 4]).emit (.bytesWritten 2) := by
    rw [Call.apply, writeBlock_of_missing hs _ _ hn (hmissing 1), hlength, if_pos (by decide)]
    rfl
  have hcomplete : (a.complete 1 [3, 4]).isBlockComplete i = true ↔
      i = 1 ∨ a.isBlockComplete i = true :=
    isBlockComplete_complete [3, 4] (hn.trans_eq hs.completed.symm)
  rw [hmissing] at hcomplete
  rw [secondOfFour, run_cons, hfirst, run_cons, hsecond]
  exact hcomplete.trans (by simp)

/-- The first of two blocks is missing then: two bytes, that three bytes are enough for. -/
theorem asks_for_the_first_of_two_blocks : ∃ c a,
    ControlFile.assemble (.fourBytes 1) (ControlFile.sumsOf (.fourBytes 1) [1, 2, 3, 4]) = .ok c ∧
      1 ≤ (Header.fourBytes 1).blockSize ∧ (openAt ⟨[]⟩ "four" c #[]).1 = .ok a ∧
      (a.run secondOfFour).missingBytes = 2 ∧
      (∀ r ∈ (a.run secondOfFour).missingRanges, r.length ≤ threeBytes.bytes.length) ∧
      ∃ d, receiveAll (fun _ => threeBytes) (a.run secondOfFour)
        (a.run secondOfFour).missingRanges = (.ok (), d) ∧ d.isComplete = true := by
  obtain ⟨⟨header, table, rollings, pairs⟩, hc⟩ :=
    ControlFile.exists_assemble_sumsOf (.fourBytes 1) [1, 2, 3, 4]
  obtain rfl : header = .fourBytes 1 := (ControlFile.assemble_ok hc).2.1
  set c : ControlFile := ⟨.fourBytes 1, table, rollings, pairs⟩
  have hopen : (openAt ⟨[]⟩ "four" c #[]).1 = .ok (start "four" c #[]) := rfl
  obtain ⟨-, haligned, hmem, hbytes, htake⟩ :=
    asks_for_what_is_missing hc (by decide) hopen secondOfFour
  have hdone {i : ℕ} :
      ((start "four" c #[]).run secondOfFour).isBlockComplete i = decide (i = 1) := by
    rw [Bool.eq_iff_iff, isBlockComplete_secondOfFour hc, decide_eq_true_iff]
  -- a range that went beyond the first block would hold the third byte
  have hshort : ∀ r ∈ ((start "four" c #[]).run secondOfFour).missingRanges,
      r.length ≤ threeBytes.bytes.length := by
    intro r hr
    by_contra hlong
    obtain ⟨hrun, hheader⟩ := sound_run (sound_start hc (by decide) "four" #[]) secondOfFour
    obtain ⟨f, s, hspans⟩ := hrun.exists_spans hr
    have hlong : 3 < r.length := Nat.lt_of_not_le hlong
    rw [hspans.length_eq hrun.pos] at hlong
    have hlast := (isAligned_iff.mp (haligned r hr).2).2.2
    rw [hheader] at hlast
    have hlast : r.last < 4 := hlast
    have hthird := (hmem 2 (by decide)).mp ⟨r, hr, by omega, by omega⟩
    rw [hdone] at hthird
    exact absurd hthird (by decide)
  refine ⟨c, _, hc, by decide, hopen, ?_, hshort, htake _ _ (.refl _) hshort⟩
  rw [hbytes]
  simp only [hdone]
  decide

end SeedSync.Assembly
