import Mathlib
import SeedSync.Assembly.Store
import SeedSync.Proofs.Assembly.Operations
import SeedSync.Proofs.Control.Target

/-!
Whole runs of an assembly: blocks from views and ranges of the remote file in any order, of which
each may fail.
-/

namespace SeedSync.Assembly

inductive Call
  | write (i : ℕ) (w : View) (offset : ℕ)
  | receive (r : ByteRange) (body : Body)

namespace Call

/-- The assembly after the call, whether that succeeds or fails. -/
def apply (a : Assembly) : Call → Assembly
  | .write i w offset => (a.writeBlock i w offset).2
  | .receive r body => (a.receive r body).2.1

/-- The blocks that the call is about. -/
def Addresses (h : Header) : Call → ℕ → Prop
  | .write i _ _, j => j = i
  | .receive r _, j => r.first / h.blockSize ≤ j ∧ j ≤ r.last / h.blockSize

/-- The bytes that the call has for a block. -/
def supply (h : Header) : Call → ℕ → List UInt8
  | .write _ w offset, j => (w.toList.drop offset).take (h.blockLength j)
  | .receive r body, j => (body.bytes.drop (h.blockOffset j - r.first)).take (h.blockLength j)

lemma extends_apply {a : Assembly} (h : Sound a) (call : Call) :
    Extends (call.Addresses a.header) (call.supply a.header) a (call.apply a) := by
  cases call with
  | write i w offset => exact extends_writeBlock h i w offset
  | receive r body => exact (extends_receive h r body).1

end Call

def run (a : Assembly) (calls : List Call) : Assembly := calls.foldl Call.apply a

variable {a : Assembly} {i : ℕ}

lemma run_cons (a : Assembly) (call : Call) (calls : List Call) :
    a.run (call :: calls) = (call.apply a).run calls := rfl

/-! ### What every call preserves -/

lemma sound_run (h : Sound a) (calls : List Call) :
    Sound (a.run calls) ∧ (a.run calls).header = a.header := by
  induction calls generalizing a with
  | nil => exact ⟨h, rfl⟩
  | cons call calls ih =>
    have he := call.extends_apply h
    rw [run_cons, ← he.header]
    exact ih he.sound

lemma block_run (h : Sound a) (hi : a.isBlockComplete i = true) (calls : List Call) :
    (a.run calls).isBlockComplete i = true ∧ (a.run calls).block i = a.block i := by
  induction calls generalizing a with
  | nil => exact ⟨hi, rfl⟩
  | cons call calls ih =>
    have he := call.extends_apply h
    have hsame := he.same i (h.lt_of_isBlockComplete hi) (.inl hi)
    rw [run_cons, ← hsame]
    exact ih he.sound (he.kept i hi)

/-- One call has completed a block that is complete at the end: before it the block is missing, and
from then on it holds the bytes of this call. -/
lemma exists_completing_call (h : Sound a) (hi : a.isBlockComplete i = false) {calls : List Call}
    (hdone : (a.run calls).isBlockComplete i = true) :
    ∃ k call, calls[k]? = some call ∧ call.Addresses a.header i ∧
      (∀ j ≤ k, (a.run (calls.take j)).isBlockComplete i = false) ∧
      ∀ j, k < j → (a.run (calls.take j)).isBlockComplete i = true ∧
        (a.run (calls.take j)).block i = call.supply a.header i := by
  induction calls generalizing a with
  | nil => exact absurd hdone (by simp [run, hi])
  | cons call calls ih =>
    have he := call.extends_apply h
    rcases Bool.eq_false_or_eq_true ((call.apply a).isBlockComplete i) with hc | hc
    · obtain ⟨haddr, hbytes⟩ := he.gained i hi hc
      refine ⟨0, call, rfl, haddr, fun j hj => ?_, fun j hj => ?_⟩
      · rw [Nat.le_zero.mp hj]
        exact hi
      · obtain ⟨j, rfl⟩ := Nat.exists_eq_succ_of_ne_zero hj.ne'
        rw [List.take_succ_cons, run_cons, ← hbytes]
        exact block_run he.sound hc _
    · obtain ⟨k, call', hget, haddr, hbefore, hafter⟩ := ih he.sound hc hdone
      rw [he.header] at haddr hafter
      refine ⟨k + 1, call', hget, haddr, fun j hj => ?_, fun j hj => ?_⟩
      · cases j with
        | zero => exact hi
        | succ j => exact hbefore j (by omega)
      · obtain ⟨j, rfl⟩ := Nat.exists_eq_succ_of_ne_zero (show j ≠ 0 by omega)
        exact hafter j (by omega)

/-! ### From the opening on -/

lemma isBlockComplete_start (path : String) (c : ControlFile) (journal : Array Event) (i : ℕ) :
    (start path c journal).isBlockComplete i = false := by
  rw [Bool.eq_false_iff, ne_eq, isBlockComplete_iff]
  simp only [start, Array.getElem?_replicate]
  split <;> simp

lemma sound_start {header : Header} {sums : List BlockSum} {c : ControlFile}
    (hc : ControlFile.assemble header sums = .ok c) (hb : 0 < header.blockSize) (path : String)
    (journal : Array Event) : Sound (start path c journal) := by
  have hn := ControlFile.numBlocks_eq hc
  obtain rfl : c.header = header := (ControlFile.assemble_ok hc).2.1
  exact ⟨hb, hn, by simpa [start] using hn, Content.size_zeros _, by simp [start]⟩

lemma eq_start_of_openAt {t : Tree} {path : String} {c : ControlFile} {journal : Array Event}
    (h : (openAt t path c journal).1 = .ok a) : a = start path c journal := by
  unfold openAt at h
  split at h
  · cases h
  split at h
  · cases h
  split at h
  · cases h
  dsimp only at h
  split at h
  · cases h
  · exact (Except.ok.inj h).symm

lemma length_le_of_openAt {t : Tree} {path : String} {c : ControlFile} {journal : Array Event}
    (h : (openAt t path c journal).1 = .ok a) : c.header.length ≤ maxLength := by
  unfold openAt at h
  split at h
  · cases h
  split at h
  · cases h
  split at h
  · cases h
  · omega

/-- **Complete blocks are for good.** Whatever calls are made on an assembly that has just been
opened, and whether they succeed or fail: it counts the missing blocks; its file is as long as the
header says; each complete block has been completed by one call and holds what that call had for
it ever since; and a further call changes no byte of a complete block, or of one that it is not
about. -/
theorem keeps_complete_blocks {header : Header} {sums : List BlockSum} {c : ControlFile} {t : Tree}
    {path : String} {journal : Array Event} (hc : ControlFile.assemble header sums = .ok c)
    (hb : 1 ≤ header.blockSize) (hopen : (openAt t path c journal).1 = .ok a) (calls : List Call) :
    (a.run calls).remaining = ((List.range header.numBlocks).filter fun i =>
      !(a.run calls).isBlockComplete i).length ∧
    (a.run calls).content.length = header.length ∧
    (∀ i, (a.run calls).isBlockComplete i = true →
      ∃ k call, calls[k]? = some call ∧ call.Addresses header i ∧
        (∀ j ≤ k, (a.run (calls.take j)).isBlockComplete i = false) ∧
        ∀ j, k < j → (a.run (calls.take j)).isBlockComplete i = true ∧
          (a.run (calls.take j)).block i = call.supply header i) ∧
    ∀ call : Call, ∀ x < header.length,
      (a.run calls).isBlockComplete (x / header.blockSize) = true ∨
        ¬ call.Addresses header (x / header.blockSize) →
      (call.apply (a.run calls)).content[x]? = (a.run calls).content[x]? := by
  obtain rfl := eq_start_of_openAt hopen
  obtain rfl : c.header = header := (ControlFile.assemble_ok hc).2.1
  have hstart := sound_start hc hb path journal
  obtain ⟨hrun, hheader⟩ := sound_run hstart calls
  have hheader : ((start path c journal).run calls).header = c.header := hheader
  refine ⟨?_, ?_, fun i hi => ?_, fun call x hx hor => ?_⟩
  · rw [hrun.remaining_eq, hheader]
  · rw [content, Array.length_toList, hrun.file, hheader]
  · exact exists_completing_call hstart (isBlockComplete_start ..) hi
  · have he := call.extends_apply hrun
    rw [hheader] at he
    exact he.getElem?_content hrun (by rwa [hheader]) (by rwa [hheader])

/-- A view that is too short, one that is long enough, and a range whose body ends early. -/
def fourCalls : List Call :=
  [.write 1 (.ofList [7]) 0, .write 1 (.ofList [0, 3, 4]) 1,
    .receive ⟨0, 3⟩ (.ofSource ⟨[1, 2, 9], [.short 1, .interrupted], none⟩ false)]

theorem keeps_a_block_of_four : ∃ c a,
    ControlFile.assemble (.fourBytes 1) (ControlFile.sumsOf (.fourBytes 1) [1, 2, 3, 4]) = .ok c ∧
      1 ≤ (Header.fourBytes 1).blockSize ∧ (openAt ⟨[]⟩ "four" c #[]).1 = .ok a ∧
      (a.run fourCalls).content.length = 4 ∧ (a.run fourCalls).isBlockComplete 1 = true ∧
      ∃ call ∈ fourCalls, call.Addresses (.fourBytes 1) 1 ∧
        (a.run fourCalls).block 1 = call.supply (.fourBytes 1) 1 := by
  obtain ⟨⟨header, sums, rollings, pairs⟩, hc⟩ :=
    ControlFile.exists_assemble_sumsOf (.fourBytes 1) [1, 2, 3, 4]
  obtain rfl : header = .fourBytes 1 := (ControlFile.assemble_ok hc).2.1
  set c : ControlFile := ⟨.fourBytes 1, sums, rollings, pairs⟩
  have hs := sound_start hc (by decide) "four" #[]
  have hmissing := isBlockComplete_start "four" c #[] 1
  have hheader : (start "four" c #[]).header = .fourBytes 1 := rfl
  have hn : 1 < (start "four" c #[]).header.numBlocks := by rw [hheader]; decide
  have hopen : (openAt ⟨[]⟩ "four" c #[]).1 = .ok (start "four" c #[]) := rfl
  obtain ⟨-, hlength, hcomplete, -⟩ := keeps_complete_blocks hc (by decide) hopen fourCalls
  have hfirst : Call.apply (start "four" c #[]) (.write 1 (.ofList [7]) 0) =
      start "four" c #[] := by
    rw [Call.apply, writeBlock_of_missing hs _ _ hn hmissing, if_neg (by rw [hheader]; decide)]
  have hsecond :
      (Call.apply (start "four" c #[]) (.write 1 (.ofList [0, 3, 4]) 1)).isBlockComplete 1 =
        true := by
    rw [Call.apply, writeBlock_of_missing hs _ _ hn hmissing, if_pos (by rw [hheader]; decide)]
    exact (isBlockComplete_complete [3, 4] (hn.trans_eq hs.completed.symm)).mpr (.inl rfl)
  have hdone : ((start "four" c #[]).run fourCalls).isBlockComplete 1 = true := by
    rw [fourCalls, run_cons, hfirst, run_cons]
    exact (block_run (Call.extends_apply hs _).sound hsecond _).1
  obtain ⟨k, call, hget, haddr, -, hafter⟩ := hcomplete 1 hdone
  have hk : k < fourCalls.length := (List.getElem?_eq_some_iff.mp hget).1
  refine ⟨c, _, hc, by decide, hopen, hlength, hdone, call, List.mem_of_getElem? hget, haddr, ?_⟩
  simpa using (hafter fourCalls.length hk).2

end SeedSync.Assembly
