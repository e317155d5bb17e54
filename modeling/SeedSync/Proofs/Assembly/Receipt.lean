import Mathlib
import SeedSync.Proofs.Assembly.Target
import SeedSync.Proofs.Event.Stats

/-!
Ranges of a target, taken one after the other: what they complete, how much of their bodies is read
for it, and what a listener hears of that.
-/

namespace SeedSync.Assembly

/-- The bytes that a listener has heard of. -/
def transferred (a : Assembly) : ℕ := (a.journal.toList.map Event.downloaded).sum

variable {a b d : Assembly} {r : ByteRange} {body left : Body}

/-! ### What is read and reported -/

@[simp] lemma transferred_emit (a : Assembly) (e : Event) :
    (a.emit e).transferred = a.transferred + e.downloaded := by
  simp [transferred, emit]

lemma transferred_foldl_emit (a : Assembly) (reads : List ℕ) :
    ((reads.map .bytesDownloaded).foldl emit a).transferred = a.transferred + reads.sum := by
  induction reads generalizing a with
  | nil => rfl
  | cons n reads ih =>
    rw [List.map_cons, List.foldl_cons, ih, transferred_emit, Event.downloaded, List.sum_cons,
      Nat.add_assoc]

@[simp] lemma blockLength_foldl_emit (es : List Event) (a : Assembly) :
    (es.foldl emit a).blockLength = a.blockLength := by
  induction es generalizing a with
  | nil => rfl
  | cons e es ih => exact ih _

/-- Blocks that are read take just their bytes off the body, and all of these are reported to
whoever listens. -/
lemma receiveBlocks_ok {written n : ℕ} {blocks : List ℕ}
    (hok : receiveBlocks r a body written blocks = (.ok n, b, left)) :
    Body.Took body left (blocks.map a.blockLength).sum ∧
      (body.observed = true →
        b.transferred = a.transferred + (blocks.map a.blockLength).sum) := by
  induction blocks generalizing a body written with
  | nil =>
    obtain ⟨-, rfl, rfl⟩ := by simpa [receiveBlocks] using hok
    exact ⟨.refl body, fun _ => rfl⟩
  | cons i blocks ih =>
    rcases Nat.lt_or_ge body.bytes.length (a.blockLength i) with hshort | hlong
    · obtain ⟨p, body', heq⟩ := exists_receiveBlocks_short r written blocks hshort
      rw [heq] at hok
      cases hok
    · obtain ⟨reads, body', hsum, htook, -, heq⟩ := exists_receiveBlocks_cons r written blocks hlong
      rw [heq] at hok
      have hheard : body'.observed = true →
          Assembly.transferred
              ((body'.events ⟨body.bytes.take (a.blockLength i), reads, none⟩).foldl emit a) =
            a.transferred + a.blockLength i := fun hobs => by
        rw [Body.events, if_pos hobs, transferred_foldl_emit, hsum]
      rw [List.map_cons, List.sum_cons, ← Nat.add_assoc]
      -- whether this block is written or not, the others are read from `body'`
      have hrest {a' : Assembly} {written' : ℕ}
          (h : receiveBlocks r a' body' written' blocks = (.ok n, b, left))
          (hlengths : a'.blockLength = a.blockLength)
          (hheard : body'.observed = true → a'.transferred = a.transferred + a.blockLength i) :
          Body.Took body left (a.blockLength i + (blocks.map a.blockLength).sum) ∧
            (body.observed = true → b.transferred =
              a.transferred + a.blockLength i + (blocks.map a.blockLength).sum) := by
        obtain ⟨htook', htotal⟩ := ih h
        rw [hlengths] at htook' htotal
        refine ⟨htook.trans htook', fun hobs => ?_⟩
        have hobs' := htook.observed.trans hobs
        rw [htotal hobs', hheard hobs']
      split at hok
      · exact hrest hok (blockLength_foldl_emit _ a) hheard
      · exact hrest hok (blockLength_foldl_emit _ a) hheard

lemma receive_ok (h : Sound a) {f s : ℕ} (hr : Spans a.header r f s)
    (hok : a.receive r body = (.ok (), b, left)) : Body.Took body left r.length ∧
      (body.observed = true → b.transferred = a.transferred + r.length) := by
  have hlengths : (a.emit (.rangeReceived r)).blockLength = a.header.blockLength :=
    funext h.blockLength_eq
  rw [receive, hr.isAligned, if_neg (by decide), hr.first_div h, hr.last_div h] at hok
  dsimp only at hok
  split at hok
  · cases hok
  · next written b' left' hread =>
    obtain ⟨htook, hheard⟩ := receiveBlocks_ok hread
    rw [hlengths, hr.sum_blockLength h] at htook hheard
    simp only [transferred_emit, Event.downloaded, Nat.add_zero] at hheard
    obtain ⟨hb, rfl⟩ := Prod.mk.inj (Prod.mk.inj hok).2
    refine ⟨htook, fun hobs => ?_⟩
    rw [← hb]
    split
    · exact hheard hobs
    · rw [transferred_emit, hheard hobs]
      rfl

/-! ### What ranges bring -/

/-- The second assembly has come from the first one by taking these ranges of a target. -/
structure Receipt (target : List UInt8) (rs : List ByteRange) (a b : Assembly) : Prop where
  extends_target : Extends (fun _ => True) (targetBlock a.header target) a b
  complete : ∀ r ∈ rs, ∀ f s, Spans a.header r f s → ∀ i, f ≤ i → i < s →
    b.isBlockComplete i = true
  transferred : b.transferred = a.transferred + (rs.map ByteRange.length).sum

variable {target : List UInt8} {rs : List ByteRange}

namespace Receipt

lemma nil (h : Sound a) : Receipt target [] a a where
  extends_target := .refl h
  complete := by simp
  transferred := rfl

lemma cons (h : Receipt target [r] a b) (h' : Receipt target rs b d) :
    Receipt target (r :: rs) a d where
  extends_target := h.extends_target.trans (h.extends_target.header ▸ h'.extends_target)
  complete q hq f s hspans i hfi his := by
    rcases List.mem_cons.mp hq with rfl | hq
    · exact h'.extends_target.kept i (h.complete q (by simp) f s hspans i hfi his)
    · exact h'.complete q hq f s (h.extends_target.header ▸ hspans) i hfi his
  transferred := by
    rw [h'.transferred, h.transferred]
    simp [Nat.add_assoc]

end Receipt

/-- **A range of the target is taken** from a body that carries it, and nothing beyond. -/
lemma Sound.exists_receipt (h : Sound a) (hlen : a.header.length = target.length)
    (hr : ∃ f s, Spans a.header r f s) (hbody : Carries target r body)
    (hobs : body.observed = true) : ∃ b left, a.receive r body = (.ok (), b, left) ∧
      Receipt target [r] a b ∧ Body.Took body left r.length := by
  obtain ⟨f, s, hr⟩ := hr
  obtain ⟨b, left, hb, hext, hdone⟩ := h.exists_receive hlen hr hbody
  obtain ⟨htook, hheard⟩ := receive_ok h hr hb
  refine ⟨b, left, hb,
    ⟨hext, fun q hq f' s' hspans i hfi his => ?_, by simpa using hheard hobs⟩, htook⟩
  obtain rfl := List.mem_singleton.mp hq
  obtain ⟨rfl, rfl⟩ := hr.unique hspans h
  exact hdone i hfi his

/-! ### What was missing -/

/-- The file with the blocks of a target in place of those that are missing. -/
def filledUp (a : Assembly) (target : List UInt8) : List UInt8 :=
  (List.range a.header.numBlocks).flatMap fun i =>
    if a.isBlockComplete i then a.block i else targetBlock a.header target i

/-- Nothing is missing any more; the blocks that were are the target's, the others as before, and
the listener has heard of as many bytes as were missing. -/
structure Completes (target : List UInt8) (a : Assembly) (result : Except Error Unit × Assembly) :
    Prop where
  ok : result.1 = .ok ()
  complete : result.2.isComplete = true
  content : result.2.content = a.filledUp target
  transferred : result.2.transferred = a.transferred + (a.missingRanges.map ByteRange.length).sum

lemma Sound.content_eq_flatMap (h : Sound a) :
    a.content = (List.range a.header.numBlocks).flatMap a.block := by
  have hsize : a.content.length = a.header.length := by
    rw [content, Array.length_toList, h.file]
  have hfront {k : ℕ} (hk : k ≤ a.header.numBlocks) :
      (List.range k).flatMap a.block = a.content.take (a.header.blockOffset k) := by
    induction k with
    | zero => simp [Header.blockOffset]
    | succ k ih =>
      have hend := Header.blockOffset_add_blockLength h.pos hk
      rw [List.range_succ, List.flatMap_append, ih (by omega), List.flatMap_singleton, block,
        Content.slice, ← content, ← List.take_add, hend, ← hsize]
      exact List.take_eq_take_min.symm
  rw [hfront le_rfl, List.take_of_length_le]
  have := mt (Header.lt_numBlocks_iff h.pos).mpr (Nat.lt_irrefl _)
  omega

/-- **What was missing is there** once its ranges have been taken, in whatever order. -/
lemma Receipt.completes (h : Receipt target rs a b) (ha : Sound a)
    (hrs : rs.Perm a.missingRanges) : Completes target a (.ok (), b) := by
  have hext := h.extends_target
  have hall : ∀ i < a.header.numBlocks, b.isBlockComplete i = true := fun i hi => by
    rcases Bool.eq_false_or_eq_true (a.isBlockComplete i) with hm | hm
    · exact hext.kept i hm
    · obtain ⟨r, hr, f, s, hspans, hfi, his⟩ := ha.exists_missingRange hi hm
      exact h.complete r (hrs.mem_iff.mpr hr) f s hspans i hfi his
  refine ⟨rfl, (isComplete_iff hext.sound).mpr (by rwa [hext.header]), ?_, ?_⟩
  · dsimp only
    rw [hext.sound.content_eq_flatMap, hext.header, filledUp]
    refine List.flatMap_congr fun i hi => ?_
    have hi := List.mem_range.mp hi
    split
    · next hm => exact hext.block_eq hi (.inl hm)
    · next hm => exact (hext.gained i (by simpa using hm) (hall i hi)).2
  · rw [h.transferred, (hrs.map ByteRange.length).sum_eq]

end SeedSync.Assembly
