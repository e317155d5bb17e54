import Mathlib
import SeedSync.Proofs.Assembly.Operations
import SeedSync.Proofs.Event.Milestones
import SeedSync.Proofs.Matching.Sink

/-!
The journal of an assembly only grows: in a scan by counters, and with each range by the news that
it comes, and by counters.
-/

namespace SeedSync.Assembly

/-- The journal has grown behind `es`, by events with this property. -/
def Grown (P : Event → Prop) (es : List Event) (a : Assembly) : Prop :=
  ∃ more, a.journal.toList = es ++ more ∧ ∀ e ∈ more, P e

variable {a b : Assembly} {P : Event → Prop} {es : List Event}

lemma journal_emit (a : Assembly) (e : Event) :
    (a.emit e).journal.toList = a.journal.toList ++ [e] :=
  Array.toList_push

namespace Grown

lemma refl (P : Event → Prop) (a : Assembly) : Grown P a.journal.toList a :=
  ⟨[], (List.append_nil _).symm, by simp⟩

lemma emit (h : Grown P es a) {e : Event} (he : P e) : Grown P es (a.emit e) := by
  obtain ⟨more, hjournal, hmore⟩ := h
  refine ⟨more ++ [e], ?_, ?_⟩
  · rw [journal_emit, hjournal, List.append_assoc]
  · simpa [or_imp, forall_and] using ⟨hmore, he⟩

lemma foldl_emit (h : Grown P es a) {news : List Event} (hnews : ∀ e ∈ news, P e) :
    Grown P es (news.foldl Assembly.emit a) := by
  induction news generalizing a with
  | nil => exact h
  | cons e news ih =>
    obtain ⟨he, hnews⟩ := List.forall_mem_cons.mp hnews
    exact ih (h.emit he) hnews

lemma mono {Q : Event → Prop} (h : Grown P es a) (hPQ : ∀ e, P e → Q e) : Grown Q es a := by
  obtain ⟨more, hjournal, hmore⟩ := h
  exact ⟨more, hjournal, fun e he => hPQ e (hmore e he)⟩

lemma trans (h : Grown P es a) (h' : Grown P a.journal.toList b) : Grown P es b := by
  obtain ⟨more, hjournal, hmore⟩ := h
  obtain ⟨more', hjournal', hmore'⟩ := h'
  refine ⟨more ++ more', by rw [hjournal', hjournal, List.append_assoc], fun e he => ?_⟩
  rcases List.mem_append.mp he with he | he
  · exact hmore e he
  · exact hmore' e he

end Grown

/-! ### Scans -/

lemma keeps_grown (es : List Event) :
    BlockSink.Keeps (Grown (fun e => e.isCounter = true) es) where
  writeBlock a i w offset h := by
    change Grown _ es (a.writeBlock i w offset).2
    unfold writeBlock
    split
    · dsimp only
      split
      · exact h
      · exact Grown.emit h rfl
    · exact h
  noteRead a n h := h.emit rfl

/-! ### Ranges -/

lemma isCounter_of_mem_events {body : Body} {p : Pulled} {e : Event} (h : e ∈ body.events p) :
    e.isCounter = true := by
  rw [Body.events] at h
  split at h
  · obtain ⟨n, -, rfl⟩ := List.mem_map.mp h
    rfl
  · cases h

lemma Grown.receiveBlocks (h : Grown (fun e => e.isCounter = true) es a) (r : ByteRange)
    (body : Body) (written : ℕ) (blocks : List ℕ) :
    Grown (fun e => e.isCounter = true) es (receiveBlocks r a body written blocks).2.1 := by
  induction blocks generalizing a body written with
  | nil => exact h
  | cons i blocks ih =>
    rw [Assembly.receiveBlocks]
    dsimp only
    generalize body.readUpTo (a.blockLength i) = result
    obtain ⟨p, body'⟩ := result
    have hread : Grown _ es ((body'.events p).foldl Assembly.emit a) :=
      h.foldl_emit fun e he => isCounter_of_mem_events he
    dsimp only
    split
    · exact hread
    split
    · exact hread
    split
    · exact ih hread body' written
    · exact ih (a := ((body'.events p).foldl Assembly.emit a).complete i p.bytes) hread body' _

lemma grown_receive {r : ByteRange} (hr : a.isAligned r = true) (body : Body) :
    Grown (fun e => e.isCounter = true) (a.emit (.rangeReceived r)).journal.toList
      (a.receive r body).2.1 := by
  have hblocks := (Grown.refl _ (a.emit (.rangeReceived r))).receiveBlocks r body 0
    (List.range' (r.first / a.header.blockSize)
      (r.last / a.header.blockSize + 1 - r.first / a.header.blockSize))
  rw [receive, hr, if_neg (by decide)]
  dsimp only
  generalize Assembly.receiveBlocks r (a.emit (.rangeReceived r)) body 0 _ = result at hblocks
  obtain ⟨_ | n, b, body'⟩ := result
  · exact hblocks
  · dsimp only at hblocks ⊢
    split
    · exact hblocks
    · exact hblocks.emit rfl

/-- **Whatever range comes**, the journal takes up what arrives with it. -/
lemma Grown.receive (h : Grown Event.Arrives es a) (r : ByteRange) (body : Body) :
    Grown Event.Arrives es (a.receive r body).2.1 := by
  rcases Bool.eq_false_or_eq_true (a.isAligned r) with hr | hr
  · exact (h.emit (.inr ⟨r, rfl⟩)).trans ((grown_receive hr body).mono fun _ => .inl)
  · rw [receive_of_misaligned hr]
    exact h

/-! ### Milestones -/

/-- What the journal has without the counters. -/
def milestones (a : Assembly) : List Event := Event.milestones a.journal.toList

@[simp] lemma milestones_emit (a : Assembly) (e : Event) :
    (a.emit e).milestones = a.milestones ++ Event.milestones [e] := by
  rw [milestones, journal_emit, Event.milestones_append, milestones]

lemma Grown.milestones_eq (h : Grown (fun e => e.isCounter = true) a.journal.toList b) :
    b.milestones = a.milestones := by
  obtain ⟨more, hjournal, hmore⟩ := h
  rw [milestones, hjournal, Event.milestones_append, Event.milestones_eq_nil hmore, List.append_nil,
    milestones]

def received (a : Assembly) : List ByteRange := a.journal.toList.filterMap Event.range?

lemma received_eq (a : Assembly) : a.received = a.milestones.filterMap Event.range? :=
  (Event.filterMap_range?_milestones _).symm

@[simp] lemma received_emit (a : Assembly) (e : Event) :
    (a.emit e).received = a.received ++ e.range?.toList := by
  rw [received, journal_emit, List.filterMap_append, received]
  cases h : e.range? <;> simp [h]

lemma received_receive {r : ByteRange} (hr : a.isAligned r = true) (body : Body) :
    (a.receive r body).2.1.received = a.received ++ [r] := by
  rw [received_eq, (grown_receive hr body).milestones_eq, ← received_eq, received_emit]
  rfl

end SeedSync.Assembly
