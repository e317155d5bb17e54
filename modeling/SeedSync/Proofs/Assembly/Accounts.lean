import Mathlib
import SeedSync.Proofs.Assembly.History
import SeedSync.Proofs.Assembly.Missing
import SeedSync.Proofs.Event.Stats

/-!
The accounts of an assembly: what its journal reports as written, against the bytes of its complete
blocks. A block from a view is reported with its completion. The blocks of a range are reported
together, once all of them are there: those of a range that fails are complete without a report.
-/

namespace SeedSync.Assembly

/-- The bytes that the journal reports as written. -/
def written (a : Assembly) : ℕ := (a.journal.toList.map Event.written).sum

def completeBytes (a : Assembly) : ℕ :=
  ∑ i ∈ Finset.range a.header.numBlocks with a.isBlockComplete i, a.header.blockLength i

variable {a b : Assembly} {i : ℕ} {bytes : List UInt8}

/-! ### Events -/

@[simp] lemma written_emit (a : Assembly) (e : Event) :
    (a.emit e).written = a.written + e.written := by
  simp [written, emit]

@[simp] lemma completeBytes_emit (a : Assembly) (e : Event) :
    (a.emit e).completeBytes = a.completeBytes := rfl

lemma Sound.emit (h : Sound a) (e : Event) : Sound (a.emit e) :=
  ⟨h.pos, h.sums, h.completed, h.file, h.remaining⟩

lemma Sound.foldl_emit (h : Sound a) (es : List Event) : Sound (es.foldl Assembly.emit a) := by
  induction es generalizing a with
  | nil => exact h
  | cons e es ih => exact ih (h.emit e)

@[simp] lemma header_foldl_emit (es : List Event) (a : Assembly) :
    (es.foldl emit a).header = a.header := by
  induction es generalizing a with
  | nil => rfl
  | cons e es ih => exact ih _

@[simp] lemma completeBytes_foldl_emit (es : List Event) (a : Assembly) :
    (es.foldl emit a).completeBytes = a.completeBytes := by
  induction es generalizing a with
  | nil => rfl
  | cons e es ih => exact ih _

@[simp] lemma written_foldl_events (a : Assembly) (body : Body) (p : Pulled) :
    ((body.events p).foldl emit a).written = a.written := by
  rw [Body.events]
  split
  · induction p.reads generalizing a with
    | nil => rfl
    | cons n reads ih => exact (ih _).trans (by simp [Event.written])
  · rfl

/-! ### Blocks -/

@[simp] lemma written_complete (a : Assembly) (i : ℕ) (bytes : List UInt8) :
    (a.complete i bytes).written = a.written := rfl

lemma Sound.completeBytes_complete (h : Sound a) (hi : i < a.header.numBlocks)
    (hm : a.isBlockComplete i = false) (bytes : List UInt8) :
    (a.complete i bytes).completeBytes = a.completeBytes + a.header.blockLength i := by
  have hinsert : (Finset.range a.header.numBlocks).filter
      (fun j => (a.complete i bytes).isBlockComplete j = true) =
        insert i
          ((Finset.range a.header.numBlocks).filter fun j => a.isBlockComplete j = true) := by
    ext j
    rw [Finset.mem_filter, isBlockComplete_complete bytes (by rwa [h.completed])]
    simp only [Finset.mem_insert, Finset.mem_filter, Finset.mem_range]
    constructor
    · rintro ⟨hj, rfl | hc⟩
      · exact .inl rfl
      · exact .inr ⟨hj, hc⟩
    · rintro (rfl | ⟨hj, hc⟩)
      · exact ⟨hi, .inl rfl⟩
      · exact ⟨hj, .inr hc⟩
  have hheader : (a.complete i bytes).header = a.header := rfl
  rw [completeBytes, hheader, hinsert, Finset.sum_insert (by simp [hm]), Nat.add_comm,
    completeBytes]

lemma Extends.completeBytes_le {addressed : ℕ → Prop} {supply : ℕ → List UInt8}
    (h : Extends addressed supply a b) : a.completeBytes ≤ b.completeBytes := by
  rw [completeBytes, completeBytes, h.header]
  refine Finset.sum_le_sum_of_subset fun i hi => ?_
  rw [Finset.mem_filter] at hi ⊢
  exact ⟨hi.1, h.kept i hi.2⟩

lemma Sound.completeBytes_add_missingBytes (h : Sound a) :
    a.completeBytes + a.missingBytes = a.header.length := by
  have hmissing : a.missingBytes =
      ∑ i ∈ Finset.range a.header.numBlocks with ¬ a.isBlockComplete i, a.header.blockLength i := by
    rw [h.missingBytes_eq, ← List.sum_toFinset _ (List.nodup_range.filter _), List.toFinset_filter,
      List.toFinset_range]
    simp
  calc a.completeBytes + a.missingBytes
      = ∑ i ∈ Finset.range a.header.numBlocks, a.header.blockLength i := by
        rw [hmissing, completeBytes, Finset.sum_filter_add_sum_filter_not]
    _ = a.header.length := Header.sum_blockLength h.pos

lemma Sound.missingBytes_of_isComplete (h : Sound a) (hcomplete : a.isComplete = true) :
    a.missingBytes = 0 := by
  rw [missingBytes, h.missingRanges_eq_nil ((isComplete_iff h).mp hcomplete)]
  rfl

lemma Sound.completeBytes_of_isComplete (h : Sound a) (hcomplete : a.isComplete = true) :
    a.completeBytes = a.header.length := by
  rw [← h.completeBytes_add_missingBytes, h.missingBytes_of_isComplete hcomplete, Nat.add_zero]

lemma written_writeBlock (h : Sound a) (i : ℕ) (w : View) (offset : ℕ) :
    (a.writeBlock i w offset).2.written + a.completeBytes =
      a.written + (a.writeBlock i w offset).2.completeBytes := by
  rcases Nat.lt_or_ge i a.header.numBlocks with hi | hi
  · rcases Bool.eq_false_or_eq_true (a.isBlockComplete i) with hm | hm
    · rw [writeBlock_of_complete hm]
    · rw [writeBlock_of_missing h w offset hi hm]
      split
      · rw [written_emit, written_complete, completeBytes_emit, h.completeBytes_complete hi hm,
          Event.written]
        omega
      · rfl
  · rw [writeBlock, Array.getElem?_eq_none (by rw [h.completed]; exact hi)]

/-! ### Ranges -/

lemma written_receiveBlocks (h : Sound a) (r : ByteRange) (body : Body) (written : ℕ)
    {blocks : List ℕ} (hblocks : ∀ j ∈ blocks, j < a.header.numBlocks) :
    let result := receiveBlocks r a body written blocks
    result.2.1.written = a.written ∧
      ∀ n, result.1 = .ok n → n + a.completeBytes = written + result.2.1.completeBytes := by
  induction blocks generalizing a body written with
  | nil =>
    refine ⟨rfl, fun n hn => ?_⟩
    obtain rfl : written = n := Except.ok.inj hn
    rfl
  | cons i blocks ih =>
    have hi := hblocks i (by simp)
    have hrest : ∀ j ∈ blocks, j < a.header.numBlocks := fun j hj => hblocks j (by simp [hj])
    dsimp only
    rcases Nat.lt_or_ge body.bytes.length (a.blockLength i) with hshort | hlong
    · obtain ⟨p, body', heq⟩ := exists_receiveBlocks_short r written blocks hshort
      rw [heq]
      exact ⟨written_foldl_events a body' p, fun n hn => by cases hn⟩
    · obtain ⟨reads, body', -, -, -, heq⟩ := exists_receiveBlocks_cons r written blocks hlong
      rw [heq]
      -- the reports of the reads leave alone what is written and what is complete
      set bytes := body.bytes.take (a.blockLength i)
      set b := (body'.events ⟨bytes, reads, none⟩).foldl emit a with hb
      have hsound : Sound b := h.foldl_emit _
      have hheader : b.header = a.header := header_foldl_emit _ a
      have hbw : b.written = a.written := written_foldl_events a body' _
      have hbc : b.completeBytes = a.completeBytes := completeBytes_foldl_emit _ a
      rw [← hheader] at hi hrest
      split
      · obtain ⟨hw, hc⟩ := ih hsound body' written hrest
        rw [hbc] at hc
        exact ⟨hw.trans hbw, hc⟩
      · next hm =>
        have hm : b.isBlockComplete i = false := by
          rw [hb, isBlockComplete_foldl_emit]
          simpa using hm
        have hlen : bytes.length = b.header.blockLength i := by
          rw [hheader, ← h.blockLength_eq]
          exact List.length_take_of_le hlong
        obtain ⟨hw, hc⟩ := ih (hsound.complete hi hm hlen) body' (written + a.blockLength i) hrest
        rw [hsound.completeBytes_complete hi hm, hbc, hheader, ← h.blockLength_eq] at hc
        refine ⟨hw.trans hbw, fun n hn => ?_⟩
        have := hc n hn
        omega

/-- A range that is taken is reported with the bytes of the blocks that it has completed; one that
fails reports nothing. -/
lemma written_receive (h : Sound a) (r : ByteRange) (body : Body) :
    let result := a.receive r body
    (result.1 = .ok () →
      result.2.1.written + a.completeBytes = a.written + result.2.1.completeBytes) ∧
    ∀ e, result.1 = .error e → result.2.1.written = a.written := by
  rcases Bool.eq_false_or_eq_true (a.isAligned r) with hr | hr
  · obtain ⟨-, hlt, -⟩ := ends_of_isAligned h hr
    have hblocks : ∀ j ∈ List.range' (r.first / a.header.blockSize)
        (r.last / a.header.blockSize + 1 - r.first / a.header.blockSize),
        j < a.header.numBlocks := by
      intro j hj
      rw [List.mem_range'_1] at hj
      omega
    obtain ⟨hw, hc⟩ := written_receiveBlocks (h.emit (.rangeReceived r)) r body 0 hblocks
    have hquiet : (a.emit (.rangeReceived r)).written = a.written := by simp [Event.written]
    rw [hquiet] at hw
    rw [receive, hr, if_neg (by decide)]
    dsimp only
    generalize receiveBlocks r (a.emit (.rangeReceived r)) body 0 _ = result at hw hc
    obtain ⟨_ | n, b, body'⟩ := result
    · exact ⟨fun hok => (by cases hok), fun _ _ => hw⟩
    · refine ⟨fun _ => ?_, fun _ hfails => by cases hfails⟩
      have hc : n + a.completeBytes = 0 + b.completeBytes := hc n rfl
      have hw : b.written = a.written := hw
      dsimp only
      split
      · omega
      · rw [written_emit, completeBytes_emit, Event.written]
        omega
  · rw [receive_of_misaligned hr]
    exact ⟨fun hok => (by cases hok), fun _ _ => rfl⟩

/-! ### Runs -/

/-- What a call completes without a report: the blocks of a range that fails behind them. -/
def Call.unreported (a : Assembly) : Call → ℕ
  | .write .. => 0
  | .receive r body =>
    match (a.receive r body).1 with
    | .ok () => 0
    | .error _ => (a.receive r body).2.1.completeBytes - a.completeBytes

/-- What calls one after the other complete without a report. -/
def unreported (a : Assembly) : List Call → ℕ
  | [] => 0
  | call :: calls => call.unreported a + (call.apply a).unreported calls

lemma Call.written_apply (h : Sound a) (call : Call) :
    (call.apply a).written + call.unreported a + a.completeBytes =
      a.written + (call.apply a).completeBytes := by
  cases call with
  | write i w offset => exact written_writeBlock h i w offset
  | receive r body =>
    obtain ⟨hok, herror⟩ := written_receive h r body
    have hle := (extends_receive h r body).1.completeBytes_le
    rw [Call.unreported, Call.apply]
    cases hresult : (a.receive r body).1 with
    | ok _ => exact hok hresult
    | error e =>
      have := herror e hresult
      dsimp only
      omega

/-- The books balance over a whole run. -/
lemma written_run (h : Sound a) (calls : List Call) :
    (a.run calls).written + a.unreported calls + a.completeBytes =
      a.written + (a.run calls).completeBytes := by
  induction calls generalizing a with
  | nil => rfl
  | cons call calls ih =>
    have hstep := call.written_apply h
    have hrest := ih (call.extends_apply h).sound
    rw [run_cons, unreported]
    omega

lemma unreported_eq_zero {calls : List Call} (hok : ∀ k r body, calls[k]? = some (.receive r body) →
    ((a.run (calls.take k)).receive r body).1 = .ok ()) : a.unreported calls = 0 := by
  induction calls generalizing a with
  | nil => rfl
  | cons call calls ih =>
    have hrest : (call.apply a).unreported calls = 0 :=
      ih fun k r body hk => by
        simpa only [List.take_succ_cons, run_cons] using hok (k + 1) r body hk
    have hfirst : call.unreported a = 0 := by
      cases call with
      | write i w offset => rfl
      | receive r body =>
        have := hok 0 r body rfl
        rw [List.take_zero] at this
        rw [Call.unreported, show (a.receive r body).1 = .ok () from this]
    rw [unreported, hfirst, hrest]

@[simp] lemma completeBytes_start (path : String) (c : ControlFile) (journal : Array Event) :
    (start path c journal).completeBytes = 0 := by
  simp [completeBytes, isBlockComplete_start]

/-- **What is written is reported**, whatever calls are made on an assembly that has just been
opened and whether they succeed or fail: after them the journal has reported the bytes of all
complete blocks, but for those that ranges completed before they failed. If no range has failed,
it has reported just the bytes of the complete blocks. -/
theorem reports_what_is_written {header : Header} {sums : List BlockSum} {c : ControlFile}
    {t : Tree} {path : String} {journal : Array Event}
    (hc : ControlFile.assemble header sums = .ok c) (hb : 1 ≤ header.blockSize)
    (hopen : (openAt t path c journal).1 = .ok a) (calls : List Call) :
    (a.run calls).written + a.unreported calls = a.written + (a.run calls).completeBytes ∧
      ((∀ k r body, calls[k]? = some (.receive r body) →
          ((a.run (calls.take k)).receive r body).1 = .ok ()) →
        (a.run calls).written = a.written + (a.run calls).completeBytes) := by
  obtain rfl := eq_start_of_openAt hopen
  have hrun := written_run (sound_start hc hb path journal) calls
  rw [completeBytes_start, Nat.add_zero] at hrun
  refine ⟨hrun, fun hok => ?_⟩
  rw [← hrun, unreported_eq_zero hok, Nat.add_zero]

/-- A range of two blocks of two bytes, and a body that ends inside of the second one. -/
def shortRange : ByteRange := ⟨0, 3⟩

def cutBody : Body := .ofSource (.ofBytes [1, 2, 3]) true

lemma receive_shortRange (h : Sound a) (hh : a.header = .fourBytes 1)
    (hm : a.isBlockComplete 0 = false) :
    (∃ e, (a.receive shortRange cutBody).1 = .error e) ∧
      (a.receive shortRange cutBody).2.1.completeBytes = a.completeBytes + 2 := by
  have haligned : a.isAligned shortRange = true := by
    rw [isAligned, hh]
    rfl
  have hblocks : List.range' (shortRange.first / a.header.blockSize)
      (shortRange.last / a.header.blockSize + 1 - shortRange.first / a.header.blockSize) =
        [0, 1] := by
    rw [hh]
    rfl
  have hlength (i : ℕ) : a.blockLength i = (Header.fourBytes 1).blockLength i := by
    rw [h.blockLength_eq, hh]
  -- the first block is read from the front of the body
  set b₀ := a.emit (.rangeReceived shortRange)
  have hfit : b₀.blockLength 0 ≤ cutBody.bytes.length := (hlength 0).trans_le (by decide)
  obtain ⟨reads, left, -, htook, -, hfirst⟩ := exists_receiveBlocks_cons shortRange 0 [1] hfit
  dsimp only at hfirst
  rw [show b₀.blockLength 0 = 2 from hlength 0] at htook hfirst
  rw [if_neg (by rw [Bool.not_eq_true]; exact hm)] at hfirst
  set b := (left.events ⟨cutBody.bytes.take 2, reads, none⟩).foldl emit b₀ with hb
  have hs : Sound b := (h.emit _).foldl_emit _
  have hheader : b.header = .fourBytes 1 := (header_foldl_emit _ _).trans hh
  have hbm : b.isBlockComplete 0 = false := by
    rw [hb, isBlockComplete_foldl_emit]
    exact hm
  have hcomplete : (b.complete 0 (cutBody.bytes.take 2)).completeBytes = a.completeBytes + 2 := by
    rw [hs.completeBytes_complete (by rw [hheader]; decide) hbm, hheader, hb,
      completeBytes_foldl_emit]
    rfl
  -- for the second one there is a byte left
  have hshort : left.bytes.length < (b.complete 0 (cutBody.bytes.take 2)).blockLength 1 := by
    rw [htook.bytes_eq, show (b.complete 0 _).blockLength 1 = b.blockLength 1 from rfl,
      hs.blockLength_eq, hheader]
    decide
  obtain ⟨p, left', hsecond⟩ := exists_receiveBlocks_short shortRange (0 + 2) [] hshort
  rw [receive, haligned, if_neg (by decide)]
  dsimp only
  rw [hblocks, hfirst, hsecond]
  exact ⟨⟨_, rfl⟩, (completeBytes_foldl_emit _ _).trans hcomplete⟩

theorem reports_a_block_of_four : ∃ c a,
    ControlFile.assemble (.fourBytes 1) (ControlFile.sumsOf (.fourBytes 1) [1, 2, 3, 4]) = .ok c ∧
      1 ≤ (Header.fourBytes 1).blockSize ∧ (openAt ⟨[]⟩ "four" c #[]).1 = .ok a ∧
      (a.run [.receive shortRange cutBody]).written +
        a.unreported [.receive shortRange cutBody] = 2 ∧
      (a.run [.write 1 (.ofList [3, 4]) 0]).written =
        (a.run [.write 1 (.ofList [3, 4]) 0]).completeBytes := by
  obtain ⟨⟨header, sums, rollings, pairs⟩, hc⟩ :=
    ControlFile.exists_assemble_sumsOf (.fourBytes 1) [1, 2, 3, 4]
  obtain rfl : header = .fourBytes 1 := (ControlFile.assemble_ok hc).2.1
  set c : ControlFile := ⟨.fourBytes 1, sums, rollings, pairs⟩
  have hs : Sound (start "four" c #[]) := sound_start hc (by decide) "four" #[]
  have hopen : (openAt ⟨[]⟩ "four" c #[]).1 = .ok (start "four" c #[]) := rfl
  have hnew : (start "four" c #[]).written = 0 := rfl
  obtain ⟨-, hcomplete⟩ := receive_shortRange hs rfl (isBlockComplete_start ..)
  obtain ⟨hshort, -⟩ := reports_what_is_written hc (by decide) hopen [.receive shortRange cutBody]
  obtain ⟨-, hwrite⟩ := reports_what_is_written hc (by decide) hopen [.write 1 (.ofList [3, 4]) 0]
  refine ⟨c, _, hc, by decide, hopen, ?_, ?_⟩
  · rw [hshort, hnew, show (start "four" c #[]).run [.receive shortRange cutBody] =
      ((start "four" c #[]).receive shortRange cutBody).2.1 from rfl, hcomplete,
      completeBytes_start]
  · rw [hwrite (fun k r body hk => by rcases k with _ | k <;> cases hk), hnew, Nat.zero_add]

/-- **A range that fails leaves out what it has completed**: the first block of this one is
complete and is never reported. -/
theorem leaves_out_a_complete_block : ∃ c a,
    ControlFile.assemble (.fourBytes 1) (ControlFile.sumsOf (.fourBytes 1) [1, 2, 3, 4]) = .ok c ∧
      (openAt ⟨[]⟩ "four" c #[]).1 = .ok a ∧ a.written = 0 ∧
      (a.run [.receive shortRange cutBody]).written = 0 ∧
      (a.run [.receive shortRange cutBody]).completeBytes = 2 := by
  obtain ⟨⟨header, sums, rollings, pairs⟩, hc⟩ :=
    ControlFile.exists_assemble_sumsOf (.fourBytes 1) [1, 2, 3, 4]
  obtain rfl : header = .fourBytes 1 := (ControlFile.assemble_ok hc).2.1
  have hs : Sound (start "four" ⟨.fourBytes 1, sums, rollings, pairs⟩ #[]) :=
    sound_start hc (by decide) "four" #[]
  obtain ⟨⟨e, he⟩, hcomplete⟩ := receive_shortRange hs rfl (isBlockComplete_start ..)
  rw [completeBytes_start] at hcomplete
  exact ⟨_, _, hc, rfl, rfl, (written_receive hs shortRange cutBody).2 e he, hcomplete⟩

end SeedSync.Assembly
