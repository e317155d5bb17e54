import Mathlib
import SeedSync.Matching.Scan
import SeedSync.Proofs.Matching.Paired
import SeedSync.Proofs.Matching.Single
import SeedSync.Proofs.Window.Sliding

/-!
Scans of a seed. What each window preserves, the scan preserves; and as long as the sink takes
what it is given, the scan goes on to the end of the seed or of the target.
-/

namespace SeedSync

variable {σ : Type} [BlockSink σ] {c : ControlFile} {header : Header} {sums : List BlockSum}
  {D : List UInt8}

namespace Matcher

/-! ### Sizes -/

lemma reach_lt_of_single (hseq : ¬ 1 < c.header.hashLengths.sequence) :
    reach c < UInt64.size := by
  rw [reach, if_neg hseq]
  exact c.header.blockSize_lt

lemma span_of_single (hseq : ¬ 1 < c.header.hashLengths.sequence) :
    span c = c.header.blockSize := by
  rw [span, Nat.mod_eq_of_lt (reach_lt_of_single hseq), reach, if_neg hseq]

lemma span_of_paired (hseq : 1 < c.header.hashLengths.sequence)
    (hfits : 2 * c.header.blockSize < UInt64.size) : span c = 2 * c.header.blockSize := by
  rw [span, reach, if_pos hseq, Nat.mod_eq_of_lt hfits]

lemma span_lt_size (c : ControlFile) : span c < UInt64.size := Nat.mod_lt _ (Nat.two_pow_pos 64)

lemma blockSize_le_span (hfits : reach c < UInt64.size) : c.header.blockSize ≤ span c := by
  rw [span, Nat.mod_eq_of_lt hfits, reach]
  split <;> omega

/-- Only pairs of blocks can be too large for a window; then it does not even hold one block. -/
lemma span_lt_blockSize (h : UInt64.size ≤ reach c) :
    1 < c.header.hashLengths.sequence ∧ span c < c.header.blockSize := by
  have hb := c.header.blockSize_lt
  rw [span]
  rw [reach] at h ⊢
  split at h
  · next hseq =>
    rw [if_pos hseq, Nat.mod_eq_sub_mod h, Nat.mod_eq_of_lt (by omega)]
    exact ⟨hseq, by omega⟩
  · omega

/-! ### From window to window -/

/-- What a matcher carries to the window at place `p` of `D`. -/
inductive Carries (c : ControlFile) (D : List UInt8) (p : ℕ) : Matcher → Prop
  | single {m : SingleMatcher} (hseq : ¬ 1 < c.header.hashLengths.sequence)
      (h : SingleMatcher.Carries c D p m) : Carries c D p (.single m)
  | paired {m : PairedMatcher} (hseq : 1 < c.header.hashLengths.sequence)
      (hfits : 2 * c.header.blockSize < UInt64.size) (h : PairedMatcher.Carries c D p m) :
      Carries c D p (.paired m)

lemma carries_start (hfits : reach c < UInt64.size) (D : List UInt8) :
    Carries c D 0 (start c) := by
  rw [start]
  split
  · next hseq => exact .paired hseq (by rwa [reach, if_pos hseq] at hfits) (.fresh 0)
  · next hseq => exact .single hseq (.fresh 0)

/-- At this offset of the window at place `p` of `D` lies a block with the sum of this one. -/
structure Finds (c : ControlFile) (D : List UInt8) (p : ℕ) (x : ℕ × ℕ) : Prop where
  inside : x.2 + c.header.blockSize ≤ span c
  sum : c.sums[x.1]? = some (c.sumOf (c.blockAt D (p + x.2)))

lemma finds_writes (hseq : 1 < c.header.hashLengths.sequence)
    (hfits : 2 * c.header.blockSize < UInt64.size) {p q : ℕ} {m : PairedMatcher}
    (hq : q ∈ m.blocksAccepted c (c.sumOf (c.blockAt D p))
      (c.sumOf (c.blockAt D (p + c.header.blockSize)))) :
    ∀ x ∈ PairedMatcher.writes c q, Finds c D p x := by
  have hspan := span_of_paired hseq hfits
  obtain ⟨hlt, hleft, hright, -⟩ := PairedMatcher.mem_blocksAccepted.mp hq
  intro x hx
  rw [PairedMatcher.writes] at hx
  split at hx
  · rcases List.mem_pair.mp hx with rfl | rfl
    · exact ⟨by omega, hleft⟩
    · exact ⟨by omega, hright.resolve_left (by omega)⟩
  · obtain rfl := List.mem_singleton.mp hx
    exact ⟨by omega, hleft⟩

/-- The blocks that a matcher accepts at place `p` of `D`. -/
def acceptedAt (c : ControlFile) (D : List UInt8) (p : ℕ) : Matcher → List ℕ
  | .single _ => c.blocksWith (c.sumOf (c.blockAt D p))
  | .paired m => m.blocksAccepted c (c.sumOf (c.blockAt D p))
      (c.sumOf (c.blockAt D (p + c.header.blockSize)))

/-- What it writes there, each block from an offset of the window. -/
def writesAt (c : ControlFile) (D : List UInt8) (p : ℕ) (m : Matcher) : List (ℕ × ℕ) :=
  match m with
  | .single _ => (m.acceptedAt c D p).map fun q => (q, 0)
  | .paired _ => (m.acceptedAt c D p).flatMap (PairedMatcher.writes c)

/-- How far it goes on from there. -/
def strideAt (c : ControlFile) (D : List UInt8) (p : ℕ) (m : Matcher) : ℕ :=
  match m with
  | .single _ => SingleMatcher.stride c (m.acceptedAt c D p)
  | .paired m' => m'.stride c (m.acceptedAt c D p)

variable {p : ℕ} {m : Matcher}

lemma Carries.finds_writesAt (h : Carries c D p m) : ∀ x ∈ m.writesAt c D p, Finds c D p x := by
  intro x hx
  cases h with
  | single hseq h =>
    have hspan := span_of_single hseq
    obtain ⟨q, hq, rfl⟩ := List.mem_map.mp hx
    exact ⟨by omega, ControlFile.mem_blocksWith.mp hq⟩
  | paired hseq hfits h =>
    obtain ⟨q, hq, hx⟩ := List.mem_flatMap.mp hx
    exact finds_writes hseq hfits hq x hx

lemma strideAt_bounds (hb : 0 < c.header.blockSize) (D : List UInt8) (p : ℕ) (m : Matcher) :
    1 ≤ m.strideAt c D p ∧ m.strideAt c D p ≤ c.header.blockSize := by
  cases m with
  | single m => exact SingleMatcher.stride_bounds hb _
  | paired m => exact PairedMatcher.stride_bounds hb m _

lemma Carries.blockSize_le_span (h : Carries c D p m) : c.header.blockSize ≤ span c := by
  cases h with
  | single hseq => exact (span_of_single hseq).ge
  | paired hseq hfits => rw [span_of_paired hseq hfits]; omega

/-- **One window** of either matcher: it writes the blocks that it finds there, and if the sink
takes them, it goes on. -/
lemma Carries.matchWindow (h : Carries c D p m) (hc : ControlFile.assemble header sums = .ok c)
    (hb : 0 < c.header.blockSize) {w : View} (hw : w.Shows D p (span c)) {sink : σ}
    (hs : c.Searches sink) :
    ∃ r m' sink', BlockSink.writeBlocks sink w (m.writesAt c D p) = (r, sink') ∧
      m.matchWindow c sink w = (r.map fun _ => m.strideAt c D p, m', sink') ∧
      (r = .ok () → Carries c D (p + m.strideAt c D p) m') := by
  cases h with
  | @single m hseq h =>
    rw [span_of_single hseq] at hw
    obtain ⟨r, m', sink', hwrite, hm, hnext⟩ := h.matchWindow hc hb hw hs rfl
    exact ⟨r, .single m', sink', hwrite, by rw [Matcher.matchWindow, hm]; rfl,
      fun hr => .single hseq (hnext hr)⟩
  | @paired m hseq hfits h =>
    rw [span_of_paired hseq hfits] at hw
    have hseq' : 1 < header.hashLengths.sequence := by rwa [← (ControlFile.assemble_ok hc).2.1]
    obtain ⟨-, r, m', sink', hwrite, hm, hnext⟩ := h.matchWindow hc hseq' hb hw hs rfl
    exact ⟨r, .paired m', sink', hwrite, by rw [Matcher.matchWindow, hm]; rfl,
      fun hr => .paired hseq hfits (hnext hr)⟩

lemma le_bufferSize {window : ℕ} (h : window < UInt64.size) : window ≤ bufferSize window ∧
    min (2 * window) SlidingWindow.maxSize ≤ bufferSize window := by
  have hdouble : min (2 * window) SlidingWindow.maxSize ≤ bufferSize window := by
    refine min_le_min_right _ ?_
    rw [Nat.mul_comm]
    exact Nat.mul_le_mul_left window (le_max_right _ _)
  exact ⟨le_trans (le_min (by omega) (Nat.le_sub_one_of_lt h)) hdouble, hdouble⟩

end Matcher

namespace Scan

open Matcher

variable {p : ℕ} {m : Matcher} {sink : σ} {w : SlidingWindow}

lemma report_window_at (h : w.At D p) : (report sink w).2.At D p := h.withReads #[]

lemma report_sink {Inv : σ → Prop} (hnote : ∀ sink n, Inv sink → Inv (BlockSink.noteRead sink n))
    (h : Inv sink) : Inv (report sink w).1 := by
  rw [report, ← Array.foldl_toList]
  generalize w.feed.reads.toList = reads
  induction reads generalizing sink with
  | nil => exact h
  | cons n reads ih => exact ih (hnote sink n h)

/-- **A scan preserves what its windows preserve**, up to a failure of the sink. Without one it ends
with the target complete or with too little of the seed left for a window. -/
lemma exists_run (Inv : ℕ → Matcher → σ → Prop) (Failed : Error → σ → Prop)
    (hnote : ∀ p m sink n, Inv p m sink → Inv p m (BlockSink.noteRead sink n))
    (hstep : ∀ p m sink, ∀ w : View, Inv p m sink → w.Shows D p (span c) →
      BlockSink.isComplete sink = false → ∃ r m' sink', m.matchWindow c sink w = (r, m', sink') ∧
        (∀ e, r = .error e → Failed e sink') ∧
        ∀ n, r = .ok n → 1 ≤ n ∧ n ≤ span c ∧ Inv (p + n) m' sink')
    (hat : w.At D p) (hsize : w.size = span c) (h : Inv p m sink) (hw : w.base < w.limit) :
    ∃ r sink' left, run c m sink w hw = (r, sink', left) ∧ (∀ e, r = .error e → Failed e sink') ∧
      (r = .ok () → ∃ p' m', Inv p' m' sink' ∧
        (BlockSink.isComplete sink' = true ∨ D.length < p' + span c)) := by
  -- each window leaves less of the seed ahead of it
  induction hk : w.ahead using Nat.strong_induction_on generalizing p m sink w with
  | _ k ih =>
    subst hk
    unfold run
    split
    · next hdone => exact ⟨.ok (), sink, _, rfl, by simp, fun _ => ⟨p, m, h, .inl hdone⟩⟩
    · next hmore =>
      obtain ⟨r, m', sink', hm, hfailed, hok⟩ :=
        hstep p m sink w.view h (by rw [← hsize]; exact hat.shows_view) (by simpa using hmore)
      rw [hm]
      cases r with
      | error e =>
        exact ⟨.error e, sink', _, rfl, fun e' he => hfailed e' (by simpa using he), by simp⟩
      | ok n =>
        obtain ⟨hn, hle, hinv⟩ := hok n rfl
        obtain ⟨v, hv, hvs, hfits, hover⟩ := hat.exists_advance hn (by omega)
        have hreport (v : SlidingWindow) : Inv (p + n) m' (report sink' v).1 :=
          report_sink (fun sink k => hnote _ _ sink k) hinv
        dsimp only
        split
        · next hadv => simp [hv] at hadv
        · next u hadv =>
          simp only [hv, Prod.mk.injEq, Except.ok.injEq, decide_eq_false_iff_not] at hadv
          obtain ⟨hend, rfl⟩ := hadv
          exact ⟨.ok (), _, _, rfl, by simp, fun _ => ⟨p + n, m', hreport v, .inr (by omega)⟩⟩
        · next u hadv =>
          have hless := (SlidingWindow.advance_true hadv).2 hw
          simp only [hv, Prod.mk.injEq, Except.ok.injEq, decide_eq_true_eq] at hadv
          obtain ⟨hgo, rfl⟩ := hadv
          exact ih _ hless (report_window_at (hfits hgo)) (by rw [← hsize, ← hvs]; rfl)
            (hreport v) _
            rfl

/-- What the scan of a seed sees of it. -/
def view (c : ControlFile) (seed : List UInt8) : List UInt8 :=
  seed ++ List.replicate (span c) 0

lemma exists_openOn {source : Source} (hspan : 0 < span c) (hend : source.ending = none) :
    ∃ w, SlidingWindow.openOn (.ofSource source (span c)) (span c) (bufferSize (span c)) =
      (.ok (), w) ∧ w.size = span c ∧ w.At (view c source.rest) 0 := by
  obtain ⟨hroom, hbuf⟩ := le_bufferSize (span_lt_size c)
  have hend' : (Feed.ofSource source (span c)).source.ending = none := hend
  obtain ⟨w, hw, hws, hat⟩ := SlidingWindow.exists_openOn hspan hbuf hroom hend'
  have hfull : span c ≤ (Feed.ofSource source (span c)).bytes.length := by
    simp [Feed.bytes, Feed.ofSource]
  rw [if_pos hfull] at hw
  exact ⟨w, hw, hws, hat hfull⟩

lemma exists_seed (Inv : ℕ → Matcher → σ → Prop) (Failed : Error → σ → Prop) {source : Source}
    (hnote : ∀ p m sink n, Inv p m sink → Inv p m (BlockSink.noteRead sink n))
    (hstep : ∀ p m sink, ∀ w : View, Inv p m sink → w.Shows (view c source.rest) p (span c) →
      BlockSink.isComplete sink = false → ∃ r m' sink', m.matchWindow c sink w = (r, m', sink') ∧
        (∀ e, r = .error e → Failed e sink') ∧
        ∀ n, r = .ok n → 1 ≤ n ∧ n ≤ span c ∧ Inv (p + n) m' sink')
    (hspan : 0 < span c) (hend : source.ending = none) (h : Inv 0 (start c) sink) :
    ∃ r sink' left, seed c sink source = (r, sink', left) ∧ (∀ e, r = .error e → Failed e sink') ∧
      (r = .ok () → ∃ p m, Inv p m sink' ∧
        (BlockSink.isComplete sink' = true ∨ source.rest.length < p)) := by
  obtain ⟨w, hw, hws, hat⟩ := exists_openOn hspan hend
  unfold seed
  dsimp only
  rw [if_neg hspan.ne']
  split
  · next hopen => simp [hw] at hopen
  · next u hopen =>
    have hbase := SlidingWindow.openOn_ok hopen
    simp only [hw, Prod.mk.injEq, true_and] at hopen
    subst hopen
    have hat' : (report sink w).2.At (view c source.rest) 0 := report_window_at hat
    obtain ⟨r, sink', left, hrun, hfailed, hok⟩ := exists_run Inv Failed hnote hstep hat' hws
      (report_sink (fun sink n => hnote 0 (start c) sink n) h) hbase
    refine ⟨r, sink', left, hrun, hfailed, fun hr => ?_⟩
    obtain ⟨p, m, hinv, hstop⟩ := hok hr
    refine ⟨p, m, hinv, hstop.imp_right fun hlt => ?_⟩
    simp only [view, List.length_append, List.length_replicate] at hlt
    omega

/-! ### The windows that a scan looks at -/

/-- The scan of a source into a sink comes to a window, with this matcher and this sink. -/
inductive Reaches (c : ControlFile) (source : Source) (first : σ) :
    Matcher → σ → SlidingWindow → Prop
  | opened {w : SlidingWindow} (hspan : 0 < span c)
      (hopen : SlidingWindow.openOn (.ofSource source (span c)) (span c)
      (bufferSize (span c)) = (.ok (), w)) :
      Reaches c source first (start c) (report first w).1 (report first w).2
  | advanced {m m' : Matcher} {sink sink' : σ} {w v : SlidingWindow} {n : ℕ}
      (before : Reaches c source first m sink w) (hmore : BlockSink.isComplete sink = false)
      (hcall : m.matchWindow c sink w.view = (.ok n, m', sink'))
      (hadvance : w.advance n = (.ok true, v)) :
      Reaches c source first m' (report sink' v).1 (report sink' v).2

variable {source : Source} {first : σ}

lemma Reaches.seed_eq (h : Reaches c source first m sink w) :
    ∃ hw : w.base < w.limit, seed c first source = run c m sink w hw := by
  induction h with
  | @opened w hspan hopen =>
    have hbase : w.base < w.limit := SlidingWindow.openOn_ok hopen
    refine ⟨hbase, ?_⟩
    unfold seed
    dsimp only
    rw [if_neg hspan.ne']
    split
    · next h => simp [hopen] at h
    · next h =>
      obtain rfl : w = _ := by simpa [hopen] using h
      rfl
  | @advanced m m' sink sink' w v n before hmore hcall hadvance ih =>
    obtain ⟨hw, hrun⟩ := ih
    refine ⟨(SlidingWindow.advance_true hadvance).1, ?_⟩
    rw [hrun, run, if_neg (by simp [hmore]), hcall]
    dsimp only
    split
    · next h => simp [hadvance] at h
    · next h => simp [hadvance] at h
    · next h =>
      obtain rfl : v = _ := by simpa [hadvance] using h
      rfl

/-- **What the windows preserve holds of all that a scan comes to**; each window shows the seed at
its place. -/
lemma Reaches.exists_place (Inv : ℕ → Matcher → σ → Prop)
    (hnote : ∀ p m sink n, Inv p m sink → Inv p m (BlockSink.noteRead sink n))
    (hstep : ∀ p m sink w n m' sink', Inv p m sink → w.Shows (view c source.rest) p (span c) →
      m.matchWindow c sink w = (.ok n, m', sink') → 1 ≤ n ∧ n ≤ span c ∧ Inv (p + n) m' sink')
    (hend : source.ending = none) (hfirst : Inv 0 (start c) first)
    (h : Reaches c source first m sink w) :
    ∃ p, w.At (view c source.rest) p ∧ w.size = span c ∧ Inv p m sink := by
  induction h with
  | @opened w hspan hopen =>
    obtain ⟨v, hv, hsize, hat⟩ := exists_openOn hspan hend
    rw [hopen] at hv
    obtain ⟨-, rfl⟩ := Prod.mk.inj hv
    exact ⟨0, report_window_at hat, hsize, report_sink (fun sink n => hnote _ _ sink n) hfirst⟩
  | @advanced m m' sink sink' w v n before hmore hcall hadvance ih =>
    obtain ⟨p, hat, hsize, hinv⟩ := ih
    obtain ⟨hn, hle, hinv'⟩ :=
      hstep p m sink w.view n m' sink' hinv (by rw [← hsize]; exact hat.shows_view) hcall
    obtain ⟨u, hu, hus, hfits, -⟩ := hat.exists_advance hn (by omega)
    rw [hadvance] at hu
    obtain ⟨hgo, rfl⟩ := Prod.mk.inj hu
    have hgo : p + n + w.size ≤ (view c source.rest).length := by simpa using hgo.symm
    exact ⟨p + n, report_window_at (hfits hgo), hus.trans hsize,
      report_sink (fun sink n => hnote _ _ sink n) hinv'⟩

lemma Reaches.exists_next {m' : Matcher} {sink' : σ} {p n : ℕ}
    (h : Reaches c source first m sink w) (hat : w.At (view c source.rest) p)
    (hsize : w.size = span c) (hmore : BlockSink.isComplete sink = false)
    (hcall : m.matchWindow c sink w.view = (.ok n, m', sink')) (hn : 1 ≤ n) (hle : n ≤ span c)
    (hfits : p + n + span c ≤ (view c source.rest).length) :
    ∃ v, Reaches c source first m' (report sink' v).1 (report sink' v).2 ∧
      (report sink' v).2.At (view c source.rest) (p + n) ∧ (report sink' v).2.size = span c := by
  obtain ⟨v, hv, hvs, hat', -⟩ := hat.exists_advance hn (hle.trans_eq hsize.symm)
  have hgo : p + n + w.size ≤ (view c source.rest).length := by rwa [hsize]
  rw [decide_eq_true hgo] at hv
  exact ⟨v, .advanced h hmore hcall hv, report_window_at (hat' hgo), hvs.trans hsize⟩

lemma start_of_overflow (h : UInt64.size ≤ reach c) : start c = .paired .fresh :=
  if_pos (span_lt_blockSize h).1

lemma matchWindow_of_overflow (h : UInt64.size ≤ reach c) (m : PairedMatcher) (sink : σ) {w : View}
    (hw : w.length ≤ span c) :
    (Matcher.paired m).matchWindow c sink w = (.error .panic, .paired m, sink) := by
  have hlt := (span_lt_blockSize h).2
  rw [Matcher.matchWindow, PairedMatcher.matchWindow, if_pos (by omega)]

lemma Reaches.fits {m' : Matcher} {sink' : σ} {n : ℕ} (h : Reaches c source first m sink w)
    (hend : source.ending = none) (hcall : m.matchWindow c sink w.view = (.ok n, m', sink')) :
    reach c < UInt64.size := by
  by_contra hover
  rw [not_lt] at hover
  obtain ⟨p, hat, hsize, m, rfl⟩ := h.exists_place (fun _ m _ => ∃ m', m = .paired m')
    (fun _ _ _ _ => id)
    (by
      rintro p _ sink w n m' sink' ⟨m, rfl⟩ hw hcall
      rw [matchWindow_of_overflow hover m sink hw.length_eq.le] at hcall
      cases (Prod.mk.inj hcall).1)
    hend ⟨.fresh, start_of_overflow hover⟩
  have hw : w.view.length ≤ span c := hsize ▸ hat.shows_view.length_eq.le
  rw [matchWindow_of_overflow hover m sink hw] at hcall
  cases (Prod.mk.inj hcall).1

lemma run_of_overflow (hover : UInt64.size ≤ reach c) (sink : σ) (hsize : w.size = span c)
    (hw : w.base < w.limit) : ∃ r left, run c (start c) sink w hw = (r, sink, left) ∧
      (r = .ok () ∧ BlockSink.isComplete sink = true ∨ r = .error .panic) := by
  unfold run
  split
  · next hdone => exact ⟨_, _, rfl, .inl ⟨rfl, hdone⟩⟩
  · rw [start_of_overflow hover,
      matchWindow_of_overflow hover _ _ ((min_le_left _ _).trans hsize.le)]
    exact ⟨_, _, rfl, .inr rfl⟩

lemma seed_of_overflow (Inv : σ → Prop)
    (hnote : ∀ sink n, Inv sink → Inv (BlockSink.noteRead sink n))
    (hover : UInt64.size ≤ reach c) (h : Inv sink) (source : Source) :
    ∃ r sink' left, seed c sink source = (r, sink', left) ∧ Inv sink' ∧
      (r = .ok () → BlockSink.isComplete sink' = true) ∧
      (source.ending = none → r = .ok () ∨ r = .error .panic) := by
  have hreport (w : SlidingWindow) : Inv (report sink w).1 := report_sink hnote h
  unfold seed
  dsimp only
  split
  · exact ⟨_, _, _, rfl, h, by simp, fun _ => .inr rfl⟩
  next hspan =>
  split
  · next e w hopen =>
    refine ⟨_, _, _, rfl, hreport _, by simp, fun hend => ?_⟩
    obtain ⟨v, hv, -⟩ := exists_openOn (Nat.pos_of_ne_zero hspan) hend
    rw [hv] at hopen
    cases (Prod.mk.inj hopen).1
  · next w hopen =>
    have hbase : w.base < w.limit := SlidingWindow.openOn_ok hopen
    have hsize : w.size = span c := SlidingWindow.size_of_openOn hopen
    obtain ⟨r, left, hrun, hr⟩ := run_of_overflow hover (report sink w).1
      (w := (report sink w).2) hsize hbase
    refine ⟨r, _, left, hrun, hreport w, ?_, fun _ => hr.imp_left And.left⟩
    rcases hr with hdone | rfl
    · exact fun _ => hdone.2
    · exact fun h => by cases h

/-! ### Any seed at all -/

lemma run_preserves (Inv : Matcher → σ → Prop)
    (hnote : ∀ m sink n, Inv m sink → Inv m (BlockSink.noteRead sink n))
    (hstep : ∀ m sink w, Inv m sink → BlockSink.isComplete sink = false →
      Inv (m.matchWindow c sink w).2.1 (m.matchWindow c sink w).2.2)
    (h : Inv m sink) (hw : w.base < w.limit) : ∃ m', Inv m' (run c m sink w hw).2.1 := by
  induction hk : w.ahead using Nat.strong_induction_on generalizing m sink w with
  | _ k ih =>
    subst hk
    unfold run
    split
    · exact ⟨m, h⟩
    · next hmore =>
      have hinv := hstep m sink w.view h (by simpa using hmore)
      have hreport (v : SlidingWindow) : Inv (m.matchWindow c sink w.view).2.1
          (report (m.matchWindow c sink w.view).2.2 v).1 :=
        report_sink (fun sink n => hnote _ sink n) hinv
      generalize m.matchWindow c sink w.view = result at hinv hreport
      obtain ⟨_ | n, m', sink'⟩ := result
      · exact ⟨m', hinv⟩
      · dsimp only at hreport ⊢
        split
        · exact ⟨m', hreport _⟩
        · exact ⟨m', hreport _⟩
        · next hadvance => exact ih _ ((SlidingWindow.advance_true hadvance).2 hw) (hreport _) _ rfl

/-- **Whatever the seed is**, and whether or not it can be read to its end: what every window
preserves, its scan preserves. -/
lemma seed_preserves (Inv : Matcher → σ → Prop)
    (hnote : ∀ m sink n, Inv m sink → Inv m (BlockSink.noteRead sink n))
    (hstep : ∀ m sink w, Inv m sink → BlockSink.isComplete sink = false →
      Inv (m.matchWindow c sink w).2.1 (m.matchWindow c sink w).2.2)
    (h : Inv (start c) sink) (source : Source) : ∃ m, Inv m (seed c sink source).2.1 := by
  have hreport (v : SlidingWindow) : Inv (start c) (report sink v).1 :=
    report_sink (fun sink n => hnote _ sink n) h
  unfold seed
  dsimp only
  split
  · exact ⟨_, h⟩
  split
  · exact ⟨_, hreport _⟩
  · exact run_preserves Inv hnote hstep (hreport _) _

end Scan

namespace BlockSink.Keeps

variable {Inv : σ → Prop} {sink : σ}

lemma matchWindow (hkeeps : Keeps Inv) (h : Inv sink) (m : Matcher) (w : View) :
    Inv (m.matchWindow c sink w).2.2 := by
  cases m with
  | single m =>
    rw [Matcher.matchWindow, SingleMatcher.matchWindow]
    dsimp only
    generalize SingleMatcher.candidates c (m.roll c w) sink w = found
    cases found with
    | nil => exact h
    | cons q found =>
      have hwritten := hkeeps.writeBlocks h w ((q :: found).map fun q => (q, 0))
      dsimp only
      generalize BlockSink.writeBlocks sink w ((q :: found).map fun q => (q, 0)) = result at *
      obtain ⟨_ | _, sink'⟩ := result <;> exact hwritten
  | paired m =>
    rw [Matcher.matchWindow, PairedMatcher.matchWindow]
    by_cases hshort : w.length < c.header.blockSize
    · rw [if_pos hshort]
      exact h
    rw [if_neg hshort]
    dsimp only
    generalize PairedMatcher.accept c (m.roll c w) sink w = accepted
    obtain ⟨found, next⟩ := accepted
    cases found with
    | nil => cases m <;> exact h
    | cons q found =>
      have hwritten := hkeeps.writeBlocks h w ((q :: found).flatMap (PairedMatcher.writes c))
      dsimp only
      generalize BlockSink.writeBlocks sink w ((q :: found).flatMap (PairedMatcher.writes c)) =
        result at *
      obtain ⟨_ | _, sink'⟩ := result <;> exact hwritten

lemma scan (hkeeps : Keeps Inv) (c : ControlFile) (h : Inv sink) (source : Source) :
    Inv (Scan.seed c sink source).2.1 := by
  obtain ⟨-, h⟩ := Scan.seed_preserves (fun _ => Inv) (fun _ => hkeeps.noteRead)
    (fun m _ w h _ => hkeeps.matchWindow h m w) h source
  exact h

end BlockSink.Keeps

namespace Scan

/-! ### Several seeds -/

/-- Scans one seed after the other. -/
def seeds (c : ControlFile) (sink : σ) : List Source → Except Error Unit × σ
  | [] => (.ok (), sink)
  | source :: rest =>
    match seed c sink source with
    | (.error e, sink, _) => (.error e, sink)
    | (.ok (), sink, _) => seeds c sink rest

end Scan

end SeedSync
