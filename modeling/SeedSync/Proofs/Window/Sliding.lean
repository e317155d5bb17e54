import Mathlib
import SeedSync.Proofs.Stream.Source
import SeedSync.Proofs.Window.View
import SeedSync.Window.Sliding

/-!
A window that slides over a feed shows what a window over all the bytes of the feed at once would
show, however the feed cuts them into reads.

The bytes between the start of the window and the end of what is loaded, and behind them those
still to be read, are always what follows the place of the window. Moving them to the front of
the buffer and reading on both keep this.
-/

namespace SeedSync

namespace Feed

def bytes (f : Feed) : List UInt8 := f.source.rest ++ List.replicate f.zeros 0

lemma exists_read {f : Feed} {n : ℕ} (hn : 0 < n) (h : f.source.ending = none) :
    ∃ bs g, f.read n = (.ok bs, g) ∧ bs.length ≤ n ∧ f.bytes = bs ++ g.bytes ∧
      g.source.ending = none ∧ (bs = [] → g.bytes = []) := by
  by_cases hr : f.source.rest = []
  · obtain ⟨t, ht, htr, hte⟩ := Source.exists_readOn_of_nil n hr
    rw [h] at ht
    refine ⟨_, _, by rw [read, ht]; rfl, by simp, ?_, hte.trans h, ?_⟩
    · simp only [bytes, hr, htr, List.nil_append, ← List.replicate_add]
      congr 1
      omega
    · simp only [bytes, htr, List.replicate_eq_nil_iff, List.nil_append]
      omega
  · obtain ⟨bs, t, ht, hne, hlen, hrest, hte⟩ := Source.exists_readOn_of_ne_nil hn hr
    obtain ⟨b, bs, rfl⟩ := List.exists_cons_of_ne_nil hne
    exact ⟨_, _, by rw [read, ht], hlen, by simp [bytes, hrest], hte.trans h, by simp⟩

end Feed

namespace SlidingWindow

lemma toList_overwrite (buf : Array UInt8) (i : ℕ) (bs : List UInt8)
    (h : i + bs.length ≤ buf.size) :
    (overwrite buf i bs).toList = buf.toList.take i ++ bs ++ buf.toList.drop (i + bs.length) := by
  induction bs generalizing buf i with
  | nil => simp [overwrite]
  | cons b bs ih =>
    simp only [List.length_cons] at h
    rw [overwrite, ih _ _ (by simp; omega), Array.toList_setIfInBounds]
    rw [List.take_succ_eq_append_getElem (by simp; omega), List.take_set_of_le le_rfl]
    rw [List.drop_set_of_lt (by omega)]
    simp [Nat.add_assoc, Nat.add_comm 1]

lemma take_overwrite (buf : Array UInt8) (i : ℕ) (bs : List UInt8) (h : i + bs.length ≤ buf.size) :
    (overwrite buf i bs).toList.take (i + bs.length) = buf.toList.take i ++ bs := by
  rw [toList_overwrite _ _ _ h, List.take_append_of_le_length (by simp; omega)]
  exact List.take_of_length_le (by simp)

def live (w : SlidingWindow) : List UInt8 := (w.buf.toList.take w.limit).drop w.base

/-- What is loaded and what is to be read are the bytes of `D` from `p` on. -/
structure Loaded (D : List UInt8) (p : ℕ) (w : SlidingWindow) : Prop where
  ahead : w.live ++ w.feed.bytes = D.drop p
  base_le : w.base ≤ w.limit
  limit_le : w.limit ≤ w.buf.size
  ended : w.ended = true → w.feed.bytes = []
  total : w.totalRead + w.feed.bytes.length = D.length
  ending : w.feed.source.ending = none

variable {D : List UInt8} {p : ℕ} {w : SlidingWindow}

lemma Loaded.length_live (h : Loaded D p w) : w.live.length = w.limit - w.base := by
  have := h.limit_le
  simp only [live, List.length_drop, List.length_take, Array.length_toList]
  omega

lemma Loaded.load (h : Loaded D p w) {bs : List UInt8} {g : Feed}
    (hg : w.feed.bytes = bs ++ g.bytes)
    (hroom : w.limit + bs.length ≤ w.buf.size) (hgo : w.ended = false)
    (hend : g.source.ending = none) :
    Loaded D p { w with feed := g, buf := overwrite w.buf w.limit bs, limit := w.limit + bs.length,
                        totalRead := w.totalRead + bs.length } where
  ahead := by
    have hbase := h.base_le
    simp only [live]
    rw [take_overwrite _ _ _ hroom, List.drop_append_of_le_length (by simp; omega),
      List.append_assoc, ← hg]
    exact h.ahead
  base_le := by
    have := h.base_le
    simp only
    omega
  limit_le := by rw [size_overwrite]; exact hroom
  ended := by simp [hgo]
  total := by
    have := h.total
    rw [hg, List.length_append] at this
    simp only
    omega
  ending := hend

lemma exists_fill (h : Loaded D p w) :
    ∃ v, w.fill = (.ok (), v) ∧ Loaded D p v ∧ v.base = w.base ∧ v.size = w.size ∧
      v.buf.size = w.buf.size ∧ v.exhausted = w.exhausted ∧
      (v.limit = v.buf.size ∨ v.feed.bytes = []) := by
  fun_induction fill w with
  | case1 w hw e feed hr =>
    obtain ⟨bs, g, hg, -⟩ := Feed.exists_read (n := w.buf.size - w.limit) (by omega) h.ending
    rw [hr] at hg
    simp at hg
  | case2 w hw feed hr =>
    obtain ⟨bs, g, hg, -, hbytes, hend, hnil⟩ :=
      Feed.exists_read (n := w.buf.size - w.limit) (by omega) h.ending
    rw [hr] at hg
    obtain ⟨hbs, rfl⟩ := Prod.mk.inj hg
    obtain rfl := Except.ok.inj hbs
    rw [List.nil_append] at hbytes
    exact ⟨_, rfl, ⟨by rw [← h.ahead, hbytes]; rfl, h.base_le, h.limit_le, fun _ => hnil rfl,
      by rw [← h.total, hbytes], hend⟩, rfl, rfl, rfl, rfl, .inr (hnil rfl)⟩
  | case3 w hw b bs feed hr n ih =>
    obtain ⟨bs', g, hg, hlen, hbytes, hend, -⟩ :=
      Feed.exists_read (n := w.buf.size - w.limit) (by omega) h.ending
    rw [hr] at hg
    obtain ⟨hbs, rfl⟩ := Prod.mk.inj hg
    obtain rfl := Except.ok.inj hbs
    obtain ⟨v, hv, hl, hbase, hsize, hbuf, hgo, hstop⟩ := ih (h.load hbytes (by omega) hw.1 hend)
    exact ⟨v, hv, hl, hbase, hsize, by rw [hbuf, size_overwrite], hgo, hstop⟩
  | case4 w hw =>
    refine ⟨w, rfl, h, rfl, rfl, rfl, rfl, ?_⟩
    have := h.limit_le
    rcases Bool.eq_false_or_eq_true w.ended with he | he
    · exact .inr (h.ended he)
    · exact .inl (by simp only [he, true_and, not_lt] at hw; omega)

lemma loaded_compact (h : Loaded D p w) : Loaded D p w.compact where
  ahead := by
    have hl := h.length_live
    have hlive : (w.buf.extract w.base w.limit).toList = w.live := by
      simp [live, List.extract_eq_take_drop, List.drop_take]
    have := take_overwrite w.buf 0 w.live (by have := h.limit_le; omega)
    simp only [Nat.zero_add, List.take_zero, List.nil_append] at this
    simp only [compact, hlive, live, List.drop_zero]
    rw [← hl, ← live, this]
    exact h.ahead
  base_le := Nat.zero_le _
  limit_le := by
    have := h.limit_le
    simp only [compact, size_overwrite]
    omega
  ended := h.ended
  total := h.total
  ending := h.ending

lemma Loaded.shift (h : Loaded D p w) {n : ℕ} (hn : w.base + n ≤ w.limit) :
    Loaded D (p + n) { w with base := w.base + n } where
  ahead := by
    have := congrArg (List.drop n) h.ahead
    rw [List.drop_append_of_le_length (by rw [h.length_live]; omega), List.drop_drop] at this
    rw [← this, live, live, List.drop_drop]
  base_le := hn
  limit_le := h.limit_le
  ended := h.ended
  total := h.total
  ending := h.ending

/-- Where loading ends, the window is full exactly if `D` reaches as far. -/
lemma Loaded.filled_iff (h : Loaded D p w) (hp : p ≤ D.length) (hbuf : w.base + w.size ≤ w.buf.size)
    (hend : w.limit = w.buf.size ∨ w.feed.bytes = []) :
    w.base + w.size ≤ w.limit ↔ p + w.size ≤ D.length := by
  have hlen := congrArg List.length h.ahead
  rw [List.length_append, h.length_live, List.length_drop] at hlen
  have := h.base_le
  rcases hend with he | he
  · omega
  · rw [he, List.length_nil] at hlen
    omega

lemma Loaded.totalRead_eq (h : Loaded D p w) (hbuf : w.base + w.size ≤ w.buf.size)
    (hend : w.limit = w.buf.size ∨ w.feed.bytes = []) (hw : w.limit < w.base + w.size) :
    w.totalRead = D.length := by
  have htotal := h.total
  rcases hend with he | he
  · omega
  · rw [he] at htotal
    exact htotal

/-! ### The window in its place -/

/-- The window is full, and what it shows begins at place `p` of `D`. -/
structure At (D : List UInt8) (p : ℕ) (w : SlidingWindow) : Prop extends Loaded D p w where
  filled : w.base + w.size ≤ w.limit
  going : w.exhausted = false
  pos : 0 < w.size

/-- The feed could not fill the window any more. -/
structure Over (D : List UInt8) (w : SlidingWindow) : Prop where
  exhausted : w.exhausted = true
  total : w.totalRead = D.length

lemma At.place_add_le (h : At D p w) : p + w.size ≤ D.length := by
  have hlen := congrArg List.length h.ahead
  rw [List.length_append, h.length_live, List.length_drop] at hlen
  have := h.filled
  have := h.pos
  omega

lemma At.toList_view (h : At D p w) : w.view.toList = (D.drop p).take w.size := by
  have hf := h.filled
  rw [View.toList_eq, ← h.ahead, List.take_append_of_le_length (by rw [h.length_live]; omega)]
  rw [live, List.drop_take, List.take_take]
  simp only [view]
  congr 1
  omega

lemma At.shows_view (h : At D p w) : w.view.Shows D p w.size :=
  ⟨h.toList_view, h.place_add_le⟩

lemma At.withReads (h : At D p w) (reads : Array ℕ) :
    At D p { w with feed := { w.feed with reads } } :=
  ⟨⟨h.ahead, h.base_le, h.limit_le, h.ended, h.total, h.ending⟩, h.filled, h.going, h.pos⟩

/-- **One step**: the window moves on where the bytes reach as far, and is over where not. -/
lemma At.exists_advance (h : At D p w) {n : ℕ} (hn : 1 ≤ n) (hns : n ≤ w.size) :
    ∃ v, w.advance n = (.ok (decide (p + n + w.size ≤ D.length)), v) ∧ v.size = w.size ∧
      (p + n + w.size ≤ D.length → At D (p + n) v) ∧
      (¬ p + n + w.size ≤ D.length → Over D v) := by
  have hfilled := h.filled
  have hplace := h.place_add_le
  have hshift := h.toLoaded.shift (n := n) (by omega)
  unfold advance
  rw [if_neg (by omega), if_neg (by simp [h.going])]
  dsimp only
  split
  · next hin =>
    have hat : At D (p + n) { w with base := w.base + n } := ⟨hshift, hin, h.going, h.pos⟩
    have hfits : p + n + w.size ≤ D.length := hat.place_add_le
    exact ⟨{ w with base := w.base + n }, by simp [hfits], rfl, fun _ => hat, absurd hfits⟩
  · next hout =>
    obtain ⟨v, hv, hl, hb, hs, hbuf, hgo, hend⟩ := exists_fill (loaded_compact hshift)
    simp only [compact, size_overwrite] at hb hs hbuf hgo
    -- whether the window is full then is a matter of `D` alone
    have hroom : v.base + v.size ≤ v.buf.size := by
      have := h.limit_le
      omega
    have hiff := hl.filled_iff (by omega) hroom hend
    rw [hs] at hiff
    rw [hv]
    dsimp only
    split
    · next hshort =>
      have hnot : ¬ p + n + w.size ≤ D.length := by
        rw [← hiff]
        omega
      exact ⟨{ v with exhausted := true }, by simp [hnot], hs, fun hc => absurd hc hnot,
        fun _ => ⟨rfl, hl.totalRead_eq hroom hend (by omega)⟩⟩
    · next hfull =>
      have hfits : p + n + w.size ≤ D.length := hiff.mp (by omega)
      exact ⟨_, by simp [hfits], hs,
        fun _ => ⟨hl, by omega, hgo.trans h.going, by have := h.pos; omega⟩, absurd hfits⟩

lemma Over.advance_eq (h : Over D w) {n : ℕ} (hn : 1 ≤ n) (hns : n ≤ w.size) :
    w.advance n = (.ok false, w) := by
  unfold advance
  rw [if_neg (by omega), if_pos h.exhausted]

lemma size_of_openOn {feed : Feed} {size bufferSize : ℕ}
    (h : openOn feed size bufferSize = (.ok (), w)) : w.size = size := by
  unfold openOn at h
  dsimp only at h
  split at h
  · cases (Prod.mk.inj h).1
  split at h
  · cases (Prod.mk.inj h).1
  split at h
  · cases (Prod.mk.inj h).1
  · next hfill =>
    obtain rfl := (Prod.mk.inj h).2
    exact (fill_ok hfill le_rfl).2.2

lemma exists_openOn {feed : Feed} {size bufferSize : ℕ} (hsize : 0 < size)
    (hbuf : min (2 * size) maxSize ≤ bufferSize) (hroom : size ≤ bufferSize)
    (hend : feed.source.ending = none) :
    ∃ w, openOn feed size bufferSize = (if size ≤ feed.bytes.length then .ok ()
        else .error (.shortSource feed.bytes.length size), w) ∧ w.size = size ∧
      (size ≤ feed.bytes.length → At feed.bytes 0 w) := by
  have hload : Loaded feed.bytes 0
      ⟨feed, Array.replicate bufferSize 0, 0, 0, size, false, false, 0⟩ :=
    ⟨by simp [live], le_rfl, Nat.zero_le _, by simp, by simp, hend⟩
  obtain ⟨v, hv, hl, hb, hs, hbs, hgo, hstop⟩ := exists_fill hload
  simp only [Array.size_replicate] at hb hs hbs hgo
  have hiff := hl.filled_iff (Nat.zero_le _) (by omega) hstop
  have hshort : ¬ size ≤ feed.bytes.length → v.limit = feed.bytes.length := by
    intro hlt
    have hlen := congrArg List.length hl.ahead
    rw [List.length_append, hl.length_live, List.drop_zero] at hlen
    rcases hstop with he | he
    · omega
    · rw [he, List.length_nil] at hlen
      omega
  refine ⟨v, ?_, hs, fun hle => ⟨hl, by omega, hgo, by omega⟩⟩
  unfold openOn
  dsimp only
  rw [if_neg (by omega), if_neg (by omega), hv]
  dsimp only
  congr 1
  by_cases hle : size ≤ feed.bytes.length
  · rw [if_neg (by omega), if_pos hle]
  · rw [hshort hle, if_pos (by omega), if_neg hle]

/-! ### Runs -/

/-- Slides the window by each of the steps; the answers, the first one first. -/
def slide (w : SlidingWindow) : List ℕ → List (Except IoError Bool) × SlidingWindow
  | [] => ([], w)
  | n :: steps =>
    let (answer, w) := w.advance n
    let (answers, w) := slide w steps
    (answer :: answers, w)

lemma Over.slide_eq (h : Over D w) {steps : List ℕ} (hs : ∀ n ∈ steps, 1 ≤ n ∧ n ≤ w.size) :
    w.slide steps = (List.replicate steps.length (.ok false), w) := by
  induction steps with
  | nil => rfl
  | cons n steps ih =>
    have hn := hs n (by simp)
    rw [slide, h.advance_eq hn.1 hn.2]
    dsimp only
    rw [ih fun m hm => hs m (by simp [hm])]
    rfl

lemma At.exists_slide (h : At D p w) {steps : List ℕ} (hs : ∀ n ∈ steps, 1 ≤ n ∧ n ≤ w.size) :
    ∃ answers v, w.slide steps = (answers, v) ∧ v.size = w.size ∧ answers.length = steps.length ∧
      (∀ k < steps.length, answers[k]? =
        some (.ok (decide (p + (steps.take (k + 1)).sum + w.size ≤ D.length ∧
          .ok false ∉ answers.take k)))) ∧
      (.ok false ∉ answers → At D (p + steps.sum) v) ∧ (.ok false ∈ answers → Over D v) := by
  induction steps generalizing p w with
  | nil => exact ⟨[], w, rfl, rfl, rfl, by simp, fun _ => by simpa using h, by simp⟩
  | cons n steps ih =>
    obtain ⟨hn, hns⟩ := hs n (by simp)
    have hrest : ∀ m ∈ steps, 1 ≤ m ∧ m ≤ w.size := fun m hm => hs m (by simp [hm])
    obtain ⟨v, hv, hsize, hat, hover⟩ := h.exists_advance hn hns
    by_cases hfits : p + n + w.size ≤ D.length
    · obtain ⟨answers, u, hu, hus, hlen, hans, hau, hou⟩ := ih (hat hfits) (by rwa [hsize])
      refine ⟨.ok true :: answers, u, by simp [slide, hv, hfits, hu], hus.trans hsize,
        by simp [hlen], fun k hk => ?_, fun hno => ?_, fun hyes => ?_⟩
      · cases k with
        | zero => simp [hfits]
        | succ k =>
          have := hans k (by simpa using hk)
          rw [hsize] at this
          simpa [Nat.add_assoc] using this
      · have := hau (by simpa using hno)
        simpa [Nat.add_assoc] using this
      · exact hou (by simpa using hyes)
    · have hv' := hover hfits
      have hslide := hv'.slide_eq (by rwa [hsize] : ∀ m ∈ steps, 1 ≤ m ∧ m ≤ v.size)
      refine ⟨.ok false :: List.replicate steps.length (.ok false), v,
        by simp [slide, hv, hfits, hslide], hsize, by simp, fun k hk => ?_, by simp, fun _ => hv'⟩
      cases k with
      | zero => simp [hfits]
      | succ k => simp [show k < steps.length by simpa using hk]

/-- **The window refines a plain one.** However the feed delivers its bytes, opening succeeds where
they fill a window; each step says yes as long as they reach, and then no for good; while it says
yes, the window shows the bytes at the sum of the steps; and after a no everything has been read. -/
theorem slides_over_bytes {feed : Feed} {size bufferSize : ℕ} (hsize : 1 ≤ size)
    (hbuf : 2 * size ≤ bufferSize) (hend : feed.source.ending = none) :
    let D := feed.bytes
    let opened := openOn feed size bufferSize
    (opened.1 = .ok () ↔ size ≤ D.length) ∧
    (D.length < size → ∃ e, opened.1 = .error e ∧ e.kind = .unexpectedEnd) ∧
    (size ≤ D.length → opened.2.view.toList = D.take size ∧
      ∀ steps : List ℕ, (∀ n ∈ steps, 1 ≤ n ∧ n ≤ size) →
        let answers := (opened.2.slide steps).1
        let w := (opened.2.slide steps).2
        answers.length = steps.length ∧
        (∀ k < steps.length, answers[k]? =
          some (.ok (decide ((steps.take (k + 1)).sum + size ≤ D.length ∧
            .ok false ∉ answers.take k)))) ∧
        (.ok false ∉ answers → w.view.toList = (D.drop steps.sum).take size) ∧
        (.ok false ∈ answers → w.totalRead = D.length)) := by
  obtain ⟨w, hw, hws, hat⟩ := exists_openOn hsize (le_trans (min_le_left _ _) hbuf) (by omega) hend
  simp only [hw]
  refine ⟨by simp, fun hlt => ⟨_, if_neg (by omega), rfl⟩, fun hle => ⟨?_, fun steps hs => ?_⟩⟩
  · rw [(hat hle).toList_view, hws, List.drop_zero]
  · obtain ⟨answers, v, hv, hvs, hlen, hans, hyes, hno⟩ :=
      (hat hle).exists_slide (by rwa [hws] : ∀ n ∈ steps, 1 ≤ n ∧ n ≤ w.size)
    simp only [hv]
    refine ⟨hlen, by simpa [hws] using hans, fun h => ?_, fun h => (hno h).total⟩
    rw [(hyes h).toList_view, hvs, hws, Nat.zero_add]

/-- Five bytes in short reads with an interruption between them, and a zero behind. -/
def choppyFeed : Feed :=
  .ofSource ⟨[1, 2, 3, 4, 5], [.short 2, .interrupted, .short 1], none⟩ 1

theorem slides_over_choppyFeed :
    (1 ≤ 2 ∧ 2 * 2 ≤ 4 ∧ choppyFeed.source.ending = none ∧ ∀ n ∈ [1, 2, 1, 1], 1 ≤ n ∧ n ≤ 2) ∧
      (openOn choppyFeed 2 4).1 = .ok () ∧
      (openOn choppyFeed 2 4).2.view.toList = [1, 2] ∧
      ((openOn choppyFeed 2 4).2.slide [1, 2, 1, 1]).1[0]? = some (.ok true) ∧
      ((openOn choppyFeed 2 4).2.slide [1, 2, 1, 1]).1[3]? = some (.ok false) ∧
      ((openOn choppyFeed 2 4).2.slide [1, 2, 1, 1]).2.totalRead = 6 := by
  have hs : ∀ n ∈ [1, 2, 1, 1], 1 ≤ n ∧ n ≤ 2 := by decide
  obtain ⟨hopen, -, hrun⟩ :=
    slides_over_bytes (by decide : 1 ≤ 2) (by decide : 2 * 2 ≤ 4)
      (rfl : choppyFeed.source.ending = none)
  have hbytes : choppyFeed.bytes = [1, 2, 3, 4, 5, 0] := rfl
  rw [hbytes] at hopen hrun
  obtain ⟨hview, hslide⟩ := hrun (by decide)
  obtain ⟨-, hans, -, htotal⟩ := hslide _ hs
  have hlast := hans 3 (by decide)
  rw [decide_eq_false (by simp)] at hlast
  refine ⟨⟨by decide, by decide, rfl, hs⟩, hopen.mpr (by decide), hview, ?_, hlast, ?_⟩
  · rw [hans 0 (by decide), decide_eq_true (by simp)]
  · exact htotal (List.mem_of_getElem? hlast)

end SlidingWindow

end SeedSync
