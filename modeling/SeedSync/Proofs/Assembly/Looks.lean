import Mathlib
import SeedSync.Proofs.Assembly.Requests

/-!
The windows that a scan looks at. Each look is at a place of its own, so there are no more of them
than places in the seed; and where the sink takes what is found, none of them fails.
-/

namespace SeedSync

variable {σ : Type} [BlockSink σ] {c : ControlFile} {header : Header} {sums : List BlockSum}
  {D : List UInt8} {p : ℕ}

/-! ### Sinks that take what is found -/

/-- Sinks with this property take all that matchers find in windows over `D`, and keep it. -/
structure BlockSink.Takes (c : ControlFile) (D : List UInt8) (Good : σ → Prop) : Prop where
  searches : ∀ {sink}, Good sink → c.Searches sink
  noteRead : ∀ {sink} (n : ℕ), Good sink → Good (BlockSink.noteRead sink n)
  writeBlock : ∀ {sink} {w : View} {p : ℕ} {x : ℕ × ℕ}, Good sink → w.Shows D p (Matcher.span c) →
    Matcher.Finds c D p x →
      ∃ r sink', BlockSink.writeBlock sink x.1 w x.2 = (.ok r, sink') ∧ Good sink'

lemma BlockSink.Takes.exists_writeBlocks {Good : σ → Prop} (h : Takes c D Good) {sink : σ}
    (hgood : Good sink) {w : View} (hw : w.Shows D p (Matcher.span c)) {ws : List (ℕ × ℕ)}
    (hws : ∀ x ∈ ws, Matcher.Finds c D p x) :
    ∃ sink', BlockSink.writeBlocks sink w ws = (.ok (), sink') ∧ Good sink' := by
  induction ws generalizing sink with
  | nil => exact ⟨sink, rfl, hgood⟩
  | cons x ws ih =>
    obtain ⟨r, sink', hwrite, hgood'⟩ := h.writeBlock hgood hw (hws x List.mem_cons_self)
    obtain ⟨sink'', hmore, hgood''⟩ := ih hgood' fun y hy => hws y (List.mem_cons_of_mem x hy)
    refine ⟨sink'', ?_, hgood''⟩
    rw [BlockSink.writeBlocks, hwrite]
    exact hmore

/-- The call is about a block of the target, and its bytes lie inside of the window. -/
structure WriteCall.Inside (c : ControlFile) (call : WriteCall) : Prop where
  index : call.index < c.numBlocks
  window : call.window.length = Matcher.span c
  range : call.offset + c.header.blockLength call.index ≤ call.window.length

lemma WriteCall.Inside.of_finds (hc : ControlFile.assemble header sums = .ok c)
    (hb : 0 < c.header.blockSize) {w : View} (hw : w.Shows D p (Matcher.span c)) {x : ℕ × ℕ}
    (hx : Matcher.Finds c D p x) : Inside c ⟨x.1, w.toList, x.2⟩ := by
  have hinside := hx.inside
  have hi : x.1 < c.numBlocks := (Array.getElem?_eq_some_iff.mp hx.sum).1
  have hlen : w.toList.length = Matcher.span c := by rw [View.length_toList, hw.length_eq]
  have hle : c.header.blockLength x.1 ≤ c.header.blockSize := by
    refine Header.blockLength_le hb ?_
    rwa [(ControlFile.assemble_ok hc).2.1, ← ControlFile.numBlocks_eq hc]
  exact ⟨hi, hlen, by dsimp only; omega⟩

lemma Recorder.takes {Good : σ → Prop} (h : BlockSink.Takes c D Good)
    (hc : ControlFile.assemble header sums = .ok c) (hb : 0 < c.header.blockSize) :
    BlockSink.Takes c D fun r : Recorder σ => Good r.sink ∧ ∀ call ∈ r.calls, call.Inside c where
  searches hr := h.searches hr.1
  noteRead n hr := ⟨h.noteRead n hr.1, hr.2⟩
  writeBlock {r w p x} hr hw hx := by
    obtain ⟨answer, sink', hwrite, hgood⟩ := h.writeBlock hr.1 hw hx
    refine ⟨answer, ⟨sink', r.calls ++ [⟨x.1, w.toList, x.2⟩]⟩, ?_, hgood, ?_⟩
    · simp only [BlockSink.writeBlock]
      rw [hwrite]
    · intro call hcall
      rcases List.mem_append.mp hcall with hcall | hcall
      · exact hr.2 call hcall
      · obtain rfl := List.mem_singleton.mp hcall
        exact .of_finds hc hb hw hx

namespace Scan

open Matcher

/-! ### Looks -/

/-- A look at a window, and what the matcher made of it. -/
structure Look where
  window : View
  answer : Except Error ℕ

/-- The looks that a scan takes from the window at hand on, and what comes of it. -/
inductive Looks (c : ControlFile) :
    Matcher → σ → SlidingWindow → List Look → Except Error Unit × σ × Source → Prop
  | complete {m : Matcher} {sink : σ} {w : SlidingWindow}
      (hdone : BlockSink.isComplete sink = true) :
      Looks c m sink w [] (.ok (), sink, w.feed.source)
  | failed {m m' : Matcher} {sink sink' : σ} {w : SlidingWindow} {e : Error}
      (hmore : BlockSink.isComplete sink = false)
      (hcall : m.matchWindow c sink w.view = (.error e, m', sink')) :
      Looks c m sink w [⟨w.view, .error e⟩] (.error e, sink', w.feed.source)
  | broken {m m' : Matcher} {sink sink' : σ} {w v : SlidingWindow} {n : ℕ} {e : IoError}
      (hmore : BlockSink.isComplete sink = false)
      (hcall : m.matchWindow c sink w.view = (.ok n, m', sink'))
      (hadvance : w.advance n = (.error e, v)) :
      Looks c m sink w [⟨w.view, .ok n⟩]
        (.error (.io .inputFileRead e), (report sink' v).1, v.feed.source)
  | ended {m m' : Matcher} {sink sink' : σ} {w v : SlidingWindow} {n : ℕ}
      (hmore : BlockSink.isComplete sink = false)
      (hcall : m.matchWindow c sink w.view = (.ok n, m', sink'))
      (hadvance : w.advance n = (.ok false, v)) :
      Looks c m sink w [⟨w.view, .ok n⟩] (.ok (), (report sink' v).1, v.feed.source)
  | advanced {m m' : Matcher} {sink sink' : σ} {w v : SlidingWindow} {n : ℕ} {looks : List Look}
      {result : Except Error Unit × σ × Source} (hmore : BlockSink.isComplete sink = false)
      (hcall : m.matchWindow c sink w.view = (.ok n, m', sink'))
      (hadvance : w.advance n = (.ok true, v))
      (more : Looks c m' (report sink' v).1 (report sink' v).2 looks result) :
      Looks c m sink w (⟨w.view, .ok n⟩ :: looks) result

variable {m : Matcher} {sink : σ} {w : SlidingWindow} {looks : List Look}
  {result : Except Error Unit × σ × Source}

lemma Looks.run_eq (h : Looks c m sink w looks result) (hw : w.base < w.limit) :
    run c m sink w hw = result := by
  induction h with
  | complete hdone => rw [run, if_pos hdone]
  | failed hmore hcall => rw [run, if_neg (by simp [hmore]), hcall]
  | broken hmore hcall hadvance =>
    rw [run, if_neg (by simp [hmore]), hcall]
    dsimp only
    split <;> simp_all
  | ended hmore hcall hadvance =>
    rw [run, if_neg (by simp [hmore]), hcall]
    dsimp only
    split <;> simp_all
  | advanced hmore hcall hadvance more ih =>
    rw [run, if_neg (by simp [hmore]), hcall]
    dsimp only
    split
    · next h => simp [hadvance] at h
    · next h => simp [hadvance] at h
    · next v' h =>
      obtain rfl : _ = v' := congrArg Prod.snd (hadvance.symm.trans h)
      exact ih _

/-- **Every look is at a place of its own**, so a scan ends; and if the sink takes what is found,
none of the looks fails. -/
lemma exists_looks {Good : σ → Prop} (htakes : BlockSink.Takes c D Good)
    (hc : ControlFile.assemble header sums = .ok c) (hb : 0 < c.header.blockSize) (hat : w.At D p)
    (hsize : w.size = span c) (hcarries : Carries c D p m) (hgood : Good sink) :
    ∃ looks sink' left, Looks c m sink w looks (.ok (), sink', left) ∧
      p + looks.length + span c ≤ D.length + 1 ∧
      (∀ look ∈ looks, look.window.length = span c ∧
        ∃ n, look.answer = .ok n ∧ 1 ≤ n ∧ n ≤ span c) ∧ Good sink' := by
  -- the places that are left become fewer with each look
  induction hk : D.length - p using Nat.strong_induction_on generalizing p m sink w with
  | _ k ih =>
    subst hk
    have hfits := hat.place_add_le
    rw [hsize] at hfits
    by_cases hdone : BlockSink.isComplete sink = true
    · exact ⟨[], sink, _, .complete hdone, by rw [List.length_nil]; omega, by simp, hgood⟩
    rw [Bool.not_eq_true] at hdone
    have hview : w.view.Shows D p (span c) := hsize ▸ hat.shows_view
    obtain ⟨r, m', sink', hwrite, hcall, hnext⟩ :=
      hcarries.matchWindow hc hb hview (htakes.searches hgood)
    obtain ⟨sink'', hwrite', hgood'⟩ :=
      htakes.exists_writeBlocks hgood hview hcarries.finds_writesAt
    rw [hwrite'] at hwrite
    obtain ⟨rfl, rfl⟩ := Prod.mk.inj hwrite
    obtain ⟨hone, hle⟩ := strideAt_bounds hb D p m
    generalize m.strideAt c D p = n at hcall hnext hone hle
    have hle : n ≤ span c := hle.trans hcarries.blockSize_le_span
    have hlook : w.view.length = span c ∧
        ∃ k, (Except.ok n : Except Error ℕ) = .ok k ∧ 1 ≤ k ∧ k ≤ span c :=
      ⟨hview.length_eq, n, rfl, hone, hle⟩
    obtain ⟨v, hadvance, hvsize, hat', -⟩ := hat.exists_advance hone (hle.trans_eq hsize.symm)
    have hreport : Good (report sink'' v).1 := report_sink (fun _ n => htakes.noteRead n) hgood'
    by_cases hgo : p + n + w.size ≤ D.length
    · rw [decide_eq_true hgo] at hadvance
      obtain ⟨looks, last, left, hlooks, hcount, hall, hlast⟩ := ih (D.length - (p + n)) (by omega)
        (w := (report sink'' v).2) (report_window_at (hat' hgo)) (hvsize.trans hsize) (hnext rfl)
        hreport rfl
      exact ⟨_, last, left, .advanced hdone hcall hadvance hlooks,
        by rw [List.length_cons]; omega, List.forall_mem_cons.mpr ⟨hlook, hall⟩, hlast⟩
    · rw [decide_eq_false hgo] at hadvance
      exact ⟨_, _, _, .ended hdone hcall hadvance, by rw [List.length_singleton]; omega,
        List.forall_mem_singleton.mpr hlook, hreport⟩

lemma exists_looks_of_seed {Good : σ → Prop} {source : Source}
    (htakes : BlockSink.Takes c (view c source.rest) Good)
    (hc : ControlFile.assemble header sums = .ok c) (hfits : reach c < UInt64.size)
    (hb : 0 < c.header.blockSize) (hend : source.ending = none) (hgood : Good sink)
    (hopen : SlidingWindow.openOn (.ofSource source (span c)) (span c) (bufferSize (span c)) =
      (.ok (), w)) :
    ∃ looks, Looks c (start c) (report sink w).1 (report sink w).2 looks (seed c sink source) ∧
      (seed c sink source).1 = .ok () ∧ looks.length ≤ source.rest.length + 1 ∧
      (∀ look ∈ looks, look.window.length = span c ∧
        ∃ n, look.answer = .ok n ∧ 1 ≤ n ∧ n ≤ span c) ∧ Good (seed c sink source).2.1 := by
  have hspan := hb.trans_le (blockSize_le_span hfits)
  obtain ⟨v, hv, hsize, hat⟩ := exists_openOn hspan hend
  obtain rfl : v = w := congrArg Prod.snd (hv.symm.trans hopen)
  obtain ⟨looks, sink', left, hlooks, hcount, hall, hgood'⟩ :=
    exists_looks htakes hc hb (w := (report sink v).2) (report_window_at hat) hsize
      (carries_start hfits _) (report_sink (fun _ n => htakes.noteRead n) hgood)
  have hreaches : Reaches c source sink (start c) (report sink v).1 (report sink v).2 :=
    .opened hspan hopen
  obtain ⟨hw, hseed⟩ := hreaches.seed_eq
  rw [hlooks.run_eq hw] at hseed
  rw [hseed]
  refine ⟨looks, hlooks, rfl, ?_, hall, hgood'⟩
  rw [view, List.length_append, List.length_replicate] at hcount
  omega

end Scan

/-- No window below 2⁶² needs a buffer that there is not. -/
lemma Matcher.bufferSize_bounds {window : ℕ} (hpos : 0 < window) (h : window < 2 ^ 62) :
    2 * window ≤ bufferSize window ∧ bufferSize window < 2 ^ 63 := by
  have hquotient : window * ((65536 + window - 1) / window) ≤ 65536 + window - 1 :=
    Nat.mul_div_le _ _
  have hmax : SlidingWindow.maxSize = 2 ^ 64 - 1 := rfl
  have hlarge := (le_bufferSize (h.trans (by decide))).2
  have hproduct : window * max ((65536 + window - 1) / window) 2 < 2 ^ 63 := by
    rw [← Nat.mul_max_mul_left]
    omega
  rw [hmax] at hlarge
  refine ⟨by omega, ?_⟩
  rw [bufferSize]
  omega

namespace Assembly

variable {path : String} {a : Assembly}

lemma Filled.takes (path : String) (c : ControlFile) (D : List UInt8) :
    BlockSink.Takes c D (Filled path c fun _ _ => True) where
  searches h := h.searches
  noteRead n h := h.emit (.bytesRead n)
  writeBlock h hw hx := by
    obtain ⟨r, b, hwrite, -, hext⟩ := h.exists_writeBlock hw hx
    exact ⟨r, b, hwrite, h.of_extends hext fun _ _ _ => trivial⟩

/-- **A scan ends and never fails of itself.** The buffer that its windows ask for can be had, the
first window is filled whatever the seed, there are no more looks than places in the seed and behind
it, each of them moves the window on by no more than its length, and every block that is written is
one of the target's and lies inside of the window. The record of the calls does not change the
scan. -/
theorem scans_to_the_end (hc : ControlFile.assemble header sums = .ok c)
    (hreach : Matcher.reach c < 2 ^ 62) (ha : Filled path c (fun _ _ => True) a) {source : Source}
    (hend : source.ending = none) :
    let span := Matcher.span c
    2 * span ≤ Matcher.bufferSize span ∧ Matcher.bufferSize span < 2 ^ 63 ∧
    ∃ w, SlidingWindow.openOn (.ofSource source span) span (Matcher.bufferSize span) = (.ok (), w) ∧
      (Scan.seed c a source).1 = .ok () ∧
      (∃ looks, Scan.Looks c (Matcher.start c) (Scan.report a w).1 (Scan.report a w).2 looks
          (Scan.seed c a source) ∧
        looks.length ≤ source.rest.length + 1 ∧
        ∀ look ∈ looks, look.window.length = span ∧
          ∃ n, look.answer = .ok n ∧ 1 ≤ n ∧ n ≤ span) ∧
      let scan := Scan.seed c (⟨a, []⟩ : Recorder Assembly) source
      Scan.seed c a source = (scan.1, scan.2.1.sink, scan.2.2) ∧
        ∀ call ∈ scan.2.1.calls, call.index < c.numBlocks ∧ call.window.length = span ∧
          call.offset + a.blockLength call.index ≤ span := by
  have hfits : Matcher.reach c < UInt64.size := hreach.trans (by decide)
  have hpos := ha.pos.trans_le (Matcher.blockSize_le_span hfits)
  obtain ⟨hlarge, hsmall⟩ :=
    Matcher.bufferSize_bounds hpos ((Nat.mod_le _ UInt64.size).trans_lt hreach)
  obtain ⟨w, hopen, -, -⟩ := Scan.exists_openOn hpos hend
  have htakes := Filled.takes path c (Scan.view c source.rest)
  obtain ⟨looks, hlooks, hok, hcount, hall, -⟩ :=
    Scan.exists_looks_of_seed htakes hc hfits ha.pos hend ha hopen
  have hunlogged : ∀ call ∈ (⟨a, []⟩ : Recorder Assembly).calls, call.Inside c := by simp
  obtain ⟨-, -, -, -, -, -, hcalls⟩ :=
    Scan.exists_looks_of_seed (Recorder.takes htakes hc ha.pos) hc hfits ha.pos hend
      ⟨ha, hunlogged⟩ hopen
  refine ⟨hlarge, hsmall, w, hopen, hok, ⟨looks, hlooks, hcount, hall⟩, ?_, fun call hcall => ?_⟩
  · exact Recorder.maps.seed (⟨a, []⟩ : Recorder Assembly) source
  obtain ⟨hindex, hwindow, hrange⟩ := hcalls call hcall
  rw [← ha.header, ← ha.sound.blockLength_eq] at hrange
  exact ⟨hindex, hwindow, hrange.trans_eq hwindow⟩

/-- In an empty seed there is one place to look at, the zeros behind it. -/
theorem scans_an_empty_seed : ∃ c a w,
    ControlFile.assemble (.fourBytes 2) (ControlFile.sumsOf (.fourBytes 2) [1, 2, 3, 4]) = .ok c ∧
      Matcher.reach c < 2 ^ 62 ∧ Filled "four" c (fun _ _ => True) a ∧
      (Scan.seed c a (.ofBytes [])).1 = .ok () ∧
      ∃ looks, Scan.Looks c (Matcher.start c) (Scan.report a w).1 (Scan.report a w).2 looks
        (Scan.seed c a (.ofBytes [])) ∧ looks.length ≤ 1 := by
  obtain ⟨c, hc⟩ := ControlFile.exists_assemble_sumsOf (.fourBytes 2) [1, 2, 3, 4]
  have hreach : Matcher.reach c < 2 ^ 62 := by
    rw [Matcher.reach, (ControlFile.assemble_ok hc).2.1]
    decide
  have hfilled : Filled "four" c (fun _ _ => True) ((start "four" c #[]).run secondOfFour) :=
    (filled_start hc (by decide)).run secondOfFour
  have hend : (Source.ofBytes []).ending = none := rfl
  obtain ⟨-, -, w, -, hok, ⟨looks, hlooks, hcount, -⟩, -⟩ := scans_to_the_end hc hreach hfilled hend
  exact ⟨c, _, w, hc, hreach, hfilled, hok, looks, hlooks, hcount⟩

end Assembly

end SeedSync
