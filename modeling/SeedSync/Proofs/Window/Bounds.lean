import Mathlib
import SeedSync.Proofs.Window.View
import SeedSync.Window.Sliding

/-!
The places of a sliding window in its buffer, whatever becomes of its source. A read that fails in
the middle of loading leaves the window moved and not full; it lies in the buffer all the same, and
no access goes past the end.
-/

namespace SeedSync.SlidingWindow

/-! ### Accesses that stop outside of the buffer -/

/-- The bytes from `lo` up to `hi`, if all of them are in the buffer. -/
def cut? (buf : Array UInt8) (lo hi : ℕ) : Option (List UInt8) :=
  if lo ≤ hi ∧ hi ≤ buf.size then some (buf.extract lo hi).toList else none

/-- `overwrite`, if there is room for all of the bytes. -/
def overwrite? (buf : Array UInt8) (i : ℕ) (bs : List UInt8) : Option (Array UInt8) :=
  if i + bs.length ≤ buf.size then some (overwrite buf i bs) else none

lemma size_of_overwrite? {buf buf' : Array UInt8} {i : ℕ} {bs : List UInt8}
    (h : overwrite? buf i bs = some buf') : buf'.size = buf.size := by
  obtain ⟨-, h⟩ := Option.ite_none_right_eq_some.mp h
  obtain rfl := Option.some.inj h
  exact size_overwrite buf i bs

/-- What the window shows, if it lies in the buffer. -/
def shown? (w : SlidingWindow) : Option (List UInt8) := cut? w.buf w.base (w.base + w.size)

def fill? (w : SlidingWindow) : Option (Except IoError Unit × SlidingWindow) :=
  if _h : w.ended = false ∧ w.limit < w.buf.size then
    match w.feed.read (w.buf.size - w.limit) with
    | (.error e, feed) => some (.error e, { w with feed })
    | (.ok [], feed) => some (.ok (), { w with feed, ended := true })
    | (.ok (b :: bs), feed) =>
      match _hbuf : overwrite? w.buf w.limit (b :: bs) with
      | none => none
      | some buf =>
        let n := bs.length + 1
        fill? { w with feed, buf, limit := w.limit + n, totalRead := w.totalRead + n }
  else some (.ok (), w)
termination_by w.buf.size - w.limit
decreasing_by
  have := size_of_overwrite? _hbuf
  omega

def compact? (w : SlidingWindow) : Option SlidingWindow := do
  let limit := w.limit - w.base
  if limit = 0 then return { w with base := 0, limit }
  let live ← cut? w.buf w.base w.limit
  let buf ← overwrite? w.buf 0 live
  return { w with buf, base := 0, limit }

/-- What an advance says once it has loaded. -/
def settle : Except IoError Unit × SlidingWindow → Except IoError Bool × SlidingWindow
  | (.error e, w) => (.error e, w)
  | (.ok (), w) =>
    if w.limit - w.base < w.size then (.ok false, { w with exhausted := true }) else (.ok true, w)

/-- `advance`, likewise. -/
def advance? (w : SlidingWindow) (n : ℕ) : Option (Except IoError Bool × SlidingWindow) :=
  if n = 0 ∨ w.size < n then some (.error (.badAdvance n w.size), w)
  else if w.exhausted then some (.ok false, w)
  else
    let w := { w with base := w.base + n }
    if w.base + w.size ≤ w.limit then some (.ok true, w)
    else do
      let w ← w.compact?
      let loaded ← w.fill?
      return settle loaded

variable {w : SlidingWindow} {size room : ℕ}

/-- Loading never goes past the end, as no read gives more than it is asked for. -/
lemma fill?_eq (w : SlidingWindow) : w.fill? = some w.fill := by
  fun_induction fill w with
  | case1 w hw e feed hr => rw [fill?, dif_pos hw, hr]
  | case2 w hw feed hr => rw [fill?, dif_pos hw, hr]
  | case3 w hw b bs feed hr n ih =>
    have hlen := (Feed.left_of_read hr).2
    rw [List.length_cons] at hlen
    have hbuf : overwrite? w.buf w.limit (b :: bs) = some (overwrite w.buf w.limit (b :: bs)) :=
      if_pos (by rw [List.length_cons]; omega)
    rw [fill?, dif_pos hw, hr]
    dsimp only
    split
    · next h => rw [hbuf] at h; cases h
    · next buf h =>
      rw [hbuf] at h
      obtain rfl := Option.some.inj h
      exact ih
  | case4 w hw => rw [fill?, dif_neg hw]

lemma compact?_eq (h : w.limit ≤ w.buf.size) : w.compact? = some w.compact := by
  rw [compact?]
  split
  · next hnone =>
    -- behind a failure the window may have been moved past all that is loaded
    have hlive : w.buf.extract w.base w.limit = #[] := by
      rw [← Array.size_eq_zero_iff, Array.size_extract]
      omega
    rw [compact, hlive]
    rfl
  · next hsome =>
    have hlive : (w.buf.extract w.base w.limit).toList.length = w.limit - w.base := by
      rw [Array.length_toList, Array.size_extract]
      omega
    rw [cut?, if_pos (by omega)]
    simp only [Option.bind_some, Option.bind_eq_bind]
    rw [overwrite?, if_pos (by omega)]
    rfl

/-! ### Bounds -/

/-- The window and what is loaded lie in the buffer. -/
structure InBounds (size room : ℕ) (w : SlidingWindow) : Prop where
  size_eq : w.size = size
  room_eq : w.buf.size = room
  base_add_le : w.base + size ≤ room
  limit_le : w.limit ≤ room

lemma fill_keeps (w : SlidingWindow) : w.fill.2.size = w.size ∧ w.fill.2.base = w.base ∧
    w.fill.2.buf.size = w.buf.size ∧ (w.limit ≤ w.buf.size → w.fill.2.limit ≤ w.buf.size) := by
  fun_induction fill w with
  | case1 w hw e feed hr => exact ⟨rfl, rfl, rfl, id⟩
  | case2 w hw feed hr => exact ⟨rfl, rfl, rfl, id⟩
  | case3 w hw b bs feed hr n ih =>
    have hlen := (Feed.left_of_read hr).2
    rw [List.length_cons] at hlen
    obtain ⟨hsize, hbase, hbuf, hlimit⟩ := ih
    simp only [size_overwrite] at hsize hbase hbuf hlimit
    exact ⟨hsize, hbase, hbuf, fun _ => hlimit (by omega)⟩
  | case4 w hw => exact ⟨rfl, rfl, rfl, id⟩

lemma InBounds.fill (h : InBounds size room w) : InBounds size room w.fill.2 := by
  obtain ⟨hsize, hbase, hbuf, hlimit⟩ := fill_keeps w
  have hroom := h.room_eq
  exact ⟨hsize.trans h.size_eq, hbuf.trans hroom, hbase ▸ h.base_add_le,
    hroom ▸ hlimit (hroom ▸ h.limit_le)⟩

/-- Moving what is left to the front makes up for a window that has been moved too far. -/
lemma InBounds.compact (h : InBounds size room w) (n : ℕ) :
    InBounds size room { w with base := w.base + n }.compact where
  size_eq := h.size_eq
  room_eq := (size_overwrite _ _ _).trans h.room_eq
  base_add_le := by
    have := h.base_add_le
    simp only [SlidingWindow.compact]
    omega
  limit_le := by
    have := h.limit_le
    simp only [SlidingWindow.compact]
    omega

lemma advance_of_bad {n : ℕ} (h : n = 0 ∨ w.size < n) :
    w.advance n = (.error (.badAdvance n w.size), w) := by
  rw [advance, if_pos h]

lemma advance_of_exhausted {n : ℕ} (hn : ¬(n = 0 ∨ w.size < n)) (h : w.exhausted = true) :
    w.advance n = (.ok false, w) := by
  rw [advance, if_neg hn, if_pos h]

lemma advance_of_loaded {n : ℕ} (hn : ¬(n = 0 ∨ w.size < n)) (h : ¬w.exhausted = true)
    (hin : w.base + n + w.size ≤ w.limit) :
    w.advance n = (.ok true, { w with base := w.base + n }) := by
  rw [advance, if_neg hn, if_neg h]
  exact if_pos hin

lemma advance_of_not_loaded {n : ℕ} (hn : ¬(n = 0 ∨ w.size < n)) (h : ¬w.exhausted = true)
    (hout : ¬w.base + n + w.size ≤ w.limit) :
    w.advance n = settle { w with base := w.base + n }.compact.fill := by
  rw [advance, if_neg hn, if_neg h]
  dsimp only
  rw [if_neg hout]
  rfl

lemma settle_snd (r : Except IoError Unit × SlidingWindow) :
    ∃ exhausted, (settle r).2 = { r.2 with exhausted } := by
  obtain ⟨_ | _, w⟩ := r
  · exact ⟨w.exhausted, rfl⟩
  · dsimp only [settle]
    split
    · exact ⟨true, rfl⟩
    · exact ⟨w.exhausted, rfl⟩

lemma exhausted_of_settle {r : Except IoError Unit × SlidingWindow}
    (h : (settle r).1 = .ok false) : (settle r).2.exhausted = true := by
  obtain ⟨_ | _, w⟩ := r
  · cases h
  · dsimp only [settle] at h ⊢
    split at h
    · next hshort => rw [if_pos hshort]
    · cases h

/-- What an advance does to a window: nothing, if it is refused or the window is exhausted; else it
moves it, in what is loaded, or with what is left and loaded anew. -/
lemma advance_snd_cases (w : SlidingWindow) (n : ℕ) : (w.advance n).2 = w ∨
    (w.base + n + w.size ≤ w.limit ∧ (w.advance n).2 = { w with base := w.base + n }) ∨
    ∃ exhausted,
      (w.advance n).2 = { { w with base := w.base + n }.compact.fill.2 with exhausted } := by
  by_cases hn : n = 0 ∨ w.size < n
  · exact .inl (by rw [advance_of_bad hn])
  by_cases hdone : w.exhausted = true
  · exact .inl (by rw [advance_of_exhausted hn hdone])
  by_cases hin : w.base + n + w.size ≤ w.limit
  · exact .inr (.inl ⟨hin, by rw [advance_of_loaded hn hdone hin]⟩)
  · rw [advance_of_not_loaded hn hdone hin]
    exact .inr (.inr (settle_snd _))

lemma InBounds.advance (h : InBounds size room w) (n : ℕ) :
    InBounds size room (w.advance n).2 := by
  rcases advance_snd_cases w n with hv | ⟨hin, hv⟩ | ⟨exhausted, hv⟩
  · rwa [hv]
  · have hsize := h.size_eq
    have hlimit := h.limit_le
    rw [hv]
    exact ⟨hsize, h.room_eq, by dsimp only; omega, hlimit⟩
  · obtain ⟨hsize, hroom, hbase, hlimit⟩ := (h.compact n).fill
    rw [hv]
    exact ⟨hsize, hroom, hbase, hlimit⟩

lemma InBounds.advance?_eq (h : InBounds size room w) (n : ℕ) :
    w.advance? n = some (w.advance n) := by
  have hcompact :
      { w with base := w.base + n }.compact? = some { w with base := w.base + n }.compact :=
    compact?_eq (h.limit_le.trans_eq h.room_eq.symm)
  rw [advance?]
  split
  · next hn => rw [advance_of_bad hn]
  split
  · next hn hdone => rw [advance_of_exhausted hn hdone]
  dsimp only
  split
  · next hn hdone hin => rw [advance_of_loaded hn hdone hin]
  · next hn hdone hout =>
    rw [advance_of_not_loaded hn hdone hout, hcompact]
    simp only [Option.bind_eq_bind, Option.bind_some, fill?_eq]
    rfl

lemma InBounds.shown?_eq (h : InBounds size room w) : w.shown? = some w.view.toList := by
  have := h.base_add_le
  rw [shown?, cut?, if_pos (by rw [h.size_eq, h.room_eq]; omega)]
  rfl

lemma InBounds.of_openOn {feed : Feed} (h : openOn feed size room = (.ok (), w)) :
    InBounds size room w := by
  unfold openOn at h
  dsimp only at h
  split at h
  · cases h
  split at h
  · cases h
  obtain ⟨hsize, hbase, hbuf, hlimit⟩ :=
    fill_keeps ⟨feed, Array.replicate room 0, 0, 0, size, false, false, 0⟩
  split at h
  · cases h
  next v hv =>
  split at h
  · cases h
  next hfull =>
  obtain rfl := (Prod.mk.inj h).2
  -- the first window has been loaded in full, so the buffer has room for it
  rw [hv] at hsize hbase hbuf hlimit
  simp only [Array.size_replicate] at hsize hbase hbuf hlimit
  exact ⟨hsize, hbuf, by omega, hlimit (Nat.zero_le _)⟩

/-! ### Any source and any calls -/

/-- A window that has been opened with success and then used in any way, over a source that may do
anything: what it gives up to its end or its next failure is a feed, and behind that it may go on
with any other. -/
inductive Reached (size room : ℕ) : SlidingWindow → Prop
  | opened {feed : Feed} {w : SlidingWindow} (h : openOn feed size room = (.ok (), w)) :
    Reached size room w
  | advanced {w : SlidingWindow} (h : Reached size room w) (n : ℕ) :
    Reached size room (w.advance n).2
  | resumed {w : SlidingWindow} (h : Reached size room w) (feed : Feed) :
    Reached size room { w with feed }

lemma Reached.inBounds (h : Reached size room w) : InBounds size room w := by
  induction h with
  | opened h => exact .of_openOn h
  | advanced _ n ih => exact ih.advance n
  | resumed _ feed ih => exact ⟨ih.size_eq, ih.room_eq, ih.base_add_le, ih.limit_le⟩

lemma advance_snd_of_exhausted (h : w.exhausted = true) (n : ℕ) : (w.advance n).2 = w := by
  by_cases hn : n = 0 ∨ w.size < n
  · rw [advance_of_bad hn]
  · rw [advance_of_exhausted hn h]

lemma exhausted_of_advance {n : ℕ} (h : (w.advance n).1 = .ok false) :
    (w.advance n).2.exhausted = true := by
  by_cases hn : n = 0 ∨ w.size < n
  · rw [advance_of_bad hn] at h
    cases h
  by_cases hdone : w.exhausted = true
  · rwa [advance_of_exhausted hn hdone]
  by_cases hin : w.base + n + w.size ≤ w.limit
  · rw [advance_of_loaded hn hdone hin] at h
    cases h
  · rw [advance_of_not_loaded hn hdone hin] at h ⊢
    exact exhausted_of_settle h

/-- **The window stays in its buffer**, whatever its source does and whatever it is asked for, also
behind failures. So do all accesses: what it shows, moves and loads is in the buffer. An advance by
no bytes or by more than a window is refused, and neither this nor any advance of an exhausted
window changes anything. -/
theorem stays_in_its_buffer (h : Reached size room w) :
    w.base + size ≤ room ∧ w.limit ≤ room ∧ w.size = size ∧ w.buf.size = room ∧
    w.shown? = some w.view.toList ∧
    ∀ n, w.advance? n = some (w.advance n) ∧
      (n = 0 ∨ size < n → ∃ e, w.advance n = (.error e, w) ∧ e.kind = .invalidInput) ∧
      (w.exhausted = true → (w.advance n).2 = w) ∧
      ((w.advance n).1 = .ok false → (w.advance n).2.exhausted = true) := by
  have hw := h.inBounds
  refine ⟨hw.base_add_le, hw.limit_le, hw.size_eq, hw.room_eq, hw.shown?_eq, fun n =>
    ⟨hw.advance?_eq n, fun hn => ?_, fun hdone => advance_snd_of_exhausted hdone n,
      exhausted_of_advance⟩⟩
  exact ⟨_, advance_of_bad (hw.size_eq.symm ▸ hn), rfl⟩

/-- Five bytes and then a failure. -/
def breaking : Feed :=
  .ofSource ⟨[1, 2, 3, 4, 5], [.short 3, .interrupted], some (.other "broken")⟩ 0

/-- A window of two bytes, advanced to where it could not be loaded. -/
def stranded : SlidingWindow := (((openOn breaking 2 4).2.advance 2).2.advance 2).2

theorem stays_in_its_buffer_behind_a_failure :
    stranded.limit < stranded.base + 2 ∧ stranded.base + 2 ≤ 4 ∧ stranded.shown? = some [5, 2] ∧
    stranded.advance? 2 = some (stranded.advance 2) ∧
    ∃ e, stranded.advance 3 = (.error e, stranded) ∧ e.kind = .invalidInput := by
  have hopen : openOn breaking 2 4 = (.ok (), (openOn breaking 2 4).2) :=
    Prod.ext (by decide +kernel) rfl
  obtain ⟨hbase, -, -, -, hshown, hadvance⟩ :=
    stays_in_its_buffer (((Reached.opened hopen).advanced 2).advanced 2)
  have hbytes : stranded.view.toList = [5, 2] := by decide +kernel
  exact ⟨by decide +kernel, hbase, hbytes ▸ hshown, (hadvance 2).1, (hadvance 3).2.1 (by decide)⟩

end SeedSync.SlidingWindow
