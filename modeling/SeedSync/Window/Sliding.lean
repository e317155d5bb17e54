import SeedSync.Window.Feed
import SeedSync.Window.View

/-!
A window that slides over a feed. It lies in a larger buffer and moves by changing where it
starts; when it would run past the bytes read so far, these are moved to the front and the buffer
is filled again. Each advance that succeeds leaves less ahead of the window.
-/

namespace SeedSync

structure SlidingWindow where
  feed : Feed
  buf : Array UInt8
  /-- Where the window starts. -/
  base : Nat
  /-- Where the bytes read so far end. -/
  limit : Nat
  size : Nat
  ended : Bool
  exhausted : Bool
  totalRead : Nat

namespace SlidingWindow

def overwrite (buf : Array UInt8) (i : Nat) : List UInt8 → Array UInt8
  | [] => buf
  | b :: bs => overwrite (buf.setIfInBounds i b) (i + 1) bs

@[simp] theorem size_overwrite (buf : Array UInt8) (i : Nat) (bs : List UInt8) :
    (overwrite buf i bs).size = buf.size := by
  induction bs generalizing buf i with
  | nil => rfl
  | cons b bs ih => simp [overwrite, ih]

def view (w : SlidingWindow) : View := ⟨w.buf, w.base, w.size⟩

/-- How many bytes lie from the start of the window to the end of the feed. -/
def ahead (w : SlidingWindow) : Nat := w.limit - w.base + w.feed.left

/-- Reads until the buffer is full or the feed ends. -/
def fill (w : SlidingWindow) : Except IoError Unit × SlidingWindow :=
  if _h : w.ended = false ∧ w.limit < w.buf.size then
    match w.feed.read (w.buf.size - w.limit) with
    | (.error e, feed) => (.error e, { w with feed })
    | (.ok [], feed) => (.ok (), { w with feed, ended := true })
    | (.ok (b :: bs), feed) =>
      let n := bs.length + 1
      fill { w with feed, buf := overwrite w.buf w.limit (b :: bs), limit := w.limit + n,
                    totalRead := w.totalRead + n }
  else (.ok (), w)
termination_by w.buf.size - w.limit
decreasing_by simp; omega

/-- Moves the bytes from the start of the window on to the front of the buffer. -/
def compact (w : SlidingWindow) : SlidingWindow :=
  let live := (w.buf.extract w.base w.limit).toList
  { w with buf := overwrite w.buf 0 live, base := 0, limit := w.limit - w.base }

def maxSize : Nat := UInt64.size - 1

/-- A window of `size` bytes in a buffer of at least twice as many. -/
def openOn (feed : Feed) (size bufferSize : Nat) : Except IoError Unit × SlidingWindow :=
  let w : SlidingWindow := ⟨feed, #[], 0, 0, size, false, false, 0⟩
  if size = 0 then (.error .emptyWindow, w)
  else if bufferSize < min (2 * size) maxSize then (.error (.smallBuffer bufferSize size), w)
  else
    match { w with buf := Array.replicate bufferSize 0 }.fill with
    | (.error e, w) => (.error e, w)
    | (.ok (), w) => (if w.limit < size then .error (.shortSource w.limit size) else .ok (), w)

/-- Slides the window by `n` bytes. It says no, now and ever after, once the feed cannot fill the
window at its new place. -/
def advance (w : SlidingWindow) (n : Nat) : Except IoError Bool × SlidingWindow :=
  if n = 0 ∨ w.size < n then (.error (.badAdvance n w.size), w)
  else if w.exhausted then (.ok false, w)
  else
    let w := { w with base := w.base + n }
    if w.base + w.size ≤ w.limit then (.ok true, w)
    else
      match w.compact.fill with
      | (.error e, w) => (.error e, w)
      | (.ok (), w) =>
        if w.limit - w.base < w.size then (.ok false, { w with exhausted := true })
        else (.ok true, w)

theorem fill_ok {w v : SlidingWindow} (h : w.fill = (.ok (), v)) (hb : w.base ≤ w.limit) :
    v.ahead = w.ahead ∧ v.base = w.base ∧ v.size = w.size := by
  fun_induction fill w with
  | case1 w hw e feed hr => simp at h
  | case2 w hw feed hr =>
    obtain rfl := (Prod.mk.inj h).2
    have := (Feed.left_of_read hr).1
    simp_all [ahead]
  | case3 w hw feed b bs hr n ih =>
    obtain ⟨h1, h2, h3⟩ := ih h (by simp only; omega)
    have := (Feed.left_of_read hr).1
    simp only [List.length_cons] at this
    simp only at h2 h3
    refine ⟨?_, h2, h3⟩
    rw [h1]
    simp only [ahead]
    omega
  | case4 w hw => obtain rfl := (Prod.mk.inj h).2; simp

theorem ahead_compact (w : SlidingWindow) : w.compact.ahead = w.ahead := by simp [compact, ahead]

theorem advance_true {w v : SlidingWindow} {n : Nat} (h : w.advance n = (.ok true, v)) :
    v.base < v.limit ∧ (w.base < w.limit → v.ahead < w.ahead) := by
  unfold advance at h
  split at h
  · simp at h
  rename_i hn
  split at h
  · simp at h
  dsimp only at h
  split at h
  · rename_i hl
    obtain rfl := (Prod.mk.inj h).2
    simp only [ahead] at hl ⊢
    omega
  split at h
  · simp at h
  rename_i u hu
  split at h
  · simp at h
  rename_i hs
  obtain rfl := (Prod.mk.inj h).2
  obtain ⟨h1, h2, h3⟩ := fill_ok hu (by simp [compact])
  rw [ahead_compact] at h1
  simp only [compact, ahead] at h1 h2 h3 ⊢
  omega

theorem openOn_ok {feed : Feed} {size bufferSize : Nat} {w : SlidingWindow}
    (h : openOn feed size bufferSize = (.ok (), w)) : w.base < w.limit := by
  unfold openOn at h
  dsimp only at h
  split at h
  · simp at h
  split at h
  · simp at h
  split at h
  · simp at h
  rename_i u hu
  split at h
  · simp at h
  obtain rfl := (Prod.mk.inj h).2
  have := (fill_ok hu (by simp)).2.1
  simp only at this
  omega

end SlidingWindow

end SeedSync
