import Mathlib
import SeedSync.Event.Stats

/-!
What the statistics make of the events. Most events only count bytes; what is written between the
start and the end of a seed is counted for the seed, and what is downloaded between a request and
its end is counted for the target.
-/

namespace SeedSync

namespace Event

def read : Event → ℕ
  | .bytesRead n => n
  | _ => 0

def written : Event → ℕ
  | .bytesWritten n => n
  | _ => 0

def downloaded : Event → ℕ
  | .bytesDownloaded n => n
  | _ => 0

/-- Neither a seed nor a download begins or ends with it. -/
def isPlain : Event → Bool
  | .controlDownloadInitiated _ | .controlDownloadComplete => false
  | .remoteInitiated .. | .remoteComplete => false
  | .inputStarted .. | .inputComplete _ => false
  | _ => true

/-- It is neither about a seed nor about the target. -/
def isApart : Event → Bool
  | .remoteInitiated .. | .remoteComplete => false
  | .inputStarted .. | .inputComplete _ => false
  | .bytesWritten _ => false
  | _ => true

lemma isPlain_of_isCounter {e : Event} (h : e.isCounter = true) : e.isPlain = true := by
  cases e with
  | bytesRead | bytesDownloaded | bytesWritten => rfl
  | _ => cases h

lemma written_of_isApart {e : Event} (h : e.isApart = true) : e.written = 0 := by
  cases e with
  | bytesWritten => cases h
  | _ => rfl

end Event

namespace PathTally

@[simp] lemma total_nil : total [] = 0 := rfl

@[simp] lemma total_cons (p : String) (m : ℕ) (t : PathTally) :
    total ((p, m) :: t) = m + total t := rfl

/-- A tally counts all bytes, whether or not it has met their path before. -/
lemma total_add (path : String) (n : ℕ) (t : PathTally) : (t.add path n).total = t.total + n := by
  induction t with
  | nil => simp [add]
  | cons x t ih =>
    obtain ⟨p, m⟩ := x
    rw [add]
    split
    · simp only [total_cons]
      omega
    · simp only [total_cons]
      omega
    · simp only [total_cons, ih]
      omega

end PathTally

namespace Stats.Gathering

variable {g : Gathering} {es : List Event}

lemma run_append (es es' : List Event) : run (es ++ es') = es'.foldl step (run es) :=
  List.foldl_append

lemma counts_step (g : Gathering) (e : Event) :
    (g.step e).stats.bytesRead = g.stats.bytesRead + e.read ∧
      (g.step e).stats.bytesWritten = g.stats.bytesWritten + e.written := by
  cases e with
  | inputComplete path =>
    rw [step]
    cases g.input <;> exact ⟨rfl, rfl⟩
  | _ => exact ⟨rfl, rfl⟩

lemma counts_foldl (g : Gathering) (es : List Event) :
    (es.foldl step g).stats.bytesRead = g.stats.bytesRead + (es.map Event.read).sum ∧
      (es.foldl step g).stats.bytesWritten = g.stats.bytesWritten + (es.map Event.written).sum := by
  induction es generalizing g with
  | nil => exact ⟨rfl, rfl⟩
  | cons e es ih =>
    obtain ⟨hread, hwritten⟩ := counts_step g e
    obtain ⟨ihread, ihwritten⟩ := ih (g.step e)
    rw [List.foldl_cons, ihread, ihwritten, hread, hwritten]
    simp only [List.map_cons, List.sum_cons, Nat.add_assoc, and_self]

lemma counts_run (es : List Event) :
    (run es).stats.bytesRead = (es.map Event.read).sum ∧
      (run es).stats.bytesWritten = (es.map Event.written).sum := by
  obtain ⟨hread, hwritten⟩ := counts_foldl .empty es
  exact ⟨hread.trans (Nat.zero_add _), hwritten.trans (Nat.zero_add _)⟩

lemma bytesWritten_run (es : List Event) :
    (run es).stats.bytesWritten = (es.map Event.written).sum :=
  (counts_run es).2

lemma foldl_step_plain (h : ∀ e ∈ es, e.isPlain = true) : es.foldl step g =
    { g with
      downloaded := g.downloaded + (es.map Event.downloaded).sum
      stats := { g.stats with
        bytesRead := g.stats.bytesRead + (es.map Event.read).sum
        bytesWritten := g.stats.bytesWritten + (es.map Event.written).sum } } := by
  induction es generalizing g with
  | nil => rfl
  | cons e es ih =>
    obtain ⟨he, hes⟩ := List.forall_mem_cons.mp h
    have hstep : g.step e =
        { g with
          downloaded := g.downloaded + e.downloaded
          stats := { g.stats with
            bytesRead := g.stats.bytesRead + e.read
            bytesWritten := g.stats.bytesWritten + e.written } } := by
      cases e with
      | controlDownloadInitiated | controlDownloadComplete | remoteInitiated | remoteComplete
      | inputStarted | inputComplete => cases he
      | _ => rfl
    rw [List.foldl_cons, ih hes, hstep]
    simp only [List.map_cons, List.sum_cons, Nat.add_assoc]

/-! ### Seeds -/

/-- No seed is under way, all that has been written has come from seeds, and nothing has been
downloaded for the target. -/
structure Level (g : Gathering) : Prop where
  input : g.input = none
  seeds : g.stats.writtenByInput.total = g.stats.bytesWritten
  remote : g.stats.remoteDownloaded = 0

namespace Level

lemma empty : Level .empty := ⟨rfl, rfl, rfl⟩

lemma apart (h : Level g) (hes : ∀ e ∈ es, e.isApart = true) : Level (es.foldl step g) := by
  induction es generalizing g with
  | nil => exact h
  | cons e es ih =>
    obtain ⟨he, hes⟩ := List.forall_mem_cons.mp hes
    refine ih ?_ hes
    cases e with
    | remoteInitiated | remoteComplete | inputStarted | inputComplete | bytesWritten => cases he
    | _ => exact ⟨h.input, h.seeds, h.remote⟩

/-- A seed is counted with what is written while it is scanned. -/
lemma seed (h : Level g) (hes : ∀ e ∈ es, e.isPlain = true) (path path' : String)
    (length : Option ℕ) :
    Level ((Event.inputStarted path length :: es ++ [Event.inputComplete path']).foldl step g) := by
  simp only [List.foldl_append, List.foldl_cons, List.foldl_nil]
  rw [foldl_step_plain hes]
  refine ⟨rfl, ?_, h.remote⟩
  calc (g.stats.writtenByInput.add path
        (g.stats.bytesWritten + (es.map Event.written).sum - g.stats.bytesWritten)).total
      = g.stats.writtenByInput.total +
          (g.stats.bytesWritten + (es.map Event.written).sum - g.stats.bytesWritten) :=
        PathTally.total_add ..
    _ = g.stats.bytesWritten + (es.map Event.written).sum := by
        rw [h.seeds]
        omega

end Level

/-! ### Requests -/

lemma foldl_request (g : Gathering) (hes : ∀ e ∈ es, e.isPlain = true) (url : String)
    (ranges : List ByteRange) :
    let g' := (Event.remoteInitiated url ranges :: es ++ [Event.remoteComplete]).foldl step g
    g'.stats.remoteDownloaded = g.stats.remoteDownloaded + (es.map Event.downloaded).sum ∧
      g'.stats.writtenByInput = g.stats.writtenByInput := by
  simp only [List.foldl_append, List.foldl_cons, List.foldl_nil]
  rw [foldl_step_plain hes]
  refine ⟨?_, rfl⟩
  change g.stats.remoteDownloaded + (0 + (es.map Event.downloaded).sum) = _
  rw [Nat.zero_add]

end Stats.Gathering

end SeedSync
