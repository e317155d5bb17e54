import Mathlib
import SeedSync.Proofs.Event.Stats
import SeedSync.Proofs.Event.Tally

/-!
What the statistics tell of any events, in whichever order they come: some downloads and seeds may
begin and never end, or end without a beginning, or begin anew before they end.
-/

namespace SeedSync

namespace Event

def isDownload : Event → Bool
  | .controlDownloadInitiated _ | .controlDownloadComplete => true
  | .remoteInitiated .. | .remoteComplete => true
  | _ => false

def isRequest : Event → Bool
  | .remoteInitiated .. | .remoteComplete => true
  | _ => false

def isSeed : Event → Bool
  | .inputStarted .. | .inputComplete _ => true
  | _ => false

/-- The events behind the latest one of a kind, and all of them if there is none. -/
def since (kind : Event → Bool) (es : List Event) : List Event :=
  (es.reverse.takeWhile fun e => !kind e).reverse

/-- For each time that an event happens, the events before it. -/
def before (e : Event) (es : List Event) : List (List Event) :=
  ((List.range es.length).filter fun i => es[i]? = some e).map es.take

/-- What has come in since a download has last begun or ended. -/
def arrived (es : List Event) : ℕ := ((since isDownload es).map Event.downloaded).sum

/-- The ranges of the latest request, unless one has ended since. -/
def requested (es : List Event) : List ByteRange :=
  match es.reverse.find? isRequest with
  | some (.remoteInitiated _ ranges) => ranges
  | _ => []

/-- The events up to the next one about a seed, if that is an end. -/
def untilEnd : List Event → Option (List Event)
  | [] => none
  | .inputComplete _ :: _ => some []
  | .inputStarted .. :: _ => none
  | e :: es => (untilEnd es).map (e :: ·)

/-- The seeds that are scanned to an end: for each start whose next event about a seed is an end,
the path and the events between the two. -/
def scanned : List Event → List (String × List Event)
  | [] => []
  | .inputStarted path _ :: es => ((untilEnd es).map (path, ·)).toList ++ scanned es
  | _ :: es => scanned es

variable {e : Event} {es : List Event}

lemma since_concat (kind : Event → Bool) (es : List Event) (e : Event) :
    since kind (es ++ [e]) = if kind e then [] else since kind es ++ [e] := by
  rw [since, List.reverse_append, List.reverse_singleton, List.singleton_append,
    List.takeWhile_cons]
  cases kind e <;> simp [since]

lemma before_concat (e : Event) (es : List Event) (e' : Event) :
    before e (es ++ [e']) = before e es ++ if e' = e then [es] else [] := by
  have hplaces : ((List.range es.length).filter fun i => (es ++ [e'])[i]? = some e) =
      (List.range es.length).filter fun i => es[i]? = some e :=
    List.filter_congr fun i hi => by
      rw [List.getElem?_append_left (List.mem_range.mp hi)]
  rw [before, List.length_append, List.length_singleton, List.range_succ, List.filter_append,
    List.map_append, hplaces]
  congr 1
  · refine List.map_congr_left fun i hi => ?_
    have := List.mem_range.mp (List.mem_filter.mp hi).1
    exact List.take_append_of_le_length this.le
  · by_cases h : e' = e <;> simp [h]

lemma arrived_concat (es : List Event) (e : Event) :
    arrived (es ++ [e]) = if e.isDownload then 0 else arrived es + e.downloaded := by
  rw [arrived, since_concat]
  split <;> simp [arrived]

lemma requested_concat (es : List Event) (e : Event) : requested (es ++ [e]) =
    match e with
    | .remoteInitiated _ ranges => ranges
    | .remoteComplete => []
    | _ => requested es := by
  rw [requested, List.reverse_append, List.reverse_singleton, List.singleton_append,
    List.find?_cons]
  cases e <;> rfl

end Event

namespace Stats.Gathering

open Event

variable {g : Gathering} {e : Event} {es : List Event}

/-! ### Downloads -/

lemma step_of_not_isDownload (g : Gathering) (h : e.isDownload = false) :
    (g.step e).downloaded = g.downloaded + e.downloaded ∧ (g.step e).ranges = g.ranges ∧
      (g.step e).stats.bytesDownloaded = g.stats.bytesDownloaded ∧
      (g.step e).stats.controlDownloaded = g.stats.controlDownloaded ∧
      (g.step e).stats.remoteDownloaded = g.stats.remoteDownloaded ∧
      (g.step e).stats.requests = g.stats.requests := by
  cases e with
  | controlDownloadInitiated | controlDownloadComplete | remoteInitiated | remoteComplete => cases h
  | inputComplete path =>
    rw [step]
    cases g.input <;> exact ⟨rfl, rfl, rfl, rfl, rfl, rfl⟩
  | _ => exact ⟨rfl, rfl, rfl, rfl, rfl, rfl⟩

/-- Downloads are counted as these events tell of them, and no byte of them twice. -/
structure CountsDownloads (g : Gathering) (es : List Event) : Prop where
  downloaded : g.downloaded = arrived es
  ranges : g.ranges = requested es
  control : g.stats.controlDownloaded = ((before .controlDownloadComplete es).map arrived).sum
  remote : g.stats.remoteDownloaded = ((before .remoteComplete es).map arrived).sum
  requests : g.stats.requests = (before .remoteComplete es).map requested
  total : g.stats.bytesDownloaded = g.stats.controlDownloaded + g.stats.remoteDownloaded
  once : g.stats.bytesDownloaded + g.downloaded ≤ (es.map Event.downloaded).sum

namespace CountsDownloads

lemma empty : CountsDownloads .empty [] := ⟨rfl, rfl, rfl, rfl, rfl, rfl, le_rfl⟩

lemma step (h : g.CountsDownloads es) (e : Event) : (g.step e).CountsDownloads (es ++ [e]) := by
  obtain ⟨hdownloaded, hranges, hcontrol, hremote, hrequests, htotal, honce⟩ := h
  cases hkind : e.isDownload with
  | false =>
    obtain ⟨hd, hr, hb, hc, hm, hq⟩ := step_of_not_isDownload g hkind
    have hrequested : requested (es ++ [e]) = requested es := by
      rw [requested_concat]
      cases e <;> first | rfl | cases hkind
    have hnone (e' : Event) (he' : e'.isDownload = true) :
        before e' (es ++ [e]) = before e' es := by
      rw [before_concat, if_neg, List.append_nil]
      rintro rfl
      rw [he'] at hkind
      cases hkind
    exact {
      downloaded := by
        rw [hd, arrived_concat, hkind, hdownloaded]
        rfl
      ranges := by rw [hr, hrequested, hranges]
      control := by rw [hc, hnone _ rfl, hcontrol]
      remote := by rw [hm, hnone _ rfl, hremote]
      requests := by rw [hq, hnone _ rfl, hrequests]
      total := by rw [hb, hc, hm, htotal]
      once := by
        rw [hb, hd, List.map_append, List.sum_append, List.map_singleton, List.sum_singleton]
        omega }
  | true =>
    cases e with
    | controlDownloadInitiated | remoteInitiated =>
      refine ⟨?_, ?_, ?_, ?_, ?_, htotal, ?_⟩ <;>
        simp [Gathering.step, arrived_concat, requested_concat, before_concat, isDownload,
          Event.downloaded, *]
      omega
    | controlDownloadComplete | remoteComplete =>
      -- what has arrived goes to the total and to one of its two parts
      refine ⟨?_, ?_, ?_, ?_, ?_, ?_, ?_⟩ <;>
        simp [Gathering.step, finishDownload, arrived_concat, requested_concat, before_concat,
          isDownload, Event.downloaded, *]
      all_goals omega
    | _ => cases hkind

end CountsDownloads

/-! ### Seeds -/

lemma step_of_not_isSeed (g : Gathering) (h : e.isSeed = false) :
    (g.step e).input = g.input ∧ (g.step e).stats.readByInput = g.stats.readByInput ∧
      (g.step e).stats.writtenByInput = g.stats.writtenByInput := by
  cases e with
  | inputStarted | inputComplete => cases h
  | _ => exact ⟨rfl, rfl, rfl⟩

lemma step_inputComplete_of_none {path : String} (h : g.input = none) :
    g.step (.inputComplete path) = g := by
  rw [step, h]

lemma step_inputComplete_of_some {path : String} {i : Input} (h : g.input = some i) :
    g.step (.inputComplete path) = g.finishInput i := by
  rw [step, h]

/-- The amounts of a seed are added to what has been read and written so far. -/
def addAmounts (tallies : PathTally × PathTally) (a : String × ℕ × ℕ) : PathTally × PathTally :=
  (tallies.1.add a.1 a.2.1, tallies.2.add a.1 a.2.2)

/-- The amounts of a seed under these events. -/
def amounts (seed : String × List Event) : String × ℕ × ℕ :=
  (seed.1, (seed.2.map Event.read).sum, (seed.2.map Event.written).sum)

/-- The amounts of the seed under way, if these events bring it to an end. -/
def due (g : Gathering) (es : List Event) : List (String × ℕ × ℕ) :=
  match g.input, untilEnd es with
  | some i, some between =>
    [(i.path, g.stats.bytesRead + (between.map Event.read).sum - i.readBefore,
      g.stats.bytesWritten + (between.map Event.written).sum - i.writtenBefore)]
  | _, _ => []

lemma due_of_none (h : g.input = none) (es : List Event) : g.due es = [] := by
  rw [due, h]

lemma tallies_foldl (g : Gathering) (es : List Event) :
    ((es.foldl step g).stats.readByInput, (es.foldl step g).stats.writtenByInput) =
      (g.due es ++ (scanned es).map amounts).foldl addAmounts
        (g.stats.readByInput, g.stats.writtenByInput) := by
  induction es generalizing g with
  | nil =>
    cases hinput : g.input <;> simp [due, hinput, untilEnd, scanned]
  | cons e es ih =>
    rw [List.foldl_cons, ih]
    -- only what is about a seed can bring the seed under way to its end
    cases hseed : e.isSeed with
    | false =>
      obtain ⟨hinput, hread, hwritten⟩ := step_of_not_isSeed g hseed
      obtain ⟨hr, hw⟩ := counts_step g e
      have huntil : untilEnd (e :: es) = (untilEnd es).map (e :: ·) := by
        cases e <;> first | rfl | cases hseed
      have hscanned : scanned (e :: es) = scanned es := by
        cases e <;> first | rfl | cases hseed
      have hdue : (g.step e).due es = g.due (e :: es) := by
        rw [due, due, hinput, huntil]
        cases g.input <;> cases untilEnd es <;> simp [hr, hw, Nat.add_assoc]
      rw [hdue, hscanned, hread, hwritten]
    | true =>
      cases e with
      | inputStarted path length =>
        have hdue : g.due (.inputStarted path length :: es) = [] := by
          rw [due]
          cases g.input <;> rfl
        have hstep : (g.step (.inputStarted path length)).due es =
            ((untilEnd es).map (path, ·)).toList.map amounts := by
          rw [due]
          cases untilEnd es <;> simp [step, amounts]
        rw [hdue, hstep, scanned, List.map_append]
        rfl
      | inputComplete path =>
        cases hinput : g.input with
        | none =>
          rw [step_inputComplete_of_none hinput, due_of_none hinput, due_of_none hinput]
          rfl
        | some i =>
          rw [step_inputComplete_of_some hinput, due_of_none rfl, due, hinput]
          rfl
      | _ => cases hseed

lemma sums_foldl_addAmounts {tallies : PathTally × PathTally} {read written : List (String × ℕ)}
    (hread : tallies.1.Sums read) (hwritten : tallies.2.Sums written) (as : List (String × ℕ × ℕ)) :
    (as.foldl addAmounts tallies).1.Sums (read ++ as.map fun a => (a.1, a.2.1)) ∧
      (as.foldl addAmounts tallies).2.Sums (written ++ as.map fun a => (a.1, a.2.2)) := by
  induction as generalizing tallies read written with
  | nil => simpa using ⟨hread, hwritten⟩
  | cons a as ih =>
    rw [List.foldl_cons, List.map_cons, List.map_cons, List.append_cons read,
      List.append_cons written]
    exact ih (hread.add a.1 a.2.1) (hwritten.add a.1 a.2.2)

/-- What is tallied by seed had happened when the seed under way began, and the counts that were
taken then are not above those of now, so that they can be subtracted. -/
@[mk_iff]
structure Steady (g : Gathering) : Prop where
  readTotal : g.stats.readByInput.total ≤ g.stats.bytesRead
  writtenTotal : g.stats.writtenByInput.total ≤ g.stats.bytesWritten
  readBefore : ∀ i ∈ g.input,
    g.stats.readByInput.total ≤ i.readBefore ∧ i.readBefore ≤ g.stats.bytesRead
  writtenBefore : ∀ i ∈ g.input,
    g.stats.writtenByInput.total ≤ i.writtenBefore ∧ i.writtenBefore ≤ g.stats.bytesWritten

namespace Steady

lemma empty : Steady .empty :=
  ⟨le_rfl, le_rfl, by simp [Gathering.empty], by simp [Gathering.empty]⟩

lemma step (h : g.Steady) (e : Event) : (g.step e).Steady := by
  obtain ⟨hread, hwritten, hreadBefore, hwrittenBefore⟩ := h
  cases hseed : e.isSeed with
  | false =>
    obtain ⟨hr, hw⟩ := counts_step g e
    obtain ⟨hinput, htr, htw⟩ := step_of_not_isSeed g hseed
    rw [steady_iff, hinput, htr, htw]
    refine ⟨by omega, by omega, fun i hi => ?_, fun i hi => ?_⟩
    · have := hreadBefore i hi
      omega
    · have := hwrittenBefore i hi
      omega
  | true =>
    cases e with
    | inputStarted path length =>
      refine ⟨hread, hwritten, fun i hi => ?_, fun i hi => ?_⟩
      · obtain rfl := Option.some.inj hi
        exact ⟨hread, le_rfl⟩
      · obtain rfl := Option.some.inj hi
        exact ⟨hwritten, le_rfl⟩
    | inputComplete path =>
      cases hinput : g.input with
      | none =>
        rw [step_inputComplete_of_none hinput]
        exact ⟨hread, hwritten, hreadBefore, hwrittenBefore⟩
      | some i =>
        obtain ⟨hr, hr'⟩ := hreadBefore i hinput
        obtain ⟨hw, hw'⟩ := hwrittenBefore i hinput
        rw [step_inputComplete_of_some hinput]
        refine ⟨?_, ?_, by simp [finishInput], by simp [finishInput]⟩
        · simp only [finishInput, PathTally.total_add]
          omega
        · simp only [finishInput, PathTally.total_add]
          omega
    | _ => cases hseed

end Steady

/-- What holds at the start and is kept by each event holds after any of them. -/
lemma run_induction {P : Gathering → List Event → Prop} (hempty : P .empty [])
    (hstep : ∀ g es e, P g es → P (g.step e) (es ++ [e])) (es : List Event) : P (run es) es := by
  induction es using List.reverseRecOn with
  | nil => exact hempty
  | append_singleton es e ih =>
    rw [run_append]
    exact hstep _ es e ih

lemma sums_run (es : List Event) :
    (run es).stats.readByInput.Sums
        ((scanned es).map fun seed => (seed.1, (seed.2.map Event.read).sum)) ∧
      (run es).stats.writtenByInput.Sums
        ((scanned es).map fun seed => (seed.1, (seed.2.map Event.written).sum)) := by
  have htallies := tallies_foldl .empty es
  rw [due_of_none rfl, List.nil_append] at htallies
  have hsums := @sums_foldl_addAmounts ([], []) [] [] .nil .nil ((scanned es).map amounts)
  rw [List.map_map, List.map_map] at hsums
  have hread : (run es).stats.readByInput = _ := congrArg Prod.fst htallies
  have hwritten : (run es).stats.writtenByInput = _ := congrArg Prod.snd htallies
  rw [hread, hwritten]
  exact hsums

/-! ### Any events -/

/-- All that is counted is what these events tell of: in all, for each kind of download, for each
request, and for each seed by its path. -/
structure Tells (g : Gathering) (es : List Event) : Prop extends
    CountsDownloads g es, Steady g where
  bytesRead : g.stats.bytesRead = (es.map Event.read).sum
  bytesWritten : g.stats.bytesWritten = (es.map Event.written).sum
  readByInput : g.stats.readByInput.Sums
    ((scanned es).map fun seed => (seed.1, (seed.2.map Event.read).sum))
  writtenByInput : g.stats.writtenByInput.Sums
    ((scanned es).map fun seed => (seed.1, (seed.2.map Event.written).sum))

/-- **The statistics tell what has happened, whatever has happened.** A download that ends has
brought what arrived since any download has last begun or ended, a request that ends has the ranges
of the latest one that began, unless these have gone to an earlier end, and a seed is counted if the
next news of a seed after its start is an end. No count is above the sum of the bytes that the
events tell of, and no difference below zero. -/
theorem tells_of_any_events (es : List Event) : (run es).Tells es where
  toCountsDownloads := run_induction (P := CountsDownloads) .empty (fun _ _ e h => h.step e) es
  toSteady := run_induction (P := fun g _ => g.Steady) .empty (fun _ _ e h => h.step e) es
  bytesRead := (counts_run es).1
  bytesWritten := (counts_run es).2
  readByInput := (sums_run es).1
  writtenByInput := (sums_run es).2

/-- A start that a further one replaces comes to nothing, and so does a second end. -/
example : scanned [.inputStarted "a" none, .bytesRead 1, .inputStarted "b" none, .bytesRead 2,
    .inputComplete "a", .bytesRead 4, .inputComplete "b"] = [("b", [.bytesRead 2])] := rfl

end Stats.Gathering

end SeedSync
