import Mathlib
import SeedSync.Proofs.Stream.Source
import SeedSync.Stream.Buffered

/-!
A buffered read gives some of the bytes to come while there are any, and cuts them off their front.
-/

namespace SeedSync.Buffered

lemma exists_pull {b : Buffered} {n : ℕ} (hn : 0 < n) (h : b.source.rest ≠ []) :
    ∃ bs c, b.pull n = (.ok bs, c) ∧ bs ≠ [] ∧ bs.length ≤ n ∧ b.source.rest = bs ++ c.source.rest ∧
      c.pending = b.pending ∧ c.source.ending = b.source.ending ∧ c.capacity = b.capacity := by
  obtain ⟨bs, t, ht, hne, hlen, hrest, hend⟩ := Source.exists_readOn_of_ne_nil hn h
  exact ⟨bs, { b with source := t, fills := note b.fills bs }, by rw [pull, ht], hne, hlen, hrest,
    rfl, hend, rfl⟩

lemma exists_pull_of_nil {b : Buffered} (n : ℕ) (h : b.source.rest = []) :
    ∃ c, b.pull n = (b.source.ending.elim (.ok []) .error, c) ∧ c.source.rest = [] ∧
      c.pending = b.pending ∧ c.source.ending = b.source.ending := by
  obtain ⟨t, ht, htr, hte⟩ := Source.exists_readOn_of_nil n h
  cases hend : b.source.ending with
  | none =>
    rw [hend] at ht hte
    exact ⟨{ b with source := t }, by rw [pull, ht]; rfl, htr, rfl, hte⟩
  | some e =>
    rw [hend] at ht hte
    exact ⟨{ b with source := t }, by rw [pull, ht]; rfl, htr, rfl, hte⟩

lemma exists_readOn_of_ne_nil {b : Buffered} {n : ℕ} (hn : 0 < n) (h : b.rest ≠ []) :
    ∃ bs c, b.readOn n = (.ok bs, c) ∧ bs ≠ [] ∧ bs.length ≤ n ∧ b.rest = bs ++ c.rest ∧
      c.source.ending = b.source.ending ∧ c.capacity = b.capacity := by
  unfold readOn
  by_cases hp : b.pending = []
  · have hs : b.source.rest ≠ [] := by simpa [rest, hp] using h
    by_cases hcap : b.capacity ≤ n
    · obtain ⟨bs, c, hc, hne, hlen, hrest, hpc, hkept⟩ := exists_pull hn hs
      exact ⟨bs, c, by simp [hp, hcap, hc], hne, hlen, by simp [rest, hp, hpc, hrest], hkept⟩
    · obtain ⟨bs, c, hc, hne, hlen, hrest, hpc, hkept⟩ :=
        exists_pull (n := b.capacity) (by omega) hs
      refine ⟨bs.take n, { c with pending := bs.drop n }, by simp [hp, hcap, fill, hc], ?_, ?_, ?_,
        hkept⟩
      · simp only [ne_eq, List.take_eq_nil_iff]
        exact not_or.mpr ⟨by omega, hne⟩
      · simp only [List.length_take]
        omega
      · rw [rest, hp, hrest, rest, List.nil_append, ← List.append_assoc, List.take_append_drop]
  · refine ⟨b.pending.take n, { b with pending := b.pending.drop n }, by simp [hp, fill], ?_, ?_,
      ?_, rfl, rfl⟩
    · simp only [ne_eq, List.take_eq_nil_iff]
      exact not_or.mpr ⟨by omega, hp⟩
    · simp only [List.length_take]
      omega
    · rw [rest, rest, ← List.append_assoc, List.take_append_drop]

lemma exists_readOn_of_nil {b : Buffered} (n : ℕ) (h : b.rest = []) :
    ∃ r c, b.readOn n = (r, c) ∧ c.rest = [] ∧ r = b.source.ending.elim (.ok []) .error ∧
      c.source.ending = b.source.ending := by
  obtain ⟨hp, hs⟩ := List.append_eq_nil_iff.mp h
  unfold readOn
  by_cases hcap : b.capacity ≤ n
  · obtain ⟨c, hc, hrest, hpc, hend⟩ := exists_pull_of_nil n hs
    exact ⟨_, c, by simp [hp, hcap, hc], by rw [rest, hpc, hp, hrest]; rfl, rfl, hend⟩
  · obtain ⟨c, hc, hrest, hpc, hend⟩ := exists_pull_of_nil b.capacity hs
    cases he : b.source.ending with
    | none =>
      rw [he] at hc hend
      exact ⟨.ok [], { c with pending := [] }, by simp [hp, hcap, fill, hc], hrest, rfl, hend⟩
    | some e =>
      rw [he] at hc hend
      exact ⟨.error e, c, by simp [hp, hcap, fill, hc], by rw [rest, hpc, hp, hrest]; rfl, rfl,
        hend⟩

/-! ### How far a reader has come -/

/-- The second reader is the first one with bytes at its front gone, and turns of its source. -/
structure Precedes (b c : Buffered) : Prop where
  rest : ∃ gone, b.rest = gone ++ c.rest
  ending : c.source.ending = b.source.ending
  turns : c.source.turns <:+ b.source.turns
  capacity : c.capacity = b.capacity

namespace Precedes

variable {b c d : Buffered}

lemma refl (b : Buffered) : b.Precedes b := ⟨⟨[], rfl⟩, rfl, List.suffix_rfl, rfl⟩

lemma trans (h : b.Precedes c) (h' : c.Precedes d) : b.Precedes d := by
  obtain ⟨gone, hb⟩ := h.rest
  obtain ⟨more, hc⟩ := h'.rest
  exact ⟨⟨gone ++ more, by rw [hb, hc, List.append_assoc]⟩, h'.ending.trans h.ending,
    h'.turns.trans h.turns, h'.capacity.trans h.capacity⟩

lemma length_le (h : b.Precedes c) : c.rest.length ≤ b.rest.length := by
  obtain ⟨gone, hb⟩ := h.rest
  rw [hb, List.length_append]
  omega

lemma interruptions_le (h : b.Precedes c) : c.source.interruptions ≤ b.source.interruptions :=
  h.turns.sublist.count_le _

lemma drop_pending (b : Buffered) (n : ℕ) :
    b.Precedes { b with pending := b.pending.drop n } where
  rest := ⟨b.pending.take n, by rw [Buffered.rest, Buffered.rest, ← List.append_assoc,
    List.take_append_drop]⟩
  ending := rfl
  turns := List.suffix_rfl
  capacity := rfl

end Precedes

variable {b c : Buffered}

lemma precedes_pull {n : ℕ} {answer : Except IoError (List UInt8)} (hb : b.pending = [])
    (h : b.pull n = (answer, c)) : b.Precedes c := by
  obtain ⟨⟨gone, hrest⟩, hending, hturns⟩ := b.source.exists_rest_readOn n
  rw [pull] at h
  generalize b.source.readOn n = result at hrest hending hturns h
  obtain ⟨_ | bs, source⟩ := result
  · obtain rfl := (Prod.mk.inj h).2
    exact ⟨⟨gone, by rw [rest, rest, hb, hrest]; rfl⟩, hending, hturns, rfl⟩
  · obtain rfl := (Prod.mk.inj h).2
    exact ⟨⟨gone, by rw [rest, rest, hb, hrest]; rfl⟩, hending, hturns, rfl⟩

lemma precedes_fill {answer : Except IoError Unit} (h : b.fill = (answer, c)) : b.Precedes c := by
  have hfill := h
  rw [fill] at h
  split at h
  · next hb =>
    rw [List.isEmpty_iff] at hb
    split at h
    · next e d hpull =>
      obtain rfl := (Prod.mk.inj h).2
      exact precedes_pull hb hpull
    · next bs d hpull =>
      obtain ⟨rfl, rfl⟩ := Prod.mk.inj h
      exact ⟨⟨[], (fill_ok hfill).symm⟩, (precedes_pull hb hpull).ending,
        (precedes_pull hb hpull).turns, (precedes_pull hb hpull).capacity⟩
  · obtain rfl := (Prod.mk.inj h).2
    exact .refl b

lemma precedes_readOn {n : ℕ} {answer : Except IoError (List UInt8)}
    (h : b.readOn n = (answer, c)) :
    b.Precedes c := by
  rw [readOn] at h
  split at h
  · next hb =>
    rw [Bool.and_eq_true, List.isEmpty_iff] at hb
    exact precedes_pull hb.1 h
  · split at h
    · next e d hfill =>
      obtain rfl := (Prod.mk.inj h).2
      exact precedes_fill hfill
    · next d hfill =>
      obtain rfl := (Prod.mk.inj h).2
      exact (precedes_fill hfill).trans (.drop_pending d n)

lemma precedes_readUntil (stop : UInt8) (limit : ℕ) (line : Array UInt8) (b : Buffered) :
    b.Precedes (b.readUntil stop limit line).2 := by
  fun_induction readUntil stop limit line b with
  | case1 line b => exact .refl b
  | case2 limit line b h0 e d hfill => exact precedes_fill hfill
  | case3 limit line b h0 d hfill seen hs => exact precedes_fill hfill
  | case4 limit line b h0 d hfill seen hs hc found =>
    exact (precedes_fill hfill).trans (.drop_pending d _)
  | case5 limit line b h0 d hfill seen hs hc ih =>
    exact ((precedes_fill hfill).trans (.drop_pending d _)).trans ih

lemma precedes_gather (n : ℕ) (got : Array UInt8) (reads : Array ℕ) (b : Buffered) :
    b.Precedes (b.gather n got reads).2 := by
  fun_induction gather n got reads b with
  | case1 got reads b => exact .refl b
  | case2 n got reads b hn e c hread => exact precedes_readOn hread
  | case3 n got reads b hn c hread => exact precedes_readOn hread
  | case4 n got reads b hn bs c hread hbs ih => exact (precedes_readOn hread).trans ih

/-! ### Interruptions -/

/-- Nothing is lost by an interruption but a turn. -/
lemma precedes_interrupted (b : Buffered) : b.Precedes b.interrupted :=
  ⟨⟨[], rfl⟩, rfl, List.tail_suffix _, rfl⟩

/-- A read gives what one gives that waits, or it is interrupted, and **to read on is to read
again**. -/
lemma read_cases (b : Buffered) (n : ℕ) : b.read n = b.readOn n ∨
    b.isInterrupted = true ∧ b.read n = (.error .interrupted, b.interrupted) ∧
      b.interrupted.readOn n = b.readOn n := by
  cases hinterrupted : b.isInterrupted with
  | false => exact .inl (if_neg (by simp [hinterrupted]))
  | true =>
    refine .inr ⟨rfl, if_pos hinterrupted, ?_⟩
    rw [isInterrupted, Bool.and_eq_true, List.isEmpty_iff] at hinterrupted
    have hpull (k : ℕ) : b.interrupted.pull k = b.pull k := by
      rw [pull, pull, interrupted, Source.readOn_of_isInterrupted hinterrupted.2]
    rw [readOn, readOn, fill, fill, hpull, hpull]
    simp [hinterrupted.1, interrupted]

lemma interruptions_interrupted (h : b.isInterrupted = true) :
    b.interrupted.source.interruptions + 1 = b.source.interruptions := by
  rw [isInterrupted, Bool.and_eq_true] at h
  obtain ⟨ts, hts⟩ := Source.exists_turns_of_isInterrupted h.2
  rw [interrupted, Source.interruptions, Source.interruptions, hts]
  exact (List.count_cons_self ..).symm

/-! ### Lines -/

/-- A buffer with room and these bytes to come. -/
structure Ready (b : Buffered) (bytes : List UInt8) : Prop where
  room : 0 < b.capacity
  rest : b.rest = bytes

lemma exists_fill (hroom : 0 < b.capacity) (h : b.rest ≠ []) :
    ∃ c, b.fill = (.ok (), c) ∧ c.pending ≠ [] ∧ c.rest = b.rest ∧ c.capacity = b.capacity := by
  by_cases hp : b.pending = []
  · have hs : b.source.rest ≠ [] := by simpa [rest, hp] using h
    obtain ⟨bs, c, hc, hne, -, hrest, -, -, hcap⟩ := exists_pull hroom hs
    exact ⟨{ c with pending := bs }, by simp [fill, hp, hc], hne,
      by rw [rest, rest, hp, hrest]; rfl, hcap⟩
  · exact ⟨b, by simp [fill, hp], hp, rfl, rfl⟩

lemma exists_readUntil {stop : UInt8} {line tail : List UInt8} {limit : ℕ}
    (h : b.Ready (line ++ stop :: tail)) (hstop : stop ∉ line) (hlimit : line.length < limit)
    (seen : Array UInt8) : ∃ c, b.readUntil stop limit seen =
      (.ok (seen.toList ++ line ++ [stop]), c) ∧ c.Ready tail := by
  induction limit using Nat.strong_induction_on generalizing b line seen with
  | _ limit ih =>
    obtain ⟨hroom, hrest⟩ := h
    obtain ⟨c, hc, hpending, hcrest, hcap⟩ := exists_fill hroom (by rw [hrest]; simp)
    rw [hrest, rest] at hcrest
    rw [← hcap] at hroom
    unfold readUntil
    rw [if_neg (by omega), hc]
    dsimp only
    rw [dif_neg (by simp [hpending]; omega)]
    have hpos := List.length_pos_of_ne_nil hpending
    -- either the line ends in what is loaded, or all of that belongs to it
    rcases Nat.lt_or_ge line.length c.pending.length with hfit | hfit
    · obtain ⟨more, hmore⟩ : line <+: c.pending :=
        List.prefix_of_prefix_length_le ⟨_, rfl⟩ ⟨_, hcrest⟩ hfit.le
      rw [← hmore, List.append_assoc, List.append_cancel_left_eq] at hcrest
      obtain ⟨x, more, rfl⟩ : ∃ x more', more = x :: more' :=
        List.exists_cons_of_ne_nil (by rintro rfl; simp [← hmore] at hfit)
      obtain ⟨rfl, htail⟩ := List.cons_eq_cons.mp hcrest
      have htake : c.pending.take limit = line ++ x :: more.take (limit - line.length - 1) := by
        rw [← hmore, List.take_append, List.take_of_length_le hlimit.le,
          show limit - line.length = limit - line.length - 1 + 1 by omega, List.take_succ_cons]
        rfl
      have hfound : (c.pending.take limit).takeWhile (· != x) = line := by
        rw [htake, List.takeWhile_append_of_pos fun y hy => by
          simpa using ne_of_mem_of_not_mem hy hstop]
        simp
      rw [if_pos (by simp [htake]), hfound]
      refine ⟨{ c with pending := c.pending.drop (line.length + 1) }, by simp, hroom, ?_⟩
      rw [rest, ← hmore, ← htail]
      simp
    · obtain ⟨more, hmore⟩ : c.pending <+: line :=
        List.prefix_of_prefix_length_le ⟨_, hcrest⟩ ⟨_, rfl⟩ hfit
      rw [← hmore, List.append_assoc, List.append_cancel_left_eq] at hcrest
      rw [← hmore, List.mem_append, not_or] at hstop
      rw [List.take_of_length_le (by omega), if_neg (by simpa using hstop.1)]
      rw [← hmore, List.length_append] at hlimit
      obtain ⟨d, hd, hready⟩ := ih (limit - c.pending.length) (by omega)
        (b := { c with pending := c.pending.drop c.pending.length })
        ⟨hroom, by simp [rest, hcrest]⟩ hstop.2 (by omega) (seen ++ c.pending)
      exact ⟨d, by rw [hd, ← hmore]; simp, hready⟩

end SeedSync.Buffered
