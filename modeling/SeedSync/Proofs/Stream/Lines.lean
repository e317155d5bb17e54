import Mathlib
import SeedSync.Proofs.Stream.Buffered

/-!
Lines of any bytes: one ends with the first line feed, or where the bytes end.
-/

namespace SeedSync

/-- The first line of `line ++ rest`. -/
def IsLine (line rest : List UInt8) : Prop :=
  (∃ text, line = text ++ [10] ∧ 10 ∉ text) ∨ line ≠ [] ∧ 10 ∉ line ∧ rest = []

namespace IsLine

variable {line line' rest rest' : List UInt8}

lemma ne_nil (h : IsLine line rest) : line ≠ [] := by
  rcases h with ⟨text, rfl, -⟩ | ⟨hne, -, -⟩
  · simp
  · exact hne

lemma exists_of_ne_nil {bytes : List UInt8} (h : bytes ≠ []) :
    ∃ line rest, bytes = line ++ rest ∧ IsLine line rest := by
  by_cases hend : 10 ∈ bytes
  · obtain ⟨text, rest, rfl, htext⟩ := List.eq_append_cons_of_mem hend
    exact ⟨text ++ [10], rest, by simp, .inl ⟨text, rfl, htext⟩⟩
  · exact ⟨bytes, [], by simp, .inr ⟨h, hend, rfl⟩⟩

lemma unique (h : IsLine line rest) (h' : IsLine line' rest')
    (heq : line ++ rest = line' ++ rest') : line = line' ∧ rest = rest' := by
  have hcut {text : List UInt8} (htext : 10 ∉ text) (rest : List UInt8) :
      (text ++ [10] ++ rest).takeWhile (· != 10) = text := by
    rw [List.append_assoc, List.takeWhile_append_of_pos fun x hx => by
      simpa using ne_of_mem_of_not_mem hx htext]
    simp
  rcases h with ⟨text, rfl, htext⟩ | ⟨-, hend, rfl⟩
  · rcases h' with ⟨text', rfl, htext'⟩ | ⟨-, hend', rfl⟩
    · obtain rfl : text = text' := by rw [← hcut htext rest, heq, hcut htext' rest']
      exact ⟨rfl, List.append_cancel_left heq⟩
    · rw [List.append_nil] at heq
      exact absurd (heq ▸ by simp) hend'
  · rw [List.append_nil] at heq
    rcases h' with ⟨text', rfl, htext'⟩ | ⟨-, hend', rfl⟩
    · exact absurd (heq ▸ by simp) hend
    · exact ⟨by rw [heq, List.append_nil], rfl⟩

end IsLine

namespace Buffered

variable {b : Buffered}

/-- A buffer with room and just these bytes to come. -/
structure Holds (b : Buffered) (bytes : List UInt8) : Prop extends Ready b bytes where
  ending : b.source.ending = none

lemma Holds.exists_fill (h : b.Holds []) :
    ∃ c, b.fill = (.ok (), c) ∧ c.pending = [] ∧ c.rest = [] := by
  obtain ⟨hp, hs⟩ := List.append_eq_nil_iff.mp h.rest
  obtain ⟨c, hc, hrest, hpc, -⟩ := exists_pull_of_nil b.capacity hs
  rw [h.ending] at hc
  exact ⟨{ c with pending := [] }, by simp [fill, hp, hc], rfl, hrest⟩

lemma Holds.exists_readUntil {bytes : List UInt8} (h : b.Holds bytes) (hend : 10 ∉ bytes)
    {limit : ℕ} (hlimit : bytes.length < limit) (seen : Array UInt8) :
    ∃ c, b.readUntil 10 limit seen = (.ok (seen.toList ++ bytes), c) ∧ c.rest = [] := by
  induction limit using Nat.strong_induction_on generalizing b bytes seen with
  | _ limit ih =>
    unfold readUntil
    rw [if_neg (by omega)]
    by_cases hnil : bytes = []
    · subst hnil
      obtain ⟨c, hc, hpending, hrest⟩ := h.exists_fill
      rw [hc]
      exact ⟨c, by simp [hpending], hrest⟩
    · obtain ⟨c, hc, hpending, hcrest, hcap⟩ := Buffered.exists_fill h.room (h.rest ▸ hnil)
      have hending := (precedes_fill hc).ending.trans h.ending
      have hpos := List.length_pos_of_ne_nil hpending
      rw [h.rest, rest] at hcrest
      rw [← hcrest, List.length_append] at hlimit
      rw [← hcrest, List.mem_append, not_or] at hend
      rw [hc]
      dsimp only
      rw [List.take_of_length_le (by omega), dif_neg hpending, if_neg (by simpa using hend.1)]
      have hnext : { c with pending := c.pending.drop c.pending.length }.Holds c.source.rest :=
        ⟨⟨hcap ▸ h.room, by simp [rest]⟩, hending⟩
      obtain ⟨d, hd, hrest⟩ :=
        ih (limit - c.pending.length) (by omega) hnext hend.2 (by omega) (seen ++ c.pending)
      exact ⟨d, by rw [hd, ← hcrest]; simp, hrest⟩

/-- **The first line is read**, over as many fills as it takes. -/
lemma Holds.exists_readLine {line rest : List UInt8} (h : b.Holds (line ++ rest))
    (hline : IsLine line rest) : ∃ c, b.readLine = (.ok line, c) ∧ c.Holds rest := by
  have hprec := precedes_readUntil 10 (b.rest.length + 1) #[] b
  rcases hline with ⟨text, rfl, htext⟩ | ⟨-, hend, rfl⟩
  · have hready : b.Ready (text ++ 10 :: rest) := ⟨h.room, by rw [h.rest]; simp⟩
    have hlimit : text.length < b.rest.length + 1 := by
      rw [hready.rest, List.length_append]
      omega
    obtain ⟨c, hc, htail⟩ := Buffered.exists_readUntil hready htext hlimit #[]
    rw [hc] at hprec
    exact ⟨c, by rw [readLine, hc]; simp, htail, hprec.ending.trans h.ending⟩
  · rw [List.append_nil] at h
    have hlimit : line.length < b.rest.length + 1 := by
      rw [h.rest]
      exact Nat.lt_succ_self _
    obtain ⟨c, hc, htail⟩ := h.exists_readUntil hend hlimit #[]
    rw [hc] at hprec
    exact ⟨c, by rw [readLine, hc]; simp, ⟨hprec.capacity ▸ h.room, htail⟩,
      hprec.ending.trans h.ending⟩

lemma Holds.of_precedes {bytes : List UInt8} {c : Buffered} (h : b.Holds bytes)
    (hprec : b.Precedes c) : c.Holds c.rest :=
  ⟨⟨hprec.capacity ▸ h.room, rfl⟩, hprec.ending.trans h.ending⟩

/-- What is read up to a line feed, a limit or the end of the bytes ends in no other way. -/
lemma readUntil_sound (hroom : 0 < b.capacity) {limit : ℕ} {seen : Array UInt8} {line : List UInt8}
    {c : Buffered} (hread : b.readUntil 10 limit seen = (.ok line, c)) :
    ∃ more, line = seen.toList ++ more ∧ ((∃ text, more = text ++ [10] ∧ 10 ∉ text) ∨
      10 ∉ more ∧ (more.length = limit ∨ c.rest = [])) := by
  fun_induction readUntil 10 limit seen b with
  | case1 seen b =>
    obtain ⟨h1, rfl⟩ := Prod.mk.inj hread
    exact ⟨[], by rw [List.append_nil, Except.ok.inj h1], .inr ⟨by simp, .inl rfl⟩⟩
  | case2 limit seen b hlimit e d hfill => cases (Prod.mk.inj hread).1
  | case3 limit seen b hlimit d hfill taken hnil =>
    obtain ⟨h1, rfl⟩ := Prod.mk.inj hread
    have hpending : d.pending = [] := (List.take_eq_nil_iff.mp hnil).resolve_left hlimit
    refine ⟨[], by rw [List.append_nil, Except.ok.inj h1], .inr ⟨by simp, .inr ?_⟩⟩
    -- a fill that left bytes behind would have brought some
    by_contra hrest
    rw [fill_ok hfill] at hrest
    obtain ⟨d', hd', hne, -⟩ := Buffered.exists_fill hroom hrest
    rw [hfill] at hd'
    exact hne ((Prod.mk.inj hd').2 ▸ hpending)
  | case4 limit seen b hlimit d hfill taken hnil hstop found =>
    obtain ⟨h1, -⟩ := Prod.mk.inj hread
    refine ⟨found ++ [10], ?_, .inl ⟨found, rfl, fun hmem => ?_⟩⟩
    · rw [← Except.ok.inj h1]
      simp
    · simpa using List.mem_takeWhile_imp hmem
  | case5 limit seen b hlimit d hfill taken hnil hstop ih =>
    have hnext := (precedes_fill hfill).trans (.drop_pending d taken.length)
    have hlen : taken.length ≤ limit := List.length_take_le _ _
    obtain ⟨more, rfl, hmore⟩ := ih (hnext.capacity ▸ hroom) hread
    refine ⟨taken ++ more, by simp, ?_⟩
    have htaken : 10 ∉ taken := by simpa using hstop
    rcases hmore with ⟨text, rfl, htext⟩ | ⟨hno, hend⟩
    · exact .inl ⟨taken ++ text, by simp, by simp [htaken, htext]⟩
    · refine .inr ⟨by simp [htaken, hno], hend.imp_left fun hfull => ?_⟩
      rw [List.length_append]
      omega

lemma pending_of_fill {c : Buffered} (hcapacity : b.capacity = 0) (hpending : b.pending = [])
    (hfill : b.fill = (.ok (), c)) : c.pending = [] := by
  rw [fill, hpending, hcapacity, pull] at hfill
  split at hfill
  · split at hfill
    · cases (Prod.mk.inj hfill).1
    next bs d hpull =>
    split at hpull
    · cases (Prod.mk.inj hpull).1
    next bs' source hread =>
    obtain rfl := Except.ok.inj (Prod.mk.inj hpull).1
    rw [← (Prod.mk.inj hfill).2]
    exact List.length_eq_zero_iff.mp (Nat.le_zero.mp (Source.rest_of_readOn hread).2)
  · next hne => exact absurd rfl hne

lemma Holds.exists_readLine_nil (h : b.Holds []) : ∃ c, b.readLine = (.ok [], c) := by
  obtain ⟨c, hc, -⟩ := h.exists_readUntil (by simp) (Nat.succ_pos b.rest.length) #[]
  exact ⟨c, by rw [readLine, hc]; simp⟩

end Buffered

end SeedSync
