import Mathlib
import SeedSync.Proofs.Stream.Buffered
import SeedSync.Transfer.Body

/-!
A body by the bytes that it will give: however they arrive, reading takes them off the front, and
falls short only where they end.
-/

namespace SeedSync

/-- Where a body ends after `n` of its bytes. -/
def Bound.after (n : ℕ) : Bound → Bound
  | .whole => .whole
  | .upTo k => .upTo (k - n)
  | .exactly k => .exactly (k - n)

namespace Body

/-- All bytes that the body still gives. -/
def bytes (b : Body) : List UInt8 :=
  match b.bound with
  | .whole => b.reader.rest
  | .upTo k => b.reader.rest.take k
  | .exactly k => b.reader.rest.take k

/-- What fails behind the last of the body's bytes, if the body does not simply end there. -/
def behind (b : Body) : Option IoError :=
  match b.bound with
  | .whole => b.reader.source.ending
  | .upTo k => if k ≤ b.reader.rest.length then none else b.reader.source.ending
  | .exactly k =>
    if k ≤ b.reader.rest.length then none
    else some (b.reader.source.ending.getD (.partEndedEarly (k - b.reader.rest.length)))

/-- Behind its bytes the body ends and does not break: it gives nothing more, or a failure that says
so. -/
def Ends (b : Body) : Prop := ∀ e, b.behind = some e → e.kind = .unexpectedEnd

/-- The second body is the first one without `n` bytes at its front. -/
structure Took (b c : Body) (n : ℕ) : Prop where
  rest : c.reader.rest = b.reader.rest.drop n
  bound : c.bound = b.bound.after n
  capacity : c.reader.capacity = b.reader.capacity
  observed : c.observed = b.observed

namespace Took

variable {b c d : Body} {n k : ℕ}

lemma refl (b : Body) : Took b b 0 := ⟨rfl, by cases b.bound <;> rfl, rfl, rfl⟩

lemma trans (h : Took b c n) (h' : Took c d k) : Took b d (n + k) where
  rest := by rw [h'.rest, h.rest, List.drop_drop]
  bound := by
    rw [h'.bound, h.bound]
    cases b.bound <;> simp [Bound.after, Nat.sub_sub]
  capacity := h'.capacity.trans h.capacity
  observed := h'.observed.trans h.observed

lemma bytes_eq (h : Took b c n) : c.bytes = b.bytes.drop n := by
  rw [bytes, bytes, h.bound, h.rest]
  cases b.bound with
  | whole => rfl
  | upTo k => exact List.drop_take.symm
  | exactly k => exact List.drop_take.symm

lemma behind_eq (h : Took b c n) (hn : n ≤ b.bytes.length)
    (hend : c.reader.source.ending = b.reader.source.ending) : c.behind = b.behind := by
  have hrest := congrArg List.length h.rest
  rw [List.length_drop] at hrest
  rw [behind, behind, h.bound, hend, hrest]
  rw [bytes] at hn
  cases hb : b.bound with
  | whole => rfl
  | upTo k =>
    rw [hb, List.length_take] at hn
    exact if_congr (by omega) rfl rfl
  | exactly k =>
    rw [hb, List.length_take] at hn
    rw [Bound.after]
    dsimp only
    refine if_congr (by omega) rfl ?_
    rw [show k - n - (b.reader.rest.length - n) = k - b.reader.rest.length by omega]

end Took

variable {b c : Body} {n : ℕ}

lemma exists_readOn_of_take_ne_nil {reader : Buffered} {n k : ℕ} (hn : 0 < n)
    (h : reader.rest.take k ≠ []) :
    ∃ bs c, reader.readOn (min n k) = (.ok bs, c) ∧ bs ≠ [] ∧ bs.length ≤ n ∧ bs.length ≤ k ∧
      reader.rest = bs ++ c.rest ∧ c.capacity = reader.capacity := by
  obtain ⟨hk, hr⟩ := not_or.mp (mt List.take_eq_nil_iff.mpr h)
  obtain ⟨bs, c, hc, hne, hlen, hrest, -, hcap⟩ :=
    Buffered.exists_readOn_of_ne_nil (n := min n k) (by omega) hr
  exact ⟨bs, c, hc, hne, by omega, by omega, hrest, hcap⟩

lemma exists_readOn_of_ne_nil (hn : 0 < n) (h : b.bytes ≠ []) :
    ∃ bs c, b.readOn n = (.ok bs, c) ∧ bs ≠ [] ∧ bs.length ≤ n ∧ b.bytes = bs ++ c.bytes ∧
      Took b c bs.length := by
  obtain ⟨reader, bound, observed⟩ := b
  cases bound with
  | whole =>
    obtain ⟨bs, c, hc, hne, hlen, hrest, -, hcap⟩ := Buffered.exists_readOn_of_ne_nil hn h
    exact ⟨bs, ⟨c, .whole, observed⟩, by simp only [readOn, readBy, hc], hne, hlen, hrest,
      by simp [hrest], rfl, hcap, rfl⟩
  | upTo k =>
    cases k with
    | zero => exact absurd (List.take_zero : reader.rest.take 0 = []) h
    | succ k =>
      obtain ⟨bs, c, hc, hne, hlen, hle, hrest, hcap⟩ := exists_readOn_of_take_ne_nil hn h
      exact ⟨bs, ⟨c, .upTo (k + 1 - bs.length), observed⟩, by simp only [readOn, readBy, hc], hne,
        hlen,
        by simp [bytes, hrest, List.take_append, List.take_of_length_le hle],
        by simp [hrest], rfl, hcap, rfl⟩
  | exactly k =>
    cases k with
    | zero => exact absurd (List.take_zero : reader.rest.take 0 = []) h
    | succ k =>
      obtain ⟨bs, c, hc, hne, hlen, hle, hrest, hcap⟩ := exists_readOn_of_take_ne_nil hn h
      obtain ⟨x, bs, rfl⟩ := List.exists_cons_of_ne_nil hne
      exact ⟨x :: bs, ⟨c, .exactly (k + 1 - (x :: bs).length), observed⟩,
        by simp only [readOn, readBy, hc], hne, hlen,
        by simp only [bytes, hrest, List.take_append, List.take_of_length_le hle],
        by simp [hrest], rfl, hcap, rfl⟩

lemma exists_readOn_behind (n : ℕ) (h : b.bytes = []) :
    ∃ c, b.readOn n = (b.behind.elim (.ok []) .error, c) ∧ c.bytes = [] ∧ c.behind = b.behind := by
  obtain ⟨reader, bound, observed⟩ := b
  -- a bound of zero is reached, and at any other the reader has come to its end
  have hcut {k : ℕ} (hr : reader.rest.take (k + 1) = []) : reader.rest = [] :=
    (List.take_eq_nil_iff.mp hr).resolve_left k.succ_ne_zero
  cases bound with
  | whole =>
    obtain ⟨r, c, hread, hrest, rfl, hend⟩ := Buffered.exists_readOn_of_nil n h
    exact ⟨⟨c, .whole, observed⟩, by simp only [readOn, readBy, hread, behind], hrest, hend⟩
  | upTo k =>
    cases k with
    | zero => exact ⟨_, rfl, h, rfl⟩
    | succ k =>
      have hr := hcut h
      obtain ⟨r, c, hread, hrest, rfl, hend⟩ := Buffered.exists_readOn_of_nil (min n (k + 1)) hr
      refine ⟨⟨c, .upTo (k + 1), observed⟩, ?_, by simp [bytes, hrest],
        by simp [behind, hr, hrest, hend]⟩
      cases he : reader.source.ending <;> simp_all [readOn, readBy, behind]
  | exactly k =>
    cases k with
    | zero => exact ⟨_, rfl, h, rfl⟩
    | succ k =>
      have hr := hcut h
      obtain ⟨r, c, hread, hrest, rfl, hend⟩ := Buffered.exists_readOn_of_nil (min n (k + 1)) hr
      refine ⟨⟨c, .exactly (k + 1), observed⟩, ?_, by simp [bytes, hrest],
        by simp [behind, hr, hrest, hend]⟩
      cases he : reader.source.ending <;> simp_all [readOn, readBy, behind]

lemma precedes_readOn {answer : Except IoError (List UInt8)} (h : b.readOn n = (answer, c)) :
    b.reader.Precedes c.reader := by
  obtain ⟨reader, bound, observed⟩ := b
  rw [readOn, readBy] at h
  dsimp only at h
  split at h
  · obtain rfl := (Prod.mk.inj h).2
    exact Buffered.precedes_readOn rfl
  · obtain rfl := (Prod.mk.inj h).2
    exact .refl reader
  · obtain rfl := (Prod.mk.inj h).2
    exact .refl reader
  · split at h <;> next hread =>
      obtain rfl := (Prod.mk.inj h).2
      exact Buffered.precedes_readOn hread
  · split at h <;> next hread =>
      obtain rfl := (Prod.mk.inj h).2
      exact Buffered.precedes_readOn hread

/-- A read gives bytes while there are any, then what lies behind them, and that stays the same. -/
lemma readOn_cases (hn : 0 < n) :
    (∃ got c, b.readOn n = (.ok got, c) ∧ got ≠ [] ∧ got.length ≤ n ∧ b.bytes = got ++ c.bytes ∧
      c.behind = b.behind) ∨
    b.bytes = [] ∧ ∃ c, b.readOn n = (b.behind.elim (.ok []) .error, c) ∧ c.bytes = [] ∧
      c.behind = b.behind := by
  by_cases h : b.bytes = []
  · exact .inr ⟨h, exists_readOn_behind n h⟩
  · obtain ⟨got, c, hread, hne, hlen, hbytes, htook⟩ := exists_readOn_of_ne_nil hn h
    refine .inl ⟨got, c, hread, hne, hlen, hbytes,
      htook.behind_eq ?_ (precedes_readOn hread).ending⟩
    rw [hbytes, List.length_append]
    exact Nat.le_add_right _ _

lemma exists_gather (h : n ≤ b.bytes.length) (got : Array UInt8)
    (reads : Array ℕ) :
    ∃ rs c, b.gather n got reads = (⟨got.toList ++ b.bytes.take n, reads.toList ++ rs, none⟩, c) ∧
      rs.sum = n ∧ Took b c n ∧ c.behind = b.behind := by
  induction n using Nat.strong_induction_on generalizing b got reads with
  | _ n ih =>
    unfold gather
    by_cases hn : n = 0
    · exact ⟨[], b, by simp [hn], hn.symm, hn ▸ .refl b, rfl⟩
    · have hne : b.bytes ≠ [] := by
        rintro he
        rw [he, List.length_nil] at h
        omega
      obtain ⟨bs, c, hc, hbs, hlen, hbytes, htook⟩ :=
        exists_readOn_of_ne_nil (Nat.pos_of_ne_zero hn) hne
      have hpos := List.length_pos_of_ne_nil hbs
      have hbehind := htook.behind_eq (by rw [hbytes]; simp) (precedes_readOn hc).ending
      rw [hbytes, List.length_append] at h
      obtain ⟨rs, d, hd, hsum, htook', hbehind'⟩ :=
        ih (n - bs.length) (by omega) (b := c) (by omega) (got ++ bs) (reads.push bs.length)
      have hall : bs.length + (n - bs.length) = n := by omega
      refine ⟨bs.length :: rs, d, ?_, by rw [List.sum_cons, hsum, hall],
        hall ▸ htook.trans htook', hbehind'.trans hbehind⟩
      rw [if_neg hn, hc]
      dsimp only
      rw [dif_neg hbs, hd, hbytes, List.take_append, List.take_of_length_le hlen]
      simp

/-- A body that has fewer gives all of them, and fails with what lies behind them. -/
lemma exists_gather_short (h : b.bytes.length < n) (got : Array UInt8)
    (reads : Array ℕ) :
    ∃ rs c, b.gather n got reads = (⟨got.toList ++ b.bytes, rs, b.behind⟩, c) ∧ c.bytes = [] := by
  induction n using Nat.strong_induction_on generalizing b got reads with
  | _ n ih =>
    unfold gather
    rw [if_neg (by omega)]
    rcases readOn_cases (b := b) (show 0 < n by omega) with
      ⟨bs, c, hc, hbs, -, hbytes, hbehind⟩ | ⟨hnil, c, hc, hcnil, -⟩
    · have hpos := List.length_pos_of_ne_nil hbs
      rw [hbytes, List.length_append] at h
      obtain ⟨rs, d, hd, hdnil⟩ :=
        ih (n - bs.length) (by omega) (b := c) (by omega) (got ++ bs) (reads.push bs.length)
      refine ⟨rs, d, ?_, hdnil⟩
      rw [hc]
      dsimp only
      rw [dif_neg hbs, hd, hbytes, hbehind]
      simp
    · rw [hc, hnil, List.append_nil]
      cases b.behind with
      | none => exact ⟨reads.toList, c, rfl, hcnil⟩
      | some e => exact ⟨reads.toList, c, rfl, hcnil⟩

lemma exists_readUpTo (h : n ≤ b.bytes.length) :
    ∃ rs c, b.readUpTo n = (⟨b.bytes.take n, rs, none⟩, c) ∧ rs.sum = n ∧ Took b c n ∧
      c.behind = b.behind :=
  exists_gather h #[] #[]

lemma exists_readUpTo_short (h : b.bytes.length < n) :
    ∃ rs c, b.readUpTo n = (⟨b.bytes, rs, b.behind⟩, c) ∧ c.bytes = [] :=
  exists_gather_short h #[] #[]

/-! ### Interruptions -/

/-- The body after an interruption, with all its bytes. -/
def interrupted (b : Body) : Body := { b with reader := b.reader.interrupted }

lemma took_interrupted (b : Body) : Took b b.interrupted 0 :=
  ⟨rfl, by cases b with | mk reader bound observed => cases bound <;> rfl, rfl, rfl⟩

lemma bytes_interrupted (b : Body) : b.interrupted.bytes = b.bytes := b.took_interrupted.bytes_eq

lemma behind_interrupted (b : Body) : b.interrupted.behind = b.behind :=
  b.took_interrupted.behind_eq (Nat.zero_le _) rfl

/-- A read gives what one gives that waits, or it is interrupted, and to read on is to read
again. -/
lemma read_cases (b : Body) (n : ℕ) : b.read n = b.readOn n ∨
    b.reader.isInterrupted = true ∧ b.read n = (.error .interrupted, b.interrupted) ∧
      b.interrupted.readOn n = b.readOn n := by
  obtain ⟨reader, bound, observed⟩ := b
  rw [read, readOn, readOn, readBy, readBy, readBy, interrupted]
  dsimp only
  cases bound with
  | whole =>
    rcases reader.read_cases n with heq | ⟨hinterrupted, heq, hagain⟩
    · exact .inl (by simp only [heq])
    · exact .inr ⟨hinterrupted, by simp only [heq], by simp only [hagain]⟩
  | upTo k | exactly k =>
    cases k with
    | zero => exact .inl rfl
    | succ k =>
      rcases reader.read_cases (min n (k + 1)) with heq | ⟨hinterrupted, heq, hagain⟩
      · exact .inl (by simp only [heq])
      · exact .inr ⟨hinterrupted, by simp only [heq], by simp only [hagain]⟩

/-! ### Reads of any size -/

/-- Reads with buffers of these sizes. -/
def reads (b : Body) : List ℕ → List (Except IoError (List UInt8)) × Body
  | [] => ([], b)
  | n :: sizes =>
    let (answer, b) := b.read n
    let (answers, b) := b.reads sizes
    (answer :: answers, b)

/-- Reads give these bytes in order, some with each as long as there are any, and from then on the
failure behind them, or nothing if there is none. Up to `k` of the reads are interrupted, which
loses nothing. -/
inductive Gives (behind : Option IoError) :
    ℕ → List UInt8 → List ℕ → List (Except IoError (List UInt8)) → Prop
  | rest (k : ℕ) (bytes : List UInt8) : Gives behind k bytes [] []
  | some {k n : ℕ} {got bytes : List UInt8} {sizes : List ℕ}
      {answers : List (Except IoError (List UInt8))} (hne : got ≠ []) (hlen : got.length ≤ n)
      (more : Gives behind k bytes sizes answers) :
      Gives behind k (got ++ bytes) (n :: sizes) (.ok got :: answers)
  | none {k n : ℕ} {sizes : List ℕ} {answers : List (Except IoError (List UInt8))}
      (more : Gives behind k [] sizes answers) :
      Gives behind k [] (n :: sizes) (behind.elim (.ok []) .error :: answers)
  | interrupted {k n : ℕ} {bytes : List UInt8} {sizes : List ℕ}
      {answers : List (Except IoError (List UInt8))} (more : Gives behind k bytes sizes answers) :
      Gives behind (k + 1) bytes (n :: sizes) (.error .interrupted :: answers)

lemma gives_reads (b : Body) {k : ℕ} (hk : b.reader.source.interruptions ≤ k) {sizes : List ℕ}
    (hsizes : ∀ n ∈ sizes, 0 < n) : Gives b.behind k b.bytes sizes (b.reads sizes).1 := by
  induction sizes generalizing b k with
  | nil => exact .rest k b.bytes
  | cons n sizes ih =>
    have hsizes' : ∀ n ∈ sizes, 0 < n := fun k hk => hsizes k (List.mem_cons_of_mem n hk)
    rw [reads]
    rcases b.read_cases n with heq | ⟨hinterrupted, heq, -⟩
    · rw [heq]
      rcases readOn_cases (b := b) (hsizes n List.mem_cons_self) with
        ⟨got, c, hread, hne, hlen, hbytes, hbehind⟩ | ⟨hnil, c, hread, hcnil, hbehind⟩
      · have hmore := ih c ((precedes_readOn hread).interruptions_le.trans hk) hsizes'
        rw [hread, hbytes, ← hbehind]
        exact .some hne hlen hmore
      · have hmore := ih c ((precedes_readOn hread).interruptions_le.trans hk) hsizes'
        rw [hcnil, hbehind] at hmore
        rw [hread, hnil]
        exact .none hmore
    · have hfewer := Buffered.interruptions_interrupted hinterrupted
      obtain ⟨k, rfl⟩ := Nat.exists_eq_succ_of_ne_zero (n := k) (by omega)
      have hle : b.interrupted.reader.source.interruptions ≤ k := by
        rw [interrupted]
        dsimp only
        omega
      have hmore := ih b.interrupted hle hsizes'
      rw [bytes_interrupted, behind_interrupted] at hmore
      rw [heq]
      exact .interrupted hmore

lemma precedes_read {answer : Except IoError (List UInt8)} (h : b.read n = (answer, c)) :
    b.reader.Precedes c.reader := by
  rcases b.read_cases n with heq | ⟨-, heq, -⟩
  · exact precedes_readOn (heq ▸ h)
  · obtain rfl := (Prod.mk.inj (heq.symm.trans h)).2
    exact b.reader.precedes_interrupted

lemma precedes_reads (b : Body) (sizes : List ℕ) : b.reader.Precedes (b.reads sizes).2.reader := by
  induction sizes generalizing b with
  | nil => exact .refl b.reader
  | cons n sizes ih =>
    rw [reads]
    cases hread : b.read n with
    | mk answer c => exact (precedes_read hread).trans (ih c)

lemma bytes_of_exactly {left tail : List UInt8} (hbound : b.bound = .exactly left.length)
    (h : b.reader.rest = left ++ tail) : b.bytes = left ∧ b.behind = none := by
  rw [bytes, behind, hbound, h]
  exact ⟨List.take_left, if_pos (by rw [List.length_append]; omega)⟩

lemma exists_reads {left tail : List UInt8} (hbound : b.bound = .exactly left.length)
    (h : b.reader.rest = left ++ tail) {sizes : List ℕ} (hsizes : ∀ n ∈ sizes, 0 < n) :
    ∃ left', (b.reads sizes).2.bound = .exactly left'.length ∧
      (b.reads sizes).2.reader.rest = left' ++ tail := by
  induction sizes generalizing b left with
  | nil => exact ⟨left, hbound, h⟩
  | cons n sizes ih =>
    have hsizes' : ∀ n ∈ sizes, 0 < n := fun k hk => hsizes k (List.mem_cons_of_mem n hk)
    rw [reads]
    rcases b.read_cases n with heq | ⟨-, heq, -⟩
    · rw [heq]
      -- at its end the body is asked no more of its reader
      by_cases hleft : left = []
      · subst hleft
        have hread : b.readOn n = (.ok [], b) := by
          rw [readOn, readBy, hbound]
          rfl
        rw [hread]
        exact ih hbound h hsizes'
      · obtain ⟨hbytes, -⟩ := bytes_of_exactly hbound h
        obtain ⟨got, c, hread, -, -, hsplit, htook⟩ :=
          exists_readOn_of_ne_nil (hsizes n List.mem_cons_self) (hbytes ▸ hleft)
        rw [hbytes] at hsplit
        subst hsplit
        have hbound' : c.bound = .exactly c.bytes.length := by
          rw [htook.bound, hbound, Bound.after, List.length_append, Nat.add_sub_cancel_left]
        have hrest : c.reader.rest = c.bytes ++ tail := by
          rw [htook.rest, h, List.append_assoc, List.drop_left]
        rw [hread]
        exact ih hbound' hrest hsizes'
    · rw [heq]
      exact ih (b := b.interrupted) hbound h hsizes'

/-! ### Readers as bodies -/

lemma gather_whole (reader : Buffered) (observed : Bool) (n : ℕ) (got : Array UInt8)
    (reads : Array ℕ) : gather n got reads ⟨reader, .whole, observed⟩ =
      ((reader.gather n got reads).1, ⟨(reader.gather n got reads).2, .whole, observed⟩) := by
  induction n using Nat.strong_induction_on generalizing reader got reads with
  | _ n ih =>
    unfold gather Buffered.gather
    by_cases hn : n = 0
    · rw [if_pos hn, if_pos hn]
    · rw [if_neg hn, if_neg hn, readOn, readBy]
      dsimp only
      generalize reader.readOn n = answer
      obtain ⟨_ | bs, reader⟩ := answer
      · rfl
      · dsimp only
        split
        · rfl
        · next hbs =>
          have := List.length_pos_of_ne_nil hbs
          exact ih (n - bs.length) (by omega) reader _ _

end Body

lemma Buffered.exists_readUpTo {b : Buffered} {n : ℕ} (h : n ≤ b.rest.length) :
    ∃ rs c, b.readUpTo n = (⟨b.rest.take n, rs, none⟩, c) ∧ c.rest = b.rest.drop n ∧
      c.capacity = b.capacity := by
  obtain ⟨rs, c, hc, -, htook, -⟩ := Body.exists_readUpTo (b := ⟨b, .whole, false⟩) h
  rw [Body.readUpTo, Body.gather_whole] at hc
  obtain ⟨hpulled, rfl⟩ := Prod.mk.inj hc
  exact ⟨rs, _, Prod.ext hpulled rfl, htook.rest, htook.capacity⟩

lemma Buffered.exists_readUpTo_short {b : Buffered} {n : ℕ} (h : b.rest.length < n) :
    ∃ rs c, b.readUpTo n = (⟨b.rest, rs, b.source.ending⟩, c) ∧ c.rest = [] := by
  obtain ⟨rs, c, hc, hnil⟩ := Body.exists_readUpTo_short (b := ⟨b, .whole, false⟩) h
  rw [Body.readUpTo, Body.gather_whole] at hc
  obtain ⟨hpulled, rfl⟩ := Prod.mk.inj hc
  exact ⟨rs, _, Prod.ext hpulled rfl, hnil⟩

lemma Buffered.exists_skip {b : Buffered} (hend : b.source.ending = none) (n : ℕ) :
    ∃ bs rs c, b.readUpTo n = (⟨bs, rs, none⟩, c) ∧ c.rest = b.rest.drop n ∧ b.Precedes c := by
  have hprec := b.precedes_gather n #[] #[]
  rcases Nat.lt_or_ge b.rest.length n with hshort | hle
  · obtain ⟨rs, c, hc, hnil⟩ := exists_readUpTo_short hshort
    rw [← readUpTo, hc] at hprec
    exact ⟨b.rest, rs, c, by rw [hc, hend], by rw [hnil, List.drop_of_length_le hshort.le], hprec⟩
  · obtain ⟨rs, c, hc, hrest, -⟩ := exists_readUpTo hle
    rw [← readUpTo, hc] at hprec
    exact ⟨_, rs, c, hc, hrest, hprec⟩

lemma Buffered.exists_readExactly {b : Buffered} {n : ℕ} (h : n ≤ b.rest.length) :
    ∃ c, b.readExactly n = (.ok (b.rest.take n), c) ∧ c.rest = b.rest.drop n ∧
      b.Precedes c := by
  obtain ⟨rs, c, hc, hrest, -⟩ := exists_readUpTo h
  have hprec := b.precedes_gather n #[] #[]
  rw [← readUpTo, hc] at hprec
  refine ⟨c, ?_, hrest, hprec⟩
  rw [readExactly, hc]
  dsimp only
  rw [if_neg (by rw [List.length_take]; omega)]

lemma Buffered.exists_readExactly_short {b : Buffered} {n : ℕ} (h : b.rest.length < n) :
    ∃ c, b.readExactly n = (.error (b.source.ending.getD .endedEarly), c) := by
  obtain ⟨rs, c, hc, -⟩ := exists_readUpTo_short h
  refine ⟨c, ?_⟩
  rw [readExactly, hc]
  cases b.source.ending with
  | none => exact congrArg (·, c) (if_pos h)
  | some e => rfl

end SeedSync
