import SeedSync.Stream.Source

/-!
Buffered reading: bytes are pulled from a source in fills of a fixed capacity and handed out in
lines or pieces. All but a single read wait interruptions out.
-/

namespace SeedSync

structure Buffered where
  pending : List UInt8
  capacity : Nat
  source : Source
  /-- The sizes of the reads of the source that gave bytes, oldest first. -/
  fills : Array Nat

/-- What a reader got by several reads: the bytes, the sizes of the reads that gave some, and the
failure that stopped it, if one did. -/
structure Pulled where
  bytes : List UInt8
  reads : List Nat
  failure : Option IoError

namespace Buffered

def standardCapacity : Nat := 8192

def ofSource (capacity : Nat) (source : Source) : Buffered := ⟨[], capacity, source, #[]⟩

/-- All bytes still to come. -/
def rest (b : Buffered) : List UInt8 := b.pending ++ b.source.rest

def note (fills : Array Nat) (bs : List UInt8) : Array Nat :=
  if bs.isEmpty then fills else fills.push bs.length

/-- One read of the source, past the buffer. -/
def pull (b : Buffered) (n : Nat) : Except IoError (List UInt8) × Buffered :=
  match b.source.readOn n with
  | (.error e, source) => (.error e, { b with source })
  | (.ok bs, source) => (.ok bs, { b with source, fills := note b.fills bs })

/-- Fills the buffer if it is empty; it stays empty where the bytes end. -/
def fill (b : Buffered) : Except IoError Unit × Buffered :=
  if b.pending.isEmpty then
    match b.pull b.capacity with
    | (.error e, b) => (.error e, b)
    | (.ok bs, b) => (.ok (), { b with pending := bs })
  else (.ok (), b)

/-- Reads at most `n` bytes until a read is not interrupted. A read of at least the capacity goes
past an empty buffer. -/
def readOn (b : Buffered) (n : Nat) : Except IoError (List UInt8) × Buffered :=
  if b.pending.isEmpty && decide (b.capacity ≤ n) then b.pull n
  else
    match b.fill with
    | (.error e, b) => (.error e, b)
    | (.ok (), b) => (.ok (b.pending.take n), { b with pending := b.pending.drop n })

/-- Whether the next read has to ask the source, and is interrupted there. -/
def isInterrupted (b : Buffered) : Bool := b.pending.isEmpty && b.source.isInterrupted

/-- The reader after an interruption, with all its bytes. -/
def interrupted (b : Buffered) : Buffered :=
  { b with source := { b.source with turns := b.source.turns.tail } }

def read (b : Buffered) (n : Nat) : Except IoError (List UInt8) × Buffered :=
  if b.isInterrupted then (.error .interrupted, b.interrupted) else b.readOn n

/-- Bytes up to and with the first `stop`, at most `limit` of them and no further than the end,
behind those of `line`. -/
def readUntil (stop : UInt8) (limit : Nat) (line : Array UInt8) (b : Buffered) :
    Except IoError (List UInt8) × Buffered :=
  if limit = 0 then (.ok line.toList, b)
  else
    match b.fill with
    | (.error e, b) => (.error e, b)
    | (.ok (), b) =>
      let seen := b.pending.take limit
      if _h : seen = [] then (.ok line.toList, b)
      else if seen.contains stop then
        let found := seen.takeWhile (· != stop)
        (.ok ((line ++ found).toList ++ [stop]),
          { b with pending := b.pending.drop (found.length + 1) })
      else
        readUntil stop (limit - seen.length) (line ++ seen)
          { b with pending := b.pending.drop seen.length }
termination_by limit
decreasing_by
  have : (b.pending.take limit).length ≠ 0 := fun h => _h (List.length_eq_zero_iff.1 h)
  omega

/-- A line with its end, or what there is of it at the end of the bytes. -/
def readLine (b : Buffered) : Except IoError (List UInt8) × Buffered :=
  b.readUntil 10 (b.rest.length + 1) #[]

def gather (n : Nat) (got : Array UInt8) (reads : Array Nat) (b : Buffered) : Pulled × Buffered :=
  if n = 0 then (⟨got.toList, reads.toList, none⟩, b)
  else
    match b.readOn n with
    | (.error e, b) => (⟨got.toList, reads.toList, some e⟩, b)
    | (.ok bs, b) =>
      if _h : bs = [] then (⟨got.toList, reads.toList, none⟩, b)
      else gather (n - bs.length) (got ++ bs) (reads.push bs.length) b
termination_by n
decreasing_by
  have : bs.length ≠ 0 := by simpa using _h
  omega

def readUpTo (n : Nat) (b : Buffered) : Pulled × Buffered := b.gather n #[] #[]

def readExactly (n : Nat) (b : Buffered) : Except IoError (List UInt8) × Buffered :=
  match b.readUpTo n with
  | (⟨_, _, some e⟩, b) => (.error e, b)
  | (⟨bs, _, none⟩, b) => (if bs.length < n then .error .endedEarly else .ok bs, b)

theorem pull_ok {b c : Buffered} {n : Nat} {bs : List UInt8} (h : b.pull n = (.ok bs, c)) :
    b.source.rest = bs ++ c.source.rest ∧ c.pending = b.pending := by
  unfold pull at h
  split at h
  · simp at h
  · rename_i source hs
    obtain ⟨h1, rfl⟩ := Prod.mk.inj h
    obtain rfl := Except.ok.inj h1
    exact ⟨(Source.rest_of_readOn hs).1, rfl⟩

/-- Filling the buffer neither loses nor invents a byte. -/
theorem fill_ok {b c : Buffered} (h : b.fill = (.ok (), c)) : c.rest = b.rest := by
  unfold fill at h
  split at h
  · rename_i hp
    split at h
    · simp at h
    · rename_i d hd
      obtain rfl := (Prod.mk.inj h).2
      have := pull_ok hd
      simp_all [rest]
  · obtain rfl := (Prod.mk.inj h).2; rfl

theorem take_contains_split {stop : UInt8} {l : List UInt8} {n : Nat}
    (h : (l.take n).contains stop = true) :
    (l.take n).takeWhile (· != stop) ++ stop ::
      l.drop (((l.take n).takeWhile (· != stop)).length + 1) = l := by
  induction l generalizing n with
  | nil => simp at h
  | cons a l ih =>
    cases n with
    | zero => simp at h
    | succ n =>
      by_cases ha : a = stop
      · subst ha; simp
      · have h' : (l.take n).contains stop = true := by
          simp only [List.take_succ_cons, List.contains_cons, Bool.or_eq_true, beq_iff_eq] at h
          rcases h with h | h
          · exact absurd h.symm ha
          · exact h
        simpa [ha] using ih h'

theorem rest_of_readUntil {stop : UInt8} {limit : Nat} {line : Array UInt8} {b c : Buffered}
    {bs : List UInt8} (h : b.readUntil stop limit line = (.ok bs, c)) :
    line.toList ++ b.rest = bs ++ c.rest := by
  fun_induction readUntil stop limit line b with
  | case1 line b =>
    obtain ⟨h1, rfl⟩ := Prod.mk.inj h
    obtain rfl := Except.ok.inj h1
    rfl
  | case2 limit line b h0 e d hd => simp at h
  | case3 limit line b h0 d hd seen hs =>
    obtain ⟨h1, rfl⟩ := Prod.mk.inj h
    obtain rfl := Except.ok.inj h1
    rw [fill_ok hd]
  | case4 limit line b h0 d hd seen hs hc found =>
    obtain ⟨h1, rfl⟩ := Prod.mk.inj h
    obtain rfl := Except.ok.inj h1
    rw [← fill_ok hd]
    have hp : found ++ stop :: d.pending.drop (found.length + 1) = d.pending :=
      take_contains_split hc
    conv => lhs; rw [rest, ← hp]
    simp [rest]
  | case5 limit line b h0 d hd seen hs hc ih =>
    have hp : seen ++ d.pending.drop seen.length = d.pending := by
      simp only [seen, List.length_take]
      by_cases hl : limit ≤ d.pending.length
      · rw [Nat.min_eq_left hl, List.take_append_drop]
      · rw [Nat.min_eq_right (by omega), List.take_of_length_le (by omega)]; simp
    rw [← ih h, ← fill_ok hd]
    conv => lhs; rw [rest, ← hp]
    simp [rest]

end Buffered

end SeedSync
