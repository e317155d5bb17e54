import SeedSync.IoError

/-!
Sources of bytes as values: the bytes still to come, how much each of the next reads gives, and
what follows the last byte. A source may be interrupted finitely often.
-/

namespace SeedSync

/-- What one read does. -/
inductive Turn
  /-- Gives at most `n` bytes, and at least one while there are bytes. -/
  | short (n : Nat)
  | interrupted
  deriving DecidableEq, Repr

structure Source where
  rest : List UInt8
  /-- The next reads; those after them give all that is asked for. -/
  turns : List Turn
  /-- The failure behind the last byte, if the bytes do not simply end. -/
  ending : Option IoError
  deriving DecidableEq, Repr

namespace Source

def ofBytes (bs : List UInt8) : Source := ⟨bs, [], none⟩

def give (s : Source) (n : Nat) : Except IoError (List UInt8) × Source :=
  match s.rest, s.ending with
  | [], some e => (.error e, s)
  | _, _ => (.ok (s.rest.take n), { s with rest := s.rest.drop n })

def read (s : Source) (n : Nat) : Except IoError (List UInt8) × Source :=
  match s.turns with
  | [] => s.give n
  | .interrupted :: ts => (.error .interrupted, { s with turns := ts })
  | .short k :: ts => { s with turns := ts }.give (min n (max k 1))

def isInterrupted (s : Source) : Bool := s.turns.head? == some .interrupted

def readOn (s : Source) (n : Nat) : Except IoError (List UInt8) × Source :=
  { s with turns := s.turns.dropWhile (· == Turn.interrupted) }.read n

theorem give_fst_ok {s t : Source} {n : Nat} {bs : List UInt8} (h : s.give n = (.ok bs, t)) :
    bs = s.rest.take n ∧ t.rest = s.rest.drop n := by
  unfold give at h
  split at h
  · simp at h
  · simp only [Prod.mk.injEq, Except.ok.injEq] at h
    exact ⟨h.1.symm, by rw [← h.2]⟩

theorem rest_of_readOn {s t : Source} {n : Nat} {bs : List UInt8} (h : s.readOn n = (.ok bs, t)) :
    s.rest = bs ++ t.rest ∧ bs.length ≤ n := by
  unfold readOn read at h
  split at h
  · obtain ⟨rfl, ht⟩ := give_fst_ok h
    exact ⟨by rw [ht, List.take_append_drop], by rw [List.length_take]; omega⟩
  · simp at h
  · obtain ⟨rfl, ht⟩ := give_fst_ok h
    exact ⟨by rw [ht, List.take_append_drop], by rw [List.length_take]; omega⟩

end Source

end SeedSync
