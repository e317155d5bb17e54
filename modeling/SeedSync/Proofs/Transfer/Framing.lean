import Mathlib
import SeedSync.Proofs.Transfer.Lines

/-!
What comes of a multipart body that holds any bytes at all. The lines that stand before a part are
told apart from its bytes by their place: a part begins behind the blank line of its header, and
the search for the next one behind its last byte, whatever these bytes are.
-/

namespace SeedSync.Multipart

open Utf8

variable {delimiter : List Char} {bytes rest : List UInt8} {r : ByteRange} {b : Buffered}
  {m m' : Multipart} {n : ℕ} {observed : Bool} {got : List UInt8} {body : Body}

/-! ### Steps -/

lemma holds_of_skip (h : m.reader.Holds bytes) {skipped : List UInt8} {rs : List ℕ}
    (hskip : m.reader.readUpTo m.remaining = (⟨skipped, rs, none⟩, b)) :
    b.Holds (bytes.drop m.remaining) := by
  obtain ⟨skipped', rs', d, hd, hrest, hprec⟩ := Buffered.exists_skip h.ending m.remaining
  obtain rfl : b = d := (Prod.mk.inj (hskip.symm.trans hd)).2
  rw [← h.rest, ← hrest]
  exact h.of_precedes hprec

lemma next_some_sound (h : m.reader.Holds bytes) (hopen : m.finished = false)
    (hnext : m.next = (.ok (some r), m')) :
    ∃ middle c, Seeks m.delimiter m.started (bytes.drop m.remaining) true middle ∧
      Heads none middle r c.rest ∧ c.Holds c.rest ∧
      m' = { m with reader := c, remaining := r.length, started := true } := by
  obtain ⟨_, _, d, another, c, hskip, hseek, hnone, hsome⟩ := exists_seek_of_next hopen hnext
  obtain ⟨hseeks, hc⟩ := seekPart_sound (holds_of_skip h hskip) hseek
  cases another with
  | false => cases (hnone rfl).1
  | true =>
    obtain ⟨q, c', hheader, hq, rfl⟩ := hsome rfl
    obtain rfl := Option.some.inj hq
    obtain ⟨hheads, hc'⟩ := readHeader_sound hc hheader
    exact ⟨c.rest, c', hseeks, hheads, hc', rfl⟩

lemma next_none_sound (h : m.reader.Holds bytes) (hopen : m.finished = false)
    (hnext : m.next = (.ok none, m')) :
    ∃ c, Seeks m.delimiter m.started (bytes.drop m.remaining) false c.rest ∧
      m' = { m with reader := c, remaining := 0, finished := true } := by
  obtain ⟨_, _, d, another, c, hskip, hseek, hnone, hsome⟩ := exists_seek_of_next hopen hnext
  obtain ⟨hseeks, -⟩ := seekPart_sound (holds_of_skip h hskip) hseek
  cases another with
  | false => exact ⟨c, hseeks, (hnone rfl).2⟩
  | true =>
    obtain ⟨q, c', -, hq, -⟩ := hsome rfl
    cases hq

/-- Of the body of a part its bytes are read, and then nothing; a body that ends too early fails. -/
lemma readOn_cases (h : m.reader.Holds bytes) (hn : 0 < n) (observed : Bool) :
    (m.remaining = 0 ∧ (m.body observed).readOn n = (.ok [], m.body observed)) ∨
    (0 < m.remaining ∧ bytes = [] ∧ ∃ e b, (m.body observed).readOn n = (.error e, b) ∧
      e.kind = .unexpectedEnd) ∨
    (0 < m.remaining ∧ bytes ≠ [] ∧ ∃ got b, (m.body observed).readOn n = (.ok got, b) ∧ got ≠ [] ∧
      got.length ≤ n ∧ got.length ≤ m.remaining ∧ got = bytes.take got.length ∧
      b.reader.Holds (bytes.drop got.length) ∧ b.bound = .exactly (m.remaining - got.length)) := by
  -- of what is to come, the body has as much as is left of the part
  have hbytes : (m.body observed).bytes = bytes.take m.remaining := by
    rw [Body.bytes, body, h.rest]
  rcases Nat.eq_zero_or_pos m.remaining with hzero | hpos
  · refine .inl ⟨hzero, ?_⟩
    rw [Body.readOn, Body.readBy, body, hzero]
    rfl
  by_cases hnil : bytes = []
  · refine .inr (.inl ⟨hpos, hnil, ?_⟩)
    obtain ⟨b, hread, -⟩ := Body.exists_readOn_behind n (hbytes.trans (by rw [hnil, List.take_nil]))
    have hbehind : (m.body observed).behind = some (.partEndedEarly m.remaining) := by
      rw [Body.behind, body]
      dsimp only
      rw [h.rest, hnil, h.ending, if_neg (by simpa using hpos.ne')]
      rfl
    rw [hbehind] at hread
    exact ⟨_, b, hread, rfl⟩
  · refine .inr (.inr ⟨hpos, hnil, ?_⟩)
    have hne : (m.body observed).bytes ≠ [] := by
      rw [hbytes, ne_eq, List.take_eq_nil_iff]
      exact not_or.mpr ⟨hpos.ne', hnil⟩
    obtain ⟨got, b, hread, hgot, hlen, hsplit, htook⟩ := Body.exists_readOn_of_ne_nil hn hne
    have hle : got.length ≤ m.remaining := by
      have := congrArg List.length (hbytes.symm.trans hsplit)
      rw [List.length_take, List.length_append] at this
      omega
    refine ⟨got, b, hread, hgot, hlen, hle, ?_, ?_, htook.bound⟩
    · calc got = (got ++ b.bytes).take got.length := List.take_left.symm
        _ = (bytes.take m.remaining).take got.length := by rw [← hsplit, hbytes]
        _ = bytes.take got.length := by rw [List.take_take, min_eq_left hle]
    · have hholds := h.of_precedes (Body.precedes_readOn hread)
      rwa [htook.rest, body, h.rest] at hholds

/-- An interruption changes nothing but that there are fewer to come. -/
lemma resume_interrupted (m : Multipart) (observed : Bool) :
    m.resume (m.body observed).interrupted = { m with reader := m.reader.interrupted } := rfl

lemma interrupted_of_read (h : m.reader.Holds bytes) (hn : 0 < n)
    (hread : (m.body observed).read n = (.error .interrupted, body)) :
    body = (m.body observed).interrupted := by
  rcases (m.body observed).read_cases n with heq | ⟨-, heq, -⟩
  · rw [heq] at hread
    rcases readOn_cases h hn observed with ⟨-, hread'⟩ | ⟨-, -, e, b, hread', hkind⟩ |
      ⟨-, -, got, b, hread', -⟩
    · cases hread.symm.trans hread'
    · obtain rfl := Except.error.inj (Prod.mk.inj (hread.symm.trans hread')).1
      cases hkind
    · cases hread.symm.trans hread'
  · exact (Prod.mk.inj (hread.symm.trans heq)).2

lemma readOn_of_read (hread : (m.body observed).read n = (.ok got, body)) :
    (m.body observed).readOn n = (.ok got, body) := by
  rcases (m.body observed).read_cases n with heq | ⟨-, heq, -⟩
  · exact heq ▸ hread
  · cases hread.symm.trans heq

/-! ### Histories -/

/-- A range, and where the bytes of its part begin in the body. -/
structure Placed where
  range : ByteRange
  start : ℕ

/-- A part as far as it has been read. -/
structure Seen extends Placed where
  got : List UInt8

/-- What can be seen of the parts of `W` up to the first failure, and where that leaves the reader:
one asks for the next part, or reads of the current one with a buffer that is not empty. A read that
is interrupted is no failure. -/
inductive Reached (W : List UInt8) (first : Multipart) : List Seen → Multipart → Prop
  | opened : Reached W first [] first
  | part {seen : List Seen} {m m' : Multipart} {r : ByteRange} (before : Reached W first seen m)
      (hnext : m.next = (.ok (some r), m')) :
      Reached W first (seen ++ [⟨⟨r, W.length - m'.reader.rest.length⟩, []⟩]) m'
  | closed {seen : List Seen} {m m' : Multipart} (before : Reached W first seen m)
      (hnext : m.next = (.ok none, m')) : Reached W first seen m'
  | read {seen : List Seen} {p : Seen} {m : Multipart} {n : ℕ} {observed : Bool}
      {got : List UInt8} {body : Body} (before : Reached W first (seen ++ [p]) m)
      (hopen : m.finished = false) (hn : 0 < n)
      (hread : (m.body observed).read n = (.ok got, body)) :
      Reached W first (seen ++ [{ p with got := p.got ++ got }]) (m.resume body)
  | interrupted {seen : List Seen} {p : Seen} {m : Multipart} {n : ℕ} {observed : Bool}
      {body : Body} (before : Reached W first (seen ++ [p]) m) (hopen : m.finished = false)
      (hn : 0 < n) (hread : (m.body observed).read n = (.error .interrupted, body)) :
      Reached W first (seen ++ [p]) (m.resume body)

/-- The parts stand in `W` one behind the other, each behind the lines that announce it; the last of
them is to end at `place`. -/
inductive Framed (W : List UInt8) (delimiter : List Char) : List Placed → ℕ → Prop
  | nil : Framed W delimiter [] 0
  | concat {ps : List Placed} {place : ℕ} {p : Placed} {middle : List UInt8}
      (before : Framed W delimiter ps place)
      (hseek : Seeks delimiter (!ps.isEmpty) (W.drop place) true middle)
      (hheads : Heads none middle p.range (W.drop p.start)) (hstart : p.start ≤ W.length) :
      Framed W delimiter (ps ++ [p]) (p.start + p.range.length)

variable {W : List UInt8} {first : Multipart} {seen : List Seen} {ps : List Placed} {place : ℕ}

lemma eq_append_of_drop {k : ℕ} {gone : List UInt8} (h : W.drop k = gone ++ rest) :
    W = W.take k ++ gone ++ rest := by
  rw [List.append_assoc, ← h, List.take_append_drop]

lemma append_eq_take {k : ℕ} {xs ys : List UInt8} (hxs : xs = (W.drop k).take xs.length)
    (hys : ys = (W.drop (k + xs.length)).take ys.length) :
    xs ++ ys = (W.drop k).take (xs ++ ys).length := by
  rw [List.length_append, List.take_add, List.drop_drop, ← hxs, ← hys]

lemma Framed.pairwise (h : Framed W delimiter ps place) :
    ps.Pairwise (fun p q => p.start + p.range.length < q.start) ∧
      ∀ p ∈ ps, p.start + p.range.length ≤ place := by
  induction h with
  | nil => exact ⟨.nil, by simp⟩
  | @concat ps place p middle before hseek hheads hstart ih =>
    obtain ⟨hpairwise, hle⟩ := ih
    -- the lines take up some bytes at least
    have hlt : place < p.start := by
      obtain ⟨lines, line, hlines, hne, -⟩ := hseek.exists_blank hheads
      have hlen := congrArg List.length hlines
      have hpos := List.length_pos_of_ne_nil hne
      simp only [List.length_append, List.length_drop] at hlen
      omega
    refine ⟨List.pairwise_append.mpr ⟨hpairwise, List.pairwise_singleton _ _, ?_⟩, ?_⟩
    · intro q hq p' hp'
      obtain rfl := List.mem_singleton.mp hp'
      have := hle q hq
      omega
    · intro q hq
      rcases List.mem_append.mp hq with hq | hq
      · have := hle q hq
        omega
      · obtain rfl := List.mem_singleton.mp hq
        exact le_rfl

lemma Framed.forall (h : Framed W delimiter ps place) : ∀ p ∈ ps, p.range.Valid ∧
    ∃ before line, W = before ++ line ++ W.drop p.start ∧ IsLine line (W.drop p.start) ∧
      textOf line = [] := by
  induction h with
  | nil => simp
  | @concat ps place p middle before hseek hheads hstart ih =>
    intro q hq
    rcases List.mem_append.mp hq with hq | hq
    · exact ih q hq
    · obtain rfl := List.mem_singleton.mp hq
      refine ⟨hheads.valid (by simp), ?_⟩
      obtain ⟨lines, line, hlines, -, hblank⟩ := hseek.exists_blank hheads
      rw [List.append_assoc] at hlines
      exact ⟨W.take place ++ lines, line, by simpa using eq_append_of_drop hlines, hblank⟩

lemma Framed.place_concat {p : Placed} (h : Framed W delimiter (ps ++ [p]) place) :
    place = p.start + p.range.length := by
  generalize hqs : ps ++ [p] = qs at h
  cases h with
  | nil => simp at hqs
  | concat =>
    obtain ⟨-, hp⟩ := List.append_inj' hqs rfl
    obtain rfl := List.singleton_inj.mp hp
    rfl

/-- Where a history has come to: its parts stand in `W` with the bytes that were read of them, and
what is left of the last one lies between the reader and its end. -/
structure Follows (W : List UInt8) (delimiter : List Char) (seen : List Seen) (place : ℕ)
    (m : Multipart) : Prop where
  framed : Framed W delimiter (seen.map Seen.toPlaced) place
  got : ∀ p ∈ seen, p.got = (W.drop p.start).take p.got.length ∧ p.got.length ≤ p.range.length
  parsing : m.delimiter = delimiter ∧ m.started = !seen.isEmpty
  reading : m.finished = false → ∃ here, here + m.remaining = place ∧ here ≤ W.length ∧
    m.reader.Holds (W.drop here) ∧ ∀ p ∈ seen.getLast?, p.start + p.got.length = here
  closing : m.finished = true → ∃ before line, W = before ++ line ++ m.reader.rest ∧
    IsLine line m.reader.rest ∧ Closes delimiter (textOf line)

namespace Follows

lemma place_eq {p : Seen} (h : Follows W delimiter (seen ++ [p]) place m) :
    place = p.start + p.range.length := by
  have hframed := h.framed
  rw [List.map_append] at hframed
  exact hframed.place_concat

lemma part (h : Follows W delimiter seen place m) (hnext : m.next = (.ok (some r), m')) :
    ∃ place', Follows W delimiter
      (seen ++ [⟨⟨r, W.length - m'.reader.rest.length⟩, []⟩]) place' m' := by
  have hopen := unfinished_of_next hnext
  obtain ⟨here, rfl, -, hholds, -⟩ := h.reading hopen
  obtain ⟨middle, c, hseek, hheads, hc, rfl⟩ := next_some_sound hholds hopen hnext
  rw [h.parsing.1, h.parsing.2, List.drop_drop] at hseek
  dsimp only
  -- what is left of the bytes tells the place of the reader
  set start := W.length - c.rest.length with hstart
  have hle : start ≤ W.length := Nat.sub_le _ _
  have hdrop : W.drop start = c.rest := by
    obtain ⟨lines, line, hlines, -⟩ := hseek.exists_blank hheads
    exact (List.suffix_iff_eq_drop.mp ⟨_, (eq_append_of_drop hlines).symm⟩).symm
  rw [← hdrop] at hheads hc
  refine ⟨start + r.length, ?_, ?_, ⟨h.parsing.1, by simp⟩, fun _ => ?_, fun hfinished => ?_⟩
  · rw [List.map_append]
    exact .concat h.framed (by simpa using hseek) hheads hle
  · intro p hp
    rcases List.mem_append.mp hp with hp | hp
    · exact h.got p hp
    · obtain rfl := List.mem_singleton.mp hp
      exact ⟨rfl, Nat.zero_le _⟩
  · exact ⟨start, rfl, hle, hc, by simp⟩
  · rw [hopen] at hfinished
    cases hfinished

lemma closed (h : Follows W delimiter seen place m) (hnext : m.next = (.ok none, m')) :
    Follows W delimiter seen place m' := by
  rcases Bool.eq_false_or_eq_true m.finished with hfinished | hopen
  · rw [next_of_finished hfinished] at hnext
    exact (Prod.mk.inj hnext).2 ▸ h
  obtain ⟨here, rfl, -, hholds, -⟩ := h.reading hopen
  obtain ⟨c, hseek, rfl⟩ := next_none_sound hholds hopen hnext
  obtain ⟨before, line, hlines, hclosing⟩ := hseek.exists_closing rfl
  rw [List.drop_drop] at hlines
  rw [h.parsing.1] at hclosing
  have hbehind := eq_append_of_drop hlines
  exact ⟨h.framed, h.got, ⟨h.parsing.1, h.parsing.2⟩, by simp, fun _ =>
    ⟨W.take (here + m.remaining) ++ before, line, by simpa using hbehind, hclosing⟩⟩

lemma read {p : Seen} (h : Follows W delimiter (seen ++ [p]) place m) (hopen : m.finished = false)
    (hn : 0 < n) (hread : (m.body observed).read n = (.ok got, body)) :
    Follows W delimiter (seen ++ [{ p with got := p.got ++ got }]) place (m.resume body) := by
  obtain ⟨here, hplace, hle, hholds, hlast⟩ := h.reading hopen
  have hhere : p.start + p.got.length = here := hlast p (by simp)
  obtain ⟨hgot, hlen⟩ := h.got p (by simp)
  have hframed : Framed W delimiter
      ((seen ++ [{ p with got := p.got ++ got }]).map Seen.toPlaced) place := by
    have := h.framed
    rwa [List.map_append] at this ⊢
  have hend := h.place_eq
  have hread := readOn_of_read hread
  rcases readOn_cases hholds hn observed with ⟨hzero, hread'⟩ | ⟨-, -, e, b, hread', -⟩ |
    ⟨hpos, hne, got', b, hread', -, -, hle', htake, hholds', hbound⟩
  · -- at the end of the part the reader stays where it is
    rw [hread] at hread'
    obtain ⟨h1, rfl⟩ := Prod.mk.inj hread'
    obtain rfl := Except.ok.inj h1
    rw [List.append_nil]
    exact h
  · rw [hread] at hread'
    cases (Prod.mk.inj hread').1
  · rw [hread] at hread'
    obtain ⟨h1, rfl⟩ := Prod.mk.inj hread'
    obtain rfl := Except.ok.inj h1
    have hresume : m.resume body =
        { m with reader := body.reader, remaining := m.remaining - got.length } := by
      rw [resume, hbound]
    have hstep := congrArg List.length htake
    rw [List.length_take, List.length_drop] at hstep
    have hmore : p.got.length + got.length ≤ p.range.length := by omega
    rw [hresume]
    refine ⟨hframed, ?_, ⟨h.parsing.1, ?_⟩, fun _ => ?_, fun hfinished => ?_⟩
    · intro q hq
      rcases List.mem_append.mp hq with hq | hq
      · exact h.got q (List.mem_append_left _ hq)
      · obtain rfl := List.mem_singleton.mp hq
        exact ⟨append_eq_take hgot (hhere ▸ htake), List.length_append.trans_le hmore⟩
    · exact h.parsing.2.trans (by cases seen <;> rfl)
    · refine ⟨here + got.length, ?_, ?_, ?_, ?_⟩
      · dsimp only
        omega
      · omega
      · rw [← List.drop_drop]
        exact hholds'
      · intro q hq
        obtain rfl : _ = q := by simpa using hq
        dsimp only
        rw [List.length_append]
        omega
    · rw [hopen] at hfinished
      cases hfinished

lemma interrupted (h : Follows W delimiter seen place m) (hopen : m.finished = false) (hn : 0 < n)
    (hread : (m.body observed).read n = (.error .interrupted, body)) :
    Follows W delimiter seen place (m.resume body) := by
  obtain ⟨here, hplace, hle, hholds, hlast⟩ := h.reading hopen
  obtain rfl := interrupted_of_read hholds hn hread
  rw [resume_interrupted]
  have hholds' : m.reader.interrupted.Holds (W.drop here) :=
    hholds.rest ▸ hholds.of_precedes m.reader.precedes_interrupted
  exact ⟨h.framed, h.got, h.parsing, fun _ => ⟨here, hplace, hle, hholds', hlast⟩, h.closing⟩

end Follows

/-- Whatever is asked for and read, the history follows the bytes. -/
lemma Reached.exists_follows {capacity : ℕ} {source : Source} {boundary : String}
    (h : Reached source.rest (ofReader (.ofSource capacity source) boundary) seen m)
    (hroom : 0 < capacity) (hend : source.ending = none) :
    ∃ place, Follows source.rest ("--".toList ++ boundary.toList) seen place m := by
  induction h with
  | opened =>
    exact ⟨0, .nil, by simp, ⟨rfl, rfl⟩,
      fun _ => ⟨0, rfl, Nat.zero_le _, ⟨⟨hroom, rfl⟩, hend⟩, by simp⟩,
      fun hfinished => nomatch hfinished⟩
  | part _ hnext ih =>
    obtain ⟨place, hfollows⟩ := ih
    exact hfollows.part hnext
  | closed _ hnext ih =>
    obtain ⟨place, hfollows⟩ := ih
    exact ⟨place, hfollows.closed hnext⟩
  | read _ hopen hn hread ih =>
    obtain ⟨place, hfollows⟩ := ih
    exact ⟨place, hfollows.read hopen hn hread⟩
  | interrupted _ hopen hn hread ih =>
    obtain ⟨place, hfollows⟩ := ih
    exact ⟨place, hfollows.interrupted hopen hn hread⟩

/-! ### Without room -/

lemma next_without_room (hcapacity : m.reader.capacity = 0) (hpending : m.reader.pending = [])
    (hopen : m.finished = false) (hremaining : m.remaining = 0) {found : Option ByteRange} :
    m.next ≠ (.ok found, m') := by
  intro hnext
  obtain ⟨_, _, d, another, c, hskip, hseek, -⟩ := exists_seek_of_next hopen hnext
  rw [hremaining, Buffered.readUpTo, Buffered.gather, if_pos rfl] at hskip
  obtain rfl := (Prod.mk.inj hskip).2
  obtain ⟨text, e, hline, -⟩ := exists_readLine_of_seekPart hseek
  exact readLine_without_room hcapacity hpending hline

lemma Reached.without_room {source : Source} {boundary : String}
    (h : Reached source.rest (ofReader (.ofSource 0 source) boundary) seen m) :
    seen = [] ∧ m = ofReader (.ofSource 0 source) boundary := by
  generalize hfirst : ofReader (.ofSource 0 source) boundary = first at h
  induction h with
  | opened => exact ⟨rfl, rfl⟩
  | part _ hnext ih | closed _ hnext ih =>
    obtain ⟨-, rfl⟩ := ih
    subst hfirst
    exact absurd hnext (next_without_room rfl rfl rfl rfl)
  | read _ _ _ _ ih | interrupted _ _ _ _ ih => simp at ih

/-! ### To the end -/

lemma rest_of_next (hnext : m.next = (.ok (some r), m')) :
    m'.reader.rest.length < m.reader.rest.length := by
  have hopen := unfinished_of_next hnext
  obtain ⟨_, _, d, another, c, hskip, hseek, hnone, hsome⟩ := exists_seek_of_next hopen hnext
  have hskipped := m.reader.precedes_gather m.remaining #[] #[]
  rw [← Buffered.readUpTo, hskip] at hskipped
  obtain ⟨text, e, hline, hsought⟩ := exists_readLine_of_seekPart hseek
  have hless := rest_of_readLine hline
  cases another with
  | false => cases (hnone rfl).1
  | true =>
    obtain ⟨q, c', hheader, -, rfl⟩ := hsome rfl
    have hheaded := precedes_readHeader none c
    rw [hheader] at hheaded
    exact (hsought.trans hheaded).length_le.trans_lt (hless.trans_le hskipped.length_le)

lemma exists_last_next (m : Multipart) :
    ∃ k ≤ m.reader.rest.length, ∀ r, ((fun m => m.next.2)^[k] m).next.1 ≠ .ok (some r) := by
  induction hk : m.reader.rest.length using Nat.strong_induction_on generalizing m with
  | _ k ih =>
    by_cases hlast : ∀ r, m.next.1 ≠ .ok (some r)
    · exact ⟨0, Nat.zero_le _, hlast⟩
    · obtain ⟨r, hr⟩ := not_forall_not.mp hlast
      have hnext : m.next = (.ok (some r), m.next.2) := Prod.ext hr rfl
      have hless := hk ▸ rest_of_next hnext
      obtain ⟨j, hj, hlast⟩ := ih _ hless m.next.2 rfl
      exact ⟨j + 1, by omega, hlast⟩

lemma finished_of_next (hnext : m.next = (.ok none, m')) : m'.finished = true := by
  rcases Bool.eq_false_or_eq_true m.finished with hfinished | hopen
  · rw [next_of_finished hfinished] at hnext
    exact (Prod.mk.inj hnext).2 ▸ hfinished
  · obtain ⟨_, _, d, another, c, -, -, hnone, hsome⟩ := exists_seek_of_next hopen hnext
    cases another with
    | false => rw [(hnone rfl).2]
    | true =>
      obtain ⟨q, c', -, hq, -⟩ := hsome rfl
      cases hq

/-- What the parts of any body must be like, and what comes next. -/
structure Parses (W : List UInt8) (delimiter : List Char) (seen : List Seen) (m : Multipart) :
    Prop where
  framed : ∃ place, Framed W delimiter (seen.map Seen.toPlaced) place
  apart : seen.Pairwise fun p q => p.start + p.range.length < q.start
  valid : ∀ p ∈ seen, p.range.Valid
  header : ∀ p ∈ seen, ∃ before line, W = before ++ line ++ W.drop p.start ∧
    IsLine line (W.drop p.start) ∧ textOf line = []
  got : ∀ p ∈ seen, p.got = (W.drop p.start).take p.got.length ∧ p.got.length ≤ p.range.length
  /-- Of a part that is read no further than its range there is more, as long as the bytes last. A
  read may be interrupted, but only as often as the source is. -/
  reads : ∀ p ∈ seen.getLast?, m.finished = false → ∀ n > 0, ∀ observed,
    (∃ body, (m.body observed).read n = (.error .interrupted, body) ∧
      (m.resume body).reader.source.interruptions < m.reader.source.interruptions) ∨
    (p.got.length = p.range.length ∧ (m.body observed).read n = (.ok [], m.body observed)) ∨
    (p.got.length < p.range.length ∧ W.length ≤ p.start + p.got.length ∧
      ∃ e body, (m.body observed).read n = (.error e, body) ∧ e.kind = .unexpectedEnd) ∨
    (p.got.length < p.range.length ∧ p.start + p.got.length < W.length ∧
      ∃ got body, (m.body observed).read n = (.ok got, body) ∧ got ≠ [] ∧ got.length ≤ n)
  closing : ∀ m', m.next = (.ok none, m') → m'.next = (.ok none, m') ∧
    ∃ before line, W = before ++ line ++ m'.reader.rest ∧ IsLine line m'.reader.rest ∧
      Closes delimiter (textOf line)
  ends : ∃ k ≤ m.reader.rest.length, ∀ r, ((fun m => m.next.2)^[k] m).next.1 ≠ .ok (some r)

lemma Follows.parses (h : Follows W delimiter seen place m) : Parses W delimiter seen m where
  framed := ⟨place, h.framed⟩
  apart := List.pairwise_map.mp h.framed.pairwise.1
  valid p hp := (h.framed.forall p.toPlaced (List.mem_map_of_mem hp)).1
  header p hp := (h.framed.forall p.toPlaced (List.mem_map_of_mem hp)).2
  got := h.got
  reads p hp hopen n hn observed := by
    obtain ⟨here, hplace, hle, hholds, hlast⟩ := h.reading hopen
    have hhere := hlast p hp
    obtain ⟨before, rfl⟩ := List.getLast?_eq_some_iff.mp hp
    have hend := h.place_eq
    rcases (m.body observed).read_cases n with heq | ⟨hinterrupted, heq, -⟩
    swap
    · have hfewer : m.reader.interrupted.source.interruptions + 1 = m.reader.source.interruptions :=
        Buffered.interruptions_interrupted hinterrupted
      exact .inl ⟨_, heq, Nat.lt_of_succ_le hfewer.le⟩
    rw [heq]
    refine .inr ?_
    rcases readOn_cases hholds hn observed with ⟨hzero, hread⟩ |
      ⟨hpos, hnil, e, body, hread, hkind⟩ | ⟨hpos, hne, got, body, hread, hgot, hlen, -⟩
    · exact .inl ⟨by omega, hread⟩
    · rw [List.drop_eq_nil_iff] at hnil
      exact .inr (.inl ⟨by omega, by omega, e, body, hread, hkind⟩)
    · rw [ne_eq, List.drop_eq_nil_iff] at hne
      exact .inr (.inr ⟨by omega, by omega, got, body, hread, hgot, hlen⟩)
  closing m' hnext :=
    ⟨next_of_finished (finished_of_next hnext), (h.closed hnext).closing (finished_of_next hnext)⟩
  ends := exists_last_next m

/-- **Whatever the bytes are**, and however one asks for parts and reads of them up to the first
failure: the parts stand one behind the other with their header lines between them, their bytes are
read and not those of a line, and the parts come to an end. -/
theorem parses_any_bytes {capacity : ℕ} {source : Source} {boundary : String}
    (hend : source.ending = none)
    (h : Reached source.rest (ofReader (.ofSource capacity source) boundary) seen m) :
    Parses source.rest ("--".toList ++ boundary.toList) seen m := by
  rcases Nat.eq_zero_or_pos capacity with rfl | hroom
  · obtain ⟨rfl, rfl⟩ := h.without_room
    exact ⟨⟨0, .nil⟩, .nil, by simp, by simp, by simp, by simp,
      fun m' hnext => absurd hnext (next_without_room rfl rfl rfl rfl), exists_last_next _⟩
  · obtain ⟨place, hfollows⟩ := h.exists_follows hroom hend
    exact hfollows.parses

/-- A part that looks like a delimiter, behind a line end. -/
def lookAlikeBody : Source := ⟨crlf ++ encode "B" [lookAlike], [.short 2], none⟩

/-- Some of its bytes are read before what follows is asked for. -/
theorem parses_a_look_alike : lookAlikeBody.ending = none ∧ ∃ p m, p.range = ⟨4, 6⟩ ∧ p.got ≠ [] ∧
    Reached lookAlikeBody.rest (ofReader (.ofSource 1 lookAlikeBody) "B") [p] m ∧
    Parses lookAlikeBody.rest ("--".toList ++ "B".toList) [p] m ∧
    ∃ m', m.next = (.ok none, m') := by
  have hstart : Stands "B" [] 1 [lookAlike] [] (ofReader (.ofSource 1 lookAlikeBody) "B") :=
    ⟨rfl, rfl, rfl, Nat.one_pos, by
      simp [ofReader, Buffered.ofSource, Buffered.rest, lookAlikeBody]⟩
  obtain ⟨m, hnext, h⟩ := hstart.exists_next_cons isBoundary_letter legal_lookAlike
  have hprec := (next_some hnext).1
  have hquiet : m.reader.isInterrupted = false := by
    by_contra hinterrupted
    have hfewer := Buffered.interruptions_interrupted (Bool.eq_true_of_not_eq_false hinterrupted)
    have hnone := hprec.interruptions_le
    exact absurd (hfewer.trans_le hnone) (Nat.not_succ_le_zero _)
  have hleft : 0 < m.remaining := h.remaining ▸ by decide
  rcases readOn_cases ⟨h.reader, hprec.ending⟩ Nat.two_pos false with ⟨hzero, -⟩ | ⟨-, hnil, -⟩ |
    ⟨-, -, got, body, hread, hgot, -, hle, -, hholds, hbound⟩
  · omega
  · simp [lookAlike, ascii] at hnil
  have hread : (m.body false).read 2 = (.ok got, body) := by
    rcases (m.body false).read_cases 2 with heq | ⟨hinterrupted, -⟩
    · exact heq.trans hread
    · exact absurd (hquiet.symm.trans hinterrupted) (by decide)
  have hpart := Reached.part (W := lookAlikeBody.rest) .opened hnext
  have hreached := hpart.read h.unfinished Nat.two_pos hread
  have hstands : Stands "B" (lookAlike.body.drop got.length) 1 [] [] (m.resume body) := by
    rw [h.remaining] at hle hbound
    refine ⟨h.delimiter, h.unfinished, ?_, ?_⟩
    · rw [resume, hbound, List.length_drop]
    · simp only [List.append_assoc] at hholds ⊢
      rw [← List.drop_append_of_le_length hle]
      exact hholds.toReady
  obtain ⟨m', hlast, -⟩ := hstands.exists_next_nil isBoundary_letter
  exact ⟨rfl, _, _, rfl, hgot, hreached, parses_any_bytes rfl hreached, m', hlast⟩

end SeedSync.Multipart
