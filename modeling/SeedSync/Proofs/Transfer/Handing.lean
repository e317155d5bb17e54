import Mathlib
import SeedSync.Proofs.Transfer.Client
import SeedSync.Proofs.Transfer.Multipart

/-!
What a client hands to a receiver as the body of a range, whatever a server sends: what its reads
give, and where it keeps the promise that they give the bytes of the range, and fail if these do not
all arrive.
-/

namespace SeedSync

/-! ### What is promised of a body -/

namespace Body

/-- What a body of `n` bytes owes to its reader: it gives the next `n` bytes of those that arrive
and nothing more, or, if there are fewer, all of these and then a failure. Just so many of the reads
may be interrupted. -/
def Honours (b : Body) (n : ℕ) : Prop :=
  ∃ (behind : Option IoError) (k : ℕ), (behind = none ↔ n ≤ b.reader.rest.length) ∧
    ∀ sizes : List ℕ, (∀ i ∈ sizes, 0 < i) →
      Gives behind k (b.reader.rest.take n) sizes (b.reads sizes).1

/-- Reads show what the bytes are and what lies behind them, if there are enough reads. -/
lemma Gives.unique {behind behind' : Option IoError} {k k' : ℕ} {bytes bytes' : List UInt8}
    {sizes : List ℕ} {answers : List (Except IoError (List UInt8))}
    (h : Gives behind k bytes sizes answers) (h' : Gives behind' k' bytes' sizes answers)
    (hlen : bytes.length + k + (bytes'.length + k') < sizes.length) :
    bytes = bytes' ∧ behind = behind' := by
  induction h generalizing bytes' k' with
  | rest => simp at hlen
  | @some k n got bytes sizes answers hne _ _ ih =>
    generalize hfirst : (Except.ok got :: answers : List (Except IoError (List UInt8))) = all at h'
    cases h' with
    | some _ _ more' =>
      obtain ⟨hgot, rfl⟩ := List.cons.inj hfirst
      obtain rfl := Except.ok.inj hgot
      simp only [List.length_append, List.length_cons] at hlen
      have := List.length_pos_of_ne_nil hne
      obtain ⟨rfl, rfl⟩ := ih more' (by omega)
      exact ⟨rfl, rfl⟩
    | none more' =>
      cases behind' with
      | none => exact absurd (Except.ok.inj (List.cons.inj hfirst).1) hne
      | some e => cases hfirst
    | interrupted => cases hfirst
  | @none k n sizes answers _ ih =>
    generalize hfirst : behind.elim (.ok []) .error :: answers = all at h'
    cases h' with
    | some hne _ _ =>
      cases behind with
      | none => exact absurd (Except.ok.inj (List.cons.inj hfirst).1).symm hne
      | some e => cases hfirst
    | none _ =>
      refine ⟨rfl, ?_⟩
      cases behind <;> cases behind' <;> simp_all
    | interrupted more' =>
      -- the failure may itself be called an interruption, but there are only so many of these
      obtain ⟨-, rfl⟩ := List.cons.inj hfirst
      exact ih more' (by simp only [List.length_cons] at hlen; omega)
  | @interrupted k n bytes sizes answers _ ih =>
    generalize hfirst :
      (Except.error .interrupted :: answers : List (Except IoError (List UInt8))) = all at h'
    cases h' with
    | some => cases hfirst
    | none more' | interrupted more' =>
      obtain ⟨-, rfl⟩ := List.cons.inj hfirst
      exact ih more' (by simp only [List.length_cons] at hlen ⊢; omega)

variable {b : Body} {n : ℕ}

/-- The promise is kept just if the body has the right bytes, and something fails behind them just
if there are too few. -/
lemma honours_iff : b.Honours n ↔
    b.bytes = b.reader.rest.take n ∧ (b.behind = none ↔ n ≤ b.reader.rest.length) := by
  constructor
  · rintro ⟨behind, k, hbehind, hgives⟩
    set j := b.reader.source.interruptions with hj
    set enough := List.replicate (b.bytes.length + j + ((b.reader.rest.take n).length + k) + 1) 1
    have hpos : ∀ i ∈ enough, 0 < i := fun i hi => by simp [List.eq_of_mem_replicate hi]
    obtain ⟨hbytes, rfl⟩ :=
      (gives_reads b hj.ge hpos).unique (hgives enough hpos) (by simp [enough])
    exact ⟨hbytes, hbehind⟩
  · rintro ⟨hbytes, hbehind⟩
    exact ⟨b.behind, _, hbehind, fun sizes hsizes => hbytes ▸ gives_reads b le_rfl hsizes⟩

/-- A body that is cut off where it begins does not keep a promise of any byte. -/
lemma not_honours_of_no_room (hn : 0 < n) (h : b.bound = .exactly 0 ∨ b.bound = .upTo 0) :
    ¬ b.Honours n := by
  have hbytes : b.bytes = [] := by rcases h with h | h <;> simp [bytes, h]
  have hbehind : b.behind = none := by rcases h with h | h <;> simp [behind, h]
  rw [honours_iff, hbytes, hbehind]
  rintro ⟨htake, henough⟩
  have hrest : b.reader.rest = [] := (List.take_eq_nil_iff.mp htake.symm).resolve_left hn.ne'
  have := henough.mp rfl
  rw [hrest, List.length_nil] at this
  omega

/-- A part of a multipart body keeps the promise, if its length fits. -/
lemma honours_iff_of_exactly {q : ByteRange} (hq : q.Valid) (h : b.bound = .exactly q.length) :
    b.Honours q.extent ↔ q.extent < UInt64.size := by
  rcases hq.length_cases with ⟨hfits, hlength⟩ | ⟨hall, hlength⟩
  · rw [honours_iff, bytes, behind, h, hlength]
    simp [hfits]
  · rw [hlength] at h
    exact iff_of_false (not_honours_of_no_room (Nat.succ_pos _) (.inl h)) hall.not_lt

/-- A stretch of a longer body keeps it if, besides, that body does not just end too early. -/
lemma honours_iff_of_upTo {q : ByteRange} (hq : q.Valid) (h : b.bound = .upTo q.length) :
    b.Honours q.extent ↔ q.extent < UInt64.size ∧
      (q.extent ≤ b.reader.rest.length ∨ b.reader.source.ending ≠ none) := by
  rcases hq.length_cases with ⟨hfits, hlength⟩ | ⟨hall, hlength⟩
  · rw [honours_iff, bytes, behind, h, hlength]
    by_cases hn : q.extent ≤ b.reader.rest.length <;> simp [hn, hfits]
  · rw [hlength] at h
    exact iff_of_false (not_honours_of_no_room (Nat.succ_pos _) (.inr h)) fun h => hall.not_lt h.1

/-- A whole response keeps it if it happens to be as long, or breaks off. -/
lemma honours_iff_of_whole (h : b.bound = .whole) : b.Honours n ↔
    b.reader.rest.length = n ∧ b.reader.source.ending = none ∨
      b.reader.rest.length < n ∧ b.reader.source.ending ≠ none := by
  rw [honours_iff, bytes, behind, h]
  dsimp only
  rw [eq_comm, List.take_eq_self_iff]
  by_cases hending : b.reader.source.ending = none
  · simp only [hending, true_iff, ne_eq, not_true_eq_false, and_false, or_false, and_true]
    exact Nat.le_antisymm_iff.symm
  · simp only [hending, false_iff, and_false, false_or, ne_eq, not_false_eq_true, and_true,
      Nat.not_le]
    omega

end Body

/-! ### Receivers side by side -/

namespace RangeReceiver

variable {ρ σ : Type} [RangeReceiver ρ] [RangeReceiver σ]

/-- One receiver does what the other one does, as far as the first one shows. -/
structure Maps (f : σ → ρ) : Prop where
  receive : ∀ x r body, receive (f x) r body = Prod.map id (Prod.map f id) (receive x r body)
  note : ∀ x e, note (f x) e = f (note x e)

namespace Maps

variable {f : σ → ρ}

lemma receiveParts (hf : Maps f) (fuel : ℕ) (m : Multipart) (x : σ) :
    Client.receiveParts fuel m (f x) = Prod.map id f (Client.receiveParts fuel m x) := by
  induction fuel generalizing m x with
  | zero => rfl
  | succ fuel ih =>
    rw [Client.receiveParts, Client.receiveParts]
    split
    · rfl
    · rfl
    · next r m' _ =>
      rw [hf.receive]
      generalize RangeReceiver.receive x r (m'.body true) = result
      obtain ⟨_ | _, y, body⟩ := result
      · rfl
      · exact ih (m'.resume body) y

lemma receivePartial (hf : Maps f) (r : Response) (x : σ) :
    Client.receivePartial r (f x) = Prod.map id f (Client.receivePartial r x) := by
  rw [Client.receivePartial, Client.receivePartial]
  split
  · split
    · rfl
    · exact hf.receiveParts _ _ x
  · split
    · rfl
    · split
      · rfl
      · rw [hf.receive]
        rfl

lemma cutRanges (hf : Maps f) (reader : Buffered) (position : ℕ) (x : σ) (rs : List ByteRange) :
    Client.cutRanges reader position (f x) rs =
      Prod.map id f (Client.cutRanges reader position x rs) := by
  induction rs generalizing reader position x with
  | nil => rfl
  | cons r rs ih =>
    rw [Client.cutRanges, Client.cutRanges]
    split
    · rfl
    split
    · rfl
    next reader' _ =>
    split
    · rfl
    · rw [hf.receive]
      generalize RangeReceiver.receive x r ⟨reader', .upTo r.length, true⟩ = result
      obtain ⟨_ | _, y, body⟩ := result
      · rfl
      · exact ih body.reader r.stop y

lemma partialGet (hf : Maps f) (c : Client) (url : Url) (rs : List ByteRange)
    (credentials : CredentialMap) (x : σ) (download : Download) :
    c.partialGet url rs credentials (f x) download =
      Prod.map id (Prod.map f id) (c.partialGet url rs credentials x download) := by
  rw [Client.partialGet, Client.partialGet]
  split
  · rfl
  dsimp only
  split
  · simp only [hf.note]
    rfl
  · split
    · rw [hf.note, hf.note, hf.receivePartial]
      simp only [Prod.map, hf.note, id]
    · split
      · rw [hf.note, hf.note, Client.receiveFull, hf.cutRanges]
        simp only [Prod.map, hf.note, id]
        rfl
      · simp only [hf.note]
        rfl

end Maps

end RangeReceiver

/-! ### What is handed over -/

/-- A receiver with the record of the ranges that it has been handed, and their bodies as they were
then. -/
structure Logged (ρ : Type) where
  receiver : ρ
  handed : List (ByteRange × Body)

variable {ρ : Type} [RangeReceiver ρ]

instance : RangeReceiver (Logged ρ) where
  receive x r body :=
    let (answer, receiver, left) := RangeReceiver.receive x.receiver r body
    (answer, ⟨receiver, x.handed ++ [(r, body)]⟩, left)
  note x e := { x with receiver := RangeReceiver.note x.receiver e }

lemma Logged.maps : RangeReceiver.Maps (Logged.receiver (ρ := ρ)) where
  receive _ _ _ := rfl
  note _ _ := rfl

/-- A receiver does nothing to the bodies that it is handed but read them. -/
def RangeReceiver.OnlyReads (ρ : Type) [RangeReceiver ρ] : Prop :=
  ∀ (x : ρ) r body, ∃ sizes, (RangeReceiver.receive x r body).2.2 = (body.reads sizes).2

namespace Client

variable {origin : Buffered} {x : Logged ρ}

/-- The bodies come out of what a reader gives, and end where it fits their ranges. -/
def FromReader (origin : Buffered) (fits : ByteRange → Bound → Prop)
    (handed : List (ByteRange × Body)) : Prop :=
  ∀ q body, (q, body) ∈ handed → origin.Precedes body.reader ∧ fits q body.bound

lemma FromReader.concat {fits : ByteRange → Bound → Prop} {handed : List (ByteRange × Body)}
    {r : ByteRange} {body : Body} (h : FromReader origin fits handed)
    (hbody : origin.Precedes body.reader) (hbound : fits r body.bound) :
    FromReader origin fits (handed ++ [(r, body)]) := by
  intro q b hp
  rcases List.mem_append.mp hp with hp | hp
  · exact h q b hp
  · obtain ⟨rfl, rfl⟩ := Prod.mk.inj (List.mem_singleton.mp hp)
    exact ⟨hbody, hbound⟩

lemma precedes_receive (hreads : RangeReceiver.OnlyReads ρ) (x : Logged ρ) (r : ByteRange)
    {body : Body} (h : origin.Precedes body.reader) :
    origin.Precedes (RangeReceiver.receive x r body).2.2.reader := by
  obtain ⟨sizes, hleft⟩ := hreads x.receiver r body
  have hreader : (RangeReceiver.receive x r body).2.2 = (body.reads sizes).2 := hleft
  rw [hreader]
  exact h.trans (Body.precedes_reads body sizes)

lemma handed_receiveParts (hreads : RangeReceiver.OnlyReads ρ) (fuel : ℕ) {m : Multipart}
    (hm : origin.Precedes m.reader)
    (h : FromReader origin (fun q bound => bound = .exactly q.length ∧ q.Valid) x.handed) :
    FromReader origin (fun q bound => bound = .exactly q.length ∧ q.Valid)
      (receiveParts fuel m x).2.handed := by
  induction fuel generalizing m x with
  | zero => exact h
  | succ fuel ih =>
    rw [receiveParts]
    split
    · exact h
    · exact h
    next r m' hnext =>
    obtain ⟨hstep, hremaining, hvalid⟩ := Multipart.next_some hnext
    have hbody : origin.Precedes (m'.body true).reader := hm.trans hstep
    have hleft := precedes_receive hreads x r hbody
    have hlogged := h.concat (r := r) hbody ⟨congrArg Bound.exactly hremaining, hvalid⟩
    change FromReader origin _ (RangeReceiver.receive x r (m'.body true)).2.1.handed at hlogged
    generalize RangeReceiver.receive x r (m'.body true) = result at hleft hlogged
    obtain ⟨_ | _, y, left⟩ := result
    · exact hlogged
    · exact ih (m := m'.resume left) hleft hlogged

/-- Of a whole body only ranges that have been asked for are handed over, and no more bytes than
these are long. -/
lemma handed_cutRanges (hreads : RangeReceiver.OnlyReads ρ) (ranges : List ByteRange)
    {reader : Buffered} (position : ℕ) (hm : origin.Precedes reader) {rs : List ByteRange}
    (hrs : ∀ r ∈ rs, r ∈ ranges)
    (h : FromReader origin (fun q bound => q ∈ ranges ∧ bound = .upTo q.length) x.handed) :
    FromReader origin (fun q bound => q ∈ ranges ∧ bound = .upTo q.length)
      (cutRanges reader position x rs).2.handed := by
  induction rs generalizing reader position x with
  | nil => exact h
  | cons r rs ih =>
    rw [cutRanges]
    split
    · exact h
    have hskip : reader.Precedes (reader.readUpTo (r.first - position)).2 :=
      Buffered.precedes_gather _ _ _ _
    split
    · exact h
    next skipped reads reader' hd =>
    rw [hd] at hskip
    split
    · exact h
    have hbody : origin.Precedes (⟨reader', .upTo r.length, true⟩ : Body).reader := hm.trans hskip
    have hleft := precedes_receive hreads x r hbody
    have hlogged := h.concat (r := r) hbody ⟨hrs r List.mem_cons_self, rfl⟩
    change FromReader origin _
      (RangeReceiver.receive x r ⟨reader', .upTo r.length, true⟩).2.1.handed at hlogged
    generalize RangeReceiver.receive x r ⟨reader', .upTo r.length, true⟩ = result at hleft hlogged
    obtain ⟨_ | _, y, left⟩ := result
    · exact hlogged
    · exact ih r.stop hleft (fun q hq => hrs q (List.mem_cons_of_mem r hq)) hlogged

end Client

/-- The response says that its body is in parts. -/
def Response.IsInParts (r : Response) : Prop :=
  ((r.header? "content-type").filter Multipart.isMultipart).isSome

namespace Client

/-- How a body that is handed over as that of the range `q` comes out of a response: as a part of a
multipart body, as the whole of a partial one, or as a stretch of a whole one. Only the first kind
keeps what is promised, whatever arrives, unless the length of the range does not fit: a part with
the range of all places is empty. -/
inductive HandsOver (r : Response) (ranges : List ByteRange) (q : ByteRange) (body : Body) : Prop
  | part (hstatus : r.status = 206) (hparts : r.IsInParts) (hvalid : q.Valid)
    (honours_iff : body.Honours q.extent ↔ q.extent < UInt64.size)
  | alone (hstatus : r.status = 206) (hparts : ¬ r.IsInParts)
    (hrange : ∃ value, r.header? "content-range" = some value ∧ ByteRange.parse value = .ok q)
    (hwhole : body.reader.rest = r.body.rest)
    (honours_iff : body.Honours q.extent ↔
      r.body.rest.length = q.extent ∧ r.body.ending = none ∨
        r.body.rest.length < q.extent ∧ r.body.ending ≠ none)
  | stretch (hstatus : r.status = 200) (hasked : q ∈ ranges)
    (honours_iff : q.Valid → (body.Honours q.extent ↔ q.extent < UInt64.size ∧
      (q.extent ≤ body.reader.rest.length ∨ r.body.ending ≠ none)))

variable {x : Logged ρ} {r : Response} {ranges : List ByteRange} {q : ByteRange} {body : Body}

lemma handsOver_of_receivePartial (hreads : RangeReceiver.OnlyReads ρ) (hstatus : r.status = 206)
    (ranges : List ByteRange) (hx : x.handed = [])
    (h : (q, body) ∈ (receivePartial r x).2.handed) :
    (∃ before, r.body.rest = before ++ body.reader.rest) ∧ HandsOver r ranges q body := by
  have hnone {P : Prop} (hmem : (q, body) ∈ x.handed) : P := by
    rw [hx] at hmem
    cases hmem
  rw [receivePartial] at h
  split at h
  · next contentType htype =>
    split at h
    · exact hnone h
    · next boundary _ =>
      obtain ⟨hfrom, hbound, hvalid⟩ :=
        handed_receiveParts hreads _ (.refl _) (by simp [FromReader, hx]) q body h
      exact ⟨hfrom.rest, .part hstatus (by simp [Response.IsInParts, htype]) hvalid
        (Body.honours_iff_of_exactly hvalid hbound)⟩
  · next htype =>
    split at h
    · exact hnone h
    next value hvalue =>
    split at h
    · exact hnone h
    next range hrange =>
    have hmem : (q, body) ∈ x.handed ++ [(range, .ofSource r.body true)] := h
    rw [hx, List.nil_append, List.mem_singleton] at hmem
    obtain ⟨rfl, rfl⟩ := Prod.mk.inj hmem
    exact ⟨⟨[], rfl⟩, .alone hstatus (by simp [Response.IsInParts, htype])
      ⟨value, hvalue, hrange⟩ rfl (Body.honours_iff_of_whole rfl)⟩

lemma handsOver_of_receiveFull (hreads : RangeReceiver.OnlyReads ρ) (hstatus : r.status = 200)
    (hx : x.handed = []) (h : (q, body) ∈ (receiveFull r ranges x).2.handed) :
    (∃ before, r.body.rest = before ++ body.reader.rest) ∧ HandsOver r ranges q body := by
  obtain ⟨hfrom, hasked, hbound⟩ := handed_cutRanges hreads ranges 0 (.refl _)
    (fun q hq => (List.mergeSort_perm ranges _).mem_iff.mp hq) (by simp [FromReader, hx]) q body h
  refine ⟨hfrom.rest, .stretch hstatus hasked fun hvalid => ?_⟩
  rw [Body.honours_iff_of_upTo hvalid hbound, hfrom.ending]
  rfl

lemma handsOver_of_receiveAnswer (hreads : RangeReceiver.OnlyReads ρ)
    (hstatus : r.status = 206 ∨ r.status = 200) (hx : x.handed = [])
    (h : (q, body) ∈ (receiveAnswer r ranges x).2.handed) :
    (∃ before, r.body.rest = before ++ body.reader.rest) ∧ HandsOver r ranges q body := by
  rw [receiveAnswer] at h
  split at h
  · next h206 => exact handsOver_of_receivePartial hreads h206 ranges hx h
  · next h206 => exact handsOver_of_receiveFull hreads (hstatus.resolve_left h206) hx h

/-- **What a receiver is handed**, whatever the server sends, and whatever the receiver reads of
each body. The record of it does not change the fetch. -/
theorem hands_over_what_arrives (hreads : RangeReceiver.OnlyReads ρ) (c : Client) (url : Url)
    (ranges : List ByteRange) (credentials : CredentialMap) (x : ρ) (download : Download) :
    let fetch := c.partialGet url ranges credentials (⟨x, []⟩ : Logged ρ) download
    c.partialGet url ranges credentials x download = (fetch.1, fetch.2.1.receiver, fetch.2.2) ∧
    ∀ q body, (q, body) ∈ fetch.2.1.handed → ∃ r,
      (c.send url (some (ByteRange.header ranges)) credentials .remoteFileDownload).1 = .ok r ∧
      (∃ before, r.body.rest = before ++ body.reader.rest) ∧ HandsOver r ranges q body := by
  refine ⟨Logged.maps.partialGet c url ranges credentials ⟨x, []⟩ download, fun q body h => ?_⟩
  by_cases hranges : ranges = []
  · subst hranges
    cases h
  rcases partialGet_cases hranges c url credentials (⟨x, []⟩ : Logged ρ) download with
    ⟨e, -, heq⟩ | ⟨r, hsend, hstatus, heq⟩
  · rw [heq] at h
    cases h
  · rw [heq] at h
    exact ⟨r, hsend, handsOver_of_receiveAnswer hreads hstatus rfl h⟩

/-- A receiver that reads once, with a buffer for the whole range. -/
structure Glance where

instance : RangeReceiver Glance where
  receive x r body := (.ok (), x, (body.reads [r.length]).2)
  note x _ := x

lemma onlyReads_glance : RangeReceiver.OnlyReads Glance := fun _ r _ => ⟨[r.length], rfl⟩

/-- A client of a server that answers with these bytes, as the first four. -/
def asFirstFour (bytes : List UInt8) : Client :=
  ⟨"agent", [], ⟨fun _ => true, fun _ => "",
    [.answer ⟨206, [("Content-Range", "bytes 0-3/*")], some bytes.length, .ofBytes bytes⟩], []⟩⟩

def fileOnHost : Url := ⟨"http", "", "", some "host", none, .segments ["file"], none, none⟩

/-- What is handed over when the first four bytes are asked for. -/
def firstFour (c : Client) : List (ByteRange × Body) :=
  (c.partialGet fileOnHost [⟨0, 3⟩] [] (⟨⟨⟩, []⟩ : Logged Glance) (.remoteFile [⟨0, 3⟩])).2.1.handed

theorem hands_over_four_bytes : RangeReceiver.OnlyReads Glance ∧ ∃ body r,
    firstFour (asFirstFour [1, 2, 3, 4]) = [(⟨0, 3⟩, body)] ∧ body.reader.rest = [1, 2, 3, 4] ∧
      HandsOver r [⟨0, 3⟩] ⟨0, 3⟩ body ∧ body.Honours 4 := by
  have hhanded : firstFour (asFirstFour [1, 2, 3, 4]) =
      [(⟨0, 3⟩, .ofSource ⟨[1, 2, 3, 4], [], none⟩ true)] := rfl
  obtain ⟨-, hall⟩ := hands_over_what_arrives onlyReads_glance (asFirstFour [1, 2, 3, 4]) fileOnHost
    [⟨0, 3⟩] [] ⟨⟩ (.remoteFile [⟨0, 3⟩])
  obtain ⟨r, -, -, hover⟩ := hall _ _ (hhanded ▸ List.mem_singleton_self _)
  exact ⟨onlyReads_glance, _, r, hhanded, rfl, hover,
    (Body.honours_iff_of_whole rfl).mpr (.inl ⟨rfl, rfl⟩)⟩

/-- Two bytes in place of four: the reads that follow say that the body is at its end. -/
theorem hands_over_half_of_four_bytes : ∃ body,
    firstFour (asFirstFour [1, 2]) = [(⟨0, 3⟩, body)] ∧ body.reader.rest = [1, 2] ∧
      (body.reads [4, 4]).1 = [.ok [1, 2], .ok []] ∧
      ¬ body.Honours (⟨0, 3⟩ : ByteRange).extent := by
  refine ⟨.ofSource ⟨[1, 2], [], none⟩ true, rfl, rfl, rfl, ?_⟩
  rw [Body.honours_iff_of_whole rfl]
  decide

end Client

end SeedSync
