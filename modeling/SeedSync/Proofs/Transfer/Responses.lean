import Mathlib
import SeedSync.Proofs.Assembly.Receipt
import SeedSync.Proofs.Transfer.Client
import SeedSync.Proofs.Transfer.Multipart

/-!
The responses that bring missing ranges of a target: the whole of it, parts of a multipart body, or
one range by itself. Whatever a server answers with, the assembly comes out the same.
-/

namespace SeedSync.Client

open Assembly Multipart

variable {a : Assembly} {target : List UInt8} {rs : List ByteRange}

/-! ### Ranges out of a whole body -/

/-- What stands between the ranges is skipped, and not reported. -/
lemma exists_cutRanges (h : Sound a) (hlen : a.header.length = target.length)
    (hspans : ∀ r ∈ rs, ∃ f s, Spans a.header r f s)
    (horder : rs.Pairwise fun q r => q.last < r.first) {reader : Buffered} {position : ℕ}
    (hpos : ∀ r ∈ rs, position ≤ r.first) (hrest : reader.rest = target.drop position) :
    ∃ b, cutRanges reader position a rs = (.ok (), b) ∧ Receipt target rs a b := by
  induction rs generalizing a reader position with
  | nil => exact ⟨a, rfl, .nil h⟩
  | cons r rs ih =>
    obtain ⟨f, s, hr⟩ := hspans r (by simp)
    have hle := hpos r (by simp)
    have horder' := hr.first_le_last h
    have hlast := hr.last
    have hskip : r.first - position ≤ reader.rest.length := by
      rw [hrest, List.length_drop]
      omega
    obtain ⟨reads, c, hc, hcrest, -⟩ := Buffered.exists_readUpTo hskip
    rw [hrest, List.drop_drop, Nat.add_sub_cancel' hle] at hcrest
    -- what stands from the beginning of the range on is its body
    have hcarries : Carries target r ⟨c, .upTo r.length, true⟩ :=
      congrArg (List.take r.length) hcrest
    obtain ⟨b, left, hb, hreceipt, htook⟩ := h.exists_receipt hlen ⟨f, s, hr⟩ hcarries rfl
    have hleft : left.reader.rest = target.drop r.stop := by
      rw [htook.rest, hcrest, List.drop_drop, hr.length_eq h.pos, hr.stop_eq]
      congr 1
      omega
    have hheader := hreceipt.extends_target.header
    obtain ⟨hfirst, horder⟩ := List.pairwise_cons.mp horder
    obtain ⟨d, hd, hreceipt'⟩ := ih hreceipt.extends_target.sound (hheader ▸ hlen)
      (fun q hq => hheader ▸ hspans q (by simp [hq])) horder
      (fun q hq => hr.stop_eq.trans_le (hfirst q hq)) hleft
    refine ⟨d, ?_, hreceipt.cons hreceipt'⟩
    have hlong : ¬ (reader.rest.take (r.first - position)).length < r.first - position := by
      rw [List.length_take]
      omega
    have hreceive : RangeReceiver.receive a r ⟨c, .upTo r.length, true⟩ = (.ok (), b, left) := hb
    rw [cutRanges, if_neg (by omega), hc]
    dsimp only
    rw [if_neg hlong, hreceive]
    exact hd

/-! ### Parts -/

lemma exists_receiveParts (h : Sound a) (hlen : a.header.length = target.length) {b : String}
    (hb : IsBoundary b) {parts : List Part} (hlegal : ∀ p ∈ parts, p.Legal)
    (hspans : ∀ p ∈ parts, ∃ f s, Spans a.header p.range f s)
    (hbytes : ∀ p ∈ parts, p.body = (target.drop p.range.first).take p.range.length)
    {breaks : ℕ} {epilogue : List UInt8} {m : Multipart}
    (hm : Stands b [] breaks parts epilogue m) {fuel : ℕ} (hfuel : parts.length < fuel) :
    ∃ d, receiveParts fuel m a = (.ok (), d) ∧ Receipt target (parts.map Part.range) a d := by
  induction parts generalizing a m breaks fuel with
  | nil =>
    obtain ⟨fuel, rfl⟩ := Nat.exists_eq_succ_of_ne_zero (Nat.ne_zero_of_lt hfuel)
    obtain ⟨m', hnext, -⟩ := hm.exists_next_nil hb
    exact ⟨a, by rw [receiveParts, hnext], .nil h⟩
  | cons p parts ih =>
    obtain ⟨fuel, rfl⟩ := Nat.exists_eq_succ_of_ne_zero (Nat.ne_zero_of_lt hfuel)
    have hp := hlegal p (by simp)
    obtain ⟨m₁, hnext, h₁⟩ := hm.exists_next_cons hb hp
    have hready := h₁.reader.rest
    simp only [List.append_assoc] at hready
    have hcarries : Carries target p.range (m₁.body true) := by
      rw [Carries, ← hbytes p (by simp)]
      change m₁.reader.rest.take m₁.remaining = p.body
      rw [hready, h₁.remaining, List.take_left]
    obtain ⟨d₁, left, hd₁, hreceipt, htook⟩ :=
      h.exists_receipt hlen (hspans p (by simp)) hcarries rfl
    -- the body is read to its end, and only line ends stand before the next part
    have hbound : left.bound = .exactly 0 := by
      rw [htook.bound]
      change Bound.exactly (m₁.remaining - p.range.length) = _
      rw [h₁.remaining, hp.length_eq, Nat.sub_self]
    have hrest : left.reader.rest = crlf ++ (encode b parts ++ epilogue) := by
      rw [htook.rest]
      change m₁.reader.rest.drop p.range.length = _
      rw [hready, hp.length_eq, List.drop_left]
      simp
    have h₂ : Stands b [] 1 parts epilogue (m₁.resume left) :=
      ⟨h₁.delimiter, h₁.unfinished, by rw [resume, hbound]; rfl,
        htook.capacity.symm ▸ h₁.reader.room, by simpa [resume] using hrest⟩
    have hheader := hreceipt.extends_target.header
    obtain ⟨d, hd, hreceipt'⟩ := ih hreceipt.extends_target.sound (hheader ▸ hlen)
      (fun q hq => hlegal q (by simp [hq])) (fun q hq => hheader ▸ hspans q (by simp [hq]))
      (fun q hq => hbytes q (by simp [hq])) h₂ (by simpa using hfuel)
    refine ⟨d, ?_, hreceipt.cons hreceipt'⟩
    have hreceive : RangeReceiver.receive a p.range (m₁.body true) = (.ok (), d₁, left) := hd₁
    rw [receiveParts, hnext]
    dsimp only
    rw [hreceive]
    exact hd

/-! ### Responses -/

/-- The response has a part for each of these ranges of the target, in any order, with whatever a
server may say about a part, line ends before the first one and anything behind the last. -/
structure HasParts (target : List UInt8) (rs : List ByteRange) (response : Response) (b : String)
    (parts : List Part) : Prop where
  boundary : IsBoundary b
  type : ∃ announcement : Announcement, announcement.Legal b ∧
    response.header? "content-type" = some (announcement.text b)
  legal : ∀ p ∈ parts, p.Legal
  ranges : (parts.map Part.range).Perm rs
  bytes : ∀ p ∈ parts, p.body = (target.drop p.range.first).take p.range.length
  body : ∃ breaks epilogue, response.body.rest =
    (List.replicate breaks crlf).flatten ++ encode b parts ++ epilogue

/-- The response has one range of the target and nothing else. -/
structure HasRange (target : List UInt8) (r : ByteRange) (response : Response) : Prop where
  type : (response.header? "content-type").filter isMultipart = none
  range : ∃ total, response.header? "content-range" = some (String.ofList (r.contentRange total))
  body : response.body.rest = (target.drop r.first).take r.length

variable {response : Response}

lemma completes_receiveFull (h : Sound a) (hlen : a.header.length = target.length)
    (hbody : response.body.rest = target) :
    Completes target a (receiveFull response a.missingRanges a) := by
  have horder : a.missingRanges.Pairwise fun q r => q.last < r.first :=
    h.pairwise_missingRanges.imp fun hqr => (Nat.lt_succ_self _).trans hqr
  have hsorted : a.missingRanges.mergeSort (fun x y => x.first ≤ y.first) = a.missingRanges := by
    refine List.mergeSort_of_pairwise (horder.imp_of_mem fun {q r} hq _ hqr => ?_)
    obtain ⟨f, s, hspans⟩ := h.exists_spans hq
    have := hspans.first_le_last h
    simp only [decide_eq_true_eq]
    omega
  have hrest : (Buffered.ofSource Buffered.standardCapacity response.body).rest = target.drop 0 :=
    hbody
  obtain ⟨b, hb, hreceipt⟩ := exists_cutRanges h hlen (fun r hr => h.exists_spans hr) horder
    (fun r _ => Nat.zero_le r.first) hrest
  rw [receiveFull, hsorted, hb]
  exact hreceipt.completes h (.refl _)

lemma HasParts.completes {b : String} {parts : List Part}
    (hparts : HasParts target a.missingRanges response b parts) (h : Sound a)
    (hlen : a.header.length = target.length) :
    Completes target a (receivePartial response a) := by
  obtain ⟨announcement, hlegal, htype⟩ := hparts.type
  obtain ⟨breaks, epilogue, hbody⟩ := hparts.body
  have hspans : ∀ p ∈ parts, ∃ f s, Spans a.header p.range f s := fun p hp =>
    h.exists_spans (hparts.ranges.mem_iff.mp (List.mem_map_of_mem hp))
  have hstart : Stands b [] breaks parts epilogue
      (.ofReader (.ofSource Buffered.standardCapacity response.body) b) :=
    ⟨rfl, rfl, rfl, Nat.succ_pos _, hbody⟩
  have hfuel : parts.length < response.body.rest.length + 1 := by
    have := length_le_encode b parts
    rw [hbody, List.length_append, List.length_append]
    omega
  obtain ⟨d, hd, hreceipt⟩ := exists_receiveParts h hlen hparts.boundary hparts.legal hspans
    hparts.bytes hstart hfuel
  have hmultipart : (response.header? "content-type").filter isMultipart =
      some (announcement.text b) := by
    rw [htype, Option.filter_some, if_pos (hlegal.isMultipart_text hparts.boundary)]
  rw [receivePartial, hmultipart]
  dsimp only
  rw [hlegal.boundary_text hparts.boundary]
  dsimp only
  rw [hd]
  exact hreceipt.completes h hparts.ranges

lemma HasRange.completes {r : ByteRange} (hrange : HasRange target r response) (h : Sound a)
    (hlen : a.header.length = target.length) (hmax : a.header.length ≤ maxLength)
    (hr : a.missingRanges = [r]) : Completes target a (receivePartial response a) := by
  obtain ⟨f, s, hspans⟩ := h.exists_spans (r := r) (by simp [hr])
  obtain ⟨total, hvalue⟩ := hrange.range
  have hparse : ByteRange.parse (String.ofList (r.contentRange total)) = .ok r := by
    have hlast := hspans.last
    rw [ByteRange.parse, String.toList_ofList]
    refine ByteRange.parseChars_contentRange (hspans.first_le_last h) ?_
    rw [maxLength] at hmax
    simp only [UInt64.size]
    omega
  have hcarries : Carries target r (.ofSource response.body true) := hrange.body
  obtain ⟨b, left, hb, hreceipt, -⟩ := h.exists_receipt hlen ⟨f, s, hspans⟩ hcarries rfl
  have hreceive : RangeReceiver.receive a r (.ofSource response.body true) = (.ok (), b, left) := hb
  rw [receivePartial, hrange.type]
  dsimp only
  rw [hvalue]
  dsimp only
  rw [hparse]
  dsimp only
  rw [hreceive]
  exact hreceipt.completes h (by rw [hr])

/-- The response has the whole of a target, or each of these ranges of it just once. -/
inductive Brings (target : List UInt8) (rs : List ByteRange) (response : Response) : Prop
  | whole (hstatus : response.status = 200) (hbody : response.body.rest = target)
  | parts {b : String} {parts : List Part} (hstatus : response.status = 206)
      (hparts : HasParts target rs response b parts)
  | range {r : ByteRange} (hstatus : response.status = 206) (hrs : rs = [r])
      (hrange : HasRange target r response)

lemma Brings.completes (hbrings : Brings target a.missingRanges response) (h : Sound a)
    (hlen : a.header.length = target.length) (hmax : a.header.length ≤ maxLength) :
    Completes target a (receiveAnswer response a.missingRanges a) := by
  cases hbrings with
  | whole hstatus hbody =>
    rw [receiveAnswer, if_neg (by rw [hstatus]; decide)]
    exact completes_receiveFull h hlen hbody
  | parts hstatus hparts =>
    rw [receiveAnswer, if_pos hstatus]
    exact hparts.completes h hlen
  | range hstatus hrs hrange =>
    rw [receiveAnswer, if_pos hstatus]
    exact hrange.completes h hlen hmax hrs

variable {path : String} {c : ControlFile} {header : Header} {sums : List BlockSum} {t : Tree}
  {journal : Array Event}

/-- **All responses assemble the same file.** Whatever an assembly has come to since it was opened:
the whole of a target, a multipart body with the missing ranges of it in any order, and, where only
one range is missing, a body with just this range all are taken without failure, make the assembly
complete with the same file, in which the blocks that were missing are the target's and the others
are as before, and let the listener hear of as many bytes as were missing. -/
theorem assembles_alike (hc : ControlFile.assemble header sums = .ok c) (hb : 1 ≤ header.blockSize)
    (hopen : (openAt t path c journal).1 = .ok a) (hlen : target.length = header.length)
    (calls : List Call) (heard : Array Event) :
    let state : Assembly := { a.run calls with journal := heard }
    (∀ response : Response, response.body.rest = target →
      Completes target state (receiveFull response state.missingRanges state)) ∧
    (∀ response b parts, HasParts target state.missingRanges response b parts →
      Completes target state (receivePartial response state)) ∧
    ∀ response r, state.missingRanges = [r] → HasRange target r response →
      Completes target state (receivePartial response state) := by
  have hmax := length_le_of_openAt hopen
  obtain rfl := eq_start_of_openAt hopen
  obtain rfl : c.header = header := (ControlFile.assemble_ok hc).2.1
  obtain ⟨hrun, hheader⟩ := sound_run (sound_start hc hb path journal) calls
  set state : Assembly := { (start path c journal).run calls with journal := heard }
  have hstate : Sound state := ⟨hrun.pos, hrun.sums, hrun.completed, hrun.file, hrun.remaining⟩
  have hheader : state.header = c.header := hheader
  have hlen : state.header.length = target.length := by rw [hheader, hlen]
  exact ⟨fun response hbody => completes_receiveFull hstate hlen hbody,
    fun response b parts hparts => hparts.completes hstate hlen,
    fun response r hr hrange => hrange.completes hstate hlen (hheader ▸ hmax) hr⟩

def four : List UInt8 := [45, 45, 66, 10]

def wholeFour : Response := ⟨200, [], some 4, ⟨four, [.short 3, .interrupted], none⟩⟩

def partOfFour : Part := ⟨⟨0, 3⟩, some 4, [], [], four⟩

def fourInParts : Response :=
  ⟨206, [("Content-Type", capitals.text "B")], none, .ofBytes (crlf ++ encode "B" [partOfFour])⟩

def fourAlone : Response :=
  ⟨206, [("Content-Range", String.ofList ((⟨0, 3⟩ : ByteRange).contentRange none))], some 4,
    .ofBytes four⟩

lemma legal_partOfFour : partOfFour.Legal where
  order := by decide
  last := by decide
  extent := by decide
  body := by decide
  fits := by
    simp [partOfFour, Part.rangeLine, ByteRange.contentRange, ByteRange.totalText, Decimal.render,
      maxLine]
  further := by simp [partOfFour]

lemma hasParts_fourInParts : HasParts four [⟨0, 3⟩] fourInParts "B" [partOfFour] where
  boundary := isBoundary_letter
  type := ⟨capitals, legal_capitals, by decide +kernel⟩
  legal p hp := List.mem_singleton.mp hp ▸ legal_partOfFour
  ranges := .refl _
  bytes p hp := by
    obtain rfl := List.mem_singleton.mp hp
    rfl
  body := ⟨1, [], by simp [fourInParts, Source.ofBytes]⟩

lemma hasRange_fourAlone : HasRange four ⟨0, 3⟩ fourAlone where
  type := by decide +kernel
  range := ⟨none, by decide +kernel⟩
  body := rfl

/-- Of a target of four bytes everything is missing at first, and three responses bring it. -/
theorem assembles_four_alike : ∃ c a,
    ControlFile.assemble (.fourBytes 1) (ControlFile.sumsOf (.fourBytes 1) four) = .ok c ∧
      1 ≤ (Header.fourBytes 1).blockSize ∧ (openAt ⟨[]⟩ "four" c #[]).1 = .ok a ∧
      four.length = (Header.fourBytes 1).length ∧ a.missingRanges = [⟨0, 3⟩] ∧
      a.filledUp four = four ∧ Completes four a (receiveFull wholeFour a.missingRanges a) ∧
      Completes four a (receivePartial fourInParts a) ∧
      Completes four a (receivePartial fourAlone a) := by
  obtain ⟨⟨header, sums, rollings, pairs⟩, hc⟩ :=
    ControlFile.exists_assemble_sumsOf (.fourBytes 1) four
  obtain rfl : header = .fourBytes 1 := (ControlFile.assemble_ok hc).2.1
  set c : ControlFile := ⟨.fourBytes 1, sums, rollings, pairs⟩
  have hn : c.numBlocks = 2 := ControlFile.numBlocks_eq hc
  have hopen : (openAt ⟨[]⟩ "four" c #[]).1 = .ok (start "four" c #[]) := rfl
  have hmissing : (start "four" c #[]).missingRanges = [⟨0, 3⟩] := by
    rw [missingRanges]
    simp only [start, hn]
    rfl
  have hheader : (start "four" c #[]).header = .fourBytes 1 := rfl
  have hfilled : (start "four" c #[]).filledUp four = four := by
    simp only [filledUp, isBlockComplete_start, Bool.false_eq_true, if_false, hheader]
    decide
  have hlen : four.length = (Header.fourBytes 1).length := rfl
  obtain ⟨hwhole, hparts, hrange⟩ :=
    assembles_alike hc (by decide) hopen hlen [] #[.outputStarted "four" 4]
  exact ⟨c, _, hc, by decide, hopen, hlen, hmissing, hfilled, hwhole _ rfl,
    hparts _ _ _ (hmissing ▸ hasParts_fourInParts), hrange _ _ hmissing hasRange_fourAlone⟩

end SeedSync.Client
