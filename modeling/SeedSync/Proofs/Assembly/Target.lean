import Mathlib
import SeedSync.Proofs.Assembly.History
import SeedSync.Proofs.Assembly.Missing
import SeedSync.Proofs.Assembly.Sink

/-!
From seeds and ranges of the remote file to the target: whatever the seeds leave missing, the
ranges bring, and if no seed shows the sum of a block without being it, the file is the target.
-/

namespace SeedSync.Assembly

def receiveAll (body : ByteRange → Body) (a : Assembly) :
    List ByteRange → Except Error Unit × Assembly
  | [] => (.ok (), a)
  | r :: rest =>
    match a.receive r (body r) with
    | (.error e, a, _) => (.error e, a)
    | (.ok (), a, _) => receiveAll body a rest

def targetBlock (h : Header) (target : List UInt8) (i : ℕ) : List UInt8 :=
  (target.drop (h.blockOffset i)).take (h.blockLength i)

variable {path : String} {c : ControlFile} {P : ℕ → List UInt8 → Prop} {a : Assembly}
  {target : List UInt8}

/-! ### Ranges of the target -/

/-- The body holds the bytes of the target in this range. -/
def Carries (target : List UInt8) (r : ByteRange) (body : Body) : Prop :=
  body.bytes = (target.drop r.first).take r.length

lemma Spans.supply_eq {h : Header} (hb : 0 < h.blockSize) {r : ByteRange} {f s i : ℕ}
    (hr : Spans h r f s) {body : Body} (hbody : Carries target r body) (hfi : f ≤ i) (his : i < s) :
    (body.bytes.drop (h.blockOffset i - r.first)).take (h.blockLength i) =
      targetBlock h target i := by
  have hfirst := hr.first
  have hlast := hr.last
  have hle := hr.le
  have hoff := Header.blockOffset_mono (h := h) hfi
  have hnext := Header.blockOffset_mono (h := h) (show i + 1 ≤ s from his)
  have hend := Header.blockOffset_add_blockLength hb (show i < h.numBlocks by omega)
  rw [hbody, targetBlock, List.drop_take, List.take_take, List.drop_drop, hr.length_eq hb]
  rw [min_eq_left (by omega)]
  congr 2
  omega

lemma Carries.length_le {h : Header} (hb : 0 < h.blockSize) (hlen : h.length = target.length)
    {r : ByteRange} {f s : ℕ} (hr : Spans h r f s) {body : Body} (hbody : Carries target r body) :
    r.length ≤ body.bytes.length := by
  have hfirst := hr.first
  have hlast := hr.last
  have hoff := (Header.lt_numBlocks_iff hb).mp (hr.lt.trans_le hr.le)
  rw [hbody, hr.length_eq hb, List.length_take, List.length_drop]
  omega

/-- Taking a range succeeds if its body reaches to its end, and completes the blocks in it with the
bytes of the body. -/
lemma Sound.exists_receive_of_length_le (h : Sound a) {r : ByteRange} {f s : ℕ}
    (hr : Spans a.header r f s) {body : Body} (hlong : r.length ≤ body.bytes.length) :
    ∃ b left, a.receive r body = (.ok (), b, left) ∧
      Extends (fun i => f ≤ i ∧ i < s) (fun i =>
        (body.bytes.drop (a.header.blockOffset i - r.first)).take (a.header.blockLength i)) a b ∧
      ∀ i, f ≤ i → i < s → b.isBlockComplete i = true := by
  have hfirst := hr.first_div h
  have hlast := hr.last_div h
  have horder := hr.first_le_last h
  obtain ⟨hext, hall⟩ := extends_receive h r body
  have hreach : r.last + 1 ≤ r.first + body.bytes.length := by
    rw [hr.length_eq h.pos] at hlong
    omega
  obtain ⟨hok, hdone⟩ := hall hr.isAligned hreach
  exact ⟨_, _, Prod.ext hok rfl, hext.mono (fun _ _ => by omega) fun _ _ => rfl, fun i hfi his =>
    hdone i (by omega) (by omega)⟩

lemma Sound.exists_receive (h : Sound a) (hlen : a.header.length = target.length) {r : ByteRange}
    {f s : ℕ} (hr : Spans a.header r f s) {body : Body} (hbody : Carries target r body) :
    ∃ b left, a.receive r body = (.ok (), b, left) ∧
      Extends (fun _ => True) (targetBlock a.header target) a b ∧
      ∀ i, f ≤ i → i < s → b.isBlockComplete i = true := by
  obtain ⟨b, left, hb, hext, hdone⟩ :=
    h.exists_receive_of_length_le hr (hbody.length_le h.pos hlen hr)
  exact ⟨b, left, hb, hext.mono (fun _ _ => trivial) fun i hi =>
    hr.supply_eq h.pos hbody hi.1 hi.2, hdone⟩

lemma Filled.exists_receive (h : Filled path c P a) {r : ByteRange} {f s : ℕ}
    (hr : Spans c.header r f s) {body : Body} (hlong : r.length ≤ body.bytes.length)
    (hP : ∀ i, f ≤ i → i < s → P i
      ((body.bytes.drop (c.header.blockOffset i - r.first)).take (c.header.blockLength i))) :
    ∃ b left, a.receive r body = (.ok (), b, left) ∧ Filled path c P b ∧
      (∀ i, a.isBlockComplete i = true → b.isBlockComplete i = true) ∧
      ∀ i, f ≤ i → i < s → b.isBlockComplete i = true := by
  obtain ⟨b, left, hb, hext, hdone⟩ := h.sound.exists_receive_of_length_le (h.header ▸ hr) hlong
  exact ⟨b, left, hb, h.of_extends hext fun i _ hi => h.header ▸ hP i hi.1 hi.2, hext.kept, hdone⟩

lemma Filled.exists_receiveAll (h : Filled path c P a) {body : ByteRange → Body}
    {rs : List ByteRange} (hspans : ∀ r ∈ rs, ∃ f s, Spans c.header r f s)
    (hlong : ∀ r ∈ rs, r.length ≤ (body r).bytes.length)
    (hP : ∀ r ∈ rs, ∀ f s, Spans c.header r f s → ∀ i, f ≤ i → i < s → P i
      (((body r).bytes.drop (c.header.blockOffset i - r.first)).take (c.header.blockLength i))) :
    ∃ b, receiveAll body a rs = (.ok (), b) ∧ Filled path c P b ∧
      (∀ i, a.isBlockComplete i = true → b.isBlockComplete i = true) ∧
      ∀ r ∈ rs, ∀ f s, Spans c.header r f s → ∀ i, f ≤ i → i < s → b.isBlockComplete i = true := by
  induction rs generalizing a with
  | nil => exact ⟨a, rfl, h, fun _ => id, by simp⟩
  | cons r rs ih =>
    obtain ⟨f, s, hr⟩ := hspans r (by simp)
    obtain ⟨b, left, hb, hfilled, hkept, hdone⟩ :=
      h.exists_receive hr (hlong r (by simp)) (hP r (by simp) f s hr)
    obtain ⟨d, hd, hfilled', hkept', hdone'⟩ := ih hfilled (fun q hq => hspans q (by simp [hq]))
      (fun q hq => hlong q (by simp [hq])) fun q hq => hP q (by simp [hq])
    refine ⟨d, by rw [receiveAll, hb]; exact hd, hfilled', fun i hi => hkept' i (hkept i hi), ?_⟩
    intro q hq f' s' hq' i hfi his
    rcases List.mem_cons.mp hq with rfl | hq
    · obtain ⟨rfl, rfl⟩ := (h.header ▸ hr : Spans a.header q f s).unique (h.header ▸ hq') h.sound
      exact hkept' i (hdone i hfi his)
    · exact hdone' q hq f' s' hq' i hfi his

/-- Whatever is missing, the ranges of missing bytes bring all of it, in whatever order. -/
lemma Filled.exists_receive_perm (h : Filled path c P a) {rs : List ByteRange}
    (hrs : rs.Perm a.missingRanges) {body : ByteRange → Body}
    (hlong : ∀ r ∈ rs, r.length ≤ (body r).bytes.length)
    (hP : ∀ r ∈ rs, ∀ f s, Spans c.header r f s → ∀ i, f ≤ i → i < s → P i
      (((body r).bytes.drop (c.header.blockOffset i - r.first)).take (c.header.blockLength i))) :
    ∃ b, receiveAll body a rs = (.ok (), b) ∧ Filled path c P b ∧
      ∀ i < c.header.numBlocks, b.isBlockComplete i = true := by
  obtain ⟨b, hb, hfilled, hkept, hdone⟩ := h.exists_receiveAll
    (fun r hr => h.header ▸ h.sound.exists_spans (hrs.mem_iff.mp hr)) hlong hP
  refine ⟨b, hb, hfilled, fun i hi => ?_⟩
  rcases Bool.eq_false_or_eq_true (a.isBlockComplete i) with hm | hm
  · exact hkept i hm
  · obtain ⟨r, hr, f, s, hspans, hfi, his⟩ := h.sound.exists_missingRange (h.header ▸ hi) hm
    exact hdone r (hrs.mem_iff.mpr hr) f s (h.header ▸ hspans) i hfi his

lemma take_paddedBlock_eq {h : Header} (hb : 0 < h.blockSize) (hlen : h.length = target.length)
    {i : ℕ} (hi : i < h.numBlocks) :
    (ControlFile.paddedBlock h.blockSize target i).take (h.blockLength i) =
      targetBlock h target i := by
  have := Header.blockOffset_add_le hb hi
  exact ControlFile.take_paddedBlock (Header.blockLength_le hb hi) (by
    rw [← Header.blockOffset]
    omega)

lemma Sound.content_eq (h : Sound a) (hlen : a.header.length = target.length)
    (hall : ∀ i < a.header.numBlocks, a.block i = targetBlock a.header target i) :
    a.content = target := by
  refine List.ext_getElem? fun x => ?_
  rcases Nat.lt_or_ge x a.header.length with hx | hx
  · obtain ⟨hle, hlt⟩ := Header.mem_block_div h.pos hx
    rw [h.getElem?_content hx, hall _ (Header.div_lt_numBlocks h.pos hx), targetBlock,
      List.getElem?_take_of_lt (by omega), List.getElem?_drop, Nat.add_sub_cancel' hle]
  · rw [List.getElem?_eq_none (by rw [content, Array.length_toList, h.file]; exact hx),
      List.getElem?_eq_none (by omega)]

variable {header : Header} {sums : List BlockSum} {journal : Array Event}

lemma filled_start (hc : ControlFile.assemble header sums = .ok c) (hb : 0 < header.blockSize) :
    Filled path c P (start path c journal) where
  sound := sound_start hc hb path journal
  path := rfl
  header := rfl
  sums := rfl
  index := rfl
  blocks i hi := by
    rw [isBlockComplete_start] at hi
    cases hi

/-- A seed with the first two of them between other bytes. -/
def fourSeed : Source := ⟨[9, 1, 2, 7], [.short 1, .interrupted], none⟩

end SeedSync.Assembly
