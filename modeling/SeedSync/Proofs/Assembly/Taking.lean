import Mathlib
import SeedSync.Proofs.Assembly.Receipt

/-!
Taking a range of the remote file, on every input: which ranges are turned away, how much of a body
is read for the others, and which blocks are complete afterwards, also where the body ends inside of
the range.
-/

namespace SeedSync.Assembly

/-- The range does not begin with a block, does not end with one, or goes beyond the file. -/
def Misaligned (h : Header) (r : ByteRange) : Prop :=
  r.first % h.blockSize ≠ 0 ∨
    ((r.last + 1) % h.blockSize ≠ 0 ∧ r.last + 1 ≠ h.length) ∨ h.length ≤ r.last

/-- All bytes of the block lie in the range. -/
def Covers (h : Header) (r : ByteRange) (i : ℕ) : Prop :=
  i < h.numBlocks ∧ r.first ≤ h.blockOffset i ∧ h.blockOffset i + h.blockLength i ≤ r.last + 1

/-- The second assembly has come from the first one by taking these bytes, which stand from the
beginning of the range on: just the blocks of the range that lie wholly within the bytes have been
completed, each that was missing has got its own slice, and no other block has changed. -/
structure Takes (r : ByteRange) (bytes : List UInt8) (a b : Assembly) : Prop where
  sound : Sound b
  header : b.header = a.header
  complete_iff : ∀ i, b.isBlockComplete i = true ↔ a.isBlockComplete i = true ∨
    (Covers a.header r i ∧
      a.header.blockOffset i + a.header.blockLength i ≤ r.first + bytes.length)
  written : ∀ i, a.isBlockComplete i = false → b.isBlockComplete i = true →
    b.block i = (bytes.drop (a.header.blockOffset i - r.first)).take (a.header.blockLength i)
  same : ∀ i < a.header.numBlocks, b.isBlockComplete i = a.isBlockComplete i →
    b.block i = a.block i

variable {a : Assembly} {r : ByteRange} {i : ℕ}

lemma isAligned_eq_false_iff : a.isAligned r = false ↔ Misaligned a.header r := by
  rw [Bool.eq_false_iff, ne_eq, isAligned_iff, Misaligned, not_and_or, not_and_or, not_or,
    Nat.not_lt]

lemma covers_iff (h : Sound a) (hr : a.isAligned r = true) : Covers a.header r i ↔
    r.first / a.header.blockSize ≤ i ∧ i ≤ r.last / a.header.blockSize := by
  obtain ⟨hoff, hlt, hend⟩ := ends_of_isAligned h hr
  constructor
  · rintro ⟨hi, hfirst, hlast⟩
    have hbegin := (Header.lt_numBlocks_iff h.pos).mp hi
    have hnext := Header.blockOffset_succ a.header i
    have hpos := h.pos
    have hle : a.header.blockOffset i ≤ r.last := by
      rw [Header.blockOffset_add_blockLength h.pos hi] at hlast
      omega
    exact ⟨Nat.div_le_of_le_mul (by rwa [Nat.mul_comm]), (Nat.le_div_iff_mul_le h.pos).mpr hle⟩
  · rintro ⟨hfirst, hlast⟩
    have hi : i < a.header.numBlocks := by omega
    have hfrom := Header.blockOffset_mono (h := a.header) hfirst
    have hto := Header.blockOffset_mono (h := a.header) (Nat.add_le_add_right hlast 1)
    have hends := Header.blockOffset_add_blockLength h.pos hi
    exact ⟨hi, by omega, by omega⟩

lemma spans_of_isAligned (h : Sound a) (hr : a.isAligned r = true) (hle : r.first ≤ r.last) :
    Spans a.header r (r.first / a.header.blockSize) (r.last / a.header.blockSize + 1) := by
  obtain ⟨hoff, hlt, hend⟩ := ends_of_isAligned h hr
  exact ⟨Nat.lt_succ_of_le (Nat.div_le_div_right hle), hlt, hoff.symm, hend.symm⟩

lemma takes_of_extends {b : Assembly} {bytes : List UInt8} (h : Sound a)
    (hr : a.isAligned r = true)
    (hext : Extends (fun j => r.first / a.header.blockSize ≤ j ∧ j ≤ r.last / a.header.blockSize ∧
        a.header.blockOffset j + a.header.blockLength j ≤ r.first + bytes.length)
      (fun j => (bytes.drop (a.header.blockOffset j - r.first)).take (a.header.blockLength j)) a b)
    (hdone : ∀ j, (r.first / a.header.blockSize ≤ j ∧ j ≤ r.last / a.header.blockSize ∧
        a.header.blockOffset j + a.header.blockLength j ≤ r.first + bytes.length) →
      b.isBlockComplete j = true) : Takes r bytes a b where
  sound := hext.sound
  header := hext.header
  complete_iff i := by
    rw [covers_iff h hr]
    constructor
    · intro hb
      rcases Bool.eq_false_or_eq_true (a.isBlockComplete i) with ha | ha
      · exact .inl ha
      · obtain ⟨⟨hfirst, hlast, hreach⟩, -⟩ := hext.gained i ha hb
        exact .inr ⟨⟨hfirst, hlast⟩, hreach⟩
    · rintro (ha | ⟨⟨hfirst, hlast⟩, hreach⟩)
      · exact hext.kept i ha
      · exact hdone i ⟨hfirst, hlast, hreach⟩
  written i ha hb := (hext.gained i ha hb).2
  same i hi heq := by
    rcases Bool.eq_false_or_eq_true (a.isBlockComplete i) with ha | ha
    · exact hext.same i hi (.inl ha)
    · exact hext.same i hi (.inr (heq.trans ha))

lemma shortBody_of_ends {body : Body} (hends : body.Ends) :
    shortBody r (body.behind.getD .endedEarly) =
      .io .remoteFileDownload (.rangeEndedEarly r) := by
  cases h : body.behind with
  | none => rfl
  | some e => rw [shortBody, Option.getD_some, if_pos (hends e h)]

variable {header : Header} {sums : List BlockSum} {c : ControlFile} {t : Tree} {path : String}
  {journal : Array Event}

/-- **What a range does**, whatever an assembly has come to since it was opened. It is turned away
just if it is misaligned, and then nothing is read, reported or changed. Else, with a body that
gives some bytes and then ends, it is taken just if there are as many as the range is long. Then so
many are read, and the blocks in it are complete, those that were missing with their bytes of the
body. With fewer bytes it fails with an unexpected end, and just the blocks that lie wholly within
these have been completed. -/
theorem takes_what_arrives (hc : ControlFile.assemble header sums = .ok c)
    (hb : 1 ≤ header.blockSize) (hopen : (openAt t path c journal).1 = .ok a) (calls : List Call)
    (hr : r.first ≤ r.last) (body : Body) :
    let state := a.run calls
    let result := state.receive r body
    (result.1 = .error (.misaligned r header.blockSize header.length) ↔ Misaligned header r) ∧
    (Misaligned header r → result.2 = (state, body)) ∧
    (¬ Misaligned header r → body.Ends →
      (result.1 = .ok () ↔ r.length ≤ body.bytes.length) ∧
      (result.1 = .ok () → Body.Took body result.2.2 r.length) ∧
      (body.bytes.length < r.length →
        result.1 = .error (.io .remoteFileDownload (.rangeEndedEarly r))) ∧
      Takes r body.bytes state result.2.1) := by
  obtain rfl := eq_start_of_openAt hopen
  obtain rfl : c.header = header := (ControlFile.assemble_ok hc).2.1
  obtain ⟨hs, hheader⟩ := sound_run (sound_start hc hb path journal) calls
  have hheader : ((start path c journal).run calls).header = c.header := hheader
  generalize (start path c journal).run calls = state at hs hheader
  rw [← hheader, ← isAligned_eq_false_iff]
  dsimp only
  rcases Bool.eq_false_or_eq_true (state.isAligned r) with haligned | haligned
  · obtain ⟨hext, hdone, hok, hshort⟩ := extends_receive_of_aligned hs body haligned
    have htook (hanswer : (state.receive r body).1 = .ok ()) :
        Body.Took body (state.receive r body).2.2 r.length :=
      (receive_ok hs (spans_of_isAligned hs haligned hr) (Prod.ext hanswer rfl)).1
    have hlength := (spans_of_isAligned hs haligned hr).length_eq hs.pos
    rw [haligned]
    refine ⟨iff_of_false (fun hanswer => ?_) (by simp), by simp, fun _ hends => ?_⟩
    · rcases Nat.lt_or_ge (r.first + body.bytes.length) (r.last + 1) with hlt | hle
      · cases (hshort hlt).symm.trans hanswer
      · cases (hok hle).symm.trans hanswer
    · rw [shortBody_of_ends hends] at hshort
      refine ⟨⟨fun hanswer => ?_, fun hle => hok (by omega)⟩, htook, fun hlt => hshort (by omega),
        takes_of_extends hs haligned hext hdone⟩
      by_contra hlt
      cases (hshort (by omega)).symm.trans hanswer
  · rw [receive_of_misaligned haligned]
    simp [haligned]

/-- Three bytes arrive, one of them alone, for four. -/
def threeOfFour : Body := .ofSource ⟨[1, 2, 9], [.short 1, .interrupted], none⟩ false

theorem takes_the_first_of_two_blocks : ∃ c a,
    ControlFile.assemble (.fourBytes 1) (ControlFile.sumsOf (.fourBytes 1) [1, 2, 3, 4]) = .ok c ∧
      1 ≤ (Header.fourBytes 1).blockSize ∧ (openAt ⟨[]⟩ "four" c #[]).1 = .ok a ∧
      Misaligned (.fourBytes 1) ⟨1, 3⟩ ∧ ¬ Misaligned (.fourBytes 1) ⟨0, 3⟩ ∧ threeOfFour.Ends ∧
      (a.receive ⟨1, 3⟩ threeOfFour).1 = .error (.misaligned ⟨1, 3⟩ 2 4) ∧
      let result := a.receive ⟨0, 3⟩ threeOfFour
      result.1 = .error (.io .remoteFileDownload (.rangeEndedEarly ⟨0, 3⟩)) ∧
        result.2.1.block 0 = [1, 2] ∧ result.2.1.isBlockComplete 0 = true ∧
        result.2.1.isBlockComplete 1 = false := by
  obtain ⟨⟨header, sums, rollings, pairs⟩, hc⟩ :=
    ControlFile.exists_assemble_sumsOf (.fourBytes 1) [1, 2, 3, 4]
  obtain rfl : header = .fourBytes 1 := (ControlFile.assemble_ok hc).2.1
  set c : ControlFile := ⟨.fourBytes 1, sums, rollings, pairs⟩
  have hmissing := isBlockComplete_start "four" c #[]
  have hheader : (start "four" c #[]).header = .fourBytes 1 := rfl
  have hopen : (openAt ⟨[]⟩ "four" c #[]).1 = .ok (start "four" c #[]) := rfl
  have hbegins : Misaligned (.fourBytes 1) ⟨1, 3⟩ := .inl (by decide)
  have hfits : ¬ Misaligned (.fourBytes 1) ⟨0, 3⟩ := by unfold Misaligned; decide
  have hends : threeOfFour.Ends := fun _ hfails => by cases hfails
  have hturned :=
    (takes_what_arrives hc (by decide) hopen [] (r := ⟨1, 3⟩) (by decide) threeOfFour).1.mpr hbegins
  have htaken :=
    (takes_what_arrives hc (by decide) hopen [] (r := ⟨0, 3⟩) (by decide) threeOfFour).2.2 hfits
      hends
  rw [run, List.foldl_nil] at hturned htaken
  obtain ⟨-, -, hshort, htakes⟩ := htaken
  have hfirst := (htakes.complete_iff 0).mpr (.inr (by rw [hheader, Covers]; decide))
  refine ⟨c, _, hc, by decide, hopen, hbegins, hfits, hends, hturned, hshort (by decide),
    (htakes.written 0 (hmissing 0) hfirst).trans (by rw [hheader]; decide), hfirst, ?_⟩
  rw [← Bool.not_eq_true, htakes.complete_iff]
  rintro (h | ⟨-, h⟩)
  · cases (hmissing 1).symm.trans h
  · exact absurd h (by rw [hheader]; decide)

end SeedSync.Assembly
