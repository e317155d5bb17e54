import Mathlib
import SeedSync.Assembly.Store
import SeedSync.Proofs.Assembly.Index
import SeedSync.Proofs.Assembly.Operations
import SeedSync.Proofs.Matching.Found
import SeedSync.Proofs.Matching.Recorder

/-!
The assembly as the sink of scans: it takes every block that a matcher finds, and what holds of
all blocks with a sum of the table holds of all that scans bring in.
-/

namespace SeedSync.Assembly

/-- An assembly for a control file, each complete block of which has bytes with a property. -/
structure Filled (path : String) (c : ControlFile) (P : ℕ → List UInt8 → Prop) (a : Assembly) :
    Prop where
  sound : Sound a
  path : a.path = path
  header : a.header = c.header
  sums : a.sums = c.sums
  index : a.index = .ofSums c.sums
  blocks : ∀ i, a.isBlockComplete i = true → P i (a.block i)

variable {path : String} {c : ControlFile} {P : ℕ → List UInt8 → Prop} {a b : Assembly}
  {addressed : ℕ → Prop} {supply : ℕ → List UInt8}

namespace Filled

lemma of_extends (h : Filled path c P a) (he : Extends addressed supply a b)
    (hP : ∀ i < c.header.numBlocks, addressed i → P i (supply i)) : Filled path c P b where
  sound := he.sound
  path := he.path.trans h.path
  header := he.header.trans h.header
  sums := he.sums.trans h.sums
  index := he.index.trans h.index
  blocks i hi := by
    have hlt := he.sound.lt_of_isBlockComplete hi
    rw [he.header] at hlt
    rcases Bool.eq_false_or_eq_true (a.isBlockComplete i) with ha | ha
    · rw [he.same i hlt (.inl ha)]
      exact h.blocks i ha
    · obtain ⟨haddr, hbytes⟩ := he.gained i ha hi
      rw [hbytes]
      exact hP i (by rwa [← h.header]) haddr

lemma emit (h : Filled path c P a) (e : Event) : Filled path c P (a.emit e) :=
  h.of_extends (.emit h.sound e : Extends (fun _ => False) (fun _ => []) a _) fun _ _ => False.elim

lemma searches (h : Filled path c P a) : c.Searches a := by
  intro s
  change a.index.positions a.sums s = _
  rw [h.index, h.sums, BlockIndex.positions_ofSums]
  rfl

lemma mono {Q : ℕ → List UInt8 → Prop} (h : Filled path c P a)
    (hPQ : ∀ i bytes, P i bytes → Q i bytes) : Filled path c Q a :=
  { h with blocks := fun i hi => hPQ i _ (h.blocks i hi) }

lemma pos (h : Filled path c P a) : 0 < c.header.blockSize := h.header ▸ h.sound.pos

/-! ### Writes of a matcher -/

variable {D : List UInt8} {p : ℕ} {w : View}

lemma exists_writeBlock (h : Filled path c P a) (hw : w.Shows D p (Matcher.span c)) {x : ℕ × ℕ}
    (hx : Matcher.Finds c D p x) :
    ∃ r b, a.writeBlock x.1 w x.2 = (.ok r, b) ∧ b.isBlockComplete x.1 = true ∧
      Extends (· = x.1) (fun i => (c.blockAt D (p + x.2)).take (c.header.blockLength i)) a b := by
  obtain ⟨i, offset⟩ := x
  have hinside := hx.inside
  dsimp only at hinside ⊢
  have hi : i < a.header.numBlocks := by
    rw [← h.sound.sums, h.sums]
    exact (Array.getElem?_eq_some_iff.mp hx.sum).1
  have hle := Header.blockLength_le h.sound.pos hi
  rw [h.header] at hle
  have hext := extends_writeBlock h.sound i w offset
  rw [h.header] at hext
  have hext : Extends (· = i)
      (fun j => (c.blockAt D (p + offset)).take (c.header.blockLength j)) a
      (a.writeBlock i w offset).2 := by
    refine hext.mono (fun _ => id) ?_
    rintro j rfl
    rw [← View.part_eq, hw.part_eq (by omega), ControlFile.blockAt, List.take_take, min_eq_left hle]
  rcases Bool.eq_false_or_eq_true (a.isBlockComplete i) with hm | hm
  · exact ⟨false, _, by rw [writeBlock_of_complete hm], hext.kept i hm, hext⟩
  · have hwrite := writeBlock_of_missing h.sound w offset hi hm
    rw [if_pos (by rw [hw.length_eq, h.header]; omega)] at hwrite
    refine ⟨true, _, Prod.ext (by rw [hwrite]) rfl, ?_, hext⟩
    rw [hwrite]
    have hlt : i < a.completed.size := by rwa [h.sound.completed]
    exact (isBlockComplete_complete ((w.toList.drop offset).take (a.header.blockLength i)) hlt).mpr
      (.inl rfl)

/-- What an account of blocks has for each of them: the bytes that come first. -/
def supplyOf (h : Header) (found : List (ℕ × List UInt8)) (i : ℕ) : List UInt8 :=
  ((found.lookup i).getD []).take (h.blockLength i)

/-- The blocks that an account has something for. -/
def Lists (found : List (ℕ × List UInt8)) (i : ℕ) : Prop := ∃ x ∈ found, x.1 = i

lemma supplyOf_of_new {before after : List (ℕ × List UInt8)} {i : ℕ} {bytes : List UInt8}
    (hnew : ∀ x ∈ before, x.1 ≠ i) (h : Header) :
    supplyOf h (before ++ (i, bytes) :: after) i = bytes.take (h.blockLength i) := by
  have hlookup : (before ++ (i, bytes) :: after).lookup i = some bytes :=
    List.lookup_eq_some_iff.mpr ⟨before, after, rfl, fun x hx => by simpa using (hnew x hx).symm⟩
  rw [supplyOf, hlookup, Option.getD_some]

lemma exists_writeBlocks (h : Filled path c (fun _ _ => True) a) (hw : w.Shows D p (Matcher.span c))
    {ws : List (ℕ × ℕ)} (hws : ∀ x ∈ ws, Matcher.Finds c D p x)
    {found before after : List (ℕ × List UInt8)}
    (hfound : found = before ++ (ws.map fun x => (x.1, c.blockAt D (p + x.2))) ++ after)
    (hbefore : ∀ x ∈ before, a.isBlockComplete x.1 = true) :
    ∃ b, BlockSink.writeBlocks a w ws = (.ok (), b) ∧
      Extends (Lists found) (supplyOf c.header found) a b ∧
      ∀ x ∈ before ++ ws.map (fun x => (x.1, c.blockAt D (p + x.2))),
        b.isBlockComplete x.1 = true := by
  induction ws generalizing a before with
  | nil =>
    rw [List.map_nil, List.append_nil]
    exact ⟨a, rfl, .refl h.sound, hbefore⟩
  | cons x ws ih =>
    obtain ⟨i, offset⟩ := x
    obtain ⟨r, b, hb, hdone, hext⟩ := h.exists_writeBlock hw (hws (i, offset) (by simp))
    have hb : BlockSink.writeBlock a i w offset = (.ok r, b) := hb
    rw [List.map_cons, List.append_cons] at hfound ⊢
    have hext : Extends (Lists found) (supplyOf c.header found) a b := by
      rcases Bool.eq_false_or_eq_true (a.isBlockComplete i) with hm | hm
      · obtain rfl : a = b := by
          rw [BlockSink.writeBlock, instBlockSink] at hb
          exact congrArg Prod.snd ((writeBlock_of_complete hm).symm.trans hb)
        exact .refl h.sound
      -- it was missing, so that nothing before it in the account is about this block
      · refine hext.mono ?_ ?_ <;> rintro j rfl
        · exact ⟨(j, c.blockAt D (p + offset)), by simp [hfound], rfl⟩
        · have hnew : ∀ y ∈ before, y.1 ≠ j := by
            rintro y hy rfl
            rw [hbefore y hy] at hm
            cases hm
          rw [hfound, List.append_assoc, List.append_assoc, List.singleton_append]
          exact (supplyOf_of_new hnew c.header).symm
    obtain ⟨d, hd, hext', hall⟩ := ih (h.of_extends hext fun _ _ _ => trivial)
      (fun y hy => hws y (by simp [hy])) hfound fun y hy => by
        rcases List.mem_append.mp hy with hy | hy
        · exact hext.kept _ (hbefore y hy)
        · obtain rfl := List.mem_singleton.mp hy
          exact hdone
    exact ⟨d, by rw [BlockSink.writeBlocks, hb]; exact hd, hext.trans hext', hall⟩

/-! ### Scans -/

variable {header : Header} {sums : List BlockSum}

lemma lt_of_lists (h : Filled path c P a) (hc : ControlFile.assemble header sums = .ok c)
    {D : List UInt8} {i : ℕ} (hi : Lists (Scan.found c D (Matcher.start c) 0) i) :
    i < c.header.numBlocks := by
  obtain ⟨x, hx, rfl⟩ := hi
  obtain ⟨hsum, -⟩ := Scan.sum_of_mem_found hc h.pos hx
  rw [← h.header, ← h.sound.sums, h.sums]
  exact (Array.getElem?_eq_some_iff.mp hsum).1

/-- **What a scan brings in.** If there are windows of that size, the scan of a seed that can be
read succeeds; it takes the blocks that a pass over the whole seed finds, and those that were
missing with the bytes found first. -/
lemma exists_scan_of_fits (h : Filled path c P a) (hc : ControlFile.assemble header sums = .ok c)
    (hfits : Matcher.reach c < UInt64.size) {source : Source} (hend : source.ending = none)
    {found : List (ℕ × List UInt8)}
    (hfound : found = Scan.found c (Scan.view c source.rest) (Matcher.start c) 0) :
    ∃ b left, Scan.seed c a source = (.ok (), b, left) ∧
      Extends (Lists found) (supplyOf c.header found) a b ∧
      ∀ x ∈ found, b.isBlockComplete x.1 = true := by
  have hwhole := Matcher.blockSize_le_span hfits
  have hspan := h.pos.trans_le hwhole
  have htake {b : Assembly} (hext : Extends (Lists found) (supplyOf c.header found) a b) :
      Filled path c (fun _ _ => True) b :=
    (h.mono fun _ _ _ => trivial).of_extends hext fun _ _ _ => trivial
  -- what lies behind the window at hand is still to come, all else is there
  obtain ⟨r, b, left, hscan, hfailed, hok⟩ := Scan.exists_seed
    (fun p m (b : Assembly) => Matcher.Carries c (Scan.view c source.rest) p m ∧
      Extends (Lists found) (supplyOf c.header found) a b ∧
      ∃ before, found = before ++ Scan.found c (Scan.view c source.rest) m p ∧
        ∀ x ∈ before, b.isBlockComplete x.1 = true)
    (fun _ _ => False)
    (by
      rintro p m b n ⟨hcarries, hext, hbefore⟩
      exact ⟨hcarries, hext.trans (.emit hext.sound _), hbefore⟩)
    (by
      rintro p m b w ⟨hcarries, hext, before, hsplit, hbefore⟩ hw -
      obtain ⟨m', hnext, hmore, hmatch⟩ := Scan.exists_found hcarries hc h.pos hw.fits
      obtain ⟨hone, hle⟩ := Matcher.strideAt_bounds h.pos (Scan.view c source.rest) p m
      rw [hmore, ← List.append_assoc] at hsplit
      obtain ⟨d, hd, hext', hall⟩ :=
        (htake hext).exists_writeBlocks hw hcarries.finds_writesAt hsplit hbefore
      refine ⟨_, m', d, hmatch (htake hext).searches hw hd, by simp, fun n hn => ?_⟩
      obtain rfl := Except.ok.inj hn
      exact ⟨hone, hle.trans hwhole, hnext, hext.trans hext', _, hsplit, hall⟩)
    hspan hend ⟨Matcher.carries_start hfits _, .refl h.sound, [], hfound, by simp⟩
  cases r with
  | error e => exact (hfailed e rfl).elim
  | ok u =>
    obtain ⟨p, m, ⟨-, hext, before, hsplit, hbefore⟩, hstop⟩ := hok rfl
    refine ⟨b, left, hscan, hext, fun x hx => ?_⟩
    rcases hstop with hdone | hshort
    · refine (isComplete_iff hext.sound).mp hdone _ ?_
      rw [hext.header, h.header]
      exact h.lt_of_lists hc ⟨x, hfound ▸ hx, rfl⟩
    · rw [Scan.found_of_short (by simpa [Scan.view] using hshort), List.append_nil] at hsplit
      exact hbefore x (hsplit ▸ hx)

lemma exists_scan (h : Filled path c P a) (hc : ControlFile.assemble header sums = .ok c)
    {source : Source} (hend : source.ending = none) {found : List (ℕ × List UInt8)}
    (hfound : found = Scan.found c (Scan.view c source.rest) (Matcher.start c) 0) :
    ∃ r b left, Scan.seed c a source = (r, b, left) ∧
      (Matcher.reach c < UInt64.size → r = .ok ()) ∧
      Extends (Lists found) (supplyOf c.header found) a b ∧
      ∀ x ∈ found, b.isBlockComplete x.1 = true := by
  rcases Nat.lt_or_ge (Matcher.reach c) UInt64.size with hfits | hover
  · obtain ⟨b, left, hscan, hrest⟩ := h.exists_scan_of_fits hc hfits hend hfound
    exact ⟨_, b, left, hscan, fun _ => rfl, hrest⟩
  · rw [Scan.found_of_overflow hover] at hfound
    subst hfound
    obtain ⟨r, b, left, hscan, hext, -⟩ := Scan.seed_of_overflow
      (Extends (Lists []) (supplyOf c.header []) a)
      (fun b n hext => hext.trans (.emit hext.sound _)) hover (.refl h.sound) source
    exact ⟨r, b, left, hscan, fun hfits => absurd hfits hover.not_gt, hext, by simp⟩

lemma supplyOf_of_lists {found : List (ℕ × List UInt8)} {i : ℕ} (hi : Lists found i) (h : Header) :
    ∃ bytes, (i, bytes) ∈ found ∧ supplyOf h found i = bytes.take (h.blockLength i) := by
  obtain ⟨x, hx, rfl⟩ := hi
  cases hlookup : found.lookup x.1 with
  | none => simpa using List.lookup_eq_none_iff.mp hlookup x hx
  | some bytes =>
    obtain ⟨before, after, rfl, hnew⟩ := List.lookup_eq_some_iff.mp hlookup
    refine ⟨bytes, by simp, supplyOf_of_new (fun y hy => ?_) h⟩
    exact Ne.symm (by simpa using hnew y hy)

end Filled

/-! ### What a scan can tell -/

/-- Two assemblies for a control file that differ in their journals at most. -/
def Same (path : String) (c : ControlFile) (a b : Assembly) : Prop :=
  Filled path c (fun _ _ => True) a ∧ ∃ journal, b = { a with journal }

lemma writeBlock_congr {v w : View} (h : v.toList = w.toList) (i offset : ℕ) :
    a.writeBlock i v offset = a.writeBlock i w offset := by
  have hslice (length : ℕ) : v.slice offset length = w.slice offset length := by
    rw [View.slice_eq, View.slice_eq, ← View.length_toList, h, View.length_toList]
  rw [writeBlock, writeBlock]
  dsimp only
  rw [hslice]

lemma exists_writeBlock_journal (i : ℕ) (w : View) (offset : ℕ) (journal : Array Event) :
    ∃ journal', writeBlock { a with journal } i w offset =
      ((a.writeBlock i w offset).1, { (a.writeBlock i w offset).2 with journal := journal' }) := by
  have hlen : blockLength { a with journal } i = a.blockLength i := rfl
  rw [writeBlock, writeBlock, hlen]
  dsimp only
  rcases a.completed[i]? with _ | _ | _
  · exact ⟨journal, rfl⟩
  · cases w.slice offset (a.blockLength i) <;> exact ⟨_, rfl⟩
  · exact ⟨journal, rfl⟩

/-- No scan tells two such assemblies apart. -/
lemma bisimilar_same (path : String) (c : ControlFile) :
    BlockSink.Bisimilar c (Same path c) where
  searches h := h.1.searches
  isComplete := by
    rintro a _ ⟨-, journal, rfl⟩
    rfl
  noteRead := by
    rintro a _ n ⟨hfilled, journal, rfl⟩
    exact ⟨hfilled.emit _, journal, rfl⟩
  writeBlock := by
    rintro a _ v w i offset ⟨hfilled, journal, rfl⟩ hvw
    obtain ⟨journal', hb⟩ := exists_writeBlock_journal (a := a) i w offset journal
    have ha : BlockSink.writeBlock a i v offset = a.writeBlock i w offset :=
      writeBlock_congr hvw i offset
    have hb : BlockSink.writeBlock { a with journal } i w offset = _ := hb
    rw [ha, hb]
    exact ⟨rfl,
      hfilled.of_extends (extends_writeBlock hfilled.sound i w offset) fun _ _ _ => trivial,
      journal', rfl⟩

end SeedSync.Assembly
