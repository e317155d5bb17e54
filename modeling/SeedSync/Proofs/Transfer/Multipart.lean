import Mathlib
import SeedSync.Proofs.Text.Utf8
import SeedSync.Proofs.Transfer.Body
import SeedSync.Proofs.Transfer.ContentType

/-!
Multipart bodies as a server writes them, and that their parts come out again. A reader may take
as much of each body as it likes: what stands between the reader and the next part is the rest of
the body and a line end, and both are skipped without a look at what they hold.
-/

namespace SeedSync.Multipart

open Blank Utf8

/-! ### How far a reader has come -/

section

variable {b c : Buffered} {m m' : Multipart} {r : ByteRange}

lemma precedes_readLine {answer : Except Error (Option (List Char))}
    (h : readLine b = (answer, c)) : b.Precedes c := by
  have hread := Buffered.precedes_readUntil 10 maxLine #[] b
  rw [readLine] at h
  split at h
  · next e d hd =>
    obtain rfl := (Prod.mk.inj h).2
    rwa [hd] at hread
  · next raw d hd =>
    rw [hd] at hread
    split at h
    · exact (Prod.mk.inj h).2 ▸ hread
    · split at h <;> exact (Prod.mk.inj h).2 ▸ hread

lemma precedes_seekPart (delimiter : List Char) (started : Bool) (b : Buffered) :
    b.Precedes (seekPart delimiter started b).2 := by
  fun_induction seekPart delimiter started b with
  | case3 b line c h _ ih => exact (precedes_readLine h).trans ih
  | case7 b line c h _ _ _ _ _ ih => exact (precedes_readLine h).trans ih
  | _ => exact precedes_readLine ‹_›

lemma precedes_readHeader (range : Option ByteRange) (b : Buffered) :
    b.Precedes (readHeader range b).2 := by
  fun_induction readHeader range b with
  | case7 range b line c h _ name value _ _ _ r _ ih => exact (precedes_readLine h).trans ih
  | case8 range b line c h _ name value _ _ ih => exact (precedes_readLine h).trans ih
  | _ => exact precedes_readLine ‹_›

lemma valid_of_readHeader {told : Option ByteRange} (htold : ∀ q ∈ told, q.Valid)
    (h : readHeader told b = (.ok r, c)) : r.Valid := by
  fun_induction readHeader told b with
  | case3 b line d hline hempty q =>
    obtain rfl := Except.ok.inj (Prod.mk.inj h).1
    exact htold q rfl
  | case7 told b line d hline hempty name value hcut hname text q hparse ih =>
    exact ih (by simpa using ByteRange.valid_of_parseChars hparse) h
  | case8 told b line d hline hempty name value hcut hname ih => exact ih htold h
  | _ => cases (Prod.mk.inj h).1

lemma unfinished_of_next (hnext : m.next = (.ok (some r), m')) : m.finished = false := by
  by_contra hfinished
  rw [next, if_pos (by simpa using hfinished)] at hnext
  cases hnext

lemma exists_seek_of_next (hopen : m.finished = false) {found : Option ByteRange}
    (hnext : m.next = (.ok found, m')) :
    ∃ skipped rs d another c, m.reader.readUpTo m.remaining = (⟨skipped, rs, none⟩, d) ∧
      seekPart m.delimiter m.started d = (.ok another, c) ∧
      (another = false → found = none ∧
        m' = { m with reader := c, remaining := 0, finished := true }) ∧
      (another = true → ∃ r c', readHeader none c = (.ok r, c') ∧ found = some r ∧
        m' = { m with reader := c', remaining := r.length, started := true }) := by
  rw [next, if_neg (by simp [hopen])] at hnext
  split at hnext
  · cases (Prod.mk.inj hnext).1
  next skipped rs d hskip =>
  split at hnext
  · cases (Prod.mk.inj hnext).1
  · next c hseek =>
    obtain ⟨h1, rfl⟩ := Prod.mk.inj hnext
    exact ⟨skipped, rs, d, false, c, hskip, hseek, fun _ => ⟨(Except.ok.inj h1).symm, rfl⟩, by simp⟩
  · next c hseek =>
    split at hnext
    · cases (Prod.mk.inj hnext).1
    next r c' hheader =>
    obtain ⟨h1, rfl⟩ := Prod.mk.inj hnext
    exact ⟨skipped, rs, d, true, c, hskip, hseek, by simp, fun _ =>
      ⟨r, c', hheader, (Except.ok.inj h1).symm, rfl⟩⟩

/-- The next part lies further on, and as much is left of it as its range is long. -/
lemma next_some (hnext : m.next = (.ok (some r), m')) :
    m.reader.Precedes m'.reader ∧ m'.remaining = r.length ∧ r.Valid := by
  obtain ⟨_, _, d, another, c, hskip, hseek, hnone, hsome⟩ :=
    exists_seek_of_next (unfinished_of_next hnext) hnext
  have hskipped := m.reader.precedes_gather m.remaining #[] #[]
  rw [← Buffered.readUpTo, hskip] at hskipped
  have hsought := precedes_seekPart m.delimiter m.started d
  rw [hseek] at hsought
  cases another with
  | false => cases (hnone rfl).1
  | true =>
    obtain ⟨q, c', hheader, hq, rfl⟩ := hsome rfl
    obtain rfl := Option.some.inj hq
    have hheaded := precedes_readHeader none c
    rw [hheader] at hheaded
    exact ⟨(hskipped.trans hsought).trans hheaded, rfl, valid_of_readHeader (by simp) hheader⟩

end

/-! ### Writing -/

def crlf : List UInt8 := [13, 10]

/-- A part with what a server says about it: its range, the lines above and below that one, and
the bytes. -/
structure Part where
  range : ByteRange
  total : Option ℕ
  above : List (List UInt8)
  below : List (List UInt8)
  body : List UInt8

namespace Part

def rangeLine (p : Part) : List UInt8 :=
  ascii ("Content-Range: ".toList ++ p.range.contentRange p.total)

def lines (p : Part) : List (List UInt8) := p.above ++ p.rangeLine :: p.below

def bytes (b : String) (p : Part) : List UInt8 :=
  ascii ("--".toList ++ b.toList) ++ crlf ++ p.lines.flatMap (· ++ crlf) ++ crlf ++ p.body ++ crlf

end Part

/-- A header line about something else than the range. With its end it is no longer than lines may
be. -/
def IsFurther (line : List UInt8) : Prop :=
  ∃ name value, line = ascii name ++ 58 :: value ∧
    (∀ c ∈ name, 33 ≤ c.toNat ∧ c.toNat < 127 ∧ c ≠ ':') ∧
    Cut.sameFolded name "content-range".toList = false ∧ 10 ∉ value ∧ line.length + 2 ≤ maxLine

/-- The body is as long as the range says, and the lines are ones. -/
structure Part.Legal (p : Part) : Prop where
  order : p.range.first ≤ p.range.last
  last : p.range.last < UInt64.size
  extent : p.range.extent < UInt64.size
  body : p.body.length = p.range.extent
  fits : p.rangeLine.length + 2 ≤ maxLine
  further : ∀ line ∈ p.above ++ p.below, IsFurther line

lemma Part.Legal.length_eq {p : Part} (hp : p.Legal) : p.range.length = p.body.length :=
  (p.range.length_eq_extent hp.order hp.extent).trans hp.body.symm

def encode (b : String) (parts : List Part) : List UInt8 :=
  parts.flatMap (Part.bytes b) ++ ascii ("--".toList ++ b.toList ++ "--".toList) ++ crlf

lemma encode_cons (b : String) (p : Part) (parts : List Part) :
    encode b (p :: parts) = p.bytes b ++ encode b parts := by
  simp [encode]

lemma length_le_encode (b : String) (parts : List Part) :
    parts.length ≤ (encode b parts).length := by
  induction parts with
  | nil => exact Nat.zero_le _
  | cons p parts ih =>
    rw [encode_cons, List.length_append, List.length_cons, Part.bytes, List.length_append, crlf]
    simp only [List.length_cons]
    omega

/-! ### Lines -/

variable {reader : Buffered} {line tail : List UInt8} {cs : List Char}

def isBreak (c : Char) : Bool := c == '\r' || c == '\n'

lemma isBreak_eq_false {c : Char} (h : 32 ≤ c.toNat) : isBreak c = false := by
  rw [isBreak, Bool.or_eq_false_iff, beq_eq_false_iff_ne, beq_eq_false_iff_ne]
  constructor
  · rintro rfl
    exact absurd h (by decide)
  · rintro rfl
    exact absurd h (by decide)

lemma exists_readLine (h : reader.Ready (line ++ crlf ++ tail)) (hline : 10 ∉ line)
    (hlen : line.length + 2 ≤ maxLine) : ∃ c,
      readLine reader = (.ok (some (dropTrailing isBreak (decodeLossy (line ++ crlf)))), c) ∧
        c.Ready tail := by
  have hready : reader.Ready (line ++ [13] ++ 10 :: tail) := by simpa [crlf] using h
  have hfits : (line ++ [13]).length < maxLine := by
    rw [List.length_append, List.length_singleton]
    exact hlen
  obtain ⟨c, hc, htail⟩ := Buffered.exists_readUntil hready (by simpa using hline) hfits #[]
  have hraw : (#[] : Array UInt8).toList ++ (line ++ [13]) ++ [10] = line ++ crlf := by simp [crlf]
  have hlast : (line ++ crlf).getLast? = some 10 := by simp [crlf]
  have hne : (line ++ crlf).isEmpty = false := by simp [crlf]
  refine ⟨c, ?_, htail⟩
  rw [readLine, hc, hraw]
  dsimp only
  rw [hne, hlast, if_neg (by simp), if_neg (by simp)]
  rfl

lemma exists_readLine_ascii (h : reader.Ready (ascii cs ++ crlf ++ tail))
    (hcs : ∀ c ∈ cs, 32 ≤ c.toNat ∧ c.toNat < 127) (hlen : cs.length + 2 ≤ maxLine) :
    ∃ c, readLine reader = (.ok (some cs), c) ∧ c.Ready tail := by
  have hascii : ∀ c ∈ cs, c.toNat < 128 := fun c hc => (hcs c hc).2.trans (by decide)
  have hnl : 10 ∉ ascii cs := fun hmem => by
    have := hcs '\n' (mem_of_mem_ascii hascii (by decide) hmem)
    exact absurd this.1 (by decide)
  obtain ⟨c, hc, htail⟩ := exists_readLine h hnl (by rwa [length_ascii])
  have hbreak : decodeLossy crlf = ['\r', '\n'] := by decide
  rw [decodeLossy_ascii_append hascii, hbreak,
    dropTrailing_append (fun c hc => isBreak_eq_false (hcs c hc).1) (by simp [isBreak])] at hc
  exact ⟨c, hc, htail⟩

lemma exists_readLine_nil (h : reader.Ready (crlf ++ tail)) :
    ∃ c, readLine reader = (.ok (some []), c) ∧ c.Ready tail := by
  have h : reader.Ready (ascii [] ++ crlf ++ tail) := h
  exact exists_readLine_ascii h (by simp) (by decide)

/-! ### Delimiters -/

lemma seekPart_of_readLine {delimiter : List Char} {started : Bool} {c : Buffered}
    (h : readLine reader = (.ok (some cs), c)) : seekPart delimiter started reader =
      if cs.isEmpty then seekPart delimiter started c
      else
        let tail? := if delimiter.isPrefixOf cs then some (cs.drop delimiter.length) else none
        if tail?.any ("--".toList.isPrefixOf ·) then (.ok false, c)
        else if tail?.any fun t => (trim t).isEmpty then (.ok true, c)
        else if started then (.error (.malformed (.notBoundary (String.ofList cs))), c)
        else seekPart delimiter started c := by
  rw [seekPart]
  split
  · next hr => simp [h] at hr
  · next hr => simp [h] at hr
  · next hr =>
    obtain ⟨rfl, rfl⟩ := by simpa [h] using hr
    rfl

variable {b : String}

lemma exists_seekPart_blank (delimiter : List Char) (started : Bool)
    (h : reader.Ready (crlf ++ tail)) :
    ∃ c, seekPart delimiter started reader = seekPart delimiter started c ∧ c.Ready tail := by
  obtain ⟨c, hc, htail⟩ := exists_readLine_nil h
  exact ⟨c, by rw [seekPart_of_readLine hc]; rfl, htail⟩

lemma IsBoundary.delimiter_chars (hb : IsBoundary b) :
    ∀ c ∈ "--".toList ++ b.toList, 32 ≤ c.toNat ∧ c.toNat < 127 := by
  intro c hc
  rcases List.mem_append.mp hc with hc | hc
  · have : ∀ c ∈ "--".toList, 32 ≤ c.toNat ∧ c.toNat < 127 := by simp
    exact this c hc
  · obtain ⟨hlow, hhigh, -⟩ := toNat_of_isBoundaryChar (hb.chars c hc)
    exact ⟨hlow, by omega⟩

/-- What follows the delimiter on its line decides. -/
lemma IsBoundary.exists_seekPart (hb : IsBoundary b) (started : Bool) {mark : List Char}
    (hmark : mark = [] ∨ mark = "--".toList)
    (h : reader.Ready (ascii ("--".toList ++ b.toList ++ mark) ++ crlf ++ tail)) :
    ∃ c, seekPart ("--".toList ++ b.toList) started reader = (.ok mark.isEmpty, c) ∧
      c.Ready tail := by
  have hlen := hb.length.2
  have hmark' : mark.length ≤ 2 ∧ ∀ c ∈ mark, c = '-' := by
    rcases hmark with rfl | rfl <;> simp
  have hchars : ∀ c ∈ "--".toList ++ b.toList ++ mark, 32 ≤ c.toNat ∧ c.toNat < 127 := by
    intro c hc
    rcases List.mem_append.mp hc with hc | hc
    · exact hb.delimiter_chars c hc
    · rw [hmark'.2 c hc]
      decide
  have hfits : ("--".toList ++ b.toList ++ mark).length + 2 ≤ maxLine := by
    simp only [List.length_append, maxLine, String.reduceToList, List.length_cons, List.length_nil]
    omega
  obtain ⟨c, hc, htail⟩ := exists_readLine_ascii h hchars hfits
  refine ⟨c, ?_, htail⟩
  have hprefix : ("--".toList ++ b.toList).isPrefixOf ("--".toList ++ b.toList ++ mark) = true :=
    List.isPrefixOf_iff_prefix.mpr (List.prefix_append _ _)
  rw [seekPart_of_readLine hc, if_neg (by simp)]
  dsimp only
  rw [if_pos hprefix, List.drop_left]
  rcases hmark with rfl | rfl
  · rfl
  · rfl

/-! ### Header lines -/

lemma readHeader_of_readLine {range : Option ByteRange} {c : Buffered}
    (h : readLine reader = (.ok (some cs), c)) : readHeader range reader =
      if cs.isEmpty then
        match range with
        | some r => (.ok r, c)
        | none => (.error (.malformed .noRange), c)
      else
        match Cut.cut? ':' cs with
        | none => (.error (.malformed (.badHeader (String.ofList cs))), c)
        | some (name, value) =>
          if Cut.sameFolded (trim name) "content-range".toList then
            match ByteRange.parseChars (trim value) with
            | .error f => (.error (.malformed (.badRange (String.ofList (trim value)) f)), c)
            | .ok r => readHeader (some r) c
          else readHeader range c := by
  rw [readHeader]
  split
  · next hr => simp [h] at hr
  · next hr => simp [h] at hr
  · next hr =>
    obtain ⟨rfl, rfl⟩ := by simpa [h] using hr
    rfl

lemma IsFurther.exists_readHeader (hline : IsFurther line) (range : Option ByteRange)
    (h : reader.Ready (line ++ crlf ++ tail)) :
    ∃ c, readHeader range reader = readHeader range c ∧ c.Ready tail := by
  obtain ⟨name, value, rfl, hname, hother, hnl, hlen⟩ := hline
  have hascii : ∀ c ∈ name ++ [':'], c.toNat < 128 := by
    intro c hc
    rcases List.mem_append.mp hc with hc | hc
    · exact (hname c hc).2.1.trans (by decide)
    · rw [List.mem_singleton.mp hc]
      decide
  have hcolon : ascii name ++ 58 :: value = ascii (name ++ [':']) ++ value := by simp
  have hnl' : 10 ∉ ascii name ++ 58 :: value := by
    rw [hcolon, List.mem_append, not_or]
    refine ⟨fun hmem => ?_, hnl⟩
    have hmem : '\n' ∈ name ++ [':'] := mem_of_mem_ascii hascii (by decide) hmem
    rcases List.mem_append.mp hmem with hmem | hmem
    · exact absurd (hname _ hmem).1 (by decide)
    · exact absurd hmem (by decide)
  obtain ⟨c, hc, htail⟩ := exists_readLine h hnl' hlen
  refine ⟨c, ?_, htail⟩
  rw [hcolon, List.append_assoc, decodeLossy_ascii_append hascii, List.append_assoc,
    List.singleton_append, dropTrailing_append_cons (by decide)] at hc
  have hcut (rest : List Char) : Cut.cut? ':' (name ++ ':' :: rest) = some (name, rest) :=
    Cut.cut?_append_cons fun hmem => (hname _ hmem).2.2 rfl
  have htrim : trim name = name := trim_of_no_blank fun c hc =>
    isBlank_eq_false (hname c hc).1 (hname c hc).2.1
  rw [readHeader_of_readLine hc, if_neg (by simp), hcut]
  dsimp only
  rw [htrim, hother, if_neg Bool.false_ne_true]

lemma exists_readHeader_further {lines : List (List UInt8)}
    (hlines : ∀ line ∈ lines, IsFurther line) (range : Option ByteRange)
    (h : reader.Ready (lines.flatMap (· ++ crlf) ++ tail)) :
    ∃ c, readHeader range reader = readHeader range c ∧ c.Ready tail := by
  induction lines generalizing reader with
  | nil => exact ⟨reader, rfl, h⟩
  | cons line lines ih =>
    rw [List.flatMap_cons, List.append_assoc] at h
    obtain ⟨c, hc, hrest⟩ := (hlines line (by simp)).exists_readHeader range h
    obtain ⟨d, hd, htail⟩ := ih (fun l hl => hlines l (by simp [hl])) hrest
    exact ⟨d, hc.trans hd, htail⟩

variable {p : Part}

lemma Part.Legal.exists_readHeader_range (hp : p.Legal) (range : Option ByteRange)
    (h : reader.Ready (p.rangeLine ++ crlf ++ tail)) :
    ∃ c, readHeader range reader = readHeader (some p.range) c ∧ c.Ready tail := by
  have hchars : ∀ c ∈ "Content-Range: ".toList ++ p.range.contentRange p.total,
      32 ≤ c.toNat ∧ c.toNat < 127 := by
    intro c hc
    rcases List.mem_append.mp hc with hc | hc
    · have : ∀ c ∈ "Content-Range: ".toList, 32 ≤ c.toNat ∧ c.toNat < 127 := by simp
      exact this c hc
    · exact ByteRange.toNat_of_mem_contentRange hc
  obtain ⟨c, hc, htail⟩ := exists_readLine_ascii h hchars (by
    simpa only [Part.rangeLine, length_ascii] using hp.fits)
  have hsplit : "Content-Range: ".toList ++ p.range.contentRange p.total =
      "Content-Range".toList ++ ':' :: ' ' :: p.range.contentRange p.total := by simp
  have hcut : Cut.cut? ':' ("Content-Range".toList ++ ':' :: ' ' :: p.range.contentRange p.total) =
      some ("Content-Range".toList, ' ' :: p.range.contentRange p.total) :=
    Cut.cut?_append_cons (by simp)
  have hname : Cut.sameFolded (trim "Content-Range".toList) "content-range".toList = true := by
    decide +kernel
  refine ⟨c, ?_, htail⟩
  rw [readHeader_of_readLine hc, if_neg (by simp), hsplit, hcut]
  dsimp only
  rw [if_pos hname, ByteRange.trim_contentRange, ByteRange.parseChars_contentRange hp.order hp.last]

/-- **The header of a part is read for its range**, whatever else it says. -/
lemma Part.Legal.exists_readHeader (hp : p.Legal)
    (h : reader.Ready (p.lines.flatMap (· ++ crlf) ++ crlf ++ tail)) :
    ∃ c, readHeader none reader = (.ok p.range, c) ∧ c.Ready tail := by
  have habove : ∀ line ∈ p.above, IsFurther line := fun line hl => hp.further line (by simp [hl])
  have hbelow : ∀ line ∈ p.below, IsFurther line := fun line hl => hp.further line (by simp [hl])
  rw [Part.lines, List.flatMap_append, List.flatMap_cons] at h
  simp only [List.append_assoc] at h
  obtain ⟨c₁, h₁, hready⟩ := exists_readHeader_further habove none h
  obtain ⟨c₂, h₂, hready⟩ := hp.exists_readHeader_range none (by simpa using hready)
  obtain ⟨c₃, h₃, hready⟩ := exists_readHeader_further hbelow (some p.range) hready
  obtain ⟨c, hc, htail⟩ := exists_readLine_nil hready
  refine ⟨c, ?_, htail⟩
  rw [h₁, h₂, h₃, readHeader_of_readLine hc]
  rfl

/-! ### From part to part -/

/-- Between the reader and the parts to come stand what is left of a body and some line ends;
behind the parts anything may follow. -/
structure Stands (b : String) (left : List UInt8) (breaks : ℕ) (parts : List Part)
    (epilogue : List UInt8) (m : Multipart) : Prop where
  delimiter : m.delimiter = "--".toList ++ b.toList
  unfinished : m.finished = false
  remaining : m.remaining = left.length
  reader : m.reader.Ready
    (left ++ (List.replicate breaks crlf).flatten ++ encode b parts ++ epilogue)

variable {left epilogue : List UInt8} {breaks : ℕ} {parts : List Part} {m : Multipart}

lemma exists_seekPart_breaks (delimiter : List Char) (started : Bool)
    (h : reader.Ready ((List.replicate breaks crlf).flatten ++ tail)) :
    ∃ c, seekPart delimiter started reader = seekPart delimiter started c ∧ c.Ready tail := by
  induction breaks generalizing reader with
  | zero => exact ⟨reader, rfl, h⟩
  | succ breaks ih =>
    rw [List.replicate_succ, List.flatten_cons, List.append_assoc] at h
    obtain ⟨c, hc, hrest⟩ := exists_seekPart_blank delimiter started h
    obtain ⟨d, hd, htail⟩ := ih hrest
    exact ⟨d, hc.trans hd, htail⟩

namespace Stands

lemma exists_skip (h : Stands b left breaks parts epilogue m) :
    ∃ rs c d, m.reader.readUpTo m.remaining = (⟨left, rs, none⟩, c) ∧
      seekPart m.delimiter m.started c = seekPart ("--".toList ++ b.toList) m.started d ∧
      d.Ready (encode b parts ++ epilogue) := by
  have hrest := h.reader.rest
  simp only [List.append_assoc] at hrest
  obtain ⟨rs, c, hc, hcrest, hcap⟩ := Buffered.exists_readUpTo (b := m.reader) (n := m.remaining)
    (by rw [hrest, h.remaining, List.length_append]; omega)
  rw [hrest, h.remaining, List.take_left] at hc
  rw [hrest, h.remaining, List.drop_left] at hcrest
  have hready : c.Ready ((List.replicate breaks crlf).flatten ++ (encode b parts ++ epilogue)) :=
    ⟨hcap ▸ h.reader.room, hcrest⟩
  obtain ⟨d, hd, htail⟩ := exists_seekPart_breaks m.delimiter m.started hready
  exact ⟨rs, c, d, by rw [h.remaining, hc], by rw [hd, h.delimiter], htail⟩

/-- **The next part is found**, and its body lies ahead. -/
lemma exists_next_cons (h : Stands b left breaks (p :: parts) epilogue m) (hb : IsBoundary b)
    (hp : p.Legal) : ∃ m', m.next = (.ok (some p.range), m') ∧
      Stands b p.body 1 parts epilogue m' := by
  obtain ⟨rs, c, d, hc, hd, hready⟩ := h.exists_skip
  rw [encode_cons, Part.bytes] at hready
  have hready : d.Ready (ascii ("--".toList ++ b.toList ++ []) ++ crlf ++
      (p.lines.flatMap (· ++ crlf) ++ crlf ++
        (p.body ++ (crlf ++ (encode b parts ++ epilogue))))) := by
    simpa using hready
  obtain ⟨d₁, h₁, hready⟩ := hb.exists_seekPart m.started (.inl rfl) hready
  obtain ⟨d₂, h₂, hready⟩ := hp.exists_readHeader hready
  refine ⟨{ m with reader := d₂, remaining := p.range.length, started := true }, ?_, h.delimiter,
    h.unfinished, hp.length_eq, by simpa using hready⟩
  rw [next, h.unfinished, if_neg Bool.false_ne_true, hc]
  dsimp only
  rw [hd, h₁]
  dsimp only [List.isEmpty_nil]
  rw [h₂]

/-- Behind the last part there is none, then and ever after. -/
lemma exists_next_nil (h : Stands b left breaks [] epilogue m) (hb : IsBoundary b) :
    ∃ m', m.next = (.ok none, m') ∧ m'.finished = true := by
  obtain ⟨rs, c, d, hc, hd, hready⟩ := h.exists_skip
  have hready : d.Ready (ascii ("--".toList ++ b.toList ++ "--".toList) ++ crlf ++ epilogue) := by
    simpa [encode] using hready
  obtain ⟨d₁, h₁, -⟩ := hb.exists_seekPart m.started (.inr rfl) hready
  refine ⟨{ m with reader := d₁, remaining := 0, finished := true }, ?_, rfl⟩
  rw [next, h.unfinished, if_neg Bool.false_ne_true, hc]
  dsimp only
  rw [hd, h₁]
  rfl

end Stands

/-! ### Sessions -/

/-- What a caller gets of one part: the range, and what the reads of the body give. -/
abbrev Record := Except Error (Option ByteRange) × List (Except IoError (List UInt8))

/-- Asks for one part after the other and reads of the body of each with buffers of the sizes given
for it. -/
def session (m : Multipart) : List (List ℕ) → List Record
  | [] => []
  | sizes :: script =>
    match m.next with
    | (.ok (some r), m) =>
      let (answers, body) := (m.body false).reads sizes
      (.ok (some r), answers) :: session (m.resume body) script
    | (result, m) => (result, []) :: session m script

lemma next_of_finished (h : m.finished = true) : m.next = (.ok none, m) := by
  rw [next, if_pos h]

lemma session_of_finished (h : m.finished = true) (script : List (List ℕ)) :
    m.session script = script.map fun _ => (.ok none, []) := by
  induction script with
  | nil => rfl
  | cons sizes script ih =>
    rw [session, next_of_finished h]
    dsimp only
    rw [ih]
    rfl

/-- What a session is to give: the parts in turn with their bodies, and then nothing. Up to `k` of
the reads of a body are interrupted. -/
inductive Yields (k : ℕ) : List Part → List (List ℕ) → List Record → Prop
  | nil (parts : List Part) : Yields k parts [] []
  | part {p : Part} {parts : List Part} {sizes : List ℕ} {script : List (List ℕ)}
      {answers : List (Except IoError (List UInt8))} {records : List Record}
      (body : Body.Gives none k p.body sizes answers) (more : Yields k parts script records) :
      Yields k (p :: parts) (sizes :: script) ((.ok (some p.range), answers) :: records)
  | none {sizes : List ℕ} {script : List (List ℕ)} {records : List Record}
      (more : Yields k [] script records) :
      Yields k [] (sizes :: script) ((.ok none, []) :: records)

variable {k : ℕ}

lemma yields_nil (script : List (List ℕ)) :
    Yields k [] script (script.map fun _ => (.ok none, [])) := by
  induction script with
  | nil => exact .nil []
  | cons sizes script ih => exact .none ih

/-- **A session gives the parts**, however much it leaves of each. -/
lemma Stands.yields (h : Stands b left breaks parts epilogue m) (hb : IsBoundary b)
    (hk : m.reader.source.interruptions ≤ k) (hparts : ∀ p ∈ parts, p.Legal)
    {script : List (List ℕ)} (hscript : ∀ sizes ∈ script, ∀ n ∈ sizes, 0 < n) :
    Yields k parts script (m.session script) := by
  induction script generalizing m left breaks parts with
  | nil => exact .nil parts
  | cons sizes script ih =>
    have hrest : ∀ sizes ∈ script, ∀ n ∈ sizes, 0 < n := fun s hs => hscript s (by simp [hs])
    cases parts with
    | nil =>
      obtain ⟨m', hnext, hfinished⟩ := h.exists_next_nil hb
      rw [session, hnext]
      dsimp only
      rw [session_of_finished hfinished]
      exact .none (yields_nil script)
    | cons p parts =>
      obtain ⟨m₁, hnext, h₁⟩ := h.exists_next_cons hb (hparts p (by simp))
      have hk₁ := (next_some hnext).1.interruptions_le.trans hk
      have hready := h₁.reader.rest
      simp only [List.append_assoc] at hready
      set body₁ := m₁.body false with hbody₁
      have hbound : body₁.bound = .exactly p.body.length := by
        rw [hbody₁, body, h₁.remaining]
      obtain ⟨hbytes, hbehind⟩ := Body.bytes_of_exactly hbound hready
      have hgives := body₁.gives_reads hk₁ (hscript sizes List.mem_cons_self)
      rw [hbytes, hbehind] at hgives
      obtain ⟨left', hbound', hrest'⟩ :=
        Body.exists_reads hbound hready (hscript sizes List.mem_cons_self)
      have hprec := body₁.precedes_reads sizes
      have h₂ : Stands b left' 1 parts epilogue (m₁.resume (body₁.reads sizes).2) :=
        ⟨h₁.delimiter, h₁.unfinished, by rw [resume, hbound'],
          hprec.capacity.symm ▸ h₁.reader.room, by simpa [resume] using hrest'⟩
      rw [session, hnext]
      exact .part hgives (ih h₂ (hprec.interruptions_le.trans hk₁)
        (fun q hq => hparts q (by simp [hq])) hrest)

/-- **Decoding undoes encoding.** The boundary comes out of the type that names it; and of a body
that was put together with it, read through a buffer with any room and however the bytes arrive,
each part in turn gives its range, and its body the bytes of that part and then their end, whatever
the bodies hold and however much of them is left unread. Behind the last part there is none, as
often as it is asked for. No more reads are interrupted than the source is, and nothing is lost by
that. -/
theorem decodes_what_was_encoded (hb : IsBoundary b) {a : Announcement} (ha : a.Legal b)
    (hparts : ∀ p ∈ parts, p.Legal) {capacity : ℕ} (hroom : 0 < capacity) {source : Source}
    (hsource : source.rest = (List.replicate breaks crlf).flatten ++ encode b parts ++ epilogue)
    {script : List (List ℕ)} (hscript : ∀ sizes ∈ script, ∀ n ∈ sizes, 0 < n) :
    boundary (a.text b) = .ok b ∧ Yields source.interruptions parts script
      ((ofReader (.ofSource capacity source) b).session script) := by
  have hstart : Stands b [] breaks parts epilogue (ofReader (.ofSource capacity source) b) :=
    ⟨rfl, rfl, rfl, hroom, hsource⟩
  exact ⟨ha.boundary_text hb, hstart.yields hb le_rfl hparts hscript⟩

/-- A part whose body looks like a delimiter. -/
def lookAlike : Part :=
  ⟨⟨4, 6⟩, some 9, [ascii "Content-Type: text/plain".toList], [], ascii "--B".toList⟩

/-- A type in capitals, with its boundary quoted. -/
def capitals : Announcement := ⟨"Multipart/Byteranges".toList, [], 1, "Boundary".toList, true, []⟩

lemma isBoundary_letter : IsBoundary "B" where
  chars c hc := by
    obtain rfl : c = 'B' := by simpa using hc
    rfl
  length := by simp
  last := by simp

lemma legal_capitals : capitals.Legal "B" where
  media := show Cut.sameFolded "Multipart/Byteranges".toList "multipart/byteranges".toList = true by
    decide +kernel
  before := List.forall_mem_nil _
  name := show Cut.sameFolded "Boundary".toList "boundary".toList = true by decide +kernel
  after := List.forall_mem_nil _
  quoted _ := rfl

lemma legal_lookAlike : lookAlike.Legal where
  order := by decide
  last := by decide
  extent := by decide
  body := by decide
  fits := by
    simp [lookAlike, Part.rangeLine, ByteRange.contentRange, ByteRange.totalText, Decimal.render,
      maxLine]
  further := by
    intro line hline
    obtain rfl : line = ascii "Content-Type: text/plain".toList := by simpa [lookAlike] using hline
    refine ⟨"Content-Type".toList, ascii " text/plain".toList, by decide +kernel, ?_,
      by decide +kernel, by decide +kernel, by decide +kernel⟩
    simp

/-- The body is read in pieces, the first of which stops short. -/
theorem decodes_a_look_alike :
    IsBoundary "B" ∧ capitals.Legal "B" ∧ (∀ p ∈ [lookAlike], p.Legal) ∧ 0 < 1 ∧
      (⟨crlf ++ encode "B" [lookAlike], [.short 2, .interrupted], none⟩ : Source).rest =
        (List.replicate 1 crlf).flatten ++ encode "B" [lookAlike] ++ [] ∧
      (∀ sizes ∈ [[2, 5], [1]], ∀ n ∈ sizes, 0 < n) ∧
      boundary (capitals.text "B") = .ok "B" ∧
      Yields 1 [lookAlike] [[2, 5], [1]] ((ofReader (.ofSource 1
        ⟨crlf ++ encode "B" [lookAlike], [.short 2, .interrupted], none⟩) "B").session
          [[2, 5], [1]]) := by
  have hparts : ∀ p ∈ [lookAlike], p.Legal := fun p hp => List.mem_singleton.mp hp ▸ legal_lookAlike
  have hsource : (⟨crlf ++ encode "B" [lookAlike], [.short 2, .interrupted], none⟩ : Source).rest =
      (List.replicate 1 crlf).flatten ++ encode "B" [lookAlike] ++ [] := by simp
  have hscript : ∀ sizes ∈ [[2, 5], [1]], ∀ n ∈ sizes, 0 < n := by decide
  obtain ⟨hboundary, hyields⟩ := decodes_what_was_encoded isBoundary_letter legal_capitals hparts
    (Nat.succ_pos 0) hsource hscript
  exact ⟨isBoundary_letter, legal_capitals, hparts, Nat.succ_pos 0, hsource, hscript, hboundary,
    hyields⟩

/-- A buffer without room is empty after each fill, which is how the end of the bytes looks. -/
lemma session_without_room (bytes : List UInt8) (b : String) (sizes : List ℕ) :
    (ofReader (.ofSource 0 (.ofBytes bytes)) b).session [sizes] =
      [(.error (.malformed .ended), [])] := by
  set m := ofReader (.ofSource 0 (.ofBytes bytes)) b with hm
  have hfill : m.reader.fill = (.ok (), m.reader) := by
    cases bytes <;> rfl
  have hskip : m.reader.readUpTo m.remaining = (⟨[], [], none⟩, m.reader) := by
    rw [Buffered.readUpTo, Buffered.gather]
    rfl
  have hline : readLine m.reader = (.ok none, m.reader) := by
    rw [readLine, Buffered.readUntil, if_neg (by decide), hfill]
    rfl
  have hseek :
      seekPart m.delimiter m.started m.reader = (.error (.malformed .ended), m.reader) := by
    rw [seekPart]
    split
    · next hr => simp [hline] at hr
    · next hr =>
      obtain rfl := by simpa [hline] using hr
      rfl
    · next hr => simp [hline] at hr
  have hnext : m.next = (.error (.malformed .ended), m) := by
    rw [next, if_neg (by simp [hm, ofReader]), hskip]
    dsimp only
    rw [hseek]
    rfl
  rw [session, hnext]
  rfl

/-- **Without room in the buffer nothing is decoded**: not even the first part is found. -/
theorem decodes_nothing_without_room : IsBoundary "B" ∧ (∀ p ∈ [lookAlike], p.Legal) ∧
    ¬ Yields 0 [lookAlike] [[3]]
      ((ofReader (.ofSource 0 (.ofBytes (encode "B" [lookAlike]))) "B").session [[3]]) := by
  refine ⟨isBoundary_letter, fun p hp => List.mem_singleton.mp hp ▸ legal_lookAlike, ?_⟩
  rw [session_without_room]
  intro h
  cases h

end SeedSync.Multipart
