import Mathlib
import SeedSync.Control.Header
import SeedSync.Proofs.Stream.Buffered
import SeedSync.Proofs.Text.Blank
import SeedSync.Proofs.Text.Cut
import SeedSync.Proofs.Text.Decimal
import SeedSync.Proofs.Text.Hex

/-!
The lines that a header can be written in: in any order, with their keys in any case, and between
others whose keys mean nothing. Whichever lines are chosen, they are read as that header.
-/

namespace SeedSync.Header

/-! ### Lines -/

structure Line where
  key : List Char
  value : List Char
  /-- Whether a carriage return stands before the line feed. -/
  isCrlf : Bool

def carriage (isCrlf : Bool) : List Char := if isCrlf then ['\r'] else []

def lineBytes (text : List Char) (isCrlf : Bool) : List UInt8 :=
  Utf8.encode (String.ofList (text ++ carriage isCrlf ++ ['\n']))

namespace Line

def text (l : Line) : List Char := l.key ++ ':' :: ' ' :: l.value

def bytes (l : Line) : List UInt8 := lineBytes l.text l.isCrlf

def name (l : Line) : String := String.ofList ((Blank.trim l.key).map Char.toLower)

/-- It is one line, and its key ends with the first colon. -/
structure WellFormed (l : Line) : Prop where
  colon : ':' ∉ l.key
  key : ∀ c ∈ l.key, isLineEnd c = false
  value : ∀ c ∈ l.value, isLineEnd c = false

end Line

/-- A text that stands in a line with blanks around it and is found again. -/
structure Inline (cs : List Char) : Prop where
  line : ∀ c ∈ cs, isLineEnd c = false
  trim : Blank.trim cs = cs

/-- A header as it can be written, without a date. -/
structure Writable (h : Header) : Prop where
  version : Inline h.version.toList
  url : Inline h.url.toList
  filename : Inline h.filename.toList
  named : h.filename ≠ ""
  blockSize : 1 ≤ h.blockSize
  sequence : 1 ≤ h.hashLengths.sequence ∧ h.hashLengths.sequence ≤ 2
  rolling : 2 ≤ h.hashLengths.rolling ∧ h.hashLengths.rolling ≤ 4
  strong : 3 ≤ h.hashLengths.strong ∧ h.hashLengths.strong ≤ 16
  mtime : h.mtime = none

/-- Three numbers between commas. -/
def hashLengthsText (h : HashLengths) : List Char :=
  Decimal.render h.sequence ++ ',' :: (Decimal.render h.rolling ++ ',' :: Decimal.render h.strong)

def entries (h : Header) : List (String × List Char) := [
  ("zsync", h.version.toList),
  ("length", Decimal.render h.length),
  ("blocksize", Decimal.render h.blockSize),
  ("hash-lengths", hashLengthsText h.hashLengths),
  ("sha-1", (Hex.encode h.sha1.toList).toList),
  ("url", h.url.toList),
  ("filename", h.filename.toList)]

def names : List String :=
  ["zsync", "length", "blocksize", "hash-lengths", "sha-1", "url", "filename", "mtime"]

/-- The lines say all of a header, and nothing else under the names that mean something. -/
structure Describes (ls : List Line) (h : Header) : Prop where
  wellFormed : ∀ l ∈ ls, l.WellFormed
  all : ∀ e ∈ h.entries, ∃ l ∈ ls, (l.name, l.value) = e
  only : ∀ l ∈ ls, l.name ∈ names → (l.name, l.value) ∈ h.entries

/-- The values of a header that lines with these names have told. -/
def told (h : Header) (ns : List String) : Fields where
  version := if "zsync" ∈ ns then some h.version.toList else none
  length := if "length" ∈ ns then some ⟨h.length, h.length_lt⟩ else none
  blockSize := if "blocksize" ∈ ns then some ⟨h.blockSize, h.blockSize_lt⟩ else none
  hashLengths := if "hash-lengths" ∈ ns then h.hashLengths else .standard
  sha1 := if "sha-1" ∈ ns then some h.sha1 else none
  url := if "url" ∈ ns then some h.url.toList else none
  filename := if "filename" ∈ ns then some h.filename.toList else none
  mtime := none

variable {hd : Header} {ns : List String} {l : Line} {ls : List Line} {b : Buffered}

/-! ### Values -/

lemma number_render {key : String} {limit n : ℕ} (hn : n < limit) :
    number key limit (Decimal.render n) = .ok ⟨n, hn⟩ := by
  rw [number, Decimal.below?_render hn]

lemma blockSize?_render {n : ℕ} (hpos : 1 ≤ n) (hn : n < UInt64.size) :
    blockSize? (Decimal.render n) = .ok ⟨n, hn⟩ := by
  rw [blockSize?, number_render hn]
  exact if_neg (Nat.ne_of_gt hpos)

lemma trim_render (n : ℕ) : Blank.trim (Decimal.render n) = Decimal.render n := by
  refine Blank.trim_of_no_blank fun c hc => ?_
  have := Decimal.toNat_of_mem_render hc
  exact Blank.isBlank_eq_false (by omega) (by omega)

lemma pieces_hashLengthsText (h : HashLengths) : Cut.pieces (· == ',') (hashLengthsText h) =
    [Decimal.render h.sequence, Decimal.render h.rolling, Decimal.render h.strong] := by
  have hdigits (n : ℕ) : ∀ c ∈ Decimal.render n, (c == ',') = false := by
    intro c hc
    rw [beq_eq_false_iff_ne]
    rintro rfl
    exact Decimal.not_mem_render (.inl (by decide)) hc
  rw [hashLengthsText, Cut.pieces_append_cons rfl (hdigits _),
    Cut.pieces_append_cons rfl (hdigits _), Cut.pieces_of_not_sep (hdigits _)]

lemma hashLengths?_text {l : HashLengths} (hsequence : 1 ≤ l.sequence ∧ l.sequence ≤ 2)
    (hrolling : 2 ≤ l.rolling ∧ l.rolling ≤ 4) (hstrong : 3 ≤ l.strong ∧ l.strong ≤ 16) :
    hashLengths? (hashLengthsText l) = .ok l := by
  rw [hashLengths?, pieces_hashLengthsText]
  simp only [List.map_cons, List.map_nil, trim_render]
  rw [number_render (by omega), number_render (by omega), number_render (by omega)]
  change (if l.sequence < 1 ∨ 2 < l.sequence then _ else
    if l.rolling < 2 ∨ 4 < l.rolling then _ else if l.strong < 3 ∨ 16 < l.strong then _ else _) = _
  rw [if_neg (by omega), if_neg (by omega), if_neg (by omega)]

lemma sha1?_encode (sha1 : Vector UInt8 20) :
    sha1? (Hex.encode sha1.toList).toList = .ok sha1 := by
  rw [sha1?, String.ofList_toList, Hex.decode_encode]
  dsimp only
  rw [dif_pos (by simp)]
  rfl

/-! ### One line -/

lemma inline_of_printable {cs : List Char} (h : ∀ c ∈ cs, 33 ≤ c.toNat ∧ c.toNat < 127) :
    Inline cs where
  line c hc := by
    have := h c hc
    rw [isLineEnd, Bool.or_eq_false_iff, beq_eq_false_iff_ne, beq_eq_false_iff_ne]
    constructor
    · rintro rfl
      exact absurd this.1 (by decide)
    · rintro rfl
      exact absurd this.1 (by decide)
  trim := Blank.trim_of_no_blank fun c hc => Blank.isBlank_eq_false (h c hc).1 (h c hc).2

lemma printable_render (n : ℕ) : ∀ c ∈ Decimal.render n, 33 ≤ c.toNat ∧ c.toNat < 127 := by
  intro c hc
  have := Decimal.toNat_of_mem_render hc
  omega

lemma printable_hashLengthsText (l : HashLengths) :
    ∀ c ∈ hashLengthsText l, 33 ≤ c.toNat ∧ c.toNat < 127 := by
  intro c hc
  simp only [hashLengthsText, List.mem_append, List.mem_cons] at hc
  rcases hc with hc | rfl | hc | rfl | hc
  · exact printable_render _ c hc
  · decide
  · exact printable_render _ c hc
  · decide
  · exact printable_render _ c hc

lemma Writable.inline (h : Writable hd) {e : String × List Char} (he : e ∈ hd.entries) :
    Inline e.2 := by
  simp only [entries, List.mem_cons, List.not_mem_nil, or_false] at he
  rcases he with rfl | rfl | rfl | rfl | rfl | rfl | rfl
  · exact h.version
  · exact inline_of_printable (printable_render _)
  · exact inline_of_printable (printable_render _)
  · exact inline_of_printable (printable_hashLengthsText _)
  · exact inline_of_printable fun c hc => by
      have := Hex.toNat_of_mem_encode hc
      omega
  · exact h.url
  · exact h.filename

lemma beq_toList (s t : String) : (s.toList == t.toList) = (s == t) := by
  rw [Bool.eq_iff_iff, beq_iff_eq, beq_iff_eq, String.toList_inj]

lemma Writable.set (h : Writable hd) {key value : List Char} {name : String}
    (hkey : key.map Char.toLower = name.toList) (he : (name, value) ∈ hd.entries)
    (ns : List String) : (told hd ns).set key value = .ok (told hd (name :: ns)) := by
  rw [Fields.set, hkey]
  simp only [beq_toList]
  simp only [entries, List.mem_cons, List.not_mem_nil, or_false, Prod.mk.injEq] at he
  rcases he with ⟨rfl, rfl⟩ | ⟨rfl, rfl⟩ | ⟨rfl, rfl⟩ | ⟨rfl, rfl⟩ | ⟨rfl, rfl⟩ | ⟨rfl, rfl⟩ |
    ⟨rfl, rfl⟩
  · simp [told]
  · rw [number_render hd.length_lt]
    simp [told, Except.map]
  · rw [blockSize?_render h.blockSize hd.blockSize_lt]
    simp [told, Except.map]
  · rw [hashLengths?_text h.sequence h.rolling h.strong]
    simp [told, Except.map]
  · rw [sha1?_encode]
    simp [told, Except.map]
  · simp [told]
  · simp [told]

lemma set_of_notMem {key : List Char} {name : String} (hkey : key.map Char.toLower = name.toList)
    (hname : name ∉ names) (f : Fields) (value : List Char) : f.set key value = .ok f := by
  rw [Fields.set, hkey]
  simp only [beq_toList]
  simp only [names, List.mem_cons, List.not_mem_nil, or_false, not_or] at hname
  simp [hname]

lemma told_cons_of_notMem {name : String} (hname : name ∉ names) :
    told hd (name :: ns) = told hd ns := by
  simp only [names, List.mem_cons, List.not_mem_nil, or_false, not_or, ← ne_eq] at hname
  simp [told, Ne.symm, hname]

lemma setLine_text (hl : l.WellFormed) (f : Fields) :
    f.setLine l.text = f.set (Blank.trim l.key) (Blank.trim l.value) := by
  rw [Fields.setLine, Line.text, Cut.cut?_append_cons hl.colon]
  dsimp only
  rw [Blank.trim_cons_of_blank (by decide)]

/-- **A line is read for what it says**, if it says anything. -/
lemma Describes.setLine (h : Writable hd) (hls : Describes ls hd) (hl : l ∈ ls) (ns : List String) :
    (told hd ns).setLine l.text = .ok (told hd (l.name :: ns)) := by
  have hkey : (Blank.trim l.key).map Char.toLower = l.name.toList := by
    rw [Line.name, String.toList_ofList]
  rw [setLine_text (hls.wellFormed l hl)]
  by_cases hname : l.name ∈ names
  · have he := hls.only l hl hname
    rw [(h.inline he).trim]
    exact h.set hkey he ns
  · rw [set_of_notMem hkey hname, told_cons_of_notMem hname]

/-! ### All lines -/

/-- A line end is read with its line, over as many fills as it takes. -/
lemma exists_readLine {text : List Char} (htext : ∀ c ∈ text, isLineEnd c = false) {isCrlf : Bool}
    {tail : List UInt8} (h : b.Ready (lineBytes text isCrlf ++ tail)) :
    ∃ c, b.readLine = (.ok (lineBytes text isCrlf), c) ∧ c.Ready tail := by
  have hsplit : lineBytes text isCrlf =
      Utf8.encode (String.ofList (text ++ carriage isCrlf)) ++ [10] := by
    rw [lineBytes, Utf8.encode_ofList, Utf8.encode_ofList, List.flatMap_append]
    rfl
  have hstop : 10 ∉ Utf8.encode (String.ofList (text ++ carriage isCrlf)) := by
    intro hmem
    have hmem : '\n' ∈ text ++ carriage isCrlf := Utf8.mem_of_mem_encode (by decide) hmem
    rcases List.mem_append.mp hmem with hc | hc
    · exact absurd (htext _ hc) (by decide)
    · cases isCrlf <;> simp [carriage] at hc
  rw [hsplit, List.append_assoc, List.singleton_append] at h
  have hroom :
      (Utf8.encode (String.ofList (text ++ carriage isCrlf))).length < b.rest.length + 1 := by
    rw [h.rest, List.length_append]
    omega
  obtain ⟨c, hc, htail⟩ := Buffered.exists_readUntil h hstop hroom #[]
  exact ⟨c, by rw [Buffered.readLine, hc, hsplit]; rfl, htail⟩

lemma readFields_of_readLine {line : List UInt8} {c : Buffered} (h : b.readLine = (.ok line, c))
    (hne : line ≠ []) (f : Fields) : readFields f b =
      match Utf8.decode? line with
      | none => (.error (.control .notUtf8), c)
      | some text =>
        match Blank.dropTrailing isLineEnd text.toList with
        | [] => (.ok f, c)
        | line =>
          match f.setLine line with
          | .error fault => (.error (.control fault), c)
          | .ok f => readFields f c := by
  rw [readFields]
  split
  · next heq =>
    rw [h] at heq
    cases heq
  · next heq =>
    rw [h] at heq
    exact absurd (Except.ok.inj (Prod.mk.inj heq).1) hne
  · next x xs d heq =>
    rw [h] at heq
    obtain ⟨hline, rfl⟩ := Prod.mk.inj heq
    obtain rfl := Except.ok.inj hline
    cases Utf8.decode? (x :: xs) with
    | none => rfl
    | some text =>
      cases hcut : Blank.dropTrailing isLineEnd text.toList with
      | nil => simp only [hcut]
      | cons t ts => cases hset : f.setLine (t :: ts) <;> simp only [hcut, hset]

lemma exists_readFields {text : List Char} (htext : ∀ c ∈ text, isLineEnd c = false)
    {isCrlf : Bool} {tail : List UInt8} (h : b.Ready (lineBytes text isCrlf ++ tail)) (f : Fields) :
    ∃ c, c.Ready tail ∧ readFields f b =
      if text = [] then (.ok f, c)
      else match f.setLine text with
        | .error fault => (.error (.control fault), c)
        | .ok f => readFields f c := by
  obtain ⟨c, hc, htail⟩ := exists_readLine htext h
  have hends : ∀ x ∈ carriage isCrlf ++ ['\n'], isLineEnd x = true := by
    cases isCrlf <;> simp [carriage, isLineEnd]
  have hdecode : Utf8.decode? (lineBytes text isCrlf) =
      some (String.ofList (text ++ carriage isCrlf ++ ['\n'])) := Utf8.decode?_encode _
  have hdrop : Blank.dropTrailing isLineEnd
      (String.ofList (text ++ carriage isCrlf ++ ['\n'])).toList = text := by
    rw [String.toList_ofList, List.append_assoc, Blank.dropTrailing_append htext hends]
  -- only at the end of the data is a line empty
  have hne : lineBytes text isCrlf ≠ [] := by
    intro hnil
    rw [hnil, show Utf8.decode? [] = some (String.ofList []) from Utf8.decode?_encode ""] at hdecode
    simp at hdecode
  refine ⟨c, htail, ?_⟩
  rw [readFields_of_readLine hc hne, hdecode]
  dsimp only
  rw [hdrop]
  cases text with
  | nil => rfl
  | cons t ts => rfl

lemma Line.WellFormed.text (hl : l.WellFormed) : ∀ c ∈ l.text, isLineEnd c = false := by
  intro c hc
  simp only [Line.text, List.mem_append, List.mem_cons] at hc
  rcases hc with hc | rfl | rfl | hc
  · exact hl.key c hc
  · decide
  · decide
  · exact hl.value c hc

lemma Describes.exists_readFields (h : Writable hd) {all : List Line} (hall : Describes all hd)
    (hls : ∀ l ∈ ls, l ∈ all) {isCrlf : Bool} {tail : List UInt8}
    (hready : b.Ready (ls.flatMap Line.bytes ++ (lineBytes [] isCrlf ++ tail))) (ns : List String) :
    ∃ c, readFields (told hd ns) b = (.ok (told hd ((ls.map Line.name).reverse ++ ns)), c) ∧
      c.Ready tail := by
  induction ls generalizing b ns with
  | nil =>
    obtain ⟨c, htail, hc⟩ := Header.exists_readFields (List.forall_mem_nil _) hready (told hd ns)
    exact ⟨c, by rw [hc, if_pos rfl]; rfl, htail⟩
  | cons l ls ih =>
    have hl := hls l List.mem_cons_self
    rw [List.flatMap_cons, List.append_assoc] at hready
    obtain ⟨c, hnext, hc⟩ :=
      Header.exists_readFields (hall.wellFormed l hl).text hready (told hd ns)
    obtain ⟨d, hd', htail⟩ := ih (fun m hm => hls m (List.mem_cons_of_mem l hm)) hnext
      (l.name :: ns)
    refine ⟨d, ?_, htail⟩
    rw [hc, if_neg (by simp [Line.text]), hall.setLine h hl]
    dsimp only
    rw [hd', List.map_cons, List.reverse_cons, List.append_assoc, List.singleton_append]

lemma Writable.finish (h : Writable hd) (hns : ∀ e ∈ hd.entries, e.1 ∈ ns) :
    (told hd ns).finish = .ok hd := by
  simp only [entries, List.forall_mem_cons] at hns
  obtain ⟨hversion, hlength, hsize, hlengths, hsha, hurl, hfile, -⟩ := hns
  have hnamed : hd.filename.toList ≠ [] := mt String.toList_eq_nil_iff.mp h.named
  have hmtime := h.mtime
  obtain ⟨version, length, blockSize, hashLengths, sha1, url, filename, mtime⟩ := hd
  obtain rfl : mtime = none := hmtime
  dsimp only at hnamed
  simp [Fields.finish, told, hversion, hlength, hsize, hlengths, hsha, hurl, hfile,
    Option.filter_some, hnamed]

/-- **A header is read from any lines that describe it**, and nothing beyond the blank one. -/
lemma Describes.exists_read (h : Writable hd) (hls : Describes ls hd) {isCrlf : Bool}
    {tail : List UInt8}
    (hready : b.Ready (ls.flatMap Line.bytes ++ (lineBytes [] isCrlf ++ tail))) :
    ∃ c, read b = (.ok hd, c) ∧ c.Ready tail := by
  obtain ⟨c, hc, htail⟩ := hls.exists_readFields h (fun l hl => hl) hready []
  have hempty : told hd [] = .empty := by simp [told, Fields.empty]
  rw [hempty] at hc
  refine ⟨c, ?_, htail⟩
  rw [read, hc]
  dsimp only
  rw [h.finish fun e he => ?_]
  obtain ⟨l, hl, rfl⟩ := hls.all e he
  simpa using ⟨l, hl, rfl⟩

end SeedSync.Header
