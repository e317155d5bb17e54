import Mathlib
import SeedSync.Proofs.Control.Entries
import SeedSync.Proofs.Control.Lines
import SeedSync.Proofs.Control.Target

/-!
A control file as it is written, and that it is read back: the lines of its header, a blank line
and the table of its sums.
-/

namespace SeedSync.ControlFile

open Header (Line Describes Writable)

/-- Lines, a blank line and a table. -/
def written (lines : List Line) (isCrlf : Bool) (h : HashLengths) (sums : List BlockSum) :
    List UInt8 :=
  lines.flatMap Line.bytes ++ Header.lineBytes [] isCrlf ++ sums.flatMap (encodeEntry h)

/-- **A control file is read as it was written**: whichever lines describe its header, however its
bytes arrive and whatever follows them, that header is read and just those sums, and the reader is
left behind them. -/
theorem reads_what_was_written {header : Header} (h : Writable header) {lines : List Line}
    (hlines : Describes lines header) (isCrlf : Bool) {sums : List BlockSum}
    (hsums : sums.length = header.numBlocks) (hreduced : ∀ s ∈ sums, s.Reduced header.hashLengths)
    (trailing : List UInt8) {b : Buffered}
    (hready : b.Ready (written lines isCrlf header.hashLengths sums ++ trailing)) :
    ∃ c b', read b = (.ok c, b') ∧ c.header = header ∧ c.sums.toList = sums ∧
      b'.rest = trailing := by
  rw [written, List.append_assoc, List.append_assoc] at hready
  obtain ⟨b₁, hheader, htable⟩ := hlines.exists_read h hready
  obtain ⟨b₂, hread, htrailing⟩ :=
    exists_readSums (h := header) h.rolling.2 h.strong.2 hreduced htable #[]
  rw [hsums] at hread
  obtain ⟨c, hc⟩ : ∃ c, assemble header sums = .ok c := ⟨_, if_neg (not_not.mpr hsums)⟩
  obtain ⟨-, hch, hcs, -, -⟩ := assemble_ok hc
  refine ⟨c, b₂, ?_, hch, by rw [hcs], htrailing.rest⟩
  rw [read, hheader]
  dsimp only
  rw [hread]
  dsimp only
  rw [show (#[] : Array BlockSum).toList ++ sums = sums from rfl, hc]

/-- The lines of a header in another order, with keys in other cases and one that means nothing. -/
def fourLines : List Line := [
  ⟨"X-Colour".toList, "grün: #0f0".toList, true⟩,
  ⟨"FILENAME".toList, "four".toList, false⟩,
  ⟨"Url".toList, "http://example.org/four".toList, true⟩,
  ⟨"sha-1".toList, (Hex.encode (List.replicate 20 0)).toList, false⟩,
  ⟨"Hash-Lengths".toList, Header.hashLengthsText ⟨1, 2, 3⟩, true⟩,
  ⟨"BlockSize".toList, Decimal.render 2, true⟩,
  ⟨"LENGTH".toList, Decimal.render 4, false⟩,
  ⟨"zsync".toList, "0.6.2".toList, false⟩]

lemma writable_fourBytes : Writable (.fourBytes 1) where
  version := Header.inline_of_printable (by simp [Header.fourBytes])
  url := Header.inline_of_printable (by simp [Header.fourBytes])
  filename := Header.inline_of_printable (by simp [Header.fourBytes])
  named := by decide
  blockSize := by decide
  sequence := by decide
  rolling := by decide
  strong := by decide
  mtime := rfl

lemma entries_fourLines : fourLines.tail.map (fun l => (l.name, l.value)) =
    (Header.entries (.fourBytes 1)).reverse := by
  simp [fourLines, Header.entries, Line.name, Header.fourBytes]
  decide

lemma mem_entries_iff {e : String × List Char} : e ∈ Header.entries (.fourBytes 1) ↔
    ∃ l ∈ fourLines.tail, (l.name, l.value) = e := by
  rw [← List.mem_reverse, ← entries_fourLines, List.mem_map]

lemma describes_fourBytes : Describes fourLines (.fourBytes 1) where
  wellFormed l hl := by
    have hkeys : ∀ l ∈ fourLines, ':' ∉ l.key ∧ ∀ c ∈ l.key, Header.isLineEnd c = false := by
      simp [fourLines, Header.isLineEnd]
    refine ⟨(hkeys l hl).1, (hkeys l hl).2, ?_⟩
    rcases List.mem_cons.mp hl with rfl | hl
    · simp [Header.isLineEnd]
    · exact (writable_fourBytes.inline (mem_entries_iff.mpr ⟨l, hl, rfl⟩)).line
  all e he := by
    obtain ⟨l, hl, rfl⟩ := mem_entries_iff.mp he
    exact ⟨l, List.mem_of_mem_tail hl, rfl⟩
  only l hl hname := by
    rcases List.mem_cons.mp hl with rfl | hl
    · exact absurd hname (by decide)
    · exact mem_entries_iff.mpr ⟨l, hl, rfl⟩

/-- Two sums at widths of two and three, with line ends and a byte that no text has. -/
def fourSums : List BlockSum := [⟨0x0A0D, .ofList [10, 255, 13]⟩, ⟨0x000A, .ofList [10]⟩]

/-- A reader of three bytes at a time, of which the source gives one and is interrupted. -/
def fourReader : Buffered := .ofSource 3
  ⟨written fourLines true ⟨1, 2, 3⟩ fourSums ++ [10, 0], [.short 1, .interrupted], none⟩

theorem reads_four_bytes : ∃ c b, Writable (.fourBytes 1) ∧ Describes fourLines (.fourBytes 1) ∧
    fourSums.length = (Header.fourBytes 1).numBlocks ∧
    (∀ s ∈ fourSums, s.Reduced (Header.fourBytes 1).hashLengths) ∧
    fourReader.Ready (written fourLines true ⟨1, 2, 3⟩ fourSums ++ [10, 0]) ∧
    read fourReader = (.ok c, b) ∧ c.header = .fourBytes 1 ∧ c.sums.toList = fourSums ∧
    b.rest = [10, 0] := by
  have hreduced : ∀ s ∈ fourSums, s.Reduced (Header.fourBytes 1).hashLengths := by
    intro s hs
    simp only [fourSums, List.mem_cons, List.not_mem_nil, or_false] at hs
    rcases hs with rfl | rfl
    · exact ⟨by decide, by decide⟩
    · exact ⟨by decide, by decide⟩
  have hready : fourReader.Ready (written fourLines true ⟨1, 2, 3⟩ fourSums ++ [10, 0]) :=
    ⟨by decide, rfl⟩
  obtain ⟨c, b, hread⟩ := reads_what_was_written writable_fourBytes describes_fourBytes true rfl
    hreduced [10, 0] hready
  exact ⟨c, b, writable_fourBytes, describes_fourBytes, rfl, hreduced, hready, hread⟩

end SeedSync.ControlFile
