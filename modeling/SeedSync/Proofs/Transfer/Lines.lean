import Mathlib
import SeedSync.Proofs.Stream.Lines
import SeedSync.Proofs.Transfer.Handing
import SeedSync.Proofs.Transfer.Multipart

/-!
The lines of a multipart body that stand before a part, whatever its bytes are: those that a search
passes over, and those of a header.
-/

namespace SeedSync.Multipart

open Blank Utf8

def textOf (line : List UInt8) : List Char := dropTrailing isBreak (decodeLossy line)

/-- A line that a part follows: the delimiter, and blanks behind it. -/
def Opens (delimiter text : List Char) : Prop :=
  ∃ blanks, text = delimiter ++ blanks ∧ trim blanks = []

/-- The line behind the last part begins with the delimiter and two hyphens. -/
def Closes (delimiter text : List Char) : Prop := delimiter ++ "--".toList <+: text

/-- The lines up to the one that opens a part, or closes the body, and what follows it. Empty lines
are passed over, and before the first part others too. -/
inductive Seeks (delimiter : List Char) (started : Bool) : List UInt8 → Bool → List UInt8 → Prop
  | empty {line rest out : List UInt8} {another : Bool} (hline : IsLine line rest)
      (hempty : textOf line = []) (more : Seeks delimiter started rest another out) :
      Seeks delimiter started (line ++ rest) another out
  | preamble {line rest out : List UInt8} {another : Bool} (hline : IsLine line rest)
      (hstarted : started = false) (hopens : ¬ Opens delimiter (textOf line))
      (hcloses : ¬ Closes delimiter (textOf line))
      (more : Seeks delimiter started rest another out) :
      Seeks delimiter started (line ++ rest) another out
  | opening {line rest : List UInt8} (hline : IsLine line rest)
      (hopens : Opens delimiter (textOf line)) : Seeks delimiter started (line ++ rest) true rest
  | closing {line rest : List UInt8} (hline : IsLine line rest)
      (hcloses : Closes delimiter (textOf line)) : Seeks delimiter started (line ++ rest) false rest

/-- The header lines of a part up to the blank one, and what follows it. The last line about the
range counts; the first argument is what has been told so far. -/
inductive Heads : Option ByteRange → List UInt8 → ByteRange → List UInt8 → Prop
  | blank {r : ByteRange} {line rest : List UInt8} (hline : IsLine line rest)
      (hblank : textOf line = []) : Heads (some r) (line ++ rest) r rest
  | range {told : Option ByteRange} {q r : ByteRange} {line rest out : List UInt8}
      {name value : List Char} (hline : IsLine line rest)
      (htext : textOf line = name ++ ':' :: value) (hcolon : ':' ∉ name)
      (hname : Cut.sameFolded (trim name) "content-range".toList = true)
      (hrange : ByteRange.parseChars (trim value) = .ok q) (more : Heads (some q) rest r out) :
      Heads told (line ++ rest) r out
  | other {told : Option ByteRange} {r : ByteRange} {line rest out : List UInt8}
      {name value : List Char} (hline : IsLine line rest)
      (htext : textOf line = name ++ ':' :: value) (hcolon : ':' ∉ name)
      (hname : Cut.sameFolded (trim name) "content-range".toList = false)
      (more : Heads told rest r out) : Heads told (line ++ rest) r out

variable {delimiter : List Char} {started another : Bool} {bytes rest : List UInt8}
  {told : Option ByteRange} {r : ByteRange} {b c : Buffered}

lemma Seeks.exists_gone (h : Seeks delimiter started bytes another rest) :
    ∃ gone, bytes = gone ++ rest ∧ gone ≠ [] := by
  induction h with
  | @empty line _ _ _ hline _ _ ih =>
    obtain ⟨gone, rfl, -⟩ := ih
    exact ⟨line ++ gone, by simp, by simp [hline.ne_nil]⟩
  | @preamble line _ _ _ hline _ _ _ _ ih =>
    obtain ⟨gone, rfl, -⟩ := ih
    exact ⟨line ++ gone, by simp, by simp [hline.ne_nil]⟩
  | opening hline => exact ⟨_, rfl, hline.ne_nil⟩
  | closing hline => exact ⟨_, rfl, hline.ne_nil⟩

lemma Seeks.exists_closing (h : Seeks delimiter started bytes another rest)
    (hlast : another = false) : ∃ before line, bytes = before ++ line ++ rest ∧ IsLine line rest ∧
      Closes delimiter (textOf line) := by
  induction h with
  | @empty first _ _ _ _ _ _ ih =>
    obtain ⟨before, line, rfl, hclosing⟩ := ih hlast
    exact ⟨first ++ before, line, by simp, hclosing⟩
  | @preamble first _ _ _ _ _ _ _ _ ih =>
    obtain ⟨before, line, rfl, hclosing⟩ := ih hlast
    exact ⟨first ++ before, line, by simp, hclosing⟩
  | opening => cases hlast
  | closing hline hcloses => exact ⟨[], _, rfl, hline, hcloses⟩

lemma Heads.exists_blank (h : Heads told bytes r rest) :
    ∃ before line, bytes = before ++ line ++ rest ∧ IsLine line rest ∧ textOf line = [] := by
  induction h with
  | blank hline hblank => exact ⟨[], _, rfl, hline, hblank⟩
  | @range _ _ _ first _ _ _ _ _ _ _ _ _ _ ih =>
    obtain ⟨before, line, rfl, hblank⟩ := ih
    exact ⟨first ++ before, line, by simp, hblank⟩
  | @other _ _ first _ _ _ _ _ _ _ _ _ ih =>
    obtain ⟨before, line, rfl, hblank⟩ := ih
    exact ⟨first ++ before, line, by simp, hblank⟩

lemma Seeks.exists_blank {middle : List UInt8} (h : Seeks delimiter started bytes another middle)
    (hheads : Heads told middle r rest) : ∃ before line, bytes = before ++ line ++ rest ∧
      before ≠ [] ∧ IsLine line rest ∧ textOf line = [] := by
  obtain ⟨lines, rfl, hne⟩ := h.exists_gone
  obtain ⟨fields, line, rfl, hblank⟩ := hheads.exists_blank
  exact ⟨lines ++ fields, line, by simp, by simp [hne], hblank⟩

lemma Heads.valid (h : Heads told bytes r rest) (htold : ∀ q ∈ told, q.Valid) : r.Valid := by
  induction h with
  | blank => exact htold _ rfl
  | range _ _ _ _ hrange _ ih => exact ih (by simpa using ByteRange.valid_of_parseChars hrange)
  | other _ _ _ _ _ ih => exact ih htold

/-! ### What is read is what stands there -/

lemma readLine_sound (h : b.Holds bytes) {text : List Char}
    (hread : readLine b = (.ok (some text), c)) :
    ∃ line, bytes = line ++ c.rest ∧ IsLine line c.rest ∧ text = textOf line ∧ c.Holds c.rest := by
  have hholds := h.of_precedes (precedes_readLine hread)
  rw [readLine] at hread
  split at hread
  · cases (Prod.mk.inj hread).1
  next raw d hraw =>
  split at hread
  · cases Except.ok.inj (Prod.mk.inj hread).1
  next hne =>
  split at hread
  · cases (Prod.mk.inj hread).1
  next hfits =>
  obtain ⟨htext, rfl⟩ := Prod.mk.inj hread
  have hsplit : b.rest = raw ++ d.rest := Buffered.rest_of_readUntil hraw
  obtain ⟨more, rfl, hmore⟩ := Buffered.readUntil_sound h.room hraw
  refine ⟨_, h.rest.symm.trans hsplit, ?_, (Option.some.inj (Except.ok.inj htext)).symm, hholds⟩
  rcases hmore with hends | ⟨hno, hfull | hnil⟩
  · exact .inl hends
  · exact absurd ⟨hfull, fun hlast => hno (List.mem_of_getLast? hlast)⟩ hfits
  · exact .inr ⟨by simpa using hne, hno, hnil⟩

lemma any_prefix_iff {text : List Char} {p : List Char → Bool} :
    (if delimiter.isPrefixOf text then some (text.drop delimiter.length) else none).any p = true ↔
      ∃ tail, text = delimiter ++ tail ∧ p tail = true := by
  split
  · next h =>
    obtain ⟨tail, rfl⟩ := List.isPrefixOf_iff_prefix.mp h
    rw [List.drop_left, Option.any_some]
    constructor
    · exact fun hp => ⟨tail, rfl, hp⟩
    · rintro ⟨tail', heq, hp⟩
      rwa [List.append_cancel_left heq]
  · next h =>
    refine iff_of_false (by simp) ?_
    rintro ⟨tail, rfl, -⟩
    exact h (List.isPrefixOf_iff_prefix.mpr (List.prefix_append _ _))

lemma closes_iff {text : List Char} :
    (if delimiter.isPrefixOf text then some (text.drop delimiter.length) else none).any
      ("--".toList.isPrefixOf ·) = true ↔ Closes delimiter text := by
  rw [any_prefix_iff]
  constructor
  · rintro ⟨tail, rfl, htail⟩
    obtain ⟨more, rfl⟩ := List.isPrefixOf_iff_prefix.mp htail
    exact ⟨more, List.append_assoc _ _ _⟩
  · rintro ⟨more, rfl⟩
    exact ⟨"--".toList ++ more, List.append_assoc _ _ _,
      List.isPrefixOf_iff_prefix.mpr (List.prefix_append _ _)⟩

lemma opens_iff {text : List Char} :
    (if delimiter.isPrefixOf text then some (text.drop delimiter.length) else none).any
      (fun t => (trim t).isEmpty) = true ↔ Opens delimiter text := by
  rw [any_prefix_iff]
  simp only [List.isEmpty_iff]
  rfl

/-- **What a search passes over** is lines, and it stops behind the one that it looks for. -/
lemma seekPart_sound (h : b.Holds bytes) (hread : seekPart delimiter started b = (.ok another, c)) :
    Seeks delimiter started bytes another c.rest ∧ c.Holds c.rest := by
  -- each line leaves fewer bytes
  induction hk : b.rest.length using Nat.strong_induction_on generalizing b bytes with
  | _ k ih =>
    subst hk
    rw [seekPart] at hread
    split at hread
    · cases (Prod.mk.inj hread).1
    · cases (Prod.mk.inj hread).1
    next text d hd =>
    have hless := rest_of_readLine hd
    obtain ⟨line, rfl, hline, rfl, hholds⟩ := readLine_sound h hd
    by_cases hempty : textOf line = []
    · rw [if_pos (List.isEmpty_iff.mpr hempty)] at hread
      obtain ⟨hseek, hc⟩ := ih _ hless hholds hread rfl
      exact ⟨.empty hline hempty hseek, hc⟩
    rw [if_neg (mt List.isEmpty_iff.mp hempty)] at hread
    by_cases hcloses : Closes delimiter (textOf line)
    · rw [if_pos (closes_iff.mpr hcloses)] at hread
      obtain ⟨h1, rfl⟩ := Prod.mk.inj hread
      obtain rfl := Except.ok.inj h1
      exact ⟨.closing hline hcloses, hholds⟩
    rw [if_neg (mt closes_iff.mp hcloses)] at hread
    by_cases hopens : Opens delimiter (textOf line)
    · rw [if_pos (opens_iff.mpr hopens)] at hread
      obtain ⟨h1, rfl⟩ := Prod.mk.inj hread
      obtain rfl := Except.ok.inj h1
      exact ⟨.opening hline hopens, hholds⟩
    rw [if_neg (mt opens_iff.mp hopens)] at hread
    cases started with
    | true => cases (Prod.mk.inj hread).1
    | false =>
      obtain ⟨hseek, hc⟩ := ih _ hless hholds hread rfl
      exact ⟨.preamble hline rfl hopens hcloses hseek, hc⟩

/-- **What a header tells** is in its lines, and it ends behind the blank one. -/
lemma readHeader_sound (h : b.Holds bytes) (hread : readHeader told b = (.ok r, c)) :
    Heads told bytes r c.rest ∧ c.Holds c.rest := by
  induction hk : b.rest.length using Nat.strong_induction_on generalizing b bytes told with
  | _ k ih =>
    subst hk
    rw [readHeader] at hread
    split at hread
    · cases (Prod.mk.inj hread).1
    · cases (Prod.mk.inj hread).1
    next text d hd =>
    have hless := rest_of_readLine hd
    obtain ⟨line, rfl, hline, rfl, hholds⟩ := readLine_sound h hd
    split at hread
    · next hempty =>
      split at hread
      · obtain ⟨h1, rfl⟩ := Prod.mk.inj hread
        obtain rfl := Except.ok.inj h1
        exact ⟨.blank hline (List.isEmpty_iff.mp hempty), hholds⟩
      · cases (Prod.mk.inj hread).1
    split at hread
    · cases (Prod.mk.inj hread).1
    next name value hcut =>
    obtain ⟨htext, hcolon⟩ := Cut.eq_of_cut? hcut
    split at hread
    · next hname =>
      dsimp only at hread
      split at hread
      · cases (Prod.mk.inj hread).1
      next q hrange =>
      obtain ⟨hheads, hc⟩ := ih _ hless hholds hread rfl
      exact ⟨.range hline htext hcolon hname hrange hheads, hc⟩
    · next hname =>
      obtain ⟨hheads, hc⟩ := ih _ hless hholds hread rfl
      exact ⟨.other hline htext hcolon (Bool.eq_false_iff.mpr hname) hheads, hc⟩

/-! ### Where there is no line -/

lemma exists_readLine_of_seekPart (h : seekPart delimiter started b = (.ok another, c)) :
    ∃ text d, readLine b = (.ok (some text), d) ∧ d.Precedes c := by
  have hlater (d : Buffered) (hd : seekPart delimiter started d = (.ok another, c)) :
      d.Precedes c := by
    have hprec := precedes_seekPart delimiter started d
    rwa [hd] at hprec
  fun_induction seekPart delimiter started b with
  | case3 b text d hd | case7 b text d hd => exact ⟨text, d, hd, hlater d h⟩
  | case4 b text d hd | case5 b text d hd => exact ⟨text, d, hd, (Prod.mk.inj h).2 ▸ .refl d⟩
  | _ => cases (Prod.mk.inj h).1

lemma readLine_without_room (hcapacity : b.capacity = 0) (hpending : b.pending = [])
    {text : List Char} : readLine b ≠ (.ok (some text), c) := by
  intro h
  have hnil {raw : List UInt8} {d : Buffered} (hd : b.readUntil 10 maxLine #[] = (.ok raw, d)) :
      raw = [] := by
    rw [Buffered.readUntil, if_neg (by decide)] at hd
    split at hd
    · cases (Prod.mk.inj hd).1
    next e hfill =>
    have hempty : e.pending = [] := Buffered.pending_of_fill hcapacity hpending hfill
    rw [dif_pos (by rw [hempty, List.take_nil])] at hd
    exact (Except.ok.inj (Prod.mk.inj hd).1).symm
  rw [readLine] at h
  split at h
  · cases (Prod.mk.inj h).1
  next raw d hd =>
  obtain rfl := hnil hd
  rw [if_pos (by rfl)] at h
  cases Except.ok.inj (Prod.mk.inj h).1

end SeedSync.Multipart
