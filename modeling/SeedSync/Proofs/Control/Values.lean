import Mathlib
import SeedSync.Control.Header
import SeedSync.Proofs.Text.Blank
import SeedSync.Proofs.Text.Cut
import SeedSync.Proofs.Text.Decimal
import SeedSync.Proofs.Text.Hex

/-!
The values of a header, each as the text that it is read from and nothing else is.
-/

namespace SeedSync.Header

def ReadsLength (value : List Char) (n : ℕ) : Prop := Decimal.Reads value n ∧ n < UInt64.size

def ReadsBlockSize (value : List Char) (n : ℕ) : Prop := ReadsLength value n ∧ 0 < n

/-- Three decimal numbers between commas, perhaps with blanks around them, each in its range. -/
def ReadsHashLengths (value : List Char) (l : HashLengths) : Prop :=
  ∃ x y z, value = x ++ ',' :: (y ++ ',' :: z) ∧ ',' ∉ x ∧ ',' ∉ y ∧ ',' ∉ z ∧
    (Decimal.Reads (Blank.trim x) l.sequence ∧ 1 ≤ l.sequence ∧ l.sequence ≤ 2) ∧
    (Decimal.Reads (Blank.trim y) l.rolling ∧ 2 ≤ l.rolling ∧ l.rolling ≤ 4) ∧
    Decimal.Reads (Blank.trim z) l.strong ∧ 3 ≤ l.strong ∧ l.strong ≤ 16

/-- Two hexadecimal digits for each of the 20 bytes, in either case. -/
def ReadsSha1 (value : List Char) (sha1 : Vector UInt8 20) : Prop :=
  value.map Char.toLower = (Hex.encode sha1.toList).toList

/-- The name is what follows the last slash of the URL without its query and fragment, and is not
empty. -/
def EndsPath (url name : List Char) : Prop :=
  name ≠ [] ∧ '/' ∉ name ∧ ∃ before after, url = before ++ name ++ after ∧
    (∀ c ∈ before ++ name, c ≠ '?' ∧ c ≠ '#') ∧ (∀ c ∈ before.getLast?, c = '/') ∧
    ∀ c ∈ after.head?, c = '?' ∨ c = '#'

variable {value : List Char}

lemma number_eq_ok_iff {key : String} {limit : ℕ} {n : Fin limit} :
    number key limit value = .ok n ↔ Decimal.Reads value n := by
  rw [number, ← Decimal.below?_eq_some_iff]
  split <;> simp_all

lemma readsLength_iff {n : Fin UInt64.size} : ReadsLength value n ↔ Decimal.Reads value n :=
  and_iff_left n.isLt

lemma exists_fin_iff {P : ℕ → Prop} {limit : ℕ} (h : ∀ n, P n → n < limit) :
    (∃ n : Fin limit, P n) ↔ ∃ n, P n :=
  ⟨fun ⟨n, hn⟩ => ⟨n, hn⟩, fun ⟨n, hn⟩ => ⟨⟨n, h n hn⟩, hn⟩⟩

lemma blockSize?_eq_ok_iff {n : Fin UInt64.size} :
    blockSize? value = .ok n ↔ ReadsBlockSize value n := by
  rw [blockSize?, bind_ok, ReadsBlockSize, readsLength_iff]
  simp only [number_eq_ok_iff]
  constructor
  · rintro ⟨k, hk, h⟩
    split at h
    · cases h
    · next hne =>
      obtain rfl := Except.ok.inj h
      exact ⟨hk, Nat.pos_of_ne_zero hne⟩
  · rintro ⟨hn, hpos⟩
    exact ⟨n, hn, if_neg hpos.ne'⟩

lemma pieces_eq_three_iff {x y z : List Char} : Cut.pieces (· == ',') value = [x, y, z] ↔
    value = x ++ ',' :: (y ++ ',' :: z) ∧ ',' ∉ x ∧ ',' ∉ y ∧ ',' ∉ z := by
  have hno (cs : List Char) : (∀ c ∈ cs, (c == ',') = false) ↔ ',' ∉ cs := by
    simp only [beq_eq_false_iff_ne]
    exact ⟨fun h hmem => h _ hmem rfl, fun h c hc => ne_of_mem_of_not_mem hc h⟩
  constructor
  · intro h
    obtain ⟨hx, ⟨hnil, -⟩ | ⟨c, rest₁, hc, rfl, h₁⟩⟩ := Cut.pieces_eq_cons_iff.mp h
    · cases hnil
    obtain ⟨hy, ⟨hnil, -⟩ | ⟨d, rest₂, hd, rfl, h₂⟩⟩ := Cut.pieces_eq_cons_iff.mp h₁
    · cases hnil
    obtain ⟨hz, ⟨-, rfl⟩ | ⟨_, _, _, _, h₃⟩⟩ := Cut.pieces_eq_cons_iff.mp h₂
    · obtain rfl := eq_of_beq hc
      obtain rfl := eq_of_beq hd
      exact ⟨rfl, (hno x).mp hx, (hno y).mp hy, (hno _).mp hz⟩
    · exact absurd h₃ (Cut.pieces_ne_nil _ _)
  · rintro ⟨rfl, hx, hy, hz⟩
    rw [Cut.pieces_append_cons rfl ((hno x).mpr hx), Cut.pieces_append_cons rfl ((hno y).mpr hy),
      Cut.pieces_of_not_sep ((hno z).mpr hz)]

lemma hashLengths?_eq_ok_iff {l : HashLengths} :
    hashLengths? value = .ok l ↔ ReadsHashLengths value l := by
  rw [hashLengths?]
  constructor
  · intro h
    split at h
    · next a b c hpieces =>
      obtain ⟨x, rest₁, hpieces, rfl, h₁⟩ := List.map_eq_cons_iff.mp hpieces
      obtain ⟨y, rest₂, rfl, rfl, h₂⟩ := List.map_eq_cons_iff.mp h₁
      obtain ⟨z, rest₃, rfl, rfl, h₃⟩ := List.map_eq_cons_iff.mp h₂
      obtain rfl := List.map_eq_nil_iff.mp h₃
      obtain ⟨sequence, hsequence, h⟩ := bind_ok.mp h
      obtain ⟨rolling, hrolling, h⟩ := bind_ok.mp h
      obtain ⟨strong, hstrong, h⟩ := bind_ok.mp h
      rw [number_eq_ok_iff] at hsequence hrolling hstrong
      split_ifs at h with hs hr ht
      obtain rfl := Except.ok.inj h
      obtain ⟨hvalue, hx, hy, hz⟩ := pieces_eq_three_iff.mp hpieces
      refine ⟨x, y, z, hvalue, hx, hy, hz, ⟨hsequence, ?_⟩, ⟨hrolling, ?_⟩, hstrong, ?_⟩ <;>
        dsimp only <;> omega
    · cases h
  · rintro ⟨x, y, z, hvalue, hx, hy, hz, ⟨hsequence, hs⟩, ⟨hrolling, hr⟩, hstrong, ht⟩
    rw [pieces_eq_three_iff.mpr ⟨hvalue, hx, hy, hz⟩]
    simp only [List.map_cons, List.map_nil]
    rw [number_eq_ok_iff (n := ⟨l.sequence, by omega⟩).mpr hsequence,
      number_eq_ok_iff (n := ⟨l.rolling, by omega⟩).mpr hrolling,
      number_eq_ok_iff (n := ⟨l.strong, by omega⟩).mpr hstrong]
    change (if l.sequence < 1 ∨ 2 < l.sequence then _ else
      if l.rolling < 2 ∨ 4 < l.rolling then _
      else if l.strong < 3 ∨ 16 < l.strong then _ else _) = _
    rw [if_neg (by omega), if_neg (by omega), if_neg (by omega)]

lemma sha1?_eq_ok_iff {sha1 : Vector UInt8 20} : sha1? value = .ok sha1 ↔ ReadsSha1 value sha1 := by
  rw [sha1?, ReadsSha1, ← Hex.decode_utf8_eq_ok_iff]
  split
  · next h => simp [h]
  · next bytes h =>
    rw [h, Except.ok.injEq]
    constructor
    · intro hsha
      split at hsha
      · obtain rfl := Except.ok.inj hsha
        simp
      · cases hsha
    · rintro rfl
      exact dif_pos (by simp)

lemma filenameOfUrl_eq_some_iff {url name : List Char} :
    filenameOfUrl url = some name ↔ EndsPath url name := by
  set inPath : Char → Bool := fun c => c != '?' && c != '#'
  have hin (c : Char) : inPath c = true ↔ c ≠ '?' ∧ c ≠ '#' := by simp [inPath]
  have hname : filenameOfUrl url = some name ↔
      name ≠ [] ∧ Cut.lastPiece (· == '/') (url.takeWhile inPath) = name := by
    rw [filenameOfUrl]
    split <;> grind
  rw [hname, Cut.lastPiece_eq_iff, EndsPath]
  refine and_congr_right fun _ => and_congr ?_ ?_
  · simp only [beq_eq_false_iff_ne]
    exact ⟨fun h hmem => h _ hmem rfl, fun h c hc => ne_of_mem_of_not_mem hc h⟩
  · constructor
    · rintro ⟨before, hpath, hbefore⟩
      refine ⟨before, url.dropWhile inPath, by rw [← hpath, List.takeWhile_append_dropWhile],
        fun c hc => (hin c).mp (List.mem_takeWhile_imp (hpath ▸ hc)), by simpa using hbefore,
        fun c hc => ?_⟩
      have hstop := List.head?_dropWhile_not inPath url
      rw [Option.mem_def.mp hc] at hstop
      by_contra hne
      exact Bool.false_ne_true (hstop.symm.trans ((hin c).mpr (not_or.mp hne)))
    · rintro ⟨before, after, rfl, hpath, hbefore, hafter⟩
      refine ⟨before, ?_, by simpa using hbefore⟩
      rw [List.takeWhile_append_of_pos fun c hc => (hin c).mpr (hpath c hc),
        List.append_right_eq_self]
      cases after with
      | nil => rfl
      | cons c after =>
        rw [List.takeWhile_cons, if_neg]
        rw [hin]
        exact not_and_or.mpr ((hafter c rfl).imp not_not.mpr not_not.mpr)

end SeedSync.Header
