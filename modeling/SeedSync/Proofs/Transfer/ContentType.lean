import Mathlib
import SeedSync.Proofs.Transfer.ByteRange
import SeedSync.Transfer.Multipart

/-!
The type of a multipart body as a server writes it, and that the boundary it names is found.
-/

namespace SeedSync

open Blank

/-! ### Texts up to case -/

lemma Cut.toLower_cases (c : Char) : c.toLower = c ∨ 65 ≤ c.toNat ∧ c.toNat ≤ 90 ∧
    c.toLower.toNat = c.toNat + 32 := by
  unfold Char.toLower
  split
  · next h =>
    obtain ⟨hlow, hhigh⟩ := h
    have hlow : 65 ≤ c.val.toNat := hlow
    have hhigh : c.val.toNat ≤ 90 := hhigh
    refine .inr ⟨hlow, hhigh, ?_⟩
    change (c.val + 32).toNat = c.val.toNat + 32
    rw [UInt32.toNat_add]
    change (c.val.toNat + 32) % 2 ^ 32 = _
    omega
  · exact .inl rfl

namespace Cut

variable {c : Char} {cs word : List Char}

lemma sameFolded_iff : sameFolded cs word = true ↔ cs.map Char.toLower = word.map Char.toLower :=
  beq_iff_eq

lemma toNat_of_sameFolded (hword : ∀ d ∈ word, d.toLower = d ∧
      (d.toNat = 47 ∨ 65 ≤ d.toNat ∧ d.toNat ≤ 122)) (h : sameFolded cs word = true) (hc : c ∈ cs) :
    c.toNat = 47 ∨ 65 ≤ c.toNat ∧ c.toNat ≤ 122 := by
  rcases toLower_cases c with heq | ⟨hlow, hhigh, -⟩
  · rw [sameFolded_iff] at h
    obtain ⟨d, hd, hdc⟩ := List.mem_map.mp (h ▸ List.mem_map_of_mem hc)
    obtain ⟨hsame, hrange⟩ := hword d hd
    rwa [← heq, ← hdc, hsame]
  · omega

lemma exists_of_sameFolded_append {left right : List Char} {sep : Char} (hsep : sep.toNat < 65)
    (hlow : sep.toLower = sep) (hleft : sep ∉ left.map Char.toLower)
    (h : sameFolded cs (left ++ sep :: right) = true) : ∃ l r, cs = l ++ sep :: r ∧ sep ∉ l ∧
      sameFolded l left = true ∧ sameFolded r right = true := by
  rw [sameFolded_iff, List.map_append, List.map_cons, List.map_eq_append_iff] at h
  obtain ⟨l, m, rfl, hl, hm⟩ := h
  obtain ⟨c, r, rfl, hc, hr⟩ := List.map_eq_cons_iff.mp hm
  obtain rfl : c = sep := by
    rw [hlow] at hc
    rcases toLower_cases c with heq | ⟨hupper, -, heq⟩
    · rw [← heq, hc]
    · rw [hc] at heq
      omega
  refine ⟨l, r, rfl, fun hmem => hleft ?_, sameFolded_iff.mpr hl, sameFolded_iff.mpr hr⟩
  rw [← hl, ← hlow]
  exact List.mem_map_of_mem hmem

lemma pieces_flatMap {sep : Char} {p : List Char} {ps : List (List Char)} (hp : sep ∉ p)
    (hps : ∀ q ∈ ps, sep ∉ q) : pieces (· == sep) (p ++ ps.flatMap (sep :: ·)) = p :: ps := by
  induction p with
  | nil =>
    cases ps with
    | nil => rfl
    | cons q ps =>
      have hrest : pieces (· == sep) (q ++ ps.flatMap (sep :: ·)) = q :: ps :=
        pieces_flatMap (hps q (by simp)) fun r hr => hps r (by simp [hr])
      rw [List.nil_append, List.flatMap_cons, List.cons_append, pieces, if_pos (by simp), hrest]
  | cons c p ih =>
    have hc : ¬ (c == sep) = true := by
      rw [beq_iff_eq]
      rintro rfl
      exact hp (by simp)
    rw [List.cons_append, pieces, if_neg hc, ih fun h => hp (by simp [h])]
termination_by (ps.length, p.length)

end Cut

namespace Multipart

/-! ### Boundaries -/

def isBoundaryChar (c : Char) : Bool :=
  c.isAlphanum || "'()+_,-./:=? ".toList.contains c

/-- A text that may be a boundary. -/
structure IsBoundary (b : String) : Prop where
  chars : ∀ c ∈ b.toList, isBoundaryChar c = true
  length : 1 ≤ b.toList.length ∧ b.toList.length ≤ 70
  last : b.toList.getLast? ≠ some ' '

variable {b : String} {c : Char}

lemma toNat_of_isBoundaryChar (h : isBoundaryChar c = true) :
    32 ≤ c.toNat ∧ c.toNat ≤ 122 ∧ c ≠ '\"' ∧ c ≠ ';' := by
  rw [isBoundaryChar, Bool.or_eq_true] at h
  rcases h with h | h
  · simp only [Char.isAlphanum, Char.isAlpha, Char.isUpper, Char.isLower, Char.isDigit, ge_iff_le,
      Bool.or_eq_true, Bool.and_eq_true, decide_eq_true_eq, UInt32.le_iff_toNat_le] at h
    have hranges : (65 ≤ c.toNat ∧ c.toNat ≤ 90) ∨ (97 ≤ c.toNat ∧ c.toNat ≤ 122) ∨
        (48 ≤ c.toNat ∧ c.toNat ≤ 57) := by
      simpa [or_assoc] using h
    refine ⟨by omega, by omega, ?_, ?_⟩
    · rintro rfl
      simp at hranges
    · rintro rfl
      simp at hranges
  · simp only [String.reduceToList, List.contains_iff_mem, List.mem_cons, List.not_mem_nil,
      or_false] at h
    rcases h with rfl | rfl | rfl | rfl | rfl | rfl | rfl | rfl | rfl | rfl | rfl | rfl | rfl
    all_goals decide

lemma IsBoundary.not_isBlank (h : IsBoundary b) (hc : c ∈ b.toList) (hspace : c ≠ ' ') :
    isBlank c = false := by
  obtain ⟨hlow, hhigh, -, -⟩ := toNat_of_isBoundaryChar (h.chars c hc)
  have hne : c.toNat ≠ 32 := fun heq => hspace (by rw [← Char.ofNat_toNat c, heq])
  exact isBlank_eq_false (by omega) (by omega)

/-! ### Types -/

/-- How a server may give the type of a body: in either case, the boundary quoted or not, with
further parameters around it. -/
structure Announcement where
  media : List Char
  before : List (List Char)
  /-- The blanks before the name of the parameter. -/
  gap : ℕ
  name : List Char
  quoted : Bool
  after : List (List Char)

namespace Announcement

def value (a : Announcement) (b : String) : List Char :=
  if a.quoted then '\"' :: (b.toList ++ ['\"']) else b.toList

def parameter (a : Announcement) (b : String) : List Char :=
  List.replicate a.gap ' ' ++ a.name ++ '=' :: a.value b

def text (a : Announcement) (b : String) : String :=
  String.ofList (a.media ++ (a.before ++ a.parameter b :: a.after).flatMap (';' :: ·))

/-- It names byte ranges, and no other boundary before this one; one with a blank is quoted. -/
structure Legal (a : Announcement) (b : String) : Prop where
  media : Cut.sameFolded a.media "multipart/byteranges".toList = true
  before : ∀ p ∈ a.before, ';' ∉ p ∧ ∀ name value, Cut.cut? '=' p = some (name, value) →
    Cut.sameFolded (trim name) "boundary".toList = false
  name : Cut.sameFolded a.name "boundary".toList = true
  after : ∀ p ∈ a.after, ';' ∉ p
  quoted : ' ' ∈ b.toList → a.quoted = true

variable {a : Announcement}

lemma Legal.exists_media_eq (h : a.Legal b) : ∃ top sub, a.media = top ++ '/' :: sub ∧
    '/' ∉ top ∧ Cut.sameFolded top "multipart".toList = true ∧
    Cut.sameFolded sub "byteranges".toList = true := by
  have hsplit :
      "multipart/byteranges".toList = "multipart".toList ++ '/' :: "byteranges".toList := by
    simp
  exact Cut.exists_of_sameFolded_append (by decide) (by decide) (by simp) (hsplit ▸ h.media)

lemma Legal.unquote_value (h : a.Legal b) (hb : IsBoundary b) :
    unquote (trim (a.value b)) = b.toList := by
  have hquote : '\"' ∉ b.toList := fun hmem => (toNat_of_isBoundaryChar (hb.chars _ hmem)).2.2.1 rfl
  have hnot : ∀ c ∈ b.toList, (c == '\"') = false := fun c hc => by
    rw [beq_eq_false_iff_ne]
    rintro rfl
    exact hquote hc
  -- nothing is dropped in front of the boundary itself
  have hdrop (tail : List Char) : (b.toList ++ tail).dropWhile (· == '\"') = b.toList ++ tail := by
    have hlen := hb.length.1
    cases hcs : b.toList with
    | nil => simp [hcs] at hlen
    | cons c cs => simp [hnot c (by simp [hcs])]
  rw [value]
  split
  · have hlast : ('\"' :: (b.toList ++ ['\"'])).getLast? = some '\"' := by
      rw [← List.cons_append, List.getLast?_concat]
    have hkept : isBlank '\"' = false := by decide
    rw [trim_eq_self (by simpa using hkept) (by simpa [hlast] using hkept), unquote,
      List.dropWhile_cons, if_pos (by decide), hdrop]
    exact dropTrailing_append hnot (by simp)
  · next hplain =>
    have hspace : ∀ c ∈ b.toList, isBlank c = false := fun c hc =>
      hb.not_isBlank hc fun heq => hplain (h.quoted (heq ▸ hc))
    have := hdrop []
    rw [List.append_nil] at this
    rw [trim_of_no_blank hspace, unquote, this, dropTrailing_eq_self hnot]

lemma Legal.mediaType_text (h : a.Legal b) (hb : IsBoundary b) :
    mediaType (a.text b).toList = (a.media, a.before ++ a.parameter b :: a.after) := by
  have hmedia := fun c hc => Cut.toNat_of_sameFolded (c := c) (by simp) h.media hc
  have hparameter : ';' ∉ a.parameter b := by
    have hvalue : ';' ∉ b.toList := fun hmem =>
      (toNat_of_isBoundaryChar (hb.chars _ hmem)).2.2.2 rfl
    have hname : ';' ∉ a.name := fun hmem =>
      absurd (Cut.toNat_of_sameFolded (by simp) h.name hmem) (by decide)
    rw [parameter, value]
    split
    · simp [hvalue, hname]
    · simp [hvalue, hname]
  have hparams : ∀ p ∈ a.before ++ a.parameter b :: a.after, ';' ∉ p := by
    intro p hp
    rcases List.mem_append.mp hp with hp | hp
    · exact (h.before p hp).1
    · rcases List.mem_cons.mp hp with rfl | hp
      · exact hparameter
      · exact h.after p hp
  rw [mediaType, text, String.toList_ofList,
    Cut.pieces_flatMap (fun hmem => absurd (hmedia _ hmem) (by decide)) hparams]
  dsimp only
  rw [trim_of_no_blank fun c hc => ?_]
  have := hmedia c hc
  exact isBlank_eq_false (by omega) (by omega)

lemma Legal.parameter?_eq (h : a.Legal b) :
    parameter? "boundary" (a.before ++ a.parameter b :: a.after) = some (a.value b) := by
  have hcut : Cut.cut? '=' (a.parameter b) =
      some (List.replicate a.gap ' ' ++ a.name, a.value b) := by
    refine Cut.cut?_append_cons fun hmem => ?_
    rcases List.mem_append.mp hmem with hmem | hmem
    · exact absurd (List.eq_of_mem_replicate hmem) (by decide)
    · exact absurd (Cut.toNat_of_sameFolded (by simp) h.name hmem) (by decide)
  have hname : trim (List.replicate a.gap ' ' ++ a.name) = a.name := by
    rw [trim_replicate_append (by decide)]
    exact trim_of_no_blank fun c hc => by
      have := Cut.toNat_of_sameFolded (by simp) h.name hc
      exact isBlank_eq_false (by omega) (by omega)
  have hbefore : (a.before.filterMap (Cut.cut? '=')).find?
      (fun p => Cut.sameFolded (trim p.1) "boundary".toList) = none := by
    rw [List.find?_eq_none]
    rintro ⟨name, value⟩ hmem
    obtain ⟨p, hp, hcut⟩ := List.mem_filterMap.mp hmem
    simpa using (h.before p hp).2 name value hcut
  rw [parameter?, List.filterMap_append, List.find?_append, hbefore, List.filterMap_cons, hcut]
  dsimp only
  rw [List.find?_cons_of_pos (by rw [hname]; exact h.name)]
  rfl

/-- **The boundary of a type is found.** -/
lemma Legal.boundary_text (h : a.Legal b) (hb : IsBoundary b) : boundary (a.text b) = .ok b := by
  obtain ⟨top, sub, hmedia, hslash, -, hsub⟩ := h.exists_media_eq
  have hsubtype : trim sub = sub := trim_of_no_blank fun c hc => by
    have := Cut.toNat_of_sameFolded (by simp) hsub hc
    exact isBlank_eq_false (by omega) (by omega)
  rw [boundary, h.mediaType_text hb]
  dsimp only
  rw [hmedia, Cut.cut?_append_cons hslash, Option.map_some, Option.getD_some, hsubtype, hsub,
    h.parameter?_eq, Option.map_some, Option.getD_some, h.unquote_value hb]
  obtain ⟨c, cs, hcs⟩ : ∃ c cs, b.toList = c :: cs :=
    List.exists_cons_of_length_pos hb.length.1
  rw [hcs]
  dsimp only
  rw [← hcs, String.ofList_toList]
  rfl

lemma Legal.isMultipart_text (h : a.Legal b) (hb : IsBoundary b) :
    isMultipart (a.text b) = true := by
  obtain ⟨top, sub, hmedia, hslash, htop, -⟩ := h.exists_media_eq
  have htype : a.media.takeWhile (· != '/') = top := by
    rw [hmedia, List.takeWhile_append_of_pos fun c hc => by
      simpa using ne_of_mem_of_not_mem hc hslash]
    simp
  rw [isMultipart, h.mediaType_text hb]
  dsimp only
  rw [htype, trim_of_no_blank fun c hc => ?_, htop]
  have := Cut.toNat_of_sameFolded (by simp) htop hc
  exact isBlank_eq_false (by omega) (by omega)

end Announcement

end Multipart

end SeedSync
