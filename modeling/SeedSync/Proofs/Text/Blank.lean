import Mathlib
import SeedSync.Text.Blank
import SeedSync.Text.Cut

/-!
Trimming: what stands at the ends of a text and is not to go stays, with all that lies between.
-/

namespace SeedSync.Blank

variable {p : Char → Bool} {cs ds : List Char} {c : Char}

lemma isBlank_eq_false {c : Char} (h : 33 ≤ c.toNat) (h' : c.toNat < 127) :
    isBlank c = false := by
  simp [isBlank, intervals]
  omega

lemma dropTrailing_append_cons (h : p c = false) (cs ds : List Char) :
    dropTrailing p (cs ++ c :: ds) = cs ++ c :: dropTrailing p ds := by
  simp only [dropTrailing, List.reverse_append, List.reverse_cons, List.append_assoc,
    List.dropWhile_append, List.singleton_append, List.dropWhile_cons, h]
  split
  · next hnil => simp [List.isEmpty_iff.mp hnil]
  · simp

lemma dropTrailing_of_all (h : ∀ c ∈ ds, p c = true) : dropTrailing p ds = [] := by
  rw [dropTrailing, List.reverse_eq_nil_iff, List.dropWhile_eq_nil_iff]
  exact fun c hc => h c (List.mem_reverse.mp hc)

lemma dropTrailing_append (h : ∀ c ∈ cs, p c = false) (hd : ∀ c ∈ ds, p c = true) :
    dropTrailing p (cs ++ ds) = cs := by
  rcases List.eq_nil_or_concat' cs with rfl | ⟨init, c, rfl⟩
  · exact dropTrailing_of_all hd
  · rw [List.append_assoc, List.singleton_append,
      dropTrailing_append_cons (h c (by simp)), dropTrailing_of_all hd]

lemma dropTrailing_eq_self (h : ∀ c ∈ cs, p c = false) : dropTrailing p cs = cs := by
  simpa using dropTrailing_append h (List.forall_mem_nil (p · = true))

lemma dropTrailing_concat (h : p c = false) (cs : List Char) :
    dropTrailing p (cs ++ [c]) = cs ++ [c] :=
  dropTrailing_append_cons h cs []

lemma trim_eq_self (hfirst : ∀ c ∈ cs.head?, isBlank c = false)
    (hlast : ∀ c ∈ cs.getLast?, isBlank c = false) : trim cs = cs := by
  have hstart : trimStart cs = cs := by
    cases cs with
    | nil => rfl
    | cons c cs => rw [trimStart, List.dropWhile_cons, hfirst c (by simp)]; rfl
  rw [trim, hstart, trimEnd]
  rcases List.eq_nil_or_concat' cs with rfl | ⟨init, c, rfl⟩
  · rfl
  · exact dropTrailing_concat (hlast c (by simp)) init

lemma trim_of_no_blank (h : ∀ c ∈ cs, isBlank c = false) : trim cs = cs :=
  trim_eq_self (fun c hc => h c (List.mem_of_head? hc)) fun c hc => h c (List.mem_of_getLast? hc)

lemma trim_cons_of_blank (h : isBlank c = true) (cs : List Char) : trim (c :: cs) = trim cs := by
  rw [trim, trim, trimStart, trimStart, List.dropWhile_cons, if_pos h]

lemma trim_replicate_append (h : isBlank c = true) (n : ℕ) (cs : List Char) :
    trim (List.replicate n c ++ cs) = trim cs := by
  induction n with
  | zero => rfl
  | succ n ih => rw [List.replicate_succ, List.cons_append, trim_cons_of_blank h, ih]

lemma exists_dropTrailing_append (p : Char → Bool) (cs : List Char) :
    ∃ ds, cs = dropTrailing p cs ++ ds ∧ ∀ d ∈ ds, p d = true := by
  refine ⟨(cs.reverse.takeWhile p).reverse, ?_, fun d hd =>
    List.mem_takeWhile_imp (List.mem_reverse.mp hd)⟩
  rw [dropTrailing, ← List.reverse_append, List.takeWhile_append_dropWhile, List.reverse_reverse]

lemma dropTrailing_eq_nil_iff : dropTrailing p cs = [] ↔ ∀ c ∈ cs, p c = true := by
  constructor
  · intro h
    obtain ⟨ds, hcs, hds⟩ := exists_dropTrailing_append p cs
    rw [h, List.nil_append] at hcs
    exact hcs ▸ hds
  · exact dropTrailing_of_all

lemma trim_append_of_all (h : ∀ d ∈ ds, isBlank d = true) : trim (cs ++ ds) = trim cs := by
  have hdrop (xs : List Char) : trimEnd (xs ++ ds) = trimEnd xs := by
    rw [trimEnd, trimEnd, dropTrailing, dropTrailing, List.reverse_append,
      List.dropWhile_append_of_pos fun d hd => h d (List.mem_reverse.mp hd)]
  rw [trim, trim, trimStart, trimStart, List.dropWhile_append]
  split
  · next hnil =>
    rw [List.isEmpty_iff.mp hnil, List.dropWhile_eq_nil_iff.mpr h]
  · exact hdrop _

lemma trim_dropTrailing (hp : ∀ c, p c = true → isBlank c = true) (cs : List Char) :
    trim (dropTrailing p cs) = trim cs := by
  obtain ⟨ds, hcs, hds⟩ := exists_dropTrailing_append p cs
  conv_rhs => rw [hcs]
  exact (trim_append_of_all fun d hd => hp d (hds d hd)).symm

end SeedSync.Blank
