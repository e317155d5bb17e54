import Mathlib
import SeedSync.Text.Decimal

/-!
The characters of a decimal number, which texts denote one, and that it is read back below a limit.
-/

namespace SeedSync.Decimal

variable {n : ℕ} {c : Char}

lemma toNat_of_mem_render (h : c ∈ render n) : 48 ≤ c.toNat ∧ c.toNat ≤ 57 := by
  simpa [isDigit] using List.all_eq_true.mp (all_isDigit_render n) c h

lemma not_mem_render (h : c.toNat < 48 ∨ 57 < c.toNat) : c ∉ render n := by
  intro hmem
  have := toNat_of_mem_render hmem
  omega

lemma below?_render {limit : ℕ} (h : n < limit) : below? limit (render n) = some ⟨n, h⟩ := by
  have hplus : '+' ∉ render n := not_mem_render (.inl (by decide))
  rw [below?, digits?_render, Option.bind_eq_bind, Option.bind_some, dif_pos h]
  intro r hr
  rw [hr] at hplus
  exact hplus List.mem_cons_self

/-! ### Numbers in general -/

/-- The text is a decimal number, perhaps after a plus sign, and this is its value. -/
def Reads (cs : List Char) (n : ℕ) : Prop :=
  ∃ ds, (cs = ds ∨ cs = '+' :: ds) ∧ ds ≠ [] ∧ (∀ c ∈ ds, isDigit c = true) ∧ value ds = n

lemma digits?_eq_some_iff {cs : List Char} {n : ℕ} :
    digits? cs = some n ↔ cs ≠ [] ∧ (∀ c ∈ cs, isDigit c = true) ∧ value cs = n := by
  simp only [digits?, Option.ite_none_left_eq_some, Bool.or_eq_true, not_or, List.isEmpty_iff,
    Bool.not_eq_true', Bool.not_eq_false, List.all_eq_true, Option.some.injEq, and_assoc, ne_eq]

lemma below?_eq_some_iff {limit : ℕ} {n : Fin limit} {cs : List Char} :
    below? limit cs = some n ↔ Reads cs n := by
  have hfits {m : ℕ} : (if h : m < limit then some (⟨m, h⟩ : Fin limit) else none) = some n ↔
      m = n := by
    simp only [Option.dite_none_right_eq_some, Option.some.injEq, Fin.ext_iff, exists_prop]
    exact and_iff_right_of_imp fun h => h ▸ n.isLt
  unfold below?
  simp only [Option.bind_eq_bind, Option.bind_eq_some_iff, hfits, exists_eq_right,
    digits?_eq_some_iff]
  split
  · next r =>
    refine ⟨fun h => ⟨r, .inr rfl, h⟩, ?_⟩
    rintro ⟨ds, hds, hne, hall, hvalue⟩
    rcases hds with rfl | hds
    · exact absurd (hall '+' List.mem_cons_self) (by decide)
    · obtain rfl := (List.cons.inj hds).2
      exact ⟨hne, hall, hvalue⟩
  · next hplus =>
    refine ⟨fun h => ⟨cs, .inl rfl, h⟩, ?_⟩
    rintro ⟨ds, hds, hne, hall, hvalue⟩
    rcases hds with rfl | hds
    · exact ⟨hne, hall, hvalue⟩
    · exact absurd hds (hplus ds)

/-! ### Runs of digits -/

/-- The texts that denote a number: a digit, and further digits behind it. -/
inductive Denotes : List Char → ℕ → Prop
  | digit {d : ℕ} (hd : d < 10) : Denotes [digit d] d
  | snoc {cs : List Char} {n d : ℕ} (h : Denotes cs n) (hd : d < 10) :
    Denotes (cs ++ [Decimal.digit d]) (10 * n + d)

lemma exists_digit (h : isDigit c = true) : ∃ d < 10, digit d = c := by
  simp only [isDigit, Bool.and_eq_true, decide_eq_true_eq] at h
  refine ⟨c.toNat - 48, by omega, ?_⟩
  rw [digit, Nat.add_sub_cancel' h.1, Char.ofNat_toNat]

lemma digits?_eq_some_iff_denotes {cs : List Char} : digits? cs = some n ↔ Denotes cs n := by
  rw [digits?_eq_some_iff]
  constructor
  · rintro ⟨hne, hall, rfl⟩
    induction cs using List.reverseRecOn with
    | nil => exact absurd rfl hne
    | append_singleton cs c ih =>
      obtain ⟨d, hd, rfl⟩ := exists_digit (hall c (by simp))
      rw [value_append_singleton, toNat_digit hd, Nat.add_sub_cancel_left]
      by_cases hcs : cs = []
      · subst hcs
        rw [value, List.foldl_nil, Nat.mul_zero, Nat.zero_add]
        exact .digit hd
      · exact .snoc (ih hcs fun c hc => hall c (List.mem_append_left _ hc)) hd
  · intro h
    induction h with
    | digit hd => exact ⟨by simp, by simp [isDigit_digit hd], by simp [value, toNat_digit hd]⟩
    | snoc _ hd ih =>
      obtain ⟨-, hall, hvalue⟩ := ih
      refine ⟨by simp, ?_, ?_⟩
      · rw [List.forall_mem_append]
        exact ⟨hall, by simp [isDigit_digit hd]⟩
      · rw [value_append_singleton, hvalue, toNat_digit hd, Nat.add_sub_cancel_left]

lemma denotes_render (n : ℕ) : Denotes (render n) n :=
  digits?_eq_some_iff_denotes.mp (digits?_render n)

lemma Denotes.not_mem {cs : List Char} (h : Denotes cs n) (hc : isDigit c = false) : c ∉ cs := by
  intro hmem
  obtain ⟨-, hall, -⟩ := digits?_eq_some_iff.mp (digits?_eq_some_iff_denotes.mpr h)
  exact Bool.false_ne_true (hc.symm.trans (hall c hmem))

end SeedSync.Decimal
