import Mathlib
import SeedSync.Text.Cut

/-!
A text cut at its first separator, and its pieces between separators, one by one from the front, and
the last one.
-/

namespace SeedSync.Cut

lemma cut?_eq_some_iff {sep : Char} {cs a b : List Char} :
    cut? sep cs = some (a, b) ↔ cs = a ++ sep :: b ∧ sep ∉ a :=
  ⟨eq_of_cut?, fun ⟨hcs, ha⟩ => hcs ▸ cut?_append_cons ha⟩

variable {sep : Char → Bool}

lemma pieces_of_not_sep {cs : List Char} (h : ∀ x ∈ cs, sep x = false) : pieces sep cs = [cs] := by
  induction cs with
  | nil => rfl
  | cons c cs ih =>
    rw [pieces, h c List.mem_cons_self, ih fun x hx => h x (List.mem_cons_of_mem c hx)]
    rfl

lemma pieces_append_cons {c : Char} (hc : sep c = true) {cs : List Char}
    (h : ∀ x ∈ cs, sep x = false) (ds : List Char) :
    pieces sep (cs ++ c :: ds) = cs :: pieces sep ds := by
  induction cs with
  | nil => rw [List.nil_append, pieces, if_pos hc]
  | cons x cs ih =>
    rw [List.cons_append, pieces, h x List.mem_cons_self, if_neg Bool.false_ne_true,
      ih fun y hy => h y (List.mem_cons_of_mem x hy)]

lemma exists_pieces_append (cs : List Char) : ∃ init last, pieces sep cs = init ++ [last] ∧
    (last = [] → cs = [] ∨ ∃ x, cs.getLast? = some x ∧ sep x = true) ∧
    ∀ ds, (∀ x ∈ ds, sep x = false) → pieces sep (cs ++ ds) = init ++ [last ++ ds] := by
  induction cs with
  | nil =>
    exact ⟨[], [], rfl, fun _ => .inl rfl, fun ds hds => pieces_of_not_sep hds⟩
  | cons c cs ih =>
    obtain ⟨init, last, hcs, hlast, happend⟩ := ih
    have hends (h : last = []) (hcut : cs = [] → sep c = true) :
        c :: cs = [] ∨ ∃ x, (c :: cs).getLast? = some x ∧ sep x = true := by
      rcases hlast h with rfl | ⟨x, hx, hsep⟩
      · exact .inr ⟨c, rfl, hcut rfl⟩
      · exact .inr ⟨x, by rw [List.getLast?_cons, hx]; rfl, hsep⟩
    by_cases hc : sep c = true
    · refine ⟨[] :: init, last, ?_, fun h => hends h fun _ => hc, fun ds hds => ?_⟩
      · rw [pieces, if_pos hc, hcs, List.cons_append]
      · rw [List.cons_append, pieces, if_pos hc, happend ds hds, List.cons_append]
    · cases init with
      | nil =>
        refine ⟨[], c :: last, ?_, fun h => absurd h (List.cons_ne_nil c last), fun ds hds => ?_⟩
        · rw [pieces, if_neg hc, hcs]
          rfl
        · rw [List.cons_append, pieces, if_neg hc, happend ds hds]
          rfl
      | cons first init =>
        refine ⟨(c :: first) :: init, last, ?_, fun h => hends h ?_, fun ds hds => ?_⟩
        · rw [pieces, if_neg hc, hcs]
          rfl
        · rintro rfl
          simp [pieces] at hcs
        · rw [List.cons_append, pieces, if_neg hc, happend ds hds]
          rfl

lemma pieces_ne_nil (sep : Char → Bool) (cs : List Char) : pieces sep cs ≠ [] := by
  obtain ⟨init, last, hcs, -⟩ := exists_pieces_append cs
  rw [hcs]
  simp

lemma no_sep_or_exists_first (sep : Char → Bool) (cs : List Char) :
    (∀ x ∈ cs, sep x = false) ∨
      ∃ a c b, cs = a ++ c :: b ∧ sep c = true ∧ ∀ x ∈ a, sep x = false := by
  induction cs with
  | nil => exact .inl (List.forall_mem_nil _)
  | cons c cs ih =>
    cases hc : sep c with
    | true => exact .inr ⟨[], c, cs, rfl, hc, List.forall_mem_nil _⟩
    | false =>
      rcases ih with ih | ⟨a, d, b, rfl, hd, ha⟩
      · exact .inl (List.forall_mem_cons.mpr ⟨hc, ih⟩)
      · exact .inr ⟨c :: a, d, b, rfl, hd, List.forall_mem_cons.mpr ⟨hc, ha⟩⟩

lemma pieces_eq_cons_iff {cs piece : List Char} {others : List (List Char)} :
    pieces sep cs = piece :: others ↔ (∀ x ∈ piece, sep x = false) ∧
      (others = [] ∧ cs = piece ∨
        ∃ c rest, sep c = true ∧ cs = piece ++ c :: rest ∧ pieces sep rest = others) := by
  constructor
  · intro h
    rcases no_sep_or_exists_first sep cs with hall | ⟨a, c, b, rfl, hc, ha⟩
    · rw [pieces_of_not_sep hall] at h
      obtain ⟨rfl, rfl⟩ := List.cons.inj h
      exact ⟨hall, .inl ⟨rfl, rfl⟩⟩
    · rw [pieces_append_cons hc ha] at h
      obtain ⟨rfl, rfl⟩ := List.cons.inj h
      exact ⟨ha, .inr ⟨c, b, hc, rfl, rfl⟩⟩
  · rintro ⟨hpiece, ⟨rfl, rfl⟩ | ⟨c, rest, hc, rfl, rfl⟩⟩
    · exact pieces_of_not_sep hpiece
    · exact pieces_append_cons hc hpiece rest

lemma not_sep_of_mem_pieces {cs piece : List Char} (h : piece ∈ pieces sep cs) :
    ∀ x ∈ piece, sep x = false := by
  induction cs generalizing piece with
  | nil =>
    obtain rfl := List.mem_singleton.mp h
    exact List.forall_mem_nil _
  | cons c cs ih =>
    rw [pieces] at h
    split at h
    · rcases List.mem_cons.mp h with rfl | h
      · exact List.forall_mem_nil _
      · exact ih h
    next hc =>
    split at h
    · next hnil => exact absurd hnil (pieces_ne_nil sep cs)
    · next first others hpieces =>
      rw [hpieces] at ih
      rcases List.mem_cons.mp h with rfl | h
      · exact List.forall_mem_cons.mpr ⟨Bool.eq_false_iff.mpr hc, ih List.mem_cons_self⟩
      · exact ih (List.mem_cons_of_mem first h)

lemma lastPiece_eq_iff {cs last : List Char} : lastPiece sep cs = last ↔
    (∀ c ∈ last, sep c = false) ∧
      ∃ before, cs = before ++ last ∧ ∀ c ∈ before.getLast?, sep c = true := by
  rw [lastPiece]
  constructor
  · rintro rfl
    refine ⟨fun c hc => by simpa using List.mem_takeWhile_imp (List.mem_reverse.mp hc),
      (cs.reverse.dropWhile fun c => !sep c).reverse, ?_, fun c hc => ?_⟩
    · rw [← List.reverse_append, List.takeWhile_append_dropWhile, List.reverse_reverse]
    · rw [List.getLast?_reverse] at hc
      have hstop := List.head?_dropWhile_not (fun c => !sep c) cs.reverse
      rw [Option.mem_def.mp hc] at hstop
      simpa using hstop
  · rintro ⟨hlast, before, rfl, hbefore⟩
    rw [List.reverse_append, List.takeWhile_append_of_pos fun c hc => by
      simpa using hlast c (List.mem_reverse.mp hc)]
    rcases List.eq_nil_or_concat' before with rfl | ⟨init, c, rfl⟩
    · simp
    · have hc := hbefore c (by simp)
      simp [hc]

end SeedSync.Cut
