/-!
Cutting a text at separators: at the first one, or at all of them.
-/

namespace SeedSync.Cut

def cut? (sep : Char) (cs : List Char) : Option (List Char × List Char) :=
  match cs.dropWhile (· != sep) with
  | [] => none
  | _ :: after => some (cs.takeWhile (· != sep), after)

def pieces (sep : Char → Bool) : List Char → List (List Char)
  | [] => [[]]
  | c :: cs =>
    if sep c then [] :: pieces sep cs
    else
      match pieces sep cs with
      | [] => [[c]]
      | p :: ps => (c :: p) :: ps

/-- The lines of a text that a line end follows; a carriage return before a line end belongs to
it. -/
def lines (text : String) : List String :=
  (pieces (· == '\n') text.toList).map fun line =>
    String.ofList (if line.getLast? = some '\r' then line.dropLast else line)

def lastPiece (sep : Char → Bool) (cs : List Char) : List Char :=
  (cs.reverse.takeWhile fun c => !sep c).reverse

/-- Equality of texts up to the case of ASCII letters. -/
def sameFolded (a b : List Char) : Bool := a.map Char.toLower == b.map Char.toLower

theorem cut?_append_cons {sep : Char} {a b : List Char} (h : sep ∉ a) :
    cut? sep (a ++ sep :: b) = some (a, b) := by
  have h1 : (a ++ sep :: b).takeWhile (· != sep) = a := by
    rw [List.takeWhile_append_of_pos (by intro x hx; simp; rintro rfl; exact h hx)]
    simp
  have h2 : (a ++ sep :: b).dropWhile (· != sep) = sep :: b := by
    rw [List.dropWhile_append_of_pos (by intro x hx; simp; rintro rfl; exact h hx)]
    simp
  simp [cut?, h1, h2]

theorem eq_of_cut? {sep : Char} {cs a b : List Char} (h : cut? sep cs = some (a, b)) :
    cs = a ++ sep :: b ∧ sep ∉ a := by
  rw [cut?] at h
  have e := List.takeWhile_append_dropWhile (p := (· != sep)) (l := cs)
  cases hd : cs.dropWhile (· != sep) with
  | nil => simp [hd] at h
  | cons d r =>
    simp only [hd, Option.some.injEq, Prod.mk.injEq] at h
    obtain ⟨rfl, rfl⟩ := h
    have hd0 : d = sep := by
      have := List.head?_dropWhile_not (· != sep) cs
      simpa [hd] using this
    subst hd0
    refine ⟨by rw [hd] at e; exact e.symm, fun hm => ?_⟩
    have := List.all_takeWhile (p := (· != d)) (l := cs)
    simp only [List.all_eq_true] at this
    simpa using this d hm

end SeedSync.Cut
