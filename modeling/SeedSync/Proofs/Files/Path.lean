import Mathlib
import SeedSync.Files.Path
import SeedSync.Proofs.Text.Cut

/-!
The segments of a path, what becomes of them where a name is made longer at its end, and which one
names the file.
-/

namespace SeedSync

namespace Path

/-- The name at the end of a path and the names in front of it; the path to the part file has a
longer name in its place. -/
structure Ends (path : String) (init : List String) (last : String) : Prop where
  segments : Path.segments path = init ++ [last]
  part : Path.segments (Path.part path) = init ++ [last ++ ".part"]
  slash : last = "" → path = "" ∨ path.toList.getLast? = some '/'

lemma exists_ends (path : String) : ∃ init last, Ends path init last := by
  obtain ⟨init, last, hpath, hends, happend⟩ := @Cut.exists_pieces_append (· == '/') path.toList
  refine ⟨init.map String.ofList, String.ofList last, ⟨?_, ?_, fun h => ?_⟩⟩
  · rw [segments, hpath, List.map_append, List.map_singleton]
  · have hpart := happend ".part".toList (by simp)
    rw [segments, part, String.toList_append, hpart, List.map_append, List.map_singleton,
      String.ofList_append, String.ofList_toList]
  · rcases hends (by simpa using congrArg String.toList h) with hnil | ⟨x, hx, hsep⟩
    · exact .inl (String.toList_inj.mp hnil)
    · obtain rfl : x = '/' := by simpa using hsep
      exact .inr hx

/-! ### The segments that lead on -/

/-- The segments that lead from one directory to another. -/
def moves (path : String) : List String := (segments path).filter fun s => s ≠ "" ∧ s ≠ "."

/-- Where a segment leads that does. -/
def moveOf (s : String) : Component := if s = ".." then .up else .name s

lemma filterMap_component? (path : String) :
    (segments path).filterMap component? = (moves path).map moveOf := by
  rw [moves]
  induction segments path with
  | nil => rfl
  | cons s rest ih =>
    rw [List.filterMap_cons, ih, component?]
    by_cases h : s = "" ∨ s = "."
    · rw [if_pos h, List.filter_cons_of_neg (by simpa [or_iff_not_imp_left] using h)]
    · rw [if_neg h, List.filter_cons_of_pos (by simpa [not_or] using h), List.map_cons, moveOf]
      split_ifs <;> rfl

lemma mem_tail_components {path : String} {c : Component} (h : c ∈ (components path).tail) :
    c = .up ∨ ∃ s, c = .name s := by
  have hmem : c ∈ (moves path).map moveOf := by
    rw [components, filterMap_component?] at h
    split_ifs at h
    · exact h
    · exact h
    · exact List.mem_of_mem_tail h
  obtain ⟨s, -, rfl⟩ := List.mem_map.mp hmem
  rw [moveOf]
  split_ifs
  · exact .inl rfl
  · exact .inr ⟨s, rfl⟩

/-! ### The last name -/

lemma getLast?_components (path : String) : (components path).getLast? =
    ((moves path).getLast?.map moveOf).or (if isAbsolute path then some .root
      else if (segments path).head? = some "." then some .here else none) := by
  rw [components, filterMap_component?, ← List.getLast?_map]
  split_ifs
  · rw [List.getLast?_cons]
    cases ((moves path).map moveOf).getLast? <;> rfl
  · rw [List.getLast?_cons]
    cases ((moves path).map moveOf).getLast? <;> rfl
  · exact Option.or_none.symm

variable {name : String}

/-- The last segment that leads on names the file, unless it leads back. -/
lemma fileName?_eq_some_iff {path : String} :
    fileName? path = some name ↔ (moves path).getLast? = some name ∧ name ≠ ".." := by
  rw [fileName?, getLast?_components]
  cases (moves path).getLast? with
  | none => split_ifs <;> simp
  | some s =>
    rw [Option.map_some, Option.some_or, moveOf]
    by_cases h : s = ".."
    · simp +contextual [h, eq_comm]
    · simp only [h, if_false, Option.some.injEq]
      exact ⟨fun hs => ⟨hs, hs ▸ h⟩, And.left⟩

lemma mem_segments_of_mem_moves {path : String} (h : name ∈ moves path) :
    name ∈ segments path ∧ name ≠ "" ∧ name ≠ "." := by
  simpa [moves] using h

lemma not_slash_of_mem_segments {path : String} (h : name ∈ segments path) : '/' ∉ name.toList := by
  obtain ⟨piece, hpiece, rfl⟩ := List.mem_map.mp h
  intro hmem
  rw [String.toList_ofList] at hmem
  simpa using Cut.not_sep_of_mem_pieces hpiece '/' hmem

lemma components_name (hslash : '/' ∉ name.toList) (hempty : name ≠ "") (hdot : name ≠ ".")
    (hup : name ≠ "..") : components name = [.name name] := by
  have hsegments : segments name = [name] := by
    have hsep : ∀ x ∈ name.toList, (x == '/') = false := fun x hx =>
      beq_false_of_ne fun h => hslash (h ▸ hx)
    rw [segments, Cut.pieces_of_not_sep hsep, List.map_singleton, String.ofList_toList]
  have habsolute : isAbsolute name = false := by
    rw [isAbsolute, beq_eq_false_iff_ne]
    exact fun h => hslash (List.mem_of_mem_head? h)
  rw [components, habsolute, hsegments]
  simp [component?, hempty, hdot, hup]

end Path

end SeedSync
