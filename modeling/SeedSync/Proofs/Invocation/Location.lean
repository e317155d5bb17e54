import Mathlib
import SeedSync.Invocation.Location
import SeedSync.Proofs.Files.Part

/-!
The output that a control file names. Whoever writes the control file chooses a name and nothing
else: the directory is always the working directory.
-/

namespace SeedSync

/-- A path that is one name lies in the working directory, and no other directory is on the way to
it. -/
structure Path.IsChild (path : String) : Prop where
  components : Path.components path = [.name path]
  place : Tree.placeOf path = [path]
  directories : Tree.directoriesTo path = []

lemma Path.isChild_of_name {name : String} (hslash : '/' ∉ name.toList) (hempty : name ≠ "")
    (hdot : name ≠ ".") (hup : name ≠ "..") : IsChild name := by
  have h := components_name hslash hempty hdot hup
  refine ⟨h, ?_, ?_⟩
  · rw [Tree.placeOf, h]
    rfl
  · rw [Tree.directoriesTo, h]
    rfl

/-- **A control file cannot choose a directory.** Whatever filename its header has, the output is
the last segment that leads on, if this is a name: it is not empty, has no slash, and leads neither
to the directory itself nor to the one above, so that both the output and its part file lie in the
working directory itself. A filename with no such segment, or with one that leads back, is
refused. -/
theorem keeps_to_the_working_directory (filename : String) :
    (defaultOutput filename = .error (.unusableFilename filename) ∧
      ∀ s ∈ (Path.moves filename).getLast?, s = "..") ∨
    ∃ name, defaultOutput filename = .ok name ∧ (Path.moves filename).getLast? = some name ∧
      name ∈ Path.segments filename ∧ name ≠ "" ∧ '/' ∉ name.toList ∧ name ≠ "." ∧ name ≠ ".." ∧
      Path.IsChild name ∧ Path.IsChild (Path.part name) := by
  rw [defaultOutput]
  cases hname : Path.fileName? filename with
  | none =>
    refine .inl ⟨rfl, fun s hs => ?_⟩
    by_contra hup
    rw [Path.fileName?_eq_some_iff.mpr ⟨hs, hup⟩] at hname
    cases hname
  | some name =>
    obtain ⟨hlast, hup⟩ := Path.fileName?_eq_some_iff.mp hname
    obtain ⟨hsegment, hempty, hdot⟩ := Path.mem_segments_of_mem_moves (List.mem_of_getLast? hlast)
    have hslash := Path.not_slash_of_mem_segments hsegment
    obtain ⟨hempty', hdot', hup', -⟩ := Tree.append_part_ne name
    have hslash' : '/' ∉ (Path.part name).toList := by
      rw [Path.part, String.toList_append, List.mem_append]
      exact not_or.mpr ⟨hslash, by decide⟩
    exact .inr ⟨name, rfl, hlast, hsegment, hempty, hslash, hdot, hup,
      Path.isChild_of_name hslash hempty hdot hup, Path.isChild_of_name hslash' hempty' hdot' hup'⟩

/-- Neither a path out of the directory nor slashes and dots behind a name are followed. -/
example : defaultOutput "../../etc/passwd/./" = .ok "passwd" := by decide

end SeedSync
