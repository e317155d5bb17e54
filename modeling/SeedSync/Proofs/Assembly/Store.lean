import Mathlib
import SeedSync.Proofs.Assembly.History
import SeedSync.Proofs.Files.Part

/-!
The assembly on disk: what opening, saving and closing it do to the tree of files.
-/

namespace SeedSync.Assembly

open SeedSync.Tree (Changed Holds Delivers placeOf directoriesTo)

variable {path : String} {c : ControlFile} {journal : Array Event} {a b : Assembly}
  {before t t' : Tree}

/-! ### Opening -/

lemma makeParent_changed (hr : t.Rooted) (path : String) :
    (makeParent t path).2.Rooted ∧ Changed [] (directoriesTo path) t (makeParent t path).2 := by
  rw [makeParent]
  split
  · exact ⟨hr, .refl t⟩
  · next parent hparent =>
    have hparent : parent = (Path.components path).dropLast := by
      rw [Path.parent?] at hparent
      split at hparent
      · cases hparent
      · cases hparent
      · exact (Option.some.inj hparent).symm
    rw [Tree.makeDirectories]
    split
    · exact ⟨hr, .refl t⟩
    split
    · exact ⟨hr, .refl t⟩
    · rw [hparent]
      exact Tree.makeBelow_changed hr [] false _

lemma openAt_cases (hr : t.Rooted) (path : String) (c : ControlFile) :
    (∃ e t', (∀ journal, openAt t path c journal = (.error e, t')) ∧
      Changed [placeOf (Path.part path)] (directoriesTo path) t t') ∨
    ∃ t', ∀ journal, openAt t path c journal = (.ok (start path c journal), t') ∧
      Holds t path (start path c journal).content t' := by
  unfold openAt
  have hmade := makeParent_changed hr path
  generalize makeParent t path = made at hmade
  obtain ⟨_ | _, t₁⟩ := made
  · exact .inl ⟨_, _, fun _ => rfl, hmade.2.mono (List.nil_subset _) (.refl _)⟩
  · obtain ⟨hr₁, hparent⟩ := hmade
    dsimp only at hr₁ hparent ⊢
    cases hempty : t₁.write (Path.part path) [] with
    | error e => exact .inl ⟨_, _, fun _ => rfl, hparent.mono (List.nil_subset _) (.refl _)⟩
    | ok t₂ =>
      have hempty := (hr₁.holds_write hempty).of_changed hparent
      dsimp only
      split
      · exact .inl ⟨_, _, fun _ => rfl, hempty.changed⟩
      · obtain ⟨t₃, hzeros, hholds⟩ := hempty.exists_write (Content.zeros c.header.length).toList
        refine .inr ⟨t₃, fun journal => ⟨?_, hholds⟩⟩
        rw [show (start path c journal).content = (Content.zeros c.header.length).toList from rfl,
          hzeros]

/-! ### Saving and closing -/

lemma save_holds {content : List UInt8} (h : Holds before a.path content t) :
    Holds before a.path a.content (a.save t) := by
  obtain ⟨t', hwrite, hholds⟩ := h.exists_write a.content
  rw [save, hwrite]
  exact hholds

lemma hash_of_verify (h : a.verify = .ok ()) : Sha1.hash a.content = a.header.sha1 := by
  rw [verify] at h
  split at h
  · cases h
  dsimp only at h
  split at h
  · next hsha => exact hsha
  · cases h

/-- A file that is moved into its place has the digest that the header gives. -/
lemma close_ok (h : Holds before a.path a.content t) (hclose : a.close t = (.ok b, t')) :
    b.path = a.path ∧ Sha1.hash a.content = a.header.sha1 ∧
      Delivers before a.path a.content t' := by
  rw [close] at hclose
  split at hclose
  · cases hclose
  next hverify =>
  split at hclose
  · cases hclose
  next t₁ hmove =>
  obtain ⟨hb, rfl⟩ := Prod.mk.inj hclose
  obtain rfl := Except.ok.inj hb
  refine ⟨rfl, hash_of_verify hverify, ?_⟩
  have hdelivers := h.delivers hmove
  cases a.header.mtime with
  | none => exact hdelivers
  | some m => exact hdelivers.setMtime m

lemma close_error {e : Error} (hclose : a.close t = (.error e, t')) : t' = t := by
  rw [close] at hclose
  split at hclose
  · exact (Prod.mk.inj hclose).2.symm
  split at hclose
  · exact (Prod.mk.inj hclose).2.symm
  · cases (Prod.mk.inj hclose).1

end SeedSync.Assembly
