import Mathlib
import SeedSync.Proofs.Files.Tree

/-!
The part file beside an output: it lies in the output's directory, under a longer name, and from
there it is moved to the output's own.
-/

namespace SeedSync

namespace Tree

variable {t t' : Tree} {p q r : Place} {n : Node}

/-! ### Moving a file -/

lemma lookup_filter_map_move (entries : List (Place × Node)) (hne : p ≠ q) :
    ((entries.filter fun e => !(e.1 == q)).map fun e =>
      if e.1 == p then (q, e.2) else e).lookup r =
        if r = q then entries.lookup p else if r = p then none else entries.lookup r := by
  induction entries with
  | nil => simp
  | cons e entries ih =>
    rw [List.filter_cons, lookup_cons e, lookup_cons e]
    by_cases heq : e.1 = q
    · rw [if_neg (by simp [heq]), ih, heq, if_neg hne]
      by_cases hr : r = q
      · rw [if_pos hr, if_pos hr]
      · rw [if_neg hr, if_neg hr]
        simp [hr]
    · rw [if_pos (by simp [heq]), List.map_cons]
      by_cases hep : e.1 = p
      · rw [if_pos (by simp [hep]), lookup_cons, ih, hep, if_pos rfl]
        by_cases hr : r = q
        · rw [if_pos hr, if_pos hr]
        · rw [if_neg hr, if_neg hr, if_neg hr]
          by_cases hrp : r = p <;> simp [hrp]
      · rw [if_neg (by simp [hep]), lookup_cons, ih, if_neg (Ne.symm hep)]
        by_cases hr : r = e.1
        · subst hr
          simp [heq, hep]
        · rw [if_neg hr, if_neg hr]

lemma isSome_of_mem_entries {e : Place × Node} (he : e ∈ t.entries) :
    (t.node? e.1).isSome = true := by
  rw [node?_eq, Option.isSome_or, List.lookup_isSome_iff.mpr ⟨e, he, by simp⟩, Bool.true_or]

lemma node?_move {content : List UInt8} {m : Option Instant} (hr : t.Rooted)
    (hp : t.node? p = some (.file content m)) (hgiven : isGiven p = false)
    (hq : ∀ m, t.node? q ≠ some (.directory m)) (hne : p ≠ q) (r : Place) :
    (t.move p q).node? r = if r = q then t.node? p else if r = p then none else t.node? r := by
  have hpfile := ne_directory_of_file hp
  have hentries : (t.move p q).entries = (t.entries.filter fun e => !(e.1 == q)).map fun e =>
      if e.1 == p then (q, e.2) else e := by
    have hkey {k : Place} (hk : ∀ m, t.node? k ≠ some (.directory m)) {e : Place × Node}
        (he : e ∈ t.entries) : k.isPrefixOf e.1 = (e.1 == k) := by
      rw [Bool.eq_iff_iff, List.isPrefixOf_iff_prefix, beq_iff_eq]
      exact ⟨hr.eq_of_prefix hk (isSome_of_mem_entries he), fun h => h ▸ List.prefix_refl _⟩
    rw [move]
    dsimp only
    rw [List.filter_congr fun e he => by rw [hkey hq he]]
    refine List.map_congr_left fun e he => ?_
    rw [hkey hpfile (List.mem_filter.mp he).1]
    split
    · next h => rw [beq_iff_eq.mp h, List.drop_length, List.append_nil]
    · rfl
  have hlookup : t.entries.lookup p = some (.file content m) := by
    rw [node?_eq, hgiven] at hp
    simpa using hp
  rw [node?_eq, hentries, lookup_filter_map_move _ hne]
  by_cases hrq : r = q
  · rw [if_pos hrq, if_pos hrq, hlookup, hp, Option.some_or]
  · rw [if_neg hrq, if_neg hrq]
    by_cases hrp : r = p
    · rw [if_pos hrp, if_pos hrp, hrp, hgiven]
      rfl
    · rw [if_neg hrp, if_neg hrp, node?_eq]

/-! ### The part file -/

lemma append_part_ne (s : String) :
    s ++ ".part" ≠ "" ∧ s ++ ".part" ≠ "." ∧ s ++ ".part" ≠ ".." ∧ s ++ ".part" ≠ "/" := by
  have hne {t : String} (ht : t.length < 5) : s ++ ".part" ≠ t := by
    rintro rfl
    have hlen : (s ++ ".part").length = s.length + 5 := String.length_append s ".part"
    omega
  exact ⟨hne (by decide), hne (by decide), hne (by decide), hne (by decide)⟩

lemma startOf_part (path : String) : startOf (Path.part path) = startOf path := by
  have habsolute : Path.isAbsolute (Path.part path) = Path.isAbsolute path := by
    rw [Path.isAbsolute, Path.isAbsolute, Path.part, String.toList_append]
    cases path.toList <;> rfl
  rw [startOf, startOf, habsolute]

lemma entryOf_ok {path last : String} {init : List String}
    (hseg : Path.segments path = init ++ [last]) (hlast : last ≠ "") {x : Place × Option String} :
    t.entryOf path = .ok x ↔
      checkPath path = .ok () ∧ ∃ dir, t.walk (startOf path) init = .ok dir ∧
        t.enter dir = .ok () ∧ (dir, if last = "." ∨ last = ".." then none else some last) = x := by
  rw [entryOf, discard_ok, hseg, List.reverse_append, List.reverse_singleton, List.singleton_append,
    List.dropWhile_cons, if_neg (by simpa using hlast)]
  dsimp only
  rw [List.reverse_reverse, bind_ok]
  refine and_congr_right fun _ => exists_congr fun dir => and_congr_right fun _ => ?_
  rw [discard_ok]
  exact and_congr_right fun _ => ⟨Except.ok.inj, congrArg _⟩

end Tree

namespace Path.Ends

open SeedSync.Tree

variable {t : Tree} {p q : Place} {path : String} {init : List String} {last : String}

lemma placeOf_part (h : Ends path init last) :
    placeOf (Path.part path) = init.foldl follow (startOf path) ++ [last ++ ".part"] := by
  obtain ⟨hempty, hdot, hup, -⟩ := append_part_ne last
  rw [placeOf_eq, h.part, List.foldl_append, startOf_part]
  simp [follow, hempty, hdot, hup]

lemma isGiven_part (h : Ends path init last) : isGiven (placeOf (Path.part path)) = false := by
  obtain ⟨-, -, hup, hroot⟩ := append_part_ne last
  rw [h.placeOf_part]
  simp [isGiven, List.append_eq_singleton_iff, hup, hroot]

lemma exists_directory (h : Ends path init last) (hp : t.place (Path.part path) = .ok p) :
    ∃ m, t.node? (init.foldl follow (startOf path)) = some (.directory m) := by
  obtain ⟨-, -, hwalk⟩ := place_ok.mp hp
  rw [h.part, startOf_part, walk_append_ok] at hwalk
  obtain ⟨dir, hdir, hrest⟩ := hwalk
  obtain rfl := walk_eq_foldl hdir
  exact enter_ok.mp (walk_cons_ok.mp hrest).1

lemma entryOf_name (h : Ends path init last) (hslash : endsInSlash path = false)
    {name : String} (hentry : t.entryOf path = .ok (q, some name)) :
    q = init.foldl follow (startOf path) ∧ name = last ∧
      placeOf path = init.foldl follow (startOf path) ++ [last] ∧
      (checkNul path = .ok () → checkName last = .ok () → t.place path = .ok (placeOf path)) := by
  have hpath : checkPath path = .ok () := by
    rw [entryOf, discard_ok] at hentry
    exact hentry.1
  have hlast : last ≠ "" := fun hlast => by
    rcases h.slash hlast with rfl | hlast
    · cases hpath
    · rw [endsInSlash, hlast] at hslash
      cases hslash
  obtain ⟨-, dir, hdir, henter, hpair⟩ := (entryOf_ok h.segments hlast).mp hentry
  obtain rfl := walk_eq_foldl hdir
  obtain ⟨rfl, hpick⟩ := Prod.mk.inj hpair
  split at hpick
  · cases hpick
  next hdots =>
  obtain rfl := Option.some.inj hpick
  obtain ⟨hdot, hup⟩ := not_or.mp hdots
  have hfollow : follow (init.foldl follow (startOf path)) last =
      init.foldl follow (startOf path) ++ [last] := by
    simp [follow, hlast, hdot, hup]
  have hplace : placeOf path = init.foldl follow (startOf path) ++ [last] := by
    rw [placeOf_eq, h.segments, List.foldl_append, List.foldl_cons, List.foldl_nil, hfollow]
  refine ⟨rfl, rfl, hplace, fun hnul hname => ?_⟩
  rw [place_ok, h.segments, walk_append_ok, hplace]
  exact ⟨hnul, hpath, _, hdir, walk_cons_ok.mpr ⟨henter, hname, congrArg _ hfollow⟩⟩

lemma entryOf_part (h : Ends path init last) {name : String}
    (hentry : t.entryOf (Path.part path) = .ok (p, some name)) :
    p ++ [name] = placeOf (Path.part path) := by
  obtain ⟨hempty, hdot, hup, -⟩ := append_part_ne last
  obtain ⟨-, dir, hdir, -, hpair⟩ := (entryOf_ok h.part hempty).mp hentry
  rw [startOf_part] at hdir
  obtain rfl := walk_eq_foldl hdir
  rw [if_neg (not_or.mpr ⟨hdot, hup⟩)] at hpair
  obtain ⟨rfl, hname⟩ := Prod.mk.inj hpair
  rw [h.placeOf_part, Option.some.inj hname]

end Path.Ends

namespace Tree

open SeedSync.Path (exists_ends)

variable {t t' : Tree} {p q : Place} {path : String} {content : List UInt8}

lemma not_directory_of_mayMove {m m' : Option Instant}
    (h : t.mayMove p (.file content m) q = .ok ()) : t.node? q ≠ some (.directory m') := by
  intro hq
  rw [mayMove, hq] at h
  split at h
  · cases h
  · split at h <;> cases h

lemma rename_ok {source dest : String} (h : t.rename source dest = .ok t') :
    ∃ dir name dir' name' n, t.entryOf source = .ok (dir, some name) ∧
      t.entryOf dest = .ok (dir', some name') ∧ checkNul dest = .ok () ∧
      t.node? (dir ++ [name]) = some n ∧ checkName name' = .ok () ∧
      (n.isDirectory = false → endsInSlash dest = false) ∧
      (dir ++ [name] ≠ dir' ++ [name'] →
        t.mayMove (dir ++ [name]) n (dir' ++ [name']) = .ok () ∧
          t.move (dir ++ [name]) (dir' ++ [name']) = t') := by
  unfold rename at h
  rw [discard_ok, discard_ok, bind_ok] at h
  obtain ⟨-, hnul, ⟨dir, name⟩, hsource, h⟩ := h
  rw [bind_ok] at h
  obtain ⟨⟨dir', name'⟩, hdest, h⟩ := h
  -- neither path may lead to a place without a name
  rcases name with _ | name <;> rcases name' with _ | name'
  · cases h
  · cases h
  · cases h
  dsimp only at h
  rw [discard_ok] at h
  obtain ⟨-, h⟩ := h
  cases hn : t.node? (dir ++ [name]) with
  | none =>
    rw [hn] at h
    cases h
  | some n =>
    rw [hn] at h
    dsimp only at h
    rw [discard_ok] at h
    obtain ⟨hname, h⟩ := h
    split at h
    · cases h
    next hslash =>
    refine ⟨dir, name, dir', name', n, hsource, hdest, hnul, hn, hname, fun hfile => ?_,
      fun hne => ?_⟩
    · rw [hfile] at hslash
      simp at hslash
      exact hslash.2
    · rw [if_neg hne, discard_ok] at h
      exact ⟨h.1, Except.ok.inj h.2⟩

/-- The part file lies in another place than the output. -/
lemma placeOf_part_ne (path : String) : placeOf (Path.part path) ≠ placeOf path := by
  obtain ⟨init, last, hends⟩ := exists_ends path
  obtain ⟨-, -, hup, -⟩ := append_part_ne last
  rw [hends.placeOf_part, placeOf_eq, hends.segments, List.foldl_append, List.foldl_cons,
    List.foldl_nil]
  generalize init.foldl follow (startOf path) = dir
  intro h
  rw [follow] at h
  split_ifs at h
  · simp at h
  · rw [above] at h
    split_ifs at h
    · simp at h
    · simp only [List.append_cancel_left_eq, List.cons.injEq, and_true] at h
      exact hup h
    · have hlen := congrArg List.length h
      simp only [List.length_append, List.length_singleton, List.length_dropLast] at hlen
      omega
  · simp at h

lemma rename_part_ok {m : Option Instant}
    (hfile : t.node? (placeOf (Path.part path)) = some (.file content m))
    (h : t.rename (Path.part path) path = .ok t') :
    t.place path = .ok (placeOf path) ∧ (∀ m, t.node? (placeOf path) ≠ some (.directory m)) ∧
      t.move (placeOf (Path.part path)) (placeOf path) = t' := by
  obtain ⟨init, last, hends⟩ := exists_ends path
  obtain ⟨dir, name, dir', name', n, hsource, hdest, hnul, hn, hname, hslash, hmove⟩ := rename_ok h
  have hpart := hends.entryOf_part hsource
  rw [hpart] at hn hmove
  obtain rfl := Option.some.inj (hfile.symm.trans hn)
  obtain ⟨rfl, rfl, hout, hplace⟩ := hends.entryOf_name (hslash rfl) hdest
  rw [← hout] at hmove
  obtain ⟨hmay, hmove⟩ := hmove (placeOf_part_ne path)
  exact ⟨hplace hnul hname, fun m' => not_directory_of_mayMove hmay, hmove⟩

/-! ### The part file as it is written -/

/-- One tree has come from another by writing the part file of a path and creating directories on
the way to it. -/
structure Holds (before : Tree) (path : String) (content : List UInt8) (t : Tree) : Prop where
  rooted : t.Rooted
  place : t.place (Path.part path) = .ok (placeOf (Path.part path))
  file : t.node? (placeOf (Path.part path)) = some (.file content none)
  changed : Changed [placeOf (Path.part path)] (directoriesTo path) before t

lemma Rooted.holds_write (hr : t.Rooted) (h : t.write (Path.part path) content = .ok t') :
    Holds t path content t' := by
  obtain ⟨hp, hno, rfl⟩ := write_ok.mp h
  obtain ⟨init, last, hends⟩ := exists_ends path
  have hdir := hends.exists_directory hp
  refine ⟨?_, place_mono (directory_put hno _) hp, by rw [node?_put, if_pos rfl],
    .mono (changed_put _ _ _) (.refl _) (List.nil_subset _)⟩
  rw [hends.placeOf_part] at hno ⊢
  exact hr.put hdir fun m hm => absurd hm (hno m)

variable {before : Tree}

namespace Holds

lemma of_changed (h : Holds t path content t') (hc : Changed [] (directoriesTo path) before t) :
    Holds before path content t' :=
  { h with changed := (hc.mono (List.nil_subset _) (.refl _)).trans h.changed }

lemma read (h : Holds before path content t) : t.read (Path.part path) = .ok content :=
  read_ok.mpr ⟨h.place, none, h.file⟩

lemma exists_write (h : Holds before path content t) (content' : List UInt8) :
    ∃ t', t.write (Path.part path) content' = .ok t' ∧ Holds before path content' t' := by
  have hwrite : t.write (Path.part path) content' =
      .ok (t.put (placeOf (Path.part path)) (.file content' none)) :=
    write_ok.mpr ⟨h.place, ne_directory_of_file h.file, rfl⟩
  have hagain := h.rooted.holds_write hwrite
  exact ⟨_, hwrite, { hagain with changed := h.changed.trans hagain.changed }⟩

end Holds

/-- One tree has come from another by putting a file in the place of a path, without leaving a part
file. -/
structure Delivers (before : Tree) (path : String) (content : List UInt8) (t : Tree) : Prop where
  place : t.place path = .ok (placeOf path)
  file : ∃ m, t.node? (placeOf path) = some (.file content m)
  part : t.node? (placeOf (Path.part path)) = none
  changed : Changed [placeOf path, placeOf (Path.part path)] (directoriesTo path) before t

lemma Holds.delivers (h : Holds before path content t)
    (hmove : t.rename (Path.part path) path = .ok t') : Delivers before path content t' := by
  obtain ⟨hplace, hno, rfl⟩ := rename_part_ok h.file hmove
  obtain ⟨init, last, hends⟩ := exists_ends path
  have hne := placeOf_part_ne path
  have hnode := node?_move h.rooted h.file hends.isGiven_part hno hne
  refine ⟨place_mono (fun r m hr => ⟨m, ?_⟩) hplace, ⟨none, ?_⟩, ?_, .trans
    (h.changed.mono (by simp) (.refl _)) fun r => ?_⟩
  · rw [hnode, if_neg, if_neg]
    · exact hr
    · rintro rfl
      exact ne_directory_of_file h.file m hr
    · rintro rfl
      exact hno m hr
  · rw [hnode, if_pos rfl, h.file]
  · rw [hnode, if_neg hne, if_pos rfl]
  · rw [hnode]
    split_ifs with hout hpart
    · exact .inl (by simp [hout])
    · exact .inl (by simp [hpart])
    · exact .inr (.inl rfl)

namespace Delivers

lemma read (h : Delivers before path content t) : t.read path = .ok content :=
  read_ok.mpr ⟨h.place, h.file⟩

lemma setMtime (h : Delivers before path content t) (mtime : Instant) :
    Delivers before path content ((t.setMtime path mtime).toOption.getD t) := by
  cases hset : t.setMtime path mtime with
  | error e => exact h
  | ok t' =>
    rw [Tree.setMtime, bind_ok] at hset
    obtain ⟨⟨p, n⟩, hfind, hset⟩ := hset
    obtain ⟨hp, hn⟩ := find_ok.mp hfind
    obtain rfl := eq_placeOf hp
    obtain ⟨m, hfile⟩ := h.file
    obtain rfl := Option.some.inj (hfile.symm.trans hn)
    dsimp only at hset
    split at hset
    · cases hset
    obtain rfl := Except.ok.inj hset
    refine ⟨place_mono (directory_put (ne_directory_of_file hfile) _) h.place, ⟨some mtime, ?_⟩, ?_,
      h.changed.trans (.mono (changed_put _ _ _) (by simp) (List.nil_subset _))⟩
    · exact (node?_put ..).trans (if_pos rfl)
    · exact (node?_put ..).trans ((if_neg (placeOf_part_ne path)).trans h.part)

end Delivers

end Tree

end SeedSync
