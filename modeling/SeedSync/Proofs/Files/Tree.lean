import Mathlib
import SeedSync.Files.Changes
import SeedSync.Proofs.Error
import SeedSync.Proofs.Files.Path

/-!
Trees of files: what each change does to the node at each place, and which place a path leads to.
-/

namespace SeedSync

namespace Tree

variable {t t' : Tree} {p q r : Place} {n : Node}

/-! ### Nodes -/

lemma node?_eq (t : Tree) (p : Place) :
    t.node? p = (t.entries.lookup p).or (if isGiven p then some (.directory none) else none) := by
  rw [node?]
  cases t.entries.lookup p <;> rfl

lemma lookup_cons (e : Place × Node) (entries : List (Place × Node)) :
    (e :: entries).lookup q = if q = e.1 then some e.2 else entries.lookup q := by
  obtain ⟨k, v⟩ := e
  rw [List.lookup_cons]
  by_cases h : q = k
  · simp [h]
  · rw [beq_false_of_ne h, if_neg h]

lemma any_key (entries : List (Place × Node)) :
    (entries.any fun e => e.1 == p) = (entries.lookup p).isSome := by
  induction entries with
  | nil => rfl
  | cons e entries ih =>
    rw [List.any_cons, ih, lookup_cons]
    by_cases h : p = e.1
    · simp [h]
    · rw [beq_false_of_ne (Ne.symm h), if_neg h, Bool.false_or]

lemma lookup_map_put (entries : List (Place × Node)) :
    (entries.map fun e => if e.1 == p then (p, n) else e).lookup q =
      if q = p then (entries.lookup p).map fun _ => n else entries.lookup q := by
  induction entries with
  | nil => simp
  | cons e entries ih =>
    rw [List.map_cons, lookup_cons e, lookup_cons e]
    by_cases he : e.1 = p
    · rw [if_pos (by simpa using he), lookup_cons, ih, he, if_pos rfl, Option.map_some]
      split <;> rfl
    · rw [if_neg (by simpa using he), lookup_cons, ih, if_neg (Ne.symm he)]
      by_cases hq : q = p
      · rw [if_pos hq, if_pos hq, if_neg (hq ▸ Ne.symm he)]
      · rw [if_neg hq, if_neg hq]

lemma node?_put (t : Tree) (p q : Place) (n : Node) :
    (t.put p n).node? q = if q = p then some n else t.node? q := by
  rw [node?_eq, node?_eq, put, any_key]
  cases hlookup : t.entries.lookup p with
  | some m =>
    rw [Option.isSome_some, if_pos rfl, lookup_map_put, hlookup]
    split <;> rfl
  | none =>
    rw [Option.isSome_none, if_neg Bool.false_ne_true, List.lookup_append, lookup_cons]
    split
    · next hq => rw [hq, hlookup, Option.none_or, Option.some_or]
    · rw [List.lookup_nil, Option.or_none]

lemma ne_directory_of_file {content : List UInt8} {m : Option Instant}
    (h : t.node? p = some (.file content m)) (m' : Option Instant) :
    t.node? p ≠ some (.directory m') := by
  rw [h]
  simp

/-- Everything lies in a directory. -/
def Rooted (t : Tree) : Prop :=
  ∀ p s, (t.node? (p ++ [s])).isSome = true → ∃ m, t.node? p = some (.directory m)

/-- There is nothing below a file, or below a place where nothing is. -/
lemma Rooted.eq_of_prefix (h : t.Rooted) (hp : ∀ m, t.node? p ≠ some (.directory m))
    (hq : (t.node? q).isSome = true) (hpq : p <+: q) : q = p := by
  obtain ⟨rest, rfl⟩ := hpq
  induction rest using List.reverseRecOn with
  | nil => exact List.append_nil p
  | append_singleton rest s ih =>
    rw [← List.append_assoc] at hq
    obtain ⟨m, hm⟩ := h _ _ hq
    have := ih (by rw [hm]; rfl)
    rw [this] at hm
    exact absurd hm (hp m)

lemma Rooted.put (h : t.Rooted) {s : String} (hp : ∃ m, t.node? p = some (.directory m))
    (hn : ∀ m, t.node? (p ++ [s]) = some (.directory m) → n.isDirectory = true) :
    (t.put (p ++ [s]) n).Rooted := by
  intro q s' hq
  rw [node?_put] at hq ⊢
  have hdir : ∃ m, t.node? q = some (.directory m) := by
    split at hq
    · next heq =>
      obtain ⟨rfl, -⟩ := List.append_inj' heq rfl
      exact hp
    · exact h q s' hq
  split
  · next heq =>
    subst heq
    obtain ⟨m, hm⟩ := hdir
    cases n with
    | file => cases hn m hm
    | directory m' => exact ⟨m', rfl⟩
  · exact hdir

/-! ### Where a path leads -/

/-- Where a segment leads to from a place. -/
def follow (p : Place) (s : String) : Place :=
  if s = "" ∨ s = "." then p else if s = ".." then above p else p ++ [s]

lemma foldl_componentPlace (segments : List String) (p : Place) :
    (segments.filterMap Path.component?).foldl componentPlace p = segments.foldl follow p := by
  induction segments generalizing p with
  | nil => rfl
  | cons s rest ih =>
    rw [List.foldl_cons, ← ih, List.filterMap_cons, Path.component?, follow]
    split_ifs <;> rfl

lemma placeOf_eq (path : String) :
    placeOf path = (Path.segments path).foldl follow (startOf path) := by
  rw [← foldl_componentPlace, placeOf, Path.components, startOf]
  split_ifs <;> rfl

lemma enter_ok : t.enter p = .ok () ↔ ∃ m, t.node? p = some (.directory m) := by
  rw [enter]
  rcases t.node? p with _ | _ | _ <;> simp

lemma isGiven_of_append {s : String} (h : isGiven (p ++ [s]) = true) : isGiven p = true := by
  rw [isGiven, Bool.or_eq_true, List.all_append, Bool.and_eq_true] at h
  rcases h with hroot | ⟨hup, -⟩
  · obtain rfl : p = [] := by
      cases p with
      | nil => rfl
      | cons r p => simp at hroot
    rfl
  · rw [isGiven, hup, Bool.or_true]

/-- It is enough that entries lie in directories, and that the directories that are given are no
files. -/
lemma Rooted.of_entries (h : ∀ e ∈ t.entries, t.enter e.1.dropLast = .ok () ∧
    (isGiven e.1 = true → e.2.isDirectory = true)) : t.Rooted := by
  intro p s hp
  cases hlookup : t.entries.lookup (p ++ [s]) with
  | some n =>
    obtain ⟨before, after, hentries, -⟩ := List.lookup_eq_some_iff.mp hlookup
    obtain ⟨henter, -⟩ := h (p ++ [s], n) (by simp [hentries])
    rwa [List.dropLast_concat, enter_ok] at henter
  | none =>
    rw [node?_eq, hlookup, Option.none_or] at hp
    have hgiven : isGiven p = true := by
      refine isGiven_of_append (s := s) ?_
      by_contra hno
      rw [if_neg hno] at hp
      cases hp
    rw [node?_eq, hgiven]
    cases hlookup' : t.entries.lookup p with
    | none => exact ⟨none, rfl⟩
    | some n =>
      obtain ⟨before, after, hentries, -⟩ := List.lookup_eq_some_iff.mp hlookup'
      obtain ⟨-, hdir⟩ := h (p, n) (by simp [hentries])
      cases n with
      | file => cases hdir hgiven
      | directory m => exact ⟨m, rfl⟩

lemma walk_cons_ok {s : String} {rest : List String} : t.walk p (s :: rest) = .ok q ↔
    t.enter p = .ok () ∧ checkName s = .ok () ∧ t.walk (follow p s) rest = .ok q := by
  rw [← discard_ok, ← discard_ok]
  rfl

lemma walk_eq_foldl {segments : List String} (h : t.walk p segments = .ok q) :
    q = segments.foldl follow p := by
  induction segments generalizing p with
  | nil => exact (Except.ok.inj h).symm
  | cons s rest ih => exact ih (walk_cons_ok.mp h).2.2

lemma walk_append_ok {before after : List String} : t.walk p (before ++ after) = .ok q ↔
    ∃ r, t.walk p before = .ok r ∧ t.walk r after = .ok q := by
  induction before generalizing p with
  | nil => simp [walk]
  | cons s before ih => simp only [List.cons_append, walk_cons_ok, ih, exists_and_left, and_assoc]

lemma walk_mono (hdirs : ∀ p m, t.node? p = some (.directory m) →
    ∃ m', t'.node? p = some (.directory m')) {segments : List String}
    (h : t.walk p segments = .ok q) : t'.walk p segments = .ok q := by
  induction segments generalizing p with
  | nil => exact h
  | cons s rest ih =>
    obtain ⟨henter, hname, hrest⟩ := walk_cons_ok.mp h
    obtain ⟨m, hm⟩ := enter_ok.mp henter
    exact walk_cons_ok.mpr ⟨enter_ok.mpr (hdirs p m hm), hname, ih hrest⟩

lemma place_ok {path : String} : t.place path = .ok p ↔
    checkNul path = .ok () ∧ checkPath path = .ok () ∧
      t.walk (startOf path) (Path.segments path) = .ok p := by
  rw [← discard_ok, ← discard_ok]
  rfl

lemma place_mono (hdirs : ∀ p m, t.node? p = some (.directory m) →
    ∃ m', t'.node? p = some (.directory m')) {path : String} (h : t.place path = .ok p) :
    t'.place path = .ok p := by
  obtain ⟨hnul, hpath, hwalk⟩ := place_ok.mp h
  exact place_ok.mpr ⟨hnul, hpath, walk_mono hdirs hwalk⟩

lemma eq_placeOf {path : String} (h : t.place path = .ok p) : p = placeOf path := by
  rw [placeOf_eq]
  exact walk_eq_foldl (place_ok.mp h).2.2

lemma find_ok {path : String} : t.find path = .ok (p, n) ↔
    t.place path = .ok p ∧ t.node? p = some n := by
  rw [find, bind_ok]
  constructor
  · rintro ⟨q, hq, h⟩
    split at h
    · cases h
    · next m hm =>
      obtain ⟨rfl, rfl⟩ := Prod.mk.inj (Except.ok.inj h)
      exact ⟨hq, hm⟩
  · rintro ⟨hp, hn⟩
    exact ⟨p, hp, by rw [hn]⟩

/-! ### What has changed -/

/-- One tree has come from another: at the places in `written` it may look in any way, at those in
`created` there may be a directory where nothing was, and nowhere else is there a difference. -/
def Changed (written created : List Place) (t t' : Tree) : Prop :=
  ∀ q, q ∈ written ∨ t'.node? q = t.node? q ∨
    q ∈ created ∧ t.node? q = none ∧ t'.node? q = some (.directory none)

namespace Changed

variable {written written' created created' : List Place}

lemma refl (t : Tree) : Changed written created t t := fun _ => .inr (.inl rfl)

lemma mono (h : Changed written created t t') (hw : written ⊆ written') (hc : created ⊆ created') :
    Changed written' created' t t' := fun q => (h q).imp (@hw q) (.imp_right (.imp_left (@hc q)))

lemma trans {u : Tree} (h : Changed written created t t') (h' : Changed written created t' u) :
    Changed written created t u := by
  intro q
  rcases h q with hmem | hq | ⟨hmem, hnone, hdir⟩
  · exact .inl hmem
  · rw [← hq]
    exact h' q
  · rcases h' q with hmem' | hq' | ⟨-, hnone', -⟩
    · exact .inl hmem'
    · exact .inr (.inr ⟨hmem, hnone, hq'.trans hdir⟩)
    · rw [hdir] at hnone'
      cases hnone'

end Changed

lemma changed_put (t : Tree) (p : Place) (n : Node) : Changed [p] [] t (t.put p n) := by
  intro q
  rw [node?_put]
  by_cases h : q = p
  · exact .inl (by simp [h])
  · exact .inr (.inl (if_neg h))

/-! ### Creating directories -/

/-- The places that components lead to one after the other. -/
def placesOn (p : Place) (cs : List Path.Component) : List Place :=
  (List.range cs.length).map fun n => (cs.take (n + 1)).foldl componentPlace p

lemma placesOn_cons (p : Place) (c : Path.Component) (cs : List Path.Component) :
    placesOn p (c :: cs) = componentPlace p c :: placesOn (componentPlace p c) cs := by
  simp [placesOn, List.range_succ_eq_map]

lemma length_foldl_names {cs : List Path.Component} (h : ∀ c ∈ cs, ∃ s, c = .name s) (p : Place) :
    (cs.foldl componentPlace p).length = p.length + cs.length := by
  induction cs generalizing p with
  | nil => rfl
  | cons c cs ih =>
    obtain ⟨s, rfl⟩ := h c List.mem_cons_self
    rw [List.foldl_cons, ih fun c hc => h c (List.mem_cons_of_mem _ hc)]
    simp only [componentPlace, List.length_append, List.length_cons, List.length_nil]
    omega

/-- A path that never steps back does not pass the place that it leads to. -/
lemma placeOf_not_mem_directoriesTo {path : String} (hup : .up ∉ Path.components path) :
    placeOf path ∉ directoriesTo path := by
  have hnames (c : Path.Component) (hc : c ∈ (Path.components path).tail) : ∃ s, c = .name s := by
    rcases Path.mem_tail_components hc with rfl | hname
    · exact absurd (List.mem_of_mem_tail hc) hup
    · exact hname
  intro hmem
  obtain ⟨n, hn, heq⟩ : ∃ n < (Path.components path).dropLast.length,
      ((Path.components path).dropLast.take (n + 1)).foldl componentPlace [] = placeOf path := by
    simpa [directoriesTo] using hmem
  rw [placeOf] at heq
  cases hcs : Path.components path with
  | nil =>
    rw [hcs] at hn
    simp at hn
  | cons c rest =>
    rw [hcs] at hn heq hnames
    rw [List.tail_cons] at hnames
    rw [List.length_dropLast, List.length_cons, Nat.add_sub_cancel] at hn
    rw [List.dropLast_cons_of_ne_nil (List.ne_nil_of_length_pos (by omega)), List.take_succ_cons,
      List.foldl_cons, List.foldl_cons] at heq
    have hlen := congrArg List.length heq
    rw [length_foldl_names fun c hc => hnames c (List.dropLast_subset _ (List.take_subset _ _ hc)),
      length_foldl_names hnames, List.length_take, List.length_dropLast] at hlen
    omega

lemma Rooted.exists_append (h : t.Rooted) (hp : (t.node? p).isSome = true) (c : Path.Component)
    (hnone : t.node? (componentPlace p c) = none) : ∃ s, componentPlace p c = p ++ [s] := by
  cases c with
  | root =>
    rw [node?_eq] at hnone
    simp [componentPlace, isGiven] at hnone
  | here =>
    rw [componentPlace] at hnone
    rw [hnone] at hp
    cases hp
  | name s => exact ⟨s, rfl⟩
  | up =>
    rw [componentPlace, above] at hnone ⊢
    split_ifs at hnone ⊢ with hroot hup
    · rw [hnone] at hp
      cases hp
    · exact ⟨"..", rfl⟩
    · obtain ⟨init, s, rfl⟩ : ∃ init s, p = init ++ [s] := by
        rcases List.eq_nil_or_concat p with rfl | ⟨init, s, rfl⟩
        · simp at hup
        · exact ⟨init, s, by simp⟩
      obtain ⟨m, hm⟩ := h init s hp
      rw [List.dropLast_concat, hm] at hnone
      cases hnone

/-- Directories are created where nothing is, and all else is left alone, whether or not the last
one is reached. -/
lemma makeBelow_changed (hr : t.Rooted) (p : Place) (made : Bool) (cs : List Path.Component) :
    (t.makeBelow p made cs).2.Rooted ∧ Changed [] (placesOn p cs) t (t.makeBelow p made cs).2 := by
  induction cs generalizing t p made with
  | nil => exact ⟨hr, .refl t⟩
  | cons c cs ih =>
    rw [makeBelow, placesOn_cons]
    cases hcheck : (do t.enter p; checkName c.text) with
    | error e => exact ⟨hr, .refl t⟩
    | ok =>
      obtain ⟨m, hm⟩ := enter_ok.mp (discard_ok.mp hcheck).1
      dsimp only
      split
      · obtain ⟨hr', hchanged⟩ := ih hr (componentPlace p c) made
        exact ⟨hr', hchanged.mono (.refl _) (List.subset_cons_self ..)⟩
      · exact ⟨hr, .refl t⟩
      · next hnone =>
        obtain ⟨s, hs⟩ := hr.exists_append (by rw [hm]; rfl) c hnone
        have hput : (t.put (componentPlace p c) (.directory none)).Rooted := by
          rw [hs]
          exact hr.put ⟨m, hm⟩ fun _ _ => rfl
        obtain ⟨hr', hchanged⟩ := ih hput (componentPlace p c) true
        refine ⟨hr', .trans (fun q => ?_) (hchanged.mono (.refl _) (List.subset_cons_self ..))⟩
        rw [node?_put]
        split
        · next hq => exact .inr (.inr ⟨by simp [hq], hq ▸ hnone, rfl⟩)
        · exact .inr (.inl rfl)

/-! ### Reading and writing files -/

lemma read_ok {path : String} {content : List UInt8} : t.read path = .ok content ↔
    t.place path = .ok (placeOf path) ∧ ∃ m, t.node? (placeOf path) = some (.file content m) := by
  rw [read, bind_ok]
  constructor
  · rintro ⟨⟨p, n⟩, hfind, h⟩
    obtain ⟨hp, hn⟩ := find_ok.mp hfind
    obtain rfl := eq_placeOf hp
    cases n with
    | file content' m =>
      obtain rfl := Except.ok.inj h
      exact ⟨hp, m, hn⟩
    | directory => cases h
  · rintro ⟨hp, m, hn⟩
    exact ⟨_, find_ok.mpr ⟨hp, hn⟩, rfl⟩

lemma not_exists_of_node? {path : String} (h : t.node? (placeOf path) = none) :
    t.exists? path = false := by
  rw [exists?]
  cases hfind : t.find path with
  | error e => rfl
  | ok x =>
    obtain ⟨p, n⟩ := x
    obtain ⟨hp, hn⟩ := find_ok.mp hfind
    rw [eq_placeOf hp, h] at hn
    cases hn

lemma directory_put (hp : ∀ m, t.node? p ≠ some (.directory m)) (n : Node) (q : Place)
    (m : Option Instant) (hq : t.node? q = some (.directory m)) :
    ∃ m', (t.put p n).node? q = some (.directory m') := by
  refine ⟨m, ?_⟩
  rw [node?_put, if_neg]
  · exact hq
  · rintro rfl
    exact hp m hq

lemma write_ok {path : String} {content : List UInt8} : t.write path content = .ok t' ↔
    t.place path = .ok (placeOf path) ∧ (∀ m, t.node? (placeOf path) ≠ some (.directory m)) ∧
      t.put (placeOf path) (.file content none) = t' := by
  rw [write, bind_ok]
  constructor
  · rintro ⟨p, hp, h⟩
    obtain rfl := eq_placeOf hp
    refine ⟨hp, ?_⟩
    split at h
    · cases h
    · next hno => exact ⟨fun m hm => hno m hm, Except.ok.inj h⟩
  · rintro ⟨hp, hno, rfl⟩
    refine ⟨_, hp, ?_⟩
    split
    · next m hm => exact absurd hm (hno m)
    · rfl

end Tree

end SeedSync
