import Mathlib
import SeedSync.Invocation.Run
import SeedSync.Proofs.Assembly.Sink
import SeedSync.Proofs.Assembly.Store
import SeedSync.Proofs.Assembly.Target
import SeedSync.Proofs.Control.Reading
import SeedSync.Proofs.Transfer.Client

/-!
What an invocation does to the tree of files, however it ends.
-/

namespace SeedSync

open SeedSync.Tree (Changed Holds Delivers placeOf directoriesTo)

/-! ### The assembly on its way -/

namespace Assembly.Filled

variable {path : String} {c : ControlFile}

lemma keeps_sink : BlockSink.Keeps (Filled path c fun _ _ => True) where
  writeBlock _ i w offset h :=
    h.of_extends (extends_writeBlock h.sound i w offset) fun _ _ _ => trivial
  noteRead _ _ h := h.emit _

lemma keeps_receiver : RangeReceiver.Keeps (Filled path c fun _ _ => True) where
  receive _ r body h := h.of_extends (extends_receive h.sound r body).1 fun _ _ _ => trivial
  note _ e h := h.emit e

end Assembly.Filled

namespace Invocation

variable {options : Options} {uri output : String} {c : ControlFile} {url : Url} {a : Assembly}
  {files before t : Tree} {client : Client} {journal : Array Event}

open Assembly (Filled)

lemma keeps_scanSeeds {Inv : Assembly → Prop} (hkeeps : BlockSink.Keeps Inv)
    (hstarted : ∀ a path length, Inv a → Inv (a.emit (.inputStarted path length)))
    (hcomplete : ∀ a path, Inv a → Inv (a.emit (.inputComplete path))) (h : Inv a)
    (c : ControlFile) (files : Tree) (paths : List String) :
    Inv (scanSeeds c files a paths).2 := by
  induction paths generalizing a with
  | nil => exact h
  | cons path paths ih =>
    rw [scanSeeds]
    split
    · exact ih h
    split
    · exact h
    next length source _ =>
    have hscan := hkeeps.scan c (hstarted a path (some length) h) source
    generalize Scan.seed c (a.emit (.inputStarted path (some length))) source = result at hscan
    obtain ⟨_ | _, b, left⟩ := result
    · exact hscan
    · exact ih (hcomplete b path hscan)

lemma filled_scanSeeds (h : Filled output c (fun _ _ => True) a) (files : Tree)
    (paths : List String) :
    Filled output c (fun _ _ => True) (scanSeeds c files a paths).2 :=
  keeps_scanSeeds Filled.keeps_sink (fun _ _ _ h => h.emit _) (fun _ _ h => h.emit _) h c files
    paths

lemma filled_fetch (h : Filled output c (fun _ _ => True) a) (options : Options) (url : Url)
    (client : Client) : Filled output c (fun _ _ => True) (fetch options url a client).2.1 := by
  rw [fetch]
  split
  · exact h
  · have hget := Filled.keeps_receiver.partialGet h client url a.missingRanges options.credentials
      (.remoteFile a.missingRanges)
    dsimp only
    generalize client.partialGet url a.missingRanges options.credentials a
      (.remoteFile a.missingRanges) = result at hget
    obtain ⟨_ | _, b, client⟩ := result
    · exact hget
    · dsimp only
      split <;> exact hget

/-! ### Up to the output -/

/-- What an invocation comes to before it touches any file: the control file, the URL of the target,
and the path of the output. -/
def aim (options : Options) (uri : String) (files : Tree) (client : Client) :
    Except Error (ControlFile × Url × String) := do
  let location ← (ControlLocation.parse uri).mapError .config
  let c ← (readControl options location files client).1
  let (url, output) ← (destination options c.header location).mapError .config
  return (c, url, output)

lemma perform_cases (options : Options) (uri : String) (journal : Array Event) (files : Tree)
    (client : Client) : match aim options uri files client with
    | .error e => (perform options uri journal files client).result = .error e ∧
        (perform options uri journal files client).files = files
    | .ok (c, url, output) => ∃ journal' client', perform options uri journal files client =
        assemble options c url output journal' files client' := by
  unfold aim perform
  cases ControlLocation.parse uri with
  | error fault => exact ⟨rfl, rfl⟩
  | ok location =>
    dsimp only [Except.mapError, bind, Except.bind]
    generalize readControl options location files client = control
    obtain ⟨_ | c, events, client'⟩ := control
    · exact ⟨rfl, rfl⟩
    · dsimp only
      cases destination options c.header location with
      | error fault => exact ⟨rfl, rfl⟩
      | ok x => exact ⟨_, _, rfl⟩

lemma assemble_of_aim (h : aim options uri files client = .ok (c, url, output)) :
    ∃ sums, ControlFile.assemble c.header sums = .ok c ∧ 0 < c.header.blockSize := by
  obtain ⟨location, -, h⟩ := bind_ok.mp h
  obtain ⟨c', hread, h⟩ := bind_ok.mp h
  obtain ⟨⟨url', output'⟩, -, h⟩ := bind_ok.mp h
  obtain rfl : c' = c := (Prod.mk.inj (Except.ok.inj h)).1
  have hwith {source : Source}
      (hread : (ControlFile.read (.ofSource Buffered.standardCapacity source)).1 = .ok c') :
      ∃ sums, ControlFile.assemble c'.header sums = .ok c' ∧ 0 < c'.header.blockSize :=
    ControlFile.exists_assemble_of_read (Prod.ext hread rfl)
  unfold readControl at hread
  split at hread
  · split at hread
    · cases hread
    · exact hwith hread
  · split at hread
    · cases hread
    · exact hwith hread

/-! ### From there on -/

/-- How an invocation with this control file and output leaves the files. -/
structure Safe (before : Tree) (c : ControlFile) (output : String) (o : Outcome) : Prop where
  /-- Nothing is written but the output and its part file, and nothing else is new but directories
  on the way to them. -/
  changed :
    Changed [placeOf output, placeOf (Path.part output)] (directoriesTo output) before o.files
  /-- A success leaves what the header promises in the output's place, and no part file. -/
  succeeded : ∀ path, o.result = .ok path → path = output ∧
    (∃ bytes, o.files.read path = .ok bytes ∧ bytes.length = c.header.length ∧
      Sha1.hash bytes = c.header.sha1) ∧
    o.files.exists? (Path.part path) = false
  /-- A failure leaves what was in the output's place, or nothing if there was nothing; but a path
  that steps back may pass that place on its way, and a directory is made there. -/
  failed : ∀ e, o.result = .error e →
    Changed [placeOf (Path.part output)] (directoriesTo output) before o.files ∧
    (o.files.node? (placeOf output) = before.node? (placeOf output) ∨
      .up ∈ Path.components output ∧ before.node? (placeOf output) = none ∧
        o.files.node? (placeOf output) = some (.directory none))
  /-- Once the assembly has been opened, a failure leaves the part file with its full length. -/
  part : ∀ e, o.result = .error e → ∀ journal a,
    (Assembly.openAt before output c journal).1 = .ok a →
      ∃ bytes, o.files.read (Path.part output) = .ok bytes ∧ bytes.length = c.header.length

lemma Safe.of_error {o : Outcome} {e : Error} (hresult : o.result = .error e)
    (hchanged : Changed [placeOf (Path.part output)] (directoriesTo output) before o.files)
    (hpart : ∀ journal a, (Assembly.openAt before output c journal).1 = .ok a →
      ∃ bytes, o.files.read (Path.part output) = .ok bytes ∧ bytes.length = c.header.length) :
    Safe before c output o where
  changed := hchanged.mono (by simp) (.refl _)
  succeeded path hok := by
    rw [hresult] at hok
    cases hok
  failed _ _ := by
    refine ⟨hchanged, ?_⟩
    rcases hchanged (placeOf output) with hmem | heq | ⟨hmem, hnone, hdirectory⟩
    · exact absurd (List.mem_singleton.mp hmem) (Tree.placeOf_part_ne output).symm
    · exact .inl heq
    · by_cases hup : .up ∈ Path.components output
      · exact .inr ⟨hup, hnone, hdirectory⟩
      · exact absurd hmem (Tree.placeOf_not_mem_directoriesTo hup)
  part _ _ := hpart

lemma Safe.of_delivers {o : Outcome} {bytes : List UInt8} (hresult : o.result = .ok output)
    (h : Delivers before output bytes o.files) (hlen : bytes.length = c.header.length)
    (hsha : Sha1.hash bytes = c.header.sha1) : Safe before c output o where
  changed := h.changed
  succeeded path hok := by
    obtain rfl := Except.ok.inj (hresult.symm.trans hok)
    exact ⟨rfl, ⟨bytes, h.read, hlen, hsha⟩, Tree.not_exists_of_node? h.part⟩
  failed e hfailed := by
    rw [hresult] at hfailed
    cases hfailed
  part e hfailed := by
    rw [hresult] at hfailed
    cases hfailed

lemma length_of_filled (h : Filled output c (fun _ _ => True) a) :
    a.content.length = c.header.length := by
  rw [Assembly.content, Array.length_toList, h.sound.file, h.header]

lemma safe_assemble {header : Header} {sums : List BlockSum}
    (hc : ControlFile.assemble header sums = .ok c) (hb : 0 < header.blockSize)
    (hfiles : files.Rooted) (options : Options) (url : Url) (output : String)
    (journal : Array Event) (client : Client) :
    Safe files c output (assemble options c url output journal files client) := by
  rcases Assembly.openAt_cases hfiles output c with ⟨e, t, hopen, hchanged⟩ | ⟨t, hopen⟩
  · rw [assemble, hopen]
    exact .of_error rfl hchanged fun journal a hok => by
      rw [hopen] at hok
      cases hok
  -- whatever has been assembled when it fails, that is what the part file holds
  have hstop {a : Assembly} {client : Client} {e : Error}
      (h : Filled output c (fun _ _ => True) a) :
      Safe files c output ⟨.error e, a.journal, a.save t, client⟩ := by
    have hholds := Assembly.save_holds (h.path ▸ (hopen journal).2)
    rw [h.path] at hholds
    exact .of_error rfl hholds.changed fun _ _ _ => ⟨_, hholds.read, length_of_filled h⟩
  have hstart : Filled output c (fun _ _ => True) (.start output c journal) :=
    Assembly.filled_start hc hb
  have hscan := filled_scanSeeds hstart t (seeds options files output)
  rw [assemble, (hopen journal).1]
  dsimp only
  generalize scanSeeds c t (Assembly.start output c journal) (seeds options files output) =
    scanned at hscan
  obtain ⟨_ | _, a⟩ := scanned
  · exact hstop hscan
  have hfetch := filled_fetch hscan options url client
  dsimp only at hfetch ⊢
  generalize fetch options url a client = fetched at hfetch
  obtain ⟨_ | _, a', client'⟩ := fetched
  · exact hstop hfetch
  dsimp only at hfetch ⊢
  have hholds := Assembly.save_holds (hfetch.path ▸ (hopen journal).2)
  split
  · next e t' hclose =>
    rw [Assembly.close_error hclose]
    exact hstop hfetch
  · next b t' hclose =>
    obtain ⟨hpath, hsha, hdelivers⟩ := Assembly.close_ok hholds hclose
    rw [hfetch.path] at hpath hdelivers
    rw [hfetch.header] at hsha
    exact .of_delivers (congrArg Except.ok hpath) hdelivers (length_of_filled hfetch) hsha

/-- **An invocation is safe for the files.** One that comes to no output fails and leaves all as it
was. Any other writes nothing but the output and its part file: if it succeeds, the output is as
long as the header says and has its digest, and there is no part file; if it fails, what is in the
output's place is as it was before, a directory on the way of the path apart, and from the opening
on there is a part file of full length. -/
theorem run_is_safe (options : Options) (uri : String) (client : Client) (hfiles : files.Rooted) :
    match aim options uri files client with
    | .error e => (run options uri files client).result = .error e ∧
        (run options uri files client).files = files
    | .ok (c, _, output) => Safe files c output (run options uri files client) := by
  have hperform := perform_cases options uri #[.started uri] files client
  cases haim : aim options uri files client with
  | error e =>
    rw [haim] at hperform
    exact hperform
  | ok x =>
    obtain ⟨c, url, output⟩ := x
    rw [haim] at hperform
    obtain ⟨journal, client', hperform⟩ := hperform
    obtain ⟨sums, hc, hb⟩ := assemble_of_aim haim
    rw [run, hperform]
    obtain ⟨hchanged, hsucceeded, hfailed, hpart⟩ :=
      safe_assemble hc hb hfiles options url output journal client'
    exact ⟨hchanged, hsucceeded, hfailed, hpart⟩

/-- A control file for a target of this length, with the digest of no bytes. -/
def controlFor (length : String) (table : List UInt8) : List UInt8 :=
  (["zsync: 0.6.2", "Length: " ++ length, "Blocksize: 2",
    "SHA-1: da39a3ee5e6b4b0d3255bfef95601890afd80709", "URL: http://example.org/target",
    ""].flatMap fun line => Utf8.encode line ++ [10]) ++ table

def olderTree : Tree :=
  ⟨[(["target.zsync"], .file (controlFor "0" []) none), (["target"], .file [1, 2] none)]⟩

def plainOptions : Options := ⟨[], none, none, [], .standard⟩

def offline : Client := ⟨"zsync", [], ⟨fun _ => false, fun _ => "unreachable", [], []⟩⟩

theorem replaces_an_older_version : ∃ c url, olderTree.Rooted ∧
    aim plainOptions "target.zsync" olderTree offline = .ok (c, url, "target") ∧
    (run plainOptions "target.zsync" olderTree offline).result = .ok "target" ∧
    Safe olderTree c "target" (run plainOptions "target.zsync" olderTree offline) := by
  have hrooted : olderTree.Rooted := .of_entries (by decide +kernel)
  have hresult : (run plainOptions "target.zsync" olderTree offline).result = .ok "target" := by
    decide +kernel
  have hsafe := run_is_safe plainOptions "target.zsync" offline hrooted
  cases haim : aim plainOptions "target.zsync" olderTree offline with
  | error e =>
    rw [haim] at hsafe
    cases hsafe.1.symm.trans hresult
  | ok x =>
    obtain ⟨c, url, output⟩ := x
    rw [haim] at hsafe
    obtain rfl : "target" = output := (hsafe.succeeded "target" hresult).1
    exact ⟨c, url, hrooted, rfl, hresult, hsafe⟩

def shortTree : Tree := ⟨[(["target.zsync"], .file (controlFor "3" (List.replicate 40 0)) none)]⟩

/-- The output's path steps back over its own name, which is given as a seed too. -/
def steppingBack : Options := { plainOptions with output := some "a/../a", inputs := ["a"] }

/-- The seed is the directory that opening the output has made in the output's place: it cannot be
read, and it stays. -/
theorem leaves_a_directory_in_its_place :
    (aim steppingBack "target.zsync" shortTree offline).map (·.2.2) = .ok "a/../a" ∧
    (run steppingBack "target.zsync" shortTree offline).result =
      .error (.io .inputFileRead .isADirectory) ∧
    shortTree.node? (placeOf "a/../a") = none ∧
    (run steppingBack "target.zsync" shortTree offline).files.node? (placeOf "a/../a") =
      some (.directory none) := by
  decide +kernel

/-- Where nothing can be fetched, the part file is all that is new. -/
example : shortTree.changes (run plainOptions "target.zsync" shortTree offline).files =
    [.write "target.part" [0, 0, 0]] := by
  decide +kernel

end Invocation

end SeedSync
