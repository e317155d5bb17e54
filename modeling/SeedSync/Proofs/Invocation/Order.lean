import Mathlib
import SeedSync.Proofs.Assembly.Journal
import SeedSync.Proofs.Invocation.Panic

/-!
The order of what an invocation reports. Each part of it has a course that it takes if all goes
well; the course of the whole is made of these. A failure leaves the course behind all that was
done before the step that failed, and with no download open.
-/

namespace SeedSync

open SeedSync.Event (milestones milestones_append)

def Event.isTerminal : Event → Bool
  | .failed _ | .completed _ => true
  | _ => false

lemma Client.get_cases (c : Client) (url : Url) (credentials : CredentialMap) (d : Download) :
    (∃ e c', c.get url credentials d = (.error e, [(d.initiating url.text).1], c')) ∨
      ∃ r c', c.get url credentials d = (.ok r, [(d.initiating url.text).1,
        (d.initiating url.text).2.started url.text r.length], c') := by
  rw [get]
  dsimp only
  generalize c.send url none credentials .controlFileDownload = sent
  obtain ⟨e | r, c'⟩ := sent
  · exact .inl ⟨e, c', rfl⟩
  · dsimp only
    split
    · exact .inr ⟨r, c', rfl⟩
    · exact .inl ⟨_, c', rfl⟩

namespace Invocation

/-! ### Courses -/

/-- A request for what the seeds did not have, and how it goes. -/
structure Fetch where
  url : String
  ranges : List ByteRange
  /-- If there is an answer: the length that it gives, and the ranges that come. -/
  answer : Option (Option ℕ × List ByteRange)

/-- A request is reported before all that comes of it, and its end after that. -/
def Fetch.events (f : Fetch) : List Event :=
  .remoteInitiated f.url f.ranges ::
    (f.answer.elim [] fun (length, received) =>
      .remoteStarted f.url length :: received.map .rangeReceived) ++ [.remoteComplete]

/-- The download of a control file ends when all of it has been read. -/
def controlEvents (location : ControlLocation) (length : Option ℕ) : List Event :=
  match location with
  | .remote url =>
    [.controlDownloadInitiated url.text, .controlDownloadStarted url.text length,
      .controlReadStarted url.text none, .controlDownloadComplete, .controlReadComplete]
  | .file path => [.controlReadStarted path length, .controlReadComplete]

def seedEvents (scanned : List (String × ℕ)) : List Event :=
  scanned.flatMap fun (path, length) => [.inputStarted path (some length), .inputComplete path]

/-- What an invocation comes by that meets no failure. -/
structure Course where
  uri : String
  location : ControlLocation
  /-- The length of the control file, if it is known. -/
  controlLength : Option ℕ
  output : String
  /-- The length of the target. -/
  length : ℕ
  /-- The seeds that are scanned, with their lengths. -/
  scanned : List (String × ℕ)
  fetch : Option Fetch

namespace Course

def toSeeds (k : Course) : List Event :=
  .started k.uri :: controlEvents k.location k.controlLength ++
    .outputStarted k.output k.length :: seedEvents k.scanned

def toFetch (k : Course) : List Event := k.toSeeds ++ k.fetch.elim [] Fetch.events

def events (k : Course) : List Event := k.toFetch ++ [.outputComplete k.output]

/-- The course of an invocation up to the last seed, as far as it gets. -/
structure Leads (k : Course) (options : Options) (uri : String) (files : Tree) (client : Client) :
    Prop where
  start : k.uri = uri
  location : ∀ location, ControlLocation.parse uri = .ok location → k.location = location
  /-- The seeds are scanned in order. -/
  target : ∀ c url output, aim options uri files client = .ok (c, url, output) →
    k.output = output ∧ k.length = c.header.length ∧
    k.scanned.map Prod.fst <+: seeds options files output
  /-- One is left out only if nothing is missing any more. -/
  scanned : ∀ m, midway options uri #[.started uri] files client = .ok m →
    m.assembly.isComplete = false → k.scanned.map Prod.fst = seeds options files k.output

end Course

/-! ### Failures -/

/-- How a control file fails, with what is reported of it by then: no answer comes, or what comes is
not a control file; the file cannot be opened, or what it has is none. -/
inductive ControlFails (options : Options) (files : Tree) (client : Client) :
    ControlLocation → Error → List Event → Prop
  | unanswered {url : Url} {e : Error} {events : List Event} {client' : Client}
      (hget : client.get url options.credentials .controlFile = (.error e, events, client')) :
      ControlFails options files client (.remote url) e [.controlDownloadInitiated url.text]
  | answered {url : Url} {response : Response} {e : Error} {events : List Event}
      {client' : Client}
      (hget : client.get url options.credentials .controlFile = (.ok response, events, client'))
      (hread : (ControlFile.read (.ofSource Buffered.standardCapacity response.body)).1 =
        .error e) :
      ControlFails options files client (.remote url) e
        [.controlDownloadInitiated url.text, .controlDownloadStarted url.text response.length,
          .controlReadStarted url.text none, .controlDownloadComplete]
  | unopened {path : String} {cause : IoError}
      (hopen : files.openForReading path = .error cause) :
      ControlFails options files client (.file path) (.io .controlFileRead cause) []
  | opened {path : String} {length : ℕ} {source : Source} {e : Error}
      (hopen : files.openForReading path = .ok (length, source))
      (hread : (ControlFile.read (.ofSource Buffered.standardCapacity source)).1 = .error e) :
      ControlFails options files client (.file path) e [.controlReadStarted path (some length)]

/-- How a seed fails: it cannot be opened, or its scan fails once its start is reported. -/
inductive SeedFails (c : ControlFile) (files : Tree) (a : Assembly) (path : String) :
    Error → List Event → Prop
  | unopened {cause : IoError} (hopen : (a.save files).openForReading path = .error cause) :
      SeedFails c files a path (.io .inputFileRead cause) []
  | opened {length : ℕ} {source : Source} {e : Error}
      (hopen : (a.save files).openForReading path = .ok (length, source))
      (hscan : (Scan.seed c (a.emit (.inputStarted path (some length))) source).1 = .error e) :
      SeedFails c files a path e [.inputStarted path (some length)]

namespace Course

/-- Where a failure up to the last seed leaves a course: behind all steps before the one that
fails, and with what this one reports by then. -/
inductive Stops (k : Course) (options : Options) (uri : String) (files : Tree) (client : Client) :
    Error → List Event → Prop
  | unparsed {f : ConfigFault} (hparse : ControlLocation.parse uri = .error f) :
      Stops k options uri files client (.config f) [.started uri]
  | unread {location : ControlLocation} {e : Error} {es : List Event}
      (hparse : ControlLocation.parse uri = .ok location)
      (hfails : ControlFails options files client location e es) :
      Stops k options uri files client e (.started uri :: es)
  | aimless {location : ControlLocation} {c : ControlFile} {events : List Event}
      {client' : Client} {f : ConfigFault} (hparse : ControlLocation.parse uri = .ok location)
      (hread : readControl options location files client = (.ok c, events, client'))
      (hnone : destination options c.header location = .error f) :
      Stops k options uri files client (.config f)
        (.started uri :: controlEvents location k.controlLength)
  | unopened {c : ControlFile} {url : Url} {output : String} {journal : Array Event} {t : Tree}
      {e : Error} (haim : aim options uri files client = .ok (c, url, output))
      (hopen : Assembly.openAt files output c journal = (.error e, t)) :
      Stops k options uri files client e (.started uri :: controlEvents k.location k.controlLength)
  /-- The seeds before this one are done. -/
  | unscanned {c : ControlFile} {url : Url} {output path : String} {rest : List String}
      {journal : Array Event} {t : Tree} {a b : Assembly} {e : Error} {es : List Event}
      (haim : aim options uri files client = .ok (c, url, output))
      (hopen : Assembly.openAt files output c journal = (.ok a, t))
      (hseeds : seeds options files output = k.scanned.map Prod.fst ++ path :: rest)
      (hscanned : scanSeeds c t a (k.scanned.map Prod.fst) = (.ok (), b))
      (hfails : SeedFails c t b path e es) :
      Stops k options uri files client e (k.toSeeds ++ es)

end Course

variable {options : Options} {uri output : String} {c : ControlFile} {url : Url} {a : Assembly}
  {files t : Tree} {client : Client} {journal : Array Event} {m : Midway}

/-! ### The control file -/

lemma forall_mem_readWith (P : Event → Prop) (report : ℕ → List Event) (source : Source)
    (hreport : ∀ n, ∀ e ∈ report n, P e) : ∀ e ∈ (readWith report source).2, P e := by
  intro e he
  obtain ⟨n, -, he⟩ := List.mem_flatMap.mp he
  exact hreport n e he

lemma milestones_readWith {report : ℕ → List Event}
    (hreport : ∀ n, ∀ e ∈ report n, e.isCounter = true) (source : Source) :
    milestones (readWith report source).2 = [] :=
  Event.milestones_eq_nil (forall_mem_readWith _ report source hreport)

lemma milestones_readDownload (source : Source) :
    milestones (readWith (fun n => [.bytesDownloaded n, .bytesRead n]) source).2 = [] :=
  milestones_readWith (by simp [Event.isCounter]) source

lemma milestones_readFile (source : Source) :
    milestones (readWith (fun n => [.bytesRead n]) source).2 = [] :=
  milestones_readWith (by simp [Event.isCounter]) source

lemma exists_milestones_readControl {location : ControlLocation} {events : List Event}
    {client' : Client} (h : readControl options location files client = (.ok c, events, client')) :
    ∃ length, milestones events = controlEvents location length := by
  cases location with
  | remote url =>
    rw [readControl] at h
    rcases client.get_cases url options.credentials .controlFile with
      ⟨e, client'', hget⟩ | ⟨response, client'', hget⟩
    · rw [hget] at h
      cases h
    · rw [hget] at h
      obtain ⟨hread, rfl, -⟩ := by simpa only [Prod.mk.injEq] using h
      refine ⟨response.length, ?_⟩
      rw [hread]
      simp only [milestones_append, milestones_readDownload]
      rfl
  | file path =>
    rw [readControl] at h
    split at h
    · cases h
    · next length source _ =>
      obtain ⟨hread, rfl, -⟩ := by simpa only [Prod.mk.injEq] using h
      refine ⟨some length, ?_⟩
      rw [hread]
      simp only [milestones_append, milestones_readFile]
      rfl

lemma controlFails_of_error {location : ControlLocation} {e : Error} {events : List Event}
    {client' : Client}
    (h : readControl options location files client = (.error e, events, client')) :
    ControlFails options files client location e (milestones events) := by
  cases location with
  | remote url =>
    rw [readControl] at h
    rcases client.get_cases url options.credentials .controlFile with
      ⟨e', client'', hget⟩ | ⟨response, client'', hget⟩
    · rw [hget] at h
      obtain ⟨he, rfl, -⟩ := by simpa only [Prod.mk.injEq] using h
      obtain rfl := Except.error.inj he
      exact .unanswered hget
    · rw [hget] at h
      obtain ⟨hread, rfl, -⟩ := by simpa only [Prod.mk.injEq] using h
      rw [hread]
      simp only [milestones_append, milestones_readDownload]
      exact .answered hget hread
  | file path =>
    rw [readControl] at h
    split at h
    · next cause hopen =>
      obtain ⟨he, rfl, -⟩ := by simpa only [Prod.mk.injEq] using h
      obtain rfl := Except.error.inj he
      exact .unopened hopen
    · next length source hopen =>
      obtain ⟨hread, rfl, -⟩ := by simpa only [Prod.mk.injEq] using h
      rw [hread]
      simp only [milestones_append, milestones_readFile]
      exact .opened hopen hread

/-! ### Seeds -/

lemma milestones_scan (c : ControlFile) (a : Assembly) (source : Source) :
    (Scan.seed c a source).2.1.milestones = a.milestones :=
  ((Assembly.keeps_grown a.journal.toList).scan c (.refl _ a) source).milestones_eq

lemma scanSeeds_of_isComplete (h : a.isComplete = true) (c : ControlFile) (files : Tree)
    (paths : List String) : scanSeeds c files a paths = (.ok (), a) := by
  induction paths with
  | nil => rfl
  | cons path paths ih => rw [scanSeeds, if_pos h, ih]

lemma exists_milestones_scanSeeds {b : Assembly} {paths : List String}
    (h : scanSeeds c files a paths = (.ok (), b)) : ∃ scanned,
      scanned.map Prod.fst <+: paths ∧ b.milestones = a.milestones ++ seedEvents scanned ∧
      (b.isComplete = false → scanned.map Prod.fst = paths) := by
  induction paths generalizing a with
  | nil =>
    obtain rfl := (Prod.mk.inj h).2
    exact ⟨[], List.prefix_rfl, (List.append_nil _).symm, fun _ => rfl⟩
  | cons path paths ih =>
    rw [scanSeeds] at h
    split at h
    · next hcomplete =>
      rw [scanSeeds_of_isComplete hcomplete c files paths] at h
      obtain rfl := (Prod.mk.inj h).2
      refine ⟨[], List.nil_prefix, (List.append_nil _).symm, fun hmissing => ?_⟩
      rw [hcomplete] at hmissing
      cases hmissing
    split at h
    · cases h
    next length source _ =>
    split at h
    · cases h
    · next d left hscan =>
      have hd := milestones_scan c (a.emit (.inputStarted path (some length))) source
      rw [hscan] at hd
      obtain ⟨scanned, hpaths, hmilestones, hall⟩ := ih h
      refine ⟨(path, length) :: scanned, (List.prefix_cons_inj path).mpr hpaths, ?_,
        fun hmissing => congrArg (path :: ·) (hall hmissing)⟩
      rw [hmilestones, Assembly.milestones_emit, hd, Assembly.milestones_emit, List.append_assoc,
        List.append_assoc]
      rfl

lemma exists_seedFails {b : Assembly} {e : Error} {paths : List String}
    (h : scanSeeds c files a paths = (.error e, b)) : ∃ scanned path rest d es,
      paths = scanned.map Prod.fst ++ path :: rest ∧
      scanSeeds c files a (scanned.map Prod.fst) = (.ok (), d) ∧
      SeedFails c files d path e es ∧ b.milestones = a.milestones ++ seedEvents scanned ++ es := by
  induction paths generalizing a with
  | nil => cases h
  | cons path paths ih =>
    rw [scanSeeds] at h
    split at h
    · next hcomplete =>
      rw [scanSeeds_of_isComplete hcomplete c files paths] at h
      cases h
    next hmissing =>
    split at h
    · next cause hopen =>
      obtain ⟨he, rfl⟩ := Prod.mk.inj h
      obtain rfl := Except.error.inj he
      exact ⟨[], path, paths, a, [], rfl, rfl, .unopened hopen,
        by rw [List.append_nil, seedEvents, List.flatMap_nil, List.append_nil]⟩
    next length source hopen =>
    -- whatever comes of the scan, it reports nothing but counters
    have hscan := milestones_scan c (a.emit (.inputStarted path (some length))) source
    split at h
    · next e' d left heq =>
      rw [heq] at hscan
      obtain ⟨he, rfl⟩ := Prod.mk.inj h
      obtain rfl := Except.error.inj he
      refine ⟨[], path, paths, a, _, rfl, rfl, .opened hopen (congrArg Prod.fst heq), ?_⟩
      rw [hscan, Assembly.milestones_emit, seedEvents, List.flatMap_nil, List.append_nil]
      rfl
    · next d left heq =>
      rw [heq] at hscan
      obtain ⟨scanned, path', rest, d', es, hpaths, hdone, hfails, hmilestones⟩ := ih h
      refine ⟨(path, length) :: scanned, path', rest, d', es, congrArg (path :: ·) hpaths, ?_,
        hfails, ?_⟩
      · rw [List.map_cons, scanSeeds, if_neg hmissing]
        simp only [hopen, heq]
        exact hdone
      · rw [hmilestones, Assembly.milestones_emit, hscan, Assembly.milestones_emit,
          List.append_assoc a.milestones, List.append_assoc a.milestones]
        rfl

/-! ### Up to the last seed -/

lemma milestones_start (output : String) (c : ControlFile) (journal : Array Event) :
    (Assembly.start output c journal).milestones =
      milestones journal.toList ++ [.outputStarted output c.header.length] := by
  simp [Assembly.milestones, Assembly.start, milestones, Event.isCounter]

lemma Course.Leads.of_error {k : Course} {e : Error} {o : Outcome} (hstart : k.uri = uri)
    (hlocation : ∀ location, ControlLocation.parse uri = .ok location → k.location = location)
    (haim : aim options uri files client = .error e)
    (hmidway : midway options uri #[.started uri] files client = .error o) :
    k.Leads options uri files client where
  start := hstart
  location := hlocation
  target c url output h := by
    rw [haim] at h
    cases h
  scanned m h := by
    rw [hmidway] at h
    cases h

lemma milestones_started (uri : String) (events : List Event) :
    milestones (#[Event.started uri] ++ events).toList = .started uri :: milestones events := by
  rw [Array.toList_appendList, milestones_append]
  rfl

inductive Course.Tells (k : Course) (options : Options) (uri : String) (files : Tree)
    (client : Client) : Except Outcome Midway → Prop
  | stopped {o : Outcome} {e : Error} (hresult : o.result = .error e)
      (hstops : k.Stops options uri files client e (milestones o.events.toList)) :
      Tells k options uri files client (.error o)
  | through {m : Midway} (hmilestones : m.assembly.milestones = k.toSeeds) :
      Tells k options uri files client (.ok m)

lemma exists_leads_gather {location : ControlLocation} {length : Option ℕ} {journal : Array Event}
    {client' : Client} (hlocation : ∀ l, ControlLocation.parse uri = .ok l → location = l)
    (haim : aim options uri files client = .ok (c, url, output))
    (hmidway : midway options uri #[.started uri] files client =
      gather options c url output journal files client')
    (hjournal : milestones journal.toList = .started uri :: controlEvents location length) :
    ∃ k : Course, k.Leads options uri files client ∧
      k.Tells options uri files client (gather options c url output journal files client') := by
  -- what the course has of its seeds is all that is left open
  have hleads (scanned : List (String × ℕ))
      (hpaths : scanned.map Prod.fst <+: seeds options files output)
      (hall : ∀ m, gather options c url output journal files client' = .ok m →
        m.assembly.isComplete = false → scanned.map Prod.fst = seeds options files output) :
      Course.Leads ⟨uri, location, length, output, c.header.length, scanned, none⟩ options uri files
        client := by
    refine ⟨rfl, hlocation, fun c' url' output' h => ?_, fun m h => hall m (hmidway ▸ h)⟩
    rw [haim] at h
    cases h
    exact ⟨rfl, rfl, hpaths⟩
  rw [gather] at hleads ⊢
  generalize hopen : Assembly.openAt files output c journal = opened at hleads ⊢
  obtain ⟨e | a, t⟩ := opened
  · refine ⟨_, hleads [] List.nil_prefix fun _ h => (by cases h), .stopped rfl ?_⟩
    change Course.Stops _ _ _ _ _ e (milestones journal.toList)
    rw [hjournal]
    exact .unopened haim hopen
  have hstart : a.milestones = .started uri ::
      controlEvents location length ++ [.outputStarted output c.header.length] := by
    rw [Assembly.eq_start_of_openAt (congrArg Prod.fst hopen), milestones_start, hjournal]
  dsimp only at hleads ⊢
  generalize hscan : scanSeeds c t a (seeds options files output) = scanned at hleads ⊢
  obtain ⟨e | _, b⟩ := scanned
  · obtain ⟨scanned, path, rest, d, es, hpaths, hdone, hfails, hmilestones⟩ :=
      exists_seedFails hscan
    refine ⟨_, hleads scanned (hpaths ▸ List.prefix_append _ _) fun _ h => (by cases h),
      .stopped rfl ?_⟩
    change Course.Stops _ _ _ _ _ e b.milestones
    rw [hmilestones, hstart, List.append_assoc (_ :: _)]
    exact .unscanned haim hopen hpaths hdone hfails
  · obtain ⟨scanned, hpaths, hmilestones, hall⟩ := exists_milestones_scanSeeds hscan
    refine ⟨_, hleads scanned hpaths fun m h => ?_, .through ?_⟩
    · obtain rfl := Except.ok.inj h
      exact hall
    · change b.milestones = _
      rw [hmilestones, hstart, List.append_assoc]
      rfl

/-- An invocation has a course up to the last seed. -/
lemma exists_leads (options : Options) (uri : String) (files : Tree) (client : Client) :
    ∃ k : Course, k.Leads options uri files client ∧
      k.Tells options uri files client (midway options uri #[.started uri] files client) := by
  have hlocation {l location : ControlLocation} (hl : ControlLocation.parse uri = .ok l)
      (h : ControlLocation.parse uri = .ok location) : l = location :=
    Except.ok.inj (hl.symm.trans h)
  have happroach := approach options uri #[.started uri] files client
  generalize haim : aim options uri files client = target at happroach
  generalize hmidway : midway options uri #[.started uri] files client = middle at happroach ⊢
  cases happroach with
  | unparsed hparse =>
    -- what the course has beyond its first event is of no account here
    refine ⟨⟨uri, .file uri, none, uri, 0, [], none⟩,
      .of_error rfl (fun _ h => ?_) haim hmidway, .stopped rfl (.unparsed hparse)⟩
    rw [hparse] at h
    cases h
  | @unread location e events client' hparse hread =>
    refine ⟨⟨uri, location, none, uri, 0, [], none⟩,
      .of_error rfl (fun _ => hlocation hparse) haim hmidway, .stopped rfl ?_⟩
    rw [milestones_started]
    exact .unread hparse (controlFails_of_error hread)
  | @aimless location c events client' f hparse hread hnone =>
    obtain ⟨length, hcontrol⟩ := exists_milestones_readControl hread
    refine ⟨⟨uri, location, length, uri, 0, [], none⟩,
      .of_error rfl (fun _ => hlocation hparse) haim hmidway, .stopped rfl ?_⟩
    rw [milestones_started, hcontrol]
    exact .aimless hparse hread hnone
  | @aimed location c events client' url output hparse hread =>
    obtain ⟨length, hcontrol⟩ := exists_milestones_readControl hread
    exact exists_leads_gather (fun _ => hlocation hparse) haim hmidway
      (by rw [milestones_started, hcontrol])

/-! ### What is missing -/

lemma tracks_arrivals (es : List Event) :
    RangeReceiver.Tracks fun _ => Assembly.Grown Event.Arrives es where
  receive _ r body _ h := h.receive r body
  stop _ _ _ := id

lemma eq_emit_of_close {b : Assembly} (h : a.close t = (.ok b, files)) :
    b = a.emit (.outputComplete a.path) := by
  rw [Assembly.close] at h
  split at h
  · cases h
  split at h
  · cases h
  · exact (Except.ok.inj (Prod.mk.inj h).1).symm

namespace Course

variable {k : Course}

lemma of_mem_controlEvents (location : ControlLocation) (length : Option ℕ) :
    ∀ e ∈ controlEvents location length, e.isTerminal = false ∧ e.range? = none := by
  cases location <;> simp [controlEvents, Event.isTerminal, Event.range?]

lemma of_mem_toSeeds (k : Course) : ∀ e ∈ k.toSeeds, e.isTerminal = false ∧ e.range? = none := by
  have hseeds : ∀ e ∈ seedEvents k.scanned, e.isTerminal = false ∧ e.range? = none := by
    intro e he
    obtain ⟨⟨path, length⟩, -, he⟩ := List.mem_flatMap.mp he
    rcases List.mem_pair.mp he with rfl | rfl <;> exact ⟨rfl, rfl⟩
  intro e he
  rcases List.mem_append.mp he with he | he
  · rcases List.mem_cons.mp he with rfl | he
    · exact ⟨rfl, rfl⟩
    · exact of_mem_controlEvents k.location k.controlLength e he
  · rcases List.mem_cons.mp he with rfl | he
    · exact ⟨rfl, rfl⟩
    · exact hseeds e he

end Course

/-- The request comes to an end also where no server can be reached. -/
example :
    let files : Tree := ⟨[(["target.zsync"], .file (controlFor "3" (List.replicate 40 0)) none)]⟩
    milestones (run plainOptions "target.zsync" files offline).events.toList =
      [.started "target.zsync", .controlReadStarted "target.zsync" (some 156), .controlReadComplete,
        .outputStarted "target" 3, .remoteInitiated "http://example.org/target" [⟨0, 2⟩],
        .remoteComplete, .failed "I/O error while downloading remote file: unreachable"] := by
  decide +kernel

end Invocation

end SeedSync
