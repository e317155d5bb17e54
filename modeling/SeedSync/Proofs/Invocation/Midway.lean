import Mathlib
import SeedSync.Proofs.Invocation.Files

/-!
An invocation in two parts: up to where the last seed is done, and from there to its end.
-/

namespace SeedSync.Invocation

/-- What there is when the last seed is done. -/
structure Midway where
  control : ControlFile
  url : Url
  assembly : Assembly
  files : Tree
  client : Client

/-- From the opening of the output to the last seed, unless the invocation ends before it. -/
def gather (options : Options) (c : ControlFile) (url : Url) (output : String)
    (journal : Array Event) (files : Tree) (client : Client) : Except Outcome Midway :=
  match Assembly.openAt files output c journal with
  | (.error e, t) => .error ⟨.error e, journal, t, client⟩
  | (.ok a, t) =>
    match scanSeeds c t a (seeds options files output) with
    | (.error e, a) => .error ⟨.error e, a.journal, a.save t, client⟩
    | (.ok (), a) => .ok ⟨c, url, a, t, client⟩

/-- From the start to the last seed, unless the invocation ends before it. -/
def midway (options : Options) (uri : String) (journal : Array Event) (files : Tree)
    (client : Client) : Except Outcome Midway :=
  match ControlLocation.parse uri with
  | .error f => .error ⟨.error (.config f), journal, files, client⟩
  | .ok location =>
    match readControl options location files client with
    | (.error e, events, client) => .error ⟨.error e, journal ++ events, files, client⟩
    | (.ok c, events, client) =>
      match destination options c.header location with
      | .error f => .error ⟨.error (.config f), journal ++ events, files, client⟩
      | .ok (url, output) => gather options c url output (journal ++ events) files client

def finish (options : Options) (m : Midway) : Outcome :=
  match fetch options m.url m.assembly m.client with
  | (.error e, a, client) => ⟨.error e, a.journal, a.save m.files, client⟩
  | (.ok (), a, client) =>
    match a.close (a.save m.files) with
    | (.error e, t) => ⟨.error e, a.journal, t, client⟩
    | (.ok a, t) => ⟨.ok a.path, a.journal, t, client⟩

variable {options : Options} {uri output : String} {c : ControlFile} {url : Url} {a : Assembly}
  {files t : Tree} {client : Client} {journal : Array Event} {m : Midway} {o : Outcome}

lemma assemble_eq (options : Options) (c : ControlFile) (url : Url) (output : String)
    (journal : Array Event) (files : Tree) (client : Client) :
    assemble options c url output journal files client =
      match gather options c url output journal files client with
      | .error o => o
      | .ok m => finish options m := by
  rw [assemble, gather]
  generalize Assembly.openAt files output c journal = opened
  obtain ⟨e | a, t⟩ := opened
  · rfl
  dsimp only
  generalize scanSeeds c t a (seeds options files output) = scanned
  obtain ⟨e | _, a⟩ := scanned <;> rfl

/-- **The two parts make up the whole.** -/
lemma perform_eq (options : Options) (uri : String) (journal : Array Event) (files : Tree)
    (client : Client) : perform options uri journal files client =
      match midway options uri journal files client with
      | .error o => o
      | .ok m => finish options m := by
  rw [perform, midway]
  cases ControlLocation.parse uri with
  | error f => rfl
  | ok location =>
    dsimp only
    generalize readControl options location files client = control
    obtain ⟨e | c, events, client'⟩ := control
    · rfl
    dsimp only
    cases destination options c.header location with
    | error f => rfl
    | ok x =>
      obtain ⟨url, output⟩ := x
      exact assemble_eq options c url output (journal ++ events) files client'

/-! ### Up to the opening of the output -/

/-- How an invocation comes to the opening of the output, or to an end before that. -/
inductive Approach (options : Options) (uri : String) (journal : Array Event) (files : Tree)
    (client : Client) : Except Error (ControlFile × Url × String) → Except Outcome Midway → Prop
  | unparsed {f : ConfigFault} (hparse : ControlLocation.parse uri = .error f) :
      Approach options uri journal files client (.error (.config f))
        (.error ⟨.error (.config f), journal, files, client⟩)
  | unread {location : ControlLocation} {e : Error} {events : List Event} {client' : Client}
      (hparse : ControlLocation.parse uri = .ok location)
      (hread : readControl options location files client = (.error e, events, client')) :
      Approach options uri journal files client (.error e)
        (.error ⟨.error e, journal ++ events, files, client'⟩)
  | aimless {location : ControlLocation} {c : ControlFile} {events : List Event}
      {client' : Client} {f : ConfigFault} (hparse : ControlLocation.parse uri = .ok location)
      (hread : readControl options location files client = (.ok c, events, client'))
      (hnone : destination options c.header location = .error f) :
      Approach options uri journal files client (.error (.config f))
        (.error ⟨.error (.config f), journal ++ events, files, client'⟩)
  | aimed {location : ControlLocation} {c : ControlFile} {events : List Event}
      {client' : Client} (url : Url) (output : String)
      (hparse : ControlLocation.parse uri = .ok location)
      (hread : readControl options location files client = (.ok c, events, client')) :
      Approach options uri journal files client (.ok (c, url, output))
        (gather options c url output (journal ++ events) files client')

lemma approach (options : Options) (uri : String) (journal : Array Event) (files : Tree)
    (client : Client) : Approach options uri journal files client (aim options uri files client)
      (midway options uri journal files client) := by
  rw [aim, midway]
  cases hparse : ControlLocation.parse uri with
  | error f => exact .unparsed hparse
  | ok location =>
    dsimp only [Except.mapError, bind, Except.bind]
    generalize hread : readControl options location files client = control
    obtain ⟨e | c, events, client'⟩ := control
    · exact .unread hparse hread
    dsimp only
    cases hdestination : destination options c.header location with
    | error f => exact .aimless hparse hread hdestination
    | ok x => exact .aimed x.1 x.2 hparse hread

/-! ### What there is midway -/

lemma gather_ok (h : gather options c url output journal files client = .ok m) :
    ∃ a, (Assembly.openAt files output c journal).1 = .ok a ∧
      scanSeeds c m.files a (seeds options files output) = (.ok (), m.assembly) ∧
      m.control = c ∧ m.url = url := by
  rw [gather] at h
  generalize Assembly.openAt files output c journal = opened at h ⊢
  obtain ⟨e | a, t⟩ := opened
  · cases h
  dsimp only at h
  generalize hscan : scanSeeds c t a (seeds options files output) = scanned at h
  obtain ⟨e | _, b⟩ := scanned
  · cases h
  · obtain rfl := Except.ok.inj h
    exact ⟨a, rfl, hscan, rfl, rfl⟩

lemma midway_ok (h : midway options uri journal files client = .ok m) :
    ∃ location events client' output,
      readControl options location files client = (.ok m.control, events, client') ∧
      aim options uri files client = .ok (m.control, m.url, output) ∧
      gather options m.control m.url output (journal ++ events) files client' = .ok m := by
  have happroach := approach options uri journal files client
  generalize aim options uri files client = target at happroach ⊢
  rw [h] at happroach
  generalize hm : Except.ok m = middle at happroach
  cases happroach with
  -- all other ways end before the output is opened
  | unparsed | unread | aimless => cases hm
  | aimed url output hparse hread =>
    obtain ⟨a, -, -, rfl, rfl⟩ := gather_ok hm.symm
    exact ⟨_, _, _, output, hread, rfl, rfl⟩

lemma filled_midway (h : midway options uri journal files client = .ok m) : ∃ output,
    aim options uri files client = .ok (m.control, m.url, output) ∧
      Assembly.Filled output m.control (fun _ _ => True) m.assembly := by
  obtain ⟨location, events, client', output, -, haim, hgather⟩ := midway_ok h
  obtain ⟨sums, hc, hb⟩ := assemble_of_aim haim
  obtain ⟨a, hopen, hscan, -, -⟩ := gather_ok hgather
  obtain rfl := Assembly.eq_start_of_openAt hopen
  have hstart : Assembly.Filled output m.control (fun _ _ => True)
      (.start output m.control (journal ++ events)) := Assembly.filled_start hc hb
  have hscanned := filled_scanSeeds hstart m.files (seeds options files output)
  rw [hscan] at hscanned
  exact ⟨output, haim, hscanned⟩

end SeedSync.Invocation
