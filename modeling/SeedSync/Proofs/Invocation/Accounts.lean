import Mathlib
import SeedSync.Proofs.Assembly.Accounts
import SeedSync.Proofs.Event.Stats
import SeedSync.Proofs.Invocation.Order
import SeedSync.Proofs.Transfer.Responses

/-!
The statistics of an invocation that succeeds: every byte of the target has been written once, and
has come either from a seed or from the net.
-/

namespace SeedSync

open SeedSync.Stats (Gathering)

/-! ### The assembly on its way -/

namespace Assembly

/-- What is complete has been reported as written, and nothing else. -/
structure Balanced (a : Assembly) : Prop where
  sound : Sound a
  written : a.written = a.completeBytes

variable {a b : Assembly} {c : ControlFile}

lemma Balanced.emit (h : Balanced a) {e : Event} (he : e.written = 0) : Balanced (a.emit e) :=
  ⟨h.sound.emit e, by rw [written_emit, he, Nat.add_zero, h.written, completeBytes_emit]⟩

lemma keeps_balanced : BlockSink.Keeps Balanced where
  writeBlock a i w offset h := by
    have hbooks := written_writeBlock h.sound i w offset
    rw [h.written] at hbooks
    exact ⟨(extends_writeBlock h.sound i w offset).sound, by
      change (a.writeBlock i w offset).2.written = (a.writeBlock i w offset).2.completeBytes
      omega⟩
  noteRead a n h := h.emit rfl

lemma tracks_balanced : RangeReceiver.Tracks fun r a => r = .ok () → Balanced a where
  receive a r body _ h hok := by
    have hbooks := (written_receive (h rfl).sound r body).1 hok
    rw [(h rfl).written] at hbooks
    exact ⟨(extends_receive (h rfl).sound r body).1.sound, by
      change (a.receive r body).2.1.written = (a.receive r body).2.1.completeBytes
      omega⟩
  stop _ _ _ _ hok := by cases hok

/-- Unless a range has failed, each that has come since `a` has brought its bytes. -/
def Accounted (a : Assembly) (r : Except Error Unit) (x : Assembly) : Prop :=
  r = .ok () → Sound x ∧ x.header = a.header ∧ ∃ rs, x.received = a.received ++ rs ∧
    ((∀ q ∈ rs, ∃ f s, Spans a.header q f s) →
      x.transferred = a.transferred + (rs.map ByteRange.length).sum)

lemma Accounted.refl (h : Sound a) (r : Except Error Unit) : Accounted a r a :=
  fun _ => ⟨h, rfl, [], (List.append_nil _).symm, fun _ => rfl⟩

lemma tracks_accounted (a : Assembly) : RangeReceiver.Tracks (Accounted a) where
  receive x r body hobserved h hok := by
    obtain ⟨hsound, hheader, rs, hreceived, hbytes⟩ := h rfl
    have hext := (extends_receive hsound r body).1
    change (x.receive r body).1 = .ok () at hok
    -- a range that is not aligned fails, so this one has been reported
    have haligned : x.isAligned r = true := by
      by_contra hr
      rw [receive_of_misaligned (Bool.eq_false_iff.mpr hr)] at hok
      cases hok
    refine ⟨hext.sound, hext.header.trans hheader, rs ++ [r], ?_, fun hspans => ?_⟩
    · change (x.receive r body).2.1.received = _
      rw [received_receive haligned, hreceived, List.append_assoc]
    · obtain ⟨f, s, hr⟩ := hspans r (by simp)
      have hbefore := hbytes fun q hq => hspans q (by simp [hq])
      have hnow := (receive_ok hsound (hheader ▸ hr) (Prod.ext hok rfl)).2 hobserved
      calc (x.receive r body).2.1.transferred
          = x.transferred + r.length := hnow
        _ = a.transferred + ((rs ++ [r]).map ByteRange.length).sum := by
          rw [hbefore, List.map_append, List.sum_append, Nat.add_assoc]
          rfl
  stop _ _ _ _ hok := by cases hok

end Assembly

namespace Invocation

variable {options : Options} {uri output path : String} {c : ControlFile} {url : Url}
  {a b : Assembly} {files : Tree} {client client' : Client} {m : Midway}

/-! ### Up to the last seed -/

lemma isApart_readControl (options : Options) (location : ControlLocation) (files : Tree)
    (client : Client) :
    ∀ e ∈ (readControl options location files client).2.1, e.isApart = true := by
  have hfinish (r : Except Error ControlFile) : ∀ e ∈ finishRead r, e.isApart = true := by
    cases r <;> simp [finishRead, Event.isApart]
  cases location with
  | remote url =>
    rw [readControl]
    rcases client.get_cases url options.credentials .controlFile with
      ⟨e, client', hget⟩ | ⟨response, client', hget⟩
    · rw [hget]
      simp [Download.initiating, Event.isApart]
    · have hreads := forall_mem_readWith (fun e => e.isApart = true)
        (fun n => [.bytesDownloaded n, .bytesRead n]) response.body (by simp [Event.isApart])
      rw [hget]
      simp only [List.mem_append, or_imp, forall_and]
      refine ⟨⟨⟨⟨?_, ?_⟩, hreads⟩, ?_⟩, hfinish _⟩ <;>
        simp [Download.initiating, Download.started, Download.closed, Event.isApart]
  | file path =>
    rw [readControl]
    split
    · simp
    · next source _ =>
      have hreads := forall_mem_readWith (fun e => e.isApart = true) (fun n => [.bytesRead n])
        source (by simp [Event.isApart])
      simp only [List.mem_append, or_imp, forall_and]
      exact ⟨⟨by simp [Event.isApart], hreads⟩, hfinish _⟩

lemma level_scanSeeds (h : (Gathering.run a.journal.toList).Level) {paths : List String}
    (hok : scanSeeds c files a paths = (.ok (), b)) : (Gathering.run b.journal.toList).Level := by
  induction paths generalizing a with
  | nil =>
    obtain ⟨-, rfl⟩ := Prod.mk.inj hok
    exact h
  | cons path paths ih =>
    rw [scanSeeds] at hok
    split at hok
    · exact ih h hok
    split at hok
    · cases hok
    next length source _ =>
    obtain ⟨es, hjournal, hes⟩ := (Assembly.keeps_grown _).scan c
      (.refl _ (a.emit (.inputStarted path (some length)))) source
    generalize Scan.seed c (a.emit (.inputStarted path (some length))) source = result
      at hok hjournal
    obtain ⟨_ | _, d, left⟩ := result
    · cases hok
    refine ih ?_ hok
    have hseed := h.seed (fun e he => Event.isPlain_of_isCounter (hes e he)) path path (some length)
    have hlist : (d.emit (.inputComplete path)).journal.toList = a.journal.toList ++
        (.inputStarted path (some length) :: es ++ [.inputComplete path]) := by
      rw [Assembly.journal_emit, hjournal, Assembly.journal_emit, List.append_assoc,
        List.append_assoc]
      rfl
    rw [hlist, Gathering.run_append]
    exact hseed

/-- When the last seed is done, the seeds account for all that is complete. -/
lemma level_midway (h : midway options uri #[.started uri] files client = .ok m) :
    (Gathering.run m.assembly.journal.toList).Level ∧ m.assembly.Balanced := by
  obtain ⟨location, events, client', output, hread, haim, hgather⟩ := midway_ok h
  obtain ⟨sums, hc, hb⟩ := assemble_of_aim haim
  obtain ⟨a, hopen, hscan, -, -⟩ := gather_ok hgather
  have hevents := isApart_readControl options location files client
  rw [hread] at hevents
  set journal : Array Event := #[Event.started uri] ++ events with hjournal
  obtain rfl := Assembly.eq_start_of_openAt hopen
  -- all that is reported before the first seed is apart from seeds and target
  have hapart : ∀ e ∈ (Assembly.start output m.control journal).journal.toList,
      e.isApart = true := by
    rw [hjournal, Assembly.start, Array.toList_push, Array.toList_appendList]
    simp only [List.mem_append, List.mem_singleton, or_imp, forall_and, forall_eq]
    exact ⟨⟨rfl, hevents⟩, rfl⟩
  have hlevel : (Gathering.run (Assembly.start output m.control journal).journal.toList).Level :=
    Gathering.Level.empty.apart hapart
  have hbalanced : (Assembly.start output m.control journal).Balanced := by
    refine ⟨Assembly.sound_start hc hb _ _, ?_⟩
    rw [Assembly.completeBytes_start, Assembly.written]
    apply List.sum_eq_zero
    intro n hn
    obtain ⟨e, he, rfl⟩ := List.mem_map.mp hn
    exact Event.written_of_isApart (hapart e he)
  have hscanned := keeps_scanSeeds Assembly.keeps_balanced (fun _ _ _ h => h.emit rfl)
    (fun _ _ h => h.emit rfl) hbalanced m.control m.files (seeds options files output)
  rw [hscan] at hscanned
  exact ⟨level_scanSeeds hlevel hscan, hscanned⟩

/-! ### What is fetched -/

/-- What an answer finds when it comes. -/
def awaiting (a : Assembly) (url : Url) (response : Response) : Assembly :=
  (a.emit (.remoteInitiated url.text a.missingRanges)).emit
    (.remoteStarted url.text response.length)

section

variable (a : Assembly) (url : Url) (response : Response)

lemma sound_awaiting (h : Assembly.Sound a) : Assembly.Sound (awaiting a url response) :=
  (h.emit _).emit _

@[simp] lemma received_awaiting : (awaiting a url response).received = a.received := by
  simp [awaiting, Event.range?]

@[simp] lemma transferred_awaiting : (awaiting a url response).transferred = a.transferred := by
  simp [awaiting, Event.downloaded]

end

/-- How a fetch succeeds: there is nothing to do, or an answer is taken between the events that it
has come and that all is over. -/
inductive Fetched (options : Options) (url : Url) (a : Assembly) (client : Client) : Assembly → Prop
  | nothing (hcomplete : a.isComplete = true) : Fetched options url a client a
  | answer {response : Response} {x : Assembly}
      (hsend : (client.send url (some (ByteRange.header a.missingRanges)) options.credentials
        .remoteFileDownload).1 = .ok response)
      (hx : Client.receiveAnswer response a.missingRanges (awaiting a url response) = (.ok (), x))
      (hcomplete : x.isComplete = true) : Fetched options url a client (x.emit .remoteComplete)

lemma fetched_of_fetch (h : Assembly.Sound a)
    (hfetch : fetch options url a client = (.ok (), b, client')) :
    Fetched options url a client b := by
  rw [fetch] at hfetch
  split at hfetch
  · next hcomplete =>
    obtain ⟨rfl, -⟩ := Prod.mk.inj (Prod.mk.inj hfetch).2
    exact .nothing hcomplete
  next hmissing =>
  have hranges := h.missingRanges_ne_nil (Bool.eq_false_iff.mpr hmissing)
  dsimp only at hfetch
  rcases Client.partialGet_cases hranges client url options.credentials a
    (.remoteFile a.missingRanges) with ⟨e, -, heq⟩ | ⟨r, hsend, -, heq⟩
  · rw [heq] at hfetch
    cases hfetch
  · obtain ⟨result, hx⟩ :
      ∃ result, Client.receiveAnswer r a.missingRanges (awaiting a url r) = result := ⟨_, rfl⟩
    obtain ⟨c', hget⟩ : ∃ c', client.partialGet url a.missingRanges options.credentials a
        (.remoteFile a.missingRanges) = (result.1, result.2.emit .remoteComplete, c') := by
      rw [← hx]
      exact ⟨_, heq⟩
    rw [hget] at hfetch
    obtain ⟨e | _, x⟩ := result
    · cases hfetch
    dsimp only at hfetch
    split at hfetch
    · next hcomplete =>
      obtain ⟨rfl, -⟩ := Prod.mk.inj (Prod.mk.inj hfetch).2
      exact .answer hsend hx hcomplete
    · cases hfetch

lemma isPlain_of_arrives {e : Event} (h : e.Arrives) : e.isPlain = true := by
  rcases h with hcounter | ⟨r, rfl⟩
  · exact Event.isPlain_of_isCounter hcounter
  · rfl

lemma Fetched.stats (h : Fetched options url a client b)
    (hlevel : (Gathering.run a.journal.toList).Level) :
    (Gathering.run b.journal.toList).stats.remoteDownloaded + a.transferred = b.transferred ∧
      (Gathering.run b.journal.toList).stats.writtenByInput =
        (Gathering.run a.journal.toList).stats.writtenByInput := by
  cases h with
  | nothing hcomplete => exact ⟨by rw [hlevel.remote, Nat.zero_add], rfl⟩
  | @answer response x hsend hx hcomplete =>
    have hgrown := (tracks_arrivals _).receiveAnswer (.refl _ (awaiting a url response)) response
      a.missingRanges
    rw [hx] at hgrown
    obtain ⟨es, hjournal, hes⟩ := hgrown
    -- nothing but ranges and counters comes between the request and its end
    have hplain : ∀ e ∈ .remoteStarted url.text response.length :: es, e.isPlain = true := by
      intro e he
      rcases List.mem_cons.mp he with rfl | he
      · rfl
      · exact isPlain_of_arrives (hes e he)
    have hlist : (x.emit .remoteComplete).journal.toList = a.journal.toList ++
        (.remoteInitiated url.text a.missingRanges ::
          (.remoteStarted url.text response.length :: es) ++ [.remoteComplete]) := by
      rw [Assembly.journal_emit, hjournal, awaiting, Assembly.journal_emit, Assembly.journal_emit]
      simp
    obtain ⟨hremote, hseeds⟩ := Gathering.foldl_request (Gathering.run a.journal.toList) hplain
      url.text a.missingRanges
    rw [hlist, Gathering.run_append]
    refine ⟨?_, hseeds⟩
    rw [hremote, hlevel.remote, Assembly.transferred, Assembly.transferred, hlist]
    simp only [List.map_append, List.map_cons, List.sum_append, List.sum_cons, Event.downloaded,
      List.map_nil, List.sum_nil]
    omega

lemma Fetched.isComplete (h : Fetched options url a client b) : b.isComplete = true := by
  cases h with
  | nothing hcomplete => exact hcomplete
  | answer hsend hx hcomplete => exact hcomplete

lemma Fetched.balanced (h : Fetched options url a client b) (hbalanced : a.Balanced) :
    b.Balanced := by
  cases h with
  | nothing hcomplete => exact hbalanced
  | @answer response x hsend hx hcomplete =>
    have hopened : (awaiting a url response).Balanced := (hbalanced.emit rfl).emit rfl
    have htaken :=
      Assembly.tracks_balanced.receiveAnswer (fun _ => hopened) response a.missingRanges
    rw [hx] at htaken
    exact (htaken rfl).emit rfl

/-- If each of the missing ranges has come once, all missing bytes have come. -/
lemma Fetched.transferred_of_perm (h : Fetched options url a client b) (hsound : Assembly.Sound a)
    {rs : List ByteRange} (hreceived : b.received = a.received ++ rs)
    (hrs : rs.Perm a.missingRanges) : b.transferred = a.transferred + a.missingBytes := by
  cases h with
  | nothing hcomplete => rw [hsound.missingBytes_of_isComplete hcomplete, Nat.add_zero]
  | @answer response x hsend hx hcomplete =>
    have hopened := sound_awaiting a url response hsound
    have htaken := (Assembly.tracks_accounted _).receiveAnswer (.refl hopened (.ok ())) response
      a.missingRanges
    rw [hx] at htaken
    obtain ⟨-, -, rs', hreceived', hbytes⟩ := htaken rfl
    -- the ranges that have come are those that are counted
    obtain rfl : rs' = rs := by
      rw [Assembly.received_emit, hreceived', received_awaiting] at hreceived
      simpa [Event.range?] using hreceived
    have hspans : ∀ q ∈ rs', ∃ f s, Assembly.Spans (awaiting a url response).header q f s :=
      fun q hq => hsound.exists_spans (hrs.mem_iff.mp hq)
    calc (x.emit .remoteComplete).transferred
        = x.transferred := by simp [Event.downloaded]
      _ = (awaiting a url response).transferred + (rs'.map ByteRange.length).sum := hbytes hspans
      _ = a.transferred + a.missingBytes := by
        rw [transferred_awaiting, (hrs.map ByteRange.length).sum_eq]
        rfl

lemma Fetched.transferred_of_brings (h : Fetched options url a client b)
    (hsound : Assembly.Sound a) (hmax : a.header.length ≤ Assembly.maxLength)
    {target : List UInt8} (hlen : a.header.length = target.length) {response : Response}
    (hresponse : (client.send url (some (ByteRange.header a.missingRanges)) options.credentials
      .remoteFileDownload).1 = .ok response)
    (hbrings : Client.Brings target a.missingRanges response) :
    b.transferred = a.transferred + a.missingBytes := by
  cases h with
  | nothing hcomplete => rw [hsound.missingBytes_of_isComplete hcomplete, Nat.add_zero]
  | @answer response' x hsend hx hcomplete =>
    obtain rfl := Except.ok.inj (hsend.symm.trans hresponse)
    have hopened := sound_awaiting a url response' hsound
    have hcompletes : Assembly.Completes target (awaiting a url response')
        (Client.receiveAnswer response' a.missingRanges (awaiting a url response')) :=
      Client.Brings.completes (a := awaiting a url response') hbrings hopened hlen hmax
    rw [hx] at hcompletes
    calc (x.emit .remoteComplete).transferred
        = x.transferred := by simp [Event.downloaded]
      _ = (awaiting a url response').transferred +
            ((awaiting a url response').missingRanges.map ByteRange.length).sum :=
        hcompletes.transferred
      _ = a.transferred + a.missingBytes := by
        rw [transferred_awaiting]
        rfl

/-! ### The whole -/

lemma finish_ok (h : (finish options m).result = .ok path) : ∃ b client',
    fetch options m.url m.assembly m.client = (.ok (), b, client') ∧
      (finish options m).events = (b.emit (.outputComplete b.path)).journal := by
  rw [finish] at h ⊢
  generalize fetch options m.url m.assembly m.client = fetched at h ⊢
  obtain ⟨e | _, b, client'⟩ := fetched
  · cases h
  dsimp only at h ⊢
  refine ⟨b, client', rfl, ?_⟩
  generalize hclose : b.close (b.save m.files) = closed at h ⊢
  obtain ⟨e | d, t⟩ := closed
  · cases h
  · obtain rfl := eq_emit_of_close hclose
    rfl

/-- A success has come through to the last seed and from there to the end, where nothing is left to
be counted. -/
lemma run_ok (h : (run options uri files client).result = .ok path) : ∃ m b client',
    midway options uri #[.started uri] files client = .ok m ∧
      fetch options m.url m.assembly m.client = (.ok (), b, client') ∧
      Stats.ofEvents (run options uri files client).events.toList =
        (Gathering.run b.journal.toList).stats ∧
      (run options uri files client).events.toList.filterMap Event.range? = b.received := by
  obtain ⟨k, -, htells⟩ := exists_leads options uri files client
  have hperform := perform_eq options uri #[.started uri] files client
  rw [run] at h ⊢
  dsimp only at h ⊢
  generalize midway options uri #[.started uri] files client = middle at htells hperform
  cases htells with
  | @stopped o e hresult =>
    rw [hperform] at h
    cases hresult.symm.trans h
  | @through m hmilestones =>
    rw [hperform] at h ⊢
    obtain ⟨b, client', hfetch, hevents⟩ := finish_ok h
    refine ⟨m, b, client', rfl, hfetch, ?_⟩
    rw [h, hevents, Array.toList_appendList, Assembly.journal_emit, List.append_assoc,
      Stats.ofEvents,
      Gathering.run_append, List.filterMap_append]
    exact ⟨rfl, List.append_nil _⟩

lemma received_midway (h : midway options uri #[.started uri] files client = .ok m) :
    m.assembly.received = [] := by
  obtain ⟨k, -, htells⟩ := exists_leads options uri files client
  rw [h] at htells
  cases htells with
  | through hmilestones =>
    rw [Assembly.received_eq, hmilestones, List.filterMap_eq_nil_iff]
    exact fun e he => (k.of_mem_toSeeds e he).2

lemma length_midway (h : midway options uri #[.started uri] files client = .ok m) :
    m.assembly.header.length = m.control.header.length ∧
      m.control.header.length ≤ Assembly.maxLength := by
  obtain ⟨_, _, _, _, -, -, hgather⟩ := midway_ok h
  obtain ⟨a, hopen, -⟩ := gather_ok hgather
  obtain ⟨output, -, hfilled⟩ := filled_midway h
  exact ⟨by rw [hfilled.header], Assembly.length_le_of_openAt hopen⟩

/-- **Every byte is accounted for** when an invocation has succeeded. As many bytes have been
written as the target has; the seeds have given those of the blocks that were complete after
the last of them; and if each range that was missing then has come once, as it has if the answer was
the whole of a target, parts of it for all of these ranges in any order, or the only one of them,
then the net has given the others. -/
theorem accounts_for_every_byte (hok : (run options uri files client).result = .ok path) :
    ∃ m, midway options uri #[.started uri] files client = .ok m ∧
      let events := (run options uri files client).events.toList
      let stats := Stats.ofEvents events
      stats.bytesWritten = m.control.header.length ∧
      stats.matchedFromSeeds = m.assembly.completeBytes ∧
      ((events.filterMap Event.range?).Perm m.assembly.missingRanges →
        stats.remoteDownloaded + stats.matchedFromSeeds = m.control.header.length) ∧
      ∀ target response, target.length = m.control.header.length →
        (m.client.send m.url (some (ByteRange.header m.assembly.missingRanges))
          options.credentials .remoteFileDownload).1 = .ok response →
        Client.Brings target m.assembly.missingRanges response →
        stats.remoteDownloaded + stats.matchedFromSeeds = m.control.header.length := by
  obtain ⟨m, b, client', hmidway, hfetch, hstats, hreceived⟩ := run_ok hok
  obtain ⟨hlevel, hbalanced⟩ := level_midway hmidway
  obtain ⟨output, haim, hfilled⟩ := filled_midway hmidway
  have hfetched := fetched_of_fetch hbalanced.sound hfetch
  have hend := hfetched.balanced hbalanced
  obtain ⟨hremote, hseeds⟩ := hfetched.stats hlevel
  have hheader : b.header = m.control.header := by
    have hfilled' := filled_fetch hfilled options m.url m.client
    rw [hfetch] at hfilled'
    exact hfilled'.header
  have hmatched : (Gathering.run b.journal.toList).stats.matchedFromSeeds =
      m.assembly.completeBytes := by
    rw [Stats.matchedFromSeeds, hseeds, hlevel.seeds, Gathering.bytesWritten_run,
      ← hbalanced.written]
    rfl
  obtain ⟨hlength, hmax⟩ := length_midway hmidway
  have hmissing := hbalanced.sound.completeBytes_add_missingBytes
  -- what is complete midway and what is missing then make up the target
  dsimp only
  rw [hstats, hreceived, hmatched]
  refine ⟨m, hmidway, ?_, rfl, fun hperm => ?_, fun target response hlen hresponse hbrings => ?_⟩
  · calc (Gathering.run b.journal.toList).stats.bytesWritten
        = b.written := Gathering.bytesWritten_run _
      _ = b.completeBytes := hend.written
      _ = b.header.length := hend.sound.completeBytes_of_isComplete hfetched.isComplete
      _ = m.control.header.length := by rw [hheader]
  · have hcome := hfetched.transferred_of_perm hbalanced.sound
      (by rw [received_midway hmidway, List.nil_append]) hperm
    omega
  · have hcome := hfetched.transferred_of_brings hbalanced.sound (hlength.trans_le hmax)
      (hlength.trans hlen.symm) hresponse hbrings
    omega

def fourTree : Tree :=
  let lines := ["zsync: 0.6.2", "Filename: four", "Blocksize: 2", "Length: 4",
    "Hash-Lengths: 1,2,3", "URL: http://example.org/four",
    "SHA-1: 12dada1fff4d4787ade3333147202c3b443e376f", ""]
  ⟨[(["four.zsync"], .file ((lines.flatMap fun line => Utf8.encode line ++ [10]) ++
    [0, 4, 54, 132, 82, 0, 10, 120, 27, 174]) none)]⟩

def allFour : Response := ⟨206, [("Content-Range", "bytes 0-3/4")], some 4, .ofBytes [1, 2, 3, 4]⟩

/-- A client that reaches a server with just this answer. -/
def online : Client := { offline with
  network := ⟨fun _ => true, fun _ => "unreachable",
    [.answer ⟨206, [("Content-Range", "bytes 0-3/4")], some 4, .ofBytes [1, 2, 3, 4]⟩], []⟩ }

lemma brings_allFour : Client.Brings [1, 2, 3, 4] [⟨0, 3⟩] allFour :=
  .range rfl rfl ⟨by decide +kernel, ⟨some 4, by decide +kernel⟩, rfl⟩

theorem accounts_for_four_bytes :
    let o := run plainOptions "four.zsync" fourTree online
    let stats := Stats.ofEvents o.events.toList
    o.result = .ok "four" ∧ stats.bytesWritten = 4 ∧
      stats.remoteDownloaded + stats.matchedFromSeeds = 4 := by
  have hok : (run plainOptions "four.zsync" fourTree online).result = .ok "four" := by
    decide +kernel
  have hmiddle : ((midway plainOptions "four.zsync" #[.started "four.zsync"] fourTree
      online).toOption.map fun m => (m.control.header.length, m.assembly.missingRanges,
        (m.client.send m.url (some (ByteRange.header m.assembly.missingRanges))
          plainOptions.credentials .remoteFileDownload).1)) = some (4, [⟨0, 3⟩], .ok allFour) := by
    decide +kernel
  obtain ⟨m, hmidway, hwritten, -, -, hbrings⟩ := accounts_for_every_byte hok
  rw [hmidway] at hmiddle
  obtain ⟨hlength, hmiddle⟩ := Prod.mk.inj (Option.some.inj hmiddle)
  obtain ⟨hmissing, hsend⟩ := Prod.mk.inj hmiddle
  have htotal := hbrings [1, 2, 3, 4] allFour hlength.symm hsend (hmissing ▸ brings_allFour)
  rw [hlength] at hwritten htotal
  exact ⟨hok, hwritten, htotal⟩

end Invocation

end SeedSync
