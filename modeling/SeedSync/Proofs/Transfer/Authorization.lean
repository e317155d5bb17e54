import Mathlib
import SeedSync.Proofs.Transfer.Handing

/-!
What a client says of its user over plain HTTP. Whatever the servers answer, each call sends at most
two requests, and credentials only to the host that they are for, after it has asked for them.
-/

namespace SeedSync

/-! ### Requests and their answers -/

/-- A request as it arrives, and what comes back: a response, or the connection closes. -/
abbrev Exchange : Type := Request × Except IoError Response

def Reply.hasRedirectStatus : Reply → Bool
  | .answer r => Network.isRedirect r.status
  | .hangUp => false

namespace Network

/-- No reply sends a request on to another place. -/
def StaysPut (n : Network) : Prop :=
  ∀ r, .answer r ∈ n.replies → ∀ url, redirect? url r = none

/-- Between two states of the network these requests arrive, one after the other. -/
inductive Exchanges : Network → List Exchange → Network → Prop
  | done (n : Network) : Exchanges n [] n
  | arrives {n n' n'' : Network} {q : Request} {answer : Except IoError Response}
      {sent : List Exchange} (hreach : n.reaches q.url = true)
      (hsend : n.sendOnce q = (answer, n')) (more : Exchanges n' sent n'') :
      Exchanges n ((q, answer) :: sent) n''

variable {n n' n'' : Network} {q : Request}

lemma sendOnce_of_reaches (h : n.reaches q.url = true) :
    (n.sendOnce q).2 = { n with replies := n.replies.tail, requests := n.requests ++ [q] } := by
  obtain ⟨reaches, wording, replies, requests⟩ := n
  rw [sendOnce, if_neg (by simpa using h)]
  rcases replies with _ | ⟨_ | _, replies⟩ <;> rfl

lemma sendOnce_of_not_reaches (h : n.reaches q.url = false) :
    n.sendOnce q = (.error (n.fail (.unsent q.url)), n) := by
  rw [sendOnce, if_pos (by simp [h])]

lemma Exchanges.trans {sent more : List Exchange} (h : Exchanges n sent n')
    (h' : Exchanges n' more n'') : Exchanges n (sent ++ more) n'' := by
  induction h with
  | done => exact h'
  | arrives hreach hsend _ ih => exact .arrives hreach hsend (ih h')

lemma Exchanges.network_eq {sent : List Exchange} (h : Exchanges n sent n') :
    n' = { n with
      replies := n.replies.drop sent.length, requests := n.requests ++ sent.map Prod.fst } := by
  induction h with
  | done => simp
  | @arrives n n' n'' q answer sent hreach hsend _ ih =>
    have hnext := sendOnce_of_reaches hreach
    rw [hsend] at hnext
    obtain rfl : n' = _ := hnext
    rw [ih]
    simp [List.drop_tail]

lemma Exchanges.reaches {answer : Except IoError Response} {sent : List Exchange}
    (h : Exchanges n ((q, answer) :: sent) n') : n'.reaches q.url = true := by
  rw [h.network_eq]
  cases h with
  | arrives hreach _ _ => exact hreach

lemma StaysPut.of_suffix (h : n.StaysPut) (hreplies : n'.replies <:+ n.replies) : n'.StaysPut :=
  fun r hmem => h r (hreplies.subset hmem)

lemma staysPut_of_forall (h : ∀ reply ∈ n.replies, reply.hasRedirectStatus = false) :
    n.StaysPut := by
  intro r hmem url
  have hother : isRedirect r.status = false := h _ hmem
  rw [redirect?, hother, if_neg (by decide)]

lemma StaysPut.redirect?_eq_none (h : n.StaysPut) {r : Response}
    (hsend : n.sendOnce q = (.ok r, n')) : redirect? q.url r = none := by
  rw [sendOnce] at hsend
  split at hsend
  · cases hsend
  dsimp only at hsend
  split at hsend
  · obtain rfl := Except.ok.inj (Prod.mk.inj hsend).1
    rfl
  · cases hsend
  · next reply replies hreplies =>
    obtain rfl := Except.ok.inj (Prod.mk.inj hsend).1
    exact h reply (hreplies ▸ List.mem_cons_self) _

lemma StaysPut.send_eq (h : n.StaysPut) (hops : ℕ) (q : Request) :
    n.send hops q = n.sendOnce q := by
  unfold send
  cases hsend : n.sendOnce q with
  | mk answer n' =>
    cases answer with
    | error e => rfl
    | ok r =>
      dsimp only
      rw [h.redirect?_eq_none hsend]

lemma exchanges_of_reaches (h : n.reaches q.url = true) :
    Exchanges n [(q, (n.sendOnce q).1)] (n.sendOnce q).2 :=
  .arrives h rfl (.done _)

lemma exchanges_sendOnce (n : Network) (q : Request) :
    Exchanges n [(q, (n.sendOnce q).1)] (n.sendOnce q).2 ∨
      (n.sendOnce q).2 = n ∧ ∃ e, (n.sendOnce q).1 = .error e := by
  cases hreach : n.reaches q.url with
  | true => exact .inl (exchanges_of_reaches hreach)
  | false =>
    rw [sendOnce_of_not_reaches hreach]
    exact .inr ⟨rfl, _, rfl⟩

lemma StaysPut.sendOnce (h : n.StaysPut) (q : Request) : (n.sendOnce q).2.StaysPut := by
  refine h.of_suffix ?_
  cases hreach : n.reaches q.url with
  | true =>
    rw [sendOnce_of_reaches hreach]
    exact List.tail_suffix n.replies
  | false => rw [sendOnce_of_not_reaches hreach]

end Network

/-! ### Challenges -/

/-- The response asks for Basic authentication: some value of its WWW-Authenticate fields begins
with the word Basic, in whatever case. -/
def Response.AsksForBasic (r : Response) : Prop :=
  ∃ name value blanks word tail, (name, value) ∈ r.headers ∧
    name.toList.map Char.toLower = "www-authenticate".toList ∧
    value.toList = blanks ++ word ++ tail ∧ (∀ c ∈ blanks, Blank.isBlank c = true) ∧
    word.map Char.toLower = "basic".toList ∧ ∀ c ∈ tail.head?, Blank.isBlank c = true

lemma Response.asksForBasic_of_isBasicChallenge {r : Response} (h : r.isBasicChallenge = true) :
    r.AsksForBasic := by
  obtain ⟨value, hvalue, hword⟩ := List.any_eq_true.mp h
  rw [headerValues, List.mem_filter, List.mem_map] at hvalue
  obtain ⟨⟨⟨name, value⟩, hmem, rfl⟩, -⟩ := hvalue
  obtain ⟨hheader, hname⟩ := List.mem_filter.mp hmem
  rw [Cut.sameFolded, beq_iff_eq] at hname hword
  set cs := value.toList
  refine ⟨name, value, cs.takeWhile Blank.isBlank, Blank.firstWord cs,
    (Blank.trimStart cs).dropWhile fun c => !Blank.isBlank c, hheader, hname, ?_, ?_, hword, ?_⟩
  · rw [Blank.firstWord, List.append_assoc, List.takeWhile_append_dropWhile, Blank.trimStart,
      List.takeWhile_append_dropWhile]
  · exact fun c hc => List.mem_takeWhile_imp hc
  · intro c hc
    have := List.head?_dropWhile_not (fun c => !Blank.isBlank c) (Blank.trimStart cs)
    rw [Option.mem_def.mp hc] at this
    simpa using this

/-! ### Calls -/

/-- The request is for a URL and for a range of it, and this is what it says of its user. -/
structure Request.AsksFor (q : Request) (url : Url) (range : Option String)
    (authorization : List String) : Prop where
  url : q.url = url
  range : q.range = range
  authorization : q.authorization = authorization

namespace Client

open Network

/-- What a client may say to get something over plain HTTP. At first it says nothing of its user. It
asks once more if it has been answered that it should, and only if there are credentials for this
host, and then it sends these. -/
inductive Conversation (url : Url) (range : Option String) (credentials : CredentialMap) :
    List Exchange → Prop
  | unreached : Conversation url range credentials []
  | once {q : Request} {answer : Except IoError Response}
      (hq : q.AsksFor url range []) : Conversation url range credentials [(q, answer)]
  | again {q q' : Request} {r : Response} {answer : Except IoError Response} {own : Credentials}
      (hq : q.AsksFor url range []) (hstatus : r.status = 401) (hbasic : r.AsksForBasic)
      (hown : credentials.lookup (url.host.getD "") = some own)
      (hq' : q'.AsksFor url range [own.basic]) :
      Conversation url range credentials [(q, .ok r), (q', answer)]

/-- The status that an exchange ends with. -/
def finalStatus? (sent : List Exchange) : Option ℕ :=
  sent.getLast?.bind fun exchange => exchange.2.toOption.map Response.status

/-- A call that ends with a rejection fails with it, and one that ends with a response has its
status. -/
structure Concludes (sent : List Exchange) (result : Except Error Response) : Prop where
  rejected : finalStatus? sent = some 401 → ∃ f, result = .error (.http 401 f)
  ok : ∀ r, result = .ok r → finalStatus? sent = some r.status

namespace Concludes

variable {r : Response}

lemma nil (e : Error) : Concludes [] (.error e) := ⟨fun h => (by cases h), fun _ h => by cases h⟩

lemma broken (sent : List Exchange) (q : Request) (e : IoError) (e' : Error) :
    Concludes (sent ++ [(q, .error e)]) (.error e') :=
  ⟨fun h => by simp [finalStatus?, Except.toOption] at h, fun _ h => by cases h⟩

lemma rejection (sent : List Exchange) (q : Request) (r : Response) (f : HttpFault) :
    Concludes (sent ++ [(q, .ok r)]) (.error (.http 401 f)) :=
  ⟨fun _ => ⟨f, rfl⟩, fun _ h => by cases h⟩

lemma response (sent : List Exchange) (q : Request) (h : r.status ≠ 401) :
    Concludes (sent ++ [(q, .ok r)]) (.ok r) where
  rejected h401 := absurd (by simpa [finalStatus?, Except.toOption] using h401) h
  ok r' hr := by simp [finalStatus?, Except.toOption, ← Except.ok.inj hr]

end Concludes

section

variable {c : Client} {url : Url} {range : Option String} {credentials : CredentialMap}
  {phase : Phase}

lemma execute_eq (h : c.network.StaysPut) (own : Option Credentials) :
    c.execute url range own phase =
      (inPhase phase (c.network.sendOnce (c.request url range own)).1,
        { c with network := (c.network.sendOnce (c.request url range own)).2 }) := by
  rw [execute, h.send_eq]

lemma asksFor_request (c : Client) (url : Url) (range : Option String) (own : Option Credentials) :
    (c.request url range own).AsksFor url range (own.map Credentials.basic).toList :=
  ⟨rfl, rfl, rfl⟩

lemma staysPut_execute (h : c.network.StaysPut) (url : Url) (range : Option String)
    (own : Option Credentials) (phase : Phase) :
    (c.execute url range own phase).2.network.StaysPut := by
  rw [execute_eq h]
  exact h.sendOnce _

lemma staysPut_send (h : c.network.StaysPut) :
    (c.send url range credentials phase).2.network.StaysPut := by
  rw [send]
  generalize (if url.scheme = "https" ∧ c.trusted.contains (url.host.getD "") = true then
    credentials.lookup (url.host.getD "") else none) = early
  have hfirst := staysPut_execute h url range early phase
  generalize c.execute url range early phase = first at hfirst
  obtain ⟨_ | r, c'⟩ := first
  · exact hfirst
  dsimp only
  split
  · exact hfirst
  split
  · exact hfirst
  split
  · exact hfirst
  split
  · exact hfirst
  next own _ =>
  have hsecond := staysPut_execute hfirst url range (some own) phase
  generalize c'.execute url range (some own) phase = second at hsecond
  obtain ⟨_ | r', c''⟩ := second
  · exact hsecond
  · dsimp only
    split <;> exact hsecond

/-- **How a client asks** over plain HTTP, and what comes of it. -/
lemma exists_conversation (h : c.network.StaysPut) (hhttp : url.scheme ≠ "https")
    (range : Option String) (credentials : CredentialMap) (phase : Phase) :
    let result := c.send url range credentials phase
    ∃ sent, Exchanges c.network sent result.2.network ∧ Conversation url range credentials sent ∧
      Concludes sent result.1 := by
  -- over plain HTTP no request has credentials before it is asked for them
  have hearly : (if url.scheme = "https" ∧ c.trusted.contains (url.host.getD "") = true then
      credentials.lookup (url.host.getD "") else none) = none := if_neg fun h => hhttp h.1
  rw [send]
  dsimp only
  rw [hearly, execute_eq h]
  have hq := asksFor_request c url range none
  rw [Option.map_none, Option.toList_none] at hq
  generalize c.request url range none = q at hq
  have hfirst := exchanges_sendOnce c.network q
  have hput := h.sendOnce q
  generalize c.network.sendOnce q = first at hfirst hput
  obtain ⟨answer, n⟩ := first
  rcases hfirst with hfirst | ⟨hn, e, rfl⟩
  swap
  · exact ⟨[], hn ▸ .done n, .unreached, .nil _⟩
  cases answer with
  | error e => exact ⟨_, hfirst, .once hq, .broken [] q e _⟩
  | ok r =>
    dsimp only [inPhase]
    by_cases h401 : r.status = 401
    swap
    · rw [if_pos h401]
      exact ⟨_, hfirst, .once hq, .response [] q h401⟩
    rw [if_neg (not_not.mpr h401), if_neg (by decide)]
    split
    · exact ⟨_, hfirst, .once hq, .rejection [] q r _⟩
    next hbasic =>
    split
    · exact ⟨_, hfirst, .once hq, .rejection [] q r _⟩
    next own hown =>
    -- the second request goes to the network as the first one has left it
    have hput : ({ c with network := n } : Client).network.StaysPut := hput
    rw [execute_eq hput]
    have hq' := asksFor_request { c with network := n } url range (some own)
    generalize request { c with network := n } url range (some own) = q' at hq'
    have hreach : n.reaches q'.url = true := by
      rw [hq'.url, ← hq.url]
      exact hfirst.reaches
    have hboth := hfirst.trans (exchanges_of_reaches hreach)
    have hagain (answer : Except IoError Response) :
        Conversation url range credentials ([(q, .ok r)] ++ [(q', answer)]) :=
      .again hq h401 (Response.asksForBasic_of_isBasicChallenge (by simpa using hbasic)) hown hq'
    generalize n.sendOnce q' = second at hboth
    obtain ⟨_ | r', n'⟩ := second
    · exact ⟨_, hboth, hagain _, .broken [_] q' _ _⟩
    · dsimp only [inPhase]
      split
      · exact ⟨_, hboth, hagain _, .rejection [_] q' r' _⟩
      · next h401' => exact ⟨_, hboth, hagain _, .response [_] q' h401'⟩

end

/-! ### Sequences of calls -/

/-- A call of a client: for a whole resource, or for ranges that go to a receiver. -/
inductive Retrieval (ρ : Type)
  | get (url : Url) (credentials : CredentialMap) (download : Download)
  | partialGet (url : Url) (ranges : List ByteRange) (credentials : CredentialMap) (x : ρ)
    (download : Download)

namespace Retrieval

variable {ρ : Type} [RangeReceiver ρ]

def url : Retrieval ρ → Url
  | get url .. => url
  | partialGet url .. => url

def credentials : Retrieval ρ → CredentialMap
  | get _ credentials _ => credentials
  | partialGet _ _ credentials .. => credentials

def range : Retrieval ρ → Option String
  | get .. => none
  | partialGet _ ranges .. => some (ByteRange.header ranges)

def make (c : Client) : Retrieval ρ → Except Error Unit × List (ByteRange × Body) × Client
  | get url credentials download =>
    let (answer, _, c) := c.get url credentials download
    (answer.map fun _ => (), [], c)
  | partialGet url ranges credentials x download =>
    let (answer, logged, c) := c.partialGet url ranges credentials (⟨x, []⟩ : Logged ρ) download
    (answer, logged.handed, c)

end Retrieval

variable {ρ : Type} [RangeReceiver ρ]

/-- A client after these calls, one after the other. -/
def after (c : Client) (calls : List (Retrieval ρ)) : Client :=
  calls.foldl (fun c call => (call.make c).2.2) c

lemma make_cases (c : Client) (call : Retrieval ρ) :
    call.make c = (.ok (), [], c) ∨ ∃ phase,
      let sent := c.send call.url call.range call.credentials phase
      let made := call.make c
      made.2.2 = sent.2 ∧ (∀ e, sent.1 = .error e → made.1 = .error e) ∧
        (made.2.1 ≠ [] → ∃ r, sent.1 = .ok r ∧ (r.status = 206 ∨ r.status = 200)) := by
  cases call with
  | get url credentials download =>
    refine .inr ⟨.controlFileDownload, ?_⟩
    dsimp only [Retrieval.make, Retrieval.url, Retrieval.range, Retrieval.credentials]
    rw [get]
    generalize c.send url none credentials .controlFileDownload = sent
    obtain ⟨e | r, c'⟩ := sent
    · exact ⟨rfl, fun _ he => Except.error.inj he ▸ rfl, fun h => absurd rfl h⟩
    · dsimp only
      split <;> exact ⟨rfl, fun _ he => (by cases he), fun h => absurd rfl h⟩
  | partialGet url ranges credentials x download =>
    by_cases hranges : ranges = []
    · subst hranges
      exact .inl rfl
    refine .inr ⟨.remoteFileDownload, ?_⟩
    dsimp only [Retrieval.make, Retrieval.url, Retrieval.range, Retrieval.credentials]
    rcases partialGet_cases hranges c url credentials (⟨x, []⟩ : Logged ρ) download with
      ⟨e, hsend, heq⟩ | ⟨r, hsend, hstatus, heq⟩
    · rw [heq]
      refine ⟨rfl, fun e' he' => ?_, fun h => absurd rfl h⟩
      rcases hsend with hsend | ⟨r, hsend, -⟩
      · rw [hsend] at he'
        rw [Except.error.inj he']
      · rw [hsend] at he'
        cases he'
    · rw [heq]
      exact ⟨rfl, fun e he => (by rw [hsend] at he; cases he), fun _ => ⟨r, hsend, hstatus⟩⟩

lemma staysPut_after {c : Client} (h : c.network.StaysPut) (calls : List (Retrieval ρ)) :
    (c.after calls).network.StaysPut := by
  induction calls generalizing c with
  | nil => exact h
  | cons call calls ih =>
    refine ih (c := (call.make c).2.2) ?_
    rcases make_cases c call with hmade | ⟨phase, hafter, -, -⟩
    · rwa [hmade]
    · rw [hafter]
      exact staysPut_send h

/-- **What a client says of its user** in any sequence of calls, whatever the servers answer, unless
they send it on to other places. In each call over plain HTTP it sends at most two requests, and all
that it says is what it may. Where the last answer is a rejection the call fails with it, and a
receiver is only called for a response with ranges or with the whole. -/
theorem keeps_credentials_to_their_hosts {c : Client} (h : c.network.StaysPut)
    (earlier : List (Retrieval ρ)) (call : Retrieval ρ) (hhttp : call.url.scheme = "http") :
    let before := c.after earlier
    let made := call.make before
    c.after (earlier ++ [call]) = made.2.2 ∧ ∃ sent,
      Exchanges before.network sent made.2.2.network ∧
      made.2.2.network.requests = before.network.requests ++ sent.map Prod.fst ∧
      sent.length ≤ 2 ∧ Conversation call.url call.range call.credentials sent ∧
      (finalStatus? sent = some 401 → ∃ f, made.1 = .error (.http 401 f)) ∧
      (made.2.1 ≠ [] → finalStatus? sent = some 206 ∨ finalStatus? sent = some 200) := by
  have hput := staysPut_after h earlier
  refine ⟨by simp [after], ?_⟩
  generalize c.after earlier = before at hput
  rcases make_cases before call with hmade | ⟨phase, hafter, hfails, hhanded⟩
  · rw [hmade]
    exact ⟨[], .done _, by simp, by simp, .unreached, fun h => (by cases h),
      fun h => absurd rfl h⟩
  have hhttp : call.url.scheme ≠ "https" := by rw [hhttp]; decide
  obtain ⟨sent, hsent, hconversation, hconcludes⟩ :=
    exists_conversation hput hhttp call.range call.credentials phase
  rw [hafter]
  refine ⟨sent, hsent, by rw [hsent.network_eq], ?_, hconversation, fun h401 => ?_, fun hne => ?_⟩
  · cases hconversation <;> simp
  · obtain ⟨f, hf⟩ := hconcludes.rejected h401
    exact ⟨f, hfails _ hf⟩
  · obtain ⟨r, hr, hstatus⟩ := hhanded hne
    rw [hconcludes.ok r hr]
    exact hstatus.imp (congrArg some) (congrArg some)

/-- A client of a server that asks for Basic authentication, and answers the second request with
four bytes. -/
def challenged : Client :=
  ⟨"agent", [], ⟨fun _ => true, fun _ => "",
    [.answer ⟨401, [("WWW-Authenticate", "BASIC realm=files")], some 0, .ofBytes []⟩,
      .answer ⟨206, [("Content-Range", "bytes 0-3/*")], some 4, .ofBytes [1, 2, 3, 4]⟩], []⟩⟩

/-- A call for the first four bytes, with credentials for two hosts. -/
def askingFirstFour : Retrieval Glance :=
  .partialGet fileOnHost [⟨0, 3⟩] [("other", ⟨"v", "q"⟩), ("host", ⟨"u", "p"⟩)] ⟨⟩
    (.remoteFile [⟨0, 3⟩])

theorem keeps_credentials_to_one_of_two_hosts : challenged.network.StaysPut ∧
    askingFirstFour.url.scheme = "http" ∧ ∃ sent,
      sent.map (fun exchange => exchange.1.authorization) = [[], ["Basic dTpw"]] ∧
      Conversation askingFirstFour.url askingFirstFour.range askingFirstFour.credentials sent ∧
      (finalStatus? sent = some 206 ∨ finalStatus? sent = some 200) := by
  have hput : challenged.network.StaysPut := staysPut_of_forall (by decide)
  obtain ⟨-, sent, -, hrequests, -, hconversation, -, hhanded⟩ :=
    keeps_credentials_to_their_hosts hput [] askingFirstFour rfl
  have hsent : (askingFirstFour.make challenged).2.2.network.requests.map Request.authorization =
      [[], ["Basic dTpw"]] := by rfl
  have hmap := congrArg (List.map Request.authorization) hrequests
  refine ⟨hput, rfl, sent, ?_, hconversation, hhanded (List.cons_ne_nil _ _)⟩
  rw [← hsent]
  exact (hmap.trans (by simp [after, challenged])).symm

end Client

end SeedSync
