import Mathlib
import SeedSync.Transfer.Client

/-!
A receiver in the hands of a client: whatever a server sends, nothing happens to the receiver but
that it takes ranges and notes events.
-/

namespace SeedSync

/-! ### Fetches -/

namespace Client

variable {ρ : Type} [RangeReceiver ρ] {ranges : List ByteRange}

lemma multipartError_ne_panic (e : Multipart.Error) : multipartError e ≠ .panic := by
  cases e <;> simp [multipartError]

/-- What a receiver takes of a response, with ranges or with the whole. -/
def receiveAnswer (r : Response) (ranges : List ByteRange) (x : ρ) : Except Error Unit × ρ :=
  if r.status = 206 then receivePartial r x else receiveFull r ranges x

/-- How a fetch goes: between the events that it begins and that it is over there is nothing, or a
response that is taken, one with ranges or with the whole. -/
lemma partialGet_cases (hranges : ranges ≠ []) (c : Client) (url : Url)
    (credentials : CredentialMap) (x : ρ) (download : Download) :
    let (asking, download') := download.initiating url.text
    let asked := RangeReceiver.note x asking
    let sent := c.send url (some (ByteRange.header ranges)) credentials .remoteFileDownload
    (∃ e, (sent.1 = .error e ∨ ∃ r, sent.1 = .ok r ∧ ¬ (r.status = 206 ∨ r.status = 200)) ∧
      c.partialGet url ranges credentials x download =
        (.error e, RangeReceiver.note asked download'.closed, sent.2)) ∨
    ∃ r, sent.1 = .ok r ∧ (r.status = 206 ∨ r.status = 200) ∧
      c.partialGet url ranges credentials x download =
        ((receiveAnswer r ranges
            (RangeReceiver.note asked (download'.started url.text r.length))).1,
          RangeReceiver.note (receiveAnswer r ranges
            (RangeReceiver.note asked (download'.started url.text r.length))).2 download'.closed,
          sent.2) := by
  rw [partialGet, if_neg (by simpa using hranges)]
  dsimp only
  generalize c.send url (some (ByteRange.header ranges)) credentials .remoteFileDownload = sent
  obtain ⟨e | r, c'⟩ := sent
  · exact .inl ⟨e, .inl rfl, rfl⟩
  dsimp only [receiveAnswer]
  by_cases h206 : r.status = 206
  · rw [if_pos h206]
    exact .inr ⟨r, rfl, .inl h206, by rw [if_pos h206]⟩
  · rw [if_neg h206]
    by_cases h200 : r.status = 200
    · rw [if_pos h200]
      exact .inr ⟨r, rfl, .inr h200, by rw [if_neg h206]⟩
    · rw [if_neg h200]
      exact .inl ⟨_, .inr ⟨r, rfl, not_or.mpr ⟨h206, h200⟩⟩, rfl⟩

end Client

namespace RangeReceiver

variable {ρ : Type} [RangeReceiver ρ] {Inv : Except Error Unit → ρ → Prop} {x : ρ}

/-! ### Properties of a result and a receiver -/

/-- What holds of a receiver and of the result so far goes on to do so with each range, and also if
the client stops, which it does not do by a panic. A client only hands over bodies that are
observed. -/
structure Tracks (Inv : Except Error Unit → ρ → Prop) : Prop where
  receive : ∀ x r body, body.observed = true → Inv (.ok ()) x →
    Inv (RangeReceiver.receive x r body).1 (RangeReceiver.receive x r body).2.1
  stop : ∀ x e, e ≠ .panic → Inv (.ok ()) x → Inv (.error e) x

namespace Tracks

lemma receiveParts (htracks : Tracks Inv) (h : Inv (.ok ()) x) (fuel : ℕ) (m : Multipart) :
    Inv (Client.receiveParts fuel m x).1 (Client.receiveParts fuel m x).2 := by
  induction fuel generalizing m x with
  | zero => exact h
  | succ fuel ih =>
    rw [Client.receiveParts]
    split
    · exact htracks.stop _ _ (Client.multipartError_ne_panic _) h
    · exact h
    · next r m' _ =>
      have htaken := htracks.receive x r (m'.body true) rfl h
      generalize RangeReceiver.receive x r (m'.body true) = result at htaken
      obtain ⟨_ | _, y, body⟩ := result
      · exact htaken
      · exact ih htaken (m'.resume body)

lemma receivePartial (htracks : Tracks Inv) (h : Inv (.ok ()) x) (r : Response) :
    Inv (Client.receivePartial r x).1 (Client.receivePartial r x).2 := by
  rw [Client.receivePartial]
  split
  · split
    · exact htracks.stop _ _ (by simp) h
    · exact htracks.receiveParts h _ _
  · split
    · exact htracks.stop _ _ (by simp) h
    · split
      · exact htracks.stop _ _ (by simp) h
      · exact htracks.receive x _ _ rfl h

lemma cutRanges (htracks : Tracks Inv) (h : Inv (.ok ()) x) (reader : Buffered) (position : ℕ)
    (rs : List ByteRange) :
    Inv (Client.cutRanges reader position x rs).1 (Client.cutRanges reader position x rs).2 := by
  induction rs generalizing reader position x with
  | nil => exact h
  | cons r rs ih =>
    rw [Client.cutRanges]
    split
    · exact htracks.stop _ _ (by simp) h
    split
    · exact htracks.stop _ _ (by simp) h
    next reader' _ =>
    split
    · exact htracks.stop _ _ (by simp) h
    · have htaken := htracks.receive x r ⟨reader', .upTo r.length, true⟩ rfl h
      generalize RangeReceiver.receive x r ⟨reader', .upTo r.length, true⟩ = result at htaken
      obtain ⟨_ | _, y, body⟩ := result
      · exact htaken
      · exact ih htaken body.reader r.stop

/-- **Whatever an answer holds**, the property is kept. -/
lemma receiveAnswer (htracks : Tracks Inv) (h : Inv (.ok ()) x) (r : Response)
    (ranges : List ByteRange) :
    Inv (Client.receiveAnswer r ranges x).1 (Client.receiveAnswer r ranges x).2 := by
  rw [Client.receiveAnswer]
  split
  · exact htracks.receivePartial h r
  · exact htracks.cutRanges h _ _ _

end Tracks

/-! ### Properties of a receiver -/

/-- A property that a receiver does not lose by taking a range, with whatever body, or by noting an
event. -/
structure Keeps (Inv : ρ → Prop) : Prop where
  receive : ∀ x r body, Inv x → Inv (RangeReceiver.receive x r body).2.1
  note : ∀ x e, Inv x → Inv (RangeReceiver.note x e)

lemma Keeps.partialGet {Inv : ρ → Prop} (hkeeps : Keeps Inv) (h : Inv x) (c : Client) (url : Url)
    (rs : List ByteRange) (credentials : CredentialMap) (download : Download) :
    Inv (c.partialGet url rs credentials x download).2.1 := by
  have htracks : Tracks fun _ => Inv :=
    ⟨fun x r body _ => hkeeps.receive x r body, fun _ _ _ => id⟩
  by_cases hrs : rs = []
  · subst hrs
    exact h
  have hasked := hkeeps.note x (download.initiating url.text).1 h
  rcases Client.partialGet_cases hrs c url credentials x download with
    ⟨e, -, heq⟩ | ⟨r, -, -, heq⟩
  · rw [heq]
    exact hkeeps.note _ _ hasked
  · rw [heq]
    exact hkeeps.note _ _ (htracks.receiveAnswer (hkeeps.note _ _ hasked) r rs)

end RangeReceiver

end SeedSync
