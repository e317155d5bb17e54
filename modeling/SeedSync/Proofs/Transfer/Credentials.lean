import Mathlib
import SeedSync.Proofs.Text.Base64
import SeedSync.Proofs.Text.Cut
import SeedSync.Proofs.Text.Utf8
import SeedSync.Transfer.Credentials

/-!
Credentials from the text that a user writes to the token that a server reads: nothing of them is
lost on the way.
-/

namespace SeedSync.Credentials

variable {c d : Credentials} {host value : String}

def text (c : Credentials) : String := c.username ++ ":" ++ c.password

lemma toList_text (c : Credentials) :
    c.text.toList = c.username.toList ++ ':' :: c.password.toList := by
  simp [text]

/-- What is read as credentials has a colon, and a username before the first one. -/
lemma parse_eq_ok_iff : parse value = .ok c ↔
    value = c.text ∧ ':' ∉ c.username.toList ∧ c.username ≠ "" := by
  rw [← String.toList_inj, toList_text, parse]
  constructor
  · intro h
    split at h
    · cases h
    · cases h
    next user pass hne hcut =>
    obtain rfl := Except.ok.inj h
    obtain ⟨hvalue, huser⟩ := Cut.cut?_eq_some_iff.mp hcut
    simp only [String.toList_ofList]
    exact ⟨hvalue, huser, fun h => hne (String.ofList_eq_empty_iff.mp h)⟩
  · rintro ⟨hvalue, huser, hne⟩
    rw [hvalue, Cut.cut?_append_cons huser]
    cases hlist : c.username.toList with
    | nil => exact absurd (String.toList_eq_nil_iff.mp hlist) hne
    | cons x xs =>
      simp only [← hlist, String.ofList_toList]

/-- What is read as an entry for a host has an equals sign, the host before the first one, and
credentials behind it. -/
lemma parseForHost_eq_ok_iff : parseForHost value = .ok (host, c) ↔ ∃ before,
    value.toList = before ++ '=' :: c.text.toList ∧ '=' ∉ before ∧
      Blank.trim before = host.toList ∧ host ≠ "" ∧ ':' ∉ c.username.toList ∧ c.username ≠ "" := by
  rw [parseForHost]
  constructor
  · intro h
    split at h
    · cases h
    next before rest hcut =>
    obtain ⟨hvalue, hbefore⟩ := Cut.cut?_eq_some_iff.mp hcut
    split at h
    · cases h
    next hne =>
    split at h
    · cases h
    next hparse =>
    obtain ⟨rfl, rfl⟩ := Prod.mk.inj (Except.ok.inj h)
    obtain ⟨hrest, huser⟩ := parse_eq_ok_iff.mp hparse
    refine ⟨before, ?_, hbefore, ?_, ?_, huser⟩
    · rw [← hrest, String.toList_ofList, hvalue]
    · rw [String.toList_ofList]
    · exact fun h => hne (String.ofList_eq_empty_iff.mp h)
  · rintro ⟨before, hvalue, hbefore, hhost, hne, hc⟩
    rw [hvalue, Cut.cut?_append_cons hbefore]
    dsimp only
    rw [hhost]
    cases hlist : host.toList with
    | nil => exact absurd (String.toList_eq_nil_iff.mp hlist) hne
    | cons x xs =>
      rw [String.ofList_toList, parse_eq_ok_iff.mpr ⟨rfl, hc⟩]
      simp only [← hlist, String.ofList_toList]

lemma basic_eq (c : Credentials) :
    c.basic = "Basic " ++ String.ofList (Base64.encode (Utf8.encode c.text)) := by
  unfold basic text
  have hscheme : String.ofList "Basic ".toList = "Basic " := String.ofList_toList
  rw [String.ofList_append, hscheme]

lemma basic_inj (h : c.basic = d.basic) : c.text = d.text := by
  rw [basic_eq, basic_eq, String.append_right_inj] at h
  have hdecode := Base64.decode?_encode (Utf8.encode c.text)
  rw [String.ofList_injective h, Base64.decode?_encode] at hdecode
  exact (Utf8.encode_inj (Option.some.inj hdecode)).symm

/-- **Credentials get from the command line to the server.** A text is read as an entry for a host
if and only if it has an equals sign, before the first one the host, with any blanks around it, and
behind it credentials in their written form, with a username that is not empty and ends before the
first colon. The value that is sent is the scheme and the one Base64 text that stands for the bytes
of this written form, so that those of two written forms differ. -/
theorem carries_credentials (value host : String) (c : Credentials) :
    (parseForHost value = .ok (host, c) ↔ ∃ before,
      value.toList = before ++ '=' :: c.text.toList ∧ '=' ∉ before ∧
        Blank.trim before = host.toList ∧ host ≠ "" ∧
        ':' ∉ c.username.toList ∧ c.username ≠ "") ∧
    (∃ token, c.basic = "Basic " ++ String.ofList token ∧
      ∀ cs, Base64.decode? cs = some (Utf8.encode c.text) ↔ cs = token) ∧
    ∀ d : Credentials, d.text ≠ c.text → d.basic ≠ c.basic :=
  ⟨parseForHost_eq_ok_iff, ⟨_, basic_eq c, fun _ => Base64.decode?_eq_some_iff⟩,
    fun _ hne h => hne (basic_inj h)⟩

/-- Blanks around the host, a letter of two bytes, and signs in the password. -/
theorem carries_a_password_with_signs :
    (⟨"ü", "a=b:C"⟩ : Credentials).text ≠ (⟨"ü", "a=b:c"⟩ : Credentials).text ∧
      parseForHost " h =ü:a=b:c" = .ok ("h", ⟨"ü", "a=b:c"⟩) ∧
      (⟨"ü", "a=b:c"⟩ : Credentials).basic = "Basic w7w6YT1iOmM=" ∧
      (⟨"ü", "a=b:C"⟩ : Credentials).basic ≠ "Basic w7w6YT1iOmM=" := by
  have hne : (⟨"ü", "a=b:C"⟩ : Credentials).text ≠ (⟨"ü", "a=b:c"⟩ : Credentials).text := by
    decide
  obtain ⟨hread, ⟨token, hbasic, htoken⟩, hother⟩ :=
    carries_credentials " h =ü:a=b:c" "h" ⟨"ü", "a=b:c"⟩
  obtain rfl := (htoken "w7w6YT1iOmM=".toList).mp (by decide +kernel)
  have hbasic : (⟨"ü", "a=b:c"⟩ : Credentials).basic = "Basic w7w6YT1iOmM=" :=
    hbasic.trans (by decide)
  exact ⟨hne, hread.mpr ⟨" h ".toList, by decide +kernel⟩, hbasic, hbasic ▸ hother _ hne⟩

/-- A username may not be empty, even if the password has a colon. -/
theorem refuses_an_empty_username :
    "h=:a:b".toList = ['h'] ++ '=' :: [':', 'a', ':', 'b'] ∧ '=' ∉ ['h'] ∧
      Blank.trim ['h'] = ['h'] ∧ [':', 'a', ':', 'b'][2]? = some ':' ∧
      ∀ host c, parseForHost "h=:a:b" ≠ .ok (host, c) := by
  refine ⟨by decide, by decide, by decide, by decide, fun host c h => ?_⟩
  have hfault : parseForHost "h=:a:b" = .error (.credentials "h" .noUsername) := by decide
  rw [hfault] at h
  cases h

end SeedSync.Credentials
