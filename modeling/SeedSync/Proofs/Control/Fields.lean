import Mathlib
import SeedSync.Proofs.Control.Lines
import SeedSync.Proofs.Control.Values
import SeedSync.Proofs.Error

/-!
What the entries of a header say, and how it is gathered: each is set as it comes, and the last one
under a name counts.
-/

namespace SeedSync.Header

/-- The key of a line in lower case, and its value. -/
abbrev Entry : Type := String × List Char

def valuesOf (name : String) (entries : List Entry) : List (List Char) :=
  (entries.filter fun e => e.1 == name).map Prod.snd

def lastOf (name : String) (entries : List Entry) : Option (List Char) :=
  (valuesOf name entries).getLast?

/-- Nothing is missing in the entries. -/
structure Complete (entries : List Entry) : Prop where
  required : ∀ name ∈ ["zsync", "length", "blocksize", "sha-1", "url"], valuesOf name entries ≠ []
  named : (∃ name, lastOf "filename" entries = some name ∧ name ≠ []) ∨
    ∃ url name, lastOf "url" entries = some url ∧ EndsPath url name

/-- Nothing in them is wrong either. -/
structure Acceptable (entries : List Entry) : Prop extends Complete entries where
  lengths : ∀ v ∈ valuesOf "length" entries, ∃ n, ReadsLength v n
  blockSizes : ∀ v ∈ valuesOf "blocksize" entries, ∃ n, ReadsBlockSize v n
  hashLengths : ∀ v ∈ valuesOf "hash-lengths" entries, ∃ l, ReadsHashLengths v l
  sha1s : ∀ v ∈ valuesOf "sha-1" entries, ∃ sha1, ReadsSha1 v sha1
  mtimes : ∀ v ∈ valuesOf "mtime" entries, ∃ t, MailDate.parse? v = some t

/-- Each field of the header is what the last entry under its name says, and else what holds without
one. -/
structure TakenFrom (entries : List Entry) (h : Header) : Prop where
  version : lastOf "zsync" entries = some h.version.toList
  length : ∃ v, lastOf "length" entries = some v ∧ ReadsLength v h.length
  blockSize : ∃ v, lastOf "blocksize" entries = some v ∧ ReadsBlockSize v h.blockSize
  hashLengths : lastOf "hash-lengths" entries = none ∧ h.hashLengths = ⟨1, 4, 16⟩ ∨
    ∃ v, lastOf "hash-lengths" entries = some v ∧ ReadsHashLengths v h.hashLengths
  sha1 : ∃ v, lastOf "sha-1" entries = some v ∧ ReadsSha1 v h.sha1
  url : lastOf "url" entries = some h.url.toList
  filename : lastOf "filename" entries = some h.filename.toList ∧ h.filename ≠ "" ∨
    (∀ v ∈ lastOf "filename" entries, v = []) ∧ EndsPath h.url.toList h.filename.toList
  mtime : h.mtime = (lastOf "mtime" entries).bind MailDate.parse?

variable {entries : List Entry} {name : String} {key value : List Char} {f g : Fields}

/-! ### Values by their names -/

lemma mem_valuesOf : value ∈ valuesOf name entries ↔ (name, value) ∈ entries := by
  simp [valuesOf]

lemma lastOf_concat (name : String) (entries : List Entry) (e : Entry) :
    lastOf name (entries ++ [e]) = if e.1 = name then some e.2 else lastOf name entries := by
  have hvalues : valuesOf name (entries ++ [e]) =
      valuesOf name entries ++ if e.1 = name then [e.2] else [] := by
    rw [valuesOf, List.filter_append, List.map_append]
    split_ifs with h <;> simp [h, valuesOf]
  rw [lastOf, hvalues]
  split_ifs
  · exact List.getLast?_concat
  · rw [List.append_nil, lastOf]

lemma lastOf_eq_none_iff : lastOf name entries = none ↔ valuesOf name entries = [] :=
  List.getLast?_eq_none_iff

/-- What the value says under its name can be read. -/
@[mk_iff]
structure Entry.IsValid (e : Entry) : Prop where
  length : e.1 = "length" → ∃ n, ReadsLength e.2 n
  blockSize : e.1 = "blocksize" → ∃ n, ReadsBlockSize e.2 n
  hashLengths : e.1 = "hash-lengths" → ∃ l, ReadsHashLengths e.2 l
  sha1 : e.1 = "sha-1" → ∃ sha1, ReadsSha1 e.2 sha1
  mtime : e.1 = "mtime" → ∃ t, MailDate.parse? e.2 = some t

/-- Each value is what the last entry under its name says. -/
structure Fields.Tells (f : Fields) (entries : List Entry) : Prop where
  version : f.version = lastOf "zsync" entries
  length : Option.Rel (ReadsLength · ·.val) (lastOf "length" entries) f.length
  blockSize : Option.Rel (ReadsBlockSize · ·.val) (lastOf "blocksize" entries) f.blockSize
  hashLengths : lastOf "hash-lengths" entries = none ∧ f.hashLengths = ⟨1, 4, 16⟩ ∨
    ∃ v, lastOf "hash-lengths" entries = some v ∧ ReadsHashLengths v f.hashLengths
  sha1 : Option.Rel ReadsSha1 (lastOf "sha-1" entries) f.sha1
  url : f.url = lastOf "url" entries
  filename : f.filename = lastOf "filename" entries
  mtime : f.mtime = (lastOf "mtime" entries).bind MailDate.parse?

lemma mtime?_eq_ok_iff {t : Instant} : mtime? value = .ok t ↔ MailDate.parse? value = some t := by
  rw [mtime?]
  split <;> simp_all

lemma exists_set_iff (hkey : key.map Char.toLower = name.toList) (value : List Char) (f : Fields) :
    (∃ g, f.set key value = .ok g) ↔ Entry.IsValid (name, value) := by
  rw [Fields.set, hkey, Entry.isValid_iff]
  simp only [beq_toList, beq_iff_eq]
  split_ifs with hzsync hlength hsize hlengths hsha hurl hfilename hmtime
  · simp [hzsync]
  · simpa [hlength, exists_map_ok, number_eq_ok_iff, ← readsLength_iff] using
      exists_fin_iff (P := ReadsLength value) fun _ => And.right
  · simpa [hsize, exists_map_ok, blockSize?_eq_ok_iff] using
      exists_fin_iff (P := ReadsBlockSize value) fun _ h => h.1.2
  · simp [hlengths, exists_map_ok, hashLengths?_eq_ok_iff]
  · simp [hsha, exists_map_ok, sha1?_eq_ok_iff]
  · simp [hurl]
  · simp [hfilename]
  · simp [hmtime, exists_map_ok, mtime?_eq_ok_iff]
  · simp [hlength, hsize, hlengths, hsha, hmtime]

lemma Fields.Tells.set (h : f.Tells entries) (hkey : key.map Char.toLower = name.toList)
    (hset : f.set key value = .ok g) : g.Tells (entries ++ [(name, value)]) := by
  rw [Fields.set, hkey] at hset
  simp only [beq_toList, beq_iff_eq] at hset
  obtain ⟨hversion, hlength, hsize, hlengths, hsha, hurl, hfilename, hmtime⟩ := h
  -- one case for each name, in the order in which they are looked for
  split_ifs at hset with hzsync' hlength' hsize' hlengths' hsha' hurl' hfilename' hmtime'
  · subst hzsync'
    obtain rfl := Except.ok.inj hset
    constructor <;> simp [lastOf_concat, *]
  · subst hlength'
    obtain ⟨n, hn, rfl⟩ := map_ok.mp hset
    have hread := readsLength_iff.mpr (number_eq_ok_iff.mp hn)
    constructor <;> simp [lastOf_concat, *]
  · subst hsize'
    obtain ⟨n, hn, rfl⟩ := map_ok.mp hset
    have hread := blockSize?_eq_ok_iff.mp hn
    constructor <;> simp [lastOf_concat, *]
  · subst hlengths'
    obtain ⟨n, hn, rfl⟩ := map_ok.mp hset
    have hread := hashLengths?_eq_ok_iff.mp hn
    constructor <;> simp [lastOf_concat, *]
  · subst hsha'
    obtain ⟨n, hn, rfl⟩ := map_ok.mp hset
    have hread := sha1?_eq_ok_iff.mp hn
    constructor <;> simp [lastOf_concat, *]
  · subst hurl'
    obtain rfl := Except.ok.inj hset
    constructor <;> simp [lastOf_concat, *]
  · subst hfilename'
    obtain rfl := Except.ok.inj hset
    constructor <;> simp [lastOf_concat, *]
  · subst hmtime'
    obtain ⟨n, hn, rfl⟩ := map_ok.mp hset
    have hread := mtime?_eq_ok_iff.mp hn
    constructor <;> simp [lastOf_concat, *]
  · obtain rfl := Except.ok.inj hset
    constructor <;> simp [lastOf_concat, *]

/-! ### All entries -/

lemma Fields.tells_nil : Fields.empty.Tells [] where
  version := rfl
  length := .none
  blockSize := .none
  hashLengths := .inl ⟨rfl, rfl⟩
  sha1 := .none
  url := rfl
  filename := rfl
  mtime := rfl

lemma acceptable_iff : Acceptable entries ↔ (∀ e ∈ entries, e.IsValid) ∧ Complete entries := by
  constructor
  · rintro ⟨hcomplete, hlength, hsize, hlengths, hsha, htime⟩
    simp only [mem_valuesOf] at hlength hsize hlengths hsha htime
    refine ⟨?_, hcomplete⟩
    rintro ⟨name, value⟩ he
    refine ⟨?_, ?_, ?_, ?_, ?_⟩
    · rintro rfl
      exact hlength value he
    · rintro rfl
      exact hsize value he
    · rintro rfl
      exact hlengths value he
    · rintro rfl
      exact hsha value he
    · rintro rfl
      exact htime value he
  · rintro ⟨h, hcomplete⟩
    exact ⟨hcomplete, fun v hv => (h _ (mem_valuesOf.mp hv)).length rfl,
      fun v hv => (h _ (mem_valuesOf.mp hv)).blockSize rfl,
      fun v hv => (h _ (mem_valuesOf.mp hv)).hashLengths rfl,
      fun v hv => (h _ (mem_valuesOf.mp hv)).sha1 rfl,
      fun v hv => (h _ (mem_valuesOf.mp hv)).mtime rfl⟩

lemma filename_eq_some_iff {own : Option (List Char)} {url name : List Char} :
    (own.filter (· ≠ [])).or (filenameOfUrl url) = some name ↔
      own = some name ∧ name ≠ [] ∨ (∀ v ∈ own, v = []) ∧ EndsPath url name := by
  rw [← filenameOfUrl_eq_some_iff]
  rcases own with _ | _ | ⟨c, cs⟩
  · simp
  · simp [Option.filter_some]
  · simp [Option.filter_some]
    grind

/-- What it takes for nothing to be missing. -/
lemma Fields.finish_eq_ok_iff {h : Header} : f.finish = .ok h ↔
    f.version = some h.version.toList ∧ f.length = some ⟨h.length, h.length_lt⟩ ∧
      f.blockSize = some ⟨h.blockSize, h.blockSize_lt⟩ ∧ f.hashLengths = h.hashLengths ∧
      f.sha1 = some h.sha1 ∧ f.url = some h.url.toList ∧
      (f.filename = some h.filename.toList ∧ h.filename.toList ≠ [] ∨
        (∀ v ∈ f.filename, v = []) ∧ EndsPath h.url.toList h.filename.toList) ∧
      f.mtime = h.mtime := by
  rw [← filename_eq_some_iff]
  constructor
  · intro hok
    unfold Fields.finish at hok
    repeat' split at hok
    all_goals cases hok
    simp_all
  · rintro ⟨hversion, hlength, hsize, hlengths, hsha, hurl, hname, htime⟩
    rw [Fields.finish, hurl]
    dsimp only
    rw [hname, hlength, hsize, hversion, hsha, hlengths, htime]
    simp

lemma exists_of_rel {α β : Type} {r : α → β → Prop} {a : Option α} {b : Option β} {y : β}
    (h : Option.Rel r a b) (hb : b = some y) : ∃ x, a = some x ∧ r x y := by
  subst hb
  cases h with
  | some h => exact ⟨_, rfl, h⟩

lemma exists_some_of_rel {α β : Type} {r : α → β → Prop} {a : Option α} {b : Option β}
    (h : Option.Rel r a b) (ha : a ≠ none) : ∃ y, b = some y := by
  cases h with
  | none => exact absurd rfl ha
  | some => exact ⟨_, rfl⟩

lemma Fields.Tells.takenFrom {h : Header} (hf : f.Tells entries) (hok : f.finish = .ok h) :
    TakenFrom entries h := by
  obtain ⟨hversion, hlength, hsize, hlengths, hsha, hurl, hname, htime⟩ := finish_eq_ok_iff.mp hok
  obtain ⟨length, hlength, hreadLength⟩ := exists_of_rel hf.length hlength
  obtain ⟨blockSize, hsize, hreadSize⟩ := exists_of_rel hf.blockSize hsize
  exact {
    version := hf.version ▸ hversion
    length := ⟨length, hlength, hreadLength⟩
    blockSize := ⟨blockSize, hsize, hreadSize⟩
    hashLengths := hlengths ▸ hf.hashLengths
    sha1 := exists_of_rel hf.sha1 hsha
    url := hf.url ▸ hurl
    filename := by
      rw [← hf.filename]
      exact hname.imp_left (And.imp_right (mt String.toList_eq_nil_iff.mpr))
    mtime := htime ▸ hf.mtime }

lemma TakenFrom.complete {h : Header} (ht : TakenFrom entries h) : Complete entries where
  required := by
    obtain ⟨_, hlength, -⟩ := ht.length
    obtain ⟨_, hsize, -⟩ := ht.blockSize
    obtain ⟨_, hsha, -⟩ := ht.sha1
    simp [← lastOf_eq_none_iff, ht.version, hlength, hsize, hsha, ht.url]
  named := by
    rcases ht.filename with ⟨hname, hne⟩ | ⟨-, hend⟩
    · exact .inl ⟨_, hname, mt String.toList_eq_nil_iff.mp hne⟩
    · exact .inr ⟨_, _, ht.url, hend⟩

lemma Fields.Tells.exists_finish (hf : f.Tells entries) (hc : Complete entries) :
    ∃ h, f.finish = .ok h := by
  have hrequired := hc.required
  simp only [ne_eq, ← lastOf_eq_none_iff, List.forall_mem_cons, List.not_mem_nil, false_implies,
    implies_true, and_true] at hrequired
  obtain ⟨hversion, hlength, hsize, hsha, hurl⟩ := hrequired
  obtain ⟨version, hversion⟩ := Option.ne_none_iff_exists'.mp (hf.version ▸ hversion)
  obtain ⟨length, hlength⟩ := exists_some_of_rel hf.length hlength
  obtain ⟨blockSize, hsize⟩ := exists_some_of_rel hf.blockSize hsize
  obtain ⟨sha1, hsha⟩ := exists_some_of_rel hf.sha1 hsha
  obtain ⟨url, hurl⟩ := Option.ne_none_iff_exists'.mp (hf.url ▸ hurl)
  obtain ⟨name, hname⟩ : ∃ name, f.filename = some name ∧ name ≠ [] ∨
      (∀ v ∈ f.filename, v = []) ∧ EndsPath url name := by
    by_cases hempty : ∀ v ∈ f.filename, v = []
    · rcases hc.named with ⟨name, hname, hne⟩ | ⟨url', name, hurl', hend⟩
      · exact absurd (hempty name (hf.filename ▸ hname)) hne
      · obtain rfl : url' = url := Option.some.inj (hurl'.symm.trans (hf.url ▸ hurl))
        exact ⟨name, .inr ⟨hempty, hend⟩⟩
    · push Not at hempty
      obtain ⟨name, hname, hne⟩ := hempty
      exact ⟨name, .inl ⟨hname, hne⟩⟩
  refine ⟨⟨String.ofList version, length, blockSize, f.hashLengths, sha1, String.ofList url,
    String.ofList name, f.mtime, length.isLt, blockSize.isLt⟩, finish_eq_ok_iff.mpr ?_⟩
  simp only [String.toList_ofList]
  exact ⟨hversion, hlength, hsize, trivial, hsha, hurl, hname, trivial⟩

end SeedSync.Header
