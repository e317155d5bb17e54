import Mathlib
import SeedSync.Proofs.Control.Encoding
import SeedSync.Proofs.Control.Fields
import SeedSync.Proofs.Stream.Lines

/-!
The grammar of a header: which bytes are read as one, what is taken from them, and where the reader
is left.
-/

namespace SeedSync.Header

/-- The bytes begin with the lines of a header: these entries, a blank line, and then the rest. -/
inductive Spells : List UInt8 → List Entry → List UInt8 → Prop
  | blank {line rest : List UInt8} (hline : IsLine line rest)
      (hblank : ∀ x ∈ line, x = 13 ∨ x = 10) : Spells (line ++ rest) [] rest
  | entry {line rest tail : List UInt8} {key value : List Char} {name : String}
      {entries : List Entry} (hline : IsLine line rest)
      (htext : line = Utf8.encode (String.ofList (key ++ ':' :: value))) (hcolon : ':' ∉ key)
      (hname : (Blank.trim key).map Char.toLower = name.toList)
      (more : Spells rest entries tail) :
      Spells (line ++ rest) ((name, Blank.trim value) :: entries) tail

variable {entries : List Entry} {name : String} {key value : List Char} {f g : Fields}
  {b : Buffered} {line rest : List UInt8}

lemma exists_readFields_of_isLine (h : b.Holds (line ++ rest)) (hline : IsLine line rest)
    (f : Fields) : ∃ c, c.Holds rest ∧ readFields f b =
      match Utf8.decode? line with
      | none => (.error (.control .notUtf8), c)
      | some text =>
        match Blank.dropTrailing isLineEnd text.toList with
        | [] => (.ok f, c)
        | line =>
          match f.setLine line with
          | .error fault => (.error (.control fault), c)
          | .ok f => readFields f c := by
  obtain ⟨c, hc, hrest⟩ := h.exists_readLine hline
  exact ⟨c, hrest, readFields_of_readLine hc hline.ne_nil f⟩

lemma isLineEnd_iff {c : Char} : isLineEnd c = true ↔ c = '\r' ∨ c = '\n' := by
  simp [isLineEnd]

lemma forall_mem_encode_iff {text : String} :
    (∀ x ∈ Utf8.encode text, x = 13 ∨ x = 10) ↔ ∀ c ∈ text.toList, isLineEnd c = true := by
  rw [← String.ofList_toList (s := text), String.toList_ofList]
  generalize text.toList = cs
  constructor
  · intro h
    have hascii := Utf8.lt_of_forall_mem_encode fun x hx => by
      rcases h x hx with rfl | rfl <;> decide
    rw [Utf8.encode_ofList_of_ascii hascii] at h
    intro c hc
    have hbyte := h _ (List.mem_map_of_mem hc)
    exact isLineEnd_iff.mpr (hbyte.imp (Utf8.byte_inj (hascii c hc) (by decide))
      (Utf8.byte_inj (hascii c hc) (by decide)))
  · intro h
    have hends : ∀ c ∈ cs, c = '\r' ∨ c = '\n' := fun c hc => isLineEnd_iff.mp (h c hc)
    have hascii : ∀ c ∈ cs, c.toNat < 128 := fun c hc => by
      rcases hends c hc with rfl | rfl <;> decide
    rw [Utf8.encode_ofList_of_ascii hascii]
    refine List.forall_mem_map.mpr fun c hc => ?_
    rcases hends c hc with rfl | rfl <;> decide

/-- The grammar is unambiguous: the first line is blank or has a colon, and its key ends at the
first one. -/
lemma Spells.unique {bytes : List UInt8} {entries' : List Entry} {rest' : List UInt8}
    (h : Spells bytes entries rest) (h' : Spells bytes entries' rest') :
    entries = entries' ∧ rest = rest' := by
  have hcolon {key value : List Char} :
      ¬∀ x ∈ Utf8.encode (String.ofList (key ++ ':' :: value)), x = 13 ∨ x = 10 := by
    rw [forall_mem_encode_iff, String.toList_ofList]
    exact fun hends => absurd (hends ':' (by simp)) (by decide)
  induction h generalizing entries' rest' with
  | @blank line rest hline hblank =>
    generalize hbytes : line ++ rest = bytes at h'
    cases h' with
    | blank hline' _ => exact ⟨rfl, (hline.unique hline' hbytes).2⟩
    | entry hline' htext _ _ _ =>
      obtain ⟨rfl, -⟩ := hline.unique hline' hbytes
      exact absurd (htext ▸ hblank) hcolon
  | @entry line rest tail key value name entries hline htext hkey hname _ ih =>
    generalize hbytes : line ++ rest = bytes at h'
    cases h' with
    | blank hline' hblank =>
      obtain ⟨rfl, -⟩ := hline.unique hline' hbytes
      exact absurd (htext ▸ hblank) hcolon
    | @entry line' rest' _ key' value' name' entries' hline' htext' hkey' hname' more =>
      obtain ⟨rfl, rfl⟩ := hline.unique hline' hbytes
      have hcut := Cut.cut?_append_cons hkey (b := value)
      rw [String.ofList_injective (Utf8.encode_inj (htext.symm.trans htext')),
        Cut.cut?_append_cons hkey'] at hcut
      obtain ⟨rfl, rfl⟩ := Prod.mk.inj (Option.some.inj hcut)
      obtain rfl := String.toList_inj.mp (hname.symm.trans hname')
      obtain ⟨rfl, rfl⟩ := ih more
      exact ⟨rfl, rfl⟩

lemma exists_readFields_of_blank (h : b.Holds (line ++ rest)) (hline : IsLine line rest)
    (hblank : ∀ x ∈ line, x = 13 ∨ x = 10) (f : Fields) :
    ∃ c, readFields f b = (.ok f, c) ∧ c.rest = rest := by
  obtain ⟨c, hc, hread⟩ := exists_readFields_of_isLine h hline f
  have hends : ∀ d ∈ line.map (fun x => Char.ofNat x.toNat), d = '\r' ∨ d = '\n' :=
    List.forall_mem_map.mpr fun x hx => by rcases hblank x hx with rfl | rfl <;> decide
  have hascii : ∀ d ∈ line.map (fun x => Char.ofNat x.toNat), d.toNat < 128 := fun d hd => by
    rcases hends d hd with rfl | rfl <;> decide
  have hbytes : line = Utf8.encode (String.ofList (line.map fun x => Char.ofNat x.toNat)) := by
    rw [Utf8.encode_ofList_of_ascii hascii, Utf8.ascii, List.map_map, List.map_congr_left
      (g := id) fun x hx => by rcases hblank x hx with rfl | rfl <;> rfl, List.map_id]
  refine ⟨c, ?_, hc.rest⟩
  rw [hread, Utf8.decode?_eq_some_iff.mpr hbytes]
  dsimp only
  rw [Blank.dropTrailing_eq_nil_iff.mpr]
  rw [String.toList_ofList]
  exact fun d hd => isLineEnd_iff.mpr (hends d hd)

lemma exists_readFields_of_entry (h : b.Holds (line ++ rest)) (hline : IsLine line rest)
    (htext : line = Utf8.encode (String.ofList (key ++ ':' :: value))) (hcolon : ':' ∉ key)
    (f : Fields) : ∃ c, c.Holds rest ∧ readFields f b =
      match f.set (Blank.trim key) (Blank.trim value) with
      | .error fault => (.error (.control fault), c)
      | .ok f => readFields f c := by
  obtain ⟨c, hc, hread⟩ := exists_readFields_of_isLine h hline f
  have hset : f.setLine (key ++ ':' :: Blank.dropTrailing isLineEnd value) =
      f.set (Blank.trim key) (Blank.trim value) := by
    rw [Fields.setLine, Cut.cut?_append_cons hcolon]
    dsimp only
    rw [Blank.trim_dropTrailing fun c hc => by rcases isLineEnd_iff.mp hc with rfl | rfl <;> decide]
  refine ⟨c, hc, ?_⟩
  rw [hread, Utf8.decode?_eq_some_iff.mpr htext, ← hset]
  dsimp only
  rw [String.toList_ofList, Blank.dropTrailing_append_cons (by decide)]
  cases key <;> rfl

lemma exists_spells {bytes : List UInt8} (h : b.Holds bytes) (hok : (readFields f b).1 = .ok g) :
    ∃ entries rest, Spells bytes entries rest := by
  induction hn : bytes.length using Nat.strong_induction_on generalizing b f bytes with
  | _ n ih =>
  by_cases hnil : bytes = []
  · subst hnil
    obtain ⟨c, hc⟩ := h.exists_readLine_nil
    rw [readFields] at hok
    split at hok
    · cases hok
    · cases hok
    · next heq =>
      rw [hc] at heq
      cases heq
  obtain ⟨line, rest, rfl, hline⟩ := IsLine.exists_of_ne_nil hnil
  obtain ⟨c, hc, hread⟩ := exists_readFields_of_isLine h hline f
  cases hdecode : Utf8.decode? line with
  | none => simp [hread, hdecode] at hok
  | some text =>
    obtain rfl := Utf8.decode?_eq_some_iff.mp hdecode
    by_cases hcolon : ':' ∈ text.toList
    · obtain ⟨key, value, htext, hkey⟩ := List.eq_append_cons_of_mem hcolon
      have hbytes : Utf8.encode text = Utf8.encode (String.ofList (key ++ ':' :: value)) := by
        rw [← htext, String.ofList_toList]
      obtain ⟨d, hd, hread⟩ := exists_readFields_of_entry h hline hbytes hkey f
      rw [hread] at hok
      cases hset : f.set (Blank.trim key) (Blank.trim value) with
      | error fault => simp [hset] at hok
      | ok f' =>
        rw [hset] at hok
        have hlt : rest.length < n := by
          have hpos := List.length_pos_of_ne_nil hline.ne_nil
          rw [List.length_append] at hn
          omega
        obtain ⟨entries, tail, hmore⟩ := ih rest.length hlt hd hok rfl
        exact ⟨_, tail, .entry hline hbytes hkey String.toList_ofList.symm hmore⟩
    · by_cases hblank : Blank.dropTrailing isLineEnd text.toList = []
      · exact ⟨[], rest, .blank hline
          (forall_mem_encode_iff.mpr (Blank.dropTrailing_eq_nil_iff.mp hblank))⟩
      · -- nowhere can the line be cut
        have hcut : Cut.cut? ':' (Blank.dropTrailing isLineEnd text.toList) = none := by
          obtain ⟨ds, htext, -⟩ := Blank.exists_dropTrailing_append isLineEnd text.toList
          rw [htext, List.mem_append, not_or] at hcolon
          refine Option.eq_none_iff_forall_not_mem.mpr ?_
          rintro ⟨key, value⟩ hkey
          exact hcolon.1 ((Cut.eq_of_cut? hkey).1 ▸ by simp)
        rw [hread, hdecode] at hok
        dsimp only at hok
        split at hok
        · next heq => exact absurd heq hblank
        · simp [Fields.setLine, hcut] at hok

/-- **Lines are read one after the other**, up to the blank one, if all of them are valid. -/
lemma Spells.readFields {bytes : List UInt8} (hspells : Spells bytes entries rest)
    (h : b.Holds bytes) {told : List Entry} (hf : f.Tells told) :
    ((∃ g, (readFields f b).1 = .ok g) ↔ ∀ e ∈ entries, e.IsValid) ∧
      ∀ g, (readFields f b).1 = .ok g →
        g.Tells (told ++ entries) ∧ (readFields f b).2.rest = rest := by
  induction hspells generalizing b f told with
  | blank hline hblank =>
    obtain ⟨c, hread, hrest⟩ := exists_readFields_of_blank h hline hblank f
    rw [hread, List.append_nil]
    refine ⟨iff_of_true ⟨f, rfl⟩ (List.forall_mem_nil _), fun g hg => ?_⟩
    obtain rfl := Except.ok.inj hg
    exact ⟨hf, hrest⟩
  | @entry line rest tail key value name entries hline htext hcolon hname _ ih =>
    obtain ⟨c, hc, hread⟩ := exists_readFields_of_entry h hline htext hcolon f
    have hvalid := exists_set_iff hname (Blank.trim value) f
    rw [hread]
    cases hset : f.set (Blank.trim key) (Blank.trim value) with
    | error fault =>
      rw [hset] at hvalid
      refine ⟨iff_of_false (by simp) fun hall => ?_, by simp⟩
      obtain ⟨g, hg⟩ := hvalid.mpr (hall _ List.mem_cons_self)
      cases hg
    | ok g =>
      obtain ⟨hall, hread⟩ := ih hc (hf.set hname hset)
      rw [List.append_assoc, List.singleton_append] at hread
      refine ⟨?_, hread⟩
      rw [hall, List.forall_mem_cons]
      exact (and_iff_right (hvalid.mp ⟨g, hset⟩)).symm

/-- **Just the headers of the grammar are read.** Whichever bytes come, however they arrive, a
header is read if and only if they begin with lines up to a blank one whose entries are acceptable.
Each field of it is then taken from the last entry under its name, and the reader is left at the
first byte behind the blank line. -/
theorem reads_its_grammar {b : Buffered} (hroom : 0 < b.capacity)
    (hending : b.source.ending = none) :
    ((∃ h, (read b).1 = .ok h) ↔
      ∃ entries rest, Spells b.rest entries rest ∧ Acceptable entries) ∧
    ∀ entries rest h, Spells b.rest entries rest → (read b).1 = .ok h →
      TakenFrom entries h ∧ (read b).2.rest = rest := by
  have hb : b.Holds b.rest := ⟨⟨hroom, rfl⟩, hending⟩
  have hread (h : Header) : (read b).1 = .ok h ↔
      ∃ f, (readFields .empty b).1 = .ok f ∧ f.finish = .ok h := by
    rw [read]
    split
    · next hfields => simp [hfields]
    · next f _ hfields =>
      rw [hfields]
      split
      · next hfinish => simp [hfinish]
      · next hfinish => simp [hfinish]
  have hleft : (read b).2 = (readFields .empty b).2 := by
    rw [read]
    split
    · next hfields => rw [hfields]
    · next hfields =>
      rw [hfields]
      split <;> rfl
  refine ⟨⟨?_, ?_⟩, ?_⟩
  · rintro ⟨h, hok⟩
    obtain ⟨f, hfields, hfinish⟩ := (hread h).mp hok
    obtain ⟨entries, rest, hspells⟩ := exists_spells hb hfields
    obtain ⟨hvalid, htells⟩ := hspells.readFields hb Fields.tells_nil
    exact ⟨entries, rest, hspells, acceptable_iff.mpr
      ⟨hvalid.mp ⟨f, hfields⟩, ((htells f hfields).1.takenFrom hfinish).complete⟩⟩
  · rintro ⟨entries, rest, hspells, hacceptable⟩
    obtain ⟨hall, hcomplete⟩ := acceptable_iff.mp hacceptable
    obtain ⟨hvalid, htells⟩ := hspells.readFields hb Fields.tells_nil
    obtain ⟨f, hfields⟩ := hvalid.mpr hall
    obtain ⟨h, hfinish⟩ := (htells f hfields).1.exists_finish hcomplete
    exact ⟨h, (hread h).mpr ⟨f, hfields, hfinish⟩⟩
  · intro entries rest h hspells hok
    obtain ⟨f, hfields, hfinish⟩ := (hread h).mp hok
    obtain ⟨htold, hrest⟩ := (hspells.readFields hb Fields.tells_nil).2 f hfields
    exact ⟨htold.takenFrom hfinish, hleft ▸ hrest⟩

open ControlFile in
/-- The table that follows, and what follows it, is left to be read. -/
theorem reads_the_header_before_a_table :
    0 < fourReader.capacity ∧ fourReader.source.ending = none ∧
    ∃ entries rest, rest = fourSums.flatMap (encodeEntry ⟨1, 2, 3⟩) ++ [10, 0] ∧
      Spells fourReader.rest entries rest ∧ Acceptable entries ∧
      (read fourReader).1 = .ok (.fourBytes 1) ∧ TakenFrom entries (.fourBytes 1) ∧
      (read fourReader).2.rest = rest := by
  have hready : fourReader.Ready (fourLines.flatMap Line.bytes ++
      (lineBytes [] true ++ (fourSums.flatMap (encodeEntry ⟨1, 2, 3⟩) ++ [10, 0]))) :=
    ⟨by decide, by simp [fourReader, written, Buffered.rest, Buffered.ofSource]⟩
  obtain ⟨c, hc, hleft⟩ := describes_fourBytes.exists_read writable_fourBytes hready
  have hok : (read fourReader).1 = .ok (.fourBytes 1) := by rw [hc]
  have hgrammar := reads_its_grammar (b := fourReader) (by decide) rfl
  obtain ⟨entries, rest, hspells, hacceptable⟩ := hgrammar.1.mp ⟨_, hok⟩
  obtain ⟨htaken, hrest⟩ := hgrammar.2 entries rest _ hspells hok
  refine ⟨by decide, rfl, entries, rest, ?_, hspells, hacceptable, hok, htaken, hrest⟩
  rw [← hrest, hc]
  exact hleft.rest

end SeedSync.Header
