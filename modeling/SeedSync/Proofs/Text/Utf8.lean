import Mathlib
import SeedSync.Text.Utf8

/-!
Text as bytes, and how bytes are read that begin with ASCII: whatever follows, the text comes out
as it went in.
-/

namespace SeedSync.Utf8

def ascii (cs : List Char) : List UInt8 := cs.map fun c => UInt8.ofNat c.toNat

@[simp] lemma ascii_nil : ascii [] = [] := rfl

@[simp] lemma ascii_cons (c : Char) (cs : List Char) :
    ascii (c :: cs) = UInt8.ofNat c.toNat :: ascii cs := rfl

@[simp] lemma ascii_append (cs ds : List Char) : ascii (cs ++ ds) = ascii cs ++ ascii ds :=
  List.map_append

@[simp] lemma length_ascii (cs : List Char) : (ascii cs).length = cs.length := List.length_map _

lemma toNat_byte {c : Char} (h : c.toNat < 128) : (UInt8.ofNat c.toNat).toNat = c.toNat := by
  rw [UInt8.toNat_ofNat']
  omega

lemma byte_inj {c d : Char} (hc : c.toNat < 128) (hd : d.toNat < 128)
    (h : UInt8.ofNat c.toNat = UInt8.ofNat d.toNat) : c = d := by
  have h := congrArg UInt8.toNat h
  rw [toNat_byte hc, toNat_byte hd] at h
  rw [← Char.ofNat_toNat c, h, Char.ofNat_toNat]

lemma mem_of_mem_ascii {cs : List Char} (h : ∀ c ∈ cs, c.toNat < 128) {d : Char}
    (hd : d.toNat < 128) (hmem : UInt8.ofNat d.toNat ∈ ascii cs) : d ∈ cs := by
  obtain ⟨c, hc, heq⟩ := List.mem_map.mp hmem
  rwa [← byte_inj (h c hc) hd heq]

/-! ### Writing -/

lemma encode_ofList (cs : List Char) :
    encode (String.ofList cs) = cs.flatMap String.utf8EncodeChar := by
  rw [encode, String.toUTF8_eq_toByteArray, String.toByteArray_ofList]
  exact List.toList_data_toByteArray

lemma utf8EncodeChar_of_lt {c : Char} (h : c.toNat < 128) :
    String.utf8EncodeChar c = [UInt8.ofNat c.toNat] :=
  if_pos (Nat.le_of_lt_succ h)

lemma le_of_mem_utf8EncodeChar {c : Char} (hc : 128 ≤ c.toNat) {b : UInt8}
    (hb : b ∈ String.utf8EncodeChar c) : 128 ≤ b.toNat := by
  have hval : c.val.toNat = c.toNat := rfl
  unfold String.utf8EncodeChar at hb
  dsimp only at hb
  split_ifs at hb with h1 h2 h3
  · omega
  all_goals
    simp only [List.mem_cons, List.not_mem_nil, or_false] at hb
    -- each byte has its high bit set
    have hbyte (n : ℕ) (hn : n < 256) : (UInt8.ofNat n).toNat = n := by
      rw [UInt8.toNat_ofNat']
      omega
  · rcases hb with rfl | rfl <;> rw [hbyte _ (by omega)] <;> omega
  · rcases hb with rfl | rfl | rfl <;> rw [hbyte _ (by omega)] <;> omega
  · rcases hb with rfl | rfl | rfl | rfl <;> rw [hbyte _ (by omega)] <;> omega

lemma mem_of_mem_encode {cs : List Char} {d : Char} (hd : d.toNat < 128)
    (hmem : UInt8.ofNat d.toNat ∈ encode (String.ofList cs)) : d ∈ cs := by
  rw [encode_ofList, List.mem_flatMap] at hmem
  obtain ⟨c, hc, hmem⟩ := hmem
  rcases Nat.lt_or_ge c.toNat 128 with hlt | hge
  · rw [utf8EncodeChar_of_lt hlt] at hmem
    rwa [byte_inj hd hlt (List.mem_singleton.mp hmem)]
  · have := le_of_mem_utf8EncodeChar hge hmem
    rw [toNat_byte hd] at this
    omega

lemma encode_ofList_of_ascii {cs : List Char} (h : ∀ c ∈ cs, c.toNat < 128) :
    encode (String.ofList cs) = ascii cs := by
  rw [encode_ofList, ascii, List.map_eq_flatMap]
  exact List.flatMap_congr fun c hc => utf8EncodeChar_of_lt (h c hc)

/-- **What is written as UTF-8 is read back.** -/
lemma decode?_encode (s : String) : decode? (encode s) = some s := by
  rw [decode?, encode, String.fromUTF8?]
  exact dif_pos s.isValidUTF8

lemma decode?_eq_some_iff {bs : List UInt8} {s : String} : decode? bs = some s ↔ bs = encode s := by
  constructor
  · intro h
    rw [decode?, String.fromUTF8?] at h
    split at h
    · obtain rfl := Option.some.inj h
      rfl
    · cases h
  · rintro rfl
    exact decode?_encode s

lemma encode_inj {s t : String} (h : encode s = encode t) : s = t :=
  Option.some.inj ((decode?_encode s).symm.trans (h ▸ decode?_encode t))

lemma lt_of_forall_mem_encode {cs : List Char}
    (h : ∀ b ∈ encode (String.ofList cs), b.toNat < 128) : ∀ c ∈ cs, c.toNat < 128 := by
  intro c hc
  by_contra hge
  obtain ⟨b, hb⟩ := List.exists_mem_of_ne_nil _ (String.utf8EncodeChar_ne_nil (c := c))
  have hlt := h b (encode_ofList cs ▸ List.mem_flatMap_of_mem hc hb)
  have hle := le_of_mem_utf8EncodeChar (Nat.not_lt.mp hge) hb
  omega

lemma ascii_inj {cs ds : List Char} (hc : ∀ c ∈ cs, c.toNat < 128) (hd : ∀ d ∈ ds, d.toNat < 128)
    (h : ascii cs = ascii ds) : cs = ds := by
  rw [← encode_ofList_of_ascii hc, ← encode_ofList_of_ascii hd] at h
  exact String.ofList_injective (encode_inj h)

/-! ### Reading -/

lemma start_append (done old : List Char) (b : UInt8) :
    start (done ++ old) b = ⟨(start done b).done ++ old, (start done b).pending⟩ := by
  unfold start
  split
  · rfl
  · split <;> rfl

lemma step_append (done old : List Char) (pending : Option Pending) (b : UInt8) :
    Scan.step ⟨done ++ old, pending⟩ b =
      ⟨(Scan.step ⟨done, pending⟩ b).done ++ old, (Scan.step ⟨done, pending⟩ b).pending⟩ := by
  rcases pending with _ | ⟨_ | ⟨⟨lo, hi⟩, due⟩, bits⟩
  · exact start_append done old b
  · exact start_append done old b
  · simp only [Scan.step]
    split
    · split <;> rfl
    · exact start_append (replacement :: done) old b

lemma foldl_step_append (bs : List UInt8) (done old : List Char) (pending : Option Pending) :
    bs.foldl Scan.step ⟨done ++ old, pending⟩ =
      ⟨(bs.foldl Scan.step ⟨done, pending⟩).done ++ old,
        (bs.foldl Scan.step ⟨done, pending⟩).pending⟩ := by
  induction bs generalizing done pending with
  | nil => rfl
  | cons b bs ih =>
    rw [List.foldl_cons, step_append, ih]
    rfl

lemma decodeLossy_cons {c : Char} (hc : c.toNat < 128) (bs : List UInt8) :
    decodeLossy (UInt8.ofNat c.toNat :: bs) = c :: decodeLossy bs := by
  have hbyte := toNat_byte hc
  have hstart : start [] (UInt8.ofNat c.toNat) = ⟨[c], none⟩ := by
    have hlt : UInt8.ofNat c.toNat < 0x80 := UInt8.lt_iff_toNat_lt.mpr (hbyte.trans_lt hc)
    rw [start, if_pos hlt, hbyte, Char.ofNat_toNat]
  have hfold := foldl_step_append bs [] [c] none
  rw [decodeLossy, List.foldl_cons, Scan.step, hstart]
  rw [List.nil_append] at hfold
  rw [hfold, decodeLossy]
  simp [Scan.finish]

/-- **ASCII is read as it was written**, whatever follows it. -/
lemma decodeLossy_ascii_append {cs : List Char} (h : ∀ c ∈ cs, c.toNat < 128) (bs : List UInt8) :
    decodeLossy (ascii cs ++ bs) = cs ++ decodeLossy bs := by
  induction cs with
  | nil => rfl
  | cons c cs ih =>
    rw [ascii_cons, List.cons_append, decodeLossy_cons (h c (by simp)),
      ih fun d hd => h d (by simp [hd])]
    rfl

end SeedSync.Utf8
