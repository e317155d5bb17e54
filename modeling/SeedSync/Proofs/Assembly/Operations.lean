import Mathlib
import SeedSync.Proofs.Assembly.Blocks
import SeedSync.Proofs.Transfer.Body
import SeedSync.Proofs.Window.View

/-!
What the two ways to bring bytes into an assembly do to it: a block from a view, and a range of the
remote file, whose body may end early.
-/

namespace SeedSync.Assembly

variable {a : Assembly} {i : ℕ} {addressed : ℕ → Prop} {supply : ℕ → List UInt8}

/-! ### A block from a view -/

lemma writeBlock_of_complete {w : View} {offset : ℕ} (h : a.isBlockComplete i = true) :
    a.writeBlock i w offset = (.ok false, a) := by
  rw [writeBlock, isBlockComplete_iff.mp h]

lemma writeBlock_of_missing (h : Sound a) (w : View) (offset : ℕ) (hi : i < a.header.numBlocks)
    (hm : a.isBlockComplete i = false) :
    a.writeBlock i w offset = if offset + a.header.blockLength i ≤ w.length
      then (.ok true, (a.complete i ((w.toList.drop offset).take (a.header.blockLength i))).emit
        (.bytesWritten (a.header.blockLength i)))
      else (.error (.io .outputFileWrite (.outsideWindow offset (a.header.blockLength i) w.length)),
        a) := by
  rw [writeBlock, h.getElem?_completed hi, hm]
  dsimp only
  rw [h.blockLength_eq, View.slice_eq]
  by_cases hfit : offset + a.header.blockLength i ≤ w.length
  · rw [if_pos hfit, if_pos hfit]
  · rw [if_neg hfit, if_neg hfit]

lemma length_supplied {w : View} {offset n : ℕ} (h : offset + n ≤ w.length) :
    ((w.toList.drop offset).take n).length = n := by
  rw [List.length_take, List.length_drop, View.length_toList]
  omega

lemma extends_writeBlock (h : Sound a) (i : ℕ) (w : View) (offset : ℕ) :
    Extends (· = i) (fun j => (w.toList.drop offset).take (a.header.blockLength j)) a
      (a.writeBlock i w offset).2 := by
  rcases Nat.lt_or_ge i a.header.numBlocks with hi | hi
  · rcases Bool.eq_false_or_eq_true (a.isBlockComplete i) with hm | hm
    · rw [writeBlock_of_complete hm]
      exact .refl h
    · rw [writeBlock_of_missing h w offset hi hm]
      split
      · next hfit =>
        have hc : Extends (· = i) (fun j => (w.toList.drop offset).take (a.header.blockLength j)) a
            (a.complete i ((w.toList.drop offset).take (a.header.blockLength i))) :=
          .complete h hi hm (length_supplied hfit) rfl rfl
        exact hc.trans (.emit hc.sound _)
      · exact .refl h
  · rw [writeBlock, Array.getElem?_eq_none (by rw [h.completed]; exact hi)]
    exact .refl h

/-! ### A range of the remote file -/

@[simp] lemma completed_foldl_emit (es : List Event) (a : Assembly) :
    (es.foldl emit a).completed = a.completed := by
  induction es generalizing a with
  | nil => rfl
  | cons e es ih => exact ih _

lemma isBlockComplete_foldl_emit (es : List Event) (a : Assembly) (i : ℕ) :
    (es.foldl emit a).isBlockComplete i = a.isBlockComplete i := by
  rw [isBlockComplete, completed_foldl_emit, isBlockComplete]

lemma extends_foldl_emit (h : Sound a) (es : List Event) :
    Extends addressed supply a (es.foldl emit a) := by
  induction es generalizing a with
  | nil => exact .refl h
  | cons e es ih =>
    have he : Extends addressed supply a (a.emit e) := .emit h e
    exact he.trans (ih he.sound)

/-- A body that does not reach to the end of the next block completes nothing more, and fails with
what lies behind its bytes. -/
lemma exists_receiveBlocks_short (r : ByteRange) {body : Body} (written : ℕ) (rest : List ℕ)
    (hlen : body.bytes.length < a.blockLength i) :
    ∃ p body', receiveBlocks r a body written (i :: rest) =
      (.error (shortBody r (body.behind.getD .endedEarly)), (body'.events p).foldl emit a,
        body') := by
  obtain ⟨reads, body', hread, -⟩ := Body.exists_readUpTo_short hlen
  rw [receiveBlocks]
  dsimp only
  rw [hread]
  cases body.behind with
  | some e => exact ⟨_, _, rfl⟩
  | none =>
    dsimp only
    rw [if_pos hlen]
    exact ⟨_, _, rfl⟩

lemma exists_receiveBlocks_cons (r : ByteRange) {body : Body} (written : ℕ) (rest : List ℕ)
    (hlen : a.blockLength i ≤ body.bytes.length) :
    ∃ reads body', reads.sum = a.blockLength i ∧ Body.Took body body' (a.blockLength i) ∧
      body'.behind = body.behind ∧
      let bytes := body.bytes.take (a.blockLength i)
      let b := (body'.events ⟨bytes, reads, none⟩).foldl emit a
      receiveBlocks r a body written (i :: rest) =
        if a.isBlockComplete i then receiveBlocks r b body' written rest
        else receiveBlocks r (b.complete i bytes) body' (written + a.blockLength i) rest := by
  obtain ⟨reads, body', hread, hsum, htook, hbehind⟩ := Body.exists_readUpTo hlen
  refine ⟨reads, body', hsum, htook, hbehind, ?_⟩
  rw [receiveBlocks]
  dsimp only
  rw [hread]
  dsimp only
  rw [if_neg (by rw [List.length_take]; omega), isBlockComplete_foldl_emit]

lemma exists_receiveBlocks_step (h : Sound a) {r : ByteRange} {body : Body} {written : ℕ}
    {rest : List ℕ} (hi : i < a.header.numBlocks)
    (hlen : a.header.blockLength i ≤ body.bytes.length)
    (hs : supply i = body.bytes.take (a.header.blockLength i)) :
    ∃ b body' written', receiveBlocks r a body written (i :: rest) =
        receiveBlocks r b body' written' rest ∧
      Extends (· = i) supply a b ∧ b.isBlockComplete i = true ∧
      body'.bytes = body.bytes.drop (a.header.blockLength i) ∧ body'.behind = body.behind := by
  rw [← h.blockLength_eq] at hlen hs ⊢
  obtain ⟨reads, body', -, htook, hbehind, heq⟩ := exists_receiveBlocks_cons r written rest hlen
  have htake : (body.bytes.take (a.blockLength i)).length = a.header.blockLength i := by
    rw [List.length_take_of_le hlen, h.blockLength_eq]
  rw [heq]
  generalize body'.events _ = es
  have he : Extends (· = i) supply a (es.foldl emit a) := extends_foldl_emit h es
  rcases Bool.eq_false_or_eq_true (a.isBlockComplete i) with hm | hm
  · exact ⟨_, _, _, by rw [if_pos hm], he, he.kept i hm, htook.bytes_eq, hbehind⟩
  · have hm' : (es.foldl emit a).isBlockComplete i = false := by
      rw [isBlockComplete_foldl_emit, hm]
    have hi' : i < (es.foldl emit a).header.numBlocks := by rwa [he.header]
    refine ⟨_, _, _, by rw [if_neg (by simp [hm])], he.trans (.complete he.sound hi' hm'
      (by rw [he.header, htake]) rfl hs.symm), ?_, htook.bytes_eq, hbehind⟩
    exact (isBlockComplete_complete _ (by rwa [he.sound.completed])).mpr (.inl rfl)

/-- Block `j` ends within a body that begins with block `i`. -/
def Reaches (header : Header) (body : Body) (i j : ℕ) : Prop :=
  header.blockOffset j + header.blockLength j ≤ header.blockOffset i + body.bytes.length

lemma not_reaches {header : Header} {body : Body} {j : ℕ}
    (hshort : body.bytes.length < header.blockLength i) (hij : i ≤ j) (hj : j < header.numBlocks) :
    ¬ Reaches header body i j := by
  rw [Reaches]
  rcases Nat.eq_or_lt_of_le hij with rfl | hlt
  · omega
  · have hnext := Header.blockOffset_succ_of_lt (show i + 1 < header.numBlocks by omega)
    have hmono := Header.blockOffset_mono (h := header) (show i + 1 ≤ j from hlt)
    omega

/-- Seen from the next block, what is left of the body reaches as far. -/
lemma reaches_rest {header : Header} {body left : Body} {j : ℕ}
    (hlong : header.blockLength i ≤ body.bytes.length)
    (hleft : left.bytes = body.bytes.drop (header.blockLength i)) (hij : i + 1 ≤ j)
    (hj : j < header.numBlocks) : Reaches header left (i + 1) j ↔ Reaches header body i j := by
  have hnext := Header.blockOffset_succ_of_lt (show i + 1 < header.numBlocks by omega)
  rw [Reaches, Reaches, hleft, List.length_drop]
  omega

/-- The `k` blocks from `i` on are taken off a body: the assembly is extended by just those that
the body reaches to the end of. Where it reaches to the end of all this succeeds, and else it fails
with what lies behind the body's bytes. -/
structure TakesBlocks (supply : ℕ → List UInt8) (r : ByteRange) (a : Assembly) (body : Body)
    (i k : ℕ) (result : Except Error ℕ × Assembly × Body) : Prop where
  extended : Extends (fun j => i ≤ j ∧ j < i + k ∧ Reaches a.header body i j) supply a result.2.1
  done : ∀ j, i ≤ j → j < i + k → Reaches a.header body i j →
    result.2.1.isBlockComplete j = true
  ok : (∀ j, i ≤ j → j < i + k → Reaches a.header body i j) → ∃ n, result.1 = .ok n
  error : ∀ j, i ≤ j → j < i + k → ¬ Reaches a.header body i j →
    result.1 = .error (shortBody r (body.behind.getD .endedEarly))

namespace TakesBlocks

variable {r : ByteRange} {b : Assembly} {body left : Body} {k : ℕ}
  {result : Except Error ℕ × Assembly × Body}

/-- A body that ends within the first of the blocks reaches to the end of none. -/
lemma of_short (hb : Extends (fun _ => False) (fun _ => []) a b)
    (hk : i + (k + 1) ≤ a.header.numBlocks)
    (hshort : body.bytes.length < a.header.blockLength i) :
    TakesBlocks supply r a body i (k + 1)
      (.error (shortBody r (body.behind.getD .endedEarly)), b, left) where
  extended := hb.mono (fun _ => False.elim) fun _ => False.elim
  done j hij hj hreach := absurd hreach (not_reaches hshort hij (by omega))
  ok hall := absurd (hall i le_rfl (by omega)) (not_reaches hshort le_rfl (by omega))
  error _ _ _ _ := rfl

lemma cons (hk : i + (k + 1) ≤ a.header.numBlocks)
    (hlong : a.header.blockLength i ≤ body.bytes.length)
    (hb : Extends (· = i) supply a b) (hi : b.isBlockComplete i = true)
    (hleft : left.bytes = body.bytes.drop (a.header.blockLength i))
    (hbehind : left.behind = body.behind) (h : TakesBlocks supply r b left (i + 1) k result) :
    TakesBlocks supply r a body i (k + 1) result := by
  have hfirst : Reaches a.header body i i := by
    rw [Reaches]
    omega
  have hrest {j : ℕ} (hij : i + 1 ≤ j) (hj : j < i + (k + 1)) :
      Reaches b.header left (i + 1) j ↔ Reaches a.header body i j := by
    rw [hb.header]
    exact reaches_rest hlong hleft hij (by omega)
  constructor
  case extended =>
    refine (hb.mono ?_ fun _ _ => rfl).trans (h.extended.mono ?_ fun _ _ => rfl)
    · rintro j rfl
      exact ⟨le_rfl, by omega, hfirst⟩
    · rintro j ⟨hij, hj, hreach⟩
      exact ⟨by omega, by omega, (hrest hij (by omega)).mp hreach⟩
  case done =>
    intro j hij hj hreach
    rcases Nat.eq_or_lt_of_le hij with rfl | hlt
    · exact h.extended.kept i hi
    · exact h.done j hlt (by omega) ((hrest hlt hj).mpr hreach)
  case ok =>
    exact fun hall => h.ok fun j hij hj =>
      (hrest hij (by omega)).mpr (hall j (by omega) (by omega))
  case error =>
    intro j hij hj hreach
    rcases Nat.eq_or_lt_of_le hij with rfl | hlt
    · exact absurd hfirst hreach
    · rw [← hbehind]
      exact h.error j hlt (by omega) (mt (hrest hlt hj).mp hreach)

end TakesBlocks

lemma takesBlocks_receiveBlocks (h : Sound a) (r : ByteRange) (body : Body) (written : ℕ) {k : ℕ}
    (hk : ∀ j, i ≤ j → j < i + k → j < a.header.numBlocks)
    (hs : ∀ j, i ≤ j → j < i + k → supply j =
      (body.bytes.drop (a.header.blockOffset j - a.header.blockOffset i)).take
        (a.header.blockLength j)) :
    TakesBlocks supply r a body i k (receiveBlocks r a body written (List.range' i k)) := by
  induction k generalizing i a body written with
  | zero => exact ⟨.refl h, by omega, fun _ => ⟨_, rfl⟩, by omega⟩
  | succ k ih =>
    have hi : i < a.header.numBlocks := hk i le_rfl (by omega)
    have hn : i + (k + 1) ≤ a.header.numBlocks := hk (i + k) (by omega) (by omega)
    rw [List.range'_succ]
    rcases Nat.lt_or_ge body.bytes.length (a.header.blockLength i) with hshort | hlong
    · obtain ⟨p, left, heq⟩ := exists_receiveBlocks_short r written (List.range' (i + 1) k)
        (by rwa [h.blockLength_eq])
      rw [heq]
      exact .of_short (extends_foldl_emit h _) hn hshort
    · have hsi : supply i = body.bytes.take (a.header.blockLength i) := by
        rw [hs i le_rfl (by omega), Nat.sub_self, List.drop_zero]
      obtain ⟨b, left, written', heq, hab, hbi, hbytes, hbehind⟩ :=
        exists_receiveBlocks_step h hi hlong hsi
      rw [heq]
      refine .cons hn hlong hab hbi hbytes hbehind (ih hab.sound left written'
        (fun j hij hj => by rw [hab.header]; omega) fun j hij hj => ?_)
      -- seen from the next block, the others lie nearer by the length of block `i`
      have hnext := Header.blockOffset_succ_of_lt (show i + 1 < a.header.numBlocks by omega)
      have hmono := Header.blockOffset_mono (h := a.header) hij
      rw [hs j (by omega) (by omega), hbytes, hab.header, List.drop_drop]
      congr 2
      omega

/-! ### Whole ranges -/

lemma isAligned_iff {r : ByteRange} : a.isAligned r = true ↔
    r.first % a.header.blockSize = 0 ∧
      ((r.last + 1) % a.header.blockSize = 0 ∨ r.last + 1 = a.header.length) ∧
      r.last < a.header.length := by
  simp [isAligned, and_assoc]

lemma ends_of_isAligned (h : Sound a) {r : ByteRange} (hr : a.isAligned r = true) :
    a.header.blockOffset (r.first / a.header.blockSize) = r.first ∧
      r.last / a.header.blockSize < a.header.numBlocks ∧
      min (a.header.blockOffset (r.last / a.header.blockSize + 1)) a.header.length =
        r.last + 1 := by
  obtain ⟨hfirst, hend, hlast⟩ := isAligned_iff.mp hr
  refine ⟨Nat.div_mul_cancel (Nat.dvd_of_mod_eq_zero hfirst),
    Header.div_lt_numBlocks h.pos hlast, ?_⟩
  rcases hend with hend | hend
  · have hdvd := Nat.dvd_of_mod_eq_zero hend
    rw [Header.blockOffset, ← Nat.succ_div_of_dvd hdvd, Nat.div_mul_cancel hdvd]
    exact min_eq_left hlast
  · have hlt := Nat.lt_mul_of_div_lt (Nat.lt_succ_self (r.last / a.header.blockSize)) h.pos
    rw [Header.blockOffset, min_eq_right (by rw [← hend]; exact hlt), hend]

lemma receive_of_misaligned {r : ByteRange} {body : Body} (h : a.isAligned r = false) :
    a.receive r body = (.error (.misaligned r a.header.blockSize a.header.length), a, body) := by
  rw [receive, h]
  rfl

lemma exists_receive_of_aligned {r : ByteRange} (body : Body) (h : a.isAligned r = true) :
    let result := receiveBlocks r (a.emit (.rangeReceived r)) body 0
      (List.range' (r.first / a.header.blockSize)
        (r.last / a.header.blockSize + 1 - r.first / a.header.blockSize))
    ∃ es : List Event, a.receive r body =
      (result.1.map fun _ => (), es.foldl emit result.2.1, result.2.2) := by
  dsimp only
  rw [receive, h, if_neg (by decide)]
  dsimp only
  generalize receiveBlocks r (a.emit (.rangeReceived r)) body 0 _ = result
  obtain ⟨_ | n, b, body'⟩ := result
  · exact ⟨[], rfl⟩
  · by_cases hn : n = 0
    · exact ⟨[], by simp only [if_pos hn]; rfl⟩
    · exact ⟨[.bytesWritten n], by simp only [if_neg hn]; rfl⟩

/-- Taking an aligned range extends the assembly by just the blocks in it that the body reaches to
the end of. It succeeds if the body reaches to the range's end, and else fails with what lies
behind the body's bytes. -/
lemma extends_receive_of_aligned (h : Sound a) {r : ByteRange} (body : Body)
    (hr : a.isAligned r = true) :
    let result := a.receive r body
    let Reaches j := r.first / a.header.blockSize ≤ j ∧ j ≤ r.last / a.header.blockSize ∧
      a.header.blockOffset j + a.header.blockLength j ≤ r.first + body.bytes.length
    Extends Reaches
      (fun j => (body.bytes.drop (a.header.blockOffset j - r.first)).take (a.header.blockLength j))
      a result.2.1 ∧
    (∀ j, Reaches j → result.2.1.isBlockComplete j = true) ∧
    (r.last + 1 ≤ r.first + body.bytes.length → result.1 = .ok ()) ∧
    (r.first + body.bytes.length < r.last + 1 →
      result.1 = .error (shortBody r (body.behind.getD .endedEarly))) := by
  obtain ⟨hoff, hlt, hend⟩ := ends_of_isAligned h hr
  have hlast : a.header.blockOffset (r.last / a.header.blockSize) +
      a.header.blockLength (r.last / a.header.blockSize) = r.last + 1 := by
    rw [Header.blockOffset_add_blockLength h.pos hlt, hend]
  have horder (hle : r.first ≤ r.last) :
      r.first / a.header.blockSize ≤ r.last / a.header.blockSize := Nat.div_le_div_right hle
  obtain ⟨es, hes⟩ := exists_receive_of_aligned body hr
  dsimp only
  rw [hes]
  -- from here on only the first block and the last one count, not how they are found
  generalize r.first / a.header.blockSize = f at *
  generalize r.last / a.header.blockSize = l at *
  have he : Extends (fun _ => False) (fun _ => []) a (a.emit (.rangeReceived r)) := .emit h _
  have hsupply (j : ℕ) (_ : f ≤ j) (_ : j < f + (l + 1 - f)) :
      (fun j => (body.bytes.drop (a.header.blockOffset j - r.first)).take
          (a.header.blockLength j)) j =
        (body.bytes.drop (a.header.blockOffset j - a.header.blockOffset f)).take
          (a.header.blockLength j) := by rw [hoff]
  obtain ⟨hext, hdone, hok, herror⟩ := takesBlocks_receiveBlocks he.sound r body 0
    (fun j _ hj => show j < a.header.numBlocks by omega) hsupply
  simp only [Reaches, he.header, hoff] at hext hdone hok herror
  generalize receiveBlocks r (a.emit (.rangeReceived r)) body 0 _ = result at *
  obtain ⟨answer, b, left⟩ := result
  dsimp only at hext hdone hok herror ⊢
  have hrest := (he.mono (fun _ => False.elim) fun _ => False.elim).trans
    (hext.trans (extends_foldl_emit hext.sound es))
  refine ⟨hrest.mono (fun j hj => ⟨hj.1, by omega, hj.2.2⟩) fun _ _ => rfl, fun j hj => ?_,
    fun hreach => ?_, fun hshort => ?_⟩
  · rw [isBlockComplete_foldl_emit]
    exact hdone j hj.1 (by omega) hj.2.2
  · obtain ⟨n, rfl⟩ := hok fun j hfj hj => by
      have := Header.blockOffset_mono (h := a.header) (show j + 1 ≤ l + 1 by omega)
      rw [Header.blockOffset_add_blockLength h.pos (by omega)]
      omega
    rfl
  · have := horder (by omega)
    obtain rfl := herror l this (by omega) (by omega)
    rfl

lemma extends_receive (h : Sound a) (r : ByteRange) (body : Body) :
    let result := a.receive r body
    Extends (fun j => r.first / a.header.blockSize ≤ j ∧ j ≤ r.last / a.header.blockSize)
      (fun j => (body.bytes.drop (a.header.blockOffset j - r.first)).take (a.header.blockLength j))
      a result.2.1 ∧
    (a.isAligned r = true → r.last + 1 ≤ r.first + body.bytes.length → result.1 = .ok () ∧
      ∀ j, r.first / a.header.blockSize ≤ j → j ≤ r.last / a.header.blockSize →
        result.2.1.isBlockComplete j = true) := by
  rcases Bool.eq_false_or_eq_true (a.isAligned r) with hr | hr
  · obtain ⟨-, hlt, hend⟩ := ends_of_isAligned h hr
    obtain ⟨hext, hdone, hok, -⟩ := extends_receive_of_aligned h body hr
    refine ⟨hext.mono (fun j hj => ⟨hj.1, hj.2.1⟩) fun _ _ => rfl, fun _ hreach =>
      ⟨hok hreach, fun j hfj hjl => hdone j ⟨hfj, hjl, ?_⟩⟩⟩
    have := Header.blockOffset_mono (h := a.header) (Nat.add_le_add_right hjl 1)
    rw [Header.blockOffset_add_blockLength h.pos (by omega)]
    omega
  · rw [receive_of_misaligned hr]
    exact ⟨.refl h, by simp [hr]⟩

end SeedSync.Assembly
