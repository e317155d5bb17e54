import Mathlib
import SeedSync.Proofs.Window.View

/-!
How bytes get into a sink that takes them in pieces: none is lost and none comes twice, whatever the
sink does with each write.
-/

namespace SeedSync

/-- The writes that end a delivery, each with the failure that it ends in. -/
inductive Acceptance.Refuses : Acceptance → IoError → Prop
  | nothing : Refuses (.takes 0) .noBytesAccepted
  | failure {e : IoError} (h : e.kind ≠ .interrupted) : Refuses (.fails e) e

namespace Sink

/-- What may come of offering bytes to a sink: it takes all of them before it refuses any, or it
refuses when it has taken some. -/
inductive Delivers (sink : Sink) (bytes : List UInt8) : Except IoError Unit → Sink → Prop
  | all {used left : List Acceptance} (hturns : sink.turns = used ++ left)
      (hused : ∀ turn ∈ used, ∀ e, ¬turn.Refuses e) :
    Delivers sink bytes (.ok ()) ⟨sink.accepted ++ bytes, left⟩
  | part {used left : List Acceptance} {turn : Acceptance} {e : IoError} {taken : List UInt8}
      (hturns : sink.turns = used ++ turn :: left) (hused : ∀ turn ∈ used, ∀ e, ¬turn.Refuses e)
      (hturn : turn.Refuses e) (htaken : taken <+: bytes) (hne : taken ≠ bytes) :
    Delivers sink bytes (.error e) ⟨sink.accepted ++ taken, left⟩

variable {accepted bytes : List UInt8} {turns : List Acceptance} {turn : Acceptance}
  {r : Except IoError Unit} {sink : Sink}

lemma Delivers.cons (hturn : ∀ e, ¬turn.Refuses e) (n : ℕ)
    (h : Delivers ⟨accepted ++ bytes.take n, turns⟩ (bytes.drop n) r sink) :
    Delivers ⟨accepted, turn :: turns⟩ bytes r sink := by
  cases h with
  | all hturns hused =>
    rw [List.append_assoc, List.take_append_drop]
    exact .all (congrArg (turn :: ·) hturns) (List.forall_mem_cons.mpr ⟨hturn, hused⟩)
  | @part used left last e taken hturns hused hlast htaken hne =>
    rw [List.append_assoc]
    refine .part (congrArg (turn :: ·) hturns) (List.forall_mem_cons.mpr ⟨hturn, hused⟩) hlast ?_ ?_
    · nth_rewrite 2 [← List.take_append_drop n bytes]
      exact (List.prefix_append_right_inj _).mpr htaken
    · nth_rewrite 2 [← List.take_append_drop n bytes]
      exact fun h => hne (List.append_cancel_left h)

lemma Delivers.refused {e : IoError} (hbytes : bytes ≠ []) (hturn : turn.Refuses e) :
    Delivers ⟨accepted, turn :: turns⟩ bytes (.error e) ⟨accepted, turns⟩ := by
  have h : Delivers ⟨accepted, turn :: turns⟩ bytes (.error e) ⟨accepted ++ [], turns⟩ :=
    .part (List.nil_append _).symm (List.forall_mem_nil _) hturn List.nil_prefix hbytes.symm
  rwa [List.append_nil] at h

lemma writeAll_delivers (accepted bytes : List UInt8) (turns : List Acceptance) :
    Delivers ⟨accepted, turns⟩ bytes (writeAll accepted bytes turns).1
      (writeAll accepted bytes turns).2 := by
  fun_induction writeAll accepted bytes turns with
  | case1 => exact .all rfl (List.forall_mem_nil _)
  | case2 accepted bytes turn turns hempty =>
    obtain rfl := List.isEmpty_iff.mp hempty
    have h : Delivers ⟨accepted, turn :: turns⟩ [] (.ok ()) ⟨accepted ++ [], turn :: turns⟩ :=
      .all (List.nil_append _).symm (List.forall_mem_nil _)
    rwa [List.append_nil] at h
  | case3 accepted bytes turns _ ih =>
    refine .cons (fun e he => by cases he) 0 ?_
    rwa [List.take_zero, List.append_nil, List.drop_zero]
  | case4 accepted bytes turns _ e hkind ih =>
    refine .cons (fun e he => ?_) 0 ?_
    · cases he with
      | failure h => exact h hkind
    · rwa [List.take_zero, List.append_nil, List.drop_zero]
  | case5 accepted bytes turns hne e hkind =>
    exact .refused (by simpa using hne) (.failure hkind)
  | case6 accepted bytes turns hne => exact .refused (by simpa using hne) .nothing
  | case7 accepted bytes turns _ n hn ih =>
    refine .cons (fun e he => ?_) n ih
    cases he
    exact hn rfl

end Sink

namespace View

/-- **A window is delivered byte by byte, once, in order.** Bytes that a view does not have are
refused, and the sink is left alone. Those that it has are all taken if the delivery succeeds, even
in many pieces and between interruptions; and where it fails, the sink has taken the first of them
but not all, and has then taken nothing of what it was offered, or failed itself. -/
theorem delivers_each_byte_once (v : View) (sink : Sink) (offset length : ℕ) :
    v.length < offset + length ∧
        (∃ e, v.writeTo sink offset length = (.error e, sink) ∧ e.kind = .invalidInput) ∨
      offset + length ≤ v.length ∧
        sink.Delivers ((v.toList.drop offset).take length) (v.writeTo sink offset length).1
          (v.writeTo sink offset length).2 := by
  rcases Nat.lt_or_ge v.length (offset + length) with hlong | hfits
  · refine .inl ⟨hlong, .outsideWindow offset length v.length, ?_, rfl⟩
    rw [writeTo, slice_eq, if_neg (Nat.not_le.mpr hlong)]
  · refine .inr ⟨hfits, ?_⟩
    rw [writeTo, slice_eq, if_pos hfits]
    exact Sink.writeAll_delivers ..

/-- Pieces between interruptions come to all of the bytes. -/
example : (ofList [5, 6, 7, 8, 9]).writeTo
      ⟨[], [.takes 2, .interrupted, .takes 1, .fails .interrupted]⟩ 1 4 =
    (.ok (), ⟨[6, 7, 8, 9], []⟩) := by decide

end View

end SeedSync
