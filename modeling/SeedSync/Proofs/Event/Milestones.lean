import Mathlib
import SeedSync.Event.Basic

/-!
The events of a task without the counters, and the ranges that come with them.
-/

namespace SeedSync.Event

/-- The events without the counters. -/
def milestones (es : List Event) : List Event := es.filter fun e => !e.isCounter

@[simp] lemma milestones_nil : milestones [] = [] := rfl

@[simp] lemma milestones_append (es es' : List Event) :
    milestones (es ++ es') = milestones es ++ milestones es' := List.filter_append ..

lemma milestones_eq_nil {es : List Event} (h : ∀ e ∈ es, e.isCounter = true) :
    milestones es = [] := by
  rw [milestones, List.filter_eq_nil_iff]
  intro e he
  simp [h e he]

/-! ### Ranges -/

def range? : Event → Option ByteRange
  | .rangeReceived r => some r
  | _ => none

/-- A range comes with it, or bytes of one. -/
def Arrives (e : Event) : Prop := e.isCounter = true ∨ ∃ r, e = .rangeReceived r

lemma filterMap_range?_milestones (es : List Event) :
    (milestones es).filterMap range? = es.filterMap range? := by
  rw [milestones, List.filterMap_filter]
  congr 1
  ext e r
  cases e <;> simp [isCounter, range?]

end SeedSync.Event
