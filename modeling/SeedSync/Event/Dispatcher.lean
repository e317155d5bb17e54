import SeedSync.Event.Basic

/-!
A dispatcher hands every event to its observers, in the order in which they were added.
-/

namespace SeedSync

structure Dispatcher (Observer : Type) where
  observers : List Observer

namespace Dispatcher

variable {Observer : Type}

def empty : Dispatcher Observer := ⟨[]⟩

def add (d : Dispatcher Observer) (o : Observer) : Dispatcher Observer := ⟨d.observers ++ [o]⟩

def isEmpty (d : Dispatcher Observer) : Bool := d.observers.isEmpty

/-- Who observes the event, in order. -/
def emit (d : Dispatcher Observer) (e : Event) : List (Observer × Event) :=
  d.observers.map fun o => (o, e)

def text (d : Dispatcher Observer) : String :=
  let n := d.observers.length
  s!"EventDispatcher \x7b observers: {n} \x7d"

end Dispatcher

end SeedSync
