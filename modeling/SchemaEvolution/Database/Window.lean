import SchemaEvolution.Database.Fault

/-!
# Windows

A window may refine another one that has a name: it takes the partitions and the order of that one,
and may add an order and a frame where the other one has none.

* `Window.resolved` is a window that no longer refers to another one.
* `Window.find?` finds a window by its name.
-/

namespace SchemaEvolution.Database.Window

/-- The frame would begin behind its end, whatever the distances are. -/
def isReversed (w : Window) : Bool :=
  match w.first, w.last with
  | .currentRow, .preceding | .following, .preceding | .following, .currentRow => true
  | _, _ => false

/-- The window of a name; the last one that is defined counts. -/
def find? (n : Name) (windows : List Window) : Except Fault Window :=
  match windows.reverse.find? fun v => v.name.any n.isSame with
  | some v => .ok v
  | none => .error (.noSuchWindow n.text)

/-- A window as it is among those that are defined before it. -/
def resolved (windows : List Window) (w : Window) : Except Fault Window := do
  match w.base with
  | none => return w
  | some n =>
    let v ← find? n windows
    if w.isReference then return v
    if !w.partition.isEmpty then throw (.windowOverride "PARTITION clause" n.text)
    if !v.order.isEmpty && !w.order.isEmpty then throw (.windowOverride "ORDER BY clause" n.text)
    if v.hasFrame then throw (.windowOverride "frame specification" n.text)
    return { w with
      base := none
      partition := v.partition
      order := if w.order.isEmpty then v.order else w.order }

end SchemaEvolution.Database.Window
