import LivePages.Ring.Machine

/-!
# The status of a ring

What the ring shows of itself: the published address, its position, and the state of every slot.

## Main definitions

* `Machine.status` — the status as a document.
-/

namespace LivePages.Ring

/-- A slot as a document. -/
def Slot.status (slot : Slot) : Json.Value :=
  .object
    [("index", .natural slot.index), ("addr", .text slot.addr), ("state", .text slot.phase.name)]

/-- The status as a document. -/
def Machine.status (s : Machine) : Json.Value :=
  .object [("live", .ofOption .text s.published.current), ("current", .natural s.shown.current),
    ("last", .ofOption .natural s.shown.last), ("slots", .list (s.slots.map (·.status)))]

end LivePages.Ring
