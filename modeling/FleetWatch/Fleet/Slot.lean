import FleetWatch.Fleet.Board
import FleetWatch.Time.Instant

/-!
# The slot of the latest board

One place that holds the latest complete board.  Publishing overwrites it, but never with a cycle
that is not newer than the one it holds.

* `Slot.publish_accepted`, `Slot.publish_refused`: when a board enters and what the slot then holds.
-/

namespace FleetWatch

structure Published where
  cycle : UInt64
  publishedAt : Instant
  board : Board
deriving DecidableEq, Inhabited

abbrev Slot := Option Published

namespace Slot

def cycle? (slot : Slot) : Option UInt64 := slot.map (·.cycle)

/-- A cycle enters an empty slot, or one that holds an older cycle. -/
def accepts (slot : Slot) (cycle : UInt64) : Bool :=
  match slot with
  | none => true
  | some held => held.cycle < cycle

def publish (slot : Slot) (cycle : UInt64) (now : Instant) (board : Board) : Slot × Bool :=
  if slot.accepts cycle then (some ⟨cycle, now, board⟩, true) else (slot, false)

theorem publish_accepted {slot : Slot} {cycle : UInt64} (h : slot.accepts cycle = true)
    (now : Instant) (board : Board) :
    slot.publish cycle now board = (some ⟨cycle, now, board⟩, true) := by simp [publish, h]

theorem publish_refused {slot : Slot} {cycle : UInt64} (h : slot.accepts cycle = false)
    (now : Instant) (board : Board) : slot.publish cycle now board = (slot, false) := by
  simp [publish, h]

end Slot
end FleetWatch
