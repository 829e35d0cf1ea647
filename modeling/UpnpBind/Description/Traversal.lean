import UpnpBind.Description.Device

/-!
# Listing the services of a device tree with a stack

The services of a device tree are listed by a loop over an explicit stack of
devices that starts with the root alone. Each turn pops the top device, visits
its own services in document order and pushes its sub-devices, the last one
first, so that the first sub-device ends on top and the sub-devices pop in
document order. The loop ends when the stack is empty.

A turn pops one device and pushes only the devices right below it, so the
devices still to pop, counted with every device below them (`remaining`), drop
by one per turn; that is what ends the loop.
-/

namespace UpnpBind.Description

/-- The devices of a tree in preorder: the device, then the devices of each
sub-device in document order. -/
def Device.preorder (d : Device) : List Device :=
  d :: d.devices.attach.flatMap fun ⟨sub, _⟩ => sub.preorder
termination_by d
decreasing_by
  have := List.sizeOf_lt_of_mem (by assumption : sub ∈ d.devices)
  cases d
  simp_all only [Device.mk.sizeOf_spec]
  omega

theorem Device.preorder_eq (d : Device) : d.preorder = d :: d.devices.flatMap Device.preorder := by
  rw [Device.preorder]
  simp

/-- The visits of a device's own services, in document order. -/
def Device.ownVisits (d : Device) : List Visit := d.services.map fun s => ⟨d, s⟩

theorem Device.visits_eq (d : Device) : d.visits = d.ownVisits ++ d.devices.flatMap Device.visits := by
  rw [Device.visits, Device.ownVisits]
  simp

/-- Pushes devices onto a stack whose top is its head, the last device first. -/
def pushLastFirst (devices stack : List Device) : List Device :=
  devices.reverse.foldl (fun st d => d :: st) stack

/-- Pushed last first, the devices come off the stack in their own order. -/
theorem pushLastFirst_eq (devices stack : List Device) : pushLastFirst devices stack = devices ++ stack := by
  induction devices generalizing stack with
  | nil => rfl
  | cons d ds ih => simp_all [pushLastFirst]

/-- Where the loop stands: the devices on the stack, its top first, and the
visits made so far. -/
structure Traversal where
  stack : List Device
  visits : List Visit

namespace Traversal

/-- One turn of the loop: the device it pops and the state after it, or `none`
when the stack is empty and the loop ends. -/
def turn : Traversal → Option (Device × Traversal)
  | ⟨[], _⟩ => none
  | ⟨d :: rest, visits⟩ => some (d, ⟨pushLastFirst d.devices rest, visits ++ d.ownVisits⟩)

theorem turn_eq_none_iff {t : Traversal} : t.turn = none ↔ t.stack = [] := by
  rcases t with ⟨_ | ⟨d, rest⟩, visits⟩ <;> simp [turn]

theorem turn_eq_some_iff {t t' : Traversal} {d : Device} :
    t.turn = some (d, t') ↔
      ∃ rest, t.stack = d :: rest ∧ t' = ⟨d.devices ++ rest, t.visits ++ d.ownVisits⟩ := by
  rcases t with ⟨_ | ⟨d₀, rest⟩, visits⟩
  · simp [turn]
  · simp only [turn, Option.some.injEq, Prod.mk.injEq, pushLastFirst_eq, List.cons.injEq]
    constructor
    · rintro ⟨rfl, rfl⟩
      exact ⟨rest, ⟨rfl, rfl⟩, rfl⟩
    · rintro ⟨_, ⟨rfl, rfl⟩, rfl⟩
      exact ⟨rfl, rfl⟩

/-- The devices still to pop: those on the stack and every device below them. -/
def remaining (t : Traversal) : Nat := (t.stack.flatMap Device.preorder).length

theorem remaining_of_turn {t t' : Traversal} {d : Device} (h : t.turn = some (d, t')) :
    t'.remaining + 1 = t.remaining := by
  obtain ⟨rest, hstack, rfl⟩ := turn_eq_some_iff.mp h
  simp [remaining, hstack, Device.preorder_eq d]

/-- Runs the loop to its end: the devices in the order it pops them, and the
visits it ends with. -/
def run (t : Traversal) : List Device × List Visit :=
  match _h : t.turn with
  | none => ([], t.visits)
  | some (d, t') => Prod.map (d :: ·) id t'.run
termination_by t.remaining
decreasing_by have := remaining_of_turn _h; omega

end Traversal

/-- The services of a tree as the loop lists them, from a stack holding the root. -/
def Device.stackVisits (root : Device) : List Visit := (Traversal.run ⟨[root], []⟩).2

end UpnpBind.Description
