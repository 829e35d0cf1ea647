import Mathlib.Data.List.Basic
import UpnpBind.Description.Traversal

/-!
# The stack loop lists the services in preorder

Run from a stack holding the root of a device tree, the loop pops every device
of the tree once, in preorder, and ends with the visits of the services in
preorder: a device's own services, then those of its sub-devices in document
order (`Device.visits`). Each visit pairs a service with the device of the tree
that lists it (`stack_loop_lists_services_in_preorder`).

The loop's invariant is `Traversal.run_eq`: from any stack, the loop pops the
devices of the stacked trees in preorder, the top tree first, and appends
their visits in the same order.
-/

namespace UpnpBind.Description

theorem Traversal.run_eq (t : Traversal) :
    t.run = (t.stack.flatMap Device.preorder, t.visits ++ t.stack.flatMap Device.visits) := by
  fun_induction run t with
  | case1 t h => simp [turn_eq_none_iff.mp h]
  | case2 t d t' h ih =>
    -- the popped device's tree is its preorder; the trees of its sub-devices are now on top
    obtain ⟨rest, hstack, rfl⟩ := turn_eq_some_iff.mp h
    rw [ih, hstack]
    simp [Device.preorder_eq d, Device.visits_eq d]

/-- The visits of a tree are the visits of the own services of its devices,
taken in preorder. -/
theorem Device.visits_eq_flatMap_preorder (d : Device) :
    d.visits = d.preorder.flatMap Device.ownVisits := by
  rw [Device.visits_eq, Device.preorder_eq, List.flatMap_cons, List.flatMap_assoc]
  congr 1
  apply List.flatMap_congr
  intro sub hsub
  exact Device.visits_eq_flatMap_preorder sub
termination_by d
decreasing_by
  have := List.sizeOf_lt_of_mem hsub
  cases d
  simp_all only [Device.mk.sizeOf_spec]
  omega

/-- A visit of a tree is a service of one of the tree's devices, paired with
that device. -/
theorem Device.mem_visits_iff {d : Device} {v : Visit} :
    v ∈ d.visits ↔ v.device ∈ d.preorder ∧ v.service ∈ v.device.services := by
  rw [Device.visits_eq_flatMap_preorder, List.mem_flatMap]
  constructor
  · rintro ⟨dev, hdev, hv⟩
    obtain ⟨s, hs, rfl⟩ := List.mem_map.mp hv
    exact ⟨hdev, hs⟩
  · rintro ⟨hdev, hs⟩
    exact ⟨v.device, hdev, List.mem_map.mpr ⟨v.service, hs, rfl⟩⟩

/-- The loop run from the root pops every device of the tree once, in preorder,
and lists the services in preorder, each with the device of the tree that
offers it. -/
theorem stack_loop_lists_services_in_preorder (root : Device) :
    Traversal.run ⟨[root], []⟩ = (root.preorder, root.visits) ∧ root.stackVisits = root.visits ∧
      ∀ v ∈ root.stackVisits, v.device ∈ root.preorder ∧ v.service ∈ v.device.services := by
  have hrun : Traversal.run ⟨[root], []⟩ = (root.preorder, root.visits) := by
    simp [Traversal.run_eq]
  have hvisits : root.stackVisits = root.visits := by
    rw [Device.stackVisits, hrun]
  refine ⟨hrun, hvisits, fun v hv => ?_⟩
  rw [hvisits] at hv
  exact Device.mem_visits_iff.mp hv

end UpnpBind.Description
