/- ADesk/Core/Ids
   digest: Identifiers of the runtime and their orders. -/

import Mathlib.Data.List.Basic

set_option autoImplicit false

namespace ADesk.Core.Ids

/-- Stable for the lifetime of the window, monotonic, never reused. -/
structure WindowId where
  val : ℕ
  deriving DecidableEq, Repr

/-- One agent action; observations refer to it through `afterAction`. -/
structure ActionId where
  val : ℕ
  deriving DecidableEq, Repr

structure LaunchId where
  val : ℕ
  deriving DecidableEq, Repr

/-- Independent of the event sequence domain. -/
structure NotificationId where
  val : ℕ
  deriving DecidableEq, Repr

/-- The desktop-file id of an application. -/
structure AppId where
  val : String
  deriving DecidableEq, Repr

instance : Ord WindowId := ⟨fun a b => compare a.val b.val⟩

instance : Std.TransOrd WindowId where
  eq_swap := by
    intro a b
    exact @Std.OrientedCmp.eq_swap ℕ compare _ a.val b.val
  isLE_trans := by
    intro a b c
    exact @Std.TransCmp.isLE_trans ℕ compare _ a.val b.val c.val

instance : Std.LawfulEqOrd WindowId where
  eq_of_compare := by
    intro ⟨a⟩ ⟨b⟩ equal
    exact congrArg WindowId.mk (@Std.LawfulEqCmp.eq_of_compare ℕ compare _ a b equal)

/-- Ordered maps keyed by windows iterate in ascending id order. -/
abbrev WindowMap (β : Type) := Std.ExtTreeMap WindowId β

variable {β : Type}

theorem insert_lookup (windows : WindowMap β) (inserted : WindowId) (value : β)
    (windowId : WindowId) :
    (windows.insert inserted value)[windowId]? =
      if inserted = windowId then some value else windows[windowId]? := by
  rw [Std.ExtTreeMap.getElem?_insert]
  simp only [Std.LawfulEqCmp.compare_eq_iff_eq]

theorem erase_lookup (windows : WindowMap β) (erased windowId : WindowId) :
    (windows.erase erased)[windowId]? =
      if erased = windowId then none else windows[windowId]? := by
  rw [Std.ExtTreeMap.getElem?_erase]
  simp only [Std.LawfulEqCmp.compare_eq_iff_eq]

instance : Ord NotificationId := ⟨fun a b => compare a.val b.val⟩

instance : Std.TransOrd NotificationId where
  eq_swap := by
    intro a b
    exact @Std.OrientedCmp.eq_swap ℕ compare _ a.val b.val
  isLE_trans := by
    intro a b c
    exact @Std.TransCmp.isLE_trans ℕ compare _ a.val b.val c.val

instance : Std.LawfulEqOrd NotificationId where
  eq_of_compare := by
    intro ⟨a⟩ ⟨b⟩ equal
    exact congrArg NotificationId.mk (@Std.LawfulEqCmp.eq_of_compare ℕ compare _ a b equal)

abbrev NotificationMap (β : Type) := Std.ExtTreeMap NotificationId β

theorem notification_insert_lookup (stored : NotificationMap β) (inserted : NotificationId)
    (value : β) (id : NotificationId) :
    (stored.insert inserted value)[id]? =
      if inserted = id then some value else stored[id]? := by
  rw [Std.ExtTreeMap.getElem?_insert]
  simp only [Std.LawfulEqCmp.compare_eq_iff_eq]

/-- Two ascending lists with the same members are the same list. -/
theorem ascending_ext {first second : List WindowId}
    (firstAscending : first.Pairwise (fun a b => compare a b = .lt))
    (secondAscending : second.Pairwise (fun a b => compare a b = .lt))
    (members : ∀ windowId, windowId ∈ first ↔ windowId ∈ second) : first = second := by
  have irreflexive : ∀ {l : List WindowId}, l.Pairwise (fun a b => compare a b = .lt) →
      l.Nodup := by
    intro l ascending
    refine ascending.imp fun {a b} before same => ?_
    subst same
    have reflexive : compare a a = .eq := Std.ReflCmp.compare_self
    rw [reflexive] at before
    cases before
  have permuted : first.Perm second :=
    (List.perm_ext_iff_of_nodup (irreflexive firstAscending) (irreflexive secondAscending)).mpr
      members
  refine List.Perm.eq_of_pairwise ?_ firstAscending secondAscending permuted
  intro a b _ _ before after
  have swapped : compare b a = (compare a b).swap := Std.OrientedCmp.eq_swap
  rw [swapped, before] at after
  cases after

end ADesk.Core.Ids
