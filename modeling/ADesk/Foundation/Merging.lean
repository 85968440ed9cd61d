/- ADesk/Foundation/Merging
   digest: Families whose members are merged while two of them meet: what is left does not depend
   on the order of the merges. -/

import Mathlib.Data.List.Pairwise
import Mathlib.Logic.Relation
import Mathlib.Order.Defs.PartialOrder

set_option autoImplicit false

namespace ADesk.Foundation.Merging

open Relation (ReflTransGen)

universe u

/-- When two parts meet, and what they are merged into. Larger parts meet whenever smaller ones
do, and the merged part is the least one above both. -/
structure Rule (α : Type u) [PartialOrder α] where
  Valid : α → Prop
  Meets : α → α → Prop
  join : α → α → α
  join_valid : ∀ {a b}, Valid a → Valid b → Meets a b → Valid (join a b)
  left_le : ∀ {a b}, Valid a → Valid b → a ≤ join a b
  right_le : ∀ {a b}, Valid a → Valid b → b ≤ join a b
  join_le : ∀ {a b c}, Valid a → Valid b → a ≤ c → b ≤ c → join a b ≤ c
  self : ∀ {a}, Valid a → Meets a a
  symm : ∀ {a b}, Meets a b → Meets b a
  mono : ∀ {a b a' b'}, Valid a → Valid b → Valid a' → Valid b' → a ≤ a' → b ≤ b' →
    Meets a b → Meets a' b'

variable {α : Type u} [PartialOrder α] (rule : Rule α)

/-- Two members that meet are merged, at any place and in any order. -/
def Merges (before after : List α) : Prop :=
  ∃ a b rest, before.Perm (a :: b :: rest) ∧ rule.Meets a b ∧ after.Perm (rule.join a b :: rest)

/-- No two members meet. -/
def Settled (family : List α) : Prop := family.Pairwise fun a b => ¬ rule.Meets a b

def AllValid (family : List α) : Prop := ∀ a ∈ family, rule.Valid a

/-- Every part of the family lies within one of the cover. -/
def Covers (cover family : List α) : Prop := ∀ a ∈ family, ∃ b ∈ cover, a ≤ b

variable {rule}

theorem Covers.refl (family : List α) : Covers family family := by
  intro a member
  exact ⟨a, member, le_refl a⟩

theorem Covers.trans {first second third : List α} (lower : Covers second first)
    (upper : Covers third second) : Covers third first := by
  intro a member
  obtain ⟨b, inside, below⟩ := lower a member
  obtain ⟨c, there, above⟩ := upper b inside
  exact ⟨c, there, le_trans below above⟩

/-! ## One merge -/

theorem Merges.valid {before after : List α} (merges : Merges rule before after)
    (valid : AllValid rule before) : AllValid rule after := by
  obtain ⟨a, b, rest, split, meets, joined⟩ := merges
  have inside : ∀ c ∈ a :: b :: rest, rule.Valid c := fun c member => valid c (split.mem_iff.mpr member)
  intro c member
  rcases List.mem_cons.mp (joined.mem_iff.mp member) with same | other
  · rw [same]
    exact rule.join_valid (inside a List.mem_cons_self)
      (inside b (List.mem_cons_of_mem _ List.mem_cons_self)) meets
  · exact inside c (List.mem_cons_of_mem _ (List.mem_cons_of_mem _ other))

/-- A merge loses nothing. -/
theorem Merges.covered {before after : List α} (merges : Merges rule before after)
    (valid : AllValid rule before) : Covers after before := by
  obtain ⟨a, b, rest, split, meets, joined⟩ := merges
  have validA : rule.Valid a := valid a (split.mem_iff.mpr List.mem_cons_self)
  have validB : rule.Valid b :=
    valid b (split.mem_iff.mpr (List.mem_cons_of_mem _ List.mem_cons_self))
  have there : rule.join a b ∈ after := joined.mem_iff.mpr List.mem_cons_self
  intro c member
  rcases List.mem_cons.mp (split.mem_iff.mp member) with same | member
  · rw [same]
    exact ⟨_, there, rule.left_le validA validB⟩
  · rcases List.mem_cons.mp member with same | other
    · rw [same]
      exact ⟨_, there, rule.right_le validA validB⟩
    · exact ⟨c, joined.mem_iff.mpr (List.mem_cons_of_mem _ other), le_refl c⟩

/-- In a settled family, members that meet are one. -/
theorem Settled.eq_of_meets {family : List α} (settled : Settled rule family) {a b : α}
    (first : a ∈ family) (second : b ∈ family) (meets : rule.Meets a b) : a = b := by
  by_contra different
  have symmetric : Std.Symm fun a b => ¬ rule.Meets a b :=
    ⟨fun _ _ apart meets => apart (rule.symm meets)⟩
  exact List.Pairwise.forall settled first second different meets

/-- A settled family that covers a family covers it after a merge: the parts around two members
that meet are one. -/
theorem Merges.stays_covered {before after cover : List α} (merges : Merges rule before after)
    (valid : AllValid rule before) (settled : Settled rule cover) (sound : AllValid rule cover)
    (covers : Covers cover before) : Covers cover after := by
  obtain ⟨a, b, rest, split, meets, joined⟩ := merges
  have inside : ∀ c ∈ a :: b :: rest, c ∈ before := fun c member => split.mem_iff.mpr member
  have memberA : a ∈ before := inside a List.mem_cons_self
  have memberB : b ∈ before := inside b (List.mem_cons_of_mem _ List.mem_cons_self)
  intro c member
  rcases List.mem_cons.mp (joined.mem_iff.mp member) with same | other
  · obtain ⟨upperA, thereA, belowA⟩ := covers a memberA
    obtain ⟨upperB, thereB, belowB⟩ := covers b memberB
    have together : rule.Meets upperA upperB :=
      rule.mono (valid a memberA) (valid b memberB) (sound _ thereA) (sound _ thereB)
        belowA belowB meets
    have one : upperA = upperB := settled.eq_of_meets thereA thereB together
    rw [same]
    exact ⟨upperA, thereA, rule.join_le (valid a memberA) (valid b memberB) belowA (one ▸ belowB)⟩
  · exact covers c (inside c (List.mem_cons_of_mem _ (List.mem_cons_of_mem _ other)))

/-! ## Any number of merges -/

theorem merged_valid {family merged : List α} (valid : AllValid rule family)
    (run : ReflTransGen (Merges rule) family merged) : AllValid rule merged := by
  induction run with
  | refl => exact valid
  | tail _ merges ih => exact merges.valid ih

theorem merged_covers {family merged : List α} (valid : AllValid rule family)
    (run : ReflTransGen (Merges rule) family merged) : Covers merged family := by
  induction run with
  | refl => exact Covers.refl family
  | tail run merges ih => exact ih.trans (merges.covered (merged_valid valid run))

theorem merged_stays_covered {family merged cover : List α} (valid : AllValid rule family)
    (settled : Settled rule cover) (sound : AllValid rule cover) (covers : Covers cover family)
    (run : ReflTransGen (Merges rule) family merged) : Covers cover merged := by
  induction run with
  | refl => exact covers
  | tail run merges ih => exact merges.stays_covered (merged_valid valid run) settled sound ih

/-- Of two settled families that cover each other, each contains the other. -/
theorem Settled.subset {first second : List α} (settled : Settled rule first)
    (valid : AllValid rule first) (upper : Covers second first) (lower : Covers first second) :
    first ⊆ second := by
  intro a member
  obtain ⟨b, inside, below⟩ := upper a member
  obtain ⟨c, there, above⟩ := lower b inside
  have self : rule.Meets a a := rule.self (valid a member)
  have meets : rule.Meets a c :=
    rule.mono (valid a member) (valid a member) (valid a member) (valid c there) (le_refl a)
      (le_trans below above) self
  have same : a = c := settled.eq_of_meets member there meets
  have equal : a = b := le_antisymm below (same ▸ above)
  rw [equal]
  exact inside

theorem Settled.nodup {family : List α} (settled : Settled rule family)
    (valid : AllValid rule family) : family.Nodup := by
  refine List.Pairwise.imp_of_mem ?_ settled
  intro a b member _ apart same
  subst same
  exact apart (rule.self (valid a member))

/-- Whatever the order of the merges, the same parts are left. -/
theorem confluent {family first second : List α} (valid : AllValid rule family)
    (left : ReflTransGen (Merges rule) family first)
    (right : ReflTransGen (Merges rule) family second)
    (settledLeft : Settled rule first) (settledRight : Settled rule second) :
    first.Perm second := by
  have validLeft := merged_valid valid left
  have validRight := merged_valid valid right
  have upper : Covers second first :=
    merged_stays_covered valid settledRight validRight (merged_covers valid right) left
  have lower : Covers first second :=
    merged_stays_covered valid settledLeft validLeft (merged_covers valid left) right
  rw [List.perm_ext_iff_of_nodup (settledLeft.nodup validLeft) (settledRight.nodup validRight)]
  intro a
  exact ⟨fun member => settledLeft.subset validLeft upper lower member,
    fun member => settledRight.subset validRight lower upper member⟩

/-- Runs that start from the members in another order. -/
theorem Merges.of_perm {before other after : List α} (perm : other.Perm before)
    (merges : Merges rule before after) : Merges rule other after := by
  obtain ⟨a, b, rest, split, meets, joined⟩ := merges
  exact ⟨a, b, rest, perm.trans split, meets, joined⟩

theorem run_of_perm {family other merged : List α} (perm : other.Perm family)
    (run : ReflTransGen (Merges rule) family merged) :
    ∃ final, final.Perm merged ∧ ReflTransGen (Merges rule) other final := by
  cases ReflTransGen.cases_head run with
  | inl same =>
    subst same
    exact ⟨other, perm, .refl⟩
  | inr step =>
    obtain ⟨next, merges, later⟩ := step
    exact ⟨merged, List.Perm.refl _, .head (merges.of_perm perm) later⟩

theorem Settled.of_perm {family other : List α} (settled : Settled rule family)
    (perm : other.Perm family) : Settled rule other :=
  settled.perm perm.symm fun apart meets => apart (rule.symm meets)

end ADesk.Foundation.Merging
