/-
# Extents that do not overlap

An extent is an interval of addresses.  A list of extents is `Separate` if no two of them
overlap.  When some extents of such a list give way to others that cover no address but
theirs, the list stays separate (`Separate.replace`), whatever the order of the list
(`Separate.perm`).
-/

import Mathlib.Order.Interval.Set.Disjoint
import Mathlib.Order.Interval.Set.Nat
import Mathlib.Data.List.FinRange
import Mathlib.Data.List.Pairwise
import Mathlib.Data.List.Perm.Basic
import Mathlib.Tactic.Common
import Mathlib.Order.CompletePartialOrder

namespace FfaFeature

/-- The addresses from `base`, `size` of them. -/
@[ext] structure Extent where
  base : ℕ
  size : ℕ
  deriving DecidableEq, Repr

namespace Extent

/-- The first address behind the extent. -/
def top (e : Extent) : ℕ := e.base + e.size

/-- Its addresses. -/
def addrs (e : Extent) : Set ℕ := Set.Ico e.base e.top

/-- The two have no address in common. -/
def Off (e f : Extent) : Prop := Disjoint e.addrs f.addrs

/-- Being apart is symmetric. -/
theorem Off.symm {e f : Extent} (h : e.Off f) : f.Off e := Disjoint.symm h

instance : Std.Symm Off := ⟨fun _ _ h => h.symm⟩

/-- An extent that is not empty has its base. -/
theorem base_mem {e : Extent} (h : 0 < e.size) : e.base ∈ e.addrs :=
  ⟨le_rfl, by unfold top; omega⟩

end Extent

/-- The addresses of several extents. -/
def extentAddrs (l : List Extent) : Set ℕ := { a | ∃ e ∈ l, a ∈ e.addrs }

section Addrs

variable {e : Extent} {l l₁ l₂ : List Extent}

/-- No extents have no addresses. -/
@[simp] theorem extentAddrs_nil : extentAddrs [] = ∅ := by
  ext a
  simp [extentAddrs]

/-- The addresses of the first and of the rest. -/
@[simp] theorem extentAddrs_cons : extentAddrs (e :: l) = e.addrs ∪ extentAddrs l := by
  ext a
  simp [extentAddrs]

/-- The addresses of both parts. -/
@[simp] theorem extentAddrs_append :
    extentAddrs (l₁ ++ l₂) = extentAddrs l₁ ∪ extentAddrs l₂ := by
  ext a
  simp [extentAddrs, or_and_right, exists_or]

/-- Their order does not matter. -/
theorem extentAddrs_perm (h : l₁.Perm l₂) : extentAddrs l₁ = extentAddrs l₂ := by
  ext a
  simp only [extentAddrs, Set.mem_ofPred_eq, h.mem_iff]

/-- Each extent lies in the addresses of all. -/
theorem addrs_subset (h : e ∈ l) : e.addrs ⊆ extentAddrs l := fun _ ha => ⟨e, h, ha⟩

end Addrs

/-- No two of the extents overlap. -/
def Separate (l : List Extent) : Prop := l.Pairwise Extent.Off

section Separate

variable {e : Extent} {l l₁ l₂ old new : List Extent}

/-- Nor does it matter for extents to be separate. -/
theorem Separate.perm (h : Separate l₁) (hperm : l₁.Perm l₂) : Separate l₂ :=
  (hperm.pairwise_iff fun hef => hef.symm).1 h

/-- Two lists are separate when each is and they have no address in common. -/
theorem separate_append :
    Separate (l₁ ++ l₂) ↔
      Separate l₁ ∧ Separate l₂ ∧ Disjoint (extentAddrs l₁) (extentAddrs l₂) := by
  refine List.pairwise_append.trans (and_congr_right fun _ => and_congr_right fun _ => ?_)
  constructor
  · intro h
    rw [Set.disjoint_left]
    rintro a ⟨e, he, ha⟩ ⟨f, hf, haf⟩
    exact Set.disjoint_left.1 (h e he f hf) ha haf
  · exact fun h e he f hf => h.mono (addrs_subset he) (addrs_subset hf)

/-- And so for one extent and a list. -/
theorem separate_cons :
    Separate (e :: l) ↔ Disjoint e.addrs (extentAddrs l) ∧ Separate l := by
  have h := @separate_append [e] l
  rw [List.singleton_append] at h
  rw [h]
  simp [Separate, and_comm]

/-- **Extents may give way to others inside them.** -/
theorem Separate.replace (h : Separate (old ++ l)) (hnew : Separate new)
    (hsub : extentAddrs new ⊆ extentAddrs old) : Separate (new ++ l) := by
  obtain ⟨-, hl, hdisjoint⟩ := separate_append.1 h
  exact separate_append.2 ⟨hnew, hl, hdisjoint.mono_left hsub⟩

end Separate

/-- Where one list of a family gets one more element. -/
theorem flatMap_perm_cons {ι α : Type*} [DecidableEq ι] {l : List ι} (hl : l.Nodup) {i : ι}
    (hi : i ∈ l) {f g : ι → List α} {a : α} (hne : ∀ j, j ≠ i → f j = g j)
    (heq : f i = a :: g i) : (l.flatMap f).Perm (a :: l.flatMap g) := by
  induction l with
  | nil => exact absurd hi List.not_mem_nil
  | cons j l ih =>
    rw [List.flatMap_cons, List.flatMap_cons]
    by_cases hij : j = i
    · subst hij
      have hrest : l.flatMap f = l.flatMap g := by
        refine List.flatMap_congr fun k hk => hne k ?_
        rintro rfl
        exact (List.nodup_cons.1 hl).1 hk
      rw [heq, hrest, List.cons_append]
    · have hmem := (List.mem_cons.1 hi).resolve_left (Ne.symm hij)
      rw [hne j hij]
      exact ((ih (List.nodup_cons.1 hl).2 hmem).append_left (g j)).trans List.perm_middle

end FfaFeature
