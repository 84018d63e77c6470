/-
# Byte memories

A memory holds a byte at every address.  `load` and `store` read and write numbers of
a few bytes, the least significant byte first; the same number comes back
(`load_store`), and a store changes nothing outside its bytes (`store_eqOn`).

What an operation may change is a set of addresses `S`: `Set.EqOn m' m Sᶜ` says that
`m'` is `m` outside it.  A number whose bytes lie outside `S` reads the same
(`load_of_eqOn`).
-/

import Mathlib.Order.Interval.Set.Disjoint
import Mathlib.Order.Interval.Set.Nat
import Mathlib.Data.Set.Function
import Mathlib.Tactic.Ring
import Mathlib.Order.CompletePartialOrder

namespace FfaFeature

/-- A memory: the byte at every address. -/
abbrev Mem := ℕ → BitVec 8

namespace Mem

/-- The number in the `k` bytes at an address. -/
def load (m : Mem) (address : ℕ) : ℕ → ℕ
  | 0 => 0
  | k + 1 => (m address).toNat + 256 * load m (address + 1) k

/-- The low `k` bytes of a number, written at an address. -/
def store (m : Mem) (address value : ℕ) : ℕ → Mem
  | 0 => m
  | k + 1 => Function.update (store m (address + 1) (value / 256) k) address (BitVec.ofNat 8 value)

/-- `k` bytes make a number below `256 ^ k`. -/
theorem load_lt (m : Mem) (address k : ℕ) : m.load address k < 256 ^ k := by
  induction k generalizing address with
  | zero => exact Nat.one_pos
  | succ k ih =>
    have hbyte := (m address).isLt
    have hrest := ih (address + 1)
    rw [load, Nat.pow_succ]
    omega

/-- A load depends on its bytes only. -/
theorem load_congr {m m' : Mem} {address k : ℕ}
    (h : Set.EqOn m' m (Set.Ico address (address + k))) :
    m'.load address k = m.load address k := by
  induction k generalizing address with
  | zero => rfl
  | succ k ih =>
    have hrest : m'.load (address + 1) k = m.load (address + 1) k :=
      ih fun a ha => h ⟨by have := ha.1; omega, by have := ha.2; omega⟩
    have hbyte := h ⟨le_rfl, by omega⟩
    rw [load, load, hbyte, hrest]

/-- A store changes its bytes only. -/
theorem store_eqOn (m : Mem) (address value k : ℕ) :
    Set.EqOn (m.store address value k) m (Set.Ico address (address + k))ᶜ := by
  induction k generalizing address value with
  | zero => exact fun a _ => rfl
  | succ k ih =>
    intro a ha
    have hne : a ≠ address := by
      rintro rfl
      exact ha ⟨le_rfl, by omega⟩
    rw [store, Function.update_of_ne hne]
    exact ih (address + 1) (value / 256) fun hmem =>
      ha ⟨by have := hmem.1; omega, by have := hmem.2; omega⟩

/-- **What was stored is loaded**, as far as the bytes go. -/
theorem load_store (m : Mem) (address value k : ℕ) :
    (m.store address value k).load address k = value % 256 ^ k := by
  induction k generalizing address value with
  | zero => rw [load, pow_zero, Nat.mod_one]
  | succ k ih =>
    have hrest : (m.store address value (k + 1)).load (address + 1) k =
        (m.store (address + 1) (value / 256) k).load (address + 1) k := by
      refine load_congr fun a ha => ?_
      have hne : a ≠ address := by
        have := ha.1
        omega
      rw [store, Function.update_of_ne hne]
    have hbyte : m.store address value (k + 1) address = BitVec.ofNat 8 value := by
      rw [store, Function.update_self]
    rw [load, hrest, hbyte, ih, BitVec.toNat_ofNat, pow_succ' 256 k, @Nat.mod_mul 256 (256 ^ k)]

/-- A number outside the bytes an operation changes reads the same. -/
theorem load_of_eqOn {m m' : Mem} {S : Set ℕ} {address k : ℕ} (h : Set.EqOn m' m Sᶜ)
    (hoff : Disjoint (Set.Ico address (address + k)) S) :
    m'.load address k = m.load address k :=
  load_congr fun _ ha => h fun hS => Set.disjoint_left.1 hoff ha hS

/-- The 64-bit number at an address. -/
def load64 (m : Mem) (address : ℕ) : ℕ := m.load address 8

/-- A 64-bit number, written at an address. -/
def store64 (m : Mem) (address value : ℕ) : Mem := m.store address value 8

/-- A word of eight bytes is below `2 ^ 64`. -/
theorem load64_lt (m : Mem) (address : ℕ) : m.load64 address < 2 ^ 64 :=
  m.load_lt address 8

/-- A word that is stored is read back. -/
@[simp] theorem load64_store64 (m : Mem) (address : ℕ) {value : ℕ} (h : value < 2 ^ 64) :
    (m.store64 address value).load64 address = value :=
  (load_store m address value 8).trans (Nat.mod_eq_of_lt h)

/-- A store of a word changes its eight bytes only. -/
theorem store64_eqOn (m : Mem) (address value : ℕ) :
    Set.EqOn (m.store64 address value) m (Set.Ico address (address + 8))ᶜ :=
  store_eqOn m address value 8

/-- A word is read where nothing has changed. -/
theorem load64_of_eqOn {m m' : Mem} {S : Set ℕ} {address : ℕ} (h : Set.EqOn m' m Sᶜ)
    (hoff : Disjoint (Set.Ico address (address + 8)) S) :
    m'.load64 address = m.load64 address :=
  load_of_eqOn h hoff

/-- A 64-bit number apart from the one stored reads the same. -/
theorem load64_store64_ne (m : Mem) (value : ℕ) {address other : ℕ}
    (h : other + 8 ≤ address ∨ address + 8 ≤ other) :
    (m.store64 address value).load64 other = m.load64 other :=
  load64_of_eqOn (m.store64_eqOn address value) <| Set.disjoint_left.2 fun a ha hb => by
    have h₁ := ha.1
    have h₂ := ha.2
    have h₃ := hb.1
    have h₄ := hb.2
    omega

/-- Two changes, one after the other. -/
theorem eqOn_trans {m m' m'' : Mem} {S T : Set ℕ} (h : Set.EqOn m' m Sᶜ)
    (h' : Set.EqOn m'' m' Tᶜ) : Set.EqOn m'' m (S ∪ T)ᶜ :=
  fun _ ha => (h' fun hT => ha (.inr hT)).trans (h fun hS => ha (.inl hS))

/-- What changes nothing outside `S` changes nothing outside a larger set. -/
theorem eqOn_mono {m m' : Mem} {S T : Set ℕ} (h : Set.EqOn m' m Sᶜ) (hsub : S ⊆ T) :
    Set.EqOn m' m Tᶜ :=
  h.mono (Set.compl_subset_compl.2 hsub)

end Mem

/-! ### Ranges that are written over -/

section Overwrite

variable {β : Type*}

/-- A map with `size` values from `base` on replaced, the `i`-th of them by `f i`. -/
def overwrite (known : ℕ → β) (base size : ℕ) (f : ℕ → β) : ℕ → β := fun a =>
  if base ≤ a ∧ a < base + size then f (a - base) else known a

variable {known : ℕ → β} {base size a : ℕ} {f : ℕ → β}

/-- Inside the range is the new value. -/
theorem overwrite_of_mem (h : a ∈ Set.Ico base (base + size)) :
    overwrite known base size f a = f (a - base) :=
  if_pos h

/-- Elsewhere is the old one. -/
theorem overwrite_of_notMem (h : a ∉ Set.Ico base (base + size)) :
    overwrite known base size f a = known a :=
  if_neg h

/-- The new value at an offset. -/
theorem overwrite_add {i : ℕ} (h : i < size) : overwrite known base size f (base + i) = f i := by
  rw [overwrite_of_mem ⟨Nat.le_add_right _ _, by omega⟩, Nat.add_sub_cancel_left]

/-- Nothing changes outside the range. -/
theorem overwrite_eqOn (known : ℕ → β) (base size : ℕ) (f : ℕ → β) :
    Set.EqOn (overwrite known base size f) known (Set.Ico base (base + size))ᶜ := fun _ ha =>
  overwrite_of_notMem ha

end Overwrite

end FfaFeature
