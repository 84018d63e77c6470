/-
# The permissions of memory

`ModuleEntryPoint` changes permissions through `ArmMmuLib`, which is not part of the package.
`ArmMmuLib` below is what its functions are documented to do: a call works on whole pages, takes
one permission away from pages of its region and changes nothing else, and where it returns
success it has done so for all of them.  A call may fail, and the package does not look at the
status; whether a run of calls does what it is for depends on the calls that succeed
(`Succeed`).
-/

import FfaFeature.Image.Sections
import Mathlib.Data.Set.Basic

namespace FfaFeature
namespace Image

/-- `EFI_PAGE_SIZE` and `SIZE_4KB`. -/
def efiPageSize : ℕ := 4096

/-- Which addresses can be executed, and which can only be read. -/
structure Permissions where
  executable : Set (BitVec 64)
  readOnly : Set (BitVec 64)

/-- What can be executed can only be read. -/
def WriteXorExecute (p : Permissions) : Prop := p.executable ⊆ p.readOnly

/-- The addresses of a region. -/
def addresses (base size : BitVec 64) : Set (BitVec 64) :=
  {a | ∃ i < size.toNat, a = base + BitVec.ofNat 64 i}

/-- The addresses on the pages that a region touches. -/
def pages (base size : BitVec 64) : Set (BitVec 64) :=
  {a | ∃ b ∈ addresses base size, a.toNat / efiPageSize = b.toNat / efiPageSize}

/-- A region lies on its pages. -/
theorem addresses_subset_pages (base size : BitVec 64) : addresses base size ⊆ pages base size :=
  fun a ha => ⟨a, ha, rfl⟩

/-- **The library for the MMU**: `TextUpdater` is `ArmSetMemoryRegionNoExec` and
`ReadWriteUpdater` is `ArmClearMemoryRegionReadOnly`.  `τ` is the state of the translation
tables. -/
structure ArmMmuLib (τ : Type*) where
  update : τ → UpdaterCall → EfiStatus × τ
  permissions : τ → Permissions
  noExec_readOnly : ∀ s base size,
    (permissions (update s (.textUpdater base size)).2).readOnly = (permissions s).readOnly
  noExec_subset : ∀ s base size,
    (permissions (update s (.textUpdater base size)).2).executable ⊆ (permissions s).executable
  noExec_outside : ∀ s base size, ∀ a ∈ (permissions s).executable, a ∉ pages base size →
    a ∈ (permissions (update s (.textUpdater base size)).2).executable
  noExec_success : ∀ s base size, (update s (.textUpdater base size)).1.isError = false →
    ∀ a ∈ pages base size, a ∉ (permissions (update s (.textUpdater base size)).2).executable
  clearReadOnly_executable : ∀ s base size,
    (permissions (update s (.readWriteUpdater base size)).2).executable =
      (permissions s).executable
  clearReadOnly_subset : ∀ s base size,
    (permissions (update s (.readWriteUpdater base size)).2).readOnly ⊆ (permissions s).readOnly
  clearReadOnly_outside : ∀ s base size, ∀ a ∈ (permissions s).readOnly, a ∉ pages base size →
    a ∈ (permissions (update s (.readWriteUpdater base size)).2).readOnly
  clearReadOnly_success : ∀ s base size,
    (update s (.readWriteUpdater base size)).1.isError = false →
      ∀ a ∈ pages base size,
        a ∉ (permissions (update s (.readWriteUpdater base size)).2).readOnly

namespace ArmMmuLib

variable {τ : Type*} (lib : ArmMmuLib τ)

/-- The tables after a run of calls, whatever they return. -/
def run (s : τ) (calls : List UpdaterCall) : τ :=
  calls.foldl (fun s call => (lib.update s call).2) s

/-- The calls of the run that meet `P` return success. -/
def Succeed (P : UpdaterCall → Prop) : τ → List UpdaterCall → Prop
  | _, [] => True
  | s, call :: calls =>
    (P call → (lib.update s call).1.isError = false) ∧ Succeed P (lib.update s call).2 calls

/-- No calls change nothing. -/
@[simp] theorem run_nil (s : τ) : lib.run s [] = s := rfl

/-- The first call, and the others. -/
@[simp] theorem run_cons (s : τ) (call : UpdaterCall) (calls : List UpdaterCall) :
    lib.run s (call :: calls) = lib.run (lib.update s call).2 calls := rfl

/-- Calls, one part after the other. -/
theorem run_append (s : τ) (calls calls' : List UpdaterCall) :
    lib.run s (calls ++ calls') = lib.run (lib.run s calls) calls' := List.foldl_append

/-- They succeed when both parts do. -/
theorem succeed_append {P : UpdaterCall → Prop} {s : τ} {calls calls' : List UpdaterCall} :
    lib.Succeed P s (calls ++ calls') ↔
      lib.Succeed P s calls ∧ lib.Succeed P (lib.run s calls) calls' := by
  induction calls generalizing s with
  | nil => simp [Succeed]
  | cons call calls ih => rw [List.cons_append, Succeed, Succeed, ih, and_assoc, run_cons]

/-! ### What can be executed, and what can only be read, after a run -/

/-- One successful `TextUpdater`. -/
theorem mem_executable_noExec {s : τ} {base size a : BitVec 64}
    (h : (lib.update s (.textUpdater base size)).1.isError = false) :
    a ∈ (lib.permissions (lib.update s (.textUpdater base size)).2).executable ↔
      a ∈ (lib.permissions s).executable ∧ a ∉ pages base size := by
  constructor
  · exact fun ha => ⟨lib.noExec_subset s base size ha,
      fun hpages => lib.noExec_success s base size h a hpages ha⟩
  · exact fun ha => lib.noExec_outside s base size a ha.1 ha.2

/-- One successful `ReadWriteUpdater`. -/
theorem mem_readOnly_clearReadOnly {s : τ} {base size a : BitVec 64}
    (h : (lib.update s (.readWriteUpdater base size)).1.isError = false) :
    a ∈ (lib.permissions (lib.update s (.readWriteUpdater base size)).2).readOnly ↔
      a ∈ (lib.permissions s).readOnly ∧ a ∉ pages base size := by
  constructor
  · exact fun ha => ⟨lib.clearReadOnly_subset s base size ha,
      fun hpages => lib.clearReadOnly_success s base size h a hpages ha⟩
  · exact fun ha => lib.clearReadOnly_outside s base size a ha.1 ha.2

/-- **What can be executed after a run in which every call succeeds.** -/
theorem mem_executable_run {s : τ} {calls : List UpdaterCall} (hnone : NoReadOnly calls)
    (h : lib.Succeed (fun _ => True) s calls) (a : BitVec 64) :
    a ∈ (lib.permissions (lib.run s calls)).executable ↔
      a ∈ (lib.permissions s).executable ∧
        ∀ region ∈ textRegions calls, a ∉ pages region.1 region.2 := by
  induction calls generalizing s with
  | nil => simp [textRegions]
  | cons call calls ih =>
    obtain ⟨hcall, hrest⟩ := h
    rw [run_cons, ih (fun base size h => hnone base size (List.mem_cons_of_mem _ h)) hrest]
    cases call with
    | textUpdater base size =>
      rw [lib.mem_executable_noExec (hcall trivial), and_assoc]
      simp only [textRegions, List.filterMap_cons, List.forall_mem_cons]
    | readOnlyUpdater base size => exact absurd (List.mem_cons_self ..) (hnone base size)
    | readWriteUpdater base size =>
      rw [lib.clearReadOnly_executable]
      rfl

/-- **What can only be read after a run in which every call succeeds.** -/
theorem mem_readOnly_run {s : τ} {calls : List UpdaterCall} (hnone : NoReadOnly calls)
    (h : lib.Succeed (fun _ => True) s calls) (a : BitVec 64) :
    a ∈ (lib.permissions (lib.run s calls)).readOnly ↔
      a ∈ (lib.permissions s).readOnly ∧
        ∀ region ∈ readWriteRegions calls, a ∉ pages region.1 region.2 := by
  induction calls generalizing s with
  | nil => simp [readWriteRegions]
  | cons call calls ih =>
    obtain ⟨hcall, hrest⟩ := h
    rw [run_cons, ih (fun base size h => hnone base size (List.mem_cons_of_mem _ h)) hrest]
    cases call with
    | textUpdater base size =>
      rw [lib.noExec_readOnly]
      rfl
    | readOnlyUpdater base size => exact absurd (List.mem_cons_self ..) (hnone base size)
    | readWriteUpdater base size =>
      rw [lib.mem_readOnly_clearReadOnly (hcall trivial), and_assoc]
      simp only [readWriteRegions, List.filterMap_cons, List.forall_mem_cons]

/-! ### Writable or executable -/

/-- The call takes execution away. -/
def TakesExecution : UpdaterCall → Prop
  | .textUpdater .. => True
  | _ => False

/-- From any tables that keep the two apart, the calls do so at every moment, if those that take
execution away succeed. -/
def KeepsWriteXorExecute (calls : List UpdaterCall) : Prop :=
  ∀ s, WriteXorExecute (lib.permissions s) → lib.Succeed TakesExecution s calls →
    ∀ k, WriteXorExecute (lib.permissions (lib.run s (calls.take k)))

/-- No calls. -/
theorem keepsWriteXorExecute_nil : lib.KeepsWriteXorExecute [] := by
  intro s hs _ k
  rwa [List.take_nil, run_nil]

variable {lib} in
/-- One run after another. -/
theorem KeepsWriteXorExecute.append {calls calls' : List UpdaterCall}
    (h : lib.KeepsWriteXorExecute calls) (h' : lib.KeepsWriteXorExecute calls') :
    lib.KeepsWriteXorExecute (calls ++ calls') := by
  intro s hs hsucceed k
  obtain ⟨hfirst, hsecond⟩ := lib.succeed_append.1 hsucceed
  rw [List.take_append, run_append]
  rcases Nat.le_total k calls.length with hle | hge
  · rw [Nat.sub_eq_zero_of_le hle, List.take_zero, run_nil]
    exact h s hs hfirst k
  · have hwhole := h s hs hfirst calls.length
    rw [List.take_length] at hwhole
    rw [List.take_of_length_le hge]
    exact h' _ hwhole hsecond _

/-- Taking execution away, from whichever pages. -/
theorem writeXorExecute_noExec {s : τ} (hs : WriteXorExecute (lib.permissions s))
    (base size : BitVec 64) :
    WriteXorExecute (lib.permissions (lib.update s (.textUpdater base size)).2) := by
  rw [WriteXorExecute, lib.noExec_readOnly]
  exact (lib.noExec_subset s base size).trans hs

/-- A call that takes the right to execute. -/
theorem keepsWriteXorExecute_text (base size : BitVec 64) :
    lib.KeepsWriteXorExecute [.textUpdater base size] := by
  intro s hs _ k
  rcases k with _ | k
  · exact hs
  · rw [List.take_of_length_le (by simp)]
    exact lib.writeXorExecute_noExec hs base size

/-- **Execution is taken away before write access is given.** -/
theorem keepsWriteXorExecute_pair (base size : BitVec 64) :
    lib.KeepsWriteXorExecute [.textUpdater base size, .readWriteUpdater base size] := by
  intro s hs hsucceed k
  have hnoExec := lib.writeXorExecute_noExec hs base size
  rcases k with _ | _ | k
  · exact hs
  · exact hnoExec
  · rw [List.take_of_length_le (by simp)]
    intro a ha
    rw [run_cons, run_cons, run_nil, lib.clearReadOnly_executable] at ha
    exact lib.clearReadOnly_outside _ base size a (hnoExec ha)
      fun hpages => lib.noExec_success s base size (hsucceed.1 trivial) a hpages ha

end ArmMmuLib

end Image
end FfaFeature
