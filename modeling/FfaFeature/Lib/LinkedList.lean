/-
# Circular doubly linked lists in a memory

An entry of such a list is two pointers, to the next entry and to the previous one, and
the last entry points back to the first.  `Chain m a l b` says that the entries `l`
lead from `a` to `b`, and `IsList m head l` that they lead from `head` round to `head`,
all of them apart from each other.  Every entry is as good a head as any other
(`IsList.rotate`).

`IsList.insert` and `IsList.remove` are the two edits, stated by what the pointers are
after them, and `IsList.of_eqOn` is the frame rule: a change off the entries keeps the
list.
-/

import FfaFeature.Lib.Mem
import Mathlib.Data.List.Pairwise
import Mathlib.Tactic.Common

namespace FfaFeature
namespace LinkedList

open Mem

/-- The pointer of an entry to the next one. -/
def forwardLink (m : Mem) (entry : ℕ) : ℕ := m.load64 entry

/-- The pointer of an entry to the previous one. -/
def backLink (m : Mem) (entry : ℕ) : ℕ := m.load64 (entry + 8)

/-- A store to `Entry->ForwardLink`. -/
def setForwardLink (m : Mem) (entry value : ℕ) : Mem := m.store64 entry value

/-- A store to `Entry->BackLink`. -/
def setBackLink (m : Mem) (entry value : ℕ) : Mem := m.store64 (entry + 8) value

/-- The bytes of an entry. -/
def entryBytes (entry : ℕ) : Set ℕ := Set.Ico entry (entry + 16)

/-- The bytes of several entries. -/
def entriesBytes (l : List ℕ) : Set ℕ := { a | ∃ x ∈ l, a ∈ entryBytes x }

/-- The bytes of the entries do not depend on their order. -/
theorem entriesBytes_perm {l l' : List ℕ} (h : l.Perm l') :
    entriesBytes l = entriesBytes l' := by
  ext a
  simp only [entriesBytes, Set.mem_ofPred_eq, h.mem_iff]

/-- The bytes of two entries do not meet. -/
def Apart (a b : ℕ) : Prop := a + 16 ≤ b ∨ b + 16 ≤ a

/-- Being apart is symmetric. -/
theorem Apart.symm {a b : ℕ} (h : Apart a b) : Apart b a := Or.symm h

instance : Std.Symm Apart := ⟨fun _ _ h => h.symm⟩

/-- Entries that are apart are different. -/
theorem Apart.ne {a b : ℕ} (h : Apart a b) : a ≠ b := by
  rintro rfl
  unfold Apart at h
  omega

/-- Their bytes are disjoint. -/
theorem disjoint_of_apart {a b : ℕ} (h : Apart a b) : Disjoint (entryBytes a) (entryBytes b) :=
  Set.disjoint_left.2 fun x hx hy => by
    unfold Apart at h
    have h₁ := hx.1
    have h₂ := hx.2
    have h₃ := hy.1
    have h₄ := hy.2
    omega

/-- Entries with disjoint bytes are apart. -/
theorem apart_of_disjoint {a b : ℕ} (h : Disjoint (entryBytes a) (entryBytes b)) :
    Apart a b := by
  by_contra hapart
  unfold Apart at hapart
  have hmem : max a b ∈ entryBytes a := ⟨by omega, by omega⟩
  exact Set.disjoint_left.1 h hmem ⟨by omega, by omega⟩

section Pointers

variable {m : Mem} {a b value : ℕ}

/-- A forward link that is stored is read back, and the others stay. -/
theorem forwardLink_setForwardLink (h : a = b ∨ Apart a b) (hvalue : value < 2 ^ 64) :
    forwardLink (setForwardLink m a value) b = if b = a then value else forwardLink m b := by
  unfold Apart at h
  split_ifs with hba
  · rw [hba]
    exact load64_store64 m a hvalue
  · exact load64_store64_ne m value (by omega)

/-- So is a back link. -/
theorem backLink_setBackLink (h : a = b ∨ Apart a b) (hvalue : value < 2 ^ 64) :
    backLink (setBackLink m a value) b = if b = a then value else backLink m b := by
  unfold Apart at h
  split_ifs with hba
  · rw [hba]
    exact load64_store64 m (a + 8) hvalue
  · exact load64_store64_ne m value (by omega)

/-- A store to a back link keeps the forward links. -/
theorem forwardLink_setBackLink (h : a = b ∨ Apart a b) :
    forwardLink (setBackLink m a value) b = forwardLink m b := by
  unfold Apart at h
  exact load64_store64_ne m value (by omega)

/-- A store to a forward link keeps the back links. -/
theorem backLink_setForwardLink (h : a = b ∨ Apart a b) :
    backLink (setForwardLink m a value) b = backLink m b := by
  unfold Apart at h
  exact load64_store64_ne m value (by omega)

/-- A store to a link writes the bytes of its entry only. -/
theorem setForwardLink_eqOn {l : List ℕ} (h : a ∈ l) :
    Set.EqOn (setForwardLink m a value) m (entriesBytes l)ᶜ :=
  eqOn_mono (m.store64_eqOn a value) fun x hx => ⟨a, h, hx.1, by have := hx.2; omega⟩

/-- And so for the back link. -/
theorem setBackLink_eqOn {l : List ℕ} (h : a ∈ l) :
    Set.EqOn (setBackLink m a value) m (entriesBytes l)ᶜ :=
  eqOn_mono (m.store64_eqOn (a + 8) value) fun x hx =>
    ⟨a, h, by have := hx.1; omega, by have := hx.2; omega⟩

end Pointers

/-! ### Chains -/

/-- The entries `l` lead from `a` to `b`, linked both ways. -/
def Chain (m : Mem) : ℕ → List ℕ → ℕ → Prop
  | a, [], b => forwardLink m a = b ∧ backLink m b = a
  | a, x :: l, b => forwardLink m a = x ∧ backLink m x = a ∧ Chain m x l b

section Chain

variable {m m' : Mem} {a b x : ℕ} {l l₁ l₂ : List ℕ}

/-- A chain through an entry is one chain to it and one from it. -/
theorem chain_append :
    Chain m a (l₁ ++ x :: l₂) b ↔ Chain m a l₁ x ∧ Chain m x l₂ b := by
  induction l₁ generalizing a with
  | nil => exact and_assoc.symm
  | cons y l₁ ih =>
    show _ ∧ _ ∧ Chain m y (l₁ ++ x :: l₂) b ↔ (_ ∧ _ ∧ Chain m y l₁ x) ∧ _
    rw [ih, and_assoc, and_assoc]

/-- A chain depends on the forward links of all but its end, and on the back links of
all but its start. -/
theorem Chain.congr (h : Chain m a l b)
    (hf : ∀ x ∈ a :: l, forwardLink m' x = forwardLink m x)
    (hb : ∀ x ∈ b :: l, backLink m' x = backLink m x) : Chain m' a l b := by
  induction l generalizing a with
  | nil =>
    exact ⟨(hf a List.mem_cons_self).trans h.1, (hb b List.mem_cons_self).trans h.2⟩
  | cons y l ih =>
    refine ⟨(hf a List.mem_cons_self).trans h.1,
      (hb y (List.mem_cons_of_mem _ List.mem_cons_self)).trans h.2.1,
      ih h.2.2 (fun x hx => hf x (List.mem_cons_of_mem _ hx)) fun x hx => hb x ?_⟩
    rcases List.mem_cons.1 hx with rfl | hx
    · exact List.mem_cons_self
    · exact List.mem_cons_of_mem _ (List.mem_cons_of_mem _ hx)

/-- The first entry of a chain, or its end. -/
theorem Chain.forwardLink_eq (h : Chain m a l b) : forwardLink m a = l.headD b := by
  rcases l with _ | ⟨x, l⟩
  · exact h.1
  · exact h.1

/-- The last entry of a chain, or its start. -/
theorem Chain.backLink_eq (h : Chain m a l b) : backLink m b = l.getLastD a := by
  rcases List.eq_nil_or_concat l with rfl | ⟨l, x, rfl⟩
  · exact h.2
  · rw [List.concat_eq_append] at h ⊢
    rw [(chain_append.1 h).2.2]
    simp

/-- The pointers determine a chain whose end is not among its entries. -/
theorem Chain.unique {l' : List ℕ} (h : Chain m a l b) (h' : Chain m a l' b) (hl : b ∉ l)
    (hl' : b ∉ l') : l = l' := by
  induction l generalizing a l' with
  | nil =>
    cases l' with
    | nil => rfl
    | cons y l' => exact absurd (h.1.symm.trans h'.1) (fun hb => hl' (hb ▸ List.mem_cons_self))
  | cons x l ih =>
    cases l' with
    | nil => exact absurd (h'.1.symm.trans h.1) (fun hb => hl (hb ▸ List.mem_cons_self))
    | cons y l' =>
      obtain rfl : x = y := h.1.symm.trans h'.1
      rw [ih h.2.2 h'.2.2 (fun hb => hl (List.mem_cons_of_mem _ hb))
        (fun hb => hl' (List.mem_cons_of_mem _ hb))]

end Chain

/-! ### Lists -/

/-- The list at `head` has the entries `l`, in this order. -/
structure IsList (m : Mem) (head : ℕ) (l : List ℕ) : Prop where
  chain : Chain m head l head
  apart : (head :: l).Pairwise Apart
  bound : ∀ x ∈ head :: l, x + 16 ≤ 2 ^ 64

section IsList

variable {m m' : Mem} {head x : ℕ} {l l₁ l₂ : List ℕ}

/-- The entries of a list do not depend on where the ring is entered. -/
theorem rotate_perm (head x : ℕ) (l₁ l₂ : List ℕ) :
    (head :: (l₁ ++ x :: l₂)).Perm (x :: (l₂ ++ head :: l₁)) := by
  have hswap : ((head :: l₁) ++ (x :: l₂)).Perm ((x :: l₂) ++ (head :: l₁)) :=
    List.perm_append_comm
  exact hswap

/-- **Every entry is a head** of the same list. -/
theorem IsList.rotate (h : IsList m head (l₁ ++ x :: l₂)) : IsList m x (l₂ ++ head :: l₁) := by
  have hperm := rotate_perm head x l₁ l₂
  refine ⟨?_, (hperm.pairwise_iff fun hab => hab.symm).1 h.apart, fun y hy =>
    h.bound y (hperm.mem_iff.2 hy)⟩
  obtain ⟨h₁, h₂⟩ := chain_append.1 h.chain
  exact chain_append.2 ⟨h₂, h₁⟩

/-- **The frame rule**: a change off the entries keeps the list. -/
theorem IsList.of_eqOn {S : Set ℕ} (h : IsList m head l) (heq : Set.EqOn m' m Sᶜ)
    (hoff : ∀ x ∈ head :: l, Disjoint (entryBytes x) S) : IsList m' head l := by
  have hfwd : ∀ x ∈ head :: l, forwardLink m' x = forwardLink m x := fun x hx =>
    load64_of_eqOn heq ((hoff x hx).mono_left (Set.Ico_subset_Ico_right (by omega)))
  have hback : ∀ x ∈ head :: l, backLink m' x = backLink m x := fun x hx =>
    load64_of_eqOn heq ((hoff x hx).mono_left (Set.Ico_subset_Ico (by omega) (by omega)))
  exact ⟨h.chain.congr hfwd hback, h.apart, h.bound⟩

/-- The head is followed by an entry of the list or by itself. -/
theorem IsList.forwardLink_mem (h : IsList m head l) : forwardLink m head ∈ head :: l := by
  rw [h.chain.forwardLink_eq]
  rcases l with _ | ⟨x, l⟩ <;> simp

/-- And it follows one of them. -/
theorem IsList.backLink_mem (h : IsList m head l) : backLink m head ∈ head :: l := by
  rw [h.chain.backLink_eq]
  rcases List.eq_nil_or_concat l with rfl | ⟨l, x, rfl⟩ <;> simp

/-- Two entries are the same or apart. -/
theorem IsList.eq_or_apart (h : IsList m head l) {y : ℕ} (hx : x ∈ head :: l)
    (hy : y ∈ head :: l) : x = y ∨ Apart x y := by
  by_cases hxy : x = y
  · exact .inl hxy
  · exact .inr (h.apart.forall hx hy hxy)

/-- Entries are the same or apart, also with a further one that is apart from all. -/
theorem IsList.eq_or_apart_cons (h : IsList m head l) {entry y : ℕ}
    (hapart : ∀ z ∈ head :: l, Apart entry z) (hx : x ∈ entry :: head :: l)
    (hy : y ∈ entry :: head :: l) : x = y ∨ Apart x y := by
  rcases List.mem_cons.1 hx with hxe | hx <;> rcases List.mem_cons.1 hy with hye | hy
  · exact .inl (hxe.trans hye.symm)
  · exact .inr (hxe ▸ hapart y hy)
  · exact .inr (hye ▸ (hapart x hx).symm)
  · exact h.eq_or_apart hx hy

/-- No entry occurs twice. -/
theorem IsList.nodup (h : IsList m head l) : (head :: l).Nodup :=
  h.apart.imp fun hab => hab.ne

/-- The memory determines the entries of a list. -/
theorem IsList.unique {l' : List ℕ} (h : IsList m head l) (h' : IsList m head l') : l = l' :=
  h.chain.unique h'.chain (List.nodup_cons.1 h.nodup).1 (List.nodup_cons.1 h'.nodup).1

/-- **Inserting an entry behind the head**, by what the pointers are afterwards. -/
theorem IsList.insert {entry : ℕ} (h : IsList m head l)
    (hapart : ∀ x ∈ head :: l, Apart entry x) (hbound : entry + 16 ≤ 2 ^ 64)
    (hf : ∀ x ∈ entry :: head :: l, forwardLink m' x =
      if x = head then entry else if x = entry then forwardLink m head else forwardLink m x)
    (hb : ∀ x ∈ entry :: head :: l, backLink m' x =
      if x = forwardLink m head then entry else if x = entry then head else backLink m x) :
    IsList m' head (entry :: l) := by
  have hne : entry ≠ head := (hapart head List.mem_cons_self).ne
  have hnext : entry ≠ forwardLink m head := (hapart _ h.forwardLink_mem).ne
  refine ⟨?_, ?_, ?_⟩
  · have hfhead := hf head (by simp)
    have hbentry := hb entry (by simp)
    have hfentry := hf entry (by simp)
    rw [if_pos rfl] at hfhead
    rw [if_neg hnext, if_pos rfl] at hbentry
    rw [if_neg hne, if_pos rfl] at hfentry
    refine ⟨hfhead, hbentry, ?_⟩
    have hchain := h.chain
    have hfwd := h.chain.forwardLink_eq
    rcases l with _ | ⟨x, l⟩
    · have hfwd : forwardLink m head = head := hfwd
      have hbhead := hb head (by simp)
      rw [if_pos hfwd.symm] at hbhead
      exact ⟨hfentry.trans hfwd, hbhead⟩
    · have hfwd : forwardLink m head = x := hfwd
      have hbx := hb x (by simp)
      rw [if_pos hfwd.symm] at hbx
      have hnodup := h.nodup
      simp only [List.nodup_cons, List.mem_cons, not_or] at hnodup
      refine ⟨hfentry.trans hfwd, hbx, hchain.2.2.congr (fun y hy => ?_) fun y hy => ?_⟩
      · have hyh : y ≠ head := by
          rintro rfl
          rcases List.mem_cons.1 hy with rfl | hy
          · exact hnodup.1.1 rfl
          · exact hnodup.1.2 hy
        have hye : y ≠ entry := fun he =>
          (hapart y (List.mem_cons_of_mem _ hy)).ne he.symm
        rw [hf y (by simp [List.mem_cons.1 hy]), if_neg hyh, if_neg hye]
      · have hyx : y ≠ x := by
          rintro rfl
          rcases List.mem_cons.1 hy with rfl | hy
          · exact hnodup.1.1 rfl
          · exact hnodup.2.1 hy
        have hmem : y ∈ head :: x :: l := by
          rcases List.mem_cons.1 hy with rfl | hy
          · exact List.mem_cons_self
          · exact List.mem_cons_of_mem _ (List.mem_cons_of_mem _ hy)
        have hye : y ≠ entry := fun he => (hapart y hmem).ne he.symm
        rw [hb y (List.mem_cons_of_mem _ hmem), hfwd, if_neg hyx, if_neg hye]
  · have hcons : (entry :: head :: l).Pairwise Apart := List.pairwise_cons.2 ⟨hapart, h.apart⟩
    exact ((List.Perm.swap head entry l).pairwise_iff fun hab => hab.symm).1 hcons
  · intro x hx
    simp only [List.mem_cons] at hx
    rcases hx with rfl | rfl | hx
    · exact h.bound x List.mem_cons_self
    · exact hbound
    · exact h.bound x (List.mem_cons_of_mem _ hx)

/-- **Removing the entry behind the head**, by what the pointers are afterwards. -/
theorem IsList.remove {entry : ℕ} (h : IsList m head (entry :: l))
    (hf : ∀ x ∈ head :: l, forwardLink m' x =
      if x = head then forwardLink m entry else forwardLink m x)
    (hb : ∀ x ∈ head :: l, backLink m' x =
      if x = forwardLink m entry then head else backLink m x) :
    IsList m' head l := by
  have hnodup := h.nodup
  simp only [List.nodup_cons, List.mem_cons, not_or] at hnodup
  refine ⟨?_, ?_, fun x hx => h.bound x ?_⟩
  · have hfhead := hf head List.mem_cons_self
    rw [if_pos rfl] at hfhead
    have hchain := h.chain.2.2
    have hfwd := hchain.forwardLink_eq
    rcases l with _ | ⟨x, l⟩
    · have hfwd : forwardLink m entry = head := hfwd
      have hbhead := hb head List.mem_cons_self
      rw [if_pos hfwd.symm] at hbhead
      exact ⟨hfhead.trans hfwd, hbhead⟩
    · have hfwd : forwardLink m entry = x := hfwd
      have hbx := hb x (by simp)
      rw [if_pos hfwd.symm] at hbx
      simp only [List.nodup_cons, List.mem_cons, not_or] at hnodup
      refine ⟨hfhead.trans hfwd, hbx, hchain.2.2.congr (fun y hy => ?_) fun y hy => ?_⟩
      · have hyh : y ≠ head := by
          rintro rfl
          rcases List.mem_cons.1 hy with rfl | hy
          · exact hnodup.1.2.1 rfl
          · exact hnodup.1.2.2 hy
        rw [hf y (List.mem_cons_of_mem _ hy), if_neg hyh]
      · have hyx : y ≠ x := by
          rintro rfl
          rcases List.mem_cons.1 hy with rfl | hy
          · exact hnodup.1.2.1 rfl
          · exact hnodup.2.2.1 hy
        have hmem : y ∈ head :: x :: l := by
          rcases List.mem_cons.1 hy with rfl | hy
          · exact List.mem_cons_self
          · exact List.mem_cons_of_mem _ (List.mem_cons_of_mem _ hy)
        rw [hb y hmem, hfwd, if_neg hyx]
  · exact h.apart.sublist (List.Sublist.cons_cons _ (List.sublist_cons_self _ _))
  · rcases List.mem_cons.1 hx with rfl | hx
    · exact List.mem_cons_self
    · exact List.mem_cons_of_mem _ (List.mem_cons_of_mem _ hx)

end IsList

end LinkedList
end FfaFeature
