/-
# The functions of `BaseLib`

The allocator keeps its lists with the `LIST_ENTRY` functions of `BaseLib`, and finds a
size class with its `HighBitSet32`.  That library is not part of the repository, so a
`BaseLib` here is any implementation that does what the library's header documents:
what each function makes of a list, and that it changes no byte but those of the
entries involved.  `BaseLib.standard` is one that stores the pointers the obvious way.
-/

import FfaFeature.Lib.LinkedList
import Mathlib.Data.Nat.Log

namespace FfaFeature
namespace Allocation

open LinkedList

/-- An implementation of the functions used, with what is documented about them. -/
structure BaseLib where
  initializeListHead : Mem → ℕ → Mem
  insertHeadList : Mem → ℕ → ℕ → Mem
  insertTailList : Mem → ℕ → ℕ → Mem
  removeEntryList : Mem → ℕ → Mem
  isListEmpty : Mem → ℕ → Bool
  getFirstNode : Mem → ℕ → ℕ
  highBitSet32 : ℕ → ℤ
  /-- The head is initialised to an empty list. -/
  initializeListHead_isList : ∀ {m head}, head + 16 ≤ 2 ^ 64 →
    IsList (initializeListHead m head) head []
  initializeListHead_eqOn : ∀ m head,
    Set.EqOn (initializeListHead m head) m (entryBytes head)ᶜ
  /-- The entry becomes the first one. -/
  insertHeadList_isList : ∀ {m head l entry}, IsList m head l →
    (∀ x ∈ head :: l, Apart entry x) → entry + 16 ≤ 2 ^ 64 →
    IsList (insertHeadList m head entry) head (entry :: l)
  insertHeadList_eqOn : ∀ {m head l entry}, IsList m head l →
    (∀ x ∈ head :: l, Apart entry x) →
    Set.EqOn (insertHeadList m head entry) m (entriesBytes (entry :: head :: l))ᶜ
  /-- The entry becomes the last one. -/
  insertTailList_isList : ∀ {m head l entry}, IsList m head l →
    (∀ x ∈ head :: l, Apart entry x) → entry + 16 ≤ 2 ^ 64 →
    IsList (insertTailList m head entry) head (l ++ [entry])
  insertTailList_eqOn : ∀ {m head l entry}, IsList m head l →
    (∀ x ∈ head :: l, Apart entry x) →
    Set.EqOn (insertTailList m head entry) m (entriesBytes (entry :: head :: l))ᶜ
  /-- The entry is removed. -/
  removeEntryList_isList : ∀ {m head l₁ l₂ entry}, IsList m head (l₁ ++ entry :: l₂) →
    IsList (removeEntryList m entry) head (l₁ ++ l₂)
  removeEntryList_eqOn : ∀ {m head l₁ l₂ entry}, IsList m head (l₁ ++ entry :: l₂) →
    Set.EqOn (removeEntryList m entry) m (entriesBytes (head :: (l₁ ++ entry :: l₂)))ᶜ
  isListEmpty_iff : ∀ {m head l}, IsList m head l → (isListEmpty m head = true ↔ l = [])
  getFirstNode_eq : ∀ {m head x l}, IsList m head (x :: l) → getFirstNode m head = x
  /-- The position of the highest bit set. -/
  highBitSet32_eq : ∀ {operand k : ℕ}, k < 32 → 2 ^ k ≤ operand → operand < 2 ^ (k + 1) →
    highBitSet32 operand = k

namespace BaseLib

variable (lib : BaseLib) {m : Mem} {head entry x : ℕ} {l₁ l₂ : List ℕ}

/-- `InsertHeadList` at any entry of a list links a new one in behind it. -/
theorem insertHeadList_at (h : IsList m head (l₁ ++ x :: l₂))
    (hapart : ∀ y ∈ head :: (l₁ ++ x :: l₂), Apart entry y) (hbound : entry + 16 ≤ 2 ^ 64) :
    IsList (lib.insertHeadList m x entry) head (l₁ ++ x :: entry :: l₂) ∧
      Set.EqOn (lib.insertHeadList m x entry) m
        (entriesBytes (head :: (l₁ ++ x :: entry :: l₂)))ᶜ := by
  have hrot : IsList m x (l₂ ++ head :: l₁) := h.rotate
  have hapart' : ∀ y ∈ x :: (l₂ ++ head :: l₁), Apart entry y := fun y hy =>
    hapart y ((rotate_perm head x l₁ l₂).mem_iff.2 hy)
  have hins : IsList (lib.insertHeadList m x entry) x ((entry :: l₂) ++ head :: l₁) :=
    lib.insertHeadList_isList hrot hapart' hbound
  have hperm : (entry :: x :: (l₂ ++ head :: l₁)).Perm (head :: (l₁ ++ x :: entry :: l₂)) :=
    (List.Perm.swap x entry _).trans (rotate_perm head x l₁ (entry :: l₂)).symm
  refine ⟨hins.rotate, ?_⟩
  rw [← entriesBytes_perm hperm]
  exact lib.insertHeadList_eqOn hrot hapart'

/-- `InsertTailList` at any entry, or at the head, links a new one in before it. -/
theorem insertTailList_at (h : IsList m head (l₁ ++ l₂))
    (hapart : ∀ y ∈ head :: (l₁ ++ l₂), Apart entry y) (hbound : entry + 16 ≤ 2 ^ 64) :
    IsList (lib.insertTailList m (l₂.headD head) entry) head (l₁ ++ entry :: l₂) ∧
      Set.EqOn (lib.insertTailList m (l₂.headD head) entry) m
        (entriesBytes (head :: (l₁ ++ entry :: l₂)))ᶜ := by
  rcases l₂ with _ | ⟨x, l₂⟩
  · rw [List.append_nil] at h hapart
    have hperm : (entry :: head :: l₁).Perm (head :: (l₁ ++ [entry])) :=
      (List.Perm.swap head entry l₁).trans
        ((List.perm_append_singleton entry l₁).symm.cons head)
    refine ⟨lib.insertTailList_isList h hapart hbound, ?_⟩
    rw [← entriesBytes_perm hperm]
    exact lib.insertTailList_eqOn h hapart
  · have hrot : IsList m x (l₂ ++ head :: l₁) := h.rotate
    have hapart' : ∀ y ∈ x :: (l₂ ++ head :: l₁), Apart entry y := fun y hy =>
      hapart y ((rotate_perm head x l₁ l₂).mem_iff.2 hy)
    have hins := lib.insertTailList_isList hrot hapart' hbound
    have hperm : (entry :: x :: (l₂ ++ head :: l₁)).Perm (head :: (l₁ ++ entry :: x :: l₂)) := by
      refine ((rotate_perm head x l₁ l₂).symm.cons entry).trans ?_
      exact (List.Perm.swap head entry _).trans (List.perm_middle.symm.cons head)
    refine ⟨?_, ?_⟩
    · rw [List.append_assoc, List.cons_append] at hins
      simpa using hins.rotate
    · rw [← entriesBytes_perm hperm]
      exact lib.insertTailList_eqOn hrot hapart'

end BaseLib

/-! ### The usual implementation -/

namespace Standard

/-- `InitializeListHead`. -/
def initializeListHead (m : Mem) (listHead : ℕ) : Mem :=
  setBackLink (setForwardLink m listHead listHead) listHead listHead

/-- `InsertHeadList`. -/
def insertHeadList (m : Mem) (listHead entry : ℕ) : Mem :=
  let m := setForwardLink m entry (forwardLink m listHead)
  let m := setBackLink m entry listHead
  let m := setBackLink m (forwardLink m entry) entry
  setForwardLink m listHead entry

/-- `InsertTailList`. -/
def insertTailList (m : Mem) (listHead entry : ℕ) : Mem :=
  let m := setForwardLink m entry listHead
  let m := setBackLink m entry (backLink m listHead)
  let m := setForwardLink m (backLink m entry) entry
  setBackLink m listHead entry

/-- `RemoveEntryList`. -/
def removeEntryList (m : Mem) (entry : ℕ) : Mem :=
  let m := setBackLink m (forwardLink m entry) (backLink m entry)
  setForwardLink m (backLink m entry) (forwardLink m entry)

variable {m : Mem} {head entry : ℕ} {l l₁ l₂ : List ℕ}

/-- An initialised head is that of an empty list. -/
theorem initializeListHead_isList (hbound : head + 16 ≤ 2 ^ 64) :
    IsList (initializeListHead m head) head [] := by
  have hlt : head < 2 ^ 64 := by omega
  refine ⟨⟨?_, ?_⟩, List.pairwise_singleton _ _, by simpa using hbound⟩
  · rw [initializeListHead, forwardLink_setBackLink (.inl rfl),
      forwardLink_setForwardLink (.inl rfl) hlt, if_pos rfl]
  · rw [initializeListHead, backLink_setBackLink (.inl rfl) hlt, if_pos rfl]

/-- `InitializeListHead` writes the links of the head. -/
theorem initializeListHead_eqOn (m : Mem) (head : ℕ) :
    Set.EqOn (initializeListHead m head) m (entryBytes head)ᶜ := by
  have hset : entriesBytes [head] = entryBytes head := by
    ext a
    simp [entriesBytes]
  rw [← hset]
  exact (setBackLink_eqOn List.mem_cons_self).trans (setForwardLink_eqOn List.mem_cons_self)

/-- What `insertHeadList` reads before it links the next entry back. -/
theorem insertHeadList_next (m : Mem) (head entry : ℕ) :
    forwardLink (setBackLink (setForwardLink m entry (forwardLink m head)) entry head) entry =
      forwardLink m head := by
  have hlt : forwardLink m head < 2 ^ 64 := Mem.load64_lt ..
  rw [forwardLink_setBackLink (.inl rfl), forwardLink_setForwardLink (.inl rfl) hlt, if_pos rfl]

/-- `InsertHeadList` puts a new entry in front of the list. -/
theorem insertHeadList_isList (h : IsList m head l) (hapart : ∀ x ∈ head :: l, Apart entry x)
    (hbound : entry + 16 ≤ 2 ^ 64) : IsList (insertHeadList m head entry) head (entry :: l) := by
  have hlt : entry < 2 ^ 64 := by omega
  have hhead_lt : head < 2 ^ 64 := by
    have := h.bound head List.mem_cons_self
    omega
  have hnext_lt : forwardLink m head < 2 ^ 64 := Mem.load64_lt ..
  have hentry : entry ∈ entry :: head :: l := List.mem_cons_self
  have hhead : head ∈ entry :: head :: l := List.mem_cons_of_mem _ List.mem_cons_self
  have hnext : forwardLink m head ∈ entry :: head :: l :=
    List.mem_cons_of_mem _ h.forwardLink_mem
  refine h.insert hapart hbound (fun x hx => ?_) fun x hx => ?_
  · rw [insertHeadList, insertHeadList_next,
      forwardLink_setForwardLink (h.eq_or_apart_cons hapart hhead hx) hlt,
      forwardLink_setBackLink (h.eq_or_apart_cons hapart hnext hx),
      forwardLink_setBackLink (h.eq_or_apart_cons hapart hentry hx),
      forwardLink_setForwardLink (h.eq_or_apart_cons hapart hentry hx) hnext_lt]
  · rw [insertHeadList, insertHeadList_next,
      backLink_setForwardLink (h.eq_or_apart_cons hapart hhead hx),
      backLink_setBackLink (h.eq_or_apart_cons hapart hnext hx) hlt,
      backLink_setBackLink (h.eq_or_apart_cons hapart hentry hx) hhead_lt,
      backLink_setForwardLink (h.eq_or_apart_cons hapart hentry hx)]

/-- It writes the links of the entry and of the list. -/
theorem insertHeadList_eqOn (h : IsList m head l) :
    Set.EqOn (insertHeadList m head entry) m (entriesBytes (entry :: head :: l))ᶜ := by
  have hentry : entry ∈ entry :: head :: l := List.mem_cons_self
  have hhead : head ∈ entry :: head :: l := List.mem_cons_of_mem _ List.mem_cons_self
  have hnext : forwardLink m head ∈ entry :: head :: l :=
    List.mem_cons_of_mem _ h.forwardLink_mem
  rw [insertHeadList, insertHeadList_next]
  exact (setForwardLink_eqOn hhead).trans <| (setBackLink_eqOn hnext).trans <|
    (setBackLink_eqOn hentry).trans (setForwardLink_eqOn hentry)

/-- What `insertTailList` reads as the last entry. -/
theorem insertTailList_last (h : Apart entry head) :
    backLink (setForwardLink m entry head) head = backLink m head :=
  backLink_setForwardLink (.inr h)

/-- And what it reads before it links the last entry forward. -/
theorem insertTailList_prev (m : Mem) (entry value : ℕ) {last : ℕ} (h : last < 2 ^ 64) :
    backLink (setBackLink (setForwardLink m entry value) entry last) entry = last := by
  rw [backLink_setBackLink (.inl rfl) h, if_pos rfl]

/-- Behind the last entry is in front of the head. -/
theorem insertTailList_isList (h : IsList m head l) (hapart : ∀ x ∈ head :: l, Apart entry x)
    (hbound : entry + 16 ≤ 2 ^ 64) : IsList (insertTailList m head entry) head (l ++ [entry]) := by
  have hlt : entry < 2 ^ 64 := by omega
  have hhead_lt : head < 2 ^ 64 := by
    have := h.bound head List.mem_cons_self
    omega
  have hlast_lt : backLink m head < 2 ^ 64 := Mem.load64_lt ..
  have hentry : entry ∈ entry :: head :: l := List.mem_cons_self
  have hhead : head ∈ entry :: head :: l := List.mem_cons_of_mem _ List.mem_cons_self
  have hlast : backLink m head ∈ entry :: head :: l := List.mem_cons_of_mem _ h.backLink_mem
  have hf : ∀ x ∈ entry :: head :: l, forwardLink (insertTailList m head entry) x =
      if x = backLink m head then entry else if x = entry then head else forwardLink m x := by
    intro x hx
    rw [insertTailList, insertTailList_last (hapart head List.mem_cons_self),
      insertTailList_prev _ _ _ hlast_lt,
      forwardLink_setBackLink (h.eq_or_apart_cons hapart hhead hx),
      forwardLink_setForwardLink (h.eq_or_apart_cons hapart hlast hx) hlt,
      forwardLink_setBackLink (h.eq_or_apart_cons hapart hentry hx),
      forwardLink_setForwardLink (h.eq_or_apart_cons hapart hentry hx) hhead_lt]
  have hb : ∀ x ∈ entry :: head :: l, backLink (insertTailList m head entry) x =
      if x = head then entry else if x = entry then backLink m head else backLink m x := by
    intro x hx
    rw [insertTailList, insertTailList_last (hapart head List.mem_cons_self),
      insertTailList_prev _ _ _ hlast_lt,
      backLink_setBackLink (h.eq_or_apart_cons hapart hhead hx) hlt,
      backLink_setForwardLink (h.eq_or_apart_cons hapart hlast hx),
      backLink_setBackLink (h.eq_or_apart_cons hapart hentry hx) hlast_lt,
      backLink_setForwardLink (h.eq_or_apart_cons hapart hentry hx)]
  have hback := h.chain.backLink_eq
  rcases List.eq_nil_or_concat l with rfl | ⟨l, last, rfl⟩
  · have hback : backLink m head = head := hback
    have hfwd : forwardLink m head = head := h.chain.1
    refine h.insert hapart hbound (fun x hx => ?_) fun x hx => ?_
    · rw [hf x hx, hback, hfwd]
    · rw [hb x hx, hback, hfwd]
  · rw [List.concat_eq_append] at *
    have hback : backLink m head = last := by simpa using hback
    have hfwd : forwardLink m last = head := (chain_append.1 h.chain).2.1
    have hrot : IsList m last ([] ++ head :: l) := h.rotate
    have hperm : ∀ {x}, x ∈ last :: ([] ++ head :: l) → x ∈ head :: (l ++ [last]) :=
      (rotate_perm head last l []).mem_iff.2
    have hperm' : ∀ {x}, x ∈ entry :: last :: ([] ++ head :: l) →
        x ∈ entry :: head :: (l ++ [last]) :=
      ((rotate_perm head last l []).cons entry).mem_iff.2
    rw [hback] at hf hb
    have hins : IsList (insertTailList m head entry) last ([entry] ++ head :: l) := by
      refine hrot.insert (fun x hx => hapart x (hperm hx)) hbound (fun x hx => ?_) fun x hx => ?_
      · rw [hf x (hperm' hx), hfwd]
      · rw [hb x (hperm' hx), hfwd]
    simpa using hins.rotate

/-- `InsertTailList` writes the same links. -/
theorem insertTailList_eqOn (h : IsList m head l) (hapart : ∀ x ∈ head :: l, Apart entry x) :
    Set.EqOn (insertTailList m head entry) m (entriesBytes (entry :: head :: l))ᶜ := by
  have hentry : entry ∈ entry :: head :: l := List.mem_cons_self
  have hhead : head ∈ entry :: head :: l := List.mem_cons_of_mem _ List.mem_cons_self
  have hlast : backLink m head ∈ entry :: head :: l := List.mem_cons_of_mem _ h.backLink_mem
  have hlast_lt : backLink m head < 2 ^ 64 := Mem.load64_lt ..
  rw [insertTailList, insertTailList_last (hapart head List.mem_cons_self),
    insertTailList_prev _ _ _ hlast_lt]
  exact (setBackLink_eqOn hhead).trans <| (setForwardLink_eqOn hlast).trans <|
    (setBackLink_eqOn hentry).trans (setForwardLink_eqOn hentry)

/-- `RemoveEntryList` takes the entry out of the list. -/
theorem removeEntryList_isList (h : IsList m head (l₁ ++ entry :: l₂)) :
    IsList (removeEntryList m entry) head (l₁ ++ l₂) := by
  have hback_lt : backLink m entry < 2 ^ 64 := Mem.load64_lt ..
  have hfwd_lt : forwardLink m entry < 2 ^ 64 := Mem.load64_lt ..
  have hrot : IsList m entry (l₂ ++ head :: l₁) := h.rotate
  have hnext := hrot.forwardLink_mem
  have hprev := hrot.backLink_mem
  have hself : entry ∈ entry :: (l₂ ++ head :: l₁) := List.mem_cons_self
  have hne : forwardLink m entry ≠ entry := by
    have hnodup := hrot.nodup
    rw [hrot.chain.forwardLink_eq]
    rintro he
    rcases l₂ with _ | ⟨y, l₂⟩
    · simp only [List.nil_append, List.headD_cons] at he
      simp [he] at hnodup
    · simp only [List.cons_append, List.headD_cons] at he
      simp [he] at hnodup
  have hreadBack : backLink (setBackLink m (forwardLink m entry) (backLink m entry)) entry =
      backLink m entry := by
    rw [backLink_setBackLink (hrot.eq_or_apart hnext hself) hback_lt, if_neg hne.symm]
  have hreadFwd : forwardLink (setBackLink m (forwardLink m entry) (backLink m entry)) entry =
      forwardLink m entry :=
    forwardLink_setBackLink (hrot.eq_or_apart hnext hself)
  have hf : ∀ x ∈ entry :: (l₂ ++ head :: l₁), forwardLink (removeEntryList m entry) x =
      if x = backLink m entry then forwardLink m entry else forwardLink m x := by
    intro x hx
    rw [removeEntryList, hreadBack, hreadFwd,
      forwardLink_setForwardLink (hrot.eq_or_apart hprev hx) hfwd_lt,
      forwardLink_setBackLink (hrot.eq_or_apart hnext hx)]
  have hb : ∀ x ∈ entry :: (l₂ ++ head :: l₁), backLink (removeEntryList m entry) x =
      if x = forwardLink m entry then backLink m entry else backLink m x := by
    intro x hx
    rw [removeEntryList, hreadBack, hreadFwd,
      backLink_setForwardLink (hrot.eq_or_apart hprev hx),
      backLink_setBackLink (hrot.eq_or_apart hnext hx) hback_lt]
  have hmem : ∀ {x}, x ∈ head :: (l₁ ++ l₂) → x ∈ entry :: (l₂ ++ head :: l₁) := fun hx =>
    (rotate_perm head entry l₁ l₂).mem_iff.1
      (((List.sublist_cons_self entry l₂).append_left l₁).cons_cons head |>.subset hx)
  have hchain := chain_append.1 h.chain
  -- the previous entry takes the part of the head
  rcases List.eq_nil_or_concat l₁ with rfl | ⟨l₁, prev, rfl⟩
  · have hback : backLink m entry = head := hchain.1.backLink_eq
    rw [hback] at hf hb
    exact h.remove (fun x hx => hf x (hmem hx)) fun x hx => hb x (hmem hx)
  · rw [List.concat_eq_append] at *
    have hback : backLink m entry = prev := by simpa using hchain.1.backLink_eq
    rw [List.append_assoc] at h
    have hrot' : IsList m prev (entry :: (l₂ ++ head :: l₁)) := h.rotate
    have hmem' : ∀ {x}, x ∈ prev :: (l₂ ++ head :: l₁) → x ∈ head :: ((l₁ ++ [prev]) ++ l₂) := by
      intro x hx
      rw [List.append_assoc]
      exact (rotate_perm head prev l₁ l₂).mem_iff.2 hx
    rw [hback] at hf hb
    have hrem : IsList (removeEntryList m entry) prev (l₂ ++ head :: l₁) :=
      hrot'.remove (fun x hx => hf x (hmem (hmem' hx))) fun x hx => hb x (hmem (hmem' hx))
    simpa using hrem.rotate

/-- It writes the links of the list. -/
theorem removeEntryList_eqOn (h : IsList m head (l₁ ++ entry :: l₂)) :
    Set.EqOn (removeEntryList m entry) m (entriesBytes (head :: (l₁ ++ entry :: l₂)))ᶜ := by
  have hrot : IsList m entry (l₂ ++ head :: l₁) := h.rotate
  have hself : entry ∈ entry :: (l₂ ++ head :: l₁) := List.mem_cons_self
  have hmem : ∀ {x}, x ∈ entry :: (l₂ ++ head :: l₁) → x ∈ head :: (l₁ ++ entry :: l₂) :=
    (rotate_perm head entry l₁ l₂).mem_iff.2
  have hback_lt : backLink m entry < 2 ^ 64 := Mem.load64_lt ..
  have hread : backLink (setBackLink m (forwardLink m entry) (backLink m entry)) entry =
      backLink m entry := by
    rw [backLink_setBackLink (hrot.eq_or_apart hrot.forwardLink_mem hself) hback_lt]
    split_ifs <;> rfl
  rw [removeEntryList, hread]
  exact (setForwardLink_eqOn (hmem hrot.backLink_mem)).trans
    (setBackLink_eqOn (hmem hrot.forwardLink_mem))

/-- `IsListEmpty`, on a list. -/
theorem isListEmpty_iff (h : IsList m head l) : (forwardLink m head == head) = true ↔ l = [] := by
  rw [beq_iff_eq, h.chain.forwardLink_eq]
  have hnodup := h.nodup
  rcases l with _ | ⟨x, l⟩
  · simp
  · simp only [List.nodup_cons, List.mem_cons, not_or] at hnodup
    simpa using fun he => hnodup.1.1 he.symm

/-- `HighBitSet32`. -/
def highBitSet32 (operand : ℕ) : ℤ := if operand = 0 then -1 else Nat.log2 operand

/-- The highest bit of a number between two powers of two. -/
theorem highBitSet32_eq {operand k : ℕ} (h : 2 ^ k ≤ operand) (h' : operand < 2 ^ (k + 1)) :
    highBitSet32 operand = k := by
  have hne : operand ≠ 0 := by
    have := Nat.two_pow_pos k
    omega
  rw [highBitSet32, if_neg hne, (Nat.log2_eq_iff hne).2 ⟨h, h'⟩]

end Standard

/-- The usual implementation. -/
def BaseLib.standard : BaseLib where
  initializeListHead := Standard.initializeListHead
  insertHeadList := Standard.insertHeadList
  insertTailList := Standard.insertTailList
  removeEntryList := Standard.removeEntryList
  isListEmpty m head := forwardLink m head == head
  getFirstNode := forwardLink
  highBitSet32 := Standard.highBitSet32
  initializeListHead_isList := Standard.initializeListHead_isList
  initializeListHead_eqOn := Standard.initializeListHead_eqOn
  insertHeadList_isList := Standard.insertHeadList_isList
  insertHeadList_eqOn h _ := Standard.insertHeadList_eqOn h
  insertTailList_isList := Standard.insertTailList_isList
  insertTailList_eqOn := Standard.insertTailList_eqOn
  removeEntryList_isList := Standard.removeEntryList_isList
  removeEntryList_eqOn := Standard.removeEntryList_eqOn
  isListEmpty_iff := Standard.isListEmpty_iff
  getFirstNode_eq h := h.chain.1
  highBitSet32_eq _ := Standard.highBitSet32_eq

end Allocation
end FfaFeature
