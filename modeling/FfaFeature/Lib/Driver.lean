/-
# Triples for a driver and its device

A computation that talks to an environment drives a device: what the device has come to is some
`state` of the events so far, and it moves with every event.  `Triple` is the triple of this
setting: from a history that leaves the device in `P`, the computation returns a result and leaves
the device as `Q` says.

The rules are those of any program logic, with the events in the place of the assignments: what is
asked of the device is that it answers and moves as a device of its kind.
-/

import FfaFeature.Lib.Traced

namespace Traced

variable {ρ ε α β : Type} {S : Type*}

/-- `{P} m {Q}` in the environment `r`, of which `state` says what it has come to. -/
def Triple (r : ρ) (state : List ε → S) (P : S → Prop) (m : Traced ρ ε α) (Q : α → S → Prop) :
    Prop :=
  ∀ h, P (state h) → Q (m.run r h).1 (state (h ++ (m.run r h).2))

variable {r : ρ} {state : List ε → S} {P P' : S → Prop} {m : Traced ρ ε α}

/-- The rule for a result. -/
theorem Triple.pure {a : α} {Q : α → S → Prop} (h : ∀ s, P s → Q a s) :
    Triple r state P (Pure.pure a) Q := by
  intro t ht
  rw [run_pure, List.append_nil]
  exact h _ ht

/-- The rule for a sequence. -/
theorem Triple.bind {f : α → Traced ρ ε β} {R : α → S → Prop} {Q : β → S → Prop}
    (hm : Triple r state P m R) (hf : ∀ a, Triple r state (R a) (f a) Q) :
    Triple r state P (m >>= f) Q := by
  intro t ht
  have hrest := hf _ _ (hm t ht)
  rw [List.append_assoc] at hrest
  exact hrest

/-- The rule of consequence. -/
theorem Triple.weaken {Q Q' : α → S → Prop} (h : Triple r state P m Q) (hpre : ∀ s, P' s → P s)
    (hpost : ∀ a s, Q a s → Q' a s) : Triple r state P' m Q' :=
  fun t ht => hpost _ _ (h t (hpre _ ht))

/-- A weaker postcondition. -/
theorem Triple.mono {Q Q' : α → S → Prop} (h : Triple r state P m Q)
    (hpost : ∀ a s, Q a s → Q' a s) : Triple r state P m Q' :=
  h.weaken (fun _ => id) hpost

/-- A precondition with a parameter. -/
theorem Triple.exists {ι : Type*} {P : ι → S → Prop} {Q : α → S → Prop}
    (h : ∀ i, Triple r state (P i) m Q) : Triple r state (fun s => ∃ i, P i s) m Q :=
  fun t ⟨i, hi⟩ => h i t hi

/-- A precondition with two cases. -/
theorem Triple.or {Q : α → S → Prop} (h : Triple r state P m Q) (h' : Triple r state P' m Q) :
    Triple r state (fun s => P s ∨ P' s) m Q :=
  fun t ht => ht.elim (h t) (h' t)

/-- A precondition with a fact that is not about the device. -/
theorem Triple.of_pre {p : Prop} {Q : α → S → Prop} (h : p → Triple r state P m Q) :
    Triple r state (fun s => p ∧ P s) m Q :=
  fun t ⟨hp, ht⟩ => h hp t ht

/-- The rule for an event. -/
theorem Triple.emit {e : ε} {Q : Unit → S → Prop}
    (h : ∀ t, P (state t) → Q () (state (t ++ [e]))) : Triple r state P (Traced.emit e) Q :=
  h

/-- The rule for a question about the environment. -/
theorem Triple.ask {answer : ρ → α} {Q : α → S → Prop} (h : ∀ s, P s → Q (answer r) s) :
    Triple r state P (Traced.ask answer) Q := by
  intro t ht
  rw [run_ask, List.append_nil]
  exact h _ ht

/-- The rule for an event with an answer. -/
theorem Triple.query {answer : ρ → List ε → α} {event : α → ε} {Q : α → S → Prop}
    (h : ∀ t, P (state t) → Q (answer r t) (state (t ++ [event (answer r t)]))) :
    Triple r state P (Traced.query answer event) Q :=
  h

/-- **The frame rule**: what every event of a kind preserves, a computation that emits no other
preserves. -/
theorem Triple.frame {I : S → Prop} {p : ε → Prop} (hm : Emits (· = r) m p)
    (hkeep : ∀ t e, p e → I (state t) → I (state (t ++ [e]))) :
    Triple r state I m fun _ => I := by
  intro t ht
  have hall := hm r rfl t
  generalize (m.run r t).2 = es at hall
  induction es generalizing t with
  | nil => rwa [List.append_nil]
  | cons e es ih =>
    have hrest := ih (t ++ [e]) (hkeep t e (hall e (List.mem_cons_self ..)) ht)
      fun x hx => hall x (List.mem_cons_of_mem _ hx)
    rwa [List.append_assoc] at hrest

/-- The rule for a loop over the indices `a` to `a + n`, with the invariant `I`. -/
theorem Triple.foldlM_range' {f : β → ℕ → Traced ρ ε β} {I : ℕ → β → S → Prop} {a n : ℕ} {b : β}
    (h : ∀ k, a ≤ k → k < a + n → ∀ b, Triple r state (I k b) (f b k) (I (k + 1))) :
    Triple r state (I a b) ((List.range' a n).foldlM f b) (I (a + n)) := by
  induction n generalizing a b with
  | zero => exact Triple.pure fun _ => id
  | succ n ih =>
    rw [List.range'_succ, List.foldlM_cons]
    refine Triple.bind (h a (Nat.le_refl a) (by omega) b) fun b' => ?_
    have hrest := @ih (a + 1) b' fun k hle hlt => h k (by omega) (by omega)
    rwa [show a + 1 + n = a + (n + 1) by omega] at hrest

/-- The same from `0` on. -/
theorem Triple.foldlM_range {f : β → ℕ → Traced ρ ε β} {I : ℕ → β → S → Prop} {n : ℕ} {b : β}
    (h : ∀ k, k < n → ∀ b, Triple r state (I k b) (f b k) (I (k + 1))) :
    Triple r state (I 0 b) ((List.range n).foldlM f b) (I n) := by
  have hloop := @Triple.foldlM_range' _ _ _ _ r state f I 0 n b fun k _ hlt b => h k (by omega) b
  rwa [Nat.zero_add, ← List.range_eq_range'] at hloop

end Traced
