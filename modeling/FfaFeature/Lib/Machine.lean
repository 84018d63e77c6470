/-
# Machines, their runs and the past of a run

A machine answers each input with an output and a next state.  Its runs are
lists of inputs: `final` is the state a run ends in and `history` the steps it
took, each with the state before, the input, the output and the state after.
Everything is proved from the last step backwards (`history_concat`,
`final_concat`), which is how a claim about the past of a step is met.

`Since P Q h` is the past-time *since* of linear temporal logic over a history:
some step satisfied `P`, and every step after it satisfied `Q`.
-/

import Mathlib.Data.List.Induction
import Mathlib.Tactic.Common


/-- A machine over states `σ`, inputs `ι` and outputs `ω`. -/
structure Machine (σ ι ω : Type*) where
  step : σ → ι → σ × ω

namespace Machine

variable {σ ι ω : Type*}

/-- One step of a run. -/
structure Step (σ ι ω : Type*) where
  pre : σ
  input : ι
  output : ω
  post : σ

/-- The step `M` takes from `s` on `i`. -/
def stepAt (M : Machine σ ι ω) (s : σ) (i : ι) : Step σ ι ω :=
  ⟨s, i, (M.step s i).2, (M.step s i).1⟩

/-- The state before the step. -/
@[simp] theorem stepAt_pre (M : Machine σ ι ω) (s : σ) (i : ι) : (M.stepAt s i).pre = s := rfl

/-- The input of the step. -/
@[simp] theorem stepAt_input (M : Machine σ ι ω) (s : σ) (i : ι) : (M.stepAt s i).input = i := rfl

/-- The output of the step. -/
@[simp] theorem stepAt_output (M : Machine σ ι ω) (s : σ) (i : ι) :
    (M.stepAt s i).output = (M.step s i).2 := rfl

/-- The state after it. -/
@[simp] theorem stepAt_post (M : Machine σ ι ω) (s : σ) (i : ι) :
    (M.stepAt s i).post = (M.step s i).1 := rfl

/-- The state the run `is` from `s` ends in. -/
def final (M : Machine σ ι ω) (s : σ) (is : List ι) : σ :=
  is.foldl (fun s i => (M.step s i).1) s

/-- The steps of the run `is` from `s`, first step first. -/
def history (M : Machine σ ι ω) : σ → List ι → List (Step σ ι ω)
  | _, [] => []
  | s, i :: is => M.stepAt s i :: M.history (M.step s i).1 is

/-- An empty run stays where it is. -/
@[simp] theorem final_nil (M : Machine σ ι ω) (s : σ) : M.final s [] = s := rfl

/-- An empty run has no steps. -/
@[simp] theorem history_nil (M : Machine σ ι ω) (s : σ) : M.history s [] = [] := rfl

/-- A run with one more input makes one more step. -/
theorem final_concat (M : Machine σ ι ω) (s : σ) (is : List ι) (i : ι) :
    M.final s (is ++ [i]) = (M.step (M.final s is) i).1 := by
  simp [final]

/-- The last step of a history is that of the last input. -/
theorem history_concat (M : Machine σ ι ω) (s : σ) (is : List ι) (i : ι) :
    M.history s (is ++ [i]) = M.history s is ++ [M.stepAt (M.final s is) i] := by
  induction is generalizing s with
  | nil => rfl
  | cons j is ih =>
    rw [List.cons_append, history, ih, history, List.cons_append]
    rfl

/-- A run goes on where its first part ended. -/
theorem final_append (M : Machine σ ι ω) (s : σ) (is is' : List ι) :
    M.final s (is ++ is') = M.final (M.final s is) is' := by
  simp [final]

/-- The history of a run is that of both its parts. -/
theorem history_append (M : Machine σ ι ω) (s : σ) (is is' : List ι) :
    M.history s (is ++ is') = M.history s is ++ M.history (M.final s is) is' := by
  induction is generalizing s with
  | nil => rfl
  | cons i is ih =>
    rw [List.cons_append, history, ih, history, List.cons_append]
    rfl

/-- A step in the midst of a history is the step of a prefix of the run. -/
theorem history_split {M : Machine σ ι ω} {s : σ} {is : List ι}
    {before after : List (Step σ ι ω)} {e : Step σ ι ω}
    (h : M.history s is = before ++ e :: after) :
    ∃ is₁ i is₂, is = is₁ ++ i :: is₂ ∧ before = M.history s is₁ ∧
      e = M.stepAt (M.final s is₁) i := by
  induction before generalizing s is with
  | nil =>
    cases is with
    | nil => cases h
    | cons i is =>
      obtain ⟨he, -⟩ := List.cons.inj h
      exact ⟨[], i, is, rfl, rfl, he.symm⟩
  | cons b before ih =>
    cases is with
    | nil => cases h
    | cons j is =>
      obtain ⟨hb, hrest⟩ := List.cons.inj h
      obtain ⟨is₁, i, is₂, rfl, rfl, rfl⟩ := ih hrest
      exact ⟨j :: is₁, i, is₂, rfl, by rw [history, hb], rfl⟩

/-- A step of a history is the step of its state and its input. -/
theorem eq_stepAt_of_mem_history {M : Machine σ ι ω} {s : σ} {is : List ι} {e : Step σ ι ω}
    (h : e ∈ M.history s is) : e = M.stepAt e.pre e.input := by
  obtain ⟨before, after, hsplit⟩ := List.append_of_mem h
  obtain ⟨is₁, i, is₂, -, -, rfl⟩ := history_split hsplit
  rfl

/-- What holds at the start and after every step holds after every prefix of the run. -/
theorem final_take_of_history {M : Machine σ ι ω} {I : σ → Prop} {s : σ} {is : List ι} (h0 : I s)
    (h : ∀ e ∈ M.history s is, I e.post) (k : ℕ) : I (M.final s (is.take k)) := by
  induction is generalizing s k with
  | nil => simpa using h0
  | cons i is ih =>
    cases k with
    | zero => exact h0
    | succ k =>
      rw [history] at h
      exact ih (h _ (List.mem_cons_self ..)) (fun e he => h e (List.mem_cons_of_mem _ he)) k

/-- **The invariant rule, relative to a condition on the steps.**  What holds at
the start and is preserved by every step that meets `ok` holds at the end of a
run all of whose steps meet `ok`. -/
theorem final_of_steps {M : Machine σ ι ω} {I : σ → Prop} {ok : σ → ι → Prop} {s : σ}
    (h0 : I s) (hstep : ∀ s i, ok s i → I s → I (M.step s i).1) (is : List ι)
    (hok : ∀ e ∈ M.history s is, ok e.pre e.input) : I (M.final s is) := by
  induction is using List.reverseRecOn with
  | nil => exact h0
  | append_singleton is i ih =>
    rw [history_concat] at hok
    rw [final_concat]
    exact hstep _ _ (hok _ (List.mem_append_right _ (List.mem_singleton_self _)))
      (ih fun e he => hok e (List.mem_append_left _ he))

/-- The invariant rule. -/
theorem final_of_step {M : Machine σ ι ω} {I : σ → Prop} {s : σ}
    (h0 : I s) (hstep : ∀ s i, I s → I (M.step s i).1) (is : List ι) : I (M.final s is) :=
  @final_of_steps _ _ _ M I (fun _ _ => True) s h0 (fun s i _ => hstep s i) is fun _ _ => trivial

/-- The invariant rule for properties of the past: `I h s` relates the state to the
steps that led to it. -/
theorem final_of_history {M : Machine σ ι ω} {I : List (Step σ ι ω) → σ → Prop}
    {ok : σ → ι → Prop} {s : σ} (h0 : I [] s)
    (hstep : ∀ h s i, ok s i → I h s → I (h ++ [M.stepAt s i]) (M.step s i).1) (is : List ι)
    (hok : ∀ e ∈ M.history s is, ok e.pre e.input) : I (M.history s is) (M.final s is) := by
  induction is using List.reverseRecOn with
  | nil => exact h0
  | append_singleton is i ih =>
    rw [history_concat] at hok ⊢
    rw [final_concat]
    exact hstep _ _ _ (hok _ (List.mem_append_right _ (List.mem_singleton_self _)))
      (ih fun e he => hok e (List.mem_append_left _ he))

/-- The rule for an invariant that also says something about every step. -/
theorem final_and_steps {M : Machine σ ι ω} {I : σ → Prop} {ok : σ → ι → Prop}
    {Q : Step σ ι ω → Prop} {s : σ} (h0 : I s)
    (hstep : ∀ s i, ok s i → I s → I (M.step s i).1 ∧ Q (M.stepAt s i)) (is : List ι)
    (hok : ∀ e ∈ M.history s is, ok e.pre e.input) :
    I (M.final s is) ∧ ∀ e ∈ M.history s is, Q e := by
  refine @final_of_history _ _ _ M (fun h s => I s ∧ ∀ e ∈ h, Q e) ok s
    ⟨h0, fun e he => absurd he List.not_mem_nil⟩ (fun h s i hi hI => ?_) is hok
  obtain ⟨hpost, hQ⟩ := hstep s i hi hI.1
  refine ⟨hpost, fun e he => ?_⟩
  rcases List.mem_append.1 he with he | he
  · exact hI.2 e he
  · rwa [List.mem_singleton.1 he]

/-- **An invariant along a run, exactly.**  Where a step that starts inside `I` stays inside
exactly when it meets `ok`, all states along a run are inside exactly when all its steps
meet `ok`. -/
theorem final_take_iff {M : Machine σ ι ω} {I : σ → Prop} {ok : σ → ι → Prop} {s : σ} (h0 : I s)
    (hstep : ∀ is i, I (M.final s is) →
      (I (M.step (M.final s is) i).1 ↔ ok (M.final s is) i)) (is : List ι) :
    (∀ k, I (M.final s (is.take k))) ↔ ∀ e ∈ M.history s is, ok e.pre e.input := by
  induction is using List.reverseRecOn with
  | nil => simpa using h0
  | append_singleton is i ih =>
    rw [history_concat, List.forall_mem_append, List.forall_mem_singleton, ← ih]
    have hlast : (is ++ [i]).take (is.length + 1) = is ++ [i] := List.take_of_length_le (by simp)
    constructor
    · intro h
      have hstart : ∀ k, I (M.final s (is.take k)) := by
        intro k
        have hk := h (min k is.length)
        rw [List.take_append_of_le_length (Nat.min_le_right ..)] at hk
        rwa [List.take_eq_take_min]
      have hwhole := hstart is.length
      have hpost := h (is.length + 1)
      rw [List.take_length] at hwhole
      rw [hlast, final_concat] at hpost
      exact ⟨hstart, (hstep is i hwhole).1 hpost⟩
    · rintro ⟨hstart, hok⟩ k
      rcases Nat.lt_or_ge is.length k with hk | hk
      · have hwhole := hstart is.length
        rw [List.take_length] at hwhole
        rw [List.take_of_length_le (by simp; omega), final_concat]
        exact (hstep is i hwhole).2 hok
      · rw [List.take_append_of_le_length hk]
        exact hstart k

/-- The states the runs from `s₀` end in. -/
def Reachable (M : Machine σ ι ω) (s₀ s : σ) : Prop :=
  ∃ is, M.final s₀ is = s

/-- A state is reached from itself. -/
theorem Reachable.refl (M : Machine σ ι ω) (s₀ : σ) : M.Reachable s₀ s₀ := ⟨[], rfl⟩

/-- A step leads to a state that is reached. -/
theorem Reachable.step {M : Machine σ ι ω} {s₀ s : σ} (h : M.Reachable s₀ s) (i : ι) :
    M.Reachable s₀ (M.step s i).1 := by
  obtain ⟨is, rfl⟩ := h
  exact ⟨is ++ [i], M.final_concat s₀ is i⟩

/-- The invariant rule for reachable states. -/
theorem Reachable.of_step {M : Machine σ ι ω} {I : σ → Prop} {s₀ s : σ} (h : M.Reachable s₀ s)
    (h0 : I s₀) (hstep : ∀ s i, I s → I (M.step s i).1) : I s := by
  obtain ⟨is, rfl⟩ := h
  exact final_of_step h0 hstep is

/-- Two machines over one state: either takes the next step. -/
def sum {κ ν : Type*} (M : Machine σ ι ω) (N : Machine σ κ ν) : Machine σ (ι ⊕ κ) (ω ⊕ ν) where
  step s
    | .inl i => ((M.step s i).1, .inl (M.step s i).2)
    | .inr i => ((N.step s i).1, .inr (N.step s i).2)

/-- `P` held at some step of `h`, and `Q` at every step after it. -/
def Since {α : Type*} (P Q : α → Prop) (h : List α) : Prop :=
  ∃ before e after, h = before ++ e :: after ∧ P e ∧ ∀ x ∈ after, Q x

/-- A history extended by a step where `P` holds. -/
theorem Since.here {α : Type*} {P Q : α → Prop} {h : List α} {e : α} (he : P e) :
    Since P Q (h ++ [e]) :=
  ⟨h, e, [], rfl, he, fun _ hx => absurd hx List.not_mem_nil⟩

/-- A history extended by a step where `Q` holds. -/
theorem Since.later {α : Type*} {P Q : α → Prop} {h : List α} {e : α} (hs : Since P Q h)
    (he : Q e) : Since P Q (h ++ [e]) := by
  obtain ⟨before, c, after, rfl, hc, hq⟩ := hs
  refine ⟨before, c, after ++ [e], by simp, hc, fun x hx => ?_⟩
  rcases List.mem_append.1 hx with hx | hx
  · exact hq x hx
  · rw [List.mem_singleton.1 hx]
    exact he

/-- Weaker properties, since the same step. -/
theorem Since.mono {α : Type*} {P P' Q Q' : α → Prop} {h : List α} (hs : Since P Q h)
    (hP : ∀ e, P e → P' e) (hQ : ∀ e, Q e → Q' e) : Since P' Q' h := by
  obtain ⟨before, e, after, rfl, he, hq⟩ := hs
  exact ⟨before, e, after, rfl, hP e he, fun x hx => hQ x (hq x hx)⟩

end Machine
