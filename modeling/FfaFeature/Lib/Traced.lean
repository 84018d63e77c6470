/-
# Computations that talk to an environment and leave a trace

A `Traced ρ ε α` computes an `α` against an environment `ρ` and emits events
`ε`.  What the environment answers may depend on everything emitted so far, so a
device, a scheduler or an adversary is any value of `ρ`; the events a
computation emits are the *new* ones, so a trace only grows by construction.

`Sat R m Φ` is the triple of this setting: in every environment that meets `R`
and after every history, the result and the new events of `m` meet `Φ`.  It is
closed under `pure`, bind and the two list loops.  `Relates` is the
triple of two runs, in two environments, that cannot be told apart by what they emit.
-/

import Mathlib.Tactic.Common

/-- A computation against an environment `ρ` that emits events `ε`. -/
structure Traced (ρ ε α : Type) where
  run : ρ → List ε → α × List ε

namespace Traced

variable {ρ ε α β : Type}

instance : Monad (Traced ρ ε) where
  pure a := ⟨fun _ _ => (a, [])⟩
  bind m f := ⟨fun r h =>
    ((((f (m.run r h).1).run r (h ++ (m.run r h).2)).1),
      (m.run r h).2 ++ ((f (m.run r h).1).run r (h ++ (m.run r h).2)).2)⟩

/-- Ask the environment, and emit nothing. -/
def ask (answer : ρ → α) : Traced ρ ε α := ⟨fun r _ => (answer r, [])⟩

/-- Emit an event. -/
def emit (e : ε) : Traced ρ ε Unit := ⟨fun _ _ => ((), [e])⟩

/-- Ask the environment, given what was emitted so far, and emit the answer. -/
def query (answer : ρ → List ε → α) (event : α → ε) : Traced ρ ε α :=
  ⟨fun r h => (answer r h, [event (answer r h)])⟩

/-- A result emits nothing. -/
@[simp] theorem run_pure (a : α) (r : ρ) (h : List ε) :
    (pure a : Traced ρ ε α).run r h = (a, []) := rfl

/-- The second part runs on what the first has emitted. -/
@[simp] theorem run_bind (m : Traced ρ ε α) (f : α → Traced ρ ε β) (r : ρ) (h : List ε) :
    (m >>= f).run r h =
      (((f (m.run r h).1).run r (h ++ (m.run r h).2)).1,
        (m.run r h).2 ++ ((f (m.run r h).1).run r (h ++ (m.run r h).2)).2) := rfl

/-- A question emits nothing. -/
@[simp] theorem run_ask (answer : ρ → α) (r : ρ) (h : List ε) :
    (ask answer : Traced ρ ε α).run r h = (answer r, []) := rfl

/-- An event is emitted. -/
@[simp] theorem run_emit (e : ε) (r : ρ) (h : List ε) :
    (emit e : Traced ρ ε Unit).run r h = ((), [e]) := rfl

/-- An event is emitted with its answer. -/
@[simp] theorem run_query (answer : ρ → List ε → α) (event : α → ε) (r : ρ) (h : List ε) :
    (query answer event).run r h = (answer r h, [event (answer r h)]) := rfl

/-- In every environment that meets `R`, and after every history, the result and
the new events of `m` meet `Φ`. -/
def Sat (R : ρ → Prop) (m : Traced ρ ε α) (Φ : α → List ε → Prop) : Prop :=
  ∀ r, R r → ∀ h, Φ (m.run r h).1 (m.run r h).2

variable {R : ρ → Prop}

/-- The rule for a result. -/
theorem Sat.pure {a : α} {Φ : α → List ε → Prop} (h : Φ a []) :
    Sat R (Pure.pure a : Traced ρ ε α) Φ :=
  fun _ _ _ => h

/-- The rule for bind: what is left to show of the rest is a postcondition that
takes the events already emitted into account. -/
theorem Sat.bind {m : Traced ρ ε α} {f : α → Traced ρ ε β} {Φ : α → List ε → Prop}
    {Ψ : β → List ε → Prop} (hm : Sat R m Φ)
    (hf : ∀ a es, Φ a es → Sat R (f a) fun b es' => Ψ b (es ++ es')) : Sat R (m >>= f) Ψ :=
  fun r hr h => hf _ _ (hm r hr h) r hr _

/-- The rule of consequence. -/
theorem Sat.mono {m : Traced ρ ε α} {Φ Ψ : α → List ε → Prop} (hm : Sat R m Φ)
    (h : ∀ a es, Φ a es → Ψ a es) : Sat R m Ψ :=
  fun r hr t => h _ _ (hm r hr t)

/-- Two properties of one computation. -/
theorem Sat.and {m : Traced ρ ε α} {Φ Ψ : α → List ε → Prop} (h₁ : Sat R m Φ)
    (h₂ : Sat R m Ψ) : Sat R m fun a es => Φ a es ∧ Ψ a es :=
  fun r hr h => ⟨h₁ r hr h, h₂ r hr h⟩

/-- The rule for an event. -/
theorem Sat.emit {e : ε} {Φ : Unit → List ε → Prop} (h : Φ () [e]) :
    Sat R (Traced.emit e : Traced ρ ε Unit) Φ :=
  fun _ _ _ => h

/-- The rule for a question. -/
theorem Sat.ask {answer : ρ → α} {Φ : α → List ε → Prop}
    (h : ∀ r, R r → Φ (answer r) []) : Sat R (Traced.ask answer) Φ :=
  fun r hr _ => h r hr

/-- The rule for an event with an answer. -/
theorem Sat.query {answer : ρ → List ε → α} {event : α → ε} {Φ : α → List ε → Prop}
    (h : ∀ r, R r → ∀ t, Φ (answer r t) [event (answer r t)]) :
    Sat R (Traced.query answer event) Φ :=
  fun r hr t => h r hr t

/-! ### Results that all meet a condition -/

/-- Every result of `m` meets `Φ`. -/
def Returns (R : ρ → Prop) (m : Traced ρ ε α) (Φ : α → Prop) : Prop :=
  Sat R m fun a _ => Φ a

/-- A result. -/
theorem Returns.pure {a : α} {Φ : α → Prop} (h : Φ a) :
    Returns R (Pure.pure a : Traced ρ ε α) Φ :=
  Sat.pure h

/-- A sequence returns what its second part does on the results of the first. -/
theorem Returns.bind {m : Traced ρ ε α} {f : α → Traced ρ ε β} {Φ : α → Prop} {Ψ : β → Prop}
    (hm : Returns R m Φ) (hf : ∀ a, Φ a → Returns R (f a) Ψ) : Returns R (m >>= f) Ψ :=
  Sat.bind hm fun a _ ha => hf a ha

/-- The first part does not matter where the rest meets `Ψ` after any result of it. -/
theorem Returns.skip {m : Traced ρ ε α} {f : α → Traced ρ ε β} {Ψ : β → Prop}
    (hf : ∀ a, Returns R (f a) Ψ) : Returns R (m >>= f) Ψ :=
  fun r hr _ => hf _ r hr _

/-- Two rests that do the same after the results a first part can have. -/
theorem Returns.run_congr {m : Traced ρ ε α} {f g : α → Traced ρ ε β} {Φ : α → Prop}
    (hm : Returns R m Φ) {r : ρ} (hr : R r)
    (hfg : ∀ a, Φ a → ∀ t, (f a).run r t = (g a).run r t) (h : List ε) :
    (m >>= f).run r h = (m >>= g).run r h := by
  rw [run_bind, run_bind, hfg _ (hm r hr h)]

/-! ### Events that all meet a condition -/

/-- Every event `m` emits meets `P`. -/
def Emits (R : ρ → Prop) (m : Traced ρ ε α) (P : ε → Prop) : Prop :=
  Sat R m fun _ es => ∀ e ∈ es, P e

variable {P : ε → Prop}

/-- A result emits nothing. -/
theorem Emits.pure (a : α) : Emits R (Pure.pure a : Traced ρ ε α) P :=
  Sat.pure fun _ he => absurd he List.not_mem_nil

/-- Neither does a question. -/
theorem Emits.ask (answer : ρ → α) : Emits R (Traced.ask answer : Traced ρ ε α) P :=
  Sat.ask fun _ _ _ he => absurd he List.not_mem_nil

/-- An event of the kind. -/
theorem Emits.emit {e : ε} (h : P e) : Emits R (Traced.emit e : Traced ρ ε Unit) P :=
  Sat.emit fun x hx => by rwa [List.mem_singleton.1 hx]

/-- An event that is of the kind with any answer. -/
theorem Emits.query {answer : ρ → List ε → α} {event : α → ε} (h : ∀ a, P (event a)) :
    Emits R (Traced.query answer event) P :=
  Sat.query fun _ _ _ x hx => by
    rw [List.mem_singleton.1 hx]
    exact h _

/-- A sequence emits what its parts do. -/
theorem Emits.bind {m : Traced ρ ε α} {f : α → Traced ρ ε β} (hm : Emits R m P)
    (hf : ∀ a, Emits R (f a) P) : Emits R (m >>= f) P :=
  Sat.bind hm fun a _ hes => (hf a).mono fun _ _ hes' => List.forall_mem_append.2 ⟨hes, hes'⟩

/-- A loop emits what its turns do. -/
theorem Emits.foldlM {f : β → α → Traced ρ ε β} {l : List α} {b : β}
    (hf : ∀ b, ∀ a ∈ l, Emits R (f b a) P) : Emits R (l.foldlM f b) P := by
  induction l generalizing b with
  | nil => exact Emits.pure b
  | cons a l ih =>
    rw [List.foldlM_cons]
    exact Emits.bind (hf b a (List.mem_cons_self ..)) fun b' =>
      ih fun b a' ha' => hf b a' (List.mem_cons_of_mem _ ha')

/-- A kind that is larger. -/
theorem Emits.mono {m : Traced ρ ε α} {Q : ε → Prop} (hm : Emits R m P) (h : ∀ e, P e → Q e) :
    Emits R m Q :=
  Sat.mono hm fun _ _ hes e he => h e (hes e he)

/-! ### Events that are emitted -/

/-- Every run of `m` emits `e`. -/
def Reaches (R : ρ → Prop) (m : Traced ρ ε α) (e : ε) : Prop :=
  Sat R m fun _ es => e ∈ es

/-- A sequence reaches the events of its first part. -/
theorem Reaches.first {m : Traced ρ ε α} {f : α → Traced ρ ε β} {e : ε} (hm : Reaches R m e) :
    Reaches R (m >>= f) e :=
  fun r hr h => List.mem_append_left _ (hm r hr h)

/-- And it reaches those that its second part reaches on every result. -/
theorem Reaches.later {m : Traced ρ ε α} {f : α → Traced ρ ε β} {e : ε}
    (hf : ∀ a, Reaches R (f a) e) : Reaches R (m >>= f) e :=
  fun r hr _ => List.mem_append_right _ (hf _ r hr _)

/-- After a first part whose results meet `Φ`, it is enough that the rest emits it. -/
theorem Reaches.after {m : Traced ρ ε α} {f : α → Traced ρ ε β} {e : ε} {Φ : α → Prop}
    (hm : Returns R m Φ) (hf : ∀ a, Φ a → Reaches R (f a) e) : Reaches R (m >>= f) e :=
  fun r hr h => List.mem_append_right _ (hf _ (hm r hr h) r hr _)

/-- A loop reaches the events of each of its turns. -/
theorem Reaches.foldlM {f : β → α → Traced ρ ε β} {l : List α} {b : β} {a : α} {e : ε}
    (ha : a ∈ l) (hf : ∀ b, Reaches R (f b a) e) : Reaches R (l.foldlM f b) e := by
  induction l generalizing b with
  | nil => exact absurd ha List.not_mem_nil
  | cons a' l ih =>
    rw [List.foldlM_cons]
    rcases List.mem_cons.1 ha with rfl | ha
    · exact Reaches.first (hf b)
    · exact fun r hr h => List.mem_append_right _ (ih ha r hr _)

/-! ### Two runs -/

/-- The triple of two runs: after the same history, `m` in `r` and `m'` in `r'` emit the same
events, and their results are related by `Φ`. -/
def Relates (r r' : ρ) (m : Traced ρ ε α) (m' : Traced ρ ε β) (Φ : α → β → Prop) : Prop :=
  ∀ h, Φ (m.run r h).1 (m'.run r' h).1 ∧ (m.run r h).2 = (m'.run r' h).2

variable {α' β' : Type} {r r' : ρ}

/-- Related results. -/
theorem Relates.pure {a : α} {a' : α'} {Φ : α → α' → Prop} (h : Φ a a') :
    Relates r r' (Pure.pure a : Traced ρ ε α) (Pure.pure a') Φ :=
  fun _ => ⟨h, rfl⟩

/-- The same event in both environments. -/
theorem Relates.emit (e : ε) : Relates r r' (Traced.emit e) (Traced.emit e) Eq :=
  fun _ => ⟨rfl, rfl⟩

/-- The same question, with the same answers. -/
theorem Relates.query {answer : ρ → List ε → α} (event : α → ε)
    (h : ∀ t, answer r t = answer r' t) :
    Relates r r' (Traced.query answer event) (Traced.query answer event) Eq :=
  fun t => by rw [run_query, run_query, h t]; exact ⟨rfl, rfl⟩

/-- Related sequences. -/
theorem Relates.bind {m : Traced ρ ε α} {m' : Traced ρ ε α'} {f : α → Traced ρ ε β}
    {f' : α' → Traced ρ ε β'} {Φ : α → α' → Prop} {Ψ : β → β' → Prop}
    (hm : Relates r r' m m' Φ) (hf : ∀ a a', Φ a a' → Relates r r' (f a) (f' a') Ψ) :
    Relates r r' (m >>= f) (m' >>= f') Ψ := by
  intro h
  obtain ⟨hresult, hevents⟩ := hm h
  obtain ⟨hresult', hevents'⟩ := hf _ _ hresult (h ++ (m.run r h).2)
  rw [run_bind, run_bind, ← hevents]
  exact ⟨hresult', by rw [hevents']⟩

/-- Two folds over the same list. -/
theorem Relates.foldlM {f : β → α → Traced ρ ε β} {f' : β' → α → Traced ρ ε β'} {l : List α}
    {b : β} {b' : β'} {Φ : β → β' → Prop} (hb : Φ b b')
    (hf : ∀ b b' a, Φ b b' → Relates r r' (f b a) (f' b' a) Φ) :
    Relates r r' (l.foldlM f b) (l.foldlM f' b') Φ := by
  induction l generalizing b b' with
  | nil => exact Relates.pure hb
  | cons a l ih =>
    rw [List.foldlM_cons, List.foldlM_cons]
    exact Relates.bind (hf b b' a hb) fun _ _ hnext => ih hnext

end Traced
