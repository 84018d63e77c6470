/-
# The TPM as a device

A `Device` is a TPM behind its registers: a state that every access moves and that says what a
register holds.  What a TPM is for does not depend on its interface: it is a machine that
executes commands (`TpmCore`), granted to a locality at a time, and between commands it is idle,
ready for one, or done with one (`Stage`).

`Obeys` is what the operations of the state translation library have to achieve on a device,
in these terms: an operation that succeeds did what it is called for, and `TpmSstStart` made the
TPM execute the command of the page once and brought its response.  The two interfaces, with the
registers and phases of their own, meet it in `CrbDevice` and `FifoDevice`.
-/

import FfaFeature.Lib.Driver
import FfaFeature.Tpm.CommandData

namespace FfaFeature
namespace Tpm

/-- A TPM behind its registers. -/
structure Device (S : Type) where
  value : S → Locality → ExternalRegister → BitVec 32
  yield : S → EfiStatus
  next : S → Event → S
  unassigned : EfiStatus
  pastEnd : ℕ → BitVec 8

section Rules

variable {S : Type} (device : Device S)

/-- What the device has come to after the events, from a state. -/
def Device.after (s₀ : S) (h : List Event) : S := h.foldl device.next s₀

/-- The environment that the library talks to. -/
def Device.tpm (s₀ : S) : ExternalTpm where
  read h := device.value (device.after s₀ h)
  yield h := device.yield (device.after s₀ h)
  unassigned := device.unassigned
  pastEnd := device.pastEnd

/-- The triple of the operations on a device. -/
def Device.Triple {α : Type} (P : S → Prop) (m : TpmIo α) (Q : α → S → Prop) : Prop :=
  ∀ s₀, Traced.Triple (device.tpm s₀) (device.after s₀) P m Q

/-- One event more. -/
theorem Device.after_concat (s₀ : S) (h : List Event) (e : Event) :
    device.after s₀ (h ++ [e]) = device.next (device.after s₀ h) e := by
  unfold Device.after
  rw [List.foldl_append, List.foldl_cons, List.foldl_nil]

/-- A triple, of a run from a state of the device. -/
theorem Device.Triple.run {device : Device S} {α : Type} {P : S → Prop} {m : TpmIo α}
    {Q : α → S → Prop} (h : device.Triple P m Q) {s : S} (hs : P s) :
    Q (m.run (device.tpm s) []).1 (device.after s (m.run (device.tpm s) []).2) :=
  h s [] hs

variable {device} {locality : Locality} {register : ExternalRegister} {P : S → Prop}

/-- The rule for an event. -/
theorem Device.triple_emit {e : Event} {Q : Unit → S → Prop}
    (h : ∀ s, P s → Q () (device.next s e)) : device.Triple P (Traced.emit e) Q :=
  fun s₀ => Traced.Triple.emit fun t ht => by
    rw [device.after_concat]
    exact h _ ht

/-- The rule for a byte read. -/
theorem Device.triple_mmioRead8 {Q : BitVec 8 → S → Prop}
    (h : ∀ s, P s → Q ((device.value s locality register).setWidth 8)
      (device.next s (.mmioRead locality register
        (((device.value s locality register).setWidth 8).setWidth 32)))) :
    device.Triple P (mmioRead8 locality register) Q :=
  fun s₀ => Traced.Triple.query fun t ht => by
    rw [device.after_concat]
    exact h _ ht

/-- What a poll of a register makes of its value. -/
def pollValue (mIsCrbInterface : Bool) (value : BitVec 32) : BitVec 32 :=
  if mIsCrbInterface then value else (value.setWidth 8).setWidth 32

/-- The rule for the read of a poll. -/
theorem Device.triple_pollRegister {mIsCrbInterface : Bool} {Q : BitVec 32 → S → Prop}
    (h : ∀ s, P s → Q (pollValue mIsCrbInterface (device.value s locality register))
      (device.next s (.mmioRead locality register
        (pollValue mIsCrbInterface (device.value s locality register))))) :
    device.Triple P (pollRegister mIsCrbInterface locality register) Q := by
  cases mIsCrbInterface with
  | true =>
    exact fun s₀ => Traced.Triple.query fun t ht => by
      rw [device.after_concat]
      exact h _ ht
  | false =>
    exact fun s₀ => Traced.Triple.bind
      (Device.triple_mmioRead8 (Q := fun value => Q (value.setWidth 32)) h s₀)
      fun value => Traced.Triple.pure fun _ => id

/-- **The rule for a wait.**  What the polls and the yields preserve holds in the end, and a wait
that does not fail has seen what it waits for. -/
theorem Device.triple_pollLoop {α : Type} [Inhabited α] {poll : TpmIo α} {done : α → Bool}
    {I : S → Prop} {V : α → S → Prop}
    (hpoll : device.Triple I poll fun value s => I s ∧ (done value = true → V value s))
    (hyield : ∀ s status, I s → I (device.next s (.yield status))) (timeout : BitVec 32)
    (fuel : ℕ) (delayAmount : BitVec 32) :
    device.Triple I (pollLoop poll done timeout fuel delayAmount) fun result s =>
      I s ∧ (result.1.isError = false → V result.2 s) := by
  intro s₀
  have htimeout : ¬ EfiStatus.timeout.isError = false := by decide
  induction fuel generalizing delayAmount with
  | zero => exact Traced.Triple.pure fun s hs => ⟨hs, fun h => absurd h htimeout⟩
  | succ fuel ih =>
    rw [pollLoop]
    refine Traced.Triple.bind (hpoll s₀) fun value => ?_
    split_ifs with hdone hlate
    · exact Traced.Triple.pure fun s hs => ⟨hs.1, fun _ => hs.2 hdone⟩
    · exact Traced.Triple.pure fun s hs => ⟨hs.1, fun h => absurd h htimeout⟩
    · refine Traced.Triple.bind (R := fun _ => I) (Traced.Triple.query fun t ht => ?_)
        fun status => ?_
      · rw [device.after_concat]
        exact hyield _ _ ht.1
      · split_ifs with herror
        · exact Traced.Triple.pure fun s hs => ⟨hs, fun h => absurd (herror.symm.trans h) (by simp)⟩
        · exact ih (delayAmount + yieldAmount)

/-- An error is not success. -/
theorem ne_success_of_isError {status : EfiStatus} (h : status.isError = true) :
    status ≠ EfiStatus.success := by
  rintro rfl
  cases h

/-- An event by which nothing is asked of the device: no write, and no read of a register that
gives its data away. -/
def Event.Passive : Event → Prop
  | .mmioWrite _ _ _ => False
  | .mmioRead _ register _ => register ≠ .fifoDataFifo
  | _ => True

/-- A load from a buffer is passive. -/
theorem Event.passive_load (buffer : Buffer) (index : ℕ) : (Event.load buffer index).Passive :=
  trivial

/-- So is a store. -/
theorem Event.passive_store (buffer : Buffer) (index : ℕ) : (Event.store buffer index).Passive :=
  trivial

/-- The rule for `WaitRegisterBits`, with an invariant that passive events keep. -/
theorem Device.triple_waitRegisterBits {mIsCrbInterface : Bool} {bitSet bitClear : BitVec 32}
    {I V : S → Prop} (hregister : register ≠ .fifoDataFifo)
    (hkeep : ∀ s e, e.Passive → I s → I (device.next s e))
    (hshow : ∀ s e, e.Passive → I s →
      pollValue mIsCrbInterface (device.value s locality register) &&& bitSet = bitSet →
      pollValue mIsCrbInterface (device.value s locality register) &&& bitClear = 0 →
        V (device.next s e)) (timeout : BitVec 32) :
    device.Triple I
      (waitRegisterBits mIsCrbInterface locality register bitSet bitClear timeout)
      fun status s => I s ∧ (status.isError = false → V s) := by
  intro s₀
  refine Traced.Triple.bind (Device.triple_pollLoop (V := fun _ => V)
    (Device.triple_pollRegister fun s hs => ⟨hkeep _ _ hregister hs, fun hdone => ?_⟩)
    (fun s status => hkeep s _ trivial) timeout _ _ s₀)
    fun result => Traced.Triple.pure fun _ => id
  rw [Bool.and_eq_true, beq_iff_eq, beq_iff_eq] at hdone
  exact hshow _ _ hregister hs hdone.1 hdone.2

/-- The frame rule on a device. -/
theorem Device.triple_frame {α : Type} {m : TpmIo α} {I : S → Prop} {p : Event → Prop}
    (hm : Traced.Emits (fun _ => True) m p)
    (hkeep : ∀ s e, p e → I s → I (device.next s e)) : device.Triple I m fun _ => I :=
  fun s₀ => Traced.Triple.frame (fun r _ => hm r trivial) fun t e he ht => by
    rw [device.after_concat]
    exact hkeep _ e he ht

/-- The rule for `SetMem`. -/
theorem Device.triple_setMem {I : S → Prop}
    (hkeep : ∀ s e, e.Passive → I s → I (device.next s e)) (n : ℕ) :
    device.Triple I (setMem n) fun _ => I :=
  Device.triple_frame (Traced.Emits.foldlM fun _ _ _ => Traced.Emits.emit trivial) hkeep

/-- The rule for `CopyMem`. -/
theorem Device.triple_copyMem {I : S → Prop}
    (hkeep : ∀ s e, e.Passive → I s → I (device.next s e)) (destination source : Buffer) (n : ℕ) :
    device.Triple I (copyMem destination source n) fun _ => I :=
  Device.triple_frame (Traced.Emits.foldlM fun _ _ _ =>
    Traced.Emits.bind (Traced.Emits.emit trivial) fun _ => Traced.Emits.emit trivial) hkeep

end Rules

/-! ### What a TPM is for -/

/-- A machine that executes commands.  A command shows where it ends. -/
structure TpmCore (τ : Type) where
  complete : List (BitVec 8) → Bool
  execute : τ → List (BitVec 8) → τ × List (BitVec 8)
  nil_incomplete : complete [] = false

/-- The core as a machine. -/
def TpmCore.machine {τ : Type} (core : TpmCore τ) :
    Machine τ (List (BitVec 8)) (List (BitVec 8)) where
  step := core.execute

/-- The bytes are a command: complete, and not before their end. -/
def TpmCore.IsCommand {τ : Type} (core : TpmCore τ) (command : List (BitVec 8)) : Prop :=
  ∀ k ≤ command.length, core.complete (command.take k) = decide (k = command.length)

/-- A command has a byte. -/
theorem TpmCore.IsCommand.length_pos {τ : Type} {core : TpmCore τ} {command : List (BitVec 8)}
    (h : core.IsCommand command) : 0 < command.length := by
  have hempty := h 0 (Nat.zero_le _)
  rw [List.take_zero, core.nil_incomplete, eq_comm, decide_eq_false_iff_not] at hempty
  omega

/-- A core that echoes commands of two bytes, and counts them. -/
def TpmCore.echo : TpmCore ℕ where
  complete bytes := bytes.length == 2
  execute count command := (count + 1, command)
  nil_incomplete := rfl

/-- Its commands are those of two bytes. -/
theorem TpmCore.isCommand_echo {command : List (BitVec 8)} :
    TpmCore.echo.IsCommand command ↔ command.length = 2 := by
  constructor
  · intro h
    have hwhole := h command.length le_rfl
    rw [List.take_length, decide_eq_true rfl] at hwhole
    simpa [TpmCore.echo] using hwhole
  · intro h k hk
    rw [Bool.eq_iff_iff]
    simp only [TpmCore.echo, List.length_take, beq_iff_eq, decide_eq_true_eq]
    omega

/-- Where a TPM stands between commands.  It is `leaving` while it goes idle. -/
inductive Stand
  | idle
  | ready
  | receiving
  | busy
  | done
  | leaving
  deriving DecidableEq

/-- **Where the interface takes a request to get ready.**  A FIFO device takes it unless it
executes a command.  A CRB device takes it when it is idle or ready, and after a command only with
the idle bypass. -/
def Stand.readies (mIsCrbInterface bypass : Bool) : Stand → Bool
  | .idle => true
  | .ready => true
  | .receiving => !mIsCrbInterface
  | .busy => false
  | .done => !mIsCrbInterface || bypass
  | .leaving => !mIsCrbInterface

/-- **Where it takes a command**: when it is ready, and a CRB device with the idle bypass also
after one that is done. -/
def Stand.takesCommand (mIsCrbInterface bypass : Bool) : Stand → Bool
  | .ready => true
  | .done => mIsCrbInterface && bypass
  | _ => false

/-- The state of the TPM, the locality it is granted to, and where it stands. -/
structure Stage (τ : Type) where
  tpm : τ
  active : Option Locality
  stand : Stand

/-- The TPM's state stays, it stays granted where it was, and where it stands changes only as far
as an idle one gets ready, one that goes idle arrives, and a busy one gets done. -/
structure Stage.Keeps {τ : Type} (v v' : Stage τ) : Prop where
  tpm : v'.tpm = v.tpm
  active : ∀ l, v.active = some l → v'.active = some l
  calm : v.stand ≠ .busy → v'.stand ≠ .busy
  idle : v.stand = .idle → v'.stand = .idle ∨ v'.stand = .ready
  ready : v.stand = .ready → v'.stand = .ready
  done : v.stand = .done → v'.stand = .done

/-- Nothing changes. -/
theorem Stage.Keeps.refl {τ : Type} (v : Stage τ) : v.Keeps v :=
  ⟨rfl, fun _ => id, id, .inl, id, id⟩

/-- What is kept twice is kept. -/
theorem Stage.Keeps.trans {τ : Type} {v v' v'' : Stage τ} (h : v.Keeps v') (h' : v'.Keeps v'') :
    v.Keeps v'' where
  tpm := h'.tpm.trans h.tpm
  active l hl := h'.active l (h.active l hl)
  calm hv := h'.calm (h.calm hv)
  idle hv := (h.idle hv).elim h'.idle fun hready => .inr (h'.ready hready)
  ready hv := h'.ready (h.ready hv)
  done hv := h'.done (h.done hv)

/-- A TPM that takes a request to get ready does so later on. -/
theorem Stage.Keeps.readies {τ : Type} {mIsCrbInterface bypass : Bool} {v v' : Stage τ}
    (h : v.Keeps v') (hv : v.stand.readies mIsCrbInterface bypass = true) :
    v'.stand.readies mIsCrbInterface bypass = true := by
  cases mIsCrbInterface with
  | false =>
    have hcalm : v.stand ≠ .busy := by
      intro hbusy
      rw [hbusy] at hv
      cases hv
    have hcalm' := h.calm hcalm
    generalize v'.stand = stand at hcalm' ⊢
    cases stand <;> first | rfl | exact absurd rfl hcalm'
  | true =>
    rcases hstand : v.stand with _ | _ | _ | _ | _ | _ <;> rw [hstand] at hv
    case idle => rcases h.idle hstand with he | he <;> rw [he] <;> rfl
    case ready => rw [h.ready hstand]; rfl
    case done => rw [h.done hstand]; exact hv
    all_goals cases hv

/-! ### Phases of an interface -/

/-- The phases of an interface: where the TPM stands in each, and what each comes to by itself. -/
class Phase (φ : Type) where
  stand : φ → Stand
  Settles : φ → φ → Prop
  stand_settles : ∀ {phase phase' : φ}, Settles phase phase' →
    stand phase' = stand phase ∨ (stand phase = .idle ∧ stand phase' = .ready) ∨
      (stand phase = .leaving ∧ stand phase' = .idle) ∨
      (stand phase = .busy ∧ stand phase' = .done)

/-- A device, seen from its interface. -/
structure View (τ φ : Type) where
  tpm : τ
  active : Option Locality
  phase : φ

section View

variable {τ φ : Type} [Phase φ]

/-- The stage of the TPM. -/
def View.stage (v : View τ φ) : Stage τ := ⟨v.tpm, v.active, Phase.stand v.phase⟩

/-- What a device comes to by itself. -/
structure View.Settles (v v' : View τ φ) : Prop where
  tpm : v'.tpm = v.tpm
  active : ∀ l, v.active = some l → v'.active = some l
  phase : Phase.Settles v.phase v'.phase

/-- What a device comes to by itself keeps the stage. -/
theorem View.Settles.keeps {v v' : View τ φ} (h : v.Settles v') : v.stage.Keeps v'.stage := by
  have hstand := Phase.stand_settles h.phase
  refine ⟨h.tpm, h.active, ?_, ?_, ?_, ?_⟩ <;> unfold View.stage <;> intro hv
  all_goals rcases hstand with he | ⟨he, he'⟩ | ⟨he, he'⟩ | ⟨he, he'⟩ <;> simp_all

/-- A kind of phase that no device leaves by itself. -/
def Stable (P : φ → Prop) : Prop :=
  ∀ phase phase', Phase.Settles phase phase' → P phase → P phase'

end View

/-- A device that is in one of the phases of its interface. -/
structure PhasedDevice (S τ φ : Type) [Phase φ] extends Device S where
  view : S → View τ φ
  passive : ∀ s (e : Event), e.Passive → (view s).Settles (view (next s e))

section Phased

variable {S τ φ : Type} [Phase φ] (device : PhasedDevice S τ φ)

/-- The stage of the TPM. -/
def PhasedDevice.stage (s : S) : Stage τ := (device.view s).stage

/-- So a passive event does. -/
theorem PhasedDevice.keeps_passive {v : Stage τ} (s : S) (e : Event) (he : e.Passive)
    (h : v.Keeps (device.stage s)) : v.Keeps (device.stage (device.next s e)) :=
  h.trans (device.passive s e he).keeps

/-- The TPM is in the state `t`, granted to `l`, and in a phase of a kind. -/
def PhasedDevice.At (t : τ) (l : Locality) (P : φ → Prop) (s : S) : Prop :=
  (device.view s).tpm = t ∧ (device.view s).active = some l ∧ P (device.view s).phase

variable {device} {t : τ} {l : Locality} {P Q : φ → Prop} {s : S}

/-- Where a device is, from its view. -/
theorem PhasedDevice.At.of_view {phase : φ} (h : device.view s = ⟨t, some l, phase⟩)
    (hP : P phase) : device.At t l P s := by
  unfold PhasedDevice.At
  rw [h]
  exact ⟨rfl, rfl, hP⟩

/-- A larger kind of phase. -/
theorem PhasedDevice.At.mono (h : device.At t l P s) (hPQ : ∀ phase, P phase → Q phase) :
    device.At t l Q s :=
  ⟨h.1, h.2.1, hPQ _ h.2.2⟩

/-- A passive event keeps a stable kind of phase. -/
theorem PhasedDevice.at_passive (hP : Stable P) (s : S) (e : Event) (he : e.Passive)
    (h : device.At t l P s) : device.At t l P (device.next s e) := by
  obtain ⟨htpm, hactive, hphase⟩ := device.passive s e he
  exact ⟨htpm.trans h.1, hactive l h.2.1, hP _ _ hphase h.2.2⟩

/-- A wait for the device to be in a phase of a kind. -/
theorem PhasedDevice.triple_wait {mIsCrbInterface : Bool} {register : ExternalRegister}
    {bitSet bitClear : BitVec 32} (hregister : register ≠ .fifoDataFifo) (hP : Stable P)
    (hQ : Stable Q)
    (hshow : ∀ s, device.At t l P s →
      pollValue mIsCrbInterface (device.value s l register) &&& bitSet = bitSet →
      pollValue mIsCrbInterface (device.value s l register) &&& bitClear = 0 →
        Q (device.view s).phase) (timeout : BitVec 32) :
    device.Triple (device.At t l P)
      (waitRegisterBits mIsCrbInterface l register bitSet bitClear timeout)
      fun status s => device.At t l P s ∧ (status.isError = false → device.At t l Q s) :=
  Device.triple_waitRegisterBits hregister (fun s e => device.at_passive hP s e)
    (fun s e he hs hset hclear =>
      device.at_passive hQ s e he ⟨hs.1, hs.2.1, hshow s hs hset hclear⟩) timeout

variable {mIsCrbInterface : Bool} {v : Stage τ} {control register : ExternalRegister}
  {value bitSet bitClear : BitVec 32}

/-- A request for a locality, and the wait for it. -/
theorem PhasedDevice.triple_grant
    (hwrite : ∀ s,
      (device.view s).Settles (device.view (device.next s (.mmioWrite l control value))))
    (hregister : register ≠ .fifoDataFifo)
    (hshow : ∀ s, pollValue mIsCrbInterface (device.value s l register) &&& bitSet = bitSet →
      (device.view s).active = some l) (timeout : BitVec 32) :
    device.Triple (fun s => device.stage s = v)
      (do
        mmioWrite l control value
        waitRegisterBits mIsCrbInterface l register bitSet bitClear timeout)
      fun status s =>
        v.Keeps (device.stage s) ∧ (status.isError = false → (device.stage s).active = some l) := by
  intro s₀
  refine Traced.Triple.bind (Device.triple_emit (Q := fun _ s => v.Keeps (device.stage s))
    (fun s hs => ?_) s₀) fun _ => ?_
  · rw [← hs]
    exact (hwrite s).keeps
  · exact Device.triple_waitRegisterBits hregister device.keeps_passive
      (fun s e he _ hset _ => (device.passive s e he).active l (hshow s hset)) timeout s₀

/-- And one to give it up, by a TPM that takes a request to get ready. -/
theorem PhasedDevice.triple_release {bypass : Bool}
    (hwrite : ∀ s, (Phase.stand (device.view s).phase).readies mIsCrbInterface bypass = true →
      ∃ active phase, (Phase.stand phase).readies mIsCrbInterface bypass = true ∧
        device.view (device.next s (.mmioWrite l control value)) =
          ⟨(device.view s).tpm, active, phase⟩)
    (hregister : register ≠ .fifoDataFifo) (hv : v.stand.readies mIsCrbInterface bypass = true)
    (timeout : BitVec 32) :
    device.Triple (fun s => device.stage s = v)
      (do
        mmioWrite l control value
        waitRegisterBits mIsCrbInterface l register bitSet bitClear timeout)
      fun _ s => (device.stage s).tpm = v.tpm ∧
        (device.stage s).stand.readies mIsCrbInterface bypass = true := by
  intro s₀
  refine Traced.Triple.bind (Device.triple_emit
    (Q := fun _ s => (device.stage s).tpm = v.tpm ∧
      (device.stage s).stand.readies mIsCrbInterface bypass = true) (fun s hs => ?_) s₀) fun _ => ?_
  · subst hs
    obtain ⟨active, phase, hphase, hview⟩ := hwrite s hv
    unfold PhasedDevice.stage
    rw [hview]
    exact ⟨rfl, hphase⟩
  · refine (Device.triple_waitRegisterBits (V := fun _ => True) hregister (fun s e he hs => ?_)
      (fun _ _ _ _ _ _ => trivial) timeout s₀).mono fun _ _ hs => hs.1
    have hkeeps := (device.passive s e he).keeps
    exact ⟨hkeeps.tpm.trans hs.1, hkeeps.readies hs.2⟩

end Phased

/-! ### What the library has to achieve -/

/-- The page announces a command: it begins the data buffer, within the size of the command, and
the sizes are those of data the buffer can hold. -/
structure Announces {τ : Type} (core : TpmCore τ) (page : PtpCrbRegisters)
    (command : List (BitVec 8)) : Prop where
  isCommand : core.IsCommand command
  length_le : command.length ≤ page.crbControlCommandSize.toNat
  bytes : ∀ (i : Fin crbDataBufferSize) (h : i.val < command.length),
    page.crbDataBuffer i = command[i.val]
  commandSize_le : page.crbControlCommandSize.toNat ≤ crbDataBufferSize
  responseSize_le : page.crbControlResponseSize.toNat ≤ crbDataBufferSize

/-- The page holds the response, as far as the size of the response goes. -/
def Holds (page : PtpCrbRegisters) (size : ℕ) (response : List (BitVec 8)) : Prop :=
  ∀ (i : Fin crbDataBufferSize) (h : i.val < response.length), i.val < size →
    page.crbDataBuffer i = response[i.val]

/-- The bytes are those of a response, as far as `n` goes. -/
def ReadTo (response : List (BitVec 8)) (n : ℕ) (bytes : Bytes) : Prop :=
  ∀ (i : ℕ) (h : i < response.length), i < n → bytes i = response[i]

/-- A page with the bytes of a response holds it. -/
theorem ReadTo.holds {response : List (BitVec 8)} {n : ℕ} {bytes : Bytes}
    (h : ReadTo response n bytes) (page : PtpCrbRegisters) :
    Holds (page.setData bytes n) n response := fun i hi hlt =>
  (if_pos hlt).trans (h i hi hlt)

/-- The bytes of the command buffer begin with the command that the page announces. -/
theorem Announces.bytes_eq {τ : Type} {core : TpmCore τ} {page : PtpCrbRegisters}
    {command : List (BitVec 8)} (h : Announces core page command) (pastEnd : Bytes) (i : ℕ)
    (hi : i < command.length) :
    (if i < page.crbControlCommandSize.toNat then page.dataByte pastEnd i
      else if i < crbDataBufferSize then 0 else pastEnd i) = command[i] := by
  have hlt : i < page.crbControlCommandSize.toNat := hi.trans_le h.length_le
  rw [if_pos hlt, PtpCrbRegisters.dataByte, dif_pos (hlt.trans_le h.commandSize_le)]
  exact h.bytes ⟨i, _⟩ hi

/-- **The rule for `TpmSstStart`**, from the rules for its three parts. -/
theorem Device.triple_start {S τ : Type} {device : Device S} {core : TpmCore τ}
    {mIsCrbInterface : Bool} {l : Locality} {page : PtpCrbRegisters}
    {command r : List (BitVec 8)} {P : Bytes → S → Prop} {R C D : S → Prop}
    (hannounces : Announces core page command)
    (hP : ∀ bytes s e, e.Passive → P bytes s → P bytes (device.next s e))
    (hD : ∀ s e, e.Passive → D s → D (device.next s e))
    (hcopy : ∀ bytes : Bytes, (∀ (i : ℕ) (h : i < command.length), bytes i = command[i]) →
      device.Triple (P bytes)
        (copyCommandData mIsCrbInterface l bytes page.crbControlCommandSize.toNat)
        fun status s => status.isError = false → R s)
    (hstart : device.Triple R (startCommand mIsCrbInterface l) fun status s =>
      status.isError = false → C s)
    (hresponse : ∀ bytes : Bytes, device.Triple C
      (copyResponseData mIsCrbInterface l bytes page.crbControlResponseSize.toNat) fun result s =>
        result.1 = EfiStatus.success →
          ReadTo r page.crbControlResponseSize.toNat result.2 ∧ D s) :
    device.Triple (fun s => ∀ bytes, P bytes s) (tpmSstStart mIsCrbInterface l page)
      fun result s => result.1 = EfiStatus.success →
        D s ∧ Holds result.2 page.crbControlResponseSize.toNat r := by
  intro s₀
  unfold tpmSstStart
  refine Traced.Triple.bind (Traced.Triple.ask (Q := fun _ s => ∀ bytes, P bytes s)
    fun _ => id) fun pastEnd => ?_
  -- the command buffer, with the bytes that are sent from it
  generalize hbuffer : (fun index =>
    if index < page.crbControlCommandSize.toNat then page.dataByte pastEnd index
    else if index < crbDataBufferSize then 0 else pastEnd index) = tpmCommandBuffer
  have hbytes : ∀ (i : ℕ) (h : i < command.length), tpmCommandBuffer i = command[i] :=
    fun i hi => hbuffer ▸ hannounces.bytes_eq pastEnd i hi
  refine Traced.Triple.weaken ?_ (fun s hs => hs tpmCommandBuffer) fun _ _ => id
  refine Traced.Triple.bind (Device.triple_setMem (hP _) _ s₀) fun _ => ?_
  refine Traced.Triple.bind (Device.triple_copyMem (hP _) _ _ _ s₀) fun _ => ?_
  refine Traced.Triple.bind (hcopy _ hbytes s₀) fun status => ?_
  split_ifs with hcopy
  · exact Traced.Triple.pure fun s _ hstatus => absurd hstatus (ne_success_of_isError hcopy)
  refine Traced.Triple.bind ((hstart s₀).weaken (fun s hs => hs (by simpa using hcopy))
    fun _ _ => id) fun status => ?_
  split_ifs with hstart
  · exact Traced.Triple.pure fun s _ hstatus => absurd hstatus (ne_success_of_isError hstart)
  refine Traced.Triple.bind ((hresponse _ s₀).weaken (fun s hs => hs (by simpa using hstart))
    fun _ _ => id) fun result => ?_
  obtain ⟨status, bytes⟩ := result
  dsimp only
  split_ifs with hread
  · exact Traced.Triple.pure fun s _ hstatus => absurd hstatus (ne_success_of_isError hread)
  refine Traced.Triple.bind (Device.triple_copyMem (fun s e he hs hstatus =>
    ⟨(hs hstatus).1, hD s e he (hs hstatus).2⟩) _ _ _ s₀) fun _ => ?_
  exact Traced.Triple.pure fun s hs hstatus => ⟨(hs hstatus).2, (hs hstatus).1.holds page⟩

/-- **What the library has to achieve on a device**, whose stage is `stage`.  `bypass` is
`mIsIdleBypassSupported`, which lets a command follow on one that is done. -/
structure Obeys {S τ : Type} (mIsCrbInterface bypass : Bool) (device : Device S)
    (core : TpmCore τ) (stage : S → Stage τ) : Prop where
  request : ∀ v l,
    device.Triple (fun s => stage s = v) (tpmSstLocalityRequest mIsCrbInterface l) fun status s =>
      v.Keeps (stage s) ∧ (status.isError = false → (stage s).active = some l)
  relinquish : ∀ v l, v.stand.readies mIsCrbInterface bypass = true →
    device.Triple (fun s => stage s = v) (tpmSstLocalityRelinquish mIsCrbInterface l) fun _ s =>
      (stage s).tpm = v.tpm ∧ (stage s).stand.readies mIsCrbInterface bypass = true
  cmdReady : ∀ v l, v.active = some l → v.stand.readies mIsCrbInterface bypass = true →
    device.Triple (fun s => stage s = v) (tpmSstCmdReady mIsCrbInterface l) fun status s =>
      (stage s).tpm = v.tpm ∧ (stage s).active = some l ∧
        (stage s).stand.readies mIsCrbInterface bypass = true ∧
        (status.isError = false → (stage s).stand = .ready)
  goIdle : ∀ v l, v.active = some l → v.stand = .ready ∨ v.stand = .done →
    device.Triple (fun s => stage s = v) (tpmSstGoIdle mIsCrbInterface l) fun status s =>
      (stage s).tpm = v.tpm ∧ (stage s).active = some l ∧
        (status.isError = false → (stage s).stand.readies mIsCrbInterface bypass = true)
  start : ∀ v l page command, v.active = some l →
    v.stand.takesCommand mIsCrbInterface bypass = true → Announces core page command →
    device.Triple (fun s => stage s = v) (tpmSstStart mIsCrbInterface l page) fun result s =>
      result.1 = EfiStatus.success →
        (stage s).tpm = (core.execute v.tpm command).1 ∧ (stage s).active = some l ∧
          (stage s).stand = .done ∧
          Holds result.2 page.crbControlResponseSize.toNat (core.execute v.tpm command).2

end Tpm
end FfaFeature
