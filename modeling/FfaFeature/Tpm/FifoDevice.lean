/-
# A TPM behind a FIFO

The FIFO interface has one data register, which takes the bytes of a command one after the other
and gives those of its response away, and a status register that says which of these it is about.
A `FifoDevice` is a device with what its specification promises of them.  Nothing is promised of
the bursts: a device may stall at any byte, with no bound on how often, and it may announce more
than is left of the response, as one with a static burst count does.

Of a command of which part is sent the device expects more, so a transfer that it reports as
complete sent a whole command or nothing, and then there is nothing it executes.  The library reads
as many bytes as it was asked for, and past the end of the response the register gives whatever it
holds.  `FifoDevice.obeys` is that the state translation library, without `mIsCrbInterface`, does on
each of these devices what it is called for.
-/

import FfaFeature.Tpm.Device

namespace FfaFeature
namespace Tpm

/-- The phase of a FIFO device. -/
inductive FifoPhase
  | idle
  | readying
  | ready (received : List (BitVec 8))
  | executing (response : List (BitVec 8))
  | completed (rest : List (BitVec 8))

/-- Where the TPM stands. -/
def FifoPhase.stand : FifoPhase → Stand
  | .idle => .idle
  | .readying => .idle
  | .ready [] => .ready
  | .ready (_ :: _) => .receiving
  | .executing _ => .busy
  | .completed _ => .done

/-- What a phase comes to by itself. -/
inductive FifoPhase.Settles : FifoPhase → FifoPhase → Prop
  | stays (phase : FifoPhase) : Settles phase phase
  | readied : Settles .readying (.ready [])
  | executed (response : List (BitVec 8)) : Settles (.executing response) (.completed response)

instance : Phase FifoPhase where
  stand := FifoPhase.stand
  Settles := FifoPhase.Settles
  stand_settles h := by
    cases h with
    | stays => exact .inl rfl
    | readied => exact .inr (.inl ⟨rfl, rfl⟩)
    | executed => exact .inr (.inr (.inr ⟨rfl, rfl⟩))

/-- **A FIFO device.** -/
structure FifoDevice (S τ : Type) (core : TpmCore τ) extends PhasedDevice S τ FifoPhase where
  -- what the registers show
  granted : ∀ s l, pollValue false (value s l .fifoAccess) &&& (fifoAccActive ||| fifoValid) =
    (fifoAccActive ||| fifoValid) → (view s).active = some l
  readied : ∀ s l, (view s).active = some l →
    pollValue false (value s l .fifoStatus) &&& fifoStsReady = fifoStsReady →
      (view s).phase = .ready []
  expects : ∀ s l received, (view s).active = some l → (view s).phase = .ready received →
    pollValue false (value s l .fifoStatus) &&& fifoStsValid = fifoStsValid →
    pollValue false (value s l .fifoStatus) &&& fifoStsExpect = 0 →
      received = [] ∨ core.complete received = true
  available : ∀ s l, (view s).active = some l →
    pollValue false (value s l .fifoStatus) &&& (fifoStsValid ||| fifoStsData) =
      (fifoStsValid ||| fifoStsData) → ∃ rest, (view s).phase = .completed rest
  data : ∀ s l byte rest, (view s).active = some l → (view s).phase = .completed (byte :: rest) →
    (value s l .fifoDataFifo).setWidth 8 = byte
  -- what the accesses do
  read : ∀ s l byte rest, (view s).active = some l → (view s).phase = .completed (byte :: rest) →
    view (next s (.mmioRead l .fifoDataFifo (byte.setWidth 32))) =
      ⟨(view s).tpm, some l, .completed rest⟩
  readPastEnd : ∀ s l value, (view s).active = some l → (view s).phase = .completed [] →
    view (next s (.mmioRead l .fifoDataFifo value)) = view s
  request : ∀ s l, (view s).Settles (view (next s (.mmioWrite l .fifoAccess fifoAccRquuse)))
  relinquish : ∀ s l, (view s).phase.stand ≠ .busy →
    ∃ active phase, FifoPhase.stand phase ≠ .busy ∧
      view (next s (.mmioWrite l .fifoAccess fifoAccActive)) = ⟨(view s).tpm, active, phase⟩
  commandReady : ∀ s l, (view s).active = some l → (view s).phase.stand ≠ .busy →
    ∃ phase, (phase = .idle ∨ phase = .readying ∨ phase = .ready []) ∧
      view (next s (.mmioWrite l .fifoStatus fifoStsReady)) = ⟨(view s).tpm, some l, phase⟩
  write : ∀ s l received (value : BitVec 8), (view s).active = some l →
    (view s).phase = .ready received →
      view (next s (.mmioWrite l .fifoDataFifo (value.setWidth 32))) =
        ⟨(view s).tpm, some l,
          .ready (if core.complete received then received else received ++ [value])⟩
  go : ∀ s l command, (view s).active = some l → (view s).phase = .ready command →
    core.complete command = true →
    ∃ phase, (phase = .executing (core.execute (view s).tpm command).2 ∨
        phase = .completed (core.execute (view s).tpm command).2) ∧
      view (next s (.mmioWrite l .fifoStatus fifoStsGo)) =
        ⟨(core.execute (view s).tpm command).1, some l, phase⟩
  goIncomplete : ∀ s l received, (view s).active = some l → (view s).phase = .ready received →
    core.complete received = false →
      view (next s (.mmioWrite l .fifoStatus fifoStsGo)) = view s

section Obeys

variable {S τ : Type} {core : TpmCore τ} (device : FifoDevice S τ core)

variable {device} {t : τ} {l : Locality}

/-- A device that gets ready does so. -/
theorem FifoPhase.stable_readying :
    Stable fun phase : FifoPhase => phase = .idle ∨ phase = .readying ∨ phase = .ready [] := by
  rintro _ _ hsettles (rfl | rfl | rfl)
  · cases hsettles
    exact .inl rfl
  · cases hsettles
    · exact .inr (.inl rfl)
    · exact .inr (.inr rfl)
  · cases hsettles
    exact .inr (.inr rfl)

/-- What is received stays. -/
theorem FifoPhase.stable_ready (received : List (BitVec 8)) :
    Stable fun phase : FifoPhase => phase = .ready received := by
  rintro _ _ hsettles rfl
  cases hsettles
  rfl

/-- A FIFO device takes a request to get ready unless it executes a command. -/
theorem Stand.readies_fifo {bypass : Bool} {stand : Stand} :
    stand.readies false bypass = true ↔ stand ≠ .busy := by
  cases stand <;> simp [Stand.readies]

/-- Both transitions of a FIFO device are this one. -/
theorem FifoDevice.triple_cmdReady {bypass : Bool} {v : Stage τ} (hactive : v.active = some l)
    (hv : v.stand.readies false bypass = true) :
    device.Triple (fun s => device.stage s = v) (tpmSstCmdReady false l) fun status s =>
      (device.stage s).tpm = v.tpm ∧ (device.stage s).active = some l ∧
        (device.stage s).stand.readies false bypass = true ∧
        (status.isError = false → (device.stage s).stand = .ready) := by
  intro s₀
  refine Traced.Triple.bind (Device.triple_emit (Q := fun _ => device.At v.tpm l
    fun phase => phase = .idle ∨ phase = .readying ∨ phase = .ready [])
    (fun s hs => ?_) s₀) fun _ => ?_
  · subst hs
    obtain ⟨phase, hphase, hview⟩ := device.commandReady s l hactive (Stand.readies_fifo.1 hv)
    exact .of_view hview hphase
  · refine (PhasedDevice.triple_wait (by decide) FifoPhase.stable_readying
      (FifoPhase.stable_ready []) (fun s hs hset _ => device.readied s l hs.2.1 hset)
      ptpTimeoutB s₀).mono ?_
    rintro status s ⟨⟨htpm, hl, hphase⟩, hok⟩
    refine ⟨htpm, hl, ?_, fun hstatus => ?_⟩
    · unfold PhasedDevice.stage View.stage
      rcases hphase with h | h | h <;> rw [h] <;> rfl
    · exact congrArg FifoPhase.stand (hok hstatus).2.2

/-- Going idle is the same as getting ready. -/
theorem tpmSstGoIdle_fifo (locality : Locality) :
    tpmSstGoIdle false locality = tpmSstCmdReady false locality := by
  unfold tpmSstGoIdle tpmSstCmdReady
  rw [if_neg Bool.false_ne_true, if_neg Bool.false_ne_true]

/-- A device that is ready, or done with a command, is ready again. -/
theorem FifoDevice.triple_goIdle {bypass : Bool} {v : Stage τ} (hactive : v.active = some l)
    (hv : v.stand = .ready ∨ v.stand = .done) :
    device.Triple (fun s => device.stage s = v) (tpmSstGoIdle false l) fun status s =>
      (device.stage s).tpm = v.tpm ∧ (device.stage s).active = some l ∧
        (status.isError = false → (device.stage s).stand.readies false bypass = true) := by
  intro s₀
  have hreadies : v.stand.readies false bypass = true := by
    rcases hv with h | h <;> rw [h] <;> rfl
  rw [tpmSstGoIdle_fifo]
  exact (FifoDevice.triple_cmdReady hactive hreadies s₀).mono
    fun _ _ hs => ⟨hs.1, hs.2.1, fun _ => hs.2.2.1⟩

/-! ### Sending a command -/

variable {command response : List (BitVec 8)} {bytes : Bytes}

/-- Part of a command is complete when it is all of it. -/
theorem TpmCore.IsCommand.complete_take (h : core.IsCommand command) (k : ℕ) :
    core.complete (command.take k) = decide (command.length ≤ k) := by
  rw [List.take_eq_take_min, h _ (Nat.min_le_right ..)]
  exact decide_eq_decide.2 (by omega)

/-- A command of which bytes are sent. -/
def FifoPhase.Received (command : List (BitVec 8)) (index : ℕ) (phase : FifoPhase) : Prop :=
  phase = .ready (command.take index)

/-- One byte more, which is dropped where the command is complete. -/
theorem FifoDevice.triple_sendByte (hcommand : core.IsCommand command) {index : ℕ}
    (hbytes : ∀ h : index < command.length, bytes index = command[index]) :
    device.Triple (device.At t l (FifoPhase.Received command index))
      (sendByte l .fifoDataFifo bytes index) fun _ =>
        device.At t l (FifoPhase.Received command (index + 1)) := by
  intro s₀
  refine Traced.Triple.bind (Device.triple_emit
    (Q := fun _ => device.At t l (FifoPhase.Received command index)) (fun s hs =>
      device.at_passive (FifoPhase.stable_ready _) s _ (Event.passive_load _ _) hs) s₀)
    fun _ => Device.triple_emit (fun s hs => ?_) s₀
  obtain ⟨rfl, hl, hphase⟩ := hs
  refine .of_view (device.write s l _ (bytes index) hl hphase) (congrArg FifoPhase.ready ?_)
  rw [hcommand.complete_take]
  by_cases hlt : index < command.length
  · rw [if_neg (by simpa using hlt), hbytes hlt, List.take_append_getElem]
  · rw [if_pos (by simpa using hlt), List.take_of_length_le (by omega),
      List.take_of_length_le (by omega)]

/-- A burst of bytes more. -/
theorem FifoDevice.triple_sendBurst (hcommand : core.IsCommand command)
    (hbytes : ∀ (i : ℕ) (h : i < command.length), bytes i = command[i]) (n count index : ℕ) :
    device.Triple (device.At t l (FifoPhase.Received command index))
      (sendBurst l bytes n count index) fun index =>
        device.At t l (FifoPhase.Received command index) := by
  intro s₀
  induction count generalizing index with
  | zero => exact Traced.Triple.pure fun _ => id
  | succ count ih =>
    rw [sendBurst]
    split_ifs
    · exact Traced.Triple.bind (FifoDevice.triple_sendByte hcommand (hbytes index) s₀)
        fun _ => ih (index + 1)
    · exact Traced.Triple.pure fun _ => id

/-- A burst that is announced has a byte, and that is all that is known of it. -/
theorem FifoDevice.triple_fifoReadBurstCount {P : FifoPhase → Prop} (hP : Stable P) :
    device.Triple (device.At t l P) (fifoReadBurstCount l) fun result s =>
      device.At t l P s ∧ (result.1.isError = false → 0 < result.2.toNat) := by
  have hkeep := device.at_passive (t := t) (l := l) hP
  refine Device.triple_pollLoop (V := fun (count : BitVec 16) _ => 0 < count.toNat) (fun s₀ => ?_)
    (fun s status => hkeep s _ (by simp [Event.Passive])) _ _ _
  refine Traced.Triple.bind (Device.triple_mmioRead8 (Q := fun _ => device.At t l P)
    (fun s => hkeep s _ (by simp [Event.Passive])) s₀) fun low => ?_
  refine Traced.Triple.bind (Device.triple_mmioRead8 (Q := fun _ => device.At t l P)
    (fun s => hkeep s _ (by simp [Event.Passive])) s₀) fun high => ?_
  exact Traced.Triple.pure fun s hs => ⟨hs, burstCount_pos⟩

/-- However many bursts are announced. -/
theorem FifoDevice.triple_sendBursts (hcommand : core.IsCommand command)
    (hbytes : ∀ (i : ℕ) (h : i < command.length), bytes i = command[i]) (n fuel index : ℕ) :
    device.Triple (device.At t l (FifoPhase.Received command index))
      (sendBursts l bytes n fuel index) fun _ s =>
        ∃ last, device.At t l (FifoPhase.Received command last) s := by
  intro s₀
  induction fuel generalizing index with
  | zero => exact Traced.Triple.pure fun _ hs => ⟨index, hs⟩
  | succ fuel ih =>
    rw [sendBursts]
    split_ifs
    · refine Traced.Triple.bind ((FifoDevice.triple_fifoReadBurstCount
        (FifoPhase.stable_ready (command.take index)) s₀).mono fun _ _ hs => hs.1) fun result => ?_
      obtain ⟨status, burstCount⟩ := result
      dsimp only
      split_ifs
      · exact Traced.Triple.pure fun _ hs => ⟨index, hs⟩
      · exact Traced.Triple.bind (FifoDevice.triple_sendBurst hcommand hbytes n _ index s₀)
          fun index => ih index
    · exact Traced.Triple.pure fun _ hs => ⟨index, hs⟩

/-- A transfer that is reported as complete sent the whole command, or nothing. -/
theorem FifoDevice.triple_copyCommandData (hcommand : core.IsCommand command)
    (hbytes : ∀ (i : ℕ) (h : i < command.length), bytes i = command[i]) (n : ℕ) :
    device.Triple (device.At t l fun phase => phase = .ready [])
      (copyCommandData false l bytes n) fun status s => status.isError = false →
        device.At t l (fun phase => phase = .ready []) s ∨
          device.At t l (fun phase => phase = .ready command) s := by
  intro s₀
  refine Traced.Triple.bind (FifoDevice.triple_sendBursts hcommand hbytes n n 0 s₀) fun _ =>
    Traced.Triple.exists fun last => ?_
  refine (PhasedDevice.triple_wait
    (Q := fun phase => phase = .ready (command.take last) ∧
      (command.take last = [] ∨ command.length ≤ last)) (by decide)
    (FifoPhase.stable_ready (command.take last)) ?_ (fun s hs hset hclear => ⟨hs.2.2, ?_⟩)
    ptpTimeoutC s₀).mono fun status s hs hstatus => ?_
  · rintro _ _ hsettles ⟨rfl, hlast⟩
    exact ⟨FifoPhase.stable_ready _ _ _ hsettles rfl, hlast⟩
  · have hexpects := device.expects s l _ hs.2.1 hs.2.2 hset hclear
    rwa [hcommand.complete_take, decide_eq_true_iff] at hexpects
  · obtain ⟨htpm, hl, hphase, hempty | hwhole⟩ := hs.2 hstatus
    · exact .inl ⟨htpm, hl, hempty ▸ hphase⟩
    · exact .inr ⟨htpm, hl, by rwa [List.take_of_length_le hwhole] at hphase⟩

/-! ### And its response -/

/-- A response stays. -/
theorem FifoPhase.stable_completed (rest : List (BitVec 8)) :
    Stable fun phase : FifoPhase => phase = .completed rest := by
  rintro _ _ hsettles rfl
  cases hsettles
  rfl

/-- A TPM that is done stays so. -/
theorem FifoPhase.stable_done : Stable fun phase : FifoPhase => phase.stand = .done := by
  intro phase phase' hsettles hdone
  cases hsettles with
  | stays => exact hdone
  | readied => cases hdone
  | executed => cases hdone

/-- A command that is executed completes. -/
theorem FifoPhase.stable_executing (response : List (BitVec 8)) :
    Stable fun phase : FifoPhase => phase = .executing response ∨ phase = .completed response := by
  rintro _ _ hsettles (rfl | rfl)
  · cases hsettles
    · exact .inl rfl
    · exact .inr rfl
  · cases hsettles
    exact .inr rfl

/-- `StartCommand` succeeds with a command executed, so not where nothing was sent. -/
theorem FifoDevice.triple_startCommand (hcommand : core.IsCommand command) :
    device.Triple (fun s => device.At t l (fun phase => phase = .ready []) s ∨
        device.At t l (fun phase => phase = .ready command) s) (startCommand false l)
      fun status s => status.isError = false →
        device.At (core.execute t command).1 l
          (fun phase => phase = .completed (core.execute t command).2) s := by
  intro s₀
  refine Traced.Triple.or ?_ ?_
  · refine Traced.Triple.bind (Device.triple_emit
      (Q := fun _ => device.At t l fun phase => phase = .ready []) (fun s hs => ?_) s₀)
      fun _ => ?_
    · unfold PhasedDevice.At
      rwa [device.goIncomplete s l [] hs.2.1 hs.2.2 core.nil_incomplete]
    · refine (PhasedDevice.triple_wait (Q := fun _ => False) (by decide)
        (FifoPhase.stable_ready []) (fun _ _ _ => id) (fun s hs hset _ => ?_)
        ptpTimeoutMax s₀).mono fun _ _ hs hstatus => (hs.2 hstatus).2.2.elim
      obtain ⟨rest, hrest⟩ := device.available s l hs.2.1 hset
      exact FifoPhase.noConfusion (hs.2.2.symm.trans hrest)
  · refine Traced.Triple.bind (Device.triple_emit
      (Q := fun _ => device.At (core.execute t command).1 l fun phase =>
        phase = .executing (core.execute t command).2 ∨
          phase = .completed (core.execute t command).2) (fun s hs => ?_) s₀) fun _ => ?_
    · obtain ⟨rfl, hl, hphase⟩ := hs
      have hcomplete := hcommand command.length le_rfl
      rw [List.take_length, decide_eq_true rfl] at hcomplete
      obtain ⟨phase, hphase', hview⟩ := device.go s l command hl hphase hcomplete
      exact .of_view hview hphase'
    · refine (PhasedDevice.triple_wait (by decide) (FifoPhase.stable_executing _)
        (FifoPhase.stable_completed (core.execute t command).2) (fun s hs hset _ => ?_)
        ptpTimeoutMax s₀).mono fun _ _ hs => hs.2
      obtain ⟨rest, hrest⟩ := device.available s l hs.2.1 hset
      exact hs.2.2.resolve_left fun h => FifoPhase.noConfusion (h.symm.trans hrest)

/-- Of a response, `index` bytes are read into the buffer, as far as it goes, and the rest is
left. -/
def FifoDevice.HasRead (device : FifoDevice S τ core) (t : τ) (l : Locality)
    (response : List (BitVec 8)) (index : ℕ) (bytes : Bytes) (s : S) : Prop :=
  ReadTo response index bytes ∧
    device.At t l (fun phase => phase = .completed (response.drop index)) s

/-- A byte of the response, or one past its end. -/
theorem FifoDevice.triple_receiveByte {index : ℕ} :
    device.Triple (device.HasRead t l response index bytes)
      (receiveByte l .fifoDataFifo bytes index) fun bytes =>
        device.HasRead t l response (index + 1) bytes := by
  intro s₀
  refine Traced.Triple.of_pre fun hread => Traced.Triple.bind (Device.triple_mmioRead8
    (Q := fun value s => (∀ h : index < response.length, value = response[index]) ∧
      device.At t l (fun phase => phase = .completed (response.drop (index + 1))) s)
    (fun s hs => ?_) s₀) fun value => Traced.Triple.of_pre fun hvalue => ?_
  · obtain ⟨rfl, hl, hphase⟩ := hs
    by_cases hlt : index < response.length
    · rw [(List.cons_getElem_drop_succ (h := hlt)).symm] at hphase
      have hvalue := device.data s l _ _ hl hphase
      refine ⟨fun _ => hvalue, ?_⟩
      rw [hvalue]
      exact .of_view (device.read s l _ _ hl hphase) rfl
    · -- nothing is left, and the register gives what it holds
      rw [List.drop_of_length_le (by omega)] at hphase ⊢
      refine ⟨fun h => absurd h hlt, ?_⟩
      unfold PhasedDevice.At
      rw [device.readPastEnd s l _ hl hphase]
      exact ⟨rfl, hl, hphase⟩
  · refine Traced.Triple.bind (Device.triple_emit (fun s hs => device.at_passive
      (FifoPhase.stable_completed _) s _ (Event.passive_store _ _) hs) s₀) fun _ =>
        Traced.Triple.pure fun s hs => ⟨fun i hi hlt => ?_, hs⟩
    rcases Nat.lt_succ_iff_lt_or_eq.1 hlt with hlt | rfl
    · rw [Function.update_of_ne hlt.ne, hread i hi hlt]
    · rw [Function.update_self, hvalue hi]

/-- A burst reads at least one byte. -/
theorem FifoDevice.triple_receiveBurst {n count index : ℕ} :
    device.Triple (device.HasRead t l response index bytes) (receiveBurst l n count index bytes)
      fun result s => index + min count 1 ≤ result.1 ∧
        device.HasRead t l response result.1 result.2 s := by
  intro s₀
  induction count generalizing index bytes with
  | zero => exact Traced.Triple.pure fun _ hs => ⟨le_rfl, hs⟩
  | succ count ih =>
    rw [receiveBurst]
    refine Traced.Triple.bind (FifoDevice.triple_receiveByte s₀) fun bytes => ?_
    split_ifs
    · exact Traced.Triple.pure fun _ hs => ⟨by omega, hs⟩
    · exact ih.mono fun _ _ hs => ⟨by omega, hs.2⟩

/-- So a transfer that succeeds has read as much as was asked for. -/
theorem FifoDevice.triple_receiveBursts {n fuel index : ℕ} {status : EfiStatus}
    (hfuel : n ≤ index + fuel) :
    device.Triple (device.HasRead t l response index bytes)
      (receiveBursts l n fuel index status bytes) fun result s => result.1 = EfiStatus.success →
        ∃ last, n ≤ last ∧ device.HasRead t l response last result.2 s := by
  intro s₀
  induction fuel generalizing index status bytes with
  | zero => exact Traced.Triple.pure fun _ hs _ => ⟨index, hfuel, hs⟩
  | succ fuel ih =>
    rw [receiveBursts]
    split_ifs with hlt
    · refine Traced.Triple.of_pre fun hread => Traced.Triple.bind
        (FifoDevice.triple_fifoReadBurstCount (FifoPhase.stable_completed (response.drop index)) s₀)
        fun result => ?_
      obtain ⟨status, count⟩ := result
      dsimp only
      split_ifs with herror
      · exact Traced.Triple.pure fun _ _ hstatus => absurd hstatus (ne_success_of_isError herror)
      · refine Traced.Triple.weaken
          (P := fun s => 0 < count.toNat ∧ device.HasRead t l response index bytes s)
          (Traced.Triple.of_pre fun hpos => ?_)
          (fun s hs => ⟨hs.2 (by simpa using herror), hread, hs.1⟩) fun _ _ => id
        exact Traced.Triple.bind (FifoDevice.triple_receiveBurst s₀) fun result =>
          Traced.Triple.of_pre fun hle => ih (by omega)
    · exact Traced.Triple.pure fun _ hs _ => ⟨index, by omega, hs⟩

/-- And the response, as far as it goes. -/
theorem FifoDevice.triple_copyResponseData (bytes : Bytes) (n : ℕ) :
    device.Triple (device.At t l fun phase => phase = .completed response)
      (copyResponseData false l bytes n) fun result s => result.1 = EfiStatus.success →
        ∃ last, n ≤ last ∧ device.HasRead t l response last result.2 s := by
  intro s₀
  refine Traced.Triple.bind (Traced.Triple.ask (Q := fun _ =>
    device.HasRead t l response 0 bytes) fun s hs => ⟨fun i _ hi => absurd hi (Nat.not_lt_zero i),
      hs⟩) fun unassigned => FifoDevice.triple_receiveBursts (by omega) s₀

/-- `TpmSstStart`, at a device that is ready. -/
theorem FifoDevice.triple_start {bypass : Bool} {v : Stage τ} {page : PtpCrbRegisters}
    (hactive : v.active = some l) (hv : v.stand.takesCommand false bypass = true)
    (hannounces : Announces core page command) :
    device.Triple (fun s => device.stage s = v) (tpmSstStart false l page) fun result s =>
      result.1 = EfiStatus.success →
        (device.stage s).tpm = (core.execute v.tpm command).1 ∧
          (device.stage s).active = some l ∧ (device.stage s).stand = .done ∧
          Holds result.2 page.crbControlResponseSize.toNat (core.execute v.tpm command).2 := by
  intro s₀
  refine (Device.triple_start (P := fun _ => device.At v.tpm l fun phase => phase = .ready [])
    (D := device.At (core.execute v.tpm command).1 l fun phase => phase.stand = .done)
    (r := (core.execute v.tpm command).2) hannounces
    (fun _ => device.at_passive (FifoPhase.stable_ready []))
    (device.at_passive FifoPhase.stable_done)
    (fun bytes hbytes => FifoDevice.triple_copyCommandData hannounces.isCommand hbytes _)
    (FifoDevice.triple_startCommand hannounces.isCommand)
    (fun bytes s₀ => (FifoDevice.triple_copyResponseData bytes _ s₀).mono
      fun result s hs hstatus => ?_) s₀).weaken (fun s hs _ => ?_)
    fun result s hs hstatus => ?_
  · obtain ⟨last, hlast, hread, hat⟩ := hs hstatus
    exact ⟨fun i hi hlt => hread i hi (hlt.trans_le hlast), hat.mono fun _ h => by rw [h]; rfl⟩
  · subst hs
    refine ⟨rfl, hactive, ?_⟩
    change (Phase.stand (device.view s).phase).takesCommand false bypass = true at hv
    generalize (device.view s).phase = phase at hv ⊢
    rcases phase with _ | _ | (_ | _) | _ | _
    case ready.nil => rfl
    all_goals cases hv
  · obtain ⟨⟨htpm, hl, hdone⟩, hholds⟩ := hs hstatus
    exact ⟨htpm, hl, hdone, hholds⟩

/-- **The library obeys on a FIFO device.** -/
theorem FifoDevice.obeys (device : FifoDevice S τ core) (bypass : Bool) :
    Obeys false bypass device.toDevice core device.stage where
  request _ l := PhasedDevice.triple_grant (device.request · l) (by decide) (device.granted · l) _
  relinquish _ l hv := PhasedDevice.triple_release (fun s hs => by
    obtain ⟨active, phase, hphase, hview⟩ := device.relinquish s l (Stand.readies_fifo.1 hs)
    exact ⟨active, phase, Stand.readies_fifo.2 hphase, hview⟩) (by decide) hv _
  cmdReady _ _ := FifoDevice.triple_cmdReady
  goIdle _ _ := FifoDevice.triple_goIdle
  start _ _ _ _ := FifoDevice.triple_start

end Obeys

/-! ### A device that echoes -/

/-- What the status register of the echoing device shows. -/
def echoFifoStatus : FifoPhase → BitVec 32
  | .ready [] => fifoStsValid ||| fifoStsReady
  | .ready (_ :: received) =>
    if received.length = 1 then fifoStsValid else fifoStsValid ||| fifoStsExpect
  | .completed [] => fifoStsValid
  | .completed (_ :: _) => fifoStsValid ||| fifoStsData
  | _ => 0

/-- What its registers show.  It announces three bytes at a time, whatever is left. -/
def echoFifoValue (s : View ℕ FifoPhase) (l : Locality) : ExternalRegister → BitVec 32
  | .fifoAccess => if s.active = some l then fifoAccActive ||| fifoValid else fifoValid
  | .fifoStatus => echoFifoStatus s.phase
  | .fifoBurstCount => 3
  | .fifoDataFifo =>
    match s.phase with
    | .completed (byte :: _) => byte.setWidth 32
    | _ => 0
  | _ => 0

/-- And what the accesses do to it. -/
def echoFifoNext (s : View ℕ FifoPhase) : Event → View ℕ FifoPhase
  | .mmioRead l .fifoDataFifo _ =>
    match s.phase with
    | .completed (_ :: rest) =>
      if s.active = some l then { s with phase := .completed rest } else s
    | _ => s
  | .mmioWrite l .fifoAccess value =>
    if value = fifoAccRquuse then
      if s.active = none then { s with active := some l } else s
    else if s.active = some l then ⟨s.tpm, none, .idle⟩ else s
  | .mmioWrite l .fifoStatus value =>
    if value = fifoStsReady then
      if s.active = some l then { s with phase := .ready [] } else s
    else
      match s.phase with
      | .ready received =>
        if s.active = some l ∧ received.length = 2 then
          ⟨s.tpm + 1, some l, .completed received⟩
        else s
      | _ => s
  | .mmioWrite l .fifoDataFifo value =>
    match s.phase with
    | .ready received =>
      if s.active = some l ∧ received.length ≠ 2 then
        { s with phase := .ready (received ++ [value.setWidth 8]) }
      else s
    | _ => s
  | _ => s

/-- **The echoing device keeps what a FIFO device promises.** -/
def FifoDevice.echo : FifoDevice (View ℕ FifoPhase) ℕ TpmCore.echo where
  value := echoFifoValue
  yield _ := EfiStatus.success
  next := echoFifoNext
  unassigned := EfiStatus.success
  pastEnd _ := 0
  view := id
  passive s e he := by
    have hsame : echoFifoNext s e = s := by
      cases e with
      | mmioWrite l register value => exact he.elim
      | mmioRead l register value => cases register <;> first | rfl | exact absurd rfl he
      | _ => rfl
    rw [hsame]
    exact ⟨rfl, fun _ => id, .stays _⟩
  granted s l h := by
    unfold echoFifoValue at h
    dsimp only at h
    split_ifs at h with hactive
    · exact hactive
    · exact absurd h (by decide)
  readied s l _ h := by
    change pollValue false (echoFifoStatus s.phase) &&& _ = _ at h
    change s.phase = _
    generalize s.phase = phase at h ⊢
    rcases phase with _ | _ | (_ | ⟨byte, received⟩) | _ | (_ | _) <;>
      simp only [echoFifoStatus] at h
    case ready.nil => rfl
    case ready.cons => split_ifs at h <;> exact absurd h (by decide)
    all_goals exact absurd h (by decide)
  expects s l received _ hphase _ h := by
    change pollValue false (echoFifoStatus s.phase) &&& _ = _ at h
    rw [show s.phase = _ from hphase] at h
    cases received with
    | nil => exact .inl rfl
    | cons byte received =>
      simp only [echoFifoStatus] at h
      split_ifs at h with hlength
      · exact .inr (by simpa [TpmCore.echo] using hlength)
      · exact absurd h (by decide)
  available s l _ h := by
    change pollValue false (echoFifoStatus s.phase) &&& _ = _ at h
    change ∃ rest, s.phase = _
    generalize s.phase = phase at h ⊢
    rcases phase with _ | _ | (_ | ⟨byte, received⟩) | _ | (_ | ⟨byte, rest⟩) <;>
      simp only [echoFifoStatus] at h
    case completed.cons => exact ⟨byte :: rest, rfl⟩
    case ready.cons => split_ifs at h <;> exact absurd h (by decide)
    all_goals exact absurd h (by decide)
  data s l byte rest _ hphase := by
    unfold echoFifoValue
    rw [show s.phase = _ from hphase]
    simp
  read s l byte rest hactive hphase := by
    unfold echoFifoNext
    dsimp only [id] at hactive hphase ⊢
    rw [hphase]
    dsimp only
    rw [if_pos hactive, hactive]
  readPastEnd s l value _ hphase := by
    unfold echoFifoNext
    dsimp only [id] at hphase ⊢
    rw [hphase]
  request s l := by
    refine ⟨?_, fun l' h => ?_, ?_⟩
    all_goals
      unfold echoFifoNext
      dsimp only [id]
      rw [if_pos rfl]
      split_ifs with hnone
    · rfl
    · rfl
    · rw [show s.active = _ from h] at hnone
      cases hnone
    · exact h
    · exact .stays _
    · exact .stays _
  relinquish s l hcalm := by
    unfold echoFifoNext
    dsimp only [id] at hcalm ⊢
    rw [if_neg (by decide)]
    split_ifs
    · exact ⟨none, .idle, nofun, rfl⟩
    · exact ⟨s.active, s.phase, hcalm, rfl⟩
  commandReady s l hactive _ := by
    refine ⟨.ready [], .inr (.inr rfl), ?_⟩
    unfold echoFifoNext
    dsimp only [id] at hactive ⊢
    rw [if_pos rfl, if_pos hactive, hactive]
  write s l received value hactive hphase := by
    unfold echoFifoNext
    dsimp only [id] at hactive hphase ⊢
    rw [hphase]
    dsimp only
    by_cases hlength : received.length = 2
    · rw [if_neg (fun h => h.2 hlength), if_pos (by simpa [TpmCore.echo] using hlength), ← hactive,
        ← hphase]
    · rw [if_pos ⟨hactive, hlength⟩, if_neg (by simpa [TpmCore.echo] using hlength), hactive,
        BitVec.setWidth_setWidth_of_le _ (by decide), BitVec.setWidth_eq]
  go s l command hactive hphase hcommand := by
    refine ⟨.completed command, .inr rfl, ?_⟩
    unfold echoFifoNext
    dsimp only [id] at hactive hphase ⊢
    rw [hphase, if_neg (by decide)]
    dsimp only
    rw [if_pos ⟨hactive, by simpa [TpmCore.echo] using hcommand⟩]
    rfl
  goIncomplete s l received hactive hphase hcommand := by
    unfold echoFifoNext
    dsimp only [id] at hactive hphase ⊢
    rw [hphase, if_neg (by decide)]
    dsimp only
    rw [if_neg (fun h => by simp [TpmCore.echo, h.2] at hcommand)]

end Tpm
end FfaFeature
