/-
# A TPM behind a command response buffer

The CRB interface has a control area and a data buffer that is written and read by index.  A
`CrbDevice` is a device with what its specification promises of the registers, in terms of the
phase the TPM is in: which writes move it, which bits show that it has moved, and what the data
buffer holds.  When it moves, how long it takes and what else it shows is its own affair, and
nothing is promised of a request that comes where it is not taken: while the TPM goes idle or
executes, or after a command without the idle bypass.

`CrbDevice.obeys` is that the state translation library, with `mIsCrbInterface`, does on each of
them what it is called for.
-/

import FfaFeature.Tpm.Device

namespace FfaFeature
namespace Tpm

/-- The phase of a CRB device. -/
inductive CrbPhase
  | idle
  | readying
  | ready (buffer : Bytes)
  | idling
  | executing (response : List (BitVec 8))
  | completed (response : List (BitVec 8))

/-- Where the TPM stands. -/
def CrbPhase.stand : CrbPhase → Stand
  | .idle => .idle
  | .readying => .idle
  | .ready _ => .ready
  | .idling => .leaving
  | .executing _ => .busy
  | .completed _ => .done

/-- What a phase comes to by itself. -/
inductive CrbPhase.Settles : CrbPhase → CrbPhase → Prop
  | stays (phase : CrbPhase) : Settles phase phase
  | readied (buffer : Bytes) : Settles .readying (.ready buffer)
  | idled : Settles .idling .idle
  | executed (response : List (BitVec 8)) : Settles (.executing response) (.completed response)

instance : Phase CrbPhase where
  stand := CrbPhase.stand
  Settles := CrbPhase.Settles
  stand_settles h := by
    cases h with
    | stays => exact .inl rfl
    | readied => exact .inr (.inl ⟨rfl, rfl⟩)
    | idled => exact .inr (.inr (.inl ⟨rfl, rfl⟩))
    | executed => exact .inr (.inr (.inr ⟨rfl, rfl⟩))

/-- **A CRB device.**  `bypass` is whether it takes a command after one that is done. -/
structure CrbDevice (S τ : Type) (core : TpmCore τ) (bypass : Bool) extends
    PhasedDevice S τ CrbPhase where
  -- what the registers show
  granted : ∀ s l,
    value s l .crbLocalityStatus &&& localityStatusGranted = localityStatusGranted →
      (view s).active = some l
  readied : ∀ s l, (view s).active = some l →
    value s l .crbControlRequest &&& requestCommandReady = 0 → (view s).phase ≠ .readying
  idled : ∀ s l, (view s).active = some l →
    value s l .crbControlRequest &&& requestGoIdle = 0 → (view s).phase ≠ .idling
  executed : ∀ s l response, (view s).active = some l →
    value s l .crbControlStart &&& controlStart = 0 → (view s).phase ≠ .executing response
  data : ∀ s l response (index : ℕ) (h : index < response.length), (view s).active = some l →
    (view s).phase = .completed response → index < crbDataBufferSize →
      (value s l (.crbDataBuffer index)).setWidth 8 = response[index]
  -- what the writes do
  request : ∀ s l, (view s).Settles
    (view (next s (.mmioWrite l .crbLocalityControl localityControlRequestAccess)))
  relinquish : ∀ s l, (view s).phase.stand.readies true bypass = true →
    ∃ active phase, (CrbPhase.stand phase).readies true bypass = true ∧
      view (next s (.mmioWrite l .crbLocalityControl localityControlRelinquish)) =
        ⟨(view s).tpm, active, phase⟩
  commandReady : ∀ s l, (view s).active = some l →
    (view s).phase.stand.readies true bypass = true →
    ∃ phase, (phase = .readying ∨ ∃ buffer, phase = .ready buffer) ∧
      view (next s (.mmioWrite l .crbControlRequest requestCommandReady)) =
        ⟨(view s).tpm, some l, phase⟩
  goIdle : ∀ s l, (view s).active = some l →
    (view s).phase.stand = .ready ∨ (view s).phase.stand = .done →
    ∃ phase, (phase = .idling ∨ phase = .idle) ∧
      view (next s (.mmioWrite l .crbControlRequest requestGoIdle)) =
        ⟨(view s).tpm, some l, phase⟩
  write : ∀ s l buffer index (value : BitVec 8), (view s).active = some l →
    (view s).phase = .ready buffer → index < crbDataBufferSize →
      view (next s (.mmioWrite l (.crbDataBuffer index) (value.setWidth 32))) =
        ⟨(view s).tpm, some l, .ready (Function.update buffer index value)⟩
  bypassWrite : bypass = true → ∀ s l response index (value : BitVec 8),
    (view s).active = some l → (view s).phase = .completed response → index < crbDataBufferSize →
      ∃ buffer : Bytes,
        view (next s (.mmioWrite l (.crbDataBuffer index) (value.setWidth 32))) =
          ⟨(view s).tpm, some l, .ready (Function.update buffer index value)⟩
  start : ∀ s l buffer command, (view s).active = some l → (view s).phase = .ready buffer →
    core.IsCommand command → (∀ (index : ℕ) (h : index < command.length),
      buffer index = command[index]) →
    ∃ phase, (phase = .executing (core.execute (view s).tpm command).2 ∨
        phase = .completed (core.execute (view s).tpm command).2) ∧
      view (next s (.mmioWrite l .crbControlStart controlStart)) =
        ⟨(core.execute (view s).tpm command).1, some l, phase⟩

section Obeys

variable {S τ : Type} {core : TpmCore τ} {bypass : Bool} (device : CrbDevice S τ core bypass)

variable {device} {t : τ} {l : Locality}

/-- The device is ready for a command. -/
def CrbPhase.IsReady (phase : CrbPhase) : Prop := ∃ buffer, phase = .ready buffer

/-- A device that is ready stays ready. -/
theorem CrbPhase.stable_isReady : Stable IsReady := by
  rintro _ _ hsettles ⟨buffer, rfl⟩
  cases hsettles
  exact ⟨buffer, rfl⟩

/-- One that gets ready does so. -/
theorem CrbPhase.stable_readying :
    Stable fun phase : CrbPhase => phase = .readying ∨ phase.IsReady := by
  rintro _ _ hsettles (rfl | ⟨buffer, rfl⟩)
  · cases hsettles
    · exact .inl rfl
    · exact .inr ⟨_, rfl⟩
  · cases hsettles
    exact .inr ⟨buffer, rfl⟩

/-- One that goes idle does so. -/
theorem CrbPhase.stable_idling :
    Stable fun phase : CrbPhase => phase = .idling ∨ phase = .idle := by
  rintro _ _ hsettles (rfl | rfl)
  · cases hsettles
    · exact .inl rfl
    · exact .inr rfl
  · cases hsettles
    exact .inr rfl

/-- A device that takes the request gets ready, if the operation succeeds. -/
theorem CrbDevice.triple_cmdReady {v : Stage τ} (hactive : v.active = some l)
    (hv : v.stand.readies true bypass = true) :
    device.Triple (fun s => device.stage s = v) (tpmSstCmdReady true l) fun status s =>
      (device.stage s).tpm = v.tpm ∧ (device.stage s).active = some l ∧
        (device.stage s).stand.readies true bypass = true ∧
        (status.isError = false → (device.stage s).stand = .ready) := by
  intro s₀
  -- what is left to show of both waits
  have hpost : ∀ (status : EfiStatus) (s : S),
      device.At v.tpm l (fun phase => phase = .readying ∨ phase.IsReady) s ∧
        (status.isError = false → device.At v.tpm l CrbPhase.IsReady s) →
      (device.stage s).tpm = v.tpm ∧ (device.stage s).active = some l ∧
        (device.stage s).stand.readies true bypass = true ∧
        (status.isError = false → (device.stage s).stand = .ready) := by
    rintro status s ⟨⟨htpm, hl, hphase⟩, hok⟩
    refine ⟨htpm, hl, ?_, fun hstatus => ?_⟩
    · unfold PhasedDevice.stage View.stage
      rcases hphase with h | ⟨buffer, h⟩ <;> rw [h] <;> rfl
    · obtain ⟨-, -, buffer, h⟩ := hok hstatus
      unfold PhasedDevice.stage View.stage
      rw [h]
      rfl
  refine Traced.Triple.bind (Device.triple_emit
    (Q := fun _ => device.At v.tpm l fun phase => phase = .readying ∨ phase.IsReady)
    (fun s hs => ?_) s₀) fun _ => ?_
  · subst hs
    obtain ⟨phase, hphase, hview⟩ := device.commandReady s l hactive hv
    exact .of_view hview hphase
  refine Traced.Triple.bind (PhasedDevice.triple_wait (Q := CrbPhase.IsReady) (by decide)
    CrbPhase.stable_readying CrbPhase.stable_isReady (fun s hs _ hclear => ?_) ptpTimeoutC s₀)
    fun status => ?_
  · exact hs.2.2.resolve_left (device.readied s l hs.2.1 hclear)
  split_ifs with hstatus
  · subst hstatus
    refine (PhasedDevice.triple_wait (Q := CrbPhase.IsReady) (by decide) CrbPhase.stable_isReady
      CrbPhase.stable_isReady (fun s hs _ _ => hs.2.2) ptpTimeoutC s₀).weaken
      (fun s hs => hs.2 (by decide)) fun status s hs => hpost status s ⟨?_, hs.2⟩
    exact hs.1.mono fun phase hphase => .inr hphase
  · exact Traced.Triple.pure fun s hs => hpost status s hs

/-- Where the TPM has arrived. -/
theorem CrbPhase.stable_idle : Stable fun phase : CrbPhase => phase = .idle := by
  rintro _ _ hsettles rfl
  cases hsettles
  rfl

/-- A device that is ready, or done with a command, goes idle. -/
theorem CrbDevice.triple_goIdle {v : Stage τ} (hactive : v.active = some l)
    (hv : v.stand = .ready ∨ v.stand = .done) :
    device.Triple (fun s => device.stage s = v) (tpmSstGoIdle true l) fun status s =>
      (device.stage s).tpm = v.tpm ∧ (device.stage s).active = some l ∧
        (status.isError = false → (device.stage s).stand.readies true bypass = true) := by
  intro s₀
  have hpost : ∀ (status : EfiStatus) (s : S),
      device.At v.tpm l (fun phase => phase = .idling ∨ phase = .idle) s ∧
        (status.isError = false → device.At v.tpm l (fun phase => phase = .idle) s) →
      (device.stage s).tpm = v.tpm ∧ (device.stage s).active = some l ∧
        (status.isError = false → (device.stage s).stand.readies true bypass = true) := by
    rintro status s ⟨⟨htpm, hl, -⟩, hok⟩
    refine ⟨htpm, hl, fun hstatus => ?_⟩
    unfold PhasedDevice.stage View.stage
    rw [(hok hstatus).2.2]
    rfl
  refine Traced.Triple.bind (Device.triple_emit
    (Q := fun _ => device.At v.tpm l fun phase => phase = .idling ∨ phase = .idle)
    (fun s hs => ?_) s₀) fun _ => ?_
  · subst hs
    obtain ⟨phase, hphase, hview⟩ := device.goIdle s l hactive hv
    exact .of_view hview hphase
  refine Traced.Triple.bind (PhasedDevice.triple_wait (Q := fun phase => phase = .idle) (by decide)
    CrbPhase.stable_idling CrbPhase.stable_idle (fun s hs _ hclear => ?_) ptpTimeoutC s₀)
    fun status => ?_
  · exact hs.2.2.resolve_left (device.idled s l hs.2.1 hclear)
  split_ifs with hstatus
  · subst hstatus
    refine (PhasedDevice.triple_wait (Q := fun phase => phase = .idle) (by decide)
      CrbPhase.stable_idle CrbPhase.stable_idle (fun s hs _ _ => hs.2.2) ptpTimeoutC s₀).weaken
      (fun s hs => hs.2 (by decide)) fun status s hs => hpost status s ⟨?_, hs.2⟩
    exact hs.1.mono fun phase hphase => .inr hphase
  · exact Traced.Triple.pure fun s hs => hpost status s hs

/-! ### A command -/

/-- What has come of a command of which `index` bytes are sent.  A device that takes a command
after one that is done does so with the first byte. -/
def CrbPhase.Received (bypass : Bool) (bytes : Bytes) (index : ℕ) (phase : CrbPhase) : Prop :=
  (∃ buffer, phase = .ready buffer ∧ ∀ i < index, buffer i = bytes i) ∨
    (bypass = true ∧ index = 0 ∧ ∃ response, phase = .completed response)

/-- Bytes that are sent stay sent. -/
theorem CrbPhase.stable_received (bypass : Bool) (bytes : Bytes) (index : ℕ) :
    Stable (Received bypass bytes index) := by
  rintro _ _ hsettles (⟨buffer, rfl, hbuffer⟩ | ⟨hbypass, hindex, response, rfl⟩)
  · cases hsettles
    exact .inl ⟨buffer, rfl, hbuffer⟩
  · cases hsettles
    exact .inr ⟨hbypass, hindex, response, rfl⟩

/-- One byte more. -/
theorem CrbDevice.triple_sendByte (bytes : Bytes) {index : ℕ} (h : index < crbDataBufferSize) :
    device.Triple (device.At t l (CrbPhase.Received bypass bytes index))
      (sendByte l (.crbDataBuffer index) bytes index) fun _ =>
        device.At t l (CrbPhase.Received bypass bytes (index + 1)) := by
  intro s₀
  refine Traced.Triple.bind (Device.triple_emit
    (Q := fun _ => device.At t l (CrbPhase.Received bypass bytes index)) (fun s hs =>
      device.at_passive (CrbPhase.stable_received bypass bytes index) s _
        (Event.passive_load _ _) hs) s₀)
    fun _ => Device.triple_emit (fun s hs => ?_) s₀
  obtain ⟨rfl, hl, hphase⟩ := hs
  have hupdate : ∀ (buffer : Bytes), (∀ i < index, buffer i = bytes i) →
      ∀ i < index + 1, Function.update buffer index (bytes index) i = bytes i := by
    intro buffer hbuffer i hi
    rcases Nat.lt_succ_iff_lt_or_eq.1 hi with hlt | rfl
    · rw [Function.update_of_ne hlt.ne, hbuffer i hlt]
    · exact Function.update_self ..
  rcases hphase with ⟨buffer, hphase, hbuffer⟩ | ⟨hbypass, rfl, response, hphase⟩
  · exact .of_view (device.write s l buffer index (bytes index) hl hphase h)
      (.inl ⟨_, rfl, hupdate buffer hbuffer⟩)
  · obtain ⟨buffer, hview⟩ := device.bypassWrite hbypass s l response 0 (bytes 0) hl hphase h
    exact .of_view hview (.inl ⟨_, rfl, hupdate buffer fun i hi => absurd hi (Nat.not_lt_zero i)⟩)

/-- What has come of a response of which `index` bytes are read. -/
def CrbPhase.Completed (response : List (BitVec 8)) (phase : CrbPhase) : Prop :=
  phase = .completed response

/-- A response stays. -/
theorem CrbPhase.stable_completed (response : List (BitVec 8)) : Stable (Completed response) := by
  rintro _ _ hsettles rfl
  cases hsettles
  rfl

/-- One byte of the response more. -/
theorem CrbDevice.triple_receiveByte {response : List (BitVec 8)} (bytes : Bytes) {index : ℕ}
    (h : index < crbDataBufferSize) :
    device.Triple
      (fun s => ReadTo response index bytes ∧ device.At t l (CrbPhase.Completed response) s)
      (receiveByte l (.crbDataBuffer index) bytes index) fun bytes s =>
        ReadTo response (index + 1) bytes ∧ device.At t l (CrbPhase.Completed response) s := by
  intro s₀
  have hkeep := device.at_passive (t := t) (l := l) (CrbPhase.stable_completed response)
  refine Traced.Triple.of_pre fun hread => Traced.Triple.bind
    (Device.triple_mmioRead8 (Q := fun value s => (∀ hlt : index < response.length,
      value = response[index]) ∧ device.At t l (CrbPhase.Completed response) s)
      (fun s hs => ⟨fun hlt => device.data s l response index hlt hs.2.1 hs.2.2 h,
        hkeep s _ (by simp [Event.Passive]) hs⟩) s₀) fun value => ?_
  refine Traced.Triple.of_pre fun hvalue => Traced.Triple.bind
    (Device.triple_emit (Q := fun _ => device.At t l (CrbPhase.Completed response))
      (fun s hs => hkeep s _ (Event.passive_store _ _) hs) s₀) fun _ =>
        Traced.Triple.pure fun s hs => ⟨?_, hs⟩
  intro i hi hlt
  rcases Nat.lt_succ_iff_lt_or_eq.1 hlt with hlt | rfl
  · rw [Function.update_of_ne hlt.ne, hread i hi hlt]
  · rw [Function.update_self, hvalue hi]

/-- `CopyCommandData` sends all bytes. -/
theorem CrbDevice.triple_copyCommandData (bytes : Bytes) {n : ℕ} (hn : n ≤ crbDataBufferSize) :
    device.Triple (device.At t l (CrbPhase.Received bypass bytes 0))
      (copyCommandData true l bytes n) fun _ =>
        device.At t l (CrbPhase.Received bypass bytes n) := by
  intro s₀
  refine Traced.Triple.bind (Traced.Triple.foldlM_range
    (I := fun index _ => device.At t l (CrbPhase.Received bypass bytes index)) fun index hlt _ =>
      CrbDevice.triple_sendByte bytes (hlt.trans_le hn) s₀) fun _ => Traced.Triple.pure fun _ => id

/-- `CopyResponseData` reads all bytes. -/
theorem CrbDevice.triple_copyResponseData {response : List (BitVec 8)} (bytes : Bytes) {n : ℕ}
    (hn : n ≤ crbDataBufferSize) :
    device.Triple (device.At t l (CrbPhase.Completed response)) (copyResponseData true l bytes n)
      fun result s =>
        ReadTo response n result.2 ∧ device.At t l (CrbPhase.Completed response) s := by
  intro s₀
  refine Traced.Triple.bind ((Traced.Triple.foldlM_range
    (I := fun index bytes s =>
      ReadTo response index bytes ∧ device.At t l (CrbPhase.Completed response) s)
    fun index hlt bytes => CrbDevice.triple_receiveByte bytes (hlt.trans_le hn) s₀).weaken
      (fun s hs => ⟨fun i _ hi => absurd hi (Nat.not_lt_zero i), hs⟩) fun _ _ => id)
    fun bytes => Traced.Triple.pure fun _ => id

/-- A command that is executed completes. -/
theorem CrbPhase.stable_executing (response : List (BitVec 8)) :
    Stable fun phase : CrbPhase => phase = .executing response ∨ phase.Completed response := by
  rintro _ _ hsettles (rfl | rfl)
  · cases hsettles
    · exact .inl rfl
    · exact .inr rfl
  · cases hsettles
    exact .inr rfl

/-- A command in the data buffer. -/
def CrbPhase.HasCommand (command : List (BitVec 8)) (phase : CrbPhase) : Prop :=
  ∃ buffer, phase = .ready buffer ∧
    ∀ (i : ℕ) (h : i < command.length), buffer i = command[i]

/-- With all its bytes sent the device has the command. -/
theorem CrbPhase.Received.hasCommand {bytes : Bytes} {command : List (BitVec 8)} {n : ℕ}
    {phase : CrbPhase} (h : phase.Received bypass bytes n) (hcommand : core.IsCommand command)
    (hn : command.length ≤ n)
    (hbytes : ∀ (i : ℕ) (h : i < command.length), bytes i = command[i]) :
    phase.HasCommand command := by
  rcases h with ⟨buffer, rfl, hbuffer⟩ | ⟨-, rfl, -⟩
  · exact ⟨buffer, rfl, fun i hi => (hbuffer i (by omega)).trans (hbytes i hi)⟩
  · exact absurd hn hcommand.length_pos.not_ge

/-- `StartCommand`, at a device that has a command. -/
theorem CrbDevice.triple_startCommand {command : List (BitVec 8)}
    (hcommand : core.IsCommand command) :
    device.Triple (device.At t l (CrbPhase.HasCommand command)) (startCommand true l)
      fun status s => status.isError = false →
        device.At (core.execute t command).1 l
          (CrbPhase.Completed (core.execute t command).2) s := by
  intro s₀
  refine Traced.Triple.bind (Device.triple_emit
    (Q := fun _ => device.At (core.execute t command).1 l fun phase =>
      phase = .executing (core.execute t command).2 ∨ phase.Completed (core.execute t command).2)
    (fun s hs => ?_) s₀) fun _ => ?_
  · obtain ⟨rfl, hl, buffer, hphase, hbuffer⟩ := hs
    obtain ⟨phase, hphase', hview⟩ := device.start s l buffer command hl hphase hcommand hbuffer
    exact .of_view hview hphase'
  · refine (PhasedDevice.triple_wait (by decide) (CrbPhase.stable_executing _)
      (CrbPhase.stable_completed (core.execute t command).2) (fun s hs _ hclear => ?_)
      ptpTimeoutMax s₀).mono fun _ _ hs => hs.2
    exact hs.2.2.resolve_left (device.executed s l _ hs.2.1 hclear)

/-- `TpmSstStart`, at a device that takes a command. -/
theorem CrbDevice.triple_start {v : Stage τ} {page : PtpCrbRegisters}
    {command : List (BitVec 8)} (hactive : v.active = some l)
    (hv : v.stand.takesCommand true bypass = true) (hannounces : Announces core page command) :
    device.Triple (fun s => device.stage s = v) (tpmSstStart true l page) fun result s =>
      result.1 = EfiStatus.success →
        (device.stage s).tpm = (core.execute v.tpm command).1 ∧
          (device.stage s).active = some l ∧ (device.stage s).stand = .done ∧
          Holds result.2 page.crbControlResponseSize.toNat (core.execute v.tpm command).2 := by
  intro s₀
  refine (Device.triple_start
    (P := fun bytes => device.At v.tpm l (CrbPhase.Received bypass bytes 0)) hannounces
    (fun bytes => device.at_passive (CrbPhase.stable_received bypass bytes 0))
    (device.at_passive (CrbPhase.stable_completed (core.execute v.tpm command).2))
    (fun bytes hbytes s₀ =>
      (CrbDevice.triple_copyCommandData bytes hannounces.commandSize_le s₀).mono
        fun _ s hs _ => hs.mono fun _ hphase =>
          hphase.hasCommand hannounces.isCommand hannounces.length_le hbytes)
    (CrbDevice.triple_startCommand hannounces.isCommand)
    (fun bytes s₀ => (CrbDevice.triple_copyResponseData bytes hannounces.responseSize_le s₀).mono
      fun _ s hs _ => hs) s₀).weaken (fun s hs bytes => ?_) fun result s hs hstatus => ?_
  · subst hs
    refine ⟨rfl, hactive, ?_⟩
    change (Phase.stand (device.view s).phase).takesCommand true bypass = true at hv
    generalize (device.view s).phase = phase at hv ⊢
    cases phase with
    | ready buffer => exact .inl ⟨buffer, rfl, fun i hi => absurd hi (Nat.not_lt_zero i)⟩
    | completed response => exact .inr ⟨hv, rfl, response, rfl⟩
    | idle => cases hv
    | readying => cases hv
    | idling => cases hv
    | executing response => cases hv
  · obtain ⟨⟨htpm, hl, hphase⟩, hholds⟩ := hs hstatus
    exact ⟨htpm, hl, congrArg CrbPhase.stand hphase, hholds⟩

/-- **The library obeys on a CRB device.** -/
theorem CrbDevice.obeys (device : CrbDevice S τ core bypass) :
    Obeys true bypass device.toDevice core device.stage where
  request _ l := PhasedDevice.triple_grant (device.request · l) (by decide) (device.granted · l) _
  relinquish _ l hv := PhasedDevice.triple_release (device.relinquish · l) (by decide) hv _
  cmdReady _ _ := CrbDevice.triple_cmdReady
  goIdle _ _ := CrbDevice.triple_goIdle
  start _ _ _ _ := CrbDevice.triple_start

end Obeys

/-! ### A device that echoes -/

/-- What the registers of the echoing device show. -/
def echoCrbValue (s : View ℕ CrbPhase) (l : Locality) : ExternalRegister → BitVec 32
  | .crbLocalityStatus => if s.active = some l then localityStatusGranted else 0
  | .crbControlRequest =>
    match s.phase with
    | .readying => requestCommandReady
    | .idling => requestGoIdle
    | _ => 0
  | .crbControlStatus =>
    match s.phase with
    | .idle => statusTpmIdle
    | _ => 0
  | .crbControlStart =>
    match s.phase with
    | .executing _ => controlStart
    | _ => 0
  | .crbDataBuffer index =>
    match s.phase with
    | .completed response => (response.getD index 0).setWidth 32
    | _ => 0
  | _ => 0

/-- And what the accesses do to it. -/
def echoCrbNext (s : View ℕ CrbPhase) : Event → View ℕ CrbPhase
  | .mmioWrite l .crbLocalityControl value =>
    if value = localityControlRequestAccess then
      if s.active = none then { s with active := some l } else s
    else if s.active = some l then ⟨s.tpm, none, .idle⟩ else s
  | .mmioWrite l .crbControlRequest value =>
    if s.active = some l then
      { s with phase := if value = requestCommandReady then .ready fun _ => 0 else .idle }
    else s
  | .mmioWrite l (.crbDataBuffer index) value =>
    match s.phase with
    | .ready buffer =>
      if s.active = some l then
        { s with phase := .ready (Function.update buffer index (value.setWidth 8)) }
      else s
    | _ => s
  | .mmioWrite l .crbControlStart _ =>
    match s.phase with
    | .ready buffer =>
      if s.active = some l then ⟨s.tpm + 1, some l, .completed [buffer 0, buffer 1]⟩ else s
    | _ => s
  | _ => s

/-- **The echoing device keeps what a CRB device promises.** -/
def CrbDevice.echo : CrbDevice (View ℕ CrbPhase) ℕ TpmCore.echo false where
  value := echoCrbValue
  yield _ := EfiStatus.success
  next := echoCrbNext
  unassigned := EfiStatus.success
  pastEnd _ := 0
  view := id
  passive s e he := by
    have hsame : echoCrbNext s e = s := by
      cases e with
      | mmioWrite l register value => exact he.elim
      | _ => rfl
    rw [hsame]
    exact ⟨rfl, fun _ => id, .stays _⟩
  granted s l h := by
    unfold echoCrbValue at h
    dsimp only at h
    split_ifs at h with hactive
    · exact hactive
    · exact absurd h (by decide)
  readied s l _ h hphase := by
    rw [echoCrbValue, show s.phase = _ from hphase] at h
    exact absurd h (by decide)
  idled s l _ h hphase := by
    rw [echoCrbValue, show s.phase = _ from hphase] at h
    exact absurd h (by decide)
  executed s l response _ h hphase := by
    rw [echoCrbValue, show s.phase = _ from hphase] at h
    exact absurd h (by simp [controlStart])
  data s l response index h _ hphase _ := by
    rw [echoCrbValue, show s.phase = _ from hphase]
    simp [h]
  request s l := by
    refine ⟨?_, fun l' h => ?_, ?_⟩
    all_goals
      unfold echoCrbNext
      dsimp only [id]
      rw [if_pos rfl]
      split_ifs with hnone
    · rfl
    · rfl
    · rw [show s.active = _ from h] at hnone
      cases hnone
    · exact h
    · exact .stays _
    · exact .stays _
  relinquish s l hready := by
    unfold echoCrbNext
    dsimp only [id] at hready ⊢
    rw [if_neg (by decide)]
    split_ifs
    · exact ⟨none, .idle, rfl, rfl⟩
    · exact ⟨s.active, s.phase, hready, rfl⟩
  commandReady s l hactive _ := by
    refine ⟨.ready fun _ => 0, .inr ⟨_, rfl⟩, ?_⟩
    unfold echoCrbNext
    dsimp only [id] at hactive ⊢
    rw [if_pos hactive, if_pos rfl, hactive]
  goIdle s l hactive _ := by
    refine ⟨.idle, .inr rfl, ?_⟩
    unfold echoCrbNext
    dsimp only [id] at hactive ⊢
    rw [if_pos hactive, if_neg (by decide), hactive]
  write s l buffer index value hactive hphase _ := by
    unfold echoCrbNext
    dsimp only [id] at hactive hphase ⊢
    rw [hphase]
    dsimp only
    rw [if_pos hactive, hactive, BitVec.setWidth_setWidth_of_le _ (by decide),
      BitVec.setWidth_eq]
  bypassWrite h := absurd h Bool.false_ne_true
  start s l buffer command hactive hphase hcommand hbuffer := by
    have hlength := TpmCore.isCommand_echo.1 hcommand
    obtain ⟨a, b, rfl⟩ := List.length_eq_two.1 hlength
    refine ⟨.completed [a, b], .inr rfl, ?_⟩
    unfold echoCrbNext
    dsimp only [id] at hactive hphase ⊢
    rw [hphase]
    dsimp only
    rw [if_pos hactive, hbuffer 0 (by simp), hbuffer 1 (by simp)]
    rfl

end Tpm
end FfaFeature
