/-
# Receiving a response

`CopyResponseData` reads a response byte by byte: from the data buffer of a CRB device, and
from the one data register of a FIFO device, in bursts of the size it announces.  `Receives`
is what holds after each part of it: the bytes read so far stand in the buffer, in order.

A response that is not empty is received as it should be, however the bursts are granted
(`copyResponseData_copies_iff`).  Of an empty one a FIFO device is not asked anything, and
no statement of the loop assigns the status that is returned.
-/

import FfaFeature.Tpm.CommandData

namespace FfaFeature
namespace Tpm

/-! ### The data read from the TPM -/

/-- A read of a data register. -/
def Event.isDataRead : Event → Bool
  | .mmioRead _ (.crbDataBuffer _) _ => true
  | .mmioRead _ .fifoDataFifo _ => true
  | _ => false

/-- The byte a read obtains. -/
def Event.byteRead : Event → BitVec 8
  | .mmioRead _ _ value => value.setWidth 8
  | _ => 0

/-- The read that obtained byte `index` of a buffer. -/
def dataRead (mIsCrbInterface : Bool) (locality : Locality) (tpmCommandBuffer : Bytes)
    (index : ℕ) : Event :=
  .mmioRead locality (dataRegister mIsCrbInterface index)
    ((tpmCommandBuffer index).setWidth 32)

/-- The bytes the TPM delivered. -/
def delivered (es : List Event) : List (BitVec 8) :=
  (es.filter Event.isDataRead).map Event.byteRead

/-- A read of data is one. -/
@[simp] theorem isDataRead_dataRead (mIsCrbInterface : Bool) (locality : Locality)
    (bytes : Bytes) (index : ℕ) :
    (dataRead mIsCrbInterface locality bytes index).isDataRead = true := by
  cases mIsCrbInterface <;> rfl

/-- It has its byte. -/
@[simp] theorem byteRead_dataRead (mIsCrbInterface : Bool) (locality : Locality)
    (bytes : Bytes) (index : ℕ) :
    (dataRead mIsCrbInterface locality bytes index).byteRead = bytes index := by
  simp [dataRead, Event.byteRead, BitVec.setWidth_setWidth_of_le]

/-- A quiet event reads no data. -/
theorem Quiet.isDataRead {e : Event} (h : Quiet e) : e.isDataRead = false := by
  cases e with
  | mmioRead locality register value => cases register <;> first | rfl | exact absurd h id
  | mmioWrite => rfl
  | yield => rfl
  | load => rfl
  | store => rfl

/-- Neither do several. -/
theorem filter_isDataRead_eq_nil {es : List Event} (h : ∀ e ∈ es, Quiet e) :
    es.filter Event.isDataRead = [] :=
  List.filter_eq_nil_iff.2 fun e he => by
    rw [(h e he).isDataRead]
    decide

/-- **What reading the bytes from `index` to `last` does**: the data it reads is what the
buffer then holds there, in order, and the rest of the buffer stays. -/
structure Receives (mIsCrbInterface : Bool) (locality : Locality) (index last : ℕ)
    (bytes bytes' : Bytes) (es : List Event) : Prop where
  le : index ≤ last
  reads : es.filter Event.isDataRead =
    (List.range' index (last - index)).map (dataRead mIsCrbInterface locality bytes')
  rest : ∀ i, i < index ∨ last ≤ i → bytes' i = bytes i

section Receives

variable {mIsCrbInterface : Bool} {locality : Locality} {index middle last : ℕ}
  {bytes bytes' bytes'' : Bytes} {es es' : List Event}

/-- Nothing is received. -/
theorem Receives.none (hes : es.filter Event.isDataRead = []) :
    Receives mIsCrbInterface locality index index bytes bytes es where
  le := le_rfl
  reads := by rw [hes, Nat.sub_self, List.range'_zero, List.map_nil]
  rest _ _ := rfl

/-- One byte. -/
theorem Receives.one (mIsCrbInterface : Bool) (locality : Locality) (index : ℕ) (bytes : Bytes)
    (value : BitVec 8) :
    Receives mIsCrbInterface locality index (index + 1) bytes
      (Function.update bytes index value)
      [.mmioRead locality (dataRegister mIsCrbInterface index) (value.setWidth 32),
        .store .tpmCommandBuffer index] where
  le := Nat.le_succ index
  reads := by
    rw [Nat.add_sub_cancel_left]
    cases mIsCrbInterface <;> simp [dataRead, dataRegister, Event.isDataRead, List.filter_cons]
  rest i hi := Function.update_of_ne (by omega) _ _

/-- And bytes after bytes. -/
theorem Receives.trans
    (hfirst : Receives mIsCrbInterface locality index middle bytes bytes' es)
    (hthen : Receives mIsCrbInterface locality middle last bytes' bytes'' es') :
    Receives mIsCrbInterface locality index last bytes bytes'' (es ++ es') where
  le := hfirst.le.trans hthen.le
  reads := by
    have hle := hfirst.le
    have hle' := hthen.le
    -- the first bytes stay while the later ones are read
    have hkeep : ∀ i ∈ List.range' index (middle - index),
        dataRead mIsCrbInterface locality bytes' i =
          dataRead mIsCrbInterface locality bytes'' i := by
      intro i hi
      rw [List.mem_range'_1] at hi
      rw [dataRead, dataRead, hthen.rest i (.inl (by omega))]
    have hrange : List.range' index (last - index) =
        List.range' index (middle - index) ++ List.range' middle (last - middle) := by
      rw [show last - index = (middle - index) + (last - middle) by omega,
        ← List.range'_append_1, show index + (middle - index) = middle by omega]
    rw [List.filter_append, hfirst.reads, hthen.reads, List.map_congr_left hkeep, hrange,
      List.map_append]
  rest i hi := by
    have hle := hfirst.le
    have hle' := hthen.le
    rw [hthen.rest i (by omega), hfirst.rest i (by omega)]

end Receives

/-! ### Receiving, as the bursts are granted -/

section Bursts

variable {R : ExternalTpm → Prop}

/-- One byte is received. -/
theorem receiveByte_receives (mIsCrbInterface : Bool) (locality : Locality) (bytes : Bytes)
    (index : ℕ) :
    Traced.Sat R (receiveByte locality (dataRegister mIsCrbInterface index) bytes index)
      (Receives mIsCrbInterface locality index (index + 1) bytes) :=
  fun _ _ _ => Receives.one mIsCrbInterface locality index bytes _

/-- A CRB device delivers every byte. -/
theorem receiveAll_receives (locality : Locality) (count index : ℕ) (bytes : Bytes) :
    Traced.Sat R ((List.range' index count).foldlM (fun bytes index =>
        receiveByte locality (.crbDataBuffer index) bytes index) bytes)
      (Receives true locality index (index + count) bytes) := by
  induction count generalizing index bytes with
  | zero => exact Traced.Sat.pure (Receives.none rfl)
  | succ count ih =>
    rw [List.range'_succ, List.foldlM_cons]
    refine Traced.Sat.bind (receiveByte_receives true locality bytes index)
      fun bytes' es hone => ?_
    refine (ih (index + 1) bytes').mono fun bytes'' es' hthen => ?_
    rw [show index + (count + 1) = index + 1 + count by omega]
    exact hone.trans hthen

/-- A burst of a FIFO device is read to its end, or to the end of the response. -/
theorem receiveBurst_receives (locality : Locality) {responseDataLen count index : ℕ}
    (bytes : Bytes) (hlt : index < responseDataLen) :
    Traced.Sat R (receiveBurst locality responseDataLen count index bytes) fun result es =>
      result.1 = index + min count (responseDataLen - index) ∧
        Receives false locality index result.1 bytes result.2 es := by
  induction count generalizing index bytes with
  | zero => exact Traced.Sat.pure ⟨by omega, Receives.none rfl⟩
  | succ count ih =>
    refine Traced.Sat.bind (receiveByte_receives false locality bytes index)
      fun bytes' es hone => ?_
    split_ifs with hlast
    · refine Traced.Sat.pure ⟨by omega, ?_⟩
      rw [List.append_nil]
      exact hone
    · refine (ih bytes' (by omega)).mono fun result es' hthen => ?_
      exact ⟨by omega, hone.trans hthen.2⟩

/-- **The bursts bring a response, or an error.**  Each burst brings at least one byte, so the
length is enough fuel. -/
theorem receiveBursts_receives (locality : Locality) {responseDataLen fuel index : ℕ}
    {status : EfiStatus} (bytes : Bytes) (hle : index ≤ responseDataLen)
    (hfuel : responseDataLen ≤ index + fuel)
    (hstatus : index = responseDataLen → status = EfiStatus.success) :
    Traced.Sat R (receiveBursts locality responseDataLen fuel index status bytes)
      fun result es => ∃ last ≤ responseDataLen,
        Receives false locality index last bytes result.2 es ∧
          (result.1 = EfiStatus.success ↔ last = responseDataLen) := by
  induction fuel generalizing index status bytes with
  | zero =>
    have hend : index = responseDataLen := by omega
    exact Traced.Sat.pure ⟨index, hle, Receives.none rfl, iff_of_true (hstatus hend) hend⟩
  | succ fuel ih =>
    rw [receiveBursts]
    split_ifs with hlt
    · refine Traced.Sat.bind ((quiet_fifoReadBurstCount locality).and
        (pollLoop_answers (pollBurstCount locality) _ _ _ _)) fun answer es hwait => ?_
      obtain ⟨hquiet, hanswer⟩ := hwait
      have hnone := filter_isDataRead_eq_nil hquiet
      dsimp only
      split_ifs with herror
      · -- the error is what is returned
        refine Traced.Sat.pure ⟨index, hle, ?_, iff_of_false ?_ hlt.ne⟩
        · rw [List.append_nil]
          exact Receives.none hnone
        · intro hsuccess
          rw [hsuccess] at herror
          exact absurd herror (by decide)
      · obtain ⟨hsuccess, hcount⟩ := hanswer.resolve_right herror
        have hpos : 0 < answer.2.toNat := burstCount_pos hcount
        refine Traced.Sat.bind (receiveBurst_receives locality bytes hlt)
          fun burst es' hburst => ?_
        obtain ⟨hnext, hreceives⟩ := hburst
        refine (ih burst.2 (by omega) (by omega) fun _ => hsuccess).mono
          fun result es'' hrest => ?_
        obtain ⟨last, hlast, hthen, hiff⟩ := hrest
        exact ⟨last, hlast, (Receives.none hnone).trans (hreceives.trans hthen), hiff⟩
    · have hend : index = responseDataLen := by omega
      exact Traced.Sat.pure ⟨index, hle, Receives.none rfl, iff_of_true (hstatus hend) hend⟩

/-- What an interface delivers of a response that is not empty to a FIFO. -/
theorem copyResponseData_receives (mIsCrbInterface : Bool) (locality : Locality)
    (bytes : Bytes) {responseDataLen : ℕ} (h : mIsCrbInterface = true ∨ 0 < responseDataLen) :
    Traced.Sat R (copyResponseData mIsCrbInterface locality bytes responseDataLen)
      fun result es => ∃ last ≤ responseDataLen,
        Receives mIsCrbInterface locality 0 last bytes result.2 es ∧
          (result.1 = EfiStatus.success ↔ last = responseDataLen) := by
  cases mIsCrbInterface with
  | true =>
    have hall := receiveAll_receives (R := R) locality responseDataLen 0 bytes
    rw [Nat.zero_add, ← List.range_eq_range'] at hall
    refine Traced.Sat.bind hall fun bytes' es hreceives => Traced.Sat.pure ?_
    rw [List.append_nil]
    exact ⟨responseDataLen, le_rfl, hreceives, iff_of_true rfl rfl⟩
  | false =>
    have hpos : 0 < responseDataLen := h.resolve_left (by decide)
    refine Traced.Sat.bind (Traced.Sat.ask (Φ := fun _ es => es = []) fun _ _ => rfl)
      fun unassigned es hnil => ?_
    subst hnil
    exact receiveBursts_receives locality bytes (Nat.zero_le _) (by omega) fun hzero =>
      absurd hzero (by omega)

end Bursts

/-! ### What the status depends on -/

section Relates

variable {tpm tpm' : ExternalTpm}

/-- A byte read is the same. -/
theorem relates_mmioRead8 (hread : tpm.read = tpm'.read) (locality : Locality)
    (register : ExternalRegister) :
    Traced.Relates tpm tpm' (mmioRead8 locality register) (mmioRead8 locality register) Eq :=
  Traced.Relates.query _ fun h => by rw [hread]

/-- So is a poll. -/
theorem relates_pollLoop (hyield : tpm.yield = tpm'.yield) {α : Type} [Inhabited α]
    {poll : TpmIo α} (hpoll : Traced.Relates tpm tpm' poll poll Eq) (done : α → Bool)
    (timeout : BitVec 32) (fuel : ℕ) (delayAmount : BitVec 32) :
    Traced.Relates tpm tpm' (pollLoop poll done timeout fuel delayAmount)
      (pollLoop poll done timeout fuel delayAmount) Eq := by
  induction fuel generalizing delayAmount with
  | zero => exact Traced.Relates.pure rfl
  | succ fuel ih =>
    refine Traced.Relates.bind hpoll fun value _ hvalue => ?_
    subst hvalue
    split_ifs
    · exact Traced.Relates.pure rfl
    · exact Traced.Relates.pure rfl
    · refine Traced.Relates.bind (Traced.Relates.query _ fun h => by rw [hyield])
        fun status _ hstatus => ?_
      subst hstatus
      split_ifs
      · exact Traced.Relates.pure rfl
      · exact ih _

/-- So is `FifoReadBurstCount`. -/
theorem relates_fifoReadBurstCount (hread : tpm.read = tpm'.read)
    (hyield : tpm.yield = tpm'.yield) (locality : Locality) :
    Traced.Relates tpm tpm' (fifoReadBurstCount locality) (fifoReadBurstCount locality) Eq := by
  have hbyte := fun register => relates_mmioRead8 hread locality register
  refine relates_pollLoop hyield (Traced.Relates.bind (hbyte _) fun low _ hlow =>
    Traced.Relates.bind (hbyte _) fun high _ hhigh => Traced.Relates.pure ?_) _ _ _ _
  rw [hlow, hhigh]

/-- A byte is read whatever the buffer holds. -/
theorem relates_receiveByte (hread : tpm.read = tpm'.read) (locality : Locality)
    (register : ExternalRegister) (bytes bytes' : Bytes) (index : ℕ) :
    Traced.Relates tpm tpm' (receiveByte locality register bytes index)
      (receiveByte locality register bytes' index) fun _ _ => True :=
  Traced.Relates.bind (relates_mmioRead8 hread locality register) fun _ _ _ =>
    Traced.Relates.bind (Traced.Relates.emit _) fun _ _ _ => Traced.Relates.pure trivial

/-- A burst that is received is related. -/
theorem relates_receiveBurst (hread : tpm.read = tpm'.read) (locality : Locality)
    (responseDataLen count index : ℕ) (bytes bytes' : Bytes) :
    Traced.Relates tpm tpm' (receiveBurst locality responseDataLen count index bytes)
      (receiveBurst locality responseDataLen count index bytes')
      fun result result' => result.1 = result'.1 := by
  induction count generalizing index bytes bytes' with
  | zero => exact Traced.Relates.pure rfl
  | succ count ih =>
    refine Traced.Relates.bind (relates_receiveByte hread locality _ bytes bytes' index)
      fun next next' _ => ?_
    split_ifs
    · exact Traced.Relates.pure rfl
    · exact ih _ _ _

/-- The first burst assigns the status. -/
theorem relates_receiveBursts (hread : tpm.read = tpm'.read) (hyield : tpm.yield = tpm'.yield)
    (locality : Locality) {responseDataLen fuel index : ℕ} {status status' : EfiStatus}
    (bytes bytes' : Bytes) (h : status = status' ∨ (index < responseDataLen ∧ 0 < fuel)) :
    Traced.Relates tpm tpm' (receiveBursts locality responseDataLen fuel index status bytes)
      (receiveBursts locality responseDataLen fuel index status' bytes')
      fun result result' => result.1 = result'.1 := by
  induction fuel generalizing index status status' bytes bytes' with
  | zero => exact Traced.Relates.pure (h.resolve_right fun hno => Nat.lt_irrefl 0 hno.2)
  | succ fuel ih =>
    rw [receiveBursts, receiveBursts]
    split_ifs with hlt
    · refine Traced.Relates.bind (relates_fifoReadBurstCount hread hyield locality)
        fun answer _ hanswer => ?_
      subst hanswer
      dsimp only
      split_ifs
      · exact Traced.Relates.pure rfl
      · refine Traced.Relates.bind (relates_receiveBurst hread locality _ _ _ bytes bytes')
          fun burst burst' hindex => ?_
        rw [← hindex]
        exact ih burst.2 burst'.2 (.inl rfl)
    · exact Traced.Relates.pure (h.resolve_right fun hno => hlt hno.1)

/-- **What is returned is up to the TPM**: neither the status nobody assigned nor what the
buffer held decides it. -/
theorem relates_copyResponseData (mIsCrbInterface : Bool) (locality : Locality)
    (bytes bytes' : Bytes) {responseDataLen : ℕ}
    (h : mIsCrbInterface = true ∨ 0 < responseDataLen) (tpm : ExternalTpm)
    (unassigned : EfiStatus) :
    Traced.Relates { tpm with unassigned := unassigned } tpm
      (copyResponseData mIsCrbInterface locality bytes' responseDataLen)
      (copyResponseData mIsCrbInterface locality bytes responseDataLen)
      fun result result' => result.1 = result'.1 := by
  have hread : { tpm with unassigned := unassigned }.read = tpm.read := rfl
  have hyield : { tpm with unassigned := unassigned }.yield = tpm.yield := rfl
  cases mIsCrbInterface with
  | true =>
    refine Traced.Relates.bind (Traced.Relates.foldlM (Φ := fun _ _ => True) trivial
      fun next next' index _ => relates_receiveByte hread locality _ next next' index)
      fun _ _ _ => Traced.Relates.pure rfl
  | false =>
    have hpos : 0 < responseDataLen := h.resolve_left (by decide)
    have hask : Traced.Relates { tpm with unassigned := unassigned } tpm
        (Traced.ask ExternalTpm.unassigned : TpmIo EfiStatus)
        (Traced.ask ExternalTpm.unassigned) fun _ _ => True := fun _ => ⟨trivial, rfl⟩
    refine Traced.Relates.bind hask fun status status' _ => ?_
    exact relates_receiveBursts hread hyield locality bytes' bytes (.inr ⟨hpos, hpos⟩)

end Relates

/-! ### Enough turns -/

/-- Each burst brings a byte, so more turns than there are bytes change nothing. -/
theorem receiveBursts_fuel (tpm : ExternalTpm) (locality : Locality) {responseDataLen : ℕ}
    {fuel fuel' index : ℕ} (status : EfiStatus) (bytes : Bytes) (h : List Event)
    (hfuel : responseDataLen ≤ index + fuel) (hfuel' : responseDataLen ≤ index + fuel') :
    (receiveBursts locality responseDataLen fuel index status bytes).run tpm h =
      (receiveBursts locality responseDataLen fuel' index status bytes).run tpm h := by
  induction fuel generalizing fuel' index status bytes h with
  | zero =>
    cases fuel' with
    | zero => rfl
    | succ fuel' =>
      rw [receiveBursts, receiveBursts, if_neg (by omega)]
  | succ fuel ih =>
    cases fuel' with
    | zero => rw [receiveBursts, receiveBursts, if_neg (by omega)]
    | succ fuel' =>
      rw [receiveBursts, receiveBursts]
      split_ifs with hlt
      · refine Traced.Returns.run_congr (R := fun _ => True)
          (pollLoop_answers (pollBurstCount locality) _ _ _ _) trivial
          (fun answer hanswer t => ?_) h
        dsimp only
        split_ifs with herror
        · rfl
        · obtain ⟨-, hcount⟩ := hanswer.resolve_right herror
          have hpos : 0 < answer.2.toNat := burstCount_pos hcount
          have hburst := (@receiveBurst_receives (fun _ => True) locality _ answer.2.toNat _
            bytes hlt).mono fun _ _ => And.left
          exact Traced.Returns.run_congr hburst trivial (fun result hnext t' =>
            ih answer.1 result.2 t' (by omega) (by omega)) t
      · rfl

/-! ### Whole responses -/

/-- **A response is copied as it should be.** -/
structure CopiesResponse (mIsCrbInterface : Bool) (locality : Locality) (bytes : Bytes)
    (responseDataLen : ℕ) (tpm : ExternalTpm) (h : List Event) : Prop where
  /-- The loops end: more turns than the model gives them change nothing. -/
  terminates : (∀ fuel ≥ pollFuel ptpTimeoutD, pollLoop (pollBurstCount locality)
      (fun burstCount => burstCount != 0) ptpTimeoutD fuel 0 = fifoReadBurstCount locality) ∧
    ∀ fuel ≥ responseDataLen, ∀ status,
      (receiveBursts locality responseDataLen fuel 0 status bytes).run tpm h =
        (receiveBursts locality responseDataLen responseDataLen 0 status bytes).run tpm h
  /-- The status is up to the TPM alone: neither what the stack held nor what the buffer held
  decides it, or what is read. -/
  determined : ∀ unassigned bytes',
    ((copyResponseData mIsCrbInterface locality bytes' responseDataLen).run
          { tpm with unassigned := unassigned } h).1.1 =
        ((copyResponseData mIsCrbInterface locality bytes responseDataLen).run tpm h).1.1 ∧
      ((copyResponseData mIsCrbInterface locality bytes' responseDataLen).run
          { tpm with unassigned := unassigned } h).2 =
        ((copyResponseData mIsCrbInterface locality bytes responseDataLen).run tpm h).2
  /-- Bytes up to the length are read, once and in order, into the buffer; and all of them
  exactly if the status is success. -/
  received : ∃ last ≤ responseDataLen,
    Receives mIsCrbInterface locality 0 last bytes
        ((copyResponseData mIsCrbInterface locality bytes responseDataLen).run tpm h).1.2
        ((copyResponseData mIsCrbInterface locality bytes responseDataLen).run tpm h).2 ∧
      (((copyResponseData mIsCrbInterface locality bytes responseDataLen).run tpm h).1.1 =
        EfiStatus.success ↔ last = responseDataLen)
  /-- A CRB device that delivers the same bytes is answered in the same way. -/
  asCrb : ∀ bytes' tpm' h',
    delivered ((copyResponseData true locality bytes' responseDataLen).run tpm' h').2 =
        delivered
          ((copyResponseData mIsCrbInterface locality bytes responseDataLen).run tpm h).2 →
      ((copyResponseData true locality bytes' responseDataLen).run tpm' h').1.1 =
          ((copyResponseData mIsCrbInterface locality bytes responseDataLen).run tpm h).1.1 ∧
        ∀ index < responseDataLen,
          ((copyResponseData true locality bytes' responseDataLen).run tpm' h').1.2 index =
            ((copyResponseData mIsCrbInterface locality bytes responseDataLen).run tpm h).1.2
              index

/-- What is delivered is what the buffer then has. -/
theorem Receives.delivered_eq {mIsCrbInterface : Bool} {locality : Locality} {last : ℕ}
    {bytes bytes' : Bytes} {es : List Event}
    (h : Receives mIsCrbInterface locality 0 last bytes bytes' es) :
    delivered es = (List.range last).map bytes' := by
  rw [delivered, h.reads, List.map_map, Nat.sub_zero, ← List.range_eq_range']
  exact List.map_congr_left fun index _ => byteRead_dataRead ..

/-- **A response is copied as it should be unless it is an empty one from a FIFO.**  For every
interface, locality, length, buffer and TPM, after any history. -/
theorem copyResponseData_copies_iff (mIsCrbInterface : Bool) (locality : Locality)
    (bytes : Bytes) (responseDataLen : ℕ) (tpm : ExternalTpm) (h : List Event) :
    CopiesResponse mIsCrbInterface locality bytes responseDataLen tpm h ↔
      mIsCrbInterface = true ∨ 0 < responseDataLen := by
  constructor
  · intro hcopies
    by_contra hno
    obtain ⟨hfifo, hzero⟩ := not_or.1 hno
    obtain rfl : mIsCrbInterface = false := by simpa using hfifo
    obtain rfl : responseDataLen = 0 := by omega
    -- whatever the unassigned status is, it is returned
    have hstatus : ∀ unassigned, unassigned =
        ((copyResponseData false locality bytes 0).run tpm h).1.1 := fun unassigned =>
      (hcopies.determined unassigned bytes).1
    exact absurd ((hstatus EfiStatus.success).trans (hstatus EfiStatus.timeout).symm) (by decide)
  · intro hok
    obtain ⟨last, hlast, hreceives, hsuccess⟩ := copyResponseData_receives (R := fun _ => True)
      mIsCrbInterface locality bytes hok tpm trivial h
    refine ⟨⟨fun fuel hfuel => ?_, fun fuel hfuel status => ?_⟩,
      fun unassigned bytes' => relates_copyResponseData mIsCrbInterface locality bytes bytes' hok
        tpm unassigned h,
      ⟨last, hlast, hreceives, hsuccess⟩, fun bytes' tpm' h' hsame => ?_⟩
    · have hturns : pollFuel ptpTimeoutD = 4 + 1 := by decide
      rw [hturns] at hfuel
      obtain ⟨turns, rfl⟩ : ∃ turns, fuel = turns + 1 := ⟨fuel - 1, by omega⟩
      have htimeout : ptpTimeoutD.toNat = 30000 := by decide
      have hyield : yieldAmount.toNat = 10000 := by decide
      unfold fifoReadBurstCount
      rw [hturns]
      refine pollLoop_fuel _ _ (by decide) ?_ (by decide)
      rw [htimeout, hyield]
      omega
    · exact receiveBursts_fuel tpm locality status bytes h (by omega) (by omega)
    · obtain ⟨last', -, hcrb, hsuccess'⟩ := @copyResponseData_receives (fun _ => True) true
        locality bytes' responseDataLen (.inl rfl) tpm' trivial h'
      have hall : last' = responseDataLen := hsuccess'.1 rfl
      rw [hcrb.delivered_eq, hreceives.delivered_eq, hall] at hsame
      have hlength : responseDataLen = last := by
        simpa using congrArg List.length hsame
      rw [← hlength] at hsame hsuccess
      exact ⟨(hsuccess.2 rfl).symm, fun index hindex =>
        List.map_inj_left.1 hsame index (List.mem_range.2 hindex)⟩

/-- An empty response from a FIFO is not: the status is whatever the stack held. -/
theorem copyResponseData_empty :
    ¬ CopiesResponse false 0 (fun _ => 0) 0 (.const 0) [] := by
  intro hcopies
  have hsame := (hcopies.determined EfiStatus.deviceError fun _ => 0).1
  revert hsame
  decide

end Tpm
end FfaFeature
