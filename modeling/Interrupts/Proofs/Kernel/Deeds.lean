import Interrupts.Kernel.Controllers
import Interrupts.Proofs.Kernel.Primitives
import Interrupts.Proofs.Kernel.Watched

/-!
# What the kernel does to controllers

Of all that the kernel does to the hardware, the stores to registers and the bytes to the 8259
chips are its *deeds*; bytes to the serial port, to the interval timer and to the port that only
takes time are not. `Did` says which deeds were done between two states of a kernel that otherwise
differ in nothing that matters for its controllers, and the lemmas of this module say it of the
steps that everything else is made of.
-/

namespace Interrupts

variable {X : Surroundings}

/-! ## Deeds -/

/-- The event is a deed. -/
def HardwareEvent.isDeed : HardwareEvent → Bool
  | .out port _ => port ∈ [Pic.masterCommand, Pic.masterData, Pic.slaveCommand, Pic.slaveData]
  | .store _ _ => true
  | .served _ => true

/-- **What was done** between two states of the kernel. -/
def Kernel.Added (k : Kernel (Watched X)) (deeds : List HardwareEvent)
    (k' : Kernel (Watched X)) : Prop :=
  ∃ events, k'.events = k.events ++ events ∧ events.filter HardwareEvent.isDeed = deeds

/-- **What was done between two states** of which the second differs from the first only in the
hardware, the flags of processors, the rate of the timer and the way in which the executing
processor is known. -/
structure Kernel.Did (k : Kernel (Watched X)) (deeds : List HardwareEvent)
    (k' : Kernel (Watched X)) : Prop where
  added : Added k deeds k'
  /-- Nothing else of the kernel changed. -/
  rest : k' = { k with
    hardware := k'.hardware
    processors := k'.processors
    timerRate := k'.timerRate
    apicIdSource := k'.apicIdSource }

namespace Kernel

variable {k k' k'' l : Kernel (Watched X)} {deeds deeds' : List HardwareEvent}

/-- Only the hardware of a state matters. -/
theorem Added.congr (h : Added k deeds k') (hl : l.hardware = k'.hardware) : Added k deeds l := by
  obtain ⟨events, hevents, hdeeds⟩ := h
  exact ⟨events, (congrArg Prod.snd hl).trans hevents, hdeeds⟩

theorem Added.refl (k : Kernel (Watched X)) : Added k [] k :=
  ⟨[], (List.append_nil _).symm, rfl⟩

/-- Deeds add up in order. -/
theorem Added.trans (h : Added k deeds k') (h' : Added k' deeds' k'') :
    Added k (deeds ++ deeds') k'' := by
  obtain ⟨events, hevents, hdeeds⟩ := h
  obtain ⟨events', hevents', hdeeds'⟩ := h'
  exact ⟨events ++ events', by rw [hevents', hevents, List.append_assoc],
    by rw [List.filter_append, hdeeds, hdeeds']⟩

namespace Did

theorem refl (k : Kernel (Watched X)) : Did k [] k :=
  ⟨.refl k, rfl⟩

theorem trans (h : Did k deeds k') (h' : Did k' deeds' k'') : Did k (deeds ++ deeds') k'' where
  added := h.added.trans h'.added
  rest := by rw [h'.rest, h.rest]

/-- Nothing was done in the second part. -/
theorem then_nothing (h : Did k deeds k') (h' : Did k' [] k'') : Did k deeds k'' := by
  have hboth := h.trans h'
  rwa [List.append_nil] at hboth

/-- Nothing was done in the first part. -/
theorem nothing_then (h : Did k [] k') (h' : Did k' deeds k'') : Did k deeds k'' :=
  h.trans h'

theorem localApic (h : Did k deeds k') : k'.localApic = k.localApic := by rw [h.rest]

theorem ioApic (h : Did k deeds k') : k'.ioApic = k.ioApic := by rw [h.rest]

theorem pic (h : Did k deeds k') : k'.pic = k.pic := by rw [h.rest]

theorem active (h : Did k deeds k') : k'.active = k.active := by rw [h.rest]

theorem mode (h : Did k deeds k') : k'.mode = k.mode := by rw [h.rest]

theorem registry (h : Did k deeds k') : k'.registry = k.registry := by rw [h.rest]

/-- A step of the hardware of which nothing is seen. -/
theorem of_unseen {hw : (Watched X).Hardware} (h : hw.2 = k.events) :
    Did k [] { k with hardware := hw } :=
  ⟨⟨[], h.trans (List.append_nil _).symm, rfl⟩, rfl⟩

end Did

end Kernel

open Boot

variable [Behaviour X] {k k' : Kernel (Watched X)} {u : Unit}

namespace Kernel

/-! ## Ports -/

theorem did_read8 {p : MachinePorts} {port : UInt16} {value : UInt8}
    (h : PortBus.read8 (m := Boot (Watched X)) p port k = .ok value k') : Did k [] k' := by
  cases h
  exact .of_unseen rfl

/-- A byte for a port is a deed if the port is one of the 8259 pair. -/
theorem did_write8 {p : MachinePorts} {port : UInt16} {value : UInt8}
    (h : PortBus.write8 (m := Boot (Watched X)) p port value k = .ok u k') :
    Did k ([.out port value].filter HardwareEvent.isDeed) k' := by
  cases h
  exact ⟨⟨[.out port value], rfl, rfl⟩, rfl⟩

/-- A byte to one of the chips. -/
theorem did_tell {p : MachinePorts} {port : UInt16} {value : UInt8}
    (h : PortBus.write8 (m := Boot (Watched X)) p port value k = .ok u k')
    (hport : HardwareEvent.isDeed (.out port value) = true) : Did k [.out port value] k' := by
  have hdid := did_write8 h
  rwa [List.filter_cons_of_pos hport] at hdid

/-- A byte to another port. -/
theorem did_write8_elsewhere {p : MachinePorts} {port : UInt16} {value : UInt8}
    (h : PortBus.write8 (m := Boot (Watched X)) p port value k = .ok u k')
    (hport : HardwareEvent.isDeed (.out port value) = false) : Did k [] k' := by
  have hdid := did_write8 h
  rwa [List.filter_cons_of_neg (by rw [hport]; exact Bool.false_ne_true)] at hdid

/-! ## Log lines -/

/-- Waiting for the serial port only reads. -/
theorem did_awaitEmpty {p : MachinePorts} {patience : Nat}
    (h : Serial.awaitEmpty (m := Boot (Watched X)) p patience k = .ok u k') : Did k [] k' := by
  induction patience generalizing k with
  | zero => exact nomatch h
  | succ patience ih =>
    obtain ⟨status, k₁, hread, h⟩ := bind_eq_ok.mp h
    split at h
    · obtain ⟨-, rfl⟩ := pure_eq_ok.mp h
      exact did_read8 hread
    · exact (did_read8 hread).trans (ih h)

/-- The bytes of a log line are no deeds. -/
theorem did_sendRaw {p : MachinePorts} {bytes : Bytes}
    (h : Serial.sendRaw (m := Boot (Watched X)) p bytes k = .ok u k') : Did k [] k' := by
  induction bytes generalizing k with
  | nil =>
    obtain ⟨-, rfl⟩ := pure_eq_ok.mp h
    exact .refl k
  | cons b bytes ih =>
    obtain ⟨_, k₁, hwait, h⟩ := bind_eq_ok.mp h
    obtain ⟨_, k₂, hsend, h⟩ := bind_eq_ok.mp h
    have hdata := did_write8_elsewhere hsend (by rfl)
    exact ((did_awaitEmpty hwait).trans hdata).trans (ih h)

/-- **A log line** is no deed. -/
theorem did_log {level : Level} {text : String}
    (h : log (m := Boot (Watched X)) level text k = .ok u k') : Did k [] k' := by
  change emit level text k = .ok u k' at h
  obtain ⟨_, _, ⟨⟩, h⟩ := bind_eq_ok.mp h
  split at h
  · cases hbackend : k.backend with
    | absent =>
      rw [hbackend] at h
      obtain ⟨-, rfl⟩ := pure_eq_ok.mp h
      exact .refl k
    | console =>
      rw [hbackend] at h
      cases h
      exact .of_unseen rfl
    -- Over the serial port the line goes out byte by byte, and then its end.
    | serial =>
      rw [hbackend] at h
      obtain ⟨_, k₁, htext, hend⟩ := bind_eq_ok.mp h
      exact (did_sendRaw htext).trans (did_sendRaw hend)
  · obtain ⟨-, rfl⟩ := pure_eq_ok.mp h
    exact .refl k

/-- Nor are those of several lines. -/
theorem did_logAll {lines : List Record}
    (h : logAll (m := Boot (Watched X)) lines k = .ok u k') : Did k [] k' := by
  induction lines generalizing k with
  | nil =>
    obtain ⟨-, rfl⟩ := pure_eq_ok.mp h
    exact .refl k
  | cons line lines ih =>
    obtain ⟨_, k₁, hfirst, hrest⟩ := bind_eq_ok.mp h
    exact (did_log hfirst).trans (ih hrest)

/-! ## The interval timer -/

/-- Latching the counter is no deed, and reading it changes nothing. -/
theorem did_readCount {p : MachinePorts} {count : UInt16}
    (h : Pit.readCount (m := Boot (Watched X)) p k = .ok count k') : Did k [] k' := by
  obtain ⟨_, k₁, hlatch, h⟩ := bind_eq_ok.mp h
  obtain ⟨low, k₂, hlow, h⟩ := bind_eq_ok.mp h
  obtain ⟨high, k₃, hhigh, h⟩ := bind_eq_ok.mp h
  obtain ⟨-, rfl⟩ := pure_eq_ok.mp h
  exact ((did_write8_elsewhere hlatch (by rfl)).trans (did_read8 hlow)).trans (did_read8 hhigh)

/-- **Waiting on the counter does nothing**, however long it takes. -/
theorem did_countTo {p : MachinePorts} {needed elapsed : UInt32} {patience : Nat} {last : UInt16}
    (h : Pit.countTo (m := Boot (Watched X)) p needed patience last elapsed k = .ok u k') :
    Did k [] k' := by
  induction patience generalizing k last elapsed with
  | zero =>
    unfold Pit.countTo at h
    split at h
    · exact nomatch h
    · obtain ⟨-, rfl⟩ := pure_eq_ok.mp h
      exact .refl k
  | succ patience ih =>
    unfold Pit.countTo at h
    split at h
    · obtain ⟨current, k₁, hread, h⟩ := bind_eq_ok.mp h
      exact (did_readCount hread).trans (ih h)
    · obtain ⟨-, rfl⟩ := pure_eq_ok.mp h
      exact .refl k

/-- **A delay** is no deed. -/
theorem did_delayMs {ms : UInt32} (h : delayMs (X := Watched X) ms k = .ok u k') :
    Did k [] k' := by
  unfold delayMs Pit.pollDelay at h
  split at h
  · obtain ⟨-, rfl⟩ := pure_eq_ok.mp h
    exact .refl k
  · obtain ⟨start, k₁, hread, h⟩ := bind_eq_ok.mp h
    exact (did_readCount hread).trans (did_countTo h)

/-- Programming the counter is no deed either. -/
theorem did_setFrequency {p : MachinePorts} {hz hz' : UInt32}
    (h : Pit.setFrequency (m := Boot (Watched X)) p hz k = .ok hz' k') : Did k [] k' := by
  obtain ⟨_, k₁, hcommand, h⟩ := bind_eq_ok.mp h
  obtain ⟨_, k₂, hlow, h⟩ := bind_eq_ok.mp h
  obtain ⟨_, k₃, hhigh, h⟩ := bind_eq_ok.mp h
  obtain ⟨_, k₄, hlog, h⟩ := bind_eq_ok.mp h
  obtain ⟨-, rfl⟩ := pure_eq_ok.mp h
  exact (((did_write8_elsewhere hcommand (by rfl)).trans
    (did_write8_elsewhere hlow (by rfl))).trans
    (did_write8_elsewhere hhigh (by rfl))).trans (did_log hlog)

/-! ## Registers -/

/-- Reading a register does nothing. -/
theorem did_read32 {w : Window} {offset : UInt64} {value : UInt32}
    (h : RegisterBus.read32 (m := Boot (Watched X)) w offset k = .ok value k') : Did k [] k' := by
  obtain ⟨address, k₁, haddress, hload⟩ := bind_eq_ok.mp h
  obtain ⟨admitted, k₂, hadmits, haddress⟩ := bind_eq_ok.mp haddress
  obtain ⟨-, rfl⟩ := Window.admits_eq_ok hadmits
  cases admitted with
  | true =>
    obtain ⟨-, -, rfl⟩ := addWord64_eq_ok haddress
    cases hload
    exact .of_unseen rfl
  | false => exact nomatch haddress

/-- **A register that was written** is one deed, at its address in the window. -/
theorem did_write32 {w : Window} {offset : UInt64} {value : UInt32}
    (h : RegisterBus.write32 (m := Boot (Watched X)) w offset value k = .ok u k') :
    Did k [.store (w.virtBase + offset) value] k' := by
  obtain ⟨address, k₁, haddress, hstore⟩ := bind_eq_ok.mp h
  obtain ⟨rfl, rfl⟩ := Window.writeAddress_eq_ok haddress
  cases hstore
  exact ⟨⟨[_], rfl, rfl⟩, rfl⟩

/-- Looking up who is executing. -/
theorem did_currentApicId {id : UInt32}
    (h : currentApicId (X := Watched X) k = .ok id k') : Did k [] k' := by
  obtain ⟨_, _, ⟨⟩, h⟩ := bind_eq_ok.mp h
  cases hsource : k.apicIdSource with
  | unset =>
    rw [hsource] at h
    obtain ⟨-, rfl⟩ := pure_eq_ok.mp h
    exact .refl k
  | told id =>
    rw [hsource] at h
    obtain ⟨-, rfl⟩ := pure_eq_ok.mp h
    exact .refl k
  | localApic =>
    rw [hsource] at h
    obtain ⟨_, _, ⟨⟩, h⟩ := bind_eq_ok.mp h
    cases hapic : k.localApic.get? with
    | none =>
      rw [hapic] at h
      obtain ⟨-, rfl⟩ := pure_eq_ok.mp h
      exact .refl k
    | some apic =>
      rw [hapic] at h
      obtain ⟨value, k₁, hread, h⟩ := bind_eq_ok.mp h
      obtain ⟨-, rfl⟩ := pure_eq_ok.mp h
      exact did_read32 hread

end Kernel

end Interrupts
