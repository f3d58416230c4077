/-!
# The interrupt registry

Each of the 224 lines has a chain of handlers, the newest first. Installing a handler gives it an
identity that no other handler of the registry has, and with the identity it can be removed again,
which leaves the order of the others alone. A line also counts its deliveries and those that nobody
claimed, and remembers whether the latter were already reported.

This module is the registry as a value; `Irq.Dispatch` runs its handlers.
-/

namespace Interrupts

/-- The identity of an installed handler. -/
structure HandlerId where
  value : UInt64
  deriving DecidableEq, Repr

/-- The identity as it is written in reports. -/
def HandlerId.describe (i : HandlerId) : String :=
  s!"HandlerId({i.value.toNat})"

instance : ToString HandlerId := ⟨HandlerId.describe⟩

/-- **Why a request about a line is refused.** -/
inductive IrqError where
  /-- There is no such line. -/
  | invalidLine (irq : UInt8)
  /-- The line has no handler of this identity. -/
  | notInstalled
  /-- No interrupt controller is active. -/
  | noController
  deriving DecidableEq, Repr

/-- The error as it is written in log lines. -/
def IrqError.describe : IrqError → String
  | invalidLine irq => s!"InvalidLine({irq.toNat})"
  | notInstalled => "NotInstalled"
  | noController => "NoController"

instance : ToString IrqError := ⟨IrqError.describe⟩

/-- **A handler in the chain of a line.** -/
structure HandlerEntry (H : Type) where
  id : HandlerId
  /-- The only processor it serves, or `none` for all of them. -/
  cpu : Option Nat
  handler : H
  deriving Repr

/-- The handler serves deliveries on this processor. -/
def HandlerEntry.serves {H : Type} (e : HandlerEntry H) (cpu : Nat) : Bool :=
  match e.cpu with
  | none => true
  | some owner => owner == cpu

/-- **One line**: its chain, its counters, and whether an unclaimed delivery was reported. -/
structure IrqLine (H : Type) where
  chain : List (HandlerEntry H) := []
  count : UInt64 := 0
  unhandled : UInt64 := 0
  reported : Bool := false

/-- The counters of a line. -/
structure IrqStats where
  /-- Deliveries that reached the chain. -/
  count : UInt64
  /-- Those among them that no handler claimed. -/
  unhandled : UInt64
  /-- The length of the chain. -/
  handlers : Nat
  deriving DecidableEq, Repr

/-- **The interrupt registry.** -/
structure Registry (H : Type) where
  lines : Vector (IrqLine H) 224
  /-- The identity of the next handler. -/
  nextId : UInt64 := 1

namespace Registry

variable {H : Type}

/-- The number of lines: one for each vector above the exceptions. -/
def lineCount : Nat := 224

/-- The registry without any handler. -/
def empty : Registry H :=
  { lines := Vector.replicate 224 {} }

/-- The line of a number, if there is one. -/
def line? (r : Registry H) (irq : UInt8) : Option (IrqLine H) :=
  r.lines[irq.toNat]?

/-- Change the line of a number, if there is one. -/
def modifyLine (r : Registry H) (irq : UInt8) (f : IrqLine H → IrqLine H) : Registry H :=
  if h : irq.toNat < 224 then { r with lines := r.lines.set irq.toNat (f r.lines[irq.toNat]) h }
  else r

/-- The handlers of a line, the newest first. -/
def chain (r : Registry H) (irq : UInt8) : List (HandlerEntry H) :=
  match r.line? irq with
  | none => []
  | some l => l.chain

/-- **Put a handler at the head of a chain**, for all processors or for one of them. A refusal
changes nothing and uses up no identity. -/
def install (r : Registry H) (irq : UInt8) (h : H) (cpu : Option Nat) :
    Except IrqError (HandlerId × Registry H) :=
  match r.line? irq with
  | none => .error (.invalidLine irq)
  | some _ =>
    let id : HandlerId := ⟨r.nextId⟩
    let r' := r.modifyLine irq fun l =>
      { l with chain := { id, cpu, handler := h } :: l.chain, reported := false }
    .ok (id, { r' with nextId := r.nextId + 1 })

/-- The first handler of an identity, and the chain without it. -/
def unlink (id : HandlerId) : List (HandlerEntry H) → Option (HandlerEntry H × List (HandlerEntry H))
  | [] => none
  | e :: rest =>
    if e.id = id then some (e, rest)
    else (unlink id rest).map fun found => (found.1, e :: found.2)

/-- **Take a handler out of its chain** and hand it back. -/
def remove (r : Registry H) (irq : UInt8) (id : HandlerId) : Except IrqError (H × Registry H) :=
  match r.line? irq with
  | none => .error (.invalidLine irq)
  | some l =>
    match unlink id l.chain with
    | none => .error .notInstalled
    | some (e, rest) => .ok (e.handler, r.modifyLine irq fun l => { l with chain := rest })

/-- The line has a handler of this identity. -/
def isInstalled (r : Registry H) (irq : UInt8) (id : HandlerId) : Bool :=
  (r.chain irq).any fun e => e.id == id

/-- **The counters of a line.** -/
def stats (r : Registry H) (irq : UInt8) : Option IrqStats :=
  (r.line? irq).map fun l =>
    { count := l.count, unhandled := l.unhandled, handlers := l.chain.length }

/-- Count a delivery on a line. -/
def countDelivery (r : Registry H) (irq : UInt8) : Registry H :=
  r.modifyLine irq fun l => { l with count := l.count + 1 }

/-- Count an unclaimed delivery on a line and take note that it was reported. -/
def countUnhandled (r : Registry H) (irq : UInt8) : Registry H :=
  r.modifyLine irq fun l => { l with unhandled := l.unhandled + 1, reported := true }

/-- An unclaimed delivery on this line was already reported. -/
def isReported (r : Registry H) (irq : UInt8) : Bool :=
  match r.line? irq with
  | none => false
  | some l => l.reported

/-- Report the next unclaimed delivery on this line again. -/
def rearm (r : Registry H) (irq : UInt8) : Registry H :=
  r.modifyLine irq fun l => { l with reported := false }

end Registry

end Interrupts
