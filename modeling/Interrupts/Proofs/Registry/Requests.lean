import Interrupts.Irq.Dispatch

/-!
# Requests to the registry, and what is seen of them

The registry is used by a sequence of requests: handlers are installed, removed and looked up,
deliveries are dispatched, lines are masked and unmasked. Handlers and controllers may do anything
to the world they live in, as long as they leave the registry alone; that world is a type `W`, and
they are programs over it.

A `Scene` is the world together with a record of what the registry does to it: every question to a
controller and every run of a handler is an event, in order, with the answer it got. `Registry.run`
carries out a list of requests and answers, for each of them, the reply and the events.
-/

namespace Interrupts

/-! ## What is seen -/

/-- **One run of a handler**: what it was given, and what it answered. -/
structure Invocation (H : Type) where
  /-- The handler that ran. -/
  handler : H
  /-- The line it was asked about. -/
  irq : UInt8
  /-- The frame it was given. -/
  given : Frame
  /-- Whether it claimed the delivery. -/
  verdict : Verdict
  /-- The frame it left. -/
  left : Frame

/-- **One thing the registry does to its surroundings.** -/
inductive LineEvent (H : Type) where
  /-- The controller named the line of a delivery, or none. -/
  | named (vector : UInt8) (irq : Option UInt8)
  /-- The controller told how many lines it has. -/
  | counted (lines : Nat)
  /-- A handler ran. -/
  | served (call : Invocation H)
  /-- The controller was told that a delivery is over. -/
  | ended (vector : UInt8) (irq : Option UInt8)
  /-- The controller was told to mask or to unmask a line. -/
  | masked (irq : UInt8)
  | unmasked (irq : UInt8)

/-- **The world, and what was seen of it.** -/
structure Scene (W H : Type) where
  world : W
  /-- What happened so far. -/
  events : List (LineEvent H) := []
  /-- The lines logged so far. -/
  lines : List Record := []

/-- The monad of a registry at work in a world. -/
abbrev SceneM (W H : Type) := StateM (Scene W H)

variable {W H C : Type}

namespace SceneM

/-- A step of the world, of which something is seen. -/
def observe {α : Type} (x : StateM W α) (seen : α → LineEvent H) : SceneM W H α := fun s =>
  let (a, w) := x s.world
  (a, { s with world := w, events := s.events ++ [seen a] })

instance [Logger (StateM W)] : Logger (SceneM W H) where
  log level text := fun s =>
    let (_, w) := (log level text : StateM W Unit) s.world
    ((), { s with world := w, lines := s.lines ++ [{ level, text }] })

instance [LineHandler H (StateM W)] : LineHandler H (SceneM W H) where
  name := LineHandler.name (StateM W)
  serve h irq f := observe (LineHandler.serve h irq f) fun answer =>
    .served { handler := h, irq, given := f, verdict := answer.1, left := answer.2 }

instance [Controller C (StateM W)] : Controller C (SceneM W H) where
  name := Controller.name (StateM W)
  lineCount c := observe (Controller.lineCount c) .counted
  currentIrq c vector := observe (Controller.currentIrq c vector) (.named vector)
  eoi c vector irq := observe (Controller.eoi c vector irq) fun _ => .ended vector irq
  maskLine c irq := observe (Controller.maskLine c irq) fun _ => .masked irq
  unmaskLine c irq := observe (Controller.unmaskLine c irq) fun _ => .unmasked irq

/-- A program of two parts runs one part after the other. -/
theorem bind_apply {α β : Type} (x : SceneM W H α) (f : α → SceneM W H β) (s : Scene W H) :
    (x >>= f) s = f (x s).1 (x s).2 :=
  rfl

end SceneM

/-! ## Requests -/

/-- **A request to the registry.** -/
inductive LineRequest (H C : Type) where
  /-- Install a handler on a line, for one processor or for all of them. -/
  | install (irq : UInt8) (handler : H) (cpu : Option Nat)
  /-- Take the handler with an identity off a line. -/
  | remove (irq : UInt8) (id : HandlerId)
  /-- Ask whether it is there. -/
  | isInstalled (irq : UInt8) (id : HandlerId)
  /-- Serve a delivery on a vector for a processor. -/
  | dispatch (controller : C) (vector : UInt8) (frame : Frame) (cpu : Nat)
  /-- Have the controller mask a line. -/
  | mask (controller : C) (irq : UInt8)
  /-- Have it unmask one. -/
  | unmask (controller : C) (irq : UInt8)

/-- The request may use up an identity. -/
def LineRequest.isInstall : LineRequest H C → Bool
  | .install .. => true
  | _ => false

/-- **The reply to a request.** -/
inductive LineReply (H : Type) where
  | installed (result : Except IrqError HandlerId)
  | removed (result : Except IrqError H)
  | isInstalled (answer : Bool)
  | dispatched (outcome : DispatchOutcome) (frame : Frame)
  | masked (result : Except IrqError Unit)
  | unmasked (result : Except IrqError Unit)

/-- **What is seen of one request.** -/
structure LineRecord (H C : Type) where
  request : LineRequest H C
  reply : LineReply H
  events : List (LineEvent H)

namespace Registry

variable [Logger (StateM W)] [LineHandler H (StateM W)] [Controller C (StateM W)]

/-- **Carry out one request**; answers the reply and the registry afterwards. -/
def answer (r : Registry H) : LineRequest H C → SceneM W H (LineReply H × Registry H)
  | .install irq h cpu => do
    let (result, r') ← r.installLogged irq h cpu
    pure (.installed result, r')
  | .remove irq id => do
    let (result, r') ← r.removeLogged irq id
    pure (.removed result, r')
  | .isInstalled irq id => pure (.isInstalled (r.isInstalled irq id), r)
  | .dispatch c vector f cpu => do
    let (outcome, f', r') ← r.dispatch c vector f cpu
    pure (.dispatched outcome f', r')
  | .mask c irq => do
    let result ← maskLine c irq
    pure (.masked result, r)
  | .unmask c irq => do
    let (result, r') ← r.unmaskLine c irq
    pure (.unmasked result, r')

/-- **Carry out requests in turn**; answers what was seen of each, and the registry and the world
afterwards. -/
def run (r : Registry H) : List (LineRequest H C) → W → List (LineRecord H C) × Registry H × W
  | [], w => ([], r, w)
  | request :: requests, w =>
    let ((reply, r'), s) := r.answer request { world := w }
    let (records, r'', w') := r'.run requests s.world
    ({ request, reply, events := s.events } :: records, r'', w')

theorem run_cons {r r' r'' : Registry H} {request : LineRequest H C}
    {requests : List (LineRequest H C)} {reply : LineReply H} {s : Scene W H} {w w' : W}
    {records : List (LineRecord H C)} (h : r.answer request { world := w } = ((reply, r'), s))
    (hrest : r'.run requests s.world = (records, r'', w')) :
    r.run (request :: requests) w
      = ({ request, reply, events := s.events } :: records, r'', w') := by
  unfold run
  rw [h]
  dsimp only
  rw [hrest]

end Registry

end Interrupts
