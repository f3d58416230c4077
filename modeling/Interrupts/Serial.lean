import Interrupts.Bus

/-!
# The serial console

The first serial port is a UART at eight ports from `0x3f8` on. A byte may be sent when the line
status says that the transmitter is empty; the wait for it has a patience, like every wait on
hardware that might not answer. An end of line is sent as a carriage return and a line feed, and a
backspace or delete as a backspace, a blank and a backspace, which wipes the last character.
-/

namespace Interrupts.Serial

/-- The ports: data, interrupt enable, FIFO control, line control, modem control, line status. -/
def dataPort : UInt16 := 0x3f8

@[inherit_doc dataPort] def interruptPort : UInt16 := 0x3f9

@[inherit_doc dataPort] def fifoPort : UInt16 := 0x3fa

@[inherit_doc dataPort] def linePort : UInt16 := 0x3fb

@[inherit_doc dataPort] def modemPort : UInt16 := 0x3fc

@[inherit_doc dataPort] def statusPort : UInt16 := 0x3fd

/-- The status bit of an empty transmitter. -/
def emptyBit : UInt8 := 0x20

/-- The number of polls a byte is given; no working transmitter comes near it. -/
def defaultPatience : Nat := 0x10000000000

/-- **The bytes sent for one byte of text.** -/
def onWire (b : UInt8) : Bytes :=
  if b = 0x08 ∨ b = 0x7f then [0x08, 0x20, 0x08]
  else if b = 0x0a then [0x0d, 0x0a]
  else [b]

variable {P : Type} {m : Type → Type} [Monad m] [PortBus P m]

/-- **Program the port**: 38400 bits per second, eight bits, no parity, with its FIFOs. -/
def program (ports : P) : m Unit := do
  PortBus.write8 ports interruptPort 0x00
  PortBus.write8 ports linePort 0x80
  PortBus.write8 ports dataPort 0x03
  PortBus.write8 ports interruptPort 0x00
  PortBus.write8 ports linePort 0x03
  PortBus.write8 ports fifoPort 0xc7
  PortBus.write8 ports modemPort 0x0b
  PortBus.write8 ports interruptPort 0x01

/-- Wait until the transmitter is empty. -/
def awaitEmpty [MonadExceptOf Stop m] (ports : P) : (patience : Nat) → m Unit
  | 0 => throw .stalled
  | patience + 1 => do
    let status ← PortBus.read8 ports statusPort
    if status &&& emptyBit != 0 then pure () else awaitEmpty ports patience

/-- Send bytes as they are. -/
def sendRaw [MonadExceptOf Stop m] (ports : P) : Bytes → m Unit
  | [] => pure ()
  | b :: bs => do
    awaitEmpty ports defaultPatience
    PortBus.write8 ports dataPort b
    sendRaw ports bs

/-- **Send a text.** -/
def write [MonadExceptOf Stop m] (ports : P) (text : String) : m Unit :=
  sendRaw ports (text.toUTF8.toList.flatMap onWire)

end Interrupts.Serial
