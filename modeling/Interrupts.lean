import Interrupts.Sim.Bay
import Interrupts.Sim.Cell
import Interrupts.Sim.Description
import Interrupts.Sim.Probe
import Interrupts.Sim.Report
import Interrupts.Sim.Wait
import Interrupts.Proofs.Registry.Chains
import Interrupts.Proofs.Registry.Deliveries
import Interrupts.Proofs.Registry.Refinement
import Interrupts.Proofs.Registry.Account
import Interrupts.Proofs.Processor.Flags
import Interrupts.Proofs.Processor.Moves
import Interrupts.Proofs.Discipline
import Interrupts.Proofs.Processor.Sequence
import Interrupts.Proofs.Processor.Rig
import Interrupts.Proofs.Processor.Settling
import Interrupts.Proofs.Processor.Calls
import Interrupts.Proofs.Processor.Online
import Interrupts.Proofs.Kernel.Conduct
import Interrupts.Proofs.Kernel.Primitives
import Interrupts.Proofs.Kernel.Watched
import Interrupts.Proofs.Kernel.Acknowledge
import Interrupts.Proofs.Kernel.Launching
import Interrupts.Proofs.Kernel.Settled
import Interrupts.Proofs.Config.Words
import Interrupts.Proofs.Processor.Parking
import Interrupts.Proofs.Fields
import Interrupts.Proofs.Acpi.Walk
import Interrupts.Proofs.Acpi.RoundTrip
import Interrupts.Proofs.Acpi.Search
import Interrupts.Proofs.Acpi.Lookup
import Interrupts.Proofs.IoApic.EntryBits
import Interrupts.Proofs.IoApic.Window
import Interrupts.Proofs.IoApic.Operations
import Interrupts.Proofs.IoApic.Probing
import Interrupts.Proofs.IoApic.PinArray
import Interrupts.Proofs.IoApic.LiveRoutes
import Interrupts.Proofs.IoApic.Overrides
import Interrupts.Proofs.IoApic.Overflow
import Interrupts.Proofs.Config.Choice
import Interrupts.Proofs.Config.Numerals
import Interrupts.Proofs.Config.CommandLine
import Interrupts.Proofs.Pic.Delivery
import Interrupts.Proofs.Pic.PerDelivery
import Interrupts.Proofs.LocalApic.InService
import Interrupts.Proofs.LocalApic.Numbering
import Interrupts.Proofs.Kernel.Deeds
import Interrupts.Proofs.Pic.Chips
import Interrupts.Proofs.Kernel.Registers
import Interrupts.Proofs.Kernel.Programming
import Interrupts.Proofs.Kernel.Apics
import Interrupts.Proofs.Kernel.Selection
import Interrupts.Proofs.Exception.Chronicle
import Interrupts.Proofs.Processor.Roster
import Interrupts.Proofs.Processor.LaunchRig
import Interrupts.Proofs.Processor.Aiming
import Interrupts.Proofs.LocalApic.LineCalls
import Interrupts.Proofs.LocalApic.Independence
import Interrupts.Proofs.Processor.Positions
import Interrupts.Proofs.Processor.Broadcast
import Interrupts.Proofs.Gates.Entry
import Interrupts.Proofs.Gates.History
import Interrupts.Proofs.Gates.Memory
import Interrupts.Proofs.LocalApic.Nesting
import Interrupts.Proofs.Pit.Channel
import Interrupts.Proofs.Pit.Delay
import Interrupts.Proofs.Kernel.Untimed
import Interrupts.Proofs.Kernel.Ticking
import Interrupts.Proofs.Kernel.Pacing
import Interrupts.Proofs.Kernel.Heard
import Interrupts.Proofs.Kernel.TickEvents
import Interrupts.Proofs.Kernel.Timekeeping
import Interrupts.Proofs.Checked
import Interrupts.Proofs.Pit.Readings
import Interrupts.Proofs.Pit.Frequency
import Interrupts.Proofs.Pic.Masks
import Interrupts.Proofs.LocalApic.TimerSetup
import Interrupts.Proofs.LocalApic.Calibration
import Interrupts.Proofs.Pic.Reprogramming
import Interrupts.Proofs.OneShot.Clients
import Interrupts.Proofs.Memory.Reach
import Interrupts.Proofs.Processor.TrampolinePage
import Interrupts.Proofs.Poll
import Interrupts.Proofs.IoApic.EntryFields
import Interrupts.Proofs.Config.Grammar
import Interrupts.Proofs.IoApic.Routes
