import Interrupts.Bus

/-!
# The trampoline page

A processor that receives a STARTUP begins to execute in real mode at a page of low memory. An image
is copied there that climbs to long mode and then reads a block of parameters inside itself: the
page tables, the stack, the kernel's entry and descriptor table, and the processor's position. The
block is 42 bytes of packed little-endian fields, which the boot processor fills in anew for each
processor. The image has to fit the page, and the block has to fit the image.
-/

namespace Interrupts

/-- **What a starting processor is told.** -/
structure LaunchParams where
  /-- The physical address of the top-level page table. -/
  cr3 : UInt64 := 0
  /-- The end of the processor's stack. -/
  stackTop : UInt64 := 0
  /-- The address the processor calls. -/
  entry : UInt64 := 0
  /-- The position of the processor in the processor table, passed to the entry. -/
  cpuIndex : UInt64 := 0
  /-- The limit and the base of the kernel's descriptor table. -/
  gdtLimit : UInt16 := 0
  gdtBase : UInt64 := 0
  deriving DecidableEq, Repr

namespace LaunchParams

/-- The length of the block. -/
def size : Nat := 42

/-- **The block of parameters**, as it lies in memory. -/
def encode (p : LaunchParams) : Bytes :=
  Bytes.encodeLE 8 p.cr3.toNat ++ Bytes.encodeLE 8 p.stackTop.toNat ++
    Bytes.encodeLE 8 p.entry.toNat ++ Bytes.encodeLE 8 p.cpuIndex.toNat ++
    Bytes.encodeLE 2 p.gdtLimit.toNat ++ Bytes.encodeLE 8 p.gdtBase.toNat

/-- The parameters in a block. -/
def decode (bs : Bytes) : LaunchParams where
  cr3 := UInt64.ofNat (bs.field 0 8)
  stackTop := UInt64.ofNat (bs.field 8 8)
  entry := UInt64.ofNat (bs.field 16 8)
  cpuIndex := UInt64.ofNat (bs.field 24 8)
  gdtLimit := UInt16.ofNat (bs.field 32 2)
  gdtBase := UInt64.ofNat (bs.field 34 8)

end LaunchParams

/-- **The image that is copied to the page**, and where the block lies in it. -/
structure TrampolineImage where
  bytes : Bytes
  paramsOffset : UInt64
  deriving Repr

namespace Trampoline

/-- The physical address of the page, and the number that a STARTUP names it by. -/
def physAddress : UInt64 := 0x8000

@[inherit_doc physAddress] def startPage : UInt8 := 0x08

/-- The length of the page. -/
def pageSize : Nat := 4096

/-- Whether an image of some length fits the page. -/
def checkImage (length : Nat) : Except BringUpError Unit :=
  if pageSize < length then .error (.trampolineTooLarge length) else .ok ()

/-- Whether 32-bit code can load page tables at an address. -/
def checkPageTables (root : UInt64) : Except BringUpError Unit :=
  if UInt32.size ≤ root.toNat then .error (.pageTablesAbove4G root) else .ok ()

/-- Whether a block that ends at an offset lies inside an image of some length. -/
def checkBlock (length : Nat) (blockEnd : UInt64) : Except BringUpError Unit :=
  if length < blockEnd.toNat then .error (.trampolineTooLarge length) else .ok ()

/-- The page after an image was copied to its start. -/
def copied (page : Bytes) (image : TrampolineImage) : Bytes :=
  page.overwrite 0 image.bytes

/-- The page after a block of parameters was written into it. -/
def writeParams (page : Bytes) (paramsOffset : UInt64) (p : LaunchParams) : Bytes :=
  page.overwrite paramsOffset.toNat p.encode

/-- The parameters in a page. -/
def readParams (page : Bytes) (paramsOffset : UInt64) : LaunchParams :=
  LaunchParams.decode (page.drop paramsOffset.toNat)

/-- **Check an image**: it fits the page, and its block of parameters fits into it. An offset so
large that the end of the block has no address is a fault. -/
def check {m : Type → Type} [Monad m] [MonadExceptOf Stop m] (image : TrampolineImage) :
    m (Except BringUpError Unit) := do
  match checkImage image.bytes.length with
  | .error e => pure (.error e)
  | .ok () => do
    let blockEnd ← addWord64 image.paramsOffset (UInt64.ofNat LaunchParams.size)
    pure (checkBlock image.bytes.length blockEnd)

/-- **Copy an image to a page**, unless it does not fit. -/
def copyTo {m : Type → Type} [Monad m] [MonadExceptOf Stop m] (page : Bytes)
    (image : TrampolineImage) : m (Except BringUpError Bytes) := do
  match ← check image with
  | .error e => pure (.error e)
  | .ok () => pure (.ok (copied page image))

end Trampoline

end Interrupts
