import MiniaudioCpp.Foundation.Arena
import MiniaudioCpp.Foundation.Bytes

/-!
# The tracking allocation callbacks

`gMAAllocationCallbacks` puts a header of `offset` bytes in front of each block
it hands out and keeps the requested size, cast to an `int`, at its start.
`sMemoryUsedByEngine` counts the bytes in use.

A block is its length and its bytes, and a pointer names a block and a byte of
it.  A read or write of the header that is not within the block has no defined
effect: there the functions answer `none`.  Whether `ma_malloc` or `ma_realloc`
succeeds is part of a call, with the bytes the new memory happens to hold.
-/

namespace MiniaudioCpp.Allocator

open Foundation

/-- `sizeof(int)`. -/
def sizeofInt : ℕ := 4

/-- `offset`, for an `alignof(max_align_t)`. -/
def offset (alignofMaxAlign : ℕ) : ℕ := max sizeofInt alignofMaxAlign

/-- A block of memory. -/
structure Block where
  length : ℕ
  bytes : Memory UInt8
  deriving Inhabited

/-- A block of another length that starts with the same bytes. -/
def Block.resized (old : Block) (length : ℕ) (bytes : Memory UInt8) : Block :=
  ⟨length, fun i => if i < min old.length length then old.bytes i else bytes i⟩

/-- A `char*`: a block, and a byte of it. -/
structure BytePointer where
  block : ℕ
  byte : ℕ
  deriving DecidableEq, Repr

/-- `(char*)p + n`. -/
def BytePointer.add (p : BytePointer) (n : ℕ) : BytePointer := { p with byte := p.byte + n }

/-- `(char*)p - n`. -/
def BytePointer.sub (p : BytePointer) (n : ℕ) : BytePointer := { p with byte := p.byte - n }

/-- `(int)sz`. -/
def intOfSize (sz : UInt64) : Int32 := sz.toUInt32.toInt32

/-- An `int` in 64-bit unsigned arithmetic. -/
def sizeOfInt (x : Int32) : UInt64 := x.toInt64.toUInt64

/-- What the header of a block holds. -/
def Block.header (block : Block) : Int32 := (block.bytes.loadWord 0).toInt32

/-- The block with another header. -/
def Block.withHeader (block : Block) (x : Int32) : Block :=
  { block with bytes := block.bytes.storeWord 0 x.toUInt32 }

/-- The live blocks, and the counter. -/
structure State where
  blocks : Arena Block
  sMemoryUsedByEngine : UInt64

namespace State

/-- Nothing was allocated. -/
def empty : State := ⟨Arena.empty, 0⟩

/-- `*(int*)buffer`. -/
def loadInt (s : State) (buffer : BytePointer) : Option Int32 :=
  (s.blocks.get? buffer.block).bind fun block =>
    if buffer.byte + sizeofInt ≤ block.length then some (block.bytes.loadWord buffer.byte).toInt32
    else none

/-- `*(int*)buffer = x`. -/
def storeInt (s : State) (buffer : BytePointer) (x : Int32) : Option State :=
  (s.blocks.get? buffer.block).bind fun block =>
    if buffer.byte + sizeofInt ≤ block.length then
      let block := { block with bytes := block.bytes.storeWord buffer.byte x.toUInt32 }
      some { s with blocks := s.blocks.put buffer.block block }
    else none

end State

/-! ## The functions of miniaudio -/

/-- `ma_malloc`. -/
def ma_malloc (sz : UInt64) (outcome : Option (Memory UInt8)) (s : State) :
    Option BytePointer × State :=
  match outcome with
  | none => (none, s)
  | some bytes => (some ⟨s.blocks.size, 0⟩, { s with blocks := s.blocks.alloc ⟨sz.toNat, bytes⟩ })

/-- `ma_realloc`: a new block with the first bytes of the old one, which is
freed; if it fails nothing changes. -/
def ma_realloc (p : BytePointer) (sz : UInt64) (outcome : Option (Memory UInt8)) (s : State) :
    Option BytePointer × State :=
  match outcome with
  | none => (none, s)
  | some bytes =>
      let old := (s.blocks.get? p.block).getD default
      (some ⟨s.blocks.size, 0⟩,
        { s with blocks := (s.blocks.free p.block).alloc (old.resized sz.toNat bytes) })

/-- `ma_free`. -/
def ma_free (p : BytePointer) (s : State) : State :=
  { s with blocks := s.blocks.free p.block }

/-! ## The callbacks -/

section Callbacks

variable (alignofMaxAlign : ℕ)

/-- `MemFreeCallback`. -/
def MemFreeCallback (p : Option BytePointer) (s : State) : Option State :=
  match p with
  | none => some s
  | some p =>
      let buffer := p.sub (offset alignofMaxAlign)
      (s.loadInt buffer).map fun sizeBox =>
        ma_free buffer
          { s with sMemoryUsedByEngine := s.sMemoryUsedByEngine - sizeOfInt sizeBox }

/-- `MemAllocCallback`. -/
def MemAllocCallback (sz : UInt64) (outcome : Option (Memory UInt8)) (s : State) :
    Option (Option BytePointer × State) :=
  match ma_malloc (sz + UInt64.ofNat (offset alignofMaxAlign)) outcome s with
  | (none, s) => some (none, s)
  | (some buffer, s) =>
      let s := { s with sMemoryUsedByEngine := s.sMemoryUsedByEngine + sz }
      (s.storeInt buffer (intOfSize sz)).map fun s =>
        (some (buffer.add (offset alignofMaxAlign)), s)

/-- `MemReallocCallback`: the counter and the header are updated first, and the
header is left out of the new size. -/
def MemReallocCallback (p : Option BytePointer) (sz : UInt64) (outcome : Option (Memory UInt8))
    (s : State) : Option (Option BytePointer × State) :=
  match p with
  | none => MemAllocCallback alignofMaxAlign sz outcome s
  | some p =>
      let buffer := p.sub (offset alignofMaxAlign)
      (s.loadInt buffer).bind fun sizeBox =>
        let s :=
          { s with sMemoryUsedByEngine := s.sMemoryUsedByEngine + (sz - sizeOfInt sizeBox) }
        (s.storeInt buffer (intOfSize sz)).map fun s =>
          match ma_realloc buffer sz outcome s with
          | (none, s) => (none, s)
          | (some newBuffer, s) => (some (newBuffer.add (offset alignofMaxAlign)), s)

end Callbacks

/-! ## The machine -/

/-- A call of a callback, with what the function of miniaudio behind it does. -/
inductive Call
  | MemAllocCallback (sz : UInt64) (outcome : Option (Memory UInt8))
  | MemReallocCallback (p : Option BytePointer) (sz : UInt64) (outcome : Option (Memory UInt8))
  | MemFreeCallback (p : Option BytePointer)

/-- What a call hands back; `undefined` where it touched memory outside the
block. -/
inductive Answer
  | pointer (p : Option BytePointer)
  | freed
  | undefined
  deriving DecidableEq, Repr

/-- The callback of a call. -/
def serve (alignofMaxAlign : ℕ) (s : State) : Call → Option (Answer × State)
  | .MemAllocCallback sz outcome =>
      (MemAllocCallback alignofMaxAlign sz outcome s).map fun (p, s) => (.pointer p, s)
  | .MemReallocCallback p sz outcome =>
      (MemReallocCallback alignofMaxAlign p sz outcome s).map fun (p, s) => (.pointer p, s)
  | .MemFreeCallback p => (MemFreeCallback alignofMaxAlign p s).map fun s => (.freed, s)

/-- The allocator with the account its client keeps: for each live block, the
size that was last requested for it with success. -/
structure Tracked where
  state : State
  requested : Arena UInt64

namespace Tracked

/-- Nothing was allocated. -/
def empty : Tracked := ⟨State.empty, Arena.empty⟩

/-- A pointer that a client may pass: null, or one to a live block that a
callback returned. -/
def Live (alignofMaxAlign : ℕ) (t : Tracked) (p : Option BytePointer) : Bool :=
  p.all fun p => p.byte == offset alignofMaxAlign && (t.requested.get? p.block).isSome

/-- The calls a client may make. -/
def allowed (alignofMaxAlign : ℕ) (t : Tracked) : Call → Bool
  | .MemAllocCallback sz _ => sz.toNat + offset alignofMaxAlign < 2 ^ 64
  | .MemReallocCallback p sz _ =>
      t.Live alignofMaxAlign p && sz.toNat + offset alignofMaxAlign < 2 ^ 64
  | .MemFreeCallback p => t.Live alignofMaxAlign p

end Tracked

/-- The client's account after a call that was answered. -/
def requestedAfter (requested : Arena UInt64) : Call → Answer → Arena UInt64
  | .MemAllocCallback sz _, .pointer (some _) => requested.alloc sz
  | .MemReallocCallback none sz _, .pointer (some _) => requested.alloc sz
  | .MemReallocCallback (some p) sz _, .pointer (some _) => (requested.free p.block).alloc sz
  | .MemFreeCallback (some p), .freed => requested.free p.block
  | _, _ => requested

/-- One call. -/
def allocatorStep (alignofMaxAlign : ℕ) (t : Tracked) (call : Call) : Option (Tracked × Answer) :=
  if t.allowed alignofMaxAlign call then
    match serve alignofMaxAlign t.state call with
    | none => some (t, .undefined)
    | some (answer, s) => some (⟨s, requestedAfter t.requested call answer⟩, answer)
  else none

end MiniaudioCpp.Allocator
