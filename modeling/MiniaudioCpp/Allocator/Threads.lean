import MiniaudioCpp.Allocator.Capacity
import MiniaudioCpp.Foundation.Threads

/-!
# The callbacks called by several threads

The counter is a `std::atomic`, since miniaudio allocates on whichever thread
needs memory.  Between the steps of one callback the others may run: another
thread may change the counter, or allocate, while the header of a new block is
not written yet.  Here each callback is the code of its atomic actions
(`exec_code`), and a client passes a block to at most one call at a time.
-/

namespace MiniaudioCpp.Allocator

open Foundation

/-! ## The callbacks as code -/

namespace Callback

/-- `*(int*)buffer`; where that is not in the block there is no defined
effect. -/
def loadInt (buffer : BytePointer) (next : Int32 → Code State Answer) : Code State Answer :=
  .act id fun s =>
    match s.loadInt buffer with
    | some x => next x
    | none => .ret .undefined

/-- `*(int*)buffer = x`. -/
def storeInt (buffer : BytePointer) (x : Int32) (next : Code State Answer) : Code State Answer :=
  .act (fun s => (s.storeInt buffer x).getD s) fun s =>
    match s.storeInt buffer x with
    | some _ => next
    | none => .ret .undefined

/-- `allocatedData += x`. -/
def add (x : UInt64) (next : Code State Answer) : Code State Answer :=
  .act (fun s => { s with sMemoryUsedByEngine := s.sMemoryUsedByEngine + x }) fun _ => next

/-- `allocatedData -= x`. -/
def subtract (x : UInt64) (next : Code State Answer) : Code State Answer :=
  .act (fun s => { s with sMemoryUsedByEngine := s.sMemoryUsedByEngine - x }) fun _ => next

/-- `ma_malloc`. -/
def malloc (sz : UInt64) (outcome : Option (Memory UInt8))
    (next : Option BytePointer → Code State Answer) : Code State Answer :=
  .act (fun s => (ma_malloc sz outcome s).2) fun s => next (ma_malloc sz outcome s).1

/-- `ma_realloc`. -/
def realloc (p : BytePointer) (sz : UInt64) (outcome : Option (Memory UInt8))
    (next : Option BytePointer → Code State Answer) : Code State Answer :=
  .act (fun s => (ma_realloc p sz outcome s).2) fun s => next (ma_realloc p sz outcome s).1

/-- `ma_free`. -/
def free (p : BytePointer) (next : Code State Answer) : Code State Answer :=
  .act (fun s => ma_free p s) fun _ => next

end Callback

section Code

variable (alignofMaxAlign : ℕ)

/-- The code of `MemFreeCallback`. -/
def MemFreeCallback.code (p : Option BytePointer) : Code State Answer :=
  match p with
  | none => .ret .freed
  | some p =>
      let buffer := p.sub (offset alignofMaxAlign)
      Callback.loadInt buffer fun sizeBox =>
        Callback.subtract (sizeOfInt sizeBox) (Callback.free buffer (.ret .freed))

/-- The code of `MemAllocCallback`. -/
def MemAllocCallback.code (sz : UInt64) (outcome : Option (Memory UInt8)) : Code State Answer :=
  Callback.malloc (sz + UInt64.ofNat (offset alignofMaxAlign)) outcome fun buffer =>
    match buffer with
    | none => .ret (.pointer none)
    | some buffer =>
        Callback.add sz
          (Callback.storeInt buffer (intOfSize sz)
            (.ret (.pointer (some (buffer.add (offset alignofMaxAlign))))))

/-- The code of `MemReallocCallback`. -/
def MemReallocCallback.code (p : Option BytePointer) (sz : UInt64)
    (outcome : Option (Memory UInt8)) : Code State Answer :=
  match p with
  | none => MemAllocCallback.code alignofMaxAlign sz outcome
  | some p =>
      let buffer := p.sub (offset alignofMaxAlign)
      Callback.loadInt buffer fun sizeBox =>
        Callback.add (sz - sizeOfInt sizeBox)
          (Callback.storeInt buffer (intOfSize sz)
            (Callback.realloc buffer sz outcome fun newBuffer =>
              .ret (.pointer (newBuffer.map (BytePointer.add · (offset alignofMaxAlign))))))

/-- The code of a call. -/
def Call.code : Call → Code State Answer
  | .MemAllocCallback sz outcome => MemAllocCallback.code alignofMaxAlign sz outcome
  | .MemReallocCallback p sz outcome => MemReallocCallback.code alignofMaxAlign p sz outcome
  | .MemFreeCallback p => MemFreeCallback.code alignofMaxAlign p

end Code

section Sequential

variable {alignofMaxAlign : ℕ} {s : State}

theorem exec_MemFreeCallback (p : Option BytePointer) :
    (MemFreeCallback alignofMaxAlign p s).elim
      (((MemFreeCallback.code alignofMaxAlign p).exec s).1 = .undefined)
      fun s' => (MemFreeCallback.code alignofMaxAlign p).exec s = (.freed, s') := by
  cases p with
  | none => rfl
  | some p =>
      simp only [MemFreeCallback, MemFreeCallback.code, Callback.loadInt, Code.exec]
      cases s.loadInt (p.sub (offset alignofMaxAlign)) with
      | none => rfl
      | some sizeBox => rfl

theorem exec_MemAllocCallback (sz : UInt64) (outcome : Option (Memory UInt8)) :
    (MemAllocCallback alignofMaxAlign sz outcome s).elim
      (((MemAllocCallback.code alignofMaxAlign sz outcome).exec s).1 = .undefined)
      fun (p, s') => (MemAllocCallback.code alignofMaxAlign sz outcome).exec s = (.pointer p, s') := by
  cases outcome with
  | none => rfl
  | some bytes =>
      simp only [MemAllocCallback, MemAllocCallback.code, Callback.malloc, ma_malloc, Code.exec,
        Callback.add, Callback.storeInt]
      generalize State.storeInt _ _ _ = stored
      cases stored with
      | none => rfl
      | some s' => rfl

theorem exec_MemReallocCallback (p : Option BytePointer) (sz : UInt64)
    (outcome : Option (Memory UInt8)) :
    (MemReallocCallback alignofMaxAlign p sz outcome s).elim
      (((MemReallocCallback.code alignofMaxAlign p sz outcome).exec s).1 = .undefined)
      fun (p', s') =>
        (MemReallocCallback.code alignofMaxAlign p sz outcome).exec s = (.pointer p', s') := by
  cases p with
  | none => exact exec_MemAllocCallback sz outcome
  | some p =>
      simp only [MemReallocCallback, MemReallocCallback.code, Callback.loadInt, Code.exec]
      cases s.loadInt (p.sub (offset alignofMaxAlign)) with
      | none => rfl
      | some sizeBox =>
          simp only [Option.bind_some, Callback.add, Callback.storeInt, Code.exec, id]
          generalize State.storeInt _ _ _ = stored
          cases stored with
          | none => rfl
          | some s' =>
              cases outcome with
              | none => rfl
              | some bytes => rfl

/-- With nothing in between, the code does what the callback does. -/
theorem exec_code (call : Call) :
    (serve alignofMaxAlign s call).elim
      (((call.code alignofMaxAlign).exec s).1 = .undefined)
      fun served => (call.code alignofMaxAlign).exec s = served := by
  cases call with
  | MemAllocCallback sz outcome =>
      have h := @exec_MemAllocCallback alignofMaxAlign s sz outcome
      simp only [serve, Call.code]
      cases hserve : MemAllocCallback alignofMaxAlign sz outcome s <;> simpa [hserve] using h
  | MemReallocCallback p sz outcome =>
      have h := @exec_MemReallocCallback alignofMaxAlign s p sz outcome
      simp only [serve, Call.code]
      cases hserve : MemReallocCallback alignofMaxAlign p sz outcome s <;> simpa [hserve] using h
  | MemFreeCallback p =>
      have h := @exec_MemFreeCallback alignofMaxAlign s p
      simp only [serve, Call.code]
      cases hserve : MemFreeCallback alignofMaxAlign p s <;> simpa [hserve] using h

end Sequential

/-! ## The clients -/

/-- A block that the clients were given: its size, and whether a call is now
working on it. -/
structure Holding where
  size : UInt64
  lent : Bool
  deriving DecidableEq, Repr

/-- The blocks that the clients were given. -/
abbrev Account := ℕ → Option Holding

/-- The pointer passed to a call. -/
def Call.argument : Call → Option BytePointer
  | .MemAllocCallback _ _ => none
  | .MemReallocCallback p _ _ => p
  | .MemFreeCallback p => p

/-- The account once a call has returned.  A call that did not put another block
in the place of the one passed to it, nor freed it, gives it back. -/
def Account.returned (account : Account) : Call → Answer → Account
  | .MemAllocCallback sz _, .pointer (some p) => Function.update account p.block (some ⟨sz, false⟩)
  | .MemReallocCallback none sz _, .pointer (some p) =>
      Function.update account p.block (some ⟨sz, false⟩)
  | .MemReallocCallback (some p) sz _, .pointer (some q) =>
      Function.update (Function.update account p.block none) q.block (some ⟨sz, false⟩)
  | .MemFreeCallback (some p), .freed => Function.update account p.block none
  | call, _ =>
      match call.argument with
      | none => account
      | some p =>
          Function.update account p.block ((account p.block).map fun held => ⟨held.size, false⟩)

/-- A client passes null, or a pointer that a callback returned to a block that
no other call is working on. -/
def client (alignofMaxAlign : ℕ) : Client Account Call Answer where
  may account call :=
    (call.argument.all fun p =>
      p.byte == offset alignofMaxAlign && (account p.block).any fun held => !held.lent) &&
    call.size?.all fun sz => decide (sz.toNat + offset alignofMaxAlign < 2 ^ 64)
  called account call :=
    match call.argument with
    | none => account
    | some p =>
        Function.update account p.block ((account p.block).map fun held => ⟨held.size, true⟩)
  returned := Account.returned

/-! ## The machines -/

section Machines

variable (alignofMaxAlign : ℕ) (ι : Type*)

/-- Threads in the middle of the callbacks' code. -/
abbrev Running := Threads ι State Account (Code State Answer) Call

/-- Threads whose calls run at one instant each. -/
abbrev Instant := Threads ι Tracked Account (Call ⊕ Answer) Call

variable {ι} [DecidableEq ι]

/-- The interleavings of the callbacks. -/
def callbackStep : Running ι → Event ι Call →
    Option (Running ι × Option (Mark ι Call Answer)) :=
  threadStep (codeOperation (Call.code alignofMaxAlign)) (client alignofMaxAlign)

/-- The interleavings of calls that run at one instant each. -/
def instantStep : Instant ι → Event ι Call →
    Option (Instant ι × Option (Mark ι Call Answer)) :=
  threadStep (atomicOperation (allocatorStep alignofMaxAlign)) (client alignofMaxAlign)

end Machines

end MiniaudioCpp.Allocator
