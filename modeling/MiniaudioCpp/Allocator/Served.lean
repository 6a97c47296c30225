import MiniaudioCpp.Allocator.Callbacks

/-!
# What a call does

`Served` lists all that one call can do: make a block, fail to, put another
block in the place of one, fail to, free a block, or read a header that its
block is too short for.  `served_of_step` needs only that the blocks and the
account of the client are in step; every invariant of the allocator is derived
from the list.
-/

namespace MiniaudioCpp.Allocator

open Foundation

/-! ## Headers -/

namespace Block

variable (block : Block) (x : Int32)

@[simp] theorem length_withHeader : (block.withHeader x).length = block.length := rfl

@[simp] theorem length_resized (length : ℕ) (bytes : Memory UInt8) :
    (block.resized length bytes).length = length := rfl

@[simp] theorem header_withHeader : (block.withHeader x).header = x := by
  rw [header, withHeader, Memory.loadWord_storeWord]
  rfl

/-- The bytes after the header stay. -/
theorem bytes_withHeader {i : ℕ} (hi : sizeofInt ≤ i) :
    (block.withHeader x).bytes i = block.bytes i :=
  Memory.storeWord_outside _ _ _ (by simpa [sizeofInt] using hi)

/-- The bytes that both lengths have room for stay. -/
theorem bytes_resized (length : ℕ) (bytes : Memory UInt8) {i : ℕ}
    (hi : i < min block.length length) : (block.resized length bytes).bytes i = block.bytes i :=
  if_pos hi

/-- A header that both lengths have room for survives a change of length. -/
theorem header_resized {block : Block} {length : ℕ} (hold : sizeofInt ≤ block.length)
    (hnew : sizeofInt ≤ length) (bytes : Memory UInt8) :
    (block.resized length bytes).header = block.header := by
  unfold header
  rw [Memory.loadWord_congr]
  intro k hk
  unfold sizeofInt at hold hnew
  exact block.bytes_resized length bytes (by omega)

end Block

/-! ## The callbacks on a live block -/

section Callbacks

variable {alignofMaxAlign : ℕ} {s : State} {i : ℕ} {block : Block}

theorem State.loadInt_eq (hblock : s.blocks.get? i = some block)
    (hlength : sizeofInt ≤ block.length) : s.loadInt ⟨i, 0⟩ = some block.header := by
  simp [loadInt, hblock, hlength, Block.header]

theorem State.loadInt_of_lt (hblock : s.blocks.get? i = some block)
    (hlength : block.length < sizeofInt) : s.loadInt ⟨i, 0⟩ = none := by
  simp [loadInt, hblock, hlength]

theorem State.storeInt_eq (hblock : s.blocks.get? i = some block)
    (hlength : sizeofInt ≤ block.length) (x : Int32) :
    s.storeInt ⟨i, 0⟩ x = some { s with blocks := s.blocks.put i (block.withHeader x) } := by
  simp [storeInt, hblock, hlength, Block.withHeader]

/-- A block behind a header. -/
theorem MemAllocCallback_eq {sz : UInt64} (hsz : sz.toNat + offset alignofMaxAlign < 2 ^ 64)
    (bytes : Memory UInt8) (s : State) :
    MemAllocCallback alignofMaxAlign sz (some bytes) s =
      some (some ⟨s.blocks.size, offset alignofMaxAlign⟩,
        ⟨s.blocks.alloc (Block.withHeader ⟨sz.toNat + offset alignofMaxAlign, bytes⟩
          (intOfSize sz)), s.sMemoryUsedByEngine + sz⟩) := by
  have hlength : (sz + UInt64.ofNat (offset alignofMaxAlign)).toNat =
      sz.toNat + offset alignofMaxAlign := by
    rw [UInt64.toNat_add, UInt64.toNat_ofNat']
    omega
  have hstore := State.storeInt_eq (s := ⟨s.blocks.alloc ⟨sz.toNat + offset alignofMaxAlign, bytes⟩,
    s.sMemoryUsedByEngine + sz⟩) (Arena.get?_alloc_self ..)
    (Nat.le_add_left_of_le (Nat.le_max_left ..)) (intOfSize sz)
  simp only [MemAllocCallback, ma_malloc, hlength, hstore, Option.map_some, Arena.put_alloc_size,
    BytePointer.add, Nat.zero_add]

/-- The header of the block is set to the new size whether or not the block
changes its length. -/
theorem MemReallocCallback_eq (hblock : s.blocks.get? i = some block)
    (hlength : sizeofInt ≤ block.length) (sz : UInt64) (outcome : Option (Memory UInt8)) :
    MemReallocCallback alignofMaxAlign (some ⟨i, offset alignofMaxAlign⟩) sz outcome s =
      some (match outcome with
        | none => (none, ⟨s.blocks.put i (block.withHeader (intOfSize sz)),
            s.sMemoryUsedByEngine + (sz - sizeOfInt block.header)⟩)
        | some bytes => (some ⟨s.blocks.size, offset alignofMaxAlign⟩,
            ⟨(s.blocks.free i).alloc ((block.withHeader (intOfSize sz)).resized sz.toNat bytes),
              s.sMemoryUsedByEngine + (sz - sizeOfInt block.header)⟩)) := by
  have hlt := Arena.lt_size_of_get? hblock
  have hstore := State.storeInt_eq
    (s := ⟨s.blocks, s.sMemoryUsedByEngine + (sz - sizeOfInt block.header)⟩) hblock hlength
    (intOfSize sz)
  simp only [MemReallocCallback, BytePointer.sub, Nat.sub_self, State.loadInt_eq hblock hlength,
    Option.bind_some, hstore, Option.map_some, Option.some.injEq]
  cases outcome with
  | none => rfl
  | some bytes =>
      simp only [ma_realloc, Arena.get?_put_self hlt, Option.getD_some, Arena.free_put,
        Arena.size_put, BytePointer.add, Nat.zero_add]

theorem MemReallocCallback_of_lt (hblock : s.blocks.get? i = some block)
    (hlength : block.length < sizeofInt) (sz : UInt64) (outcome : Option (Memory UInt8)) :
    MemReallocCallback alignofMaxAlign (some ⟨i, offset alignofMaxAlign⟩) sz outcome s = none := by
  simp [MemReallocCallback, BytePointer.sub, State.loadInt_of_lt hblock hlength]

theorem MemFreeCallback_eq (hblock : s.blocks.get? i = some block)
    (hlength : sizeofInt ≤ block.length) :
    MemFreeCallback alignofMaxAlign (some ⟨i, offset alignofMaxAlign⟩) s =
      some ⟨s.blocks.free i, s.sMemoryUsedByEngine - sizeOfInt block.header⟩ := by
  simp [MemFreeCallback, BytePointer.sub, State.loadInt_eq hblock hlength, ma_free]

theorem MemFreeCallback_of_lt (hblock : s.blocks.get? i = some block)
    (hlength : block.length < sizeofInt) :
    MemFreeCallback alignofMaxAlign (some ⟨i, offset alignofMaxAlign⟩) s = none := by
  simp [MemFreeCallback, BytePointer.sub, State.loadInt_of_lt hblock hlength]

end Callbacks

/-! ## One call -/

/-- The size and the outcome of a call that makes a new block: a reallocation of
null does. -/
def Call.allocation : Call → Option (UInt64 × Option (Memory UInt8))
  | .MemAllocCallback sz outcome => some (sz, outcome)
  | .MemReallocCallback none sz outcome => some (sz, outcome)
  | _ => none

theorem Call.allocation_cases {sz : UInt64} {outcome : Option (Memory UInt8)} (call : Call)
    (h : call.allocation = some (sz, outcome)) :
    call = .MemAllocCallback sz outcome ∨ call = .MemReallocCallback none sz outcome := by
  unfold Call.allocation at h
  split at h
  · obtain ⟨rfl, rfl⟩ := h
    exact Or.inl rfl
  · obtain ⟨rfl, rfl⟩ := h
    exact Or.inr rfl
  · simp at h

variable {alignofMaxAlign : ℕ} {t t' : Tracked} {call : Call} {answer : Answer}

/-- All that a call can do.  `i` is the block of the pointer passed to it, `old`
the size that the client asked for last. -/
inductive Served (alignofMaxAlign : ℕ) (t : Tracked) : Call → Tracked → Answer → Prop
  | allocFails {call : Call} {sz : UInt64} (hcall : call.allocation = some (sz, none)) :
      Served alignofMaxAlign t call t (.pointer none)
  | alloc {call : Call} {sz : UInt64} {bytes : Memory UInt8}
      (hcall : call.allocation = some (sz, some bytes)) :
      Served alignofMaxAlign t call
        ⟨⟨t.state.blocks.alloc (Block.withHeader ⟨sz.toNat + offset alignofMaxAlign, bytes⟩
          (intOfSize sz)), t.state.sMemoryUsedByEngine + sz⟩, t.requested.alloc sz⟩
        (.pointer (some ⟨t.state.blocks.size, offset alignofMaxAlign⟩))
  | reallocFails {i : ℕ} {block : Block} {old : UInt64} (sz : UInt64)
      (hold : t.requested.get? i = some old) (hblock : t.state.blocks.get? i = some block)
      (hlength : sizeofInt ≤ block.length) :
      Served alignofMaxAlign t (.MemReallocCallback (some ⟨i, offset alignofMaxAlign⟩) sz none)
        ⟨⟨t.state.blocks.put i (block.withHeader (intOfSize sz)),
          t.state.sMemoryUsedByEngine + (sz - sizeOfInt block.header)⟩, t.requested⟩
        (.pointer none)
  | realloc {i : ℕ} {block : Block} {old : UInt64} (sz : UInt64) (bytes : Memory UInt8)
      (hold : t.requested.get? i = some old) (hblock : t.state.blocks.get? i = some block)
      (hlength : sizeofInt ≤ block.length) :
      Served alignofMaxAlign t
        (.MemReallocCallback (some ⟨i, offset alignofMaxAlign⟩) sz (some bytes))
        ⟨⟨(t.state.blocks.free i).alloc ((block.withHeader (intOfSize sz)).resized sz.toNat bytes),
          t.state.sMemoryUsedByEngine + (sz - sizeOfInt block.header)⟩,
          (t.requested.free i).alloc sz⟩
        (.pointer (some ⟨t.state.blocks.size, offset alignofMaxAlign⟩))
  | freeNull : Served alignofMaxAlign t (.MemFreeCallback none) t .freed
  | free {i : ℕ} {block : Block} {old : UInt64} (hold : t.requested.get? i = some old)
      (hblock : t.state.blocks.get? i = some block) (hlength : sizeofInt ≤ block.length) :
      Served alignofMaxAlign t (.MemFreeCallback (some ⟨i, offset alignofMaxAlign⟩))
        ⟨⟨t.state.blocks.free i, t.state.sMemoryUsedByEngine - sizeOfInt block.header⟩,
          t.requested.free i⟩ .freed
  | undefined {call : Call} {i : ℕ} {block : Block} {old : UInt64}
      (hcall : (∃ sz outcome,
          call = .MemReallocCallback (some ⟨i, offset alignofMaxAlign⟩) sz outcome) ∨
        call = .MemFreeCallback (some ⟨i, offset alignofMaxAlign⟩))
      (hold : t.requested.get? i = some old) (hblock : t.state.blocks.get? i = some block)
      (hlength : block.length < sizeofInt) :
      Served alignofMaxAlign t call t .undefined

/-- What the guard says about a pointer. -/
theorem Tracked.exists_of_live {p : BytePointer} (h : t.Live alignofMaxAlign (some p) = true) :
    ∃ i old, p = ⟨i, offset alignofMaxAlign⟩ ∧ t.requested.get? i = some old := by
  simp only [Live, Option.all_some, Bool.and_eq_true, beq_iff_eq,
    Option.isSome_iff_exists] at h
  obtain ⟨hbyte, old, hold⟩ := h
  exact ⟨p.block, old, by rw [← hbyte], hold⟩

/-- A call that makes a new block. -/
theorem served_of_allocation {sz : UInt64} {outcome : Option (Memory UInt8)}
    (hcall : call.allocation = some (sz, outcome))
    (hsz : sz.toNat + offset alignofMaxAlign < 2 ^ 64)
    (hallowed : t.allowed alignofMaxAlign call = true)
    (hstep : allocatorStep alignofMaxAlign t call = some (t', answer)) :
    Served alignofMaxAlign t call t' answer := by
  rw [allocatorStep, if_pos hallowed] at hstep
  rcases call.allocation_cases hcall with rfl | rfl
  -- the two calls are served by one function, and go into the account alike
  all_goals
    cases outcome with
    | none =>
        obtain ⟨rfl, rfl⟩ := hstep
        exact .allocFails rfl
    | some bytes =>
        simp only [serve, MemReallocCallback, MemAllocCallback_eq hsz, Option.map_some] at hstep
        obtain ⟨rfl, rfl⟩ := hstep
        exact .alloc rfl

/-- One call, where the blocks and the client's account are in step. -/
theorem served_of_step {R : UInt64 → Block → Prop}
    (hrelated : Arena.Related R t.requested t.state.blocks)
    (hstep : allocatorStep alignofMaxAlign t call = some (t', answer)) :
    Served alignofMaxAlign t call t' answer := by
  have hallowed : t.allowed alignofMaxAlign call = true := by
    unfold allocatorStep at hstep
    split at hstep
    · assumption
    · simp at hstep
  cases call with
  | MemAllocCallback sz outcome =>
      exact served_of_allocation rfl (of_decide_eq_true hallowed) hallowed hstep
  | MemReallocCallback p sz outcome =>
      obtain ⟨hlive, hsz⟩ := Bool.and_eq_true_iff.mp hallowed
      cases p with
      | none => exact served_of_allocation rfl (of_decide_eq_true hsz) hallowed hstep
      | some p =>
          obtain ⟨i, old, rfl, hold⟩ := Tracked.exists_of_live hlive
          obtain ⟨block, hblock, _⟩ := hrelated.exists_right hold
          rw [allocatorStep, if_pos hallowed, serve] at hstep
          by_cases hlength : sizeofInt ≤ block.length
          · rw [MemReallocCallback_eq hblock hlength] at hstep
            cases outcome with
            | none =>
                obtain ⟨rfl, rfl⟩ := hstep
                exact .reallocFails sz hold hblock hlength
            | some bytes =>
                obtain ⟨rfl, rfl⟩ := hstep
                exact .realloc sz bytes hold hblock hlength
          · rw [MemReallocCallback_of_lt hblock (by omega)] at hstep
            obtain ⟨rfl, rfl⟩ := hstep
            exact .undefined (Or.inl ⟨sz, outcome, rfl⟩) hold hblock (by omega)
  | MemFreeCallback p =>
      cases p with
      | none =>
          rw [allocatorStep, if_pos hallowed] at hstep
          obtain ⟨rfl, rfl⟩ := hstep
          exact .freeNull
      | some p =>
          obtain ⟨i, old, rfl, hold⟩ := Tracked.exists_of_live hallowed
          obtain ⟨block, hblock, _⟩ := hrelated.exists_right hold
          rw [allocatorStep, if_pos hallowed, serve] at hstep
          by_cases hlength : sizeofInt ≤ block.length
          · rw [MemFreeCallback_eq hblock hlength] at hstep
            obtain ⟨rfl, rfl⟩ := hstep
            exact .free hold hblock hlength
          · rw [MemFreeCallback_of_lt hblock (by omega)] at hstep
            obtain ⟨rfl, rfl⟩ := hstep
            exact .undefined (Or.inr rfl) hold hblock (by omega)

end MiniaudioCpp.Allocator
