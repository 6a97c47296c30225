import MiniaudioCpp.Allocator.Served
import MiniaudioCpp.Foundation.Machine

/-!
# Capacity and content

A pointer handed out for a request of `sz` bytes should have `sz` bytes behind
it, and after a reallocation the first of them should be what the old block
held.  An allocation asks for `offset` bytes more than that; a reallocation
asks for `sz` bytes, header included, so its pointer has `offset` bytes fewer
(`realloc_leaves`).  The promise is kept in exactly the runs in which no live
block is reallocated with success (`capacity_iff_no_realloc`).
-/

namespace MiniaudioCpp.Allocator

open Foundation

variable {alignofMaxAlign : ℕ} {t t' : Tracked} {call : Call} {answer : Answer}

/-! ## The promise and the condition -/

/-- The size that a call asks for. -/
def Call.size? : Call → Option UInt64
  | .MemAllocCallback sz _ => some sz
  | .MemReallocCallback _ sz _ => some sz
  | .MemFreeCallback _ => none

/-- A byte of a live block. -/
def State.loadByte (s : State) (p : BytePointer) : Option UInt8 :=
  (s.blocks.get? p.block).bind fun block =>
    if p.byte < block.length then some (block.bytes p.byte) else none

/-- The block of a pointer extends `n` bytes past it. -/
def State.Extends (s : State) (p : BytePointer) (n : ℕ) : Prop :=
  ∃ block, s.blocks.get? p.block = some block ∧ p.byte + n ≤ block.length

/-- What a call promises about a pointer that it returns. -/
structure Roomy (t : Tracked) (call : Call) (answer : Answer) (t' : Tracked) : Prop where
  capacity : ∀ sz p, call.size? = some sz → answer = .pointer (some p) →
    t'.state.Extends p sz.toNat
  content : ∀ q sz outcome old p, call = .MemReallocCallback (some q) sz outcome →
    t.requested.get? q.block = some old → answer = .pointer (some p) →
      ∀ k < min old.toNat sz.toNat,
        t'.state.loadByte (p.add k) = t.state.loadByte (q.add k)

/-- The call is not a reallocation of a block that succeeds. -/
def NoReallocation (_ : Tracked) (call : Call) (_ : Answer) (_ : Tracked) : Prop :=
  match call with
  | .MemReallocCallback (some _) _ (some _) => False
  | _ => True

/-! ## One call -/

/-- Every live block is `offset` bytes longer than the size requested for it. -/
def Sized (alignofMaxAlign : ℕ) (t : Tracked) : Prop :=
  Arena.Related (fun old block => block.length = old.toNat + offset alignofMaxAlign)
    t.requested t.state.blocks

theorem offset_pos (alignofMaxAlign : ℕ) : sizeofInt ≤ offset alignofMaxAlign :=
  Nat.le_max_left _ _

theorem Sized.empty (alignofMaxAlign : ℕ) : Sized alignofMaxAlign Tracked.empty :=
  Arena.Related.empty

theorem Sized.length_eq (h : Sized alignofMaxAlign t) {i : ℕ} {block : Block} {old : UInt64}
    (hold : t.requested.get? i = some old) (hblock : t.state.blocks.get? i = some block) :
    block.length = old.toNat + offset alignofMaxAlign := by
  obtain ⟨block', hblock', hlength⟩ := h.exists_right hold
  obtain rfl := Option.some.inj (hblock.symm.trans hblock')
  exact hlength

theorem State.loadByte_eq {s : State} {i byte : ℕ} {block : Block}
    (hblock : s.blocks.get? i = some block) (hbyte : byte < block.length) :
    s.loadByte ⟨i, byte⟩ = some (block.bytes byte) := by
  simp [loadByte, hblock, hbyte]

/-- What lies past a pointer into the newest block. -/
theorem extends_alloc_iff (blocks : Arena Block) (block : Block) (counter : UInt64)
    (byte n : ℕ) :
    State.Extends ⟨blocks.alloc block, counter⟩ ⟨blocks.size, byte⟩ n ↔
      byte + n ≤ block.length := by
  simp [State.Extends]

/-- A call that returns no pointer promises nothing. -/
theorem roomy_of_ne (hanswer : ∀ p, answer ≠ .pointer (some p)) : Roomy t call answer t' where
  capacity _ p _ h := absurd h (hanswer p)
  content _ _ _ _ p _ _ h := absurd h (hanswer p)

theorem Call.size?_of_allocation {sz : UInt64} {outcome : Option (Memory UInt8)}
    (hcall : call.allocation = some (sz, outcome)) : call.size? = some sz := by
  rcases call.allocation_cases hcall with rfl | rfl <;> rfl

theorem noReallocation_of_allocation {sz : UInt64} {outcome : Option (Memory UInt8)}
    (hcall : call.allocation = some (sz, outcome)) : NoReallocation t call answer t' := by
  rcases call.allocation_cases hcall with rfl | rfl <;> trivial

/-- A new block has room for the header and the bytes asked for. -/
theorem roomy_alloc {sz : UInt64} {bytes : Memory UInt8}
    (hcall : call.allocation = some (sz, some bytes)) (t : Tracked) (counter : UInt64)
    (requested : Arena UInt64) :
    Roomy t call (.pointer (some ⟨t.state.blocks.size, offset alignofMaxAlign⟩))
      ⟨⟨t.state.blocks.alloc (Block.withHeader ⟨sz.toNat + offset alignofMaxAlign, bytes⟩
        (intOfSize sz)), counter⟩, requested⟩ where
  capacity sz' p hsize hp := by
    obtain rfl := Option.some.inj ((Call.size?_of_allocation hcall).symm.trans hsize)
    obtain rfl := Option.some.inj (Answer.pointer.inj hp)
    apply (extends_alloc_iff ..).mpr
    rw [Block.length_withHeader, Nat.add_comm]
  content q sz' outcome' old p heq := by
    rcases call.allocation_cases hcall with rfl | rfl <;> simp at heq

/-- A reallocation that succeeds leaves the pointer `offset` bytes short. -/
theorem not_roomy_realloc (alignofMaxAlign : ℕ) (t : Tracked) (p : Option BytePointer)
    (sz : UInt64) (outcome : Option (Memory UInt8)) (blocks : Arena Block) {block : Block}
    (hlength : block.length = sz.toNat) (counter : UInt64) (requested : Arena UInt64) :
    ¬ Roomy t (.MemReallocCallback p sz outcome)
      (.pointer (some ⟨blocks.size, offset alignofMaxAlign⟩))
      ⟨⟨blocks.alloc block, counter⟩, requested⟩ := by
  intro h
  have hroom := (extends_alloc_iff ..).mp (h.capacity sz _ rfl rfl)
  have hoffset := offset_pos alignofMaxAlign
  unfold sizeofInt at hoffset
  omega

/-- What a reallocation of a live block leaves: `offset` bytes fewer than were
asked for, and in them the contents of the old block. -/
theorem realloc_leaves (h : Sized alignofMaxAlign t) {q p : BytePointer} {sz old : UInt64}
    {bytes : Memory UInt8} (hold : t.requested.get? q.block = some old)
    (hstep : allocatorStep alignofMaxAlign t (.MemReallocCallback (some q) sz (some bytes)) =
      some (t', .pointer (some p))) :
    (∀ n, t'.state.Extends p n ↔ offset alignofMaxAlign + n ≤ sz.toNat) ∧
      ∀ k < min old.toNat (sz.toNat - offset alignofMaxAlign),
        t'.state.loadByte (p.add k) = t.state.loadByte (q.add k) := by
  cases served_of_step h hstep with
  | alloc hcall => simp [Call.allocation] at hcall
  | @realloc i block old' _ _ hold' hblock _ =>
      obtain rfl := Option.some.inj (hold.symm.trans hold')
      have hlength := h.length_eq hold hblock
      rw [← Arena.size_free t.state.blocks i]
      refine ⟨fun n => ?_, fun k hk => ?_⟩
      · rw [extends_alloc_iff, Block.length_resized]
      · have hroom : offset alignofMaxAlign + k < min block.length sz.toNat := by omega
        obtain ⟨hin, hin'⟩ := Nat.lt_min.mp hroom
        -- a byte past the header of either block
        have hheader : sizeofInt ≤ offset alignofMaxAlign + k :=
          Nat.le_add_right_of_le (offset_pos alignofMaxAlign)
        calc State.loadByte _ ⟨(t.state.blocks.free i).size, offset alignofMaxAlign + k⟩
            = some (((block.withHeader (intOfSize sz)).resized sz.toNat bytes).bytes
                (offset alignofMaxAlign + k)) :=
              State.loadByte_eq (Arena.get?_alloc_self ..) hin'
          _ = some ((block.withHeader (intOfSize sz)).bytes (offset alignofMaxAlign + k)) :=
              congrArg some (Block.bytes_resized _ _ _ hroom)
          _ = some (block.bytes (offset alignofMaxAlign + k)) :=
              congrArg some (Block.bytes_withHeader _ _ hheader)
          _ = t.state.loadByte ⟨i, offset alignofMaxAlign + k⟩ :=
              (State.loadByte_eq hblock hin).symm

/-- A call in a state whose blocks have their sizes: it keeps its promise
exactly when it is not a reallocation that succeeds, and then the blocks keep
their sizes. -/
theorem roomy_iff_noReallocation (h : Sized alignofMaxAlign t)
    (hstep : allocatorStep alignofMaxAlign t call = some (t', answer)) :
    (Roomy t call answer t' ↔ NoReallocation t call answer t') ∧
      (Roomy t call answer t' → Sized alignofMaxAlign t') := by
  cases served_of_step h hstep with
  | allocFails hcall =>
      exact ⟨iff_of_true (roomy_of_ne (by simp)) (noReallocation_of_allocation hcall), fun _ => h⟩
  | alloc hcall =>
      refine ⟨iff_of_true (roomy_alloc hcall t _ _) (noReallocation_of_allocation hcall),
        fun _ => ?_⟩
      exact Arena.Related.alloc h (Block.length_withHeader ..)
  | @reallocFails i block old sz hold hblock hlength =>
      refine ⟨iff_of_true (roomy_of_ne (by simp)) trivial, fun _ => ?_⟩
      refine Arena.Related.put_right h hold ?_
      rw [Block.length_withHeader, h.length_eq hold hblock]
  | @realloc i block old sz bytes hold hblock hlength =>
      have hshort := not_roomy_realloc alignofMaxAlign t (some ⟨i, offset alignofMaxAlign⟩) sz
        (some bytes) (t.state.blocks.free i)
        (Block.length_resized (block.withHeader (intOfSize sz)) sz.toNat bytes)
        (t.state.sMemoryUsedByEngine + (sz - sizeOfInt block.header)) ((t.requested.free i).alloc sz)
      rw [Arena.size_free] at hshort
      exact ⟨iff_of_false hshort id, fun hroomy => absurd hroomy hshort⟩
  | freeNull => exact ⟨iff_of_true (roomy_of_ne (by simp)) trivial, fun _ => h⟩
  | @free i block old hold hblock hlength =>
      refine ⟨iff_of_true (roomy_of_ne (by simp)) trivial, fun _ => ?_⟩
      exact Arena.Related.free h i
  | @undefined _ i block old hcall hold hblock hlength =>
      -- a live block has room for its header
      have hheader := h.length_eq hold hblock
      have hoffset := offset_pos alignofMaxAlign
      omega

/-! ## Runs -/

/-- Every call of a run keeps its promise about capacity and content if and only
if no call reallocates a live block with success. -/
theorem capacity_iff_no_realloc (alignofMaxAlign : ℕ) (calls : List Call) :
    Along (allocatorStep alignofMaxAlign) Roomy Tracked.empty calls ↔
      Along (allocatorStep alignofMaxAlign) NoReallocation Tracked.empty calls :=
  along_iff_along (fun _ _ _ _ => roomy_iff_noReallocation) calls (Sized.empty alignofMaxAlign)

/-- A reallocation of one byte to two hundred: `200` bytes are behind the header
of `16`, but the block is one of `200`. -/
theorem realloc_short :
    let calls := [.MemAllocCallback 1 (some fun _ => 0),
      .MemReallocCallback (some ⟨0, 16⟩) 200 (some fun _ => 0)]
    ((run (allocatorStep 16) Tracked.empty calls).map fun (t, answers) =>
        ((t.state.blocks.get? 1).map Block.length, answers)) =
      some (some 200, [.pointer (some ⟨0, 16⟩), .pointer (some ⟨1, 16⟩)]) ∧
    ¬ Along (allocatorStep 16) Roomy Tracked.empty calls := by
  intro calls
  refine ⟨rfl, ?_⟩
  intro h
  obtain ⟨block, hblock, hroom⟩ := ((h _ _ rfl).2 _ _ rfl).1.capacity 200 ⟨1, 16⟩ rfl rfl
  obtain rfl := Option.some.inj hblock
  exact absurd hroom (by decide)

end MiniaudioCpp.Allocator
