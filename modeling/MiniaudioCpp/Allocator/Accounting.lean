import MiniaudioCpp.Allocator.Served
import MiniaudioCpp.Foundation.Machine
import MiniaudioCpp.Foundation.Words

/-!
# The account of `sMemoryUsedByEngine`

The counter should be the sum of the sizes that were last requested with success
for the blocks now live, in 64-bit arithmetic.  What is subtracted for a block
comes from its header, and the header is right as long as the size fits an
`int`, the block is long enough to hold it, and no reallocation that failed has
changed it.  Every run is accounted for exactly as long as that is so
(`accounted_iff_headers_hold`).
-/

namespace MiniaudioCpp.Allocator

open Foundation

variable {alignofMaxAlign : ℕ} {t t' : Tracked} {call : Call} {answer : Answer}

/-! ## The account and the condition -/

/-- The counter is the sum of the requested sizes of the live blocks. -/
def Counted (t : Tracked) : Prop :=
  t.state.sMemoryUsedByEngine.toNat = t.requested.total UInt64.toNat % 2 ^ 64

instance : DecidablePred Counted := fun _ => inferInstanceAs (Decidable (_ = _))

/-- What the callbacks promise about a call. -/
structure Accounted (alignofMaxAlign : ℕ) (t : Tracked) (call : Call) (answer : Answer)
    (t' : Tracked) : Prop where
  defined : answer ≠ .undefined
  counted : Counted t'
  all_freed : (∀ i, t'.state.blocks.get? i = none) → t'.state.sMemoryUsedByEngine = 0
  /-- A reallocation that returns null changes neither the counter nor the size
  in the header. -/
  failed_realloc : ∀ p sz outcome, call = .MemReallocCallback (some p) sz outcome →
    answer = .pointer none →
      t'.state.sMemoryUsedByEngine = t.state.sMemoryUsedByEngine ∧
        t'.state.loadInt (p.sub (offset alignofMaxAlign)) =
          t.state.loadInt (p.sub (offset alignofMaxAlign))

/-- The size survives the cast to `int`. -/
def FitsInt (sz : UInt64) : Prop := sz.toNat < 2 ^ 31 ∨ 2 ^ 64 - 2 ^ 31 ≤ sz.toNat

/-- A call on a live block finds a header in it, and the size that was last
requested for the block fits an `int`; or the call is a reallocation that fails,
and it asks for the size in the header. -/
def HeaderHolds (t : Tracked) (call : Call) (_ : Answer) (_ : Tracked) : Prop :=
  match call with
  | .MemAllocCallback .. => True
  | .MemReallocCallback none .. => True
  | .MemReallocCallback (some p) sz outcome =>
      ∀ block old, t.state.blocks.get? p.block = some block →
        t.requested.get? p.block = some old →
          sizeofInt ≤ block.length ∧
            (match outcome with
              | none => sz = sizeOfInt (intOfSize old)
              | some _ => FitsInt old)
  | .MemFreeCallback none => True
  | .MemFreeCallback (some p) =>
      ∀ block old, t.state.blocks.get? p.block = some block →
        t.requested.get? p.block = some old → sizeofInt ≤ block.length ∧ FitsInt old

theorem sizeOfInt_intOfSize_eq_iff (sz : UInt64) :
    sizeOfInt (intOfSize sz) = sz ↔ FitsInt sz :=
  toUInt64_toInt32_eq_iff sz

theorem intOfSize_sizeOfInt (sz : UInt64) :
    intOfSize (sizeOfInt (intOfSize sz)) = intOfSize sz :=
  congrArg UInt32.toInt32 (toUInt32_toUInt64_toInt32 sz)

/-! ## One call -/

/-- The blocks and the account are in step, each header that its block has room
for holds the requested size cast to an `int`, and the counter is right. -/
structure Headers (t : Tracked) : Prop where
  related : Arena.Related
    (fun old block => sizeofInt ≤ block.length → block.header = intOfSize old)
    t.requested t.state.blocks
  counted : Counted t

theorem Headers.empty : Headers Tracked.empty := ⟨.empty, rfl⟩

/-- With every block freed the counter is back at zero. -/
theorem Headers.counter_of_freed (h : Headers t) (hfreed : ∀ i, t.state.blocks.get? i = none) :
    t.state.sMemoryUsedByEngine = 0 := by
  have hdead : ∀ i, t.requested.get? i = none := fun i => h.related.left_eq_none (hfreed i)
  have hcounted := h.counted
  rw [Counted, Arena.total_of_dead _ hdead] at hcounted
  exact UInt64.toNat_inj.mp hcounted

/-- What a call has to do besides leaving the headers in order. -/
theorem Headers.accounted (h' : Headers t') (hdefined : answer ≠ .undefined)
    (hfailed : ∀ p sz outcome, call = .MemReallocCallback (some p) sz outcome →
      answer = .pointer none →
        t'.state.sMemoryUsedByEngine = t.state.sMemoryUsedByEngine ∧
          t'.state.loadInt (p.sub (offset alignofMaxAlign)) =
            t.state.loadInt (p.sub (offset alignofMaxAlign))) :
    Accounted alignofMaxAlign t call answer t' :=
  ⟨hdefined, h'.counted, h'.counter_of_freed, hfailed⟩

/-- A call that makes a new block asks nothing of a header. -/
theorem headerHolds_of_allocation {sz : UInt64} {outcome : Option (Memory UInt8)}
    (hcall : call.allocation = some (sz, outcome)) : HeaderHolds t call answer t' := by
  rcases call.allocation_cases hcall with rfl | rfl <;> trivial

theorem ne_realloc_of_allocation {sz : UInt64} {outcome : Option (Memory UInt8)}
    (hcall : call.allocation = some (sz, outcome)) (p : BytePointer) (sz' : UInt64)
    (outcome' : Option (Memory UInt8)) : call ≠ .MemReallocCallback (some p) sz' outcome' := by
  rcases call.allocation_cases hcall with rfl | rfl <;> simp

theorem Headers.alloc (h : Headers t) {sz : UInt64} {block : Block}
    (hheader : block.header = intOfSize sz) :
    Headers ⟨⟨t.state.blocks.alloc block, t.state.sMemoryUsedByEngine + sz⟩,
      t.requested.alloc sz⟩ where
  related := h.related.alloc fun _ => hheader
  counted := by
    have hcounted := h.counted
    unfold Counted at hcounted ⊢
    rw [Arena.total_alloc, UInt64.toNat_add, hcounted, Nat.mod_add_mod]

section Live

variable {i : ℕ} {block : Block} {old : UInt64}

/-- The header of a live block that has room for one. -/
theorem Headers.header_eq (h : Headers t) (hold : t.requested.get? i = some old)
    (hblock : t.state.blocks.get? i = some block) (hlength : sizeofInt ≤ block.length) :
    block.header = intOfSize old := by
  obtain ⟨block', hblock', hheader⟩ := h.related.exists_right hold
  obtain rfl := Option.some.inj (hblock.symm.trans hblock')
  exact hheader hlength

/-- A reallocation that fails leaves the account right exactly when it asked for
the size in the header. -/
theorem Headers.reallocFails (h : Headers t) (hold : t.requested.get? i = some old)
    (hblock : t.state.blocks.get? i = some block) (hlength : sizeofInt ≤ block.length)
    (sz : UInt64) :
    let t' : Tracked := ⟨⟨t.state.blocks.put i (block.withHeader (intOfSize sz)),
      t.state.sMemoryUsedByEngine + (sz - sizeOfInt block.header)⟩, t.requested⟩
    (Counted t' ↔ sz = sizeOfInt (intOfSize old)) ∧
      (sz = sizeOfInt (intOfSize old) → Headers t' ∧
        t'.state.sMemoryUsedByEngine = t.state.sMemoryUsedByEngine ∧
          t'.state.loadInt ⟨i, 0⟩ = t.state.loadInt ⟨i, 0⟩) := by
  intro t'
  have hheader := h.header_eq hold hblock hlength
  have hcount : Counted t' ↔ sz = sizeOfInt (intOfSize old) := by
    rw [eq_comm (a := sz), ← hheader]
    exact counter_replace_iff h.counted rfl
  refine ⟨hcount, fun hsz => ?_⟩
  have hsame : intOfSize sz = block.header := by rw [hsz, intOfSize_sizeOfInt, hheader]
  refine ⟨⟨?_, hcount.mpr hsz⟩, ?_, ?_⟩
  · refine h.related.put_right hold fun _ => ?_
    rw [Block.header_withHeader, hsame, hheader]
  · show t.state.sMemoryUsedByEngine + (sz - sizeOfInt block.header) = _
    rw [hheader, ← hsz, UInt64.sub_self, UInt64.add_zero]
  · have hput : t'.state.blocks.get? i = some (block.withHeader (intOfSize sz)) :=
      Arena.get?_put_self (Arena.lt_size_of_get? hblock) _
    rw [State.loadInt_eq hput hlength, State.loadInt_eq hblock hlength, Block.header_withHeader,
      hsame]

/-- A reallocation that succeeds leaves the account right exactly when the old
size fits an `int`. -/
theorem Headers.realloc (h : Headers t) (hold : t.requested.get? i = some old)
    (hblock : t.state.blocks.get? i = some block) (hlength : sizeofInt ≤ block.length)
    (sz : UInt64) (bytes : Memory UInt8) :
    let t' : Tracked :=
      ⟨⟨(t.state.blocks.free i).alloc ((block.withHeader (intOfSize sz)).resized sz.toNat bytes),
        t.state.sMemoryUsedByEngine + (sz - sizeOfInt block.header)⟩,
        (t.requested.free i).alloc sz⟩
    (Counted t' ↔ FitsInt old) ∧ (FitsInt old → Headers t') := by
  intro t'
  have htotal := Arena.total_free UInt64.toNat hold
  have hcount : Counted t' ↔ FitsInt old := by
    rw [← sizeOfInt_intOfSize_eq_iff, ← h.header_eq hold hblock hlength]
    refine counter_replace_iff h.counted ?_
    rw [Arena.total_alloc]
    omega
  refine ⟨hcount, fun hfits => ⟨?_, hcount.mpr hfits⟩⟩
  refine (h.related.free i).alloc fun (hnew : sizeofInt ≤ sz.toNat) => ?_
  have hlength' : sizeofInt ≤ (block.withHeader (intOfSize sz)).length := hlength
  calc ((block.withHeader (intOfSize sz)).resized sz.toNat bytes).header
      = (block.withHeader (intOfSize sz)).header := Block.header_resized hlength' hnew bytes
    _ = intOfSize sz := Block.header_withHeader block _

/-- A free leaves the account right exactly when the size fits an `int`. -/
theorem Headers.free (h : Headers t) (hold : t.requested.get? i = some old)
    (hblock : t.state.blocks.get? i = some block) (hlength : sizeofInt ≤ block.length) :
    let t' : Tracked := ⟨⟨t.state.blocks.free i,
      t.state.sMemoryUsedByEngine - sizeOfInt block.header⟩, t.requested.free i⟩
    (Counted t' ↔ FitsInt old) ∧ (FitsInt old → Headers t') := by
  intro t'
  have hcount : Counted t' ↔ FitsInt old := by
    rw [← sizeOfInt_intOfSize_eq_iff, ← h.header_eq hold hblock hlength]
    exact counter_remove_iff h.counted (Arena.total_free UInt64.toNat hold)
  exact ⟨hcount, fun hfits => ⟨h.related.free i, hcount.mpr hfits⟩⟩

end Live

/-- The condition on a live block, for the block and the size that it has. -/
theorem forall_live_iff {P : Block → UInt64 → Prop} {i : ℕ} {block : Block} {old : UInt64}
    (hold : t.requested.get? i = some old) (hblock : t.state.blocks.get? i = some block) :
    (∀ block old, t.state.blocks.get? i = some block → t.requested.get? i = some old →
      P block old) ↔ P block old := by
  constructor
  · exact fun h => h block old hblock hold
  · intro h block' old' hblock' hold'
    obtain rfl := Option.some.inj (hblock.symm.trans hblock')
    obtain rfl := Option.some.inj (hold.symm.trans hold')
    exact h

/-- A call in a state whose headers are in order: it is accounted for exactly
when the header holds, and then it leaves the headers in order. -/
theorem accounted_iff_headerHolds (h : Headers t)
    (hstep : allocatorStep alignofMaxAlign t call = some (t', answer)) :
    (Accounted alignofMaxAlign t call answer t' ↔ HeaderHolds t call answer t') ∧
      (Accounted alignofMaxAlign t call answer t' → Headers t') := by
  cases served_of_step h.related hstep with
  | allocFails hcall =>
      have haccounted : Accounted alignofMaxAlign t call (.pointer none) t :=
        h.accounted (by simp) fun p sz outcome heq =>
          absurd heq (ne_realloc_of_allocation hcall p sz outcome)
      exact ⟨iff_of_true haccounted (headerHolds_of_allocation hcall), fun _ => h⟩
  | @alloc _ sz bytes hcall =>
      have h' := h.alloc (Block.header_withHeader ⟨sz.toNat + offset alignofMaxAlign, bytes⟩
        (intOfSize sz))
      refine ⟨iff_of_true (h'.accounted (by simp) ?_) (headerHolds_of_allocation hcall),
        fun _ => h'⟩
      exact fun p sz outcome heq => absurd heq (ne_realloc_of_allocation hcall p sz outcome)
  | @reallocFails i block old sz hold hblock hlength =>
      obtain ⟨hcount, hkeep⟩ := h.reallocFails hold hblock hlength sz
      have hholds := (forall_live_iff (P := fun block old =>
        sizeofInt ≤ block.length ∧ sz = sizeOfInt (intOfSize old)) hold hblock).trans
          (and_iff_right hlength)
      refine ⟨Iff.trans ⟨fun haccounted => hcount.mp haccounted.counted, fun hsz => ?_⟩
        hholds.symm, fun haccounted => (hkeep (hcount.mp haccounted.counted)).1⟩
      obtain ⟨h', hcounter, hheader⟩ := hkeep hsz
      refine h'.accounted (by simp) ?_
      rintro p sz' outcome heq -
      obtain ⟨hp, rfl, rfl⟩ := Call.MemReallocCallback.inj heq
      obtain rfl := Option.some.inj hp
      exact ⟨hcounter, by simpa [BytePointer.sub] using hheader⟩
  | @realloc i block old sz bytes hold hblock hlength =>
      obtain ⟨hcount, hkeep⟩ := h.realloc hold hblock hlength sz bytes
      have hholds := (forall_live_iff (P := fun block old =>
        sizeofInt ≤ block.length ∧ FitsInt old) hold hblock).trans (and_iff_right hlength)
      refine ⟨Iff.trans ⟨fun haccounted => hcount.mp haccounted.counted, fun hfits => ?_⟩
        hholds.symm, fun haccounted => hkeep (hcount.mp haccounted.counted)⟩
      exact (hkeep hfits).accounted (by simp) (by simp)
  | freeNull =>
      have haccounted : Accounted alignofMaxAlign t (.MemFreeCallback none) .freed t :=
        h.accounted (by simp) (by simp)
      exact ⟨iff_of_true haccounted trivial, fun _ => h⟩
  | @free i block old hold hblock hlength =>
      obtain ⟨hcount, hkeep⟩ := h.free hold hblock hlength
      have hholds := (forall_live_iff (P := fun block old =>
        sizeofInt ≤ block.length ∧ FitsInt old) hold hblock).trans (and_iff_right hlength)
      refine ⟨Iff.trans ⟨fun haccounted => hcount.mp haccounted.counted, fun hfits => ?_⟩
        hholds.symm, fun haccounted => hkeep (hcount.mp haccounted.counted)⟩
      exact (hkeep hfits).accounted (by simp) (by simp)
  | @undefined _ i block old hcall hold hblock hlength =>
      have hshort : ¬ sizeofInt ≤ block.length := Nat.not_le.mpr hlength
      refine ⟨iff_of_false (fun haccounted => haccounted.defined rfl) fun hholds => ?_,
        fun haccounted => absurd rfl haccounted.defined⟩
      rcases hcall with ⟨sz, outcome, rfl⟩ | rfl
      · exact hshort (hholds block old hblock hold).1
      · exact hshort (hholds block old hblock hold).1

/-! ## Runs -/

/-- Every call of a run is accounted for if and only if each call on a live
block meets a header that holds. -/
theorem accounted_iff_headers_hold (alignofMaxAlign : ℕ) (calls : List Call) :
    Along (allocatorStep alignofMaxAlign) (Accounted alignofMaxAlign) Tracked.empty calls ↔
      Along (allocatorStep alignofMaxAlign) HeaderHolds Tracked.empty calls :=
  along_iff_along (fun _ _ _ _ => accounted_iff_headerHolds) calls Headers.empty

/-- Eight bytes, and a reallocation to a hundred that fails: the block is still
one of eight bytes, and a hundred are counted. -/
theorem realloc_fails_counted :
    let calls := [.MemAllocCallback 8 (some fun _ => 0),
      .MemReallocCallback (some ⟨0, 16⟩) 100 none]
    ((run (allocatorStep 16) Tracked.empty calls).map fun (t, answers) =>
        (t.state.sMemoryUsedByEngine, t.requested, answers)) =
      some (100, ⟨[some 8]⟩, [.pointer (some ⟨0, 16⟩), .pointer none]) ∧
    ¬ Along (allocatorStep 16) (Accounted 16) Tracked.empty calls := by
  intro calls
  refine ⟨rfl, ?_⟩
  intro h
  have hcounted := ((h _ _ rfl).2 _ _ rfl).1.counted
  exact absurd hcounted (by decide)

end MiniaudioCpp.Allocator
