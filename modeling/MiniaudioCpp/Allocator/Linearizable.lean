import MiniaudioCpp.Allocator.Threads
import MiniaudioCpp.Foundation.Tracking
import MiniaudioCpp.Allocator.Accounting
import Mathlib.Algebra.BigOperators.Group.Finset.Piecewise
import Mathlib.Data.UInt
import Mathlib.Tactic.LinearCombination
import Mathlib.Tactic.Ring

/-!
# Every interleaving of the callbacks is one of instant calls

A callback takes effect where it reaches `ma_malloc`, `ma_realloc` or `ma_free`,
or where it finds no header.  Before that its block is lent to it, after that
the new block is not yet returned; so the blocks of two calls never meet, and
what a call still has to do to its block nobody else can see.  `Stage` lists
where a call can be, with what its blocks are in the two machines.

The counter is the one thing that calls share.  There it only matters that
additions commute: it differs from that of the instant machine by what the calls
under way have yet to add, or have added too early (`Shared.counter`).
-/

namespace MiniaudioCpp.Allocator

open Foundation
open scoped UInt64.CommRing

variable {alignofMaxAlign : ℕ}

/-! ## The stages of a call -/

/-- What one index is in the two machines: the block of each, the size that
was asked for, and the entry of the clients' account. -/
@[ext] structure View where
  block : Option Block
  instant : Option Block
  requested : Option UInt64
  held : Option Holding

/-- What an index is. -/
def View.of (s : State) (t : Tracked) (account : Account) (j : ℕ) : View :=
  ⟨s.blocks.get? j, t.state.blocks.get? j, t.requested.get? j, account j⟩

/-- A live block that is lent to a call. -/
def View.lent (block : Block) (old : UInt64) : View :=
  ⟨some block, some block, some old, some ⟨old, true⟩⟩

/-- A block that a call was lent and that is no more. -/
def View.gone (old : UInt64) : View := ⟨none, none, none, some ⟨old, true⟩⟩

/-- A new block that is not yet returned. -/
def View.made (block : Block) (sz : UInt64) : View := ⟨some block, some block, some sz, none⟩

/-- A block that no call is working on. -/
def View.Settled (view : View) : Prop :=
  view.block = view.instant ∧ view.held = view.requested.map fun size => ⟨size, false⟩

/-- The blocks of a call: the one passed to it, and the one it will return. -/
def Uses (call : Call) (here : Call ⊕ Answer) (j : ℕ) : Prop :=
  (∃ p, call.argument = some p ∧ p.block = j) ∨
    ∃ p, here = .inr (.pointer (some p)) ∧ p.block = j

section

variable (alignofMaxAlign)

/-- Where a call can be: its code, what it is for the instant machine, and what
the counter is still to be given for it. -/
inductive Stage (view : ℕ → View) :
    Call → Code State Answer → Call ⊕ Answer → UInt64 → Prop
  | malloc {call : Call} {sz : UInt64} {outcome : Option (Memory UInt8)}
      (hcall : call.allocation = some (sz, outcome))
      (hsz : sz.toNat + offset alignofMaxAlign < 2 ^ 64) :
      Stage view call (MemAllocCallback.code alignofMaxAlign sz outcome) (.inl call) 0
  | mallocFailed {call : Call} {sz : UInt64} (hcall : call.allocation = some (sz, none)) :
      Stage view call (.ret (.pointer none)) (.inr (.pointer none)) 0
  | count {call : Call} {sz : UInt64} {outcome : Option (Memory UInt8)} {j : ℕ} {block : Block}
      (hcall : call.allocation = some (sz, outcome))
      (hview : view j = ⟨some block, some (block.withHeader (intOfSize sz)), some sz, none⟩)
      (hlength : sizeofInt ≤ block.length) :
      Stage view call
        (Callback.add sz (Callback.storeInt ⟨j, 0⟩ (intOfSize sz)
          (.ret (.pointer (some ⟨j, offset alignofMaxAlign⟩)))))
        (.inr (.pointer (some ⟨j, offset alignofMaxAlign⟩))) sz
  | box {call : Call} {sz : UInt64} {outcome : Option (Memory UInt8)} {j : ℕ} {block : Block}
      (hcall : call.allocation = some (sz, outcome))
      (hview : view j = ⟨some block, some (block.withHeader (intOfSize sz)), some sz, none⟩)
      (hlength : sizeofInt ≤ block.length) :
      Stage view call
        (Callback.storeInt ⟨j, 0⟩ (intOfSize sz)
          (.ret (.pointer (some ⟨j, offset alignofMaxAlign⟩))))
        (.inr (.pointer (some ⟨j, offset alignofMaxAlign⟩))) 0
  | made {call : Call} {sz : UInt64} {outcome : Option (Memory UInt8)} {j : ℕ} {block : Block}
      (hcall : call.allocation = some (sz, outcome)) (hview : view j = .made block sz) :
      Stage view call (.ret (.pointer (some ⟨j, offset alignofMaxAlign⟩)))
        (.inr (.pointer (some ⟨j, offset alignofMaxAlign⟩))) 0
  | freeNull : Stage view (.MemFreeCallback none) (.ret .freed) (.inr .freed) 0
  | load {call : Call} {j : ℕ} {block : Block} {old : UInt64}
      (hcall : call.argument = some ⟨j, offset alignofMaxAlign⟩)
      (hsz : ∀ sz, call.size? = some sz → sz.toNat + offset alignofMaxAlign < 2 ^ 64)
      (hview : view j = .lent block old) :
      Stage view call (call.code alignofMaxAlign) (.inl call) 0
  | rejected {call : Call} {answer : Answer} {j : ℕ} {block : Block} {old : UInt64}
      (hcall : call.argument = some ⟨j, offset alignofMaxAlign⟩)
      (hanswer : answer = .undefined ∨
        answer = .pointer none ∧ ∃ sz, call.size? = some sz)
      (hview : view j = .lent block old) :
      Stage view call (.ret answer) (.inr answer) 0
  | replace {sz : UInt64} {outcome : Option (Memory UInt8)} {j : ℕ} {block : Block}
      {old : UInt64} (hsz : sz.toNat + offset alignofMaxAlign < 2 ^ 64)
      (hview : view j = .lent block old) (hlength : sizeofInt ≤ block.length) :
      Stage view (.MemReallocCallback (some ⟨j, offset alignofMaxAlign⟩) sz outcome)
        (Callback.add (sz - sizeOfInt block.header) (Callback.storeInt ⟨j, 0⟩ (intOfSize sz)
          (Callback.realloc ⟨j, 0⟩ sz outcome fun newBuffer =>
            .ret (.pointer (newBuffer.map (BytePointer.add · (offset alignofMaxAlign)))))))
        (.inl (.MemReallocCallback (some ⟨j, offset alignofMaxAlign⟩) sz outcome)) 0
  | rebox {sz : UInt64} {outcome : Option (Memory UInt8)} {j : ℕ} {block : Block}
      {old : UInt64} (hsz : sz.toNat + offset alignofMaxAlign < 2 ^ 64)
      (hview : view j = .lent block old) (hlength : sizeofInt ≤ block.length) :
      Stage view (.MemReallocCallback (some ⟨j, offset alignofMaxAlign⟩) sz outcome)
        (Callback.storeInt ⟨j, 0⟩ (intOfSize sz)
          (Callback.realloc ⟨j, 0⟩ sz outcome fun newBuffer =>
            .ret (.pointer (newBuffer.map (BytePointer.add · (offset alignofMaxAlign))))))
        (.inl (.MemReallocCallback (some ⟨j, offset alignofMaxAlign⟩) sz outcome))
        (-(sz - sizeOfInt block.header))
  | realloc {sz : UInt64} {outcome : Option (Memory UInt8)} {j : ℕ} {block : Block}
      {old : UInt64} (hsz : sz.toNat + offset alignofMaxAlign < 2 ^ 64)
      (hview : view j = ⟨some (block.withHeader (intOfSize sz)), some block, some old,
        some ⟨old, true⟩⟩)
      (hlength : sizeofInt ≤ block.length) :
      Stage view (.MemReallocCallback (some ⟨j, offset alignofMaxAlign⟩) sz outcome)
        (Callback.realloc ⟨j, 0⟩ sz outcome fun newBuffer =>
          .ret (.pointer (newBuffer.map (BytePointer.add · (offset alignofMaxAlign)))))
        (.inl (.MemReallocCallback (some ⟨j, offset alignofMaxAlign⟩) sz outcome))
        (-(sz - sizeOfInt block.header))
  | moved {sz : UInt64} {outcome : Option (Memory UInt8)} {j k : ℕ} {block : Block}
      {old : UInt64} (hold : view j = .gone old) (hnew : view k = .made block sz) :
      Stage view (.MemReallocCallback (some ⟨j, offset alignofMaxAlign⟩) sz outcome)
        (.ret (.pointer (some ⟨k, offset alignofMaxAlign⟩)))
        (.inr (.pointer (some ⟨k, offset alignofMaxAlign⟩))) 0
  | subtract {j : ℕ} {block : Block} {old : UInt64} (hview : view j = .lent block old)
      (hlength : sizeofInt ≤ block.length) :
      Stage view (.MemFreeCallback (some ⟨j, offset alignofMaxAlign⟩))
        (Callback.subtract (sizeOfInt block.header) (Callback.free ⟨j, 0⟩ (.ret .freed)))
        (.inl (.MemFreeCallback (some ⟨j, offset alignofMaxAlign⟩))) 0
  | free {j : ℕ} {block : Block} {old : UInt64} (hview : view j = .lent block old)
      (hlength : sizeofInt ≤ block.length) :
      Stage view (.MemFreeCallback (some ⟨j, offset alignofMaxAlign⟩))
        (Callback.free ⟨j, 0⟩ (.ret .freed))
        (.inl (.MemFreeCallback (some ⟨j, offset alignofMaxAlign⟩))) (sizeOfInt block.header)
  | freed {j : ℕ} {old : UInt64} (hview : view j = .gone old) :
      Stage view (.MemFreeCallback (some ⟨j, offset alignofMaxAlign⟩)) (.ret .freed)
        (.inr .freed) 0

end

section Stages

variable {view view' : ℕ → View} {call : Call} {code : Code State Answer}
  {here : Call ⊕ Answer} {owed : UInt64}

theorem uses_argument {p : BytePointer} (hcall : call.argument = some p) :
    Uses call here p.block := Or.inl ⟨p, hcall, rfl⟩

theorem uses_made {p : BytePointer} : Uses call (.inr (.pointer (some p))) p.block :=
  Or.inr ⟨p, rfl, rfl⟩

/-- A stage is about the blocks of the call, and no others. -/
theorem Stage.congr (h : Stage alignofMaxAlign view call code here owed)
    (hview : ∀ j, Uses call here j → view' j = view j) :
    Stage alignofMaxAlign view' call code here owed := by
  cases h with
  | malloc hcall hsz => exact .malloc hcall hsz
  | mallocFailed hcall => exact .mallocFailed hcall
  | count hcall hblock hlength => exact .count hcall ((hview _ uses_made).trans hblock) hlength
  | box hcall hblock hlength => exact .box hcall ((hview _ uses_made).trans hblock) hlength
  | made hcall hblock => exact .made hcall ((hview _ uses_made).trans hblock)
  | freeNull => exact .freeNull
  | load hcall hsz hblock =>
      exact .load hcall hsz ((hview _ (uses_argument hcall)).trans hblock)
  | rejected hcall hanswer hblock =>
      exact .rejected hcall hanswer ((hview _ (uses_argument hcall)).trans hblock)
  | replace hsz hblock hlength =>
      exact .replace hsz ((hview _ (uses_argument rfl)).trans hblock) hlength
  | rebox hsz hblock hlength =>
      exact .rebox hsz ((hview _ (uses_argument rfl)).trans hblock) hlength
  | realloc hsz hblock hlength =>
      exact .realloc hsz ((hview _ (uses_argument rfl)).trans hblock) hlength
  | moved hold hnew =>
      exact .moved ((hview _ (uses_argument rfl)).trans hold) ((hview _ uses_made).trans hnew)
  | subtract hblock hlength =>
      exact .subtract ((hview _ (uses_argument rfl)).trans hblock) hlength
  | free hblock hlength => exact .free ((hview _ (uses_argument rfl)).trans hblock) hlength
  | freed hblock => exact .freed ((hview _ (uses_argument rfl)).trans hblock)

end Stages

/-! ## The steps of the instant machine -/

section Instant

variable {t : Tracked} {call : Call} {j : ℕ} {block : Block} {old : UInt64}

theorem Tracked.live_of_get? (hold : t.requested.get? j = some old) :
    t.Live alignofMaxAlign (some ⟨j, offset alignofMaxAlign⟩) = true := by
  simp [Live, hold]

theorem allocatorStep_alloc {sz : UInt64} {outcome : Option (Memory UInt8)}
    (hcall : call.allocation = some (sz, outcome))
    (hsz : sz.toNat + offset alignofMaxAlign < 2 ^ 64) :
    allocatorStep alignofMaxAlign t call =
      some (match outcome with
        | none => (t, .pointer none)
        | some bytes =>
            (⟨⟨t.state.blocks.alloc (Block.withHeader ⟨sz.toNat + offset alignofMaxAlign, bytes⟩
              (intOfSize sz)), t.state.sMemoryUsedByEngine + sz⟩, t.requested.alloc sz⟩,
              .pointer (some ⟨t.state.blocks.size, offset alignofMaxAlign⟩))) := by
  have hallowed : t.allowed alignofMaxAlign call = true := by
    rcases call.allocation_cases hcall with rfl | rfl
    · exact decide_eq_true hsz
    · exact decide_eq_true hsz
  rw [allocatorStep, if_pos hallowed]
  rcases call.allocation_cases hcall with rfl | rfl
  all_goals
    cases outcome with
    | none => rfl
    | some bytes =>
        simp only [serve, MemReallocCallback, MemAllocCallback_eq hsz, Option.map_some]
        rfl

theorem allocatorStep_realloc {sz : UInt64} {outcome : Option (Memory UInt8)}
    (hold : t.requested.get? j = some old) (hblock : t.state.blocks.get? j = some block)
    (hlength : sizeofInt ≤ block.length) (hsz : sz.toNat + offset alignofMaxAlign < 2 ^ 64) :
    allocatorStep alignofMaxAlign t
        (.MemReallocCallback (some ⟨j, offset alignofMaxAlign⟩) sz outcome) =
      some (match outcome with
        | none => (⟨⟨t.state.blocks.put j (block.withHeader (intOfSize sz)),
            t.state.sMemoryUsedByEngine + (sz - sizeOfInt block.header)⟩, t.requested⟩,
            .pointer none)
        | some bytes => (⟨⟨(t.state.blocks.free j).alloc
            ((block.withHeader (intOfSize sz)).resized sz.toNat bytes),
            t.state.sMemoryUsedByEngine + (sz - sizeOfInt block.header)⟩,
            (t.requested.free j).alloc sz⟩,
            .pointer (some ⟨t.state.blocks.size, offset alignofMaxAlign⟩))) := by
  have hallowed : t.allowed alignofMaxAlign
      (.MemReallocCallback (some ⟨j, offset alignofMaxAlign⟩) sz outcome) = true := by
    rw [Tracked.allowed, Tracked.live_of_get? hold, decide_eq_true hsz, Bool.and_self]
  rw [allocatorStep, if_pos hallowed, serve, MemReallocCallback_eq hblock hlength]
  cases outcome with
  | none => rfl
  | some bytes => rfl

theorem allocatorStep_free (hold : t.requested.get? j = some old)
    (hblock : t.state.blocks.get? j = some block) (hlength : sizeofInt ≤ block.length) :
    allocatorStep alignofMaxAlign t (.MemFreeCallback (some ⟨j, offset alignofMaxAlign⟩)) =
      some (⟨⟨t.state.blocks.free j, t.state.sMemoryUsedByEngine - sizeOfInt block.header⟩,
        t.requested.free j⟩, .freed) := by
  have hallowed : t.allowed alignofMaxAlign
      (.MemFreeCallback (some ⟨j, offset alignofMaxAlign⟩)) = true :=
    Tracked.live_of_get? hold
  rw [allocatorStep, if_pos hallowed, serve, MemFreeCallback_eq hblock hlength]
  rfl

theorem allocatorStep_freeNull :
    allocatorStep alignofMaxAlign t (.MemFreeCallback none) = some (t, .freed) := rfl

/-- A call on a block that is too short for a header. -/
theorem allocatorStep_undefined (hcall : call.argument = some ⟨j, offset alignofMaxAlign⟩)
    (hsz : ∀ sz, call.size? = some sz → sz.toNat + offset alignofMaxAlign < 2 ^ 64)
    (hold : t.requested.get? j = some old) (hblock : t.state.blocks.get? j = some block)
    (hlength : block.length < sizeofInt) :
    allocatorStep alignofMaxAlign t call = some (t, .undefined) := by
  cases call with
  | MemAllocCallback sz outcome => simp [Call.argument] at hcall
  | MemReallocCallback p sz outcome =>
      obtain rfl : p = some ⟨j, offset alignofMaxAlign⟩ := hcall
      have hallowed : t.allowed alignofMaxAlign
          (.MemReallocCallback (some ⟨j, offset alignofMaxAlign⟩) sz outcome) = true := by
        rw [Tracked.allowed, Tracked.live_of_get? hold, decide_eq_true (hsz sz rfl), Bool.and_self]
      rw [allocatorStep, if_pos hallowed, serve, MemReallocCallback_of_lt hblock hlength]
      rfl
  | MemFreeCallback p =>
      obtain rfl : p = some ⟨j, offset alignofMaxAlign⟩ := hcall
      have hallowed : t.allowed alignofMaxAlign
          (.MemFreeCallback (some ⟨j, offset alignofMaxAlign⟩)) = true :=
        Tracked.live_of_get? hold
      rw [allocatorStep, if_pos hallowed, serve, MemFreeCallback_of_lt hblock hlength]
      rfl

end Instant

/-! ## One step of one call -/

/-- What a step of one call does in the two machines.  The instant machine
stands still, or it runs the whole call. -/
structure Advance (alignofMaxAlign : ℕ) (account : Account) (call : Call)
    (s : State) (t : Tracked) (here : Call ⊕ Answer) (owed : UInt64)
    (s' : State) (code' : Code State Answer) (t' : Tracked) (here' : Call ⊕ Answer)
    (owed' : UInt64) : Prop where
  served : (t' = t ∧ here' = here) ∨
    here = .inl call ∧ ∃ answer, here' = .inr answer ∧
      allocatorStep alignofMaxAlign t call = some (t', answer)
  stage : Stage alignofMaxAlign (View.of s' t' account) call code' here' owed'
  size : s'.blocks.size = t'.state.blocks.size
  related : Arena.Related (fun _ _ => True) t'.requested t'.state.blocks
  counter : t'.state.sMemoryUsedByEngine - t.state.sMemoryUsedByEngine =
    s'.sMemoryUsedByEngine - s.sMemoryUsedByEngine + (owed' - owed)
  frame : ∀ j, ¬ Uses call here' j → View.of s' t' account j = View.of s t account j
  uses : ∀ j, Uses call here j → Uses call here' j
  fresh : ∀ j, Uses call here' j → Uses call here j ∨ j = s.blocks.size ∧ j < s'.blocks.size
  grows : s.blocks.size ≤ s'.blocks.size

section Advance

variable {account : Account} {s s' : State} {t t' : Tracked} {call : Call}
  {code code' : Code State Answer} {here : Call ⊕ Answer} {owed owed' : UInt64}

/-- A step that the instant machine does not see. -/
theorem Advance.hidden (hsize : s.blocks.size = t.state.blocks.size)
    (hrelated : Arena.Related (fun _ _ => True) t.requested t.state.blocks)
    (hstage : Stage alignofMaxAlign (View.of s' t account) call code' here owed')
    (hsize' : s'.blocks.size = s.blocks.size)
    (hcounter : s'.sMemoryUsedByEngine + owed' = s.sMemoryUsedByEngine + owed)
    (hframe : ∀ j, ¬ Uses call here j → s'.blocks.get? j = s.blocks.get? j) :
    Advance alignofMaxAlign account call s t here owed s' code' t here owed' where
  served := Or.inl ⟨rfl, rfl⟩
  stage := hstage
  size := hsize'.trans hsize
  related := hrelated
  counter := by linear_combination -hcounter
  frame j hj := by rw [View.of, View.of, hframe j hj]
  uses _ hj := hj
  fresh _ hj := Or.inl hj
  grows := Nat.le_of_eq hsize'.symm

/-- The instant machine runs the call, which returns no new block. -/
theorem Advance.answers {answer : Answer} (hanswer : ∀ p, answer ≠ .pointer (some p))
    (hstep : allocatorStep alignofMaxAlign t call = some (t', answer))
    (hstage : Stage alignofMaxAlign (View.of s' t' account) call code' (.inr answer) 0)
    (hsize : s'.blocks.size = s.blocks.size) (hsize' : s'.blocks.size = t'.state.blocks.size)
    (hrelated : Arena.Related (fun _ _ => True) t'.requested t'.state.blocks)
    (hcounter : t'.state.sMemoryUsedByEngine - t.state.sMemoryUsedByEngine =
      s'.sMemoryUsedByEngine - s.sMemoryUsedByEngine - owed)
    (hframe : ∀ j, ¬ Uses call (.inl call) j →
      View.of s' t' account j = View.of s t account j) :
    Advance alignofMaxAlign account call s t (.inl call) owed s' code' t' (.inr answer) 0 where
  served := Or.inr ⟨rfl, answer, rfl, hstep⟩
  stage := hstage
  size := hsize'
  related := hrelated
  counter := by linear_combination hcounter
  frame j hj := by
    refine hframe j fun huses => hj ?_
    rcases huses with ⟨p, hp, hj⟩ | ⟨p, hp, _⟩
    · exact Or.inl ⟨p, hp, hj⟩
    · simp at hp
  uses j huses := by
    rcases huses with ⟨p, hp, hj⟩ | ⟨p, hp, _⟩
    · exact Or.inl ⟨p, hp, hj⟩
    · simp at hp
  fresh j huses := by
    rcases huses with ⟨p, hp, hj⟩ | ⟨p, hp, _⟩
    · exact Or.inl (Or.inl ⟨p, hp, hj⟩)
    · exact absurd (Sum.inr.inj hp) (hanswer p)
  grows := Nat.le_of_eq hsize.symm

/-- The instant machine runs the call, which will return a new block. -/
theorem Advance.makes (hsize : s.blocks.size = t.state.blocks.size)
    (hstep : allocatorStep alignofMaxAlign t call =
      some (t', .pointer (some ⟨t.state.blocks.size, offset alignofMaxAlign⟩)))
    (hstage : Stage alignofMaxAlign (View.of s' t' account) call code'
      (.inr (.pointer (some ⟨t.state.blocks.size, offset alignofMaxAlign⟩))) owed')
    (hgrows : s'.blocks.size = s.blocks.size + 1) (hsize' : s'.blocks.size = t'.state.blocks.size)
    (hrelated : Arena.Related (fun _ _ => True) t'.requested t'.state.blocks)
    (hcounter : t'.state.sMemoryUsedByEngine - t.state.sMemoryUsedByEngine =
      s'.sMemoryUsedByEngine - s.sMemoryUsedByEngine + (owed' - owed))
    (hframe : ∀ j, ¬ Uses call (.inl call) j → j ≠ s.blocks.size →
      View.of s' t' account j = View.of s t account j) :
    Advance alignofMaxAlign account call s t (.inl call) owed s' code' t'
      (.inr (.pointer (some ⟨t.state.blocks.size, offset alignofMaxAlign⟩))) owed' where
  served := Or.inr ⟨rfl, _, rfl, hstep⟩
  stage := hstage
  size := hsize'
  related := hrelated
  counter := hcounter
  frame j hj := by
    refine hframe j (fun huses => hj ?_) fun heq => hj (heq ▸ hsize ▸ uses_made)
    rcases huses with ⟨p, hp, hj⟩ | ⟨p, hp, _⟩
    · exact Or.inl ⟨p, hp, hj⟩
    · simp at hp
  uses j huses := by
    rcases huses with ⟨p, hp, hj⟩ | ⟨p, hp, _⟩
    · exact Or.inl ⟨p, hp, hj⟩
    · simp at hp
  fresh j huses := by
    rcases huses with ⟨p, hp, hj⟩ | ⟨p, hp, hj⟩
    · exact Or.inl (Or.inl ⟨p, hp, hj⟩)
    · simp only [Sum.inr.injEq, Answer.pointer.injEq, Option.some.injEq] at hp
      subst hp
      obtain rfl : t.state.blocks.size = j := hj
      exact Or.inr ⟨hsize.symm, by omega⟩
  grows := by omega

/-- A new block: the header is not written yet, and it is not counted. -/
theorem advance_malloc {sz : UInt64} {outcome : Option (Memory UInt8)}
    (hsize : s.blocks.size = t.state.blocks.size)
    (hrelated : Arena.Related (fun _ _ => True) t.requested t.state.blocks)
    (hheld : account s.blocks.size = none)
    (hcall : call.allocation = some (sz, outcome))
    (hsz : sz.toNat + offset alignofMaxAlign < 2 ^ 64)
    {effect : State → State} {next : State → Code State Answer}
    (hcode : MemAllocCallback.code alignofMaxAlign sz outcome = .act effect next) :
    ∃ t' here' owed', Advance alignofMaxAlign account call s t (.inl call) 0 (effect s) (next s)
      t' here' owed' := by
  obtain ⟨rfl, rfl⟩ := Code.act.inj hcode
  have hstep := allocatorStep_alloc (t := t) hcall hsz
  cases outcome with
  | none =>
      refine ⟨t, .inr (.pointer none), 0, ?_⟩
      exact .answers (by simp) hstep (.mallocFailed hcall) rfl hsize hrelated
        (by simp [ma_malloc]) fun _ _ => rfl
  | some bytes =>
      have hlength : (sz + UInt64.ofNat (offset alignofMaxAlign)).toNat =
          sz.toNat + offset alignofMaxAlign := by
        rw [UInt64.toNat_add, UInt64.toNat_ofNat']
        omega
      have hrequested := Arena.get?_alloc_self t.requested sz
      rw [hrelated.size_eq] at hrequested
      have hblock := Arena.get?_alloc_self s.blocks ⟨sz.toNat + offset alignofMaxAlign, bytes⟩
      rw [hsize] at hblock hheld
      refine ⟨_, _, sz, .makes hsize hstep ?_ ?_ ?_ ?_ ?_ ?_⟩
      · simp only [ma_malloc, hlength, BytePointer.add, Nat.zero_add, hsize]
        refine .count hcall (View.ext hblock (Arena.get?_alloc_self ..) hrequested hheld) ?_
        exact Nat.le_add_left_of_le (Nat.le_max_left ..)
      · simp [ma_malloc]
      · simp [ma_malloc, hsize]
      · exact hrelated.alloc trivial
      · simp only [ma_malloc]
        ring
      · intro j _ hj
        have hj' : j ≠ t.state.blocks.size := hsize ▸ hj
        simp only [View.of, ma_malloc, Arena.get?_alloc, hrelated.size_eq, if_neg hj, if_neg hj']

section Lent

variable {j : ℕ} {block : Block} {old : UInt64}

/-- Writing a block changes the view in one place. -/
theorem View.of_put (t : Tracked) (account : Account) (hs : s.blocks.get? j = some block)
    (x : Block) :
    View.of { s with blocks := s.blocks.put j x } t account j =
      { View.of s t account j with block := some x } := by
  rw [of, of, Arena.get?_put_self (Arena.lt_size_of_get? hs)]

/-- The header is read, or there is none. -/
theorem advance_load (hsize : s.blocks.size = t.state.blocks.size)
    (hrelated : Arena.Related (fun _ _ => True) t.requested t.state.blocks)
    (hcall : call.argument = some ⟨j, offset alignofMaxAlign⟩)
    (hsz : ∀ sz, call.size? = some sz → sz.toNat + offset alignofMaxAlign < 2 ^ 64)
    (hview : View.of s t account j = .lent block old)
    {effect : State → State} {next : State → Code State Answer}
    (hcode : call.code alignofMaxAlign = .act effect next) :
    ∃ t' here' owed', Advance alignofMaxAlign account call s t (.inl call) 0 (effect s) (next s)
      t' here' owed' := by
  have hs : s.blocks.get? j = some block := congrArg View.block hview
  have ht : t.state.blocks.get? j = some block := congrArg View.instant hview
  have hold : t.requested.get? j = some old := congrArg View.requested hview
  by_cases hlength : sizeofInt ≤ block.length
  · have hload := State.loadInt_eq hs hlength
    cases call with
    | MemAllocCallback sz outcome => simp [Call.argument] at hcall
    | MemReallocCallback p sz outcome =>
        obtain rfl : p = some ⟨j, offset alignofMaxAlign⟩ := hcall
        obtain ⟨rfl, rfl⟩ := Code.act.inj hcode
        refine ⟨t, _, 0, .hidden hsize hrelated ?_ rfl rfl fun _ _ => rfl⟩
        simp only [BytePointer.sub, Nat.sub_self, hload]
        exact .replace (hsz sz rfl) hview hlength
    | MemFreeCallback p =>
        obtain rfl : p = some ⟨j, offset alignofMaxAlign⟩ := hcall
        obtain ⟨rfl, rfl⟩ := Code.act.inj hcode
        refine ⟨t, _, 0, .hidden hsize hrelated ?_ rfl rfl fun _ _ => rfl⟩
        simp only [BytePointer.sub, Nat.sub_self, hload]
        exact .subtract hview hlength
  · have hstep := allocatorStep_undefined hcall hsz hold ht (by omega)
    have hload := State.loadInt_of_lt hs (by omega)
    have hundefined : effect s = s ∧ next s = .ret .undefined := by
      cases call with
      | MemAllocCallback sz outcome => simp [Call.argument] at hcall
      | MemReallocCallback p sz outcome =>
          obtain rfl : p = some ⟨j, offset alignofMaxAlign⟩ := hcall
          obtain ⟨rfl, rfl⟩ := Code.act.inj hcode
          simp only [BytePointer.sub, Nat.sub_self, hload, id, and_self]
      | MemFreeCallback p =>
          obtain rfl : p = some ⟨j, offset alignofMaxAlign⟩ := hcall
          obtain ⟨rfl, rfl⟩ := Code.act.inj hcode
          simp only [BytePointer.sub, Nat.sub_self, hload, id, and_self]
    rw [hundefined.1, hundefined.2]
    exact ⟨t, _, 0, .answers (by simp) hstep (.rejected hcall (Or.inl rfl) hview) rfl hsize
      hrelated (by ring) fun _ _ => rfl⟩

/-- The header of a new block is written. -/
theorem advance_box {sz : UInt64} {outcome : Option (Memory UInt8)}
    (hsize : s.blocks.size = t.state.blocks.size)
    (hrelated : Arena.Related (fun _ _ => True) t.requested t.state.blocks)
    (hcall : call.allocation = some (sz, outcome))
    (hview : View.of s t account j =
      ⟨some block, some (block.withHeader (intOfSize sz)), some sz, none⟩)
    (hlength : sizeofInt ≤ block.length)
    {effect : State → State} {next : State → Code State Answer}
    (hcode : Callback.storeInt ⟨j, 0⟩ (intOfSize sz)
      (.ret (.pointer (some ⟨j, offset alignofMaxAlign⟩))) = .act effect next) :
    ∃ t' here' owed', Advance alignofMaxAlign account call s t
      (.inr (.pointer (some ⟨j, offset alignofMaxAlign⟩))) 0 (effect s) (next s)
      t' here' owed' := by
  have hs : s.blocks.get? j = some block := congrArg View.block hview
  obtain ⟨rfl, rfl⟩ := Code.act.inj hcode
  simp only [State.storeInt_eq hs hlength, Option.getD_some]
  have hmade := View.of_put t account hs (block.withHeader (intOfSize sz))
  rw [hview] at hmade
  refine ⟨t, _, 0, .hidden hsize hrelated (.made hcall hmade) (Arena.size_put ..) rfl ?_⟩
  intro k hk
  refine Arena.get?_put_of_ne (Arena.lt_size_of_get? hs) (fun heq => hk ?_) _
  exact heq ▸ uses_made

/-- The new size is written to the header of the old block. -/
theorem advance_rebox {sz : UInt64} {outcome : Option (Memory UInt8)}
    (hsize : s.blocks.size = t.state.blocks.size)
    (hrelated : Arena.Related (fun _ _ => True) t.requested t.state.blocks)
    (hsz : sz.toNat + offset alignofMaxAlign < 2 ^ 64)
    (hview : View.of s t account j = .lent block old) (hlength : sizeofInt ≤ block.length)
    {effect : State → State} {next : State → Code State Answer}
    (hcode : Callback.storeInt ⟨j, 0⟩ (intOfSize sz)
      (Callback.realloc ⟨j, 0⟩ sz outcome fun newBuffer =>
        .ret (.pointer (newBuffer.map (BytePointer.add · (offset alignofMaxAlign))))) =
      .act effect next) :
    let call := .MemReallocCallback (some ⟨j, offset alignofMaxAlign⟩) sz outcome
    ∃ t' here' owed', Advance alignofMaxAlign account call s t (.inl call)
      (-(sz - sizeOfInt block.header)) (effect s) (next s) t' here' owed' := by
  intro call
  have hs : s.blocks.get? j = some block := congrArg View.block hview
  obtain ⟨rfl, rfl⟩ := Code.act.inj hcode
  simp only [State.storeInt_eq hs hlength, Option.getD_some]
  have hboxed := View.of_put t account hs (block.withHeader (intOfSize sz))
  rw [hview] at hboxed
  refine ⟨t, _, _, .hidden hsize hrelated (.realloc hsz hboxed hlength) (Arena.size_put ..) rfl ?_⟩
  intro k hk
  refine Arena.get?_put_of_ne (Arena.lt_size_of_get? hs) (fun heq => hk ?_) _
  exact heq ▸ uses_argument (p := ⟨j, offset alignofMaxAlign⟩) rfl

/-- The block is replaced, or it stays with the new size in its header. -/
theorem advance_realloc {sz : UInt64} {outcome : Option (Memory UInt8)}
    (hsize : s.blocks.size = t.state.blocks.size)
    (hrelated : Arena.Related (fun _ _ => True) t.requested t.state.blocks)
    (hheld : account s.blocks.size = none)
    (hsz : sz.toNat + offset alignofMaxAlign < 2 ^ 64)
    (hview : View.of s t account j = ⟨some (block.withHeader (intOfSize sz)), some block,
      some old, some ⟨old, true⟩⟩)
    (hlength : sizeofInt ≤ block.length)
    {effect : State → State} {next : State → Code State Answer}
    (hcode : (Callback.realloc ⟨j, 0⟩ sz outcome fun newBuffer =>
        .ret (.pointer (newBuffer.map (BytePointer.add · (offset alignofMaxAlign))))) =
      .act effect next) :
    let call := .MemReallocCallback (some ⟨j, offset alignofMaxAlign⟩) sz outcome
    ∃ t' here' owed', Advance alignofMaxAlign account call s t (.inl call)
      (-(sz - sizeOfInt block.header)) (effect s) (next s) t' here' owed' := by
  intro call
  have hs : s.blocks.get? j = some (block.withHeader (intOfSize sz)) :=
    congrArg View.block hview
  have ht : t.state.blocks.get? j = some block := congrArg View.instant hview
  have hold : t.requested.get? j = some old := congrArg View.requested hview
  have hlent : account j = some ⟨old, true⟩ := congrArg View.held hview
  have hstep : allocatorStep alignofMaxAlign t call = _ :=
    allocatorStep_realloc hold ht hlength hsz
  have huses : Uses call (.inl call) j :=
    uses_argument (p := ⟨j, offset alignofMaxAlign⟩) rfl
  obtain ⟨rfl, rfl⟩ := Code.act.inj hcode
  cases outcome with
  | none =>
      have hput := Arena.get?_put_self (Arena.lt_size_of_get? ht) (block.withHeader (intOfSize sz))
      refine ⟨_, _, 0, .answers (by simp) hstep ?_ rfl ?_ ?_ ?_ ?_⟩
      · exact .rejected rfl (Or.inr ⟨rfl, sz, rfl⟩) (View.ext (y := .lent _ _) hs hput hold hlent)
      · simp only [ma_realloc, hsize, Arena.size_put]
      · exact hrelated.put_right hold trivial
      · simp only [ma_realloc]
        ring
      · intro k hk
        have hne : k ≠ j := fun heq => hk (heq ▸ huses)
        simp only [View.of, ma_realloc, Arena.get?_put_of_ne (Arena.lt_size_of_get? ht) hne]
  | some bytes =>
      have hlt := Arena.lt_size_of_get? ht
      rw [hsize] at hheld
      refine ⟨_, _, 0, .makes hsize hstep ?_ ?_ ?_ ?_ ?_ ?_⟩
      · simp only [ma_realloc, Option.map_some, BytePointer.add, Nat.zero_add, hsize]
        refine .moved (View.ext (y := .gone old) ?_ ?_ ?_ hlent)
          (View.ext (y := .made ((block.withHeader (intOfSize sz)).resized sz.toNat bytes) sz)
            ?_ ?_ ?_ hheld)
        all_goals
          simp only [View.of, View.gone, View.made, Arena.get?_alloc, Arena.get?_free,
            Arena.size_free, hsize, hrelated.size_eq, hs, Option.getD_some, if_pos,
            if_neg (Nat.ne_of_lt hlt)]
      · simp [ma_realloc]
      · simp [ma_realloc, hsize]
      · exact (hrelated.free j).alloc trivial
      · simp only [ma_realloc]
        ring
      · intro k hk hk'
        have hne : k ≠ j := fun heq => hk (heq ▸ huses)
        have hk'' : k ≠ t.state.blocks.size := hsize ▸ hk'
        simp only [View.of, ma_realloc, Arena.get?_alloc, Arena.get?_free, Arena.size_free,
          hrelated.size_eq, if_neg hne, if_neg hk', if_neg hk'']

/-- The block is freed. -/
theorem advance_free (hsize : s.blocks.size = t.state.blocks.size)
    (hrelated : Arena.Related (fun _ _ => True) t.requested t.state.blocks)
    (hview : View.of s t account j = .lent block old) (hlength : sizeofInt ≤ block.length)
    {effect : State → State} {next : State → Code State Answer}
    (hcode : Callback.free ⟨j, 0⟩ (.ret .freed) = .act effect next) :
    let call := .MemFreeCallback (some ⟨j, offset alignofMaxAlign⟩)
    ∃ t' here' owed', Advance alignofMaxAlign account call s t (.inl call)
      (sizeOfInt block.header) (effect s) (next s) t' here' owed' := by
  intro call
  have ht : t.state.blocks.get? j = some block := congrArg View.instant hview
  have hold : t.requested.get? j = some old := congrArg View.requested hview
  have hlent : account j = some ⟨old, true⟩ := congrArg View.held hview
  have hstep : allocatorStep alignofMaxAlign t call = _ := allocatorStep_free hold ht hlength
  have huses : Uses call (.inl call) j :=
    uses_argument (p := ⟨j, offset alignofMaxAlign⟩) rfl
  obtain ⟨rfl, rfl⟩ := Code.act.inj hcode
  refine ⟨_, _, 0, .answers (by simp) hstep ?_ ?_ ?_ ?_ ?_ ?_⟩
  · refine .freed (View.ext (y := .gone old) ?_ ?_ ?_ hlent)
    all_goals simp only [View.of, View.gone, ma_free, Arena.get?_free, if_pos]
  · simp [ma_free]
  · simp [ma_free, hsize]
  · exact hrelated.free j
  · simp only [ma_free]
    ring
  · intro k hk
    have hne : k ≠ j := fun heq => hk (heq ▸ huses)
    simp only [View.of, ma_free, Arena.get?_free, if_neg hne]

end Lent

/-- Every action of a callback. -/
theorem Stage.advance (h : Stage alignofMaxAlign (View.of s t account) call code here owed)
    (hsize : s.blocks.size = t.state.blocks.size)
    (hrelated : Arena.Related (fun _ _ => True) t.requested t.state.blocks)
    (hheld : account s.blocks.size = none)
    {effect : State → State} {next : State → Code State Answer}
    (hcode : code = .act effect next) :
    ∃ t' here' owed', Advance alignofMaxAlign account call s t here owed (effect s) (next s)
      t' here' owed' := by
  cases h with
  | malloc hcall hsz => exact advance_malloc hsize hrelated hheld hcall hsz hcode
  | mallocFailed hcall => cases hcode
  | count hcall hview hlength =>
      obtain ⟨rfl, rfl⟩ := Code.act.inj hcode
      exact ⟨t, _, 0, .hidden hsize hrelated (.box hcall hview hlength) rfl (by simp)
        fun _ _ => rfl⟩
  | box hcall hview hlength => exact advance_box hsize hrelated hcall hview hlength hcode
  | made hcall hview => cases hcode
  | freeNull => cases hcode
  | load hcall hsz hview => exact advance_load hsize hrelated hcall hsz hview hcode
  | rejected hcall hanswer hview => cases hcode
  | replace hsz hview hlength =>
      obtain ⟨rfl, rfl⟩ := Code.act.inj hcode
      exact ⟨t, _, _, .hidden hsize hrelated (.rebox hsz hview hlength) rfl (by ring)
        fun _ _ => rfl⟩
  | rebox hsz hview hlength => exact advance_rebox hsize hrelated hsz hview hlength hcode
  | realloc hsz hview hlength =>
      exact advance_realloc hsize hrelated hheld hsz hview hlength hcode
  | moved hold hnew => cases hcode
  | subtract hview hlength =>
      obtain ⟨rfl, rfl⟩ := Code.act.inj hcode
      exact ⟨t, _, _, .hidden hsize hrelated (.free hview hlength) rfl (by ring)
        fun _ _ => rfl⟩
  | free hview hlength => exact advance_free hsize hrelated hview hlength hcode
  | freed hview => cases hcode

end Advance

/-! ## A call returns -/

theorem returned_of_rejected {account : Account} {call : Call} {answer : Answer}
    {p : BytePointer} (hcall : call.argument = some p)
    (hanswer : answer = .undefined ∨ answer = .pointer none ∧ ∃ sz, call.size? = some sz) :
    account.returned call answer =
      Function.update account p.block ((account p.block).map fun held => ⟨held.size, false⟩) := by
  cases call with
  | MemAllocCallback sz outcome => simp [Call.argument] at hcall
  | MemReallocCallback q sz outcome =>
      obtain rfl : q = some p := hcall
      rcases hanswer with rfl | ⟨rfl, _⟩ <;> rfl
  | MemFreeCallback q =>
      obtain rfl : q = some p := hcall
      rcases hanswer with rfl | ⟨_, sz, hsz⟩
      · rfl
      · simp [Call.size?] at hsz

theorem returned_of_allocation {account : Account} {call : Call} {sz : UInt64}
    {outcome : Option (Memory UInt8)} (hcall : call.allocation = some (sz, outcome))
    (p : Option BytePointer) :
    account.returned call (.pointer p) =
      match p with
      | none => account
      | some p => Function.update account p.block (some ⟨sz, false⟩) := by
  rcases call.allocation_cases hcall with rfl | rfl
  · cases p <;> rfl
  · cases p <;> rfl

theorem uses_of_allocation {call : Call} {here : Call ⊕ Answer} {sz : UInt64} {j : ℕ}
    {outcome : Option (Memory UInt8)} (hcall : call.allocation = some (sz, outcome)) :
    Uses call here j ↔ ∃ p, here = .inr (.pointer (some p)) ∧ p.block = j := by
  have hargument : call.argument = none := by
    rcases call.allocation_cases hcall with rfl | rfl <;> rfl
  simp [Uses, hargument]

/-- What a call has in its hands goes back to the clients. -/
def HandsBack (s : State) (t : Tracked) (account : Account) (call : Call) (here : Call ⊕ Answer)
    (account' : Account) : Prop :=
  (∀ j, Uses call here j → (View.of s t account' j).Settled) ∧
    ∀ j, ¬ Uses call here j → account' j = account j

/-- A call with one block in its hands. -/
theorem handsBack_update {s : State} {t : Tracked} {account : Account} {call : Call}
    {here : Call ⊕ Answer} {k : ℕ} {x : Option Holding} {size : Option UInt64}
    (huses : ∀ j, Uses call here j ↔ j = k) (hblock : s.blocks.get? k = t.state.blocks.get? k)
    (hsize : t.requested.get? k = size) (hx : x = size.map fun size => ⟨size, false⟩) :
    HandsBack s t account call here (Function.update account k x) := by
  constructor
  · intro j hj
    obtain rfl := (huses j).mp hj
    exact ⟨hblock, by rw [View.of, Function.update_self, hsize, hx]⟩
  · intro j hj
    exact Function.update_of_ne (fun heq => hj ((huses j).mpr heq)) ..

theorem uses_rejected {call : Call} {answer : Answer} {p : BytePointer}
    (hcall : call.argument = some p) (hanswer : ∀ q, answer ≠ .pointer (some q)) (j : ℕ) :
    Uses call (.inr answer) j ↔ j = p.block := by
  simp [Uses, hcall, hanswer, eq_comm]

/-- A call that returns. -/
theorem Stage.ret {s : State} {t : Tracked} {account : Account} {call : Call}
    {code : Code State Answer} {here : Call ⊕ Answer} {owed : UInt64}
    (h : Stage alignofMaxAlign (View.of s t account) call code here owed) {answer : Answer}
    (hcode : code = .ret answer) :
    here = .inr answer ∧ owed = 0 ∧
      HandsBack s t account call here (account.returned call answer) := by
  cases h with
  | malloc hcall hsz => cases hcode
  | mallocFailed hcall =>
      obtain rfl := Code.ret.inj hcode
      refine ⟨rfl, rfl, fun j hj => ?_, fun j _ => by rw [returned_of_allocation hcall]⟩
      simp [uses_of_allocation hcall] at hj
  | count hcall hview hlength => cases hcode
  | box hcall hview hlength => cases hcode
  | made hcall hview =>
      obtain rfl := Code.ret.inj hcode
      rw [returned_of_allocation hcall]
      refine ⟨rfl, rfl, handsBack_update ?_ ?_ (congrArg View.requested hview) rfl⟩
      · simp [uses_of_allocation hcall, eq_comm]
      · exact (congrArg View.block hview).trans (congrArg View.instant hview).symm
  | freeNull =>
      obtain rfl := Code.ret.inj hcode
      refine ⟨rfl, rfl, fun j hj => ?_, fun j _ => rfl⟩
      simp [Uses, Call.argument] at hj
  | @load _ j _ _ hcall hsz hview =>
      cases call with
      | MemAllocCallback sz outcome => cases hcode
      | MemReallocCallback p sz outcome =>
          obtain rfl : p = some ⟨j, offset alignofMaxAlign⟩ := hcall
          cases hcode
      | MemFreeCallback p =>
          obtain rfl : p = some ⟨j, offset alignofMaxAlign⟩ := hcall
          cases hcode
  | @rejected _ answer' k block old hcall hanswer hview =>
      obtain rfl := Code.ret.inj hcode
      have hlent : account k = some ⟨old, true⟩ := congrArg View.held hview
      rw [returned_of_rejected hcall hanswer]
      refine ⟨rfl, rfl, handsBack_update (uses_rejected hcall ?_) ?_
        (congrArg View.requested hview) (by rw [hlent]; rfl)⟩
      · rcases hanswer with rfl | ⟨rfl, _⟩ <;> simp
      · exact (congrArg View.block hview).trans (congrArg View.instant hview).symm
  | replace hsz hview hlength => cases hcode
  | rebox hsz hview hlength => cases hcode
  | realloc hsz hview hlength => cases hcode
  | @moved sz _ j k block old hold hnew =>
      obtain rfl := Code.ret.inj hcode
      have hne : j ≠ k := by
        rintro rfl
        simp [hold, View.gone, View.made] at hnew
      refine ⟨rfl, rfl, ?_, ?_⟩
      · rintro i (⟨p, hp, rfl⟩ | ⟨p, hp, rfl⟩)
        · obtain rfl : _ = p := Option.some.inj hp
          refine ⟨(congrArg View.block hold).trans (congrArg View.instant hold).symm, ?_⟩
          have hgone : t.requested.get? j = none := congrArg View.requested hold
          simp [View.of, Account.returned, Function.update_of_ne hne, hgone]
        · obtain rfl : _ = p := by simpa using hp
          refine ⟨(congrArg View.block hnew).trans (congrArg View.instant hnew).symm, ?_⟩
          have hmade : t.requested.get? k = some sz := congrArg View.requested hnew
          simp [View.of, Account.returned, hmade]
      · intro i hi
        have hij : i ≠ j := by
          rintro rfl
          exact hi (uses_argument (p := ⟨i, offset alignofMaxAlign⟩) rfl)
        have hik : i ≠ k := by
          rintro rfl
          exact hi (uses_made (p := ⟨i, offset alignofMaxAlign⟩))
        simp [Account.returned, Function.update_of_ne hij, Function.update_of_ne hik]
  | subtract hview hlength => cases hcode
  | free hview hlength => cases hcode
  | freed hview =>
      obtain rfl := Code.ret.inj hcode
      refine ⟨rfl, rfl, handsBack_update (uses_rejected rfl (by simp)) ?_
        (congrArg View.requested hview) rfl⟩
      exact (congrArg View.block hview).trans (congrArg View.instant hview).symm

/-! ## A call is made -/

/-- What the clients hold of a block that a call is working on. -/
theorem Stage.held {view : ℕ → View} {call : Call} {code : Code State Answer}
    {here : Call ⊕ Answer} {owed : UInt64}
    (h : Stage alignofMaxAlign view call code here owed) {j : ℕ} (huses : Uses call here j) :
    (view j).held = none ∨ ∃ old, (view j).held = some ⟨old, true⟩ := by
  rcases huses with ⟨p, hp, rfl⟩ | ⟨p, rfl, rfl⟩
  · -- the block that was passed is lent
    right
    cases h with
    | malloc hcall | mallocFailed hcall | count hcall | box hcall | made hcall =>
        rcases call.allocation_cases hcall with rfl | rfl <;> simp [Call.argument] at hp
    | freeNull => simp [Call.argument] at hp
    | load hcall _ hview | rejected hcall _ hview =>
        obtain rfl := Option.some.inj (hcall.symm.trans hp)
        exact ⟨_, congrArg View.held hview⟩
    | replace _ hview | rebox _ hview | realloc _ hview | moved hview | subtract hview
    | free hview | freed hview =>
        obtain rfl := Option.some.inj hp
        exact ⟨_, congrArg View.held hview⟩
  · -- the new block is nobody's yet
    left
    cases h with
    | count _ hview | box _ hview | made _ hview | moved _ hview => exact congrArg View.held hview
    | rejected _ hanswer => simp at hanswer

/-- What the clients' rules say of a call. -/
theorem may_eq_true_iff {account : Account} {call : Call} :
    (client alignofMaxAlign).may account call = true ↔
      (∀ p, call.argument = some p →
        p.byte = offset alignofMaxAlign ∧ ∃ size, account p.block = some ⟨size, false⟩) ∧
      ∀ sz, call.size? = some sz → sz.toNat + offset alignofMaxAlign < 2 ^ 64 := by
  simp only [client, Bool.and_eq_true, Option.all_eq_true, Option.any_eq_true, beq_iff_eq,
    Bool.not_eq_true', decide_eq_true_eq]
  refine and_congr_left' (forall₂_congr fun p _ => and_congr_right' ?_)
  constructor
  · rintro ⟨⟨size, lent⟩, hheld, rfl⟩
    exact ⟨size, hheld⟩
  · rintro ⟨size, hheld⟩
    exact ⟨⟨size, false⟩, hheld, rfl⟩

/-! ## The simulation -/

/-- How the callbacks are followed.  The note of a thread is what the counter is
still to be given for its call. -/
def tracking (alignofMaxAlign : ℕ) :
    Tracking State Tracked Account (Code State Answer) Call Answer ℕ View UInt64 Unit where
  view := View.of
  Settled := View.Settled
  Free view := ∃ size, view.held = some ⟨size, false⟩
  Born s j := j < s.blocks.size
  Uses := Uses
  own _ _ := ()
  blank := 0
  Stage view _ := Stage alignofMaxAlign view

/-- The counters differ by what is owed. -/
structure Shared {ι : Type*} [Fintype ι] (s : State) (t : Tracked) (owed : ι → UInt64) : Prop where
  size : s.blocks.size = t.state.blocks.size
  related : Arena.Related (fun _ _ => True) t.requested t.state.blocks
  counter : s.sMemoryUsedByEngine + ∑ i, owed i = t.state.sMemoryUsedByEngine

section Simulates

variable {ι : Type*} [Fintype ι]

theorem sum_update [DecidableEq ι] (f : ι → UInt64) (i : ι) (x : UInt64) :
    ∑ k, Function.update f i x k = ∑ k, f k + (x - f i) := by
  rw [Finset.sum_update_of_mem (Finset.mem_univ i), ← Finset.sum_sdiff (Finset.subset_univ {i}),
    Finset.sum_singleton]
  ring

/-- What one call still owes changes with its step. -/
theorem Shared.update [DecidableEq ι] {s s' : State} {t t' : Tracked} {owed : ι → UInt64}
    (h : Shared s t owed) (i : ι) {owed' : UInt64} (hsize : s'.blocks.size = t'.state.blocks.size)
    (hrelated : Arena.Related (fun _ _ => True) t'.requested t'.state.blocks)
    (hcounter : t'.state.sMemoryUsedByEngine - t.state.sMemoryUsedByEngine =
      s'.sMemoryUsedByEngine - s.sMemoryUsedByEngine + (owed' - owed i)) :
    Shared s' t' (Function.update owed i owed') where
  size := hsize
  related := hrelated
  counter := by
    have hsum := h.counter
    rw [sum_update]
    linear_combination hsum - hcounter

/-- The next block is in nobody's account. -/
theorem Shared.held_size {s : State} {t : Tracked} {owed : ι → UInt64} (h : Shared s t owed)
    {account : Account} (hunborn : ∀ j, ¬ j < s.blocks.size → (View.of s t account j).Settled) :
    account s.blocks.size = none := by
  have hsettled := hunborn s.blocks.size (Nat.lt_irrefl _)
  have hrequested : t.requested.get? s.blocks.size = none :=
    Arena.get?_of_size_le (by rw [h.related.size_eq, h.size])
  exact hsettled.2.trans (by rw [View.of, hrequested]; rfl)

/-- Both machines have the block that a client may pass. -/
theorem Shared.lendable {s : State} {t : Tracked} {owed : ι → UInt64} (h : Shared s t owed)
    {account : Account} {j : ℕ} {size : UInt64} (hheld : account j = some ⟨size, false⟩)
    (hsettled : (View.of s t account j).Settled) :
    ∃ block, s.blocks.get? j = some block ∧ t.state.blocks.get? j = some block ∧
      t.requested.get? j = some size := by
  obtain ⟨hblock, hrequested⟩ := hsettled
  have hold : t.requested.get? j = some size := by
    cases hget : t.requested.get? j with
    | none => simp [View.of, hget, hheld] at hrequested
    | some old =>
        simp [View.of, hget, hheld] at hrequested
        rw [hrequested]
  obtain ⟨block, hinstant, _⟩ := h.related.exists_right hold
  exact ⟨block, Eq.trans hblock hinstant, hinstant, hold⟩

/-- Where a call that is allowed starts.  A call that frees null is over at
once. -/
theorem begins {s : State} {t : Tracked} {owed : ι → UInt64} (h : Shared s t owed)
    {account : Account} {call : Call} (hmay : (client alignofMaxAlign).may account call = true)
    (hsettled : ∀ j, (∃ size, account j = some ⟨size, false⟩) → (View.of s t account j).Settled) :
    ∃ here, (tracking alignofMaxAlign).Begins (allocatorStep alignofMaxAlign)
      (call.code alignofMaxAlign) account ((client alignofMaxAlign).called account call) s t call
      here := by
  obtain ⟨hpointer, hsz⟩ := may_eq_true_iff.mp hmay
  cases hargument : call.argument with
  | none =>
      have hcalled : (client alignofMaxAlign).called account call = account := by
        simp only [client, hargument]
      rw [hcalled]
      have hnone : ∀ j, ¬ Uses call (.inl call) j := by simp [Uses, hargument]
      cases call with
      | MemAllocCallback sz outcome =>
          exact ⟨_, Or.inl rfl, .malloc rfl (hsz sz rfl), fun _ _ => rfl,
            fun j hj => absurd hj (hnone j)⟩
      | MemReallocCallback p sz outcome =>
          obtain rfl : p = none := hargument
          exact ⟨_, Or.inl rfl, .malloc rfl (hsz sz rfl), fun _ _ => rfl,
            fun j hj => absurd hj (hnone j)⟩
      | MemFreeCallback p =>
          obtain rfl : p = none := hargument
          refine ⟨.inr .freed, Or.inr ⟨_, rfl, allocatorStep_freeNull⟩, .freeNull,
            fun _ _ => rfl, fun j hj => ?_⟩
          simp [tracking, Uses, Call.argument] at hj
  | some p =>
      obtain ⟨hbyte, size, hheld⟩ := hpointer p hargument
      obtain ⟨j, byte⟩ := p
      obtain rfl : byte = offset alignofMaxAlign := hbyte
      obtain ⟨block, hblock, hinstant, hold⟩ := h.lendable hheld (hsettled j ⟨size, hheld⟩)
      have hcalled : (client alignofMaxAlign).called account call =
          Function.update account j (some ⟨size, true⟩) := by
        simp only [client, hargument, hheld, Option.map_some]
      have huses : ∀ k, Uses call (.inl call) k ↔ k = j := by
        simp [Uses, hargument, eq_comm]
      rw [hcalled]
      have hview : View.of s t (Function.update account j (some ⟨size, true⟩)) j =
          .lent block size :=
        View.ext hblock hinstant hold (Function.update_self ..)
      refine ⟨_, Or.inl rfl, .load hargument hsz hview, fun k hk => ?_, fun k hk => ?_⟩
      · have hne : k ≠ j := fun heq => hk ((huses k).mpr heq)
        simp only [tracking, View.of, Function.update_of_ne hne]
      · obtain rfl := (huses k).mp hk
        exact ⟨⟨size, hheld⟩, Arena.lt_size_of_get? hblock⟩

/-- The code of the callbacks can be followed. -/
theorem sound [DecidableEq ι] (alignofMaxAlign : ℕ) :
    (tracking alignofMaxAlign).Sound (codeOperation (Call.code alignofMaxAlign))
      (allocatorStep alignofMaxAlign) (client alignofMaxAlign) (Shared (ι := ι)) where
  congr h hview := Stage.congr h hview
  busy h huses := by
    rintro ⟨size, hfree⟩
    rcases Stage.held h huses with hnone | ⟨old, hlent⟩
    · simp [hnone] at hfree
    · simp [hlent] at hfree
  begins h hmay hsettled := begins h hmay hsettled
  advance := by
    intro account s s' t owed i call code code' here h hunborn hstage hact
    obtain ⟨effect, next, rfl, rfl, rfl⟩ := codeOperation_act_eq_some.mp hact
    obtain ⟨t', here', owed', hadvance⟩ :=
      Stage.advance hstage h.size h.related (h.held_size hunborn) rfl
    refine ⟨t', here', owed', ⟨hadvance.served, hadvance.stage, hadvance.frame, hadvance.uses,
      fun j hj => ?_, fun j hj => Nat.lt_of_lt_of_le hj hadvance.grows⟩,
      h.update i hadvance.size hadvance.related hadvance.counter, fun _ _ => rfl⟩
    rcases hadvance.fresh j hj with huses | ⟨rfl, hlt⟩
    · exact Or.inl huses
    · exact Or.inr ⟨Nat.lt_irrefl _, hlt⟩
  handsBack := by
    intro account s t call answer code here _ owed hstage hresult
    obtain ⟨hserved, howed, hsettled, hframe⟩ :=
      Stage.ret hstage (codeOperation_result_eq_some.mp hresult)
    refine ⟨hserved, howed, hsettled, fun j hj => ?_⟩
    show View.of s t (account.returned call answer) j = View.of s t account j
    rw [View.of, View.of, hframe j hj]

/-! ## Runs -/

/-- Every interleaving is matched by one of the instant machine. -/
theorem exists_instant_run [DecidableEq ι] {schedule : List (Event ι Call)} {last : Running ι}
    {marks : List (Option (Mark ι Call Answer))}
    (hrun : run (callbackStep alignofMaxAlign)
      (Threads.idle State.empty fun _ => none) schedule = some (last, marks)) :
    ∃ events marks' a, run (instantStep alignofMaxAlign)
        (Threads.idle Tracked.empty fun _ => none) events = some (a, marks') ∧
      history marks' = history marks ∧
      ∃ owed, (tracking alignofMaxAlign).Simulates Shared last a owed :=
  (sound alignofMaxAlign).exists_instant_run (fun _ => ⟨rfl, rfl⟩)
    ⟨rfl, .empty, by simp [State.empty, Tracked.empty, tracking]⟩ hrun

/-- Where no call is under way, the two machines agree. -/
theorem eq_of_quiet {c : Running ι} {a : Instant ι} {owed : ι → UInt64}
    (h : (tracking alignofMaxAlign).Simulates Shared c a owed) (hquiet : c.Quiet) :
    a.Quiet ∧ a.state.state = c.state ∧
      ∀ j, c.account j = (a.state.requested.get? j).map fun size => ⟨size, false⟩ := by
  obtain ⟨haquiet, hsettled, hshared⟩ := h.of_quiet hquiet
  refine ⟨haquiet, ?_, fun j => (hsettled j).2⟩
  have hcounter : c.state.sMemoryUsedByEngine = a.state.state.sMemoryUsedByEngine := by
    simpa [tracking] using hshared.counter
  have hblocks : c.state.blocks = a.state.state.blocks :=
    Arena.ext_get? hshared.size fun j => (hsettled j).1
  obtain ⟨⟨blocks, counter⟩, account, pending⟩ := c
  obtain ⟨⟨⟨blocks', counter'⟩, requested⟩, account', pending'⟩ := a
  exact congrArg₂ State.mk hblocks.symm hcounter.symm

/-- Whatever a number of threads see of the callbacks, they see of callbacks
that run at one instant each, between the call and its return.  Where no call is
under way, the blocks and the counter are those of the instant calls. -/
theorem callbacks_linearizable [DecidableEq ι] (alignofMaxAlign : ℕ)
    (schedule : List (Event ι Call)) {last : Running ι}
    {marks : List (Option (Mark ι Call Answer))}
    (hrun : run (callbackStep alignofMaxAlign)
      (Threads.idle State.empty fun _ => none) schedule = some (last, marks)) :
    ∃ events marks' a, run (instantStep alignofMaxAlign)
        (Threads.idle Tracked.empty fun _ => none) events = some (a, marks') ∧
      history marks' = history marks ∧
      (last.Quiet → a.Quiet ∧ a.state.state = last.state ∧
        ∀ j, last.account j = (a.state.requested.get? j).map fun size => ⟨size, false⟩) := by
  obtain ⟨events, marks', a, hinstant, hhistory, owed, h⟩ := exists_instant_run hrun
  exact ⟨events, marks', a, hinstant, hhistory, eq_of_quiet h⟩

/-- Two threads that allocate at once. -/
theorem two_threads_allocate :
    let schedule : List (Event (Fin 2) Call) := [.call 0 (.MemAllocCallback 8 (some fun _ => 0)),
      .call 1 (.MemAllocCallback 100 (some fun _ => 0)), .act 0, .act 1, .act 1, .act 0, .act 1,
      .ret 1, .act 0, .ret 0]
    ∃ last marks, run (callbackStep 16) (Threads.idle State.empty fun _ => none) schedule =
        some (last, marks) ∧ last.state.sMemoryUsedByEngine = 108 ∧
      ∃ events marks' a, run (instantStep 16)
          (Threads.idle Tracked.empty fun _ => none) events = some (a, marks') ∧
        history marks' = history marks ∧
        (last.Quiet → a.Quiet ∧ a.state.state = last.state ∧
          ∀ j, last.account j = (a.state.requested.get? j).map fun size => ⟨size, false⟩) := by
  intro schedule
  exact ⟨_, _, rfl, rfl, callbacks_linearizable 16 schedule rfl⟩

end Simulates

end MiniaudioCpp.Allocator
