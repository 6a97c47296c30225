import MiniaudioCpp.Allocator.Linearizable

/-!
# The account of the counter across threads

`sMemoryUsedByEngine` is right for one thread as long as the headers hold.  As
every interleaving is one of instant calls, it is right for any number of them
wherever no call is under way: nothing is lost between the read of a header and
the change of the counter.  What the clients have to keep to is that the sizes
fit an `int` and that a reallocation succeeds and leaves room for the header
(`Call.Fits`).
-/

namespace MiniaudioCpp.Allocator

open Foundation

variable {alignofMaxAlign : ℕ} {t t' : Tracked} {call : Call} {answer : Answer}

/-! ## The condition -/

/-- The size fits an `int`; a reallocation of a block succeeds, and leaves room
for the header. -/
def Call.Fits : Call → Prop
  | .MemAllocCallback sz _ => FitsInt sz
  | .MemReallocCallback none sz _ => FitsInt sz
  | .MemReallocCallback (some _) sz outcome =>
      FitsInt sz ∧ sizeofInt ≤ sz.toNat ∧ outcome.isSome = true
  | .MemFreeCallback _ => True

/-- The sizes of the blocks that the clients hold, added up. -/
def Account.total (account : Account) (n : ℕ) : ℕ :=
  ((List.range n).map fun j => ((account j).map fun held => held.size.toNat).getD 0).sum

/-! ## One call -/

/-- The headers are in order, each block has room for its header, and each size
fits an `int`. -/
structure Steady (t : Tracked) : Prop where
  headers : Headers t
  fits : Arena.Related (fun old block => FitsInt old ∧ sizeofInt ≤ block.length)
    t.requested t.state.blocks

theorem Steady.empty : Steady Tracked.empty := ⟨.empty, .empty⟩

theorem Steady.fits_of_live (h : Steady t) {j : ℕ} {block : Block} {old : UInt64}
    (hblock : t.state.blocks.get? j = some block) (hold : t.requested.get? j = some old) :
    sizeofInt ≤ block.length ∧ FitsInt old := by
  obtain ⟨block', hblock', hfits, hlength⟩ := h.fits.exists_right hold
  obtain rfl := Option.some.inj (hblock.symm.trans hblock')
  exact ⟨hlength, hfits⟩

theorem Steady.headerHolds (h : Steady t) (hcall : call.Fits) :
    HeaderHolds t call answer t' := by
  cases call with
  | MemAllocCallback sz outcome => trivial
  | MemReallocCallback p sz outcome =>
      cases p with
      | none => trivial
      | some p =>
          obtain ⟨bytes, rfl⟩ := Option.isSome_iff_exists.mp hcall.2.2
          exact fun block old hblock hold => h.fits_of_live hblock hold
  | MemFreeCallback p =>
      cases p with
      | none => trivial
      | some p => exact fun block old hblock hold => h.fits_of_live hblock hold

theorem fits_of_allocation {sz : UInt64} {outcome : Option (Memory UInt8)}
    (hcall : call.allocation = some (sz, outcome)) (hfits : call.Fits) : FitsInt sz := by
  rcases call.allocation_cases hcall with rfl | rfl
  · exact hfits
  · exact hfits

/-- A call that fits keeps the headers in order, and it finds one. -/
theorem Steady.step (h : Steady t) (hcall : call.Fits)
    (hstep : allocatorStep alignofMaxAlign t call = some (t', answer)) :
    Steady t' ∧ answer ≠ .undefined := by
  obtain ⟨hiff, hkeep⟩ := accounted_iff_headerHolds h.headers hstep
  have haccounted := hiff.mpr (h.headerHolds hcall)
  refine ⟨⟨hkeep haccounted, ?_⟩, haccounted.defined⟩
  cases served_of_step h.fits hstep with
  | allocFails _ => exact h.fits
  | alloc hallocation =>
      exact h.fits.alloc ⟨fits_of_allocation hallocation hcall,
        Nat.le_add_left_of_le (Nat.le_max_left ..)⟩
  | reallocFails sz _ _ _ => simp [Call.Fits] at hcall
  | realloc sz bytes _ _ _ => exact (h.fits.free _).alloc ⟨hcall.1, hcall.2.1⟩
  | freeNull => exact h.fits
  | free _ _ _ => exact h.fits.free _
  | undefined _ _ _ _ => exact h.fits

/-! ## The instant machine -/

section Instant

variable {ι : Type*} [DecidableEq ι] {a a' : Instant ι} {event : Event ι Call}
  {mark : Option (Mark ι Call Answer)}

/-- A call to be run fits, and one that was run had a header where it needed
one. -/
def LocalFits : Call ⊕ Answer → Prop
  | .inl call => call.Fits
  | .inr answer => answer ≠ .undefined

/-- The instant machine with calls that fit. -/
structure SteadyInstant (a : Instant ι) : Prop where
  steady : Steady a.state
  pending : ∀ i call here, a.pending i = some (call, here) → LocalFits here

/-- The call that an event makes fits. -/
def EventFits (event : Event ι Call) : Prop := ∀ i call, event = .call i call → call.Fits

theorem SteadyInstant.update (h : SteadyInstant a) {t' : Tracked} (hsteady : Steady t')
    (account : Account) (i : ι) {x : Option (Call × (Call ⊕ Answer))}
    (hx : ∀ call here, x = some (call, here) → LocalFits here) :
    SteadyInstant ⟨t', account, Function.update a.pending i x⟩ where
  steady := hsteady
  pending k call here hk := by
    by_cases hki : k = i
    · subst hki
      simp only [Function.update_self] at hk
      exact hx call here hk
    · simp only [Function.update_of_ne hki] at hk
      exact h.pending k call here hk

theorem SteadyInstant.step (h : SteadyInstant a) (hfits : EventFits event)
    (hstep : instantStep alignofMaxAlign a event = some (a', mark)) :
    SteadyInstant a' ∧ ∀ i, mark ≠ some (.returned i .undefined) := by
  cases event with
  | call i call =>
      obtain ⟨_, _, rfl, rfl⟩ := threadStep_call_eq_some.mp hstep
      refine ⟨h.update h.steady _ i ?_, by simp⟩
      rintro _ _ ⟨rfl, rfl⟩
      exact hfits i call rfl
  | act i =>
      obtain ⟨call, here, t', here', hpending, hact, rfl, rfl⟩ :=
        threadStep_act_eq_some.mp hstep
      cases here with
      | inr answer => simp [atomicOperation] at hact
      | inl call' =>
          simp only [atomicOperation, Option.map_eq_some_iff, Prod.exists, Prod.mk.injEq] at hact
          obtain ⟨_, answer, hserve, rfl, rfl⟩ := hact
          obtain ⟨hsteady, hdefined⟩ := h.steady.step (h.pending i call _ hpending) hserve
          refine ⟨h.update hsteady _ i ?_, by simp⟩
          rintro _ _ ⟨rfl, rfl⟩
          exact hdefined
  | ret i =>
      obtain ⟨call, here, answer, hpending, hresult, rfl, rfl⟩ := threadStep_ret_eq_some.mp hstep
      refine ⟨h.update h.steady _ i (by simp), fun k heq => ?_⟩
      simp only [Option.some.injEq, Mark.returned.injEq] at heq
      obtain ⟨_, rfl⟩ := heq
      cases here with
      | inl call' => simp [atomicOperation] at hresult
      | inr answer =>
          obtain rfl := Option.some.inj hresult
          exact h.pending i call _ hpending rfl

end Instant

/-! ## Every interleaving -/

section Threads

variable {ι : Type*} [Fintype ι] [DecidableEq ι]

/-- The clients' account is the one of the calls run one after the other. -/
theorem total_eq_of_settled {account : Account} {requested : Arena UInt64}
    (h : ∀ j, account j = (requested.get? j).map fun size => ⟨size, false⟩) :
    account.total requested.size = requested.total UInt64.toNat := by
  rw [Arena.total_eq_sum_range]
  refine congrArg List.sum (List.map_congr_left fun j _ => ?_)
  rw [h j]
  cases requested.get? j <;> rfl

/-- With calls that fit, no thread meets a block without a header, and wherever
no call is under way the counter is the sum of the sizes that the clients
hold. -/
theorem counter_eq_sum_of_quiet (alignofMaxAlign : ℕ) (schedule : List (Event ι Call))
    (hfits : ∀ i call, .call i call ∈ schedule → call.Fits) {last : Running ι}
    {marks : List (Option (Mark ι Call Answer))}
    (hrun : run (callbackStep alignofMaxAlign)
      (Threads.idle State.empty fun _ => none) schedule = some (last, marks)) :
    (∀ i, .returned i .undefined ∉ history marks) ∧
      (last.Quiet → last.state.sMemoryUsedByEngine.toNat =
        last.account.total last.state.blocks.size % 2 ^ 64) := by
  obtain ⟨events, marks', a, hinstant, hhistory, owed, h⟩ := exists_instant_run hrun
  have hevents : ∀ event ∈ events, EventFits event := by
    rintro event hmem i call rfl
    refine hfits i call ((called_mem_history hrun i call).mp ?_)
    rw [← hhistory]
    exact (called_mem_history hinstant i call).mpr hmem
  have hidle : SteadyInstant (Threads.idle Tracked.empty (fun _ => none) : Instant ι) :=
    ⟨.empty, by simp [Threads.idle]⟩
  have halong : Along (instantStep alignofMaxAlign) (fun _ event _ _ => EventFits event)
      (Threads.idle Tracked.empty fun _ => none) events :=
    along_of_mem (fun event hmem _ _ _ => hevents event hmem) _
  have hsteady := run_invariant_of_along
    (fun _ _ _ _ h hstep hfits => (h.step hfits hstep).1) hidle halong hinstant
  have hdefined := along_of_along (P := fun _ _ mark _ => ∀ i, mark ≠ some (.returned i .undefined))
    (fun _ _ _ _ h hstep hfits => (h.step hfits hstep).symm) hidle halong
  constructor
  · intro i hmem
    rw [← hhistory, mem_history] at hmem
    obtain ⟨_, _, _, hnot⟩ := mem_answers_of_along hdefined hinstant hmem
    exact hnot i rfl
  · intro hquiet
    obtain ⟨_, hstate, haccount⟩ := eq_of_quiet h hquiet
    have hcounted := hsteady.steady.headers.counted
    rw [Counted, hstate] at hcounted
    rw [hcounted, h.shared.size, ← h.shared.related.size_eq, total_eq_of_settled haccount]

/-- One thread frees its block while another grows its own. -/
theorem two_threads_counter :
    let schedule : List (Event (Fin 2) Call) := [.call 0 (.MemAllocCallback 8 (some fun _ => 0)),
      .call 1 (.MemAllocCallback 100 (some fun _ => 0)), .act 0, .act 1, .act 1, .act 0, .act 0,
      .act 1, .ret 1, .ret 0, .call 0 (.MemFreeCallback (some ⟨0, 16⟩)),
      .call 1 (.MemReallocCallback (some ⟨1, 16⟩) 200 (some fun _ => 0)), .act 1, .act 0, .act 0,
      .act 1, .act 1, .act 0, .act 1, .ret 0, .ret 1]
    ∃ last marks, run (callbackStep 16) (Threads.idle State.empty fun _ => none) schedule =
        some (last, marks) ∧ last.account.total last.state.blocks.size = 200 ∧
      (∀ i, .returned i .undefined ∉ history marks) ∧
      (last.Quiet → last.state.sMemoryUsedByEngine.toNat =
        last.account.total last.state.blocks.size % 2 ^ 64) := by
  intro schedule
  refine ⟨_, _, rfl, rfl, counter_eq_sum_of_quiet 16 schedule ?_ rfl⟩
  intro i call hmem
  simp only [schedule, List.mem_cons, Event.call.injEq, reduceCtorEq, List.not_mem_nil, or_false,
    false_or] at hmem
  rcases hmem with ⟨_, rfl⟩ | ⟨_, rfl⟩ | ⟨_, rfl⟩ | ⟨_, rfl⟩
  · exact Or.inl (by decide)
  · exact Or.inl (by decide)
  · trivial
  · exact ⟨Or.inl (by decide), by decide, rfl⟩

end Threads

end MiniaudioCpp.Allocator
