import MiniaudioCpp.Foundation.Histories

/-!
# Calls that have what they work on to themselves

An object that several threads use is followed against calls that run at one
instant each.  A call has some items in its hands that no other call touches; an
item that is in nobody's hands looks the same in both machines.  A `Tracking`
says what an item looks like, which items a call has in its hands, and where a
call can be on its way.  A thread also keeps a note, of what it still owes to the
state that all share, or of what it has made and not yet handed over.

What is left to prove about an object is `Tracking.Sound`: how a call begins,
that each of its steps leads to a next stage, and that a call which returns
hands back what it had.  Then every run is one of the instant machine
(`Tracking.Sound.exists_instant_run`).
-/

namespace Foundation

/-- How calls are followed. -/
structure Tracking (State Abstract Account Local Call Answer Item View Note Own : Type*) where
  /-- What an item is in the two machines and in the clients' account. -/
  view : State → Abstract → Account → Item → View
  /-- An item that is in nobody's hands. -/
  Settled : View → Prop
  /-- An item that a client may pass to a call. -/
  Free : View → Prop
  /-- The item exists. -/
  Born : State → Item → Prop
  /-- The items in the hands of a call. -/
  Uses : Call → Call ⊕ Answer → Item → Prop
  /-- What a thread with a note sees of the state besides the items. -/
  own : State → Note → Own
  /-- The note of a thread that has not called. -/
  blank : Note
  /-- Where a call can be: on its way, for the instant machine, and its note. -/
  Stage : (Item → View) → Own → Call → Local → Call ⊕ Answer → Note → Prop

namespace Tracking

variable {ι State Abstract Account Local Call Answer Item View Note Own : Type*}
  (T : Tracking State Abstract Account Local Call Answer Item View Note Own)

/-! ## What is to be proved of an object -/

/-- What a step of one call does in the two machines.  The instant machine
stands still, or it runs the whole call. -/
structure Advance (step : Abstract → Call → Option (Abstract × Answer)) (account : Account)
    (call : Call) (s : State) (t : Abstract) (here : Call ⊕ Answer)
    (s' : State) (way' : Local) (t' : Abstract) (here' : Call ⊕ Answer) (note' : Note) :
    Prop where
  served : (t' = t ∧ here' = here) ∨
    here = .inl call ∧ ∃ answer, here' = .inr answer ∧ step t call = some (t', answer)
  stage : T.Stage (T.view s' t' account) (T.own s' note') call way' here' note'
  frame : ∀ j, ¬ T.Uses call here' j → T.view s' t' account j = T.view s t account j
  uses : ∀ j, T.Uses call here j → T.Uses call here' j
  fresh : ∀ j, T.Uses call here' j → T.Uses call here j ∨ ¬ T.Born s j ∧ T.Born s' j
  grows : ∀ j, T.Born s j → T.Born s' j

/-- The call starts, with the items that the client passes to it.  A call that is
over at once has run for the instant machine too. -/
structure Begins (step : Abstract → Call → Option (Abstract × Answer)) (start : Local)
    (account account' : Account) (s : State) (t : Abstract) (call : Call) (here : Call ⊕ Answer) :
    Prop where
  served : here = .inl call ∨ ∃ answer, here = .inr answer ∧ step t call = some (t, answer)
  stage : T.Stage (T.view s t account') (T.own s T.blank) call start here T.blank
  frame : ∀ j, ¬ T.Uses call here j → T.view s t account' j = T.view s t account j
  free : ∀ j, T.Uses call here j → T.Free (T.view s t account j) ∧ T.Born s j

/-- The call hands back what it had. -/
structure HandsBack (account account' : Account) (s : State) (t : Abstract) (call : Call)
    (here : Call ⊕ Answer) (answer : Answer) (note : Note) : Prop where
  served : here = .inr answer
  note : note = T.blank
  settled : ∀ j, T.Uses call here j → T.Settled (T.view s t account' j)
  frame : ∀ j, ¬ T.Uses call here j → T.view s t account' j = T.view s t account j

variable [DecidableEq ι]

/-- The calls of an object can be followed.  `Shared` is what holds of the two
states and all notes. -/
structure Sound (operation : Operation State Local Call Answer)
    (step : Abstract → Call → Option (Abstract × Answer)) (client : Client Account Call Answer)
    (Shared : State → Abstract → (ι → Note) → Prop) : Prop where
  congr : ∀ {view view' own call way here note},
    T.Stage view own call way here note → (∀ j, T.Uses call here j → view' j = view j) →
      T.Stage view' own call way here note
  /-- What a call has in its hands is not for a client to pass. -/
  busy : ∀ {view own call way here note j},
    T.Stage view own call way here note → T.Uses call here j → ¬ T.Free (view j)
  begins : ∀ {account s t notes call}, Shared s t notes → client.may account call = true →
    (∀ j, T.Free (T.view s t account j) → T.Settled (T.view s t account j)) →
      ∃ here, T.Begins step (operation.start call) account (client.called account call) s t call
        here
  advance : ∀ {account s s' t notes i call way way' here}, Shared s t notes →
    (∀ j, ¬ T.Born s j → T.Settled (T.view s t account j)) →
    T.Stage (T.view s t account) (T.own s (notes i)) call way here (notes i) →
    operation.act s way = some (s', way') →
      ∃ t' here' note', T.Advance step account call s t here s' way' t' here' note' ∧
        Shared s' t' (Function.update notes i note') ∧
        ∀ k, k ≠ i → T.own s' (notes k) = T.own s (notes k)
  handsBack : ∀ {account s t call answer way here own note},
    T.Stage (T.view s t account) own call way here note → operation.result way = some answer →
      T.HandsBack account (client.returned account call answer) s t call here answer note

/-! ## The simulation -/

/-- Where one thread is in the two machines. -/
inductive Matched (view : Item → View) (own : Own) :
    Option (Call × Local) → Option (Call × (Call ⊕ Answer)) → Note → Prop
  | idle : Matched view own none none T.blank
  | busy {call : Call} {way : Local} {here : Call ⊕ Answer} {note : Note}
      (hstage : T.Stage view own call way here note) :
      Matched view own (some (call, way)) (some (call, here)) note

/-- The items that a thread's call works on. -/
def Works : Option (Call × (Call ⊕ Answer)) → Item → Prop
  | none, _ => False
  | some (call, here), j => T.Uses call here j

variable {T} {operation : Operation State Local Call Answer}
  {step : Abstract → Call → Option (Abstract × Answer)} {client : Client Account Call Answer}
  {Shared : State → Abstract → (ι → Note) → Prop} {c : Threads ι State Account Local Call}
  {a : Threads ι Abstract Account (Call ⊕ Answer) Call} {notes : ι → Note}

omit [DecidableEq ι] in
variable (T Shared) in
/-- The threads are at matching stages, no item is in the hands of two of them,
and an item that is in nobody's hands is settled. -/
structure Simulates (c : Threads ι State Account Local Call)
    (a : Threads ι Abstract Account (Call ⊕ Answer) Call) (notes : ι → Note) : Prop where
  matched : ∀ i, T.Matched (T.view c.state a.state c.account) (T.own c.state (notes i))
    (c.pending i) (a.pending i) (notes i)
  alone : ∀ i i' j, T.Works (a.pending i) j → T.Works (a.pending i') j → i = i'
  born : ∀ i j, T.Works (a.pending i) j → T.Born c.state j
  settled : ∀ j, (∀ i, ¬ T.Works (a.pending i) j) →
    T.Settled (T.view c.state a.state c.account j)
  account : a.account = c.account
  shared : Shared c.state a.state notes

/-- The items of a call are left alone by the other threads. -/
theorem Matched.congr (hsound : T.Sound operation step client Shared) {view view' : Item → View}
    {own : Own} {running : Option (Call × Local)}
    {instant : Option (Call × (Call ⊕ Answer))} {note : Note}
    (h : T.Matched view own running instant note)
    (hview : ∀ j, T.Works instant j → view' j = view j) :
    T.Matched view' own running instant note := by
  cases h with
  | idle => exact .idle
  | busy hstage => exact .busy (hsound.congr hstage hview)

/-- One thread goes to another stage.  The items it comes to work on were its own
or nobody's, those it leaves are settled, and it touches no others. -/
theorem Simulates.update (hsound : T.Sound operation step client Shared)
    (h : T.Simulates Shared c a notes) (i : ι)
    {running : Option (Call × Local)} {instant : Option (Call × (Call ⊕ Answer))}
    {s' : State} {t' : Abstract} {account' : Account} {note' : Note}
    (hmatched : T.Matched (T.view s' t' account') (T.own s' note') running instant note')
    (hown : ∀ j, T.Works instant j →
      T.Works (a.pending i) j ∨ ∀ k, ¬ T.Works (a.pending k) j)
    (hborn : ∀ j, T.Works instant j → T.Born s' j)
    (hframe : ∀ j, ¬ T.Works (a.pending i) j → ¬ T.Works instant j →
      T.view s' t' account' j = T.view c.state a.state c.account j)
    (hleaves : ∀ j, T.Works (a.pending i) j → ¬ T.Works instant j →
      T.Settled (T.view s' t' account' j))
    (hgrows : ∀ j, T.Born c.state j → T.Born s' j)
    (hshared : Shared s' t' (Function.update notes i note'))
    (hothers : ∀ k, k ≠ i → T.own s' (notes k) = T.own c.state (notes k)) :
    T.Simulates Shared ⟨s', account', Function.update c.pending i running⟩
      ⟨t', account', Function.update a.pending i instant⟩ (Function.update notes i note') := by
  have hother : ∀ k j, k ≠ i → T.Works (a.pending k) j → ¬ T.Works instant j := by
    intro k j hk hkj hworks
    rcases hown j hworks with hij | hnone
    · exact hk (h.alone k i j hkj hij)
    · exact hnone k hkj
  constructor
  · intro k
    by_cases hk : k = i
    · subst hk
      simp only [Function.update_self]
      exact hmatched
    · simp only [Function.update_of_ne hk]
      rw [hothers k hk]
      refine (h.matched k).congr hsound fun j hkj => hframe j (fun hij => ?_) (hother k j hk hkj)
      exact hk (h.alone k i j hkj hij)
  · intro k k' j hkj hkj'
    by_cases hk : k = i <;> by_cases hk' : k' = i
    · rw [hk, hk']
    · subst hk
      simp only [Function.update_self] at hkj
      simp only [Function.update_of_ne hk'] at hkj'
      exact absurd hkj (hother k' j hk' hkj')
    · subst hk'
      simp only [Function.update_self] at hkj'
      simp only [Function.update_of_ne hk] at hkj
      exact absurd hkj' (hother k j hk hkj)
    · simp only [Function.update_of_ne hk] at hkj
      simp only [Function.update_of_ne hk'] at hkj'
      exact h.alone k k' j hkj hkj'
  · intro k j hkj
    by_cases hk : k = i
    · subst hk
      simp only [Function.update_self] at hkj
      exact hborn j hkj
    · simp only [Function.update_of_ne hk] at hkj
      exact hgrows j (h.born k j hkj)
  · intro j hnone
    have hnot : ¬ T.Works instant j := by simpa using hnone i
    by_cases hij : T.Works (a.pending i) j
    · exact hleaves j hij hnot
    · refine hframe j hij hnot ▸ h.settled j fun k hkj => ?_
      by_cases hk : k = i
      · exact hij (hk ▸ hkj)
      · exact hnone k (by simpa [Function.update_of_ne hk] using hkj)
  · rfl
  · exact hshared

/-- A step of one call. -/
theorem Simulates.act (hsound : T.Sound operation step client Shared)
    (h : T.Simulates Shared c a notes) {i : ι} {call : Call} {here here' : Call ⊕ Answer}
    {way' : Local} {s' : State} {t' : Abstract} {note' : Note}
    (ha : a.pending i = some (call, here))
    (hadvance : T.Advance step c.account call c.state a.state here s' way' t' here' note')
    (hshared : Shared s' t' (Function.update notes i note'))
    (hothers : ∀ k, k ≠ i → T.own s' (notes k) = T.own c.state (notes k)) :
    T.Simulates Shared
      ⟨s', c.account, Function.update c.pending i (some (call, way'))⟩
      ⟨t', c.account, Function.update a.pending i (some (call, here'))⟩
      (Function.update notes i note') := by
  have hworks : ∀ j, T.Works (a.pending i) j ↔ T.Uses call here j := fun j => by rw [ha]; rfl
  refine h.update hsound i (.busy hadvance.stage) (fun j hj => ?_) (fun j hj => ?_)
    (fun j _ hj => hadvance.frame j hj) (fun j hj hj' => ?_) hadvance.grows hshared hothers
  · rcases hadvance.fresh j hj with huses | ⟨hunborn, -⟩
    · exact Or.inl ((hworks j).mpr huses)
    · exact Or.inr fun k hk => hunborn (h.born k j hk)
  · rcases hadvance.fresh j hj with huses | ⟨-, hborn⟩
    · exact hadvance.grows j (h.born i j ((hworks j).mpr huses))
    · exact hborn
  · exact absurd (hadvance.uses j ((hworks j).mp hj)) hj'

/-- A call returns. -/
theorem Simulates.ret (hsound : T.Sound operation step client Shared)
    (h : T.Simulates Shared c a notes) {i : ι} {call : Call} {here : Call ⊕ Answer}
    (ha : a.pending i = some (call, here)) {account' : Account} {answer : Answer}
    (hback : T.HandsBack c.account account' c.state a.state call here answer (notes i)) :
    T.Simulates Shared ⟨c.state, account', Function.update c.pending i none⟩
      ⟨a.state, account', Function.update a.pending i none⟩ notes := by
  have hworks : ∀ j, T.Works (a.pending i) j ↔ T.Uses call here j := fun j => by rw [ha]; rfl
  have hsame : Function.update notes i T.blank = notes := by
    rw [← hback.note, Function.update_eq_self]
  have hframe : ∀ j, ¬ T.Works (a.pending i) j → ¬ T.Works none j →
      T.view c.state a.state account' j = T.view c.state a.state c.account j :=
    fun j hj _ => hback.frame j fun huses => hj ((hworks j).mpr huses)
  have hsim := h.update hsound i .idle (fun _ hj => hj.elim) (fun _ hj => hj.elim) hframe
    (fun j hj _ => hback.settled j ((hworks j).mp hj)) (fun _ hj => hj)
    (hsame.symm ▸ h.shared) (fun _ _ => rfl)
  rwa [hsame] at hsim

omit [DecidableEq ι] in
theorem Simulates.pending_none (h : T.Simulates Shared c a notes) {i : ι}
    (hidle : c.pending i = none) : a.pending i = none ∧ notes i = T.blank := by
  have hmatched := h.matched i
  rw [hidle] at hmatched
  generalize a.pending i = instant, notes i = note at hmatched
  cases hmatched
  exact ⟨rfl, rfl⟩

/-- What a client may pass is in nobody's hands. -/
theorem Simulates.free (hsound : T.Sound operation step client Shared)
    (h : T.Simulates Shared c a notes) {j : Item}
    (hfree : T.Free (T.view c.state a.state c.account j)) (i : ι) :
    ¬ T.Works (a.pending i) j := by
  intro hworks
  have hmatched := h.matched i
  generalize c.pending i = running, a.pending i = instant, notes i = note at hmatched hworks
  cases hmatched with
  | idle => exact hworks
  | busy hstage => exact hsound.busy hstage hworks hfree

/-- A call is made. -/
theorem Simulates.call (hsound : T.Sound operation step client Shared)
    (h : T.Simulates Shared c a notes) {i : ι} (hidle : c.pending i = none) {call : Call}
    {start : Local} {here : Call ⊕ Answer} {account' : Account}
    (hbegins : T.Begins step start c.account account' c.state a.state call here) :
    T.Simulates Shared
      ⟨c.state, account', Function.update c.pending i (some (call, start))⟩
      ⟨a.state, account', Function.update a.pending i (some (call, here))⟩ notes := by
  obtain ⟨hnone, hblank⟩ := h.pending_none hidle
  have hsame : Function.update notes i T.blank = notes := by
    rw [← hblank, Function.update_eq_self]
  have hsim := h.update hsound i (.busy hbegins.stage)
    (fun j hj => Or.inr (h.free hsound (hbegins.free j hj).1))
    (fun j hj => (hbegins.free j hj).2) (fun j _ hj => hbegins.frame j hj)
    (fun j hj => by rw [hnone] at hj; exact hj.elim) (fun _ hj => hj) (hsame.symm ▸ h.shared)
    (fun _ _ => rfl)
  rwa [hsame] at hsim

/-! ## One event -/

/-- The instant machine runs a call that was made. -/
theorem instantStep_act (client : Client Account Call Answer)
    {a : Threads ι Abstract Account (Call ⊕ Answer) Call} {i : ι} {call : Call} {t' : Abstract}
    {answer : Answer} (hpending : a.pending i = some (call, .inl call))
    (hstep : step a.state call = some (t', answer)) :
    threadStep (atomicOperation step) client a (.act i) =
      some (⟨t', a.account, Function.update a.pending i (some (call, .inr answer))⟩, none) :=
  threadStep_act_eq_some.mpr ⟨call, .inl call, t', .inr answer, hpending,
    by simp only [atomicOperation, hstep, Option.map_some], rfl, rfl⟩

theorem Simulates.step_call (hsound : T.Sound operation step client Shared)
    (h : T.Simulates Shared c a notes) {i : ι} {call : Call} (hidle : c.pending i = none)
    (hmay : client.may c.account call = true) :
    ∃ events marks a', run (threadStep (atomicOperation step) client) a events =
        some (a', marks) ∧
      history marks = [.called i call] ∧ ∃ notes', T.Simulates Shared
        ⟨c.state, client.called c.account call,
          Function.update c.pending i (some (call, operation.start call))⟩ a' notes' := by
  obtain ⟨here, hbegins⟩ := hsound.begins h.shared hmay fun j hfree =>
    h.settled j (h.free hsound hfree)
  have hsim := h.call hsound hidle hbegins
  have hcalled : threadStep (atomicOperation step) client a (.call i call) = some _ :=
    threadStep_call_eq_some.mpr ⟨(h.pending_none hidle).1, h.account ▸ hmay, rfl, rfl⟩
  rw [h.account] at hcalled
  rcases hbegins.served with rfl | ⟨answer, rfl, hstep⟩
  · exact ⟨_, _, _, run_singleton hcalled, rfl, _, hsim⟩
  · -- the instant machine runs the call at once
    have hacted := instantStep_act client (a := ⟨a.state,
      client.called c.account call, Function.update a.pending i (some (call, .inl call))⟩)
      (Function.update_self ..) hstep
    rw [Function.update_idem] at hacted
    exact ⟨_, _, _, run_cons_eq_some.mpr ⟨_, _, _, hcalled, run_singleton hacted, rfl⟩, rfl, _,
      hsim⟩

/-- A call takes a step. -/
theorem Simulates.step_act (hsound : T.Sound operation step client Shared)
    (h : T.Simulates Shared c a notes) {i : ι} {call : Call} {way way' : Local} {s' : State}
    (hpending : c.pending i = some (call, way))
    (hact : operation.act c.state way = some (s', way')) :
    ∃ events marks a', run (threadStep (atomicOperation step) client) a events =
        some (a', marks) ∧
      history marks = [] ∧ ∃ notes', T.Simulates Shared
        ⟨s', c.account, Function.update c.pending i (some (call, way'))⟩ a' notes' := by
  have hmatched := h.matched i
  rw [hpending] at hmatched
  generalize hinstant : a.pending i = instant at hmatched
  cases hmatched with
  | busy hstage =>
      have hunborn : ∀ j, ¬ T.Born c.state j →
          T.Settled (T.view c.state a.state c.account j) := fun j hj =>
        h.settled j fun k hk => hj (h.born k j hk)
      obtain ⟨t', here', note', hadvance, hshared, hothers⟩ :=
        hsound.advance h.shared hunborn hstage hact
      have hsim := h.act hsound hinstant hadvance hshared hothers
      rcases hadvance.served with ⟨rfl, rfl⟩ | ⟨rfl, answer, rfl, hstep⟩
      · -- the instant machine stands still
        have hsame : (⟨a.state, c.account, a.pending⟩ :
            Threads ι Abstract Account (Call ⊕ Answer) Call) = a := by rw [← h.account]
        rw [← hinstant, Function.update_eq_self, hsame] at hsim
        exact ⟨[], [], a, rfl, rfl, _, hsim⟩
      · have hacted := instantStep_act client hinstant hstep
        rw [h.account] at hacted
        exact ⟨_, _, _, run_singleton hacted, rfl, _, hsim⟩

/-- A call returns. -/
theorem Simulates.step_ret (hsound : T.Sound operation step client Shared)
    (h : T.Simulates Shared c a notes) {i : ι} {call : Call} {way : Local} {answer : Answer}
    (hpending : c.pending i = some (call, way)) (hresult : operation.result way = some answer) :
    ∃ events marks a', run (threadStep (atomicOperation step) client) a events =
        some (a', marks) ∧
      history marks = [.returned i answer] ∧ ∃ notes', T.Simulates Shared
        ⟨c.state, client.returned c.account call answer, Function.update c.pending i none⟩
        a' notes' := by
  have hmatched := h.matched i
  rw [hpending] at hmatched
  generalize hinstant : a.pending i = instant at hmatched
  cases hmatched with
  | busy hstage =>
      have hback := hsound.handsBack hstage hresult
      obtain rfl := hback.served
      have hsim := h.ret hsound hinstant hback
      have hreturned : threadStep (atomicOperation step) client a (.ret i) = some _ :=
        threadStep_ret_eq_some.mpr ⟨call, .inr answer, answer, hinstant, rfl, rfl, rfl⟩
      rw [h.account] at hreturned
      exact ⟨_, _, _, run_singleton hreturned, rfl, _, hsim⟩

/-- Each event is matched by the instant machine, with the same
mark. -/
theorem Simulates.event (hsound : T.Sound operation step client Shared)
    (h : T.Simulates Shared c a notes) {event : Event ι Call}
    {mark : Option (Mark ι Call Answer)} {c' : Threads ι State Account Local Call}
    (hstep : threadStep operation client c event = some (c', mark)) :
    ∃ events marks a', run (threadStep (atomicOperation step) client) a events =
        some (a', marks) ∧
      history marks = history [mark] ∧ ∃ notes', T.Simulates Shared c' a' notes' := by
  cases event with
  | call i call =>
      obtain ⟨hidle, hmay, rfl, rfl⟩ := threadStep_call_eq_some.mp hstep
      exact h.step_call hsound hidle hmay
  | act i =>
      obtain ⟨call, way, s', way', hpending, hact, rfl, rfl⟩ := threadStep_act_eq_some.mp hstep
      exact h.step_act hsound hpending hact
  | ret i =>
      obtain ⟨call, way, answer, hpending, hresult, rfl, rfl⟩ := threadStep_ret_eq_some.mp hstep
      exact h.step_ret hsound hpending hresult

/-! ## Runs -/

omit [DecidableEq ι] in
theorem Simulates.idle {s : State} {t : Abstract} {account : Account}
    (hsettled : ∀ j, T.Settled (T.view s t account j))
    (hshared : Shared s t fun _ => T.blank) :
    T.Simulates Shared (Threads.idle s account) (Threads.idle t account)
      (fun _ => T.blank) where
  matched _ := .idle
  alone _ _ _ hworks := hworks.elim
  born _ _ hworks := hworks.elim
  settled j _ := hsettled j
  account := rfl
  shared := hshared

/-- Every interleaving is matched by one of the instant machine. -/
theorem Sound.exists_instant_run (hsound : T.Sound operation step client Shared) {s : State}
    {t : Abstract} {account : Account} (hsettled : ∀ j, T.Settled (T.view s t account j))
    (hshared : Shared s t fun _ => T.blank) {schedule : List (Event ι Call)}
    {marks : List (Option (Mark ι Call Answer))}
    (hrun : run (threadStep operation client) (Threads.idle s account) schedule =
      some (c, marks)) :
    ∃ events marks' a, run (threadStep (atomicOperation step) client) (Threads.idle t account)
        events = some (a, marks') ∧
      history marks' = history marks ∧ ∃ notes, T.Simulates Shared c a notes :=
  run_weakly_simulates (R := fun c a => ∃ notes, T.Simulates Shared c a notes)
    (fun _ _ _ _ _ ⟨_, h⟩ hstep => h.event hsound hstep) ⟨_, .idle hsettled hshared⟩ hrun

/-- What holds of an answer at the stage where a call returns it holds of each
answer that is returned. -/
theorem Sound.along (hsound : T.Sound operation step client Shared)
    {Q : Account → Call → Answer → Prop}
    (hQ : ∀ {s t account own call way here note answer},
      T.Stage (T.view s t account) own call way here note → operation.result way = some answer →
        Q account call answer)
    {s : State} {t : Abstract} {account : Account}
    (hsettled : ∀ j, T.Settled (T.view s t account j)) (hshared : Shared s t fun _ => T.blank)
    (schedule : List (Event ι Call)) :
    Along (threadStep operation client)
      (fun before _ mark _ => ∀ m, mark = some m → ∀ i answer, m = .returned i answer →
        ∀ call, before.heard.made i = some call → Q before.heard.account call answer)
      (Threads.idle s account) schedule := by
  have hstep : ∀ (c : Threads ι State Account Local Call) (event : Event ι Call)
      (mark : Option (Mark ι Call Answer)) (c' : Threads ι State Account Local Call),
      (∃ a notes, T.Simulates Shared c a notes) →
      threadStep operation client c event = some (c', mark) →
        (∀ m, mark = some m → ∀ i answer, m = .returned i answer →
          ∀ call, c.heard.made i = some call → Q c.heard.account call answer) ∧
        ∃ a notes, T.Simulates Shared c' a notes := by
    rintro c event mark c' ⟨a, notes, h⟩ hstep
    obtain ⟨_, _, a', _, _, notes', h'⟩ := h.event hsound hstep
    refine ⟨?_, a', notes', h'⟩
    rintro _ rfl i answer rfl call hmade
    cases event with
    | call k made => simp [threadStep] at hstep
    | act k =>
        obtain ⟨_, _, _, _, _, _, _, hmark⟩ := threadStep_act_eq_some.mp hstep
        simp at hmark
    | ret k =>
        obtain ⟨made, way, answer', hpending, hresult, _, hmark⟩ :=
          threadStep_ret_eq_some.mp hstep
        obtain ⟨rfl, rfl⟩ : i = k ∧ answer = answer' := by simpa using hmark
        obtain rfl : made = call := by simpa [Threads.heard, hpending] using hmade
        have hmatched := h.matched i
        rw [hpending] at hmatched
        generalize a.pending i = instant at hmatched
        cases hmatched with
        | busy hstage => exact hQ hstage hresult
  exact along_of_invariant hstep schedule ⟨_, _, .idle hsettled hshared⟩

omit [DecidableEq ι] in
/-- Where no call is under way, every item is settled. -/
theorem Simulates.of_quiet (h : T.Simulates Shared c a notes) (hquiet : c.Quiet) :
    a.Quiet ∧ (∀ j, T.Settled (T.view c.state a.state c.account j)) ∧
      Shared c.state a.state fun _ => T.blank := by
  have hidle : ∀ i, a.pending i = none ∧ notes i = T.blank := fun i => h.pending_none (hquiet i)
  refine ⟨fun i => (hidle i).1, fun j => h.settled j fun i hworks => ?_, ?_⟩
  · rw [(hidle i).1] at hworks
    exact hworks
  · have hnotes : notes = fun _ => T.blank := funext fun i => (hidle i).2
    exact hnotes ▸ h.shared

end Tracking

end Foundation
