import MiniaudioCpp.Foundation.Threads

/-!
# Histories and the rules of the clients

The account that the clients keep changes only when a call is made or returns, so
it is what the history makes of it (`run_heard`).  Whether a run keeps to the
rules of the clients is seen from its history too: where the history keeps to
other rules, the run is one of clients with those (`run_of_legal`), and a run
with stricter rules is one with the laxer (`Client.Projects.run_project`).

So two machines that are matched under lax rules are matched under strict ones.
-/

namespace Foundation

variable {ι State Account Account' Local Call Answer : Type*} [DecidableEq ι]

/-! ## What is heard -/

/-- The account, and the calls that were made and have not returned. -/
@[ext] structure Heard (ι Account Call : Type*) where
  account : Account
  made : ι → Option Call

/-- What is heard of a machine. -/
def Threads.heard (threads : Threads ι State Account Local Call) : Heard ι Account Call :=
  ⟨threads.account, fun i => (threads.pending i).map Prod.fst⟩

/-- The rules allow what is heard. -/
def Client.Allows (client : Client Account Call Answer) (heard : Heard ι Account Call) :
    Mark ι Call Answer → Prop
  | .called _ call => client.may heard.account call = true
  | .returned _ _ => True

/-- What the clients make of it. -/
def Client.hear (client : Client Account Call Answer) (heard : Heard ι Account Call) :
    Mark ι Call Answer → Heard ι Account Call
  | .called i call =>
      ⟨client.called heard.account call, Function.update heard.made i (some call)⟩
  | .returned i answer =>
      ⟨(heard.made i).elim heard.account fun call => client.returned heard.account call answer,
        Function.update heard.made i none⟩

/-- Each mark has a property, with what was heard before it. -/
def Throughout (client : Client Account Call Answer)
    (P : Heard ι Account Call → Mark ι Call Answer → Prop) :
    Heard ι Account Call → List (Mark ι Call Answer) → Prop
  | _, [] => True
  | heard, mark :: marks => P heard mark ∧ Throughout client P (client.hear heard mark) marks

/-- The history keeps to the rules. -/
abbrev Legal (client : Client Account Call Answer) :
    Heard ι Account Call → List (Mark ι Call Answer) → Prop := Throughout client client.Allows

section Throughout

variable {client : Client Account Call Answer}
  {P Q : Heard ι Account Call → Mark ι Call Answer → Prop} {heard : Heard ι Account Call}

theorem throughout_append {first rest : List (Mark ι Call Answer)} :
    Throughout client P heard (first ++ rest) ↔
      Throughout client P heard first ∧
        Throughout client P (first.foldl client.hear heard) rest := by
  induction first generalizing heard with
  | nil => simp [Throughout]
  | cons mark marks ih => simp only [List.cons_append, Throughout, ih, List.foldl_cons, and_assoc]

theorem Throughout.and {marks : List (Mark ι Call Answer)} (hP : Throughout client P heard marks)
    (hQ : Throughout client Q heard marks) :
    Throughout client (fun heard mark => P heard mark ∧ Q heard mark) heard marks := by
  induction marks generalizing heard with
  | nil => trivial
  | cons mark marks ih => exact ⟨⟨hP.1, hQ.1⟩, ih hP.2 hQ.2⟩

/-- What each mark keeps, the history keeps. -/
theorem Throughout.invariant {Inv : Heard ι Account Call → Prop}
    (hkeep : ∀ heard mark, Inv heard → P heard mark → Inv (client.hear heard mark))
    {marks : List (Mark ι Call Answer)} (h : Throughout client P heard marks) (hinv : Inv heard) :
    Inv (marks.foldl client.hear heard) := by
  induction marks generalizing heard with
  | nil => exact hinv
  | cons mark marks ih => exact ih h.2 (hkeep heard mark hinv h.1)

end Throughout

section Heard

variable {operation : Operation State Local Call Answer} {client : Client Account Call Answer}
  {threads next : Threads ι State Account Local Call} {mark : Option (Mark ι Call Answer)}

/-- A call that is made, or that takes a step, is one call. -/
theorem made_update {pending : ι → Option (Call × Local)} (i : ι) (entry : Option (Call × Local)) :
    (fun k => (Function.update pending i entry k).map Prod.fst) =
      Function.update (fun k => (pending k).map Prod.fst) i (entry.map Prod.fst) := by
  funext k
  by_cases hk : k = i
  · subst hk
    simp
  · simp [Function.update_of_ne hk]

/-- All that can be heard of an event. -/
theorem threadStep_heard {event : Event ι Call}
    (hstep : threadStep operation client threads event = some (next, mark)) :
    (mark = none ∧ next.heard = threads.heard) ∨
      ∃ m, mark = some m ∧ client.Allows threads.heard m ∧
        next.heard = client.hear threads.heard m := by
  cases event with
  | call i call =>
      obtain ⟨_, hmay, rfl, rfl⟩ := threadStep_call_eq_some.mp hstep
      refine Or.inr ⟨_, rfl, hmay, Heard.ext rfl ?_⟩
      exact made_update i _
  | act i =>
      obtain ⟨call, here, state, later, hpending, _, rfl, rfl⟩ := threadStep_act_eq_some.mp hstep
      refine Or.inl ⟨rfl, Heard.ext rfl ?_⟩
      have hsame : (threads.pending i).map Prod.fst = some call := by rw [hpending]; rfl
      calc (fun k => (Function.update threads.pending i (some (call, later)) k).map Prod.fst)
          = Function.update (fun k => (threads.pending k).map Prod.fst) i (some call) :=
            made_update i _
        _ = fun k => (threads.pending k).map Prod.fst := by rw [← hsame, Function.update_eq_self]
  | ret i =>
      obtain ⟨call, here, answer, hpending, _, rfl, rfl⟩ := threadStep_ret_eq_some.mp hstep
      refine Or.inr ⟨_, rfl, trivial, Heard.ext ?_ ?_⟩
      · simp [Client.hear, Threads.heard, hpending]
      · exact made_update i none

/-- A run keeps to the rules, and what was heard is what its history makes of
it. -/
theorem run_heard {events : List (Event ι Call)} {last : Threads ι State Account Local Call}
    {marks : List (Option (Mark ι Call Answer))}
    (hrun : run (threadStep operation client) threads events = some (last, marks)) :
    Legal client threads.heard (history marks) ∧
      last.heard = (history marks).foldl client.hear threads.heard := by
  induction events generalizing threads marks with
  | nil =>
      simp only [run_nil, Option.some.injEq, Prod.mk.injEq] at hrun
      obtain ⟨rfl, rfl⟩ := hrun
      exact ⟨trivial, rfl⟩
  | cons event events ih =>
      obtain ⟨middle, mark, rest, hfirst, hrest, rfl⟩ := run_cons_eq_some.mp hrun
      obtain ⟨hlegal, hlast⟩ := ih hrest
      rcases threadStep_heard hfirst with ⟨rfl, hheard⟩ | ⟨m, rfl, hallows, hheard⟩
      · rw [hheard] at hlegal hlast
        exact ⟨hlegal, hlast⟩
      · rw [hheard] at hlegal hlast
        exact ⟨⟨hallows, hlegal⟩, hlast⟩

/-- What holds at each event that is heard holds throughout the history. -/
theorem throughout_of_along {P : Heard ι Account Call → Mark ι Call Answer → Prop}
    {events : List (Event ι Call)} {last : Threads ι State Account Local Call}
    {marks : List (Option (Mark ι Call Answer))}
    (halong : Along (threadStep operation client)
      (fun before _ mark _ => ∀ m, mark = some m → P before.heard m) threads events)
    (hrun : run (threadStep operation client) threads events = some (last, marks)) :
    Throughout client P threads.heard (history marks) := by
  induction events generalizing threads marks with
  | nil =>
      simp only [run_nil, Option.some.injEq, Prod.mk.injEq] at hrun
      obtain ⟨_, rfl⟩ := hrun
      trivial
  | cons event events ih =>
      obtain ⟨middle, mark, rest, hfirst, hrest, rfl⟩ := run_cons_eq_some.mp hrun
      obtain ⟨hP, hlater⟩ := halong middle mark hfirst
      have hthroughout := ih hlater hrest
      rcases threadStep_heard hfirst with ⟨rfl, hheard⟩ | ⟨m, rfl, _, hheard⟩
      · rw [hheard] at hthroughout
        exact hthroughout
      · rw [hheard] at hthroughout
        exact ⟨hP m rfl, hthroughout⟩

end Heard

/-! ## Other rules -/

section Rules

variable {operation : Operation State Local Call Answer} {client : Client Account Call Answer}
  {client' : Client Account' Call Answer}

/-- The machine with another account. -/
def Threads.withAccount (threads : Threads ι State Account Local Call) (account' : Account') :
    Threads ι State Account' Local Call := ⟨threads.state, account', threads.pending⟩

/-- An event that other rules allow. -/
theorem threadStep_withAccount {threads next : Threads ι State Account Local Call}
    {event : Event ι Call} {mark : Option (Mark ι Call Answer)}
    (hstep : threadStep operation client threads event = some (next, mark)) {account' : Account'}
    (hallows : ∀ m, mark = some m → client'.Allows (threads.withAccount account').heard m) :
    ∃ account'', threadStep operation client' (threads.withAccount account') event =
      some (next.withAccount account'', mark) := by
  cases event with
  | call i call =>
      obtain ⟨hidle, _, rfl, rfl⟩ := threadStep_call_eq_some.mp hstep
      exact ⟨_, threadStep_call_eq_some.mpr ⟨hidle, hallows _ rfl, rfl, rfl⟩⟩
  | act i =>
      obtain ⟨call, here, state, later, hpending, hact, rfl, rfl⟩ :=
        threadStep_act_eq_some.mp hstep
      exact ⟨_, threadStep_act_eq_some.mpr ⟨call, here, state, later, hpending, hact, rfl, rfl⟩⟩
  | ret i =>
      obtain ⟨call, here, answer, hpending, hresult, rfl, rfl⟩ := threadStep_ret_eq_some.mp hstep
      exact ⟨_, threadStep_ret_eq_some.mpr ⟨call, here, answer, hpending, hresult, rfl, rfl⟩⟩

/-- A run whose history keeps to other rules is a run with those. -/
theorem run_of_legal {threads last : Threads ι State Account Local Call}
    {events : List (Event ι Call)} {marks : List (Option (Mark ι Call Answer))}
    (hrun : run (threadStep operation client) threads events = some (last, marks))
    {account' : Account'}
    (hlegal : Legal client' (threads.withAccount account').heard (history marks)) :
    ∃ account'', run (threadStep operation client') (threads.withAccount account') events =
      some (last.withAccount account'', marks) := by
  induction events generalizing threads marks account' with
  | nil =>
      simp only [run_nil, Option.some.injEq, Prod.mk.injEq] at hrun
      obtain ⟨rfl, rfl⟩ := hrun
      exact ⟨account', rfl⟩
  | cons event events ih =>
      obtain ⟨middle, mark, rest, hfirst, hrest, rfl⟩ := run_cons_eq_some.mp hrun
      have hallows : ∀ m, mark = some m →
          client'.Allows (threads.withAccount account').heard m := by
        rintro m rfl
        exact hlegal.1
      obtain ⟨account'', hfirst'⟩ := threadStep_withAccount hfirst hallows
      have hlater : Legal client' (middle.withAccount account'').heard (history rest) := by
        rcases threadStep_heard hfirst' with ⟨rfl, hheard⟩ | ⟨m, rfl, _, hheard⟩
        · rw [hheard]
          exact hlegal
        · rw [hheard]
          exact hlegal.2
      obtain ⟨final, hrest'⟩ := ih hrest hlater
      exact ⟨final, run_cons_eq_some.mpr ⟨_, mark, rest, hfirst', hrest', rfl⟩⟩

/-- Rules that know more, and allow less. -/
structure Client.Projects (client' : Client Account' Call Answer)
    (client : Client Account Call Answer) (project : Account' → Account) : Prop where
  may : ∀ account call, client'.may account call = true →
    client.may (project account) call = true
  called : ∀ account call, project (client'.called account call) =
    client.called (project account) call
  returned : ∀ account call answer, project (client'.returned account call answer) =
    client.returned (project account) call answer

/-- The machine as it is for the laxer rules. -/
def Threads.project (project : Account' → Account) (threads : Threads ι State Account' Local Call) :
    Threads ι State Account Local Call := threads.withAccount (project threads.account)

/-- An event with strict rules, seen with lax ones. -/
theorem Client.Projects.step {project : Account' → Account} (h : client'.Projects client project)
    {threads next : Threads ι State Account' Local Call} {event : Event ι Call}
    {mark : Option (Mark ι Call Answer)}
    (hstep : threadStep operation client' threads event = some (next, mark)) :
    threadStep operation client (threads.project project) event =
      some (next.project project, mark) := by
  cases event with
  | call i call =>
      obtain ⟨hidle, hmay, rfl, rfl⟩ := threadStep_call_eq_some.mp hstep
      refine threadStep_call_eq_some.mpr ⟨hidle, h.may _ _ hmay, ?_, rfl⟩
      rw [Threads.project, Threads.withAccount, h.called]
      rfl
  | act i =>
      obtain ⟨call, here, state, later, hpending, hact, rfl, rfl⟩ :=
        threadStep_act_eq_some.mp hstep
      exact threadStep_act_eq_some.mpr ⟨call, here, state, later, hpending, hact, rfl, rfl⟩
  | ret i =>
      obtain ⟨call, here, answer, hpending, hresult, rfl, rfl⟩ := threadStep_ret_eq_some.mp hstep
      refine threadStep_ret_eq_some.mpr ⟨call, here, answer, hpending, hresult, ?_, rfl⟩
      rw [Threads.project, Threads.withAccount, h.returned]
      rfl

/-- A run with strict rules, seen with lax ones. -/
theorem Client.Projects.run_project {project : Account' → Account}
    (h : client'.Projects client project)
    {threads last : Threads ι State Account' Local Call} {events : List (Event ι Call)}
    {marks : List (Option (Mark ι Call Answer))}
    (hrun : run (threadStep operation client') threads events = some (last, marks)) :
    run (threadStep operation client) (threads.project project) events =
      some (last.project project, marks) := by
  obtain ⟨_, hlax, rfl⟩ := run_simulates
    (R := fun threads lax => lax = threads.project project)
    (fun threads lax event mark next hlax hstep => by
      subst hlax
      exact ⟨_, h.step hstep, rfl⟩) rfl hrun
  exact hlax

end Rules

/-! ## Matched machines -/

/-- Where each run of one machine under lax rules has a run of another with the
same history, so has each run under strict rules.  `P` says how the two runs
end. -/
theorem Client.Projects.exists_run {State' Local' : Type*}
    {operation : Operation State Local Call Answer}
    {operation' : Operation State' Local' Call Answer} {client : Client Account Call Answer}
    {client' : Client Account' Call Answer} {project : Account' → Account}
    (h : client'.Projects client project) {state : State} {state' : State'} {account : Account'}
    {P : Threads ι State Account Local Call → Threads ι State' Account Local' Call → Prop}
    {events : List (Event ι Call)} {last : Threads ι State Account' Local Call}
    {marks : List (Option (Mark ι Call Answer))}
    (hrun : run (threadStep operation client') (Threads.idle state account) events =
      some (last, marks))
    (hmatched : ∀ {events last marks},
      run (threadStep operation client) (Threads.idle state (project account)) events =
          some (last, marks) →
        ∃ events' marks' last', run (threadStep operation' client)
            (Threads.idle state' (project account)) events' = some (last', marks') ∧
          history marks' = history marks ∧ P last last') :
    ∃ events' marks' last', run (threadStep operation' client')
        (Threads.idle state' account) events' = some (last', marks') ∧
      history marks' = history marks ∧ last'.account = last.account ∧
      P (last.project project) (last'.project project) := by
  obtain ⟨events', marks', lax', hlax', hhistory, hP⟩ := hmatched (h.run_project hrun)
  obtain ⟨hlegal, hheard⟩ := run_heard hrun
  have hlegal' : Legal client' (Heard.mk account fun _ : ι => none) (history marks') := by
    rw [hhistory]
    exact hlegal
  obtain ⟨account', hstrict⟩ := run_of_legal hlax' hlegal'
  have hend : lax' = (lax'.withAccount account').project project :=
    congrArg Prod.fst (Option.some.inj (hlax'.symm.trans (h.run_project hstrict)))
  refine ⟨events', marks', _, hstrict, hhistory, ?_, hend ▸ hP⟩
  have hheard' := (run_heard hstrict).2
  rw [hhistory] at hheard'
  exact congrArg Heard.account (hheard'.trans hheard.symm)

end Foundation
