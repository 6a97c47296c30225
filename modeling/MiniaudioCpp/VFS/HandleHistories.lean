import MiniaudioCpp.VFS.ConcurrentFiles

/-!
# The answers on one handle, while threads use others

In a history of several threads the calls on one handle come one after the other,
since a handle is passed to one call at a time.  Their answers are those of its
own file with its own cursor, whatever is done with other handles in the meantime
and whatever the threads do in between (`handles_answer_as_files`).

The cursor that the clients keep says what each call will answer (`Predicted`);
`Lent` is what makes it the right one: nobody else moves it until the call
returns.
-/

namespace MiniaudioCpp.VFS

open Foundation

variable {ι ρ : Type*} [DecidableEq ι] {R : StreamReader ρ} {content : ρ → List UInt8}

/-! ## What the clients can predict -/

/-- The answer is that of the file, and a handle that is returned is new. -/
structure Predicted (account : FileAccount) (call : Call ρ) (answer : Option Answer) : Prop where
  file : ∀ file, call.file = some file → ∃ c' answer',
    referenceFile (some (account.cursor file)) call = some (c', answer') ∧ answer = some answer'
  fresh : ∀ result file, answer = some (.opened result (some file)) → account.held file = none

theorem FileStage.predicted {files : Arena (Cursor UInt8)} {account : FileAccount}
    {call : Call ρ} {way here : Call ρ ⊕ Option Answer} {answer : Option Answer}
    (hstage : FileStage R content (FileView.of files account) call way here)
    (hresult : (atomicOperation (instantCall R)).result way = some answer) :
    Predicted account call answer := by
  cases hstage with
  | opens | waits => simp [atomicOperation] at hresult
  | @refused _ answer' hfile hopened =>
      obtain rfl : some answer' = answer := Option.some.inj hresult
      refine ⟨fun file hfile' => absurd (hfile.symm.trans hfile') (by simp), ?_⟩
      exact fun result file hanswer => absurd (Option.some.inj hanswer) (hopened result file)
  | @opened vfs path openMode reader file hreader hview =>
      obtain rfl : some (Answer.opened .success (some file)) = answer := Option.some.inj hresult
      refine ⟨fun file hfile => by simp [Call.file] at hfile, fun result file' hanswer => ?_⟩
      obtain ⟨_, rfl⟩ : _ ∧ file = file' := by simpa using hanswer
      have hknown : (account.held file).map (fun lent => (account.cursor file, lent)) = none :=
        congrArg FileView.known hview
      simpa using hknown
  | @answered _ file c c' answer' hfile hreference hview =>
      obtain rfl : some answer' = answer := Option.some.inj hresult
      have hknown : (account.held file).map (fun lent => (account.cursor file, lent)) =
          some (c, true) := congrArg FileView.known hview
      obtain ⟨_, rfl⟩ : account.held file = some true ∧ account.cursor file = c := by
        simpa [and_comm] using hknown
      refine ⟨fun file' hfile' => ?_, fun result file' hanswer => ?_⟩
      · obtain rfl := Option.some.inj (hfile.symm.trans hfile')
        exact ⟨c', answer', hreference, rfl⟩
      · exact absurd (Option.some.inj hanswer) (referenceFile_ne_opened hreference result file')

variable (R content) in
/-- A call that the clients may make, or an answer that they predict. -/
def Expected (heard : Heard ι FileAccount (Call ρ)) (mark : Mark ι (Call ρ) (Option Answer)) :
    Prop :=
  (fileClient R content).Allows heard mark ∧ ∀ i answer, mark = .returned i answer →
    ∀ call, heard.made i = some call → Predicted heard.account call answer

/-- Each call and each answer of a history is as the clients expect it. -/
theorem history_expected (hlawful : R.Lawful content)
    {schedule : List (Foundation.Event ι (Call ρ))}
    {last : Threads ι (State ρ) FileAccount (CallbackCode ρ) (Call ρ)}
    {marks : List (Option (Mark ι (Call ρ) (Option Answer)))}
    (hrun : run (threadedStep R content) (Threads.idle State.empty FileAccount.empty) schedule =
      some (last, marks)) :
    Throughout (fileClient R content) (Expected R content)
      ⟨FileAccount.empty, fun _ => none⟩ (history marks) := by
  obtain ⟨events, marks', a, hinstant, hhistory, _⟩ := exists_fileClient_run hrun
  rw [← hhistory]
  refine (run_heard hinstant).1.and (throughout_of_along ?_ hinstant)
  exact (fileTracking_sound hlawful).along
    (fun hstage hresult => FileStage.predicted hstage hresult) FileView.settled_empty
    Refines.empty events

/-! ## The other handles -/

section Frame

variable {call : Call ρ} {answer : Option Answer} {file : ℕ}

/-- A call that returns changes the account of its handle, and of the one that it
opened. -/
theorem returned_of_ne {account : Account} (hfile : call.file ≠ some file)
    (hopened : ∀ result, answer ≠ some (.opened result (some file))) :
    account.returned call answer file = account file := by
  unfold Account.returned
  split
  · rename_i result opened
    have hne : file ≠ opened := fun heq => hopened result (by rw [heq])
    exact Function.update_of_ne hne ..
  · rename_i closed
    have hne : file ≠ closed := fun heq => hfile (by rw [heq]; rfl)
    exact Function.update_of_ne hne ..
  · cases hcall : call.file with
    | none => rfl
    | some passed =>
        have hne : file ≠ passed := fun heq => hfile (by rw [heq, hcall])
        exact Function.update_of_ne hne ..

theorem moves_of_ne (content : ρ → List UInt8) {cursor : ℕ → Cursor UInt8}
    (hfile : call.file ≠ some file)
    (hopened : ∀ result, answer ≠ some (.opened result (some file))) :
    call.moves content cursor answer file = cursor file := by
  unfold Call.moves
  split
  · rename_i result opened
    have hne : file ≠ opened := fun heq => hopened result (by rw [heq])
    exact Function.update_of_ne hne ..
  · cases hcall : call.file with
    | none => rfl
    | some passed =>
        have hne : file ≠ passed := fun heq => hfile (by rw [heq, hcall])
        exact Function.update_of_ne hne ..

end Frame

/-! ## The handles of calls under way -/

/-- A handle that was passed to a call is with that call. -/
structure Lent (heard : Heard ι FileAccount (Call ρ)) : Prop where
  busy : ∀ i call file, heard.made i = some call → call.file = some file →
    heard.account.held file = some true
  alone : ∀ i i' call call' file, heard.made i = some call → heard.made i' = some call' →
    call.file = some file → call'.file = some file → i = i'

namespace Lent

variable {heard : Heard ι FileAccount (Call ρ)} {mark : Mark ι (Call ρ) (Option Answer)}

omit [DecidableEq ι] in
theorem empty : Lent (⟨FileAccount.empty, fun _ => none⟩ : Heard ι FileAccount (Call ρ)) where
  busy _ _ _ hmade := by simp at hmade
  alone _ _ _ _ _ hmade := by simp at hmade

/-- Another thread works on another handle. -/
theorem update (h : Lent heard) {account : FileAccount} {i : ι} {entry : Option (Call ρ)}
    (hothers : ∀ k call file, k ≠ i → heard.made k = some call → call.file = some file →
      account.held file = heard.account.held file)
    (hentry : ∀ call file, entry = some call → call.file = some file →
      account.held file = some true ∧ heard.account.held file ≠ some true) :
    Lent ⟨account, Function.update heard.made i entry⟩ := by
  have hfree : ∀ k call made file, k ≠ i → heard.made k = some call → entry = some made →
      call.file = some file → made.file ≠ some file := fun k call made file _ hk hmade hfile hfile' =>
    (hentry made file hmade hfile').2 (h.busy k call file hk hfile)
  constructor
  · intro k call file hk hfile
    by_cases hki : k = i
    · subst hki
      exact (hentry call file (by simpa using hk) hfile).1
    · have hk' : heard.made k = some call := by simpa [Function.update_of_ne hki] using hk
      rw [show account.held file = _ from hothers k call file hki hk' hfile]
      exact h.busy k call file hk' hfile
  · intro k k' call call' file hk hk' hfile hfile'
    by_cases hki : k = i <;> by_cases hki' : k' = i
    · rw [hki, hki']
    · subst hki
      exact absurd hfile (hfree k' call' call file hki'
        (by simpa [Function.update_of_ne hki'] using hk') (by simpa using hk) hfile')
    · subst hki'
      exact absurd hfile' (hfree k call call' file hki
        (by simpa [Function.update_of_ne hki] using hk) (by simpa using hk') hfile)
    · exact h.alone k k' call call' file (by simpa [Function.update_of_ne hki] using hk)
        (by simpa [Function.update_of_ne hki'] using hk') hfile hfile'

/-- A handle is with its call until that returns. -/
theorem hear (h : Lent heard) (hexpected : Expected R content heard mark) :
    Lent ((fileClient R content).hear heard mark) := by
  obtain ⟨hallows, hpredicted⟩ := hexpected
  cases mark with
  | called i call =>
      simp only [Client.Allows, fileClient, Bool.and_eq_true] at hallows
      have hfree := may_eq_true_iff.mp hallows.1
      refine h.update (fun k call' file _ hmade hfile => ?_) fun call' file hcall hfile => ?_
      · have hne : call.file ≠ some file := fun hfile' => by
          have hbusy := h.busy k call' file hmade hfile
          simp [hfree file hfile'] at hbusy
        show (client.called heard.account.held call) file = heard.account.held file
        cases hcall : call.file with
        | none => simp [client, hcall]
        | some passed =>
            have hne' : file ≠ passed := by
              rintro rfl
              exact hne hcall
            simp [client, hcall, Function.update_of_ne hne']
      · obtain rfl := Option.some.inj hcall
        refine ⟨?_, by simp [hfree file hfile]⟩
        simp [fileClient, client, hfile, hfree file hfile]
  | returned i answer =>
      refine h.update (fun k call' file hki hmade hfile => ?_) (by simp)
      cases hreturned : heard.made i with
      | none => rfl
      | some call =>
          have hanswer := hpredicted i answer rfl call hreturned
          refine returned_of_ne (fun hfile' => hki ?_) fun result heq => ?_
          · exact h.alone k i call' call file hmade hreturned hfile hfile'
          · have hbusy := h.busy k call' file hmade hfile
            simp [hanswer.fresh result file heq] at hbusy

end Lent

/-! ## The calls on one handle -/

/-- `Close`. -/
def Call.closes : Call ρ → Bool
  | .Close _ => true
  | _ => false

/-- The calls on a handle that return, with their answers, until it is closed. -/
def answered (file : ℕ) (made : ι → Option (Call ρ)) :
    List (Mark ι (Call ρ) (Option Answer)) → List (Call ρ × Option Answer)
  | [] => []
  | .called i call :: marks => answered file (Function.update made i (some call)) marks
  | .returned i answer :: marks =>
      let later := answered file (Function.update made i none) marks
      match (made i).filter (Call.isOn file) with
      | none => later
      | some call => (call, answer) :: if call.closes then [] else later

section Answered

variable (R content) {call : Call ρ} {account : FileAccount} {file : ℕ} {c : Cursor UInt8}

/-- A file is gone once it was closed, and not before. -/
theorem referenceFile_closes {c' : Option (Cursor UInt8)} {answer : Answer}
    (h : referenceFile (some c) call = some (c', answer)) : call.closes = c'.isNone := by
  cases call with
  | Open | OpenW | Write => simp [referenceFile] at h
  | Close file =>
      cases file with
      | none => simp [referenceFile] at h
      | some file =>
          simp only [referenceFile, Option.some.injEq, Prod.mk.injEq] at h
          rw [← h.1]
          rfl
  | Read file pDst | Tell file pDst | Info file pDst =>
      cases file with
      | none => simp [referenceFile] at h
      | some file =>
          cases pDst with
          | false => simp [referenceFile] at h
          | true =>
              simp only [referenceFile, Option.some.injEq, Prod.mk.injEq] at h
              rw [← h.1]
              rfl
  | Seek file =>
      cases file with
      | none => simp [referenceFile] at h
      | some file =>
          simp only [referenceFile, Option.ite_none_right_eq_some, Option.some.injEq,
            Prod.mk.injEq] at h
          rw [← h.2.1]
          rfl

theorem FileAccount.file_eq_some :
    account.file file = some c ↔ (∃ lent, account.held file = some lent) ∧
      account.cursor file = c := by
  simp [FileAccount.file]

/-- A call that is made leaves the files as they are. -/
theorem file_called (account : FileAccount) (call : Call ρ) (file : ℕ) :
    ((fileClient R content).called account call).file file = account.file file := by
  cases hfile : call.file with
  | none => simp [FileAccount.file, fileClient, client, hfile]
  | some passed =>
      by_cases hpassed : file = passed
      · subst hpassed
        simp [FileAccount.file, fileClient, client, hfile, Function.comp_def]
      · simp [FileAccount.file, fileClient, client, hfile, Function.update_of_ne hpassed]

/-- A call that returns leaves the files of other open handles as they are. -/
theorem file_returned_of_ne {answer : Option Answer} (hanswer : Predicted account call answer)
    (hopen : account.file file = some c) (hfile : call.file ≠ some file) :
    ((fileClient R content).returned account call answer).file file = some c := by
  obtain ⟨⟨lent, hheld⟩, hcursor⟩ := FileAccount.file_eq_some.mp hopen
  have hopened : ∀ result, answer ≠ some (.opened result (some file)) := fun result heq => by
    simp [hanswer.fresh result file heq] at hheld
  refine FileAccount.file_eq_some.mpr ⟨⟨lent, ?_⟩, ?_⟩
  · exact (returned_of_ne hfile hopened).trans hheld
  · exact (moves_of_ne content hfile hopened).trans hcursor

/-- A call that returns moves its own file as the file says. -/
theorem file_returned {c' : Cursor UInt8} {answer : Answer} (hfile : call.file = some file)
    (hheld : account.held file = some true)
    (hreference : referenceFile (some (account.cursor file)) call = some (some c', answer)) :
    ((fileClient R content).returned account call (some answer)).file file = some c' := by
  refine FileAccount.file_eq_some.mpr ⟨⟨false, ?_⟩, ?_⟩
  · show account.held.returned call (some answer) file = some false
    rw [returned_reference hfile hheld hreference, Function.update_self]
    rfl
  · show call.moves content account.cursor (some answer) file = c'
    rw [moves_reference content hfile rfl hreference, Function.update_self]
    rfl

variable {R content} in
/-- In a history that is as the clients expect it, an open handle answers as its
own file. -/
theorem run_answered {heard : Heard ι FileAccount (Call ρ)}
    {marks : List (Mark ι (Call ρ) (Option Answer))}
    (hexpected : Throughout (fileClient R content) (Expected R content) heard marks)
    (hlent : Lent heard) (hopen : heard.account.file file = some c) :
    ∃ c' answers, run referenceFile (some c) ((answered file heard.made marks).map Prod.fst) =
        some (c', answers) ∧
      (answered file heard.made marks).map Prod.snd = answers.map some := by
  induction marks generalizing heard c with
  | nil => exact ⟨some c, [], rfl, rfl⟩
  | cons mark marks ih =>
      obtain ⟨hmark, hlater⟩ := hexpected
      have hlent' := hlent.hear hmark
      cases mark with
      | called i call => exact ih hlater hlent' ((file_called R content ..).trans hopen)
      | returned i answer =>
          have hpredicted := hmark.2 i answer rfl
          have hcursor := (FileAccount.file_eq_some.mp hopen).2
          simp only [answered]
          cases hmine : (heard.made i).filter (Call.isOn file) with
          | none =>
              -- a call on another handle, or on none
              refine ih hlater hlent' ?_
              cases hmade : heard.made i with
              | none => simpa [Client.hear, hmade] using hopen
              | some call =>
                  have hfile : call.file ≠ some file := by
                    simpa [hmade, Call.isOn] using hmine
                  have hkept := file_returned_of_ne R content
                    (hpredicted call hmade) hopen hfile
                  simpa [Client.hear, hmade] using hkept
          | some call =>
              obtain ⟨hmade, hon⟩ := Option.filter_eq_some_iff.mp hmine
              have hfile : call.file = some file := of_decide_eq_true hon
              obtain ⟨c', answer', hreference, rfl⟩ := (hpredicted call hmade).file file hfile
              have hfirst : referenceFile (some c) call = some (c', answer') := hcursor ▸ hreference
              cases c' with
              | none =>
                  have hcloses : call.closes = true := referenceFile_closes hreference
                  refine ⟨none, [answer'], ?_, ?_⟩
                  · simp [hcloses, run, hfirst]
                  · simp [hcloses]
              | some c' =>
                  have hcloses : call.closes = false := referenceFile_closes hreference
                  have hmoved := file_returned R content hfile
                    (hlent.busy i call file hmade hfile) hreference
                  obtain ⟨last, answers, hrun, hanswers⟩ := ih hlater hlent'
                    (by simpa [Client.hear, hmade] using hmoved)
                  refine ⟨last, answer' :: answers, ?_, ?_⟩
                  · simp only [hcloses, Bool.false_eq_true, if_false, List.map_cons]
                    exact run_cons_eq_some.mpr ⟨_, _, _, hfirst, hrun, rfl⟩
                  · simp only [hcloses, Bool.false_eq_true, if_false, List.map_cons]
                    exact congrArg _ hanswers

end Answered

/-! ## Runs -/

/-- From any point of any interleaving on, each open handle answers as its own
file does, with one cursor, until it is closed.  If it is only read, the bytes
are the next ones from the cursor, in whatever pieces they are read. -/
theorem handles_answer_as_files (hlawful : R.Lawful content)
    (before after : List (Foundation.Event ι (Call ρ)))
    {middle last : Threads ι (State ρ) FileAccount (CallbackCode ρ) (Call ρ)}
    {first rest : List (Option (Mark ι (Call ρ) (Option Answer)))}
    (hfirst : run (threadedStep R content) (Threads.idle State.empty FileAccount.empty) before =
      some (middle, first))
    (hrest : run (threadedStep R content) middle after = some (last, rest)) {file : ℕ}
    {c : Cursor UInt8} (hopen : middle.account.file file = some c) :
    ∃ c' answers,
      run referenceFile (some c) ((answered file middle.heard.made (history rest)).map Prod.fst) =
          some (c', answers) ∧
        (answered file middle.heard.made (history rest)).map Prod.snd = answers.map some ∧
        ∀ (ns : List UInt64) (pBytesRead : Bool),
          (answered file middle.heard.made (history rest)).map Prod.fst =
              ns.map (fun n => .Read (some file) true n pBytesRead) →
            bytesRead answers = c.next (ns.map UInt64.toNat).sum := by
  have hexpected := history_expected hlawful
    (run_append_eq_some.mpr ⟨middle, first, rest, hfirst, hrest, rfl⟩)
  rw [history_append, throughout_append] at hexpected
  have hheard := (run_heard hfirst).2
  have hlent : Lent middle.heard := by
    rw [hheard]
    exact hexpected.1.invariant (fun _ _ h hmark => h.hear hmark) Lent.empty
  have hlater : Throughout (fileClient R content) (Expected R content) middle.heard
      (history rest) := by
    rw [hheard]
    exact hexpected.2
  obtain ⟨c', answers, hrun, hanswers⟩ := run_answered hlater hlent hopen
  refine ⟨c', answers, hrun, hanswers, fun ns pBytesRead hreads => ?_⟩
  obtain ⟨answers', hrun', hbytes⟩ := referenceFile_reads (ρ := ρ) c file pBytesRead ns
  rw [hreads, hrun', Option.some.injEq, Prod.mk.injEq] at hrun
  rw [← hrun.2, hbytes, Cursor.reads_eq]

/-- One file is read in two pieces while another thread seeks in another. -/
theorem handles_answer_as_files_two :
    let before : List (Foundation.Event (Fin 2) (Call MemoryReader)) :=
      [.call 0 (.Open (memoryVFS [1, 2, 3]) (some "a") 1 true), .act 0, .act 0, .ret 0,
        .call 1 (.Open (memoryVFS [4, 5]) (some "b") 1 true), .act 1, .act 1, .ret 1]
    let after : List (Foundation.Event (Fin 2) (Call MemoryReader)) :=
      [.call 0 (.Read (some 0) true 2 true), .act 0, .call 1 (.Seek (some 1) 1 .start), .act 1,
        .act 0, .act 1, .act 0, .ret 0, .ret 1, .call 0 (.Read (some 0) true 2 true), .act 0,
        .act 0, .act 0, .ret 0]
    ∃ middle first last rest,
      run (threadedStep MemoryReader.reader MemoryReader.bytes)
          (Threads.idle State.empty FileAccount.empty) before = some (middle, first) ∧
        run (threadedStep MemoryReader.reader MemoryReader.bytes) middle after =
          some (last, rest) ∧
        (answered 0 middle.heard.made (history rest)).map Prod.snd =
          [some (.read .success [1, 2] (some 2)), some (.read .atEnd [3] (some 1))] ∧
        ∃ c' answers, run referenceFile (some ⟨[1, 2, 3], 0⟩)
            ((answered 0 middle.heard.made (history rest)).map Prod.fst) = some (c', answers) ∧
          (answered 0 middle.heard.made (history rest)).map Prod.snd = answers.map some ∧
          ∀ (ns : List UInt64) (pBytesRead : Bool),
            (answered 0 middle.heard.made (history rest)).map Prod.fst =
                ns.map (fun n => .Read (some 0) true n pBytesRead) →
              bytesRead answers = Cursor.next ⟨[1, 2, 3], 0⟩ (ns.map UInt64.toNat).sum := by
  intro before after
  exact ⟨_, _, _, _, rfl, rfl, rfl,
    handles_answer_as_files MemoryReader.lawful before after rfl rfl rfl⟩

end MiniaudioCpp.VFS
