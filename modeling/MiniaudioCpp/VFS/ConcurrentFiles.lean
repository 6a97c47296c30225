import MiniaudioCpp.Foundation.Histories
import MiniaudioCpp.VFS.Linearizable

/-!
# Every interleaving of the VFS callbacks is one of files with cursors

What a VFS is for when several threads use it: each handle is a file with a
cursor, and a call on it happens at one instant.  The clients keep to the rules of
`referenceStep`, which they can see: whether a `Seek` stays within a file depends
on what was done with that handle, and the account of the clients has it.

The callbacks are calls at one instant under the rules of `client`, and so they
are under these (`Client.Projects.exists_run`).  Then each of them is a call on
the reference files, one step after the other (`referenceStep_simulates`).
-/

namespace MiniaudioCpp.VFS

open Foundation

variable {ρ : Type*} {R : StreamReader ρ} {content : ρ → List UInt8}

/-! ## Clients that keep to the rules -/

/-- The account of the handles, and the cursor of the file behind each. -/
structure FileAccount where
  held : Account
  cursor : ℕ → Cursor UInt8

namespace FileAccount

/-- No file was opened yet. -/
def empty : FileAccount := ⟨fun _ => none, fun _ => ⟨[], 0⟩⟩

/-- The file of an open handle. -/
def file (account : FileAccount) (file : ℕ) : Option (Cursor UInt8) :=
  (account.held file).map fun _ => account.cursor file

end FileAccount

section

variable (R : StreamReader ρ) (content : ρ → List UInt8)

/-- A call that keeps to the rules of the reference files. -/
def Call.obeys (cursor : ℕ → Cursor UInt8) (call : Call ρ) : Bool :=
  match call.file with
  | some file => (referenceFile (some (cursor file)) call).isSome
  | none => (referenceStep R content Arena.empty call).isSome

/-- The cursors once a call has returned. -/
def Call.moves (cursor : ℕ → Cursor UInt8) (call : Call ρ) (answer : Option Answer) :
    ℕ → Cursor UInt8 :=
  match call, answer with
  | .Open vfs pFilePath _ _, some (.opened _ (some file)) =>
      Function.update cursor file ⟨(pFilePath.bind vfs.onCreateReader).elim [] content, 0⟩
  | call, _ =>
      match call.file with
      | none => cursor
      | some file =>
          Function.update cursor file
            (((referenceFile (some (cursor file)) call).bind Prod.fst).getD (cursor file))

/-- Clients of files with cursors: the rules of `client`, and those of the
files. -/
def fileClient : Client FileAccount (Call ρ) (Option Answer) where
  may account call := client.may account.held call && call.obeys R content account.cursor
  called account call := ⟨client.called account.held call, account.cursor⟩
  returned account call answer :=
    ⟨client.returned account.held call answer, call.moves content account.cursor answer⟩

/-- One call on the reference files. -/
def referenceCall (files : Arena (Cursor UInt8)) (call : Call ρ) :
    Option (Arena (Cursor UInt8) × Option Answer) :=
  (referenceStep R content files call).map fun (files, answer) => (files, some answer)

end

theorem fileClient_projects :
    (fileClient R content).Projects client FileAccount.held where
  may _ _ h := by
    simp only [fileClient, Bool.and_eq_true] at h
    exact h.1
  called _ _ := rfl
  returned _ _ _ := rfl

/-! ## What a call does to the reference files -/

section Reference

variable {files : Arena (Cursor UInt8)} {call : Call ρ} {file : ℕ} {account : Account}

/-- A call without a handle that keeps to the rules is an `Open`: it makes a new
file, or it answers an error. -/
theorem referenceStep_open (hfile : call.file = none)
    (hobeys : (referenceStep R content Arena.empty call).isSome) :
    (∃ answer, (∀ result file, answer ≠ .opened result (some file)) ∧
        ∀ files, referenceStep R content files call = some (files, answer)) ∨
      ∃ vfs path openMode reader, call = .Open vfs (some path) openMode true ∧
        vfs.onCreateReader path = some reader ∧
        ∀ files, referenceStep R content files call =
          some (files.alloc ⟨content reader, 0⟩, .opened .success (some files.size)) := by
  unfold referenceStep at hobeys
  split at hobeys
  next vfs path openMode =>
    by_cases hwrite : openMode = MA_OPEN_MODE_WRITE
    · refine Or.inl ⟨.opened .notImplemented none, by simp, fun files => ?_⟩
      rw [referenceStep, if_pos hwrite]
    · cases hreader : vfs.onCreateReader path with
      | none =>
          refine Or.inl ⟨.opened .error none, by simp, fun files => ?_⟩
          rw [referenceStep, if_neg hwrite, hreader]
      | some reader =>
          refine Or.inr ⟨vfs, path, openMode, reader, rfl, hreader, fun files => ?_⟩
          rw [if_neg hwrite, hreader] at hobeys
          rw [referenceStep, if_neg hwrite, hreader]
          dsimp only at hobeys ⊢
          split at hobeys
          · rw [if_pos ‹_›]
          · simp at hobeys
  next => simp [hfile] at hobeys

/-- A handle whose call has returned is open where its file is. -/
theorem returned_reference (hfile : call.file = some file) (hheld : account file = some true)
    {c : Cursor UInt8} {c' : Option (Cursor UInt8)} {answer : Answer}
    (hreference : referenceFile (some c) call = some (c', answer)) :
    account.returned call (some answer) =
      Function.update account file (c'.map fun _ => false) := by
  cases call with
  | Open | OpenW => simp [Call.file] at hfile
  | Write => simp [referenceFile] at hreference
  | Close passed =>
      obtain rfl : passed = some file := hfile
      simp only [referenceFile, Option.some.injEq, Prod.mk.injEq] at hreference
      obtain ⟨rfl, rfl⟩ := hreference
      rfl
  | Read passed pDst | Tell passed pDst | Info passed pDst =>
      obtain rfl : passed = some file := hfile
      cases pDst with
      | false => simp [referenceFile] at hreference
      | true =>
          simp only [referenceFile, Option.some.injEq, Prod.mk.injEq] at hreference
          obtain ⟨rfl, rfl⟩ := hreference
          simp [Account.returned, Call.file, hheld]
  | Seek passed =>
      obtain rfl : passed = some file := hfile
      simp only [referenceFile, Option.ite_none_right_eq_some, Option.some.injEq,
        Prod.mk.injEq] at hreference
      obtain ⟨_, rfl, rfl⟩ := hreference
      simp [Account.returned, Call.file, hheld]

/-- And it has the cursor of its file. -/
theorem moves_reference (content : ρ → List UInt8) (hfile : call.file = some file)
    {cursor : ℕ → Cursor UInt8} {c : Cursor UInt8} {c' : Option (Cursor UInt8)} {answer : Answer}
    (hcursor : cursor file = c) (hreference : referenceFile (some c) call = some (c', answer)) :
    call.moves content cursor (some answer) = Function.update cursor file (c'.getD c) := by
  cases call with
  | Open | OpenW => simp [Call.file] at hfile
  | Close | Read | Write | Seek | Tell | Info =>
      simp only [Call.moves, hfile, hcursor, hreference, Option.bind_some]

/-- A call that opened nothing leaves the cursors as they are. -/
theorem moves_refused (content : ρ → List UInt8) (hfile : call.file = none)
    (cursor : ℕ → Cursor UInt8) {answer : Answer}
    (hopened : ∀ result file, answer ≠ .opened result (some file)) :
    call.moves content cursor (some answer) = cursor := by
  unfold Call.moves
  split
  · rename_i hanswer
    exact absurd (Option.some.inj hanswer) (hopened _ _)
  · simp only [hfile]

end Reference

/-! ## The stages of a call -/

/-- A handle: its reference file, and what the clients know of it. -/
@[ext] structure FileView where
  file : Option (Cursor UInt8)
  known : Option (Cursor UInt8 × Bool)

/-- A handle in the two machines. -/
def FileView.of (files : Arena (Cursor UInt8)) (account : FileAccount) (file : ℕ) : FileView :=
  ⟨files.get? file, (account.held file).map fun lent => (account.cursor file, lent)⟩

/-- A handle that no call is working on. -/
def FileView.Settled (view : FileView) : Prop := view.known = view.file.map fun c => (c, false)

section

variable (R : StreamReader ρ) (content : ρ → List UInt8)

/-- Where a call can be that runs at one instant: before it, or after it. -/
inductive FileStage (view : ℕ → FileView) :
    Call ρ → Call ρ ⊕ Option Answer → Call ρ ⊕ Option Answer → Prop
  | opens {call : Call ρ} (hfile : call.file = none)
      (hobeys : (referenceStep R content Arena.empty call).isSome) :
      FileStage view call (.inl call) (.inl call)
  | refused {call : Call ρ} {answer : Answer} (hfile : call.file = none)
      (hopened : ∀ result file, answer ≠ .opened result (some file)) :
      FileStage view call (.inr (some answer)) (.inr (some answer))
  | opened {vfs : VFS ρ} {path : String} {openMode : UInt32} {reader : ρ} {file : ℕ}
      (hreader : vfs.onCreateReader path = some reader)
      (hview : view file = ⟨some ⟨content reader, 0⟩, none⟩) :
      FileStage view (.Open vfs (some path) openMode true)
        (.inr (some (.opened .success (some file)))) (.inr (some (.opened .success (some file))))
  | waits {call : Call ρ} {file : ℕ} {c : Cursor UInt8} (hfile : call.file = some file)
      (hobeys : (referenceFile (some c) call).isSome)
      (hview : view file = ⟨some c, some (c, true)⟩) :
      FileStage view call (.inl call) (.inl call)
  | answered {call : Call ρ} {file : ℕ} {c : Cursor UInt8} {c' : Option (Cursor UInt8)}
      {answer : Answer} (hfile : call.file = some file)
      (hreference : referenceFile (some c) call = some (c', answer))
      (hview : view file = ⟨c', some (c, true)⟩) :
      FileStage view call (.inr (some answer)) (.inr (some answer))

/-- How calls at one instant are followed on the reference files. -/
def fileTracking : Tracking (State ρ) (Arena (Cursor UInt8)) FileAccount (Call ρ ⊕ Option Answer)
    (Call ρ) (Option Answer) ℕ FileView Unit Unit where
  view _ := FileView.of
  Settled := FileView.Settled
  Free view := ∃ c, view.known = some (c, false)
  Born s file := file < s.files.size
  Uses := Uses
  own _ _ := ()
  blank := ()
  Stage view _ call way here _ := FileStage R content view call way here

end

section Stages

variable {view view' : ℕ → FileView} {call : Call ρ} {way here : Call ρ ⊕ Option Answer}

/-- A call on a handle does not answer with a new one. -/
theorem referenceFile_ne_opened {c : Option (Cursor UInt8)} {c' : Option (Cursor UInt8)}
    {answer : Answer} (h : referenceFile c call = some (c', answer)) (result : MaResult)
    (file : ℕ) : answer ≠ .opened result (some file) := by
  rintro rfl
  unfold referenceFile at h
  split at h
  all_goals simp at h

theorem FileStage.congr (h : FileStage R content view call way here)
    (hview : ∀ file, Uses call here file → view' file = view file) :
    FileStage R content view' call way here := by
  cases h with
  | opens hfile hobeys => exact .opens hfile hobeys
  | refused hfile hopened => exact .refused hfile hopened
  | opened hreader hopen => exact .opened hreader ((hview _ (Or.inr rfl)).trans hopen)
  | waits hfile hobeys hopen => exact .waits hfile hobeys ((hview _ (Or.inl hfile)).trans hopen)
  | answered hfile hreference hopen =>
      exact .answered hfile hreference ((hview _ (Or.inl hfile)).trans hopen)

theorem FileStage.busy (h : FileStage R content view call way here) {file : ℕ}
    (huses : Uses call here file) : ¬ ∃ c, (view file).known = some (c, false) := by
  rintro ⟨c, hfree⟩
  cases h with
  | opens hfile => simp [Uses, hfile] at huses
  | refused hfile hopened => simp [Uses, hfile, hopened] at huses
  | opened _ hview =>
      obtain rfl : _ = file := by simpa [Uses, Call.file] using huses
      simp [hview] at hfree
  | waits hfile _ hview =>
      obtain rfl := Option.some.inj (hfile.symm.trans (uses_call.mp huses))
      simp [hview] at hfree
  | answered hfile hreference hview =>
      obtain rfl := Option.some.inj
        (hfile.symm.trans ((uses_answer (referenceFile_ne_opened hreference)).mp huses))
      simp [hview] at hfree

end Stages

/-! ## A call is made, runs and returns -/

section Call

variable {s s' : State ρ} {files : Arena (Cursor UInt8)} {account : FileAccount} {call : Call ρ}
  {way way' here : Call ρ ⊕ Option Answer}

/-- The instant of a call.  The reference files run it too. -/
theorem exists_referenceCall (hlawful : R.Lawful content) (h : Refines R content files s)
    {files' : Arena (Cursor UInt8)} {answer : Answer}
    (hreference : referenceStep R content files call = some (files', answer))
    (hact : (atomicOperation (instantCall R)).act s (.inl call) = some (s', way')) :
    way' = .inr (some answer) ∧ Refines R content files' s' ∧
      referenceCall R content files call = some (files', some answer) := by
  obtain ⟨s'', hstep, hrefines⟩ := referenceStep_simulates hlawful h hreference
  simp only [atomicOperation, instantCall, hstep, Option.map_some, Option.some.injEq,
    Prod.mk.injEq] at hact
  obtain ⟨rfl, rfl⟩ := hact
  exact ⟨rfl, hrefines, by rw [referenceCall, hreference]; rfl⟩

theorem FileStage.advance (hlawful : R.Lawful content) (h : Refines R content files s)
    (hunborn : ∀ file, ¬ file < s.files.size → (FileView.of files account file).Settled)
    (hstage : FileStage R content (FileView.of files account) call way here)
    (hact : (atomicOperation (instantCall R)).act s way = some (s', way')) :
    ∃ files' here', (fileTracking R content).Advance (referenceCall R content) account call s files
        here s' way' files' here' () ∧ Refines R content files' s' := by
  cases hstage with
  | refused | opened | answered => simp [atomicOperation] at hact
  | opens hfile hobeys =>
      rcases referenceStep_open hfile hobeys with ⟨answer, hopened, hreference⟩ |
        ⟨vfs, path, openMode, reader, rfl, hreader, hreference⟩
      · obtain ⟨rfl, hrefines, hserved⟩ := exists_referenceCall hlawful h (hreference files) hact
        have hsize : s'.files.size = s.files.size := hrefines.size.symm.trans h.size
        refine ⟨files, _, ⟨Or.inr ⟨rfl, _, rfl, hserved⟩, .refused hfile hopened, fun _ _ => rfl,
          fun j hj => ?_, fun j hj => ?_, fun j hj => Nat.lt_of_lt_of_eq hj hsize.symm⟩, hrefines⟩
        · exact (uses_answer hopened).mpr (uses_call.mp hj)
        · exact Or.inl (uses_call.mpr ((uses_answer hopened).mp hj))
      · obtain ⟨rfl, hrefines, hserved⟩ := exists_referenceCall hlawful h (hreference files) hact
        have hsize : s'.files.size = s.files.size + 1 := by
          rw [← hrefines.size, Arena.size_alloc, h.size]
        have hview : FileView.of (files.alloc ⟨content reader, 0⟩) account files.size =
            ⟨some ⟨content reader, 0⟩, none⟩ := by
          refine FileView.ext (Arena.get?_alloc_self ..) ?_
          have hnone : files.get? files.size = none := Arena.get?_of_size_le (Nat.le_refl _)
          have hsettled := hunborn files.size (by rw [h.size]; exact Nat.lt_irrefl _)
          simpa [FileView.Settled, FileView.of, hnone] using hsettled
        refine ⟨_, _, ⟨Or.inr ⟨rfl, _, rfl, hserved⟩, .opened hreader hview, fun j hj => ?_,
          fun j hj => ?_, fun j hj => ?_, fun j hj => ?_⟩, hrefines⟩
        · have hne : j ≠ files.size := fun heq => hj (heq ▸ Or.inr rfl)
          simp [fileTracking, FileView.of, Arena.get?_alloc, hne]
        · exact absurd (uses_call.mp hj) (by simp [Call.file])
        · obtain rfl : files.size = j := by simpa [fileTracking, Uses, Call.file] using hj
          refine Or.inr ⟨?_, ?_⟩
          · rw [h.size]
            exact Nat.lt_irrefl _
          · rw [h.size]
            exact Nat.lt_of_lt_of_eq (Nat.lt_succ_self _) hsize.symm
        · exact Nat.lt_of_lt_of_eq (Nat.lt_succ_of_lt hj) hsize.symm
  | @waits _ file c hfile hobeys hview =>
      obtain ⟨⟨c', answer⟩, hfirst⟩ := Option.isSome_iff_exists.mp hobeys
      have hget : files.get? file = some c := congrArg FileView.file hview
      have hknown := congrArg FileView.known hview
      have hreference : referenceStep R content files call =
          some (files.update file c', answer) := by
        rw [referenceStep_of_file hfile, hget, hfirst]
        rfl
      obtain ⟨rfl, hrefines, hserved⟩ := exists_referenceCall hlawful h hreference hact
      have hlt := Arena.lt_size_of_get? hget
      have hsize : s'.files.size = s.files.size := by
        rw [← hrefines.size, Arena.size_update, h.size]
      have hopened := referenceFile_ne_opened hfirst
      refine ⟨_, _, ⟨Or.inr ⟨rfl, _, rfl, hserved⟩, .answered hfile hfirst ?_, fun j hj => ?_,
        fun j hj => ?_, fun j hj => ?_, fun j hj => Nat.lt_of_lt_of_eq hj hsize.symm⟩, hrefines⟩
      · refine FileView.ext ?_ hknown
        exact (Arena.get?_update hlt c' file).trans (if_pos rfl)
      · have hne : j ≠ file := by
          rintro rfl
          exact hj (Or.inl hfile)
        simp [fileTracking, FileView.of, Arena.get?_update hlt, hne]
      · exact (uses_answer hopened).mpr (uses_call.mp hj)
      · exact Or.inl (uses_call.mpr ((uses_answer hopened).mp hj))

/-- Where a call that is allowed starts. -/
theorem file_begins (h : Refines R content files s)
    (hmay : (fileClient R content).may account call = true)
    (hsettled : ∀ file, (∃ c, (FileView.of files account file).known = some (c, false)) →
      (FileView.of files account file).Settled) :
    ∃ here, (fileTracking R content).Begins (referenceCall R content) (.inl call) account
      ((fileClient R content).called account call) s files call here := by
  simp only [fileClient, Bool.and_eq_true] at hmay
  obtain ⟨hheld, hobeys⟩ := hmay
  cases hfile : call.file with
  | none =>
      rw [Call.obeys, hfile] at hobeys
      have hcalled : (fileClient R content).called account call = account := by
        simp only [fileClient, client, hfile]
      rw [hcalled]
      exact ⟨.inl call, Or.inl rfl, .opens hfile hobeys, fun _ _ => rfl,
        fun j hj => absurd (uses_call.mp hj) (by simp [hfile])⟩
  | some file =>
      rw [Call.obeys, hfile] at hobeys
      have hfree : account.held file = some false := may_eq_true_iff.mp hheld file hfile
      have hget : files.get? file = some (account.cursor file) := by
        have hknown := hsettled file ⟨account.cursor file, by simp [FileView.of, hfree]⟩
        cases hget : files.get? file with
        | none => simp [FileView.Settled, FileView.of, hfree, hget] at hknown
        | some c =>
            obtain rfl : account.cursor file = c := by
              simpa [FileView.Settled, FileView.of, hfree, hget] using hknown
            rfl
      refine ⟨.inl call, Or.inl rfl, .waits hfile hobeys (FileView.ext hget ?_), fun j hj => ?_,
        fun j hj => ?_⟩
      · simp [fileTracking, FileView.of, fileClient, client, hfile, hfree]
      · have hne : j ≠ file := by
          rintro rfl
          exact hj (uses_call.mpr hfile)
        simp [fileTracking, FileView.of, fileClient, client, hfile, Function.update_of_ne hne]
      · obtain rfl := Option.some.inj (hfile.symm.trans (uses_call.mp hj))
        refine ⟨⟨account.cursor file, by simp [fileTracking, FileView.of, hfree]⟩, ?_⟩
        exact Nat.lt_of_lt_of_eq (Arena.lt_size_of_get? hget) h.size

/-- A call hands back its handle, with the cursor of its file. -/
theorem FileStage.handsBack {answer : Option Answer}
    (hstage : FileStage R content (FileView.of files account) call way here)
    (hresult : (atomicOperation (instantCall R)).result way = some answer) :
    (fileTracking R content).HandsBack account
      ((fileClient R content).returned account call answer) s files call here answer () := by
  cases hstage with
  | opens | waits => simp [atomicOperation] at hresult
  | @refused _ answer' hfile hopened =>
      obtain rfl : some answer' = answer := Option.some.inj hresult
      have hnone : ∀ j, ¬ Uses call (.inr (some answer')) j := fun j hj => by
        simp [Uses, hfile, hopened] at hj
      refine ⟨rfl, rfl, fun j hj => absurd hj (hnone j), fun j _ => ?_⟩
      have hclose : ∀ file, call ≠ .Close (some file) := by
        rintro file rfl
        simp [Call.file] at hfile
      have hheld := returned_ended account.held hopened hclose j
      rw [if_neg (by simp [hfile])] at hheld
      have hcursor := moves_refused content hfile account.cursor hopened
      simp only [fileTracking, FileView.of, fileClient, hcursor]
      congr 2
  | @opened vfs path openMode reader file hreader hview =>
      obtain rfl : some (Answer.opened .success (some file)) = answer := Option.some.inj hresult
      refine ⟨rfl, rfl, fun j hj => ?_, fun j hj => ?_⟩
      · obtain rfl : file = j := by simpa [fileTracking, Uses, Call.file] using hj
        have hget : files.get? file = some ⟨content reader, 0⟩ := congrArg FileView.file hview
        simp [fileTracking, FileView.Settled, FileView.of, fileClient, client, Account.returned,
          Call.moves, hreader, hget]
      · have hne : j ≠ file := fun heq => hj (heq ▸ Or.inr rfl)
        simp [fileTracking, FileView.of, fileClient, client, Account.returned, Call.moves,
          Function.update_of_ne hne]
  | @answered _ file c c' answer' hfile hreference hview =>
      obtain rfl : some answer' = answer := Option.some.inj hresult
      have hopened := referenceFile_ne_opened hreference
      have hget : files.get? file = c' := congrArg FileView.file hview
      have hknown : (account.held file).map (fun lent => (account.cursor file, lent)) =
          some (c, true) := congrArg FileView.known hview
      obtain ⟨hheld, hcursor⟩ : account.held file = some true ∧ account.cursor file = c := by
        simpa [and_comm] using hknown
      have hreturned := returned_reference hfile hheld hreference
      have hmoves := moves_reference content hfile hcursor hreference
      refine ⟨rfl, rfl, fun j hj => ?_, fun j hj => ?_⟩
      · obtain rfl := Option.some.inj (hfile.symm.trans ((uses_answer hopened).mp hj))
        simp only [fileTracking, FileView.Settled, FileView.of, fileClient, client, hreturned,
          hmoves, hget, Function.update_self]
        cases c' with
        | none => rfl
        | some c' => rfl
      · have hne : j ≠ file := by
          rintro rfl
          exact hj (Or.inl hfile)
        simp [fileTracking, FileView.of, fileClient, client, hreturned, hmoves,
          Function.update_of_ne hne]

end Call

/-! ## Runs -/

section Runs

variable {ι : Type*} [DecidableEq ι]

/-- Calls at one instant can be followed on the reference files. -/
theorem fileTracking_sound (hlawful : R.Lawful content) :
    (fileTracking R content).Sound (atomicOperation (instantCall R)) (referenceCall R content)
      (fileClient R content) (fun s files (_ : ι → Unit) => Refines R content files s) where
  congr h hview := FileStage.congr h hview
  busy h huses := FileStage.busy h huses
  begins h hmay hsettled := file_begins h hmay hsettled
  advance h hunborn hstage hact := by
    obtain ⟨files', here', hadvance, hrefines⟩ :=
      FileStage.advance hlawful h hunborn hstage hact
    exact ⟨files', here', (), hadvance, hrefines, fun _ _ => rfl⟩
  handsBack hstage hresult := FileStage.handsBack hstage hresult

variable (R content) in
/-- The callbacks, called by threads that keep to the rules of the files. -/
def threadedStep : Threads ι (State ρ) FileAccount (CallbackCode ρ) (Call ρ) →
    Foundation.Event ι (Call ρ) →
      Option (Threads ι (State ρ) FileAccount (CallbackCode ρ) (Call ρ) ×
        Option (Mark ι (Call ρ) (Option Answer))) :=
  threadStep (codeOperation (Call.code R)) (fileClient R content)

variable (R content) in
/-- The reference files, called by threads: each call is one step. -/
def threadedReferenceStep :
    Threads ι (Arena (Cursor UInt8)) FileAccount (Call ρ ⊕ Option Answer) (Call ρ) →
      Foundation.Event ι (Call ρ) →
        Option (Threads ι (Arena (Cursor UInt8)) FileAccount (Call ρ ⊕ Option Answer) (Call ρ) ×
          Option (Mark ι (Call ρ) (Option Answer))) :=
  threadStep (atomicOperation (referenceCall R content)) (fileClient R content)

/-- Where no call is under way, an open handle has the reader of its file, at its
cursor. -/
theorem opened_of_quiet {files : Arena (Cursor UInt8)} {s t : State ρ} {account : FileAccount}
    (h : Refines R content files t)
    (hsettled : ∀ file, (FileView.of files account file).Settled)
    (hsame : ∀ file, t.opened file = s.opened file ∧
      account.held file = (s.opened file).map fun _ => false) (file : ℕ) :
    account.file file = files.get? file ∧
      (s.opened file).map (fun (size, reader) => (size.toNat, R.cursor content reader)) =
        (files.get? file).map fun c => (c.content.length, c) := by
  obtain ⟨hopened, hheld⟩ := hsame file
  have hfile := hsettled file
  cases hget : files.get? file with
  | none =>
      have hnone : account.held file = none := by
        simpa [FileView.Settled, FileView.of, hget] using hfile
      have hclosed : s.opened file = none := by simpa [hnone] using hheld.symm
      simp [FileAccount.file, hnone, hclosed]
  | some c =>
      obtain ⟨f, reader, hderef, hrefines⟩ := h.file file c hget
      have hopen : s.opened file = some (f.FileSize, reader) := by
        rw [← hopened, State.opened, hderef, Option.map_some]
      have hknown : account.held file = some false := by rw [hheld, hopen, Option.map_some]
      have hcursor : account.cursor file = c := by
        simpa [FileView.Settled, FileView.of, hget, hknown] using hfile
      simp [FileAccount.file, hknown, hcursor, hopen, hrefines.cursor, hrefines.size]

/-- The callbacks are calls at one instant, under the rules of the files too. -/
theorem exists_fileClient_run {schedule : List (Foundation.Event ι (Call ρ))}
    {last : Threads ι (State ρ) FileAccount (CallbackCode ρ) (Call ρ)}
    {marks : List (Option (Mark ι (Call ρ) (Option Answer)))}
    (hrun : run (threadedStep R content) (Threads.idle State.empty FileAccount.empty) schedule =
      some (last, marks)) :
    ∃ events marks' a, run (threadStep (atomicOperation (instantCall R)) (fileClient R content))
        (Threads.idle State.empty FileAccount.empty) events = some (a, marks') ∧
      history marks' = history marks ∧ a.account = last.account ∧
      (last.Quiet → a.Quiet ∧ Correspondence last.state ∧
        ∀ file, a.state.opened file = last.state.opened file ∧
          last.account.held file = (last.state.opened file).map fun _ => false) :=
  fileClient_projects.exists_run
    (P := fun (last : Running ι ρ) (a : Instant ι ρ) =>
      last.Quiet → a.Quiet ∧ Correspondence last.state ∧
        ∀ file, a.state.opened file = last.state.opened file ∧
          last.account file = (last.state.opened file).map fun _ => false)
    hrun fun hlax => exists_instant_run hlax

theorem FileView.settled_empty (file : ℕ) :
    (FileView.of (Arena.empty : Arena (Cursor UInt8)) FileAccount.empty file).Settled := by
  simp [Settled, of, FileAccount.empty]

/-- Threads that share a VFS and keep to its rules see files with cursors: over
every interleaving of the callbacks, the calls and answers are those of a run of
the reference files where each call is one step between the call and its return.
Where no call is under way, each open handle has a reader at the cursor of its
file. -/
theorem vfs_threads_refine_files (hlawful : R.Lawful content)
    (schedule : List (Foundation.Event ι (Call ρ)))
    {last : Threads ι (State ρ) FileAccount (CallbackCode ρ) (Call ρ)}
    {marks : List (Option (Mark ι (Call ρ) (Option Answer)))}
    (hrun : run (threadedStep R content) (Threads.idle State.empty FileAccount.empty) schedule =
      some (last, marks)) :
    ∃ events marks' a, run (threadedReferenceStep R content)
        (Threads.idle Arena.empty FileAccount.empty) events = some (a, marks') ∧
      history marks' = history marks ∧
      (last.Quiet → a.Quiet ∧ ∀ file, last.account.file file = a.state.get? file ∧
        (last.state.opened file).map (fun (size, reader) => (size.toNat, R.cursor content reader)) =
          (a.state.get? file).map fun c => (c.content.length, c)) := by
  obtain ⟨events, marks', instant, hinstant, hhistory, haccount, hquiet⟩ :=
    exists_fileClient_run hrun
  obtain ⟨events', marks'', a, hreference, hhistory', _, h⟩ :=
    (fileTracking_sound (ι := ι) hlawful).exists_instant_run FileView.settled_empty
      Refines.empty hinstant
  refine ⟨events', marks'', a, hreference, hhistory'.trans hhistory, fun hlast => ?_⟩
  obtain ⟨hstill, _, hsame⟩ := hquiet hlast
  obtain ⟨haquiet, hfiles, hrefines⟩ := h.of_quiet hstill
  exact ⟨haquiet, opened_of_quiet hrefines (haccount ▸ hfiles) hsame⟩

/-- Two threads that read two files at once, one of them from its end. -/
theorem vfs_threads_refine_two_files :
    let schedule : List (Foundation.Event (Fin 2) (Call MemoryReader)) :=
      [.call 0 (.Open (memoryVFS [1, 2, 3]) (some "a") 1 true), .act 0,
        .call 1 (.Open (memoryVFS [4, 5]) (some "b") 1 true), .act 1, .act 1, .act 0, .ret 0,
        .ret 1, .call 1 (.Seek (some 0) (-1) .endOfFile), .call 0 (.Read (some 1) true 2 true),
        .act 0, .act 1, .act 0, .act 1, .ret 1, .act 0, .ret 0]
    ∃ last marks, run (threadedStep MemoryReader.reader MemoryReader.bytes)
        (Threads.idle State.empty FileAccount.empty) schedule = some (last, marks) ∧
      (last.account.file 0, last.account.file 1) = (some ⟨[4, 5], 1⟩, some ⟨[1, 2, 3], 2⟩) ∧
      ∃ events marks' a, run (threadedReferenceStep MemoryReader.reader MemoryReader.bytes)
          (Threads.idle Arena.empty FileAccount.empty) events = some (a, marks') ∧
        history marks' = history marks ∧
        (last.Quiet → a.Quiet ∧ ∀ file, last.account.file file = a.state.get? file ∧
          (last.state.opened file).map (fun (size, reader) =>
              (size.toNat, MemoryReader.reader.cursor MemoryReader.bytes reader)) =
            (a.state.get? file).map fun c => (c.content.length, c)) := by
  intro schedule
  exact ⟨_, _, rfl, rfl, vfs_threads_refine_files MemoryReader.lawful schedule rfl⟩

end Runs

end MiniaudioCpp.VFS
