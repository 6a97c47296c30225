import MiniaudioCpp.Foundation.Threads
import MiniaudioCpp.VFS.Refinement

/-!
# The callbacks of the VFS called by several threads

miniaudio opens and decodes files on its job threads, and they all use one VFS.
Nothing in the callbacks is locked: `Read` asks the reader for its position and
then reads, `Open` has a reader before it has a file, and `Close` deletes the
reader before the file.  Here each callback is the code of these actions
(`exec_code`), and a client passes a handle to at most one call at a time.
-/

namespace MiniaudioCpp.VFS

open Foundation

variable {ρ : Type*}

/-! ## Single actions on the state -/

namespace State

/-- A fresh reader, at address `s.readers.size`. -/
def createReader (s : State ρ) (reader : ρ) : State ρ :=
  { s with readers := s.readers.alloc reader }

/-- A fresh file, with the handle `s.files.size`. -/
def createFile (s : State ρ) (vfsFile : VFSFile) : State ρ :=
  { s with files := s.files.alloc vfsFile }

/-- `delete Reader`. -/
def deleteReader (s : State ρ) (p : ℕ) : State ρ :=
  { s with readers := s.readers.free p, deleted := s.deleted ++ [p] }

/-- The end of `delete (VFSFile*)file`, after the destructor. -/
def freeFile (s : State ρ) (file : ℕ) : State ρ := { s with files := s.files.free file }

/-- The size and the reader of an open file. -/
def opened (s : State ρ) (file : ℕ) : Option (UInt64 × ρ) :=
  (s.deref file).map fun (vfsFile, reader) => (vfsFile.FileSize, reader)

/-! ### What they leave of the open files -/

section Frame

variable {s s' : State ρ} {file p : ℕ}

/-- A file is as it was where it has the same members, and its reader is. -/
theorem deref_congr (hfile : s'.files.get? file = s.files.get? file)
    (hreader : ∀ q, s.slots file = some q → s'.readers.get? q = s.readers.get? q) :
    s'.deref file = s.deref file := by
  unfold deref
  rw [hfile]
  cases hget : s.files.get? file with
  | none => rfl
  | some vfsFile =>
      have hslot := hreader vfsFile.Reader (slots_of_get? hget)
      simp only [Option.bind_some, hslot]

theorem deref_setReader_of_slots_ne (hp : p < s.readers.size) (hslot : s.slots file ≠ some p)
    (reader : ρ) : (s.setReader p reader).deref file = s.deref file := by
  refine deref_congr rfl fun q hq => Arena.get?_put_of_ne hp ?_ reader
  rintro rfl
  exact hslot hq

theorem deref_createReader (hbounded : ∀ q, s.slots file = some q → q < s.readers.size)
    (reader : ρ) : (s.createReader reader).deref file = s.deref file := by
  refine deref_congr rfl fun q hq => ?_
  show (s.readers.alloc reader).get? q = s.readers.get? q
  rw [Arena.get?_alloc, if_neg (Nat.ne_of_lt (hbounded q hq))]

theorem get?_createFile_of_ne (hfile : file ≠ s.files.size) (vfsFile : VFSFile) :
    (s.createFile vfsFile).files.get? file = s.files.get? file := by
  show (s.files.alloc vfsFile).get? file = s.files.get? file
  rw [Arena.get?_alloc, if_neg hfile]

theorem deref_createFile (hfile : file ≠ s.files.size) (vfsFile : VFSFile) :
    (s.createFile vfsFile).deref file = s.deref file :=
  deref_congr (get?_createFile_of_ne hfile vfsFile) fun _ _ => rfl

theorem deref_deleteReader (hslot : s.slots file ≠ some p) :
    (s.deleteReader p).deref file = s.deref file := by
  refine deref_congr rfl fun q hq => ?_
  show (s.readers.free p).get? q = s.readers.get? q
  rw [Arena.get?_free, if_neg]
  rintro rfl
  exact hslot hq

theorem get?_freeFile_of_ne {other : ℕ} (hfile : file ≠ other) :
    (s.freeFile other).files.get? file = s.files.get? file := by
  show (s.files.free other).get? file = s.files.get? file
  rw [Arena.get?_free, if_neg hfile]

theorem deref_freeFile {other : ℕ} (hfile : file ≠ other) :
    (s.freeFile other).deref file = s.deref file :=
  deref_congr (get?_freeFile_of_ne hfile) fun _ _ => rfl

/-- A new file leaves the other handles as they are. -/
theorem deref_newFile_of_ne (hbounded : ∀ q, s.slots file = some q → q < s.readers.size)
    (hfile : file ≠ s.files.size) (reader : ρ) (FileSize : UInt64) :
    (s.newFile reader FileSize).deref file = s.deref file :=
  calc (s.newFile reader FileSize).deref file
      = ((s.createReader reader).createFile ⟨s.readers.size, FileSize⟩).deref file := rfl
    _ = (s.createReader reader).deref file :=
        deref_createFile (s := s.createReader reader) hfile _
    _ = s.deref file := deref_createReader hbounded reader

/-- A file that is closed leaves the handles of other readers as they are. -/
theorem deref_deleteFile_of_slots_ne {other : ℕ} {vfsFile : VFSFile} (hfile : file ≠ other)
    (hslot : s.slots file ≠ some vfsFile.Reader) :
    (s.deleteFile other vfsFile).deref file = s.deref file :=
  calc (s.deleteFile other vfsFile).deref file
      = ((s.deleteReader vfsFile.Reader).freeFile other).deref file := rfl
    _ = (s.deleteReader vfsFile.Reader).deref file := deref_freeFile hfile
    _ = s.deref file := deref_deleteReader hslot

theorem slots_createFile (s : State ρ) (vfsFile : VFSFile) :
    (s.createFile vfsFile).slots = Function.update s.slots s.files.size (some vfsFile.Reader) := by
  funext file
  by_cases hfile : file = s.files.size
  · subst hfile
    simp [slots, createFile]
  · rw [slots, get?_createFile_of_ne hfile, Function.update_of_ne hfile, slots]

theorem slots_freeFile (s : State ρ) (other : ℕ) :
    (s.freeFile other).slots = Function.update s.slots other none := by
  funext file
  by_cases hfile : file = other
  · subst hfile
    simp [slots, freeFile, Arena.get?_free]
  · rw [slots, get?_freeFile_of_ne hfile, Function.update_of_ne hfile, slots]

end Frame

end State

/-! ## The callbacks as code -/

/-- The code of a callback.  It has no answer where it uses a handle or a reader
that is not there. -/
abbrev CallbackCode (ρ : Type*) := Code (State ρ) (Option Answer)

namespace Callback

/-- `(VFSFile*)file`, with its members. -/
def loadFile (file : ℕ) (next : VFSFile → CallbackCode ρ) : CallbackCode ρ :=
  .act id fun s =>
    match s.files.get? file with
    | some vfsFile => next vfsFile
    | none => .ret none

/-- A call on a reader. -/
def callReader {β : Type*} (p : ℕ) (f : ρ → β × ρ) (next : β → CallbackCode ρ) : CallbackCode ρ :=
  .act (fun s => ((s.readers.get? p).map fun reader => s.setReader p (f reader).2).getD s) fun s =>
    match s.readers.get? p with
    | some reader => next (f reader).1
    | none => .ret none

/-- `onCreateReader`, which makes a fresh reader. -/
def createReader (reader : ρ) (next : ℕ → CallbackCode ρ) : CallbackCode ρ :=
  .act (fun s => s.createReader reader) fun s => next s.readers.size

/-- `new VFSFile`. -/
def newFile (vfsFile : VFSFile) (next : ℕ → CallbackCode ρ) : CallbackCode ρ :=
  .act (fun s => s.createFile vfsFile) fun s => next s.files.size

/-- `delete Reader`. -/
def deleteReader (p : ℕ) (next : CallbackCode ρ) : CallbackCode ρ :=
  .act (fun s => s.deleteReader p) fun _ => next

/-- The end of `delete (VFSFile*)file`. -/
def deleteFile (file : ℕ) (next : CallbackCode ρ) : CallbackCode ρ :=
  .act (fun s => s.freeFile file) fun _ => next

end Callback

section Code

variable (R : StreamReader ρ)

/-- `reader->GetStreamPosition()`. -/
def Callback.getStreamPosition (p : ℕ) (next : UInt64 → CallbackCode ρ) : CallbackCode ρ :=
  callReader p (fun reader => (R.GetStreamPosition reader, reader)) next

/-- `reader->SetStreamPosition(position)`. -/
def Callback.setStreamPosition (p : ℕ) (position : UInt64) (next : CallbackCode ρ) :
    CallbackCode ρ :=
  callReader p (fun reader => ((), R.SetStreamPosition position reader)) fun _ => next

/-- The code of `Open`. -/
def Open.code (vfs : VFS ρ) (pFilePath : Option String) (openMode : UInt32) (pFile : Bool) :
    CallbackCode ρ :=
  match pFilePath with
  | none => .ret (some (.opened .invalidArgs none))
  | some path =>
      if !pFile then .ret (some (.opened .invalidArgs none))
      else if openMode = MA_OPEN_MODE_WRITE then .ret (some (.opened .notImplemented none))
      else
        match vfs.onCreateReader path with
        | none => .ret (some (.opened .error none))
        | some reader =>
            Callback.createReader reader fun p =>
              Callback.newFile ⟨p, vfs.onGetFileSize path⟩ fun file =>
                .ret (some (.opened .success (some file)))

/-- The code of `Close`. -/
def Close.code (file : Option ℕ) : CallbackCode ρ :=
  match file with
  | none => .ret (some (.result .invalidArgs))
  | some file =>
      Callback.loadFile file fun vfsFile =>
        Callback.deleteReader vfsFile.Reader
          (Callback.deleteFile file (.ret (some (.result .success))))

/-- The end of `Read`, from the position on. -/
def Read.data (sizeInBytes : UInt64) (pBytesRead : Bool) (vfsFile : VFSFile)
    (position : UInt64) : CallbackCode ρ :=
  let toRead := min sizeInBytes (vfsFile.FileSize - position)
  Callback.callReader vfsFile.Reader (R.ReadData toRead) fun data =>
    .ret (some (.read (if toRead ≠ sizeInBytes then .atEnd else .success) data
      (if pBytesRead then some toRead else none)))

/-- The code of `Read`. -/
def Read.code (file : Option ℕ) (pDst : Bool) (sizeInBytes : UInt64) (pBytesRead : Bool) :
    CallbackCode ρ :=
  match file with
  | none => .ret (some (.read .invalidArgs [] none))
  | some file =>
      if !pDst then .ret (some (.read .invalidArgs [] none))
      else
        Callback.loadFile file fun vfsFile =>
          Callback.getStreamPosition R vfsFile.Reader (Read.data R sizeInBytes pBytesRead vfsFile)

/-- The end of `Seek`. -/
def Seek.set (vfsFile : VFSFile) (position : UInt64) : CallbackCode ρ :=
  Callback.setStreamPosition R vfsFile.Reader position (.ret (some (.result .success)))

/-- The code of `Seek`. -/
def Seek.code (file : Option ℕ) (offset : Int64) (origin : MaSeekOrigin) : CallbackCode ρ :=
  match file with
  | none => .ret (some (.result .invalidArgs))
  | some file =>
      Callback.loadFile file fun vfsFile =>
        match origin with
        | .current =>
            Callback.getStreamPosition R vfsFile.Reader fun position =>
              Seek.set R vfsFile (position + offset.toUInt64)
        | .endOfFile => Seek.set R vfsFile (vfsFile.FileSize + offset.toUInt64)
        | _ => Seek.set R vfsFile offset.toUInt64

/-- The code of `Tell`. -/
def Tell.code (file : Option ℕ) (pCursor : Bool) : CallbackCode ρ :=
  match file with
  | none => .ret (some (.told .invalidArgs none))
  | some file =>
      if !pCursor then .ret (some (.told .invalidArgs none))
      else
        Callback.loadFile file fun vfsFile =>
          Callback.getStreamPosition R vfsFile.Reader fun position =>
            .ret (some (.told .success (some position.toInt64)))

/-- The code of `Info`. -/
def Info.code (file : Option ℕ) (pInfo : Bool) : CallbackCode ρ :=
  match file with
  | none => .ret (some (.info .invalidArgs none))
  | some file =>
      if !pInfo then .ret (some (.info .invalidArgs none))
      else
        Callback.loadFile file fun vfsFile =>
          .ret (some (.info .success (some vfsFile.FileSize)))

/-- The code of a callback. -/
def Call.code : Call ρ → CallbackCode ρ
  | .Open vfs pFilePath openMode pFile => Open.code vfs pFilePath openMode pFile
  | .OpenW => .ret (some (.asserted .notImplemented))
  | .Close file => Close.code file
  | .Read file pDst sizeInBytes pBytesRead => Read.code R file pDst sizeInBytes pBytesRead
  | .Write _ => .ret (some (.asserted .notImplemented))
  | .Seek file offset origin => Seek.code R file offset origin
  | .Tell file pCursor => Tell.code R file pCursor
  | .Info file pInfo => Info.code file pInfo

end Code

section Sequential

variable {R : StreamReader ρ} {s : State ρ} {p file : ℕ}

theorem exec_loadFile {vfsFile : VFSFile} (hfile : s.files.get? file = some vfsFile)
    (next : VFSFile → CallbackCode ρ) :
    (Callback.loadFile file next).exec s = (next vfsFile).exec s := by
  simp [Callback.loadFile, Code.exec, hfile]

theorem exec_loadFile_none (hfile : s.files.get? file = none) (next : VFSFile → CallbackCode ρ) :
    (Callback.loadFile file next).exec s = (none, s) := by
  simp [Callback.loadFile, Code.exec, hfile]

theorem exec_callReader {β : Type*} {reader : ρ} (hreader : s.readers.get? p = some reader)
    (f : ρ → β × ρ) (next : β → CallbackCode ρ) :
    (Callback.callReader p f next).exec s =
      (next (f reader).1).exec (s.setReader p (f reader).2) := by
  simp [Callback.callReader, Code.exec, hreader]

theorem exec_callReader_none {β : Type*} (hreader : s.readers.get? p = none) (f : ρ → β × ρ)
    (next : β → CallbackCode ρ) : (Callback.callReader p f next).exec s = (none, s) := by
  simp [Callback.callReader, Code.exec, hreader]

theorem exec_getStreamPosition {reader : ρ} (hreader : s.readers.get? p = some reader)
    (next : UInt64 → CallbackCode ρ) :
    (Callback.getStreamPosition R p next).exec s =
      (next (R.GetStreamPosition reader)).exec s := by
  rw [Callback.getStreamPosition, exec_callReader hreader, State.setReader_self hreader]

theorem exec_set {vfsFile : VFSFile} {reader : ρ}
    (hreader : s.readers.get? vfsFile.Reader = some reader) (position : UInt64) :
    (Seek.set R vfsFile position).exec s =
      (some (.result .success),
        s.setReader vfsFile.Reader (R.SetStreamPosition position reader)) := by
  rw [Seek.set, Callback.setStreamPosition, exec_callReader hreader]
  rfl

theorem exec_set_none {vfsFile : VFSFile} (hreader : s.readers.get? vfsFile.Reader = none)
    (position : UInt64) : (Seek.set R vfsFile position).exec s = (none, s) := by
  rw [Seek.set, Callback.setStreamPosition, exec_callReader_none hreader]

/-- What a callback has done, where it has an answer. -/
def outcome (exec : Option Answer × State ρ) : Option (State ρ × Answer) :=
  exec.1.map fun answer => (exec.2, answer)

/-- A handle and its reader are there for the code where they are for the
callback. -/
theorem outcome_loadFile {next : VFSFile → CallbackCode ρ}
    {f : VFSFile × ρ → State ρ × Answer}
    (hnone : ∀ vfsFile, s.readers.get? vfsFile.Reader = none → (next vfsFile).exec s = (none, s))
    (hsome : ∀ vfsFile reader, s.readers.get? vfsFile.Reader = some reader →
      outcome ((next vfsFile).exec s) = some (f (vfsFile, reader))) :
    (s.deref file).map f = outcome ((Callback.loadFile file next).exec s) := by
  cases hfile : s.files.get? file with
  | none => simp [State.deref, hfile, exec_loadFile_none, outcome]
  | some vfsFile =>
      rw [exec_loadFile hfile]
      cases hreader : s.readers.get? vfsFile.Reader with
      | none => simp [State.deref, hfile, hreader, hnone vfsFile hreader, outcome]
      | some reader => simp [State.deref, hfile, hreader, hsome vfsFile reader hreader]

theorem exec_Open (vfs : VFS ρ) (pFilePath : Option String) (openMode : UInt32) (pFile : Bool) :
    some (Callbacks.Open vfs pFilePath openMode pFile s) =
      outcome ((Open.code vfs pFilePath openMode pFile).exec s) := by
  unfold Callbacks.Open Open.code
  cases pFilePath with
  | none => rfl
  | some path =>
      dsimp only
      split
      · rfl
      split
      · rfl
      cases vfs.onCreateReader path with
      | none => rfl
      | some reader => rfl

theorem exec_Close (file : Option ℕ) :
    Callbacks.Close file s = outcome ((Close.code file).exec s) := by
  cases file with
  | none => rfl
  | some file =>
      simp only [Callbacks.Close, Close.code]
      cases hfile : s.files.get? file with
      | none => rw [exec_loadFile_none hfile]; rfl
      | some vfsFile => rw [exec_loadFile hfile]; rfl

theorem exec_Read (file : Option ℕ) (pDst : Bool) (sizeInBytes : UInt64) (pBytesRead : Bool) :
    Callbacks.Read R file pDst sizeInBytes pBytesRead s =
      outcome ((Read.code R file pDst sizeInBytes pBytesRead).exec s) := by
  cases file with
  | none => rfl
  | some file =>
      simp only [Callbacks.Read, Read.code]
      split
      · rfl
      refine outcome_loadFile (fun vfsFile hnone => exec_callReader_none hnone _ _) ?_
      intro vfsFile reader hreader
      rw [exec_getStreamPosition hreader, Read.data, exec_callReader hreader]
      rfl

theorem exec_Seek (file : Option ℕ) (offset : Int64) (origin : MaSeekOrigin) :
    Callbacks.Seek R file offset origin s =
      outcome ((Seek.code R file offset origin).exec s) := by
  cases file with
  | none => rfl
  | some file =>
      simp only [Callbacks.Seek, Seek.code]
      refine outcome_loadFile (fun vfsFile hnone => ?_) fun vfsFile reader hreader => ?_
      · cases origin with
        | current => exact exec_callReader_none hnone _ _
        | _ => exact exec_set_none hnone _
      · cases origin with
        | current =>
            rw [exec_getStreamPosition hreader, exec_set hreader]
            rfl
        | _ => exact congrArg outcome (exec_set hreader _)

theorem exec_Tell (file : Option ℕ) (pCursor : Bool) :
    Callbacks.Tell R file pCursor s = outcome ((Tell.code R file pCursor).exec s) := by
  cases file with
  | none => rfl
  | some file =>
      simp only [Callbacks.Tell, Tell.code]
      split
      · rfl
      refine outcome_loadFile (fun vfsFile hnone => exec_callReader_none hnone _ _) ?_
      intro vfsFile reader hreader
      rw [exec_getStreamPosition hreader]
      rfl

theorem exec_Info (file : Option ℕ) (pInfo : Bool) :
    Callbacks.Info file pInfo s = outcome ((Info.code file pInfo).exec s) := by
  cases file with
  | none => rfl
  | some file =>
      simp only [Callbacks.Info, Info.code]
      split
      · rfl
      cases hfile : s.files.get? file with
      | none => rw [exec_loadFile_none hfile]; rfl
      | some vfsFile => rw [exec_loadFile hfile]; rfl

/-- With nothing in between, the code does what the callback does. -/
theorem exec_code (R : StreamReader ρ) (s : State ρ) (call : Call ρ) :
    vfsStep R s call = outcome ((call.code R).exec s) := by
  cases call with
  | Open vfs pFilePath openMode pFile => exact exec_Open vfs pFilePath openMode pFile
  | OpenW => rfl
  | Close file => exact exec_Close file
  | Read file pDst sizeInBytes pBytesRead => exact exec_Read file pDst sizeInBytes pBytesRead
  | Write file => rfl
  | Seek file offset origin => exact exec_Seek file offset origin
  | Tell file pCursor => exact exec_Tell file pCursor
  | Info file pInfo => exact exec_Info file pInfo

/-- A callback as a step, action by action. -/
def codeStep (R : StreamReader ρ) (s : State ρ) (call : Call ρ) : Option (State ρ × Answer) :=
  outcome ((call.code R).exec s)

theorem codeStep_eq (R : StreamReader ρ) : codeStep R = vfsStep R := by
  funext s call
  exact (exec_code R s call).symm

/-- Handles and readers correspond after every run of the code.  A reader that
`Open` has made and does not answer a handle for would be live and in no file. -/
theorem code_corresponds {calls : List (Call ρ)} {answers : List Answer}
    (hrun : run (codeStep R) State.empty calls = some (s, answers)) :
    Correspondence s ∧ Along (codeStep R) FailedOpenIsNoOp State.empty calls := by
  rw [codeStep_eq] at hrun ⊢
  exact ⟨correspondence_of_run hrun, failedOpenIsNoOp_along State.empty calls⟩

end Sequential

/-! ## The clients -/

/-- The handles that the clients were given, and whether a call is now working
on each. -/
abbrev Account := ℕ → Option Bool

/-- The account once a call has returned.  A call that did not close the handle
passed to it gives it back. -/
def Account.returned (account : Account) : Call ρ → Option Answer → Account
  | .Open .., some (.opened _ (some file)) => Function.update account file (some false)
  | .Close (some file), some (.result .success) => Function.update account file none
  | call, _ =>
      match call.file with
      | none => account
      | some file => Function.update account file ((account file).map fun _ => false)

/-- A client passes null, or a handle that it was given and that no other call is
working on. -/
def client : Client Account (Call ρ) (Option Answer) where
  may account call := call.file.all fun file => account file == some false
  called account call :=
    match call.file with
    | none => account
    | some file => Function.update account file ((account file).map fun _ => true)
  returned := Account.returned

/-! ## The machines -/

section Machines

variable (ι ρ : Type*)

/-- Threads in the middle of the callbacks' code. -/
abbrev Running := Threads ι (State ρ) Account (CallbackCode ρ) (Call ρ)

/-- Threads whose calls run at one instant each. -/
abbrev Instant := Threads ι (State ρ) Account (Call ρ ⊕ Option Answer) (Call ρ)

/-- A callback at one instant. -/
def instantCall {ρ : Type*} (R : StreamReader ρ) (s : State ρ) (call : Call ρ) :
    Option (State ρ × Option Answer) :=
  (vfsStep R s call).map fun (s, answer) => (s, some answer)

variable {ι ρ} [DecidableEq ι]

/-- The interleavings of the callbacks. -/
def callbackStep (R : StreamReader ρ) : Running ι ρ → Foundation.Event ι (Call ρ) →
    Option (Running ι ρ × Option (Mark ι (Call ρ) (Option Answer))) :=
  threadStep (codeOperation (Call.code R)) client

/-- The interleavings of callbacks that run at one instant each. -/
def instantStep (R : StreamReader ρ) : Instant ι ρ → Foundation.Event ι (Call ρ) →
    Option (Instant ι ρ × Option (Mark ι (Call ρ) (Option Answer))) :=
  threadStep (atomicOperation (instantCall R)) client

end Machines

end MiniaudioCpp.VFS
