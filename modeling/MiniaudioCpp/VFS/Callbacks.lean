import MiniaudioCpp.Foundation.Arena
import MiniaudioCpp.Foundation.Machine
import MiniaudioCpp.Miniaudio.Result
import MiniaudioCpp.VFS.Reader

/-!
# The callbacks of the VFS

`VFS::Callbacks` as functions on the readers and the open files.  A handle
names one `VFSFile` and a pointer one reader; neither is used again after it
was freed, so a stale handle finds nothing.  `vfsStep` is one callback invoked
by miniaudio: a null handle is rejected by the callback itself, and a handle
that is not null has to be open.

`onCreateReader` and `onGetFileSize` may answer differently at each call, so a
call of `Open` brings the two as they are then.  A reader that `onCreateReader`
returns is a fresh one.
-/

namespace MiniaudioCpp

open Foundation

variable {ρ : Type*}

/-- The functions of the client that a `VFS` holds. -/
structure VFS (ρ : Type*) where
  onCreateReader : String → Option ρ
  onGetFileSize : String → UInt64

/-- A client whose one file is in memory. -/
def memoryVFS (bytes : List UInt8) : VFS MemoryReader where
  onCreateReader _ := some { bytes }
  onGetFileSize _ := UInt64.ofNat bytes.length

/-- `VFSFile`: the reader it owns, by address, and the size it was opened with. -/
structure VFSFile where
  Reader : ℕ
  FileSize : UInt64
  deriving DecidableEq, Repr

/-- `ma_seek_origin`. -/
inductive MaSeekOrigin
  | start
  | current
  | endOfFile
  | other (value : Int)
  deriving DecidableEq, Repr

/-- `MA_OPEN_MODE_WRITE`. -/
def MA_OPEN_MODE_WRITE : UInt32 := 2

namespace VFS

/-- The live readers, the open files, and the readers that were deleted, in
order. -/
structure State (ρ : Type*) where
  readers : Arena ρ
  files : Arena VFSFile
  deleted : List ℕ

namespace State

/-- No file was opened yet. -/
def empty : State ρ := ⟨Arena.empty, Arena.empty, []⟩

/-- The file of a handle, and its reader. -/
def deref (s : State ρ) (file : ℕ) : Option (VFSFile × ρ) :=
  (s.files.get? file).bind fun vfsFile =>
    (s.readers.get? vfsFile.Reader).map fun reader => (vfsFile, reader)

/-- `new VFSFile(reader, filesize)`, where `reader` is fresh.  The handle is
`s.files.size`. -/
def newFile (s : State ρ) (reader : ρ) (filesize : UInt64) : State ρ :=
  { s with readers := s.readers.alloc reader, files := s.files.alloc ⟨s.readers.size, filesize⟩ }

/-- What a call on a reader leaves of it. -/
def setReader (s : State ρ) (p : ℕ) (reader : ρ) : State ρ :=
  { s with readers := s.readers.put p reader }

/-- `delete (VFSFile*)file`, with the `delete Reader` of its destructor. -/
def deleteFile (s : State ρ) (file : ℕ) (vfsFile : VFSFile) : State ρ :=
  { readers := s.readers.free vfsFile.Reader, files := s.files.free file,
    deleted := s.deleted ++ [vfsFile.Reader] }

theorem setReader_self {s : State ρ} {p : ℕ} {reader : ρ} (h : s.readers.get? p = some reader) :
    s.setReader p reader = s := by
  rw [setReader, Arena.put_self h]

/-! ### The file of a handle after each update -/

section Deref

variable {s : State ρ} {file : ℕ} {f : VFSFile} {reader : ρ}

theorem deref_eq_some :
    s.deref file = some (f, reader) ↔
      s.files.get? file = some f ∧ s.readers.get? f.Reader = some reader := by
  simp only [deref, Option.bind_eq_some_iff, Option.map_eq_some_iff, Prod.mk.injEq]
  constructor
  · rintro ⟨_, hf, _, hr, rfl, rfl⟩
    exact ⟨hf, hr⟩
  · rintro ⟨hf, hr⟩
    exact ⟨f, hf, reader, hr, rfl, rfl⟩

theorem deref_newFile_self (s : State ρ) (reader : ρ) (filesize : UInt64) :
    (s.newFile reader filesize).deref s.files.size =
      some (⟨s.readers.size, filesize⟩, reader) := by
  rw [deref_eq_some]
  exact ⟨Arena.get?_alloc_self .., Arena.get?_alloc_self ..⟩

/-- A new file leaves the open ones as they are. -/
theorem deref_newFile (h : s.deref file = some (f, reader)) (reader' : ρ) (filesize : UInt64) :
    (s.newFile reader' filesize).deref file = some (f, reader) := by
  rw [deref_eq_some] at h ⊢
  exact ⟨Arena.get?_alloc_of_get? h.1, Arena.get?_alloc_of_get? h.2⟩

theorem deref_setReader_self (h : s.deref file = some (f, reader)) (reader' : ρ) :
    (s.setReader f.Reader reader').deref file = some (f, reader') := by
  rw [deref_eq_some] at h ⊢
  refine ⟨h.1, ?_⟩
  exact Arena.get?_put_self (Arena.lt_size_of_get? h.2) reader'

/-- A call on another reader leaves the file as it is. -/
theorem deref_setReader_of_ne {p : ℕ} (h : s.deref file = some (f, reader)) (hne : f.Reader ≠ p)
    (hp : p < s.readers.size) (reader' : ρ) :
    (s.setReader p reader').deref file = some (f, reader) := by
  rw [deref_eq_some] at h ⊢
  refine ⟨h.1, ?_⟩
  show (s.readers.put p reader').get? f.Reader = some reader
  rw [Arena.get?_put_of_ne hp hne, h.2]

/-- Closing another file leaves the file as it is. -/
theorem deref_deleteFile_of_ne {other : ℕ} {g : VFSFile} (h : s.deref file = some (f, reader))
    (hfile : file ≠ other) (hne : f.Reader ≠ g.Reader) :
    (s.deleteFile other g).deref file = some (f, reader) := by
  rw [deref_eq_some] at h ⊢
  constructor
  · show (s.files.free other).get? file = some f
    rw [Arena.get?_free, if_neg hfile, h.1]
  · show (s.readers.free g.Reader).get? f.Reader = some reader
    rw [Arena.get?_free, if_neg hne, h.2]

end Deref

end State

/-- What a callback answers, with all it writes through its pointers: `none`
where it writes nothing. -/
inductive Answer
  | result (result : MaResult)
  /-- `JPL_ASSERT(false)` stood in the way. -/
  | asserted (result : MaResult)
  | opened (result : MaResult) (pFile : Option ℕ)
  | read (result : MaResult) (pDst : List UInt8) (pBytesRead : Option UInt64)
  | told (result : MaResult) (pCursor : Option Int64)
  | info (result : MaResult) (sizeInBytes : Option UInt64)
  deriving DecidableEq, Repr

namespace Callbacks

/-- `Open`.  `pFile` says whether the pointer is not null. -/
def Open (vfs : VFS ρ) (pFilePath : Option String) (openMode : UInt32) (pFile : Bool)
    (s : State ρ) : State ρ × Answer :=
  match pFilePath with
  | none => (s, .opened .invalidArgs none)
  | some path =>
      if !pFile then (s, .opened .invalidArgs none)
      else if openMode = MA_OPEN_MODE_WRITE then (s, .opened .notImplemented none)
      else
        match vfs.onCreateReader path with
        | none => (s, .opened .error none)
        | some reader =>
            let filesize := vfs.onGetFileSize path
            (s.newFile reader filesize, .opened .success (some s.files.size))

/-- `OpenW`. -/
def OpenW (s : State ρ) : State ρ × Answer := (s, .asserted .notImplemented)

/-- `Close`. -/
def Close (file : Option ℕ) (s : State ρ) : Option (State ρ × Answer) :=
  match file with
  | none => some (s, .result .invalidArgs)
  | some file =>
      (s.files.get? file).map fun vfsFile => (s.deleteFile file vfsFile, .result .success)

/-- `Read`. -/
def Read (R : StreamReader ρ) (file : Option ℕ) (pDst : Bool) (sizeInBytes : UInt64)
    (pBytesRead : Bool) (s : State ρ) : Option (State ρ × Answer) :=
  match file with
  | none => some (s, .read .invalidArgs [] none)
  | some file =>
      if !pDst then some (s, .read .invalidArgs [] none)
      else
        (s.deref file).map fun (vfsFile, reader) =>
          -- the subtraction is on `size_t`
          let toRead := min sizeInBytes (vfsFile.FileSize - R.GetStreamPosition reader)
          let (data, reader) := R.ReadData toRead reader
          (s.setReader vfsFile.Reader reader,
            .read (if toRead ≠ sizeInBytes then .atEnd else .success) data
              (if pBytesRead then some toRead else none))

/-- `Write`. -/
def Write (s : State ρ) : State ρ × Answer := (s, .asserted .notImplemented)

/-- The position that `Seek` sets; `offset` is converted to `size_t`. -/
def seekPosition (FileSize streamPosition : UInt64) (offset : Int64) : MaSeekOrigin → UInt64
  | .start => offset.toUInt64
  | .current => streamPosition + offset.toUInt64
  | .endOfFile => FileSize + offset.toUInt64
  | .other _ => offset.toUInt64

/-- `Seek`. -/
def Seek (R : StreamReader ρ) (file : Option ℕ) (offset : Int64) (origin : MaSeekOrigin)
    (s : State ρ) : Option (State ρ × Answer) :=
  match file with
  | none => some (s, .result .invalidArgs)
  | some file =>
      (s.deref file).map fun (vfsFile, reader) =>
        let position := seekPosition vfsFile.FileSize (R.GetStreamPosition reader) offset origin
        (s.setReader vfsFile.Reader (R.SetStreamPosition position reader), .result .success)

/-- `Tell`. -/
def Tell (R : StreamReader ρ) (file : Option ℕ) (pCursor : Bool) (s : State ρ) :
    Option (State ρ × Answer) :=
  match file with
  | none => some (s, .told .invalidArgs none)
  | some file =>
      if !pCursor then some (s, .told .invalidArgs none)
      else
        (s.deref file).map fun (_, reader) =>
          (s, .told .success (some (R.GetStreamPosition reader).toInt64))

/-- `Info`. -/
def Info (file : Option ℕ) (pInfo : Bool) (s : State ρ) : Option (State ρ × Answer) :=
  match file with
  | none => some (s, .info .invalidArgs none)
  | some file =>
      if !pInfo then some (s, .info .invalidArgs none)
      else
        (s.files.get? file).map fun vfsFile => (s, .info .success (some vfsFile.FileSize))

end Callbacks

/-- A callback with its arguments.  A `Bool` says whether a pointer that is
only written through is not null. -/
inductive Call (ρ : Type*)
  | Open (vfs : VFS ρ) (pFilePath : Option String) (openMode : UInt32) (pFile : Bool)
  | OpenW
  | Close (file : Option ℕ)
  | Read (file : Option ℕ) (pDst : Bool) (sizeInBytes : UInt64) (pBytesRead : Bool)
  | Write (file : Option ℕ)
  | Seek (file : Option ℕ) (offset : Int64) (origin : MaSeekOrigin)
  | Tell (file : Option ℕ) (pCursor : Bool)
  | Info (file : Option ℕ) (pInfo : Bool)

/-- One callback. -/
def vfsStep (R : StreamReader ρ) (s : State ρ) : Call ρ → Option (State ρ × Answer)
  | .Open vfs pFilePath openMode pFile => some (Callbacks.Open vfs pFilePath openMode pFile s)
  | .OpenW => some (Callbacks.OpenW s)
  | .Close file => Callbacks.Close file s
  | .Read file pDst sizeInBytes pBytesRead =>
      Callbacks.Read R file pDst sizeInBytes pBytesRead s
  | .Write _ => some (Callbacks.Write s)
  | .Seek file offset origin => Callbacks.Seek R file offset origin s
  | .Tell file pCursor => Callbacks.Tell R file pCursor s
  | .Info file pInfo => Callbacks.Info file pInfo s

end VFS

end MiniaudioCpp
