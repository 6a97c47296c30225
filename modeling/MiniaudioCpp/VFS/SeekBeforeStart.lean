import MiniaudioCpp.VFS.ReadBound

/-!
# Seeking before the start

A target before the start of a file should be refused.  `Seek` never looks at
the target: it converts the offset to an unsigned word, adds, and stores the
result.  So a negative target is accepted at every position of every open file,
and what is stored is the target plus `2 ^ 64` (`seek_before_start_accepted`).
The next `Tell` converts that back, and answers the negative number with
`MA_SUCCESS`.
-/

namespace MiniaudioCpp.VFS

open Foundation

variable {ρ : Type*} {R : StreamReader ρ} {s : State ρ} {file : ℕ} {f : VFSFile} {reader : ρ}

/-- The `Seek` is refused: it answers an error, the reader keeps its position,
and the next `Tell` and the next `Read` answer what they would have. -/
structure RefusesSeek (R : StreamReader ρ) (file : ℕ) (offset : Int64) (origin : MaSeekOrigin)
    (s s' : State ρ) (answer : Answer) : Prop where
  fails : answer ≠ .result .success
  position_kept : (s'.deref file).map (fun x => R.GetStreamPosition x.2) =
    (s.deref file).map fun x => R.GetStreamPosition x.2
  tells : (Callbacks.Tell R (some file) true s').map Prod.snd =
    (Callbacks.Tell R (some file) true s).map Prod.snd
  reads : ∀ n, (Callbacks.Read R (some file) true n true s').map Prod.snd =
    (Callbacks.Read R (some file) true n true s).map Prod.snd

theorem le_seekTarget (FileSize position : ℕ) (offset : Int64) (origin : MaSeekOrigin) :
    -2 ^ 63 ≤ seekTarget FileSize position offset.toInt origin := by
  have hoffset := offset.le_toInt
  cases origin <;> simp only [seekTarget] <;> omega

/-- What `Seek` stores for a negative target. -/
theorem toNat_seekPosition_of_neg (FileSize position : UInt64) (offset : Int64)
    (origin : MaSeekOrigin)
    (hbefore : seekTarget FileSize.toNat position.toNat offset.toInt origin < 0) :
    ((Callbacks.seekPosition FileSize position offset origin).toNat : ℤ) =
      seekTarget FileSize.toNat position.toNat offset.toInt origin + 2 ^ 64 := by
  have hlow := le_seekTarget FileSize.toNat position.toNat offset origin
  rw [toNat_seekPosition]
  omega

/-- At every position of every open file a `Seek` to a negative target is
accepted: it answers `MA_SUCCESS` and stores the target plus `2 ^ 64`, and the
next `Tell` answers the target.  The reader only has to be where it was set. -/
theorem seek_before_start_accepted
    (hset : ∀ p r, R.GetStreamPosition (R.SetStreamPosition p r) = p)
    (hderef : s.deref file = some (f, reader)) (offset : Int64) (origin : MaSeekOrigin)
    (hbefore : seekTarget f.FileSize.toNat (R.GetStreamPosition reader).toNat offset.toInt
      origin < 0) :
    ∃ s' reader' cursor,
      Callbacks.Seek R (some file) offset origin s = some (s', .result .success) ∧
      ¬ RefusesSeek R file offset origin s s' (.result .success) ∧
      s'.deref file = some (f, reader') ∧
      ((R.GetStreamPosition reader').toNat : ℤ) = seekTarget f.FileSize.toNat
        (R.GetStreamPosition reader).toNat offset.toInt origin + 2 ^ 64 ∧
      Callbacks.Tell R (some file) true s' = some (s', .told .success (some cursor)) ∧
      cursor.toInt = seekTarget f.FileSize.toNat (R.GetStreamPosition reader).toNat offset.toInt
        origin := by
  have hstored := toNat_seekPosition_of_neg f.FileSize (R.GetStreamPosition reader) offset origin
    hbefore
  set position :=
    Callbacks.seekPosition f.FileSize (R.GetStreamPosition reader) offset origin
  have hafter := State.deref_setReader_self hderef (R.SetStreamPosition position reader)
  refine ⟨_, _, position.toInt64, ?_, fun hrefuses => hrefuses.fails rfl, hafter, ?_, ?_, ?_⟩
  · simp only [Callbacks.Seek, hderef, Option.map_some]
    rfl
  · rw [hset, hstored]
  · simp only [Callbacks.Tell, hafter, Option.map_some, hset]
    rfl
  · exact toInt_toInt64_of_wrapped hbefore (le_seekTarget ..) hstored

/-- Three bytes, and a `Seek` to two before the first: the next `Tell` answers
`-2`. -/
theorem seek_two_before_start :
    let s := (Callbacks.Open (memoryVFS [1, 2, 3]) (some "a") 1 true State.empty).1
    (run (vfsStep MemoryReader.reader) s [.Seek (some 0) (-2) .start, .Tell (some 0) true]).map
        Prod.snd = some [.result .success, .told .success (some (-2))] ∧
      ¬ ∀ s' answer, Callbacks.Seek MemoryReader.reader (some 0) (-2) .start s =
        some (s', answer) → RefusesSeek MemoryReader.reader 0 (-2) .start s s' answer := by
  intro s
  refine ⟨rfl, ?_⟩
  intro hrefuses
  exact (hrefuses _ _ rfl).fails rfl

/-- Two before the first byte, from the end of three. -/
theorem seek_five_before_end :
    let s := (Callbacks.Open (memoryVFS [1, 2, 3]) (some "a") 1 true State.empty).1
    ∃ s' reader' cursor,
      Callbacks.Seek MemoryReader.reader (some 0) (-5) .endOfFile s =
        some (s', .result .success) ∧
      ¬ RefusesSeek MemoryReader.reader 0 (-5) .endOfFile s s' (.result .success) ∧
      s'.deref 0 = some (⟨0, 3⟩, reader') ∧
      ((MemoryReader.reader.GetStreamPosition reader').toNat : ℤ) =
        seekTarget 3 0 (-5) .endOfFile + 2 ^ 64 ∧
      Callbacks.Tell MemoryReader.reader (some 0) true s' =
        some (s', .told .success (some cursor)) ∧
      cursor.toInt = seekTarget 3 0 (-5) .endOfFile := by
  intro s
  have hderef : s.deref 0 = some (⟨0, 3⟩, ⟨[1, 2, 3], 0⟩) := rfl
  exact seek_before_start_accepted MemoryReader.lawful.position_set hderef (-5) .endOfFile (by decide)

end MiniaudioCpp.VFS
