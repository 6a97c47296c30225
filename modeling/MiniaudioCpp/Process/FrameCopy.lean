import MiniaudioCpp.Foundation.Words
import MiniaudioCpp.Process.OutputExtent

/-!
# Copying inputs to outputs

A frame of a bus is one sample for each channel, so frame `f` starts at
`f * channels`.  `CopyInputsToOutputs` makes one flat copy for each bus, of as
many samples as there are in `*pFrameCountIn` frames of the smaller of the two
channel counts.  That copy is frame by frame exactly when the frames on the two
sides line up and the output has room for all of them
(`copies_frames_iff`).
-/

namespace MiniaudioCpp

open Foundation

/-! ## Frames that line up -/

/-- Where the first `frames * min a b` samples of a buffer of `a` channels, put
into one of `b` channels that has `room` frames, are its frames. -/
def FramesLineUp (frames room a b : ℕ) : Prop :=
  frames = 0 ∨ a = 0 ∨ b = 0 ∨ (frames ≤ room ∧ (a = b ∨ frames = 1))

section Frames

variable {frames room a b f c k : ℕ}

/-- A channel of a frame is within the frames. -/
theorem frame_lt_frames (hf : f < frames) (hc : c < a) : f * a + c < frames * a := by
  calc f * a + c < f * a + a := by omega
    _ = (f + 1) * a := by rw [Nat.succ_mul]
    _ ≤ frames * a := Nat.mul_le_mul_right a hf

namespace FramesLineUp

/-- Each sample of each frame has one index on both sides, and is copied. -/
theorem index_eq (h : FramesLineUp frames room a b) (hf : f < min frames room)
    (hc : c < min a b) : f * a + c = f * b + c ∧ f * b + c < frames * min a b := by
  rcases h with hzero | hzero | hzero | ⟨_, heq | hone⟩
  · omega
  · omega
  · omega
  · subst heq
    rw [Nat.min_self] at hc ⊢
    exact ⟨rfl, frame_lt_frames (by omega) hc⟩
  · obtain rfl : f = 0 := by omega
    subst hone
    exact ⟨by omega, by omega⟩

/-- What is copied has room. -/
theorem frames_le (h : FramesLineUp frames room a b) (hsome : 0 < frames * min a b) :
    frames ≤ room := by
  rcases h with rfl | rfl | rfl | ⟨hroom, _⟩
  · simp at hsome
  · simp at hsome
  · simp at hsome
  · exact hroom

/-- Each sample that is copied is one of a frame. -/
theorem exists_frame (h : FramesLineUp frames room a b) (hk : k < frames * min a b) :
    ∃ f c, f < min frames room ∧ c < min a b ∧ k = f * b + c := by
  rcases h with rfl | rfl | rfl | ⟨hroom, rfl | rfl⟩
  · simp at hk
  · simp at hk
  · simp at hk
  · rw [Nat.min_self] at hk
    have hpos : 0 < a := Nat.pos_of_ne_zero fun hzero => by simp [hzero] at hk
    refine ⟨k / a, k % a, ?_, ?_, (Nat.div_add_mod' k a).symm⟩
    · have hdiv : k / a < frames := Nat.div_lt_of_lt_mul (by rwa [Nat.mul_comm])
      omega
    · rw [Nat.min_self]
      exact Nat.mod_lt k hpos
  · exact ⟨0, k, by omega, by omega, by omega⟩

/-- If the last sample that is copied is one of a frame, on both sides, the
frames line up. -/
theorem of_last (h : 0 < frames * min a b → ∃ f c, f < min frames room ∧ c < min a b ∧
    frames * min a b - 1 = f * a + c ∧ frames * min a b - 1 = f * b + c) :
    FramesLineUp frames room a b := by
  rcases Nat.eq_zero_or_pos (frames * min a b) with hnone | hsome
  · rcases Nat.mul_eq_zero.mp hnone with hframes | hchannels
    · exact Or.inl hframes
    · rcases Nat.min_eq_zero_iff.mp hchannels with ha | hb
      · exact Or.inr (Or.inl ha)
      · exact Or.inr (Or.inr (Or.inl hb))
  · obtain ⟨f, c, hf, hc, hfa, hfb⟩ := h hsome
    refine Or.inr (Or.inr (Or.inr ⟨?_, ?_⟩))
    · -- one of the two strides is the smaller one
      have hlast : frames * min a b - 1 = f * min a b + c := by
        rcases Nat.le_total a b with hab | hba
        · rwa [Nat.min_eq_left hab] at *
        · rwa [Nat.min_eq_right hba] at *
      have hlt : f * min a b + c < min frames room * min a b := frame_lt_frames hf hc
      have hle : frames * min a b ≤ min frames room * min a b := by omega
      have hframes := Nat.le_of_mul_le_mul_right hle (by omega)
      omega
    · by_cases hab : a = b
      · exact Or.inl hab
      · -- different strides meet in the first frame only
        have hstride : f * a = f * b := by omega
        have hfirst : f = 0 := by
          rcases Nat.eq_zero_or_pos f with hzero | hpos
          · exact hzero
          · exact absurd (Nat.eq_of_mul_eq_mul_left hpos hstride) hab
        subst hfirst
        have hle : frames * min a b ≤ 1 * min a b := by omega
        have hone := Nat.le_of_mul_le_mul_right hle (by omega)
        have hpos : frames ≠ 0 := fun hzero => by simp [hzero] at hsome
        exact Or.inr (by omega)

end FramesLineUp

end Frames

namespace ProcessCallbackData

variable {G α : Type*}

/-! ## The buffers -/

section Buffers

variable (M : NodeGraph G) (g : G) (data : ProcessCallbackData) (bus : UInt32)

/-- The channels of an input bus. -/
def inputChannels : ℕ := ((data.inputBus bus).GetNumChannels M g).toNat

/-- The channels of an output bus. -/
def outputChannels : ℕ := ((data.outputBus bus).GetNumChannels M g).toNat

/-- The buffers of all buses are pairwise disjoint, and the end of an input
buffer has an address of 64 bits. -/
structure BuffersApart : Prop where
  inputs : ∀ i j, i < data.InputBusCount → j < data.InputBusCount → i ≠ j →
    Disjoint (data.inputSamples M g i) (data.inputSamples M g j)
  outputs : ∀ i j, i < data.OutputBusCount → j < data.OutputBusCount → i ≠ j →
    Disjoint (data.outputSamples M g data.pFrameCountOut i)
      (data.outputSamples M g data.pFrameCountOut j)
  across : data.BuffersDisjoint M g
  addressable : ∀ i, i < data.InputBusCount → ∀ a ∈ data.inputSamples M g i,
    sizeofSample.toNat * (a + 1) < 2 ^ 64

/-- The sample of an output bus at a frame and a channel is the one of the input
bus at that frame and that channel, and nothing else has changed. -/
structure CopiesFrames (ppFramesIn : UInt32 → ℕ) (m m' : Memory α) : Prop where
  copied : ∀ i, i < min data.InputBusCount data.OutputBusCount →
    ∀ f < min data.pFrameCountIn.toNat data.pFrameCountOut.toNat,
      ∀ c < min (data.inputChannels M g i) (data.outputChannels M g i),
        m' (data.ppFramesOut i + (f * data.outputChannels M g i + c)) =
          m (ppFramesIn i + (f * data.inputChannels M g i + c))
  others : ∀ a, (∀ i, i < min data.InputBusCount data.OutputBusCount →
    ∀ f < min data.pFrameCountIn.toNat data.pFrameCountOut.toNat,
      ∀ c < min (data.inputChannels M g i) (data.outputChannels M g i),
        a ≠ data.ppFramesOut i + (f * data.outputChannels M g i + c)) → m' a = m a

/-- The frames of a bus line up. -/
def BusLinesUp : Prop :=
  FramesLineUp data.pFrameCountIn.toNat data.pFrameCountOut.toNat
    (data.inputChannels M g bus) (data.outputChannels M g bus)

/-- The samples that are copied for a bus. -/
def copiedSamples : ℕ :=
  (sizeofSample * data.pFrameCountIn.toUInt64 *
    (min ((data.inputBus bus).GetNumChannels M g)
      ((data.outputBus bus).GetNumChannels M g)).toUInt64).toNat / sizeofSample.toNat

end Buffers

/-! ## The flat copies -/

section Flat

variable {M : NodeGraph G} {g : G} {data : ProcessCallbackData} {ppFramesIn : UInt32 → ℕ}
  {bus : UInt32}

/-- `CopyInputsToOutputs` is one flat copy for each bus. -/
theorem copyInputsToOutputs_eq (M : NodeGraph G) (g : G)
    (hin : data.ppFramesIn = some ppFramesIn) (m : Memory α) :
    data.CopyInputsToOutputs M g m =
      m.copyUpTo (min data.InputBusCount data.OutputBusCount) data.ppFramesOut ppFramesIn
        (data.copiedSamples M g) := by
  unfold CopyInputsToOutputs GetInputBuffer GetOutputBuffer
  simp only [hin, Option.map_some, Option.bind_some, min_word_self]
  rfl

theorem inputSamples_eq (hin : data.ppFramesIn = some ppFramesIn) :
    data.inputSamples M g bus = Set.Ico (ppFramesIn bus) (ppFramesIn bus +
      data.pFrameCountIn.toNat * data.inputChannels M g bus) := by
  ext a
  simp only [inputSamples, hin, Option.some.injEq, exists_eq_left', Set.mem_ofPred_eq]
  rfl

/-- Each channel of each frame is a sample of the input buffer. -/
theorem frame_mem_inputSamples (hin : data.ppFramesIn = some ppFramesIn) {f c : ℕ}
    (hf : f < data.pFrameCountIn.toNat) (hc : c < data.inputChannels M g bus) :
    ppFramesIn bus + (f * data.inputChannels M g bus + c) ∈ data.inputSamples M g bus := by
  rw [inputSamples_eq hin]
  exact ⟨Nat.le_add_right _ _, Nat.add_lt_add_left (frame_lt_frames hf hc) _⟩

/-- Each channel of each frame is a sample of the output buffer. -/
theorem frame_mem_outputSamples {f c : ℕ} (hf : f < data.pFrameCountOut.toNat)
    (hc : c < data.outputChannels M g bus) :
    data.ppFramesOut bus + (f * data.outputChannels M g bus + c) ∈
      data.outputSamples M g data.pFrameCountOut bus :=
  ⟨Nat.le_add_right _ _, Nat.add_lt_add_left (frame_lt_frames hf hc) _⟩

/-- A buffer that has its end in the address space is not too long. -/
theorem inputSamples_lt (hin : data.ppFramesIn = some ppFramesIn)
    (happart : data.BuffersApart M g) (hbus : bus < data.InputBusCount) :
    4 * (data.pFrameCountIn.toNat * data.inputChannels M g bus) < 2 ^ 64 := by
  rcases Nat.eq_zero_or_pos (data.pFrameCountIn.toNat * data.inputChannels M g bus) with
    hzero | hpos
  · rw [hzero]
    decide
  · have hlast := happart.addressable bus hbus (ppFramesIn bus +
      (data.pFrameCountIn.toNat * data.inputChannels M g bus - 1)) (by
        rw [inputSamples_eq hin, Set.mem_Ico]
        omega)
    have hsizeof : sizeofSample.toNat = 4 := rfl
    rw [hsizeof] at hlast
    omega

/-- The size of a flat copy does not wrap. -/
theorem copiedSamples_eq (hin : data.ppFramesIn = some ppFramesIn)
    (happart : data.BuffersApart M g) (hbus : bus < data.InputBusCount) :
    data.copiedSamples M g bus = data.pFrameCountIn.toNat *
      min (data.inputChannels M g bus) (data.outputChannels M g bus) := by
  have hlong := inputSamples_lt hin happart hbus
  have hframes : data.pFrameCountIn.toNat < 2 ^ 32 := data.pFrameCountIn.toNat_lt
  have hle : data.pFrameCountIn.toNat *
      min (data.inputChannels M g bus) (data.outputChannels M g bus) ≤
        data.pFrameCountIn.toNat * data.inputChannels M g bus :=
    Nat.mul_le_mul_left _ (Nat.min_le_left ..)
  have hsizeof : sizeofSample.toNat = 4 := rfl
  unfold copiedSamples
  rw [UInt64.toNat_mul, UInt64.toNat_mul, UInt32.toNat_toUInt64, UInt32.toNat_toUInt64, toNat_min,
    hsizeof]
  change 4 * _ % 2 ^ 64 * min (data.inputChannels M g bus) (data.outputChannels M g bus) % 2 ^ 64 /
    4 = _
  rw [Nat.mod_eq_of_lt (a := 4 * data.pFrameCountIn.toNat) (by omega), Nat.mul_assoc,
    Nat.mod_eq_of_lt (by omega), Nat.mul_div_cancel_left _ (by omega)]

/-- The source of a flat copy is within the input buffer. -/
theorem source_subset (hin : data.ppFramesIn = some ppFramesIn)
    (happart : data.BuffersApart M g) (hbus : bus < data.InputBusCount) :
    Set.Ico (ppFramesIn bus) (ppFramesIn bus + data.copiedSamples M g bus) ⊆
      data.inputSamples M g bus := by
  rw [copiedSamples_eq hin happart hbus, inputSamples_eq hin]
  apply Set.Ico_subset_Ico_right
  exact Nat.add_le_add_left (Nat.mul_le_mul_left _ (Nat.min_le_left ..)) _

/-- Where the output has room for the input frames, the target of a flat copy is
within the output buffer. -/
theorem target_subset (hin : data.ppFramesIn = some ppFramesIn)
    (happart : data.BuffersApart M g) (hbus : bus < data.InputBusCount)
    (hroom : 0 < data.copiedSamples M g bus →
      data.pFrameCountIn.toNat ≤ data.pFrameCountOut.toNat) :
    Set.Ico (data.ppFramesOut bus) (data.ppFramesOut bus + data.copiedSamples M g bus) ⊆
      data.outputSamples M g data.pFrameCountOut bus := by
  apply Set.Ico_subset_Ico_right
  apply Nat.add_le_add_left
  rcases Nat.eq_zero_or_pos (data.copiedSamples M g bus) with hzero | hpos
  · rw [hzero]
    exact Nat.zero_le _
  · rw [copiedSamples_eq hin happart hbus]
    exact Nat.mul_le_mul (hroom hpos) (Nat.min_le_right ..)

/-- Where the output has room for the input frames, every flat copy is made. -/
theorem flat_copies (hin : data.ppFramesIn = some ppFramesIn) (happart : data.BuffersApart M g)
    (hroom : ∀ i, i < min data.InputBusCount data.OutputBusCount →
      0 < data.copiedSamples M g i → data.pFrameCountIn.toNat ≤ data.pFrameCountOut.toNat)
    (m : Memory α) :
    ∃ m', data.CopyInputsToOutputs M g m = some m' ∧
      Memory.Copies (min data.InputBusCount data.OutputBusCount).toNat data.ppFramesOut ppFramesIn
        (data.copiedSamples M g) m m' := by
  rw [copyInputsToOutputs_eq M g hin]
  apply Memory.copyUpTo_of_disjoint
  · intro i j hi hj hij
    obtain ⟨hi', hi''⟩ := lt_min_word_iff.mp hi
    obtain ⟨hj', hj''⟩ := lt_min_word_iff.mp hj
    exact (happart.outputs i j hi'' hj'' hij).mono
      (target_subset hin happart hi' (hroom i hi)) (target_subset hin happart hj' (hroom j hj))
  · intro i j hi hj
    obtain ⟨hi', _⟩ := lt_min_word_iff.mp hi
    obtain ⟨hj', hj''⟩ := lt_min_word_iff.mp hj
    have hacross : Disjoint (data.inputSamples M g i)
        (data.outputSamples M g data.pFrameCountOut j) :=
      Set.disjoint_left.mpr (happart.across i j hi' hj'')
    exact hacross.mono (source_subset hin happart hi') (target_subset hin happart hj' (hroom j hj))

/-- Frames that line up are copied one by one. -/
theorem copiesFrames_of_busLinesUp (hin : data.ppFramesIn = some ppFramesIn)
    (happart : data.BuffersApart M g)
    (hlines : ∀ i, i < min data.InputBusCount data.OutputBusCount → data.BusLinesUp M g i)
    (m : Memory α) :
    ∃ m', data.CopyInputsToOutputs M g m = some m' ∧
      data.CopiesFrames M g ppFramesIn m m' := by
  have hcount : ∀ i, i < min data.InputBusCount data.OutputBusCount →
      data.copiedSamples M g i = data.pFrameCountIn.toNat *
        min (data.inputChannels M g i) (data.outputChannels M g i) :=
    fun i hi => copiedSamples_eq hin happart (lt_min_word_iff.mp hi).1
  obtain ⟨m', hm', hcopies⟩ := flat_copies hin happart
    (fun i hi hpos => (hlines i hi).frames_le (hcount i hi ▸ hpos)) m
  refine ⟨m', hm', ?_, ?_⟩
  · intro i hi f hf c hc
    obtain ⟨hsame, hlt⟩ := (hlines i hi).index_eq hf hc
    rw [hsame]
    exact hcopies.inside i hi _ (hcount i hi ▸ hlt)
  · intro a ha
    apply hcopies.outside
    intro i hi hmem
    have hk : a - data.ppFramesOut i < data.copiedSamples M g i := by
      have hhigh := hmem.2
      have hlow := hmem.1
      omega
    rw [hcount i hi] at hk
    obtain ⟨f, c, hf, hc, hindex⟩ := (hlines i hi).exists_frame hk
    have hlow := hmem.1
    exact ha i hi f hf c hc (by omega)

end Flat

/-! ## What frame-by-frame copies need -/

section Needed

variable {M : NodeGraph G} {g : G} {data : ProcessCallbackData} {ppFramesIn : UInt32 → ℕ}
  {bus : UInt32}

/-- An input sample is not copied to. -/
theorem CopiesFrames.input_kept (happart : data.BuffersApart M g)
    (hbus : bus < data.InputBusCount) {m m' : Memory α}
    (h : data.CopiesFrames M g ppFramesIn m m') {a : ℕ} (ha : a ∈ data.inputSamples M g bus) :
    m' a = m a := by
  refine h.others a fun i hi f hf c hc heq => ?_
  refine happart.across bus i hbus (lt_min_word_iff.mp hi).2 a ha ?_
  rw [heq]
  exact frame_mem_outputSamples (Nat.lt_min.mp hf).2 (Nat.lt_min.mp hc).2

/-- If a flat copy is made and the result is one frame by frame, then each of its
samples is one of a frame, on both sides: some contents of the memory would tell
them apart. -/
theorem exists_frame_of_copied [Nontrivial α] (hin : data.ppFramesIn = some ppFramesIn)
    (happart : data.BuffersApart M g) (hbus : bus < min data.InputBusCount data.OutputBusCount)
    (hcopies : ∀ m : Memory α, ∃ m', data.CopyInputsToOutputs M g m = some m' ∧
      data.CopiesFrames M g ppFramesIn m m')
    (hne : data.ppFramesOut bus ≠ ppFramesIn bus)
    {k : ℕ} (hk : k < data.copiedSamples M g bus)
    (hflat : ∀ m m' : Memory α, data.CopyInputsToOutputs M g m = some m' →
      data.CopiesFrames M g ppFramesIn m m' →
        m' (data.ppFramesOut bus + k) = m (ppFramesIn bus + k)) :
    ∃ f c, f < min data.pFrameCountIn.toNat data.pFrameCountOut.toNat ∧
      c < min (data.inputChannels M g bus) (data.outputChannels M g bus) ∧
        k = f * data.inputChannels M g bus + c ∧ k = f * data.outputChannels M g bus + c := by
  obtain ⟨x, y, hxy⟩ := exists_pair_ne α
  -- one sample of its own value, in the input
  let m : Memory α := fun a => if a = ppFramesIn bus + k then x else y
  obtain ⟨m', hm', hframes⟩ := hcopies m
  have hx : m' (data.ppFramesOut bus + k) = x := (hflat m m' hm' hframes).trans (if_pos rfl)
  by_contra hnone
  by_cases htarget : ∀ i, i < min data.InputBusCount data.OutputBusCount →
      ∀ f < min data.pFrameCountIn.toNat data.pFrameCountOut.toNat,
        ∀ c < min (data.inputChannels M g i) (data.outputChannels M g i),
          data.ppFramesOut bus + k ≠ data.ppFramesOut i + (f * data.outputChannels M g i + c)
  · have hy : m (data.ppFramesOut bus + k) = y := if_neg (by omega)
    exact hxy (hx.symm.trans ((hframes.others _ htarget).trans hy))
  · push Not at htarget
    obtain ⟨i, hi, f, hf, c, hc, heq⟩ := htarget
    -- the sample comes from a frame of bus `i`, so `i` is the bus it is of
    have hfrom := hframes.copied i hi f hf c hc
    rw [← heq, hx] at hfrom
    have hsource : ppFramesIn i + (f * data.inputChannels M g i + c) = ppFramesIn bus + k := by
      by_contra hother
      exact hxy (hfrom.trans (if_neg hother))
    have hmem : ppFramesIn bus + k ∈ data.inputSamples M g bus :=
      source_subset hin happart (lt_min_word_iff.mp hbus).1 ⟨by omega, by omega⟩
    have hmem' : ppFramesIn bus + k ∈ data.inputSamples M g i :=
      hsource ▸ frame_mem_inputSamples hin (Nat.lt_min.mp hf).1 (Nat.lt_min.mp hc).1
    have hsame : i = bus := by
      by_contra hdiff
      exact Set.disjoint_left.mp (happart.inputs i bus (lt_min_word_iff.mp hi).1
        (lt_min_word_iff.mp hbus).1 hdiff) hmem' hmem
    subst hsame
    exact hnone ⟨f, c, hf, hc, by omega, by omega⟩

/-- So the frames of a bus whose flat copy can be seen in the result line up. -/
theorem busLinesUp_of_flat [Nontrivial α] (hin : data.ppFramesIn = some ppFramesIn)
    (happart : data.BuffersApart M g) (hbus : bus < min data.InputBusCount data.OutputBusCount)
    (hcopies : ∀ m : Memory α, ∃ m', data.CopyInputsToOutputs M g m = some m' ∧
      data.CopiesFrames M g ppFramesIn m m')
    (hne : 0 < data.copiedSamples M g bus → data.ppFramesOut bus ≠ ppFramesIn bus)
    (hflat : ∀ m m' : Memory α, data.CopyInputsToOutputs M g m = some m' →
      data.CopiesFrames M g ppFramesIn m m' → ∀ k < data.copiedSamples M g bus,
        m' (data.ppFramesOut bus + k) = m (ppFramesIn bus + k)) :
    data.BusLinesUp M g bus := by
  refine FramesLineUp.of_last fun hpos => ?_
  rw [← copiedSamples_eq hin happart (lt_min_word_iff.mp hbus).1] at hpos ⊢
  exact exists_frame_of_copied hin happart hbus hcopies (hne hpos) (by omega)
    fun m m' hm' hframes => hflat m m' hm' hframes _ (by omega)

/-- If anything is copied at all, the output has room for the input frames: the
last flat copy is not covered by another one, so it can be seen in the result. -/
theorem room_of_copied [Nontrivial α] (hin : data.ppFramesIn = some ppFramesIn)
    (happart : data.BuffersApart M g) (hbus : bus < min data.InputBusCount data.OutputBusCount)
    (hcopies : ∀ m : Memory α, ∃ m', data.CopyInputsToOutputs M g m = some m' ∧
      data.CopiesFrames M g ppFramesIn m m')
    (hpos : 0 < data.copiedSamples M g bus) :
    data.pFrameCountIn.toNat ≤ data.pFrameCountOut.toNat := by
  obtain ⟨j, hj, hjpos, hlater⟩ := Memory.exists_last_range hbus hpos
  have hjin := (lt_min_word_iff.mp hj).1
  have hlast : ∀ m m' : Memory α, data.CopyInputsToOutputs M g m = some m' →
      ¬ Memory.Overlap (data.ppFramesOut j) (ppFramesIn j) (data.copiedSamples M g j) ∧
        ∀ k < data.copiedSamples M g j, m' (data.ppFramesOut j + k) = m' (ppFramesIn j + k) := by
    intro m m' hm'
    rw [copyInputsToOutputs_eq M g hin] at hm'
    exact Memory.copyUpTo_last hj hlater hm'
  have hlines : data.BusLinesUp M g j := by
    refine busLinesUp_of_flat hin happart hj hcopies ?_ ?_
    · intro _ heq
      obtain ⟨x, _⟩ := exists_pair_ne α
      obtain ⟨m', hm', _⟩ := hcopies fun _ => x
      refine (hlast _ m' hm').1 ?_
      unfold Memory.Overlap
      omega
    · intro m m' hm' hframes k hk
      rw [(hlast m m' hm').2 k hk]
      exact hframes.input_kept happart hjin (source_subset hin happart hjin ⟨by omega, by omega⟩)
  refine hlines.frames_le ?_
  rwa [← copiedSamples_eq hin happart hjin]

end Needed

/-! ## The exact condition -/

/-- `CopyInputsToOutputs` copies frame by frame, whatever the memory holds, if and
only if the frames of each bus that has an input and an output line up. -/
theorem copies_frames_iff [Nontrivial α] (M : NodeGraph G) (g : G) (data : ProcessCallbackData)
    {ppFramesIn : UInt32 → ℕ} (hin : data.ppFramesIn = some ppFramesIn)
    (happart : data.BuffersApart M g) :
    (∀ m : Memory α, ∃ m', data.CopyInputsToOutputs M g m = some m' ∧
        data.CopiesFrames M g ppFramesIn m m') ↔
      ∀ i, i < min data.InputBusCount data.OutputBusCount → data.BusLinesUp M g i := by
  constructor
  · intro hcopies i hi
    have hiin := (lt_min_word_iff.mp hi).1
    have hflat := flat_copies (α := α) hin happart
      fun j hj hpos => room_of_copied hin happart hj hcopies hpos
    refine busLinesUp_of_flat hin happart hi hcopies ?_ ?_
    · intro hpos heq
      have hsource := source_subset hin happart hiin ⟨Nat.le_refl _, by omega⟩
      have htarget := target_subset hin happart hiin
        (fun hpos => room_of_copied hin happart hi hcopies hpos) ⟨Nat.le_refl _, by omega⟩
      rw [heq] at htarget
      exact happart.across i i hiin (lt_min_word_iff.mp hi).2 _ hsource htarget
    · intro m m' hm' _ k hk
      obtain ⟨m'', hm'', hcopied⟩ := hflat m
      obtain rfl := Option.some.inj (hm'.symm.trans hm'')
      exact hcopied.inside i hi k hk
  · exact copiesFrames_of_busLinesUp hin happart

/-- A node of one bus on either side, of two channels: two frames at 100, and an
output of some frames at 200. -/
def sampleCopy (frameCountOut : UInt32) : ProcessCallbackData :=
  TBaseNode.sProcess sampleGraph (fun _ => none) (some 0) (some fun _ => 100) 2 (fun _ => 200)
    frameCountOut

theorem buffersApart_sampleCopy (frameCountOut : UInt32) :
    (sampleCopy frameCountOut).BuffersApart sampleGraph (fun _ => none) := by
  have honly : ∀ i j : UInt32, i < 1 → j < 1 → ¬ i ≠ j := by
    intro i j hi hj hij
    exact hij ((UInt32.lt_one_iff.mp hi).trans (UInt32.lt_one_iff.mp hj).symm)
  have hinput : ∀ i : UInt32, i < 1 → ∀ a ∈ (sampleCopy frameCountOut).inputSamples sampleGraph
      (fun _ => none) i, a < 104 := by
    intro i hi a ha
    obtain rfl := UInt32.lt_one_iff.mp hi
    rw [inputSamples_eq rfl] at ha
    exact ha.2
  refine ⟨?_, ?_, ?_, ?_⟩
  · exact fun i j hi hj hij => absurd hij (honly i j hi hj)
  · exact fun i j hi hj hij => absurd hij (honly i j hi hj)
  · intro i o hi ho a hin hout
    have hhigh := hinput i hi a hin
    have hlow : 200 ≤ a := hout.1
    omega
  · intro i hi a ha
    have hhigh := hinput i hi a ha
    have hsizeof : sizeofSample.toNat = 4 := rfl
    rw [hsizeof]
    omega

/-- Two frames of input and one of output: the second frame goes past the end of
the output. -/
theorem copies_frames_past_end :
    (sampleCopy 1).BuffersApart sampleGraph (fun _ => none) ∧
      ((sampleCopy 1).CopyInputsToOutputs sampleGraph (fun _ => none) fun a => a).map
        (fun m' => m' 203) = some 103 ∧
      ¬ ∀ m : Memory ℕ, ∃ m',
        (sampleCopy 1).CopyInputsToOutputs sampleGraph (fun _ => none) m = some m' ∧
          (sampleCopy 1).CopiesFrames sampleGraph (fun _ => none) (fun _ => 100) m m' := by
  have hwritten : ((sampleCopy 1).CopyInputsToOutputs sampleGraph (fun _ => none)
      fun a => a).map (fun m' => m' 203) = some 103 := by decide +kernel
  refine ⟨buffersApart_sampleCopy 1, hwritten, fun hcopies => ?_⟩
  obtain ⟨m', hm', hframes⟩ := hcopies fun a => a
  have hkept : m' 203 = 203 := by
    refine hframes.others 203 fun i hi f hf c hc => ?_
    have hfirst : f = 0 := by
      have hf' : f < 1 := hf
      omega
    obtain rfl := UInt32.lt_one_iff.mp hi
    have hchannel : c < 2 := hc
    subst hfirst
    change 203 ≠ 200 + (0 * _ + c)
    omega
  rw [hm', Option.map_some, hkept] at hwritten
  simp at hwritten

/-- Two frames on either side. -/
theorem copies_frames_two_frames :
    (∀ m : Memory ℕ, ∃ m',
        (sampleCopy 2).CopyInputsToOutputs sampleGraph (fun _ => none) m = some m' ∧
          (sampleCopy 2).CopiesFrames sampleGraph (fun _ => none) (fun _ => 100) m m') ↔
      ∀ i, i < min (1 : UInt32) 1 →
        (sampleCopy 2).BusLinesUp sampleGraph (fun _ => none) i :=
  copies_frames_iff sampleGraph (fun _ => none) (sampleCopy 2) rfl (buffersApart_sampleCopy 2)

end ProcessCallbackData

end MiniaudioCpp
