import MiniaudioCpp.Process.Callback
import MiniaudioCpp.Routing.Attachments

/-!
# The extent of the output

An output bus is `*pFrameCountOut` frames long.  The views and the silence that
`ProcessCallbackData` makes are `*pFrameCountIn` frames long, so they are right
exactly when the two counts agree, or there is no output bus
(`output_extent_iff`).
-/

namespace MiniaudioCpp

open Foundation

namespace ProcessCallbackData

variable {G α : Type*}

/-! ## Extents -/

/-- The samples of `frames` frames of an output bus. -/
def outputSamples (M : NodeGraph G) (g : G) (data : ProcessCallbackData) (frames bus : UInt32) :
    Set ℕ :=
  Set.Ico (data.ppFramesOut bus) (data.ppFramesOut bus +
    frames.toNat * ((data.outputBus bus).GetNumChannels M g).toNat)

/-- The samples of an input bus, where there is input. -/
def inputSamples (M : NodeGraph G) (g : G) (data : ProcessCallbackData) (bus : UInt32) : Set ℕ :=
  {a | ∃ ppFramesIn, data.ppFramesIn = some ppFramesIn ∧
    a ∈ Set.Ico (ppFramesIn bus) (ppFramesIn bus +
      data.pFrameCountIn.toNat * ((data.inputBus bus).GetNumChannels M g).toNat)}

/-- The output buffers are disjoint from the inputs. -/
def BuffersDisjoint (M : NodeGraph G) (g : G) (data : ProcessCallbackData) : Prop :=
  ∀ i o, i < data.InputBusCount → o < data.OutputBusCount →
    ∀ a ∈ data.inputSamples M g i, a ∉ data.outputSamples M g data.pFrameCountOut o

/-- `ma_silence_pcm_frames` zeroes the frames and channels it is given, and
nothing else. -/
def SilencesExactly [Zero α] (ma_silence_pcm_frames : Silence α) : Prop :=
  ∀ p frames channels m, Overwrites 0 (Set.Ico p (p + UInt64.toNat frames * UInt32.toNat channels))
    m (ma_silence_pcm_frames p frames .f32 channels m)

/-- The output extent is `*pFrameCountOut` frames: of each view, and of the
silence. -/
structure ExtentRight [Zero α] (M : NodeGraph G) (g : G) (data : ProcessCallbackData)
    (ma_silence_pcm_frames : Silence α) (m : Memory α) : Prop where
  views : ∀ b, b < data.OutputBusCount → data.GetOutputBuffer M g b =
    ⟨data.ppFramesOut b, (data.outputBus b).GetNumChannels M g, data.pFrameCountOut⟩
  silent : ∀ b, b < data.OutputBusCount → ∀ a ∈ data.outputSamples M g data.pFrameCountOut b,
    data.FillOutputWithSilence M g ma_silence_pcm_frames m a = 0
  others : ∀ a, (∀ b, b < data.OutputBusCount →
      a ∉ data.outputSamples M g data.pFrameCountOut b) →
    data.FillOutputWithSilence M g ma_silence_pcm_frames m a = m a
  inputs : ∀ b, b < data.InputBusCount → ∀ a ∈ data.inputSamples M g b,
    data.FillOutputWithSilence M g ma_silence_pcm_frames m a = m a

/-! ## What the code does -/

section

variable [Zero α] {M : NodeGraph G} {g : G} {data : ProcessCallbackData}
  {ma_silence_pcm_frames : Silence α}

/-- `FillOutputWithSilence` zeroes as many frames of each output bus as there are
input frames. -/
theorem fillOutputWithSilence_overwrites (M : NodeGraph G) (g : G) (data : ProcessCallbackData)
    (hsilence : SilencesExactly ma_silence_pcm_frames) (m : Memory α) :
    Overwrites 0 {a | ∃ b, b < data.OutputBusCount ∧ a ∈ data.outputSamples M g data.pFrameCountIn b}
      m (data.FillOutputWithSilence M g ma_silence_pcm_frames m) := by
  refine overwrites_forUpTo (data.outputSamples M g data.pFrameCountIn) ?_ m
  intro b m
  have hbus := hsilence (data.ppFramesOut b) data.pFrameCountIn.toUInt64
    ((data.outputBus b).GetNumChannels M g) m
  rwa [UInt32.toNat_toUInt64] at hbus

/-- Equal frame counts make the extent right. -/
theorem extentRight_of_eq (hsilence : SilencesExactly ma_silence_pcm_frames)
    (hdisjoint : data.BuffersDisjoint M g) (hcounts : data.pFrameCountIn = data.pFrameCountOut)
    (m : Memory α) : data.ExtentRight M g ma_silence_pcm_frames m := by
  have hfill := fillOutputWithSilence_overwrites M g data hsilence m
  rw [hcounts] at hfill
  have hothers : ∀ a, (∀ b, b < data.OutputBusCount →
      a ∉ data.outputSamples M g data.pFrameCountOut b) →
        data.FillOutputWithSilence M g ma_silence_pcm_frames m a = m a := by
    intro a ha
    apply hfill.outside a
    rintro ⟨b, hb, hmem⟩
    exact ha b hb hmem
  -- no input sample is in an output extent, so the inputs are among the others
  refine ⟨?_, fun b hb a ha => hfill.inside a ⟨b, hb, ha⟩, hothers, ?_⟩
  · intro b _
    unfold GetOutputBuffer
    rw [hcounts]
  · intro b hb a ha
    refine hothers a fun o ho hmem => ?_
    exact hdisjoint b o hb ho a ha hmem

end

/-! ## The exact condition -/

/-- In a process callback, for every node and every memory, the extent of the
output is right if and only if the node has no output bus or the two frame
counts are equal. -/
theorem output_extent_iff [Zero α] (M : NodeGraph G) (g : G) (pNode : Option Pointer)
    (ppFramesIn : Option (UInt32 → ℕ)) (pFrameCountIn : UInt32) (ppFramesOut : UInt32 → ℕ)
    (pFrameCountOut : UInt32) {ma_silence_pcm_frames : Silence α}
    (hsilence : SilencesExactly ma_silence_pcm_frames)
    (hdisjoint : (TBaseNode.sProcess M g pNode ppFramesIn pFrameCountIn ppFramesOut
      pFrameCountOut).BuffersDisjoint M g) (m : Memory α) :
    (TBaseNode.sProcess M g pNode ppFramesIn pFrameCountIn ppFramesOut
        pFrameCountOut).ExtentRight M g ma_silence_pcm_frames m ↔
      M.ma_node_get_output_bus_count g pNode = 0 ∨ pFrameCountIn = pFrameCountOut := by
  generalize hdata : TBaseNode.sProcess M g pNode ppFramesIn pFrameCountIn ppFramesOut
    pFrameCountOut = data at hdisjoint ⊢
  have hbuses : M.ma_node_get_output_bus_count g pNode = data.OutputBusCount := by rw [← hdata]; rfl
  have hin : pFrameCountIn = data.pFrameCountIn := by rw [← hdata]; rfl
  have hout : pFrameCountOut = data.pFrameCountOut := by rw [← hdata]; rfl
  rw [hbuses, hin, hout]
  constructor
  · intro h
    by_cases hzero : data.OutputBusCount = 0
    · exact Or.inl hzero
    · -- the view of the first bus shows both counts
      have hfirst : 0 < data.OutputBusCount := UInt32.pos_iff_ne_zero.mpr hzero
      exact Or.inr (congrArg InterleavedView.numFrames (h.views 0 hfirst))
  · rintro (hzero | hcounts)
    · have hnone : ∀ b, ¬ b < data.OutputBusCount := by
        intro b hb
        rw [hzero] at hb
        exact UInt32.not_lt_zero hb
      have hfill := fillOutputWithSilence_overwrites M g data hsilence m
      have hkept : ∀ a, data.FillOutputWithSilence M g ma_silence_pcm_frames m a = m a :=
        fun a => hfill.outside a fun ⟨b, hb, _⟩ => hnone b hb
      exact ⟨fun b hb => absurd hb (hnone b), fun b hb => absurd hb (hnone b),
        fun a _ => hkept a, fun _ _ a _ => hkept a⟩
    · exact extentRight_of_eq hsilence hdisjoint hcounts m

/-- A silence that is exact. -/
def sampleSilence : Silence ℕ := fun p frames _ channels m =>
  m.fill p (frames.toNat * channels.toNat) 0

theorem silencesExactly_sample : SilencesExactly sampleSilence := fun p frames channels m =>
  Overwrites.fill p (UInt64.toNat frames * UInt32.toNat channels) 0 m

/-- One frame of input and two of output, on a bus of two channels: the second
frame keeps what it held. -/
theorem output_extent_short :
    let data := TBaseNode.sProcess sampleGraph (fun _ => none) (some 0) (some fun _ => 100) 1
      (fun _ => 0) 2
    data.GetOutputBuffer sampleGraph (fun _ => none) 0 = ⟨0, 2, 1⟩ ∧
      data.FillOutputWithSilence sampleGraph (fun _ => none) sampleSilence (fun _ => 7) 2 = 7 ∧
      ¬ data.ExtentRight sampleGraph (fun _ => none) sampleSilence (fun _ => 7) := by
  intro data
  refine ⟨rfl, rfl, ?_⟩
  intro h
  have hmem : 2 ∈ data.outputSamples sampleGraph (fun _ => none) data.pFrameCountOut 0 := by
    constructor <;> decide
  exact absurd (h.silent 0 (by decide) 2 hmem) (by decide)

/-- Two frames on either side. -/
theorem output_extent_two_frames :
    (TBaseNode.sProcess sampleGraph (fun _ => none) (some 0) (some fun _ => 100) 2 (fun _ => 0)
        2).ExtentRight sampleGraph (fun _ => none) sampleSilence (fun _ => 7) ↔
      sampleGraph.ma_node_get_output_bus_count (fun _ => none) (some 0) = 0 ∨ (2 : UInt32) = 2 := by
  refine output_extent_iff sampleGraph (fun _ => none) (some 0) _ 2 _ 2 silencesExactly_sample ?_ _
  rintro i o _ _ a ⟨ppFramesIn, hsome, hin⟩ hout
  obtain rfl := Option.some.inj hsome
  have hchannels : (sampleGraph.channels (some 0) o).toNat ≤ 2 := by
    unfold sampleGraph.channels
    split_ifs <;> decide
  have hlow : 100 ≤ a := hin.1
  have hhigh : a < 0 + 2 * (sampleGraph.channels (some 0) o).toNat := hout.2
  omega

end ProcessCallbackData

end MiniaudioCpp
