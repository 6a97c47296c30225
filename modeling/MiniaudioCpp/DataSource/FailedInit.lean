import MiniaudioCpp.DataSource.Source

/-!
# A data source whose `Init` failed

Everybody who asks a data source whether it is empty takes a base it owns for
an initialised one: `Sound::InitFromDataSource` passes it to miniaudio, and the
destructor uninitialises it.  The other wrappers release and delete an element
whose initialisation failed; `DataSource::Init` answers `false` and keeps it.
So it reports truly exactly when `ma_data_source_init` succeeds
(`init_reports_iff`).
-/

namespace MiniaudioCpp

open Foundation

variable {ε σ μ α β F : Type*}

namespace DataSource

/-- Since `before`, a base was uninitialised whose initialisation had failed. -/
def UninitsFailed (before after : Heap α) : Prop :=
  ∃ p r, .init p r ∈ before.log ∧ r ≠ .success ∧
    before.log.count (.uninit p) < after.log.count (.uninit p)

/-- The answer of an `Init` and the data source it leaves: after `false` it owns
nothing, so that no sound takes it and neither its destructor nor another `Init`
uninitialises what was never initialised; after `true` it owns an initialised
base. -/
structure InitReports [Inhabited α] [Inhabited β] (M : Miniaudio ε β F) (T : DataSourceType σ μ)
    (answer : Bool) (s' : DataSourceState σ α) : Prop where
  empty : answer = false → s'.self.resource_ = none
  sound_kept : answer = false → ∀ env engine flags (sound : CResource) (heap : Heap β),
    Sound.InitFromDataSource M env engine s'.self.resource_ flags sound heap =
      (false, sound, heap)
  destroyed : answer = false → ¬ UninitsFailed s'.heap (s'.self.destruct s'.heap)
  initialised_again : answer = false → ∀ ma_data_source_init,
    ¬ UninitsFailed s'.heap (Init T ma_data_source_init s').2.heap
  owns : answer = true → ∃ p x, s'.self.resource_ = some p ∧ s'.heap.cells.get? p = some x ∧
    .init p .success ∈ s'.heap.log

variable [Inhabited α] {T : DataSourceType σ μ} {ma_data_source_init : MaInit α}

/-- Whatever the outcome, the data source owns the new base. -/
theorem resource_Init (T : DataSourceType σ μ) (ma_data_source_init : MaInit α)
    (s : DataSourceState σ α) :
    (Init T ma_data_source_init s).2.self.resource_ = some s.heap.cells.size := by
  unfold Init
  rw [CResource.emplace_eq]
  dsimp only
  split <;> rfl

theorem answer_Init (T : DataSourceType σ μ) (ma_data_source_init : MaInit α)
    (s : DataSourceState σ α) :
    (Init T ma_data_source_init s).1 = true ↔ (ma_data_source_init default).1 = .success := by
  unfold Init
  rw [CResource.emplace_eq]
  dsimp only
  split
  · exact iff_of_false (by simp) ‹_›
  · exact iff_of_true rfl (not_not.mp ‹_›)

/-- The base is live, and the answer of its initialisation is on record. -/
theorem base_Init (T : DataSourceType σ μ) (ma_data_source_init : MaInit α)
    (s : DataSourceState σ α) :
    (Init T ma_data_source_init s).2.heap.cells.get? s.heap.cells.size =
        some (ma_data_source_init default).2 ∧
      .init s.heap.cells.size (ma_data_source_init default).1 ∈
        (Init T ma_data_source_init s).2.heap.log := by
  have hheap : (Init T ma_data_source_init s).2.heap =
      (s.self.emplace ma_data_source_init s.heap).2.2 := by
    unfold Init
    dsimp only
    split <;> rfl
  rw [hheap, CResource.emplace_eq]
  constructor
  · apply Arena.get?_put_self
    simp [Heap.adopt]
  · simp

/-- `Init` reports truly if and only if `ma_data_source_init` succeeds. -/
theorem init_reports_iff [Inhabited β] (M : Miniaudio ε β F) (T : DataSourceType σ μ)
    (ma_data_source_init : MaInit α) (s : DataSourceState σ α) :
    InitReports M T (Init T ma_data_source_init s).1 (Init T ma_data_source_init s).2 ↔
      (ma_data_source_init default).1 = .success := by
  have hanswer := answer_Init T ma_data_source_init s
  have hresource := resource_Init T ma_data_source_init s
  obtain ⟨hlive, hrecord⟩ := base_Init T ma_data_source_init s
  constructor
  · intro hreports
    by_contra hfails
    -- the base that could not be initialised is still owned
    have hempty := hreports.empty (Bool.eq_false_iff.mpr fun htrue => hfails (hanswer.mp htrue))
    rw [hresource] at hempty
    simp at hempty
  · intro hsuccess
    have htrue := hanswer.mpr hsuccess
    rw [hsuccess] at hrecord
    refine ⟨?_, ?_, ?_, ?_, fun _ => ⟨_, _, hresource, hlive, hrecord⟩⟩
    all_goals
      intro hfalse
      rw [htrue] at hfalse
      simp at hfalse

/-- An `Init` that fails: a sound is initialised with the base all the same, and
the destructor uninitialises it. -/
theorem failed_init_kept :
    let T : DataSourceType Unit Unit :=
      ⟨none, fun _ _ x => (⟨true, [], 0⟩, x), none, fun x => ({}, x), none, none, none, none⟩
    let s : DataSourceState Unit Unit := ⟨⟨⟨none⟩, ()⟩, Heap.empty⟩
    let s' := (Init T (fun x => (.error, x)) s).2
    (Init T (fun x => (.error, x)) s).1 = false ∧ s'.self.resource_ = some 0 ∧
      (Sound.InitFromDataSource Miniaudio.sample .success (some ⟨0, 48000⟩) s'.self.resource_ 0
        ⟨none⟩ Heap.empty).1 = true ∧
      (s'.self.destruct s'.heap).log =
        [.new 0, .adopt 0, .init 0 .error, .uninit 0, .delete 0] ∧
      ¬ InitReports Miniaudio.sample T false s' := by
  intro T s s'
  refine ⟨rfl, rfl, rfl, rfl, ?_⟩
  intro hreports
  exact absurd (hreports.empty rfl) (by decide)

end DataSource

end MiniaudioCpp
