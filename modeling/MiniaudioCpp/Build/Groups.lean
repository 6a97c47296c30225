import MiniaudioCpp.Build.Reading

/-!
# Groups in any order

A flag and its value are a group, and so is a token that stands alone.  A group
belongs to the configure step or to the build step whatever is around it:
between two groups the loop expects no value, except that a `--parallel` may
still wait for a number, and no group begins with a number.  So the results of
`split_args` are the groups of each step in their order, however the two kinds
are interleaved, and what follows a `--` behind the groups goes to the build
step as it is (`split_args_groups`).
-/

namespace MiniaudioCpp.Build

open Foundation

/-! ## Groups -/

/-- The tables. -/
def tables : List (List String) :=
  [BUILD_NEEDS_VALUE, BUILD_OPTIONAL_NUM, BUILD_SWITCHES, CONFIG_NEEDS_VALUE, CONFIG_SWITCHES]

/-- A group for the configure step. -/
inductive ConfigureGroup : List String → Prop
  | define (tok : String) (htok : startswith tok "-D" ∨ startswith tok "-U") : ConfigureGroup [tok]
  | switch (tok : String) (htok : tok ∈ CONFIG_SWITCHES) : ConfigureGroup [tok]
  | other (tok : String) (htables : ∀ table ∈ tables, tok ∉ table) (hjobs : ¬startswith tok "-j")
      (hseparator : tok ≠ "--") (hint : ¬is_int tok) : ConfigureGroup [tok]
  | cache (v : String) : ConfigureGroup ["-C", v]

/-- A group for the build step. -/
inductive BuildGroup : List String → Prop
  | value (f v : String) (hf : f ∈ BUILD_NEEDS_VALUE ∨ f = "-j") : BuildGroup [f, v]
  | parallel : BuildGroup ["--parallel"]
  | parallelNumber (n : String) (hn : is_int n) : BuildGroup ["--parallel", n]
  | jobs (tok : String) (htok : startswith tok "-j") (hlonger : "-j".length < tok.length) :
      BuildGroup [tok]
  | switch (tok : String) (htok : tok ∈ BUILD_SWITCHES) : BuildGroup [tok]

/-- A group for the step of the bucket. -/
def Bucket.Takes : Bucket → List String → Prop
  | .config => ConfigureGroup
  | .build => BuildGroup

/-- The tokens of a group, and its step. -/
structure Group where
  bucket : Bucket
  tokens : List String
  takes : bucket.Takes tokens

/-- The groups of one step, concatenated in order. -/
def tokensOf (bucket : Bucket) (groups : List Group) : List String :=
  (groups.filter fun group => group.bucket = bucket).flatMap Group.tokens

/-! ## Reading one group -/

/-- Between two groups. -/
structure Mode.Ready (m : Mode) : Prop where
  route : m.route = .auto
  pending : ∀ bucket, m.pending ≠ .value bucket

theorem Mode.Ready.read {m : Mode} (hm : m.Ready) {tok : String} (htok : is_int tok = false) :
    Build.read m tok = readFresh .auto (kind tok) := by
  obtain ⟨route, pending⟩ := m
  obtain ⟨rfl, hpending⟩ := hm
  apply read_of_not_takes
  cases pending with
  | nothing => rfl
  | number => exact htok
  | value bucket => exact absurd rfl (hpending bucket)

theorem ready_nothing : Mode.Ready ⟨.auto, .nothing⟩ := ⟨rfl, nofun⟩

theorem ready_number : Mode.Ready ⟨.auto, .number⟩ := ⟨rfl, nofun⟩

/-- All tokens of the list go to the step of the bucket, and behind them is
again a place between two groups. -/
def ReadsAs (bucket : Bucket) (m : Mode) (tokens : List String) : Prop :=
  labels read m tokens = List.replicate tokens.length bucket.destination ∧
    (after read m tokens).Ready

variable {m : Mode}

/-- A setting alone. -/
theorem readsAs_setting (hm : m.Ready) {tok : String} (hint : is_int tok = false)
    (hkind : kind tok = .setting) : ReadsAs .config m [tok] := by
  have hread : read m tok = (.config, ⟨.auto, .nothing⟩) := by rw [hm.read hint, hkind]; rfl
  rw [ReadsAs, labels_cons, after_cons, hread]
  exact ⟨rfl, ready_nothing⟩

/-- A build switch alone. -/
theorem readsAs_switch (hm : m.Ready) {tok : String} (hkind : kind tok = .buildSwitch) :
    ReadsAs .build m [tok] := by
  have hint : is_int tok = false := is_int_of_kind_ne (by simp [hkind])
  have hread : read m tok = (.build, ⟨.auto, .nothing⟩) := by rw [hm.read hint, hkind]; rfl
  rw [ReadsAs, labels_cons, after_cons, hread]
  exact ⟨rfl, ready_nothing⟩

theorem ConfigureGroup.readsAs {tokens : List String} (h : ConfigureGroup tokens) (hm : m.Ready) :
    ReadsAs .config m tokens := by
  cases h with
  | define tok htok =>
      have hint : is_int tok = false := by
        rcases htok with htok | htok
        · exact is_int_of_startswith (by simp) htok
        · exact is_int_of_startswith (by simp) htok
      exact readsAs_setting hm hint (kind_of_define htok)
  | switch tok htok =>
      have htable : ∀ tok ∈ CONFIG_SWITCHES, is_int tok = false ∧ kind tok = .setting := by decide
      exact readsAs_setting hm (htable tok htok).1 (htable tok htok).2
  | other tok htables hjobs hseparator hint =>
      refine readsAs_setting hm (Bool.eq_false_iff.mpr hint) ((kind_eq_setting_iff tok).mpr ⟨?_, hjobs⟩)
      rw [mem_flags_iff]
      rintro (htok | htok | htok | htok | htok)
      · exact hseparator htok
      · exact htables BUILD_NEEDS_VALUE (by simp [tables]) htok
      · exact htables BUILD_OPTIONAL_NUM (by simp [tables]) htok
      · exact htables BUILD_SWITCHES (by simp [tables]) htok
      · exact htables CONFIG_NEEDS_VALUE (by simp [tables]) htok
  | cache v =>
      have hread : read m "-C" = (.config, ⟨.auto, .value .config⟩) := hm.read (by decide)
      rw [ReadsAs, labels_cons, after_cons, hread]
      exact ⟨rfl, ready_nothing⟩

theorem BuildGroup.readsAs {tokens : List String} (h : BuildGroup tokens) (hm : m.Ready) :
    ReadsAs .build m tokens := by
  have hparallel : read m "--parallel" = (.build, ⟨.auto, .number⟩) := hm.read (by decide)
  cases h with
  | value f v hf =>
      have hkind : kind f = .buildValue := (kind_eq_buildValue_iff f).mpr hf
      have hint : is_int f = false := is_int_of_kind_ne (by simp [hkind])
      have hread : read m f = (.build, ⟨.auto, .value .build⟩) := by rw [hm.read hint, hkind]; rfl
      rw [ReadsAs, labels_cons, after_cons, hread]
      exact ⟨rfl, ready_nothing⟩
  | parallel =>
      rw [ReadsAs, labels_cons, after_cons, hparallel]
      exact ⟨rfl, ready_number⟩
  | parallelNumber n hn =>
      have hread : read ⟨.auto, .number⟩ n = (.build, ⟨.auto, .nothing⟩) := if_pos hn
      rw [ReadsAs, labels_cons, labels_cons, after_cons, after_cons, hparallel, hread]
      exact ⟨rfl, ready_nothing⟩
  | jobs tok htok hlonger =>
      have hne : tok ≠ "-j" := by
        rintro rfl
        exact Nat.lt_irrefl _ hlonger
      exact readsAs_switch hm ((kind_eq_buildSwitch_iff tok).mpr (.inl ⟨htok, hne⟩))
  | switch tok htok =>
      exact readsAs_switch hm ((kind_eq_buildSwitch_iff tok).mpr (.inr htok))

theorem Group.readsAs (group : Group) (hm : m.Ready) : ReadsAs group.bucket m group.tokens := by
  obtain ⟨bucket, tokens, takes⟩ := group
  cases bucket with
  | config => exact ConfigureGroup.readsAs takes hm
  | build => exact BuildGroup.readsAs takes hm

/-! ## Reading all groups -/

theorem destination_inj {bucket bucket' : Bucket} :
    bucket.destination = bucket'.destination ↔ bucket = bucket' := by
  cases bucket <;> cases bucket' <;> simp [Bucket.destination]

theorem destinations_groups (groups : List Group) :
    destinations (groups.flatMap Group.tokens) =
        groups.flatMap (fun group =>
          List.replicate group.tokens.length group.bucket.destination) ∧
      (after read .start (groups.flatMap Group.tokens)).Ready :=
  labels_flatMap read Group.tokens (fun group => group.bucket.destination)
    (fun _ group hm => group.readsAs hm) ready_nothing groups

/-- What goes to the step of a bucket are the groups of that step. -/
theorem select_groups (bucket : Bucket) (groups : List Group) :
    select bucket.destination (destinations (groups.flatMap Group.tokens))
      (groups.flatMap Group.tokens) = tokensOf bucket groups := by
  rw [(destinations_groups groups).1,
    select_flatMap bucket.destination Group.tokens fun group => group.bucket.destination]
  simp only [tokensOf, destination_inj]

/-- The `--` behind groups is dropped, and what follows goes to the build step. -/
theorem destinations_tail (groups : List Group) (t : List String) :
    destinations (groups.flatMap Group.tokens ++ "--" :: t) =
      destinations (groups.flatMap Group.tokens) ++
        .dropped :: List.replicate t.length .build := by
  have hready := (destinations_groups groups).2
  have hseparator : read (after read .start (groups.flatMap Group.tokens)) "--" =
      (.dropped, ⟨.build, .nothing⟩) := hready.read (by decide)
  have htail : labels read ⟨.build, .nothing⟩ t = List.replicate t.length .build :=
    labels_eq_replicate read (fun _ tok hm => Mode.InBuild.read hm tok) inBuild_nothing t
  rw [destinations, labels_append, labels_cons, hseparator, htail]
  rfl

theorem select_tail (bucket : Bucket) (groups : List Group) (t : List String) :
    select bucket.destination (destinations (groups.flatMap Group.tokens ++ "--" :: t))
        (groups.flatMap Group.tokens ++ "--" :: t) =
      tokensOf bucket groups ++ select bucket.destination (List.replicate t.length .build) t := by
  have hlength : (destinations (groups.flatMap Group.tokens)).length =
      (groups.flatMap Group.tokens).length := length_labels read .start _
  have hdropped : Destination.dropped ≠ bucket.destination := by
    cases bucket <;> decide
  rw [destinations_tail, select_append _ hlength, select_groups, select_cons, if_neg hdropped]

/-- `split_args` gives each step its groups in their order, however they are
interleaved, and the build step what follows the first `--` behind them. -/
theorem split_args_groups (groups : List Group) :
    Returns (groups.flatMap Group.tokens) (tokensOf .config groups, tokensOf .build groups) ∧
      ∀ t, Returns (groups.flatMap Group.tokens ++ "--" :: t)
        (tokensOf .config groups, tokensOf .build groups ++ t) := by
  constructor
  · rw [← select_groups .config, ← select_groups .build]
    exact returns_select _
  · intro t
    have hconfig := select_tail .config groups t
    have hbuild := select_tail .build groups t
    have hnone : select .config (List.replicate t.length Destination.build) t = [] :=
      select_replicate_of_ne (by decide) t
    have hall : select .build (List.replicate t.length Destination.build) t = t :=
      select_replicate_self Destination.build t
    simp only [Bucket.destination, hnone, List.append_nil] at hconfig
    simp only [Bucket.destination, hall] at hbuild
    rw [← hconfig, ← hbuild]
    exact returns_select _

end MiniaudioCpp.Build
