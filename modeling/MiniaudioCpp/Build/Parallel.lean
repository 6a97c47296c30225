import MiniaudioCpp.Build.Partition
import Mathlib.Data.List.Forall2

/-!
# `-j` and `--parallel`

CMake takes both as one option with an optional number.  `split_args` has only
`--parallel` in `BUILD_OPTIONAL_NUM`: it takes whatever follows a `-j` as the
value of it, be it a definition or the `--`, and sends it to the build step.  So
a list and its renaming can be sorted in different ways
(`jobs_not_interchangeable`).

They are sorted alike where each `-j` and `--parallel` that is read as a flag is
followed by a number, or by build flags up to a build switch or to the end: the
two readings are then in step again before any token of the configure step.
This condition, `FlagsSafe`, is exact (`jobs_interchangeable_iff`);
`flagsSafe_iff` says it of the positions that the loop passes.  Where it fails,
the flags that follow can be renamed so that one reading still waits for a value
at the first other token and one does not, and they disagree on that token.
-/

namespace MiniaudioCpp.Build

open Foundation

/-! ## Renaming -/

/-- The two spellings. -/
def jobsFlags : List String := ["-j", "--parallel"]

/-- The same token, or the other spelling. -/
def Renamed (tok tok' : String) : Prop := tok = tok' ∨ tok ∈ jobsFlags ∧ tok' ∈ jobsFlags

/-- The two lists are sorted alike: each index goes to the same place, and the
results are the same up to the spelling. -/
structure Interchangeable (toks toks' : List String) : Prop where
  places : ∀ i d, Puts toks i d ↔ Puts toks' i d
  results : ∃ cfg bld cfg' bld', Returns toks (cfg, bld) ∧ Returns toks' (cfg', bld') ∧
    List.Forall₂ Renamed cfg cfg' ∧ List.Forall₂ Renamed bld bld'

/-! ## The condition -/

/-- The build flags that expect something. -/
def valueFlags : List String := "-j" :: BUILD_NEEDS_VALUE ++ BUILD_OPTIONAL_NUM

/-- No token is left, or the first is a build switch or a `-jN`. -/
def closed (rest : List String) : Bool :=
  rest.head?.all fun tok => startswith tok "-j" || tok ∈ BUILD_SWITCHES

/-- What may follow a `-j` or a `--parallel`: a number, or build flags that
expect something and then a build switch, a `-jN` or the end. -/
def jobsSafe (rest : List String) : Bool :=
  rest.head?.any is_int || closed (rest.dropWhile fun tok => tok ∈ valueFlags)

/-- Before the separator, each `-j` and `--parallel` that is no value is followed
safely. -/
def FlagsSafe : Mode → List String → Prop
  | _, [] => True
  | m, tok :: rest =>
      (m.route = .auto → m.takes tok = false → tok ∈ jobsFlags → jobsSafe rest) ∧
        FlagsSafe (read m tok).2 rest

instance decidableFlagsSafe : (m : Mode) → (toks : List String) → Decidable (FlagsSafe m toks)
  | _, [] => inferInstanceAs (Decidable True)
  | m, tok :: rest =>
      have := decidableFlagsSafe (read m tok).2 rest
      inferInstanceAs (Decidable (_ ∧ _))

example :
    FlagsSafe .start ["-j", "8", "-DX=1", "--parallel", "-t", "--verbose", "--", "-j"] ∧
      ¬FlagsSafe .start ["-j", "-DX=1"] := by
  decide

/-- The condition at each index, by the mode that its token is read in. -/
theorem flagsSafe_iff_forall_getElem? (m : Mode) (toks : List String) :
    FlagsSafe m toks ↔ ∀ i tok, toks[i]? = some tok →
      (after read m (toks.take i)).route = .auto → (after read m (toks.take i)).takes tok = false →
        tok ∈ jobsFlags → jobsSafe (toks.drop (i + 1)) := by
  induction toks generalizing m with
  | nil => simp [FlagsSafe]
  | cons tok toks ih =>
      rw [FlagsSafe, ih]
      constructor
      · rintro ⟨hhere, hlater⟩ i tok' htok'
        cases i with
        | zero =>
            obtain rfl := Option.some.inj htok'
            exact hhere
        | succ i => exact hlater i tok' htok'
      · intro hall
        exact ⟨hall 0 tok rfl, fun i tok' htok' => hall (i + 1) tok' htok'⟩

/-- In terms of the loop: a jobs flag that the loop does not take as a value, with
no separator before it, is followed safely. -/
theorem flagsSafe_iff (toks : List String) :
    FlagsSafe .start toks ↔ ∀ i tok, toks[i]? = some tok → tok ∈ jobsFlags →
      ¬TakenAsValue toks i → (∀ j < i, ¬IsSeparator toks j) → jobsSafe (toks.drop (i + 1)) := by
  rw [flagsSafe_iff_forall_getElem?]
  refine forall₃_congr fun i tok htok => ?_
  have hroute : (modeAt toks i).route = .auto ↔ ∀ j < i, ¬IsSeparator toks j :=
    route_modeAt (Nat.le_of_lt (List.getElem?_eq_some_iff.mp htok).1)
  have htakes : (modeAt toks i).takes tok = false ↔ ¬TakenAsValue toks i := by
    rw [takenAsValue_iff, ← Bool.not_eq_true]
    refine not_congr ⟨fun h => ⟨tok, htok, h⟩, ?_⟩
    rintro ⟨tok', htok', h⟩
    obtain rfl := Option.some.inj (htok.symm.trans htok')
    exact h
  rw [← hroute, ← htakes]
  exact ⟨fun h hmem ht hr => h hr ht hmem, fun h hr ht hmem => h hmem ht hr⟩

/-! ## Reading the flags -/

theorem kind_of_mem_valueFlags {tok : String} (htok : tok ∈ valueFlags) :
    kind tok = .buildValue ∨ kind tok = .buildNumber := by
  have htable : ∀ flag ∈ valueFlags, kind flag = .buildValue ∨ kind flag = .buildNumber := by decide
  exact htable tok htok

theorem mem_valueFlags_of_mem_jobsFlags {tok : String} (htok : tok ∈ jobsFlags) :
    tok ∈ valueFlags := by
  have htable : ∀ flag ∈ jobsFlags, flag ∈ valueFlags := by decide
  exact htable tok htok

theorem Renamed.mem_valueFlags {tok tok' : String} (h : Renamed tok tok') (htok : tok ∈ valueFlags) :
    tok' ∈ valueFlags := by
  rcases h with rfl | ⟨-, htok'⟩
  · exact htok
  · exact mem_valueFlags_of_mem_jobsFlags htok'

theorem Renamed.eq_of_not_mem {tok tok' : String} (h : Renamed tok tok') (htok : tok ∉ jobsFlags) :
    tok = tok' :=
  h.resolve_right fun hmem => htok hmem.1

/-- Before the separator, where no configure flag waits for its value. -/
structure Mode.Open (m : Mode) : Prop where
  route : m.route = .auto
  pending : m.pending ≠ .value .config

/-- A flag that expects something goes to the build step from an open mode, and
leaves an open mode. -/
theorem Mode.Open.valueFlag {m : Mode} (hm : m.Open) {tok : String} (htok : tok ∈ valueFlags) :
    (read m tok).1 = .build ∧ (read m tok).2.Open := by
  rcases read_cases hm.pending tok with hread | hread
  · rw [hread, hm.route]
    exact ⟨rfl, rfl, nofun⟩
  · rw [hread, hm.route]
    rcases kind_of_mem_valueFlags htok with hkind | hkind <;> rw [hkind] <;> exact ⟨rfl, rfl, nofun⟩

/-- Behind a build switch all open modes are one. -/
theorem Mode.Open.switch {m : Mode} (hm : m.Open) {tok : String} (htok : kind tok = .buildSwitch) :
    read m tok = (.build, ⟨.auto, .nothing⟩) := by
  rcases read_cases hm.pending tok with hread | hread
  · rw [hread, hm.route]
  · rw [hread, hm.route, htok]
    rfl

theorem takes_jobsFlag {m : Mode} {tok : String} (hm : ∀ bucket, m.pending ≠ .value bucket)
    (htok : tok ∈ jobsFlags) : m.takes tok = false := by
  obtain ⟨route, pending⟩ := m
  cases pending with
  | nothing => rfl
  | number =>
      have htable : ∀ flag ∈ jobsFlags, is_int flag = false := by decide
      exact htable tok htok
  | value bucket => exact absurd rfl (hm bucket)

/-- A jobs flag that is no value expects a value or a number, by its spelling. -/
theorem read_jobsFlag {m : Mode} {tok : String} (hm : ∀ bucket, m.pending ≠ .value bucket)
    (htok : tok ∈ jobsFlags) :
    read m tok = (.build, ⟨m.route, if tok = "-j" then .value .build else .number⟩) := by
  have hkind : kind tok = if tok = "-j" then .buildValue else .buildNumber := by
    have htable : ∀ flag ∈ jobsFlags,
        kind flag = if flag = "-j" then .buildValue else .buildNumber := by decide
    exact htable tok htok
  rw [read_of_not_takes (takes_jobsFlag hm htok), hkind]
  split <;> rfl

/-- Behind a jobs flag, before the separator. -/
structure Mode.Jobs (m : Mode) : Prop where
  route : m.route = .auto
  pending : m.pending = .value .build ∨ m.pending = .number

theorem jobs_of_read {m : Mode} {tok : String} (hm : ∀ bucket, m.pending ≠ .value bucket)
    (hroute : m.route = .auto) (htok : tok ∈ jobsFlags) : (read m tok).2.Jobs := by
  rw [read_jobsFlag hm htok]
  refine ⟨hroute, ?_⟩
  by_cases hshort : tok = "-j"
  · exact .inl (if_pos hshort)
  · exact .inr (if_neg hshort)

theorem Mode.Jobs.number {m : Mode} (hm : m.Jobs) {tok : String} (htok : is_int tok) :
    read m tok = (.build, ⟨.auto, .nothing⟩) := by
  obtain ⟨route, pending⟩ := m
  obtain ⟨rfl, rfl | rfl⟩ := hm
  · rfl
  · exact if_pos htok

theorem Mode.Jobs.isOpen {m : Mode} (hm : m.Jobs) : m.Open := by
  obtain ⟨route, pending⟩ := m
  obtain ⟨rfl, rfl | rfl⟩ := hm
  · exact ⟨rfl, nofun⟩
  · exact ⟨rfl, nofun⟩

/-! ## Two readings in step -/

/-- Two readings of a list and of a renaming of it that agree on all of what is
to come. -/
inductive InStep : Mode → Mode → List String → Prop
  | same (m : Mode) (xs : List String) (hsafe : FlagsSafe m xs) : InStep m m xs
  | inBuild (a b : Mode) (xs : List String) (ha : a.InBuild) (hb : b.InBuild) : InStep a b xs
  | number (a b : Mode) (xs : List String) (ha : a.Jobs) (hb : b.Jobs)
      (hhead : xs.head?.any is_int) (hsafe : FlagsSafe a xs) : InStep a b xs
  | flags (a b : Mode) (xs : List String) (ha : a.Open) (hb : b.Open)
      (hclosed : closed (xs.dropWhile fun tok => tok ∈ valueFlags)) (hsafe : FlagsSafe a xs) :
      InStep a b xs

theorem kind_of_closed {tok : String} {rest : List String} (htok : tok ∉ valueFlags)
    (hclosed : closed (tok :: rest)) : kind tok = .buildSwitch := by
  have hne : tok ≠ "-j" := by
    rintro rfl
    exact htok (by decide)
  have hor : startswith tok "-j" ∨ tok ∈ BUILD_SWITCHES := by simpa [closed] using hclosed
  exact (kind_eq_buildSwitch_iff tok).mpr (hor.imp_left fun hjobs => ⟨hjobs, hne⟩)

theorem InStep.same_read {m : Mode} {x y : String} {xs : List String} (hxy : Renamed x y)
    (hsafe : FlagsSafe m (x :: xs)) :
    (Build.read m x).1 = (Build.read m y).1 ∧ InStep (Build.read m x).2 (Build.read m y).2 xs := by
  rcases hxy with rfl | ⟨hx, hy⟩
  · exact ⟨rfl, .same _ _ hsafe.2⟩
  by_cases hvalue : ∃ bucket, m.pending = .value bucket
  · obtain ⟨bucket, hpending⟩ := hvalue
    have hread (tok : String) : Build.read m tok = (bucket.destination, ⟨m.route, .nothing⟩) := by
      simp [Build.read, Mode.takes, hpending]
    obtain ⟨-, hsafe⟩ := hsafe
    rw [hread x] at hsafe ⊢
    rw [hread y]
    exact ⟨rfl, .same _ _ hsafe⟩
  · have hm : ∀ bucket, m.pending ≠ .value bucket := fun bucket h => hvalue ⟨bucket, h⟩
    obtain ⟨hjobs, hsafe⟩ := hsafe
    have hreadx := read_jobsFlag hm hx
    have hready := read_jobsFlag hm hy
    have hlabel : (Build.read m x).1 = (Build.read m y).1 := by rw [hreadx, hready]
    refine ⟨hlabel, ?_⟩
    cases hroute : m.route with
    | auto =>
        have hmodex : (Build.read m x).2.Jobs := jobs_of_read hm hroute hx
        have hmodey : (Build.read m y).2.Jobs := jobs_of_read hm hroute hy
        have htakes : m.takes x = false := takes_jobsFlag hm hx
        rcases Bool.or_eq_true_iff.mp (hjobs hroute htakes hx) with hhead | hclosed
        · exact .number _ _ _ hmodex hmodey hhead hsafe
        · exact .flags _ _ _ hmodex.isOpen hmodey.isOpen hclosed hsafe
    | build =>
        have hbuild : m.InBuild := ⟨hroute, hm .config⟩
        exact .inBuild _ _ _ (hbuild.read x).2 (hbuild.read y).2

/-- One token and its renaming. -/
theorem InStep.read {a b : Mode} {x y : String} {xs : List String} (hxy : Renamed x y)
    (h : InStep a b (x :: xs)) :
    (Build.read a x).1 = (Build.read b y).1 ∧ InStep (Build.read a x).2 (Build.read b y).2 xs := by
  cases h with
  | same m hsafe => exact InStep.same_read hxy hsafe
  | inBuild a b ha hb =>
      obtain ⟨hlabel, hnext⟩ := ha.read x
      obtain ⟨hlabel', hnext'⟩ := hb.read y
      exact ⟨hlabel.trans hlabel'.symm, .inBuild _ _ _ hnext hnext'⟩
  | number a b ha hb hhead hsafe =>
      have hint : is_int x := by simpa using hhead
      have hne : x ∉ jobsFlags := by
        have htable : ∀ flag ∈ jobsFlags, ¬is_int flag := by decide
        exact fun hmem => htable x hmem hint
      obtain rfl := hxy.eq_of_not_mem hne
      obtain ⟨-, hsafe⟩ := hsafe
      rw [ha.number hint] at hsafe ⊢
      rw [hb.number hint]
      exact ⟨rfl, .same _ _ hsafe⟩
  | flags a b ha hb hclosed hsafe =>
      obtain ⟨-, hsafe⟩ := hsafe
      by_cases hx : x ∈ valueFlags
      · have hy : y ∈ valueFlags := hxy.mem_valueFlags hx
        obtain ⟨hlabel, hnext⟩ := ha.valueFlag hx
        obtain ⟨hlabel', hnext'⟩ := hb.valueFlag hy
        rw [List.dropWhile_cons_of_pos (by simpa using hx)] at hclosed
        exact ⟨hlabel.trans hlabel'.symm, .flags _ _ _ hnext hnext' hclosed hsafe⟩
      · obtain rfl := hxy.eq_of_not_mem fun hmem => hx (mem_valueFlags_of_mem_jobsFlags hmem)
        rw [List.dropWhile_cons_of_neg (by simpa using hx)] at hclosed
        have hkind := kind_of_closed hx hclosed
        rw [ha.switch hkind] at hsafe ⊢
        rw [hb.switch hkind]
        exact ⟨rfl, .same _ _ hsafe⟩

/-! ## Safe lists -/

theorem destinations_eq_of_flagsSafe {toks toks' : List String} (hsafe : FlagsSafe .start toks)
    (hrenamed : List.Forall₂ Renamed toks toks') : destinations toks = destinations toks' := by
  have hstep : ∀ a b x y xs, Renamed x y → InStep a b (x :: xs) →
      (read a x).1 = (read b y).1 ∧ InStep (read a x).2 (read b y).2 xs :=
    fun _ _ _ _ _ hxy h => h.read hxy
  have hstart : InStep .start .start toks := .same _ _ hsafe
  exact labels_eq_of_simulation InStep hstep hrenamed hstart

theorem interchangeable_of_destinations {toks toks' : List String}
    (hrenamed : List.Forall₂ Renamed toks toks') (h : destinations toks = destinations toks') :
    Interchangeable toks toks' := by
  refine ⟨fun i d => by rw [puts_iff, puts_iff, h], ?_⟩
  refine ⟨_, _, _, _, returns_select toks, returns_select toks', ?_, ?_⟩
  · rw [← h]
    exact select_forall₂ Destination.config hrenamed _
  · rw [← h]
    exact select_forall₂ Destination.build hrenamed _

/-! ## Unsafe lists -/

/-- The first flag that is not followed safely. -/
theorem exists_flag_of_not_flagsSafe {m : Mode} {toks : List String} (h : ¬FlagsSafe m toks) :
    ∃ before flag rest, toks = before ++ flag :: rest ∧ (after read m before).route = .auto ∧
      (after read m before).takes flag = false ∧ flag ∈ jobsFlags ∧ ¬jobsSafe rest := by
  induction toks generalizing m with
  | nil => exact absurd trivial h
  | cons tok toks ih =>
      by_cases hhere : m.route = .auto → m.takes tok = false → tok ∈ jobsFlags → jobsSafe toks
      · obtain ⟨before, flag, rest, rfl, hflag⟩ := ih fun hsafe => h ⟨hhere, hsafe⟩
        exact ⟨tok :: before, flag, rest, rfl, hflag⟩
      · push Not at hhere
        obtain ⟨hroute, htakes, hmem, hjobs⟩ := hhere
        exact ⟨[], tok, toks, rfl, hroute, htakes, hmem, hjobs⟩

/-- The first token that is no flag with a value, where it is no build switch. -/
theorem exists_of_not_closed {rest : List String}
    (h : ¬closed (rest.dropWhile fun tok => tok ∈ valueFlags)) :
    ∃ flags tok behind, rest = flags ++ tok :: behind ∧ (∀ flag ∈ flags, flag ∈ valueFlags) ∧
      tok ∉ valueFlags ∧ ¬closed (tok :: behind) := by
  induction rest with
  | nil => exact absurd rfl h
  | cons tok rest ih =>
      by_cases htok : tok ∈ valueFlags
      · rw [List.dropWhile_cons_of_pos (by simpa using htok)] at h
        obtain ⟨flags, other, behind, rfl, hflags, hother⟩ := ih h
        exact ⟨tok :: flags, other, behind, rfl, List.forall_mem_cons.mpr ⟨htok, hflags⟩, hother⟩
      · rw [List.dropWhile_cons_of_neg (by simpa using htok)] at h
        exact ⟨[], tok, rest, rfl, nofun, htok, h⟩

/-- Such a token does not go to the build step unless it is a value. -/
theorem readFresh_ne_build {tok : String} {behind : List String} (htok : tok ∉ valueFlags)
    (hclosed : ¬closed (tok :: behind)) : (readFresh .auto (kind tok)).1 ≠ .build := by
  have hswitch : ¬(startswith tok "-j" ∨ tok ∈ BUILD_SWITCHES) := fun hor =>
    hclosed (by simpa [closed] using hor)
  simp only [valueFlags, List.cons_append, List.mem_cons, List.mem_append, not_or] at htok
  cases hkind : kind tok with
  | separator => exact nofun
  | buildValue =>
      exact absurd ((kind_eq_buildValue_iff tok).mp hkind) (not_or.mpr ⟨htok.2.1, htok.1⟩)
  | buildNumber => exact absurd ((kind_eq_buildNumber_iff tok).mp hkind) htok.2.2
  | buildSwitch =>
      exact absurd (((kind_eq_buildSwitch_iff tok).mp hkind).imp_left And.left) hswitch
  | configValue => exact nofun
  | setting => exact nofun

/-- What is not safe has a first token that is no build flag, behind flags that
expect something. -/
theorem exists_other_of_not_jobsSafe {rest : List String} (h : ¬jobsSafe rest) :
    ∃ flags tok behind, rest = flags ++ tok :: behind ∧ (∀ flag ∈ flags, flag ∈ valueFlags) ∧
      (readFresh .auto (kind tok)).1 ≠ .build ∧ (flags = [] → is_int tok = false) := by
  obtain ⟨hhead, hclosed⟩ := not_or.mp fun hor => h (Bool.or_eq_true_iff.mpr hor)
  obtain ⟨flags, tok, behind, rfl, hflags, htok, hother⟩ := exists_of_not_closed hclosed
  refine ⟨flags, tok, behind, rfl, hflags, readFresh_ne_build htok hother, ?_⟩
  rintro rfl
  exact Bool.eq_false_iff.mpr fun hint => hhead (by simpa using hint)

/-- A flag that expects something is read as a value behind a `-j`, and has a
spelling that takes whatever follows it where it is none. -/
theorem exists_spelling {flag : String} (hflag : flag ∈ valueFlags) :
    ∃ flag', Renamed flag flag' ∧ kind flag' = .buildValue ∧ is_int flag' = false := by
  have htable : ∀ flag ∈ valueFlags,
      is_int flag = false ∧ (kind flag = .buildValue ∨ flag ∈ jobsFlags) := by decide
  obtain ⟨hint, hkind | hjobs⟩ := htable flag hflag
  · exact ⟨flag, .inl rfl, hkind, hint⟩
  · exact ⟨"-j", .inr ⟨hjobs, by decide⟩, by decide, by decide⟩

/-- One of two modes waits for the value of a build flag, and the other has this
expectation. -/
def Apart (pending : Pending) (a b : Mode) : Prop :=
  a = ⟨.auto, .value .build⟩ ∧ b = ⟨.auto, pending⟩ ∨
    a = ⟨.auto, pending⟩ ∧ b = ⟨.auto, .value .build⟩

/-- Two such modes disagree on a token that the other one does not send to the
build step. -/
theorem Apart.read_ne {pending : Pending} {a b : Mode} (h : Apart pending a b) {tok : String}
    (htok : (read ⟨.auto, pending⟩ tok).1 ≠ .build) : (read a tok).1 ≠ (read b tok).1 := by
  intro hsame
  rcases h with ⟨rfl, rfl⟩ | ⟨rfl, rfl⟩
  · exact htok hsame.symm
  · exact htok hsame

/-- The two modes behind a jobs flag can be kept apart over the flags that follow,
by a choice of their spellings. -/
theorem exists_apart (flags : List String) (hflags : ∀ flag ∈ flags, flag ∈ valueFlags)
    (pending : Pending) (hpending : pending = .nothing ∨ pending = .number) :
    ∃ flags' flags'' pending', List.Forall₂ Renamed flags flags' ∧
      List.Forall₂ Renamed flags flags'' ∧
      (pending' = .nothing ∨ flags = [] ∧ pending' = pending) ∧
      Apart pending' (after read ⟨.auto, .value .build⟩ flags')
        (after read ⟨.auto, pending⟩ flags'') := by
  induction flags generalizing pending with
  | nil => exact ⟨[], [], pending, .nil, .nil, .inr ⟨rfl, rfl⟩, .inl ⟨rfl, rfl⟩⟩
  | cons flag flags ih =>
      obtain ⟨hflag, hflags⟩ := List.forall_mem_cons.mp hflags
      obtain ⟨spelling, hrenamed, hkind, hint⟩ := exists_spelling hflag
      have hread : (read ⟨.auto, pending⟩ spelling).2 = ⟨.auto, .value .build⟩ := by
        have htakes : Mode.takes ⟨.auto, pending⟩ spelling = false := by
          rcases hpending with rfl | rfl
          · rfl
          · exact hint
        rw [read_of_not_takes htakes, hkind]
        rfl
      obtain ⟨flags', flags'', pending', h', h'', hnothing, happart⟩ := ih hflags .nothing (.inl rfl)
      -- the two readings change places
      refine ⟨flag :: flags'', spelling :: flags', pending', .cons (.inl rfl) h'',
        .cons hrenamed h', .inl (hnothing.elim id And.right), ?_⟩
      rw [after_cons, after_cons, hread]
      exact happart.symm.imp And.symm And.symm

/-! ## Two renamings of an unsafe list -/

/-- Where a token goes, by the mode behind the tokens before it. -/
theorem getElem?_destinations_append (before : List String) (tok : String) (behind : List String) :
    (destinations (before ++ tok :: behind))[before.length]? =
      some (read (after read .start before) tok).1 := by
  rw [getElem?_destinations, modeAt, List.getElem?_append_right (Nat.le_refl _), Nat.sub_self,
    List.take_left]
  rfl

theorem Interchangeable.getElem?_eq {toks toks' : List String} (h : Interchangeable toks toks')
    (i : ℕ) : (destinations toks)[i]? = (destinations toks')[i]? := by
  apply Option.ext
  intro d
  rw [← puts_iff, ← puts_iff]
  exact h.places i d

theorem renamed_append {before behind flags flags' : List String} {flag flag' : String}
    (hflag : Renamed flag flag') (hflags : List.Forall₂ Renamed flags flags') :
    List.Forall₂ Renamed (before ++ flag :: (flags ++ behind))
      (before ++ flag' :: (flags' ++ behind)) := by
  have hself (toks : List String) : List.Forall₂ Renamed toks toks :=
    List.forall₂_same.mpr fun _ _ => .inl rfl
  exact List.rel_append (hself before) (.cons hflag (List.rel_append hflags (hself behind)))

/-- The place of a token behind a jobs flag and other flags. -/
theorem getElem?_destinations_jobs {before : List String}
    (hroute : (after read .start before).route = .auto)
    (hm : ∀ bucket, (after read .start before).pending ≠ .value bucket) {flag : String}
    (hflag : flag ∈ jobsFlags) (flags : List String) (tok : String) (behind : List String) :
    (destinations (before ++ flag :: (flags ++ tok :: behind)))[before.length + (flags.length + 1)]? =
      some (read (after read ⟨.auto, if flag = "-j" then .value .build else .number⟩ flags) tok).1 := by
  have hlabel := getElem?_destinations_append (before ++ flag :: flags) tok behind
  rw [after_append, after_cons, read_jobsFlag hm hflag, hroute, List.append_assoc, List.cons_append,
    List.length_append, List.length_cons] at hlabel
  exact hlabel

/-- Where a flag is not followed safely, some token goes to two places in two
renamings. -/
theorem exists_renamings_of_not_flagsSafe {toks : List String} (h : ¬FlagsSafe .start toks) :
    ∃ (toks' toks'' : List String) (i : ℕ), List.Forall₂ Renamed toks toks' ∧
      List.Forall₂ Renamed toks toks'' ∧ (destinations toks')[i]? ≠ (destinations toks'')[i]? := by
  obtain ⟨before, flag, rest, rfl, hroute, htakes, hflag, hjobs⟩ := exists_flag_of_not_flagsSafe h
  obtain ⟨flags, tok, behind, rfl, hflags, hfresh, hint⟩ := exists_other_of_not_jobsSafe hjobs
  obtain ⟨flags', flags'', pending', h', h'', hpending', happart⟩ :=
    exists_apart flags hflags .number (.inr rfl)
  have hm : ∀ bucket, (after read .start before).pending ≠ .value bucket := by
    intro bucket hvalue
    simp [Mode.takes, hvalue] at htakes
  have hother : (read ⟨.auto, pending'⟩ tok).1 ≠ .build := by
    have htakes : Mode.takes ⟨.auto, pending'⟩ tok = false := by
      rcases hpending' with rfl | ⟨hnil, rfl⟩
      · rfl
      · exact hint hnil
    rw [read_of_not_takes htakes]
    exact hfresh
  have hshort : "-j" ∈ jobsFlags := by decide
  have hlong : "--parallel" ∈ jobsFlags := by decide
  have hleft := getElem?_destinations_jobs hroute hm hshort flags' tok behind
  have hright := getElem?_destinations_jobs hroute hm hlong flags'' tok behind
  rw [← h'.length_eq] at hleft
  rw [← h''.length_eq] at hright
  refine ⟨_, _, before.length + (flags.length + 1), renamed_append (.inr ⟨hflag, hshort⟩) h',
    renamed_append (.inr ⟨hflag, hlong⟩) h'', ?_⟩
  rw [hleft, hright]
  exact fun hsame => happart.read_ne hother (Option.some.inj hsame)

/-- The definition behind a `-j` goes to the build step, and that behind a
`--parallel` to the configure step. -/
theorem jobs_not_interchangeable :
    List.Forall₂ Renamed ["-j", "-DX=1"] ["--parallel", "-DX=1"] ∧
      Returns ["-j", "-DX=1"] ([], ["-j", "-DX=1"]) ∧
      Returns ["--parallel", "-DX=1"] (["-DX=1"], ["--parallel"]) ∧
      ¬Interchangeable ["-j", "-DX=1"] ["--parallel", "-DX=1"] := by
  have hshort : Returns ["-j", "-DX=1"] ([], ["-j", "-DX=1"]) := returns_select _
  have hlong : Returns ["--parallel", "-DX=1"] (["-DX=1"], ["--parallel"]) := returns_select _
  refine ⟨.cons (.inr ⟨by decide, by decide⟩) (.cons (.inl rfl) .nil), hshort, hlong, ?_⟩
  intro h
  obtain ⟨cfg, bld, cfg', bld', hreturns, hreturns', hcfg, -⟩ := h.results
  obtain ⟨rfl, -⟩ := Prod.mk.inj (hshort.unique hreturns)
  obtain ⟨rfl, -⟩ := Prod.mk.inj (hlong.unique hreturns')
  cases hcfg

/-- `-j` and `--parallel` are interchangeable in exactly the lists where each of
them that is read as a flag is followed safely. -/
theorem jobs_interchangeable_iff (toks : List String) :
    (∀ toks', List.Forall₂ Renamed toks toks' → Interchangeable toks toks') ↔
      FlagsSafe .start toks := by
  constructor
  · intro hall
    by_contra hunsafe
    obtain ⟨toks', toks'', i, h', h'', hne⟩ := exists_renamings_of_not_flagsSafe hunsafe
    exact hne (((hall toks' h').getElem?_eq i).symm.trans ((hall toks'' h'').getElem?_eq i))
  · intro hsafe toks' hrenamed
    exact interchangeable_of_destinations hrenamed (destinations_eq_of_flagsSafe hsafe hrenamed)

end MiniaudioCpp.Build
