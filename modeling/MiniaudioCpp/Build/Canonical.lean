import MiniaudioCpp.Build.Groups

/-!
# The results read again

The configure arguments, a `--`, and the build arguments are a list that
`split_args` could have been given instead.  It gives the same results back,
unless the last configure argument is a `-C` without its value: then the `--`
becomes that value (`split_args_results`).

Two lists of arguments can be split apart, and the results put together, where
the first one ends as it began: no `--` has turned the route, and no flag waits
for its value (`split_args_append`).
-/

namespace MiniaudioCpp.Build

open Foundation

variable {mixed : List String}

/-! ## The end of the loop -/

/-- The loop ends with these values of its variables. -/
def Ends (mixed : List String) (s : Locals) : Prop :=
  Reaches (step mixed) .start s ∧ step mixed s = none

theorem exists_ends (mixed : List String) : ∃ s, Ends mixed s := by
  obtain ⟨s, hreaches, hend, -⟩ :=
    loopUpTo_of_potential (s := .start) (potential mixed) fun _ _ => potential_lt
  exact ⟨s, hreaches, hend⟩

/-- The loop is in the mode that `read` is in, unless it has just seen that the
next token is no number. -/
structure Tracks (mixed : List String) (s : Locals) : Prop where
  follows : Follows mixed s
  mode : s.mode = modeAt mixed s.i ∨
    s.mode.pending = .nothing ∧ (modeAt mixed s.i).pending = .number ∧ s.i < mixed.length

theorem Tracks.step {s next : Locals} (h : Tracks mixed s) (hstep : step mixed s = some next) :
    Tracks mixed next := by
  refine ⟨h.follows.step hstep, ?_⟩
  obtain ⟨tok, htok, rfl⟩ := Option.map_eq_some_iff.mp hstep
  rcases body_cases s tok with hpass | ⟨hnumber, -, hbody⟩
  · left
    rw [hpass.mode, h.follows.read tok htok, hpass.i]
    exact (after_take_succ read .start htok).symm
  · right
    rw [hbody]
    refine ⟨rfl, ?_, (List.getElem?_eq_some_iff.mp htok).1⟩
    rcases h.mode with hmode | ⟨hnothing, -⟩
    · rw [← hmode, hnumber]
    · rw [hnumber] at hnothing
      nomatch hnothing

theorem tracks_of_reaches {s : Locals} (hreaches : Reaches (step mixed) .start s) :
    Tracks mixed s :=
  hreaches.invariant (fun _ _ htracks hstep => htracks.step hstep) ⟨follows_start mixed, .inl rfl⟩

theorem Ends.i_eq {s : Locals} (h : Ends mixed s) : s.i = mixed.length := by
  have hle : mixed.length ≤ s.i := by
    rw [← List.getElem?_eq_none_iff]
    exact Option.map_eq_none_iff.mp h.2
  exact Nat.le_antisymm (tracks_of_reaches h.1).follows.i hle

theorem Ends.mode {s : Locals} (h : Ends mixed s) : s.mode = modeAt mixed mixed.length := by
  rw [← h.i_eq]
  rcases (tracks_of_reaches h.1).mode with hmode | ⟨-, -, hlt⟩
  · exact hmode
  · exact absurd h.i_eq (Nat.ne_of_lt hlt)

/-- Only a `-C` makes the loop expect a configure argument. -/
theorem expect_body {s : Locals} {tok flag : String}
    (hexpect : (body tok s).expect = some (.config, flag)) : flag = "-C" := by
  obtain ⟨cfg, bld, route, expect, i⟩ := s
  cases expect with
  | some waiting =>
      obtain ⟨bucket, waiting⟩ := waiting
      revert hexpect
      by_cases hnumber : waiting ∈ BUILD_OPTIONAL_NUM
      · cases hint : is_int tok <;> simp [body, hnumber, hint]
      · cases bucket <;> simp [body, hnumber]
  | none =>
      have hmode : (body tok ⟨cfg, bld, route, none, i⟩).mode = (readFresh route (kind tok)).2 :=
        (body_fresh rfl tok).mode
      have hpending : (readFresh route (kind tok)).2.pending = .number ∨
          (readFresh route (kind tok)).2.pending = .value .config := by
        rw [← hmode, Locals.mode, hexpect]
        by_cases hnumber : flag ∈ BUILD_OPTIONAL_NUM
        · exact .inl (if_pos hnumber)
        · exact .inr (if_neg hnumber)
      cases hkind : kind tok with
      | buildNumber =>
          obtain rfl : tok = "--parallel" :=
            List.mem_singleton.mp ((kind_eq_buildNumber_iff tok).mp hkind)
          cases hexpect
      | configValue =>
          obtain rfl : tok = "-C" :=
            List.mem_singleton.mp ((kind_eq_configValue_iff tok).mp hkind)
          cases route with
          | auto =>
              obtain rfl : "-C" = flag := congrArg Prod.snd (Option.some.inj hexpect)
              rfl
          | build => cases hexpect
      | _ =>
          rw [hkind] at hpending
          rcases hpending with hpending | hpending <;> cases hpending

/-- `expect` asks for the value of a `-C` where `read` does. -/
theorem expect_iff {s : Locals} (hreaches : Reaches (step mixed) .start s) :
    s.expect = some (.config, "-C") ↔ (modeAt mixed s.i).pending = .value .config := by
  have hkeep : ∀ s next : Locals, (∀ flag, s.expect = some (.config, flag) → flag = "-C") →
      step mixed s = some next → ∀ flag, next.expect = some (.config, flag) → flag = "-C" := by
    rintro s next - hstep flag hexpect
    obtain ⟨tok, -, rfl⟩ := Option.map_eq_some_iff.mp hstep
    exact expect_body hexpect
  have hflag := hreaches.invariant hkeep nofun
  have hmode : s.mode.pending = .value .config ↔ (modeAt mixed s.i).pending = .value .config := by
    rcases (tracks_of_reaches hreaches).mode with hmode | ⟨hnothing, hnumber, -⟩
    · rw [hmode]
    · rw [hnothing, hnumber]
      exact ⟨nofun, nofun⟩
  rw [← hmode]
  constructor
  · intro hexpect
    simp [Locals.mode, hexpect, BUILD_OPTIONAL_NUM]
  · intro hpending
    cases hexpect : s.expect with
    | none => simp [Locals.mode, hexpect] at hpending
    | some waiting =>
        obtain ⟨bucket, flag⟩ := waiting
        by_cases hnumber : flag ∈ BUILD_OPTIONAL_NUM
        · simp [Locals.mode, hexpect, hnumber] at hpending
        · obtain rfl : bucket = .config := by
            simpa [Locals.mode, hexpect, hnumber] using hpending
          rw [hflag flag hexpect]

theorem Ends.start_iff {s : Locals} (h : Ends mixed s) :
    modeAt mixed mixed.length = .start ↔ s.route = .auto ∧ s.expect = none := by
  rw [← h.mode, Locals.mode, Mode.start, Mode.mk.injEq]
  cases hexpect : s.expect with
  | none => simp
  | some waiting =>
      obtain ⟨bucket, flag⟩ := waiting
      by_cases hnumber : flag ∈ BUILD_OPTIONAL_NUM <;> simp [hnumber]

/-! ## The results of a list with more behind it -/

/-- What goes to a step, after some tokens, of those behind them. -/
theorem returns_append (xs ys : List String) :
    Returns (xs ++ ys)
      (select .config (destinations xs) xs ++
          select .config (labels read (modeAt xs xs.length) ys) ys,
        select .build (destinations xs) xs ++
          select .build (labels read (modeAt xs xs.length) ys) ys) := by
  have hlabels : destinations (xs ++ ys) =
      destinations xs ++ labels read (modeAt xs xs.length) ys := by
    rw [modeAt, List.take_length]
    exact labels_append read .start xs ys
  have hlength : (destinations xs).length = xs.length := length_labels read .start xs
  rw [← select_append _ hlength, ← select_append _ hlength, ← hlabels]
  exact returns_select _

/-! ## The configure arguments alone -/

/-- A mode, and the mode when only the configure arguments were read. -/
structure ReadsAlone (m alone : Mode) : Prop where
  waits : m.pending = .value .config → m.route = .auto ∧ alone = ⟨.auto, .value .config⟩
  open_ : m.pending ≠ .value .config → alone = .start

theorem ReadsAlone.kept {m alone : Mode} {tok : String} (h : ReadsAlone m alone)
    (hconfig : (read m tok).1 = .config) :
    (read alone tok).1 = .config ∧ ReadsAlone (read m tok).2 (read alone tok).2 := by
  by_cases hpending : m.pending = .value .config
  · obtain ⟨hroute, rfl⟩ := h.waits hpending
    obtain ⟨route, pending⟩ := m
    obtain rfl : pending = .value .config := hpending
    exact ⟨rfl, nofun, fun _ => rfl⟩
  · rw [h.open_ hpending]
    have hfresh : read m tok = readFresh m.route (kind tok) := by
      rcases read_cases hpending tok with hbuild | hfresh
      · rw [hbuild] at hconfig
        nomatch hconfig
      · exact hfresh
    have hstart : read .start tok = readFresh .auto (kind tok) := rfl
    rw [hfresh] at hconfig ⊢
    rw [hstart]
    cases hroute : m.route with
    | build =>
        rw [hroute] at hconfig
        cases hkind : kind tok <;> rw [hkind] at hconfig <;> nomatch hconfig
    | auto =>
        rw [hroute] at hconfig
        refine ⟨hconfig, ?_⟩
        cases hkind : kind tok with
        | configValue => exact ⟨fun _ => ⟨rfl, rfl⟩, fun hne => absurd rfl hne⟩
        | setting => exact ⟨nofun, fun _ => rfl⟩
        | _ =>
            rw [hkind] at hconfig
            nomatch hconfig

theorem ReadsAlone.passed {m alone : Mode} {tok : String} (h : ReadsAlone m alone)
    (hother : (read m tok).1 ≠ .config) : ReadsAlone (read m tok).2 alone := by
  have hpending : m.pending ≠ .value .config := by
    intro hpending
    obtain ⟨route, pending⟩ := m
    obtain rfl : pending = .value .config := hpending
    exact hother rfl
  have hnext : (read m tok).2.pending ≠ .value .config := by
    rcases read_cases hpending tok with hread | hread
    · rw [hread]
      exact nofun
    · rw [hread] at hother ⊢
      cases hkind : kind tok with
      | configValue =>
          cases hroute : m.route with
          | auto =>
              rw [hkind, hroute] at hother
              exact absurd rfl hother
          | build => exact nofun
      | _ => exact nofun
  exact ⟨fun hwaits => absurd hwaits hnext, fun _ => h.open_ hpending⟩

/-- The configure arguments are all read as such again. -/
theorem destinations_config (mixed : List String) :
    destinations (select .config (destinations mixed) mixed) =
        List.replicate (select .config (destinations mixed) mixed).length .config ∧
      ReadsAlone (modeAt mixed mixed.length)
        (modeAt (select .config (destinations mixed) mixed)
          (select .config (destinations mixed) mixed).length) := by
  have hstart : ReadsAlone .start .start := ⟨nofun, fun _ => rfl⟩
  unfold destinations modeAt
  rw [List.take_length, List.take_length]
  exact labels_select read ReadsAlone (fun _ _ _ => ReadsAlone.kept) (fun _ _ _ => ReadsAlone.passed)
    hstart mixed

/-- Behind a `--` from the start, all is for the build step. -/
theorem labels_separator (ys : List String) :
    labels read .start ("--" :: ys) = .dropped :: List.replicate ys.length .build := by
  have htail : labels read ⟨.build, .nothing⟩ ys = List.replicate ys.length .build :=
    labels_eq_replicate read (fun _ tok hm => Mode.InBuild.read hm tok) inBuild_nothing ys
  rw [labels_cons, ← htail]
  rfl

theorem select_separator (ys : List String) :
    select .config (labels read .start ("--" :: ys)) ("--" :: ys) = [] ∧
      select .build (labels read .start ("--" :: ys)) ("--" :: ys) = ys := by
  rw [labels_separator]
  exact ⟨select_replicate_of_ne (by decide) ys, select_replicate_self Destination.build ys⟩

/-- The results of `split_args` are results again when they are given to it: the
configure arguments alone, the build arguments behind a `--`, and both, unless
the loop ends while a `-C` waits for its value. -/
theorem split_args_results (mixed : List String) :
    ∃ cfg bld s, Ends mixed s ∧ Returns mixed (cfg, bld) ∧ Returns cfg (cfg, []) ∧
      Returns ("--" :: bld) ([], bld) ∧
      (Returns (cfg ++ "--" :: bld) (cfg, bld) ↔ s.expect ≠ some (.config, "-C")) := by
  obtain ⟨s, hends⟩ := exists_ends mixed
  have hreturns := returns_select mixed
  obtain ⟨hconfig, halone⟩ := destinations_config mixed
  generalize select .config (destinations mixed) mixed = cfg at *
  generalize select .build (destinations mixed) mixed = bld at *
  have hkept : select .config (destinations cfg) cfg = cfg := by
    rw [hconfig]
    exact select_replicate_self Destination.config cfg
  have hnone : select .build (destinations cfg) cfg = [] := by
    rw [hconfig]
    exact select_replicate_of_ne (by decide) cfg
  obtain ⟨hseparator, hbehind⟩ := select_separator bld
  refine ⟨cfg, bld, s, hends, hreturns, ?_, ?_, ?_⟩
  · have hcfg := returns_select cfg
    rwa [hkept, hnone] at hcfg
  · have hbld := returns_select ("--" :: bld)
    rwa [destinations, hseparator, hbehind] at hbld
  · have hboth := returns_append cfg ("--" :: bld)
    rw [hkept, hnone, List.nil_append] at hboth
    rw [Ne, expect_iff hends.1, hends.i_eq]
    constructor
    · intro hagain hpending
      rw [(halone.waits hpending).2] at hboth
      have hlength := congrArg (fun result => result.1.length) (hboth.unique hagain)
      -- the `--` is the value of the `-C` now
      have hvalue : read ⟨.auto, .value .config⟩ "--" = (.config, .start) := rfl
      simp only [labels_cons, hvalue, select_cons, if_true, List.length_append,
        List.length_cons] at hlength
      omega
    · intro hpending
      rwa [halone.open_ hpending, hseparator, hbehind, List.append_nil] at hboth

/-! ## Lists put together -/

/-- From any mode but that of the start, some token goes elsewhere. -/
theorem exists_read_ne {m : Mode} (hm : m ≠ .start) :
    ∃ tok, (read m tok).1 ≠ (read .start tok).1 := by
  obtain ⟨route, pending⟩ := m
  cases pending with
  | value bucket =>
      cases bucket with
      | config => exact ⟨"--verbose", by cases route <;> decide⟩
      | build => exact ⟨"5", by cases route <;> decide⟩
  | number => exact ⟨"5", by cases route <;> decide⟩
  | nothing =>
      cases route with
      | auto => exact absurd rfl hm
      | build => exact ⟨"5", by decide⟩

/-- A token shows in the selections where it goes. -/
theorem destination_eq_of_select {d d' : Destination} {tok : String}
    (hconfig : select .config [d] [tok] = select .config [d'] [tok])
    (hbuild : select .build [d] [tok] = select .build [d'] [tok]) : d = d' := by
  cases d <;> cases d' <;> simp_all

/-- `split_args` can be given the parts of a list one after the other, whatever
the second part is, exactly where the first ends before any separator and with no
flag that waits for its value. -/
theorem split_args_append (xs : List String) :
    ∃ s, Ends xs s ∧
      ((∀ ys cfg bld cfg' bld', Returns xs (cfg, bld) → Returns ys (cfg', bld') →
          Returns (xs ++ ys) (cfg ++ cfg', bld ++ bld')) ↔
        s.route = .auto ∧ s.expect = none) := by
  obtain ⟨s, hends⟩ := exists_ends xs
  refine ⟨s, hends, ?_⟩
  rw [← hends.start_iff]
  constructor
  · intro happend
    by_contra hne
    obtain ⟨tok, htok⟩ := exists_read_ne hne
    have hboth := happend [tok] _ _ _ _ (returns_select xs) (returns_select [tok])
    have hresult := hboth.unique (returns_append xs [tok])
    rw [Prod.mk.injEq] at hresult
    exact htok (destination_eq_of_select (List.append_cancel_left hresult.1.symm)
      (List.append_cancel_left hresult.2.symm))
  · intro hstart ys cfg bld cfg' bld' hxs hys
    have hxs := hxs.unique (returns_select xs)
    have hys := hys.unique (returns_select ys)
    rw [Prod.mk.injEq] at hxs hys
    have hboth := returns_append xs ys
    rw [hstart] at hboth
    rw [hxs.1, hxs.2, hys.1, hys.2]
    exact hboth

end MiniaudioCpp.Build
