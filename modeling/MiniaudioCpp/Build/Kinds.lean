import MiniaudioCpp.Build.SplitArgs

/-!
# The kinds of tokens

The loop of `split_args` compares a token with one table after the other.
`kind` is the outcome of these comparisons, where no value is expected.  The
tables share no token and none has one that starts with `-D` or `-U`, so each
kind can be told from its own table alone (`kind_eq_separator_iff` and the
lemmas after it).  Every integer literal is of the last kind
(`is_int_of_kind_ne`): a flag is never taken as a number.
-/

namespace MiniaudioCpp.Build

/-- What a token is where no value is expected. -/
inductive Kind
  | separator
  | buildValue
  | buildNumber
  | buildSwitch
  | configValue
  | setting
  deriving DecidableEq, Repr

/-- The kind of a token. -/
def kind (tok : String) : Kind :=
  if tok = "--" then .separator
  else if tok ∈ BUILD_NEEDS_VALUE then .buildValue
  else if tok ∈ BUILD_OPTIONAL_NUM then .buildNumber
  else if startswith tok "-j" then if tok = "-j" then .buildValue else .buildSwitch
  else if tok ∈ BUILD_SWITCHES then .buildSwitch
  else if startswith tok "-D" || startswith tok "-U" then .setting
  else if tok ∈ CONFIG_SWITCHES then .setting
  else if tok ∈ CONFIG_NEEDS_VALUE then .configValue
  else .setting

/-! ## Flags of one letter -/

theorem startswith_iff (s start : String) :
    startswith s start ↔ ∃ rest, s.toList = start.toList ++ rest := by
  rw [startswith, List.isPrefixOf_iff_prefix]
  exact ⟨fun ⟨rest, h⟩ => ⟨rest, h.symm⟩, fun ⟨rest, h⟩ => ⟨rest, h.symm⟩⟩

/-- A minus sign before a character that is not a digit. -/
theorem is_int_of_toList {tok : String} {c : Char} {cs : List Char}
    (htok : tok.toList = '-' :: c :: cs) (hc : decimal c = none) : is_int tok = false := by
  have hdigits : digits (c :: cs) = none := by
    unfold digits
    split <;> simp_all
  have hspace : isspace '-' = false := by decide
  simp [is_int, int, htok, hspace, magnitude, hdigits]

theorem is_int_of_startswith {tok : String} {flag : String}
    (hflag : flag ∈ ["-D", "-U", "-j"]) (htok : startswith tok flag) : is_int tok = false := by
  obtain ⟨rest, htok⟩ := (startswith_iff _ _).mp htok
  simp only [List.mem_cons, List.not_mem_nil, or_false] at hflag
  rcases hflag with rfl | rfl | rfl
  · exact is_int_of_toList htok (by decide)
  · exact is_int_of_toList htok (by decide)
  · exact is_int_of_toList htok (by decide)

/-! ## Each kind by its own table -/

/-- The comparison that makes a token one of the kind. -/
def Kind.Tells : Kind → String → Prop
  | .separator, tok => tok = "--"
  | .buildValue, tok => tok ∈ BUILD_NEEDS_VALUE ∨ tok = "-j"
  | .buildNumber, tok => tok ∈ BUILD_OPTIONAL_NUM
  | .buildSwitch, tok => (startswith tok "-j" ∧ tok ≠ "-j") ∨ tok ∈ BUILD_SWITCHES
  | .configValue, tok => tok ∈ CONFIG_NEEDS_VALUE
  | .setting, _ => True

theorem tells_of_kind {tok : String} {k : Kind} (hkind : kind tok = k) : k.Tells tok := by
  subst hkind
  rw [kind]
  by_cases hseparator : tok = "--"
  · rw [if_pos hseparator]
    exact hseparator
  rw [if_neg hseparator]
  by_cases hvalue : tok ∈ BUILD_NEEDS_VALUE
  · rw [if_pos hvalue]
    exact .inl hvalue
  rw [if_neg hvalue]
  by_cases hnumber : tok ∈ BUILD_OPTIONAL_NUM
  · rw [if_pos hnumber]
    exact hnumber
  rw [if_neg hnumber]
  by_cases hjobs : startswith tok "-j"
  · rw [if_pos hjobs]
    by_cases hbare : tok = "-j"
    · rw [if_pos hbare]
      exact .inr hbare
    · rw [if_neg hbare]
      exact .inl ⟨hjobs, hbare⟩
  rw [if_neg hjobs]
  by_cases hswitch : tok ∈ BUILD_SWITCHES
  · rw [if_pos hswitch]
    exact .inr hswitch
  rw [if_neg hswitch]
  by_cases hdefine : (startswith tok "-D" || startswith tok "-U") = true
  · rw [if_pos hdefine]
    trivial
  rw [if_neg hdefine]
  by_cases hwarning : tok ∈ CONFIG_SWITCHES
  · rw [if_pos hwarning]
    trivial
  rw [if_neg hwarning]
  by_cases hcache : tok ∈ CONFIG_NEEDS_VALUE
  · rw [if_pos hcache]
    exact hcache
  · rw [if_neg hcache]
    trivial

theorem kind_eq_separator_iff (tok : String) : kind tok = .separator ↔ tok = "--" := by
  constructor
  · exact tells_of_kind
  · rintro rfl
    rfl

theorem kind_eq_buildValue_iff (tok : String) :
    kind tok = .buildValue ↔ tok ∈ BUILD_NEEDS_VALUE ∨ tok = "-j" := by
  constructor
  · exact tells_of_kind
  · have htable : ∀ flag ∈ "-j" :: BUILD_NEEDS_VALUE, kind flag = .buildValue := by decide
    rintro (hvalue | rfl)
    · exact htable tok (List.mem_cons_of_mem _ hvalue)
    · exact htable _ List.mem_cons_self

theorem kind_eq_buildNumber_iff (tok : String) :
    kind tok = .buildNumber ↔ tok ∈ BUILD_OPTIONAL_NUM := by
  constructor
  · exact tells_of_kind
  · have htable : ∀ flag ∈ BUILD_OPTIONAL_NUM, kind flag = .buildNumber := by decide
    exact htable tok

theorem kind_eq_buildSwitch_iff (tok : String) :
    kind tok = .buildSwitch ↔ (startswith tok "-j" ∧ tok ≠ "-j") ∨ tok ∈ BUILD_SWITCHES := by
  constructor
  · exact tells_of_kind
  · have htable : ∀ flag ∈ BUILD_SWITCHES, kind flag = .buildSwitch := by decide
    rintro (⟨hjobs, hlong⟩ | hswitch)
    · have hother : ∀ flag ∈ "--" :: BUILD_NEEDS_VALUE ++ BUILD_OPTIONAL_NUM,
          startswith flag "-j" = false := by decide
      have hne : tok ∉ "--" :: BUILD_NEEDS_VALUE ++ BUILD_OPTIONAL_NUM := fun htok =>
        Bool.noConfusion (hjobs.symm.trans (hother tok htok))
      simp only [List.cons_append, List.mem_cons, List.mem_append, not_or] at hne
      obtain ⟨hseparator, hvalue, hnumber⟩ := hne
      rw [kind, if_neg hseparator, if_neg hvalue, if_neg hnumber, if_pos hjobs, if_neg hlong]
    · exact htable tok hswitch

theorem kind_eq_configValue_iff (tok : String) :
    kind tok = .configValue ↔ tok ∈ CONFIG_NEEDS_VALUE := by
  constructor
  · exact tells_of_kind
  · have htable : ∀ flag ∈ CONFIG_NEEDS_VALUE, kind flag = .configValue := by decide
    exact htable tok

/-- The flags that are not switches of the configure step, in one list. -/
def flags : List String :=
  "--" :: BUILD_NEEDS_VALUE ++ BUILD_OPTIONAL_NUM ++ BUILD_SWITCHES ++ CONFIG_NEEDS_VALUE

theorem mem_flags_iff (tok : String) :
    tok ∈ flags ↔ tok = "--" ∨ tok ∈ BUILD_NEEDS_VALUE ∨ tok ∈ BUILD_OPTIONAL_NUM ∨
      tok ∈ BUILD_SWITCHES ∨ tok ∈ CONFIG_NEEDS_VALUE := by
  simp only [flags, List.cons_append, List.mem_cons, List.mem_append, or_assoc]

/-- What is no flag is a setting. -/
theorem kind_eq_setting_iff (tok : String) :
    kind tok = .setting ↔ tok ∉ flags ∧ ¬startswith tok "-j" := by
  rw [mem_flags_iff]
  constructor
  · intro hkind
    refine ⟨?_, fun hjobs => ?_⟩
    · rintro (htok | htok | htok | htok | htok)
      · exact Kind.noConfusion (hkind.symm.trans ((kind_eq_separator_iff tok).mpr htok))
      · exact Kind.noConfusion (hkind.symm.trans ((kind_eq_buildValue_iff tok).mpr (.inl htok)))
      · exact Kind.noConfusion (hkind.symm.trans ((kind_eq_buildNumber_iff tok).mpr htok))
      · exact Kind.noConfusion (hkind.symm.trans ((kind_eq_buildSwitch_iff tok).mpr (.inr htok)))
      · exact Kind.noConfusion (hkind.symm.trans ((kind_eq_configValue_iff tok).mpr htok))
    · by_cases hbare : tok = "-j"
      · exact Kind.noConfusion (hkind.symm.trans ((kind_eq_buildValue_iff tok).mpr (.inr hbare)))
      · exact Kind.noConfusion
          (hkind.symm.trans ((kind_eq_buildSwitch_iff tok).mpr (.inl ⟨hjobs, hbare⟩)))
  · rintro ⟨hflags, hjobs⟩
    simp only [not_or] at hflags
    obtain ⟨hseparator, hvalue, hnumber, hswitch, hcache⟩ := hflags
    rw [kind, if_neg hseparator, if_neg hvalue, if_neg hnumber, if_neg hjobs, if_neg hswitch,
      if_neg hcache, ite_self, ite_self]

/-- A definition is a setting. -/
theorem kind_of_define {tok : String} (htok : startswith tok "-D" ∨ startswith tok "-U") :
    kind tok = .setting := by
  have hother : ∀ flag ∈ flags, ¬(startswith flag "-D" ∨ startswith flag "-U") := by decide
  refine (kind_eq_setting_iff tok).mpr ⟨fun hmem => hother tok hmem htok, fun hjobs => ?_⟩
  obtain ⟨rest, hrest⟩ := (startswith_iff _ _).mp hjobs
  rcases htok with hdefine | hunset
  · obtain ⟨rest', hrest'⟩ := (startswith_iff _ _).mp hdefine
    simp [hrest] at hrest'
  · obtain ⟨rest', hrest'⟩ := (startswith_iff _ _).mp hunset
    simp [hrest] at hrest'

/-- A flag is no number. -/
theorem is_int_of_kind_ne {tok : String} (htok : kind tok ≠ .setting) : is_int tok = false := by
  have hflags : ∀ flag ∈ flags, is_int flag = false := by decide
  by_cases hmem : tok ∈ flags
  · exact hflags tok hmem
  · have hjobs : startswith tok "-j" := by
      by_contra hjobs
      exact htok ((kind_eq_setting_iff tok).mpr ⟨hmem, hjobs⟩)
    exact is_int_of_startswith (by simp) hjobs

end MiniaudioCpp.Build
