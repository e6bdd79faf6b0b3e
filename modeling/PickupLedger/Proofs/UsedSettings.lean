import PickupLedger.CommandLine.Plan
import PickupLedger.Proofs.SettingsOverlay

/-!
# The settings that a command uses

A command uses settings in two ways: it starts a service with them, or it tells that they are
valid (`Uses`).  Either way they are the settings in effect (`Options.effective`): those of the
file, or the standard ones where the file has none, and what the arguments say instead.

What the file gives has been checked, and the standard settings pass the check.  What the arguments
say is not checked again.  A port cannot do harm, for no check is about it; a level can, and so the
settings in use are valid exactly if the arguments give no blank level
(`used_settings_valid_iff`).
-/

namespace PickupLedger.CommandLine

namespace Options

/-- The path of the configuration. -/
def path (o : Options) (env : Environment) : String := o.config.getD (defaultPath env)

/-- The settings of the file, if they can be used. -/
def loaded (o : Options) (env : Environment) : Except LoadFault Settings :=
  Settings.load (env.contents (o.path env))

/-- **The settings in effect.** -/
def effective (o : Options) (env : Environment) : Settings := (o.settings (o.loaded env)).1

/-- The arguments give a level that is blank. -/
def GivesBlankLevel (o : Options) : Prop :=
  ∃ level, o.logLevel = some level ∧ Text.isBlankText level = true

end Options

/-- **The settings that a command uses**: it starts a service with them, or tells that they are
valid. -/
inductive Uses (env : Environment) (arguments : List String) : Settings → Prop where
  | started {launch : Launch} {log : List LogLine} (h : plan env arguments = .start launch log) :
    Uses env arguments launch.settings
  | approved {o : Options} (hoptions : readOptions (env.get? "PVZ_CONFIG") arguments = .ok o)
    (h : plan env arguments = .exit 0 (report (o.path env) (o.effective env)) "") :
    Uses env arguments (o.effective env)

section Commands
variable {env : Environment} {arguments : List String} {o : Options}

theorem plan_of_options (ho : readOptions (env.get? "PVZ_CONFIG") arguments = .ok o) :
    plan env arguments = execute env o := by
  rw [plan, ho]

/-- A command that is no check starts a service, whatever is in the file. -/
theorem execute_of_not_check (env : Environment) (hcheck : o.check = false) :
    ∃ log, execute env o = .start ⟨o.effective env, !o.noMigrate, o.inMemory⟩ log :=
  ⟨configLines (o.path env) (o.settings (o.loaded env)).2, by rw [execute, hcheck]; rfl⟩

/-- A check approves of a file that can be used. -/
theorem execute_of_loaded {t : Settings} (hcheck : o.check = true) (ht : o.loaded env = .ok t) :
    execute env o = .exit 0 (report (o.path env) (o.effective env)) "" := by
  rw [Options.loaded, Options.path] at ht
  simp only [execute, hcheck, Options.effective, Options.loaded, Options.path, ht,
    Options.settings, if_true]

/-- A check tells what is wrong with a file that cannot be used. -/
theorem execute_of_not_loaded {fault : LoadFault} (hcheck : o.check = true)
    (ht : o.loaded env = .error fault) :
    execute env o =
      .exit 1 "" ("Configuration is invalid: " ++ fault.message (o.path env) ++ "\n") := by
  rw [Options.loaded, Options.path] at ht
  simp only [execute, hcheck, Options.path, ht, Options.settings, if_true]

/-- A service is started by a command that is no check, with the settings in effect. -/
theorem of_start {launch : Launch} {log : List LogLine} (h : execute env o = .start launch log) :
    o.check = false ∧ launch.settings = o.effective env := by
  cases hcheck : o.check with
  | false =>
    obtain ⟨log', hstart⟩ := execute_of_not_check env hcheck
    rw [hstart, Outcome.start.injEq] at h
    exact ⟨rfl, congrArg Launch.settings h.1.symm⟩
  | true =>
    cases ht : o.loaded env with
    | ok t => cases (execute_of_loaded hcheck ht).symm.trans h
    | error fault => cases (execute_of_not_loaded hcheck ht).symm.trans h

/-- A check that ends well has found a file that can be used. -/
theorem of_exit_zero {output errors : String} (h : execute env o = .exit 0 output errors) :
    ∃ t, o.loaded env = .ok t := by
  cases ht : o.loaded env with
  | ok t => exact ⟨t, rfl⟩
  | error fault =>
    cases hcheck : o.check with
    | false =>
      obtain ⟨log, hstart⟩ := execute_of_not_check env hcheck
      cases hstart.symm.trans h
    | true => cases (execute_of_not_loaded hcheck ht).symm.trans h

/-- **A command uses the settings in effect**, unless it is a check of a file that cannot be
used. -/
theorem uses_iff (ho : readOptions (env.get? "PVZ_CONFIG") arguments = .ok o) {s : Settings} :
    Uses env arguments s ↔
      s = o.effective env ∧ (o.check = true → ∃ t, o.loaded env = .ok t) := by
  have hplan := plan_of_options ho
  constructor
  · intro h
    cases h with
    | started h =>
      obtain ⟨hcheck, hsettings⟩ := of_start (hplan.symm.trans h)
      exact ⟨hsettings, fun htrue => absurd htrue (by rw [hcheck]; decide)⟩
    | approved ho' h =>
      obtain rfl := Except.ok.inj (ho'.symm.trans ho)
      exact ⟨rfl, fun _ => of_exit_zero (hplan.symm.trans h)⟩
  · rintro ⟨rfl, hloaded⟩
    cases hcheck : o.check with
    | false =>
      obtain ⟨log, hstart⟩ := execute_of_not_check env hcheck
      exact .started (hplan.trans hstart)
    | true =>
      obtain ⟨t, ht⟩ := hloaded hcheck
      exact .approved ho (hplan.trans (execute_of_loaded hcheck ht))

end Commands

/-! ## The settings in effect -/

/-- The settings of a file can be used. -/
theorem isUsable_of_load {contents : Except FileFault (List UInt8)} {s : Settings}
    (h : Settings.load contents = .ok s) : s.IsUsable := by
  cases contents with
  | error fault => cases h
  | ok bytes =>
    rw [Settings.load] at h
    cases htext : Text.Utf8.read? bytes with
    | none => simp only [htext, reduceCtorEq] at h
    | some text =>
      rw [htext] at h
      exact Settings.isUsable_of_ofText h

/-- An empty file says nothing. -/
theorem load_nil : Settings.load (.ok []) = .ok .standard := by
  have htext : Text.Utf8.read? [] = some "" := by with_unfolding_all rfl
  have hdoc : Toml.read? (Toml.documentText []) = some [] :=
    Toml.read?_documentText (fun _ h => absurd h List.not_mem_nil) List.nodup_nil
  rw [Settings.load, htext]
  exact (Settings.ofText_of_some hdoc rfl).trans
    (Settings.checked_of_isUsable Settings.isUsable_standard)

/-- What the arguments say instead keeps settings usable, a blank level apart. -/
theorem isUsable_override_iff {o : Options} {s : Settings} (h : s.IsUsable) :
    (o.override s).IsUsable ↔ ¬ o.GivesBlankLevel := by
  have hlevel : (o.override s).IsUsable ↔ Text.isBlankText (o.logLevel.getD s.log.level) = false :=
    ⟨fun ho => ho.level, fun ho => ⟨h.url, h.maxConnections, ho⟩⟩
  rw [hlevel, Options.GivesBlankLevel]
  cases o.logLevel with
  | none => simpa using h.level
  | some level => simp

theorem isUsable_effective_iff {env : Environment} {o : Options} :
    (o.effective env).IsUsable ↔ ¬ o.GivesBlankLevel := by
  rw [Options.effective]
  cases ht : o.loaded env with
  | ok t => exact isUsable_override_iff (isUsable_of_load ht)
  | error fault => exact isUsable_override_iff Settings.isUsable_standard

/-- **The settings that a command uses are valid** exactly if the arguments give no blank level, or
the command is a check of a file that cannot be used. -/
theorem used_settings_valid_iff {env : Environment} {arguments : List String} {o : Options}
    (ho : readOptions (env.get? "PVZ_CONFIG") arguments = .ok o) :
    (∀ s, Uses env arguments s → s.check = .ok ()) ↔
      (o.GivesBlankLevel → o.check = true ∧ ∀ t, o.loaded env ≠ .ok t) := by
  have huse : (∀ s, Uses env arguments s → s.check = .ok ()) ↔
      ((o.check = true → ∃ t, o.loaded env = .ok t) → ¬ o.GivesBlankLevel) := by
    rw [← isUsable_effective_iff]
    simp only [uses_iff ho, Settings.check_eq_ok_iff]
    exact ⟨fun h hloaded => h _ ⟨rfl, hloaded⟩, fun h s ⟨hs, hloaded⟩ => hs ▸ h hloaded⟩
  rw [huse]
  constructor
  · intro h hblank
    by_contra hnot
    refine h (fun hcheck => ?_) hblank
    by_contra hloaded
    exact hnot ⟨hcheck, fun t ht => hloaded ⟨t, ht⟩⟩
  · intro h hloaded hblank
    obtain ⟨hcheck, hnone⟩ := h hblank
    obtain ⟨t, ht⟩ := hloaded hcheck
    exact hnone t ht

theorem used_settings_valid_without_file :
    readOptions none ["--port", "9090"] = .ok { Options.none with port := some 9090 } ∧
    ∀ s, Uses ⟨fun _ => none, fun _ => .error .missing⟩ ["--port", "9090"] s →
      s.check = .ok () := by
  have ho : readOptions none ["--port", "9090"] = .ok { Options.none with port := some 9090 } := rfl
  refine ⟨ho, (used_settings_valid_iff ho).mpr ?_⟩
  rintro ⟨level, hlevel, -⟩
  cases hlevel

/-- A blank level in the arguments is approved of, though no service can run with it. -/
theorem blank_level_approved :
    readOptions none ["--check", "--log-level", " "] =
      .ok { Options.none with logLevel := some " ", check := true } ∧
    ∃ s, Uses ⟨fun _ => none, fun _ => .ok []⟩ ["--check", "--log-level", " "] s ∧
      s.check = .error .blankLevel := by
  have ho : readOptions none ["--check", "--log-level", " "] =
      .ok { Options.none with logLevel := some " ", check := true } := rfl
  refine ⟨ho, _, (uses_iff ho).mpr ⟨rfl, fun _ => ⟨_, load_nil⟩⟩, ?_⟩
  rw [Options.effective, Options.loaded, load_nil]
  rfl

end PickupLedger.CommandLine
