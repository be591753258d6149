import DashboardHarness.Cli.Run
import DashboardHarness.Proofs.FlagReading
import DashboardHarness.Proofs.IntegerText

/-!
# Settings from the environment, through the flags

A run of the program first sets the settings flags from their environment variables, each value
read by the strict reader of its flag's type, and a command later loads the settings from the
texts of the flags that were set. Loading straight from the environment reads the same variables
leniently instead, and passes over the empty ones. The two agree when every variable is unset or
holds a non-empty text that its flag reads: a value read strictly reads the same leniently, and
the text a flag writes for its value reads back leniently as that value. A value that the flag
refuses stops the run before anything is loaded, even where loading from the environment would
take it, as it takes a duration without a unit for nanoseconds. The flags that a login or probe
run then reads from its arguments sit on top of those the environment set; arguments that name
no settings flag leave the texts of the settings as the environment set them.

Main results:

- `loaded_shown`: a value read strictly loads, from the text its flag writes, as its own text does.
- `applyEnvironment_get`: once the environment is applied, the flag of each variable holds the
  value read from the variable.
- `load_congr`: loading reads each text only through the value it takes from it.
- `load_applied`: loading from the flags the environment set gives the settings of the
  environment, when each variable is unset or read by its flag.
- `run_eq_execute`: a run whose command is found and whose flags are read runs the command.
- `login_loads_environment`: a login or probe run whose variables are each unset or read by
  their flag, and whose arguments name no settings flag, fails no earlier than loading from the
  environment and loads the same settings.
- `login_refuses_unitless_timeout`: a timeout without a unit loads from the environment but
  stops the login run.
-/

namespace DashboardHarness.Cli

open Text

/-! ## Lenient readings of strict values -/

theorem lenientBool_of_readBool {s : String} {b : Bool} (h : readBool s = .ok b) :
    lenientBool s = b := by
  simp [lenientBool, h]

/-- A duration read strictly is read the same leniently: a text without a unit letter that reads
strictly is a zero, which still reads as zero with nanoseconds appended. -/
theorem lenientDuration_of_readDuration {s : String} {d : Int} (h : readDuration s = .ok d) :
    lenientDuration s = d := by
  unfold lenientDuration
  by_cases hu : s.toList.any (fun c => "nsuµmh".toList.contains c) = true
  · simp only [hu, ↓reduceIte, h]
  · obtain ⟨rfl, hs⟩ := readDuration_unitless h (by simpa using hu)
    rcases hs with rfl | rfl | rfl <;> decide

theorem zeroFractionStart_of_no_point {l : List Char} (hl : '.' ∉ l) (foundZero : Bool) :
    zeroFractionStart foundZero l = none := by
  induction l generalizing foundZero with
  | nil => rfl
  | cons c l ih =>
    have hc : c ≠ '.' := fun h => hl (h ▸ List.mem_cons_self)
    have hl' : '.' ∉ l := fun h => hl (List.mem_cons_of_mem _ h)
    by_cases hz : c = '0'
    · simp [zeroFractionStart, hz, ih hl']
    · simp [zeroFractionStart, hc, hz]

theorem trimZeroFraction_of_no_point {s : String} (hs : '.' ∉ s.toList) :
    trimZeroFraction s = s := by
  unfold trimZeroFraction
  rw [zeroFractionStart_of_no_point (by simpa using hs) false]

/-- An integer read strictly has no point, so no fraction is cut and it is read the same
leniently. -/
theorem lenientInt_of_readInt {s : String} {n : Int} (h : readInt s = .ok n) :
    lenientInt s = n := by
  simp [lenientInt, trimZeroFraction_of_no_point (readInt_no_point h), h]

/-! ## What loading takes from the text of a flag -/

/-- The value that loading takes from the text of a setting whose flag has a type: a text as
it is, and a truth value, duration or integer read leniently. No setting is a fraction. -/
def FlagType.loaded : FlagType → String → FlagValue
  | .text | .decimal => .text
  | .switch => .switch ∘ lenientBool
  | .duration => .duration ∘ lenientDuration
  | .integer => .integer ∘ lenientInt

/-- A value read strictly from a text loads from the text its flag writes for it as it does
from the text itself. -/
theorem loaded_shown {t : FlagType} {s : String} {v : FlagValue} (h : t.read s = .ok v)
    (ht : t ≠ .decimal) : t.loaded v.shown = t.loaded s := by
  cases t with
  | text =>
    cases h
    rfl
  | switch =>
    cases hb : readBool s with
    | error e => simp [FlagType.read, hb] at h
    | ok b =>
      simp only [FlagType.read, hb, Except.ok.injEq] at h
      subst h
      cases b <;> simp [FlagType.loaded, FlagValue.shown, lenientBool_of_readBool hb] <;> rfl
  | duration =>
    cases hd : readDuration s with
    | error e => simp [FlagType.read, hd] at h
    | ok d =>
      simp only [FlagType.read, hd, Except.ok.injEq] at h
      subst h
      obtain ⟨hlo, hhi⟩ := readDuration_range hd
      simp only [FlagType.loaded, FlagValue.shown, Function.comp_apply,
        lenientDuration_of_readDuration hd,
        lenientDuration_of_readDuration (readDuration_writeDuration hlo hhi)]
  | integer =>
    cases hn : readInt s with
    | error e => simp [FlagType.read, hn] at h
    | ok n =>
      simp only [FlagType.read, hn, Except.ok.injEq] at h
      subst h
      obtain ⟨hlo, hhi⟩ := readInt_range hn
      simp only [FlagType.loaded, FlagValue.shown, Function.comp_apply, lenientInt_of_readInt hn,
        lenientInt_of_readInt (readInt_toString hlo hhi)]
  | decimal => exact absurd rfl ht

/-! ## Applying the environment -/

variable {env : String → Option String}

/-- Flags that no variable names keep their values. -/
theorem applyEnvironment_get_of_not_named :
    ∀ {pairs : List (String × String)} {set₀ set : Setting},
      applyEnvironment env pairs set₀ = .ok set → ∀ {name : String}, (∀ p ∈ pairs, p.2 ≠ name) →
      Keyed.get? name set = Keyed.get? name set₀
  | [], _, _, h, _, _ => by
    cases h
    rfl
  | (key, flagName) :: rest, set₀, set, h, name, hname => by
    have hrest : ∀ p ∈ rest, p.2 ≠ name := fun p hp => hname p (List.mem_cons_of_mem _ hp)
    unfold applyEnvironment at h
    split at h
    · rename_i value f _ hf
      split at h
      · rename_i set₁ hset
        obtain ⟨v, -, rfl⟩ := setFlag_eq_ok hset
        have hne : f.name ≠ name := by
          rw [findFlag_name hf]
          exact hname _ List.mem_cons_self
        rw [applyEnvironment_get_of_not_named h hrest, Keyed.get_set_ne hne]
      · cases h
    · exact applyEnvironment_get_of_not_named h hrest

/-- After the environment is applied, the flag of a variable holds the value read from the
variable when it is set, and nothing when it is not, as long as no other variable names the same
flag. -/
theorem applyEnvironment_get :
    ∀ {pairs : List (String × String)} {set₀ set : Setting},
      applyEnvironment env pairs set₀ = .ok set → (pairs.map Prod.snd).Nodup →
      ∀ {key name : String} {f : Flag}, (key, name) ∈ pairs → findFlag settingsFlags name = some f →
      Keyed.get? name set₀ = none → Keyed.get? name set = (env key).bind fun s => (f.read s).toOption
  | [], _, _, _, _, _, _, _, hp, _, _ => absurd hp List.not_mem_nil
  | (key', name') :: rest, set₀, set, h, hnodup, key, name, f, hp, hf, hnone => by
    obtain ⟨hfresh, hnodup⟩ := List.nodup_cons.mp hnodup
    unfold applyEnvironment at h
    rcases List.mem_cons.mp hp with hhead | hrest
    · -- the variable is this one, and no later one names its flag
      obtain ⟨rfl, rfl⟩ := Prod.mk.inj hhead
      have hlater : ∀ p ∈ rest, p.2 ≠ name := fun p hp' hname =>
        hfresh (List.mem_map.mpr ⟨p, hp', hname⟩)
      split at h
      · rename_i value f' hvalue hf'
        obtain rfl : f' = f := Option.some.inj (hf'.symm.trans hf)
        split at h
        · rename_i set₁ hset
          obtain ⟨v, hv, rfl⟩ := setFlag_eq_ok hset
          rw [applyEnvironment_get_of_not_named h hlater, findFlag_name hf, Keyed.get_set_self]
          simp [hvalue, hv, Except.toOption]
        · cases h
      · rename_i hunset
        have hnone' : env key = none := by
          cases hv : env key with
          | none => rfl
          | some value => exact absurd (hunset value f hv hf) id
        rw [applyEnvironment_get_of_not_named h hlater, hnone, hnone']
        rfl
    · -- another variable: it sets a flag of another name, if any
      have hne : name' ≠ name := fun hname =>
        hfresh (List.mem_map.mpr ⟨(key, name), hrest, hname.symm ▸ rfl⟩)
      split at h
      · rename_i value f' _ hf'
        split at h
        · rename_i set₁ hset
          obtain ⟨v, -, rfl⟩ := setFlag_eq_ok hset
          have hne' : f'.name ≠ name := by rw [findFlag_name hf']; exact hne
          exact applyEnvironment_get h hnodup hrest hf (by rw [Keyed.get_set_ne hne', hnone])
        · cases h
      · exact applyEnvironment_get h hnodup hrest hf hnone

/-- Applying the environment succeeds when the flag of every set variable reads its value. -/
theorem applyEnvironment_ok :
    ∀ {pairs : List (String × String)}, (∀ p ∈ pairs, ∀ s f, env p.1 = some s →
      findFlag settingsFlags p.2 = some f → ∃ v, f.read s = .ok v) →
      ∀ set₀, ∃ set, applyEnvironment env pairs set₀ = .ok set
  | [], _, set₀ => ⟨set₀, rfl⟩
  | (key, name) :: rest, hreads, set₀ => by
    have hrest := fun p hp => hreads p (List.mem_cons_of_mem _ hp)
    unfold applyEnvironment
    split
    · rename_i value f hvalue hf
      obtain ⟨v, hv⟩ := hreads _ List.mem_cons_self value f hvalue hf
      simp only [setFlag, hv]
      exact applyEnvironment_ok hrest _
    · exact applyEnvironment_ok hrest set₀

/-! ## Loading the settings -/

theorem find_environmentFlags :
    ∀ p ∈ environmentFlags, environmentFlags.find? (·.1 == p.1) = some p := by
  decide

theorem settingText_eq (set : Setting) {key name : String} (hp : (key, name) ∈ environmentFlags) :
    settingText set key = (Keyed.get? name set).map FlagValue.shown := by
  simp [settingText, find_environmentFlags _ hp]

/-- Texts that load alike as values of a constructor load alike. -/
theorem map_eq_of_loaded {α : Type} {o₁ o₂ : Option String} {g : String → α} {c : α → FlagValue}
    (hc : Function.Injective c) (h : o₁.map (c ∘ g) = o₂.map (c ∘ g)) : o₁.map g = o₂.map g := by
  rw [← Option.map_map, ← Option.map_map] at h
  exact Option.map_injective hc h

/-- Loading reads the text of each setting only through the value it loads from it. -/
theorem load_congr {t₁ t₂ : String → Option String}
    (h : ∀ p ∈ environmentFlags, ∀ t, (findFlag settingsFlags p.2).map Flag.type = some t →
      (t₁ p.1).map t.loaded = (t₂ p.1).map t.loaded) :
    Settings.load t₁ = Settings.load t₂ := by
  have htext : ∀ key name, (key, name) ∈ environmentFlags →
      (findFlag settingsFlags name).map Flag.type = some .text → t₁ key = t₂ key :=
    fun key name hp ht => by
      simpa using map_eq_of_loaded (g := id) (fun _ _ => FlagValue.text.inj) (h _ hp _ ht)
  have hswitch := map_eq_of_loaded (fun _ _ => FlagValue.switch.inj)
    (h ("TEST_HEADLESS", "headless") (by decide) .switch (by decide))
  have hactions := map_eq_of_loaded (fun _ _ => FlagValue.duration.inj)
    (h ("TEST_ACTION_TIMEOUT", "action-timeout") (by decide) .duration (by decide))
  have hidle := map_eq_of_loaded (fun _ _ => FlagValue.duration.inj)
    (h ("TEST_NETWORK_IDLE_TIMEOUT", "network-idle-timeout") (by decide) .duration (by decide))
  have hpages := map_eq_of_loaded (fun _ _ => FlagValue.integer.inj)
    (h ("TEST_MAX_PAGES", "max-pages") (by decide) .integer (by decide))
  have hurl := htext "TEST_URL" "url" (by decide) (by decide)
  have huser := htext "TEST_USERNAME" "username" (by decide) (by decide)
  have hpassword := htext "TEST_PASSWORD" "password" (by decide) (by decide)
  have hwfs := htext "TEST_WFS" "wfs" (by decide) (by decide)
  have hdriver := htext "TEST_DRIVER" "driver" (by decide) (by decide)
  have hchrome := htext "CHROME_PATH" "chrome-path" (by decide) (by decide)
  unfold Settings.load
  dsimp only
  rw [hswitch, hactions, hidle, hpages, hurl, huser, hpassword, hwfs, hdriver, hchrome]

/-! ## A login run loads the settings of the environment -/

/-- Whether every variable of a settings flag is unset or holds a non-empty text that its flag
reads. -/
def environmentReadable (env : String → Option String) : Bool :=
  environmentFlags.all fun (key, flagName) =>
    match env key, findFlag settingsFlags flagName with
    | some s, some f => !s.isEmpty && (f.read s).isOk
    | _, _ => true

theorem environmentReadable_spec (h : environmentReadable env = true) {key name s : String}
    {f : Flag} (hp : (key, name) ∈ environmentFlags) (hs : env key = some s)
    (hf : findFlag settingsFlags name = some f) : s ≠ "" ∧ ∃ v, f.read s = .ok v := by
  have hpair := List.all_eq_true.mp h _ hp
  simp only [hs, hf, Bool.and_eq_true, Bool.not_eq_true', String.isEmpty_eq_false_iff] at hpair
  refine ⟨hpair.1, ?_⟩
  cases hv : f.read s with
  | ok v => exact ⟨v, rfl⟩
  | error e => simp [hv, Except.isOk, Except.toBool] at hpair

theorem Flag.read_eq_ok {f : Flag} {s : String} {v : FlagValue} (h : f.read s = .ok v) :
    f.type.read s = .ok v := by
  unfold Flag.read at h
  split at h
  · rename_i v' hv
    cases h
    exact hv
  · cases h

theorem settingsFlags_not_decimal :
    ∀ p ∈ environmentFlags, (findFlag settingsFlags p.2).all (·.type != .decimal) := by
  decide

/-- Loading from the flags that the environment set gives the settings that loading from the
environment gives, when every variable is unset or holds a non-empty text its flag reads. -/
theorem load_applied (h : environmentReadable env = true) {set : Setting}
    (hset : applyEnvironment env environmentFlags [] = .ok set) :
    Settings.load (settingText set) = Settings.fromEnvironment env := by
  unfold Settings.fromEnvironment
  apply load_congr
  rintro ⟨key, name⟩ hp t ht
  obtain ⟨f, hf, rfl⟩ := Option.map_eq_some_iff.mp ht
  rw [settingText_eq set hp, applyEnvironment_get hset (by decide) hp hf rfl]
  cases hs : env key with
  | none => simp
  | some s =>
    obtain ⟨hne, v, hv⟩ := environmentReadable_spec h hp hs hf
    have hdecimal : f.type ≠ .decimal := by
      simpa [hf] using settingsFlags_not_decimal _ hp
    simp [hv, hne, Except.toOption, loaded_shown (Flag.read_eq_ok hv) hdecimal]

/-! ## Reading flags that name no setting -/

/-- Whether an argument, read as a flag, names no settings flag: read as a long flag it names
none, and read as a shorthand group it holds the shorthand letter of none. -/
def namesNoSetting (s : String) : Bool :=
  if s.startsWith "--" then (findFlag settingsFlags (longFlagName s)).isNone
  else if s.startsWith "-" then
    (s.toList.drop 1).all fun c => (findShorthand settingsFlags c).isNone
  else true

example : namesNoSetting "--every=5m" && namesNoSetting "-h" && namesNoSetting "Sales" &&
    !namesNoSetting "--url" && !namesNoSetting "-hv" := by
  decide +kernel

theorem findShorthand_spec {flags : List Flag} {c : Char} {g : Flag}
    (h : findShorthand flags c = some g) : g ∈ flags ∧ g.shorthand = some c :=
  ⟨List.mem_of_find?_eq_some h, by simpa using List.find?_some h⟩

theorem environmentFlags_settings :
    ∀ name ∈ environmentFlags.map Prod.snd, (findFlag settingsFlags name).isSome := by
  decide

/-- The flags of `login` and `probe` that carry the name of a setting have no shorthand letter
but that of a settings flag. -/
theorem shorthand_of_setting_name :
    ∀ c ∈ [Command.login, .probe], ∀ g ∈ flagsOf c, g.name ∈ environmentFlags.map Prod.snd →
      g.shorthand.all fun d => (findShorthand settingsFlags d).isSome := by
  decide

/-- An argument that names no settings flag sets none of the flags whose texts are loaded. -/
theorem leavesKeys_of_namesNoSetting {c : Command} (hc : c ∈ [Command.login, .probe])
    {s : String} (hs : namesNoSetting s = true) :
    LeavesKeys (flagsOf c) (· ∈ environmentFlags.map Prod.snd) s where
  long hlong hk := by
    have hnone : findFlag settingsFlags (longFlagName s) = none := by
      simpa [namesNoSetting, hlong] using hs
    simpa [hnone] using environmentFlags_settings _ hk
  short hdash hlong d hd g hg hk := by
    obtain ⟨hmem, hshort⟩ := findShorthand_spec hg
    have hsome : (findShorthand settingsFlags d).isSome := by
      simpa [hshort] using shorthand_of_setting_name c hc g hmem hk
    have hall : ∀ e ∈ s.toList.drop 1, (findShorthand settingsFlags e).isNone := by
      simpa [namesNoSetting, hlong, hdash] using hs
    have hnone : findShorthand settingsFlags d = none := Option.isNone_iff_eq_none.mp (hall d hd)
    simp [hnone] at hsome

/-- The texts of the settings depend only on the flags of the settings. -/
theorem settingText_congr {set set' : Setting}
    (h : ∀ k ∈ environmentFlags.map Prod.snd, Keyed.get? k set' = Keyed.get? k set) :
    settingText set' = settingText set := by
  funext key
  unfold settingText
  split
  · rename_i flagName hfind
    rw [h flagName (List.mem_map.mpr ⟨_, List.mem_of_find?_eq_some hfind, rfl⟩)]
  · rfl

/-- A run whose command is found and whose flags are read runs the command with them, unless
they ask for help. -/
theorem run_eq_execute {args rest : List String} {c : Command} {set : Setting} {r : Reading}
    (hset : applyEnvironment env environmentFlags [] = .ok set)
    (hfind : findCommand true args = .ok (c, rest)) (hrequest : c ≠ .request)
    (hrunnable : c.runnable = true)
    (hread : readFlags (flagsOf c) (rest.length + 1) ⟨set, []⟩ rest = .ok r)
    (hhelp : helpAsked r.setting = false) :
    run env args = execute (Fixture.debugMode (env "GIN_MODE")) c r.setting r.args := by
  unfold run
  simp only [hset]
  rw [hfind]
  split
  · rename_i heq
    cases heq
  · rename_i heq
    cases heq
    exact absurd rfl hrequest
  · rename_i heq
    cases heq
    simp [hread, hhelp, hrunnable]

/-! ## A login or probe run loads the settings of the environment -/

/-- A login or probe run in an environment whose settings variables are each unset or hold a
non-empty text that their flag reads applies the environment without failing, and the settings
it loads from its flags are those that loading from the environment gives. A bare login starts
the browser from the flags the environment set. When the arguments after the command name no
settings flag, the flags read from them leave the texts of the settings as the environment set
them, and unless they ask for help the run goes on to the command with those flags. -/
theorem login_loads_environment (h : environmentReadable env = true) :
    ∃ set, applyEnvironment env environmentFlags [] = .ok set ∧
      Settings.load (settingText set) = Settings.fromEnvironment env ∧
      run env ["login"] = startBrowser set ∧
      ∀ c ∈ [Command.login, .probe], ∀ args, (∀ w ∈ args, namesNoSetting w = true) →
        ∀ r, readFlags (flagsOf c) (args.length + 1) ⟨set, []⟩ args = .ok r →
          Settings.load (settingText r.setting) = Settings.fromEnvironment env ∧
          (helpAsked r.setting = false →
            run env (c.name :: args) =
              execute (Fixture.debugMode (env "GIN_MODE")) c r.setting r.args) := by
  obtain ⟨set, hset⟩ : ∃ set, applyEnvironment env environmentFlags [] = .ok set :=
    applyEnvironment_ok (fun p hp s f hs hf => (environmentReadable_spec h hp hs hf).2) []
  have hload := load_applied h hset
  refine ⟨set, hset, hload, ?_, ?_⟩
  · have hhelp : helpAsked set = false := by
      have hnone : Keyed.get? "help" set = none :=
        applyEnvironment_get_of_not_named hset (by decide)
      simp [helpAsked, hnone]
    have hrun := run_eq_execute hset (findCommand_leaf (c := .login) (by simp) [])
      (by decide) rfl (r := ⟨set, []⟩) rfl hhelp
    simpa [execute, rejectArguments, Command.name] using hrun
  · intro c hc args hargs r hread
    have hkeep := readFlags_get (fun w hw => leavesKeys_of_namesNoSetting hc (hargs w hw)) hread
    have htext : settingText r.setting = settingText set := settingText_congr hkeep
    refine ⟨htext ▸ hload, fun hhelp => ?_⟩
    have hcommands : ∀ c ∈ [Command.login, .probe],
        c ∈ [Command.login, .probe, .fixture] ∧ c ≠ .request ∧ c.runnable = true := by
      decide
    obtain ⟨hleaf, hrequest, hrunnable⟩ := hcommands c hc
    exact run_eq_execute hset (findCommand_leaf hleaf args) hrequest hrunnable hread hhelp

/-- The environment of a run that sets the page count in hexadecimal and the action timeout in
minutes and seconds. -/
def hexadecimalPagesEnvironment (key : String) : Option String :=
  List.lookup key [("TEST_MAX_PAGES", "0x20"), ("TEST_ACTION_TIMEOUT", "1m30s")]

theorem login_loads_hexadecimal_pages :
    environmentReadable hexadecimalPagesEnvironment = true ∧
      ∃ set, applyEnvironment hexadecimalPagesEnvironment environmentFlags [] = .ok set ∧
        Settings.load (settingText set) = Settings.fromEnvironment hexadecimalPagesEnvironment ∧
        run hexadecimalPagesEnvironment ["login"] = startBrowser set ∧
        ∀ c ∈ [Command.login, .probe], ∀ args, (∀ w ∈ args, namesNoSetting w = true) →
          ∀ r, readFlags (flagsOf c) (args.length + 1) ⟨set, []⟩ args = .ok r →
            Settings.load (settingText r.setting) =
                Settings.fromEnvironment hexadecimalPagesEnvironment ∧
              (helpAsked r.setting = false →
                run hexadecimalPagesEnvironment (c.name :: args) =
                  execute (Fixture.debugMode (hexadecimalPagesEnvironment "GIN_MODE")) c
                    r.setting r.args) :=
  ⟨by decide, login_loads_environment (by decide)⟩

/-- The environment of a run that names an unsupported driver and gives the action timeout
without a unit. -/
def unitlessTimeoutEnvironment (key : String) : Option String :=
  List.lookup key [("TEST_DRIVER", "nope"), ("TEST_ACTION_TIMEOUT", "5")]

/-- A timeout without a unit loads from the environment as nanoseconds, and the settings loaded
name a driver that the launch would refuse; the login run instead stops while it applies the
environment, since the strict reader of the flag needs a unit. -/
theorem login_refuses_unitless_timeout :
    environmentReadable unitlessTimeoutEnvironment = false ∧
      (∃ s, Settings.fromEnvironment unitlessTimeoutEnvironment = .ok s ∧ s.actionTimeout = 5 ∧
        s.driverName = "nope") ∧
      run unitlessTimeoutEnvironment ["login"] =
        failed ("failed to configure command: failed to apply environment configuration: " ++
          "invalid argument \"5\" for \"--action-timeout\" flag: " ++
          "time: missing unit in duration \"5\"") :=
  ⟨by decide, ⟨_, rfl, rfl, rfl⟩, rfl⟩

end DashboardHarness.Cli
