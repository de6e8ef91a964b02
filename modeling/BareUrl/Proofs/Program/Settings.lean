import BareUrl.Program.Run
import BareUrl.Proofs.Config.Choices

/-!
# `BareUrl.Proofs.Program.Settings`: flags and settings files

The program is run twice with the same choices, once as flags (`Choices.arguments`) and once in a
settings file (`Choices.toml`). Both runs have one configuration (`configure_flags`,
`configure_file`), so they are `Alike`: they end in the same way, make the same requests and write
the same files, and they log the same notes (`run_choices`).

How many of the notes are shown is another matter. Logging is set up before the settings file is
read, so only the flags are asked, and a level that is chosen in the file has no effect
(`run_choices_ne`). Where no level is chosen, or the usual one, nothing at all is different.
-/

set_option autoImplicit false

namespace BareUrl.Program

variable {σ : Type}

theorem shownLines_append (v : Verbosity) (notes notes' : List Note) :
    shownLines v (notes ++ notes') = shownLines v notes ++ shownLines v notes' := by
  rw [shownLines, List.filter_append, List.map_append]
  rfl

/-- Two runs that differ in nothing but in how much is shown of what they log. -/
structure Alike (v v' : Verbosity) (o o' : Outcome σ) : Prop where
  exit : o.exit = o'.exit
  surroundings : o.surroundings = o'.surroundings
  network : o.network = o'.network
  said : ∃ notes last, o.said = shownLines v notes ++ last ∧ o'.said = shownLines v' notes ++ last

/-- More that is logged first. -/
theorem Alike.after {v v' : Verbosity} {o o' : Outcome σ} (h : Alike v v' o o')
    (notes : List Note) :
    Alike v v' { o with said := shownLines v notes ++ o.said }
      { o' with said := shownLines v' notes ++ o'.said } where
  exit := h.exit
  surroundings := h.surroundings
  network := h.network
  said := by
    obtain ⟨more, last, hsaid, hsaid'⟩ := h.said
    refine ⟨notes ++ more, last, ?_, ?_⟩
    · rw [shownLines_append, List.append_assoc, ← hsaid]
    · rw [shownLines_append, List.append_assoc, ← hsaid']

variable {c c' : CommandLine} {w : Surroundings}

theorem alike_workWith (r : Resolver σ) (config : Config) (converter : Converter)
    (hinputs : c.inputs = c'.inputs) (w : Surroundings) (s : σ) :
    Alike c.verbosity c'.verbosity (workWith r c config converter w s)
      (workWith r c' config converter w s) := by
  unfold workWith
  rw [hinputs]
  -- The output cannot be opened, or the command is run, and it ends well or stops.
  split
  · exact ⟨rfl, rfl, rfl, [], _, rfl, rfl⟩
  · dsimp only
    split
    · exact ⟨rfl, rfl, rfl, _, [], (List.append_nil _).symm, (List.append_nil _).symm⟩
    · exact ⟨rfl, rfl, rfl, _, _, rfl, rfl⟩

/-- Runs with one configuration and the same inputs. -/
theorem alike_runWith (network : Exchange.Network σ) {config : Config}
    (h : configure c w = .ok config) (h' : configure c' w = .ok config)
    (hinputs : c.inputs = c'.inputs) (s : σ) :
    Alike c.verbosity c'.verbosity (runWith network c w s) (runWith network c' w s) := by
  unfold runWith
  rw [h, h']
  dsimp only
  -- What sets up the work logs as much in both runs, and so does the work.
  split
  · exact ⟨rfl, rfl, rfl, _, [], (List.append_nil _).symm, (List.append_nil _).symm⟩
  · exact (alike_workWith _ config _ hinputs w s).after _

/-! ### Settings files -/

/-- What is in the settings file of a run, if there is one: the file that is chosen, or the usual
one. -/
def settingsIn (w : Surroundings) (file : Option Text) : Option (List UInt8) :=
  w.contents? (file.getD usualConfigFile)

/-- The settings file is merged with what is chosen. -/
theorem configure_of_settings {bytes : List UInt8} {file : Config}
    (hbytes : settingsIn w c.configFile = some bytes) (hfile : Config.ofBytes bytes = .ok file) :
    configure c w = .ok (c.config.merge file) := by
  have hread : ∀ path, w.contents? path = some bytes → readConfig w path = .ok file := by
    intro path hpath
    simp only [readConfig, hpath, hfile]
  unfold configure
  cases hchosen : c.configFile with
  | some path =>
      rw [hchosen] at hbytes
      simp only [hread path hbytes]
  | none =>
      rw [hchosen] at hbytes
      have hthere : (w.contents? usualConfigFile).isSome = true :=
        Option.isSome_iff_exists.2 ⟨bytes, hbytes⟩
      simp only [hthere, hread usualConfigFile hbytes, if_true]

/-- Without a settings file, what is chosen is the configuration. -/
theorem configure_of_no_settings (hchosen : c.configFile = none)
    (hnone : settingsIn w none = none) : configure c w = .ok c.config := by
  have hmissing : (w.contents? usualConfigFile).isSome = false := by
    show (settingsIn w none).isSome = false
    rw [hnone]
    rfl
  unfold configure
  simp only [hchosen, hmissing, Bool.false_eq_true, if_false]

/-- No settings file is in effect, or an empty one. -/
def Silent (w : Surroundings) (file : Option Text) : Prop :=
  settingsIn w file = some [] ∨ file = none ∧ settingsIn w none = none

theorem ofBytes_nil : Config.ofBytes [] = .ok Config.usual :=
  Choices.ofBytes_toml Choices.expressible_nothing

variable {x : Choices}

/-- What is chosen with flags is the configuration, if no settings file says anything. -/
theorem configure_flags (hx : x.Expressible) {file : Option Text} (h : Silent w file)
    (inputs : List Text) :
    configure ((x.said file).withInputs inputs) w = .ok x.effective := by
  rcases h with h | ⟨rfl, h⟩
  · rw [configure_of_settings h ofBytes_nil, x.config_said, Choices.merge_usual hx]
  · rw [configure_of_no_settings rfl h, x.config_said]

/-- What is chosen in a settings file is the configuration, if no flag says anything. -/
theorem configure_file (hx : x.Expressible) {file : Option Text}
    (h : settingsIn w file = some (Text.Utf8.encode x.toml)) (inputs : List Text) :
    configure ((Choices.nothing.said file).withInputs inputs) w = .ok x.effective := by
  rw [configure_of_settings h (Choices.ofBytes_toml hx), Choices.config_said]
  exact congrArg Except.ok (Choices.usual_merge hx)

/-- What is chosen with flags and what is chosen in a settings file come to the same run, up to how
much is shown of what is logged: the flags show what is chosen, the file shows the usual level. The
inputs are the same, and what else there is in files and streams is arbitrary. -/
theorem run_choices (network : Exchange.Network σ) (hx : x.Expressible) (inputs : List Text)
    {plain chosen : Option Text} (hplain : plain ≠ some []) (hchosen : chosen ≠ some [])
    (hsilent : Silent w plain) (hfile : settingsIn w chosen = some (Text.Utf8.encode x.toml))
    (s : σ) :
    let v := x.verbosity.getD .usual
    let flags := run network (x.arguments plain inputs) w s
    let file := run network (Choices.nothing.arguments chosen inputs) w s
    flags.exit = file.exit ∧ flags.surroundings = file.surroundings ∧
    flags.network = file.network ∧
    (∃ notes last, flags.said = shownLines v notes ++ last ∧
      file.said = shownLines .usual notes ++ last) ∧
    (v = .usual → flags.said = file.said) := by
  intro v flags file
  have halike : Alike v .usual flags file := by
    show Alike v .usual (run network (x.arguments plain inputs) w s)
      (run network (Choices.nothing.arguments chosen inputs) w s)
    unfold run
    rw [Choices.read_arguments hx hplain,
      Choices.read_arguments Choices.expressible_nothing hchosen]
    -- Without inputs both runs end before they look for settings.
    by_cases hinputs : inputs = []
    · rw [if_pos hinputs, if_pos hinputs]
      exact ⟨rfl, rfl, rfl, [], _, rfl, rfl⟩
    · have hruns := alike_runWith network (configure_flags hx hsilent inputs)
        (configure_file hx hfile inputs) rfl s
      rw [Choices.verbosity_said, Choices.verbosity_said] at hruns
      rw [if_neg hinputs, if_neg hinputs]
      exact hruns
  refine ⟨halike.exit, halike.surroundings, halike.network, halike.said, fun hv => ?_⟩
  obtain ⟨notes, last, hflags, hfile⟩ := halike.said
  rw [hflags, hfile, hv]

/-- All ten settings at once, with two headers and two protocols. -/
theorem run_choices_all :
    let x : Choices := ⟨some ⟨2⟩, some "out".toList, some "_".toList,
      some ["https".toList, "http".toList], some ["p".toList], true, some 3, some "me".toList,
      [("X-Key".toList, "a \"b\"".toList), ("X-Id".toList, "1".toList)], true⟩
    let page := "_https://youtu.be/x <p>_http:bb</p>".toList
    let w : Surroundings := ⟨[("a".toList, Text.Utf8.encode page),
      ("s.toml".toList, Text.Utf8.encode x.toml)], [], [], []⟩
    let nobody : Exchange.Network Unit := fun _ _ => (.silence, ())
    let flags := run nobody (x.arguments none ["a".toList]) w ()
    let file := run nobody (Choices.nothing.arguments (some "s.toml".toList) ["a".toList]) w ()
    x.Expressible ∧ Silent w none ∧
      settingsIn w (some "s.toml".toList) = some (Text.Utf8.encode x.toml) ∧
      flags.exit = file.exit ∧ flags.surroundings = file.surroundings ∧
      file.exit = .success ∧ file.surroundings.contents? "out".toList
        = some (Text.Utf8.encode "https://youtu.be/x [embeddable (YouTube)]\n".toList) := by
  intro x page w nobody flags file
  have hx : x.Expressible := by
    have hverbosity : ∀ v, x.verbosity = some v → -2 ≤ v.steps ∧ v.steps ≤ 3 := by
      rintro _ ⟨⟩
      decide
    have hprotocols : ∀ ps, x.protocols = some ps → ps ≠ [] ∧ ∀ p ∈ ps, ',' ∉ p := by
      rintro _ ⟨⟩
      refine ⟨List.cons_ne_nil _ _, List.forall_mem_cons.2 ⟨by decide, ?_⟩⟩
      exact List.forall_mem_singleton.2 (by decide)
    have htimeout : ∀ n, x.timeout = some n → n ≤ Text.Decimal.limit := by
      rintro _ ⟨⟩
      decide
    exact ⟨hverbosity, by decide, hprotocols, by decide, htimeout, by decide +kernel, by decide⟩
  have hsilent : Silent w none := .inr ⟨rfl, by decide +kernel⟩
  have hfile : settingsIn w (some "s.toml".toList) = some (Text.Utf8.encode x.toml) := by
    decide +kernel
  have hplain : (none : Option Text) ≠ some [] := (Option.some_ne_none []).symm
  obtain ⟨hexit, hsurroundings, -⟩ := run_choices nobody hx ["a".toList] hplain (by decide)
    hsilent hfile ()
  exact ⟨hx, hsilent, hfile, hexit, hsurroundings, by decide +kernel, by decide +kernel⟩

/-- How much is logged is not asked of the settings file. The flag shows what the program does, the
setting does not. -/
theorem run_choices_ne :
    let settings := "verbose = \"debug\"\noffline = true\n".toList
    let w : Surroundings := ⟨[("a".toList, []), ("s.toml".toList, Text.Utf8.encode settings)],
      [], [], []⟩
    let nobody : Exchange.Network Unit := fun _ _ => (.silence, ())
    let flags := run nobody (["-vv", "--offline", "a"].map String.toList) w ()
    let file := run nobody (["--config", "s.toml", "a"].map String.toList) w ()
    (flags.exit, flags.said) = (.success,
      ["[DEBUG] Offline mode: matching URL schemes of 4 providers".toList,
        "[INFO] Converted a".toList]) ∧
      (file.exit, file.said) = (.success, []) := by
  decide +kernel

end BareUrl.Program
