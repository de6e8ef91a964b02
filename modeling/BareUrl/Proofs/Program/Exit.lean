import BareUrl.Proofs.Exchange.Client
import BareUrl.Proofs.Program.OutputFile

/-!
# `BareUrl.Proofs.Program.Exit`: what the exit code tells

A run takes one of four courses (`course_run`): it answers a question about the program, it finds
that its command line makes no sense, it finds that its configuration makes none, or it gets to
work. Only a run that works can change anything or send a request, and it has a converter by then.

`run_exit` reads that off the exit code. With 2 or 3 everything is as it was before the run. With 1
the work could not be done for want of the output or of an input, and the last line that is said
tells which. That an input is missing when it is its turn means that it was missing from the start,
as no step of a run makes a file go away (`grows_stepped`).
-/

set_option autoImplicit false

namespace BareUrl.Program

variable {σ : Type} {w w' w'' : Surroundings} {i : Input}

/-! ### Nothing goes away -/

namespace Surroundings

/-- All that can be read at first can be read afterwards. -/
def Grows (w w' : Surroundings) : Prop := ∀ i, w.readable i = true → w'.readable i = true

theorem Grows.refl (w : Surroundings) : Grows w w := fun _ h => h

theorem Grows.trans (h : Grows w w') (h' : Grows w' w'') : Grows w w'' :=
  fun i hi => h' i (h i hi)

/-- What cannot be read afterwards could not be read at first. -/
theorem Grows.not_readable (h : Grows w w') (hi : w'.readable i = false) :
    w.readable i = false := by
  rw [← Bool.not_eq_true] at hi ⊢
  exact fun hw => hi (h i hw)

theorem grows_behind (w : Surroundings) (i : Input) : Grows w (w.behind i) := by
  intro i' h
  rwa [readable_behind]

theorem grows_withFile (w : Surroundings) (path : Text) (bytes : List UInt8) :
    Grows w (w.withFile path bytes) := by
  intro i h
  cases i with
  | standardInput => rfl
  | file path' =>
      -- It is the file that is written to, or another one, which stays as it is.
      rw [readable, contents?_withFile]
      split
      · rfl
      · exact h

theorem grows_append (w : Surroundings) (target : Target) (bytes : List UInt8) :
    Grows w (w.append target bytes) := by
  cases target with
  | standardOutput =>
      intro i h
      cases i <;> exact h
  | file path => exact grows_withFile w path _

end Surroundings

open Surroundings (Grows)

theorem Sink.grows_write (k : Sink) (bytes : List UInt8) (w : Surroundings) :
    Grows w (k.write bytes w).2 := by
  have hflush : Grows w (k.flush w).2 := Surroundings.grows_append w _ _
  rw [write]
  split
  · exact .refl w
  · -- What is collected may have to go out first, and what is new may go out at once.
    by_cases hfull : capacity < k.pending.length + bytes.length
    · rw [if_pos hfull]
      show Grows w (if capacity ≤ bytes.length then _ else _ : Sink × Surroundings).2
      split
      · exact hflush.trans (Surroundings.grows_append _ _ _)
      · exact hflush
    · rw [if_neg hfull]
      show Grows w (if capacity ≤ bytes.length then _ else _ : Sink × Surroundings).2
      split
      · exact Surroundings.grows_append _ _ _
      · exact .refl w

theorem Sink.grows_open? {target : Target} {k : Sink} (h : open? target w = some (k, w')) :
    Grows w w' := by
  cases target with
  | standardOutput =>
      obtain ⟨-, rfl⟩ := Prod.mk.inj (Option.some.inj h)
      exact .refl w
  | file path =>
      rw [open?] at h
      split at h
      · obtain ⟨-, rfl⟩ := Prod.mk.inj (Option.some.inj h)
        exact Surroundings.grows_withFile w path []
      · cases h

namespace Command

variable {step : Input → Text → σ → Traced σ Text} {inputs : List Input} {s : Scene σ}

theorem grows_stepped (step : Input → Text → σ → Traced σ Text) (i : Input) (s : Scene σ) :
    Grows s.surroundings (stepped step i s).surroundings :=
  (Surroundings.grows_behind _ i).trans (Sink.grows_write _ _ _)

/-- A command that stops does so at an input that could not be read from the start. -/
theorem exists_of_eachInput_error {message : Text}
    (h : (eachInput step inputs s).result = .error message) :
    ∃ i ∈ inputs, s.surroundings.readable i = false ∧ message = Input.unreadable i.text := by
  induction inputs generalizing s with
  | nil => cases h
  | cons i rest ih =>
      cases hi : s.surroundings.readable i with
      | false =>
          rw [eachInput_of_not_readable hi] at h
          exact ⟨i, List.mem_cons_self, hi, (Except.error.inj h).symm⟩
      | true =>
          rw [(eachInput_of_readable step hi rest).1] at h
          obtain ⟨i', hmem, hread, hmessage⟩ := ih h
          exact ⟨i', List.mem_cons_of_mem i hmem, (grows_stepped step i s).not_readable hread,
            hmessage⟩

end Command

/-! ### Work that stops -/

/-- The work could not be done: there is no output, or an input is missing. What is said last tells
which. -/
def Stopped (c : CommandLine) (config : Config) (w : Surroundings) (said : List Text) : Prop :=
  (∃ path, config.output = some path ∧ w.canCreate path = false ∧
    said.getLast? = some (failureLine "Cannot open output".toList)) ∨
  ∃ i ∈ c.inputs, w.readable i = false ∧
    said.getLast? = some (failureLine (Input.unreadable i.text))

variable {c : CommandLine} {config : Config}

theorem Stopped.after {said : List Text} (h : Stopped c config w said) (lines : List Text) :
    Stopped c config w (lines ++ said) := by
  have hlast {line : Text} (hsaid : said.getLast? = some line) :
      (lines ++ said).getLast? = some line := by
    rw [List.getLast?_append, hsaid, Option.some_or]
  rcases h with ⟨path, houtput, hcreate, hsaid⟩ | ⟨i, hmem, hread, hsaid⟩
  · exact .inl ⟨path, houtput, hcreate, hlast hsaid⟩
  · exact .inr ⟨i, hmem, hread, hlast hsaid⟩

theorem not_canCreate_of_open?_eq_none (h : Sink.open? (target config) w = none) :
    ∃ path, config.output = some path ∧ w.canCreate path = false := by
  cases houtput : config.output with
  | none =>
      rw [target, houtput] at h
      cases h
  | some path =>
      refine ⟨path, rfl, ?_⟩
      rw [← Bool.not_eq_true]
      intro hcreate
      rw [target_eq_file houtput, open?_file hcreate] at h
      cases h

/-- Work that is begun is done, or it stops. -/
theorem exit_workWith (r : Resolver σ) (c : CommandLine) (config : Config) (converter : Converter)
    (w : Surroundings) (s : σ) :
    let o := workWith r c config converter w s
    o.exit = .success ∨ o.exit = .failure ∧ Stopped c config w o.said := by
  unfold workWith
  split
  · rename_i hopen
    obtain ⟨path, houtput, hcreate⟩ := not_canCreate_of_open?_eq_none hopen
    exact .inr ⟨rfl, .inl ⟨path, houtput, hcreate, rfl⟩⟩
  · rename_i k w' hopen
    dsimp only
    split
    · exact .inl rfl
    · rename_i message hresult
      refine .inr ⟨rfl, .inr ?_⟩
      -- Both commands are the same loop over the inputs.
      have hstopped :
          ∃ i ∈ c.inputs, w'.readable i = false ∧ message = Input.unreadable i.text := by
        split at hresult
        · exact Command.exists_of_eachInput_error hresult
        · exact Command.exists_of_eachInput_error hresult
      obtain ⟨i, hmem, hread, rfl⟩ := hstopped
      refine ⟨i, hmem, (Sink.grows_open? hopen).not_readable hread, ?_⟩
      rw [List.getLast?_append, List.getLast?_singleton, Option.some_or]

/-! ### Courses of a run -/

/-- The command line makes sense, but the configuration that it comes to makes none: it cannot be
read, or nothing can be set up with it. -/
def Unusable (c : CommandLine) (w : Surroundings) : Prop :=
  (∃ message, configure c w = .error message) ∨
    ∃ config fault notes, configure c w = .ok config ∧ config.setup = (.error fault, notes)

variable {network : Exchange.Network σ} {arguments : List Text} {s : σ} {o : Outcome σ}

theorem run_of_refusal (network : Exchange.Network σ) {refusal : CommandLine.Refusal}
    (hread : CommandLine.read arguments = .error refusal) (hhelp : refusal ≠ .help)
    (hversion : refusal ≠ .version) (w : Surroundings) (s : σ) :
    run network arguments w s = ⟨.misuse, w, ["error: ".toList ++ refusal.message], s⟩ := by
  unfold run
  rw [hread]
  cases refusal with
  | help => exact absurd rfl hhelp
  | version => exact absurd rfl hversion
  | _ => rfl

theorem run_of_unusable (network : Exchange.Network σ) (hread : CommandLine.read arguments = .ok c)
    (h : Unusable c w) (s : σ) :
    ∃ said, run network arguments w s = ⟨.badConfig, w, said, s⟩ := by
  rcases h with ⟨message, hconfig⟩ | ⟨config, fault, notes, hconfig, hsetup⟩
  · simp only [run, hread, runWith, hconfig]
    exact ⟨_, rfl⟩
  · simp only [run, hread, runWith, hconfig, hsetup]
    exact ⟨_, rfl⟩

/-- The courses that a run can take, and how they end. -/
inductive Course (network : Exchange.Network σ) (arguments : List Text) (w : Surroundings) (s : σ) :
    Outcome σ → Prop where
  | answered {answer : Text} : Course network arguments w s ⟨.success, w.print answer, [], s⟩
  | misused {refusal : CommandLine.Refusal} {said : List Text}
      (hread : CommandLine.read arguments = .error refusal)
      (hhelp : refusal ≠ .help) (hversion : refusal ≠ .version) :
      Course network arguments w s ⟨.misuse, w, said, s⟩
  | rejected {c : CommandLine} {said : List Text} (hread : CommandLine.read arguments = .ok c)
      (hunusable : Unusable c w) : Course network arguments w s ⟨.badConfig, w, said, s⟩
  | worked {c : CommandLine} {config : Config} {setup : Setup} {notes : List Note} {o : Outcome σ}
      (hread : CommandLine.read arguments = .ok c) (hconfig : configure c w = .ok config)
      (hsetup : config.setup = (.ok setup, notes))
      (hexit : o.exit = .success ∨ o.exit = .failure ∧ Stopped c config w o.said) :
      Course network arguments w s o

theorem course_run (network : Exchange.Network σ) (arguments : List Text) (w : Surroundings)
    (s : σ) : Course network arguments w s (run network arguments w s) := by
  have hunusable {c : CommandLine} (hread : CommandLine.read arguments = .ok c)
      (h : Unusable c w) : Course network arguments w s (run network arguments w s) := by
    obtain ⟨said, hrun⟩ := run_of_unusable network hread h s
    rw [hrun]
    exact .rejected hread h
  cases hread : CommandLine.read arguments with
  | error refusal =>
      by_cases hquestion : refusal = .help ∨ refusal = .version
      · unfold run
        rw [hread]
        rcases hquestion with rfl | rfl
        · exact .answered
        · exact .answered
      · obtain ⟨hhelp, hversion⟩ := not_or.1 hquestion
        rw [run_of_refusal network hread hhelp hversion w s]
        exact .misused hread hhelp hversion
  | ok c =>
      cases hconfig : configure c w with
      | error message => exact hunusable hread (.inl ⟨message, hconfig⟩)
      | ok config =>
          cases hsetup : config.setup with
          | mk result notes =>
              cases result with
              | error fault => exact hunusable hread (.inr ⟨config, fault, notes, hconfig, hsetup⟩)
              | ok setup =>
                  rw [run_of_setup network hread hconfig hsetup s]
                  refine .worked hread hconfig hsetup ?_
                  refine (exit_workWith _ c config setup.converter w s).imp_right ?_
                  exact fun hstopped => ⟨hstopped.1, hstopped.2.after _⟩

namespace Course

theorem of_misuse (h : Course network arguments w s o) (hexit : o.exit = .misuse) :
    ∃ refusal,
      CommandLine.read arguments = .error refusal ∧ refusal ≠ .help ∧ refusal ≠ .version := by
  cases h with
  | answered => cases hexit
  | misused hread hhelp hversion => exact ⟨_, hread, hhelp, hversion⟩
  | rejected => cases hexit
  | worked _ _ _ hwork => simp [hexit] at hwork

theorem of_badConfig (h : Course network arguments w s o) (hexit : o.exit = .badConfig) :
    ∃ c, CommandLine.read arguments = .ok c ∧ Unusable c w := by
  cases h with
  | answered => cases hexit
  | misused => cases hexit
  | rejected hread hunusable => exact ⟨_, hread, hunusable⟩
  | worked _ _ _ hwork => simp [hexit] at hwork

theorem of_failure (h : Course network arguments w s o) (hexit : o.exit = .failure) :
    ∃ c config setup notes, CommandLine.read arguments = .ok c ∧ configure c w = .ok config ∧
      config.setup = (.ok setup, notes) ∧ Stopped c config w o.said := by
  cases h with
  | answered => cases hexit
  | misused => cases hexit
  | rejected => cases hexit
  | worked hread hconfig hsetup hwork =>
      rcases hwork with hdone | ⟨-, hstopped⟩
      · rw [hexit] at hdone
        cases hdone
      · exact ⟨_, _, _, _, hread, hconfig, hsetup, hstopped⟩

/-- A run that ends before it gets to work leaves all as it was. -/
theorem untouched (h : Course network arguments w s o)
    (hexit : o.exit = .misuse ∨ o.exit = .badConfig) : o.surroundings = w ∧ o.network = s := by
  cases h with
  | answered => simp at hexit
  | misused => exact ⟨rfl, rfl⟩
  | rejected => exact ⟨rfl, rfl⟩
  | worked _ _ _ hwork =>
      rcases hwork with hdone | ⟨hdone, -⟩
      · simp [hdone] at hexit
      · simp [hdone] at hexit

end Course

/-! ### Exit codes -/

theorem exit_eq_misuse_iff :
    (run network arguments w s).exit = .misuse ↔ ∃ refusal,
      CommandLine.read arguments = .error refusal ∧ refusal ≠ .help ∧ refusal ≠ .version := by
  constructor
  · exact (course_run network arguments w s).of_misuse
  · rintro ⟨refusal, hread, hhelp, hversion⟩
    rw [run_of_refusal network hread hhelp hversion w s]

theorem exit_eq_badConfig_iff :
    (run network arguments w s).exit = .badConfig ↔
      ∃ c, CommandLine.read arguments = .ok c ∧ Unusable c w := by
  constructor
  · exact (course_run network arguments w s).of_badConfig
  · rintro ⟨c, hread, hunusable⟩
    obtain ⟨said, hrun⟩ := run_of_unusable network hread hunusable s
    rw [hrun]

/-- Whether a run gets to work is not up to the network. -/
theorem exit_congr {τ : Type} (network' : Exchange.Network τ) (s' : τ)
    (hexit : (run network arguments w s).exit = .misuse ∨
      (run network arguments w s).exit = .badConfig) :
    (run network' arguments w s').exit = (run network arguments w s).exit := by
  rcases hexit with hexit | hexit
  · rw [hexit]
    exact exit_eq_misuse_iff.2 (exit_eq_misuse_iff.1 hexit)
  · rw [hexit]
    exact exit_eq_badConfig_iff.2 (exit_eq_badConfig_iff.1 hexit)

theorem Exit.code_eq_iff (e e' : Exit) : e.code = e'.code ↔ e = e' := by
  cases e <;> cases e' <;> simp [Exit.code]

/-- What the exit code of a run tells, whatever the arguments, the files, standard input and the
network are. It is 2 exactly if the command line makes no sense, and 3 exactly if the configuration
makes none, be it the settings file, a provider, a header or a setting of the conversion. In both
cases files and streams are as they were before the run, the output file included, and no request
has been sent. It is 1 only if a converter was made, and then the output could not be opened or an
input could not be read. -/
theorem run_exit (network : Exchange.Network σ) (arguments : List Text) (w : Surroundings) (s : σ) :
    let o := run network arguments w s
    let watched := run network.watched arguments w (.empty s)
    (o.exit.code = 2 ↔ ∃ refusal,
      CommandLine.read arguments = .error refusal ∧ refusal ≠ .help ∧ refusal ≠ .version) ∧
    (o.exit.code = 3 ↔ ∃ c, CommandLine.read arguments = .ok c ∧
      ((∃ message, configure c w = .error message) ∨
        ∃ config fault notes, configure c w = .ok config ∧ config.setup = (.error fault, notes))) ∧
    (o.exit.code = 2 ∨ o.exit.code = 3 →
      o.surroundings = w ∧ o.network = s ∧
      watched.exit = o.exit ∧ watched.surroundings = w ∧ watched.network.sendings = []) ∧
    (o.exit.code = 1 → ∃ c config setup notes, CommandLine.read arguments = .ok c ∧
      configure c w = .ok config ∧ config.setup = (.ok setup, notes) ∧
      ((∃ path, config.output = some path ∧ w.canCreate path = false ∧
        o.said.getLast? = some (failureLine "Cannot open output".toList)) ∨
      ∃ i ∈ c.inputs, w.readable i = false ∧
        o.said.getLast? = some (failureLine (Input.unreadable i.text)))) := by
  intro o watched
  have hmisuse : o.exit.code = 2 ↔ o.exit = .misuse := Exit.code_eq_iff _ .misuse
  have hbad : o.exit.code = 3 ↔ o.exit = .badConfig := Exit.code_eq_iff _ .badConfig
  have hfailure : o.exit.code = 1 ↔ o.exit = .failure := Exit.code_eq_iff _ .failure
  have hcourse : Course network arguments w s o := course_run network arguments w s
  refine ⟨hmisuse.trans exit_eq_misuse_iff, hbad.trans exit_eq_badConfig_iff, fun hcode => ?_,
    fun hcode => ?_⟩
  · have hexit : o.exit = .misuse ∨ o.exit = .badConfig := hcode.imp hmisuse.1 hbad.1
    -- The run that is watched takes the same course, so it sends nothing either.
    have hwatched : watched.exit = o.exit := exit_congr network.watched (.empty s) hexit
    have hcourse' : Course network.watched arguments w (.empty s) watched :=
      course_run network.watched arguments w (.empty s)
    obtain ⟨hleft, hnetwork⟩ := hcourse.untouched hexit
    obtain ⟨hleft', hnetwork'⟩ := hcourse'.untouched (hwatched ▸ hexit)
    exact ⟨hleft, hnetwork, hwatched, hleft', congrArg Exchange.Traffic.sendings hnetwork'⟩
  · exact hcourse.of_failure (hfailure.1 hcode)

/-- A bad user agent is found before the output file is emptied, and a missing input when there is a
converter. -/
theorem run_exit_early :
    let w : Surroundings :=
      ⟨[("out".toList, Text.Utf8.encode "kept".toList)], Text.Utf8.encode "page".toList, [], []⟩
    let nobody : Exchange.Network Unit := fun _ _ => (.silence, ())
    let rejected := ["--output", "out", "--user-agent", "bad\nagent", "-"].map String.toList
    let stopped := ["--offline", "-", "missing"].map String.toList
    let o := run nobody rejected w ()
    let watched := run nobody.watched rejected w (.empty ())
    o.exit.code = 3 ∧ o.surroundings = w ∧ watched.exit = o.exit ∧ watched.network.sendings = [] ∧
      (run nobody stopped w ()).exit.code = 1 ∧
      ∃ c config setup notes, CommandLine.read stopped = .ok c ∧ configure c w = .ok config ∧
        config.setup = (.ok setup, notes) := by
  intro w nobody rejected stopped o watched
  have hthree : o.exit.code = 3 := by decide +kernel
  have hone : (run nobody stopped w ()).exit.code = 1 := by decide +kernel
  obtain ⟨-, -, hleft, -⟩ := run_exit nobody rejected w ()
  obtain ⟨-, -, -, hstopped⟩ := run_exit nobody stopped w ()
  obtain ⟨hsurroundings, -, hwatched, -, hsent⟩ := hleft (.inr hthree)
  obtain ⟨c, config, setup, notes, hread, hconfig, hsetup, -⟩ := hstopped hone
  exact ⟨hthree, hsurroundings, hwatched, hsent, hone, c, config, setup, notes, hread, hconfig,
    hsetup⟩

end BareUrl.Program
