import BareUrl.Program.Run
import BareUrl.Proofs.Converter.Idempotence
import BareUrl.Proofs.Program.Inputs
import BareUrl.Proofs.Resolver.Cached

/-!
# `BareUrl.Proofs.Program.Work`: what conversions leave behind

`Command.left_of_open` says what is left behind by a command whose inputs are not read from its
output: what its steps put out for the inputs in front of the first that cannot be read, one behind
the other, and nothing else has changed. `worked` says it of conversions. The inputs share a cache,
so what is written for one of them may depend on those in front of it. `workWith_prints` says that
it does not if the answers never change, for inputs that are printed: each is converted as if it
were alone, and nobody were remembering answers. What is gained by remembering is that nothing is
asked again that has been answered.
-/

set_option autoImplicit false

namespace BareUrl.Program

open Resolver (Cache Log AskedOnce cached logged)

variable {σ τ : Type}

/-! ### Conversions of inputs -/

namespace Command

/-- The conversions of the inputs in front of the first that cannot be read, one after another. -/
def conversions (c : Converter) (r : Resolver σ) (w : Surroundings) (inputs : List Input) (s : σ) :
    Traced σ (List Text) :=
  Traced.each (c.convert r) ((w.texts (inputs.takeWhile w.readable)).map Prod.snd) s

/-- What is logged aside, the steps of a command that converts are conversions. -/
theorem steps_convertInput (c : Converter) (r : Resolver σ) (w : Surroundings)
    (inputs : List Input) (s : σ) :
    (steps (convertInput c r) w inputs s).result = (conversions c r w inputs s).result ∧
      (steps (convertInput c r) w inputs s).state = (conversions c r w inputs s).state := by
  rw [steps, conversions]
  induction w.texts (inputs.takeWhile w.readable) generalizing s with
  | nil => exact ⟨rfl, rfl⟩
  | cons p texts ih =>
      obtain ⟨hresult, hstate⟩ := ih (c.convert r p.2 s).state
      constructor
      · rw [List.map_cons, Traced.result_each_cons, Traced.result_each_cons, ← hresult]
        rfl
      · rw [List.map_cons, Traced.state_each_cons, Traced.state_each_cons, ← hstate]
        rfl

/-- What every lookup keeps is kept by conversions. -/
theorem conversions_keeps {P : σ → Prop} {r : Resolver σ}
    (hstep : ∀ url s, P s → P (r url s).state) (c : Converter) (w : Surroundings)
    (inputs : List Input) {s : σ} (h : P s) : P (conversions c r w inputs s).state := by
  rw [conversions]
  exact Traced.each_keeps (fun t _ hs => c.convert_keeps hstep t hs) _ h

/-- Resolvers that agree from related states make conversions that agree. -/
theorem conversions_agree {R : σ → τ → Prop} {r : Resolver σ} {r' : Resolver τ}
    (hresult : ∀ url a b, R a b → (r url a).result = (r' url b).result)
    (hstate : ∀ url a b, R a b → R (r url a).state (r' url b).state) (c : Converter)
    (w : Surroundings) (inputs : List Input) {a : σ} {b : τ} (h : R a b) :
    (conversions c r w inputs a).result = (conversions c r' w inputs b).result ∧
      R (conversions c r w inputs a).state (conversions c r' w inputs b).state := by
  rw [conversions, conversions]
  exact Traced.each_agree (R := R) (fun t _ _ hab => (c.convert_agree hresult hstate t hab).1)
    (fun t _ _ hab => (c.convert_agree hresult hstate t hab).2) _ h

end Command

/-! ### What is left behind -/

open Command (conversions)

/-- What is in a target once it is open. -/
def Surroundings.opened (w : Surroundings) : Target → List UInt8
  | .standardOutput => w.standardOutput
  | .file _ => []

namespace Sink

theorem open?_eq_some {target : Target} {w w' : Surroundings} {k : Sink}
    (h : open? target w = some (k, w')) :
    k = ⟨target, []⟩ ∧ w'.written target = w.opened target ∧ w.Keeps target w' ∧
      w'.standardInput = w.standardInput := by
  cases target with
  | standardOutput =>
      obtain ⟨rfl, rfl⟩ := Prod.mk.inj (Option.some.inj h)
      exact ⟨rfl, rfl, .refl _ _, rfl⟩
  | file path =>
      rw [open?] at h
      split at h
      · obtain ⟨rfl, rfl⟩ := Prod.mk.inj (Option.some.inj h)
        refine ⟨rfl, ?_, Surroundings.keeps_withFile w path [], rfl⟩
        rw [Surroundings.written, Surroundings.contents?_withFile, if_pos rfl]
        rfl
      · cases h

end Sink

namespace Command

/-- What a command leaves behind that has opened its output and read nothing of it: all that its
steps put out is in the target, and nothing else has changed. -/
structure Left (step : Input → Text → σ → Traced σ Text) (inputs : List Input) (target : Target)
    (w : Surroundings) (s : σ) (x : Traced (Scene σ) Ending) : Prop where
  ending : x.result = ending w inputs
  asked : x.state.asked = (steps step w inputs s).state
  written : x.state.surroundings.written target
    = w.opened target ++ (steps step w inputs s).result.flatMap Text.Utf8.encode
  keeps : w.Keeps target x.state.surroundings
  created : ∀ path, target = .file path → (x.state.surroundings.contents? path).isSome = true

theorem left_of_open (step : Input → Text → σ → Traced σ Text) {inputs : List Input}
    {target : Target} {w w' : Surroundings} {k : Sink} (hopen : Sink.open? target w = some (k, w'))
    (hfeeds : ∀ i ∈ inputs, target.feeds i = false) (s : σ) :
    Left step inputs target w s (finish (eachInput step inputs ⟨w', k, s⟩)) := by
  obtain ⟨rfl, hopened, hkeeps, hinput⟩ := Sink.open?_eq_some hopen
  let scene : Scene σ := ⟨w', ⟨target, []⟩, s⟩
  let x := eachInput step inputs scene
  have hran : Ran step inputs scene x := ran_eachInput hfeeds
  have htaken : scene.taken = w.opened target := (List.append_nil _).trans hopened
  -- Opening the output makes no difference to what is read.
  have hsteps : steps step scene.surroundings inputs scene.asked = steps step w inputs s :=
    steps_congr hkeeps hinput hfeeds _
  constructor
  · exact hran.ending.trans (ending_congr hkeeps hfeeds)
  · exact hran.asked.trans (congrArg Traced.state hsteps)
  · -- All that the sink has taken is in its target behind the last flush.
    have hfinish := written_finish x
    rw [hran.target, hran.taken, htaken, hsteps] at hfinish
    exact hfinish
  · have hfinish := keeps_finish x
    rw [hran.target] at hfinish
    exact (hkeeps.trans hran.keeps).trans hfinish
  · intro path hpath
    exact isSome_contents?_finish (hran.target.trans hpath)

end Command

/-- What conversions leave behind: an output that holds them one behind the other, and nothing
else has changed. All went well if every input could be read. -/
structure Worked (r : Resolver σ) (c : CommandLine) (config : Config) (converter : Converter)
    (w : Surroundings) (s : σ) (o : Outcome σ) : Prop where
  exit : o.exit = if c.inputs.all w.readable then .success else .failure
  written : o.surroundings.written (target config)
    = w.opened (target config)
      ++ (conversions converter (cached r) w c.inputs (.empty s)).result.flatMap Text.Utf8.encode
  keeps : w.Keeps (target config) o.surroundings
  created : ∀ path, target config = .file path → (o.surroundings.contents? path).isSome = true
  network : o.network = (conversions converter (cached r) w c.inputs (.empty s)).state.inner

variable {config : Config} {c : CommandLine} {w w' : Surroundings} {k : Sink}

/-- Once the output is open, the command that is chosen deals with the inputs. -/
theorem workWith_of_open (r : Resolver σ) (converter : Converter) (s : σ)
    {command : List Input → Scene (Cache σ) → Traced (Scene (Cache σ)) Ending}
    (hcommand : (if config.dump then Command.dump converter (cached r)
      else Command.convert converter (cached r)) = command)
    (hopen : Sink.open? (target config) w = some (k, w')) :
    let o := workWith r c config converter w s
    let x := command c.inputs ⟨w', k, .empty s⟩
    (x.result = .ok () → o.exit = .success) ∧ (x.result ≠ .ok () → o.exit = .failure) ∧
      o.surroundings = x.state.surroundings ∧ o.network = x.state.asked.inner := by
  intro o x
  cases hx : x.result with
  | ok =>
      have ho : o = ⟨.success, x.state.surroundings, shownLines c.verbosity x.notes,
          x.state.asked.inner⟩ := by
        show workWith r c config converter w s = _
        simp only [workWith, hopen, hcommand, hx, x]
      simp [ho]
  | error message =>
      have ho : o = ⟨.failure, x.state.surroundings,
          shownLines c.verbosity x.notes ++ [failureLine message], x.state.asked.inner⟩ := by
        show workWith r c config converter w s = _
        simp only [workWith, hopen, hcommand, hx, x]
      simp [ho]

/-- What a conversion does to its inputs, with the output opened before and flushed behind it. -/
theorem worked (r : Resolver σ) (converter : Converter) (s : σ) (hdump : config.dump = false)
    (hopen : Sink.open? (target config) w = some (k, w'))
    (hfeeds : ∀ i ∈ c.inputs, (target config).feeds i = false) :
    Worked r c config converter w s (workWith r c config converter w s) := by
  obtain ⟨hsuccess, hfailure, hleft, hnetwork⟩ :=
    workWith_of_open (c := c) r converter s (if_neg (by simp [hdump])) hopen
  have hx :=
    Command.left_of_open (Command.convertInput converter (cached r)) hopen hfeeds (.empty s)
  obtain ⟨hresult, hstate⟩ := Command.steps_convertInput converter (cached r) w c.inputs (.empty s)
  constructor
  · by_cases hall : c.inputs.all w.readable = true
    · rw [if_pos hall]
      refine hsuccess (hx.ending.trans ?_)
      rw [Command.ending_eq_ok_iff]
      exact List.all_eq_true.1 hall
    · rw [if_neg hall]
      refine hfailure fun hok => hall (List.all_eq_true.2 ?_)
      rw [← Command.ending_eq_ok_iff]
      exact hx.ending.symm.trans hok
  · rw [hleft, ← hresult]
    exact hx.written
  · rw [hleft]
    exact hx.keeps
  · intro path hpath
    rw [hleft]
    exact hx.created path hpath
  · rw [hnetwork, ← hstate]
    exact congrArg Cache.inner hx.asked

/-! ### Printing -/

/-- If the answers never change, a conversion does not depend on what is remembered. -/
theorem convert_cached {r : Resolver σ} {answer : Text → Answer}
    (hr : ∀ url s, (r url s).result = answer url) (converter : Converter) (t : Text) {k : Cache σ}
    (hk : k.Agrees answer) (s : σ) :
    (converter.convert (cached r) t k).result = (converter.convert r t s).result ∧
      (converter.convert (cached r) t k).state.Agrees answer := by
  refine converter.convert_agree (R := fun (k : Cache σ) (_ : σ) => k.Agrees answer) ?_ ?_ t hk
  · intro url k s hk
    rw [(hk.step hr url).1, hr]
  · intro url k s hk
    exact (hk.step hr url).2

/-- Then each input is converted as if it were alone, and nobody remembered answers. -/
theorem conversions_cached {r : Resolver σ} {answer : Text → Answer}
    (hr : ∀ url s, (r url s).result = answer url) (converter : Converter) (w : Surroundings)
    (inputs : List Input) (s s' : σ) :
    (conversions converter (cached r) w inputs (.empty s)).result
      = (w.texts (inputs.takeWhile w.readable)).map fun p =>
          (converter.convert r p.2 s').result := by
  have heach (texts : List Text) :
      (Traced.each (converter.convert (cached r)) texts (.empty s)).result
        = texts.map fun t => (converter.convert r t s').result :=
    Traced.each_eq_map (P := Cache.Agrees answer)
      (fun t _ hk => (convert_cached hr converter t hk s').1)
      (fun t _ hk => (convert_cached hr converter t hk s').2) texts (Resolver.agrees_empty answer s)
  rw [conversions, heach, List.map_map]
  rfl

/-- Nobody sees the log of the calls. -/
theorem conversions_logged (r : Resolver σ) (converter : Converter) (w : Surroundings)
    (inputs : List Input) (s : σ) :
    let log := conversions converter (cached r.logged) w inputs (.empty (.empty s))
    (conversions converter (cached r) w inputs (.empty s)).result = log.result ∧
      (conversions converter (cached r) w inputs (.empty s)).state = log.state.unlogged := by
  refine Command.conversions_agree (R := fun k (k' : Cache (Log σ)) => k = k'.unlogged) ?_ ?_
    converter w inputs rfl
  · rintro url _ k rfl
    exact (Resolver.cached_unlogged r url k).1
  · rintro url _ k rfl
    exact (Resolver.cached_unlogged r url k).2

/-- Inputs that are printed are converted up to the first that cannot be read, each as if it were
alone and nobody remembered answers; the exit code says whether all could be read. That holds for
every resolver whose answers never change, and it is not asked again about a URL that it has
answered, as a log of its calls shows. -/
theorem workWith_prints (r : Resolver σ) {answer : Text → Answer}
    (hr : ∀ url s, (r url s).result = answer url) (c : CommandLine) (config : Config)
    (hdump : config.dump = false) (houtput : config.output = none) (converter : Converter)
    (w : Surroundings) (s s' : σ) :
    let o := workWith r c config converter w s
    let log := workWith r.logged c config converter w (.empty s)
    o.surroundings.standardOutput = w.standardOutput
      ++ (w.texts (c.inputs.takeWhile w.readable)).flatMap
        (fun p => Text.Utf8.encode (converter.convert r p.2 s').result) ∧
    o.exit.code = (if ∀ i ∈ c.inputs, w.readable i = true then 0 else 1) ∧
    (∀ path, o.surroundings.contents? path = w.contents? path) ∧
    log.exit = o.exit ∧ log.surroundings.standardOutput = o.surroundings.standardOutput ∧
    log.network.inner = o.network ∧ AskedOnce log.network.calls := by
  intro o log
  have htarget : target config = .standardOutput := by rw [target, houtput]; rfl
  have hopen : Sink.open? (target config) w = some (⟨.standardOutput, []⟩, w) := by
    rw [htarget]
    rfl
  -- No input is read from standard output.
  have hfeeds : ∀ i ∈ c.inputs, (target config).feeds i = false := by
    intro i _
    rw [htarget]
    cases i <;> rfl
  have ho : Worked r c config converter w s o := worked r converter s hdump hopen hfeeds
  have hlog : Worked r.logged c config converter w (.empty s) log :=
    worked r.logged converter (.empty s) hdump hopen hfeeds
  obtain ⟨hresult, hstate⟩ := conversions_logged r converter w c.inputs s
  have hwritten := ho.written
  have hwritten' := hlog.written
  have hkeeps := ho.keeps
  rw [htarget] at hwritten hwritten' hkeeps
  refine ⟨?_, ?_, fun path => hkeeps.contents? path rfl, hlog.exit.trans ho.exit.symm, ?_, ?_, ?_⟩
  · refine hwritten.trans ?_
    rw [conversions_cached hr converter w c.inputs s s', List.flatMap_map]
    rfl
  · rw [ho.exit]
    by_cases hall : ∀ i ∈ c.inputs, w.readable i = true
    · rw [if_pos hall, if_pos (List.all_eq_true.2 hall)]
      rfl
    · rw [if_neg hall, if_neg fun h => hall (List.all_eq_true.1 h)]
      rfl
  · rw [hresult] at hwritten
    exact hwritten'.trans hwritten.symm
  · rw [hlog.network, ho.network, hstate]
    rfl
  · -- The log is that of a cache that was faithful from the first input to the last.
    rw [hlog.network]
    exact (Command.conversions_keeps (P := Cache.Faithful) (fun url _ hk => hk.step r url) converter
      w c.inputs (Resolver.faithful_empty s)).once

/-- Standard input is empty the second time, and nothing is read behind a file that is missing. -/
theorem workWith_prints_missing :
    let page := Text.Utf8.encode "_http:bb".toList
    let w : Surroundings := ⟨[(['a'], page)], page, [], []⟩
    let inputs := [.standardInput, .file ['a'], .standardInput, .file ['b'], .file ['a']]
    let c : CommandLine := { CommandLine.empty with inputs := inputs }
    let r : Resolver Unit := .fixed fun _ => .ok (.embeddable (.ofProvider []))
    let o := workWith r c c.config .underscored w ()
    let log := workWith r.logged c c.config .underscored w (.empty ())
    (∀ url s, (r url s).result = .ok (.embeddable (.ofProvider []))) ∧
      c.config.dump = false ∧ c.config.output = none ∧
      o.surroundings.standardOutput = Text.Utf8.encode
        (Converter.placeholder "http:bb".toList ++ Converter.placeholder "http:bb".toList) ∧
      o.exit.code = 1 ∧ AskedOnce log.network.calls := by
  intro page w inputs c r o log
  have hr : ∀ url s, (r url s).result = .ok (.embeddable (.ofProvider [])) := fun _ _ => rfl
  obtain ⟨hprinted, hexit, -, -, -, -, honce⟩ :=
    workWith_prints r hr c c.config rfl rfl .underscored w () ()
  exact ⟨hr, rfl, rfl, hprinted.trans (by decide +kernel), hexit.trans (by decide +kernel), honce⟩

end BareUrl.Program
