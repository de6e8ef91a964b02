import BareUrl.Program.Command
import BareUrl.Proofs.Program.Sink
import BareUrl.Proofs.Traced
import Mathlib.Data.List.Find

/-!
# `BareUrl.Proofs.Program.Inputs`: what a command reads

A command reads one input after another and writes in between. What it will read is told by the
surroundings at its start (`Surroundings.texts`): a file as its content, standard input once. That
is so as long as it does not write to a file that it reads later on, and `ran_eachInput` says what
it does then: the step is done for the texts of the inputs in front of the first that cannot be
read, its outputs are taken in order, and the command ends well if there is no such input.
-/

set_option autoImplicit false

namespace BareUrl.Program

/-- `true` if the input is read from the target. -/
def Target.feeds (target : Target) : Input → Bool
  | .standardInput => false
  | .file path => target.names path

namespace Surroundings

/-- `true` if the input can be read. Standard input always can, be it empty. -/
def readable (w : Surroundings) : Input → Bool
  | .standardInput => true
  | .file path => (w.contents? path).isSome

/-- The bytes of an input. -/
def bytesOf (w : Surroundings) : Input → List UInt8
  | .standardInput => w.standardInput
  | .file path => (w.contents? path).getD []

/-- The surroundings behind the reading of an input: nothing is left of standard input. -/
def behind (w : Surroundings) : Input → Surroundings
  | .standardInput => { w with standardInput := [] }
  | .file _ => w

/-- The texts of inputs that are read one after another, each with its input. -/
def texts (w : Surroundings) : List Input → List (Input × Text)
  | [] => []
  | i :: rest => (i, (i.decode (w.bytesOf i)).1) :: (w.behind i).texts rest

variable {w w' : Surroundings} {i : Input} {target : Target}

theorem read_of_readable (h : w.readable i = true) : w.read i = some (w.bytesOf i, w.behind i) := by
  cases i with
  | standardInput => rfl
  | file path =>
      obtain ⟨bytes, hbytes⟩ := Option.isSome_iff_exists.1 h
      simp [read, bytesOf, behind, hbytes]

theorem read_of_not_readable (h : w.readable i = false) : w.read i = none := by
  cases i with
  | standardInput => cases h
  | file path =>
      have hnone : w.contents? path = none := by simpa [readable] using h
      rw [read, hnone]
      rfl

theorem keeps_behind (target : Target) (w : Surroundings) (i : Input) :
    Keeps target w (w.behind i) := by
  cases i <;> exact ⟨fun _ => rfl, fun _ _ => rfl⟩

theorem written_behind (w : Surroundings) (i : Input) (target : Target) :
    (w.behind i).written target = w.written target := by
  cases i <;> cases target <;> rfl

/-- Writing to a target makes no difference to what is not read from it. -/
theorem Keeps.readable (h : Keeps target w w') (hi : target.feeds i = false) :
    w'.readable i = w.readable i := by
  cases i with
  | standardInput => rfl
  | file path => rw [Surroundings.readable, Surroundings.readable, h.contents? path hi]

theorem readable_behind (w : Surroundings) (i : Input) : (w.behind i).readable = w.readable := by
  cases i <;> rfl

theorem Keeps.takeWhile_readable {inputs : List Input} (h : Keeps target w w')
    (hfeeds : ∀ i ∈ inputs, target.feeds i = false) :
    inputs.takeWhile w'.readable = inputs.takeWhile w.readable := by
  induction inputs with
  | nil => rfl
  | cons i inputs ih =>
      rw [List.takeWhile_cons, List.takeWhile_cons, h.readable (hfeeds i List.mem_cons_self),
        ih fun i' hi' => hfeeds i' (List.mem_cons_of_mem i hi')]

theorem Keeps.bytesOf (h : Keeps target w w') (hinput : w'.standardInput = w.standardInput)
    (hi : target.feeds i = false) : w'.bytesOf i = w.bytesOf i := by
  cases i with
  | standardInput => exact hinput
  | file path => rw [Surroundings.bytesOf, Surroundings.bytesOf, h.contents? path hi]

theorem Keeps.behind (h : Keeps target w w') (i : Input) :
    Keeps target (w.behind i) (w'.behind i) := by
  cases i <;> exact ⟨h.standardOutput, h.contents?⟩

theorem Keeps.texts {inputs : List Input} (h : Keeps target w w')
    (hinput : w'.standardInput = w.standardInput) (hfeeds : ∀ i ∈ inputs, target.feeds i = false) :
    w'.texts inputs = w.texts inputs := by
  induction inputs generalizing w w' with
  | nil => rfl
  | cons i inputs ih =>
      have hi := hfeeds i List.mem_cons_self
      have hleft : (w'.behind i).standardInput = (w.behind i).standardInput := by
        cases i with
        | standardInput => rfl
        | file path => exact hinput
      rw [Surroundings.texts, Surroundings.texts, h.bytesOf hinput hi,
        ih (h.behind i) hleft fun i' hi' => hfeeds i' (List.mem_cons_of_mem i hi')]

end Surroundings

/-- All output that the sink of a scene has taken. -/
def Scene.taken {σ : Type} (s : Scene σ) : List UInt8 := s.sink.taken s.surroundings

namespace Command

variable {σ : Type} {step : Input → Text → σ → Traced σ Text} {inputs : List Input} {s : Scene σ}

/-- A step for each input up to the first that cannot be read, with nothing written in between. -/
def steps (step : Input → Text → σ → Traced σ Text) (w : Surroundings) (inputs : List Input)
    (asked : σ) : Traced σ (List Text) :=
  Traced.each (fun p => step p.1 p.2) (w.texts (inputs.takeWhile w.readable)) asked

/-- How a command ends: well, if there is no input that cannot be read. -/
def ending (w : Surroundings) (inputs : List Input) : Ending :=
  match inputs.find? fun i => !w.readable i with
  | none => .ok ()
  | some i => .error (Input.unreadable i.text)

theorem ending_eq_ok_iff (w : Surroundings) (inputs : List Input) :
    ending w inputs = .ok () ↔ ∀ i ∈ inputs, w.readable i = true := by
  rw [ending]
  cases h : inputs.find? fun i => !w.readable i with
  | none => simpa using List.find?_eq_none.1 h
  | some i =>
      have hi : w.readable i = false := by simpa using List.find?_some h
      constructor
      · simp
      · intro hall
        rw [hall i (List.mem_of_find?_eq_some h)] at hi
        cases hi

/-- What a command has done with inputs: the outputs of the steps are taken in order, nothing but
the target of its sink has changed, and it has ended well or at the first input that could not be
read. -/
structure Ran (step : Input → Text → σ → Traced σ Text) (inputs : List Input) (s : Scene σ)
    (x : Traced (Scene σ) Ending) : Prop where
  target : x.state.sink.target = s.sink.target
  taken : x.state.taken
    = s.taken ++ (steps step s.surroundings inputs s.asked).result.flatMap Text.Utf8.encode
  asked : x.state.asked = (steps step s.surroundings inputs s.asked).state
  ending : x.result = ending s.surroundings inputs
  keeps : s.surroundings.Keeps s.sink.target x.state.surroundings

variable {w w' : Surroundings} {target : Target} {i : Input} {rest : List Input}

/-- Writing to a target makes no difference to a command that reads nothing from it. -/
theorem steps_congr (h : w.Keeps target w') (hinput : w'.standardInput = w.standardInput)
    (hfeeds : ∀ i ∈ inputs, target.feeds i = false) (asked : σ) :
    steps step w' inputs asked = steps step w inputs asked := by
  have hread : ∀ i ∈ inputs.takeWhile w.readable, target.feeds i = false :=
    fun i hi => hfeeds i ((List.takeWhile_subset _) hi)
  rw [steps, steps, h.takeWhile_readable hfeeds, h.texts hinput hread]

theorem ending_congr (h : w.Keeps target w') (hfeeds : ∀ i ∈ inputs, target.feeds i = false) :
    Command.ending w' inputs = Command.ending w inputs := by
  have hfind : (inputs.find? fun i => !w'.readable i) = inputs.find? fun i => !w.readable i :=
    List.find?_congr fun i hi => by rw [h.readable (hfeeds i hi)]
  rw [Command.ending, Command.ending, hfind]

theorem steps_of_not_readable (h : w.readable i = false) (rest : List Input) (asked : σ) :
    steps step w (i :: rest) asked = .still [] asked := by
  rw [steps, List.takeWhile_cons_of_neg (by simp [h])]
  rfl

theorem ending_of_not_readable (h : w.readable i = false) (rest : List Input) :
    Command.ending w (i :: rest) = .error (Input.unreadable i.text) := by
  rw [Command.ending, List.find?_cons_of_pos (by simp [h])]

theorem steps_of_readable (h : w.readable i = true) (rest : List Input) (asked : σ) :
    steps step w (i :: rest) asked
      = (step i (i.decode (w.bytesOf i)).1 asked).bind fun t asked =>
          (steps step (w.behind i) rest asked).map (t :: ·) := by
  rw [steps, List.takeWhile_cons_of_pos h]
  simp only [steps, Surroundings.readable_behind]
  rfl

theorem ending_of_readable (h : w.readable i = true) (rest : List Input) :
    Command.ending w (i :: rest) = Command.ending (w.behind i) rest := by
  rw [Command.ending, List.find?_cons_of_neg (by simp [h]), Command.ending,
    Surroundings.readable_behind]

/-- The scene behind the step for an input that can be read. -/
def stepped (step : Input → Text → σ → Traced σ Text) (i : Input) (s : Scene σ) : Scene σ :=
  let x := step i (i.decode (s.surroundings.bytesOf i)).1 s.asked
  let out := s.sink.write (Text.Utf8.encode x.result) (s.surroundings.behind i)
  ⟨out.2, out.1, x.state⟩

theorem eachInput_of_not_readable (h : s.surroundings.readable i = false) (rest : List Input) :
    eachInput step (i :: rest) s = .still (.error (Input.unreadable i.text)) s := by
  rw [eachInput, Surroundings.read_of_not_readable h]

theorem eachInput_of_readable (step : Input → Text → σ → Traced σ Text)
    (h : s.surroundings.readable i = true) (rest : List Input) :
    (eachInput step (i :: rest) s).result = (eachInput step rest (stepped step i s)).result ∧
      (eachInput step (i :: rest) s).state = (eachInput step rest (stepped step i s)).state := by
  rw [eachInput, Surroundings.read_of_readable h]
  exact ⟨rfl, rfl⟩

/-- The output of a step for an input. -/
def output (step : Input → Text → σ → Traced σ Text) (i : Input) (s : Scene σ) : Text :=
  (step i (i.decode (s.surroundings.bytesOf i)).1 s.asked).result

theorem takes_stepped (step : Input → Text → σ → Traced σ Text) (i : Input) (s : Scene σ) :
    s.sink.Takes (s.surroundings.behind i) (Text.Utf8.encode (output step i s))
      ((stepped step i s).sink, (stepped step i s).surroundings) :=
  Sink.takes_write _ _ _

theorem taken_stepped (step : Input → Text → σ → Traced σ Text) (i : Input) (s : Scene σ) :
    (stepped step i s).taken = s.taken ++ Text.Utf8.encode (output step i s) := by
  have hbehind : s.sink.taken (s.surroundings.behind i) = s.taken := by
    rw [Scene.taken, Sink.taken, Sink.taken, Surroundings.written_behind]
  rw [← hbehind]
  exact (takes_stepped step i s).taken

theorem keeps_stepped (step : Input → Text → σ → Traced σ Text) (i : Input) (s : Scene σ) :
    s.surroundings.Keeps s.sink.target (stepped step i s).surroundings :=
  (Surroundings.keeps_behind _ _ i).trans (takes_stepped step i s).keeps

/-- The steps for inputs, the first of which can be read, from where the step for it leads. What
that step has written makes no difference to the inputs that are left. -/
theorem steps_stepped (step : Input → Text → σ → Traced σ Text)
    (hi : s.surroundings.readable i = true)
    (hrest : ∀ i' ∈ rest, s.sink.target.feeds i' = false) :
    let left := steps step (stepped step i s).surroundings rest (stepped step i s).asked
    (steps step s.surroundings (i :: rest) s.asked).result = output step i s :: left.result ∧
      (steps step s.surroundings (i :: rest) s.asked).state = left.state := by
  intro left
  have htakes := takes_stepped step i s
  have hleft : left = steps step (s.surroundings.behind i) rest (stepped step i s).asked :=
    steps_congr htakes.keeps htakes.standardInput hrest _
  rw [hleft, steps_of_readable hi]
  exact ⟨rfl, rfl⟩

theorem ending_stepped (hi : s.surroundings.readable i = true)
    (hrest : ∀ i' ∈ rest, s.sink.target.feeds i' = false) :
    Command.ending s.surroundings (i :: rest)
      = Command.ending (stepped step i s).surroundings rest := by
  rw [ending_of_readable hi, ending_congr (takes_stepped step i s).keeps hrest]

/-- A command that reads nothing of what it writes does its steps for the texts that its inputs
have at its start. -/
theorem ran_eachInput (hfeeds : ∀ i ∈ inputs, s.sink.target.feeds i = false) :
    Ran step inputs s (eachInput step inputs s) := by
  induction inputs generalizing s with
  | nil => exact ⟨rfl, (List.append_nil _).symm, rfl, rfl, .refl _ _⟩
  | cons i rest ih =>
      cases hi : s.surroundings.readable i with
      | false =>
          rw [eachInput_of_not_readable hi]
          exact ⟨rfl, by rw [steps_of_not_readable hi]; exact (List.append_nil _).symm,
            by rw [steps_of_not_readable hi]; rfl, (ending_of_not_readable hi rest).symm, .refl _ _⟩
      | true =>
          have hrest : ∀ i' ∈ rest, s.sink.target.feeds i' = false :=
            fun i' hi' => hfeeds i' (List.mem_cons_of_mem i hi')
          have htarget : (stepped step i s).sink.target = s.sink.target :=
            (takes_stepped step i s).target
          have hran := ih (s := stepped step i s) (htarget.symm ▸ hrest)
          obtain ⟨hresult, hstate⟩ := eachInput_of_readable step hi rest
          obtain ⟨houtputs, hasked⟩ := steps_stepped step hi hrest
          constructor
          · rw [hstate, hran.target, htarget]
          · rw [hstate, hran.taken, taken_stepped, houtputs, List.flatMap_cons, List.append_assoc]
          · rw [hstate, hran.asked, hasked]
          · rw [hresult, hran.ending, ending_stepped hi hrest]
          · rw [hstate]
            exact (keeps_stepped step i s).trans (htarget ▸ hran.keeps)

/-- Behind a command all of its output is in the target. -/
theorem written_finish {α : Type} (x : Traced (Scene σ) α) :
    (finish x).state.surroundings.written x.state.sink.target = x.state.taken :=
  Sink.written_flush _ _

/-- A file that is written to is there in the end, be it empty. -/
theorem isSome_contents?_finish {α : Type} {x : Traced (Scene σ) α} {path : Text}
    (h : x.state.sink.target = .file path) :
    ((finish x).state.surroundings.contents? path).isSome = true := by
  show ((x.state.surroundings.append x.state.sink.target x.state.sink.pending).contents?
    path).isSome = true
  rw [h, Surroundings.append, Surroundings.contents?_withFile, if_pos rfl]
  rfl

theorem keeps_finish {α : Type} (x : Traced (Scene σ) α) :
    x.state.surroundings.Keeps x.state.sink.target (finish x).state.surroundings :=
  (Sink.takes_flush _ _).keeps

end Command

end BareUrl.Program
