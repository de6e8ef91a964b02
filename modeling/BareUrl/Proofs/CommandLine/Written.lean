import BareUrl.CommandLine.Message
import Mathlib.Data.List.TakeWhile

/-!
# `BareUrl.Proofs.CommandLine.Written`: a command line that is written can be read

A flag is written with its name, and its value, if it takes one, behind an equals sign
(`Occurrence.written`). `read_written` says that arguments which are written so, and inputs behind
two lone hyphens, are read as the flags say one after another. That holds whatever the values and
the inputs are, even if they look like flags.
-/

set_option autoImplicit false

namespace BareUrl.CommandLine

/-! ### Flags -/

namespace Flag

theorem mem_all (f : Flag) : f ∈ all := by cases f <;> decide

theorem ofName?_name (f : Flag) : ofName? f.name.toList = some f := by
  have h : ∀ f ∈ all, ofName? f.name.toList = some f := by decide +kernel
  exact h f (mem_all f)

theorem written_eq (f : Flag) : f.written = '-' :: '-' :: f.name.toList := by
  have h : "--".toList = ['-', '-'] := by decide
  rw [written, h]
  rfl

theorem name_plain (f : Flag) :
    (∀ d ∈ f.name.toList, decide (d ≠ '=') = true) ∧ f.name.toList ≠ [] := by
  have h : ∀ f ∈ all, f.name.toList.all (· ≠ '=') = true ∧ f.name.toList ≠ [] := by
    decide +kernel
  obtain ⟨hall, hne⟩ := h f (mem_all f)
  exact ⟨List.all_eq_true.1 hall, hne⟩

end Flag

namespace Reading

variable (r : Reading) (f : Flag)

/-- A name alone is read whole. -/
theorem long_bare (h : f.takesValue = false) : r.long f.name.toList = r.flag f := by
  obtain ⟨hname, -⟩ := f.name_plain
  have hall : f.name.toList.takeWhile (· ≠ '=') = f.name.toList :=
    List.takeWhile_eq_self_iff.2 hname
  have hnone : f.name.toList.dropWhile (· ≠ '=') = [] := List.dropWhile_eq_nil_iff.2 hname
  rw [long, hall, hnone]
  simp [Flag.ofName?_name, h]

/-- The name of a flag ends where the value begins. -/
theorem long_valued (h : f.takesValue = true) (value : Text) :
    r.long (f.name.toList ++ '=' :: value) = r.flagWith f value := by
  obtain ⟨hname, -⟩ := f.name_plain
  rw [long, List.takeWhile_append_of_pos hname, List.dropWhile_append_of_pos hname]
  simp [Flag.ofName?_name, h]

theorem step_long (hinputs : r.onlyInputs = false) (tail : Text) :
    r.step (f.written ++ tail) = r.long (f.name.toList ++ tail) := by
  obtain ⟨d, ds, hname⟩ := List.exists_cons_of_ne_nil f.name_plain.2
  rw [Flag.written_eq, hname]
  unfold step
  rw [hinputs]
  rfl

end Reading

/-! ### Flags with their values -/

/-- A flag that is given, and its value if it has one. -/
structure Occurrence where
  flag : Flag
  value : Option Text

namespace Occurrence

/-- The flag as an argument, its value behind an equals sign. -/
def written (o : Occurrence) : Text := o.flag.written ++ (o.value.map ('=' :: ·)).getD []

/-- The flag has a value if it takes one. -/
def Fits (o : Occurrence) : Prop := o.flag.takesValue = o.value.isSome

/-- What the flag adds to what has been said. -/
def note (c : CommandLine) (o : Occurrence) : Except Refusal CommandLine :=
  match o.value with
  | none => c.note o.flag
  | some value => c.noteValue o.flag value

theorem step_written {o : Occurrence} (h : o.Fits) (c : CommandLine) :
    Reading.step ⟨c, none, false⟩ o.written = (note c o).map (⟨·, none, false⟩) := by
  obtain ⟨f, value⟩ := o
  cases value with
  | none =>
      show Reading.step ⟨c, none, false⟩ (f.written ++ []) = (c.note f).map _
      rw [Reading.step_long _ f rfl, List.append_nil, Reading.long_bare _ f h]
      show (c.note f).bind (fun said => .ok (Reading.mk said none false)) = _
      cases c.note f <;> rfl
  | some value =>
      show Reading.step ⟨c, none, false⟩ (f.written ++ '=' :: value) = (c.noteValue f value).map _
      rw [Reading.step_long _ f rfl, Reading.long_valued _ f h]
      show (c.noteValue f value).bind (fun said => .ok (Reading.mk said none false)) = _
      cases c.noteValue f value <;> rfl

/-- Flags are read one after another. -/
theorem foldlM_written {os : List Occurrence} (h : ∀ o ∈ os, o.Fits) (c : CommandLine) :
    (os.map written).foldlM Reading.step ⟨c, none, false⟩
      = (os.foldlM note c).map (⟨·, none, false⟩) := by
  induction os generalizing c with
  | nil => rfl
  | cons o os ih =>
      rw [List.map_cons, List.foldlM_cons, List.foldlM_cons,
        step_written (h o List.mem_cons_self)]
      cases note c o with
      | error e => rfl
      | ok c' => exact ih (fun o ho => h o (List.mem_cons_of_mem _ ho)) c'

end Occurrence

/-! ### Inputs -/

/-- What is said with further inputs. -/
def withInputs (c : CommandLine) (inputs : List Text) : CommandLine :=
  { c with inputs := c.inputs ++ inputs.map Input.ofArgument }

/-- Behind two lone hyphens, every argument is an input. -/
theorem foldlM_inputs (inputs : List Text) (c : CommandLine) :
    inputs.foldlM Reading.step ⟨c, none, true⟩ = .ok ⟨c.withInputs inputs, none, true⟩ := by
  induction inputs generalizing c with
  | nil => simp [withInputs, pure, Except.pure]
  | cons i inputs ih =>
      have hstep : Reading.step ⟨c, none, true⟩ i = .ok ⟨c.withInputs [i], none, true⟩ := rfl
      have hrest : (c.withInputs [i]).withInputs inputs = c.withInputs (i :: inputs) := by
        simp [withInputs]
      rw [List.foldlM_cons, hstep, ← hrest]
      exact ih _

/-- Arguments that are written from flags, with inputs behind two hyphens, are read as the flags
say. -/
theorem read_written {os : List Occurrence} (h : ∀ o ∈ os, o.Fits) (inputs : List Text) :
    read (os.map Occurrence.written ++ ['-', '-'] :: inputs)
      = (os.foldlM Occurrence.note .empty).bind fun c =>
        Reading.finish ⟨c.withInputs inputs, none, true⟩ := by
  rw [read, List.foldlM_append, Occurrence.foldlM_written h]
  cases os.foldlM Occurrence.note .empty with
  | error e => rfl
  | ok c =>
      have hall : (['-', '-'] :: inputs).foldlM Reading.step ⟨c, none, false⟩
          = .ok ⟨c.withInputs inputs, none, true⟩ := foldlM_inputs inputs c
      simp only [Except.map, bind, Except.bind, hall]

end BareUrl.CommandLine
