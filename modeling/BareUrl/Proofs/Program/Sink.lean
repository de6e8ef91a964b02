import BareUrl.Program.Sink

/-!
# `BareUrl.Proofs.Program.Sink`: what has been written

A sink writes when it likes, but loses nothing and mixes nothing up. What it has taken is what has
been written to its target, followed by what it has collected (`Sink.taken`), and taking more
output adds to the end of that (`takes_write`). `takes_flush` says that nothing is collected
behind a flush, so all that was taken is in the target then.

Writing changes nothing but the target (`Surroundings.Keeps`). For files that rests on
`contents?_withFile`: a file that is written to has its new content, and every other one the
content that it had.
-/

set_option autoImplicit false

namespace BareUrl.Program

/-- `true` if the target is the file that the path leads to. -/
def Target.names : Target → Text → Bool
  | .standardOutput, _ => false
  | .file path, path' => Surroundings.plainPath path' == Surroundings.plainPath path

namespace Surroundings

/-- What has been written to a target. -/
def written (w : Surroundings) : Target → List UInt8
  | .standardOutput => w.standardOutput
  | .file path => (w.contents? path).getD []

/-- Of what can be written to, nothing but the target may have changed. -/
structure Keeps (target : Target) (w w' : Surroundings) : Prop where
  standardOutput : target ≠ .standardOutput → w'.standardOutput = w.standardOutput
  contents? : ∀ path, target.names path = false → w'.contents? path = w.contents? path

variable {target : Target} {w w' w'' : Surroundings}

theorem Keeps.refl (target : Target) (w : Surroundings) : Keeps target w w :=
  ⟨fun _ => rfl, fun _ _ => rfl⟩

theorem Keeps.trans (h : Keeps target w w') (h' : Keeps target w' w'') : Keeps target w w'' where
  standardOutput hne := (h'.standardOutput hne).trans (h.standardOutput hne)
  contents? path hpath := (h'.contents? path hpath).trans (h.contents? path hpath)

/-- A look-up does not find what has been filtered out. -/
theorem lookup_filter_ne (files : List (Text × List UInt8)) (path name : Text) :
    (files.filter fun f => f.1 != name).lookup path
      = if path = name then none else files.lookup path := by
  induction files with
  | nil => simp
  | cons f files ih =>
      obtain ⟨path', bytes⟩ := f
      rw [List.filter_cons]
      by_cases hname : path' = name
      · subst hname
        rw [if_neg (by simp), ih, List.lookup_cons]
        by_cases hpath : path = path'
        · rw [if_pos hpath, if_pos hpath]
        · rw [if_neg hpath, if_neg hpath, beq_false_of_ne hpath]
      · rw [if_pos (by simpa using hname), List.lookup_cons, List.lookup_cons, ih]
        by_cases hpath : path = path'
        · subst hpath
          rw [beq_self_eq_true]
          exact (if_neg hname).symm
        · rw [beq_false_of_ne hpath]

/-- A file that is written to has its new content, and every other one the content it had. -/
theorem contents?_withFile (w : Surroundings) (path path' : Text) (bytes : List UInt8) :
    (w.withFile path bytes).contents? path'
      = if plainPath path' = plainPath path then some bytes else w.contents? path' := by
  show (w.files.filter (fun f => f.1 != plainPath path) ++ [(plainPath path, bytes)]).lookup
    (plainPath path') = _
  rw [List.lookup_append, lookup_filter_ne]
  by_cases h : plainPath path' = plainPath path
  · rw [if_pos h, if_pos h, h, Option.none_or, List.lookup_cons, beq_self_eq_true]
  · rw [if_neg h, if_neg h, List.lookup_cons, beq_false_of_ne h, List.lookup_nil, Option.or_none]
    rfl

/-- What was in a file before it was written to makes no difference. -/
theorem withFile_withFile (w : Surroundings) (path : Text) (bytes bytes' : List UInt8) :
    (w.withFile path bytes).withFile path bytes' = w.withFile path bytes' := by
  simp [withFile, List.filter_append]

theorem keeps_withFile (w : Surroundings) (path : Text) (bytes : List UInt8) :
    Keeps (.file path) w (w.withFile path bytes) where
  standardOutput _ := rfl
  contents? path' hpath := by
    rw [contents?_withFile, if_neg]
    simpa [Target.names] using hpath

theorem keeps_append (w : Surroundings) (target : Target) (bytes : List UInt8) :
    Keeps target w (w.append target bytes) := by
  cases target with
  | standardOutput => exact ⟨fun h => absurd rfl h, fun _ _ => rfl⟩
  | file path => exact keeps_withFile w path _

/-- What is added comes last. -/
theorem written_append (w : Surroundings) (target : Target) (bytes : List UInt8) :
    (w.append target bytes).written target = w.written target ++ bytes := by
  cases target with
  | standardOutput => rfl
  | file path => simp [written, append, contents?_withFile]

theorem standardInput_append (w : Surroundings) (target : Target) (bytes : List UInt8) :
    (w.append target bytes).standardInput = w.standardInput := by
  cases target <;> rfl

end Surroundings

namespace Sink

open Surroundings (Keeps)

/-- All that a sink has taken: what is written and, behind it, what is collected. -/
def taken (k : Sink) (w : Surroundings) : List UInt8 := w.written k.target ++ k.pending

/-- Behind a step the sink has taken more output, and only its target has changed. -/
structure Takes (k : Sink) (w : Surroundings) (bytes : List UInt8) (x : Sink × Surroundings) :
    Prop where
  target : x.1.target = k.target
  taken : x.1.taken x.2 = k.taken w ++ bytes
  keeps : Keeps k.target w x.2
  standardInput : x.2.standardInput = w.standardInput

variable {k : Sink} {w : Surroundings} {bytes bytes' : List UInt8} {x y : Sink × Surroundings}

theorem Takes.trans (h : k.Takes w bytes x) (h' : x.1.Takes x.2 bytes' y) :
    k.Takes w (bytes ++ bytes') y where
  target := h'.target.trans h.target
  taken := by rw [h'.taken, h.taken, List.append_assoc]
  keeps := h.keeps.trans (h.target ▸ h'.keeps)
  standardInput := h'.standardInput.trans h.standardInput

/-- Output may be collected. -/
theorem takes_collected (k : Sink) (w : Surroundings) (bytes : List UInt8) :
    k.Takes w bytes (⟨k.target, k.pending ++ bytes⟩, w) where
  target := rfl
  taken := (List.append_assoc _ _ _).symm
  keeps := .refl _ _
  standardInput := rfl

/-- Output may be written at once, if nothing is collected that would have to come before it. -/
theorem takes_written (w : Surroundings) (bytes : List UInt8) (h : k.pending = []) :
    k.Takes w bytes (k, w.append k.target bytes) where
  target := rfl
  taken := by
    show (w.append k.target bytes).written k.target ++ k.pending
      = w.written k.target ++ k.pending ++ bytes
    rw [Surroundings.written_append, h, List.append_nil, List.append_nil]
  keeps := Surroundings.keeps_append _ _ _
  standardInput := Surroundings.standardInput_append _ _ _

/-- What is collected may be written. -/
theorem takes_flush (k : Sink) (w : Surroundings) : k.Takes w [] (k.flush w) where
  target := rfl
  taken := by
    show (w.append k.target k.pending).written k.target ++ []
      = w.written k.target ++ k.pending ++ []
    rw [Surroundings.written_append]
  keeps := Surroundings.keeps_append _ _ _
  standardInput := Surroundings.standardInput_append _ _ _

/-- Whether it is collected or written, output is taken in the order in which it comes. -/
theorem takes_write (k : Sink) (bytes : List UInt8) (w : Surroundings) :
    k.Takes w bytes (k.write bytes w) := by
  rw [write]
  split
  · exact takes_collected k w bytes
  · rename_i hfull
    by_cases hflush : capacity < k.pending.length + bytes.length
    · have hempty : (k.flush w).1.pending = [] := rfl
      rw [if_pos hflush]
      show k.Takes w bytes (if capacity ≤ bytes.length then _ else _)
      split
      · exact (takes_flush k w).trans (takes_written _ bytes hempty)
      · exact (takes_flush k w).trans (takes_collected _ _ bytes)
    · rw [if_neg hflush]
      show k.Takes w bytes (if capacity ≤ bytes.length then _ else _)
      split
      · -- The output fills the room alone, so there is nothing in front of it.
        have hempty : k.pending = [] := List.length_eq_zero_iff.1 (by omega)
        exact takes_written w bytes hempty
      · exact takes_collected k w bytes

/-- Behind a flush all that was taken is in the target. -/
theorem written_flush (k : Sink) (w : Surroundings) :
    (k.flush w).2.written k.target = k.taken w := by
  have htaken := (takes_flush k w).taken
  rwa [List.append_nil, taken, show (k.flush w).1.pending = [] from rfl, List.append_nil] at htaken

end Sink

end BareUrl.Program
