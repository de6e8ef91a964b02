import BareUrl.CommandLine.Reader
import BareUrl.Config.File
import Mathlib.Tactic.Common

/-!
# `BareUrl.Proofs.Config.Merge`: which setting counts

A setting may be given on the command line and in a file. `Config.merge` sees values only, not
whether they were given. So what is given on the command line counts as long as it is not what is
usual anyway (`merge_given`). A usual value does not stand against the file, even if it is spelled
out (`merge_given_usual`). This can happen to five of the nine settings: the other four have no flag
that says what is usual (`Setting.Telling`).
-/

set_option autoImplicit false

namespace BareUrl

/-! ### Settings -/

/-- The settings that a command line and a file both have, apart from headers, by the type of their
values. -/
inductive Setting : Type → Type where
  | verbosity : Setting Verbosity
  | output : Setting (Option Text)
  | leader : Setting Text
  | protocols : Setting (List Text)
  | excluded : Setting (List Text)
  | offline : Setting Bool
  | timeout : Setting Nat
  | agent : Setting Text
  | dump : Setting Bool

namespace Setting

variable {α : Type}

/-- The value of a setting in a configuration. -/
def of : Setting α → Config → α
  | .verbosity, c => c.verbosity
  | .output, c => c.output
  | .leader, c => c.leader
  | .protocols, c => c.protocols
  | .excluded, c => c.excluded
  | .offline, c => c.offline
  | .timeout, c => c.timeout
  | .agent, c => c.agent
  | .dump, c => c.dump

/-- The value that a command line gives to a setting, if it does. -/
def given : Setting α → CommandLine → Option α
  | .verbosity, c => if c.louder = 0 ∧ c.quieter = 0 then none else some c.verbosity
  | .output, c => c.output.map some
  | .leader, c => c.leader
  | .protocols, c => c.protocols
  | .excluded, c => c.excluded
  | .offline, c => if c.offline then some true else none
  | .timeout, c => c.timeout
  | .agent, c => c.agent
  | .dump, c => if c.dump then some true else none

/-- The settings whose usual value is that no flag is given. -/
inductive Telling : {α : Type} → Setting α → Prop where
  | verbosity : Telling .verbosity
  | output : Telling .output
  | offline : Telling .offline
  | dump : Telling .dump

/-- A setting of merged configurations is picked from the two. -/
theorem of_merge (x : Setting α) (chosen file : Config) :
    (x.of chosen ≠ x.of Config.usual → x.of (chosen.merge file) = x.of chosen) ∧
      (x.of chosen = x.of Config.usual → x.of (chosen.merge file) = x.of file) := by
  cases x <;> exact ⟨fun h => if_neg h, fun h => if_pos h⟩

/-- What a command line chooses is what it gives, or as usual. -/
theorem of_config (x : Setting α) (c : CommandLine) :
    x.of c.config = (x.given c).getD (x.of Config.usual) := by
  have hswitch : ∀ b : Bool, b = (if b then some true else none).getD false := by decide
  cases x with
  | leader => rfl
  | protocols => rfl
  | excluded => rfl
  | timeout => rfl
  | agent => rfl
  | output =>
      show c.output = (c.output.map some).getD none
      cases c.output <;> rfl
  | offline => exact hswitch c.offline
  | dump => exact hswitch c.dump
  | verbosity =>
      show c.verbosity = (if c.louder = 0 ∧ c.quieter = 0 then none else some c.verbosity).getD _
      split
      · rename_i h
        rw [CommandLine.verbosity, h.1, h.2]
        rfl
      · rfl

end Setting

/-! ### Command lines -/

namespace CommandLine

theorem of_finish {r : Reading} {c : CommandLine} (h : r.finish = .ok c) :
    r.settle = .ok c ∧ ¬(0 < c.louder ∧ 0 < c.quieter) ∧ c.inputs ≠ [] := by
  rw [Reading.finish] at h
  cases hsettle : r.settle with
  | error e =>
      rw [hsettle] at h
      cases h
  | ok said =>
      simp only [hsettle] at h
      split at h
      · cases h
      · rename_i hboth
        split at h
        · cases h
        · rename_i hinputs
          obtain rfl : said = c := Except.ok.inj h
          exact ⟨rfl, hboth, hinputs⟩

/-- No command line that can be run asks for more and for less to be logged, and each has an
input. -/
theorem of_read {arguments : List Text} {c : CommandLine} (h : read arguments = .ok c) :
    ¬(0 < c.louder ∧ 0 < c.quieter) ∧ c.inputs ≠ [] := by
  rw [read] at h
  cases hfold : arguments.foldlM Reading.step ⟨.empty, none, false⟩ with
  | error e =>
      rw [hfold] at h
      cases h
  | ok r =>
      rw [hfold] at h
      exact (of_finish h).2

end CommandLine

/-! ### Precedence -/

open CommandLine (read)

/-- A flag that is given tells something else than what is usual, where the setting has no flag for
that. -/
theorem Setting.Telling.given_ne {α : Type} {x : Setting α} (hx : x.Telling) {c : CommandLine}
    {v : α} (hboth : ¬(0 < c.louder ∧ 0 < c.quieter)) (h : x.given c = some v) :
    v ≠ x.of Config.usual := by
  have hswitch : ∀ b v : Bool, (if b then some true else none) = some v → v ≠ false := by
    decide
  cases hx with
  | verbosity =>
      rw [Setting.given] at h
      split at h
      · cases h
      · rename_i hsome
        rw [← Option.some.inj h]
        intro hv
        have hsteps : (c.louder : Int) - c.quieter = 0 := congrArg Verbosity.steps hv
        omega
  | output =>
      obtain ⟨path, -, rfl⟩ := Option.map_eq_some_iff.1 h
      exact Option.some_ne_none path
  | offline => exact hswitch c.offline v h
  | dump => exact hswitch c.dump v h

namespace Config

variable {α : Type}

/-- A value that is given on the command line counts, whatever the file says, unless it is what is
usual: then the file counts. How much is logged, where the output goes, and whether to be offline or
to dump, always counts if it is given. -/
theorem merge_given {arguments : List Text} {c : CommandLine} (hread : read arguments = .ok c)
    (file : Config) (x : Setting α) {v : α} (hgiven : x.given c = some v) :
    (v ≠ x.of usual → x.of (c.config.merge file) = v) ∧
      (v = x.of usual → x.of (c.config.merge file) = x.of file) ∧
      (x.Telling → x.of (c.config.merge file) = v) := by
  have hv : x.of c.config = v := by rw [x.of_config c, hgiven, Option.getD_some]
  obtain ⟨hchosen, hfile⟩ := x.of_merge c.config file
  rw [hv] at hchosen hfile
  exact ⟨hchosen, hfile,
    fun hx => hchosen (hx.given_ne (CommandLine.of_read hread).1 hgiven)⟩

/-- What is not given on the command line is as the file says. -/
theorem merge_not_given (c : CommandLine) (file : Config) (x : Setting α)
    (h : x.given c = none) : x.of (c.config.merge file) = x.of file := by
  refine (x.of_merge c.config file).2 ?_
  rw [x.of_config c, h, Option.getD_none]

/-- A timeout that is not the usual one, and a flag that is in the way of the file. -/
theorem merge_given_unusual :
    let arguments := ["-vt4".toList, "a".toList]
    let c : CommandLine := { CommandLine.empty with
      inputs := [.file ['a']], louder := 1, timeout := some 4 }
    let file : Config := { usual with verbosity := ⟨3⟩, timeout := 3 }
    read arguments = .ok c ∧
      ofBytes (Text.Utf8.encode "verbose = \"trace\"\ntimeout = 3".toList) = .ok file ∧
      Setting.timeout.given c = some 4 ∧ (c.config.merge file).timeout = 4 ∧
      Setting.verbosity.given c = some ⟨1⟩ ∧ (c.config.merge file).verbosity = ⟨1⟩ := by
  intro arguments c file
  have hread : read arguments = .ok c := by decide +kernel
  refine ⟨hread, by decide +kernel, rfl, ?_, rfl, ?_⟩
  · exact (merge_given hread file .timeout rfl).1 (by decide)
  · exact (merge_given hread file .verbosity rfl).2.2 .verbosity

/-- The usual timeout, spelled out. The file counts all the same. -/
theorem merge_given_usual :
    let arguments := ["--timeout".toList, "10".toList, "a".toList]
    let c : CommandLine := { CommandLine.empty with inputs := [.file ['a']], timeout := some 10 }
    let file : Config := { usual with timeout := 3 }
    read arguments = .ok c ∧ ofBytes (Text.Utf8.encode "timeout = 3".toList) = .ok file ∧
      Setting.timeout.given c = some 10 ∧ (c.config.merge file).timeout = 3 := by
  decide +kernel

end Config

end BareUrl
