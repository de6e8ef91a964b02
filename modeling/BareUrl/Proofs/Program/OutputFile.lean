import BareUrl.Proofs.Program.Work
import Mathlib.Data.List.TakeWhile

/-!
# `BareUrl.Proofs.Program.OutputFile`: writing to a file

A run that is given an output file leaves the conversions of its inputs in it (`run_output`), unless
that file is one of the inputs. The output is opened first, which empties the file, so what it held
is lost whatever the run does with it (`workWith_withFile`). `run_output_emptied` shows a page that
is to be converted in place and is gone.
-/

set_option autoImplicit false

namespace BareUrl.Program

open Resolver (cached)
open Command (conversions)

variable {σ : Type} {arguments : List Text} {c : CommandLine} {config : Config} {setup : Setup}
  {notes : List Note} {path : Text} {w : Surroundings}

/-! ### Runs that get to work -/

/-- A run whose configuration makes sense does its work, with what was logged until then in front
of what is said. -/
theorem run_of_setup (network : Exchange.Network σ) (hread : CommandLine.read arguments = .ok c)
    (hconfig : configure c w = .ok config) (hsetup : config.setup = (.ok setup, notes)) (s : σ) :
    let o := workWith (setup.lookup.resolver network) c config setup.converter w s
    run network arguments w s = { o with said := shownLines c.verbosity notes ++ o.said } := by
  simp only [run, hread, runWith, hconfig, hsetup]
  rfl

/-- Nobody is asked offline, and without further settings all is as usual. -/
theorem setup_offline (hoffline : config.offline = true) (hproviders : config.providers = [])
    (hsettings : config.settings = Settings.usual) :
    config.setup
      = (.ok ⟨.usual, .offline Provider.known⟩, [Config.offlineNote Provider.known]) := by
  have hall : config.allProviders = .ok Provider.known := by
    rw [Config.allProviders, hproviders]
    rfl
  have hmake : Converter.make Settings.usual = .ok Converter.usual := rfl
  rw [Config.setup, Config.lookup, hall, hsettings, hmake]
  simp only [hoffline, if_true]

/-! ### The output file -/

theorem target_eq_file (h : config.output = some path) : target config = .file path := by
  rw [target, h]
  rfl

theorem open?_file (h : w.canCreate path = true) :
    Sink.open? (.file path) w = some (⟨.file path, []⟩, w.withFile path []) := by
  rw [Sink.open?, if_pos h]

/-- Without an output nothing is done. -/
theorem workWith_of_not_canCreate (r : Resolver σ) (converter : Converter) (s : σ)
    (houtput : config.output = some path) (h : w.canCreate path = false) :
    workWith r c config converter w s
      = ⟨.failure, w, [failureLine "Cannot open output".toList], s⟩ := by
  rw [workWith, target_eq_file houtput, Sink.open?, if_neg (by simp [h])]

/-- A run with an output file that none of its inputs is read from. It goes well exactly if the
file can be created and all inputs can be read. Then the file holds the conversions of the inputs,
as they were before the run, one behind the other. Nothing but that file is changed, however the run
ends. -/
theorem run_output (network : Exchange.Network σ) (hread : CommandLine.read arguments = .ok c)
    (hconfig : configure c w = .ok config) (hsetup : config.setup = (.ok setup, notes))
    (hdump : config.dump = false) (houtput : config.output = some path)
    (hfeeds : ∀ i ∈ c.inputs, (Target.file path).feeds i = false) (s : σ) :
    let o := run network arguments w s
    let texts := (w.texts c.inputs).map Prod.snd
    let converted := Traced.each
      (setup.converter.convert (cached (setup.lookup.resolver network))) texts (.empty s)
    (o.exit = .success ↔ w.canCreate path = true ∧ ∀ i ∈ c.inputs, w.readable i = true) ∧
    (o.exit = .success →
      o.surroundings.contents? path = some (converted.result.flatMap Text.Utf8.encode)) ∧
    w.Keeps (.file path) o.surroundings := by
  intro o texts converted
  let r := setup.lookup.resolver network
  let o' := workWith r c config setup.converter w s
  have hrun : o.exit = o'.exit ∧ o.surroundings = o'.surroundings := by
    show (run network arguments w s).exit = _ ∧ (run network arguments w s).surroundings = _
    rw [run_of_setup network hread hconfig hsetup s]
    exact ⟨rfl, rfl⟩
  rw [hrun.1, hrun.2]
  have htarget := target_eq_file houtput
  cases hcreate : w.canCreate path with
  | false =>
      have hwork : o' = _ := workWith_of_not_canCreate r setup.converter s houtput hcreate
      rw [hwork]
      exact ⟨by simp, fun h => absurd h (by simp), .refl _ _⟩
  | true =>
      have hopen : Sink.open? (target config) w = some (⟨.file path, []⟩, w.withFile path []) := by
        rw [htarget]
        exact open?_file hcreate
      have hworked : Worked r c config setup.converter w s o' :=
        worked r setup.converter s hdump hopen (by rwa [htarget])
      refine ⟨?_, fun hsuccess => ?_, htarget ▸ hworked.keeps⟩
      · rw [hworked.exit]
        simp
      · have hall : ∀ i ∈ c.inputs, w.readable i = true := by
          rw [hworked.exit] at hsuccess
          simpa using hsuccess
        -- As all inputs can be read, the command comes to the end of the list.
        have hconversions : conversions setup.converter (cached r) w c.inputs (.empty s)
            = converted := by
          rw [conversions, List.takeWhile_eq_self_iff.2 hall]
        obtain ⟨bytes, hbytes⟩ := Option.isSome_iff_exists.1 (hworked.created path htarget)
        have hwritten := hworked.written
        rw [htarget, hconversions, Surroundings.written, hbytes] at hwritten
        rw [hbytes]
        exact congrArg some hwritten

/-- Pages are joined in another file. -/
theorem run_output_joined :
    let arguments := ["--offline", "--output", "out", "a", "b"].map String.toList
    let w : Surroundings := ⟨[(['a'], Text.Utf8.encode "https://youtu.be/x ".toList),
      (['b'], Text.Utf8.encode "<b>".toList)], [], [], []⟩
    let c : CommandLine := { CommandLine.empty with
      inputs := [.file ['a'], .file ['b']], output := some "out".toList, offline := true }
    let nobody : Exchange.Network Unit := fun _ _ => (.silence, ())
    let o := run nobody arguments w ()
    CommandLine.read arguments = .ok c ∧ configure c w = .ok c.config ∧
      c.config.setup
        = (.ok ⟨.usual, .offline Provider.known⟩, [Config.offlineNote Provider.known]) ∧
      c.config.dump = false ∧ c.config.output = some "out".toList ∧
      (∀ i ∈ c.inputs, (Target.file "out".toList).feeds i = false) ∧ o.exit = .success ∧
      o.surroundings.contents? "out".toList = some (Text.Utf8.encode
        (Converter.placeholder "https://youtu.be/x".toList ++ " <b>".toList)) := by
  intro arguments w c nobody o
  have hread : CommandLine.read arguments = .ok c := by decide +kernel
  have hconfig : configure c w = .ok c.config := by decide +kernel
  have hsetup : c.config.setup
      = (.ok ⟨.usual, .offline Provider.known⟩, [Config.offlineNote Provider.known]) :=
    setup_offline rfl rfl rfl
  have hfeeds : ∀ i ∈ c.inputs, (Target.file "out".toList).feeds i = false := by decide +kernel
  obtain ⟨hexit, hcontents, -⟩ :=
    run_output nobody hread hconfig hsetup rfl rfl hfeeds ()
  have hsuccess : o.exit = .success := hexit.2 (by decide +kernel)
  exact ⟨hread, hconfig, hsetup, rfl, rfl, hfeeds, hsuccess,
    (hcontents hsuccess).trans (by decide +kernel)⟩

/-! ### An input that is the output file -/

/-- The same paths are there if a file has another content. -/
theorem any_withFile (h : (w.contents? path).isSome = true) (bytes : List UInt8)
    (q : Text → Bool) :
    ((w.withFile path bytes).files.any fun f => q f.1) = w.files.any fun f => q f.1 := by
  obtain ⟨old, hold⟩ := Option.isSome_iff_exists.1 h
  obtain ⟨before, after, hfiles, -⟩ := List.lookup_eq_some_iff.1 hold
  have hmem : (Surroundings.plainPath path, old) ∈ w.files := by simp [hfiles]
  rw [Bool.eq_iff_iff, List.any_eq_true, List.any_eq_true]
  constructor
  · rintro ⟨f, hf, hq⟩
    rcases List.mem_append.1 hf with hf | hf
    · exact ⟨f, (List.mem_filter.1 hf).1, hq⟩
    · obtain rfl := List.mem_singleton.1 hf
      exact ⟨_, hmem, hq⟩
  · rintro ⟨f, hf, hq⟩
    by_cases hpath : f.1 = Surroundings.plainPath path
    · rw [hpath] at hq
      exact ⟨_, List.mem_append_right _ (List.mem_singleton.2 rfl), hq⟩
    · exact ⟨f, List.mem_append_left _ (List.mem_filter.2 ⟨hf, by simpa using hpath⟩), hq⟩

theorem isDirectory_withFile (h : (w.contents? path).isSome = true) (bytes : List UInt8) :
    (w.withFile path bytes).isDirectory = w.isDirectory := by
  funext p
  rw [Surroundings.isDirectory, Surroundings.isDirectory]
  refine congrArg _ (any_withFile h bytes fun name =>
    (Surroundings.directories name).elem (Surroundings.plainPath p))

theorem canCreate_withFile (h : (w.contents? path).isSome = true) (bytes : List UInt8) :
    (w.withFile path bytes).canCreate = w.canCreate := by
  funext p
  rw [Surroundings.canCreate, Surroundings.canCreate, isDirectory_withFile h]

/-- What an output file held before makes no difference to the run, not even if it is one of the
inputs. -/
theorem workWith_withFile (r : Resolver σ) (converter : Converter) (s : σ)
    (houtput : config.output = some path) (hfile : (w.contents? path).isSome = true)
    (hcreate : w.canCreate path = true) (bytes : List UInt8) :
    workWith r c config converter (w.withFile path bytes) s
      = workWith r c config converter w s := by
  have hcreate' : (w.withFile path bytes).canCreate path = true := by
    rw [canCreate_withFile hfile, hcreate]
  rw [workWith, workWith, target_eq_file houtput, open?_file hcreate, open?_file hcreate',
    Surroundings.withFile_withFile]

/-- A page that is to be converted in place is gone, although the run goes well. Printed, it would
be there with its URL embedded. -/
theorem run_output_emptied :
    let page := "<p>https://youtu.be/x</p>\n".toList
    let w : Surroundings := ⟨[("a.html".toList, Text.Utf8.encode page)], [], [], []⟩
    let arguments := ["--offline", "--output", "a.html", "a.html"].map String.toList
    let c : CommandLine := { CommandLine.empty with
      inputs := [.file "a.html".toList], output := some "a.html".toList, offline := true }
    let nobody : Exchange.Network Unit := fun _ _ => (.silence, ())
    let o := run nobody arguments w ()
    CommandLine.read arguments = .ok c ∧ configure c w = .ok c.config ∧
      c.config.setup
        = (.ok ⟨.usual, .offline Provider.known⟩, [Config.offlineNote Provider.known]) ∧
      w.texts c.inputs = [(.file "a.html".toList, page)] ∧
      (Converter.usual.convert (Resolver.offline Provider.known) page ()).result
        = "<p>".toList ++ Converter.placeholder "https://youtu.be/x".toList ++ "</p>\n".toList ∧
      o.exit = .success ∧ o.surroundings.contents? "a.html".toList = some [] := by
  intro page w arguments c nobody o
  refine ⟨?_, ?_, setup_offline rfl rfl rfl, ?_, ?_, ?_, ?_⟩ <;> decide +kernel

end BareUrl.Program
