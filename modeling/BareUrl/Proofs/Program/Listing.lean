import BareUrl.Proofs.Converter.Idempotence
import BareUrl.Proofs.Converter.Several
import BareUrl.Proofs.Program.Work

/-!
# `BareUrl.Proofs.Program.Listing`: what is listed is what is replaced

A dump lists the URLs that a conversion would look up, with the answers. `dump_shows_replaced` says
that it can be believed: from the same cache, and with the same resolver behind it, the dump makes
the same calls as the conversion, and an entry shows that its URL is embeddable exactly if the
conversion replaces that URL.

Both commands write while they read, so what is said of the inputs is said of those that are not
read from the output. `dump_calls_ne` shows an output that is read again. What the two commands have
written by then is not the same, so they go on with different texts.
-/

set_option autoImplicit false

namespace BareUrl.Program

open Converter (replacement placeholder embeds)
open Resolver (Cache Call Log cached logged)
open Url (Found)

variable {σ : Type}

/-! ### Entries -/

/-- The entry of a URL shows an answer that starts with the word. -/
def Shows (f : Found) (word : String) (entry : Text) : Prop :=
  f.url ++ " [".toList ++ word.toList <+: entry

namespace Command

/-- What an entry shows of an answer. -/
def shownAnswer : Answer → Text
  | .ok resolution => resolution.text
  | .error failure => "error: ".toList ++ failure.message

theorem dumpLine_eq (f : Found) (a : Answer) :
    dumpLine f a = f.url ++ " [".toList ++ (shownAnswer a ++ [']']) := by
  cases a <;> exact List.append_assoc _ _ _

theorem shows_dumpLine_iff (f : Found) (a : Answer) (word : String) :
    Shows f word (dumpLine f a) ↔ word.toList <+: shownAnswer a ++ [']'] := by
  rw [Shows, dumpLine_eq, List.prefix_append_right_inj]

theorem embeddableWord_eq : "embeddable".toList = 'e' :: 'm' :: "beddable".toList := by decide

theorem notEmbeddableWord_eq : "not embeddable".toList = 'n' :: "ot embeddable".toList := by decide

theorem errorWord_eq : "error: ".toList = 'e' :: 'r' :: "ror: ".toList := by decide

/-- The three answers start with three words, none of which starts with another. -/
theorem prefix_shownAnswer_iff (a : Answer) (rest : Text) :
    ("embeddable".toList <+: shownAnswer a ++ rest ↔ embeds a = true) ∧
      ("not embeddable".toList <+: shownAnswer a ++ rest ∨
        "error: ".toList <+: shownAnswer a ++ rest ↔ embeds a = false) := by
  -- What is shown of each answer starts with a letter that the other two do not start with.
  rcases a with e | (info | _)
  · have hshown : shownAnswer (.error e) ++ rest = "error: ".toList ++ (e.message ++ rest) :=
      List.append_assoc _ _ _
    rw [hshown]
    refine ⟨iff_of_false ?_ Bool.noConfusion, iff_of_true (.inr (List.prefix_append _ _)) rfl⟩
    simp [embeddableWord_eq, errorWord_eq]
  · obtain ⟨x, hx⟩ : ∃ x, shownAnswer (.ok (.embeddable info)) = "embeddable".toList ++ x := by
      rcases info with ⟨_ | name, kind, title, html, thumbnail⟩
      · exact ⟨[], (List.append_nil _).symm⟩
      · have hsplit : "embeddable (".toList = "embeddable".toList ++ " (".toList := by decide
        refine ⟨" (".toList ++ (name ++ [')']), ?_⟩
        show "embeddable (".toList ++ name ++ [')'] = _
        rw [hsplit, List.append_assoc, List.append_assoc]
    rw [hx, List.append_assoc]
    refine ⟨iff_of_true (List.prefix_append _ _) rfl, iff_of_false ?_ Bool.noConfusion⟩
    simp [embeddableWord_eq, notEmbeddableWord_eq, errorWord_eq]
  · have hshown : shownAnswer (.ok .notEmbeddable) = "not embeddable".toList := rfl
    rw [hshown]
    refine ⟨iff_of_false ?_ Bool.noConfusion, iff_of_true (.inl (List.prefix_append _ _)) rfl⟩
    simp [embeddableWord_eq, notEmbeddableWord_eq]

theorem shows_embeddable_iff (f : Found) (a : Answer) :
    Shows f "embeddable" (dumpLine f a) ↔ embeds a = true := by
  rw [shows_dumpLine_iff]
  exact (prefix_shownAnswer_iff a [']']).1

theorem shows_kept_iff (f : Found) (a : Answer) :
    Shows f "not embeddable" (dumpLine f a) ∨ Shows f "error: " (dumpLine f a)
      ↔ embeds a = false := by
  rw [shows_dumpLine_iff, shows_dumpLine_iff]
  exact (prefix_shownAnswer_iff a [']']).2

/-- The lines of a dump are about the URLs of the text, in order, and so are the lookups. -/
theorem dumpLines_eq (c : Converter) (r : Resolver σ) (t : Text) (s : σ) :
    let answers := Traced.each r (c.asked t) s
    (dumpLines c r t s).result = List.zipWith dumpLine (c.find t).1 answers.result ∧
      (dumpLines c r t s).state = answers.state :=
  Traced.each_map r (fun f : Found => Markup.decode f.url) dumpLine (c.find t).1 s

/-- The dumps of texts, one behind the other, have a line for each of their URLs. -/
theorem each_dumpInput (c : Converter) (r : Resolver σ) (ps : List (Input × Text)) (s : σ) :
    let ts := ps.map Prod.snd
    let answers := c.answers r ts s
    (Traced.each (fun p => dumpInput c r p.1 p.2) ps s).result.flatten
        = (List.zipWith dumpLine (c.joined ts).tokens answers.result).flatMap (· ++ ['\n']) ∧
      (Traced.each (fun p => dumpInput c r p.1 p.2) ps s).state = answers.state := by
  induction ps generalizing s with
  | nil => exact ⟨rfl, rfl⟩
  | cons p ps ih =>
      obtain ⟨hlines, hnext⟩ := dumpLines_eq c r p.2 s
      obtain ⟨hresult, hstate⟩ := c.answers_cons r p.2 (ps.map Prod.snd) s
      obtain ⟨hrest, hend⟩ := ih (Traced.each r (c.asked p.2) s).state
      have hdump : (dumpInput c r p.1 p.2 s).result
          = (dumpLines c r p.2 s).result.flatMap (· ++ ['\n']) := rfl
      have hleft : (dumpInput c r p.1 p.2 s).state = (Traced.each r (c.asked p.2) s).state := hnext
      constructor
      · rw [Traced.result_each_cons, List.flatten_cons, hdump, hleft, hrest, hlines, List.map_cons,
          hresult, Converter.joined, Cut.tokens_append, Converter.tokens_located,
          List.zipWith_append (c.length_answers r p.2 s).symm, List.flatMap_append]
      · rw [Traced.state_each_cons, hleft, hend, List.map_cons, hstate]

/-- The texts of the inputs in front of the first that cannot be read. -/
def readTexts (w : Surroundings) (inputs : List Input) : List Text :=
  (w.texts (inputs.takeWhile w.readable)).map Prod.snd

/-- The steps of a dump list the URLs of all texts, each with the answer about it. -/
theorem steps_dumpInput (c : Converter) (r : Resolver σ) (w : Surroundings) (inputs : List Input)
    (s : σ) :
    let texts := readTexts w inputs
    let answers := c.answers r texts s
    (steps (dumpInput c r) w inputs s).result.flatten
        = (List.zipWith dumpLine (c.joined texts).tokens answers.result).flatMap (· ++ ['\n']) ∧
      (steps (dumpInput c r) w inputs s).state = answers.state :=
  each_dumpInput c r (w.texts (inputs.takeWhile w.readable)) s

/-- The steps of a conversion write all texts, with what the answers say in the places of their
URLs. -/
theorem steps_convertInput_joined (c : Converter) (r : Resolver σ) (w : Surroundings)
    (inputs : List Input) (s : σ) :
    let texts := readTexts w inputs
    let answers := c.answers r texts s
    (steps (convertInput c r) w inputs s).result.flatten
        = (c.joined texts).fill
          (List.zipWith replacement (c.joined texts).tokens answers.result) ∧
      (steps (convertInput c r) w inputs s).state = answers.state := by
  intro texts answers
  obtain ⟨hresult, hstate⟩ := steps_convertInput c r w inputs s
  obtain ⟨hfill, hleft⟩ := c.each_convert r texts s
  exact ⟨(congrArg List.flatten hresult).trans hfill, hstate.trans hleft⟩

/-- What a command leaves behind that does a step for each input and then writes what is still
collected: all output is in its target, and nobody has been asked anything since the last step. -/
theorem written_of_ran (step : Input → Text → σ → Traced σ Text) {inputs : List Input}
    {s : Scene σ} (hfeeds : ∀ i ∈ inputs, s.sink.target.feeds i = false) :
    let x := finish (eachInput step inputs s)
    let left := steps step s.surroundings inputs s.asked
    x.state.surroundings.written s.sink.target
        = s.taken ++ Text.Utf8.encode left.result.flatten ∧
      x.state.asked = left.state ∧ x.result = ending s.surroundings inputs := by
  intro x left
  have hran : Ran step inputs s (eachInput step inputs s) := ran_eachInput hfeeds
  refine ⟨?_, hran.asked, hran.ending⟩
  have hfinish := written_finish (eachInput step inputs s)
  rw [hran.target, hran.taken] at hfinish
  rw [Text.Utf8.encode, List.flatten_eq_flatMap, List.flatMap_assoc]
  exact hfinish

end Command

open Command (dumpLine readTexts)

/-- A dump and a conversion of the same inputs, from the same cache and with the same resolver
behind it. The `k`-th entry of the dump is about the `k`-th URL of the inputs. It shows that the URL
is embeddable exactly if the conversion writes its placeholder there, and that it is not, or that
nobody knows, exactly if the conversion writes the URL as it was. Both ask the same: the cache, the
resolver and the log of its calls are left in the same state. -/
theorem dump_shows_replaced (c : Converter) (r : Resolver σ) {inputs : List Input}
    {s : Scene (Cache (Log σ))} (hfeeds : ∀ i ∈ inputs, s.sink.target.feeds i = false) :
    let texts := readTexts s.surroundings inputs
    let cut := c.joined texts
    let answers := (c.answers (cached r.logged) texts s.asked).result
    let entries := List.zipWith dumpLine cut.tokens answers
    let puts := List.zipWith replacement cut.tokens answers
    let dumped := Command.dump c (cached r.logged) inputs s
    let converted := Command.convert c (cached r.logged) inputs s
    cut.render Found.matched = texts.flatten ∧
    cut.tokens = texts.flatMap (fun t => (c.find t).1) ∧
    entries.length = cut.tokens.length ∧ puts.length = cut.tokens.length ∧
    dumped.state.surroundings.written s.sink.target
      = s.taken ++ Text.Utf8.encode (entries.flatMap (· ++ ['\n'])) ∧
    converted.state.surroundings.written s.sink.target
      = s.taken ++ Text.Utf8.encode (cut.fill puts) ∧
    dumped.state.asked.inner.calls = converted.state.asked.inner.calls ∧
    dumped.state.asked = converted.state.asked ∧ dumped.result = converted.result ∧
    ∀ (k : Nat) (f : Found) (entry put : Text),
      cut.tokens[k]? = some f → entries[k]? = some entry → puts[k]? = some put →
      (Shows f "embeddable" entry ↔ put = placeholder f.url) ∧
      (Shows f "not embeddable" entry ∨ Shows f "error: " entry ↔ put = f.matched) := by
  intro texts cut answers entries puts dumped converted
  have hlength : answers.length = cut.tokens.length :=
    c.length_answers_joined (cached r.logged) texts s.asked
  obtain ⟨hlisted, hasked, hending⟩ :=
    Command.written_of_ran (Command.dumpInput c (cached r.logged)) hfeeds
  obtain ⟨hwritten, hasked', hending'⟩ :=
    Command.written_of_ran (Command.convertInput c (cached r.logged)) hfeeds
  obtain ⟨hlines, hleft⟩ :=
    Command.steps_dumpInput c (cached r.logged) s.surroundings inputs s.asked
  obtain ⟨hputs, hleft'⟩ :=
    Command.steps_convertInput_joined c (cached r.logged) s.surroundings inputs s.asked
  have hsame : dumped.state.asked = converted.state.asked :=
    (hasked.trans hleft).trans (hasked'.trans hleft').symm
  refine ⟨c.render_joined texts, c.tokens_joined texts, ?_, ?_, ?_, ?_,
    congrArg (fun k => k.inner.calls) hsame, hsame, hending.trans hending'.symm,
    fun k f entry put hf hentry hput => ?_⟩
  · rw [List.length_zipWith, hlength, Nat.min_self]
  · rw [List.length_zipWith, hlength, Nat.min_self]
  · rw [hlines] at hlisted
    exact hlisted
  · rw [hputs] at hwritten
    exact hwritten
  · -- Both the entry and what is put in the place of the URL are made from the same answer.
    obtain ⟨f', a, hf', ha, rfl⟩ := List.getElem?_zipWith_eq_some.1 hentry
    obtain ⟨f'', a', hf'', ha', rfl⟩ := List.getElem?_zipWith_eq_some.1 hput
    obtain rfl : f' = f := Option.some.inj (hf'.symm.trans hf)
    obtain rfl : f'' = f' := Option.some.inj (hf''.symm.trans hf)
    obtain rfl : a' = a := Option.some.inj (ha'.symm.trans ha)
    obtain ⟨t, -, hfound⟩ := List.mem_flatMap.1 (c.tokens_joined texts ▸ List.mem_of_getElem? hf)
    have hne : placeholder f''.url ≠ f''.matched := Converter.placeholder_ne_matched hfound
    rw [Command.shows_embeddable_iff, Command.shows_kept_iff]
    cases he : embeds a' with
    | true =>
        rw [Converter.replacement_of_embeds he]
        exact ⟨iff_of_true rfl rfl, iff_of_false Bool.noConfusion hne⟩
    | false =>
        rw [Converter.replacement_of_not_embeds he]
        exact ⟨iff_of_false Bool.noConfusion hne.symm, iff_of_true rfl rfl⟩

/-- A resolver that fails at first: it is asked again about the URL that it failed on, and the dump
shows the failure where the conversion keeps the URL. -/
theorem dump_shows_replaced_failing :
    let w : Surroundings := ⟨[(['a'], Text.Utf8.encode "_http:bb _http:cc".toList)],
      Text.Utf8.encode "_http:bb".toList, [], []⟩
    let inputs : List Input := [.file ['a'], .standardInput, .file ['a']]
    let r : Resolver Nat := fun url n => ⟨if n = 0 then .error .emptyProtocols
      else if url = "http:bb".toList then .ok (.embeddable (.ofProvider ['P']))
      else .ok .notEmbeddable, [], n + 1⟩
    let s : Scene (Cache (Log Nat)) := ⟨w, ⟨.standardOutput, []⟩, .empty (.empty 0)⟩
    let dumped := Command.dump .underscored (cached r.logged) inputs s
    let converted := Command.convert .underscored (cached r.logged) inputs s
    (∀ i ∈ inputs, s.sink.target.feeds i = false) ∧
      dumped.state.surroundings.standardOutput = Text.Utf8.encode
        ("http:bb [error: At least one protocol is required to match URLs]\n".toList ++
          "http:cc [not embeddable]\nhttp:bb [embeddable (P)]\n".toList ++
          "http:bb [embeddable (P)]\nhttp:cc [not embeddable]\n".toList) ∧
      converted.state.surroundings.standardOutput = Text.Utf8.encode
        ("_http:bb _http:cc".toList ++ placeholder "http:bb".toList ++
          placeholder "http:bb".toList ++ " _http:cc".toList) ∧
      dumped.state.asked.inner.calls = converted.state.asked.inner.calls ∧
      converted.state.asked.inner.calls.map Call.url
        = ["http:bb".toList, "http:cc".toList, "http:bb".toList] := by
  intro w inputs r s dumped converted
  have hfeeds : ∀ i ∈ inputs, s.sink.target.feeds i = false := by decide +kernel
  obtain ⟨-, -, -, -, hdumped, hconverted, hcalls, -, -, -⟩ :=
    dump_shows_replaced .underscored r hfeeds
  exact ⟨hfeeds, hdumped.trans (by decide +kernel), hconverted.trans (by decide +kernel), hcalls,
    by decide +kernel⟩

/-- An output that is an input as well. The first input is long enough for its conversion to be
written at once, and its URL, which nobody could tell anything about, is read and looked up again.
The dump has only a short line by then, which is not written yet, so it makes one call less. -/
theorem dump_calls_ne :
    -- Characters of four bytes each fill the room for collected output.
    let page := Text.Utf8.encode "_http:bb".toList
      ++ (List.replicate 2048 [0xF0, 0x9F, 0x98, 0x80]).flatten
    let w : Surroundings := ⟨[(['a'], page), (['b'], [])], [], [], []⟩
    let c : CommandLine := { CommandLine.empty with
      inputs := [.file ['a'], .file ['b']], output := some ['b'] }
    let r : Resolver Unit := .fixed fun _ => .error .emptyProtocols
    let converted := workWith r.logged c c.config .underscored w (.empty ())
    let dumped := workWith r.logged c { c.config with dump := true } .underscored w (.empty ())
    (∀ i ∈ c.inputs, w.readable i = true) ∧
      (converted.exit, converted.network.calls.map Call.url)
        = (.success, ["http:bb".toList, "http:bb".toList]) ∧
      (dumped.exit, dumped.network.calls.map Call.url) = (.success, ["http:bb".toList]) := by
  decide +kernel

end BareUrl.Program
