import BareUrl.Proofs.Program.Listing
import BareUrl.Proofs.Program.OutputFile
import BareUrl.Proofs.Text.Decimal

/-!
# `BareUrl.Proofs.Program.Lines`: a line for each URL

A dump writes an entry for each URL and a line feed behind it. An entry is one line if it holds no
line feed itself. It is made of the URL, which holds none, and of what is said of it. The messages
of failed lookups hold none either (`Lookup.not_mem_message`), but an answer may name a provider,
and names are shown as they are, whether they come from the configuration or from an endpoint.

`run_lists` says that these names are all that matters: the dump has a line for each URL exactly if
no name in its answers holds a line feed. `run_lists_broken` shows a name that does.
-/

set_option autoImplicit false

namespace BareUrl

/-! ### Failed lookups -/

theorem Status.not_mem_reason (code : Nat) : '\n' ∉ (reason code).toList := by
  fun_cases reason code <;> simp

theorem Status.not_mem_text (code : Nat) : '\n' ∉ (text code).toList := by
  have hdigits : (toString code).toList = Text.Decimal.ofNat code := String.toList_ofList
  have hnumber : '\n' ∉ (toString code).toList := by
    rw [hdigits]
    exact fun hmem => absurd (Text.Decimal.isDigit_of_mem_ofNat hmem) (by decide)
  rw [text, String.toList_append, String.toList_append]
  exact List.not_mem_append (List.not_mem_append hnumber (by decide)) (not_mem_reason code)

/-- What is said of an answer that cannot be used is one line. -/
theorem Resolver.Online.not_mem_message {p : Provider} {r : Exchange.Response} {failure : Failure}
    (h : readAnswer p r = .error failure) : '\n' ∉ failure.message := by
  rw [readAnswer] at h
  split at h
  · split at h
    · cases h
    · obtain rfl := Except.error.inj h
      decide
  · obtain rfl := Except.error.inj h
    exact List.not_mem_append (by decide) (Status.not_mem_text r.status)

/-- What is said of a lookup that fails is one line. -/
theorem Lookup.not_mem_message {σ : Type} {l : Lookup} {network : Exchange.Network σ} {url : Text}
    {s : σ} {failure : Failure} (h : (l.resolver network url s).result = .error failure) :
    '\n' ∉ failure.message := by
  cases l with
  | offline providers =>
      -- Nobody is asked, so nothing can fail.
      cases hprovider : Resolver.providerFor providers url with
      | none => simp [resolver, Resolver.offline, Resolver.fixed, Traced.still, hprovider] at h
      | some p => simp [resolver, Resolver.offline, Resolver.fixed, Traced.still, hprovider] at h
  | online o =>
      have h : (o.resolver network url s).result = .error failure := h
      rw [Resolver.Online.resolver] at h
      cases hprovider : Resolver.providerFor o.providers url with
      | none => simp [hprovider, Traced.still] at h
      | some p =>
          rcases hget : o.client.get network (Resolver.Online.question p url) s with
            ⟨fault | response, s'⟩
          · simp only [hprovider, hget] at h
            obtain rfl := Except.error.inj h
            show '\n' ∉ "Network error while requesting oEmbed data".toList
            decide
          · simp only [hprovider, hget] at h
            exact Resolver.Online.not_mem_message h

namespace Program

open Command (dumpLine shownAnswer)
open Resolver (Cache cached)
open Url (Found)

variable {σ : Type} {arguments : List Text} {c : CommandLine} {config : Config} {setup : Setup}
  {notes : List Note} {w w' : Surroundings} {k : Sink}

/-! ### Lines -/

/-- The text has a line for each of the texts, which the line starts with, and no other lines. Each
line is closed by a line feed. -/
def Lists (listing : Text) (starts : List Text) : Prop :=
  ∃ lines : List Text, (∀ line ∈ lines, '\n' ∉ line) ∧ listing = lines.flatMap (· ++ ['\n']) ∧
    List.Forall₂ (· <+: ·) starts lines

theorem length_le_count (entries : List Text) :
    entries.length ≤ (entries.flatMap (· ++ ['\n'])).count '\n' := by
  induction entries with
  | nil => exact Nat.le_refl 0
  | cons e entries ih =>
      rw [List.flatMap_cons, List.count_append, List.count_append, List.count_singleton_self,
        List.length_cons]
      omega

/-- There are as many lines as entries if no entry holds a line feed, and otherwise more. -/
theorem count_eq_length_iff (entries : List Text) :
    (entries.flatMap (· ++ ['\n'])).count '\n' = entries.length ↔ ∀ e ∈ entries, '\n' ∉ e := by
  induction entries with
  | nil => simp
  | cons e entries ih =>
      have hle := length_le_count entries
      rw [List.flatMap_cons, List.count_append, List.count_append, List.count_singleton_self,
        List.length_cons, List.forall_mem_cons, ← ih, ← List.count_eq_zero]
      omega

theorem Lists.count_eq {listing : Text} {starts : List Text} (h : Lists listing starts) :
    listing.count '\n' = starts.length := by
  obtain ⟨lines, hlines, rfl, hstarts⟩ := h
  rw [(count_eq_length_iff lines).2 hlines, hstarts.length_eq]

theorem lists_iff {starts entries : List Text} (h : List.Forall₂ (· <+: ·) starts entries) :
    Lists (entries.flatMap (· ++ ['\n'])) starts ↔ ∀ e ∈ entries, '\n' ∉ e := by
  constructor
  · intro hlists
    rw [← count_eq_length_iff, hlists.count_eq, h.length_eq]
  · exact fun hlines => ⟨entries, hlines, rfl, h⟩

/-! ### Entries -/

/-- The answer names no provider, or one whose name is one line. -/
def Plain (a : Answer) : Prop :=
  ∀ info name, a = .ok (.embeddable info) → info.provider = some name → '\n' ∉ name

theorem not_mem_shownAnswer_iff {a : Answer}
    (ha : ∀ failure, a = .error failure → '\n' ∉ failure.message) :
    '\n' ∉ shownAnswer a ↔ Plain a := by
  rcases a with failure | (⟨_ | provider, kind, title, html, thumbnail⟩ | _)
  · refine iff_of_true (List.not_mem_append (by decide) (ha failure rfl)) ?_
    rintro info name ⟨⟩
  · refine iff_of_true (show '\n' ∉ "embeddable".toList by decide) ?_
    rintro info name ⟨⟩ ⟨⟩
  · have hshown : shownAnswer (.ok (.embeddable ⟨some provider, kind, title, html, thumbnail⟩))
        = "embeddable (".toList ++ provider ++ [')'] := rfl
    rw [hshown]
    constructor
    · rintro hmem info name ⟨⟩ ⟨⟩ hname
      exact hmem (List.mem_append_left _ (List.mem_append_right _ hname))
    · intro hplain
      have hname := hplain _ provider rfl rfl
      exact List.not_mem_append (List.not_mem_append (by decide) hname) (by decide)
  · refine iff_of_true (show '\n' ∉ "not embeddable".toList by decide) ?_
    rintro info name ⟨⟩

theorem not_mem_dumpLine_iff {f : Found} {a : Answer} (hf : '\n' ∉ f.url)
    (ha : ∀ failure, a = .error failure → '\n' ∉ failure.message) :
    '\n' ∉ dumpLine f a ↔ Plain a := by
  have hblank : '\n' ∉ " [".toList := by decide
  have hclose : '\n' ∉ [']'] := by decide
  rw [Command.dumpLine_eq, ← not_mem_shownAnswer_iff ha]
  simp only [List.mem_append, hf, hblank, hclose, or_false, false_or]

theorem starts_dumpLines {found : List Found} {answers : List Answer}
    (h : answers.length = found.length) :
    List.Forall₂ (· <+: ·) (found.map Found.url) (List.zipWith dumpLine found answers) := by
  induction found generalizing answers with
  | nil => exact .nil
  | cons f found ih =>
      obtain ⟨a, answers, rfl⟩ := List.exists_cons_of_length_eq_add_one h
      refine .cons ?_ (ih (Nat.succ.inj h))
      rw [Command.dumpLine_eq, List.append_assoc]
      exact List.prefix_append _ _

/-- Entries about URLs have a line each if no answer names a provider whose name has several. -/
theorem lists_dumpLines_iff {found : List Found} {answers : List Answer}
    (hlength : answers.length = found.length) (hfound : ∀ f ∈ found, '\n' ∉ f.url)
    (hanswers : ∀ failure, .error failure ∈ answers → '\n' ∉ failure.message) :
    Lists ((List.zipWith dumpLine found answers).flatMap (· ++ ['\n'])) (found.map Found.url)
      ↔ ∀ a ∈ answers, Plain a := by
  have hentry {f : Found} {a : Answer} (hf : f ∈ found) (ha : a ∈ answers) :
      '\n' ∉ dumpLine f a ↔ Plain a :=
    not_mem_dumpLine_iff (hfound f hf) fun failure hfailure => hanswers failure (hfailure ▸ ha)
  rw [lists_iff (starts_dumpLines hlength)]
  constructor
  · intro hlines a ha
    obtain ⟨n, hn, rfl⟩ := List.getElem_of_mem ha
    have hn' : n < found.length := hlength ▸ hn
    have hmem : dumpLine found[n] answers[n] ∈ List.zipWith dumpLine found answers := by
      refine List.mem_of_getElem? (i := n) (List.getElem?_zipWith_eq_some.2 ?_)
      exact ⟨_, _, List.getElem?_eq_getElem hn', List.getElem?_eq_getElem hn, rfl⟩
    exact (hentry (List.getElem_mem hn') ha).1 (hlines _ hmem)
  · intro hplain e he
    obtain ⟨n, hn⟩ := List.mem_iff_getElem?.1 he
    obtain ⟨f, a, hf, ha, rfl⟩ := List.getElem?_zipWith_eq_some.1 hn
    have ha := List.mem_of_getElem? ha
    exact (hentry (List.mem_of_getElem? hf) ha).2 (hplain a ha)

/-! ### Dumps -/

/-- A dump lists the URLs of its inputs, if they can be read, with the answers about them. -/
theorem workWith_dump (r : Resolver σ) (converter : Converter) (s : σ) (hdump : config.dump = true)
    (hopen : Sink.open? (target config) w = some (k, w'))
    (hreadable : ∀ i ∈ c.inputs, w.readable i = true)
    (hfeeds : ∀ i ∈ c.inputs, (target config).feeds i = false) :
    let o := workWith r c config converter w s
    let texts := (w.texts c.inputs).map Prod.snd
    let answers := (converter.answers (cached r) texts (.empty s)).result
    let entries := List.zipWith dumpLine (converter.joined texts).tokens answers
    o.exit = .success ∧ o.surroundings.written (target config)
      = w.opened (target config) ++ Text.Utf8.encode (entries.flatMap (· ++ ['\n'])) := by
  intro o texts answers entries
  obtain ⟨hsuccess, -, hleft, -⟩ :=
    workWith_of_open (c := c) r converter s (if_pos hdump) hopen
  have hx := Command.left_of_open (Command.dumpInput converter (cached r)) hopen hfeeds (.empty s)
  obtain ⟨hlisted, -⟩ := Command.steps_dumpInput converter (cached r) w c.inputs (.empty s)
  -- As all inputs can be read, the command comes to the end of the list.
  have htexts : Command.readTexts w c.inputs = texts := by
    rw [Command.readTexts, List.takeWhile_eq_self_iff.2 hreadable]
  rw [htexts] at hlisted
  refine ⟨hsuccess (hx.ending.trans ((Command.ending_eq_ok_iff w c.inputs).2 hreadable)), ?_⟩
  rw [hleft, ← hlisted, Text.Utf8.encode, List.flatten_eq_flatMap, List.flatMap_assoc]
  exact hx.written

/-- A run that dumps inputs which can all be read. It writes entries about the URLs of the inputs,
in order. They are a line for each URL, which starts with the URL as it is written, exactly if no
answer names a provider whose name holds a line feed. -/
theorem run_lists (network : Exchange.Network σ) (hread : CommandLine.read arguments = .ok c)
    (hconfig : configure c w = .ok config) (hsetup : config.setup = (.ok setup, notes))
    (hdump : config.dump = true) (hopen : (Sink.open? (target config) w).isSome = true)
    (hreadable : ∀ i ∈ c.inputs, w.readable i = true)
    (hfeeds : ∀ i ∈ c.inputs, (target config).feeds i = false) (s : σ) :
    let o := run network arguments w s
    let r := cached (setup.lookup.resolver network)
    let texts := (w.texts c.inputs).map Prod.snd
    let found := texts.flatMap fun t => (setup.converter.find t).1
    let answers := (Traced.each r (found.map fun f => Markup.decode f.url) (.empty s)).result
    let listing := (List.zipWith dumpLine found answers).flatMap (· ++ ['\n'])
    o.exit = .success ∧
    o.surroundings.written (target config)
      = w.opened (target config) ++ Text.Utf8.encode listing ∧
    (Lists listing (found.map Found.url) ↔
      ∀ info name, .ok (.embeddable info) ∈ answers → info.provider = some name → '\n' ∉ name) := by
  intro o r texts found answers listing
  have hfound : (setup.converter.joined texts).tokens = found := setup.converter.tokens_joined texts
  obtain ⟨⟨k, w'⟩, hopen⟩ := Option.isSome_iff_exists.1 hopen
  obtain ⟨hexit, hwritten⟩ :=
    workWith_dump (setup.lookup.resolver network) setup.converter s hdump hopen hreadable hfeeds
  rw [Converter.answers, hfound] at hwritten
  have hrun := run_of_setup network hread hconfig hsetup s
  refine ⟨?_, ?_, ?_⟩
  · show (run network arguments w s).exit = _
    rw [hrun]
    exact hexit
  · show (run network arguments w s).surroundings.written _ = _
    rw [hrun]
    exact hwritten
  · have hlength : answers.length = found.length := by
      rw [Traced.length_each, List.length_map]
    have hclean : ∀ f ∈ found, '\n' ∉ f.url := by
      intro f hf
      obtain ⟨t, -, hf⟩ := List.mem_flatMap.1 hf
      exact Converter.not_mem_of_mem_find (by decide) hf
    have hfailures : ∀ failure, .error failure ∈ answers → '\n' ∉ failure.message := by
      intro failure hfailure
      obtain ⟨url, -, k, herror⟩ := Traced.exists_of_mem_each hfailure
      exact Lookup.not_mem_message (Resolver.error_of_cached herror)
    refine (lists_dumpLines_iff hlength hclean hfailures).trans ?_
    constructor
    · exact fun hplain info name hmem hname => hplain _ hmem info name rfl hname
    · rintro hplain a hmem info name rfl hname
      exact hplain info name hmem hname

/-- Two URLs, of which one is looked up in vain. -/
theorem run_lists_offline :
    let arguments := ["--dump", "--offline", "a"].map String.toList
    let w : Surroundings :=
      ⟨[(['a'], Text.Utf8.encode "https://youtu.be/x <b>https://b.cc</b>".toList)], [], [], []⟩
    let c : CommandLine := { CommandLine.empty with
      inputs := [.file ['a']], offline := true, dump := true }
    let nobody : Exchange.Network Unit := fun _ _ => (.silence, ())
    let o := run nobody arguments w ()
    let listing := "https://youtu.be/x [embeddable (YouTube)]\n".toList
      ++ "https://b.cc [not embeddable]\n".toList
    CommandLine.read arguments = .ok c ∧ configure c w = .ok c.config ∧
      c.config.setup
        = (.ok ⟨.usual, .offline Provider.known⟩, [Config.offlineNote Provider.known]) ∧
      c.config.dump = true ∧ (Sink.open? (target c.config) w).isSome = true ∧
      (∀ i ∈ c.inputs, w.readable i = true) ∧
      (∀ i ∈ c.inputs, (target c.config).feeds i = false) ∧
      o.exit = .success ∧ o.surroundings.standardOutput = Text.Utf8.encode listing ∧
      Lists listing ["https://youtu.be/x".toList, "https://b.cc".toList] := by
  intro arguments w c nobody o listing
  have hread : CommandLine.read arguments = .ok c := by decide +kernel
  have hconfig : configure c w = .ok c.config := by decide +kernel
  have hsetup : c.config.setup
      = (.ok ⟨.usual, .offline Provider.known⟩, [Config.offlineNote Provider.known]) :=
    setup_offline rfl rfl rfl
  have hopen : (Sink.open? (target c.config) w).isSome = true := rfl
  have hreadable : ∀ i ∈ c.inputs, w.readable i = true := by decide +kernel
  have hfeeds : ∀ i ∈ c.inputs, (target c.config).feeds i = false := by decide +kernel
  let r := cached ((Lookup.offline Provider.known).resolver nobody)
  let found := ((w.texts c.inputs).map Prod.snd).flatMap fun t => (Converter.usual.find t).1
  let answers := (Traced.each r (found.map fun f => Markup.decode f.url) (.empty ())).result
  have hfound : found = [⟨"https://youtu.be/x".toList, "https://youtu.be/x".toList⟩,
      ⟨"https://b.cc".toList, "https://b.cc".toList⟩] := by
    decide +kernel
  have hanswers : answers
      = [.ok (.embeddable (.ofProvider "YouTube".toList)), .ok .notEmbeddable] := by
    show (Traced.each r (found.map _) (.empty ())).result = _
    rw [hfound]
    decide +kernel
  have hlisting : (List.zipWith dumpLine found answers).flatMap (· ++ ['\n']) = listing := by
    rw [hfound, hanswers]
    decide
  have hnames : ∀ info name, .ok (.embeddable info) ∈ answers → info.provider = some name →
      '\n' ∉ name := by
    rw [hanswers]
    rintro info name hmem hname
    obtain rfl : info = .ofProvider "YouTube".toList := by simpa using hmem
    obtain rfl : "YouTube".toList = name := Option.some.inj hname
    decide
  obtain ⟨hexit, hwritten, hlists⟩ :=
    run_lists nobody hread hconfig hsetup rfl hopen hreadable hfeeds ()
  refine ⟨hread, hconfig, hsetup, rfl, hopen, hreadable, hfeeds, hexit, ?_, ?_⟩
  · have hwritten : o.surroundings.standardOutput = [] ++ Text.Utf8.encode
        ((List.zipWith dumpLine found answers).flatMap (· ++ ['\n'])) := hwritten
    rwa [hlisting] at hwritten
  · have hlists : Lists ((List.zipWith dumpLine found answers).flatMap (· ++ ['\n']))
        (found.map Found.url) := hlists.2 hnames
    rwa [hlisting, hfound] at hlists

/-- A provider of the configuration whose name has two lines. The only URL has two lines then. -/
theorem run_lists_broken :
    let page := "<p>https://video.example/1</p>\n".toList
    let settings := "[[providers]]\nname = \"A\\nB\"\n".toList
      ++ "endpoint = \"https://video.example/oembed\"\n".toList
      ++ "schemes = [\"https://video.example/*\"]\n".toList
    let w : Surroundings := ⟨[("a.html".toList, Text.Utf8.encode page),
      ("urlembed.toml".toList, Text.Utf8.encode settings)], [], [], []⟩
    let nobody : Exchange.Network Unit := fun _ _ => (.silence, ())
    let o := run nobody (["--dump", "--offline", "a.html"].map String.toList) w ()
    let listing := "https://video.example/1 [embeddable (A\nB)]\n".toList
    w.texts [.file "a.html".toList] = [(.file "a.html".toList, page)] ∧
      (Converter.usual.find page).1.map Found.url = ["https://video.example/1".toList] ∧
      (o.exit, o.surroundings.standardOutput) = (.success, Text.Utf8.encode listing) ∧
      ¬ Lists listing ["https://video.example/1".toList] := by
  intro page settings w nobody o listing
  refine ⟨by decide +kernel, by decide +kernel, by decide +kernel, fun h => ?_⟩
  exact absurd h.count_eq (by decide)

end Program

end BareUrl
