import BareUrl.Config.File
import BareUrl.Proofs.CommandLine.Written
import BareUrl.Proofs.Config.HeaderLine
import BareUrl.Proofs.Text.Utf8
import BareUrl.Proofs.Toml.Written
import Mathlib.Data.List.Nodup

/-!
# `BareUrl.Proofs.Config.Choices`: one choice, written twice

Ten settings can be chosen on a command line as well as in a settings file. `Choices` holds what is
chosen of them, and is written both ways: as arguments (`Choices.arguments`) and as the text of a
settings file (`Choices.toml`).

* `read_arguments` and `ofBytes_toml`: each way is read as what is chosen, as long as all of it can
  be written both ways (`Choices.Expressible`).
* `config_said`, `merge_usual` and `usual_merge`: either way the same configuration comes out, up to
  the case of the names of headers, which `Config.merge` takes away.
-/

set_option autoImplicit false

namespace BareUrl

open CommandLine (Occurrence)

/-- What can be chosen both on a command line and in a settings file. -/
structure Choices where
  verbosity : Option Verbosity
  output : Option Text
  leader : Option Text
  protocols : Option (List Text)
  excluded : Option (List Text)
  offline : Bool
  timeout : Option Nat
  agent : Option Text
  headers : List (Text × Text)
  dump : Bool

namespace Choices

/-- Nothing is chosen. -/
def nothing : Choices := ⟨none, none, none, none, none, false, none, none, [], false⟩

/-- The choices whose values can be written both ways. A flag cannot say that a list is empty, that
the output has an empty name or that a protocol has a comma in its name; a file cannot ask for more
levels than there are, nor give a header twice. -/
structure Expressible (x : Choices) : Prop where
  verbosity : ∀ v, x.verbosity = some v → -2 ≤ v.steps ∧ v.steps ≤ 3
  output : x.output ≠ some []
  protocols : ∀ ps, x.protocols = some ps → ps ≠ [] ∧ ∀ p ∈ ps, ',' ∉ p
  excluded : x.excluded ≠ some []
  timeout : ∀ n, x.timeout = some n → n ≤ Text.Decimal.limit
  headers : ∀ h ∈ x.headers, Exchange.Header.isName h.1 = true ∧
    Exchange.Header.isValue h.2 = true ∧ Exchange.Header.isPlain h.2 = true ∧
    Text.trim h.2 = h.2
  names : (x.headers.map fun h => Text.asciiLower h.1).Nodup

theorem expressible_nothing : nothing.Expressible where
  verbosity := by simp [nothing]
  output := by simp [nothing]
  protocols := by simp [nothing]
  excluded := by simp [nothing]
  timeout := by simp [nothing]
  headers := fun _ h => absurd h List.not_mem_nil
  names := List.nodup_nil

/-! ### On the command line -/

/-- The flags that tell how much is logged. -/
def verbosityFlags (v : Verbosity) : List Occurrence :=
  List.replicate v.steps.toNat ⟨.verbose, none⟩ ++ List.replicate (-v.steps).toNat ⟨.quiet, none⟩

/-- What is chosen, as flags, behind the flag for the settings file. -/
def flags (x : Choices) (file : Option Text) : List Occurrence :=
  file.toList.map (fun path => ⟨.config, some path⟩) ++
    (x.verbosity.elim [] verbosityFlags ++
    (x.output.toList.map (fun path => ⟨.output, some path⟩) ++
    (x.leader.toList.map (fun leader => ⟨.urlPrefix, some leader⟩) ++
    (x.protocols.toList.map (fun ps => ⟨.protocols, some (Text.joinWith [','] ps)⟩) ++
    ((x.excluded.getD []).map (fun name => ⟨.excludeTag, some name⟩) ++
    ((if x.offline then [⟨.offline, none⟩] else []) ++
    (x.timeout.toList.map (fun n => ⟨.timeout, some (Text.Decimal.ofNat n)⟩) ++
    (x.agent.toList.map (fun agent => ⟨.userAgent, some agent⟩) ++
    (x.headers.map (fun h => ⟨.header, some (HeaderLine.written h)⟩) ++
    if x.dump then [⟨.dump, none⟩] else [])))))))))

/-- The arguments of a run: the settings file, what is chosen, and the inputs. -/
def arguments (x : Choices) (file : Option Text) (inputs : List Text) : List Text :=
  (x.flags file).map Occurrence.written ++ ['-', '-'] :: inputs

/-- The headers that are chosen, with their names in lower case. -/
def lowered (x : Choices) : List (Text × Text) :=
  x.headers.map fun h => (Text.asciiLower h.1, h.2)

/-- What the command line says. -/
def said (x : Choices) (file : Option Text) : CommandLine where
  inputs := []
  configFile := file
  louder := (x.verbosity.getD .usual).steps.toNat
  quieter := (-(x.verbosity.getD .usual).steps).toNat
  output := x.output
  leader := x.leader
  protocols := x.protocols
  excluded := x.excluded
  offline := x.offline
  timeout := x.timeout
  agent := x.agent
  headers := x.lowered
  dump := x.dump

end Choices

namespace CommandLine

/-- The flags lead from what has been said to what is said then. -/
def Leads (os : List Occurrence) (c c' : CommandLine) : Prop :=
  os.foldlM Occurrence.note c = .ok c'

variable {c c' c'' : CommandLine} {os ps : List Occurrence}

theorem Leads.append (h : Leads os c c') (h' : Leads ps c' c'') : Leads (os ++ ps) c c'' := by
  rw [Leads, List.foldlM_append, h]
  exact h'

/-- A flag that is not given says nothing. -/
theorem leads_nil (h : c' = c) : Leads [] c c' := congrArg Except.ok h.symm

theorem leads_single {o : Occurrence} (h : Occurrence.note c o = .ok c') : Leads [o] c c' := by
  rw [Leads, List.foldlM_cons, h]
  rfl

/-- A flag with a value is given once, or not at all. -/
theorem leads_optional {α : Type} {a : Option α} {write : α → Occurrence}
    (hnone : a = none → c' = c) (hsome : ∀ v, a = some v → Occurrence.note c (write v) = .ok c') :
    Leads (a.toList.map write) c c' := by
  cases a with
  | none => exact leads_nil (hnone rfl)
  | some v => exact leads_single (hsome v rfl)

/-- A flag without a value is given once, or not at all. -/
theorem leads_switch {b : Bool} {o : Occurrence} (hfalse : b = false → c' = c)
    (htrue : b = true → Occurrence.note c o = .ok c') : Leads (if b then [o] else []) c c' := by
  cases b with
  | false => exact leads_nil (hfalse rfl)
  | true => exact leads_single (htrue rfl)

/-- A flag that counts is given several times. -/
theorem leads_replicate {o : Occurrence} {said : Nat → CommandLine}
    (h : ∀ n, Occurrence.note (said n) o = .ok (said (n + 1))) (n : Nat) :
    Leads (List.replicate n o) (said 0) (said n) := by
  induction n with
  | zero => rfl
  | succ n ih =>
      rw [List.replicate_succ']
      exact ih.append (leads_single (h n))

theorem leads_config {file : Option Text} (hc : c.configFile = none) (h : file ≠ some []) :
    Leads (file.toList.map fun path => ⟨.config, some path⟩) c { c with configFile := file } := by
  refine leads_optional ?_ ?_
  · rintro rfl
    rw [← hc]
  · rintro path rfl
    have hpath : path ≠ [] := fun hpath => h (congrArg some hpath)
    show ite (c.configFile.isSome = true) _ (ite (path = []) _ _) = _
    rw [hc, Option.isSome_none, if_neg Bool.false_ne_true, if_neg hpath]

theorem leads_output {output : Option Text} (hc : c.output = none) (h : output ≠ some []) :
    Leads (output.toList.map fun path => ⟨.output, some path⟩) c { c with output := output } := by
  refine leads_optional ?_ ?_
  · rintro rfl
    rw [← hc]
  · rintro path rfl
    have hpath : path ≠ [] := fun hpath => h (congrArg some hpath)
    show ite (c.output.isSome = true) _ (ite (path = []) _ _) = _
    rw [hc, Option.isSome_none, if_neg Bool.false_ne_true, if_neg hpath]

theorem leads_leader (hc : c.leader = none) (leader : Option Text) :
    Leads (leader.toList.map fun leader => ⟨.urlPrefix, some leader⟩) c
      { c with leader := leader } := by
  refine leads_optional ?_ ?_
  · rintro rfl
    rw [← hc]
  · rintro leader rfl
    show ite (c.leader.isSome = true) _ _ = _
    rw [hc, Option.isSome_none, if_neg Bool.false_ne_true]

theorem leads_agent (hc : c.agent = none) (agent : Option Text) :
    Leads (agent.toList.map fun agent => ⟨.userAgent, some agent⟩) c { c with agent := agent } := by
  refine leads_optional ?_ ?_
  · rintro rfl
    rw [← hc]
  · rintro agent rfl
    show ite (c.agent.isSome = true) _ _ = _
    rw [hc, Option.isSome_none, if_neg Bool.false_ne_true]

/-- Protocols are found again between the commas. -/
theorem leads_protocols {protocols : Option (List Text)} (hc : c.protocols = none)
    (h : ∀ ps, protocols = some ps → ps ≠ [] ∧ ∀ p ∈ ps, ',' ∉ p) :
    Leads (protocols.toList.map fun ps => ⟨.protocols, some (Text.joinWith [','] ps)⟩) c
      { c with protocols := protocols } := by
  refine leads_optional ?_ ?_
  · rintro rfl
    rw [← hc]
  · rintro ps rfl
    obtain ⟨hne, hcomma⟩ := h ps rfl
    have hsplit : Text.splitOn ',' (Text.joinWith [','] ps) = ps :=
      Text.splitOn_joinWith hne hcomma
    show Except.ok { c with protocols := some (c.protocols.getD [] ++ Text.splitOn ',' _) } = _
    rw [hc, hsplit]
    rfl

theorem leads_timeout {timeout : Option Nat} (hc : c.timeout = none)
    (h : ∀ n, timeout = some n → n ≤ Text.Decimal.limit) :
    Leads (timeout.toList.map fun n => ⟨.timeout, some (Text.Decimal.ofNat n)⟩) c
      { c with timeout := timeout } := by
  refine leads_optional ?_ ?_
  · rintro rfl
    rw [← hc]
  · rintro n rfl
    have hread : Text.Decimal.toNat? (Text.Decimal.ofNat n) = some n := by
      simp only [Text.Decimal.toNat?, Text.Decimal.read_ofNat, h n rfl, if_true]
    show ite (c.timeout.isSome = true) _ _ = _
    rw [hc, Option.isSome_none, if_neg Bool.false_ne_true, hread]

theorem leads_offline {offline : Bool} (hc : c.offline = false) :
    Leads (if offline then [⟨.offline, none⟩] else []) c { c with offline := offline } := by
  refine leads_switch ?_ ?_
  · rintro rfl
    rw [← hc]
  · rintro rfl
    show ite (c.offline = true) _ _ = _
    rw [hc, if_neg Bool.false_ne_true]

theorem leads_dump {dump : Bool} (hc : c.dump = false) :
    Leads (if dump then [⟨.dump, none⟩] else []) c { c with dump := dump } := by
  refine leads_switch ?_ ?_
  · rintro rfl
    rw [← hc]
  · rintro rfl
    show ite (c.dump = true) _ _ = _
    rw [hc, if_neg Bool.false_ne_true]

theorem leads_louder (n : Nat) (c : CommandLine) :
    Leads (List.replicate n ⟨.verbose, none⟩) c { c with louder := c.louder + n } :=
  @leads_replicate ⟨.verbose, none⟩ (fun n => { c with louder := c.louder + n }) (fun _ => rfl) n

theorem leads_quieter (n : Nat) (c : CommandLine) :
    Leads (List.replicate n ⟨.quiet, none⟩) c { c with quieter := c.quieter + n } :=
  @leads_replicate ⟨.quiet, none⟩ (fun n => { c with quieter := c.quieter + n }) (fun _ => rfl) n

/-- Each element that is named joins those before it. -/
theorem leads_excluded (name : Text) (names : List Text) (c : CommandLine) :
    Leads ((name :: names).map fun name => ⟨.excludeTag, some name⟩) c
      { c with excluded := some (c.excluded.getD [] ++ name :: names) } := by
  induction names generalizing name c with
  | nil => rfl
  | cons next names ih =>
      have hstep := ih next { c with excluded := some (c.excluded.getD [] ++ [name]) }
      rw [Option.getD_some, List.append_assoc] at hstep
      exact hstep

/-- Each header joins those before it. -/
theorem leads_headers {hs : List (Text × Text)}
    (h : ∀ h ∈ hs, HeaderLine.read (HeaderLine.written h) = .ok (Text.asciiLower h.1, h.2))
    (c : CommandLine) :
    Leads (hs.map fun h => ⟨.header, some (HeaderLine.written h)⟩) c
      { c with headers := c.headers ++ hs.map fun h => (Text.asciiLower h.1, h.2) } := by
  induction hs generalizing c with
  | nil =>
    rw [List.map_nil, List.map_nil, List.append_nil]
    rfl
  | cons header hs ih =>
      have hstep : Occurrence.note c ⟨.header, some (HeaderLine.written header)⟩
          = .ok { c with headers := c.headers ++ [(Text.asciiLower header.1, header.2)] } := by
        simp only [Occurrence.note, noteValue, h header List.mem_cons_self]
      have hrest := ih (fun h' hh => h h' (List.mem_cons_of_mem _ hh))
        { c with headers := c.headers ++ [(Text.asciiLower header.1, header.2)] }
      rw [List.append_assoc] at hrest
      rw [Leads, List.map_cons, List.foldlM_cons, hstep]
      exact hrest

end CommandLine

namespace Choices

open CommandLine (Leads)

variable {x : Choices} {file : Option Text}

theorem leads_verbosity (v : Option Verbosity) (c : CommandLine) (hlouder : c.louder = 0)
    (hquieter : c.quieter = 0) :
    Leads (v.elim [] verbosityFlags) c
      { c with
        louder := (v.getD .usual).steps.toNat, quieter := (-(v.getD .usual).steps).toNat } := by
  cases v with
  | none =>
      refine CommandLine.leads_nil ?_
      cases c
      cases hlouder
      cases hquieter
      rfl
  | some v =>
      have hall := (CommandLine.leads_louder v.steps.toNat c).append
        (CommandLine.leads_quieter (-v.steps).toNat _)
      simp only [hlouder, hquieter, Nat.zero_add] at hall
      exact hall

theorem leads_flags (hx : x.Expressible) (hfile : file ≠ some []) :
    Leads (x.flags file) .empty (x.said file) := by
  have hexcluded : ∀ c : CommandLine, c.excluded = none →
      Leads ((x.excluded.getD []).map fun name => ⟨.excludeTag, some name⟩) c
        { c with excluded := x.excluded } := by
    intro c hc
    have hne := hx.excluded
    cases hnames : x.excluded with
    | none => exact CommandLine.leads_nil (by rw [← hc])
    | some names =>
        rw [hnames] at hne
        obtain ⟨name, names, rfl⟩ := List.exists_cons_of_ne_nil fun h => hne (congrArg some h)
        have hall := CommandLine.leads_excluded name names c
        rw [hc] at hall
        exact hall
  have hheaders : ∀ h ∈ x.headers,
      HeaderLine.read (HeaderLine.written h) = .ok (Text.asciiLower h.1, h.2) := by
    intro h hh
    obtain ⟨hname, hvalue, hplain, htrim⟩ := hx.headers h hh
    exact HeaderLine.read_written hname hvalue hplain htrim
  -- No flag stands in the way of another one: nothing has been said of its setting before.
  exact (CommandLine.leads_config rfl hfile).append <|
    (leads_verbosity x.verbosity _ rfl rfl).append <|
    (CommandLine.leads_output rfl hx.output).append <|
    (CommandLine.leads_leader rfl x.leader).append <|
    (CommandLine.leads_protocols rfl hx.protocols).append <|
    (hexcluded _ rfl).append <|
    (CommandLine.leads_offline rfl).append <|
    (CommandLine.leads_timeout rfl hx.timeout).append <|
    (CommandLine.leads_agent rfl x.agent).append <|
    (CommandLine.leads_headers hheaders _).append (CommandLine.leads_dump rfl)

theorem fits_flags : ∀ o ∈ x.flags file, o.Fits := by
  have hmap : ∀ {α : Type} (write : α → Occurrence), (∀ a, (write a).Fits) →
      ∀ as : List α, ∀ o ∈ as.map write, o.Fits := fun write h as =>
    List.forall_mem_map.2 fun a _ => h a
  have hswitch : ∀ (b : Bool) (f : CommandLine.Flag), f.takesValue = false →
      ∀ o ∈ if b then [(⟨f, none⟩ : Occurrence)] else [], o.Fits := by
    intro b f hf
    cases b with
    | false => exact fun o ho => absurd ho List.not_mem_nil
    | true => exact fun o ho => List.mem_singleton.1 ho ▸ hf
  have hverbosity : ∀ o ∈ x.verbosity.elim [] verbosityFlags, o.Fits := by
    cases x.verbosity with
    | none => exact fun o ho => absurd ho List.not_mem_nil
    | some v =>
        refine List.forall_mem_append.2 ⟨fun o ho => ?_, fun o ho => ?_⟩
        · exact (List.eq_of_mem_replicate ho) ▸ rfl
        · exact (List.eq_of_mem_replicate ho) ▸ rfl
  simp only [flags, List.forall_mem_append]
  refine ⟨hmap _ ?_ _, hverbosity, hmap _ ?_ _, hmap _ ?_ _, hmap _ ?_ _, hmap _ ?_ _,
    hswitch _ _ rfl, hmap _ ?_ _, hmap _ ?_ _, hmap _ ?_ _, hswitch _ _ rfl⟩
  all_goals exact fun _ => rfl

/-- Arguments that are written say what is chosen. -/
theorem read_arguments (hx : x.Expressible) (hfile : file ≠ some []) (inputs : List Text) :
    CommandLine.read (x.arguments file inputs)
      = if inputs = [] then .error .noInput else .ok ((x.said file).withInputs inputs) := by
  -- One choice is either louder or quieter than what is usual.
  have hboth : ¬(0 < (x.said file).louder ∧ 0 < (x.said file).quieter) := by
    show ¬(0 < (x.verbosity.getD .usual).steps.toNat ∧ 0 < (-(x.verbosity.getD .usual).steps).toNat)
    omega
  have hlead : (x.flags file).foldlM Occurrence.note .empty = .ok (x.said file) :=
    leads_flags hx hfile
  rw [arguments, CommandLine.read_written fits_flags, hlead]
  show CommandLine.Reading.finish ⟨(x.said file).withInputs inputs, none, true⟩ = _
  unfold CommandLine.Reading.finish
  show ite (0 < (x.said file).louder ∧ 0 < (x.said file).quieter) _
    (ite ([] ++ inputs.map Input.ofArgument = []) _ _) = _
  rw [if_neg hboth, List.nil_append]
  exact if_congr List.map_eq_nil_iff rfl rfl

end Choices

/-! ### In a settings file -/

/-- The keys that have a value, with it. -/
def Toml.present {α : Type} (es : List (Text × Option α)) : List (Text × α) :=
  es.filterMap fun e => e.2.map fun a => (e.1, a)

section
variable {α β : Type} {es : List (Text × Option α)}

theorem Toml.sublist_present (es : List (Text × Option α)) :
    ((present es).map Prod.fst).Sublist (es.map Prod.fst) := by
  induction es with
  | nil => exact .slnil
  | cons e es ih =>
      obtain ⟨key, a⟩ := e
      cases a with
      | none => exact .cons key ih
      | some a => exact .cons_cons key ih

theorem Toml.lookup_present_of_not_mem (f : α → β) {key : Text} (h : key ∉ es.map Prod.fst) :
    ((present es).map fun e => (e.1, f e.2)).lookup key = none := by
  refine lookup_of_not_mem fun hmem => h ((sublist_present es).subset ?_)
  rwa [List.map_map] at hmem

/-- A key that has a value has it, and a key that has none is not there. -/
theorem Toml.lookup_present (f : α → β) (h : (es.map Prod.fst).Nodup) {key : Text} {a : Option α}
    (hmem : (key, a) ∈ es) :
    ((present es).map fun e => (e.1, f e.2)).lookup key = a.map f := by
  induction es with
  | nil => exact absurd hmem List.not_mem_nil
  | cons e es ih =>
      obtain ⟨first, b⟩ := e
      obtain ⟨hfirst, hrest⟩ := List.nodup_cons.1 h
      rcases List.mem_cons.1 hmem with heq | hmem
      · obtain ⟨rfl, rfl⟩ := Prod.mk.inj heq
        cases a with
        | some a => simp [present]
        | none =>
            show ((present es).map fun e => (e.1, f e.2)).lookup key = none
            exact lookup_present_of_not_mem f hfirst
      · have hkey : key ∈ es.map Prod.fst := List.mem_map.2 ⟨_, hmem, rfl⟩
        have hne : (key == first) = false := beq_false_of_ne fun heq => hfirst (heq ▸ hkey)
        have hrest := ih hrest hmem
        cases b with
        | none => exact hrest
        | some b =>
            show List.lookup key ((first, f b) :: (present es).map fun e => (e.1, f e.2)) = _
            rw [List.lookup_cons, hne]
            exact hrest

end

namespace Choices

open Toml (Literal)

/-- What is chosen, by the keys of a settings file. -/
def chosen (x : Choices) : List (Text × Option Literal) :=
  [("verbose".toList, x.verbosity.map fun v => .text v.name.toList),
    ("output".toList, x.output.map .text),
    ("url_prefix".toList, x.leader.map .text),
    ("protocols".toList, x.protocols.map .texts),
    ("exclude_tag".toList, x.excluded.map .texts),
    ("offline".toList, if x.offline then some (.truth true) else none),
    ("timeout".toList, x.timeout.map .number),
    ("user_agent".toList, x.agent.map .text),
    ("header".toList, if x.headers = [] then none else some (.pairs x.headers)),
    ("dump".toList, if x.dump then some (.truth true) else none)]

/-- What is chosen, as a settings file. -/
def toml (x : Choices) : Text := (Toml.present x.chosen).flatMap Toml.writtenLine

/-- What is chosen, as a table. -/
def table (x : Choices) : Toml.Table := (Toml.present x.chosen).map fun e => (e.1, e.2.value)

variable {x : Choices}

theorem keys_chosen : x.chosen.map Prod.fst = Config.keys.dropLast := rfl

theorem bare_keys :
    Config.keys.dropLast.Nodup ∧ ∀ key ∈ Config.keys.dropLast, Toml.IsBare key := by
  decide +kernel

theorem sublist_keys (x : Choices) :
    ((Toml.present x.chosen).map Prod.fst).Sublist Config.keys.dropLast :=
  keys_chosen ▸ Toml.sublist_present x.chosen

theorem fits_chosen (hx : x.Expressible) : ∀ e ∈ Toml.present x.chosen, e.2.Fits := by
  -- Names that are different in lower case are different.
  have hheaders : (x.headers.map Prod.fst).Nodup := by
    have hnames : ((x.headers.map Prod.fst).map Text.asciiLower).Nodup := by
      rw [List.map_map]
      exact hx.names
    exact hnames.of_map _
  have hmap : ∀ {α : Type} (a : Option α) (write : α → Literal), (∀ a, (write a).Fits) →
      ∀ l, a.map write = some l → l.Fits := by
    intro α a write hwrite l hl
    obtain ⟨b, -, rfl⟩ := Option.map_eq_some_iff.1 hl
    exact hwrite b
  have hswitch : ∀ (b : Bool) (l : Literal),
      (if b then some (Literal.truth true) else none) = some l → l.Fits := by
    intro b l hl
    cases b with
    | false => exact absurd hl (by simp)
    | true => exact Option.some.inj hl ▸ trivial
  have hall : ∀ e ∈ x.chosen, ∀ l, e.2 = some l → l.Fits := by
    simp only [chosen, List.forall_mem_cons]
    refine ⟨hmap _ _ ?_, hmap _ _ ?_, hmap _ _ ?_, hmap _ _ ?_, hmap _ _ ?_, hswitch _,
      hmap _ _ ?_, hmap _ _ ?_, fun l hl => ?_, hswitch _, fun e he => absurd he List.not_mem_nil⟩
    case refine_8 =>
      split at hl
      · cases hl
      · exact Option.some.inj hl ▸ hheaders
    all_goals exact fun _ => trivial
  intro e he
  rw [Toml.present, List.mem_filterMap] at he
  obtain ⟨f, hmem, he⟩ := he
  obtain ⟨l, hl, rfl⟩ := Option.map_eq_some_iff.1 he
  exact hall f hmem l hl

theorem read_toml (hx : x.Expressible) : Toml.read? x.toml = some x.table := by
  obtain ⟨hnodup, hbare⟩ := bare_keys
  exact Toml.read_written
    (fun e he => hbare e.1 ((sublist_keys x).subset (List.mem_map_of_mem he))) (fits_chosen hx)
    (hnodup.sublist (sublist_keys x))

/-- The configuration that the settings file is. -/
def config (x : Choices) : Config where
  verbosity := x.verbosity.getD Config.usual.verbosity
  output := x.output
  leader := x.leader.getD Config.usual.leader
  protocols := x.protocols.getD Config.usual.protocols
  excluded := x.excluded.getD Config.usual.excluded
  offline := x.offline
  timeout := x.timeout.getD Config.usual.timeout
  agent := x.agent.getD Config.usual.agent
  headers := x.headers
  dump := x.dump
  providers := []

theorem lookup_table {key : String} {l : Option Literal} (h : (key.toList, l) ∈ x.chosen) :
    x.table.lookup key.toList = l.map Literal.value :=
  Toml.lookup_present Literal.value (keys_chosen ▸ bare_keys.1) h

theorem setting_table {α : Type} {key : String} {l : Option Literal} {read : Toml.Value → Option α}
    {usual v : α} (h : (key.toList, l) ∈ x.chosen) (hnone : l = none → v = usual)
    (hsome : ∀ l', l = some l' → read l'.value = some v) :
    Config.setting x.table key read usual = some v := by
  rw [Config.setting, lookup_table h]
  cases l with
  | none => exact congrArg some (hnone rfl).symm
  | some l => exact hsome l rfl

/-- The settings that have a value, or the usual one. -/
theorem setting_optional {α : Type} {key : String} {a : Option α} {write : α → Literal}
    {read : Toml.Value → Option α} {usual : α} (h : (key.toList, a.map write) ∈ x.chosen)
    (hread : ∀ b, a = some b → read (write b).value = some b) :
    Config.setting x.table key read usual = some (a.getD usual) := by
  refine setting_table h ?_ ?_
  · intro hnone
    rw [Option.map_eq_none_iff.1 hnone, Option.getD_none]
  · intro l hl
    obtain ⟨b, hb, rfl⟩ := Option.map_eq_some_iff.1 hl
    rw [hread b hb, hb, Option.getD_some]

/-- The settings that are on or off. -/
theorem setting_switch {key : String} {b : Bool}
    (h : (key.toList, if b then some (Literal.truth true) else none) ∈ x.chosen) :
    Config.setting x.table key Toml.Value.bool? false = some b := by
  refine setting_table h ?_ ?_
  · cases b <;> simp
  · cases b <;> simp [Literal.value, Toml.Value.bool?]

theorem ofName?_name {v : Verbosity} (h : -2 ≤ v.steps ∧ v.steps ≤ 3) :
    Verbosity.ofName? v.name.toList = some v := by
  have hall : ∀ n ∈ [-2, -1, 0, 1, 2, 3],
      Verbosity.ofName? (Verbosity.name ⟨n⟩).toList = some ⟨n⟩ := by
    decide +kernel
  obtain ⟨n⟩ := v
  have hn : -2 ≤ n ∧ n ≤ 3 := h
  exact hall n (by simp only [List.mem_cons, List.not_mem_nil]; omega)

theorem list?_texts (ts : List Text) :
    (Literal.texts ts).value.list? Toml.Value.text? = some ts := by
  show (ts.map Toml.Value.text).mapM Toml.Value.text? = some ts
  induction ts with
  | nil => rfl
  | cons t ts ih =>
      rw [List.map_cons, List.mapM_cons, ih]
      rfl

theorem texts?_pairs (ps : List (Text × Text)) : (Literal.pairs ps).value.texts? = some ps := by
  show (ps.map fun p => (p.1, Toml.Value.text p.2)).mapM
    (fun m => m.2.text?.map fun t => (m.1, t)) = some ps
  induction ps with
  | nil => rfl
  | cons p ps ih =>
      rw [List.map_cons, List.mapM_cons, ih]
      rfl

theorem natural?_number {n : Nat} (h : n ≤ Text.Decimal.limit) :
    (Literal.number n).value.natural? = some n := by
  show (if (0 : Int) ≤ n ∧ (n : Int) ≤ Text.Decimal.limit then some (n : Int).toNat else none) = _
  rw [if_pos ⟨Int.natCast_nonneg n, Int.ofNat_le.2 h⟩, Int.toNat_natCast]

theorem ofToml?_table (hx : x.Expressible) : Config.ofToml? x.table = some x.config := by
  -- All keys are known, so the settings are read one by one, each at its place among them.
  have hkeys : (x.table.all fun m => Config.keys.elem m.1) = true := by
    rw [List.all_eq_true, table, List.forall_mem_map]
    intro e he
    have hmem := (sublist_keys x).subset (List.mem_map_of_mem he)
    exact List.elem_iff.2 ((List.dropLast_sublist _).subset hmem)
  have hverbosity : Config.setting x.table "verbose"
      (fun v => v.text?.bind Verbosity.ofName?) Config.usual.verbosity
        = some x.config.verbosity :=
    setting_optional (List.mem_of_getElem? (i := 0) rfl) fun v hv =>
      ofName?_name (hx.verbosity v hv)
  have houtput : Config.setting x.table "output" (fun v => v.text?.map some) Config.usual.output
      = some x.config.output := by
    refine setting_table (List.mem_of_getElem? (i := 1) rfl) ?_ ?_
    · exact fun h => Option.map_eq_none_iff.1 h
    · intro l hl
      obtain ⟨path, hpath, rfl⟩ := Option.map_eq_some_iff.1 hl
      exact congrArg some hpath.symm
  have hleader : Config.setting x.table "url_prefix" Toml.Value.text? Config.usual.leader
      = some x.config.leader :=
    setting_optional (List.mem_of_getElem? (i := 2) rfl) fun _ _ => rfl
  have hprotocols : Config.setting x.table "protocols" (Toml.Value.list? Toml.Value.text?)
      Config.usual.protocols = some x.config.protocols :=
    setting_optional (List.mem_of_getElem? (i := 3) rfl) fun ps _ => list?_texts ps
  have hexcluded : Config.setting x.table "exclude_tag" (Toml.Value.list? Toml.Value.text?)
      Config.usual.excluded = some x.config.excluded :=
    setting_optional (List.mem_of_getElem? (i := 4) rfl) fun names _ => list?_texts names
  have hoffline : Config.setting x.table "offline" Toml.Value.bool? Config.usual.offline
      = some x.config.offline :=
    setting_switch (List.mem_of_getElem? (i := 5) rfl)
  have htimeout : Config.setting x.table "timeout" Toml.Value.natural? Config.usual.timeout
      = some x.config.timeout :=
    setting_optional (List.mem_of_getElem? (i := 6) rfl) fun n hn =>
      natural?_number (hx.timeout n hn)
  have hagent : Config.setting x.table "user_agent" Toml.Value.text? Config.usual.agent
      = some x.config.agent :=
    setting_optional (List.mem_of_getElem? (i := 7) rfl) fun _ _ => rfl
  have hheaders : Config.setting x.table "header" Toml.Value.texts? Config.usual.headers
      = some x.config.headers := by
    refine setting_table (List.mem_of_getElem? (i := 8) rfl) ?_ ?_
    · intro h
      by_contra hne
      have hne' : x.headers ≠ [] := hne
      rw [if_neg hne'] at h
      cases h
    · intro l hl
      split at hl
      · cases hl
      · rw [← Option.some.inj hl]
        exact texts?_pairs x.headers
  have hdump : Config.setting x.table "dump" Toml.Value.bool? Config.usual.dump
      = some x.config.dump :=
    setting_switch (List.mem_of_getElem? (i := 9) rfl)
  have hproviders : Config.setting x.table "providers"
      (Toml.Value.list? ProviderEntry.ofToml?) Config.usual.providers
        = some x.config.providers := by
    have hnone : x.table.lookup "providers".toList = none :=
      Toml.lookup_present_of_not_mem Literal.value (keys_chosen ▸ by decide)
    rw [Config.setting, hnone]
    rfl
  rw [Config.ofToml?, if_pos hkeys, hverbosity, houtput, hleader, hprotocols, hexcluded, hoffline,
    htimeout, hagent, hheaders, hdump, hproviders]
  rfl

/-- The settings file that is written says what is chosen. -/
theorem ofBytes_toml (hx : x.Expressible) :
    Config.ofBytes (Text.Utf8.encode x.toml) = .ok x.config := by
  rw [Config.ofBytes, Text.Utf8.decode?_encode]
  simp only [read_toml hx, Option.bind_some, ofToml?_table hx]

end Choices

/-! ### Either way -/

namespace Config

theorem foldl_putHeader {pairs hs : List (Text × Text)}
    (h : (pairs.map Prod.fst ++ hs.map fun h => Text.asciiLower h.1).Nodup) :
    hs.foldl (fun pairs h => putHeader pairs (Text.asciiLower h.1) h.2) pairs
      = pairs ++ hs.map fun h => (Text.asciiLower h.1, h.2) := by
  -- For all `pairs`, since each header that is put joins them.
  induction hs generalizing pairs with
  | nil => exact (List.append_nil pairs).symm
  | cons header hs ih =>
      have hnew : (pairs.any fun p => p.1 == Text.asciiLower header.1) = false := by
        rw [List.any_eq_false]
        intro p hp heq
        exact (List.nodup_append.1 h).2.2 p.1 (List.mem_map_of_mem hp) _ List.mem_cons_self
          (beq_iff_eq.1 heq)
      have hput : putHeader pairs (Text.asciiLower header.1) header.2
          = pairs ++ [(Text.asciiLower header.1, header.2)] := by
        rw [putHeader, hnew]
        rfl
      have hrest : ((pairs ++ [(Text.asciiLower header.1, header.2)]).map Prod.fst
          ++ hs.map fun h => Text.asciiLower h.1).Nodup := by
        simpa using h
      rw [List.foldl_cons, hput, ih hrest, List.append_assoc]
      rfl

/-- Headers with different names are joined as they are, with their names in lower case. -/
theorem mergeHeaders_eq {file chosen : List (Text × Text)}
    (h : ((file ++ chosen).map fun h => Text.asciiLower h.1).Nodup) :
    mergeHeaders file chosen = (file ++ chosen).map fun h => (Text.asciiLower h.1, h.2) :=
  foldl_putHeader h

theorem pick_usual {α : Type} [DecidableEq α] (usual chosen : α) :
    pick usual chosen usual = chosen := by
  rw [pick]
  split
  · rename_i h
    exact h.symm
  · rfl

end Config

namespace Choices

variable {x : Choices}

/-- The configuration of a run with what is chosen. -/
def effective (x : Choices) : Config := { x.config with headers := x.lowered }

theorem verbosity_said (x : Choices) (file : Option Text) (inputs : List Text) :
    ((x.said file).withInputs inputs).verbosity = x.verbosity.getD .usual := by
  show Verbosity.mk ((x.verbosity.getD .usual).steps.toNat
    - (-(x.verbosity.getD .usual).steps).toNat) = x.verbosity.getD .usual
  generalize x.verbosity.getD .usual = v
  have hv : (v.steps.toNat : Int) - ((-v.steps).toNat : Int) = v.steps := by omega
  rw [hv]

theorem config_said (x : Choices) (file : Option Text) (inputs : List Text) :
    ((x.said file).withInputs inputs).config = x.effective :=
  congrArg (fun v => { x.effective with verbosity := v }) (x.verbosity_said file inputs)

/-- A settings file that says nothing changes nothing. -/
theorem merge_usual (hx : x.Expressible) : x.effective.merge Config.usual = x.effective := by
  -- The names of headers are in lower case already, and stay different.
  have hlower : (x.lowered.map fun h => (Text.asciiLower h.1, h.2)) = x.lowered := by
    rw [lowered, List.map_map]
    exact List.map_congr_left fun h _ => Prod.ext (Text.asciiLower_asciiLower h.1) rfl
  have hnames : (x.lowered.map fun h => Text.asciiLower h.1)
      = x.headers.map fun h => Text.asciiLower h.1 := by
    rw [lowered, List.map_map]
    exact List.map_congr_left fun h _ => Text.asciiLower_asciiLower h.1
  have hheaders : Config.mergeHeaders [] x.lowered = x.lowered :=
    (Config.mergeHeaders_eq (hnames ▸ hx.names)).trans hlower
  simp only [Config.merge, Config.pick_usual]
  exact congrArg (fun headers => { x.effective with headers := headers }) hheaders

/-- What a settings file says counts where nothing else is chosen. -/
theorem usual_merge (hx : x.Expressible) : Config.usual.merge x.config = x.effective := by
  have hheaders : Config.mergeHeaders x.headers [] = x.lowered := by
    have hall := Config.mergeHeaders_eq ((List.append_nil x.headers).symm ▸ hx.names)
    rwa [List.append_nil] at hall
  simp only [Config.merge, Config.pick, if_true]
  exact congrArg (fun headers => { x.effective with headers := headers }) hheaders

end Choices

end BareUrl
