import BareUrl.CommandLine.Reader
import BareUrl.Program.Setup
import BareUrl.Proofs.Exchange.Header
import BareUrl.Proofs.Resolver.Online

/-!
# `BareUrl.Proofs.Program.Headers`: the headers of a request

A request carries the headers that are chosen, and two of the resolver's own: how it names itself
and which answers it can read. Where a chosen header has one of these two names, it is not sent
(`carries_iff`), and nothing says so (`carries_own`).
-/

set_option autoImplicit false

namespace BareUrl

open Exchange (Header Headers Network Traffic)
open Resolver (Online)

namespace Resolver.Online

variable {providers : List Provider} {headers : Headers} {agent : Text} {timeout : Option Nat}
  {o : Online}

theorem nodup_ownHeaders (agent : Text) : ((ownHeaders agent).map Header.name).Nodup := by
  show ["user-agent".toList, "accept".toList].Nodup
  decide

/-- The header about encodings is put in only where there is none. -/
theorem get?_withEncodings {chosen : Headers} {name value : Text}
    (h : chosen.get? name = some value) :
    Headers.get? (if (chosen.get? encodings.name).isSome then chosen else chosen.insert encodings)
      name = some value := by
  split
  · exact h
  · rename_i hnone
    have hne : encodings.name ≠ name := by
      rintro rfl
      exact hnone (h ▸ rfl)
    rw [Headers.get?_insert, if_neg hne, h]

/-- The resolver's own headers take the place of those that are chosen. -/
theorem get?_make (h : make providers headers agent timeout = .ok o) {name value : Text}
    (hchosen : headers.get? name = some value) :
    o.client.headers.get? name
      = some ((Headers.get? (ownHeaders agent).reverse name).getD value) := by
  rw [make] at h
  split at h
  · obtain rfl := Except.ok.inj h
    refine get?_withEncodings ?_
    rw [Headers.get?_foldl_insert, hchosen]
    cases Headers.get? (ownHeaders agent).reverse name <;> rfl
  · cases h

/-- A chosen header is among those of the client exactly if none of the resolver's own has its name
and another value. -/
theorem get?_make_eq_some_iff (h : make providers headers agent timeout = .ok o)
    {name value : Text} (hchosen : headers.get? name = some value) :
    o.client.headers.get? name = some value
      ↔ ∀ g ∈ ownHeaders agent, g.name = name → g.value = value := by
  have hnames : (((ownHeaders agent).reverse).map Header.name).Nodup := by
    rw [List.map_reverse]
    exact List.nodup_reverse.2 (nodup_ownHeaders agent)
  rw [get?_make h hchosen, Option.some_inj]
  constructor
  · rintro hvalue g hg rfl
    rw [Headers.get?_of_mem hnames (List.mem_reverse.2 hg), Option.getD_some] at hvalue
    exact hvalue
  · intro hown
    cases hlast : Headers.get? (ownHeaders agent).reverse name with
    | none => rfl
    | some v =>
        obtain ⟨g, hg, hname, rfl⟩ := Headers.exists_of_get? hlast
        exact hown g (List.mem_reverse.1 hg) hname

/-- Each group of requests is about some URL. -/
theorem exists_asks {urls : List Text} {groups : List (List Exchange.Sending)}
    (h : List.Forall₂ o.Asks urls groups) {group : List Exchange.Sending}
    (hgroup : group ∈ groups) : ∃ url, o.Asks url group := by
  induction h with
  | nil => exact absurd hgroup List.not_mem_nil
  | cons hasks _ ih =>
      rcases List.mem_cons.1 hgroup with rfl | hgroup
      · exact ⟨_, hasks⟩
      · exact ih hgroup

/-- Requests about URLs, and the headers that they carry. Any pairs of texts that are headers, with
different names, can be chosen, and any agent that can be sent. Whatever the network does, the
request about a URL then carries a chosen header exactly if none of the resolver's own has its name
and another value. -/
theorem carries_iff {pairs : List (Text × Text)} (hvalid : ∀ h ∈ pairs, Header.fault? h = none)
    (hnames : (pairs.map fun h => Text.asciiLower h.1).Nodup)
    (hagent : Header.isValue agent = true) (providers : List Provider) (timeout : Option Nat) :
    ∃ headers o, Headers.ofPairs pairs = .ok headers ∧
      make providers headers agent timeout = .ok o ∧
      ∀ (σ : Type) (n : Network σ) (urls : List Text) (s : σ),
        ∃ groups,
          (Traced.each (o.resolver n.watched) urls (.empty s)).state.sendings = groups.flatten ∧
          List.Forall₂ o.Asks (urls.filter o.reaches) groups ∧
          ∀ group ∈ groups, ∃ first, group.head? = some first ∧
            ∀ h ∈ pairs,
              (first.request.headers.get? (Text.asciiLower h.1) = some h.2 ↔
                ∀ g ∈ ownHeaders agent, g.name = Text.asciiLower h.1 → g.value = h.2) := by
  have hlower : ((pairs.map Header.ofPair).map Header.name).Nodup := by
    rw [List.map_map]
    exact hnames
  obtain ⟨o, ho⟩ : ∃ o, make providers (pairs.map Header.ofPair) agent timeout = .ok o :=
    ⟨_, if_pos hagent⟩
  refine ⟨_, o, Headers.ofPairs_eq hvalid hnames, ho, fun σ n urls s => ?_⟩
  obtain ⟨-, -, groups, hgroups, hasks⟩ := o.each_watched n urls (Traffic.empty s)
  refine ⟨groups, hgroups, hasks, fun group hgroup => ?_⟩
  obtain ⟨url, hurl⟩ := exists_asks hasks hgroup
  obtain ⟨p, -, hfirst⟩ := hurl.first
  obtain ⟨first, hhead, hrequest⟩ := Option.map_eq_some_iff.1 hfirst
  refine ⟨first, hhead, fun h hh => ?_⟩
  rw [hrequest]
  exact get?_make_eq_some_iff ho
    (Headers.get?_of_mem hlower (List.mem_map_of_mem hh : Header.ofPair h ∈ _))

/-- A header with a name of its own, and one that the resolver sends with the same value. A provider
that is known from the start is asked. -/
theorem carries_iff_other :
    let pairs := [("X-Key".toList, "secret".toList), ("accept".toList, "application/json".toList)]
    let agent := "reader".toList
    let url := "https://youtu.be/x".toList
    (∀ h ∈ pairs, Header.fault? h = none) ∧ (pairs.map fun h => Text.asciiLower h.1).Nodup ∧
      Header.isValue agent = true ∧
      ∃ headers o, Headers.ofPairs pairs = .ok headers ∧
        make Provider.known headers agent none = .ok o ∧
        ∀ (σ : Type) (n : Network σ) (s : σ), ∃ first,
          (Traced.each (o.resolver n.watched) [url] (.empty s)).state.sendings.head? = some first ∧
            ∀ h ∈ pairs, first.request.headers.get? (Text.asciiLower h.1) = some h.2 := by
  intro pairs agent url
  have hruns : (pairs.all fun h => Header.fault? h = none) = true ∧
      (pairs.map fun h => Text.asciiLower h.1).Nodup ∧ Header.isValue agent = true ∧
      (pairs.all fun h => (ownHeaders agent).all fun g =>
        g.name = Text.asciiLower h.1 → g.value = h.2) = true ∧
      ((Headers.ofPairs pairs).toOption.bind fun headers =>
        (make Provider.known headers agent none).toOption.map fun o =>
          [url].filter o.reaches) = some [url] := by decide +kernel
  obtain ⟨hvalid, hnames, hagent, hown, hreaches⟩ := hruns
  have hvalid' : ∀ h ∈ pairs, Header.fault? h = none := fun h hh =>
    of_decide_eq_true (List.all_eq_true.1 hvalid h hh)
  obtain ⟨headers, o, hheaders, ho, hall⟩ :=
    carries_iff hvalid' hnames hagent Provider.known none
  refine ⟨hvalid', hnames, hagent, headers, o, hheaders, ho, fun σ n s => ?_⟩
  have hasked : [url].filter o.reaches = [url] := by
    rw [hheaders] at hreaches
    simpa only [Except.toOption, Option.bind_some, ho, Option.map_some, Option.some.injEq]
      using hreaches
  obtain ⟨groups, hgroups, hasks, hcarries⟩ := hall σ n [url] s
  rw [hasked] at hasks
  obtain ⟨group, rest, -, hrest, rfl⟩ := List.forall₂_cons_left_iff.1 hasks
  obtain ⟨first, hhead, hfirst⟩ := hcarries group List.mem_cons_self
  refine ⟨first, ?_, fun h hh => (hfirst h hh).2 fun g hg => ?_⟩
  · rw [hgroups, List.flatten_cons, List.head?_append, hhead]
    rfl
  · exact of_decide_eq_true (List.all_eq_true.1 (List.all_eq_true.1 hown h hh) g hg)

/-- A header that says which answers are wanted. The request says something else. -/
theorem carries_own :
    let c : CommandLine := { CommandLine.empty with
      inputs := [.file ['a']], headers := [("accept".toList, "text/xml".toList)] }
    let n : Network Unit := fun _ s => (.silence, s)
    let url := "https://youtu.be/x".toList
    CommandLine.read ["-HAccept: text/xml".toList, ['a']] = .ok c ∧
      (c.config.lookup.1.toOption.map fun l =>
        (l.resolver n.recorded url ⟨[], ()⟩).state.requests.map fun r =>
          r.headers.get? "accept".toList) = some [some "application/json".toList] := by
  decide +kernel

end Resolver.Online

end BareUrl
