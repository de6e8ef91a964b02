import BareUrl.Program.Setup
import BareUrl.Proofs.Exchange.Line
import BareUrl.Proofs.Resolver.Online

/-!
# `BareUrl.Proofs.Resolver.Question`: what is asked

The question about a URL is a request whose query has the pairs of the endpoint's own query, and
behind them one with the URL and one with the form of the answer. `firstLine_decodes` reads these
pairs back from the first line that is sent. So no character of a URL has a meaning of its own
there, and the line tells which URL is asked about.

An endpoint is an address that was read from a text (`Provider.Made`), and the program asks no other
ones (`Config.made_of_allProviders`).
-/

set_option autoImplicit false

namespace BareUrl

open Exchange (Network Request Traffic readTarget?)

/-! ### Providers -/

/-- The provider was made from texts. -/
def Provider.Made (p : Provider) : Prop :=
  ∃ name endpoint schemes, make name endpoint schemes = .ok p

theorem Provider.made_of_toOption {p : Provider} {name endpoint : Text} {schemes : List Text}
    (h : (make name endpoint schemes).toOption = some p) : p.Made := by
  refine ⟨name, endpoint, schemes, ?_⟩
  cases hmake : make name endpoint schemes with
  | error failure =>
      rw [hmake] at h
      cases h
  | ok q =>
      rw [hmake] at h
      exact congrArg Except.ok (Option.some.inj h)

theorem Provider.made_of_mem_known {p : Provider} (h : p ∈ known) : p.Made := by
  have hall : (known.all fun p =>
      (make p.name p.endpoint.text p.schemes).toOption = some p) = true := by decide +kernel
  exact made_of_toOption (of_decide_eq_true (List.all_eq_true.1 hall p h))

/-- All providers of a configuration are made from texts. -/
theorem Config.made_of_allProviders {c : Config} {providers : List Provider}
    (h : c.allProviders = .ok providers) : ∀ p ∈ providers, p.Made := by
  intro p hp
  rw [allProviders] at h
  cases hchosen : c.providers.mapM fun p => Provider.make p.name p.endpoint p.schemes with
  | error failure =>
      rw [hchosen] at h
      cases h
  | ok chosen =>
      rw [hchosen] at h
      obtain rfl : chosen ++ Provider.known = providers := Except.ok.inj h
      rcases List.mem_append.1 hp with hp | hp
      · obtain ⟨entry, -, hentry⟩ := Traced.exists_of_mapM hchosen hp
        exact ⟨_, _, _, hentry⟩
      · exact Provider.made_of_mem_known hp

theorem Provider.Made.read_endpoint {p : Provider} (h : p.Made) :
    ∃ t, Address.read t = .ok p.endpoint := by
  obtain ⟨name, endpoint, schemes, hmake⟩ := h
  unfold make at hmake
  split at hmake
  · cases hmake
  · rename_i address hread
    split at hmake
    · obtain rfl := Except.ok.inj hmake
      exact ⟨endpoint, hread⟩
    · cases hmake

namespace Resolver.Online

variable {σ : Type} {o : Online} {n : Network σ} {s : σ} {url line : Text}

/-! ### Questions -/

/-- The pairs that tell an endpoint what is asked. -/
def questionPairs (url : Text) : List (Text × Text) :=
  [("url".toList, url), ("format".toList, "json".toList)]

/-- The question can be read from its first line, if the endpoint is asked at all. -/
theorem readTarget?_question {p : Provider} (h : p.Made)
    (hspeaks : Exchange.Client.speaks p.endpoint.scheme = true) (url : Text)
    (headers : Exchange.Headers) :
    readTarget? (Request.line ⟨question p url, headers⟩)
      = some ⟨p.endpoint.path.text,
          Address.Form.decode (p.endpoint.query.getD []) ++ questionPairs url⟩ := by
  obtain ⟨t, hread⟩ := h.read_endpoint
  have htarget : (question p url).IsTarget :=
    (Address.isTarget_of_read hread hspeaks).addPairs (questionPairs url)
  have hpairs : Address.Form.decode ((question p url).query.getD [])
      = Address.Form.decode (p.endpoint.query.getD []) ++ questionPairs url :=
    Address.Form.decode_addPairs p.endpoint (questionPairs url)
  rw [Exchange.readTarget?_line htarget, hpairs]
  rfl

/-- Behind any pairs, those of a question tell which URL it is about. -/
theorem eq_of_append_questionPairs {before before' : List (Text × Text)} {url url' : Text}
    (h : before ++ questionPairs url = before' ++ questionPairs url') : url = url' := by
  have hpairs := (List.append_inj' h rfl).2
  exact (Prod.mk.inj (List.cons.inj hpairs).1).2

/-- The first line of the request that a lookup sends to an endpoint, if it sends one. What may
follow are redirections. -/
def firstLine (o : Online) (n : Network σ) (s : σ) (url : Text) : Option Text :=
  (o.resolver n.watched url (Traffic.empty s)).state.sendings.head?.map fun x => x.request.line

/-- A lookup asks exactly if the client sends requests to the endpoint. -/
theorem firstLine_eq (o : Online) (n : Network σ) (s : σ) (url : Text) :
    o.firstLine n s url
      = if o.reaches url then
          (providerFor o.providers url).map fun p => Request.line ⟨question p url, o.client.headers⟩
        else none := by
  obtain ⟨-, -, -, sent, hsent, hlooks⟩ := o.resolver_watched n url (Traffic.empty s)
  rw [firstLine, hsent]
  show sent.head?.map _ = _
  rw [Looks] at hlooks
  split
  · rename_i hreaches
    rw [if_pos hreaches] at hlooks
    obtain ⟨p, hprovider, hfirst⟩ := hlooks.first
    obtain ⟨first, hhead, hrequest⟩ := Option.map_eq_some_iff.1 hfirst
    rw [hhead, hprovider, Option.map_some, Option.map_some, hrequest]
  · rename_i hreaches
    rw [if_neg hreaches] at hlooks
    rw [hlooks]
    rfl

theorem speaks_of_reaches {p : Provider} (hprovider : providerFor o.providers url = some p)
    (h : o.reaches url = true) : Exchange.Client.speaks p.endpoint.scheme = true := by
  rw [reaches, hprovider, Option.any_some, Exchange.Client.sends, Bool.and_eq_true,
    Exchange.Client.takes, Bool.and_eq_true] at h
  exact h.1.1

/-- The first line that is sent about a URL can be read. -/
theorem readTarget?_firstLine (hmade : ∀ p ∈ o.providers, p.Made)
    (h : o.firstLine n s url = some line) :
    ∃ p, providerFor o.providers url = some p ∧
      readTarget? line = some ⟨p.endpoint.path.text,
        Address.Form.decode (p.endpoint.query.getD []) ++ questionPairs url⟩ := by
  rw [firstLine_eq] at h
  split at h
  · rename_i hreaches
    obtain ⟨p, hprovider, rfl⟩ := Option.map_eq_some_iff.1 h
    have hmem : p ∈ o.providers := List.mem_of_find?_eq_some hprovider
    exact ⟨p, hprovider, readTarget?_question (hmade p hmem)
      (speaks_of_reaches hprovider hreaches) url _⟩
  · cases h

/-- What is asked about a URL, whatever the network does. The client sends a request exactly if it
reaches the endpoint of the first provider that serves the URL. The path of its target is that of
the endpoint, and the pairs of its query are those of the endpoint's own query, then the URL and
the form of the answer. So no URL adds or changes a pair, and a lookup of another URL never sends
the same first line, not even one of another resolver. -/
theorem firstLine_decodes {o : Online} (hmade : ∀ p ∈ o.providers, p.Made) (n : Network σ) (s : σ)
    (url : Text) :
    (o.firstLine n s url).isSome = o.reaches url ∧
    ∀ line, o.firstLine n s url = some line →
      (∃ p, providerFor o.providers url = some p ∧
        readTarget? line = some ⟨p.endpoint.path.text,
          Address.Form.decode (p.endpoint.query.getD []) ++
            [("url".toList, url), ("format".toList, "json".toList)]⟩) ∧
      ∀ (τ : Type) (o' : Online) (n' : Network τ) (s' : τ) (url' : Text),
        (∀ p ∈ o'.providers, p.Made) → o'.firstLine n' s' url' = some line → url' = url := by
  refine ⟨?_, fun line hline => ⟨readTarget?_firstLine hmade hline, ?_⟩⟩
  · rw [firstLine_eq]
    split
    · rename_i hreaches
      rw [hreaches, Option.isSome_map]
      rw [reaches] at hreaches
      exact Option.isSome_of_any hreaches
    · rename_i hreaches
      rw [Bool.not_eq_true] at hreaches
      rw [hreaches]
      rfl
  · -- Both lookups can be read back from the line, and it has one target.
    intro τ o' n' s' url' hmade' hline'
    obtain ⟨p, -, hp⟩ := readTarget?_firstLine hmade hline
    obtain ⟨q, -, hq⟩ := readTarget?_firstLine hmade' hline'
    have htarget := Option.some.inj (hq.symm.trans hp)
    exact eq_of_append_questionPairs (congrArg Exchange.Target.pairs htarget)

/-- A URL that is full of marks, and an endpoint whose own query names a URL already. -/
theorem firstLine_decodes_marks :
    let p : Provider := ⟨['P'], ⟨"https".toList, [], [], some (.name "a.b".toList), none,
      .segments ["c".toList], some "d=e&url=f".toList, some ['g']⟩, [['*']]⟩
    let o : Online := ⟨[p], ⟨[], some 1⟩⟩
    let n : Network Unit := fun _ s => (.silence, s)
    let url := "http://h.i/ä?j=k&url=l&format=xml#m +%26".toList
    (Provider.make ['P'] "https://a.b/c?d=e&url=f#g".toList [['*']]).toOption = some p ∧
      ∃ line, o.firstLine n () url = some line ∧
        readTarget? line = some ⟨"/c".toList, [("d".toList, "e".toList), ("url".toList, "f".toList),
          ("url".toList, url), ("format".toList, "json".toList)]⟩ ∧
        ∀ url', o.firstLine n () url' = some line → url' = url := by
  intro p o n url
  have hruns : (Provider.make ['P'] "https://a.b/c?d=e&url=f#g".toList [['*']]).toOption = some p ∧
      o.reaches url = true ∧ providerFor o.providers url = some p ∧
      Address.Form.decode (p.endpoint.query.getD [])
        = [("d".toList, "e".toList), ("url".toList, "f".toList)] := by decide +kernel
  obtain ⟨hmake, hreaches, hprovider, hquery⟩ := hruns
  have hmade : ∀ q ∈ o.providers, q.Made := by
    intro q hq
    rw [List.mem_singleton.1 hq]
    exact Provider.made_of_toOption hmake
  obtain ⟨hsome, hlines⟩ := firstLine_decodes hmade n () url
  rw [hreaches] at hsome
  obtain ⟨line, hline⟩ := Option.isSome_iff_exists.1 hsome
  obtain ⟨⟨q, hq, hread⟩, hsame⟩ := hlines line hline
  obtain rfl : p = q := Option.some.inj (hprovider.symm.trans hq)
  refine ⟨hmake, line, hline, ?_, fun url' h => hsame Unit o n () url' hmade h⟩
  rw [hread, hquery]
  rfl

end Resolver.Online

end BareUrl
