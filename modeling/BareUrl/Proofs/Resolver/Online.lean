import BareUrl.Proofs.Exchange.Client
import BareUrl.Proofs.Traced
import BareUrl.Resolver.Online

/-!
# `BareUrl.Proofs.Resolver.Online`: who is asked

The resolver that asks endpoints and the one that goes by the patterns of the providers choose the
provider of a URL in the same way. So only a URL that a provider serves is called embeddable by the
first one (`isSome_of_embeddable`), and what it sends to ask about a URL is a request to the
endpoint of that provider, and redirections (`Asks`). `each_watched` says it of lookups one after
another: what is sent falls into one group for each URL that is asked about at all.
-/

set_option autoImplicit false

namespace BareUrl.Resolver

open Exchange (Network Redirected Sending Traffic)

variable {σ : Type}

namespace Online

variable {o : Online} {url : Text}

/-- `true` if the client sends a request to the endpoint of the provider that serves the URL. -/
def reaches (o : Online) (url : Text) : Bool :=
  (providerFor o.providers url).any fun p => o.client.sends (question p url)

/-- What is sent to ask about a URL: a request to the endpoint of the first provider that serves
it, and redirections of this request. -/
structure Asks (o : Online) (url : Text) (sent : List Sending) : Prop where
  first : ∃ p, providerFor o.providers url = some p ∧
    sent.head?.map Sending.request = some ⟨question p url, o.client.headers⟩
  redirected : sent.IsChain Redirected

/-- What a lookup sends: what it takes to ask, or nothing. -/
def Looks (o : Online) (url : Text) (sent : List Sending) : Prop :=
  if o.reaches url then o.Asks url sent else sent = []

theorem looks_of_gets {p : Provider} {sent : List Sending}
    (hprovider : providerFor o.providers url = some p)
    (h : o.client.Gets (question p url) sent) : o.Looks url sent := by
  have hreaches : o.reaches url = o.client.sends (question p url) := by
    rw [reaches, hprovider, Option.any_some]
  have hfirst := h.first
  rw [Looks, hreaches]
  split
  · rename_i hsends
    rw [if_pos hsends] at hfirst
    exact ⟨⟨p, hprovider, hfirst⟩, h.redirected⟩
  · rename_i hsends
    rw [if_neg hsends] at hfirst
    rwa [Option.map_eq_none_iff, List.head?_eq_none_iff] at hfirst

/-- A lookup through a watched network ends as it would unwatched. -/
theorem resolver_watched (o : Online) (n : Network σ) (url : Text) (s : Traffic σ) :
    let x := o.resolver n.watched url s
    let y := o.resolver n url s.inner
    x.result = y.result ∧ x.notes = y.notes ∧ x.state.inner = y.state ∧
      ∃ sent, x.state.sendings = s.sendings ++ sent ∧ o.Looks url sent := by
  show (o.resolver n.watched url s).result = (o.resolver n url s.inner).result ∧ _
  rw [resolver, resolver]
  cases hprovider : providerFor o.providers url with
  | none =>
      have hreaches : o.reaches url = false := by rw [reaches, hprovider, Option.any_none]
      refine ⟨rfl, rfl, rfl, [], (List.append_nil _).symm, ?_⟩
      rw [Looks, hreaches]
      rfl
  | some p =>
      obtain ⟨hreply, hinner, sent, hsent, hgets⟩ :=
        o.client.follow_watched n Exchange.Client.redirectLimit (question p url) s
      have hlooks : o.Looks url sent := looks_of_gets hprovider hgets
      simp only [Exchange.Client.get]
      cases hx : o.client.follow n.watched Exchange.Client.redirectLimit (question p url) s with
      | mk reply watched =>
          cases hy : o.client.follow n Exchange.Client.redirectLimit (question p url) s.inner with
          | mk reply' left =>
              rw [hx, hy] at hreply hinner
              rw [hx] at hsent
              obtain rfl : reply = reply' := hreply
              cases reply <;> exact ⟨rfl, rfl, hinner, sent, hsent, hlooks⟩

/-- Lookups one after another through a watched network end as they would unwatched, and what they
send falls into one group for each URL that is asked about. -/
theorem each_watched (o : Online) (n : Network σ) (urls : List Text) (s : Traffic σ) :
    let x := Traced.each (o.resolver n.watched) urls s
    let y := Traced.each (o.resolver n) urls s.inner
    x.result = y.result ∧ x.state.inner = y.state ∧
      ∃ groups, x.state.sendings = s.sendings ++ groups.flatten ∧
        List.Forall₂ o.Asks (urls.filter o.reaches) groups := by
  induction urls generalizing s with
  | nil => exact ⟨rfl, rfl, [], (List.append_nil _).symm, .nil⟩
  | cons url urls ih =>
      obtain ⟨hresult, -, hinner, sent, hsent, hlooks⟩ := o.resolver_watched n url s
      obtain ⟨hrest, hend, groups, hgroups, hasks⟩ := ih (o.resolver n.watched url s).state
      rw [hinner] at hrest hend
      refine ⟨?_, hend, ?_⟩
      · rw [Traced.result_each_cons, Traced.result_each_cons, hresult, hrest]
      · rw [Looks] at hlooks
        -- A URL that is asked about has a group of its own, any other one adds nothing.
        cases hreaches : o.reaches url with
        | true =>
            rw [hreaches, if_pos rfl] at hlooks
            refine ⟨sent :: groups, ?_, ?_⟩
            · rw [Traced.state_each_cons, hgroups, hsent, List.flatten_cons, List.append_assoc]
            · rw [List.filter_cons_of_pos hreaches]
              exact .cons hlooks hasks
        | false =>
            rw [hreaches, if_neg Bool.false_ne_true] at hlooks
            refine ⟨groups, ?_, ?_⟩
            · rw [Traced.state_each_cons, hgroups, hsent, hlooks, List.append_nil]
            · rw [List.filter_cons_of_neg (by rw [hreaches]; exact Bool.false_ne_true)]
              exact hasks

end Online

end BareUrl.Resolver
