import BareUrl.Exchange.Client
import Mathlib.Data.List.Chain

/-!
# `BareUrl.Proofs.Exchange.Client`: what is sent

An answer may lead on to another address, so one get can send several requests. A record of all
that is sent, with the replies (`Network.watched`), tells them apart: the first request of a get is
for its address, and each further one is for where the answer to the one before it leads
(`Client.Gets`). `follow_watched` says that this is so for every network, and that the record makes
no difference.
-/

set_option autoImplicit false

namespace BareUrl.Exchange

variable {σ : Type}

/-- A request, and what became of it. -/
structure Sending where
  request : Request
  reply : Reply

/-- A state together with all that was sent in it, in order. -/
structure Traffic (σ : Type) where
  sendings : List Sending
  inner : σ

/-- No traffic. -/
def Traffic.empty (inner : σ) : Traffic σ := ⟨[], inner⟩

/-- The network that keeps a record of what is sent through another one, and of the replies. -/
def Network.watched (n : Network σ) : Network (Traffic σ) := fun r s =>
  ((n r s.inner).1, ⟨s.sendings ++ [⟨r, (n r s.inner).1⟩], (n r s.inner).2⟩)

/-- The answer to the first request leads to the address of the second one. -/
def Redirected (x y : Sending) : Prop :=
  ∃ response, x.reply = .answer response ∧
    Client.redirection x.request.address response = some y.request.address

namespace Client

/-- `true` if the client sends requests to the address: it can ask it and has any time to wait. -/
def sends (c : Client) (address : Address) : Bool :=
  takes address && c.timeout != some 0

/-- What is sent to get what is at an address: a request for it, and redirections. -/
structure Gets (c : Client) (address : Address) (sent : List Sending) : Prop where
  first : sent.head?.map Sending.request
    = if c.sends address then some ⟨address, c.headers⟩ else none
  redirected : sent.IsChain Redirected

variable {c : Client} {address : Address}

theorem gets_nil (h : c.sends address = false) : c.Gets address [] where
  first := by rw [h]; rfl
  redirected := .nil

theorem gets_single (h : c.sends address = true) (reply : Reply) :
    c.Gets address [⟨⟨address, c.headers⟩, reply⟩] where
  first := by rw [h]; rfl
  redirected := .singleton _

/-- In front of what is sent to where an answer leads stands the request that was answered. -/
theorem Gets.cons {next : Address} {sent : List Sending} {response : Response}
    (h : c.Gets next sent) (hsends : c.sends address = true)
    (hnext : redirection address response = some next) :
    c.Gets address (⟨⟨address, c.headers⟩, .answer response⟩ :: sent) where
  first := by rw [hsends]; rfl
  redirected := by
    refine List.isChain_cons.2 ⟨fun y hy => ⟨response, rfl, ?_⟩, h.redirected⟩
    have hfirst := h.first
    rw [Option.mem_def.1 hy, Option.map_some] at hfirst
    split at hfirst
    · rw [Option.some.inj hfirst]
      exact hnext
    · cases hfirst

/-- A get through a watched network ends as it would unwatched, and what it sends is added to the
record. -/
theorem follow_watched (c : Client) (n : Network σ) (hops : Nat) (address : Address)
    (s : Traffic σ) :
    let x := c.follow n.watched hops address s
    let y := c.follow n hops address s.inner
    x.1 = y.1 ∧ x.2.inner = y.2 ∧
      ∃ sent, x.2.sendings = s.sendings ++ sent ∧ c.Gets address sent := by
  -- On the redirections that are left: only an answer that leads on takes one of them.
  induction hops using Nat.strongRecOn generalizing address s with
  | ind hops ih =>
      unfold follow
      by_cases htakes : takes address = true
      · by_cases htime : c.timeout = some 0
        · have hsends : c.sends address = false := by simp [sends, htime]
          simp only [htakes, htime]
          exact ⟨rfl, rfl, [], (List.append_nil _).symm, gets_nil hsends⟩
        · have hsends : c.sends address = true := by simp [sends, htakes, htime]
          cases hanswer : n ⟨address, c.headers⟩ s.inner with
          | mk reply s' =>
              cases reply with
              | silence =>
                  simp only [htakes, htime, Network.watched, hanswer]
                  exact ⟨rfl, rfl, _, rfl, gets_single hsends _⟩
              | answer response =>
                  simp only [htakes, htime, Network.watched, hanswer]
                  cases hnext : redirection address response with
                  | none => exact ⟨rfl, rfl, _, rfl, gets_single hsends _⟩
                  | some next =>
                      cases hops with
                      | zero => exact ⟨rfl, rfl, _, rfl, gets_single hsends _⟩
                      | succ hops =>
                          obtain ⟨hresult, hinner, sent, hsent, hgets⟩ :=
                            ih hops (Nat.lt_succ_self hops) next
                              ⟨s.sendings ++ [⟨⟨address, c.headers⟩, .answer response⟩], s'⟩
                          refine ⟨hresult, hinner, _ :: sent, ?_, hgets.cons hsends hnext⟩
                          exact hsent.trans (List.append_assoc _ _ _)
      · have hsends : c.sends address = false := by simp [sends, htakes]
        simp only [htakes]
        exact ⟨rfl, rfl, [], (List.append_nil _).symm, gets_nil hsends⟩

end Client

end BareUrl.Exchange
