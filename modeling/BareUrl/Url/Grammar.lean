import BareUrl.Failure
import BareUrl.Text.Cut
import BareUrl.Url.Host
import BareUrl.Url.Trail

/-!
# `BareUrl.Url.Grammar`: where URLs stand in a text

A `Grammar` is a list of protocols and a literal leader. A URL is a protocol, a colon, a site and
a trail; with a leader it counts only where the leader stands right in front of it, and the leader
belongs to what is found.

URLs are found from left to right: the leftmost place where one starts, then the next behind its
end (`Grammar.find`). What is found is never empty, since it holds the colon of the protocol.
-/

set_option autoImplicit false

namespace BareUrl.Url

/-- `true` if the text is the scheme of a URI: a letter, then letters, digits, `+`, `.`, `-`. -/
def isProtocolName : Text → Bool
  | [] => false
  | c :: rest => c.isAlpha && rest.all fun d => d.isAlphanum || "+.-".toList.elem d

/-- A protocol, such as `https`. -/
structure Protocol where
  name : Text
  valid : isProtocolName name = true
deriving DecidableEq

/-- The grammar of the URLs to find. -/
structure Grammar where
  /-- The text that has to stand in front of a URL. -/
  leader : Text
  /-- The protocols a URL may start with. -/
  protocols : List Protocol
  /-- Without a protocol nothing could be found. -/
  inhabited : protocols ≠ []

/-- A URL found in a text. -/
structure Found where
  /-- All of the text that was found: the leader and the URL. -/
  matched : Text
  /-- The URL as it is written. -/
  url : Text
deriving DecidableEq, Repr

/-- `true` if a leader was found with the URL. -/
def Found.isLed (f : Found) : Bool := Text.utf8Size f.url < Text.utf8Size f.matched

/-- Checks the names of the protocols, in order. -/
def checkProtocols : List Text → Except Failure (List Protocol)
  | [] => .ok []
  | name :: rest =>
    if h : isProtocolName name = true then
      match checkProtocols rest with
      | .ok ps => .ok (⟨name, h⟩ :: ps)
      | .error e => .error e
    else .error (.invalidProtocol name)

namespace Grammar

/-- The grammar with the given protocols and leader. -/
def make (protocols : List Text) (leader : Text) : Except Failure Grammar :=
  if protocols = [] then .error .emptyProtocols
  else
    match checkProtocols protocols with
    | .error e => .error e
    | .ok [] => .error .emptyProtocols
    | .ok (p :: ps) => .ok ⟨leader, p :: ps, List.cons_ne_nil p ps⟩

/-- Reads a protocol and the site behind it, with the first protocol that fits. -/
def head (g : Grammar) : Reader :=
  .first (g.protocols.map fun p => Reader.seq (.literal (p.name ++ [':'])) site)

/-- Reads a URL. -/
def url (g : Grammar) : Reader := g.head.seq trail

theorem lossless_head (g : Grammar) : g.head.Lossless := by
  apply Reader.lossless_first
  intro p hp
  obtain ⟨q, _, rfl⟩ := List.mem_map.1 hp
  exact (Reader.lossless_literal _).seq lossless_site

theorem lossless_url (g : Grammar) : g.url.Lossless := g.lossless_head.seq lossless_trail

/-- The head of a URL holds the colon of its protocol. -/
theorem head_ne_nil {g : Grammar} {t a r : Text} (h : g.head t = some (a, r)) : a ≠ [] := by
  unfold head at h
  generalize g.protocols = ps at h
  induction ps with
  | nil => simp [Reader.first] at h
  | cons p ps ih =>
    rcases Option.or_eq_some_iff.1 h with h | ⟨_, h⟩
    · simp only [Reader.seq] at h
      split at h
      · simp at h
      · rename_i a₁ r₁ h₁
        obtain ⟨_, _, he⟩ := Option.map_eq_some_iff.1 h₁
        simp only [Prod.mk.injEq] at he
        split at h
        · simp at h
        · simp only [Option.some.injEq, Prod.mk.injEq] at h
          rw [← h.1, ← he.1]
          simp
    · exact ih h

/-- What follows a URL is shorter than the text. -/
theorem length_lt_of_url {g : Grammar} {t a r : Text} (h : g.url t = some (a, r)) :
    r.length < t.length := by
  have ht := g.lossless_url _ _ _ h
  have ha : a ≠ [] := by
    unfold url Reader.seq at h
    split at h
    · simp at h
    · rename_i a₁ r₁ h₁
      split at h
      · simp at h
      · simp only [Option.some.injEq, Prod.mk.injEq] at h
        rw [← h.1]
        have := head_ne_nil h₁
        simp [this]
  have := List.length_pos_iff.2 ha
  rw [ht, List.length_append]
  omega

/-- Finds a URL, with its leader, at the start of a text. -/
def here (g : Grammar) : Recogniser Found := fun t =>
  match h : Text.stripLead g.leader t with
  | none => none
  | some after =>
    match h' : g.url after with
    | none => none
    | some (u, rest) =>
      some ⟨⟨g.leader ++ u, u⟩, rest, by
        have := length_lt_of_url h'
        rw [Text.stripLead_eq_some_iff.1 h, List.length_append]
        omega⟩

/-- The text cut at the URLs in it. -/
def find (g : Grammar) (t : Text) : Cut Found := Scan.run g.here.leftmost t

/-- `true` if there is a URL in the text. -/
def isMatch (g : Grammar) (t : Text) : Bool := (g.here.leftmost t).isSome

/-- Where the URLs of a cut start and end, as byte offsets in UTF-8, from `offset` on. -/
def spansFrom (offset : Nat) : List (Text × Found) → List (Nat × Nat × Found)
  | [] => []
  | (gap, f) :: rest =>
    let start := offset + Text.utf8Size gap
    let stop := start + Text.utf8Size f.matched
    (start, stop, f) :: spansFrom stop rest

/-- Where the URLs in a text start and end, as byte offsets in UTF-8. -/
def spans (g : Grammar) (t : Text) : List (Nat × Nat × Found) := spansFrom 0 (g.find t).parts

end Grammar

end BareUrl.Url
