import BareUrl.Failure

/-!
# `BareUrl.Proofs.Failure`: which failures are equal

`Failure.same` compares failures kind by kind, and two that no line of it compares count as
different. So a kind without a line of its own would not even be equal to itself. `Failure.Matches`
says for each kind which failures of it are equal, and `same_iff` that no others are.

`same_lawful` states what a table of failures relies on: equality is an equivalence, failures of
different kinds are never equal, and equal failures have the same digest. It asks three things of
the faults behind the failures. For those of patterns and of addresses, equality is an equivalence,
and equal ones have the same wording. Those of a header's value all have the same wording. Nothing
is asked of the faults of the client, since they are compared by their wording alone.
-/

set_option autoImplicit false

namespace BareUrl.Failure

open Worded (wording)

variable {Pattern Url Client Value : Type}

section
variable [BEq Pattern] [BEq Url] [Worded Client]

/-- The failures are of one kind and agree in what this kind compares. -/
inductive Matches :
    Failure Pattern Url Client Value → Failure Pattern Url Client Value → Prop where
  | invalidPattern {f g : Pattern} (h : f == g) : Matches (.invalidPattern f) (.invalidPattern g)
  | invalidProtocol (name : Text) : Matches (.invalidProtocol name) (.invalidProtocol name)
  | emptyProtocols : Matches .emptyProtocols .emptyProtocols
  | invalidTagName (name : Text) : Matches (.invalidTagName name) (.invalidTagName name)
  | invalidProviderScheme (schemes : Text) {f g : Pattern} (h : f == g) :
      Matches (.invalidProviderScheme schemes f) (.invalidProviderScheme schemes g)
  | invalidUrl (text : Text) {f g : Url} (h : f == g) :
      Matches (.invalidUrl text f) (.invalidUrl text g)
  | buildRequestClient {f g : Client} (h : wording f = wording g) :
      Matches (.buildRequestClient f) (.buildRequestClient g)
  | networkRequest {f g : Client} (h : wording f = wording g) :
      Matches (.networkRequest f) (.networkRequest g)
  | readResponseBody {f g : Client} (h : wording f = wording g) :
      Matches (.readResponseBody f) (.readResponseBody g)
  | rejectedStatusCode (code : Nat) : Matches (.rejectedStatusCode code) (.rejectedStatusCode code)
  | invalidHeaderValue (f g : Value) : Matches (.invalidHeaderValue f) (.invalidHeaderValue g)

variable {a b c : Failure Pattern Url Client Value}

/-- Equal failures are those of one kind that agree in what it compares. -/
theorem same_iff : a.same b = true ↔ Matches a b := by
  constructor
  · intro h
    fun_cases same a b with
    | case1 f g => exact .invalidPattern h
    | case2 name name' =>
        obtain rfl := of_decide_eq_true h
        exact .invalidProtocol name
    | case3 => exact .emptyProtocols
    | case4 name name' =>
        obtain rfl := of_decide_eq_true h
        exact .invalidTagName name
    | case5 schemes f schemes' g =>
        obtain ⟨hschemes, hfault⟩ := Bool.and_eq_true_iff.1 h
        obtain rfl := of_decide_eq_true hschemes
        exact .invalidProviderScheme schemes hfault
    | case6 text f text' g =>
        obtain ⟨htext, hfault⟩ := Bool.and_eq_true_iff.1 h
        obtain rfl := of_decide_eq_true htext
        exact .invalidUrl text hfault
    | case7 f g => exact .buildRequestClient (of_decide_eq_true h)
    | case8 f g => exact .networkRequest (of_decide_eq_true h)
    | case9 f g => exact .readResponseBody (of_decide_eq_true h)
    | case10 code code' =>
        obtain rfl := of_decide_eq_true h
        exact .rejectedStatusCode code
    | case11 f g => exact .invalidHeaderValue f g
    -- The kinds differ.
    | case12 => simp [same] at h
  · intro h
    cases h with
    | invalidPattern h => exact h
    | invalidProtocol name => exact decide_eq_true rfl
    | emptyProtocols => rfl
    | invalidTagName name => exact decide_eq_true rfl
    | invalidProviderScheme schemes h => exact Bool.and_eq_true_iff.2 ⟨decide_eq_true rfl, h⟩
    | invalidUrl text h => exact Bool.and_eq_true_iff.2 ⟨decide_eq_true rfl, h⟩
    | buildRequestClient h => exact decide_eq_true h
    | networkRequest h => exact decide_eq_true h
    | readResponseBody h => exact decide_eq_true h
    | rejectedStatusCode code => exact decide_eq_true rfl
    | invalidHeaderValue f g => rfl

theorem Matches.refl [ReflBEq Pattern] [ReflBEq Url] (a : Failure Pattern Url Client Value) :
    Matches a a := by
  cases a with
  | invalidPattern f => exact .invalidPattern BEq.rfl
  | invalidProtocol name => exact .invalidProtocol name
  | emptyProtocols => exact .emptyProtocols
  | invalidTagName name => exact .invalidTagName name
  | invalidProviderScheme schemes f => exact .invalidProviderScheme schemes BEq.rfl
  | invalidUrl text f => exact .invalidUrl text BEq.rfl
  | buildRequestClient f => exact .buildRequestClient rfl
  | networkRequest f => exact .networkRequest rfl
  | readResponseBody f => exact .readResponseBody rfl
  | rejectedStatusCode code => exact .rejectedStatusCode code
  | invalidHeaderValue f => exact .invalidHeaderValue f f

theorem Matches.symm [PartialEquivBEq Pattern] [PartialEquivBEq Url] (h : Matches a b) :
    Matches b a := by
  cases h with
  | invalidPattern h => exact .invalidPattern (BEq.symm h)
  | invalidProtocol name => exact .invalidProtocol name
  | emptyProtocols => exact .emptyProtocols
  | invalidTagName name => exact .invalidTagName name
  | invalidProviderScheme schemes h => exact .invalidProviderScheme schemes (BEq.symm h)
  | invalidUrl text h => exact .invalidUrl text (BEq.symm h)
  | buildRequestClient h => exact .buildRequestClient h.symm
  | networkRequest h => exact .networkRequest h.symm
  | readResponseBody h => exact .readResponseBody h.symm
  | rejectedStatusCode code => exact .rejectedStatusCode code
  | invalidHeaderValue f g => exact .invalidHeaderValue g f

theorem Matches.trans [PartialEquivBEq Pattern] [PartialEquivBEq Url] (h : Matches a b)
    (h' : Matches b c) : Matches a c := by
  -- The failure in the middle has one kind, so all three are of this kind.
  cases h with
  | invalidPattern h =>
      cases h' with
      | invalidPattern h' => exact .invalidPattern (BEq.trans h h')
  | invalidProtocol name => exact h'
  | emptyProtocols => exact h'
  | invalidTagName name => exact h'
  | invalidProviderScheme schemes h =>
      cases h' with
      | invalidProviderScheme _ h' => exact .invalidProviderScheme schemes (BEq.trans h h')
  | invalidUrl text h =>
      cases h' with
      | invalidUrl _ h' => exact .invalidUrl text (BEq.trans h h')
  | buildRequestClient h =>
      cases h' with
      | buildRequestClient h' => exact .buildRequestClient (h.trans h')
  | networkRequest h =>
      cases h' with
      | networkRequest h' => exact .networkRequest (h.trans h')
  | readResponseBody h =>
      cases h' with
      | readResponseBody h' => exact .readResponseBody (h.trans h')
  | rejectedStatusCode code => exact h'
  | invalidHeaderValue f g =>
      cases h' with
      | invalidHeaderValue _ g' => exact .invalidHeaderValue f g'

/-- No failure equals one of another kind. -/
theorem Matches.ctorIdx_eq (h : Matches a b) : a.ctorIdx = b.ctorIdx := by
  cases h <;> rfl

end

section
variable [BEq Pattern] [BEq Url] [Worded Pattern] [Worded Url] [Worded Client] [Worded Value]

/-- Equal failures have the same digest. -/
theorem Matches.digest_eq {a b : Failure Pattern Url Client Value}
    (hpattern : ∀ f g : Pattern, f == g → wording f = wording g)
    (hurl : ∀ f g : Url, f == g → wording f = wording g)
    (hvalue : ∀ f g : Value, wording f = wording g) (h : Matches a b) : a.digest = b.digest := by
  cases h with
  | invalidPattern h => exact congrArg Digest.text (hpattern _ _ h)
  | invalidProtocol name => rfl
  | emptyProtocols => rfl
  | invalidTagName name => rfl
  | invalidProviderScheme schemes h => exact congrArg (Digest.pair schemes) (hpattern _ _ h)
  | invalidUrl text h => exact congrArg (Digest.pair text) (hurl _ _ h)
  | buildRequestClient h => exact congrArg Digest.text h
  | networkRequest h => exact congrArg Digest.text h
  | readResponseBody h => exact congrArg Digest.text h
  | rejectedStatusCode code => rfl
  | invalidHeaderValue f g => exact congrArg Digest.text (hvalue f g)

/-- Equality of failures is an equivalence that keeps different kinds apart, and equal failures
have the same digest. -/
theorem same_lawful [EquivBEq Pattern] [EquivBEq Url]
    (hpattern : ∀ f g : Pattern, f == g → wording f = wording g)
    (hurl : ∀ f g : Url, f == g → wording f = wording g)
    (hvalue : ∀ f g : Value, wording f = wording g) :
    (∀ a : Failure Pattern Url Client Value, a.same a = true) ∧
    (∀ a b : Failure Pattern Url Client Value, a.same b = true → b.same a = true) ∧
    (∀ a b c : Failure Pattern Url Client Value,
      a.same b = true → b.same c = true → a.same c = true) ∧
    (∀ a b : Failure Pattern Url Client Value, a.ctorIdx ≠ b.ctorIdx → a.same b = false) ∧
    (∀ a b : Failure Pattern Url Client Value, a.same b = true → a.digest = b.digest) := by
  refine ⟨fun a => same_iff.2 (.refl a), fun a b h => same_iff.2 (same_iff.1 h).symm, ?_, ?_, ?_⟩
  · intro a b c h h'
    exact same_iff.2 ((same_iff.1 h).trans (same_iff.1 h'))
  · intro a b hkind
    exact Bool.eq_false_iff.2 fun h => hkind (same_iff.1 h).ctorIdx_eq
  · intro a b h
    exact (same_iff.1 h).digest_eq hpattern hurl hvalue

end

/-- A fault of the client with what led to it, which its wording does not tell. -/
structure SourcedFault where
  fault : ClientFault
  source : Text
deriving DecidableEq

instance : Worded SourcedFault := ⟨fun f => wording f.fault⟩

/-- Two faults with one wording make equal failures, and a third failure of another kind has the
same digest as these without being equal to them. -/
theorem same_lawful_sourced :
    let a : Failure PatternFault Address.Fault SourcedFault :=
      .buildRequestClient ⟨.building, "no certificates".toList⟩
    let b : Failure PatternFault Address.Fault SourcedFault :=
      .buildRequestClient ⟨.building, "no name server".toList⟩
    let c : Failure PatternFault Address.Fault SourcedFault :=
      .readResponseBody ⟨.building, "no certificates".toList⟩
    (∀ f g : PatternFault, f == g → wording f = wording g) ∧
      (∀ f g : Address.Fault, f == g → wording f = wording g) ∧
      (∀ f g : ValueFault, wording f = wording g) ∧
      a ≠ b ∧ a.same b = true ∧ b.same a = true ∧ a.same a = true ∧ a.digest = b.digest ∧
      a.same c = false ∧ a.digest = c.digest := by
  intro a b c
  have hpattern : ∀ f g : PatternFault, f == g → wording f = wording g :=
    fun f g h => congrArg wording (eq_of_beq h)
  have hurl : ∀ f g : Address.Fault, f == g → wording f = wording g :=
    fun f g h => congrArg wording (eq_of_beq h)
  have hvalue : ∀ f g : ValueFault, wording f = wording g := by
    rintro ⟨⟩ ⟨⟩
    rfl
  obtain ⟨-, hsymm, htrans, hkind, hdigest⟩ :=
    @same_lawful PatternFault Address.Fault SourcedFault ValueFault _ _ _ _ _ _ _ _
      hpattern hurl hvalue
  have hab : a.same b = true := by decide
  exact ⟨hpattern, hurl, hvalue, by decide, hab, hsymm a b hab,
    htrans a b a hab (hsymm a b hab), hdigest a b hab, hkind a c (by decide), by decide⟩

end BareUrl.Failure
