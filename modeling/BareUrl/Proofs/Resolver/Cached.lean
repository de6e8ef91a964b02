import BareUrl.Proofs.Traced
import BareUrl.Resolver.Cached
import Mathlib.Data.List.Dedup

/-!
# `BareUrl.Proofs.Resolver.Cached`: what a cache remembers

A cache stands in front of a resolver that may give another answer each time, or none. What it
does is said by the calls that get through to that resolver, which a log keeps together with their
answers (`logged`). The log is all there is to know: the cache remembers the successes in it, in
order, and nothing is asked again behind a success (`Cache.Faithful`).

`each_cached` is the law of a run. A lookup is answered by the first success about its URL so far,
and by the resolver itself as long as there is none.
-/

set_option autoImplicit false

namespace BareUrl.Resolver

variable {σ : Type}

/-! ### Calls -/

/-- A call of a resolver: the URL that it was asked about, and its answer. -/
structure Call where
  url : Text
  answer : Answer

/-- A state together with the calls that were made in it, in order. -/
structure Log (σ : Type) where
  calls : List Call
  inner : σ

/-- A log of no calls. -/
def Log.empty (inner : σ) : Log σ := ⟨[], inner⟩

/-- The resolver that keeps a log of the calls of another one. -/
def logged (r : Resolver σ) : Resolver (Log σ) := fun url s =>
  let x := r url s.inner
  ⟨x.result, x.notes, ⟨s.calls ++ [⟨url, x.result⟩], x.state⟩⟩

/-- What is known from a call, if it succeeded: the URL and what was said of it. -/
def Call.success (call : Call) : Option (Text × Resolution) :=
  call.answer.toOption.map (call.url, ·)

/-- What is known from calls, one success after another. -/
def successes (calls : List Call) : List (Text × Resolution) := calls.filterMap Call.success

/-- The first successful answer about a URL. -/
def firstSuccess (calls : List Call) (url : Text) : Option Resolution :=
  calls.findSome? fun call => if call.url = url then call.answer.toOption else none

/-- Behind a success nothing is asked about the same URL again. -/
def AskedOnce (calls : List Call) : Prop :=
  calls.Pairwise fun earlier later => earlier.answer.isOk = true → later.url ≠ earlier.url

variable {calls : List Call} {url : Text}

theorem success_ok (url : Text) (resolution : Resolution) :
    Call.success ⟨url, .ok resolution⟩ = some (url, resolution) := rfl

theorem success_error (url : Text) (failure : Failure) :
    Call.success ⟨url, .error failure⟩ = none := rfl

theorem success_eq_some_iff {call : Call} {p : Text × Resolution} :
    call.success = some p ↔ call.url = p.1 ∧ call.answer = .ok p.2 := by
  obtain ⟨u, failure | resolution⟩ := call
  · simp [success_error]
  · simp [success_ok, Prod.ext_iff]

theorem successes_concat (calls : List Call) (call : Call) :
    successes (calls ++ [call]) = successes calls ++ call.success.toList := by
  rw [successes, List.filterMap_append]
  cases h : call.success <;> simp [successes, h]

/-- Looking up a URL among the successes finds the first one. -/
theorem lookup_successes (calls : List Call) (url : Text) :
    (successes calls).lookup url = firstSuccess calls url := by
  induction calls with
  | nil => rfl
  | cons call calls ih =>
      rw [firstSuccess, List.findSome?_cons]
      obtain ⟨u, failure | resolution⟩ := call
      · have hskip : (if u = url then (.error failure : Answer).toOption else none) = none := by
          split <;> rfl
        show (successes calls).lookup url = _
        rw [hskip]
        exact ih
      · show ((u, resolution) :: successes calls).lookup url = _
        by_cases h : u = url
        · subst h
          simp [Except.toOption]
        · have hne : (url == u) = false := beq_false_of_ne (Ne.symm h)
          rw [List.lookup_cons, hne, if_neg h]
          exact ih

/-- A call about the URL itself is its first success only if there was none before. -/
theorem firstSuccess_concat (calls : List Call) (url : Text) (answer : Answer) :
    firstSuccess (calls ++ [⟨url, answer⟩]) url
      = (firstSuccess calls url).or answer.toOption := by
  rw [firstSuccess, List.findSome?_append]
  simp [firstSuccess]

/-- No success is about a URL for which none is found. -/
theorem ne_of_firstSuccess_eq_none (h : firstSuccess calls url = none) {call : Call}
    (hcall : call ∈ calls) (hok : call.answer.isOk = true) : url ≠ call.url := by
  rintro rfl
  have hnone := List.findSome?_eq_none_iff.1 h call hcall
  rw [if_pos rfl] at hnone
  obtain ⟨u, failure | resolution⟩ := call
  · simp [Except.isOk, Except.toBool] at hok
  · simp [Except.toOption] at hnone

/-- The URLs of the successes are all different if none is asked about again. -/
theorem AskedOnce.nodup (h : AskedOnce calls) : ((successes calls).map Prod.fst).Nodup := by
  rw [List.Nodup, List.pairwise_map, successes, List.pairwise_filterMap]
  refine h.imp fun {a b} hab p hp q hq heq => ?_
  obtain ⟨hurl, hanswer⟩ := success_eq_some_iff.1 hp
  obtain ⟨hurl', -⟩ := success_eq_some_iff.1 hq
  have hok : a.answer.isOk = true := by
    rw [hanswer]
    rfl
  exact hab hok (by rw [hurl, hurl', heq])

/-! ### One lookup -/

/-- The cache remembers the successes of the log, and what it remembers was not asked again. -/
structure Cache.Faithful (k : Cache (Log σ)) : Prop where
  answers : k.answers = successes k.inner.calls
  once : AskedOnce k.inner.calls

theorem faithful_empty (s : σ) : Cache.Faithful (Cache.empty (Log.empty s)) where
  answers := rfl
  once := List.Pairwise.nil

variable {k : Cache (Log σ)}

theorem Cache.Faithful.find? (h : k.Faithful) (url : Text) :
    k.find? url = firstSuccess k.inner.calls url := by
  rw [Cache.find?, h.answers, lookup_successes]

/-- A faithful cache remembers as many answers as there are URLs with a success. -/
theorem Cache.Faithful.size (h : k.Faithful) :
    k.size = ((successes k.inner.calls).map Prod.fst).dedup.length := by
  rw [Cache.size, h.answers, h.once.nodup.dedup, List.length_map]

/-- What a cache remembers is answered without asking. -/
theorem cached_of_find {r : Resolver σ} {k : Cache σ} {resolution : Resolution}
    (h : k.find? url = some resolution) :
    (cached r url k).result = .ok resolution ∧ (cached r url k).state = k := by
  rw [cached, h]
  exact ⟨rfl, rfl⟩

/-- What it does not remember is asked, and the answer is given on. A success is remembered. -/
theorem cached_of_find_none {r : Resolver σ} {k : Cache σ} (h : k.find? url = none) :
    (cached r url k).result = (r url k.inner).result ∧
      (cached r url k).state
        = ⟨k.answers ++ (Call.success ⟨url, (r url k.inner).result⟩).toList,
            (r url k.inner).state⟩ := by
  rw [cached, h]
  cases hanswer : (r url k.inner).result with
  | ok resolution => simp [hanswer, success_ok]
  | error failure => simp [hanswer, success_error]

/-- A lookup through a faithful cache: what it answers, and which calls are made. -/
theorem Cache.Faithful.lookup (h : k.Faithful) (r : Resolver σ) (url : Text) :
    (cached r.logged url k).result
        = (match firstSuccess k.inner.calls url with
          | some resolution => .ok resolution
          | none => (r url k.inner.inner).result) ∧
      (cached r.logged url k).state.inner
        = (if (firstSuccess k.inner.calls url).isSome then k.inner
          else ⟨k.inner.calls ++ [⟨url, (r url k.inner.inner).result⟩],
            (r url k.inner.inner).state⟩) := by
  cases hfind : firstSuccess k.inner.calls url with
  | some resolution =>
      obtain ⟨hresult, hstate⟩ := cached_of_find (r := r.logged) ((h.find? url).trans hfind)
      exact ⟨hresult, by rw [hstate]; rfl⟩
  | none =>
      obtain ⟨hresult, hstate⟩ := cached_of_find_none (r := r.logged) ((h.find? url).trans hfind)
      exact ⟨hresult, by rw [hstate]; rfl⟩

/-- A lookup leaves a faithful cache faithful. -/
theorem Cache.Faithful.step (h : k.Faithful) (r : Resolver σ) (url : Text) :
    (cached r.logged url k).state.Faithful := by
  cases hfind : k.find? url with
  | some resolution =>
      rw [(cached_of_find hfind).2]
      exact h
  | none =>
      rw [(cached_of_find_none hfind).2]
      constructor
      · rw [h.answers]
        exact (successes_concat _ _).symm
      · -- The new call is the last one, and no success before it is about the same URL.
        refine List.pairwise_append.2 ⟨h.once, List.pairwise_singleton _ _, ?_⟩
        intro earlier hearlier later hlater hok
        obtain rfl := List.mem_singleton.1 hlater
        exact ne_of_firstSuccess_eq_none ((h.find? url).symm.trans hfind) hearlier hok

/-- Behind a lookup the first success about its URL, if there is one, is what was answered. -/
theorem Cache.Faithful.result_eq_firstSuccess (h : k.Faithful) (r : Resolver σ) (url : Text) :
    (cached r.logged url k).result
      = (match firstSuccess (cached r.logged url k).state.inner.calls url with
        | some resolution => .ok resolution
        | none => (r url k.inner.inner).result) := by
  obtain ⟨hresult, hstate⟩ := h.lookup r url
  rw [hresult, hstate]
  cases hfind : firstSuccess k.inner.calls url with
  | some resolution =>
      show _ = match firstSuccess k.inner.calls url with
        | some resolution => _
        | none => _
      rw [hfind]
  | none =>
      -- The call was made, and is a first success unless it failed.
      show _ = match firstSuccess (k.inner.calls ++ [⟨url, _⟩]) url with
        | some resolution => _
        | none => _
      rw [firstSuccess_concat, hfind, Option.none_or]
      cases (r url k.inner.inner).result <;> rfl

/-- A cache never fails by itself. -/
theorem error_of_cached {r : Resolver σ} {k : Cache σ} {failure : Failure}
    (h : (cached r url k).result = .error failure) : (r url k.inner).result = .error failure := by
  cases hfind : k.find? url with
  | some resolution =>
      rw [(cached_of_find hfind).1] at h
      cases h
  | none => rwa [(cached_of_find_none hfind).1] at h

/-- A failure is not remembered. -/
theorem answers_of_error {r : Resolver σ} {k : Cache σ} {failure : Failure}
    (h : (cached r url k).result = .error failure) :
    (cached r url k).state.answers = k.answers := by
  cases hfind : k.find? url with
  | some resolution => rw [(cached_of_find hfind).2]
  | none =>
      rw [(cached_of_find_none hfind).2, error_of_cached h, success_error]
      exact List.append_nil _

/-! ### Answers that never change -/

/-- All that a cache remembers is what is answered about a URL anyway. -/
def Cache.Agrees (answer : Text → Answer) (k : Cache σ) : Prop :=
  ∀ url resolution, k.find? url = some resolution → answer url = .ok resolution

theorem agrees_empty (answer : Text → Answer) (s : σ) : (Cache.empty s).Agrees answer := by
  intro url resolution hfind
  cases hfind

/-- A look-up among remembered answers with one more behind them. -/
theorem find?_concat (answers : List (Text × Resolution)) (s : σ) (url url' : Text)
    (resolution : Resolution) :
    Cache.find? ⟨answers ++ [(url, resolution)], s⟩ url'
      = (answers.lookup url').or (if url' = url then some resolution else none) := by
  rw [Cache.find?, List.lookup_append]
  by_cases h : url' = url
  · simp [h]
  · rw [if_neg h, List.lookup_cons, beq_false_of_ne h, List.lookup_nil]

/-- If the answers of a resolver never change, nobody sees that they are remembered. -/
theorem Cache.Agrees.step {r : Resolver σ} {answer : Text → Answer}
    (hr : ∀ url s, (r url s).result = answer url) {k : Cache σ} (h : k.Agrees answer) (url : Text) :
    (cached r url k).result = answer url ∧ (cached r url k).state.Agrees answer := by
  cases hfind : k.find? url with
  | some resolution =>
      obtain ⟨hresult, hstate⟩ := cached_of_find (r := r) hfind
      exact ⟨hresult.trans (h url resolution hfind).symm, hstate.symm ▸ h⟩
  | none =>
      obtain ⟨hresult, hstate⟩ := cached_of_find_none (r := r) hfind
      rw [hr] at hresult hstate
      refine ⟨hresult, ?_⟩
      rw [hstate]
      cases hanswer : answer url with
      | error failure =>
          rw [success_error]
          intro url' resolution' hfind'
          exact h url' resolution' (by simpa [Cache.find?] using hfind')
      | ok resolution =>
          intro url' resolution' hfind'
          rw [success_ok, Option.toList_some, find?_concat] at hfind'
          -- What is found was remembered before, or it is the new answer.
          rcases Option.or_eq_some_iff.1 hfind' with hold | ⟨-, hnew⟩
          · exact h url' resolution' hold
          · split at hnew
            · rename_i heq
              rw [heq, hanswer, Option.some.inj hnew]
            · cases hnew

/-! ### Runs -/

/-- The same cache without the log. -/
def Cache.unlogged (k : Cache (Log σ)) : Cache σ := ⟨k.answers, k.inner.inner⟩

/-- Nobody sees the log: the answers are the same without it. -/
theorem cached_unlogged (r : Resolver σ) (url : Text) (k : Cache (Log σ)) :
    (cached r url k.unlogged).result = (cached r.logged url k).result ∧
      (cached r url k.unlogged).state = (cached r.logged url k).state.unlogged := by
  cases hfind : k.find? url with
  | some resolution =>
      obtain ⟨hresult, hstate⟩ := cached_of_find (r := r.logged) hfind
      obtain ⟨hresult', hstate'⟩ := cached_of_find (r := r) (k := k.unlogged) hfind
      exact ⟨hresult'.trans hresult.symm, by rw [hstate, hstate']⟩
  | none =>
      obtain ⟨hresult, hstate⟩ := cached_of_find_none (r := r.logged) hfind
      obtain ⟨hresult', hstate'⟩ := cached_of_find_none (r := r) (k := k.unlogged) hfind
      exact ⟨hresult'.trans hresult.symm, by rw [hstate, hstate']; rfl⟩

theorem each_unlogged (r : Resolver σ) (urls : List Text) (k : Cache (Log σ)) :
    (Traced.each (cached r) urls k.unlogged).result
        = (Traced.each (cached r.logged) urls k).result ∧
      (Traced.each (cached r) urls k.unlogged).state
        = (Traced.each (cached r.logged) urls k).state.unlogged := by
  have hagree : ∀ url (plain : Cache σ) (k : Cache (Log σ)), plain = k.unlogged →
      (cached r url plain).result = (cached r.logged url k).result ∧
        (cached r url plain).state = (cached r.logged url k).state.unlogged := by
    rintro url _ k rfl
    exact cached_unlogged r url k
  exact Traced.each_agree (fun url plain k h => (hagree url plain k h).1)
    (fun url plain k h => (hagree url plain k h).2) urls rfl

/-- Every run leaves a faithful cache behind. -/
theorem faithful_each (r : Resolver σ) (urls : List Text) (h : k.Faithful) :
    (Traced.each (cached r.logged) urls k).state.Faithful :=
  Traced.each_keeps (fun url _ hk => hk.step r url) urls h

/-- The law of a run of lookups through a cache that remembers nothing at first, at each of its
lookups. It is answered by the first success about its URL so far, and by what the resolver says
to it if there is none. The resolver is called exactly if there was no success before, with the URL.
A failure leaves the cache as it is, and it always holds one answer for each URL with a success. All
this is read off a log of the calls, which changes nothing. -/
theorem each_cached (r : Resolver σ) (s : σ) (before : List Text) (url : Text)
    (after : List Text) :
    let run := fun urls => Traced.each (cached r.logged) urls (.empty (.empty s))
    let k := (run before).state
    let k' := (run (before ++ [url])).state
    let answer := (r url k.inner.inner).result
    let reply := (run (before ++ url :: after)).result[before.length]?
    reply = some (match firstSuccess k'.inner.calls url with
      | some resolution => .ok resolution
      | none => answer) ∧
    k'.inner = (if (firstSuccess k.inner.calls url).isSome then k.inner
      else ⟨k.inner.calls ++ [⟨url, answer⟩], (r url k.inner.inner).state⟩) ∧
    (∀ failure, reply = some (.error failure) → k'.answers = k.answers) ∧
    k'.size = ((successes k'.inner.calls).map Prod.fst).dedup.length ∧
    (k'.isEmpty = true ↔ k'.size = 0) ∧
    (Traced.each (cached r) (before ++ url :: after) (.empty s)).result
      = (run (before ++ url :: after)).result ∧
    (Traced.each (cached r) (before ++ [url]) (.empty s)).state = k'.unlogged := by
  intro run k k' answer reply
  have hk : k.Faithful := faithful_each r before (faithful_empty s)
  have hstep : k' = (cached r.logged url k).state := Traced.state_each_concat _ _ _ _
  have hreply : reply = some (cached r.logged url k).result := Traced.result_each_at _ _ _ _ _
  have hk' : k'.Faithful := hstep ▸ hk.step r url
  refine ⟨?_, ?_, fun failure hfailure => ?_, hk'.size, ?_,
    (each_unlogged r _ (.empty (.empty s))).1, (each_unlogged r _ (.empty (.empty s))).2⟩
  · rw [hreply, hstep]
    exact congrArg some (hk.result_eq_firstSuccess r url)
  · rw [hstep]
    exact (hk.lookup r url).2
  · rw [hreply] at hfailure
    rw [hstep]
    exact answers_of_error (Option.some.inj hfailure)
  · rw [Cache.isEmpty, Cache.size, List.isEmpty_iff, List.length_eq_zero_iff]

end BareUrl.Resolver
