import BareUrl.Traced
import Mathlib.Data.List.Forall2

/-!
# `BareUrl.Proofs.Traced`: runs of steps

`Traced.each` does one step after another, each from the state that the one before it leaves
behind. The lemmas here take what is known of one step to a whole run.

* `each_append`: a run over two lists is two runs, and `result_each_at` reads a result off the
  step that it comes from; `exists_of_mem_each` says that there is such a step.
* `each_keeps`: what every step keeps is kept by a run.
* `each_eq_map`: steps whose results do not depend on the state are a map, as long as something
  they keep holds of the state.
* `each_agree`: steps that agree from related states, and lead to related states, make runs that
  agree.
* `each_forall₂`: steps whose results are related make runs whose results are.
* `each_map`: a step that asks about a part of its item, and does something with the answer, makes
  a run that asks about these parts.

Steps that can fail make a run that stops at the first failure. `exists_of_mapM` says where a result
of such a run comes from.
-/

set_option autoImplicit false

namespace BareUrl.Traced

variable {σ τ α β γ δ : Type}

theorem result_each_cons (f : α → σ → Traced σ β) (a : α) (as : List α) (s : σ) :
    (each f (a :: as) s).result = (f a s).result :: (each f as (f a s).state).result := rfl

theorem state_each_cons (f : α → σ → Traced σ β) (a : α) (as : List α) (s : σ) :
    (each f (a :: as) s).state = (each f as (f a s).state).state := rfl

theorem length_each (f : α → σ → Traced σ β) (as : List α) (s : σ) :
    (each f as s).result.length = as.length := by
  induction as generalizing s with
  | nil => rfl
  | cons a as ih => rw [result_each_cons, List.length_cons, ih, List.length_cons]

/-- A run over two lists one behind the other is two runs, the second from where the first one
ended. -/
theorem each_append (f : α → σ → Traced σ β) (as bs : List α) (s : σ) :
    (each f (as ++ bs) s).result
        = (each f as s).result ++ (each f bs (each f as s).state).result ∧
      (each f (as ++ bs) s).state = (each f bs (each f as s).state).state := by
  induction as generalizing s with
  | nil => exact ⟨rfl, rfl⟩
  | cons a as ih =>
      obtain ⟨hresult, hstate⟩ := ih (f a s).state
      constructor
      · rw [List.cons_append, result_each_cons, hresult, result_each_cons, state_each_cons,
          List.cons_append]
      · rw [List.cons_append, state_each_cons, hstate, state_each_cons]

/-- The state behind a last step. -/
theorem state_each_concat (f : α → σ → Traced σ β) (as : List α) (a : α) (s : σ) :
    (each f (as ++ [a]) s).state = (f a (each f as s).state).state :=
  (each_append f as [a] s).2

/-- Each result is that of its own step, from the state that the steps before it leave behind. -/
theorem result_each_at (f : α → σ → Traced σ β) (before : List α) (a : α) (after : List α) (s : σ) :
    (each f (before ++ a :: after) s).result[before.length]?
      = some (f a (each f before s).state).result := by
  rw [(each_append f before (a :: after) s).1, result_each_cons,
    List.getElem?_append_right (Nat.le_of_eq (length_each f before s)), length_each, Nat.sub_self]
  rfl

/-- What every step keeps is kept by a run. -/
theorem each_keeps {P : σ → Prop} {f : α → σ → Traced σ β} (hstep : ∀ a s, P s → P (f a s).state)
    (as : List α) {s : σ} (h : P s) : P (each f as s).state := by
  induction as generalizing s with
  | nil => exact h
  | cons a as ih => exact ih (hstep a s h)

/-- Where the result of a step depends on nothing but its item, as long as `P` holds, and `P` is
kept, the results of a run are those of the items. -/
theorem each_eq_map {P : σ → Prop} {f : α → σ → Traced σ β} {g : α → β}
    (hresult : ∀ a s, P s → (f a s).result = g a) (hstep : ∀ a s, P s → P (f a s).state)
    (as : List α) {s : σ} (h : P s) : (each f as s).result = as.map g := by
  induction as generalizing s with
  | nil => rfl
  | cons a as ih => rw [result_each_cons, hresult a s h, ih (hstep a s h), List.map_cons]

/-- Steps that agree from related states, and lead to related states, make runs that agree. -/
theorem each_agree {R : σ → τ → Prop} {f : α → σ → Traced σ β} {g : α → τ → Traced τ β}
    (hresult : ∀ a s t, R s t → (f a s).result = (g a t).result)
    (hstate : ∀ a s t, R s t → R (f a s).state (g a t).state) (as : List α) {s : σ} {t : τ}
    (h : R s t) :
    (each f as s).result = (each g as t).result ∧ R (each f as s).state (each g as t).state := by
  induction as generalizing s t with
  | nil => exact ⟨rfl, h⟩
  | cons a as ih =>
      obtain ⟨htail, hend⟩ := ih (hstate a s t h)
      constructor
      · rw [result_each_cons, result_each_cons, hresult a s t h, htail]
      · exact hend

theorem exists_of_mem_each {f : α → σ → Traced σ β} {as : List α} {s : σ} {b : β}
    (h : b ∈ (each f as s).result) : ∃ a ∈ as, ∃ s', (f a s').result = b := by
  induction as generalizing s with
  | nil => exact absurd h List.not_mem_nil
  | cons a as ih =>
      rw [result_each_cons] at h
      rcases List.mem_cons.1 h with rfl | h
      · exact ⟨a, List.mem_cons_self, s, rfl⟩
      · obtain ⟨a', ha', hb⟩ := ih h
        exact ⟨a', List.mem_cons_of_mem a ha', hb⟩

/-- Steps whose results are related, whatever the states are, make runs whose results are. -/
theorem each_forall₂ {Q : β → γ → Prop} {f : α → σ → Traced σ β} {g : α → τ → Traced τ γ}
    (hstep : ∀ a s t, Q (f a s).result (g a t).result) (as : List α) (s : σ) (t : τ) :
    List.Forall₂ Q (each f as s).result (each g as t).result := by
  induction as generalizing s t with
  | nil => exact .nil
  | cons a as ih => exact .cons (hstep a s t) (ih (f a s).state (g a t).state)

/-- Steps that ask about a part of their items, and do something with the answers. -/
theorem each_map (f : β → σ → Traced σ γ) (part : α → β) (read : α → γ → δ) (as : List α) (s : σ) :
    let answers := each f (as.map part) s
    (each (fun a s => (f (part a) s).map (read a)) as s).result
        = List.zipWith read as answers.result ∧
      (each (fun a s => (f (part a) s).map (read a)) as s).state = answers.state := by
  induction as generalizing s with
  | nil => exact ⟨rfl, rfl⟩
  | cons a as ih =>
      obtain ⟨hresult, hstate⟩ := ih (f (part a) s).state
      constructor
      · rw [List.map_cons, result_each_cons, result_each_cons, List.zipWith_cons_cons, ← hresult]
        rfl
      · rw [List.map_cons, state_each_cons, state_each_cons, ← hstate]
        rfl

/-- Each result of a run that does not fail is that of a step. -/
theorem exists_of_mapM {ε : Type} {f : α → Except ε β} {as : List α} {bs : List β} {b : β}
    (h : as.mapM f = .ok bs) (hb : b ∈ bs) : ∃ a ∈ as, f a = .ok b := by
  induction as generalizing bs with
  | nil =>
      obtain rfl : [] = bs := Except.ok.inj h
      exact absurd hb List.not_mem_nil
  | cons a as ih =>
      rw [List.mapM_cons] at h
      cases hstep : f a with
      | error e =>
          rw [hstep] at h
          cases h
      | ok first =>
          cases hrest : as.mapM f with
          | error e =>
              rw [hstep, hrest] at h
              cases h
          | ok rest =>
              rw [hstep, hrest] at h
              obtain rfl : first :: rest = bs := Except.ok.inj h
              rcases List.mem_cons.1 hb with rfl | hb
              · exact ⟨a, List.mem_cons_self, hstep⟩
              · obtain ⟨x, hx, hxb⟩ := ih hrest hb
                exact ⟨x, List.mem_cons_of_mem _ hx, hxb⟩

end BareUrl.Traced
