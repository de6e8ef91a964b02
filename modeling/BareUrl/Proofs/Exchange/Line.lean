import BareUrl.Exchange.Client
import BareUrl.Proofs.Address.Form

/-!
# `BareUrl.Proofs.Exchange.Line`: the first line of a request

A first line has three words, and the one in the middle is the target: a path, and a query behind
the first question mark. `readTarget?` reads it, and finds what the address of the request has
(`readTarget?_line`) as long as nothing in the path or the query ends the word, or the path, too
early. That is so for each address of the web that is read from a text (`isTarget_of_read`).
-/

set_option autoImplicit false

namespace BareUrl

namespace Address

/-! ### What is escaped does not occur -/

/-- A character of the set that no escape holds. -/
theorem Percent.not_mem_escape {set : List Char} {d : Char} (hset : set.elem d = true)
    (hsign : d ≠ '%') (halnum : d.isAlphanum = false) (t : Text) : d ∉ escape set t := by
  intro h
  obtain ⟨c, -, hd⟩ := List.mem_flatMap.1 h
  -- What stands for itself is not in the set; an escape has only a sign, letters and digits.
  split at hd
  · rename_i hbare
    obtain rfl := List.mem_singleton.1 hd
    rw [hset, Bool.not_true, Bool.and_false] at hbare
    exact Bool.noConfusion hbare
  · rcases class_of_mem_escapeChar hd with hpercent | halnum'
    · exact hsign hpercent
    · exact Bool.noConfusion (halnum.symm.trans halnum')

namespace Path

variable {s : Text} {d : Char}

theorem mem_of_mem_goBack {done : List Text} (h : s ∈ goBack done) : s ∈ done := by
  cases done with
  | nil => exact h
  | cons last before =>
      rw [goBack] at h
      split at h
      · exact h
      · exact List.mem_cons_of_mem _ h

/-- Carrying out dots makes no segments but empty ones. -/
theorem mem_of_mem_walk {done list : List Text} (h : s ∈ walk done list) :
    s = [] ∨ s ∈ done ∨ s ∈ list := by
  -- In the order of `walk`: the end, the last piece, and a piece in front of others.
  fun_induction walk done list with
  | case1 done => exact .inr (.inl (List.mem_reverse.1 h))
  | case2 done piece hup =>
      rcases List.mem_cons.1 (List.mem_reverse.1 h) with hs | hs
      · exact .inl hs
      · exact .inr (.inl (mem_of_mem_goBack hs))
  | case3 done piece hup hstay =>
      exact (List.mem_cons.1 (List.mem_reverse.1 h)).imp_right .inl
  | case4 done piece hup hstay =>
      rcases List.mem_cons.1 (List.mem_reverse.1 h) with rfl | hs
      · exact .inr (.inr List.mem_cons_self)
      · exact .inr (.inl hs)
  | case5 done piece rest hrest hup ih =>
      exact (ih h).imp_right (Or.imp mem_of_mem_goBack (List.mem_cons_of_mem _))
  | case6 done piece rest hrest hup hstay ih =>
      exact (ih h).imp_right (Or.imp_right (List.mem_cons_of_mem _))
  | case7 done piece rest hrest hup hstay ih =>
      rcases ih h with hs | hs | hs
      · exact .inl hs
      · rcases List.mem_cons.1 hs with rfl | hs
        · exact .inr (.inr List.mem_cons_self)
        · exact .inr (.inl hs)
      · exact .inr (.inr (List.mem_cons_of_mem _ hs))

/-- What is escaped in paths does not occur in the segments that are read. -/
theorem not_mem_read (hset : Percent.pathSet.elem d = true) (hsign : d ≠ '%')
    (halnum : d.isAlphanum = false) {both : Bool} {t : Text} (h : s ∈ read [] both t) : d ∉ s := by
  rcases mem_of_mem_walk h with rfl | hs | hs
  · exact List.not_mem_nil
  · exact absurd hs List.not_mem_nil
  · obtain ⟨piece, -, rfl⟩ := List.mem_map.1 hs
    exact Percent.not_mem_escape hset hsign halnum piece

end Path

/-- What is escaped in paths does not occur in the path behind an authority. -/
theorem not_mem_readPath {d : Char} (hset : Percent.pathSet.elem d = true) (hsign : d ≠ '%')
    (halnum : d.isAlphanum = false) (hslash : d ≠ '/') (special : Bool) (t : Text) :
    d ∉ (Path.segments (readPath special t)).text := by
  have hsegments : ∀ s ∈ readPath special t, d ∉ s := by
    intro s hs
    unfold readPath at hs
    split at hs
    · split at hs
      · rw [List.mem_singleton.1 hs]
        exact List.not_mem_nil
      · exact absurd hs List.not_mem_nil
    · exact Path.not_mem_read hset hsign halnum hs
    · split at hs
      · exact Path.not_mem_read hset hsign halnum hs
      · exact Path.not_mem_read hset hsign halnum hs
    · exact Path.not_mem_read hset hsign halnum hs
  intro h
  obtain ⟨s, hs, hd⟩ := List.mem_flatMap.1 h
  rcases List.mem_cons.1 hd with hd | hd
  · exact hslash hd
  · exact hsegments s hs hd

/-! ### Targets -/

/-- Nothing in the path or the query ends the target of a request, or its path, too early. -/
structure IsTarget (a : Address) : Prop where
  blank_path : ' ' ∉ a.path.text
  mark_path : '?' ∉ a.path.text
  blank_query : ' ' ∉ a.query.getD []

theorem path_of_readAuthority {scheme t : Text} {a : Address}
    (h : readAuthority scheme t = .ok a) :
    ∃ special rest, a.path = .segments (readPath special rest) := by
  unfold readAuthority at h
  dsimp only at h
  -- One way through all the cases ends in an address.
  repeat' split at h
  all_goals cases h
  exact ⟨_, _, rfl⟩

theorem scheme_of_readLocal {t : Text} {a : Address} (h : readLocal t = .ok a) :
    a.scheme = fileScheme := by
  unfold readLocal at h
  dsimp only at h
  repeat' split at h
  all_goals cases h
  all_goals rfl

/-- The path of an address of the web is one behind an authority. -/
theorem path_of_readBehind {scheme t : Text} {a : Address} (h : readBehind scheme t = .ok a)
    (hspeaks : Exchange.Client.speaks a.scheme = true) :
    ∃ special rest, a.path = .segments (readPath special rest) := by
  unfold readBehind at h
  split at h
  · rw [scheme_of_readLocal h] at hspeaks
    exact absurd hspeaks (by decide)
  · split at h
    · exact path_of_readAuthority h
    · rename_i hspecial
      split at h
      · exact path_of_readAuthority h
      · -- The schemes of the web are well known.
        obtain rfl := Except.ok.inj h
        rw [Exchange.Client.speaks, Bool.or_eq_true, decide_eq_true_iff,
          decide_eq_true_iff] at hspeaks
        rcases hspeaks with rfl | rfl <;> exact absurd (by decide) hspecial

/-- An address of the web that is read from a text can be the target of a request. -/
theorem isTarget_of_read {t : Text} {a : Address} (h : read t = .ok a)
    (hspeaks : Exchange.Client.speaks a.scheme = true) : a.IsTarget := by
  unfold read at h
  split at h
  · cases h
  · rename_i scheme rest _
    dsimp only at h
    split at h
    · cases h
    · rename_i b hb
      obtain rfl := Except.ok.inj h
      obtain ⟨special, rest, hpath⟩ := path_of_readBehind hb hspeaks
      -- The path was escaped when its segments were read, and the query is escaped here.
      have hsegments : ∀ d : Char, Percent.pathSet.elem d = true → d ≠ '%' →
          d.isAlphanum = false → d ≠ '/' → d ∉ b.path.text :=
        fun d hset hsign halnum hslash =>
          hpath ▸ not_mem_readPath hset hsign halnum hslash special rest
      refine ⟨hsegments ' ' (by decide) (by decide) (by decide) (by decide),
        hsegments '?' (by decide) (by decide) (by decide) (by decide), ?_⟩
      show ' ' ∉ (Option.map _ _).getD []
      cases (cutTail _).2.1 with
      | none => exact List.not_mem_nil
      | some query =>
          rw [Option.map_some, Option.getD_some]
          split <;> exact Percent.not_mem_escape (by decide) (by decide) (by decide) query

/-- Pairs that are added to the query of a target leave it one. -/
theorem IsTarget.addPairs {a : Address} (h : a.IsTarget) (pairs : List (Text × Text)) :
    (a.addPairs pairs).IsTarget where
  blank_path := h.blank_path
  mark_path := h.mark_path
  blank_query := by
    have hadded : ' ' ∉ Form.encode pairs :=
      Form.not_mem_encode (by decide) (by decide) (by decide) pairs
    have hblank := h.blank_query
    rw [Address.addPairs]
    revert hblank
    cases a.query with
    | none => exact fun _ => hadded
    | some query =>
        cases query with
        | nil => exact fun _ => hadded
        | cons c query =>
            intro hblank hmem
            rcases List.mem_append.1 hmem with hmem | hmem
            · exact hblank hmem
            · exact hadded ((List.mem_cons.1 hmem).resolve_left (by decide))

end Address

namespace Exchange

/-! ### First lines -/

/-- What a request asks for: a path, and the pairs of a query. -/
structure Target where
  path : Text
  pairs : List (Text × Text)
deriving DecidableEq, Repr

/-- The target that a first line names. -/
def readTarget? (line : Text) : Option Target :=
  match Text.splitOn ' ' line with
  | [_, target, _] =>
    let (path, query) := Address.cutAt '?' target
    some ⟨path, Address.Form.decode (query.getD [])⟩
  | _ => none

/-- The path and the query in the first line of a request are those of its address. -/
theorem readTarget?_line {r : Request} (h : r.address.IsTarget) :
    readTarget? r.line
      = some ⟨r.address.path.text, Address.Form.decode (r.address.query.getD [])⟩ := by
  have hline : r.line = "GET".toList ++
      ' ' :: (r.address.path.text ++ (r.address.query.map ('?' :: ·)).getD [] ++
        ' ' :: "HTTP/1.1".toList) := by
    show "GET ".toList ++ r.address.path.text ++ (r.address.query.map ('?' :: ·)).getD [] ++
      " HTTP/1.1".toList = _
    rw [List.append_assoc, List.append_assoc, List.append_assoc]
    rfl
  have hblank : ' ' ∉ r.address.path.text ++ (r.address.query.map ('?' :: ·)).getD [] := by
    have hquery := h.blank_query
    rw [List.mem_append, not_or]
    refine ⟨h.blank_path, ?_⟩
    cases hq : r.address.query with
    | none => exact List.not_mem_nil
    | some query =>
        rw [hq] at hquery
        exact fun hmem => (List.mem_cons.1 hmem).elim (by decide) hquery
  -- The two blanks of the line are the only ones, so it has three words.
  have hwords : Text.splitOn ' ' r.line = ["GET".toList,
      r.address.path.text ++ (r.address.query.map ('?' :: ·)).getD [], "HTTP/1.1".toList] := by
    rw [hline, Text.splitOn_append (by decide), Text.splitOn_append hblank,
      Text.splitOn_of_not_mem (by decide)]
  have hcut : Address.cutAt '?'
      (r.address.path.text ++ (r.address.query.map ('?' :: ·)).getD [])
        = (r.address.path.text, r.address.query) := by
    cases r.address.query with
    | none =>
        rw [Option.map_none, Option.getD_none, List.append_nil,
          Address.Form.cutAt_of_not_mem h.mark_path]
    | some query => exact Address.Form.cutAt_append h.mark_path query
  rw [readTarget?, hwords]
  show some (⟨(Address.cutAt '?' _).1, Address.Form.decode ((Address.cutAt '?' _).2.getD [])⟩ :
    Target) = _
  rw [hcut]

end Exchange

end BareUrl
