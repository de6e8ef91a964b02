import BareUrl.Text.Reader
import BareUrl.Text.Word
import BareUrl.Url.Alphabet

/-!
# `BareUrl.Url.Host`: host names and user information

A host is a domain or an address of four numbers. A domain ends in a top-level name of 2 to 64
letters, which has to end where a word ends. Before that name there may be labels: a run of label
characters and a dot. As the dot is a label character too, the run may hold many dots; the domain
is the longest one, so the last dot that a top-level name follows is the one that counts.

User information is a run of its characters and an `@`, which is none of them. So both are
determined by the text, and no reader here has to give back what it has read.
-/

set_option autoImplicit false

namespace BareUrl.Url

open BareUrl.Text (isLetter endsWord)

/-- Reads a top-level name. A shorter piece of a run of letters never ends a word, so only the
whole run can be the name. -/
def topLevel : Reader := fun t =>
  let name := t.takeWhile isLetter
  let rest := t.dropWhile isLetter
  if 2 ≤ name.length ∧ name.length ≤ 64 ∧ endsWord rest then some (name, rest) else none

/-- Reads the rest of a domain inside its labels: as many label characters as possible, a dot,
and a top-level name. -/
def labelsThenTop : Reader
  | [] => none
  | c :: t =>
    if isLabelChar c then
      match labelsThenTop t with
      | some (d, rest) => some (c :: d, rest)
      | none => if c = '.' then (topLevel t).map fun (d, rest) => (c :: d, rest) else none
    else none

/-- Reads labels, which are at least one character before the last dot, and a top-level name. -/
def labelledDomain : Reader
  | [] => none
  | c :: t =>
    if isLabelChar c then (labelsThenTop t).map fun (d, rest) => (c :: d, rest) else none

/-- Reads a domain, with labels if there are any. -/
def domain : Reader := labelledDomain.orElse topLevel

/-- Reads one to three digits, as many as there are. -/
def octet : Reader := fun t =>
  match (t.take 3).takeWhile Char.isDigit with
  | [] => none
  | d :: ds => some (d :: ds, t.drop (ds.length + 1))

/-- Reads an address of four numbers. -/
def ip : Reader :=
  let dotted := octet.seq (.literal ['.'])
  dotted.seq (dotted.seq (dotted.seq octet))

/-- Reads a host. -/
def host : Reader := domain.orElse ip

/-- Reads user information with its `@`. -/
def userInfo : Reader := Reader.seq (.run1 isUserChar) (.literal ['@'])

/-- Reads a host with or without user information. -/
def authority : Reader := (userInfo.seq host).orElse host

/-- Reads what follows the colon of a protocol. The slashes belong to the protocol unless only
user information can begin with them. -/
def site : Reader := (Reader.seq (.literal ['/', '/']) authority).orElse authority

theorem lossless_topLevel : topLevel.Lossless := by
  intro t a r h
  simp only [topLevel] at h
  split at h
  · simp only [Option.some.injEq, Prod.mk.injEq] at h
    obtain ⟨rfl, rfl⟩ := h
    exact (List.takeWhile_append_dropWhile).symm
  · simp at h

theorem lossless_labelsThenTop : labelsThenTop.Lossless := by
  intro t
  induction t with
  | nil => intro a r h; simp [labelsThenTop] at h
  | cons c t ih =>
    intro a r h
    unfold labelsThenTop at h
    split at h
    · split at h
      · rename_i d rest hd
        simp only [Option.some.injEq, Prod.mk.injEq] at h
        obtain ⟨rfl, rfl⟩ := h
        simp [← ih _ _ hd]
      · split at h
        · obtain ⟨⟨d, rest⟩, hd, he⟩ := Option.map_eq_some_iff.1 h
          simp only [Prod.mk.injEq] at he
          obtain ⟨rfl, rfl⟩ := he
          simp [← lossless_topLevel _ _ _ hd]
        · simp at h
    · simp at h

theorem lossless_labelledDomain : labelledDomain.Lossless := by
  intro t a r h
  cases t with
  | nil => simp [labelledDomain] at h
  | cons c t =>
    simp only [labelledDomain] at h
    split at h
    · obtain ⟨⟨d, rest⟩, hd, he⟩ := Option.map_eq_some_iff.1 h
      simp only [Prod.mk.injEq] at he
      obtain ⟨rfl, rfl⟩ := he
      simp [← lossless_labelsThenTop _ _ _ hd]
    · simp at h

theorem lossless_domain : domain.Lossless :=
  lossless_labelledDomain.orElse lossless_topLevel

theorem lossless_octet : octet.Lossless := by
  intro t a r h
  unfold octet at h
  split at h
  · simp at h
  · rename_i d ds hd
    simp only [Option.some.injEq, Prod.mk.injEq] at h
    obtain ⟨rfl, rfl⟩ := h
    have hle : d :: ds <+: t :=
      hd ▸ (List.takeWhile_prefix _).trans (List.take_prefix _ _)
    obtain ⟨s, rfl⟩ := hle
    simp

theorem lossless_ip : ip.Lossless := by
  have hd : (octet.seq (.literal ['.'])).Lossless :=
    lossless_octet.seq (Reader.lossless_literal _)
  exact hd.seq (hd.seq (hd.seq lossless_octet))

theorem lossless_host : host.Lossless := lossless_domain.orElse lossless_ip

theorem lossless_userInfo : userInfo.Lossless :=
  (Reader.lossless_run1 _).seq (Reader.lossless_literal _)

theorem lossless_authority : authority.Lossless :=
  (lossless_userInfo.seq lossless_host).orElse lossless_host

theorem lossless_site : site.Lossless :=
  ((Reader.lossless_literal _).seq lossless_authority).orElse lossless_authority

end BareUrl.Url
