import BareUrl.Proofs.Url.Alphabet
import BareUrl.Proofs.Url.Expression
import BareUrl.Url.Language

/-!
# `BareUrl.Proofs.Url.Language`: two halves of a URL

The expression of a URL groups it as protocol and site. The readers take it in two other parts: up
to the end of the host, where they may fail, and what follows, which may be nothing.
`reads_urlExpression_iff` moves the parentheses.

`not_mem_of_reads_urlExpression`: no URL holds an angle bracket, a quotation mark, white space or a
control character, so URLs never reach into markup and can be put between quotation marks.
-/

set_option autoImplicit false

namespace BareUrl.Url

namespace Expression

/-- A host behind user information, if there is any. -/
def authority : Expression := .seq (plain userInfo).optional (plain (.alt domain ip))

/-- What follows the colon of a protocol, up to the end of the host. -/
def location : Expression := .seq (plain (.word ['/', '/'])).optional authority

/-- A URL up to the end of its host. -/
def front (p : Protocol) : Expression := .seq (.seq (.word p.name) (.word [':'])) location

/-- What may follow the host of a URL. -/
def rear : Expression := .seq (Expression.word ['/']).optional (plain trail).optional

/-- Protocol and site are made of the same parts as the two halves. -/
theorem reads_protocol_site_iff {p : Protocol} {u r : Text} :
    Reads (.seq (protocol p) (plain site)) u r ↔ Reads (.seq (front p) rear) u r := by
  let name : Expression := .seq (.word p.name) (.word [':'])
  let slashes := (plain (.word ['/', '/'])).optional
  let user := (plain userInfo).optional
  let host := plain (.alt domain ip)
  calc Reads (.seq (protocol p) (plain site)) u r
      ↔ Reads (.seq (.seq name slashes) (.seq user (.seq host rear))) u r :=
        reads_seq_congr (fun _ _ => reads_seq_assoc.symm) fun _ _ => reads_plain_iff
    _ ↔ Reads (.seq name (.seq slashes (.seq user (.seq host rear)))) u r := reads_seq_assoc
    _ ↔ Reads (.seq name (.seq slashes (.seq authority rear))) u r :=
        reads_seq_congr (fun _ _ => Iff.rfl) fun _ _ =>
          reads_seq_congr (fun _ _ => Iff.rfl) fun _ _ => reads_seq_assoc.symm
    _ ↔ Reads (.seq name (.seq location rear)) u r :=
        reads_seq_congr (fun _ _ => Iff.rfl) fun _ _ => reads_seq_assoc.symm
    _ ↔ Reads (.seq (front p) rear) u r := reads_seq_assoc.symm

end Expression

open Expression

/-- A URL is read in two halves, with one of the protocols. -/
theorem reads_urlExpression_iff {g : Grammar} {u r : Text} :
    Reads g.urlExpression u r ↔ ∃ p ∈ g.protocols, Reads (.seq (front p) rear) u r := by
  obtain ⟨p, ps, hps⟩ := List.exists_cons_of_ne_nil g.inhabited
  have hg : g.urlExpression
      = .seq (.plain (.oneOf (protocol p) (ps.map protocol))) (.plain Expression.site) := by
    rw [Grammar.urlExpression, hps]
    rfl
  rw [hg, hps]
  constructor
  · intro h
    obtain ⟨x, y, rfl, hx, hy⟩ := reads_seq_iff.1 h
    obtain ⟨f, hf, hx⟩ := reads_oneOf_iff.1 (reads_plain_iff.1 hx)
    rw [← List.map_cons] at hf
    obtain ⟨q, hq, rfl⟩ := List.mem_map.1 hf
    exact ⟨q, hq, reads_protocol_site_iff.1 (.seq hx hy)⟩
  · rintro ⟨q, hq, h⟩
    obtain ⟨x, y, rfl, hx, hy⟩ := reads_seq_iff.1 (reads_protocol_site_iff.2 h)
    have hf : protocol q ∈ protocol p :: ps.map protocol :=
      List.map_cons ▸ List.mem_map_of_mem hq
    exact .seq (.group (reads_oneOf_iff.2 ⟨_, hf, hx⟩)) hy

/-! ### Characters -/

theorem isUrlChar_of_isProtocolName {c : Char} {name : Text} (h : isProtocolName name = true)
    (hmem : c ∈ name) : isUrlChar c = true := by
  rw [← Bool.not_eq_false]
  intro hc
  obtain ⟨-, -, -, -, -, -, -, hdigit, halpha, hmarks⟩ := class_of_not_isUrlChar hc
  have hrest : (c.isAlphanum || "+.-".toList.elem c) = false := by
    have hsub : "+.-".toList ⊆ urlMarks := by decide
    rw [Char.isAlphanum, halpha, hdigit, List.elem_eq_mem]
    exact decide_eq_false fun hd => hmarks (hsub hd)
  cases name with
  | nil => simp at hmem
  | cons d rest =>
      rw [isProtocolName, Bool.and_eq_true, List.all_eq_true] at h
      rcases List.mem_cons.1 hmem with rfl | hmem
      · rw [halpha] at h
        exact absurd h.1 Bool.noConfusion
      · have hd := h.2 c hmem
        rw [hrest] at hd
        exact absurd hd Bool.noConfusion

/-- Every class of the expression and every literal in it is made of characters of URLs. -/
theorem isUrlChar_of_allows {p : Protocol} {c : Char}
    (h : (Expression.seq (front p) rear).Allows c) : isUrlChar c = true := by
  rw [← Bool.not_eq_false]
  intro hc
  have hclasses := class_of_not_isUrlChar hc
  have hname : c ∉ p.name := by
    intro hmem
    rw [isUrlChar_of_isProtocolName p.valid hmem] at hc
    exact absurd hc Bool.noConfusion
  -- The literals are punctuation, which is among the marks of URLs.
  have hmarks : c ≠ ':' ∧ c ≠ '/' ∧ c ≠ '@' ∧ c ≠ '.' ∧ c ≠ '(' ∧ c ≠ ')' ∧ c ≠ '?' := by
    refine ⟨?_, ?_, ?_, ?_, ?_, ?_, ?_⟩ <;>
    · rintro rfl
      exact absurd hc (by decide)
  revert h
  simp [front, rear, location, Expression.authority, Expression.trail, Expression.userInfo,
    Expression.domain, Expression.ip, Expression.octet, path, properPath, userPath, parenthesised,
    Expression.query, letter, labelChar, userChar, pathChar, pathEndChar, queryChar, queryEndChar,
    digit, atSign, Expression.all, plain, Expression.optional, Expression.star, plus, Allows, hname,
    hclasses, hmarks]

/-- A URL is made of the characters of its parts. -/
theorem isUrlChar_of_reads {g : Grammar} {u r : Text} {c : Char}
    (h : Reads g.urlExpression u r) (hc : c ∈ u) : isUrlChar c = true := by
  obtain ⟨p, -, h⟩ := reads_urlExpression_iff.1 h
  exact isUrlChar_of_allows (allows_of_reads h hc)

/-- No delimiter stands in a URL. -/
theorem not_mem_of_reads_urlExpression {g : Grammar} {u r : Text} {c : Char}
    (hc : isDelimiter c = true) (h : Reads g.urlExpression u r) : c ∉ u := by
  intro hmem
  have hurl := isUrlChar_of_reads h hmem
  rw [not_isUrlChar_of_isDelimiter hc] at hurl
  exact absurd hurl Bool.noConfusion

end BareUrl.Url
