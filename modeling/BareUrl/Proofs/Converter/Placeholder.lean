import BareUrl.Proofs.Converter.Exposed
import BareUrl.Proofs.Converter.Splice

/-!
# `BareUrl.Proofs.Converter.Placeholder`: nothing gets out of a placeholder

A URL is taken from a text that anyone may have written, and a placeholder holds it as it is,
between quotation marks in a tag. So it must neither end the attribute nor the tag. It does not:
no URL that is looked up holds a quotation mark or an angle bracket, nor white space or a control
character (`placeholder_of_mem_find`). A placeholder is therefore read as two tags with nothing
around them, and the value of its attribute is the URL, whole.
-/

set_option autoImplicit false

namespace BareUrl

open Markup (Chunk chunks)

/-- The value of the attribute with the given name, which is the first one in the tag: what stands
between the quotation mark behind the name and the next one. -/
def Markup.attributeValue (name tag : Text) : Option Text :=
  match Text.cut (name ++ ['=', '"']) tag with
  | none => none
  | some (_, rest) => (Text.cut ['"'] rest).map Prod.fst

namespace Converter

variable {url : Text}

/-- The attribute of a placeholder is read up to the end of its URL, and no further. -/
theorem attributeValue_frontTag (hquote : '"' ∉ url) :
    Markup.attributeValue placeholderAttribute (frontTag url) = some url := by
  have hfront : frontTag url
      = ('<' :: placeholderName ++ [' ']) ++ (placeholderAttribute ++ ['=', '"'])
          ++ (url ++ '"' :: ['>']) := by
    rw [frontTag, placeholderFront_eq, placeholderName_eq, placeholderAttribute_eq]
    rfl
  -- The name of the attribute does not occur earlier in the tag.
  have hname : Text.cut (placeholderAttribute ++ ['=', '"']) (frontTag url)
      = some ('<' :: placeholderName ++ [' '], url ++ '"' :: ['>']) := by
    rw [hfront]
    refine Text.cut_append_self _ ?_ ?_
    · rw [placeholderAttribute_eq]
      decide
    · rw [placeholderAttribute_eq, placeholderName_eq]
      decide
  have hvalue : Text.cut ['"'] (url ++ '"' :: ['>']) = some (url, ['>']) :=
    Text.cut_singleton_eq_some_iff.2 ⟨rfl, hquote⟩
  rw [Markup.attributeValue, hname]
  show (Text.cut ['"'] (url ++ '"' :: ['>'])).map Prod.fst = some url
  rw [hvalue]
  rfl

/-- A placeholder is two tags with nothing before, between and behind them. -/
theorem chunks_placeholder_alone (hclose : '>' ∉ url) :
    chunks (placeholder url)
      = [.text [], .tag (frontTag url), .text [], .tag backTag, .text []] := by
  have hnil : Markup.Untagged [] := Markup.untagged_of_not_mem List.not_mem_nil
  obtain ⟨before, opened, hsplit, -, -, hchunks⟩ := chunks_placeholder hnil hclose
  obtain ⟨rfl, rfl⟩ := List.append_eq_nil_iff.1 hsplit.symm
  have hall := hchunks []
  rwa [List.append_nil, Markup.chunks_of_untagged hnil] at hall

/-- No URL that is looked up holds an angle bracket, a quotation mark, white space or a control
character. So its placeholder is an opening and a closing tag and nothing else, and the attribute of
the opening one, read up to the next quotation mark, is the URL itself. -/
theorem placeholder_of_mem_find (c : Converter) (t : Text) :
    ∀ f ∈ (c.find t).1,
      (∀ d ∈ f.url, d ≠ '<' ∧ d ≠ '>' ∧ d ≠ '"' ∧ Text.isBlank d = false ∧
        Text.isControl d = false) ∧
      chunks (placeholder f.url)
        = [.text [], .tag (frontTag f.url), .text [], .tag backTag, .text []] ∧
      Markup.attributeValue placeholderAttribute (frontTag f.url) = some f.url := by
  intro f hf
  refine ⟨fun d hmem => ?_, chunks_placeholder_alone ?_, attributeValue_frontTag ?_⟩
  · have hd : Url.isDelimiter d = false := by
      rw [← Bool.not_eq_true]
      intro hd
      exact not_mem_of_mem_find hd hf hmem
    simpa [Url.isDelimiter, and_assoc] using hd
  · exact not_mem_of_mem_find rfl hf
  · exact not_mem_of_mem_find rfl hf

/-- A URL between quotation marks, with a reference to a quotation mark in it. -/
theorem placeholder_of_mem_find_quoted :
    let t := "<p>\"http://u%22@b.cc/x_(y)?q=&#34;&\" onclick=\"".toList
    let url := "http://u%22@b.cc/x_(y)?q=&#34;&".toList
    let f : Url.Found := ⟨url, url⟩
    f ∈ (usual.find t).1 ∧
      (∀ d ∈ f.url, d ≠ '<' ∧ d ≠ '>' ∧ d ≠ '"' ∧ Text.isBlank d = false ∧
        Text.isControl d = false) ∧
      chunks (placeholder f.url)
        = [.text [], .tag (frontTag f.url), .text [], .tag backTag, .text []] ∧
      Markup.attributeValue placeholderAttribute (frontTag f.url) = some f.url := by
  intro t url f
  have hf : f ∈ (usual.find t).1 := by decide +kernel
  exact ⟨hf, placeholder_of_mem_find usual t f hf⟩

end Converter

end BareUrl
