import BareUrl.Markup.Chunk
import BareUrl.Markup.Comment
import BareUrl.Markup.Exclusion
import BareUrl.Markup.Reference
import BareUrl.Resolver.Basic
import BareUrl.Url.Grammar

/-!
# `BareUrl.Converter`: bare URLs become placeholders

A text is converted in four steps.

1. Comments are masked.
2. The masked text is cut into tags and the text between them.
3. A walk over these finds the URLs in the text outside of excluded elements (`Converter.scan`).
   All else, tags and excluded text included, lies in the gaps between the URLs.
4. Each URL, its references decoded, is looked up, in order. One that can be embedded becomes a
   placeholder around the URL as it is written; every other one stays (`Converter.replaceAll`). Then
   the comments come back.

The placeholder holds its URL in an attribute of a tag, and no URL is looked for in a tag.
-/

set_option autoImplicit false

namespace BareUrl

/-- What can be chosen about a conversion. -/
structure Settings where
  /-- The text that has to stand in front of a URL. -/
  leader : Text
  /-- The protocols of the URLs to find. -/
  protocols : List Text
  /-- The elements whose content is left alone. -/
  excluded : List Text
deriving DecidableEq, Repr

namespace Settings

/-- The protocols of a conversion where nothing is chosen. -/
def usualProtocols : List Text :=
  ["http", "https", "ftp", "news", "nntp", "tel", "telnet", "mailto", "irc", "ssh", "sftp",
    "webcal", "rtsp"].map String.toList

/-- The excluded elements of a conversion where nothing is chosen. -/
def usualExcluded : List Text := ["a", "script", "style", "code", "pre"].map String.toList

/-- The settings where nothing is chosen. -/
def usual : Settings := ⟨[], usualProtocols, usualExcluded⟩

end Settings

/-- Finds and replaces the URLs of texts. -/
structure Converter where
  grammar : Url.Grammar
  exclusion : Markup.Exclusion

namespace Converter

/-- The converter with the given settings. Its protocols are checked before its elements. -/
def make (s : Settings) : Except Failure Converter :=
  match Url.Grammar.make s.protocols s.leader with
  | .error e => .error e
  | .ok grammar =>
    match Markup.Exclusion.make s.excluded with
    | .error e => .error e
    | .ok exclusion => .ok ⟨grammar, exclusion⟩

/-! ### Finding -/

/-- Walks over chunks: the URLs outside of excluded elements with all else in the gaps, and what
is logged on the way. -/
def walk (c : Converter) : Markup.Mode → List Markup.Chunk → Cut Url.Found × List Note
  | mode, [] => (.leaf [], mode.notesAtEnd)
  | mode, .tag t :: rest =>
    let (cut, notes) := walk c (mode.after c.exclusion t) rest
    (cut.prepend t, mode.notes c.exclusion t ++ notes)
  | .scanning, .text t :: rest =>
    let (cut, notes) := walk c .scanning rest
    ((c.grammar.find t).append cut, notes)
  | .excluded name, .text t :: rest =>
    let (cut, notes) := walk c (.excluded name) rest
    (cut.prepend t, notes)

/-- The masked text cut at the URLs to look up, and what is logged on the way. -/
def scan (c : Converter) (masked : Text) : Cut Url.Found × List Note :=
  c.walk .scanning (Markup.chunks masked)

/-- The URLs to look up, in order, and what is logged on the way. -/
def find (c : Converter) (t : Text) : List Url.Found × List Note :=
  let (cut, notes) := c.scan (Markup.mask t).1
  (cut.tokens, notes)

/-! ### Replacing -/

/-- The name of the placeholder. -/
def placeholderName : Text := "drupal-url".toList

/-- The attribute of the placeholder that holds the URL. -/
def placeholderAttribute : Text := "data-embed-url".toList

/-- The placeholder of a URL. -/
def placeholder (url : Text) : Text :=
  '<' :: placeholderName ++ [' '] ++ placeholderAttribute ++ "=\"".toList ++ url ++
    "\"></".toList ++ placeholderName ++ ['>']

/-- What is logged of the answer about a URL. -/
def answerNote (url : Text) : Answer → Note
  | .ok resolution => ⟨.trace, url ++ " is ".toList ++ resolution.text⟩
  | .error failure =>
    ⟨.debug, "Cannot resolve ".toList ++ url ++ ", keeping it as is: ".toList ++ failure.message⟩

/-- What stands in the output for a URL that was found, by the answer about it. -/
def replacement (f : Url.Found) : Answer → Text
  | .ok (.embeddable _) => placeholder f.url
  | .ok .notEmbeddable => f.matched
  | .error _ => f.matched

/-- Looks up a URL that was found, and says what stands in the output for it. -/
def replace {σ : Type} (r : Resolver σ) (f : Url.Found) (s : σ) : Traced σ Text :=
  let url := Markup.decode f.url
  let x := r url s
  ⟨replacement f x.result, x.notes ++ [answerNote url x.result], x.state⟩

/-- Looks up the URLs of a cut, in order, and puts in their place what stands in the output. -/
def replaceAll {σ : Type} (r : Resolver σ) (c : Cut Url.Found) (s : σ) : Traced σ (Cut Text) :=
  (Traced.each (fun part s => (replace r part.2 s).map (part.1, ·)) c.parts s).map (⟨·, c.last⟩)

/-- Converts a text. -/
def convert {σ : Type} (c : Converter) (r : Resolver σ) (t : Text) (s : σ) : Traced σ Text :=
  let (masked, bodies) := Markup.mask t
  let (cut, notes) := c.scan masked
  ((replaceAll r cut s).map fun out => Markup.unmask bodies (out.render id)).after notes

end Converter

end BareUrl
