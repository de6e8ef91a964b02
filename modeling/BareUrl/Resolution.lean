import BareUrl.Json.Basic

/-!
# `BareUrl.Resolution`: what is known of a URL

A URL can be embedded or not. If it can, there may be more to say about it: who provides the embed,
of what kind it is, its title, its markup and a thumbnail. Only the provider is shown.
-/

set_option autoImplicit false

namespace BareUrl

/-- What is known of a resource that can be embedded. -/
structure EmbedInfo where
  provider : Option Text
  kind : Option Text
  title : Option Text
  html : Option Text
  thumbnailUrl : Option Text
deriving DecidableEq, Repr

/-- What is known if only the provider is. -/
def EmbedInfo.ofProvider (name : Text) : EmbedInfo := ⟨some name, none, none, none, none⟩

/-- The keys of a record of what is known, in order. -/
def EmbedInfo.keys : List Text :=
  ["provider", "kind", "title", "html", "thumbnail_url"].map String.toList

/-- What a record says. -/
def EmbedInfo.ofJson? (j : Json) : Option EmbedInfo :=
  match j.record EmbedInfo.keys with
  | some [provider, kind, title, html, thumbnailUrl] =>
    some ⟨provider, kind, title, html, thumbnailUrl⟩
  | _ => none

/-- The answer to whether a URL can be embedded. -/
inductive Resolution where
  | embeddable (info : EmbedInfo)
  | notEmbeddable
deriving DecidableEq, Repr

/-- `true` if the URL can be embedded. -/
def Resolution.isEmbeddable : Resolution → Bool
  | .embeddable _ => true
  | .notEmbeddable => false

/-- The answer as it is shown. -/
def Resolution.text : Resolution → Text
  | .embeddable info =>
    match info.provider with
    | some name => "embeddable (".toList ++ name ++ [')']
    | none => "embeddable".toList
  | .notEmbeddable => "not embeddable".toList

end BareUrl
