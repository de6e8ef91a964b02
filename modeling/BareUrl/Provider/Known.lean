import BareUrl.Provider.Basic

/-!
# `BareUrl.Provider.Known`: providers that are known from the start

The providers that need no configuration: four large services with the endpoints and patterns that
they publish.
-/

set_option autoImplicit false

namespace BareUrl.Provider

/-- A provider whose endpoint is an address of the web without query. -/
def web (name host : String) (path : List String) (schemes : List String) : Provider where
  name := name.toList
  endpoint := ⟨"https".toList, [], [], some (.name host.toList), none,
    .segments (path.map String.toList), none, none⟩
  schemes := schemes.map String.toList

/-- The providers that are known from the start, in the order in which they are asked. -/
def known : List Provider := [
  web "YouTube" "www.youtube.com" ["oembed"]
    ["https://youtube.com/watch*", "https://*.youtube.com/watch*", "https://*.youtube.com/v/*",
      "https://*.youtube.com/shorts/*", "https://youtu.be/*"],
  web "Vimeo" "vimeo.com" ["api", "oembed.json"]
    ["https://vimeo.com/*", "https://vimeo.com/album/*/video/*", "https://vimeo.com/channels/*/*",
      "https://player.vimeo.com/video/*"],
  web "Flickr" "www.flickr.com" ["services", "oembed", ""]
    ["http://*.flickr.com/photos/*", "https://*.flickr.com/photos/*", "https://flic.kr/p/*"],
  web "SoundCloud" "soundcloud.com" ["oembed"]
    ["http://soundcloud.com/*", "https://soundcloud.com/*", "https://on.soundcloud.com/*"]]

end BareUrl.Provider
