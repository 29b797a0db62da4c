import BattleAdvisor.Advice.MediaType

/-!
# Common media types

The media types of some common extensions, in which the case of letters does not matter.
-/

namespace BattleAdvisor

/-- Some extensions and what they mean. -/
def commonMediaTypes : List (String × String) := [
  ("json", "application/json"), ("txt", "text/plain"), ("log", "text/plain"), ("py", "text/plain"),
  ("md", "text/markdown"), ("csv", "text/csv"), ("html", "text/html"), ("htm", "text/html"),
  ("xml", "text/xml"), ("yaml", "text/x-yaml"), ("yml", "text/x-yaml"), ("toml", "text/x-toml"),
  ("png", "image/png"), ("jpg", "image/jpeg"), ("jpeg", "image/jpeg"), ("gif", "image/gif"),
  ("svg", "image/svg+xml"), ("webp", "image/webp"), ("pdf", "application/pdf"),
  ("js", "text/javascript"), ("css", "text/css"), ("zip", "application/zip"),
  ("gz", "application/gzip"), ("tar", "application/x-tar"), ("bin", "application/octet-stream"),
  ("rs", "text/x-rust"), ("mp3", "audio/mpeg"), ("mp4", "video/mp4"), ("wasm", "application/wasm")]

instance commonTypes : MediaTypes where
  guess? extension :=
    commonMediaTypes.lookup (String.ofList (extension.toList.map Char.toLower))

end BattleAdvisor
