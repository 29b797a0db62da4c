import BattleAdvisor.FileSystem.Path

/-!
# Media types

The media type of a file is guessed from its extension. What extensions mean is registered
elsewhere: it is given as an instance of `MediaTypes`.
-/

namespace BattleAdvisor

/-- What extensions mean. -/
class MediaTypes where
  /-- The media type that an extension means, if it means any. -/
  guess? : String → Option String

/-- What is relied on of media types: they are made of visible characters of ASCII and spaces. -/
class LawfulMediaTypes [MediaTypes] : Prop where
  plain : ∀ {extension mediaType}, MediaTypes.guess? extension = some mediaType →
    ∀ c ∈ mediaType.toList, ' ' ≤ c ∧ c ≤ '~'

/-- The media type that the extension of a path means. -/
def Path.mediaType? [MediaTypes] (path : Path) : Option String :=
  (path.extension?.bind Utf8.decode?).bind MediaTypes.guess?

end BattleAdvisor
