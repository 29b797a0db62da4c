import BattleAdvisor.Http.Library

/-!
# A plain library

Enough of a library to go without tables: hosts are numbers and ASCII names, no response leads on to
another address, and bodies are texts in the usual encoding.
-/

namespace BattleAdvisor.Http

instance plainLibrary : Library where
  read := Host.read
  admits := (·.all Host.isAdmitted)
  onward _ _ _ := .take
  text response := Utf8.lossy response.body
  decode format := decodeText format.parse

end BattleAdvisor.Http
