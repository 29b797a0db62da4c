import BattleAdvisor.Advice.Notes
import BattleAdvisor.Advice.Provision
import BattleAdvisor.Json.Writer
import BattleAdvisor.Prompt.Templates
import BattleAdvisor.Preferences

/-!
# Advice

`Advisor.advise` answers a question. It checks the choices, asks for the model, provides the data
files and the cache that the question wants, all of which is `Advisor.prepare`, and has the model
generate the advice. The calls to the remote service come in this order and stop at the first that
fails.
-/

namespace BattleAdvisor

/-- What is needed to answer questions. -/
structure Advisor (σ : Type) where
  service : Service σ
  preferences : Preferences
  templates : Templates
  notes : Notes

namespace Advisor

variable [MediaTypes] {σ : Type}

/-- How the context reaches the model: through a cache if there is one, else with the request. -/
def configuration (context : String) : Option ContentCache → ContextSource
  | some cache => .cached cache.name
  | none => .inline context []

/-- The limit of tokens as it is reported. -/
def limitText : Option Nat → String
  | some limit => toString limit
  | none => "unknown"

/-- The data files that the question wants. -/
def provideFiles (advisor : Advisor σ) (question : Question) : Action σ (List UploadedFile) :=
  match question.dataDirectory?, question.useDataFiles with
  | some dir, true =>
    Provision.obtainDirectory advisor.service advisor.preferences.filePrefix dir
      advisor.preferences.selects
  | _, _ => return []

/-- The cache that the question wants, for a model and with files. -/
def provideCache (advisor : Advisor σ) (question : Question) (model : String)
    (files : List UploadedFile) : Action σ (Option ContentCache) :=
  if question.useCache then
    some <$> Provision.obtainCache advisor.service model advisor.preferences.cacheName
      advisor.templates.context files
  else return none

/-- The text of a reply. -/
def textOf (reply : ModelReply) : Except AdviceError String :=
  match reply.text? with
  | some text =>
    if text = "" then .error (.generationFailed "Model returned no text") else .ok text
  | none => .error (.generationFailed "Model returned no text")

/-- The prompt of a question. -/
def promptOf (advisor : Advisor σ) (question : Question) : String :=
  advisor.templates.fillPrompt question.player question.battle

/-- Provides what the question wants, and forms the request to a model. -/
def request (advisor : Advisor σ) (question : Question) (model : String) :
    Action σ ModelRequest := do
  let files ← advisor.provideFiles question
  let cache? ← advisor.provideCache question model files
  return ⟨model, advisor.promptOf question, configuration advisor.templates.context cache?⟩

/-- Goes up to the request that the model is to answer. -/
def prepare (advisor : Advisor σ) (question : Question) : Action σ ModelRequest := do
  Action.ofExcept question.check
  let model : ModelCard ← Action.call advisor.service (.getModel advisor.preferences.model)
  let limit := limitText model.inputTokenLimit?
  let name := model.name
  Action.report .info s!"Starting Gemini x battler on {name} (input token limit = {limit})"
  advisor.notes.take "prompt" (advisor.promptOf question)
  advisor.request question name

/-- Has the model generate. -/
def generate (advisor : Advisor σ) (request : ModelRequest) : Action σ String := do
  Action.report .info "Generating content..."
  let reply : ModelReply ←
    Action.callAs (fun error => .generationFailed error.message) advisor.service (.generate request)
  advisor.notes.take "response" reply.raw.write
  Action.ofExcept (textOf reply)

/-- Answers a question. -/
def advise (advisor : Advisor σ) (question : Question) : Action σ String := do
  let request ← advisor.prepare question
  advisor.generate request

end Advisor

end BattleAdvisor
