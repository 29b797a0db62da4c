import BattleAdvisor.Main
import BattleAdvisor.Remote.Store
import BattleAdvisor.Proofs.Course
import BattleAdvisor.Proofs.Conversation
import BattleAdvisor.Proofs.Network
import BattleAdvisor.Proofs.Contents
import BattleAdvisor.Proofs.History
import BattleAdvisor.Proofs.Resumption
import BattleAdvisor.Proofs.Prompt.Filling
import BattleAdvisor.Proofs.Battle
import BattleAdvisor.Proofs.Json.Canonical
import BattleAdvisor.Proofs.Prompt.Simultaneous
import BattleAdvisor.Proofs.Json.Skipping
import BattleAdvisor.Proofs.Json.SpelledContent
import BattleAdvisor.Proofs.Json.SpelledRecord
import BattleAdvisor.Proofs.Records
import BattleAdvisor.Proofs.Failures
import BattleAdvisor.Proofs.Independence
import BattleAdvisor.Proofs.Stages
import BattleAdvisor.Proofs.Prompt.Factors
import BattleAdvisor.Proofs.Prompt.Commuting
import BattleAdvisor.Proofs.Selection
import BattleAdvisor.Proofs.Uploads
import BattleAdvisor.Proofs.FileSystem.Relative
import BattleAdvisor.Proofs.FileSystem.Growth
import BattleAdvisor.Proofs.Text.Collapse
import BattleAdvisor.Proofs.FileSystem.Spellings
import BattleAdvisor.Proofs.Naming
import BattleAdvisor.Proofs.Http.Query
import BattleAdvisor.Proofs.Http.Paging
import BattleAdvisor.Proofs.Http.Delivery
import BattleAdvisor.Proofs.Json.Gathered
import BattleAdvisor.Proofs.Http.Posting
import BattleAdvisor.Proofs.Reply
import BattleAdvisor.Proofs.Notes
import BattleAdvisor.Proofs.Credential
import BattleAdvisor.Proofs.Extension
import BattleAdvisor.Proofs.Text.Gaps
