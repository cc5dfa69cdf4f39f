import Shelley.Go.Basic
import Shelley.Llm.Message
import Shelley.Server.Slug
import Shelley.Server.SkillPreamble
import Shelley.Server.StreamEvent
import Shelley.Server.ProcessStream
import Shelley.Server.InlineLoop
import Shelley.Server.Reassembly
import Shelley.Server.Subagent
import Shelley.Server.Turn
import Shelley.Server.SubagentRunner
import Shelley.Db.Schema
import Shelley.Db.Store
import Shelley.Db.Integrity
import Shelley.Db.SubagentAdapter
import Shelley.Db.Migrate
import Shelley.Server.ClaudeCodeRunner
import Shelley.Server.SystemPrompt
import Shelley.Channels.Ntfy
