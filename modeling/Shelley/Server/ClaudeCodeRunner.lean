import Shelley.Db.Store
import Shelley.Server.StreamEvent
import Shelley.Server.SubagentRunner

/-! # The Claude Code sub-agent runner

`ClaudeCodeRunner.run` hands a prompt to the external `claude` CLI and records what the CLI
streams back in the sub-agent's conversation: the prompt first, then one message for every
`assistant` or `user` event that carries content. Each is written by `DB.CreateMessage` and,
when the write succeeds, published on the conversation's topic under its sequence id. The
runner returns the `result` of the last `result` event it read; a failed exit of the CLI is
reported only when that result is empty.

The runner shares the store with every other writer. Between two of its own store accesses the
single writer may serialize any number of other calls (`RunnerEnv.others`), so the runs of the
model cover every interleaving. The CLI is its output lines and the errors of `StdoutPipe`,
`Start` and `Wait`; a timeout shows as the end of the output and an error of `Wait`. The MCP
configuration file and the command line are not modelled: nothing the runner computes reads
them back.

The indices the runner publishes under strictly increase and each names a row that stays
stored, whatever other writers do, as long as none of them deletes the conversation
(`run_published_increasing`). What it publishes is, in order, part of the prompt followed by
the messages of the stream (`run_published_sublist`), and all of it when no write fails
(`run_sequential`). -/

namespace Shelley.Server.ClaudeCodeRunner
open Llm Db

/-! ## The CLI's output -/

/-- One element of `claudeStreamMessage.Content`, as `json.Unmarshal` fills it: `input` is the
raw JSON of a `tool_use` input, and the `content` of a `tool_result` is read as a string. -/
structure ContentBlock where
  type : String
  text : String := ""
  id : String := ""
  name : String := ""
  input : String := ""
  toolUseID : String := ""
  content : String := ""
  isError : Bool := false

/-- `claudeStreamMessage`. -/
structure ClaudeStreamMessage where
  role : String := ""
  content : List ContentBlock := []

/-- `subagentStreamEvent`, the runner's reading of an event. -/
structure SubagentStreamEvent where
  type : String := ""
  message : ClaudeStreamMessage := {}
  result : String := ""

/-- One line of the CLI's output: its length in bytes, newline excluded, and what
`json.Unmarshal` makes of it, `none` when it returns an error (a `tool_result` whose content is
not a JSON string makes one). -/
structure OutputLine where
  size : Nat
  event : Option SubagentStreamEvent

/-- A line fits the scanner's 1 MiB buffer when it and its newline do. The scanner yields the
lines up to the first that does not; `scanner.Err()` is not read. -/
def OutputLine.fits (line : OutputLine) : Bool := line.size + 1 ≤ maxScanTokenSize

/-- The content the runner appends for one block: its `text`, `tool_use` and `tool_result`
blocks, a tool result's content as one text block. -/
def blockContent (c : ContentBlock) : Option Content :=
  if c.type = "text" then some { Content.ofType .text with text := c.text }
  else if c.type = "tool_use" then
    some { Content.ofType .toolUse with id := c.id, toolName := c.name, toolInput := c.input }
  else if c.type = "tool_result" then
    some { type := .toolResult, toolUseID := c.toolUseID,
           toolResult := [{ Content.ofType .text with text := c.content }],
           toolError := c.isError }
  else none

/-- What one line asks of the runner. -/
inductive LineAction where
  | skip
  | store (type : MessageType) (msg : Message)
  | result (result : String)

/-- The scan loop's body up to its effect. An empty line, a line `json.Unmarshal` rejects and
an event of another type are skipped; an `assistant` or `user` event becomes a message when one
of its blocks carries content (`hasContent`); a `result` event sets the final result. -/
def lineAction (line : OutputLine) : LineAction :=
  if line.size = 0 then .skip
  else match line.event with
  | none => .skip
  | some ev =>
    if ev.type = "assistant" ∨ ev.type = "user" then
      let role : MessageRole := if ev.type = "user" then .user else .assistant
      let msgType : MessageType := if ev.type = "user" then .user else .agent
      let content := ev.message.content.filterMap blockContent
      if content.isEmpty then .skip else .store msgType { role, content }
    else if ev.type = "result" then .result ev.result
    else .skip

/-- The message a line asks the runner to write, if any. -/
def LineAction.message? : LineAction → Option (MessageType × Message)
  | .store type msg => some (type, msg)
  | _ => none

/-- The result a line sets, if any. -/
def LineAction.result? : LineAction → Option String
  | .result r => some r
  | _ => none

/-! ## A run -/

/-- `StreamResponse` as the runner fills it: the created row, and the conversation as
`GetConversation` read it, `none` standing for the zero value it keeps when the read fails. -/
structure StreamResponse where
  messages : List MessageRow
  conversation : Option Conversation

/-- What the runner does outside the store: the manager's working flag, and
`manager.subpub.Publish`. -/
inductive RunnerEffect where
  | setAgentWorking (working : Bool)
  | publish (index : Nat) (resp : StreamResponse)

/-- One run's environment: the conversation and the prompt; `json.Marshal` of a message; the
errors of `getOrCreateSubagentConversationManager`, `cmd.StdoutPipe()`, `cmd.Start()` and
`cmd.Wait()`; the CLI's output; and, for the runner's `k`-th store access, the id `uuid.New()`
draws, the failure of the environment it meets, and the other writers' calls serialized just
before it. -/
structure RunnerEnv where
  conversationID : String
  prompt : String
  marshal : Message → String
  managerError : Option String
  pipeError : Option String
  startError : Option String
  lines : List OutputLine
  waitError : Option String
  messageIDs : Nat → String
  faults : Nat → Option String
  others : Nat → List Call

/-- The CLI was started: `run` got past its three early returns. -/
def RunnerEnv.Started (env : RunnerEnv) : Prop :=
  env.managerError = none ∧ env.pipeError = none ∧ env.startError = none

/-- The store, the number of store accesses made, `finalResult`, and the effects so far. -/
structure RunnerState where
  store : Store
  access : Nat := 0
  finalResult : String := ""
  effects : List RunnerEffect := []

/-- The runner's `k`-th store access when it is `s.db.CreateMessage` of a message of the
conversation, on the store the other writers' calls leave. -/
def RunnerEnv.createMessage (env : RunnerEnv) (k : Nat) (type : MessageType) (msg : Message)
    (s : Store) : Except DbError MessageRow × Store :=
  DB.createMessage (env.faults k) (env.messageIDs k)
    { conversationID := env.conversationID, type := type.text, llmData := some (env.marshal msg) }
    (runCalls s (env.others k))

/-- `CreateMessage`, and when it succeeds the read of the conversation (the next store access)
and the publication of the created row under its sequence id. -/
def createAndPublish (env : RunnerEnv) (type : MessageType) (msg : Message) (st : RunnerState) :
    RunnerState :=
  match env.createMessage st.access type msg st.store with
  | (.error _, s) => { st with store := s, access := st.access + 1 }
  | (.ok row, s) =>
    let s := runCalls s (env.others (st.access + 1))
    let conv := (rx (env.faults (st.access + 1)) (Queries.getConversation env.conversationID) s).toOption
    { st with store := s, access := st.access + 2,
              effects := st.effects ++ [.publish row.sequenceID ⟨[row], conv⟩] }

/-- One pass of the scan loop. -/
def runLine (env : RunnerEnv) (st : RunnerState) (line : OutputLine) : RunnerState :=
  match lineAction line with
  | .skip => st
  | .store type msg => createAndPublish env type msg st
  | .result result => { st with finalResult := result }

section
variable {env : RunnerEnv} {st : RunnerState} {line : OutputLine}

theorem runLine_skip (h : lineAction line = .skip) : runLine env st line = st := by
  simp [runLine, h]

theorem runLine_store {type : MessageType} {msg : Message}
    (h : lineAction line = .store type msg) :
    runLine env st line = createAndPublish env type msg st := by
  simp [runLine, h]

theorem runLine_result {r : String} (h : lineAction line = .result r) :
    runLine env st line = { st with finalResult := r } := by
  simp [runLine, h]

end

/-- What `run` returns once the output is read: the error of `cmd.Wait()` is reported only when
`finalResult` is empty. -/
def waitResult (waitError : Option String) (finalResult : String) : Except String String :=
  match waitError with
  | some e => if finalResult = "" then .error ("claude code error: " ++ e) else .ok finalResult
  | none => .ok finalResult

/-- `ClaudeCodeRunner.run`, from the store as the run finds it. Once the CLI has started, the
working flag is set, the prompt written, the output read; the deferred `SetAgentWorking(false)`
comes last. -/
def run (env : RunnerEnv) (store : Store) : Except String String × RunnerState :=
  match env.managerError with
  | some e => (.error ("failed to get conversation manager: " ++ e), { store })
  | none =>
    match env.pipeError with
    | some e => (.error e, { store })
    | none =>
      match env.startError with
      | some e => (.error ("start claude: " ++ e), { store })
      | none =>
        let st := createAndPublish env .user (promptMessage env.prompt)
          { store, effects := [.setAgentWorking true] }
        let st := (env.lines.takeWhile (·.fits)).foldl (runLine env) st
        (waitResult env.waitError st.finalResult,
          { st with effects := st.effects ++ [.setAgentWorking false] })

/-- `ClaudeCodeRunner.RunSubagent`: with `wait` the result of the run; otherwise the run goes on
in the background and the call returns at once. -/
def runSubagent (env : RunnerEnv) (wait : Bool) (store : Store) :
    Except String String × RunnerState :=
  if wait then run env store
  else (.ok ("Claude Code subagent started processing. Conversation ID: " ++ env.conversationID),
    (run env store).2)

/-- The state when the output is read: the prompt written, then the lines the scanner yields. -/
def RunnerEnv.afterOutput (env : RunnerEnv) (store : Store) : RunnerState :=
  (env.lines.takeWhile (·.fits)).foldl (runLine env)
    (createAndPublish env .user (promptMessage env.prompt)
      { store, effects := [.setAgentWorking true] })

theorem run_of_started {env : RunnerEnv} (h : env.Started) (store : Store) :
    run env store = (waitResult env.waitError (env.afterOutput store).finalResult,
      { env.afterOutput store with
        effects := (env.afterOutput store).effects ++ [.setAgentWorking false] }) := by
  obtain ⟨h₁, h₂, h₃⟩ := h
  simp only [run, h₁, h₂, h₃, RunnerEnv.afterOutput]

theorem run_of_not_started {env : RunnerEnv} (h : ¬env.Started) (store : Store) :
    (run env store).2 = { store } := by
  unfold RunnerEnv.Started at h
  unfold run
  split
  · rfl
  · split
    · rfl
    · split
      · rfl
      · exact absurd ⟨‹_›, ‹_›, ‹_›⟩ h

/-! ## One write -/

/-- What `createAndPublish` does: the write fails and nothing is published, or it returns a row,
which is published after the other writers' next calls. -/
theorem createAndPublish_cases (env : RunnerEnv) (type : MessageType) (msg : Message)
    (st : RunnerState) :
    (∀ row, (env.createMessage st.access type msg st.store).1 ≠ .ok row) ∧
      createAndPublish env type msg st =
        { st with store := (env.createMessage st.access type msg st.store).2,
                  access := st.access + 1 } ∨
    ∃ row conv, (env.createMessage st.access type msg st.store).1 = .ok row ∧
      createAndPublish env type msg st =
        { st with store := runCalls (env.createMessage st.access type msg st.store).2
                              (env.others (st.access + 1)),
                  access := st.access + 2,
                  effects := st.effects ++ [.publish row.sequenceID ⟨[row], conv⟩] } := by
  unfold createAndPublish
  rcases env.createMessage st.access type msg st.store with ⟨_ | row, s⟩
  · exact .inl ⟨(fun _ h => by cases h), rfl⟩
  · exact .inr ⟨row, _, rfl, rfl⟩

/-- The row a successful write adds: the runner's conversation, the message's type and payload,
and the next sequence id of the store it met. -/
theorem RunnerEnv.createMessage_ok {env : RunnerEnv} {k : Nat} {type : MessageType}
    {msg : Message} {s : Store} {row : MessageRow}
    (h : (env.createMessage k type msg s).1 = .ok row) :
    (env.createMessage k type msg s).2.messages = (runCalls s (env.others k)).messages ++ [row] ∧
      row.conversationID = env.conversationID ∧ row.type = type.text ∧
      row.llmData = some (env.marshal msg) ∧
      row.sequenceID = nextSequenceID (runCalls s (env.others k)) env.conversationID ∧
      row.messageID = env.messageIDs k := by
  obtain ⟨rfl, hmsgs⟩ := Db.createMessage_eq_ok h
  exact ⟨hmsgs, rfl, rfl, rfl, rfl, rfl⟩

@[simp] theorem createAndPublish_finalResult (env : RunnerEnv) (type : MessageType)
    (msg : Message) (st : RunnerState) :
    (createAndPublish env type msg st).finalResult = st.finalResult := by
  rcases createAndPublish_cases env type msg st with ⟨-, h⟩ | ⟨_, _, -, h⟩ <;> rw [h]

/-! ## The final result -/

/-- The scan loop leaves in `finalResult` the result of the last line that sets one. -/
theorem foldl_runLine_finalResult (env : RunnerEnv) (lines : List OutputLine)
    (st : RunnerState) :
    (lines.foldl (runLine env) st).finalResult =
      ((lines.filterMap fun line => (lineAction line).result?).getLast?).getD st.finalResult := by
  induction lines generalizing st with
  | nil => rfl
  | cons line lines ih =>
    rw [List.foldl_cons, ih]
    unfold runLine
    split <;> rename_i h <;> simp [h, LineAction.result?, List.getLast?_cons]

/-- The result of the last of `lines` that sets one. -/
def lastResult (lines : List OutputLine) : Option String :=
  (lines.filterMap fun line => (lineAction line).result?).getLast?

/-- **What the runner returns.** Once the CLI has started, the runner's `finalResult` is the
result of the last `result` event among the lines the scanner yields, `""` when there is none
(an empty result overrides an earlier one), and `run` returns it unless `Wait` failed and it is
empty. Writes, their failures and other writers change nothing of it. -/
theorem run_returns (env : RunnerEnv) (store : Store) (hstart : env.Started) :
    (run env store).1 =
      waitResult env.waitError ((lastResult (env.lines.takeWhile (·.fits))).getD "") := by
  rw [run_of_started hstart, RunnerEnv.afterOutput, foldl_runLine_finalResult,
    createAndPublish_finalResult]
  rfl

/-- A CLI that answers the prompt with one text message and a result, then exits with an error,
in a store that holds the conversation. -/
def sampleEnv : RunnerEnv where
  conversationID := "c"
  prompt := "hi"
  marshal := fun _ => "{}"
  managerError := none
  pipeError := none
  startError := none
  lines := [⟨40, some { type := "assistant", message := { content := [{ type := "text" }] } }⟩,
    ⟨20, some { type := "result", result := "done" }⟩]
  waitError := some "exit status 1"
  messageIDs := fun k => String.mk (List.replicate (k + 1) 'm')
  faults := fun _ => none
  others := fun _ => []

/-- The store `sampleEnv` runs on: its conversation and no message. -/
def sampleStore : Store :=
  { conversations := [⟨"c", none, false, none, none, false⟩] }

theorem run_returns_failed_exit :
    sampleEnv.Started ∧ (run sampleEnv sampleStore).1 = .ok "done" :=
  ⟨⟨rfl, rfl, rfl⟩, by rw [run_returns sampleEnv sampleStore ⟨rfl, rfl, rfl⟩]; rfl⟩

/-! ## Publications across interleavings -/

/-- The indices of the runner's publications, in order. -/
def publishedIndices (effects : List RunnerEffect) : List Nat :=
  effects.filterMap fun
    | .publish index _ => some index
    | .setAgentWorking _ => none

@[simp] theorem publishedIndices_append (es es' : List RunnerEffect) :
    publishedIndices (es ++ es') = publishedIndices es ++ publishedIndices es' := by
  simp [publishedIndices]

@[simp] theorem publishedIndices_publish (i : Nat) (resp : StreamResponse) :
    publishedIndices [.publish i resp] = [i] := rfl

@[simp] theorem publishedIndices_setAgentWorking (working : Bool) :
    publishedIndices [.setAgentWorking working] = [] := rfl

@[simp] theorem mem_publishedIndices {i : Nat} {effects : List RunnerEffect} :
    i ∈ publishedIndices effects ↔ ∃ resp, .publish i resp ∈ effects := by
  simp only [publishedIndices, List.mem_filterMap]
  constructor
  · rintro ⟨(_ | ⟨j, resp⟩), he, hi⟩
    · cases hi
    · cases hi
      exact ⟨resp, he⟩
  · rintro ⟨resp, he⟩
    exact ⟨_, he, rfl⟩

/-- What the runner's publications keep along a run: each carries one stored row of the
conversation, under that row's sequence id, and the indices strictly increase. -/
structure Published (c : String) (st : RunnerState) : Prop where
  stored : ∀ i resp, .publish i resp ∈ st.effects → ∃ row, resp.messages = [row] ∧
    row ∈ st.store.messages ∧ row.conversationID = c ∧ row.sequenceID = i
  increasing : (publishedIndices st.effects).Pairwise (· < ·)

/-- A change of store that keeps the conversation's messages keeps the publications. -/
theorem Published.keeps {c : String} {st st' : RunnerState} (h : Published c st)
    (hk : KeepsMessages c st.store st'.store) (he : st'.effects = st.effects) :
    Published c st' where
  stored i resp hmem := by
    obtain ⟨row, hr, hst, hc, hi⟩ := h.stored i resp (he ▸ hmem)
    exact ⟨row, hr, hk row hst hc, hc, hi⟩
  increasing := he ▸ h.increasing

/-- Setting the working flag keeps the publications. -/
theorem Published.setAgentWorking {c : String} {st : RunnerState} (h : Published c st)
    (working : Bool) :
    Published c { st with effects := st.effects ++ [.setAgentWorking working] } where
  stored i resp hmem := h.stored i resp (by simpa using hmem)
  increasing := by simpa using h.increasing

section
variable {env : RunnerEnv} {st : RunnerState}

/-- A write keeps the publications when neither group of other calls around it deletes the
conversation: the row it publishes has the next sequence id of a store that still holds every
row published before. -/
theorem Published.createAndPublish (h : Published env.conversationID st)
    (hk₀ : ∀ call ∈ env.others st.access, call.deletes env.conversationID = false)
    (hk₁ : ∀ call ∈ env.others (st.access + 1), call.deletes env.conversationID = false)
    (type : MessageType) (msg : Message) :
    Published env.conversationID (createAndPublish env type msg st) := by
  have hpre := runCalls_keepsMessages hk₀ st.store
  have hwrite : KeepsMessages env.conversationID st.store
      (env.createMessage st.access type msg st.store).2 :=
    hpre.trans (createMessage_keepsMessages _ _ _ _ _)
  rcases createAndPublish_cases env type msg st with ⟨-, heq⟩ | ⟨row, conv, hok, heq⟩ <;>
    rw [heq]
  · exact h.keeps hwrite rfl
  obtain ⟨hmsgs, hc, -, -, hseq, -⟩ := RunnerEnv.createMessage_ok hok
  have hpost := runCalls_keepsMessages hk₁ (env.createMessage st.access type msg st.store).2
  refine ⟨fun i resp hmem => ?_, ?_⟩
  · rcases List.mem_append.1 hmem with hmem | hmem
    · obtain ⟨r, hr, hst, hrc, hi⟩ := h.stored i resp hmem
      exact ⟨r, hr, hpost r (hwrite r hst hrc) hrc, hrc, hi⟩
    · obtain ⟨rfl, rfl⟩ : i = row.sequenceID ∧ resp = ⟨[row], conv⟩ := by simpa using hmem
      exact ⟨row, rfl, hpost row (by simp [hmsgs]) hc, hc, rfl⟩
  · rw [publishedIndices_append, publishedIndices_publish]
    refine List.pairwise_append.2 ⟨h.increasing, List.pairwise_singleton _ _, fun a ha b hb => ?_⟩
    obtain ⟨resp, hmem⟩ := mem_publishedIndices.1 ha
    obtain ⟨r, -, hst, hrc, rfl⟩ := h.stored a resp hmem
    rw [List.mem_singleton.1 hb, hseq]
    exact lt_nextSequenceID (hpre r hst hrc) hrc

/-- The scan loop keeps the publications when no other call deletes the conversation. -/
theorem Published.foldl_runLine
    (hk : ∀ k, ∀ call ∈ env.others k, call.deletes env.conversationID = false)
    (lines : List OutputLine) (h : Published env.conversationID st) :
    Published env.conversationID (lines.foldl (runLine env) st) := by
  induction lines generalizing st with
  | nil => exact h
  | cons line lines ih =>
    refine ih ?_
    unfold runLine
    split
    · exact h
    · exact h.createAndPublish (hk _) (hk _) _ _
    · exact h.keeps (KeepsMessages.refl _ _) rfl

end

/-- **Publications across interleavings.** Whatever calls other writers make between the
runner's store accesses, and whichever writes fail, as long as no other call deletes the
conversation: every publication of the run carries one row of the conversation, under that
row's sequence id, and the row is still stored when the run ends; and the indices of the
publications strictly increase. A subscriber that resumes from the last index it received
therefore misses none of the runner's messages. -/
theorem run_published_increasing (env : RunnerEnv) (store : Store)
    (hothers : ∀ k, ∀ call ∈ env.others k, call.deletes env.conversationID = false) :
    (publishedIndices (run env store).2.effects).Pairwise (· < ·) ∧
    ∀ i resp, .publish i resp ∈ (run env store).2.effects → ∃ row, resp.messages = [row] ∧
      row ∈ (run env store).2.store.messages ∧ row.conversationID = env.conversationID ∧
      row.sequenceID = i := by
  suffices h : Published env.conversationID (run env store).2 from ⟨h.increasing, h.stored⟩
  by_cases hstart : env.Started
  · have h₀ : Published env.conversationID { store, effects := [.setAgentWorking true] } :=
      ⟨fun _ _ h => by simp at h, List.Pairwise.nil⟩
    have h₁ := (h₀.createAndPublish (hothers _) (hothers _) .user (promptMessage env.prompt)
      |>.foldl_runLine hothers (env.lines.takeWhile (·.fits)))
    rw [run_of_started hstart]
    exact h₁.setAgentWorking false
  · rw [run_of_not_started hstart]
    exact ⟨fun _ _ h => by simp at h, List.Pairwise.nil⟩

/-- `sampleEnv` with another writer's message stored in the conversation just before the
runner's first write. -/
def interleavedEnv : RunnerEnv :=
  { sampleEnv with
    others := fun k => if k = 0 then [.createMessage none "x" ⟨"c", "user", none, none, none, none⟩]
      else [] }

theorem run_published_interleaved :
    (∀ k, ∀ call ∈ interleavedEnv.others k, call.deletes interleavedEnv.conversationID = false) ∧
    (publishedIndices (run interleavedEnv sampleStore).2.effects).Pairwise (· < ·) ∧
    ∀ i resp, .publish i resp ∈ (run interleavedEnv sampleStore).2.effects → ∃ row,
      resp.messages = [row] ∧ row ∈ (run interleavedEnv sampleStore).2.store.messages ∧
      row.conversationID = interleavedEnv.conversationID ∧ row.sequenceID = i :=
  have h : ∀ k, ∀ call ∈ interleavedEnv.others k,
      call.deletes interleavedEnv.conversationID = false := fun k => by
    by_cases hk : k = 0 <;> simp [interleavedEnv, hk, Call.deletes]
  ⟨h, run_published_increasing interleavedEnv sampleStore h⟩

/-! ## What is published -/

/-- The messages the runner writes, in order: the prompt, then the message of every line the
scanner yields that asks for one. -/
def runnerMessages (env : RunnerEnv) : List (MessageType × Message) :=
  (.user, promptMessage env.prompt) ::
    (env.lines.takeWhile (·.fits)).filterMap fun line => (lineAction line).message?

/-- The columns a written message fills: `type`, and `llm_data` with the marshalled message. -/
def RunnerEnv.columns (env : RunnerEnv) (m : MessageType × Message) : String × Option String :=
  (m.1.text, some (env.marshal m.2))

/-- The rows of the runner's publications, in order. -/
def publishedRows (effects : List RunnerEffect) : List MessageRow :=
  effects.flatMap fun
    | .publish _ resp => resp.messages
    | .setAgentWorking _ => []

/-- The columns of a row that `columns` fills. -/
def rowColumns (row : MessageRow) : String × Option String := (row.type, row.llmData)

@[simp] theorem publishedRows_append (es es' : List RunnerEffect) :
    publishedRows (es ++ es') = publishedRows es ++ publishedRows es' := by
  simp [publishedRows]

@[simp] theorem publishedRows_setAgentWorking (working : Bool) :
    publishedRows [.setAgentWorking working] = [] := rfl

/-- What a write adds to the published rows: nothing, or the row of its message. -/
theorem createAndPublish_publishedRows (env : RunnerEnv) (type : MessageType) (msg : Message)
    (st : RunnerState) :
    ∃ added, List.Sublist (added.map rowColumns) [env.columns (type, msg)] ∧
      (∀ row ∈ added, row.conversationID = env.conversationID) ∧
      publishedRows (createAndPublish env type msg st).effects = publishedRows st.effects ++ added := by
  rcases createAndPublish_cases env type msg st with ⟨-, h⟩ | ⟨row, conv, hok, h⟩ <;> rw [h]
  · exact ⟨[], List.nil_sublist _, by simp, by simp⟩
  · obtain ⟨-, hc, htype, hdata, -⟩ := RunnerEnv.createMessage_ok hok
    refine ⟨[row], ?_, by simpa using hc, by simp [publishedRows]⟩
    simp [rowColumns, RunnerEnv.columns, htype, hdata]

/-- What the scan loop adds to the published rows: in order, rows of some of the messages the
lines ask for, each of the runner's conversation. -/
theorem foldl_runLine_publishedRows (env : RunnerEnv) (lines : List OutputLine)
    (st : RunnerState) :
    ∃ added, List.Sublist (added.map rowColumns)
        ((lines.filterMap fun line => (lineAction line).message?).map env.columns) ∧
      (∀ row ∈ added, row.conversationID = env.conversationID) ∧
      publishedRows (lines.foldl (runLine env) st).effects = publishedRows st.effects ++ added := by
  induction lines generalizing st with
  | nil => exact ⟨[], List.nil_sublist _, by simp, by simp⟩
  | cons line lines ih =>
    rw [List.foldl_cons, List.filterMap_cons]
    rcases h : lineAction line with _ | ⟨type, msg⟩ | r
    · rw [runLine_skip h]
      exact ih st
    · rw [runLine_store h]
      obtain ⟨a₁, hs₁, hc₁, he₁⟩ := createAndPublish_publishedRows env type msg st
      obtain ⟨a₂, hs₂, hc₂, he₂⟩ := ih (createAndPublish env type msg st)
      refine ⟨a₁ ++ a₂, ?_, fun row hr => ?_, by rw [he₂, he₁, List.append_assoc]⟩
      · rw [List.map_append]
        exact hs₁.append hs₂
      · rcases List.mem_append.1 hr with hr | hr
        exacts [hc₁ row hr, hc₂ row hr]
    · rw [runLine_result h]
      exact ih _

/-- **What is published.** Whatever other writers do and whichever writes fail, the rows the
runner publishes are, in order, rows of some of the messages it writes (the prompt, then one for
every `assistant` or `user` event with content among the lines the scanner yields), each with the
message's type and marshalled payload and in the runner's conversation: nothing is published
twice, out of order, or without having been asked for. -/
theorem run_published_sublist (env : RunnerEnv) (store : Store) :
    List.Sublist ((publishedRows (run env store).2.effects).map rowColumns)
      ((runnerMessages env).map env.columns) ∧
    ∀ row ∈ publishedRows (run env store).2.effects, row.conversationID = env.conversationID := by
  by_cases hstart : env.Started
  · rw [run_of_started hstart]
    obtain ⟨a₁, hs₁, hc₁, he₁⟩ := createAndPublish_publishedRows env .user
      (promptMessage env.prompt) { store, effects := [.setAgentWorking true] }
    obtain ⟨a₂, hs₂, hc₂, he₂⟩ := foldl_runLine_publishedRows env
      (env.lines.takeWhile (·.fits)) (createAndPublish env .user (promptMessage env.prompt)
        { store, effects := [.setAgentWorking true] })
    simp only [RunnerEnv.afterOutput, publishedRows_append, he₂, he₁,
      publishedRows_setAgentWorking, List.nil_append, List.append_nil]
    refine ⟨?_, fun row hr => ?_⟩
    · rw [List.map_append, runnerMessages, List.map_cons]
      exact hs₁.append hs₂
    · rcases List.mem_append.1 hr with hr | hr
      exacts [hc₁ row hr, hc₂ row hr]
  · rw [run_of_not_started hstart]
    exact ⟨List.nil_sublist _, fun _ h => by cases h⟩

/-! ## A run in which nothing goes wrong -/

/-- A run in which no write can fail: the environment never fails, no other writer moves, the
conversation exists, and the ids `uuid.New()` draws are distinct and new to the store. -/
structure RunnerEnv.Undisturbed (env : RunnerEnv) (store : Store) : Prop where
  faults : ∀ k, env.faults k = none
  others : ∀ k, env.others k = []
  conversation : store.conversations.any (·.conversationID == env.conversationID) = true
  fresh : ∀ k, store.messages.any (·.messageID == env.messageIDs k) = false
  distinct : ∀ j k, env.messageIDs j = env.messageIDs k → j = k

/-- What an undisturbed run keeps: the store holds exactly the published rows beyond what it
held, each of the conversation and with an id drawn at an earlier access, and the publication
indices are the rows' sequence ids, consecutive from the conversation's next one. -/
structure Sequential (env : RunnerEnv) (store : Store) (st : RunnerState) : Prop where
  store_eq : st.store = { store with messages := store.messages ++ publishedRows st.effects }
  drawn : ∀ row ∈ publishedRows st.effects, ∃ j < st.access, row.messageID = env.messageIDs j
  conv : ∀ row ∈ publishedRows st.effects, row.conversationID = env.conversationID
  next : nextSequenceID st.store env.conversationID =
    nextSequenceID store env.conversationID + (publishedRows st.effects).length
  rows_seq : (publishedRows st.effects).map (·.sequenceID) = publishedIndices st.effects
  indices : publishedIndices st.effects =
    List.range' (nextSequenceID store env.conversationID) (publishedRows st.effects).length

section
variable {env : RunnerEnv} {store : Store} {st : RunnerState}

/-- In an undisturbed run the next write succeeds: the id it draws is new, since every stored
row of the run has an id drawn at an earlier access. -/
theorem Sequential.createMessage_eq (hu : env.Undisturbed store) (h : Sequential env store st)
    (type : MessageType) (msg : Message) :
    ∃ row, env.createMessage st.access type msg st.store =
      (.ok row, { st.store with messages := st.store.messages ++ [row] }) := by
  have hid : st.store.messages.any (·.messageID == env.messageIDs st.access) = false := by
    rw [h.store_eq, List.any_append, hu.fresh, Bool.false_or, List.any_eq_false]
    intro row hrow heq
    obtain ⟨j, hj, hrj⟩ := h.drawn row hrow
    have := hu.distinct _ _ (hrj.symm.trans (beq_iff_eq.1 heq))
    omega
  have hconv : st.store.conversations.any (·.conversationID == env.conversationID) = true := by
    rw [h.store_eq]
    exact hu.conversation
  rw [RunnerEnv.createMessage, hu.faults, hu.others]
  exact @createMessage_of_fresh _
    { conversationID := env.conversationID, type := type.text, llmData := some (env.marshal msg) }
    _ hid hconv

/-- In an undisturbed run every write succeeds: it stores and publishes the row of its message. -/
theorem Sequential.createAndPublish (hu : env.Undisturbed store) (h : Sequential env store st)
    (type : MessageType) (msg : Message) :
    Sequential env store (createAndPublish env type msg st) ∧
      (publishedRows (createAndPublish env type msg st).effects).map rowColumns =
        (publishedRows st.effects).map rowColumns ++ [env.columns (type, msg)] := by
  obtain ⟨row, hwrite'⟩ := h.createMessage_eq hu type msg
  obtain ⟨-, hc, htype, hdata, hseq, hmid⟩ :=
    RunnerEnv.createMessage_ok (congrArg Prod.fst hwrite')
  rw [hu.others, runCalls_nil] at hseq
  rcases createAndPublish_cases env type msg st with ⟨hne, -⟩ | ⟨row', conv, hok, heq⟩
  · exact absurd (congrArg Prod.fst hwrite') (hne row)
  rw [congrArg Prod.fst hwrite', Except.ok.injEq] at hok
  subst hok
  have hrows : publishedRows [.publish row.sequenceID ⟨[row], conv⟩] = [row] := rfl
  rw [heq, hwrite', hu.others]
  dsimp only
  rw [runCalls_nil]
  refine ⟨⟨?_, ?_, ?_, ?_, ?_, ?_⟩, ?_⟩ <;>
    simp only [publishedRows_append, hrows, publishedIndices_append, publishedIndices_publish]
  · rw [h.store_eq, List.append_assoc]
  · intro r hr
    rcases List.mem_append.1 hr with hr | hr
    · obtain ⟨j, hj, hrj⟩ := h.drawn r hr
      exact ⟨j, by omega, hrj⟩
    · rw [List.mem_singleton.1 hr]
      exact ⟨st.access, by omega, hmid⟩
  · intro r hr
    rcases List.mem_append.1 hr with hr | hr
    exacts [h.conv r hr, (List.mem_singleton.1 hr) ▸ hc]
  · show nextSequenceID { st.store with messages := st.store.messages ++ [row] } _ = _
    rw [← hc, nextSequenceID_append_next (hc ▸ hseq), hc, h.next, List.length_append,
      List.length_singleton, Nat.add_assoc]
  · rw [List.map_append, h.rows_seq]
    rfl
  · rw [h.indices, hseq, h.next, List.length_append, List.length_singleton, List.range'_concat,
      Nat.one_mul]
  · simp [rowColumns, RunnerEnv.columns, htype, hdata]

/-- In an undisturbed run the scan loop stores and publishes, in order, the message of every line
that asks for one. -/
theorem Sequential.foldl_runLine (hu : env.Undisturbed store) (lines : List OutputLine)
    (h : Sequential env store st) :
    Sequential env store (lines.foldl (runLine env) st) ∧
      (publishedRows (lines.foldl (runLine env) st).effects).map rowColumns =
        (publishedRows st.effects).map rowColumns ++
          (lines.filterMap fun line => (lineAction line).message?).map env.columns := by
  induction lines generalizing st with
  | nil => exact ⟨h, by simp⟩
  | cons line lines ih =>
    rw [List.foldl_cons, List.filterMap_cons]
    rcases hl : lineAction line with _ | ⟨type, msg⟩ | r
    · rw [runLine_skip hl]
      exact ih h
    · rw [runLine_store hl]
      obtain ⟨h₁, he₁⟩ := h.createAndPublish hu type msg
      obtain ⟨h₂, he₂⟩ := ih h₁
      exact ⟨h₂, by rw [he₂, he₁]; simp [LineAction.message?]⟩
    · rw [runLine_result hl]
      exact ih ⟨h.store_eq, h.drawn, h.conv, h.next, h.rows_seq, h.indices⟩

end

/-- **A run in which nothing goes wrong.** When the CLI starts, the environment never fails, no
other writer moves, the conversation exists and the drawn ids are distinct and new, the runner
stores exactly its messages (the prompt, then one for every `assistant` or `user` event with
content among the lines the scanner yields), in order and nothing else, publishes each of them,
and publishes them under consecutive sequence ids from the conversation's next one. -/
theorem run_sequential (env : RunnerEnv) (store : Store) (hstart : env.Started)
    (hu : env.Undisturbed store) :
    (publishedRows (run env store).2.effects).map rowColumns =
      (runnerMessages env).map env.columns ∧
    (run env store).2.store =
      { store with messages := store.messages ++ publishedRows (run env store).2.effects } ∧
    publishedIndices (run env store).2.effects =
      List.range' (nextSequenceID store env.conversationID) (runnerMessages env).length := by
  have h₀ : Sequential env store { store, effects := [.setAgentWorking true] } :=
    ⟨by simp, (fun _ h => by cases h), (fun _ h => by cases h), rfl, rfl, rfl⟩
  obtain ⟨h₁, he₁⟩ := h₀.createAndPublish hu .user (promptMessage env.prompt)
  obtain ⟨h₂, he₂⟩ := h₁.foldl_runLine hu (env.lines.takeWhile (·.fits))
  have hcols : (publishedRows (env.afterOutput store).effects).map rowColumns =
      (runnerMessages env).map env.columns := by
    rw [RunnerEnv.afterOutput, he₂, he₁]
    rfl
  rw [run_of_started hstart]
  simp only [publishedRows_append, publishedRows_setAgentWorking, List.append_nil,
    publishedIndices_append, publishedIndices_setAgentWorking]
  refine ⟨hcols, h₂.store_eq, ?_⟩
  rw [RunnerEnv.afterOutput] at hcols ⊢
  rw [h₂.indices, ← List.length_map _ rowColumns, hcols, List.length_map]

theorem run_sequential_sample :
    sampleEnv.Started ∧ sampleEnv.Undisturbed sampleStore ∧
    (publishedRows (run sampleEnv sampleStore).2.effects).map rowColumns =
      (runnerMessages sampleEnv).map sampleEnv.columns ∧
    (run sampleEnv sampleStore).2.store =
      { sampleStore with
        messages := sampleStore.messages ++ publishedRows (run sampleEnv sampleStore).2.effects } ∧
    publishedIndices (run sampleEnv sampleStore).2.effects =
      List.range' (nextSequenceID sampleStore sampleEnv.conversationID)
        (runnerMessages sampleEnv).length :=
  have hstart : sampleEnv.Started := ⟨rfl, rfl, rfl⟩
  have hu : sampleEnv.Undisturbed sampleStore :=
    ⟨fun _ => rfl, fun _ => rfl, by simp [sampleStore, sampleEnv], fun _ => rfl,
      fun j k h => by simpa [sampleEnv] using congrArg String.length h⟩
  ⟨hstart, hu, run_sequential sampleEnv sampleStore hstart hu⟩

end Shelley.Server.ClaudeCodeRunner
