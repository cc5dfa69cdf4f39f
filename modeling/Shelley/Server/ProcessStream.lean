import Shelley.Go.Basic
import Shelley.Server.StreamEvent
import Shelley.Server.Slug

/-! # `claudeCodeLoop.processStream`

The stream adapter of `server/claudecode_loop.go`, translated closure by closure. Its local
variables (`currentAssistantMsg`, `currentUserMsg`, `currentMsgID`, `taskInputs`,
`subagentSessions`) and the loop's `l.history` form a `StreamState`; every call it makes on
a manager is appended to `StreamState.effects`, in the order the code makes them. A session
is a pointer in Go: here it is a value, written back into the map after each change.

The deferred cleanup ranges over the `subagentSessions` map, whose order Go leaves
unspecified; the model closes the sessions in the order they were opened. Each session has
its own manager, so the calls that reach one manager do not depend on that order. -/

namespace Shelley.Server
open Llm

/-- `ccTaskInput`: the fields of a `Task` tool input that the bridge needs. -/
structure CcTaskInput where
  description : String := ""
  prompt : String := ""
  subagentType : String := ""

/-- A conversation manager that `ccSubagentBridge` returned, named by `id`.
`recordMessage` says whether its `recordMessage` callback is non-nil. -/
structure ChildManager where
  id : Nat
  recordMessage : Bool
deriving DecidableEq, Repr

/-- The manager a message is recorded to: the loop's own, or a sub-agent's. -/
inductive Target where
  | parent
  | child (m : ChildManager)
deriving DecidableEq, Repr

/-- The arguments of `ccSubagentBridge(ctx, slug, parentID, cwd)`; the slug is a Go string,
its bytes. -/
structure BridgeRequest where
  slug : List UInt8
  parentID : String
  cwd : String

/-- A call that `processStream` makes on a manager or on the bridge. -/
inductive Effect where
  | record (target : Target) (msg : Message)
  | setAgentWorking (m : ChildManager) (working : Bool)
  | bridgeCall (parentToolUseID : String) (req : BridgeRequest)

/-- What `processStream` reads besides the stream: the fields of `l.cm`, and
`json.Unmarshal` of a `Task` input into a `ccTaskInput`. The bridge may keep state, so it
also receives the number of its earlier calls; `none` is an error return. -/
structure StreamEnv where
  conversationID : String
  cwd : String
  recordMessage : Bool
  ccSubagentBridge : Option (Nat → BridgeRequest → Option ChildManager)
  unmarshalTaskInput : String → CcTaskInput

/-- `ccSubagentSession`. -/
structure CcSubagentSession where
  manager : ChildManager
  lastMsgID : String := ""
  pendingAssistant : Option Message := none
  pendingUser : Option Message := none

/-- The variables of `processStream`, the loop's `history`, and the effects made so far. -/
structure StreamState where
  currentAssistantMsg : Option Message := none
  currentUserMsg : Option Message := none
  currentMsgID : String := ""
  taskInputs : String → Option CcTaskInput := fun _ => none
  subagentSessions : List (String × CcSubagentSession) := []
  bridgeCalls : Nat := 0
  history : List Message := []
  effects : List Effect := []

/-- A call of a `recordMessage` callback, made only when the callback is non-nil. -/
def recordIf (present : Bool) (target : Target) (msg : Message) : List Effect :=
  if present then [.record target msg] else []

/-- `msg.EndOfTurn = !hasToolUse`, as both assistant flushes set it. -/
def markEndOfTurn (msg : Message) : Message := { msg with endOfTurn := !hasToolUse msg.content }

/-- The `append` of content blocks to an open message. -/
def appendContent (msg : Message) (cs : List Content) : Message :=
  { msg with content := msg.content ++ cs }

/-! ## The sub-agent sessions -/

/-- `flushSubagentAssistant`. -/
def flushSubagentAssistant (sa : CcSubagentSession) : CcSubagentSession × List Effect :=
  match sa.pendingAssistant with
  | none => (sa, [])
  | some msg =>
    ({ sa with pendingAssistant := none },
      recordIf sa.manager.recordMessage (.child sa.manager) (markEndOfTurn msg))

/-- `flushSubagentUser`. -/
def flushSubagentUser (sa : CcSubagentSession) : CcSubagentSession × List Effect :=
  match sa.pendingUser with
  | none => (sa, [])
  | some msg =>
    ({ sa with pendingUser := none }, recordIf sa.manager.recordMessage (.child sa.manager) msg)

/-- `flushSubagentAssistant(sa); flushSubagentUser(sa)`. -/
def flushSubagent (sa : CcSubagentSession) : CcSubagentSession × List Effect :=
  ((flushSubagentUser (flushSubagentAssistant sa).1).1,
    (flushSubagentAssistant sa).2 ++ (flushSubagentUser (flushSubagentAssistant sa).1).2)

/-- The two flushes followed by `sa.manager.SetAgentWorking(false)`: what both the
completion marker and the deferred cleanup do to a session. -/
def closeSession (sa : CcSubagentSession) : CcSubagentSession × List Effect :=
  ((flushSubagent sa).1, (flushSubagent sa).2 ++ [.setAgentWorking sa.manager false])

/-- The assistant branch of the sub-agent routing. -/
def routeSubagentAssistant (sa : CcSubagentSession) (ev : SubagentStreamEvent) :
    CcSubagentSession × List Effect :=
  let opened : CcSubagentSession × List Effect :=
    if ev.message.id ≠ sa.lastMsgID ∨ sa.pendingAssistant.isNone then
      ({ (flushSubagent sa).1 with
          lastMsgID := ev.message.id
          pendingAssistant := some { role := .assistant } },
        (flushSubagent sa).2)
    else (sa, [])
  ({ opened.1 with
      pendingAssistant := opened.1.pendingAssistant.map
        (appendContent · (ev.message.content.filterMap assistantContent)) },
    opened.2)

/-- The user branch of the sub-agent routing. -/
def routeSubagentUser (sa : CcSubagentSession) (ev : SubagentStreamEvent) :
    CcSubagentSession × List Effect :=
  let flushed := flushSubagentAssistant sa
  ({ flushed.1 with
      pendingUser := some (appendContent (flushed.1.pendingUser.getD { role := .user })
        (ev.message.content.filterMap subagentUserContent)) },
    flushed.2)

/-- The routing of a sub-agent event to its session, by the event's type. -/
def routeSubagent (typ : String) (sa : CcSubagentSession) (ev : SubagentStreamEvent) :
    CcSubagentSession × List Effect :=
  if typ = "assistant" then routeSubagentAssistant sa ev else routeSubagentUser sa ev

/-- `subagentSessions[key] = sa` for a key already in the map. -/
def setSession (key : String) (sa : CcSubagentSession) :
    List (String × CcSubagentSession) → List (String × CcSubagentSession) :=
  List.map fun p => if p.1 = key then (key, sa) else p

/-- An operation on the session of `key`: its calls are made, and the session it leaves is
the one the map holds, as the Go code's shared pointer has it. -/
def updateSession (s : StreamState) (key : String) (r : CcSubagentSession × List Effect) :
    StreamState :=
  { s with
    effects := s.effects ++ r.2
    subagentSessions := setSession key r.1 s.subagentSessions }

section
variable (s : StreamState) (key : String) (r : CcSubagentSession × List Effect)

@[simp] theorem updateSession_effects : (updateSession s key r).effects = s.effects ++ r.2 := rfl

@[simp] theorem updateSession_subagentSessions :
    (updateSession s key r).subagentSessions = setSession key r.1 s.subagentSessions := rfl

@[simp] theorem updateSession_taskInputs : (updateSession s key r).taskInputs = s.taskInputs := rfl

@[simp] theorem updateSession_bridgeCalls : (updateSession s key r).bridgeCalls = s.bridgeCalls :=
  rfl

end

/-- The slug `getOrCreateSubagentSession` asks for: the description's slug, or the first
12 bytes of the tool-use id when that slug is empty (`slug[:12]` may cut a character). -/
def subagentSlug (parentToolUseID : String) (input : CcTaskInput) : List UInt8 :=
  if ccDescriptionToSlug input.description = "" then (Go.lit parentToolUseID).take 12
  else Go.lit (ccDescriptionToSlug input.description)

section
variable (env : StreamEnv)

/-- `getOrCreateSubagentSession`: the session of a key, created through the bridge the first
time the key's `Task` input is known. -/
def getOrCreateSubagentSession (s : StreamState) (key : String) :
    Option CcSubagentSession × StreamState :=
  match env.ccSubagentBridge, s.subagentSessions.lookup key, s.taskInputs key with
  | none, _, _ => (none, s)
  | some _, some sa, _ => (some sa, s)
  | some _, none, none => (none, s)
  | some bridge, none, some input =>
    let req : BridgeRequest :=
      { slug := subagentSlug key input, parentID := env.conversationID, cwd := env.cwd }
    match bridge s.bridgeCalls req with
    | none =>
      (none, { s with
        bridgeCalls := s.bridgeCalls + 1
        effects := s.effects ++ [.bridgeCall key req] })
    | some m =>
      (some { manager := m }, { s with
        bridgeCalls := s.bridgeCalls + 1
        effects := s.effects ++ [.bridgeCall key req, .setAgentWorking m true]
        subagentSessions := s.subagentSessions ++ [(key, { manager := m })] })

/-- An event with a non-empty `parent_tool_use_id`: routed to its session, if there is one. -/
def routeSubagentEvent (s : StreamState) (typ : String) (ev : SubagentStreamEvent) :
    StreamState :=
  match getOrCreateSubagentSession env s ev.parentToolUseID with
  | (none, s) => s
  | (some sa, s) => updateSession s ev.parentToolUseID (routeSubagent typ sa ev)

/-- `taskInputs[c.ID] = input` for each `Task` tool_use block of a top-level assistant event. -/
def trackTaskInputs (s : StreamState) (ev : SubagentStreamEvent) : StreamState :=
  { s with
    taskInputs := ev.message.content.foldl (fun ti c =>
      if c.type = "tool_use" ∧ c.name = "Task" then
        fun k => if k = c.id then some (env.unmarshalTaskInput c.input) else ti k
      else ti) s.taskInputs }

end

/-- The completion marker: each `tool_result` block of a top-level user event with
`tool_use_result` closes the session of its `tool_use_id`. -/
def completeSubagents (s : StreamState) (ev : SubagentStreamEvent) : StreamState :=
  ev.message.content.foldl (fun s c =>
    if c.type = "tool_result" then
      match s.subagentSessions.lookup c.toolUseID with
      | some sa => updateSession s c.toolUseID (closeSession sa)
      | none => s
    else s) s

/-! ## The main conversation -/

section
variable (env : StreamEnv)

/-- `flushAssistant`. -/
def flushAssistant (s : StreamState) : StreamState :=
  match s.currentAssistantMsg with
  | none => s
  | some msg =>
    { s with
      effects := s.effects ++ recordIf env.recordMessage .parent (markEndOfTurn msg)
      history := s.history ++ [markEndOfTurn msg]
      currentAssistantMsg := none }

/-- `flushUser`. -/
def flushUser (s : StreamState) : StreamState :=
  match s.currentUserMsg with
  | none => s
  | some msg =>
    { s with
      effects := s.effects ++ recordIf env.recordMessage .parent msg
      history := s.history ++ [msg]
      currentUserMsg := none }

variable {env} (s : StreamState)

@[simp] theorem flushAssistant_currentAssistantMsg :
    (flushAssistant env s).currentAssistantMsg = none := by
  unfold flushAssistant; split <;> simp_all

@[simp] theorem flushAssistant_currentUserMsg :
    (flushAssistant env s).currentUserMsg = s.currentUserMsg := by
  unfold flushAssistant; split <;> rfl

@[simp] theorem flushAssistant_currentMsgID :
    (flushAssistant env s).currentMsgID = s.currentMsgID := by
  unfold flushAssistant; split <;> rfl

@[simp] theorem flushAssistant_subagentSessions :
    (flushAssistant env s).subagentSessions = s.subagentSessions := by
  unfold flushAssistant; split <;> rfl

@[simp] theorem flushAssistant_taskInputs : (flushAssistant env s).taskInputs = s.taskInputs := by
  unfold flushAssistant; split <;> rfl

@[simp] theorem flushAssistant_bridgeCalls : (flushAssistant env s).bridgeCalls = s.bridgeCalls := by
  unfold flushAssistant; split <;> rfl

@[simp] theorem flushAssistant_effects : (flushAssistant env s).effects =
    s.effects ++ s.currentAssistantMsg.toList.flatMap
      (recordIf env.recordMessage .parent ∘ markEndOfTurn) := by
  unfold flushAssistant; split <;> simp_all

@[simp] theorem flushAssistant_history :
    (flushAssistant env s).history = s.history ++ s.currentAssistantMsg.toList.map markEndOfTurn := by
  unfold flushAssistant; split <;> simp_all

@[simp] theorem flushUser_currentAssistantMsg :
    (flushUser env s).currentAssistantMsg = s.currentAssistantMsg := by
  unfold flushUser; split <;> rfl

@[simp] theorem flushUser_currentUserMsg : (flushUser env s).currentUserMsg = none := by
  unfold flushUser; split <;> simp_all

@[simp] theorem flushUser_currentMsgID : (flushUser env s).currentMsgID = s.currentMsgID := by
  unfold flushUser; split <;> rfl

@[simp] theorem flushUser_subagentSessions :
    (flushUser env s).subagentSessions = s.subagentSessions := by
  unfold flushUser; split <;> rfl

@[simp] theorem flushUser_taskInputs : (flushUser env s).taskInputs = s.taskInputs := by
  unfold flushUser; split <;> rfl

@[simp] theorem flushUser_bridgeCalls : (flushUser env s).bridgeCalls = s.bridgeCalls := by
  unfold flushUser; split <;> rfl

@[simp] theorem flushUser_effects : (flushUser env s).effects =
    s.effects ++ s.currentUserMsg.toList.flatMap (recordIf env.recordMessage .parent) := by
  unfold flushUser; split <;> simp_all

@[simp] theorem flushUser_history :
    (flushUser env s).history = s.history ++ s.currentUserMsg.toList := by
  unfold flushUser; split <;> simp_all

variable (env) {s}

/-- A top-level assistant event: a new message when the id changes or none is open. -/
def handleAssistant (s : StreamState) (ev : SubagentStreamEvent) : StreamState :=
  let opened : StreamState :=
    if ev.message.id ≠ s.currentMsgID ∨ s.currentAssistantMsg.isNone then
      { flushUser env (flushAssistant env s) with
          currentMsgID := ev.message.id
          currentAssistantMsg := some { role := .assistant } }
    else s
  { opened with
    currentAssistantMsg := opened.currentAssistantMsg.map
      (appendContent · (ev.message.content.filterMap assistantContent)) }

/-- A top-level user event: it closes the assistant message and extends the user message. -/
def handleUser (s : StreamState) (ev : SubagentStreamEvent) : StreamState :=
  { flushAssistant env s with
    currentUserMsg := some (appendContent
      ((flushAssistant env s).currentUserMsg.getD { role := .user })
      (ev.message.content.filterMap userContent)) }

/-- The guard `|| currentAssistantMsg == nil` leaves a message open for every top-level
assistant event: after the branch, the current message ends with the event's blocks. -/
theorem handleAssistant_open (s : StreamState) (ev : SubagentStreamEvent) :
    ∃ msg, (handleAssistant env s ev).currentAssistantMsg = some msg ∧
      ev.message.content.filterMap assistantContent <:+ msg.content := by
  unfold handleAssistant
  split
  · exact ⟨_, rfl, List.suffix_append _ _⟩
  · rename_i h
    cases hs : s.currentAssistantMsg with
    | none => exact absurd (.inr (by rw [hs]; rfl)) h
    | some msg =>
      exact ⟨appendContent msg _, by simp only [hs, Option.map_some'], List.suffix_append _ _⟩

/-- The body of the scan loop for a decoded `assistant` or `user` event. -/
def processEvent (s : StreamState) (typ : String) (ev : SubagentStreamEvent) : StreamState :=
  let s := if typ = "assistant" ∧ ev.parentToolUseID = "" then trackTaskInputs env s ev else s
  let s := if typ = "user" ∧ ev.parentToolUseID = "" ∧ ev.toolUseResult = true then
    completeSubagents s ev else s
  if ev.parentToolUseID ≠ "" then routeSubagentEvent env s typ ev
  else if typ = "assistant" then handleAssistant env s ev
  else handleUser env s ev

/-- The body of the scan loop: empty, malformed and other lines are skipped. -/
def processLine (s : StreamState) (line : Line) : StreamState :=
  if line.size = 0 then s else
  match line.json with
  | .notObject => s
  | .object typ ev =>
    if typ = "assistant" ∨ typ = "user" then
      match ev with
      | none => s
      | some ev => processEvent env s typ ev
    else s

/-- The deferred cleanup: the two main flushes, then every session closed. -/
def finish (s : StreamState) : StreamState :=
  { flushUser env (flushAssistant env s) with
    effects := (flushUser env (flushAssistant env s)).effects ++
      s.subagentSessions.flatMap fun p => (closeSession p.2).2 }

/-- What `processStream` leaves behind: the loop's history, the effects, the sessions, and
the error it returns. -/
structure StreamResult where
  history : List Message
  effects : List Effect
  subagentSessions : List (String × CcSubagentSession)
  err : Option ScanError

/-- `processStream`, started with the loop's history `history`. -/
def processStream (history : List Message) (lines : List Line) : StreamResult :=
  let s := finish env ((scanLines lines).1.foldl (processLine env) { history })
  { history := s.history
    effects := s.effects
    subagentSessions := s.subagentSessions
    err := (scanLines lines).2 }

end

end Shelley.Server
