import Shelley.Llm.Message

/-! # The sub-agent runner

`SubagentRunner.RunSubagent` hands a prompt to a sub-agent conversation and, with `wait`,
polls the manager's working flag every 500 ms; once the flag reads false it returns the text
of the conversation's latest stored message (`getLastAssistantResponse`).

The runner and the sub-agent's turn loop run concurrently. Each step of either is atomic:
a flag read or write under the manager's lock, a message stored by one write transaction.
A run is a schedule of those steps (`run`). The conversation manager is not part of this
repository's sources; what `RunSubagent` relies on is modelled from the specification:
`AcceptUserMessage` stores the user message and returns, and the turn loop, a separate
driver, sets the flag, stores the turn's messages and clears the flag (`TurnScript`).

A run also holds the runner's failures: a failed call before the wait
(`SubagentServer.setupError`), the runner's context done (`Sched.cancel`), a failed read of
the latest message (the fault of a `Sched.runner` step), and, modelled from the spec, the
registry evicting the manager, after which `isAgentWorking` finds no manager and reads false
(`Sched.evict`).

The flag is read once before the turn loop has set it (`runSubagent_first_poll`), and a
`gitinfo` message may be the latest message when the flag reads false
(`runSubagent_gitinfo_latest`). -/

namespace Shelley.Server
open Llm

/-- `db.MessageType`. -/
inductive MessageType where
  | user
  | agent
  | tool
  | system
  | error
  | gitinfo
deriving DecidableEq, Repr

/-- The text of a `db.MessageType`, as the `type` column stores it. -/
def MessageType.text : MessageType → String
  | .user => "user"
  | .agent => "agent"
  | .tool => "tool"
  | .system => "system"
  | .error => "error"
  | .gitinfo => "gitinfo"

/-- The `llm_data` column of a stored message: NULL, JSON that does not decode as an
`llm.Message` (with the decoder's error), or a message. -/
inductive LlmData where
  | null
  | invalid (err : String)
  | message (m : Message)

/-- A stored message, as `getLastAssistantResponse` reads it. -/
structure StoredMessage where
  type : MessageType
  llmData : LlmData

/-- The text `getLastAssistantResponse` takes from a message: its non-empty text blocks,
joined by newlines. -/
def responseText (m : Message) : String :=
  "\n".intercalate ((m.content.filter fun c => c.type == .text && c.text != "").map (·.text))

/-- The message `RunSubagent` sends: one text block holding the prompt. -/
def promptMessage (prompt : String) : Message :=
  { role := .user, content := [{ Content.ofType .text with text := prompt }] }

/-- What `waitForResponse` returns when the deadline has passed. -/
def timeoutText : String :=
  "Subagent is still working (timeout reached). Send another message to check status."

/-- The server as `RunSubagent` uses it before the wait: its default model, and what
`getOrCreateConversationManager`, `llmManager.GetService` (for a model id) and the manager's
`AcceptUserMessage` fail with, if they fail. -/
structure SubagentServer where
  defaultModel : String := ""
  predictableOnly : Bool := false
  managerError : Option String := none
  serviceError : String → Option String := fun _ => none
  acceptError : Option String := none

/-- The model `RunSubagent` asks the LLM manager for. -/
def SubagentServer.modelID (srv : SubagentServer) : String :=
  if srv.defaultModel = "" ∧ srv.predictableOnly then "predictable" else srv.defaultModel

/-- The error `RunSubagent` returns before the wait: the first of its three calls that fails. -/
def SubagentServer.setupError (srv : SubagentServer) : Option String :=
  match srv.managerError, srv.serviceError srv.modelID, srv.acceptError with
  | some err, _, _ => some ("failed to get conversation manager: " ++ err)
  | none, some err, _ => some ("failed to get LLM service: " ++ err)
  | none, none, some err => some ("failed to accept user message: " ++ err)
  | none, none, none => none

/-- Where the runner is: at the top of the polling loop, waiting `pollInterval`, or returned. -/
inductive RunnerPc where
  | poll
  | sleeping
  | returned (result : Except String String)

/-- One atomic step of the sub-agent's turn loop. -/
inductive LoopAction where
  | setWorking (b : Bool)
  | record (msg : StoredMessage)

/-- The stored messages of the sub-agent conversation, its manager's working flag, the turn
loop's remaining steps, whether `activeConversations` still holds the manager, `ctx.Err()` of
the runner's context once it is done, and the runner. -/
structure RunState where
  conversationID : String
  messages : List StoredMessage
  working : Bool
  loop : List LoopAction
  active : Bool
  ctxErr : Option String
  runner : RunnerPc

/-- Modelled from the spec: `ConversationManager.AcceptUserMessage`, which is not in this
repository's sources, "persists the user message ... and enqueues the message" to the turn
loop, and returns once the message is durable. The turn loop's steps are `turn`. -/
def acceptUserMessage (conversationID : String) (messages : List StoredMessage) (prompt : String)
    (working : Bool) (turn : List LoopAction) : RunState :=
  { conversationID
    messages := messages ++ [{ type := .user, llmData := .message (promptMessage prompt) }]
    working
    loop := turn
    active := true
    ctxErr := none
    runner := .poll }

/-- `RunSubagent`: a failed call before the wait returns its error; otherwise, after
`AcceptUserMessage`, the runner starts polling with `wait`, and returns at once without. -/
def runSubagent (srv : SubagentServer) (conversationID prompt : String) (wait : Bool)
    (messages : List StoredMessage) (working : Bool) (turn : List LoopAction) : RunState :=
  match srv.setupError with
  | some err =>
    { conversationID, messages, working, loop := [], active := true, ctxErr := none
      runner := .returned (.error err) }
  | none =>
    let s := acceptUserMessage conversationID messages prompt working turn
    if wait then s
    else { s with
      runner := .returned (.ok ("Subagent started processing. Conversation ID: " ++ conversationID)) }

/-- `DB.GetLatestMessage` for the sub-agent conversation: the latest stored message, the
`sql.ErrNoRows` case's error when there is none, or the error of a read that fails (`fault`). -/
def getLatestMessage (conversationID : String) (fault : Option String)
    (messages : List StoredMessage) : Except String StoredMessage :=
  match fault with
  | some err => .error err
  | none =>
    match messages.getLast? with
    | some msg => .ok msg
    | none => .error ("no messages found in conversation: " ++ conversationID)

/-- `getLastAssistantResponse`, given what `GetLatestMessage` returned. -/
def getLastAssistantResponse (latest : Except String StoredMessage) : Except String String :=
  match latest with
  | .error err => .error ("failed to get latest message: " ++ err)
  | .ok msg =>
    match msg.llmData with
    | .null => .ok ""
    | .invalid err => .error ("failed to parse message: " ++ err)
    | .message m => .ok (responseText m)

/-- `isAgentWorking`: the flag of the manager `activeConversations` holds, and `false` when it
holds none. Its error result is never taken. -/
def isAgentWorking (s : RunState) : Bool := s.active && s.working

/-- One pass of `waitForResponse`'s loop: the `ctx.Done()` check, the deadline check
(`expired`), `isAgentWorking`, and `getLastAssistantResponse` once the flag reads false, with
`fault` the error of its read, if it fails; then the wait of `pollInterval`, which a done
context ends. When the context is done and the timer has fired too, `select` may take the
timer; the check at the top of the loop then returns the same `ctx.Err()`. -/
def runnerStep (s : RunState) (expired : Bool) (fault : Option String) : RunState :=
  match s.runner, s.ctxErr with
  | .returned _, _ => s
  | _, some err => { s with runner := .returned (.error err) }
  | .poll, none =>
    if expired then { s with runner := .returned (.ok timeoutText) }
    else if isAgentWorking s then { s with runner := .sleeping }
    else { s with runner := .returned (getLastAssistantResponse
      (getLatestMessage s.conversationID fault s.messages)) }
  | .sleeping, none => { s with runner := .poll }

/-- Modelled from the spec: one step of the turn loop driver, which "sets `agentWorking=true`,
..., records every produced message via `recordMessage`, ..., then sets
`agentWorking=false`". -/
def loopStep (s : RunState) : RunState :=
  match s.loop with
  | [] => s
  | .setWorking b :: rest => { s with working := b, loop := rest }
  | .record msg :: rest => { s with messages := s.messages ++ [msg], loop := rest }

/-- The runner's context is cancelled or its deadline passes: `ctx.Err()` keeps its first
value. -/
def cancel (s : RunState) (err : String) : RunState :=
  match s.ctxErr with
  | some _ => s
  | none => { s with ctxErr := some err }

/-- Modelled from the spec: the registry's sweeper evicts the manager, which "cancels the turn
loop context": the loop records nothing more and clears the flag, and `activeConversations` no
longer holds the manager. -/
def evict (s : RunState) : RunState := { s with working := false, loop := [], active := false }

/-- Who moves next: the turn loop; the runner before its deadline, with the error its read of
the latest message fails with, if it reads and fails; the runner after its deadline; the
runner's context, done with an error; or the registry, evicting the manager. -/
inductive Sched where
  | loop
  | runner (fault : Option String)
  | runnerLate
  | cancel (err : String)
  | evict
deriving DecidableEq

/-- One scheduled step. -/
def step (s : RunState) : Sched → RunState
  | .loop => loopStep s
  | .runner fault => runnerStep s false fault
  | .runnerLate => runnerStep s true none
  | .cancel err => cancel s err
  | .evict => evict s

/-- A schedule of steps. -/
def run (s : RunState) (sched : List Sched) : RunState := sched.foldl step s

/-- Modelled from the spec: a turn as the driver runs it, started by the prompt: the flag
set, the turn's messages stored, the last an end-of-turn agent message `eot`, the flag
cleared, then `gitinfo` messages. -/
def TurnScript (body : List StoredMessage) (eot : Message) (gitinfos : List StoredMessage) :
    List LoopAction :=
  .setWorking true ::
    (body ++ [({ type := .agent, llmData := .message eot } : StoredMessage)]).map .record ++
    .setWorking false :: gitinfos.map .record

/-! ## What the runner returns -/

section
variable {s : RunState}

@[simp] theorem loopStep_runner : (loopStep s).runner = s.runner := by
  unfold loopStep; split <;> rfl

@[simp] theorem loopStep_active : (loopStep s).active = s.active := by
  unfold loopStep; split <;> rfl

@[simp] theorem loopStep_ctxErr : (loopStep s).ctxErr = s.ctxErr := by
  unfold loopStep; split <;> rfl

@[simp] theorem cancel_runner (err : String) : (cancel s err).runner = s.runner := by
  unfold cancel; split <;> rfl

/-- A runner that has returned stays returned, whatever moves next. -/
theorem run_runner_of_returned {r : Except String String} (h : s.runner = .returned r)
    (sched : List Sched) : (run s sched).runner = .returned r := by
  induction sched generalizing s with
  | nil => exact h
  | cons c cs ih =>
    apply ih
    cases c <;> simp [step, runnerStep, evict, h]

end

theorem responseText_promptMessage (prompt : String) :
    responseText (promptMessage prompt) = if prompt = "" then "" else prompt := by
  by_cases h : prompt = "" <;> simp [responseText, promptMessage, Content.ofType, h] <;> rfl

/-- When the runner's first poll comes before the turn loop's first step, the flag still
reads false and the latest message is the prompt: `RunSubagent` returns the prompt. -/
theorem runSubagent_first_poll (conversationID prompt : String) (messages : List StoredMessage)
    (body : List StoredMessage) (eot : Message) (gitinfos : List StoredMessage) :
    (run (runSubagent {} conversationID prompt true messages false (TurnScript body eot gitinfos))
      [.runner none]).runner = .returned (.ok (if prompt = "" then "" else prompt)) := by
  simp [run, step, runnerStep, runSubagent, SubagentServer.setupError, acceptUserMessage,
    isAgentWorking, getLatestMessage, getLastAssistantResponse, responseText_promptMessage]

/-- When the runner polls after the turn loop has stored a `gitinfo` message behind the
end-of-turn message, the latest message has no `llm_data` and `RunSubagent` returns `""`. -/
theorem runSubagent_gitinfo_latest (conversationID prompt : String)
    (messages : List StoredMessage) (eot : Message) :
    (run (runSubagent {} conversationID prompt true messages false
        (TurnScript [] eot [{ type := .gitinfo, llmData := .null }]))
      [.loop, .loop, .loop, .loop, .runner none]).runner = .returned (.ok "") := by
  simp [run, step, loopStep, runnerStep, runSubagent, SubagentServer.setupError,
    acceptUserMessage, TurnScript, isAgentWorking, getLatestMessage, getLastAssistantResponse]

/-! ## When the loop moves first

If the turn loop sets the flag before the runner's first poll, no `gitinfo` message follows
the turn and the manager is not evicted, the flag reads false only once the end-of-turn
message is the latest, and the runner returns its text, the timeout notice, or an error that
a step of the run produced. -/

/-- The errors a run of `RunSubagent` under `sched` can end with: a failed call before the
wait, the error of the runner's done context, or a failed read of the latest message. -/
def RunError (srv : SubagentServer) (sched : List Sched) (err : String) : Prop :=
  srv.setupError = some err ∨ Sched.cancel err ∈ sched ∨
    ∃ fault, Sched.runner (some fault) ∈ sched ∧ err = "failed to get latest message: " ++ fault

/-- The state of a run once the loop has set the flag, for a turn ending with `eot`: the
manager stays active; the flag stays set while records remain, and the end-of-turn message is
the last of them or already the latest stored; afterwards the flag is clear, the loop done,
and `eot` the latest. The context's error and the runner's result are among `errs`, the
timeout notice and `eot`'s text. -/
structure Settled (eot : Message) (errs : String → Prop) (s : RunState) : Prop where
  active : s.active = true
  loop : (s.working = true ∧ ∃ rs : List StoredMessage,
      s.loop = rs.map .record ++ [.setWorking false] ∧
      (rs.getLast? = some { type := .agent, llmData := .message eot } ∨
        rs = [] ∧ s.messages.getLast? = some { type := .agent, llmData := .message eot })) ∨
    (s.working = false ∧ s.loop = [] ∧
      s.messages.getLast? = some { type := .agent, llmData := .message eot })
  ctx : ∀ err, s.ctxErr = some err → errs err
  runner : ∀ r, s.runner = .returned r →
    r = .ok timeoutText ∨ r = .ok (responseText eot) ∨ ∃ err, r = .error err ∧ errs err

section
variable {eot : Message} {errs : String → Prop} {s : RunState}

theorem Settled.loopStep (h : Settled eot errs s) : Settled eot errs (loopStep s) := by
  obtain ⟨ha, hl, hc, hr⟩ := h
  refine ⟨by simpa using ha, ?_, by simpa using hc, by simpa using hr⟩
  rcases hl with ⟨hw, rs, hloop, hlast⟩ | ⟨hw, hloop, hlast⟩
  · rcases rs with _ | ⟨r, rs⟩
    · simp only [List.map_nil, List.nil_append] at hloop
      simp only [List.getLast?_nil, reduceCtorEq, false_or, true_and] at hlast
      exact .inr ⟨by simp [Shelley.Server.loopStep, hloop],
        by simp [Shelley.Server.loopStep, hloop], by simp [Shelley.Server.loopStep, hloop, hlast]⟩
    · simp only [List.map_cons, List.cons_append] at hloop
      refine .inl ⟨by simp [Shelley.Server.loopStep, hloop, hw], rs,
        by simp [Shelley.Server.loopStep, hloop], ?_⟩
      rcases rs with _ | ⟨r', rs'⟩
      · have hr' : r = { type := .agent, llmData := .message eot } := by simpa using hlast
        exact .inr ⟨rfl, by simp [Shelley.Server.loopStep, hloop, hr']⟩
      · exact .inl (by simpa using hlast)
  · exact .inr (by simp [Shelley.Server.loopStep, hloop, hw, hlast])

/-- A poll reads the flag false only once `eot` is the latest message: it returns `eot`'s
text, or the error of its failed read. -/
theorem Settled.runnerStep (h : Settled eot errs s) (expired : Bool) (fault : Option String)
    (hfault : ∀ f, fault = some f → errs ("failed to get latest message: " ++ f)) :
    Settled eot errs (runnerStep s expired fault) := by
  obtain ⟨ha, hl, hc, hr⟩ := h
  unfold Shelley.Server.runnerStep
  split
  · exact ⟨ha, hl, hc, hr⟩
  · exact ⟨ha, hl, hc, fun r hr' => by cases hr'; exact .inr (.inr ⟨_, rfl, hc _ ‹_›⟩)⟩
  · split_ifs with he hw
    · exact ⟨ha, hl, hc, by simp⟩
    · exact ⟨ha, hl, hc, by simp⟩
    · refine ⟨ha, hl, hc, ?_⟩
      rcases hl with ⟨hw', -⟩ | ⟨-, -, hlast⟩
      · simp [isAgentWorking, ha, hw'] at hw
      · cases fault with
        | none => simp [getLatestMessage, hlast, getLastAssistantResponse]
        | some f =>
          simpa [getLatestMessage, getLastAssistantResponse] using hfault f rfl
  · exact ⟨ha, hl, hc, by simp⟩

theorem Settled.cancel (h : Settled eot errs s) {err : String} (herr : errs err) :
    Settled eot errs (cancel s err) := by
  unfold Shelley.Server.cancel
  split
  · exact h
  · exact ⟨h.active, h.loop, fun e he => by cases he; exact herr, h.runner⟩

/-- **Step.** Every step but an eviction keeps `Settled`, when the errors it may bring are
among `errs`. -/
theorem Settled.step (h : Settled eot errs s) (c : Sched) (hc : c ≠ .evict)
    (hcancel : ∀ err, c = .cancel err → errs err)
    (hfault : ∀ f, c = .runner (some f) → errs ("failed to get latest message: " ++ f)) :
    Settled eot errs (step s c) := by
  cases c with
  | loop => exact h.loopStep
  | runner fault => exact h.runnerStep false fault fun f hf => hfault f (by rw [hf])
  | runnerLate => exact h.runnerStep true none fun _ hf => by cases hf
  | cancel err => exact h.cancel (hcancel err rfl)
  | evict => exact absurd rfl hc

/-- **Run.** So does every schedule of such steps. -/
theorem Settled.run (h : Settled eot errs s) (sched : List Sched)
    (hs : ∀ c ∈ sched, c ≠ .evict ∧ (∀ err, c = .cancel err → errs err) ∧
      ∀ f, c = .runner (some f) → errs ("failed to get latest message: " ++ f)) :
    Settled eot errs (run s sched) := by
  induction sched generalizing s with
  | nil => exact h
  | cons c cs ih =>
    obtain ⟨hc, hcancel, hfault⟩ := hs c (List.mem_cons_self c cs)
    exact ih (h.step c hc hcancel hfault) fun c' hc' => hs c' (List.mem_cons_of_mem c hc')

end

/-- If the turn loop's first step comes before the runner's first poll, no `gitinfo` message
follows the turn and the registry does not evict the manager, then whatever the schedule after
it, `RunSubagent` returns the text of the end-of-turn message, the timeout notice, or an error
of a step of the run: a failed call before the wait, the done context, or a failed read of the
latest message. -/
theorem runSubagent_of_loop_first (srv : SubagentServer) (conversationID prompt : String)
    (messages body : List StoredMessage) (eot : Message) (sched : List Sched)
    (r : Except String String) (hevict : Sched.evict ∉ sched)
    (h : (run (runSubagent srv conversationID prompt true messages false (TurnScript body eot []))
      (.loop :: sched)).runner = .returned r) :
    r = .ok timeoutText ∨ r = .ok (responseText eot) ∨
      ∃ err, r = .error err ∧ RunError srv sched err := by
  cases hset : srv.setupError with
  | some err =>
    have h₀ : (runSubagent srv conversationID prompt true messages false
        (TurnScript body eot [])).runner = .returned (.error err) := by
      simp [runSubagent, hset]
    rw [run_runner_of_returned h₀] at h
    cases h
    exact .inr (.inr ⟨err, rfl, .inl hset⟩)
  | none =>
    have h₀ : Settled eot (RunError srv sched) (step (runSubagent srv conversationID prompt true
        messages false (TurnScript body eot [])) .loop) := by
      refine ⟨?_, .inl ⟨?_, body ++ [{ type := .agent, llmData := .message eot }], ?_, by simp⟩,
        ?_, ?_⟩ <;> simp [step, loopStep, runSubagent, hset, acceptUserMessage, TurnScript]
    exact (h₀.run sched fun c hc => ⟨fun he => hevict (he ▸ hc),
      fun err he => .inr (.inl (he ▸ hc)), fun f hf => .inr (.inr ⟨f, hf ▸ hc, rfl⟩)⟩).runner r h

/-- The caller's context is cancelled while the runner waits for the turn. -/
theorem runSubagent_of_loop_first_cancelled :
    Sched.evict ∉ [.loop, .runner none, .cancel "context canceled", .runner none] ∧
    (run (runSubagent {} "c1" "check" true [] false (TurnScript [] (promptMessage "done") []))
        [.loop, .loop, .runner none, .cancel "context canceled", .runner none]).runner =
      .returned (.error "context canceled") ∧
    ((.error "context canceled" : Except String String) = .ok timeoutText ∨
      (.error "context canceled" : Except String String) =
        .ok (responseText (promptMessage "done")) ∨
      ∃ err, (.error "context canceled" : Except String String) = .error err ∧
        RunError {} [.loop, .runner none, .cancel "context canceled", .runner none] err) :=
  have h : (run (runSubagent {} "c1" "check" true [] false (TurnScript [] (promptMessage "done") []))
      [.loop, .loop, .runner none, .cancel "context canceled", .runner none]).runner =
      .returned (.error "context canceled") := rfl
  ⟨by decide, h, runSubagent_of_loop_first {} "c1" "check" [] [] (promptMessage "done")
    [.loop, .runner none, .cancel "context canceled", .runner none] _ (by decide) h⟩

end Shelley.Server
