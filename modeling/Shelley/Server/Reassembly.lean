import Shelley.Server.ProcessStream
import Mathlib.Data.List.SplitBy

/-! # Reassembly of the main conversation

What `processStream` records to its own manager, compared with a reference written from the
stream alone: keep the top-level `assistant` and `user` events, cut them into maximal runs
(consecutive user events; consecutive assistant events with one message id) with core's
`List.splitBy`, and make one message of each run (`reassemble`).

The proof is a simulation. `Pending s ag g gs` says that the recorded messages and the open
message of `s` are those of the state `(ag, g, gs)` of `List.splitBy.loop`: at most one of
`currentAssistantMsg` and `currentUserMsg` is open, and it holds the blocks of the current
run. Lines that are not top-level events leave every field it reads alone (`SameMain`), and
a top-level event moves it as the loop moves (`Pending.step`).

The same frame lemmas show that the loop's history is, at every line, the history it started
from followed by the records (`HistoryInSync`), for any stream. -/

namespace Shelley.Server
open Llm

/-! ## The reference -/

/-- The two event types the adapter reassembles. -/
inductive EventKind where
  | assistant
  | user
deriving DecidableEq, Repr

/-- A decoded top-level event. -/
structure TopEvent where
  kind : EventKind
  event : SubagentStreamEvent

/-- The top-level event of a line: an object of type `assistant` or `user` that decodes as
an event with an empty `parent_tool_use_id`. -/
def topLevelEvent (line : Line) : Option TopEvent :=
  match line.json with
  | .object typ (some ev) =>
    if ev.parentToolUseID = "" then
      if typ = "assistant" then some ⟨.assistant, ev⟩
      else if typ = "user" then some ⟨.user, ev⟩
      else none
    else none
  | _ => none

/-- Consecutive events of one message: two user events, or two assistant events with one
message id. -/
def sameMessage (a b : TopEvent) : Bool :=
  match a.kind, b.kind with
  | .user, .user => true
  | .assistant, .assistant => a.event.message.id == b.event.message.id
  | _, _ => false

/-- A block of the stream as a message holds it: an `llm.Content` of the block's type with
that type's fields, a `tool_result` block's content converted by `parseToolResultContent`;
`none` for a type that makes no content. -/
def blockOf (c : CcContentBlock) : Option Content :=
  if c.type = "text" then some { Content.ofType .text with text := c.text }
  else if c.type = "thinking" then some { Content.ofType .thinking with thinking := c.thinking }
  else if c.type = "tool_use" then
    some { Content.ofType .toolUse with id := c.id, toolName := c.name, toolInput := c.input }
  else if c.type = "tool_result" then
    some { Content.ofType .toolResult with
      toolUseID := c.toolUseID
      toolResult := parseToolResultContent c.content
      toolError := c.isError }
  else none

/-- The blocks of the listed types, in order. -/
def blocksOfTypes (types : List String) (cs : List CcContentBlock) : List Content :=
  (cs.filter (·.type ∈ types)).filterMap blockOf

/-- The blocks an event contributes: text, thinking and tool_use blocks of an assistant
event, tool_result blocks of a user event. -/
def TopEvent.blocks (e : TopEvent) : List Content :=
  match e.kind with
  | .assistant => blocksOfTypes ["text", "thinking", "tool_use"] e.event.message.content
  | .user => blocksOfTypes ["tool_result"] e.event.message.content

/-- Whether an event carries a `tool_use` block. -/
def TopEvent.hasToolUseBlock (e : TopEvent) : Bool :=
  e.event.message.content.any (·.type == "tool_use")

/-- The message of a run: its blocks in order, and for an assistant run `EndOfTurn` exactly
when no event of the run has a `tool_use` block. -/
def runMessage (run : List TopEvent) : Message :=
  match run.head?.map TopEvent.kind with
  | some .user => { role := .user, content := run.flatMap TopEvent.blocks }
  | _ => { role := .assistant, content := run.flatMap TopEvent.blocks,
           endOfTurn := !run.any TopEvent.hasToolUseBlock }

/-- The reference reassembly of a stream's top-level events. -/
def reassemble (lines : List Line) : List Message :=
  ((lines.filterMap topLevelEvent).splitBy sameMessage).map runMessage

/-! ### The code's converters keep the listed blocks -/

/-- A converter that keeps the blocks of `types`, each as `blockOf` makes it, is
`blocksOfTypes types`. -/
theorem filterMap_eq_blocksOfTypes {f : CcContentBlock → Option Content} {types : List String}
    (hf : ∀ c, f c = if c.type ∈ types then blockOf c else none) (cs : List CcContentBlock) :
    cs.filterMap f = blocksOfTypes types cs := by
  induction cs with
  | nil => rfl
  | cons c cs ih =>
    rw [List.filterMap_cons, hf, ih]
    by_cases h : c.type ∈ types <;> simp [blocksOfTypes, List.filter_cons, List.filterMap_cons, h]

theorem assistantContent_eq_blockOf (c : CcContentBlock) :
    assistantContent c = if c.type ∈ ["text", "thinking", "tool_use"] then blockOf c else none := by
  unfold assistantContent blockOf
  by_cases h₁ : c.type = "text" <;> by_cases h₂ : c.type = "thinking" <;>
    by_cases h₃ : c.type = "tool_use" <;> simp [h₁, h₂, h₃]

theorem userContent_eq_blockOf (c : CcContentBlock) :
    userContent c = if c.type ∈ ["tool_result"] then blockOf c else none := by
  unfold userContent blockOf toolResultContent
  by_cases h : c.type = "tool_result" <;> simp [h, Content.ofType]

theorem subagentUserContent_eq_blockOf (c : CcContentBlock) :
    subagentUserContent c = if c.type ∈ ["text", "tool_result"] then blockOf c else none := by
  unfold subagentUserContent blockOf toolResultContent
  by_cases h₁ : c.type = "text" <;> by_cases h₂ : c.type = "tool_result" <;>
    simp [h₁, h₂, Content.ofType]

@[simp] theorem blocks_user (ev : SubagentStreamEvent) :
    TopEvent.blocks ⟨.user, ev⟩ = ev.message.content.filterMap userContent :=
  (filterMap_eq_blocksOfTypes userContent_eq_blockOf _).symm

@[simp] theorem blocks_assistant (ev : SubagentStreamEvent) :
    TopEvent.blocks ⟨.assistant, ev⟩ = ev.message.content.filterMap assistantContent :=
  (filterMap_eq_blocksOfTypes assistantContent_eq_blockOf _).symm

/-- The messages recorded to the loop's own manager. -/
def parentRecords (es : List Effect) : List Message :=
  es.filterMap fun e => match e with
    | .record .parent msg => some msg
    | _ => none

@[simp] theorem parentRecords_nil : parentRecords [] = [] := rfl

@[simp] theorem parentRecords_append (a b : List Effect) :
    parentRecords (a ++ b) = parentRecords a ++ parentRecords b := List.filterMap_append _ _ _

@[simp] theorem parentRecords_record_parent (msg : Message) (es : List Effect) :
    parentRecords (.record .parent msg :: es) = msg :: parentRecords es := rfl

@[simp] theorem parentRecords_record_child (m : ChildManager) (msg : Message)
    (es : List Effect) : parentRecords (.record (.child m) msg :: es) = parentRecords es := rfl

@[simp] theorem parentRecords_setAgentWorking (m : ChildManager) (b : Bool) (es : List Effect) :
    parentRecords (.setAgentWorking m b :: es) = parentRecords es := rfl

@[simp] theorem parentRecords_bridgeCall (key : String) (req : BridgeRequest)
    (es : List Effect) : parentRecords (.bridgeCall key req :: es) = parentRecords es := rfl

@[simp] theorem parentRecords_recordIf_child (p : Bool) (m : ChildManager) (msg : Message) :
    parentRecords (recordIf p (.child m) msg) = [] := by
  cases p <;> rfl

@[simp] theorem parentRecords_recordIf_parent (msg : Message) :
    parentRecords (recordIf true .parent msg) = [msg] := rfl

/-! ## Sub-agent work records nothing to the main conversation -/

@[simp] theorem parentRecords_flushSubagentAssistant (sa : CcSubagentSession) :
    parentRecords (flushSubagentAssistant sa).2 = [] := by
  unfold flushSubagentAssistant; split <;> simp

@[simp] theorem parentRecords_flushSubagentUser (sa : CcSubagentSession) :
    parentRecords (flushSubagentUser sa).2 = [] := by
  unfold flushSubagentUser; split <;> simp

@[simp] theorem parentRecords_closeSession (sa : CcSubagentSession) :
    parentRecords (closeSession sa).2 = [] := by
  simp [closeSession, flushSubagent]

@[simp] theorem parentRecords_routeSubagentAssistant (sa : CcSubagentSession)
    (ev : SubagentStreamEvent) : parentRecords (routeSubagentAssistant sa ev).2 = [] := by
  unfold routeSubagentAssistant; split <;> simp [flushSubagent]

@[simp] theorem parentRecords_routeSubagentUser (sa : CcSubagentSession)
    (ev : SubagentStreamEvent) : parentRecords (routeSubagentUser sa ev).2 = [] := by
  simp [routeSubagentUser]

/-- Two states agree on every field that the main conversation's messages depend on. -/
structure SameMain (s t : StreamState) : Prop where
  assistant : s.currentAssistantMsg = t.currentAssistantMsg
  user : s.currentUserMsg = t.currentUserMsg
  msgID : s.currentMsgID = t.currentMsgID
  records : parentRecords s.effects = parentRecords t.effects
  history : s.history = t.history

theorem SameMain.refl (s : StreamState) : SameMain s s := ⟨rfl, rfl, rfl, rfl, rfl⟩

theorem SameMain.trans {s t u : StreamState} (h₁ : SameMain s t) (h₂ : SameMain t u) :
    SameMain s u :=
  ⟨h₁.assistant.trans h₂.assistant, h₁.user.trans h₂.user, h₁.msgID.trans h₂.msgID,
    h₁.records.trans h₂.records, h₁.history.trans h₂.history⟩

/-- Appending effects that record nothing to the main conversation. -/
theorem SameMain.of_effects {s t : StreamState} (es : List Effect) (hes : parentRecords es = [])
    (ha : s.currentAssistantMsg = t.currentAssistantMsg) (hu : s.currentUserMsg = t.currentUserMsg)
    (hi : s.currentMsgID = t.currentMsgID) (hh : s.history = t.history)
    (he : s.effects = t.effects ++ es) : SameMain s t :=
  ⟨ha, hu, hi, by simp [he, hes], hh⟩

theorem SameMain.trackTaskInputs (env : StreamEnv) (s : StreamState) (ev : SubagentStreamEvent) :
    SameMain (trackTaskInputs env s ev) s := ⟨rfl, rfl, rfl, rfl, rfl⟩

theorem SameMain.completeSubagents (s : StreamState) (ev : SubagentStreamEvent) :
    SameMain (completeSubagents s ev) s := by
  unfold Shelley.Server.completeSubagents
  induction ev.message.content generalizing s with
  | nil => exact SameMain.refl s
  | cons c cs ih =>
    simp only [List.foldl_cons]
    refine (ih _).trans ?_
    split
    · split
      · exact SameMain.of_effects _ (parentRecords_closeSession _) rfl rfl rfl rfl rfl
      · exact SameMain.refl s
    · exact SameMain.refl s

theorem SameMain.getOrCreateSubagentSession (env : StreamEnv) (s : StreamState) (key : String) :
    SameMain (getOrCreateSubagentSession env s key).2 s := by
  unfold Shelley.Server.getOrCreateSubagentSession
  split
  · exact SameMain.refl s
  · exact SameMain.refl s
  · exact SameMain.refl s
  · dsimp only
    split
    · exact SameMain.of_effects [.bridgeCall _ _] rfl rfl rfl rfl rfl rfl
    · exact SameMain.of_effects [.bridgeCall _ _, .setAgentWorking _ true] rfl rfl rfl rfl rfl rfl

theorem SameMain.routeSubagentEvent (env : StreamEnv) (s : StreamState) (typ : String)
    (ev : SubagentStreamEvent) : SameMain (routeSubagentEvent env s typ ev) s := by
  have hs := SameMain.getOrCreateSubagentSession env s ev.parentToolUseID
  unfold Shelley.Server.routeSubagentEvent
  split
  · rename_i t h; rw [h] at hs; exact hs
  · rename_i sa t h
    rw [h] at hs
    dsimp only at hs ⊢
    refine SameMain.trans (SameMain.of_effects (t := t) _ ?_ rfl rfl rfl rfl rfl) hs
    unfold routeSubagent; split <;> simp

/-- **Frame.** A line that is not a top-level event leaves the main conversation alone. -/
theorem SameMain.processLine_of_none (env : StreamEnv) (s : StreamState) {line : Line}
    (hl : topLevelEvent line = none) : SameMain (processLine env s line) s := by
  unfold processLine
  split_ifs with h0
  · exact SameMain.refl s
  cases hj : line.json with
  | notObject => exact SameMain.refl s
  | object typ ev =>
    dsimp only
    split_ifs with ht
    · cases ev with
      | none => exact SameMain.refl s
      | some ev =>
        have hp : ev.parentToolUseID ≠ "" := by
          intro hp
          simp only [topLevelEvent, hj, hp, if_true] at hl
          rcases ht with rfl | rfl <;> simp at hl
        simp only [processEvent, hp, and_false, false_and, if_false, ne_eq, not_false_eq_true,
          if_true]
        exact SameMain.routeSubagentEvent env s typ ev
    · exact SameMain.refl s

/-! ## Top-level events -/

/-- What a top-level event does to the main conversation. -/
def mainStep (env : StreamEnv) (s : StreamState) (e : TopEvent) : StreamState :=
  match e.kind with
  | .assistant => handleAssistant env s e.event
  | .user => handleUser env s e.event

/-- A top-level event is handled by `mainStep`, after work (task tracking, the completion
marker) that leaves the main conversation alone. -/
theorem processLine_of_some (env : StreamEnv) (s : StreamState) {line : Line} {e : TopEvent}
    (hl : topLevelEvent line = some e) :
    ∃ t, SameMain t s ∧ processLine env s line = mainStep env t e := by
  have h0 : line.size ≠ 0 := fun h => by simp [topLevelEvent, line.empty_notObject h] at hl
  unfold topLevelEvent at hl
  split at hl
  · rename_i typ ev hj
    split_ifs at hl with hp ha hu <;> cases hl
    · exact ⟨trackTaskInputs env s ev, SameMain.trackTaskInputs env s ev,
        by simp [processLine, h0, hj, ha, processEvent, hp, mainStep]⟩
    · refine ⟨if ev.toolUseResult = true then completeSubagents s ev else s, ?_,
        by simp [processLine, h0, hj, hu, processEvent, hp, mainStep]⟩
      split_ifs
      · exact SameMain.completeSubagents s ev
      · exact SameMain.refl s
  · cases hl

/-- The deferred flushes read only the fields `SameMain` compares. -/
theorem SameMain.flush {a b : StreamState} (h : SameMain a b) (env : StreamEnv) :
    SameMain (flushUser env (flushAssistant env a)) (flushUser env (flushAssistant env b)) := by
  obtain ⟨ha, hu, hi, hr, hh⟩ := h
  constructor <;> simp [ha, hu, hi, hr, hh]

/-- `mainStep` reads only the fields `SameMain` compares. -/
theorem SameMain.mainStep {env : StreamEnv} {a b : StreamState} (h : SameMain a b)
    (e : TopEvent) : SameMain (mainStep env a e) (mainStep env b e) := by
  obtain ⟨ha, hu, hi, hr, hh⟩ := h
  rcases e with ⟨_ | _, ev⟩ <;>
    simp only [Shelley.Server.mainStep, handleAssistant, handleUser] <;>
    [split_ifs; skip] <;> constructor <;> simp_all

/-! ## The simulation -/

/-- The open message of the current run `run`, whose last event is `last`. -/
def OpenRun (s : StreamState) (last : TopEvent) (run : List TopEvent) : Prop :=
  match last.kind with
  | .user => s.currentUserMsg = some { role := .user, content := run.flatMap TopEvent.blocks } ∧
      s.currentAssistantMsg = none
  | .assistant =>
    s.currentAssistantMsg = some { role := .assistant, content := run.flatMap TopEvent.blocks } ∧
      s.currentUserMsg = none ∧ s.currentMsgID = last.event.message.id

/-- `s` is the state `(ag, g, gs)` of `List.splitBy.loop sameMessage`: the runs `gs` (newest
first) are recorded, and the current run `(ag :: g).reverse`, all of one kind, is open. -/
structure Pending (s : StreamState) (ag : TopEvent) (g : List TopEvent)
    (gs : List (List TopEvent)) : Prop where
  records : parentRecords s.effects = gs.reverse.map runMessage
  kind : ∀ e ∈ g, e.kind = ag.kind
  openRun : OpenRun s ag (ag :: g).reverse

/-- Nothing is open and nothing is recorded yet. -/
structure Idle (s : StreamState) : Prop where
  records : parentRecords s.effects = []
  assistant : s.currentAssistantMsg = none
  user : s.currentUserMsg = none

theorem Pending.of_sameMain {s t : StreamState} {ag g gs} (h : Pending t ag g gs)
    (hs : SameMain s t) : Pending s ag g gs := by
  refine ⟨hs.records.trans h.records, h.kind, ?_⟩
  have ho := h.openRun
  unfold OpenRun at ho ⊢
  rw [hs.assistant, hs.user, hs.msgID]
  exact ho

theorem Idle.of_sameMain {s t : StreamState} (h : Idle t) (hs : SameMain s t) : Idle s :=
  ⟨hs.records.trans h.records, hs.assistant.trans h.assistant, hs.user.trans h.user⟩

/-- A user run is recorded as the message `flushUser` makes of it. -/
theorem runMessage_user {run : List TopEvent} (hne : run ≠ [])
    (hk : ∀ x ∈ run, x.kind = .user) :
    runMessage run = { role := .user, content := run.flatMap TopEvent.blocks } := by
  obtain ⟨x, xs, rfl⟩ := List.exists_cons_of_ne_nil hne
  simp [runMessage, hk x (List.mem_cons_self x xs)]

/-- An assistant run is recorded as the message `flushAssistant` makes of it. -/
theorem runMessage_assistant {run : List TopEvent} (hne : run ≠ [])
    (hk : ∀ x ∈ run, x.kind = .assistant) :
    runMessage run = markEndOfTurn { role := .assistant, content := run.flatMap TopEvent.blocks } := by
  have hany : hasToolUse (run.flatMap TopEvent.blocks) = run.any TopEvent.hasToolUseBlock := by
    clear hne
    induction run with
    | nil => rfl
    | cons x xs ih =>
      have hx : hasToolUse x.blocks = x.hasToolUseBlock := by
        obtain ⟨k, ev⟩ := x
        obtain rfl : k = .assistant := hk _ (List.mem_cons_self _ xs)
        simp [hasToolUse_filterMap_assistantContent, TopEvent.hasToolUseBlock]
      simp only [List.flatMap_cons, hasToolUse_append, List.any_cons, hx,
        ih (fun y hy => hk y (List.mem_cons_of_mem x hy))]
  obtain ⟨x, xs, rfl⟩ := List.exists_cons_of_ne_nil hne
  simp only [markEndOfTurn, hany]
  simp [runMessage, hk x (List.mem_cons_self x xs)]

section
variable {env : StreamEnv}

/-- The first top-level event opens its run. -/
theorem Idle.step {s : StreamState} (h : Idle s) (e : TopEvent) :
    Pending (mainStep env s e) e [] [] := by
  obtain ⟨hr, ha, hu⟩ := h
  rcases e with ⟨_ | _, ev⟩ <;> refine ⟨?_, by simp, ?_⟩ <;>
    simp [mainStep, handleAssistant, handleUser, OpenRun, appendContent, ha, hu, hr]

/-- **Step.** A top-level event moves the state as `List.splitBy.loop` moves: it extends the
open run when it belongs to it, and otherwise records the run and opens the next one. -/
theorem Pending.step (hrec : env.recordMessage = true) {s : StreamState} {ag g gs}
    (h : Pending s ag g gs) (e : TopEvent) :
    if sameMessage ag e then Pending (mainStep env s e) e (ag :: g) gs
    else Pending (mainStep env s e) e [] ((ag :: g).reverse :: gs) := by
  obtain ⟨hr, hk, ho⟩ := h
  have hrun : ∀ x ∈ (ag :: g).reverse, x.kind = ag.kind := by
    simpa [or_imp, forall_and] using hk
  have hne : (ag :: g).reverse ≠ [] := by simp
  rcases ag with ⟨_ | _, eva⟩ <;> rcases e with ⟨_ | _, eve⟩ <;> simp only [OpenRun] at ho
  · obtain ⟨ha, hu, hi⟩ := ho
    by_cases hid : eva.message.id = eve.message.id
    · simp only [sameMessage, hid, beq_self_eq_true, if_true]
      refine ⟨?_, ?_, ?_⟩ <;>
        simp_all [Shelley.Server.mainStep, handleAssistant, OpenRun, appendContent]
    · simp only [sameMessage, beq_iff_eq, hid, if_false]
      have hid' : eve.message.id ≠ eva.message.id := Ne.symm hid
      have hrm := runMessage_assistant hne hrun
      simp only [List.reverse_cons] at hrm
      refine ⟨?_, by simp, ?_⟩
      · simp [Shelley.Server.mainStep, handleAssistant, hi, hid', ha, hu, hr, hrec, recordIf, hrm]
      · simp [Shelley.Server.mainStep, handleAssistant, OpenRun, appendContent, hi, hid', hu]
  · obtain ⟨ha, hu, hi⟩ := ho
    have hrm := runMessage_assistant hne hrun
    simp only [List.reverse_cons] at hrm
    simp only [sameMessage, if_false]
    refine ⟨?_, by simp, ?_⟩
    · simp [Shelley.Server.mainStep, handleUser, ha, hu, hr, hrec, recordIf, hrm]
    · simp [Shelley.Server.mainStep, handleUser, OpenRun, appendContent, hu]
  · obtain ⟨hu, ha⟩ := ho
    have hrm := runMessage_user hne hrun
    simp only [List.reverse_cons] at hrm
    simp only [sameMessage, if_false]
    refine ⟨?_, by simp, ?_⟩
    · simp [Shelley.Server.mainStep, handleAssistant, ha, hu, hr, hrec, recordIf, hrm]
    · simp [Shelley.Server.mainStep, handleAssistant, OpenRun, appendContent, ha]
  · obtain ⟨hu, ha⟩ := ho
    simp only [sameMessage, if_true]
    refine ⟨?_, ?_, ?_⟩ <;>
      simp_all [Shelley.Server.mainStep, handleUser, OpenRun, appendContent]


@[simp] theorem parentRecords_closeSessions (ss : List (String × CcSubagentSession)) :
    parentRecords (ss.flatMap fun p => (closeSession p.2).2) = [] := by
  induction ss <;> simp_all

/-- The deferred flushes record the open run. -/
theorem Pending.finish (hrec : env.recordMessage = true) {s : StreamState} {ag g gs}
    (h : Pending s ag g gs) :
    parentRecords (finish env s).effects = ((ag :: g).reverse :: gs).reverse.map runMessage := by
  obtain ⟨hr, hk, ho⟩ := h
  have hrun : ∀ x ∈ (ag :: g).reverse, x.kind = ag.kind := by
    simpa [or_imp, forall_and] using hk
  have hne : (ag :: g).reverse ≠ [] := by simp
  rcases ag with ⟨_ | _, eva⟩ <;> simp only [OpenRun] at ho
  · obtain ⟨ha, hu, -⟩ := ho
    have hrm := runMessage_assistant hne hrun
    simp only [List.reverse_cons] at hrm
    simp [Shelley.Server.finish, ha, hu, hr, hrec, recordIf, hrm]
  · obtain ⟨hu, ha⟩ := ho
    have hrm := runMessage_user hne hrun
    simp only [List.reverse_cons] at hrm
    simp [Shelley.Server.finish, ha, hu, hr, hrec, recordIf, hrm]

/-- Closing the sessions records nothing to the main conversation. -/
theorem parentRecords_finish (s : StreamState) :
    parentRecords (finish env s).effects =
      parentRecords (flushUser env (flushAssistant env s)).effects := by
  simp [Shelley.Server.finish]

theorem Idle.finish {s : StreamState} (h : Idle s) : parentRecords (finish env s).effects = [] := by
  simp [Shelley.Server.finish, h.assistant, h.user, h.records]

/-- **Run.** From a state of `List.splitBy.loop`, the rest of the stream records what the
rest of the loop returns. -/
theorem Pending.foldl (hrec : env.recordMessage = true) (lines : List Line) :
    ∀ {s ag g gs}, Pending s ag g gs →
      parentRecords (Shelley.Server.finish env (lines.foldl (processLine env) s)).effects =
        (List.splitBy.loop sameMessage (lines.filterMap topLevelEvent) ag g gs).map runMessage := by
  induction lines with
  | nil => intro s ag g gs h; simp [h.finish hrec, List.splitBy.loop]
  | cons line rest ih =>
    intro s ag g gs h
    cases hl : topLevelEvent line with
    | none =>
      simp only [List.foldl_cons, List.filterMap_cons, hl]
      exact ih (h.of_sameMain (SameMain.processLine_of_none env s hl))
    | some e =>
      obtain ⟨t, ht, hp⟩ := processLine_of_some env s hl
      have hstep := (h.of_sameMain ht).step hrec e
      simp only [List.foldl_cons, List.filterMap_cons, hl, hp, List.splitBy.loop]
      cases hR : sameMessage ag e <;> simp only [hR] at hstep ⊢ <;> exact ih hstep

theorem Idle.foldl (hrec : env.recordMessage = true) (lines : List Line) :
    ∀ {s}, Idle s →
      parentRecords (Shelley.Server.finish env (lines.foldl (processLine env) s)).effects =
      ((lines.filterMap topLevelEvent).splitBy sameMessage).map runMessage := by
  induction lines with
  | nil => intro s h; simp [h.finish, List.splitBy]
  | cons line rest ih =>
    intro s h
    cases hl : topLevelEvent line with
    | none =>
      simp only [List.foldl_cons, List.filterMap_cons, hl]
      exact ih (h.of_sameMain (SameMain.processLine_of_none env s hl))
    | some e =>
      obtain ⟨t, ht, hp⟩ := processLine_of_some env s hl
      simp only [List.foldl_cons, List.filterMap_cons, hl, hp, List.splitBy]
      exact ((h.of_sameMain ht).step e).foldl hrec rest

end

/-- **Reassembly of the main conversation.** When every line fits the scanner's buffer and
the loop's manager has a `recordMessage`, the messages recorded to it are the reference
reassembly of the stream's top-level events. -/
theorem processStream_parentRecords (env : StreamEnv) (hrec : env.recordMessage = true)
    (history : List Message) (lines : List Line) (hfit : ∀ line ∈ lines, line.fits = true) :
    parentRecords (processStream env history lines).effects = reassemble lines := by
  simp only [processStream, scanLines_of_fits hfit]
  exact Idle.foldl hrec lines (s := { history }) ⟨rfl, rfl, rfl⟩

/-- A stream of two assistant events of one message, a sub-agent event and a user event. -/
theorem processStream_parentRecords_witness :
    let env : StreamEnv :=
      { conversationID := "c1"
        cwd := "/"
        recordMessage := true
        ccSubagentBridge := none
        unmarshalTaskInput := fun _ => {} }
    let lines : List Line :=
      [⟨60, .object "assistant" (some { message :=
          { id := "m1", content := [{ type := "thinking", thinking := "plan" }] } }),
        fun h => absurd h (Nat.succ_ne_zero 59)⟩,
       ⟨60, .object "assistant" (some { message :=
          { id := "m1", content := [{ type := "tool_use", id := "t1", name := "Bash" }] } }),
        fun h => absurd h (Nat.succ_ne_zero 59)⟩,
       ⟨60, .object "user" (some { parentToolUseID := "t0" }),
        fun h => absurd h (Nat.succ_ne_zero 59)⟩,
       ⟨60, .object "user" (some { message :=
          { content := [{ type := "tool_result", toolUseID := "t1" }] } }),
        fun h => absurd h (Nat.succ_ne_zero 59)⟩]
    env.recordMessage = true ∧ (∀ line ∈ lines, line.fits = true) ∧
      parentRecords (processStream env [] lines).effects = reassemble lines := by
  intro env lines
  exact ⟨rfl, by decide, processStream_parentRecords env rfl [] lines (by decide)⟩

/-! ## Lines that do not fit the buffer -/

/-- **A line over the buffer ends the stream.** Everything `processStream` does for a stream
whose first oversized line follows `pre` is what it does for `pre` alone, and it returns
`ErrTooLong`: the lines after the oversized one are never read. -/
theorem processStream_tooLong (env : StreamEnv) (history : List Message) {pre post : List Line}
    {line : Line} (hfit : ∀ l ∈ pre, l.fits = true) (hlong : line.fits = false) :
    processStream env history (pre ++ line :: post) =
      { processStream env history pre with err := some .tooLong } := by
  simp only [processStream, scanLines_append_tooLong hfit hlong, scanLines_of_fits hfit]

/-- An assistant event, a 1 MiB line and another assistant event. -/
theorem processStream_tooLong_witness :
    let env : StreamEnv :=
      { conversationID := "c1"
        cwd := "/"
        recordMessage := true
        ccSubagentBridge := none
        unmarshalTaskInput := fun _ => {} }
    let short : Line :=
      ⟨60, .object "assistant" (some { message :=
          { id := "m1", content := [{ type := "text", text := "hi" }] } }),
        fun h => absurd h (Nat.succ_ne_zero 59)⟩
    let long : Line := ⟨maxScanTokenSize, .object "user" none,
      fun h => absurd h (Nat.succ_ne_zero 1048575)⟩
    (∀ l ∈ [short], l.fits = true) ∧ long.fits = false ∧
      processStream env [] ([short] ++ long :: [short]) =
        { processStream env [] [short] with err := some .tooLong } := by
  intro env short long
  exact ⟨by decide, by decide, processStream_tooLong env [] (by decide) (by decide)⟩

/-- A line over the buffer is not skipped: with it, the assistant message after it is never
recorded; without it, it is. -/
theorem processStream_tooLong_counterexample :
    let env : StreamEnv :=
      { conversationID := "c1"
        cwd := "/"
        recordMessage := true
        ccSubagentBridge := none
        unmarshalTaskInput := fun _ => {} }
    let short : Line :=
      ⟨60, .object "assistant" (some { message :=
          { id := "m1", content := [{ type := "text", text := "hi" }] } }),
        fun h => absurd h (Nat.succ_ne_zero 59)⟩
    let long : Line := ⟨maxScanTokenSize, .object "user" none,
      fun h => absurd h (Nat.succ_ne_zero 1048575)⟩
    (parentRecords (processStream env [] [long, short]).effects).length = 0 ∧
      (parentRecords (processStream env [] [short]).effects).length = 1 := by
  intro env short long
  decide


/-! ## The loop's history

`flushAssistant` and `flushUser` append to `l.history` every message they hand to the
manager's `recordMessage`, and nothing else does: the history and the records never drift
apart, whatever the stream. -/

/-- The loop's history is the history it started from, followed by the messages recorded to
the main conversation. -/
def HistoryInSync (history : List Message) (s : StreamState) : Prop :=
  s.history = history ++ parentRecords s.effects

section
variable {env : StreamEnv} {history : List Message}

theorem HistoryInSync.of_sameMain {s t : StreamState} (h : HistoryInSync history t)
    (hs : SameMain s t) : HistoryInSync history s := by
  rw [HistoryInSync, hs.history, hs.records]
  exact h

theorem HistoryInSync.flushAssistant (hrec : env.recordMessage = true) {s : StreamState}
    (h : HistoryInSync history s) :
    HistoryInSync history (Shelley.Server.flushAssistant env s) := by
  unfold HistoryInSync at h ⊢
  cases hm : s.currentAssistantMsg <;> simp [h, hrec, hm]

theorem HistoryInSync.flushUser (hrec : env.recordMessage = true) {s : StreamState}
    (h : HistoryInSync history s) : HistoryInSync history (Shelley.Server.flushUser env s) := by
  unfold HistoryInSync at h ⊢
  cases hm : s.currentUserMsg <;> simp [h, hrec, hm]

theorem HistoryInSync.mainStep (hrec : env.recordMessage = true) {s : StreamState}
    (h : HistoryInSync history s) (e : TopEvent) :
    HistoryInSync history (Shelley.Server.mainStep env s e) := by
  rcases e with ⟨_ | _, ev⟩ <;> simp only [Shelley.Server.mainStep, handleAssistant, handleUser]
  · split_ifs
    · exact (h.flushAssistant hrec).flushUser hrec
    · exact h
  · exact h.flushAssistant hrec

/-- **Step.** Every line of the scan loop keeps the history in sync with the records. -/
theorem HistoryInSync.processLine (hrec : env.recordMessage = true) {s : StreamState}
    (h : HistoryInSync history s) (line : Line) :
    HistoryInSync history (Shelley.Server.processLine env s line) := by
  cases hl : topLevelEvent line with
  | none => exact h.of_sameMain (SameMain.processLine_of_none env s hl)
  | some e =>
    obtain ⟨t, ht, hp⟩ := processLine_of_some env s hl
    rw [hp]
    exact (h.of_sameMain ht).mainStep hrec e

/-- **Run.** So does the whole scan loop. -/
theorem HistoryInSync.foldl (hrec : env.recordMessage = true) (lines : List Line) :
    ∀ {s : StreamState}, HistoryInSync history s →
      HistoryInSync history (lines.foldl (Shelley.Server.processLine env) s) := by
  induction lines with
  | nil => exact id
  | cons line rest ih => exact fun h => ih (h.processLine hrec line)

/-- The deferred flushes record what they append; closing the sessions records nothing to
the main conversation. -/
theorem HistoryInSync.finish (hrec : env.recordMessage = true) {s : StreamState}
    (h : HistoryInSync history s) : HistoryInSync history (Shelley.Server.finish env s) := by
  have hf := (h.flushAssistant hrec).flushUser hrec
  simp only [HistoryInSync, Shelley.Server.finish, parentRecords_append,
    parentRecords_closeSessions, List.append_nil] at hf ⊢
  exact hf

end

/-- **The history is what was recorded.** When the loop's manager has a `recordMessage`, the
history `processStream` leaves is the history it started from followed by exactly the messages
it recorded to the main conversation, in order: for every stream, one that a line over the
buffer cuts short included. -/
theorem processStream_history (env : StreamEnv) (hrec : env.recordMessage = true)
    (history : List Message) (lines : List Line) :
    (processStream env history lines).history =
      history ++ parentRecords (processStream env history lines).effects :=
  (HistoryInSync.foldl hrec (scanLines lines).1 (s := { history })
    (by simp [HistoryInSync])).finish hrec

/-- A stream cut short by a 1 MiB line. -/
theorem processStream_history_tooLong :
    let env : StreamEnv :=
      { conversationID := "c1"
        cwd := "/"
        recordMessage := true
        ccSubagentBridge := none
        unmarshalTaskInput := fun _ => {} }
    let short : Line :=
      ⟨60, .object "assistant" (some { message :=
          { id := "m1", content := [{ type := "text", text := "hi" }] } }),
        fun h => absurd h (Nat.succ_ne_zero 59)⟩
    let long : Line := ⟨maxScanTokenSize, .object "user" none,
      fun h => absurd h (Nat.succ_ne_zero 1048575)⟩
    env.recordMessage = true ∧
      (processStream env [] [short, long, short]).history =
        [] ++ parentRecords (processStream env [] [short, long, short]).effects := by
  intro env short long
  exact ⟨rfl, processStream_history env rfl [] [short, long, short]⟩

end Shelley.Server
