import Shelley.Server.Reassembly
import Mathlib.Data.List.Nodup

/-! # Sub-agent bridging

What `processStream` does for the sub-agent of one `Task` tool call `P`: how often it calls
the bridge for `P`, which blocks reach the manager the bridge returned, and the last working
flag it leaves on that manager (`processStream_subagent`).

The reference side reads the stream's decoded events (`streamEvents`): the events of `P`'s
sub-agent are those with `parent_tool_use_id = P` after the first top-level `Task` tool_use
with id `P` (`subEvents`). The proof carries two invariants along the events:
`Bridged` (every manager seen so far came from an earlier bridge call, and sessions have
distinct keys and managers) and `Tracks P` (the state's record of `P` matches
`subEvents P` of the events processed so far). -/

namespace Shelley.Server
open Llm

/-- A decoded line to which the scan loop reacts: an `assistant` or `user` event. -/
abbrev StreamEvent := String × SubagentStreamEvent

/-- The decoded `assistant` or `user` event of a line. -/
def lineEvent (line : Line) : Option StreamEvent :=
  match line.json with
  | .object typ (some ev) => if typ = "assistant" ∨ typ = "user" then some (typ, ev) else none
  | _ => none

/-- The decoded `assistant` and `user` events of a stream, in order. -/
def streamEvents (lines : List Line) : List StreamEvent := lines.filterMap lineEvent

theorem processLine_eq (env : StreamEnv) (s : StreamState) (line : Line) :
    processLine env s line = match lineEvent line with
      | none => s
      | some e => processEvent env s e.1 e.2 := by
  rcases line with ⟨size, json, hempty⟩
  unfold processLine lineEvent
  by_cases h0 : size = 0
  · simp [h0, hempty h0]
  · cases json with
    | notObject => simp [h0]
    | object typ ev =>
      cases ev <;> by_cases ht : typ = "assistant" ∨ typ = "user" <;> simp [h0, ht]

/-- The scan loop reacts to the stream's events and to nothing else. -/
theorem foldl_processLine (env : StreamEnv) (lines : List Line) (s : StreamState) :
    lines.foldl (processLine env) s =
      (streamEvents lines).foldl (fun s e => processEvent env s e.1 e.2) s := by
  induction lines generalizing s with
  | nil => rfl
  | cons line rest ih =>
    simp only [List.foldl_cons, streamEvents, List.filterMap_cons, processLine_eq]
    cases lineEvent line <;> exact ih _

/-! ## The reference -/

/-- A top-level assistant event with a `Task` tool_use whose id is `P`. -/
def isTaskFor (P : String) (e : StreamEvent) : Bool :=
  e.1 == "assistant" && e.2.parentToolUseID == "" &&
    e.2.message.content.any fun c => c.type == "tool_use" && c.name == "Task" && c.id == P

/-- The events of `P`'s sub-agent: those with `parent_tool_use_id = P` after the first
top-level `Task` tool_use with id `P`. -/
def subEvents (P : String) : List StreamEvent → List StreamEvent
  | [] => []
  | e :: es => if isTaskFor P e then es.filter (·.2.parentToolUseID == P) else subEvents P es

/-- The blocks a sub-agent event contributes: text, thinking and tool_use blocks of an
assistant event, text and tool_result blocks of a user event. -/
def subBlocks (e : StreamEvent) : List Content :=
  if e.1 = "assistant" then blocksOfTypes ["text", "thinking", "tool_use"] e.2.message.content
  else blocksOfTypes ["text", "tool_result"] e.2.message.content

theorem subEvents_append_singleton (P : String) (pre : List StreamEvent) (e : StreamEvent) :
    subEvents P (pre ++ [e]) = subEvents P pre ++
      if pre.any (isTaskFor P) ∧ e.2.parentToolUseID = P then [e] else [] := by
  induction pre with
  | nil => simp [subEvents]
  | cons x xs ih =>
    cases hx : isTaskFor P x
    · rw [List.cons_append, subEvents, subEvents, hx]
      simp only [Bool.false_eq_true, if_false, ih, List.any_cons, hx, Bool.false_or]
    · by_cases hp : e.2.parentToolUseID = P <;> simp [subEvents, hx, List.filter_append, hp]

/-! ## What reaches one manager -/

/-- The calls of the bridge, in order, with the key each was made for. -/
def bridgeRequests (es : List Effect) : List (String × BridgeRequest) :=
  es.filterMap fun e => match e with
    | .bridgeCall k req => some (k, req)
    | _ => none

/-- The keys of the bridge calls. -/
def bridgeKeys (es : List Effect) : List String := (bridgeRequests es).map (·.1)

/-- The messages recorded to a sub-agent manager. -/
def childRecords (m : ChildManager) (es : List Effect) : List Message :=
  es.filterMap fun e => match e with
    | .record (.child m') msg => if m' = m then some msg else none
    | _ => none

/-- The `SetAgentWorking` calls made on a sub-agent manager. -/
def workingCalls (m : ChildManager) (es : List Effect) : List Bool :=
  es.filterMap fun e => match e with
    | .setAgentWorking m' b => if m' = m then some b else none
    | _ => none

/-- The sub-agent managers that effects reach. -/
def childManagers (es : List Effect) : List ChildManager :=
  es.filterMap fun e => match e with
    | .record (.child m) _ => some m
    | .setAgentWorking m _ => some m
    | _ => none

/-- A record to a sub-agent whose assistant message has `EndOfTurn` exactly when it holds no
`tool_use` block. -/
def GoodRecord (e : Effect) : Prop :=
  ∀ m msg, e = .record (.child m) msg → msg.role = .assistant →
    (msg.endOfTurn = true ↔ ∀ c ∈ msg.content, c.type ≠ .toolUse)

section
variable (m : ChildManager) (a b : List Effect)

@[simp] theorem bridgeRequests_append :
    bridgeRequests (a ++ b) = bridgeRequests a ++ bridgeRequests b :=
  List.filterMap_append _ _ _

@[simp] theorem bridgeKeys_append : bridgeKeys (a ++ b) = bridgeKeys a ++ bridgeKeys b := by
  simp [bridgeKeys]

@[simp] theorem childRecords_append : childRecords m (a ++ b) = childRecords m a ++ childRecords m b :=
  List.filterMap_append _ _ _

@[simp] theorem workingCalls_append : workingCalls m (a ++ b) = workingCalls m a ++ workingCalls m b :=
  List.filterMap_append _ _ _

@[simp] theorem childManagers_append : childManagers (a ++ b) = childManagers a ++ childManagers b :=
  List.filterMap_append _ _ _

end

section
variable (m m' : ChildManager) (msg : Message) (es : List Effect) (b : Bool) (k : String)
  (req : BridgeRequest)

@[simp] theorem bridgeRequests_nil : bridgeRequests [] = [] := rfl
@[simp] theorem bridgeRequests_record (t : Target) :
    bridgeRequests (.record t msg :: es) = bridgeRequests es := rfl
@[simp] theorem bridgeRequests_setAgentWorking :
    bridgeRequests (.setAgentWorking m b :: es) = bridgeRequests es := rfl
@[simp] theorem bridgeRequests_bridgeCall :
    bridgeRequests (.bridgeCall k req :: es) = (k, req) :: bridgeRequests es := rfl

@[simp] theorem childRecords_nil : childRecords m [] = [] := rfl
@[simp] theorem childRecords_record_parent :
    childRecords m (.record .parent msg :: es) = childRecords m es := rfl
@[simp] theorem childRecords_record_child : childRecords m (.record (.child m') msg :: es) =
    (if m' = m then [msg] else []) ++ childRecords m es := by
  by_cases h : m' = m <;> simp [childRecords, h]
@[simp] theorem childRecords_setAgentWorking :
    childRecords m (.setAgentWorking m' b :: es) = childRecords m es := rfl
@[simp] theorem childRecords_bridgeCall :
    childRecords m (.bridgeCall k req :: es) = childRecords m es := rfl

@[simp] theorem workingCalls_nil : workingCalls m [] = [] := rfl
@[simp] theorem workingCalls_record (t : Target) :
    workingCalls m (.record t msg :: es) = workingCalls m es := rfl
@[simp] theorem workingCalls_setAgentWorking : workingCalls m (.setAgentWorking m' b :: es) =
    (if m' = m then [b] else []) ++ workingCalls m es := by
  by_cases h : m' = m <;> simp [workingCalls, h]
@[simp] theorem workingCalls_bridgeCall :
    workingCalls m (.bridgeCall k req :: es) = workingCalls m es := rfl

@[simp] theorem childManagers_nil : childManagers [] = [] := rfl
@[simp] theorem childManagers_record_parent :
    childManagers (.record .parent msg :: es) = childManagers es := rfl
@[simp] theorem childManagers_record_child :
    childManagers (.record (.child m) msg :: es) = m :: childManagers es := rfl
@[simp] theorem childManagers_setAgentWorking :
    childManagers (.setAgentWorking m b :: es) = m :: childManagers es := rfl
@[simp] theorem childManagers_bridgeCall :
    childManagers (.bridgeCall k req :: es) = childManagers es := rfl

@[simp] theorem recordIf_true (t : Target) : recordIf true t msg = [.record t msg] := rfl
@[simp] theorem recordIf_false (t : Target) : recordIf false t msg = [] := rfl

end

/-- A manager that no effect reaches receives no record. -/
theorem childRecords_eq_nil {m : ChildManager} {es : List Effect} (h : m ∉ childManagers es) :
    childRecords m es = [] := by
  induction es with
  | nil => rfl
  | cons e es ih =>
    cases e with
    | record t msg =>
      cases t with
      | parent => simpa using ih (by simpa using h)
      | child m' =>
        simp only [childManagers_record_child, List.mem_cons, not_or] at h
        simp [Ne.symm h.1, ih h.2]
    | setAgentWorking m' b =>
      simp only [childManagers_setAgentWorking, List.mem_cons, not_or] at h
      simpa using ih h.2
    | bridgeCall k req => simpa using ih (by simpa using h)

/-- A manager that no effect reaches receives no `SetAgentWorking` call. -/
theorem workingCalls_eq_nil {m : ChildManager} {es : List Effect} (h : m ∉ childManagers es) :
    workingCalls m es = [] := by
  induction es with
  | nil => rfl
  | cons e es ih =>
    cases e with
    | record t msg =>
      cases t with
      | parent => simpa using ih (by simpa using h)
      | child m' =>
        simp only [childManagers_record_child, List.mem_cons, not_or] at h
        simpa using ih h.2
    | setAgentWorking m' b =>
      simp only [childManagers_setAgentWorking, List.mem_cons, not_or] at h
      simp [Ne.symm h.1, ih h.2]
    | bridgeCall k req => simpa using ih (by simpa using h)

/-- A bridge call keeps its position when more effects follow. -/
theorem bridgeRequests_getElem?_append {es : List Effect} {j : Nat} {x : String × BridgeRequest}
    (more : List Effect) (h : (bridgeRequests es)[j]? = some x) :
    (bridgeRequests (es ++ more))[j]? = some x := by
  rw [bridgeRequests_append, List.getElem?_append_left (List.getElem?_eq_some_iff.mp h).1, h]

/-! ## One session -/

/-- The blocks of a session's open messages. -/
def pendingBlocks (sa : CcSubagentSession) : List Content :=
  (sa.pendingAssistant.toList ++ sa.pendingUser.toList).flatMap (·.content)

/-- At most one message of a session is open, and an open user message has the user role. -/
structure SessionOK (sa : CcSubagentSession) : Prop where
  one : sa.pendingAssistant = none ∨ sa.pendingUser = none
  userRole : ∀ msg ∈ sa.pendingUser, msg.role = .user

theorem flushSubagentAssistant_eq (sa : CcSubagentSession) :
    flushSubagentAssistant sa = ({ sa with pendingAssistant := none },
      sa.pendingAssistant.toList.flatMap
        (recordIf sa.manager.recordMessage (.child sa.manager) ∘ markEndOfTurn)) := by
  rcases sa with ⟨_, _, _ | _, _⟩ <;> simp [flushSubagentAssistant]

theorem flushSubagentUser_eq (sa : CcSubagentSession) :
    flushSubagentUser sa = ({ sa with pendingUser := none },
      sa.pendingUser.toList.flatMap (recordIf sa.manager.recordMessage (.child sa.manager))) := by
  rcases sa with ⟨_, _, _, _ | _⟩ <;> simp [flushSubagentUser]

theorem flushSubagent_eq (sa : CcSubagentSession) :
    flushSubagent sa = ({ sa with pendingAssistant := none, pendingUser := none },
      sa.pendingAssistant.toList.flatMap
        (recordIf sa.manager.recordMessage (.child sa.manager) ∘ markEndOfTurn) ++
      sa.pendingUser.toList.flatMap (recordIf sa.manager.recordMessage (.child sa.manager))) := by
  simp [flushSubagent, flushSubagentAssistant_eq, flushSubagentUser_eq]

@[simp] theorem childManagers_recordIf (p : Bool) (m : ChildManager) (msg : Message) :
    childManagers (recordIf p (.child m) msg) = if p then [m] else [] := by
  cases p <;> rfl

@[simp] theorem bridgeRequests_recordIf (p : Bool) (t : Target) (msg : Message) :
    bridgeRequests (recordIf p t msg) = [] := by
  cases p <;> rfl

@[simp] theorem childRecords_recordIf_self (m : ChildManager) (msg : Message) :
    childRecords m (recordIf true (.child m) msg) = [msg] := by
  simp

/-- What an operation on a session may do: keep its manager and reach no other one, call no
bridge, record assistant messages with the right `EndOfTurn`, and keep `SessionOK`. -/
structure SessionStep (sa : CcSubagentSession) (r : CcSubagentSession × List Effect) : Prop where
  manager : r.1.manager = sa.manager
  reach : ∀ m ∈ childManagers r.2, m = sa.manager
  noBridge : bridgeRequests r.2 = []
  good : ∀ e ∈ r.2, GoodRecord e
  ok : SessionOK r.1

theorem goodRecord_recordIf_markEndOfTurn (p : Bool) (m : ChildManager) (msg : Message) :
    ∀ e ∈ recordIf p (.child m) (markEndOfTurn msg), GoodRecord e := by
  cases p <;> simp [recordIf, GoodRecord, markEndOfTurn, hasToolUse]

theorem goodRecord_recordIf_user (p : Bool) (m : ChildManager) {msg : Message}
    (h : msg.role = .user) : ∀ e ∈ recordIf p (.child m) msg, GoodRecord e := by
  cases p <;> simp [recordIf, GoodRecord, h]

theorem SessionStep.flushSubagent {sa : CcSubagentSession} (h : SessionOK sa) :
    SessionStep sa (flushSubagent sa) := by
  have hu := h.userRole
  rw [flushSubagent_eq]
  rcases sa with ⟨⟨id, _ | _⟩, _, _ | _, _ | _⟩ <;> refine ⟨rfl, ?_, by simp, ?_, ⟨.inl rfl, by simp⟩⟩ <;>
    simp_all [GoodRecord, markEndOfTurn, hasToolUse]

theorem SessionStep.closeSession {sa : CcSubagentSession} (h : SessionOK sa) :
    SessionStep sa (closeSession sa) := by
  obtain ⟨hm, hr, hb, hg, ho⟩ := SessionStep.flushSubagent h
  refine ⟨hm, ?_, by simp [Shelley.Server.closeSession, hb], ?_, ho⟩
  · simpa [Shelley.Server.closeSession, or_imp, forall_and] using hr
  · simpa [Shelley.Server.closeSession, or_imp, forall_and, GoodRecord] using hg

theorem SessionStep.routeSubagentUser {sa : CcSubagentSession} (h : SessionOK sa)
    (ev : SubagentStreamEvent) : SessionStep sa (routeSubagentUser sa ev) := by
  have hu := h.userRole
  simp only [Shelley.Server.routeSubagentUser, flushSubagentAssistant_eq]
  rcases sa with ⟨⟨id, _ | _⟩, _, _ | _, _ | _⟩ <;>
    refine ⟨rfl, ?_, by simp, ?_, ⟨.inl rfl, ?_⟩⟩ <;> simp_all [GoodRecord, markEndOfTurn, appendContent, hasToolUse]

theorem SessionStep.routeSubagentAssistant {sa : CcSubagentSession} (h : SessionOK sa)
    (ev : SubagentStreamEvent) : SessionStep sa (routeSubagentAssistant sa ev) := by
  unfold Shelley.Server.routeSubagentAssistant
  split_ifs with hc
  · obtain ⟨hm, hr, hb, hg, -⟩ := SessionStep.flushSubagent h
    exact ⟨hm, hr, hb, hg, ⟨.inr (by simp [flushSubagent_eq]), by simp [flushSubagent_eq]⟩⟩
  · obtain ⟨hone, hu⟩ := h
    refine ⟨rfl, by simp, by simp, by simp, ⟨?_, hu⟩⟩
    cases hpa : sa.pendingAssistant <;> simp_all

/-- A session operation records to its manager the blocks that were open, then leaves the
rest open: before and after, recorded plus open blocks differ by `added` at the end. -/
def Moves (sa : CcSubagentSession) (r : CcSubagentSession × List Effect) (added : List Content) :
    Prop :=
  (childRecords sa.manager r.2).flatMap (·.content) ++ pendingBlocks r.1 = pendingBlocks sa ++ added

theorem Moves.flushSubagent {sa : CcSubagentSession} (hr : sa.manager.recordMessage = true) :
    Moves sa (flushSubagent sa) [] := by
  rw [Moves, flushSubagent_eq]
  rcases sa with ⟨m, _, _ | _, _ | _⟩ <;> simp_all [pendingBlocks, markEndOfTurn]

theorem Moves.closeSession {sa : CcSubagentSession} (hr : sa.manager.recordMessage = true) :
    Moves sa (closeSession sa) [] := by
  simpa [Moves, Shelley.Server.closeSession] using Moves.flushSubagent hr

theorem Moves.routeSubagentUser {sa : CcSubagentSession} (hr : sa.manager.recordMessage = true)
    (ev : SubagentStreamEvent) :
    Moves sa (routeSubagentUser sa ev) (ev.message.content.filterMap subagentUserContent) := by
  simp only [Moves, Shelley.Server.routeSubagentUser, flushSubagentAssistant_eq]
  rcases sa with ⟨m, _, _ | _, _ | _⟩ <;> simp_all [pendingBlocks, markEndOfTurn, appendContent]

theorem Moves.routeSubagentAssistant {sa : CcSubagentSession} (h : SessionOK sa)
    (hr : sa.manager.recordMessage = true) (ev : SubagentStreamEvent) :
    Moves sa (routeSubagentAssistant sa ev) (ev.message.content.filterMap assistantContent) := by
  unfold Shelley.Server.routeSubagentAssistant
  split_ifs with hc
  · have hf := Moves.flushSubagent hr
    simp only [Moves, flushSubagent_eq] at hf ⊢
    simp_all [pendingBlocks, appendContent]
  · obtain ⟨hone, -⟩ := h
    simp only [not_or, not_not, Option.isNone_iff_eq_none] at hc
    rcases sa with ⟨m, _, _ | _, _ | _⟩ <;> simp_all [Moves, pendingBlocks, appendContent]

@[simp] theorem workingCalls_closeSession (sa : CcSubagentSession) :
    workingCalls sa.manager (closeSession sa).2 = [false] := by
  rw [Shelley.Server.closeSession, flushSubagent_eq]
  rcases sa with ⟨⟨_, _ | _⟩, _, _ | _, _ | _⟩ <;> simp [markEndOfTurn]

@[simp] theorem workingCalls_routeSubagentAssistant (m : ChildManager) (sa : CcSubagentSession)
    (ev : SubagentStreamEvent) : workingCalls m (routeSubagentAssistant sa ev).2 = [] := by
  unfold Shelley.Server.routeSubagentAssistant
  split_ifs
  · rw [flushSubagent_eq]
    rcases sa with ⟨⟨_, _ | _⟩, _, _ | _, _ | _⟩ <;> simp
  · rfl

@[simp] theorem workingCalls_routeSubagentUser (m : ChildManager) (sa : CcSubagentSession)
    (ev : SubagentStreamEvent) : workingCalls m (routeSubagentUser sa ev).2 = [] := by
  simp only [Shelley.Server.routeSubagentUser, flushSubagentAssistant_eq]
  rcases sa with ⟨⟨_, _ | _⟩, _, _ | _, _⟩ <;> simp

/-! ## The sessions map -/

section
variable {k k' : String} {sa : CcSubagentSession} {ss : List (String × CcSubagentSession)}

@[simp] theorem setSession_keys : (setSession k sa ss).map (·.1) = ss.map (·.1) := by
  simp only [setSession, List.map_map]
  exact List.map_congr_left fun p _ => by by_cases h : p.1 = k <;> simp [h]

theorem lookup_setSession_self : (setSession k sa ss).lookup k = (ss.lookup k).map fun _ => sa := by
  induction ss with
  | nil => rfl
  | cons p ps ih =>
    rcases p with ⟨k₁, s₁⟩
    by_cases h : k₁ = k
    · subst h; simp [setSession]
    · have hb : (k == k₁) = false := by simpa using Ne.symm h
      simp only [setSession, List.map_cons, h, if_false, List.lookup_cons, hb] at ih ⊢
      exact ih

theorem lookup_setSession_ne (h : k' ≠ k) : (setSession k sa ss).lookup k' = ss.lookup k' := by
  induction ss with
  | nil => rfl
  | cons p ps ih =>
    rcases p with ⟨k₁, s₁⟩
    by_cases h₁ : k₁ = k
    · subst h₁
      have hb : (k' == k₁) = false := by simpa using h
      simp only [setSession, List.map_cons, if_true, List.lookup_cons, hb] at ih ⊢
      exact ih
    · simp only [setSession, List.map_cons, h₁, if_false, List.lookup_cons] at ih ⊢
      cases k' == k₁ <;> simp [ih]

theorem mem_setSession {p : String × CcSubagentSession} (h : p ∈ setSession k sa ss) :
    p ∈ ss ∨ p = (k, sa) := by
  simp only [setSession, List.mem_map] at h
  obtain ⟨q, hq, rfl⟩ := h
  split <;> simp_all

theorem setSession_managers (h : ∀ p ∈ ss, p.1 = k → p.2.manager = sa.manager) :
    (setSession k sa ss).map (·.2.manager) = ss.map (·.2.manager) := by
  simp only [setSession, List.map_map]
  refine List.map_congr_left fun p hp => ?_
  by_cases hk : p.1 = k <;> simp [hk, h p hp]

theorem mem_of_lookup (h : ss.lookup k = some sa) : (k, sa) ∈ ss := by
  obtain ⟨l₁, l₂, rfl, -⟩ := List.lookup_eq_some_iff.mp h
  simp

theorem lookup_of_mem (hk : (ss.map (·.1)).Nodup) (h : (k, sa) ∈ ss) : ss.lookup k = some sa := by
  induction ss with
  | nil => cases h
  | cons p ps ih =>
    rcases p with ⟨k₁, s₁⟩
    simp only [List.map_cons, List.nodup_cons, List.mem_map] at hk
    rcases List.mem_cons.mp h with he | hm
    · cases he; simp
    · have hne : (k == k₁) = false := by
        simp only [beq_eq_false_iff_ne, ne_eq]
        rintro rfl
        exact hk.1 ⟨(k, sa), hm, rfl⟩
      simp [List.lookup_cons, hne, ih hk.2 hm]

end


/-! ## The invariants -/

/-- A bridge that always returns a manager, a different one at each call, and managers whose
`recordMessage` callback is set. -/
structure GoodBridge (b : Nat → BridgeRequest → Option ChildManager) : Prop where
  succeeds : ∀ n req, (b n req).isSome
  distinct : ∀ n n' req req' m, b n req = some m → b n' req' = some m → n = n'
  records : ∀ n req m, b n req = some m → m.recordMessage = true

/-- What holds of the sessions whatever the stream: sessions have distinct keys and distinct
managers; the bridge was called `bridgeCalls` times, and each session's manager is what it
returned at a call made for the session's key; every sub-agent manager reached is a
session's; every record to a sub-agent is well formed; every session is `SessionOK`. -/
structure Bridged (b : Nat → BridgeRequest → Option ChildManager) (s : StreamState) : Prop where
  keys : (s.subagentSessions.map (·.1)).Nodup
  managers : (s.subagentSessions.map (·.2.manager)).Nodup
  calls : (bridgeRequests s.effects).length = s.bridgeCalls
  issued : ∀ p ∈ s.subagentSessions, ∃ j req,
    (bridgeRequests s.effects)[j]? = some (p.1, req) ∧ b j req = some p.2.manager
  reached : ∀ m ∈ childManagers s.effects, m ∈ s.subagentSessions.map (·.2.manager)
  good : ∀ e ∈ s.effects, GoodRecord e
  sessionOK : ∀ p ∈ s.subagentSessions, SessionOK p.2

/-- `P`'s session is open, after one bridge call for `P`, and `blocks` are the blocks recorded
to its manager followed by those still open in it. -/
def Holds (P : String) (s : StreamState) (blocks : List Content) : Prop :=
  ∃ sa, s.subagentSessions.lookup P = some sa ∧ (bridgeKeys s.effects).count P = 1 ∧
    (childRecords sa.manager s.effects).flatMap (·.content) ++ pendingBlocks sa = blocks

/-- The state's record of `P`'s sub-agent after the events `pre`: the `Task` input is known
once a `Task` tool_use for `P` was seen; there is no session and no bridge call for `P` until
an event of the sub-agent was seen, and from then on the session holds the blocks of those
events. -/
structure Tracks (P : String) (s : StreamState) (pre : List StreamEvent) : Prop where
  task : (s.taskInputs P).isSome = pre.any (isTaskFor P)
  session : (s.subagentSessions.lookup P = none ∧ subEvents P pre = [] ∧
      (bridgeKeys s.effects).count P = 0) ∨
    (subEvents P pre ≠ [] ∧ Holds P s ((subEvents P pre).flatMap subBlocks))

/-- Both invariants, after the events `pre`. -/
structure Inv (b : Nat → BridgeRequest → Option ChildManager) (P : String) (s : StreamState)
    (pre : List StreamEvent) : Prop where
  bridged : Bridged b s
  tracks : Tracks P s pre

/-- Effects that only record to the main conversation. -/
def ParentOnly (es : List Effect) : Prop := ∀ e ∈ es, ∃ msg, e = .record .parent msg

theorem ParentOnly.childManagers {es : List Effect} (h : ParentOnly es) : childManagers es = [] := by
  induction es with
  | nil => rfl
  | cons e es ih =>
    obtain ⟨msg, rfl⟩ := h e (List.mem_cons_self _ _)
    simpa using ih fun e he => h e (List.mem_cons_of_mem _ he)

theorem ParentOnly.bridgeRequests {es : List Effect} (h : ParentOnly es) : bridgeRequests es = [] := by
  induction es with
  | nil => rfl
  | cons e es ih =>
    obtain ⟨msg, rfl⟩ := h e (List.mem_cons_self _ _)
    simpa using ih fun e he => h e (List.mem_cons_of_mem _ he)

theorem ParentOnly.good {es : List Effect} (h : ParentOnly es) : ∀ e ∈ es, GoodRecord e := by
  intro e he m msg hm
  obtain ⟨msg', rfl⟩ := h e he
  cases hm

theorem parentOnly_recordIf (p : Bool) (msg : Message) : ParentOnly (recordIf p .parent msg) := by
  cases p <;> simp [ParentOnly, recordIf]

/-- Work on the main conversation only: sessions, `Task` inputs and bridge calls untouched,
and only records to the main conversation added. -/
structure MainOnly (s t : StreamState) : Prop where
  sessions : t.subagentSessions = s.subagentSessions
  taskInputs : t.taskInputs = s.taskInputs
  bridgeCalls : t.bridgeCalls = s.bridgeCalls
  effects : ∃ es, t.effects = s.effects ++ es ∧ ParentOnly es

theorem MainOnly.flushAssistant (env : StreamEnv) (s : StreamState) :
    MainOnly s (flushAssistant env s) := by
  refine ⟨by simp, by simp, by simp, _, flushAssistant_effects s, ?_⟩
  cases s.currentAssistantMsg with
  | none => simp [ParentOnly]
  | some msg => simpa using parentOnly_recordIf env.recordMessage (markEndOfTurn msg)

theorem MainOnly.trans {s t u : StreamState} (h₁ : MainOnly s t) (h₂ : MainOnly t u) :
    MainOnly s u := by
  obtain ⟨es₁, he₁, hp₁⟩ := h₁.effects
  obtain ⟨es₂, he₂, hp₂⟩ := h₂.effects
  refine ⟨h₂.sessions.trans h₁.sessions, h₂.taskInputs.trans h₁.taskInputs,
    h₂.bridgeCalls.trans h₁.bridgeCalls, es₁ ++ es₂, by simp [he₁, he₂], ?_⟩
  intro e he
  rcases List.mem_append.mp he with he | he
  · exact hp₁ e he
  · exact hp₂ e he

theorem MainOnly.flushUser (env : StreamEnv) (s : StreamState) : MainOnly s (flushUser env s) := by
  refine ⟨by simp, by simp, by simp, _, flushUser_effects s, ?_⟩
  cases s.currentUserMsg with
  | none => simp [ParentOnly]
  | some msg => simpa using parentOnly_recordIf env.recordMessage msg

theorem MainOnly.handleAssistant (env : StreamEnv) (s : StreamState) (ev : SubagentStreamEvent) :
    MainOnly s (handleAssistant env s ev) := by
  unfold Shelley.Server.handleAssistant
  split_ifs
  · have h := (MainOnly.flushAssistant env s).trans (MainOnly.flushUser env _)
    exact ⟨h.sessions, h.taskInputs, h.bridgeCalls, h.effects⟩
  · exact ⟨rfl, rfl, rfl, [], by simp, by simp [ParentOnly]⟩

theorem MainOnly.handleUser (env : StreamEnv) (s : StreamState) (ev : SubagentStreamEvent) :
    MainOnly s (handleUser env s ev) := by
  have h := MainOnly.flushAssistant env s
  exact ⟨h.sessions, h.taskInputs, h.bridgeCalls, h.effects⟩

section
variable {b : Nat → BridgeRequest → Option ChildManager} {P k k' : String} {s t : StreamState}
  {sa sa' : CcSubagentSession} {r : CcSubagentSession × List Effect} {pre : List StreamEvent}

theorem Bridged.init (history : List Message) : Bridged b { history } :=
  ⟨List.nodup_nil, List.nodup_nil, rfl, by simp, by simp, by simp, by simp⟩

theorem Tracks.init (history : List Message) : Tracks P { history } [] :=
  ⟨rfl, .inl ⟨rfl, rfl, rfl⟩⟩

theorem Bridged.of_mainOnly (h : Bridged b s) (ht : MainOnly s t) : Bridged b t := by
  obtain ⟨es, he, hp⟩ := ht.effects
  refine ⟨?_, ?_, ?_, ?_, ?_, ?_, ?_⟩ <;> simp only [ht.sessions, ht.bridgeCalls, he]
  · exact h.keys
  · exact h.managers
  · simpa [hp.bridgeRequests] using h.calls
  · intro p hp'
    obtain ⟨j, req, hj, hb⟩ := h.issued p hp'
    exact ⟨j, req, bridgeRequests_getElem?_append _ hj, hb⟩
  · simpa [hp.childManagers] using h.reached
  · intro e he'
    rcases List.mem_append.mp he' with he' | he'
    · exact h.good e he'
    · exact hp.good e he'
  · exact h.sessionOK

theorem Tracks.of_mainOnly (h : Tracks P s pre) (ht : MainOnly s t) : Tracks P t pre := by
  obtain ⟨es, he, hp⟩ := ht.effects
  have hk : bridgeKeys t.effects = bridgeKeys s.effects := by
    simp [he, bridgeKeys, hp.bridgeRequests]
  have hr : ∀ m, childRecords m t.effects = childRecords m s.effects := fun m => by
    have hn : m ∉ childManagers es := by simp [hp.childManagers]
    simp [he, childRecords_eq_nil hn]
  refine ⟨by rw [ht.taskInputs]; exact h.task, ?_⟩
  rcases h.session with ⟨hn, hsub, hc⟩ | ⟨hsub, sa, hl, hc, hb⟩
  · exact .inl ⟨by rw [ht.sessions]; exact hn, hsub, by rw [hk]; exact hc⟩
  · exact .inr ⟨hsub, sa, by rw [ht.sessions]; exact hl, by rw [hk]; exact hc, by rw [hr]; exact hb⟩

theorem Inv.of_mainOnly (h : Inv b P s pre) (ht : MainOnly s t) : Inv b P t pre :=
  ⟨h.bridged.of_mainOnly ht, h.tracks.of_mainOnly ht⟩

/-- A session's manager has a `recordMessage` callback. -/
theorem Bridged.recordMessage (h : Bridged b s) (hg : GoodBridge b)
    (hl : s.subagentSessions.lookup k = some sa) : sa.manager.recordMessage = true := by
  obtain ⟨j, req, -, hj⟩ := h.issued _ (mem_of_lookup hl)
  exact hg.records j req _ hj

/-- Sessions of different keys have different managers. -/
theorem Bridged.manager_ne (h : Bridged b s) (h₁ : s.subagentSessions.lookup k = some sa)
    (h₂ : s.subagentSessions.lookup k' = some sa') (hne : k ≠ k') : sa.manager ≠ sa'.manager :=
  fun heq => hne (congrArg Prod.fst
    (List.inj_on_of_nodup_map h.managers (mem_of_lookup h₁) (mem_of_lookup h₂) heq))

/-- The manager of the next bridge call belongs to no session. -/
theorem Bridged.fresh (h : Bridged b s) (hg : GoodBridge b) {req : BridgeRequest}
    {m : ChildManager} (hm : b s.bridgeCalls req = some m) :
    m ∉ s.subagentSessions.map (·.2.manager) := by
  intro hmem
  obtain ⟨p, hp, rfl⟩ := List.mem_map.mp hmem
  obtain ⟨j, req', hj, hb⟩ := h.issued p hp
  have hlt : j < s.bridgeCalls := h.calls ▸ (List.getElem?_eq_some_iff.mp hj).1
  exact absurd (hg.distinct _ _ _ _ _ hb hm) hlt.ne

theorem SessionStep.noKeys (h : SessionStep sa r) : bridgeKeys r.2 = [] := by
  simp [bridgeKeys, h.noBridge]

/-! ### An operation on an open session -/

theorem Bridged.updateSession (h : Bridged b s) (hl : s.subagentSessions.lookup k = some sa)
    (hs : SessionStep sa r) : Bridged b (updateSession s k r) := by
  have hmem := mem_of_lookup hl
  have hman : (setSession k r.1 s.subagentSessions).map (·.2.manager) =
      s.subagentSessions.map (·.2.manager) :=
    setSession_managers fun p hp hk => by
      have hp' : s.subagentSessions.lookup p.1 = some p.2 := lookup_of_mem h.keys hp
      rw [hk, hl, Option.some_inj] at hp'
      rw [← hp', hs.manager]
  refine ⟨by simpa using h.keys, by simpa [hman] using h.managers,
    by simp [hs.noBridge, h.calls], ?_, ?_, ?_, ?_⟩
  · intro p hp
    rcases mem_setSession hp with hp | rfl
    · obtain ⟨j, req, hj, hb⟩ := h.issued p hp
      exact ⟨j, req, bridgeRequests_getElem?_append _ hj, hb⟩
    · obtain ⟨j, req, hj, hb⟩ := h.issued _ hmem
      exact ⟨j, req, bridgeRequests_getElem?_append _ hj, by rw [hs.manager]; exact hb⟩
  · intro m hm
    rw [updateSession_subagentSessions, hman]
    rw [updateSession_effects, childManagers_append] at hm
    rcases List.mem_append.mp hm with hm | hm
    · exact h.reached m hm
    · exact hs.reach m hm ▸ List.mem_map_of_mem _ hmem
  · intro e he
    rcases List.mem_append.mp he with he | he
    · exact h.good e he
    · exact hs.good e he
  · intro p hp
    rcases mem_setSession hp with hp | rfl
    · exact h.sessionOK p hp
    · exact hs.ok

/-- An operation on another key's session leaves `P`'s record alone. -/
theorem Tracks.updateSession_ne (h : Tracks P s pre) (hB : Bridged b s)
    (hl : s.subagentSessions.lookup k = some sa) (hs : SessionStep sa r) (hk : k ≠ P) :
    Tracks P (updateSession s k r) pre := by
  have hP : (setSession k r.1 s.subagentSessions).lookup P = s.subagentSessions.lookup P :=
    lookup_setSession_ne (Ne.symm hk)
  have hkeys : bridgeKeys (s.effects ++ r.2) = bridgeKeys s.effects := by
    rw [bridgeKeys, bridgeRequests_append, hs.noBridge, List.append_nil, bridgeKeys]
  refine ⟨h.task, ?_⟩
  rcases h.session with ⟨hn, hsub, hc⟩ | ⟨hsub, sa', hl', hc, hb⟩
  · exact .inl ⟨by rw [updateSession_subagentSessions, hP]; exact hn, hsub,
      by rw [updateSession_effects, hkeys]; exact hc⟩
  · have hr : childRecords sa'.manager r.2 = [] :=
      childRecords_eq_nil fun hm => hB.manager_ne hl hl' hk (hs.reach _ hm).symm
    exact .inr ⟨hsub, sa', by rw [updateSession_subagentSessions, hP]; exact hl',
      by rw [updateSession_effects, hkeys]; exact hc,
      by rw [updateSession_effects, childRecords_append, hr, List.append_nil]; exact hb⟩

/-- An operation on `P`'s session moves its blocks from open to recorded and adds `added`. -/
theorem Holds.updateSession {blocks added : List Content} (h : Holds P s blocks)
    (hl : s.subagentSessions.lookup P = some sa) (hs : SessionStep sa r) (hm : Moves sa r added) :
    Holds P (updateSession s P r) (blocks ++ added) := by
  obtain ⟨sa', hl', hc, hb⟩ := h
  rw [hl, Option.some_inj] at hl'
  subst hl'
  refine ⟨r.1, by simp [lookup_setSession_self, hl], by simp [hs.noKeys, hc], ?_⟩
  rw [updateSession_effects, hs.manager, childRecords_append, List.flatMap_append,
    List.append_assoc, hm, ← List.append_assoc, hb]

/-! ### Opening a session -/

/-- The state after the bridge returned `m` for `key`. -/
def openSession (s : StreamState) (key : String) (req : BridgeRequest) (m : ChildManager) :
    StreamState :=
  { s with
    bridgeCalls := s.bridgeCalls + 1
    effects := s.effects ++ [.bridgeCall key req, .setAgentWorking m true]
    subagentSessions := s.subagentSessions ++ [(key, { manager := m })] }

section
variable (s : StreamState) (key : String) (req : BridgeRequest) (m : ChildManager)

@[simp] theorem openSession_effects :
    (openSession s key req m).effects = s.effects ++ [.bridgeCall key req, .setAgentWorking m true] :=
  rfl

@[simp] theorem openSession_subagentSessions : (openSession s key req m).subagentSessions =
    s.subagentSessions ++ [(key, { manager := m })] := rfl

@[simp] theorem openSession_taskInputs : (openSession s key req m).taskInputs = s.taskInputs := rfl

@[simp] theorem openSession_bridgeCalls :
    (openSession s key req m).bridgeCalls = s.bridgeCalls + 1 := rfl

end

/-- What `getOrCreateSubagentSession` can do with a bridge that always returns a manager: find
the key's session, find no `Task` input, or open a session with the manager that the bridge
returns at its next call. -/
theorem getOrCreateSubagentSession_cases {env : StreamEnv} (hb : env.ccSubagentBridge = some b)
    (hg : GoodBridge b) (s : StreamState) (k : String) :
    (∃ sa, s.subagentSessions.lookup k = some sa ∧
      getOrCreateSubagentSession env s k = (some sa, s)) ∨
    (s.subagentSessions.lookup k = none ∧ s.taskInputs k = none ∧
      getOrCreateSubagentSession env s k = (none, s)) ∨
    (∃ req m, s.subagentSessions.lookup k = none ∧ (s.taskInputs k).isSome ∧
      b s.bridgeCalls req = some m ∧
      getOrCreateSubagentSession env s k = (some { manager := m }, openSession s k req m)) := by
  unfold getOrCreateSubagentSession
  rw [hb]
  rcases hl : s.subagentSessions.lookup k with _ | sa
  · rcases ht : s.taskInputs k with _ | input
    · exact .inr (.inl ⟨rfl, rfl, rfl⟩)
    · obtain ⟨m, hm⟩ := Option.isSome_iff_exists.mp (hg.succeeds s.bridgeCalls
        { slug := subagentSlug k input, parentID := env.conversationID, cwd := env.cwd })
      refine .inr (.inr ⟨_, m, rfl, rfl, hm, ?_⟩)
      simp only [hm]
      rfl
  · exact .inl ⟨sa, rfl, rfl⟩

theorem Bridged.openSession (h : Bridged b s) (hg : GoodBridge b)
    (hl : s.subagentSessions.lookup k = none) {req : BridgeRequest} {m : ChildManager}
    (hm : b s.bridgeCalls req = some m) : Bridged b (openSession s k req m) := by
  have hfresh := h.fresh hg hm
  have hk : k ∉ s.subagentSessions.map (·.1) := by
    rw [List.lookup_eq_none_iff] at hl
    simp only [List.mem_map, not_exists, not_and]
    intro p hp heq
    simpa [heq] using hl p hp
  refine ⟨?_, ?_, by simp [h.calls], ?_, ?_, ?_, ?_⟩
  · simpa using h.keys.append (List.nodup_singleton k) (List.disjoint_singleton.mpr hk)
  · simpa using h.managers.append (List.nodup_singleton m) (List.disjoint_singleton.mpr hfresh)
  · intro p hp
    rw [openSession_subagentSessions, List.mem_append, List.mem_singleton] at hp
    rcases hp with hp | rfl
    · obtain ⟨j, req', hj, hb⟩ := h.issued p hp
      exact ⟨j, req', bridgeRequests_getElem?_append _ hj, hb⟩
    · exact ⟨s.bridgeCalls, req, by simp [← h.calls], hm⟩
  · intro m' hm'
    rw [openSession_subagentSessions, List.map_append, List.mem_append]
    rw [openSession_effects, childManagers_append] at hm'
    rcases List.mem_append.mp hm' with hm' | hm'
    · exact .inl (h.reached m' hm')
    · exact .inr (by simpa using hm')
  · intro e he
    rw [openSession_effects] at he
    rcases List.mem_append.mp he with he | he
    · exact h.good e he
    · simp only [List.mem_cons, List.mem_singleton, List.not_mem_nil, or_false] at he
      rcases he with rfl | rfl <;> simp [GoodRecord]
  · intro p hp
    rw [openSession_subagentSessions, List.mem_append, List.mem_singleton] at hp
    rcases hp with hp | rfl
    · exact h.sessionOK p hp
    · exact ⟨.inl rfl, by simp⟩

/-- Opening another key's session leaves `P`'s record alone. -/
theorem Tracks.openSession_ne (h : Tracks P s pre) (hk : k ≠ P) {req : BridgeRequest}
    {m : ChildManager} : Tracks P (openSession s k req m) pre := by
  have hP : (s.subagentSessions ++ [(k, ({ manager := m } : CcSubagentSession))]).lookup P =
      s.subagentSessions.lookup P := by
    simp [List.lookup_append, List.lookup_cons, beq_false_of_ne (Ne.symm hk)]
  have hkeys : (bridgeKeys (openSession s k req m).effects).count P =
      (bridgeKeys s.effects).count P := by
    simp [bridgeKeys, List.count_append, List.count_singleton, beq_false_of_ne hk]
  refine ⟨h.task, ?_⟩
  rcases h.session with ⟨hn, hsub, hc⟩ | ⟨hsub, sa', hl', hc, hb⟩
  · exact .inl ⟨by rw [openSession_subagentSessions, hP]; exact hn, hsub, by rw [hkeys]; exact hc⟩
  · exact .inr ⟨hsub, sa', by rw [openSession_subagentSessions, hP]; exact hl',
      by rw [hkeys]; exact hc, by simpa using hb⟩

/-- Opening `P`'s session with a fresh manager: nothing is recorded or open yet. -/
theorem Holds.openSession (hl : s.subagentSessions.lookup P = none)
    (hc : (bridgeKeys s.effects).count P = 0) {req : BridgeRequest} {m : ChildManager}
    (hfresh : m ∉ childManagers s.effects) : Holds P (openSession s P req m) [] :=
  ⟨{ manager := m }, by simp [List.lookup_append, hl], by simpa [bridgeKeys] using hc,
    by simp [childRecords_eq_nil hfresh, pendingBlocks]⟩

end

/-! ## One event -/

theorem SessionStep.routeSubagent {sa : CcSubagentSession} (h : SessionOK sa) (typ : String)
    (ev : SubagentStreamEvent) : SessionStep sa (routeSubagent typ sa ev) := by
  unfold Shelley.Server.routeSubagent
  split
  · exact SessionStep.routeSubagentAssistant h ev
  · exact SessionStep.routeSubagentUser h ev

theorem Moves.routeSubagent {sa : CcSubagentSession} (h : SessionOK sa)
    (hr : sa.manager.recordMessage = true) (typ : String) (ev : SubagentStreamEvent) :
    Moves sa (routeSubagent typ sa ev) (subBlocks (typ, ev)) := by
  simp only [Shelley.Server.routeSubagent, subBlocks,
    ← filterMap_eq_blocksOfTypes assistantContent_eq_blockOf,
    ← filterMap_eq_blocksOfTypes subagentUserContent_eq_blockOf]
  split_ifs
  · exact Moves.routeSubagentAssistant h hr ev
  · exact Moves.routeSubagentUser hr ev

theorem any_isTaskFor_of_subEvents_ne_nil {P : String} {pre : List StreamEvent}
    (h : subEvents P pre ≠ []) : pre.any (isTaskFor P) = true := by
  induction pre with
  | nil => exact absurd rfl h
  | cons e es ih =>
    by_cases he : isTaskFor P e = true
    · simp [he]
    · rw [subEvents, if_neg he] at h
      simp [ih h]

/-- The `Task` inputs known after a top-level assistant event. -/
theorem trackTaskInputs_isSome (env : StreamEnv) (s : StreamState) (ev : SubagentStreamEvent)
    (k : String) : ((trackTaskInputs env s ev).taskInputs k).isSome = ((s.taskInputs k).isSome ||
      ev.message.content.any fun c => c.type == "tool_use" && c.name == "Task" && c.id == k) := by
  simp only [trackTaskInputs]
  generalize s.taskInputs = ti
  induction ev.message.content generalizing ti with
  | nil => simp
  | cons c cs ih =>
    rw [List.foldl_cons, ih, List.any_cons]
    split_ifs with hc
    · by_cases hk : k = c.id
      · simp [hk, hc]
      · simp [hk, hc, beq_false_of_ne (Ne.symm hk)]
    · have hn : (c.type == "tool_use" && c.name == "Task") = false := by
        by_cases h₁ : c.type = "tool_use"
        · simpa [h₁] using fun h₂ => hc ⟨h₁, h₂⟩
        · simp [h₁]
      simp [hn]

section
variable {b : Nat → BridgeRequest → Option ChildManager} {P : String} {s : StreamState}
  {pre : List StreamEvent}

/-- An event that neither mentions a `Task` for `P` nor belongs to `P`'s sub-agent leaves the
record of `P` as it is. -/
theorem Tracks.snoc_of_not {e : StreamEvent} (h : Tracks P s pre) (ht : isTaskFor P e = false)
    (hn : ¬ (pre.any (isTaskFor P) = true ∧ e.2.parentToolUseID = P)) :
    Tracks P s (pre ++ [e]) := by
  refine ⟨by simp [h.task, ht], ?_⟩
  rw [subEvents_append_singleton, if_neg hn, List.append_nil]
  exact h.session

theorem Bridged.trackTaskInputs (h : Bridged b s) (env : StreamEnv) (ev : SubagentStreamEvent) :
    Bridged b (trackTaskInputs env s ev) :=
  ⟨h.keys, h.managers, h.calls, h.issued, h.reached, h.good, h.sessionOK⟩

theorem Inv.trackTaskInputs (env : StreamEnv) (hP : P ≠ "") (h : Inv b P s pre)
    {ev : SubagentStreamEvent} (hpar : ev.parentToolUseID = "") :
    Inv b P (trackTaskInputs env s ev) (pre ++ [("assistant", ev)]) := by
  have hsub : subEvents P (pre ++ [("assistant", ev)]) = subEvents P pre := by
    rw [subEvents_append_singleton, if_neg (by simp [hpar, Ne.symm hP]), List.append_nil]
  refine ⟨h.bridged.trackTaskInputs env ev, ⟨?_, by rw [hsub]; exact h.tracks.session⟩⟩
  rw [trackTaskInputs_isSome, h.tracks.task, List.any_append]
  simp [isTaskFor, hpar]

/-- The completion marker of `k` closes its session. -/
theorem Inv.closeSession (hg : GoodBridge b) (h : Inv b P s pre) {k : String}
    {sa : CcSubagentSession} (hl : s.subagentSessions.lookup k = some sa) :
    Inv b P (updateSession s k (closeSession sa)) pre := by
  have hs := SessionStep.closeSession (h.bridged.sessionOK _ (mem_of_lookup hl))
  refine ⟨h.bridged.updateSession hl hs, ?_⟩
  by_cases hk : k = P
  · subst hk
    rcases h.tracks.session with ⟨hn, -, -⟩ | ⟨hsub, hh⟩
    · rw [hn] at hl; cases hl
    · refine ⟨h.tracks.task, .inr ⟨hsub, ?_⟩⟩
      simpa using hh.updateSession hl hs (Moves.closeSession (h.bridged.recordMessage hg hl))
  · exact h.tracks.updateSession_ne h.bridged hl hs hk

theorem Inv.completeSubagents (hg : GoodBridge b) (h : Inv b P s pre) (ev : SubagentStreamEvent) :
    Inv b P (completeSubagents s ev) pre := by
  unfold Shelley.Server.completeSubagents
  induction ev.message.content generalizing s with
  | nil => exact h
  | cons c cs ih =>
    rw [List.foldl_cons]
    refine ih ?_
    split
    · split
      next sa hl => exact h.closeSession hg hl
      next => exact h
    · exact h

/-- An event with a non-empty `parent_tool_use_id`: either `P`'s, routed to `P`'s session
(opened first if need be), or another sub-agent's, which leaves `P`'s record alone. -/
theorem Inv.routeSubagentEvent {env : StreamEnv} (hb : env.ccSubagentBridge = some b)
    (hg : GoodBridge b) (h : Inv b P s pre) (typ : String) {ev : SubagentStreamEvent}
    (hpar : ev.parentToolUseID ≠ "") :
    Inv b P (routeSubagentEvent env s typ ev) (pre ++ [(typ, ev)]) := by
  have hnt : isTaskFor P (typ, ev) = false := by simp [isTaskFor, hpar]
  have hany : (pre ++ [(typ, ev)]).any (isTaskFor P) = pre.any (isTaskFor P) := by simp [hnt]
  have hsub := subEvents_append_singleton P pre (typ, ev)
  unfold Shelley.Server.routeSubagentEvent
  rcases getOrCreateSubagentSession_cases hb hg s ev.parentToolUseID with
    ⟨sa, hl, hgo⟩ | ⟨hl, ht, hgo⟩ | ⟨req, m, hl, ht, hm, hgo⟩
  · -- the session exists
    rw [hgo]
    have hs := SessionStep.routeSubagent (h.bridged.sessionOK _ (mem_of_lookup hl)) typ ev
    refine ⟨h.bridged.updateSession hl hs, ?_⟩
    by_cases hk : ev.parentToolUseID = P
    · subst hk
      rcases h.tracks.session with ⟨hn, -, -⟩ | ⟨hne, hh⟩
      · rw [hn] at hl; cases hl
      · have hpre := any_isTaskFor_of_subEvents_ne_nil hne
        refine ⟨by rw [hany]; exact h.tracks.task, .inr ⟨by simp [hsub, hpre], ?_⟩⟩
        rw [hsub, if_pos ⟨hpre, rfl⟩, List.flatMap_append, List.flatMap_singleton]
        exact hh.updateSession hl hs (Moves.routeSubagent (h.bridged.sessionOK _ (mem_of_lookup hl))
          (h.bridged.recordMessage hg hl) typ ev)
    · exact h.tracks.updateSession_ne h.bridged hl hs hk |>.snoc_of_not hnt fun hn => hk hn.2
  · -- no `Task` input yet: the event is dropped
    rw [hgo]
    refine ⟨h.bridged, h.tracks.snoc_of_not hnt ?_⟩
    rintro ⟨hpre, rfl⟩
    have htask := h.tracks.task
    rw [ht, hpre] at htask
    simp at htask
  · -- the bridge opens a session
    rw [hgo]
    have hB := h.bridged.openSession hg hl hm
    have hl' : (openSession s ev.parentToolUseID req m).subagentSessions.lookup ev.parentToolUseID =
        some { manager := m } := by
      simp [List.lookup_append, hl]
    have hok : SessionOK ({ manager := m } : CcSubagentSession) := ⟨.inl rfl, by simp⟩
    have hs := SessionStep.routeSubagent hok typ ev
    refine ⟨hB.updateSession hl' hs, ?_⟩
    by_cases hk : ev.parentToolUseID = P
    · subst hk
      rcases h.tracks.session with ⟨hn, hsub₀, hc⟩ | ⟨-, sa', hl₂, -⟩
      · have hpre : pre.any (isTaskFor ev.parentToolUseID) = true := by
          rw [← h.tracks.task]; exact ht
        have hfresh : m ∉ childManagers s.effects :=
          fun hm' => h.bridged.fresh hg hm (h.bridged.reached _ hm')
        refine ⟨by rw [hany]; exact h.tracks.task, .inr ⟨by simp [hsub, hpre], ?_⟩⟩
        rw [hsub, hsub₀, if_pos ⟨hpre, rfl⟩]
        simpa using (Holds.openSession hn hc hfresh).updateSession hl' hs
          (Moves.routeSubagent hok (hg.records _ _ _ hm) typ ev)
      · rw [hl] at hl₂; cases hl₂
    · exact (h.tracks.openSession_ne hk).updateSession_ne hB hl' hs hk |>.snoc_of_not hnt
        fun hn => hk hn.2

/-- **Step.** One event keeps both invariants. -/
theorem Inv.processEvent {env : StreamEnv} (hb : env.ccSubagentBridge = some b)
    (hg : GoodBridge b) (hP : P ≠ "") (h : Inv b P s pre) (e : StreamEvent) :
    Inv b P (processEvent env s e.1 e.2) (pre ++ [e]) := by
  obtain ⟨typ, ev⟩ := e
  by_cases hpar : ev.parentToolUseID = ""
  · by_cases ht : typ = "assistant"
    · subst ht
      simpa [Shelley.Server.processEvent, hpar] using
        (h.trackTaskInputs env hP hpar).of_mainOnly (MainOnly.handleAssistant env _ ev)
    · have h' : Inv b P s (pre ++ [(typ, ev)]) :=
        ⟨h.bridged, h.tracks.snoc_of_not (by simp [isTaskFor, ht]) (by simp [hpar, Ne.symm hP])⟩
      by_cases hu : typ = "user" ∧ ev.toolUseResult = true
      · simpa [Shelley.Server.processEvent, hpar, ht, hu] using
          (h'.completeSubagents hg ev).of_mainOnly (MainOnly.handleUser env _ ev)
      · simpa [Shelley.Server.processEvent, hpar, ht, hu] using
          h'.of_mainOnly (MainOnly.handleUser env _ ev)
  · simpa [Shelley.Server.processEvent, hpar] using h.routeSubagentEvent hb hg typ hpar

/-- **Run.** The invariants hold after every prefix of the events. -/
theorem Inv.foldl {env : StreamEnv} (hb : env.ccSubagentBridge = some b) (hg : GoodBridge b)
    (hP : P ≠ "") (h : Inv b P s pre) (es : List StreamEvent) :
    Inv b P (es.foldl (fun s e => Shelley.Server.processEvent env s e.1 e.2) s) (pre ++ es) := by
  induction es generalizing s pre with
  | nil => simpa using h
  | cons e es ih =>
    rw [List.foldl_cons, ← List.singleton_append, ← List.append_assoc]
    exact ih (h.processEvent hb hg hP e)

end

/-! ## The deferred cleanup -/

section
variable {ss : List (String × CcSubagentSession)}

theorem pendingBlocks_closeSession (sa : CcSubagentSession) :
    pendingBlocks (closeSession sa).1 = [] := by
  simp [Shelley.Server.closeSession, flushSubagent_eq, pendingBlocks]

/-- Closing a session records exactly its open blocks. -/
theorem childRecords_closeSession {sa : CcSubagentSession} (hr : sa.manager.recordMessage = true) :
    (childRecords sa.manager (closeSession sa).2).flatMap (·.content) = pendingBlocks sa := by
  simpa [Moves, pendingBlocks_closeSession] using Moves.closeSession hr

theorem closeAll_step (hok : ∀ p ∈ ss, SessionOK p.2) {e : Effect}
    (he : e ∈ ss.flatMap fun p => (closeSession p.2).2) :
    ∃ p ∈ ss, e ∈ (closeSession p.2).2 ∧ SessionStep p.2 (closeSession p.2) := by
  obtain ⟨p, hp, he⟩ := List.mem_flatMap.mp he
  exact ⟨p, hp, he, SessionStep.closeSession (hok p hp)⟩

theorem bridgeRequests_closeAll (hok : ∀ p ∈ ss, SessionOK p.2) :
    bridgeRequests (ss.flatMap fun p => (closeSession p.2).2) = [] := by
  induction ss with
  | nil => rfl
  | cons q qs ih =>
    rw [List.flatMap_cons, bridgeRequests_append,
      (SessionStep.closeSession (hok q (List.mem_cons_self _ _))).noBridge,
      ih fun p hp => hok p (List.mem_cons_of_mem _ hp), List.append_nil]

theorem childManagers_closeAll (hok : ∀ p ∈ ss, SessionOK p.2) :
    ∀ m ∈ childManagers (ss.flatMap fun p => (closeSession p.2).2), m ∈ ss.map (·.2.manager) := by
  induction ss with
  | nil => simp
  | cons q qs ih =>
    intro m hm
    rw [List.flatMap_cons, childManagers_append] at hm
    rcases List.mem_append.mp hm with hm | hm
    · exact (SessionStep.closeSession (hok q (List.mem_cons_self _ _))).reach m hm ▸
        List.mem_map_of_mem _ (List.mem_cons_self _ _)
    · exact List.mem_cons_of_mem _ (ih (fun p hp => hok p (List.mem_cons_of_mem _ hp)) m hm)

/-- The cleanup records a session's open blocks to its manager and ends with
`SetAgentWorking(false)` on it. -/
theorem closeAll_self (hnd : (ss.map (·.2.manager)).Nodup) (hok : ∀ p ∈ ss, SessionOK p.2)
    {p : String × CcSubagentSession} (hp : p ∈ ss) (hr : p.2.manager.recordMessage = true) :
    (childRecords p.2.manager (ss.flatMap fun q => (closeSession q.2).2)).flatMap (·.content) =
      pendingBlocks p.2 ∧
    workingCalls p.2.manager (ss.flatMap fun q => (closeSession q.2).2) = [false] := by
  induction ss with
  | nil => cases hp
  | cons q qs ih =>
    rw [List.map_cons, List.nodup_cons] at hnd
    have hok' : ∀ p ∈ qs, SessionOK p.2 := fun p hp => hok p (List.mem_cons_of_mem _ hp)
    rw [List.flatMap_cons, childRecords_append, workingCalls_append]
    rcases List.mem_cons.mp hp with rfl | hp
    · have hn : p.2.manager ∉ childManagers (qs.flatMap fun q => (closeSession q.2).2) :=
        fun hm => hnd.1 (childManagers_closeAll hok' _ hm)
      rw [childRecords_eq_nil hn, workingCalls_eq_nil hn, workingCalls_closeSession]
      simp [childRecords_closeSession hr]
    · have hne : q.2.manager ≠ p.2.manager := fun h => hnd.1 (h ▸ List.mem_map_of_mem _ hp)
      have hn : p.2.manager ∉ childManagers (closeSession q.2).2 := fun hm =>
        hne ((SessionStep.closeSession (hok q (List.mem_cons_self _ _))).reach _ hm).symm
      rw [childRecords_eq_nil hn, workingCalls_eq_nil hn]
      simpa using ih hnd.2 hok' hp

end

/-- **Cleanup.** What the deferred cleanup leaves for `P`'s sub-agent. -/
theorem Inv.finish {b : Nat → BridgeRequest → Option ChildManager} {P : String} {s : StreamState}
    {pre : List StreamEvent} (hg : GoodBridge b) (h : Inv b P s pre) (env : StreamEnv) :
    (bridgeKeys (Shelley.Server.finish env s).effects).count P =
        (if (subEvents P pre).isEmpty then 0 else 1) ∧
    (subEvents P pre ≠ [] → ∃ j req m,
        (bridgeRequests (Shelley.Server.finish env s).effects)[j]? = some (P, req) ∧
        b j req = some m ∧
        (childRecords m (Shelley.Server.finish env s).effects).flatMap (·.content) =
          (subEvents P pre).flatMap subBlocks ∧
        (workingCalls m (Shelley.Server.finish env s).effects).getLast? = some false) ∧
    ∀ e ∈ (Shelley.Server.finish env s).effects, GoodRecord e := by
  have ht : Inv b P (flushUser env (flushAssistant env s)) pre :=
    h.of_mainOnly ((MainOnly.flushAssistant env s).trans (MainOnly.flushUser env _))
  have hes : (Shelley.Server.finish env s).effects = (flushUser env (flushAssistant env s)).effects ++
      (flushUser env (flushAssistant env s)).subagentSessions.flatMap
        fun p => (Shelley.Server.closeSession p.2).2 := by
    simp [Shelley.Server.finish]
  generalize flushUser env (flushAssistant env s) = t at ht hes
  rw [hes]
  have hok := ht.bridged.sessionOK
  have hnb := bridgeRequests_closeAll hok
  refine ⟨?_, ?_, ?_⟩
  · have hc : (bridgeKeys (t.effects ++
        t.subagentSessions.flatMap fun p => (Shelley.Server.closeSession p.2).2)).count P =
        (bridgeKeys t.effects).count P := by
      simp [bridgeKeys, hnb]
    rw [hc]
    rcases ht.tracks.session with ⟨-, hsub, hc⟩ | ⟨hsub, -, -, hc, -⟩
    · simp [hsub, hc]
    · simp [hsub, hc]
  · intro hne
    rcases ht.tracks.session with ⟨-, hsub, -⟩ | ⟨-, sa, hl, -, hb⟩
    · exact absurd hsub hne
    · obtain ⟨j, req, hj, hbj⟩ := ht.bridged.issued _ (mem_of_lookup hl)
      obtain ⟨hrec, hwork⟩ := closeAll_self ht.bridged.managers hok (mem_of_lookup hl)
        (ht.bridged.recordMessage hg hl)
      dsimp only at hrec hwork
      refine ⟨j, req, sa.manager, bridgeRequests_getElem?_append _ hj, hbj, ?_, ?_⟩
      · rw [childRecords_append, List.flatMap_append, hrec]; exact hb
      · rw [workingCalls_append, hwork]; simp
  · intro e he
    rcases List.mem_append.mp he with he | he
    · exact ht.bridged.good e he
    · obtain ⟨p, -, he, hs⟩ := closeAll_step hok he
      exact hs.good e he

/-! ## The sub-agent of one `Task` call -/

/-- For a bridge that always returns a manager, a different one at each call, whose
`recordMessage` is set, and for every non-empty tool-use id `P`: the bridge is called for `P`
once if an event of `P`'s sub-agent follows its `Task` tool_use, and never otherwise; the
manager that call returned receives exactly the blocks of those events, in order, and its last
`SetAgentWorking` call is `false`; every assistant message recorded to a sub-agent carries the
right `EndOfTurn`. -/
theorem processStream_subagent (env : StreamEnv) (b : Nat → BridgeRequest → Option ChildManager)
    (hb : env.ccSubagentBridge = some b) (hsucc : ∀ n req, (b n req).isSome)
    (hdistinct : ∀ n n' req req' m, b n req = some m → b n' req' = some m → n = n')
    (hrec : ∀ n req m, b n req = some m → m.recordMessage = true)
    (history : List Message) (lines : List Line) (hfit : ∀ line ∈ lines, line.fits = true)
    (P : String) (hP : P ≠ "") :
    (bridgeKeys (processStream env history lines).effects).count P =
        (if (subEvents P (streamEvents lines)).isEmpty then 0 else 1) ∧
    (subEvents P (streamEvents lines) ≠ [] → ∃ j req m,
        (bridgeRequests (processStream env history lines).effects)[j]? = some (P, req) ∧
        b j req = some m ∧
        (childRecords m (processStream env history lines).effects).flatMap (·.content) =
          (subEvents P (streamEvents lines)).flatMap subBlocks ∧
        (workingCalls m (processStream env history lines).effects).getLast? = some false) ∧
    ∀ e ∈ (processStream env history lines).effects, GoodRecord e := by
  have hg : GoodBridge b := ⟨hsucc, hdistinct, hrec⟩
  have h := (Inv.mk (Bridged.init history) (Tracks.init (P := P) history)).foldl hb hg hP
    (streamEvents lines)
  rw [List.nil_append] at h
  simp only [processStream, scanLines_of_fits hfit, foldl_processLine]
  exact h.finish hg env

/-- A `Task` call `t1` whose sub-agent receives its prompt and answers. -/
theorem processStream_subagent_witness :
    let b : Nat → BridgeRequest → Option ChildManager := fun n _ => some ⟨n, true⟩
    let env : StreamEnv :=
      { conversationID := "c1"
        cwd := "/"
        recordMessage := true
        ccSubagentBridge := some b
        unmarshalTaskInput := fun _ => { description := "look around" } }
    let lines : List Line :=
      [⟨60, .object "assistant" (some { message :=
          { id := "m1", content := [{ type := "tool_use", id := "t1", name := "Task" }] } }),
        fun h => absurd h (Nat.succ_ne_zero 59)⟩,
       ⟨60, .object "user" (some
          { message := { content := [{ type := "text", text := "go" }] }
            parentToolUseID := "t1" }), fun h => absurd h (Nat.succ_ne_zero 59)⟩,
       ⟨60, .object "assistant" (some
          { message := { id := "s1", content := [{ type := "text", text := "done" }] }
            parentToolUseID := "t1" }), fun h => absurd h (Nat.succ_ne_zero 59)⟩]
    (∀ line ∈ lines, line.fits = true) ∧
    ((bridgeKeys (processStream env [] lines).effects).count "t1" =
        (if (subEvents "t1" (streamEvents lines)).isEmpty then 0 else 1) ∧
      (subEvents "t1" (streamEvents lines) ≠ [] → ∃ j req m,
        (bridgeRequests (processStream env [] lines).effects)[j]? = some ("t1", req) ∧
        b j req = some m ∧
        (childRecords m (processStream env [] lines).effects).flatMap (·.content) =
          (subEvents "t1" (streamEvents lines)).flatMap subBlocks ∧
        (workingCalls m (processStream env [] lines).effects).getLast? = some false) ∧
      ∀ e ∈ (processStream env [] lines).effects, GoodRecord e) := by
  intro b env lines
  refine ⟨by decide, processStream_subagent env b rfl (fun _ _ => rfl) ?_ ?_ [] lines (by decide)
    "t1" (by decide)⟩
  · intro n n' _ _ m h₁ h₂
    cases h₁; cases h₂; rfl
  · intro _ _ m h
    cases h; rfl

/-- Without the two conditions on `P` and on the managers, the statement fails. A `Task`
tool_use whose id is empty makes every later top-level event one "with
`parent_tool_use_id` = P", yet the bridge is never called for it. A manager returned without a
`recordMessage` callback receives none of its sub-agent's blocks. -/
theorem processStream_subagent_counterexample :
    let env : StreamEnv :=
      { conversationID := "c1"
        cwd := "/"
        recordMessage := true
        ccSubagentBridge := some fun n _ => some ⟨n, false⟩
        unmarshalTaskInput := fun _ => {} }
    let task (id : String) : Line :=
      ⟨60, .object "assistant" (some { message :=
          { id := "m1", content := [{ type := "tool_use", id, name := "Task" }] } }),
        fun h => absurd h (Nat.succ_ne_zero 59)⟩
    let prompt (parent : String) : Line :=
      ⟨60, .object "user" (some
          { message := { content := [{ type := "text", text := "go" }] }
            parentToolUseID := parent }), fun h => absurd h (Nat.succ_ne_zero 59)⟩
    (subEvents "" (streamEvents [task "", prompt ""])).length = 1 ∧
      (bridgeKeys (processStream env [] [task "", prompt ""]).effects).count "" = 0 ∧
    ((subEvents "t1" (streamEvents [task "t1", prompt "t1"])).flatMap subBlocks).length = 1 ∧
      bridgeKeys (processStream env [] [task "t1", prompt "t1"]).effects = ["t1"] ∧
      (childRecords ⟨0, false⟩ (processStream env [] [task "t1", prompt "t1"]).effects).length = 0 := by
  intro env task prompt
  decide

end Shelley.Server
