import Shelley.Server.Reassembly
import Shelley.Go.Basic

/-! # The inline stream loop of `processMessage`

`server/claudecode_loop.go` also holds a `claudeCodeLoop.processMessage` that reads the CLI's
stream inline instead of through `processStream`. Its closures `flushAssistant` and `flushUser`
are those of `processStream`, and so is its user branch (`Shelley.Server.handleUser`); it
routes no event to a sub-agent, and it returns `cmd.Wait()` without looking at
`scanner.Err()`. Its assistant branch opens a message only when the id changes,

    if ev.Message.ID != currentMsgID { ...; currentAssistantMsg = &llm.Message{...} }
    for _, c := range ev.Message.Content { ... currentAssistantMsg.Content = append(...) }

so a text, thinking or tool_use block that arrives under the current id with no message open
dereferences a nil `currentAssistantMsg`. No message is open before the first assistant event,
whose id the loop compares with `""`, and after a user event, which flushes the message.

The branch panics exactly then (`handleAssistant_eq_error`), and the loop panics exactly at
the first line where it does (`runLines_eq_panic`); on every other event it is the guarded
branch of `processStream` (`handleAssistant_eq_guarded`), whose message is always open
(`Shelley.Server.handleAssistant_open`). So on the lines the inline loop was written for (no
sub-agent event, a block in every assistant event), wherever it does not panic it records what
`processStream` records (`processMessageStream_eq_processStream`). -/

namespace Shelley.Server.InlineLoop
open Shelley.Go Llm

section
variable (env : StreamEnv)

/-- The assistant branch. The blocks are appended one by one through `currentAssistantMsg`;
the first text, thinking or tool_use block dereferences it, a panic when it is nil. -/
def handleAssistant (s : StreamState) (ev : SubagentStreamEvent) :
    Except RuntimeError StreamState :=
  let opened : StreamState :=
    if ev.message.id ≠ s.currentMsgID then
      { flushUser env (flushAssistant env s) with
          currentMsgID := ev.message.id
          currentAssistantMsg := some { role := .assistant } }
    else s
  let blocks := ev.message.content.filterMap assistantContent
  match opened.currentAssistantMsg with
  | some msg => .ok { opened with currentAssistantMsg := some (appendContent msg blocks) }
  | none => if blocks.isEmpty then .ok opened else .error .nilPointerDereference

/-- The body of the scan loop: empty, malformed and other lines are skipped, and every
`assistant` or `user` event is the main conversation's. -/
def processLine (s : StreamState) (line : Line) : Except RuntimeError StreamState :=
  if line.size = 0 then .ok s else
  match line.json with
  | .notObject => .ok s
  | .object typ ev =>
    if typ = "assistant" ∨ typ = "user" then
      match ev with
      | none => .ok s
      | some ev =>
        if typ = "assistant" then handleAssistant env s ev else .ok (handleUser env s ev)
    else .ok s

/-- The scan loop over the lines `bufio.Scanner` yields: the state it ends in, and the panic
that stopped it, with the state the panic found. -/
def runLines (s : StreamState) : List Line → StreamState × Option RuntimeError
  | [] => (s, none)
  | line :: lines =>
    match processLine env s line with
    | .ok s' => runLines s' lines
    | .error e => (s, some e)

/-- What the stream part of `processMessage` leaves behind: the loop's history, the calls it
made, and the panic that leaves it, if any. -/
structure InlineResult where
  history : List Message
  effects : List Effect
  panic : Option RuntimeError

/-- The stream part of `processMessage`, started with the loop's history: the scan loop, then
the deferred `flushAssistant(); flushUser()`, which also runs while a panic unwinds. -/
def processMessageStream (history : List Message) (lines : List Line) : InlineResult :=
  let r := runLines env { history } (scanLines lines).1
  let s := flushUser env (flushAssistant env r.1)
  { history := s.history, effects := s.effects, panic := r.2 }

/-! ## Where the loop panics -/

/-- The assistant branch panics exactly when the event keeps the current id, no message is
open, and the event has a block to append. -/
theorem handleAssistant_eq_error {s : StreamState} {ev : SubagentStreamEvent}
    {e : RuntimeError} :
    handleAssistant env s ev = .error e ↔
      ev.message.id = s.currentMsgID ∧ s.currentAssistantMsg = none ∧
        ev.message.content.filterMap assistantContent ≠ [] ∧ e = .nilPointerDereference := by
  unfold handleAssistant
  by_cases hid : ev.message.id = s.currentMsgID
  · rw [if_neg (not_not.mpr hid)]
    cases hs : s.currentAssistantMsg with
    | none =>
      simp only [hs]
      by_cases hb : (ev.message.content.filterMap assistantContent).isEmpty
      · simp only [hb, if_true, reduceCtorEq, false_iff]
        exact fun h => h.2.2.1 (List.isEmpty_iff.mp hb)
      · simp only [hb, Bool.false_eq_true, if_false, Except.error.injEq, true_and, hid, eq_comm]
        exact ⟨fun h => ⟨fun h' => hb (List.isEmpty_iff.mpr h'), h⟩, And.right⟩
    | some msg => simp [hs]
  · rw [if_pos hid]
    simp [hid]

theorem processLine_eq_error {s : StreamState} {line : Line} {e : RuntimeError} :
    processLine env s line = .error e ↔
      ∃ ev, line.size ≠ 0 ∧ line.json = .object "assistant" (some ev) ∧
        handleAssistant env s ev = .error e := by
  unfold processLine
  split
  · simp_all
  · rename_i hsize
    rcases hj : line.json with _ | ⟨typ, _ | ev⟩
    · simp
    · simp only [reduceCtorEq, LineJson.object.injEq, and_false, false_and, exists_false,
        iff_false]
      split <;> simp
    · by_cases ha : typ = "assistant"
      · subst ha
        simp [hsize]
      · simp only [LineJson.object.injEq, ha, false_and, and_false, exists_false, iff_false,
          false_or, if_false]
        split <;> simp

/-- **Where the loop panics.** The scan loop stops with a panic exactly at a line whose
assistant branch panics, after it ran the lines before it without one. -/
theorem runLines_eq_panic :
    ∀ {s s' : StreamState} {lines : List Line} {e : RuntimeError},
      runLines env s lines = (s', some e) ↔
        ∃ pre line post, lines = pre ++ line :: post ∧ runLines env s pre = (s', none) ∧
          processLine env s' line = .error e
  | s, s', [], e => by simp [runLines]
  | s, s', line :: lines, e => by
    unfold runLines
    rcases hl : processLine env s line with e' | s₁
    · simp only [Prod.mk.injEq, Option.some.injEq]
      constructor
      · rintro ⟨rfl, rfl⟩
        exact ⟨[], line, lines, rfl, rfl, hl⟩
      · rintro ⟨pre, line', post, hlines, hpre, hline⟩
        cases pre with
        | nil =>
          cases hpre
          cases hlines
          rw [hl] at hline
          cases hline
          exact ⟨rfl, rfl⟩
        | cons l pre =>
          cases hlines
          simp [runLines, hl] at hpre
    · dsimp only
      rw [runLines_eq_panic]
      constructor
      · rintro ⟨pre, line', post, rfl, hpre, hline⟩
        exact ⟨line :: pre, line', post, rfl, by simp [runLines, hl, hpre], hline⟩
      · rintro ⟨pre, line', post, hlines, hpre, hline⟩
        cases pre with
        | nil =>
          cases hlines
          simp [runLines] at hpre
          obtain ⟨rfl, -⟩ := hpre
          rw [hl] at hline
          cases hline
        | cons l pre =>
          cases hlines
          simp only [runLines, hl] at hpre
          exact ⟨pre, line', post, rfl, hpre, hline⟩

/-! ## The guarded branch -/

/-- Wherever the inline branch does not meet a missing message (the id changes, or a message
is open), it is `processStream`'s guarded branch. -/
theorem handleAssistant_eq_guarded {s : StreamState} {ev : SubagentStreamEvent}
    (h : ev.message.id ≠ s.currentMsgID ∨ s.currentAssistantMsg.isSome) :
    handleAssistant env s ev = .ok (Shelley.Server.handleAssistant env s ev) := by
  unfold handleAssistant Shelley.Server.handleAssistant
  by_cases hid : ev.message.id = s.currentMsgID
  · obtain ⟨msg, hmsg⟩ := Option.isSome_iff_exists.mp (h.resolve_left (not_not.mpr hid))
    simp [hid, hmsg]
  · simp [hid]

/-! ## Agreement with `processStream` -/

/-- The lines the inline loop was written for: every event a line holds is the main
conversation's, and an assistant event carries a block the loop keeps. -/
def plainLine (line : Line) : Bool :=
  match line.json with
  | .object typ (some ev) => ev.parentToolUseID == "" &&
      (typ != "assistant" || !(ev.message.content.filterMap assistantContent).isEmpty)
  | _ => true

/-- A plain line that is not a top-level event is skipped. -/
theorem processLine_of_topLevelEvent_none {s : StreamState} {line : Line}
    (hp : plainLine line = true) (hl : topLevelEvent line = none) :
    processLine env s line = .ok s := by
  unfold processLine
  split_ifs with h0
  · rfl
  rcases hj : line.json with _ | ⟨typ, _ | ev⟩
  · rfl
  · dsimp only
    split_ifs <;> rfl
  · simp only [plainLine, hj, Bool.and_eq_true, beq_iff_eq] at hp
    simp only [topLevelEvent, hj, hp.1, if_true] at hl
    have hty : ¬(typ = "assistant" ∨ typ = "user") := by
      split_ifs at hl with ha hu
      exact not_or.2 ⟨ha, hu⟩
    simp [hty]

/-- On a plain top-level event the inline loop, when it does not panic, takes the step of
`processStream`'s main conversation. -/
theorem processLine_of_topLevelEvent_some {s s' : StreamState} {line : Line} {e : TopEvent}
    (hp : plainLine line = true) (hl : topLevelEvent line = some e)
    (hs : processLine env s line = .ok s') : s' = mainStep env s e := by
  have h0 : line.size ≠ 0 := fun h => by simp [topLevelEvent, line.empty_notObject h] at hl
  unfold topLevelEvent at hl
  split at hl
  · rename_i typ ev hj
    split_ifs at hl with hpar ha hu <;> cases hl
    · obtain ⟨-, hblocks⟩ : ev.parentToolUseID = "" ∧
          ev.message.content.filterMap assistantContent ≠ [] := by
        simpa [plainLine, hj, ha] using hp
      have hguard : ev.message.id ≠ s.currentMsgID ∨ s.currentAssistantMsg.isSome := by
        by_contra hg
        simp only [not_or, not_not, Option.not_isSome_iff_eq_none] at hg
        have := (handleAssistant_eq_error env).2 ⟨hg.1, hg.2, hblocks, rfl⟩
        simp [processLine, h0, hj, ha, this] at hs
      simp only [processLine, h0, hj, ha, true_or, if_true, if_false,
        handleAssistant_eq_guarded env hguard, Except.ok.injEq] at hs
      exact hs.symm
    · simp [processLine, h0, hj, hu] at hs
      rw [← hs]
      rfl
  · cases hl

end

/-- **Run.** While the inline loop runs without a panic over plain lines, `processStream`'s
loop over the same lines agrees with it on the main conversation. -/
theorem runLines_sameMain (env : StreamEnv) :
    ∀ {s t : StreamState} {lines : List Line}, SameMain t s →
      (∀ line ∈ lines, plainLine line = true) → (runLines env s lines).2 = none →
      SameMain (lines.foldl (Shelley.Server.processLine env) t) (runLines env s lines).1
  | _, _, [], h, _, _ => h
  | s, t, line :: lines, h, hp, hnone => by
    have hp₀ := hp line (List.mem_cons_self _ _)
    unfold runLines at hnone ⊢
    cases hs : processLine env s line with
    | error e => rw [hs] at hnone; cases hnone
    | ok s' =>
      rw [hs] at hnone
      rw [List.foldl_cons]
      refine runLines_sameMain env ?_ (fun l hl => hp l (List.mem_cons_of_mem _ hl)) hnone
      cases hl : topLevelEvent line with
      | none =>
        rw [processLine_of_topLevelEvent_none env hp₀ hl, Except.ok.injEq] at hs
        exact hs ▸ (SameMain.processLine_of_none env t hl).trans h
      | some e =>
        obtain ⟨t', ht', hpt⟩ := Shelley.Server.processLine_of_some env t hl
        rw [hpt, processLine_of_topLevelEvent_some env hp₀ hl hs]
        exact (ht'.trans h).mainStep e

/-- **The inline loop against `processStream`.** On a stream of plain lines, wherever the inline
loop does not panic, it appends to the loop's history and records to its manager exactly what
`processStream` does: the newer loop adds sub-agent routing and the guard against a missing
message, and changes nothing where the inline loop works. -/
theorem processMessageStream_eq_processStream (env : StreamEnv) (history : List Message)
    (lines : List Line) (hp : ∀ line ∈ lines, plainLine line = true)
    (hpanic : (processMessageStream env history lines).panic = none) :
    (processMessageStream env history lines).history = (processStream env history lines).history ∧
      parentRecords (processMessageStream env history lines).effects =
        parentRecords (processStream env history lines).effects := by
  have hscan : ∀ line ∈ (scanLines lines).1, plainLine line = true := fun line hl =>
    hp line (List.takeWhile_subset _ (scanLines_fst lines ▸ hl))
  have h := (runLines_sameMain env (SameMain.refl { history }) hscan hpanic).flush env
  exact ⟨h.history.symm, h.records.symm.trans (parentRecords_finish _).symm⟩

/-- A turn the inline loop handles: a thinking block and a tool call under one id, the tool's
result, and the answer under a new id. -/
theorem processMessageStream_eq_processStream_turn :
    let env : StreamEnv :=
      { conversationID := "c1"
        cwd := "/"
        recordMessage := true
        ccSubagentBridge := none
        unmarshalTaskInput := fun _ => {} }
    let lines : List Line :=
      [⟨60, .object "assistant" (some { message :=
          { id := "m1", content := [{ type := "thinking", thinking := "plan" }] } }),
        fun h => absurd h (Nat.succ_ne_zero 59)⟩,
       ⟨60, .object "assistant" (some { message :=
          { id := "m1", content := [{ type := "tool_use", id := "t1", name := "Bash" }] } }),
        fun h => absurd h (Nat.succ_ne_zero 59)⟩,
       ⟨60, .object "user" (some { message :=
          { content := [{ type := "tool_result", toolUseID := "t1" }] } }),
        fun h => absurd h (Nat.succ_ne_zero 59)⟩,
       ⟨60, .object "assistant" (some { message :=
          { id := "m2", content := [{ type := "text", text := "done" }] } }),
        fun h => absurd h (Nat.succ_ne_zero 59)⟩]
    (∀ line ∈ lines, plainLine line = true) ∧ (processMessageStream env [] lines).panic = none ∧
      (processMessageStream env [] lines).history = (processStream env [] lines).history ∧
      parentRecords (processMessageStream env [] lines).effects =
        parentRecords (processStream env [] lines).effects := by
  intro env lines
  have hp : ∀ line ∈ lines, plainLine line = true := by decide
  have hpanic : (processMessageStream env [] lines).panic = none := by decide
  exact ⟨hp, hpanic, processMessageStream_eq_processStream env [] lines hp hpanic⟩

/-- A tool call, its result, and the text that follows under the same message id: the inline
loop panics on the text, after its deferred flushes record the two messages before it;
`processStream` records all three. A first assistant event with no id panics the same way. -/
theorem processMessageStream_nil_message :
    let env : StreamEnv :=
      { conversationID := "c1"
        cwd := "/"
        recordMessage := true
        ccSubagentBridge := none
        unmarshalTaskInput := fun _ => {} }
    let resumed : List Line :=
      [⟨60, .object "assistant" (some { message :=
          { id := "m1", content := [{ type := "tool_use", id := "t1", name := "Bash" }] } }),
        fun h => absurd h (Nat.succ_ne_zero 59)⟩,
       ⟨60, .object "user" (some { message :=
          { content := [{ type := "tool_result", toolUseID := "t1" }] } }),
        fun h => absurd h (Nat.succ_ne_zero 59)⟩,
       ⟨60, .object "assistant" (some { message :=
          { id := "m1", content := [{ type := "text", text := "done" }] } }),
        fun h => absurd h (Nat.succ_ne_zero 59)⟩]
    let first : List Line :=
      [⟨60, .object "assistant" (some { message := { content := [{ type := "text", text := "hi" }] } }),
        fun h => absurd h (Nat.succ_ne_zero 59)⟩]
    (processMessageStream env [] resumed).panic = some .nilPointerDereference ∧
      (processMessageStream env [] resumed).history.length = 2 ∧
      (processStream env [] resumed).history.length = 3 ∧
      (processMessageStream env [] first).panic = some .nilPointerDereference := by
  decide

end Shelley.Server.InlineLoop
