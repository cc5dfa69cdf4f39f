import Shelley.Server.Reassembly

/-! # Turns of the claude CLI loop

`claudeCodeLoop.processMessage` starts the claude CLI once per user message. The session
flag it passes is chosen by `isFirstTurn := len(l.history) == 0`: `--session-id` on what the
loop takes for a first turn, `--resume` otherwise, both with `conversationIDToUUID` of the
conversation. The history is the loop's own memory: `newClaudeCodeLoop` starts it empty and
only the flushes of `processStream` extend it.

Within one loop, once a turn has added a message to the history every later turn resumes
(`runTurns_resume_of_history`). A loop that `newClaudeCodeLoop` creates again for the same
conversation, or a first turn whose stream adds no message, starts a new session with the
same id (`runTurns_restart`, `runTurns_no_message_first`). The session id is a canonical UUID
(`isUUIDText_conversationIDToUUID`) from which the first 16 bytes of the digest read back
(`uuidBytes_conversationIDToUUID`). -/

namespace Shelley.Server
open Llm

/-- A SHA-256 digest: `sha256.Sum256` returns 32 bytes. -/
structure Digest where
  bytes : List UInt8
  length_eq : bytes.length = 32

/-- A lowercase hexadecimal digit. -/
def hexDigit (d : Nat) : Char := if d < 10 then Char.ofNat (48 + d) else Char.ofNat (87 + d)

/-- `%x` of a byte slice: two lowercase digits per byte. -/
def hexBytes (bs : List UInt8) : String :=
  String.mk (bs.flatMap fun b => [hexDigit (b.toNat / 16), hexDigit (b.toNat % 16)])

/-- `conversationIDToUUID`: the first 16 bytes of the id's SHA-256, as
`%08x-%04x-%04x-%04x-%012x` of the slices `[0:4]`, `[4:6]`, `[6:8]`, `[8:10]`, `[10:16]`.
`crypto/sha256` is library code and a parameter here. -/
def conversationIDToUUID (sha256 : String → Digest) (id : String) : String :=
  let h := (sha256 id).bytes
  hexBytes (h.take 4) ++ "-" ++ hexBytes ((h.drop 4).take 2) ++ "-" ++
    hexBytes ((h.drop 6).take 2) ++ "-" ++ hexBytes ((h.drop 8).take 2) ++ "-" ++
    hexBytes ((h.drop 10).take 6)

theorem length_hexBytes (bs : List UInt8) : (hexBytes bs).length = 2 * bs.length := by
  induction bs with
  | nil => rfl
  | cons b bs ih =>
    simp only [hexBytes, String.length, List.flatMap_cons, List.length_append] at ih ⊢
    rw [ih]
    simp only [List.length_cons, List.length_nil]
    omega

/-- The session id is a canonical UUID: 36 characters, 8-4-4-4-12. -/
theorem length_conversationIDToUUID (sha256 : String → Digest) (id : String) :
    (conversationIDToUUID sha256 id).length = 36 := by
  have h := (sha256 id).length_eq
  simp only [conversationIDToUUID, String.length_append, length_hexBytes, List.length_take,
    List.length_drop, h]
  rfl

/-! ## The session id reads back

`conversationIDToUUID` writes the first 16 bytes of the digest as a canonical UUID
(`isUUIDText_conversationIDToUUID`), and those bytes read back from it
(`uuidBytes_conversationIDToUUID`): two conversations share a session id only when their
digests agree on 16 bytes. -/

/-- The value of a lowercase hexadecimal digit. -/
def hexValue (c : Char) : Option Nat :=
  if '0' ≤ c ∧ c ≤ '9' then some (c.toNat - 48)
  else if 'a' ≤ c ∧ c ≤ 'f' then some (c.toNat - 87)
  else none

/-- The bytes that pairs of lowercase hexadecimal digits spell. -/
def unhexBytes : List Char → Option (List UInt8)
  | [] => some []
  | [_] => none
  | hi :: lo :: rest => do
    let h ← hexValue hi
    let l ← hexValue lo
    let bs ← unhexBytes rest
    return (16 * h + l).toUInt8 :: bs

/-- Whether a text is a canonical UUID: lowercase hexadecimal digits in groups of 8, 4, 4, 4 and
12, joined by dashes. -/
def isUUIDText (s : String) : Bool :=
  (s.toList.splitOn '-').map List.length == [8, 4, 4, 4, 12] &&
    s.toList.all fun c => c == '-' || (hexValue c).isSome

/-- The bytes a UUID text spells: its digits, the dashes dropped, read in pairs. -/
def uuidBytes (s : String) : Option (List UInt8) := unhexBytes (s.toList.filter (· != '-'))

/-- The slices of the digest that `conversationIDToUUID` writes, group by group. -/
def uuidGroups (h : List UInt8) : List (List UInt8) :=
  [h.take 4, (h.drop 4).take 2, (h.drop 6).take 2, (h.drop 8).take 2, (h.drop 10).take 6]

theorem hexDigit_spec : ∀ d < 16, hexValue (hexDigit d) = some d ∧ hexDigit d ≠ '-' := by
  decide

theorem toList_hexBytes_cons (b : UInt8) (bs : List UInt8) :
    (hexBytes (b :: bs)).toList =
      hexDigit (b.toNat / 16) :: hexDigit (b.toNat % 16) :: (hexBytes bs).toList := rfl

theorem toList_hexBytes_append (bs bs' : List UInt8) :
    (hexBytes (bs ++ bs')).toList = (hexBytes bs).toList ++ (hexBytes bs').toList := by
  simp [hexBytes, List.flatMap_append]

theorem digit_of_mem_hexBytes {c : Char} {bs : List UInt8} (h : c ∈ (hexBytes bs).toList) :
    (hexValue c).isSome ∧ c ≠ '-' := by
  induction bs with
  | nil => cases h
  | cons b bs ih =>
    have hb : b.toNat < 256 := b.toNat_lt_size
    rw [toList_hexBytes_cons] at h
    rcases List.mem_cons.1 h with rfl | h
    · obtain ⟨hv, hne⟩ := hexDigit_spec (b.toNat / 16) (by omega)
      exact ⟨by rw [hv]; rfl, hne⟩
    rcases List.mem_cons.1 h with rfl | h
    · obtain ⟨hv, hne⟩ := hexDigit_spec (b.toNat % 16) (by omega)
      exact ⟨by rw [hv]; rfl, hne⟩
    · exact ih h

/-- Hexadecimal digits read back as the bytes they were written from. -/
theorem unhexBytes_hexBytes (bs : List UInt8) : unhexBytes (hexBytes bs).toList = some bs := by
  induction bs with
  | nil => rfl
  | cons b bs ih =>
    have hb : b.toNat < 256 := b.toNat_lt_size
    have hbyte : (16 * (b.toNat / 16) + b.toNat % 16).toUInt8 = b := by
      rw [Nat.div_add_mod]
      exact UInt8.toNat.inj (UInt8.toNat_ofNat_of_lt hb)
    rw [toList_hexBytes_cons, unhexBytes, (hexDigit_spec _ (by omega)).1,
      (hexDigit_spec _ (by omega)).1, ih]
    simp [hbyte]

theorem toList_conversationIDToUUID (sha256 : String → Digest) (id : String) :
    (conversationIDToUUID sha256 id).toList =
      ['-'].intercalate ((uuidGroups (sha256 id).bytes).map fun g => (hexBytes g).toList) := by
  simp [conversationIDToUUID, uuidGroups, List.intercalate, List.append_assoc]

theorem flatten_uuidGroups (h : List UInt8) : (uuidGroups h).flatten = h.take 16 := by
  simp only [uuidGroups, List.flatten, List.append_nil, List.drop_drop]
  rw [show 16 = 4 + (2 + (2 + (2 + 6))) from rfl, List.take_add, List.take_add, List.take_add,
    List.take_add, List.drop_drop, List.drop_drop, List.drop_drop]

/-- Every character of the session id is a dash or a lowercase hexadecimal digit. -/
theorem mem_conversationIDToUUID {sha256 : String → Digest} {id : String} {c : Char}
    (hc : c ∈ (conversationIDToUUID sha256 id).toList) : c = '-' ∨ (hexValue c).isSome := by
  have hdash : "-".data = ['-'] := rfl
  simp only [conversationIDToUUID, String.toList, String.data_append, hdash, List.mem_append,
    List.mem_singleton, or_assoc] at hc
  rcases hc with h | h | h | h | h | h | h | h | h <;>
    first | exact .inl h | exact .inr (digit_of_mem_hexBytes h).1

/-- **The session id is a UUID.** Whatever the digest, `conversationIDToUUID` writes lowercase
hexadecimal digits in groups of 8, 4, 4, 4 and 12, joined by dashes. -/
theorem isUUIDText_conversationIDToUUID (sha256 : String → Digest) (id : String) :
    isUUIDText (conversationIDToUUID sha256 id) = true := by
  have hd := (sha256 id).length_eq
  have hgroups : ∀ g ∈ (uuidGroups (sha256 id).bytes).map fun g => (hexBytes g).toList,
      '-' ∉ g := by
    intro g hg hmem
    obtain ⟨g, -, rfl⟩ := List.mem_map.1 hg
    exact (digit_of_mem_hexBytes hmem).2 rfl
  simp only [isUUIDText, Bool.and_eq_true, beq_iff_eq, List.all_eq_true, Bool.or_eq_true]
  refine ⟨?_, fun c hc => by simpa using mem_conversationIDToUUID hc⟩
  rw [toList_conversationIDToUUID, List.splitOn_intercalate _ '-' hgroups (by simp [uuidGroups])]
  simp [uuidGroups, hd, show ∀ bs, (hexBytes bs).data.length = 2 * bs.length from length_hexBytes]

/-- **The session id reads back.** The bytes the session id spells are the first 16 bytes of
the conversation id's digest: two conversations get one session id only when their digests
agree on those bytes. -/
theorem uuidBytes_conversationIDToUUID (sha256 : String → Digest) (id : String) :
    uuidBytes (conversationIDToUUID sha256 id) = some ((sha256 id).bytes.take 16) := by
  have hnodash : ∀ bs : List UInt8, (hexBytes bs).data.filter (· != '-') = (hexBytes bs).data :=
    fun bs => List.filter_eq_self.2 fun c hc => by simpa using (digit_of_mem_hexBytes hc).2
  have hdash : "-".data = ['-'] := rfl
  have hfilter : List.filter (· != '-') ['-'] = [] := rfl
  have happend : ∀ bs bs' : List UInt8,
      (hexBytes (bs ++ bs')).data = (hexBytes bs).data ++ (hexBytes bs').data :=
    toList_hexBytes_append
  rw [uuidBytes, ← unhexBytes_hexBytes ((sha256 id).bytes.take 16), ← flatten_uuidGroups]
  simp only [conversationIDToUUID, uuidGroups, String.toList, String.data_append, hdash,
    List.filter_append, hnodash, hfilter, List.flatten, List.append_nil, List.nil_append, happend,
    List.append_assoc]

/-- The loop's state that `processMessage` reads and writes: its history. -/
structure ClaudeCodeLoop where
  history : List Message := []

/-- `newClaudeCodeLoop`: a loop with an empty history. -/
def newClaudeCodeLoop : ClaudeCodeLoop := {}

/-- The text of a user message: its text blocks, concatenated. -/
def promptOf (msg : Message) : String :=
  String.join ((msg.content.filter fun c => c.type == .text).map (·.text))

/-- What `processMessage` reads besides the message: the stream adapter's environment, the
temporary directory, and the hash. -/
structure TurnEnv where
  stream : StreamEnv
  tmpDir : String
  sha256 : String → Digest

/-- The arguments of `exec.CommandContext(ctx, "claude", args...)`. -/
def cliArgs (env : TurnEnv) (l : ClaudeCodeLoop) (msg : Message) : List String :=
  let mcpFile := Go.joinPath [env.tmpDir, "mcp_" ++ env.stream.conversationID ++ ".json"]
  let sessionID := conversationIDToUUID env.sha256 env.stream.conversationID
  let isFirstTurn := l.history.length = 0
  let args := ["-p", promptOf msg, "--verbose", "--output-format", "stream-json", "--max-turns",
    "25", "--permission-mode", "bypassPermissions", "--mcp-config", mcpFile,
    "--include-partial-messages"]
  if isFirstTurn then args ++ ["--session-id", sessionID] else args ++ ["--resume", sessionID]

/-- How the CLI process goes: `StdoutPipe` or `Start` fails, or it starts and writes `lines`. -/
inductive CliRun where
  | startFailed
  | started (lines : List Line)

/-- `processMessage`: the loop after the turn, and the arguments of the CLI it started. -/
def processMessage (env : TurnEnv) (l : ClaudeCodeLoop) (msg : Message) :
    CliRun → ClaudeCodeLoop × Option (List String)
  | .startFailed => (l, none)
  | .started lines =>
    ({ history := (processStream env.stream l.history lines).history }, some (cliArgs env l msg))

/-- What happens to a conversation's loop: a user message processed with the given CLI run, or
the loop replaced by `newClaudeCodeLoop` (manager evicted, server restarted). -/
inductive TurnEvent where
  | turn (msg : Message) (run : CliRun)
  | restart

/-- The arguments of every CLI start, in order. -/
def runTurns (env : TurnEnv) : ClaudeCodeLoop → List TurnEvent → List (List String)
  | _, [] => []
  | _, .restart :: evs => runTurns env newClaudeCodeLoop evs
  | l, .turn msg run :: evs =>
    (processMessage env l msg run).2.toList ++ runTurns env (processMessage env l msg run).1 evs

/-! ## The history only grows -/

theorem history_prefix_mainStep (env : StreamEnv) (s : StreamState) (e : TopEvent) :
    s.history <+: (mainStep env s e).history := by
  unfold mainStep handleAssistant handleUser
  split
  · dsimp only
    split_ifs
    · simp only [flushUser_history, flushAssistant_history, List.append_assoc]
      exact List.prefix_append _ _
    · exact List.prefix_refl _
  · simp

theorem history_prefix_processLine (env : StreamEnv) (s : StreamState) (line : Line) :
    s.history <+: (processLine env s line).history := by
  cases hl : topLevelEvent line with
  | none =>
    exact (SameMain.processLine_of_none env s hl).history ▸ List.prefix_refl _
  | some e =>
    obtain ⟨t, ht, hp⟩ := processLine_of_some env s hl
    rw [hp, ← ht.history]
    exact history_prefix_mainStep env t e

theorem history_prefix_processStream (env : StreamEnv) (history : List Message)
    (lines : List Line) : history <+: (processStream env history lines).history := by
  suffices h : ∀ (ls : List Line) (s : StreamState), s.history <+: (ls.foldl (processLine env) s).history by
    have := h (scanLines lines).1 { history }
    simp only [processStream, Shelley.Server.finish, flushUser_history, flushAssistant_history,
      List.append_assoc]
    exact this.trans (List.prefix_append _ _)
  intro ls
  induction ls with
  | nil => exact fun s => List.prefix_refl _
  | cons line rest ih => exact fun s => (history_prefix_processLine env s line).trans (ih _)

/-! ## The session flag -/

/-- The flag `processMessage` passes: `--resume` exactly when the loop's history is not
empty. -/
theorem cliArgs_session (env : TurnEnv) (l : ClaudeCodeLoop) (msg : Message) :
    (cliArgs env l msg).drop 12 = if l.history.length = 0 then
      ["--session-id", conversationIDToUUID env.sha256 env.stream.conversationID]
    else ["--resume", conversationIDToUUID env.sha256 env.stream.conversationID] := by
  simp only [cliArgs]
  split_ifs <;> exact List.drop_left' rfl

/-- Within one loop, once the history holds a message, every later CLI start resumes. -/
theorem runTurns_resume_of_history (env : TurnEnv) (l : ClaudeCodeLoop) (evs : List TurnEvent)
    (hl : l.history ≠ []) (hno : TurnEvent.restart ∉ evs) :
    ∀ args ∈ runTurns env l evs,
      args.drop 12 = ["--resume", conversationIDToUUID env.sha256 env.stream.conversationID] := by
  induction evs generalizing l with
  | nil => simp [runTurns]
  | cons ev evs ih =>
    rw [List.mem_cons, not_or] at hno
    cases ev with
    | restart => exact absurd rfl hno.1
    | turn msg run =>
      intro args hargs
      rw [runTurns, List.mem_append] at hargs
      cases run with
      | startFailed => exact ih l hl hno.2 args (by simpa [processMessage] using hargs)
      | started lines =>
        rcases hargs with h | h
        · simp only [processMessage, Option.toList_some, List.mem_singleton] at h
          rw [h, cliArgs_session, if_neg (by simpa using hl)]
        · refine ih _ ?_ hno.2 args h
          obtain ⟨t, ht⟩ := history_prefix_processStream env.stream l.history lines
          simp [processMessage, ← ht, hl]

theorem runTurns_resume_of_history_second :
    let env : TurnEnv :=
      { stream := { conversationID := "c1", cwd := "/", recordMessage := true,
                    ccSubagentBridge := none, unmarshalTaskInput := fun _ => {} }
        tmpDir := "/tmp"
        sha256 := fun _ => ⟨List.replicate 32 0, List.length_replicate 32 0⟩ }
    let l : ClaudeCodeLoop := { history := [{ role := .user }] }
    let evs : List TurnEvent :=
      [.turn { role := .user } .startFailed, .turn { role := .user } (.started [])]
    (l.history ≠ [] ∧ TurnEvent.restart ∉ evs) ∧
      ∀ args ∈ runTurns env l evs,
        args.drop 12 = ["--resume", conversationIDToUUID env.sha256 env.stream.conversationID] := by
  intro env l evs
  have hl : l.history ≠ [] := List.cons_ne_nil _ _
  have hno : TurnEvent.restart ∉ evs := by simp [evs]
  exact ⟨⟨hl, hno⟩, runTurns_resume_of_history env l evs hl hno⟩

/-- A stream without a top-level event adds nothing to the history. -/
theorem processStream_history_of_none (env : StreamEnv) (history : List Message)
    {lines : List Line} (h : ∀ line ∈ lines, topLevelEvent line = none) :
    (processStream env history lines).history = history := by
  have hrun : ∀ (ls : List Line) (s : StreamState), (∀ line ∈ ls, topLevelEvent line = none) →
      SameMain (ls.foldl (processLine env) s) s := by
    intro ls
    induction ls with
    | nil => exact fun s _ => SameMain.refl s
    | cons line rest ih =>
      intro s hs
      exact (ih _ fun l hl => hs l (List.mem_cons_of_mem _ hl)).trans
        (SameMain.processLine_of_none env s (hs line (List.mem_cons_self _ _)))
  have hs := hrun (scanLines lines).1 { history } fun l hl =>
    h l (List.takeWhile_subset _ (scanLines_fst lines ▸ hl))
  simp [processStream, Shelley.Server.finish, hs.assistant, hs.user, hs.history]

/-- A loop that `newClaudeCodeLoop` creates again for the conversation takes its next turn for
a first one: whatever the first turn's CLI wrote, both CLI starts pass `--session-id`. -/
theorem runTurns_restart (env : TurnEnv) (msg₁ msg₂ : Message) (lines₁ lines₂ : List Line) :
    (runTurns env newClaudeCodeLoop
        [.turn msg₁ (.started lines₁), .restart, .turn msg₂ (.started lines₂)]).map (·.drop 12) =
      [["--session-id", conversationIDToUUID env.sha256 env.stream.conversationID],
        ["--session-id", conversationIDToUUID env.sha256 env.stream.conversationID]] := by
  simp [runTurns, processMessage, cliArgs_session, newClaudeCodeLoop]

/-- A first turn whose stream has no top-level event (the CLI exits at once, or writes only
other events) leaves the next turn a first turn too. -/
theorem runTurns_no_message_first (env : TurnEnv) (msg₁ msg₂ : Message) {lines₁ : List Line}
    (lines₂ : List Line) (h : ∀ line ∈ lines₁, topLevelEvent line = none) :
    (runTurns env newClaudeCodeLoop [.turn msg₁ (.started lines₁), .turn msg₂ (.started lines₂)]).map
        (·.drop 12) =
      [["--session-id", conversationIDToUUID env.sha256 env.stream.conversationID],
        ["--session-id", conversationIDToUUID env.sha256 env.stream.conversationID]] := by
  simp [runTurns, processMessage, cliArgs_session, newClaudeCodeLoop,
    processStream_history_of_none _ _ h]

end Shelley.Server
