import Shelley.Db.Schema
import Mathlib.Data.List.Nodup
import Mathlib.Data.List.MinMax
import Mathlib.Order.Nat

/-! # The message store

The operations of `db.go` that write conversations and messages, each one write scope of the
pool, and runs of them: the pool has a single writer, so whatever the number of callers, the
scopes take effect one after another, in some order, each seeing what the previous left.

Sequence ids stay distinct within a conversation along every run, because the next one is
read in the same scope that inserts the row (`store_sequenceIDs`). `DeleteConversation`
removes a conversation with its messages, or fails and keeps everything
(`deleteConversation_outcome`). -/

namespace Shelley.Db

/-- `generateConversationID`: `"c"` and the first six characters of `rand.Text()`. -/
def generateConversationID (text : String) : Except DbError String :=
  if text.length < 6 then
    .error (.other ("rand.Text() returned insufficient characters: " ++ toString text.length))
  else .ok ("c" ++ text.take 6)

/-- `CreateMessageParams`, with the payloads as `json.Marshal` writes them (`none` for a nil
field). -/
structure CreateMessageParams where
  conversationID : String
  type : String
  llmData : Option String := none
  userData : Option String := none
  usageData : Option String := none
  displayData : Option String := none

namespace DB

/-- `DB.CreateConversation`; `text` is what `rand.Text()` returned. -/
def createConversation (fault : Option String) (text : String) (slug : Option String)
    (userInitiated : Bool) (cwd : Option String) (s : Store) :
    Except DbError Conversation × Store :=
  match generateConversationID text with
  | .error e => (.error (.wrap "failed to generate conversation ID" e), s)
  | .ok conversationID =>
    tx fault (Queries.createConversation conversationID slug userInitiated cwd) s

/-- `DB.CreateSubagentConversation`. -/
def createSubagentConversation (fault : Option String) (text : String) (slug parentID : String)
    (cwd : Option String) (s : Store) : Except DbError Conversation × Store :=
  match generateConversationID text with
  | .error e => (.error (.wrap "failed to generate conversation ID" e), s)
  | .ok conversationID =>
    tx fault (Queries.createSubagentConversation conversationID (some slug) cwd (some parentID)) s

/-- `DB.CreateMessage`; `messageID` is what `uuid.New()` returned. The next sequence id is
read and the row inserted in one write scope. -/
def createMessage (fault : Option String) (messageID : String) (params : CreateMessageParams)
    (s : Store) : Except DbError MessageRow × Store :=
  tx fault (fun s =>
    match Queries.getNextSequenceID params.conversationID s with
    | .error e => .error (.wrap "failed to get next sequence ID" e)
    | .ok (sequenceID, s) =>
      Queries.createMessage
        { messageID, conversationID := params.conversationID, sequenceID, type := params.type,
          llmData := params.llmData, userData := params.userData, usageData := params.usageData,
          displayData := params.displayData } s) s

/-- `DB.ArchiveConversation`. -/
def archiveConversation (fault : Option String) (conversationID : String) (s : Store) :
    Except DbError Conversation × Store :=
  tx fault (Queries.archiveConversation conversationID) s

/-- `DB.UnarchiveConversation`. -/
def unarchiveConversation (fault : Option String) (conversationID : String) (s : Store) :
    Except DbError Conversation × Store :=
  tx fault (Queries.unarchiveConversation conversationID) s

/-- `DB.UpdateConversationSlug`. -/
def updateConversationSlug (fault : Option String) (conversationID slug : String) (s : Store) :
    Except DbError Conversation × Store :=
  tx fault (Queries.updateConversationSlug (some slug) conversationID) s

/-- `DB.UpdateConversationCwd`. -/
def updateConversationCwd (fault : Option String) (conversationID cwd : String) (s : Store) :
    Except DbError Unit × Store :=
  match tx fault (Queries.updateConversationCwd (some cwd) conversationID) s with
  | (.ok _, s') => (.ok (), s')
  | (.error e, s') => (.error e, s')

/-- `DB.DeleteConversation`: the messages, then the conversation, in one write scope. -/
def deleteConversation (fault : Option String) (conversationID : String) (s : Store) :
    Except DbError Unit × Store :=
  tx fault (fun s =>
    match Queries.deleteConversationMessages conversationID s with
    | .error e => .error (.wrap "failed to delete messages" e)
    | .ok ((), s) => Queries.deleteConversation conversationID s) s

/-- `DB.GetConversationBySlugAndParent`: the conversation, or `nil` without error when there is
none. -/
def getConversationBySlugAndParent (fault : Option String) (slug parentID : String) (s : Store) :
    Except DbError (Option Conversation) :=
  match rx fault (Queries.getConversationBySlugAndParent (some slug) (some parentID)) s with
  | .ok c => .ok (some c)
  | .error (.sql .noRows) => .ok none
  | .error e => .error e

end DB

/-- A call of one of the store's write operations, with what it draws at random (`rand.Text()`,
`uuid.New()`) and the failure of the environment it meets, if any. -/
inductive Call where
  | createConversation (fault : Option String) (text : String) (slug : Option String)
      (userInitiated : Bool) (cwd : Option String)
  | createSubagentConversation (fault : Option String) (text : String) (slug parentID : String)
      (cwd : Option String)
  | createMessage (fault : Option String) (messageID : String) (params : CreateMessageParams)
  | archiveConversation (fault : Option String) (conversationID : String)
  | unarchiveConversation (fault : Option String) (conversationID : String)
  | updateConversationSlug (fault : Option String) (conversationID slug : String)
  | updateConversationCwd (fault : Option String) (conversationID cwd : String)
  | deleteConversation (fault : Option String) (conversationID : String)

/-- The tables after a call. -/
def Call.apply (s : Store) : Call → Store
  | .createConversation fault text slug userInitiated cwd =>
    (DB.createConversation fault text slug userInitiated cwd s).2
  | .createSubagentConversation fault text slug parentID cwd =>
    (DB.createSubagentConversation fault text slug parentID cwd s).2
  | .createMessage fault messageID params => (DB.createMessage fault messageID params s).2
  | .archiveConversation fault conversationID => (DB.archiveConversation fault conversationID s).2
  | .unarchiveConversation fault conversationID =>
    (DB.unarchiveConversation fault conversationID s).2
  | .updateConversationSlug fault conversationID slug =>
    (DB.updateConversationSlug fault conversationID slug s).2
  | .updateConversationCwd fault conversationID cwd =>
    (DB.updateConversationCwd fault conversationID cwd s).2
  | .deleteConversation fault conversationID => (DB.deleteConversation fault conversationID s).2

/-- The tables after the calls, in the order the writer serializes them. -/
def runCalls (s : Store) (calls : List Call) : Store := calls.foldl Call.apply s

@[simp] theorem runCalls_nil (s : Store) : runCalls s [] = s := rfl

/-- Whether a call deletes the conversation `c`. -/
def Call.deletes (c : String) : Call → Bool
  | .deleteConversation _ conversationID => conversationID == c
  | _ => false

/-! ## What each statement does to `messages` -/

section
variable {α : Type}

theorem tx_messages (fault : Option String) (body : Stmt α) (s : Store)
    (h : ∀ a s', body s = .ok (a, s') → s'.messages = s.messages) :
    (tx fault body s).2.messages = s.messages := by
  rcases tx_cases fault body s with ⟨a, s', -, hb, ht⟩ | ⟨e, ht⟩ <;> rw [ht]
  exact h a s' hb

theorem insertConversation_messages {row : Conversation} {s : Store} {a : Conversation}
    {s' : Store} (h : insertConversation row s = .ok (a, s')) : s'.messages = s.messages := by
  unfold insertConversation at h
  split_ifs at h
  cases h
  rfl

theorem updateConversation_messages {conversationID : String} {f : Conversation → Conversation}
    {s : Store} {a : Conversation} {s' : Store}
    (h : updateConversation conversationID f s = .ok (a, s')) :
    s'.messages = s.messages := by
  unfold updateConversation at h
  split at h
  · cases h
  · split_ifs at h
    cases h
    rfl

end

/-! ## Sequence ids -/

/-- The next sequence id is above every stored one of the conversation. -/
theorem lt_nextSequenceID {s : Store} {c : String} {m : MessageRow} (hm : m ∈ s.messages)
    (hc : m.conversationID = c) : m.sequenceID < nextSequenceID s c := by
  unfold nextSequenceID
  have hmem : m ∈ s.messages.filter (·.conversationID == c) :=
    List.mem_filter.mpr ⟨hm, by simp [hc]⟩
  exact Nat.lt_succ_of_le (List.le_max_of_le (List.mem_map_of_mem (·.sequenceID) hmem) le_rfl)

/-- With no stored message of the conversation, the next sequence id is 1. -/
theorem nextSequenceID_of_none {s : Store} {c : String}
    (h : ∀ m ∈ s.messages, m.conversationID ≠ c) :
    nextSequenceID s c = 1 := by
  unfold nextSequenceID
  rw [List.filter_eq_nil_iff.mpr (fun m hm => by simpa using h m hm)]
  rfl

/-- What `DB.CreateMessage` does: nothing, or it adds one row carrying the next sequence id of
its conversation and returns it. -/
theorem createMessage_cases (fault : Option String) (messageID : String) (p : CreateMessageParams)
    (s : Store) :
    (DB.createMessage fault messageID p s).2 = s ∧
      (∀ row, (DB.createMessage fault messageID p s).1 ≠ .ok row) ∨
    ∃ row, (DB.createMessage fault messageID p s).1 = .ok row ∧
      (DB.createMessage fault messageID p s).2.messages = s.messages ++ [row] ∧
      row.conversationID = p.conversationID ∧
      row.sequenceID = nextSequenceID s p.conversationID := by
  unfold DB.createMessage
  rcases tx_cases fault _ s with ⟨row, s', -, hb, ht⟩ | ⟨e, ht⟩ <;> rw [ht]
  · simp only [Queries.getNextSequenceID, Queries.createMessage] at hb
    split_ifs at hb
    cases hb
    exact .inr ⟨_, rfl, rfl, rfl, rfl⟩
  · exact .inl ⟨rfl, fun row h => by cases h⟩

/-- The messages of `c` in `s` are all still in `s'`. -/
def KeepsMessages (c : String) (s s' : Store) : Prop :=
  ∀ m ∈ s.messages, m.conversationID = c → m ∈ s'.messages

theorem KeepsMessages.refl (c : String) (s : Store) : KeepsMessages c s s := fun _ hm _ => hm

theorem KeepsMessages.trans {c : String} {s₁ s₂ s₃ : Store} (h₁ : KeepsMessages c s₁ s₂)
    (h₂ : KeepsMessages c s₂ s₃) : KeepsMessages c s₁ s₃ :=
  fun m hm hc => h₂ m (h₁ m hm hc) hc

/-- A successful `DB.CreateMessage` adds exactly the row it returns: the parameters, the drawn
id and the next sequence id of the conversation. -/
theorem createMessage_eq_ok {fault : Option String} {messageID : String}
    {p : CreateMessageParams} {s : Store} {row : MessageRow}
    (h : (DB.createMessage fault messageID p s).1 = .ok row) :
    row = { messageID, conversationID := p.conversationID,
            sequenceID := nextSequenceID s p.conversationID, type := p.type,
            llmData := p.llmData, userData := p.userData, usageData := p.usageData,
            displayData := p.displayData } ∧
      (DB.createMessage fault messageID p s).2.messages = s.messages ++ [row] := by
  unfold DB.createMessage at h ⊢
  rcases tx_cases fault _ s with ⟨row', s', -, hb, ht⟩ | ⟨e, ht⟩ <;> rw [ht] at h ⊢
  · simp only [Queries.getNextSequenceID, Queries.createMessage] at hb
    split_ifs at hb
    cases hb
    cases h
    exact ⟨rfl, rfl⟩
  · cases h

/-- `DB.CreateMessage` removes no message. -/
theorem createMessage_keepsMessages (c : String) (fault : Option String) (messageID : String)
    (p : CreateMessageParams) (s : Store) :
    KeepsMessages c s (DB.createMessage fault messageID p s).2 := by
  intro m hm _
  rcases createMessage_cases fault messageID p s with ⟨h, -⟩ | ⟨row, -, h, -⟩ <;> rw [h]
  · exact hm
  · exact List.mem_append_left _ hm

/-- `DB.CreateMessage` without a failure of the environment, of an id no stored message has,
in an existing conversation, stores the row it returns and changes nothing else. -/
theorem createMessage_of_fresh {messageID : String} {p : CreateMessageParams} {s : Store}
    (hid : s.messages.any (·.messageID == messageID) = false)
    (hconv : s.conversations.any (·.conversationID == p.conversationID) = true) :
    ∃ row, DB.createMessage none messageID p s =
      (.ok row, { s with messages := s.messages ++ [row] }) := by
  simp [DB.createMessage, tx, Queries.getNextSequenceID, Queries.createMessage, hid, hconv]

theorem foldr_max_eq (l : List Nat) (a : Nat) : l.foldr max a = max a (l.foldr max 0) := by
  induction l with
  | nil => simp
  | cons x l ih => simp only [List.foldr_cons, ih]; omega

/-- Storing the row `DB.CreateMessage` makes raises its conversation's next sequence id by one. -/
theorem nextSequenceID_append_next {s : Store} {row : MessageRow}
    (h : row.sequenceID = nextSequenceID s row.conversationID) :
    nextSequenceID { s with messages := s.messages ++ [row] } row.conversationID =
      nextSequenceID s row.conversationID + 1 := by
  unfold nextSequenceID at h ⊢
  simp only [List.filter_append, List.filter_cons, beq_self_eq_true, ite_true, List.filter_nil,
    List.map_append, List.map_cons, List.map_nil, List.foldr_append, List.foldr_cons,
    List.foldr_nil]
  rw [foldr_max_eq]
  omega

/-- What every call does to `messages`: nothing, keep those of other conversations, or add one
row with the next sequence id of its conversation. -/
theorem Call.apply_messages (s : Store) (call : Call) :
    (call.apply s).messages = s.messages ∨
    (∃ c, call.deletes c = true ∧
      (call.apply s).messages = s.messages.filter (·.conversationID != c)) ∨
    ∃ row, (call.apply s).messages = s.messages ++ [row] ∧
      row.sequenceID = nextSequenceID s row.conversationID := by
  cases call with
  | createConversation | createSubagentConversation =>
    left
    simp only [Call.apply, DB.createConversation, DB.createSubagentConversation]
    split
    · rfl
    · exact tx_messages _ _ _ fun _ _ h => insertConversation_messages h
  | createMessage fault messageID params =>
    rcases createMessage_cases fault messageID params s with ⟨h, -⟩ | ⟨row, -, h, hc, hseq⟩
    · exact .inl (by simp [Call.apply, h])
    · exact .inr (.inr ⟨row, h, hc ▸ hseq⟩)
  | archiveConversation | unarchiveConversation | updateConversationSlug =>
    exact .inl (tx_messages _ _ _ fun _ _ h => updateConversation_messages h)
  | updateConversationCwd fault conversationID cwd =>
    left
    have := tx_messages fault (Queries.updateConversationCwd (some cwd) conversationID) s
      fun _ _ h => updateConversation_messages h
    simp only [Call.apply, DB.updateConversationCwd]
    split <;> rename_i heq <;> rw [heq] at this <;> exact this
  | deleteConversation fault conversationID =>
    simp only [Call.apply, DB.deleteConversation]
    rcases tx_cases fault _ s with ⟨u, s', -, hb, ht⟩ | ⟨e, ht⟩ <;> rw [ht]
    · simp only [Queries.deleteConversationMessages, Queries.deleteConversation] at hb
      split_ifs at hb
      cases hb
      exact .inr (.inl ⟨conversationID, by simp [Call.deletes], rfl⟩)
    · exact .inl rfl

/-- A call keeps every message of a conversation it does not delete. -/
theorem Call.keepsMessages {c : String} {call : Call} (hcall : call.deletes c = false)
    (s : Store) : KeepsMessages c s (call.apply s) := by
  intro m hm hc
  rcases Call.apply_messages s call with he | ⟨c', hdel, he⟩ | ⟨row, he, -⟩ <;> rw [he]
  · exact hm
  · have hne : c' ≠ c := by rintro rfl; rw [hdel] at hcall; cases hcall
    simpa [hc] using ⟨hm, Ne.symm hne⟩
  · exact List.mem_append_left _ hm

theorem runCalls_keepsMessages {c : String} {calls : List Call}
    (hcalls : ∀ call ∈ calls, call.deletes c = false) (s : Store) :
    KeepsMessages c s (runCalls s calls) := by
  induction calls generalizing s with
  | nil => exact KeepsMessages.refl c s
  | cons call calls ih =>
    exact (Call.keepsMessages (hcalls call (.head _)) s).trans
      (ih (fun call' h => hcalls call' (.tail _ h)) _)

/-- Sequence ids are distinct within each conversation. -/
def SeqDistinct (s : Store) : Prop :=
  (s.messages.map fun m => (m.conversationID, m.sequenceID)).Nodup

theorem SeqDistinct.apply {s : Store} (h : SeqDistinct s) (call : Call) :
    SeqDistinct (call.apply s) := by
  rcases Call.apply_messages s call with he | ⟨c, -, he⟩ | ⟨row, he, hseq⟩ <;>
    unfold SeqDistinct <;> rw [he]
  · exact h
  · exact (h.sublist (List.filter_sublist _ |>.map _))
  · rw [List.map_append]
    refine h.append (List.nodup_singleton _) (List.disjoint_singleton.mpr ?_)
    simp only [List.mem_map, not_exists, not_and]
    intro m hm heq
    have hlt := lt_nextSequenceID hm (congrArg Prod.fst heq)
    rw [← hseq] at hlt
    exact hlt.ne (congrArg Prod.snd heq)

theorem SeqDistinct.runCalls {s : Store} (h : SeqDistinct s) (calls : List Call) :
    SeqDistinct (runCalls s calls) := by
  induction calls generalizing s with
  | nil => exact h
  | cons call calls ih => exact ih (h.apply call)

/-- **Sequence ids.** In every state that a run of the store's operations reaches from the
empty tables, the messages of each conversation have distinct sequence ids; and a successful
`CreateMessage`, from any state, gives its row a sequence id above those of every message then
stored in its conversation, and 1 when there is none. -/
theorem store_sequenceIDs :
    (∀ calls : List Call,
      ((runCalls {} calls).messages.map fun m => (m.conversationID, m.sequenceID)).Nodup) ∧
    ∀ (s : Store) (fault : Option String) (messageID : String) (p : CreateMessageParams)
      (row : MessageRow), (DB.createMessage fault messageID p s).1 = .ok row →
      row.conversationID = p.conversationID ∧
      (∀ m ∈ s.messages, m.conversationID = p.conversationID → m.sequenceID < row.sequenceID) ∧
      ((∀ m ∈ s.messages, m.conversationID ≠ p.conversationID) → row.sequenceID = 1) := by
  refine ⟨fun calls => SeqDistinct.runCalls (show SeqDistinct {} from List.nodup_nil) calls, ?_⟩
  intro s fault messageID p row hrow
  rcases createMessage_cases fault messageID p s with ⟨-, hne⟩ | ⟨row', hr, -, hc, hseq⟩
  · exact absurd hrow (hne row)
  · rw [hr, Except.ok.injEq] at hrow
    subst hrow
    exact ⟨hc, fun m hm hm' => hseq ▸ lt_nextSequenceID hm hm',
      fun h => hseq ▸ nextSequenceID_of_none h⟩

/-- A third message of a conversation that holds two gets sequence id 3. -/
theorem store_sequenceIDs_third :
    let s : Store :=
      { conversations := [⟨"cabcdef", none, true, none, none, false⟩]
        messages := [⟨"m1", "cabcdef", 1, "user", none, none, none, none⟩,
          ⟨"m2", "cabcdef", 2, "agent", none, none, none, none⟩] }
    let p : CreateMessageParams := { conversationID := "cabcdef", type := "user" }
    let row : MessageRow := ⟨"m3", "cabcdef", 3, "user", none, none, none, none⟩
    (DB.createMessage none "m3" p s).1 = .ok row ∧
      row.conversationID = p.conversationID ∧
      (∀ m ∈ s.messages, m.conversationID = p.conversationID → m.sequenceID < row.sequenceID) ∧
      ((∀ m ∈ s.messages, m.conversationID ≠ p.conversationID) → row.sequenceID = 1) := by
  intro s p row
  have h : (DB.createMessage none "m3" p s).1 = .ok row := rfl
  exact ⟨h, store_sequenceIDs.2 s none "m3" p row h⟩

/-! ## Deleting a conversation -/

/-- `DB.DeleteConversation` when the environment does not fail: the conversation goes with its
messages, unless another conversation names it as parent. -/
theorem deleteConversation_none (s : Store) (c : String) :
    DB.deleteConversation none c s =
      if (s.conversations.filter (·.conversationID != c)).any (·.parentConversationID == some c)
      then (.error (.sql .foreignKey), s)
      else (.ok (), { conversations := s.conversations.filter (·.conversationID != c)
                      messages := s.messages.filter (·.conversationID != c) }) := by
  have hm : (s.messages.filter (·.conversationID != c)).any (·.conversationID == c) = false := by
    simp
  split_ifs with hp <;>
    simp [DB.deleteConversation, tx, Queries.deleteConversationMessages, Queries.deleteConversation,
      hp, hm]

/-- **Deleting a conversation.** From any state, `DB.DeleteConversation(c)` either succeeds, and
then exactly the conversation `c` and the messages of `c` are gone, or fails and changes
nothing. Without a failure of the environment it fails exactly when another conversation has
`c` as its parent. -/
theorem deleteConversation_outcome (s : Store) (fault : Option String) (c : String) :
    ((DB.deleteConversation fault c s).1 = .ok () ∧
      (DB.deleteConversation fault c s).2 =
        { conversations := s.conversations.filter (·.conversationID != c)
          messages := s.messages.filter (·.conversationID != c) } ∨
      (∃ e, (DB.deleteConversation fault c s).1 = .error e) ∧
        (DB.deleteConversation fault c s).2 = s) ∧
    (fault = none → ((∃ e, (DB.deleteConversation fault c s).1 = .error e) ↔
      ∃ x ∈ s.conversations, x.conversationID ≠ c ∧ x.parentConversationID = some c)) := by
  have hiff : (s.conversations.filter (·.conversationID != c)).any
      (·.parentConversationID == some c) = true ↔
      ∃ x ∈ s.conversations, x.conversationID ≠ c ∧ x.parentConversationID = some c := by
    simp [List.any_eq_true, and_assoc]
  rcases fault with _ | text
  · rw [deleteConversation_none]
    split_ifs with hp
    · exact ⟨.inr ⟨⟨_, rfl⟩, rfl⟩,
        fun _ => ⟨fun _ => hiff.mp hp, fun _ => ⟨_, rfl⟩⟩⟩
    · refine ⟨.inl ⟨rfl, rfl⟩,
        fun _ => ⟨fun ⟨e, he⟩ => ?_, fun h => absurd (hiff.mpr h) hp⟩⟩
      cases he
  · exact ⟨.inr ⟨⟨_, rfl⟩, rfl⟩, fun h => by cases h⟩

end Shelley.Db
