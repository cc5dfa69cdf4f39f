import Mathlib.Data.List.Basic

/-! # The tables and the pool of the message store

The rows of `conversations` and `messages` with the columns the store's operations write or
check, the errors of the SQLite driver, and the SQL statements the store runs. The schema
files and the sqlc queries that create the two tables and implement the statements are not
in this repository's sources (only `016-settings.sql` and the migration adding
`parent_conversation_id` are); the statements are modelled from the specification, each with
the constraints it checks. So are the pool's scopes: a write scope runs its statements on the
single writer and keeps their effect only when it returns no error; a busy writer or a
cancelled context fails the scope before any effect is kept.

Timestamps (`created_at`, `updated_at`) are left out: no operation reads them. -/

namespace Shelley.Db

/-- A row of `conversations`. -/
structure Conversation where
  conversationID : String
  slug : Option String
  userInitiated : Bool
  cwd : Option String
  parentConversationID : Option String
  archived : Bool
deriving DecidableEq, Repr

/-- A row of `messages`; the JSON payloads are kept as their text. -/
structure MessageRow where
  messageID : String
  conversationID : String
  sequenceID : Nat
  type : String
  llmData : Option String
  userData : Option String
  usageData : Option String
  displayData : Option String
deriving DecidableEq, Repr

/-- The two tables. -/
structure Store where
  conversations : List Conversation := []
  messages : List MessageRow := []
deriving DecidableEq, Repr

/-- An error of the driver: a violated constraint, `sql.ErrNoRows`, a statement SQLite cannot
run (`no such table`, `duplicate column name`) with its text, or a failure of the environment
(a busy writer, a cancelled context) with its text. -/
inductive SqlError where
  | unique (columns : String)
  | foreignKey
  | noRows
  | logic (text : String)
  | env (text : String)
deriving DecidableEq, Repr

/-- The text of a driver error. -/
def SqlError.text : SqlError → String
  | .unique columns => "UNIQUE constraint failed: " ++ columns
  | .foreignKey => "FOREIGN KEY constraint failed"
  | .noRows => "sql: no rows in result set"
  | .logic text => text
  | .env text => text

/-- An error as `db.go` returns it: the driver's own, one wrapped by `fmt.Errorf` with `%w`,
or a new one. -/
inductive DbError where
  | sql (e : SqlError)
  | wrap (context : String) (e : DbError)
  | other (msg : String)
deriving DecidableEq, Repr

/-- `err.Error()`. -/
def DbError.text : DbError → String
  | .sql e => e.text
  | .wrap context e => context ++ ": " ++ e.text
  | .other msg => msg

/-- A statement: it fails, changing nothing, or returns a value and the tables after it. -/
abbrev Stmt (α : Type) := Store → Except DbError (α × Store)

/-! ## The statements

The sqlc queries (`generated.Queries`) that `db.go` calls, modelled from the specification. -/

/-- Two rows that the slug index keeps apart: the same slug under the same parent. -/
def sameSlot (a b : Conversation) : Bool :=
  a.slug.isSome && a.slug == b.slug && a.parentConversationID == b.parentConversationID

/-- Modelled from the spec: `INSERT INTO conversations`, with the primary key on
`conversation_id`, a slug "unique among siblings of the same parent", and the foreign key
`parent_conversation_id REFERENCES conversations(conversation_id)`. -/
def insertConversation (row : Conversation) : Stmt Conversation := fun s =>
  if s.conversations.any (·.conversationID == row.conversationID) then
    .error (.sql (.unique "conversations.conversation_id"))
  else if s.conversations.any (sameSlot row) then
    .error (.sql (.unique "conversations.slug, conversations.parent_conversation_id"))
  else if row.parentConversationID.any fun p => !s.conversations.any (·.conversationID == p) then
    .error (.sql .foreignKey)
  else .ok (row, { s with conversations := s.conversations ++ [row] })

/-- The next sequence id of a conversation: one more than the largest stored, or 1. -/
def nextSequenceID (s : Store) (conversationID : String) : Nat :=
  ((s.messages.filter (·.conversationID == conversationID)).map (·.sequenceID)).foldr max 0 + 1

/-- Modelled from the spec: an `UPDATE conversations ... WHERE conversation_id = ?
RETURNING *` that sets `f` of the row; `sql.ErrNoRows` when there is no such row, and the
slug index checked against the other rows. -/
def updateConversation (conversationID : String) (f : Conversation → Conversation) :
    Stmt Conversation := fun s =>
  match s.conversations.find? (·.conversationID == conversationID) with
  | none => .error (.sql .noRows)
  | some row =>
    if (s.conversations.filter (·.conversationID != conversationID)).any (sameSlot (f row)) then
      .error (.sql (.unique "conversations.slug, conversations.parent_conversation_id"))
    else
      .ok (f row, { s with
        conversations := s.conversations.map fun c =>
          if c.conversationID == conversationID then f c else c })

/-- The rows that `GetConversationBySlugAndParent` selects. -/
def slugAndParent (slug parentID : Option String) (c : Conversation) : Bool :=
  c.slug == slug && c.parentConversationID == parentID

namespace Queries

/-- Modelled from the spec: `CreateConversation`, a top-level conversation. -/
def createConversation (conversationID : String) (slug : Option String) (userInitiated : Bool)
    (cwd : Option String) : Stmt Conversation :=
  insertConversation
    { conversationID, slug, userInitiated, cwd, parentConversationID := none, archived := false }

/-- Modelled from the spec: `CreateSubagentConversation`, a conversation with a parent. -/
def createSubagentConversation (conversationID : String) (slug : Option String)
    (cwd : Option String) (parentConversationID : Option String) : Stmt Conversation :=
  insertConversation
    { conversationID, slug, userInitiated := false, cwd, parentConversationID, archived := false }

/-- Modelled from the spec: `GetNextSequenceID`, "`max(existing)+1` or 1". -/
def getNextSequenceID (conversationID : String) : Stmt Nat := fun s =>
  .ok (nextSequenceID s conversationID, s)

/-- Modelled from the spec: `CreateMessage`, an `INSERT INTO messages` with the primary key on
`message_id` and the foreign key on `conversation_id`. -/
def createMessage (row : MessageRow) : Stmt MessageRow := fun s =>
  if s.messages.any (·.messageID == row.messageID) then
    .error (.sql (.unique "messages.message_id"))
  else if !s.conversations.any (·.conversationID == row.conversationID) then
    .error (.sql .foreignKey)
  else .ok (row, { s with messages := s.messages ++ [row] })

/-- Modelled from the spec: `DeleteConversationMessages`. -/
def deleteConversationMessages (conversationID : String) : Stmt Unit := fun s =>
  .ok ((), { s with messages := s.messages.filter (·.conversationID != conversationID) })

/-- Modelled from the spec: `DeleteConversation`. The row goes; a row still referring to it,
a message or another conversation's `parent_conversation_id`, fails the foreign key. -/
def deleteConversation (conversationID : String) : Stmt Unit := fun s =>
  let rest := s.conversations.filter (·.conversationID != conversationID)
  if rest.any (·.parentConversationID == some conversationID) ||
      s.messages.any (·.conversationID == conversationID) then
    .error (.sql .foreignKey)
  else .ok ((), { s with conversations := rest })

/-- Modelled from the spec: `ArchiveConversation`. -/
def archiveConversation (conversationID : String) : Stmt Conversation :=
  updateConversation conversationID fun c => { c with archived := true }

/-- Modelled from the spec: `UnarchiveConversation`. -/
def unarchiveConversation (conversationID : String) : Stmt Conversation :=
  updateConversation conversationID fun c => { c with archived := false }

/-- Modelled from the spec: `UpdateConversationSlug`. -/
def updateConversationSlug (slug : Option String) (conversationID : String) : Stmt Conversation :=
  updateConversation conversationID fun c => { c with slug }

/-- Modelled from the spec: `UpdateConversationCwd`. -/
def updateConversationCwd (cwd : Option String) (conversationID : String) : Stmt Conversation :=
  updateConversation conversationID fun c => { c with cwd }

/-- Modelled from the spec: `GetConversation`, the row with that id, or `sql.ErrNoRows`. -/
def getConversation (conversationID : String) (s : Store) : Except DbError Conversation :=
  match s.conversations.find? (·.conversationID == conversationID) with
  | some c => .ok c
  | none => .error (.sql .noRows)

/-- Modelled from the spec: `GetConversationBySlugAndParent`, the first row with that slug and
parent, or `sql.ErrNoRows`. -/
def getConversationBySlugAndParent (slug parentID : Option String) (s : Store) :
    Except DbError Conversation :=
  match s.conversations.find? (slugAndParent slug parentID) with
  | some c => .ok c
  | none => .error (.sql .noRows)

end Queries

/-! ## The pool -/

/-- Modelled from the spec: `Pool.Tx`, the write scope. `fault` is a failure of the environment
(a busy writer, a cancelled context): the scope fails and keeps nothing. Otherwise the body
runs, and its effect is kept when it returns no error and rolled back when it does. -/
def tx {σ α : Type} (fault : Option String) (body : σ → Except DbError (α × σ)) (s : σ) :
    Except DbError α × σ :=
  match fault with
  | some text => (.error (.sql (.env text)), s)
  | none =>
    match body s with
    | .ok (a, s') => (.ok a, s')
    | .error e => (.error e, s)

/-- Modelled from the spec: `Pool.Rx`, a read scope; it changes nothing. -/
def rx {σ α : Type} (fault : Option String) (body : σ → Except DbError α) (s : σ) :
    Except DbError α :=
  match fault with
  | some text => .error (.sql (.env text))
  | none => body s

/-- Two statements in one scope, the second run on what the first left. -/
def Stmt.andThen {α β : Type} (first : Stmt α) (second : α → Stmt β) : Stmt β := fun s =>
  match first s with
  | .error e => .error e
  | .ok (a, s') => second a s'

/-- A write scope either keeps the body's effect with its value, or fails and keeps nothing. -/
theorem tx_cases {σ α : Type} (fault : Option String) (body : σ → Except DbError (α × σ))
    (s : σ) :
    (∃ a s', fault = none ∧ body s = .ok (a, s') ∧ tx fault body s = (.ok a, s')) ∨
    (∃ e, tx fault body s = (.error e, s)) := by
  unfold tx
  rcases fault with _ | text
  · rcases h : body s with e | ⟨a, s'⟩
    · exact .inr ⟨e, rfl⟩
    · exact .inl ⟨a, s', rfl, rfl, rfl⟩
  · exact .inr ⟨_, rfl⟩

end Shelley.Db
