import Mathlib.Data.List.Basic

/-! # Messages of the `llm` package

The parts of `llm.Message` and `llm.Content` that the stream adapter builds and the
sub-agent runner reads. A `Content` is a record whose meaning depends on its `type`, as
in Go: every field is present and defaults to the zero value. JSON payloads
(`json.RawMessage`) are kept as their raw text. -/

namespace Shelley.Llm

/-- `llm.ContentType`: the block kinds the adapter produces. -/
inductive ContentType where
  | text
  | thinking
  | toolUse
  | toolResult
deriving DecidableEq, Repr

/-- `llm.MessageRole`. -/
inductive MessageRole where
  | user
  | assistant
deriving DecidableEq, Repr

/-- `llm.Content`, with the Go zero value as every default. `toolResult` holds the
content of a tool result, itself a list of contents; Lean gives no default to the field
that makes the structure recursive, so `Content.ofType` supplies it. -/
structure Content where
  type : ContentType
  text : String := ""
  thinking : String := ""
  id : String := ""
  toolName : String := ""
  toolInput : String := ""
  toolUseID : String := ""
  toolResult : List Content
  toolError : Bool := false
  mediaType : String := ""
  data : String := ""

/-- `llm.Content{Type: type}`: every other field is its zero value. -/
def Content.ofType (type : ContentType) : Content := { type, toolResult := [] }

/-- `llm.Message`. -/
structure Message where
  role : MessageRole
  content : List Content := []
  endOfTurn : Bool := false

/-- Whether a content list holds a `tool_use` block: the loop that both flushes of the
stream adapter run before setting `EndOfTurn`. -/
def hasToolUse (content : List Content) : Bool :=
  content.any fun c => c.type == .toolUse

@[simp] theorem hasToolUse_nil : hasToolUse [] = false := rfl

@[simp] theorem hasToolUse_append (a b : List Content) :
    hasToolUse (a ++ b) = (hasToolUse a || hasToolUse b) := by
  simp [hasToolUse]

end Shelley.Llm
