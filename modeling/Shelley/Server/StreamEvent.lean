import Shelley.Llm.Message

/-! # The stream-json events of the claude CLI

What `processStream` reads from one line of the CLI's output. `json.Unmarshal` is library
code: a line is kept in the shape the two decodings of `processStream` find in it (a map
whose `type` entry is read as a string, then a `subagentStreamEvent`), and a
`json.RawMessage` that the code decodes further is kept in the shape that decoding finds.

The scanner is `bufio.Scanner` with a 1 MiB buffer that may not grow. It yields the lines
of the stream in order until the first line that does not fit the buffer together with its
newline; there `Scan` returns false and `Err` returns `ErrTooLong`. -/

namespace Shelley.Server
open Llm

/-- The `source` of an image block inside a tool result. -/
structure ImageSource where
  type : String
  mediaType : String := ""
  data : String := ""

/-- One element of a tool result's content when it is a JSON array. -/
structure ToolResultBlock where
  type : String
  text : String := ""
  source : Option ImageSource := none

/-- The `content` of a `tool_result` block, in the shape `parseToolResultContent`'s
decodings find in it: a JSON string (also `null`, which decodes to `""`), an array of
blocks, or anything else, kept as its raw text. -/
inductive ToolResultJson where
  | string (s : String)
  | blocks (bs : List ToolResultBlock)
  | raw (text : String)

/-- A content block of a stream message. `input` is the raw JSON of a `tool_use` input. -/
structure CcContentBlock where
  type : String
  text : String := ""
  thinking : String := ""
  id : String := ""
  name : String := ""
  input : String := ""
  toolUseID : String := ""
  content : ToolResultJson := .raw ""
  isError : Bool := false

/-- The `message` of a stream event. -/
structure ClaudeStreamMessage where
  id : String := ""
  content : List CcContentBlock := []

/-- `subagentStreamEvent`, as `processStream` reads it. `toolUseResult` says whether the
event's `tool_use_result` is non-null. -/
structure SubagentStreamEvent where
  message : ClaudeStreamMessage := {}
  parentToolUseID : String := ""
  toolUseResult : Bool := false

/-- What `json.Unmarshal` makes of a line: not a JSON object, or an object whose `type`
entry, read as a string, is `type` (`""` when absent or not a string), with the result of
decoding the line as a `subagentStreamEvent` (`none` when that fails). -/
inductive LineJson where
  | notObject
  | object (type : String) (event : Option SubagentStreamEvent)

/-- One line of the stream: its length in bytes, newline excluded, and its JSON reading.
The empty line is not a JSON object. -/
structure Line where
  size : Nat
  json : LineJson
  empty_notObject : size = 0 → json = .notObject

/-- The scanner's buffer, `1024*1024` bytes, which is also its maximum token size. -/
def maxScanTokenSize : Nat := 1024 * 1024

/-- A line fits the buffer when it and its newline do. -/
def Line.fits (line : Line) : Bool := line.size + 1 ≤ maxScanTokenSize

/-- `bufio.ErrTooLong`, the only error the scanner returns on an in-memory stream. -/
inductive ScanError where
  | tooLong
deriving DecidableEq, Repr

/-- The lines `scanner.Scan` yields, and `scanner.Err()` after the last one. -/
def scanLines : List Line → List Line × Option ScanError
  | [] => ([], none)
  | line :: rest =>
    if line.fits then ((scanLines rest).1.cons line, (scanLines rest).2) else ([], some .tooLong)

/-- A stream whose lines all fit is scanned whole, without error. -/
theorem scanLines_of_fits {lines : List Line} (hfit : ∀ line ∈ lines, line.fits = true) :
    scanLines lines = (lines, none) := by
  induction lines with
  | nil => rfl
  | cons line rest ih =>
    simp only [List.mem_cons, forall_eq_or_imp] at hfit
    simp [scanLines, hfit.1, ih hfit.2]

/-- The scanner yields the longest prefix of lines that fit. -/
theorem scanLines_fst (lines : List Line) : (scanLines lines).1 = lines.takeWhile (·.fits) := by
  induction lines with
  | nil => rfl
  | cons line rest ih => by_cases h : line.fits <;> simp [scanLines, List.takeWhile_cons, h, ih]

/-- The scan ends at the first line that does not fit: the lines before it are yielded, none
after it, and the error is `ErrTooLong`. -/
theorem scanLines_append_tooLong {pre post : List Line} {line : Line}
    (hfit : ∀ l ∈ pre, l.fits = true) (hlong : line.fits = false) :
    scanLines (pre ++ line :: post) = (pre, some .tooLong) := by
  induction pre with
  | nil => simp [scanLines, hlong]
  | cons l ls ih =>
    simp only [List.mem_cons, forall_eq_or_imp] at hfit
    simp [scanLines, hfit.1, ih hfit.2]

/-- `parseToolResultContent`: a string, then an array of text and base64 image blocks,
then the raw text. -/
def parseToolResultContent : ToolResultJson → List Content
  | .string s => [{ Content.ofType .text with text := s }]
  | .blocks bs => bs.filterMap fun bl =>
    if bl.type = "text" then some { Content.ofType .text with text := bl.text }
    else match bl.source with
      | some src =>
        if bl.type = "image" ∧ src.type = "base64" then
          some { Content.ofType .text with mediaType := src.mediaType, data := src.data }
        else none
      | none => none
  | .raw text => [{ Content.ofType .text with text := text }]

/-- The content an assistant event appends for one block, top-level or sub-agent alike:
its `text`, `thinking` and `tool_use` blocks. -/
def assistantContent (c : CcContentBlock) : Option Content :=
  if c.type = "text" then some { Content.ofType .text with text := c.text }
  else if c.type = "thinking" then some { Content.ofType .thinking with thinking := c.thinking }
  else if c.type = "tool_use" then
    some { Content.ofType .toolUse with id := c.id, toolName := c.name, toolInput := c.input }
  else none

/-- The content of a `tool_result` block. -/
def toolResultContent (c : CcContentBlock) : Content :=
  { type := .toolResult, toolUseID := c.toolUseID,
    toolResult := parseToolResultContent c.content, toolError := c.isError }

/-- The content a top-level user event appends for one block: its `tool_result` blocks. -/
def userContent (c : CcContentBlock) : Option Content :=
  if c.type = "tool_result" then some (toolResultContent c) else none

/-- The content a sub-agent user event appends for one block: its `text` blocks (the prompt
forwarded to the sub-agent) and its `tool_result` blocks. -/
def subagentUserContent (c : CcContentBlock) : Option Content :=
  if c.type = "text" then some { Content.ofType .text with text := c.text }
  else if c.type = "tool_result" then some (toolResultContent c)
  else none

/-- A `tool_use` block becomes the only `toolUse` content, so the two agree on whether an
assistant event carries a tool call. -/
theorem hasToolUse_filterMap_assistantContent (cs : List CcContentBlock) :
    hasToolUse (cs.filterMap assistantContent) = cs.any (·.type == "tool_use") := by
  induction cs with
  | nil => rfl
  | cons c cs ih =>
    rw [List.filterMap_cons, List.any_cons, ← ih]
    unfold assistantContent
    split_ifs with h₁ h₂ h₃ <;> simp_all [hasToolUse, Content.ofType]

end Shelley.Server
