import Shelley.Go.Basic

/-! # The ntfy notification channel

The `ntfy` channel of package `channels`: its factory, registered under `"ntfy"`, which reads
the channel's configuration; `formatMessage`, which turns an event into an ntfy message; and
`Send`, which posts it. Strings are byte strings, as in Go. The configuration is the map the
factory receives, as the type assertions `config[key].(string)` see it. `strconv.Quote` (the
`%q` of an error) is library code and a parameter (`quote`); the HTTP client is the response
or error `client.Do` returns (`transport`).

A configuration is accepted exactly when it names a server and a topic and both priorities
(`"default"` and `"high"` when not set) are ntfy priority names; the channel then carries
priorities from 1 to 5, and every rejection names the field it checks (`newNtfy_eq_ok_iff`,
`newNtfy_eq_error`). `Send` reports success exactly when there is nothing to send or the
server answered the post with a status below 400 (`send_eq_ok_iff`). -/

namespace Shelley.Channels
open Go

/-! ## The configuration -/

/-- A value of the configuration map: a string, or a value of another type. -/
inductive ConfigValue where
  | string (s : List UInt8)
  | other

/-- `v, _ := config[key].(string)`: the string, or `""` for a missing or non-string value. -/
def configString (config : List UInt8 → Option ConfigValue) (key : List UInt8) : List UInt8 :=
  match config key with
  | some (.string s) => s
  | _ => []

/-- `ntfyPriorities`. -/
def ntfyPriorities : List (List UInt8 × Nat) :=
  [(lit "min", 1), (lit "low", 2), (lit "default", 3), (lit "high", 4), (lit "max", 5)]

/-- The channel the factory builds; the HTTP client, a fixed 10 s timeout, is left out. -/
structure Ntfy where
  server : List UInt8
  topic : List UInt8
  token : List UInt8
  username : List UInt8
  password : List UInt8
  donePriority : Nat
  errorPriority : Nat

/-- The check of a required field, `server` or `topic`: its string, which must not be empty. -/
def requiredString (config : List UInt8 → Option ConfigValue) (key : List UInt8) :
    Except (List UInt8) (List UInt8) :=
  if configString config key = [] then .error (lit "ntfy channel requires \"" ++ key ++ lit "\"")
  else .ok (configString config key)

/-- The priority name a field selects: its string, or the default when empty. -/
def priorityName (config : List UInt8 → Option ConfigValue) (key dflt : List UInt8) :
    List UInt8 :=
  if configString config key = [] then dflt else configString config key

/-- The check of a priority field, `done_priority` or `error_priority`: its name, `dflt` when
empty, must be a key of `ntfyPriorities`. -/
def configPriority (quote : List UInt8 → List UInt8) (config : List UInt8 → Option ConfigValue)
    (key dflt : List UInt8) : Except (List UInt8) Nat :=
  match ntfyPriorities.lookup (priorityName config key dflt) with
  | some p => .ok p
  | none => .error (lit "ntfy channel: invalid " ++ key ++ lit " " ++ quote (priorityName config key dflt))

/-- The factory registered under `"ntfy"`. -/
def newNtfy (quote : List UInt8 → List UInt8) (config : List UInt8 → Option ConfigValue) :
    Except (List UInt8) Ntfy := do
  let server ← requiredString config (lit "server")
  let topic ← requiredString config (lit "topic")
  let donePriority ← configPriority quote config (lit "done_priority") (lit "default")
  let errorPriority ← configPriority quote config (lit "error_priority") (lit "high")
  return { server, topic, token := configString config (lit "token"),
           username := configString config (lit "username"),
           password := configString config (lit "password"), donePriority, errorPriority }

/-! ## Messages and requests -/

/-- `notifications.AgentDonePayload`. -/
structure AgentDonePayload where
  conversationTitle : List UInt8
  model : List UInt8
  finalResponse : List UInt8

/-- `notifications.AgentErrorPayload`. -/
structure AgentErrorPayload where
  errorMessage : List UInt8

/-- An event's payload, as the type assertions of `formatMessage` see it. -/
inductive Payload where
  | agentDone (p : AgentDonePayload)
  | agentError (p : AgentErrorPayload)
  | other

/-- An event's type: `EventAgentDone`, `EventAgentError`, or another. -/
inductive EventType where
  | agentDone
  | agentError
  | other
deriving DecidableEq

/-- `notifications.Event`. -/
structure Event where
  type : EventType
  payload : Payload

/-- `ntfyMessage`. -/
structure NtfyMessage where
  topic : List UInt8
  title : List UInt8
  message : List UInt8
  priority : Nat
  tags : List (List UInt8)

/-- The body of an `agent done` message: the model, then the final response, on two lines. -/
def doneBody (p : AgentDonePayload) : List UInt8 :=
  let body := if p.model ≠ [] then lit "Model: " ++ p.model else []
  if p.finalResponse ≠ [] then (if body ≠ [] then body ++ lit "\n" else body) ++ p.finalResponse
  else body

/-- `formatMessage`: a message for an agent that finished or failed, none for another event. -/
def formatMessage (n : Ntfy) (event : Event) : Option NtfyMessage :=
  match event.type with
  | .agentDone =>
    let msg : NtfyMessage := { topic := n.topic, title := [], message := [],
                               priority := n.donePriority, tags := [lit "white_check_mark"] }
    match event.payload with
    | .agentDone p =>
      some { msg with
        title := if p.conversationTitle ≠ [] then lit "Agent finished: " ++ p.conversationTitle
          else lit "Agent finished"
        message := doneBody p }
    | _ => some { msg with title := lit "Agent finished" }
  | .agentError =>
    let msg : NtfyMessage := { topic := n.topic, title := lit "Agent error", message := [],
                               priority := n.errorPriority, tags := [lit "x"] }
    match event.payload with
    | .agentError p => some (if p.errorMessage ≠ [] then { msg with message := p.errorMessage } else msg)
    | _ => some msg
  | .other => none

/-- The authentication of a request: none, a bearer token, or basic. -/
inductive Auth where
  | none
  | bearer (token : List UInt8)
  | basic (username password : List UInt8)

/-- The request `Send` posts: to the server, the message as JSON (`Content-Type:
application/json`), with its authentication. -/
structure NtfyRequest where
  url : List UInt8
  body : NtfyMessage
  auth : Auth

/-- What `client.Do` returns: the status line, its code and the body. -/
structure NtfyResponse where
  status : List UInt8
  statusCode : Nat
  body : List UInt8

/-- The authentication `Send` sets: the token when there is one, otherwise basic
authentication when both the user name and the password are set. -/
def Ntfy.auth (n : Ntfy) : Auth :=
  if n.token ≠ [] then .bearer n.token
  else if n.username ≠ [] ∧ n.password ≠ [] then .basic n.username n.password
  else .none

/-- `Send`: the request posted, if any, and the error returned. `requestError` is the error of
`http.NewRequestWithContext` (a server that does not parse as a URL); `json.Marshal` of a
message cannot fail. An error status is reported with the first 4096 bytes of the body,
trimmed, when there are any. -/
def send (n : Ntfy) (event : Event) (requestError : Option (List UInt8))
    (transport : NtfyRequest → Except (List UInt8) NtfyResponse) :
    Option NtfyRequest × Except (List UInt8) Unit :=
  match formatMessage n event with
  | none => (none, .ok ())
  | some msg =>
    match requestError with
    | some e => (none, .error (lit "create ntfy request: " ++ e))
    | none =>
      let req : NtfyRequest := { url := n.server, body := msg, auth := n.auth }
      match transport req with
      | .error e => (some req, .error (lit "send ntfy notification: " ++ e))
      | .ok resp =>
        if 400 ≤ resp.statusCode then
          if resp.body.take 4096 ≠ [] then
            (some req, .error (lit "ntfy server returned " ++ resp.status ++ lit ": " ++
              trimSpace (resp.body.take 4096)))
          else (some req, .error (lit "ntfy server returned " ++ resp.status))
        else (some req, .ok ())

/-! ## What the factory accepts -/

section
variable {quote : List UInt8 → List UInt8} {config : List UInt8 → Option ConfigValue}

theorem requiredString_eq_ok {key s : List UInt8} :
    requiredString config key = .ok s ↔ configString config key ≠ [] ∧ s = configString config key := by
  unfold requiredString
  split_ifs with h <;> simp [h, eq_comm]

theorem configPriority_eq_ok {key dflt : List UInt8} {p : Nat} :
    configPriority quote config key dflt = .ok p ↔
      ntfyPriorities.lookup (priorityName config key dflt) = some p := by
  unfold configPriority
  split <;> rename_i h <;> simp [h]

/-- The error of a required field names it. -/
theorem requiredString_eq_error {key s : List UInt8} (h : requiredString config key = .error s) :
    key <:+: s := by
  unfold requiredString at h
  split_ifs at h
  cases h
  exact ⟨lit "ntfy channel requires \"", lit "\"", rfl⟩

/-- The error of a priority field names it. -/
theorem configPriority_eq_error {key dflt s : List UInt8}
    (h : configPriority quote config key dflt = .error s) : key <:+: s := by
  unfold configPriority at h
  split at h
  · cases h
  · cases h
    exact ⟨lit "ntfy channel: invalid ", lit " " ++ quote (priorityName config key dflt), by simp⟩

/-- Every priority of `ntfyPriorities` is from 1 to 5. -/
theorem mem_ntfyPriorities {name : List UInt8} {p : Nat}
    (h : ntfyPriorities.lookup name = some p) : 1 ≤ p ∧ p ≤ 5 := by
  obtain ⟨l₁, l₂, hl, -⟩ := List.lookup_eq_some_iff.1 h
  have hmem : (name, p) ∈ ntfyPriorities := by simp [hl]
  exact (by decide : ∀ q ∈ ntfyPriorities, 1 ≤ q.2 ∧ q.2 ≤ 5) _ hmem

/-- Each default passes its own check: `"default"` is priority 3 and `"high"` priority 4. -/
theorem lookup_defaults :
    ntfyPriorities.lookup (lit "default") = some 3 ∧ ntfyPriorities.lookup (lit "high") = some 4 :=
  ⟨rfl, rfl⟩

/-- **What the factory accepts.** The factory builds a channel exactly when the server and the
topic are set and both priority names (`"default"` and `"high"` when not set) are ntfy
priorities; the channel then carries the server, the topic and those priorities, each from 1
to 5. -/
theorem newNtfy_eq_ok_iff {n : Ntfy} :
    newNtfy quote config = .ok n ↔
      configString config (lit "server") ≠ [] ∧ configString config (lit "topic") ≠ [] ∧
      n.server = configString config (lit "server") ∧ n.topic = configString config (lit "topic") ∧
      ntfyPriorities.lookup (priorityName config (lit "done_priority") (lit "default")) =
        some n.donePriority ∧
      ntfyPriorities.lookup (priorityName config (lit "error_priority") (lit "high")) =
        some n.errorPriority ∧
      n.token = configString config (lit "token") ∧
      n.username = configString config (lit "username") ∧
      n.password = configString config (lit "password") := by
  simp only [newNtfy, bind_eq_ok, requiredString_eq_ok, configPriority_eq_ok, pure_eq_ok]
  constructor
  · rintro ⟨_, ⟨hs, rfl⟩, _, ⟨ht, rfl⟩, _, hd, _, he, h⟩
    cases h
    exact ⟨hs, ht, rfl, rfl, hd, he, rfl, rfl, rfl⟩
  · rintro ⟨hs, ht, h₁, h₂, hd, he, h₃, h₄, h₅⟩
    refine ⟨_, ⟨hs, rfl⟩, _, ⟨ht, rfl⟩, _, hd, _, he, ?_⟩
    cases n
    simp_all

/-- An accepted channel's priorities are from 1 to 5. -/
theorem Ntfy.priorities_of_newNtfy {n : Ntfy} (h : newNtfy quote config = .ok n) :
    (1 ≤ n.donePriority ∧ n.donePriority ≤ 5) ∧ (1 ≤ n.errorPriority ∧ n.errorPriority ≤ 5) :=
  let hn := newNtfy_eq_ok_iff.1 h
  ⟨mem_ntfyPriorities hn.2.2.2.2.1, mem_ntfyPriorities hn.2.2.2.2.2.1⟩

/-- Every rejection names the field it checks. -/
theorem newNtfy_eq_error {e : List UInt8} (h : newNtfy quote config = .error e) :
    ∃ key ∈ [lit "server", lit "topic", lit "done_priority", lit "error_priority"], key <:+: e := by
  simp only [newNtfy, bind_eq_error, pure_eq_ok, reduceCtorEq, and_false, exists_const,
    or_false] at h
  rcases h with hs | ⟨_, -, ht | ⟨_, -, hd | ⟨_, -, he⟩⟩⟩
  · exact ⟨_, by simp, requiredString_eq_error hs⟩
  · exact ⟨_, by simp, requiredString_eq_error ht⟩
  · exact ⟨_, by simp, configPriority_eq_error hd⟩
  · exact ⟨_, by simp, configPriority_eq_error he⟩

end

/-! ## What is sent -/

/-- `Send` succeeds exactly when there is nothing to send (an event other than an agent that
finished or failed), or the request was built, delivered and answered with a status below
400. -/
theorem send_eq_ok_iff {n : Ntfy} {event : Event} {requestError : Option (List UInt8)}
    {transport : NtfyRequest → Except (List UInt8) NtfyResponse} :
    (send n event requestError transport).2 = .ok () ↔
      ∀ msg, formatMessage n event = some msg → requestError = none ∧
        ∃ resp, transport ⟨n.server, msg, n.auth⟩ = .ok resp ∧ resp.statusCode < 400 := by
  unfold send
  split
  · next hm => simp [hm]
  · next msg hm =>
    split
    · simp [hm]
    · dsimp only
      split
      · next e he => simp [hm, he]
      · next resp hr =>
        split_ifs with hs hb <;> simp [hm, hr] <;> omega

/-- A posted message goes to the channel's server and topic, with the priority of its kind. -/
theorem formatMessage_eq_some {n : Ntfy} {event : Event} {msg : NtfyMessage}
    (h : formatMessage n event = some msg) :
    msg.topic = n.topic ∧
      (event.type = .agentDone ∧ msg.priority = n.donePriority ∧ msg.tags = [lit "white_check_mark"] ∨
       event.type = .agentError ∧ msg.priority = n.errorPriority ∧ msg.tags = [lit "x"]) := by
  unfold formatMessage at h
  split at h
  · next hty => split at h <;> cases h <;> exact ⟨rfl, .inl ⟨hty, rfl, rfl⟩⟩
  · next hty =>
    split at h
    · split_ifs at h <;> cases h <;> exact ⟨rfl, .inr ⟨hty, rfl, rfl⟩⟩
    · cases h
      exact ⟨rfl, .inr ⟨hty, rfl, rfl⟩⟩
  · cases h

end Shelley.Channels
