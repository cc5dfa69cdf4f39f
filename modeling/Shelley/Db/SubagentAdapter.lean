import Shelley.Db.Integrity

/-! # Sub-agent conversations by slug

`SubagentDBAdapter.GetOrCreateSubagentConversation` looks a sub-agent conversation up by its
exact slug and parent, and creates it when there is none. A creation that fails with an error
whose text mentions a unique constraint or a duplicate is retried with the slug suffixed
`-1`, `-2`, ..., up to 100 attempts, each with a fresh conversation id.

When the call returns the slug it was given, an immediately following call with the same
arguments finds that conversation (`getOrCreateSubagentConversation_again`). When it returns
a suffixed slug, the next lookup of the exact slug misses it; the lookup of the slug it
returned, suffixed or not, finds the conversation it returned, in tables whose constraints
hold (`getOrCreateSubagentConversation_lookup`). -/

namespace Shelley.Db

/-- `strings.Contains` on lists of runes. -/
def containsSubstr : List Char → List Char → Bool
  | [], sub => sub.isEmpty
  | c :: cs, sub => sub.isPrefixOf (c :: cs) || containsSubstr cs sub

/-- The test of the retry loop on `strings.ToLower(err.Error())`. The texts it reads are ASCII,
where `strings.ToLower` is `Char.toLower`. -/
def isUniqueViolation (e : DbError) : Bool :=
  let text := e.text.toList.map Char.toLower
  containsSubstr text "unique constraint".toList || containsSubstr text "duplicate".toList

/-- The creation attempts, from `attempt` on with the slug `actualSlug` and `fuel` attempts
left; `texts k` is what `rand.Text()` returns for attempt `k`, and `faults k` the failure of
the environment that attempt meets. -/
def createAttempts (faults : Nat → Option String) (texts : Nat → String)
    (baseSlug parentID cwd : String) : (fuel attempt : Nat) → (actualSlug : String) → Store →
      Except DbError (String × String) × Store
  | 0, _, _, s => (.error (.other "failed to create unique subagent slug after 100 attempts"), s)
  | fuel + 1, attempt, actualSlug, s =>
    match DB.createSubagentConversation (faults attempt) (texts attempt) actualSlug parentID
        (some cwd) s with
    | (.ok conv, s') => (.ok (conv.conversationID, actualSlug), s')
    | (.error e, s') =>
      if isUniqueViolation e then
        createAttempts faults texts baseSlug parentID cwd fuel (attempt + 1)
          (baseSlug ++ "-" ++ toString (attempt + 1)) s'
      else (.error e, s')

/-- `SubagentDBAdapter.GetOrCreateSubagentConversation`: the conversation id and the slug used.
`lookupFault` is the failure of the environment the lookup meets. -/
def getOrCreateSubagentConversation (lookupFault : Option String) (faults : Nat → Option String)
    (texts : Nat → String) (slug parentID cwd : String) (s : Store) :
    Except DbError (String × String) × Store :=
  match DB.getConversationBySlugAndParent lookupFault slug parentID s with
  | .error e => (.error e, s)
  | .ok (some existing) => (.ok (existing.conversationID, existing.slug.getD ""), s)
  | .ok none => createAttempts faults texts slug parentID cwd 100 0 slug s

/-! ## The lookup and the creation -/

theorem getConversationBySlugAndParent_ok {fault : Option String} {slug parentID : String}
    {s : Store} {x : Option Conversation}
    (h : DB.getConversationBySlugAndParent fault slug parentID s = .ok x) :
    x = s.conversations.find? (slugAndParent (some slug) (some parentID)) := by
  unfold DB.getConversationBySlugAndParent rx Queries.getConversationBySlugAndParent at h
  rcases fault with _ | text
  · rcases hf : s.conversations.find? (slugAndParent (some slug) (some parentID)) with _ | c <;>
      simp_all
  · cases h

theorem getConversationBySlugAndParent_none (slug parentID : String) (s : Store) :
    DB.getConversationBySlugAndParent none slug parentID s =
      .ok (s.conversations.find? (slugAndParent (some slug) (some parentID))) := by
  unfold DB.getConversationBySlugAndParent rx Queries.getConversationBySlugAndParent
  rcases hf : s.conversations.find? (slugAndParent (some slug) (some parentID)) with _ | c <;>
    simp [hf]

/-- A successful `DB.CreateSubagentConversation` appends its row, with the slug and parent it
was given. -/
theorem createSubagentConversation_ok {fault : Option String} {text slug parentID : String}
    {cwd : Option String} {s s' : Store} {conv : Conversation}
    (h : DB.createSubagentConversation fault text slug parentID cwd s = (.ok conv, s')) :
    s'.conversations = s.conversations ++ [conv] ∧
      slugAndParent (some slug) (some parentID) conv = true := by
  unfold DB.createSubagentConversation at h
  split at h
  · cases h
  · rcases tx_cases fault (Queries.createSubagentConversation _ _ _ _) s with
      ⟨a, s₁, -, hb, ht⟩ | ⟨e, ht⟩ <;> rw [ht] at h
    · simp only [Prod.mk.injEq, Except.ok.injEq] at h
      obtain ⟨rfl, rfl⟩ := h
      simp only [Queries.createSubagentConversation, insertConversation] at hb
      split_ifs at hb
      cases hb
      simp [slugAndParent]
    · simp at h

/-- A suffixed slug differs from its base. -/
theorem suffixed_ne (base : String) (n : Nat) : base ++ "-" ++ toString n ≠ base := fun h => by
  have := congrArg String.length h
  simp only [String.length_append] at this
  have : "-".length = 1 := rfl
  omega

/-- The slug a creation attempt returns is the one it was called with, or a suffixed one. -/
theorem createAttempts_slug {faults : Nat → Option String} {texts : Nat → String}
    {base parentID cwd : String} :
    ∀ (fuel attempt : Nat) (actual : String) (s : Store) (id a : String) (s' : Store),
      createAttempts faults texts base parentID cwd fuel attempt actual s = (.ok (id, a), s') →
      a = actual ∨ ∃ n : Nat, a = base ++ "-" ++ toString n
  | 0, _, _, _, _, _, _, h => by cases h
  | fuel + 1, attempt, actual, s, id, a, s', h => by
    unfold createAttempts at h
    split at h
    · simp only [Prod.mk.injEq, Except.ok.injEq] at h
      exact .inl h.1.2.symm
    · split_ifs at h
      · rcases createAttempts_slug fuel _ _ _ _ _ _ h with h' | h'
        · exact .inr ⟨_, h'⟩
        · exact .inr h'
      · simp at h

/-- When the attempts return the base slug itself, the first attempt created the conversation. -/
theorem createAttempts_base {faults : Nat → Option String} {texts : Nat → String}
    {base parentID cwd id : String} {fuel : Nat} {s s' : Store}
    (h : createAttempts faults texts base parentID cwd (fuel + 1) 0 base s = (.ok (id, base), s')) :
    ∃ conv, DB.createSubagentConversation (faults 0) (texts 0) base parentID (some cwd) s =
      (.ok conv, s') ∧ conv.conversationID = id := by
  unfold createAttempts at h
  split at h
  · rename_i conv s₁ hc
    simp only [Prod.mk.injEq, Except.ok.injEq] at h
    obtain ⟨⟨rfl, -⟩, rfl⟩ := h
    exact ⟨conv, hc, rfl⟩
  · split_ifs at h
    · rcases createAttempts_slug _ _ _ _ _ _ _ h with h' | ⟨n, h'⟩
      · exact absurd h' (suffixed_ne base 1).symm
      · exact absurd h' (suffixed_ne base n).symm
    · simp at h

/-- **Asking again.** If `GetOrCreateSubagentConversation(slug, parentID, cwd)` returns
`(id, slug)`, the same call made right after it, its lookup not failing, returns `(id, slug)`
and creates nothing, whatever ids it would draw. -/
theorem getOrCreateSubagentConversation_again {lookupFault : Option String}
    {faults : Nat → Option String} {texts : Nat → String} (faults' : Nat → Option String)
    (texts' : Nat → String) {slug parentID cwd id : String} {s s₁ : Store}
    (h : getOrCreateSubagentConversation lookupFault faults texts slug parentID cwd s =
      (.ok (id, slug), s₁)) :
    getOrCreateSubagentConversation none faults' texts' slug parentID cwd s₁ = (.ok (id, slug), s₁) := by
  unfold getOrCreateSubagentConversation at h ⊢
  rw [getConversationBySlugAndParent_none]
  rcases hl : DB.getConversationBySlugAndParent lookupFault slug parentID s with
    e | _ | existing <;> rw [hl] at h
  · simp at h
  · -- the first call created the conversation
    obtain ⟨conv, hc, rfl⟩ := createAttempts_base h
    obtain ⟨happ, hmatch⟩ := createSubagentConversation_ok hc
    have hnone := (getConversationBySlugAndParent_ok hl).symm
    have hslug : conv.slug = some slug := by simp [slugAndParent] at hmatch; exact hmatch.1
    simp [happ, List.find?_append, hnone, hmatch, hslug]
  · -- the first call found it
    simp only [Prod.mk.injEq, Except.ok.injEq] at h
    obtain ⟨⟨rfl, hs⟩, rfl⟩ := h
    rw [← getConversationBySlugAndParent_ok hl]
    simp [hs]

/-- Under a parent `cAAAAAA`, a first call that creates `explore` is answered the same by the
next call, which would otherwise draw the id `cCCCCCC`. -/
theorem getOrCreateSubagentConversation_again_witness :
    let s₀ := (DB.createConversation none "AAAAAAAA" none true none {}).2
    let first := getOrCreateSubagentConversation none (fun _ => none) (fun _ => "BBBBBBBB")
      "explore" "cAAAAAA" "/" s₀
    first = (.ok ("cBBBBBB", "explore"), first.2) ∧
      getOrCreateSubagentConversation none (fun _ => none) (fun _ => "CCCCCCCC") "explore"
        "cAAAAAA" "/" first.2 = (.ok ("cBBBBBB", "explore"), first.2) := by
  intro s₀ first
  have h : first = (.ok ("cBBBBBB", "explore"), first.2) := rfl
  exact ⟨h, getOrCreateSubagentConversation_again (fun _ => none) (fun _ => "CCCCCCCC") h⟩

/-- The first creation attempt draws the parent's own id `cAAAAAA`; the primary-key violation
reads as a slug collision, and the conversation is stored as `explore-1`. The next call with
the same arguments misses it, creates a second conversation and returns another id. -/
theorem getOrCreateSubagentConversation_again_counterexample :
    let s₀ := (DB.createConversation none "AAAAAAAA" none true none {}).2
    let first := getOrCreateSubagentConversation none (fun _ => none)
      (fun k => if k = 0 then "AAAAAAAA" else "BBBBBBBB") "explore" "cAAAAAA" "/" s₀
    let second := getOrCreateSubagentConversation none (fun _ => none) (fun _ => "CCCCCCCC")
      "explore" "cAAAAAA" "/" first.2
    first.1.toOption = some ("cBBBBBB", "explore-1") ∧
      second.1.toOption = some ("cCCCCCC", "explore") ∧
      first.2.conversations.length = 2 ∧ second.2.conversations.length = 3 := by
  decide

/-! ## The returned slug -/

/-- A creation loop that returns `(id, a)` keeps the tables' constraints and has stored a
conversation `id` with the slug `a` under the parent. -/
theorem createAttempts_stored {faults : Nat → Option String} {texts : Nat → String}
    {base parentID cwd : String} :
    ∀ (fuel attempt : Nat) (actual : String) {s s' : Store} {id a : String}, s.WF →
      createAttempts faults texts base parentID cwd fuel attempt actual s = (.ok (id, a), s') →
      s'.WF ∧ ∃ c ∈ s'.conversations, c.conversationID = id ∧ c.slug = some a ∧
        c.parentConversationID = some parentID
  | 0, _, _, _, _, _, _, _, h => by cases h
  | fuel + 1, attempt, actual, s, s', id, a, hs, h => by
    have hwf := hs.apply
      (.createSubagentConversation (faults attempt) (texts attempt) actual parentID (some cwd))
    unfold createAttempts at h
    split at h
    · rename_i conv s₁ hc
      rw [Call.apply, hc] at hwf
      simp only [Prod.mk.injEq, Except.ok.injEq] at h
      obtain ⟨⟨rfl, rfl⟩, rfl⟩ := h
      obtain ⟨happ, hmatch⟩ := createSubagentConversation_ok hc
      simp only [slugAndParent, Bool.and_eq_true, beq_iff_eq] at hmatch
      exact ⟨hwf, conv, happ ▸ List.mem_append_right _ (List.mem_singleton_self _), rfl,
        hmatch⟩
    · rename_i e s₁ hc
      rw [Call.apply, hc] at hwf
      split_ifs at h
      · exact createAttempts_stored fuel (attempt + 1) _ hwf h
      · cases h

/-- **The returned slug finds the conversation.** From tables whose constraints hold, when
`GetOrCreateSubagentConversation` returns `(id, actualSlug)`, whatever ids it drew and whatever
failures it met, the constraints still hold and the lookup of `actualSlug` under the parent
finds the conversation `id`, whether the slug was suffixed or not. -/
theorem getOrCreateSubagentConversation_lookup {lookupFault : Option String}
    {faults : Nat → Option String} {texts : Nat → String}
    {slug parentID cwd id actualSlug : String} {s s' : Store} (hs : s.WF)
    (h : getOrCreateSubagentConversation lookupFault faults texts slug parentID cwd s =
      (.ok (id, actualSlug), s')) :
    s'.WF ∧ ∃ c, DB.getConversationBySlugAndParent none actualSlug parentID s' = .ok (some c) ∧
      c.conversationID = id := by
  unfold getOrCreateSubagentConversation at h
  rcases hl : DB.getConversationBySlugAndParent lookupFault slug parentID s with
    e | _ | existing <;> rw [hl] at h
  · cases h
  · -- a creation attempt stored it
    obtain ⟨hwf, c, hc, rfl, hslug, hparent⟩ := createAttempts_stored 100 0 slug hs h
    refine ⟨hwf, c, ?_, rfl⟩
    rw [getConversationBySlugAndParent_none, hwf.find?_slugAndParent hc hslug hparent]
  · -- the lookup found it
    simp only [Prod.mk.injEq, Except.ok.injEq] at h
    obtain ⟨⟨rfl, rfl⟩, rfl⟩ := h
    have hfind := (getConversationBySlugAndParent_ok hl).symm
    have hsel := List.find?_some hfind
    simp only [slugAndParent, Bool.and_eq_true, beq_iff_eq] at hsel
    refine ⟨hs, existing, ?_, rfl⟩
    rw [hsel.1, Option.getD_some, getConversationBySlugAndParent_none, hfind]

/-- The first creation under `cAAAAAA` draws the parent's own id and stores `explore-1`; looking
up `explore-1` finds the conversation the call returned. -/
theorem getOrCreateSubagentConversation_lookup_suffixed :
    let s₀ := (DB.createConversation none "AAAAAAAA" none true none {}).2
    let first := getOrCreateSubagentConversation none (fun _ => none)
      (fun k => if k = 0 then "AAAAAAAA" else "BBBBBBBB") "explore" "cAAAAAA" "/" s₀
    (s₀.WF ∧ first = (.ok ("cBBBBBB", "explore-1"), first.2)) ∧
      first.2.WF ∧ ∃ c, DB.getConversationBySlugAndParent none "explore-1" "cAAAAAA" first.2 =
        .ok (some c) ∧ c.conversationID = "cBBBBBB" := by
  intro s₀ first
  have hs : s₀.WF := Store.WF.empty.apply (.createConversation none "AAAAAAAA" none true none)
  have h : first = (.ok ("cBBBBBB", "explore-1"), first.2) := rfl
  exact ⟨⟨hs, h⟩, getOrCreateSubagentConversation_lookup hs h⟩

end Shelley.Db
