import Shelley.Db.Store
import Mathlib.Data.List.Pairwise

/-! # The tables' constraints along every run

The primary keys of `conversations` and `messages`, the slug index and the two foreign keys
hold in every state that a run of the store's write operations reaches from a state where they
hold, whatever order the single writer gives the calls and whatever failures they meet
(`store_constraints`). Each `INSERT` and `DELETE` checks the constraint it could break; the
`UPDATE`s keep the keys because archiving, renaming and moving a conversation change neither
its id nor its parent; and a write scope that fails keeps the tables it started from.

In such a state the subagent lookup of `DB.GetConversationBySlugAndParent` finds the one
conversation that has the slug under the parent (`getConversationBySlugAndParent_of_mem`). -/

namespace Shelley.Db

/-- The ids of the stored conversations. -/
def Store.conversationIDs (s : Store) : List String := s.conversations.map (·.conversationID)

/-- The constraints of the two tables: both primary keys, the slug index (no two rows with the
same slug under the same parent) and the foreign keys of `parent_conversation_id` and of
`messages.conversation_id`. -/
structure Store.WF (s : Store) : Prop where
  conversationIDs : s.conversationIDs.Nodup
  slugs : s.conversations.Pairwise fun a b => sameSlot a b = false
  parents : ∀ c ∈ s.conversations, ∀ p ∈ c.parentConversationID, p ∈ s.conversationIDs
  messageIDs : (s.messages.map (·.messageID)).Nodup
  messages : ∀ m ∈ s.messages, m.conversationID ∈ s.conversationIDs

theorem Store.WF.empty : Store.WF {} :=
  ⟨List.nodup_nil, List.Pairwise.nil, nofun, List.nodup_nil, nofun⟩

theorem sameSlot_comm (a b : Conversation) : sameSlot a b = sameSlot b a := by
  unfold sameSlot
  by_cases hs : a.slug = b.slug
  · rw [hs]
    by_cases hp : a.parentConversationID = b.parentConversationID
    · rw [hp]
    · simp only [beq_eq_false_iff_ne.2 hp, beq_eq_false_iff_ne.2 (Ne.symm hp)]
  · simp only [beq_eq_false_iff_ne.2 hs, beq_eq_false_iff_ne.2 (Ne.symm hs), Bool.and_false,
      Bool.false_and]

theorem mem_conversationIDs {s : Store} {id : String} :
    id ∈ s.conversationIDs ↔ ∃ c ∈ s.conversations, c.conversationID = id := List.mem_map

/-- A write scope keeps any property of the state that its body keeps. -/
theorem tx_preserves {σ α : Type} {P : σ → Prop} (fault : Option String)
    (body : σ → Except DbError (α × σ)) {s : σ} (hs : P s)
    (hbody : ∀ a s', body s = .ok (a, s') → P s') : P (tx fault body s).2 := by
  rcases tx_cases fault body s with ⟨a, s', -, hb, ht⟩ | ⟨e, ht⟩ <;> rw [ht]
  exacts [hbody a s' hb, hs]

/-! ## Each statement keeps the constraints -/

section
variable {s s' : Store}

theorem Store.WF.insertConversation {row a : Conversation} (h : s.WF)
    (hins : insertConversation row s = .ok (a, s')) : s'.WF := by
  unfold Shelley.Db.insertConversation at hins
  split_ifs at hins with hid hslot hparent
  cases hins
  have hid : row.conversationID ∉ s.conversationIDs := by
    simpa [Store.conversationIDs] using hid
  have hslot : ∀ c ∈ s.conversations, sameSlot c row = false := fun c hc => by
    simpa [sameSlot_comm c row] using List.any_eq_false.1 (Bool.of_not_eq_true hslot) c hc
  have hparent : ∀ p ∈ row.parentConversationID, p ∈ s.conversationIDs := fun p hp => by
    simpa [Option.mem_def.1 hp, Store.conversationIDs] using hparent
  have hsub : s.conversationIDs ⊆ Store.conversationIDs
      { s with conversations := s.conversations ++ [row] } :=
    ((List.sublist_append_left _ _).map _).subset
  refine ⟨?_, ?_, ?_, h.messageIDs, fun m hm => hsub (h.messages m hm)⟩
  · simp only [Store.conversationIDs, List.map_append]
    exact h.conversationIDs.append (List.nodup_singleton _) (List.disjoint_singleton.2 hid)
  · exact List.pairwise_append.2 ⟨h.slugs, List.pairwise_singleton _ _,
      fun c hc _ hr => List.eq_of_mem_singleton hr ▸ hslot c hc⟩
  · intro c hc p hp
    rcases List.mem_append.1 hc with hc | hc
    · exact hsub (h.parents c hc p hp)
    · exact hsub (hparent p (List.eq_of_mem_singleton hc ▸ hp))

theorem Store.WF.createMessage {row a : MessageRow} (h : s.WF)
    (hins : Queries.createMessage row s = .ok (a, s')) : s'.WF := by
  unfold Queries.createMessage at hins
  split_ifs at hins with hid hconv
  cases hins
  have hid : row.messageID ∉ s.messages.map (·.messageID) := by simpa using hid
  have hconv : row.conversationID ∈ s.conversationIDs := by
    simpa [Store.conversationIDs] using hconv
  refine ⟨h.conversationIDs, h.slugs, h.parents, ?_, fun m hm => ?_⟩
  · rw [List.map_append]
    exact h.messageIDs.append (List.nodup_singleton _) (List.disjoint_singleton.2 hid)
  · rcases List.mem_append.1 hm with hm | hm
    · exact h.messages m hm
    · exact List.eq_of_mem_singleton hm ▸ hconv

/-- The one row of the conversation `conversationID` is the one `find?` returns. -/
theorem Store.WF.eq_of_find? {conversationID : String} {row c : Conversation} (h : s.WF)
    (hrow : s.conversations.find? (·.conversationID == conversationID) = some row)
    (hc : c ∈ s.conversations) (hcid : c.conversationID = conversationID) : c = row := by
  have hrid := List.find?_some hrow
  exact List.inj_on_of_nodup_map h.conversationIDs hc (List.mem_of_find?_eq_some hrow)
    (hcid.trans (beq_iff_eq.1 hrid).symm)

/-- An `UPDATE` that changes neither the id nor the parent of a row keeps the constraints. -/
theorem Store.WF.updateConversation {conversationID : String} {f : Conversation → Conversation}
    {a : Conversation} (h : s.WF) (hup : updateConversation conversationID f s = .ok (a, s'))
    (hf : ∀ c, (f c).conversationID = c.conversationID ∧
      (f c).parentConversationID = c.parentConversationID) : s'.WF := by
  unfold Shelley.Db.updateConversation at hup
  split at hup
  · cases hup
  rename_i row hrow
  split_ifs at hup with hslot
  cases hup
  set g := fun c : Conversation => if c.conversationID == conversationID then f c else c
  have hg : ∀ c, (g c).conversationID = c.conversationID ∧
      (g c).parentConversationID = c.parentConversationID := fun c => by
    by_cases hc : c.conversationID = conversationID <;> simp [g, hc, hf]
  have hids : Store.conversationIDs { s with conversations := s.conversations.map g } =
      s.conversationIDs := by
    simp only [Store.conversationIDs, List.map_map]
    exact List.map_congr_left fun c _ => (hg c).1
  have hslot : ∀ b ∈ s.conversations, b.conversationID ≠ conversationID →
      sameSlot (f row) b = false := fun b hb hne => by
    simpa using List.any_eq_false.1 (Bool.of_not_eq_true hslot) b (by simpa [hne] using hb)
  refine ⟨hids ▸ h.conversationIDs, ?_, ?_, h.messageIDs, hids ▸ h.messages⟩
  · refine List.pairwise_map.2 ((h.slugs.and (List.pairwise_map.1 h.conversationIDs)).imp_of_mem
      fun {a b} ha hb ⟨hab, hne⟩ => ?_)
    by_cases ha' : a.conversationID = conversationID <;>
      by_cases hb' : b.conversationID = conversationID
    · exact absurd (ha'.trans hb'.symm) hne
    · obtain rfl := h.eq_of_find? hrow ha ha'
      simpa [g, ha', hb'] using hslot b hb hb'
    · obtain rfl := h.eq_of_find? hrow hb hb'
      simpa [g, ha', hb', sameSlot_comm a] using hslot a ha ha'
    · simpa [g, ha', hb'] using hab
  · intro c hc p hp
    obtain ⟨c₀, hc₀, rfl⟩ := List.mem_map.1 hc
    rw [hids]
    exact h.parents c₀ hc₀ p ((hg c₀).2 ▸ hp)

theorem Store.WF.deleteConversationMessages {conversationID : String} (h : s.WF)
    (hdel : Queries.deleteConversationMessages conversationID s = .ok ((), s')) : s'.WF := by
  cases hdel
  exact ⟨h.conversationIDs, h.slugs, h.parents,
    h.messageIDs.sublist ((List.filter_sublist _).map _),
    fun m hm => h.messages m (List.mem_of_mem_filter hm)⟩

/-- `DELETE` of a conversation keeps the foreign keys because it fails while a row still
refers to the conversation. -/
theorem Store.WF.deleteConversation {conversationID : String} (h : s.WF)
    (hdel : Queries.deleteConversation conversationID s = .ok ((), s')) : s'.WF := by
  unfold Queries.deleteConversation at hdel
  dsimp only at hdel
  split_ifs at hdel with href
  cases hdel
  simp only [Bool.or_eq_true, List.any_eq_true, beq_iff_eq, not_or, not_exists, not_and,
    List.mem_filter, bne_iff_ne, ne_eq] at href
  have hkeep : ∀ id ∈ s.conversationIDs, id ≠ conversationID → id ∈ Store.conversationIDs
      { s with conversations := s.conversations.filter (·.conversationID != conversationID) } :=
    fun id hid hne => by
      obtain ⟨d, hd, rfl⟩ := mem_conversationIDs.1 hid
      exact List.mem_map_of_mem _ (List.mem_filter.2 ⟨hd, by simpa using hne⟩)
  refine ⟨h.conversationIDs.sublist ((List.filter_sublist _).map _),
    h.slugs.sublist (List.filter_sublist _), fun c hc p hp => ?_, h.messageIDs,
    fun m hm => hkeep _ (h.messages m hm) fun he => href.2 m hm he⟩
  obtain ⟨hc, hne⟩ := List.mem_filter.1 hc
  refine hkeep p (h.parents c hc p hp) fun he => href.1 c ⟨hc, by simpa using hne⟩ ?_
  rw [← he]
  exact Option.mem_def.1 hp

end

/-! ## Every call and every run keeps them -/

/-- `DB.UpdateConversationCwd` leaves the tables of its write scope. -/
theorem updateConversationCwd_snd (fault : Option String) (conversationID cwd : String)
    (s : Store) : (DB.updateConversationCwd fault conversationID cwd s).2 =
      (tx fault (Queries.updateConversationCwd (some cwd) conversationID) s).2 := by
  unfold DB.updateConversationCwd
  split <;> rename_i heq <;> rw [heq]

theorem Store.WF.apply {s : Store} (h : s.WF) (call : Call) : (call.apply s).WF := by
  cases call with
  | createConversation | createSubagentConversation =>
    simp only [Call.apply, DB.createConversation, DB.createSubagentConversation]
    split
    · exact h
    · exact tx_preserves _ _ h fun _ _ hb => h.insertConversation hb
  | createMessage =>
    exact tx_preserves _ _ h fun _ _ hb => h.createMessage hb
  | archiveConversation | unarchiveConversation | updateConversationSlug =>
    exact tx_preserves _ _ h fun _ _ hb => h.updateConversation hb fun _ => ⟨rfl, rfl⟩
  | updateConversationCwd =>
    rw [Call.apply, updateConversationCwd_snd]
    exact tx_preserves _ _ h fun _ _ hb => h.updateConversation hb fun _ => ⟨rfl, rfl⟩
  | deleteConversation =>
    exact tx_preserves _ _ h fun _ _ hb =>
      (h.deleteConversationMessages rfl).deleteConversation hb

/-- **The constraints hold along every run.** From tables whose primary keys, slug index and
foreign keys hold, every run of the store's write operations, in whatever order the writer
serializes them and with whatever failures they meet, reaches tables where they still hold. -/
theorem store_constraints {s : Store} (h : s.WF) (calls : List Call) : (runCalls s calls).WF := by
  induction calls generalizing s with
  | nil => exact h
  | cons call calls ih => exact ih (h.apply call)

/-! ## The subagent lookup -/

/-- In tables whose constraints hold, a conversation is the first row with its slug and parent:
the slug index leaves no other. -/
theorem Store.WF.find?_slugAndParent {s : Store} {slug parentID : String} {c : Conversation}
    (h : s.WF) (hc : c ∈ s.conversations) (hslug : c.slug = some slug)
    (hparent : c.parentConversationID = some parentID) :
    s.conversations.find? (slugAndParent (some slug) (some parentID)) = some c := by
  have hsel : slugAndParent (some slug) (some parentID) c = true := by
    simp [slugAndParent, hslug, hparent]
  obtain ⟨d, hd⟩ := Option.isSome_iff_exists.1 (List.find?_isSome.2 ⟨c, hc, hsel⟩)
  have hdsel := List.find?_some hd
  rw [hd]
  by_contra hne
  have hfalse := h.slugs.forall (fun a b hab => (sameSlot_comm b a).trans hab)
    (List.mem_of_find?_eq_some hd) hc (fun hdc => hne (congrArg some hdc))
  simp only [slugAndParent, Bool.and_eq_true, beq_iff_eq] at hdsel
  simp [sameSlot, hdsel, hslug, hparent] at hfalse

/-- In tables whose constraints hold, `DB.GetConversationBySlugAndParent` finds the one
conversation that has the slug under the parent. -/
theorem getConversationBySlugAndParent_of_mem {s : Store} {slug parentID : String}
    {c : Conversation} (h : s.WF) (hc : c ∈ s.conversations) (hslug : c.slug = some slug)
    (hparent : c.parentConversationID = some parentID) :
    DB.getConversationBySlugAndParent none slug parentID s = .ok (some c) := by
  simp [DB.getConversationBySlugAndParent, rx, Queries.getConversationBySlugAndParent,
    h.find?_slugAndParent hc hslug hparent]

end Shelley.Db
