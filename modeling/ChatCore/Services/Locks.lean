import ChatCore.Relational.Rules
import ChatCore.Services.Server

namespace ChatCore.Services

open Protocol Relational Database

structure Cell where
  conversation : Option Conversation
  participant : Option ConversationParticipant
  message : Option Message
  event : Option ConversationEvent
  command : Option CommandIdempotency
  run : Option AgentRun
  handoff : Option Handoff
  input : Option StructuredInputRequest
  sequences : List (Id × ℕ)
  events : List ConversationEvent
  commands : List CommandIdempotency

def sequencesOf (conversationId : Id) (t : Table Message.messageId) : List (Id × ℕ) :=
  (t.rows.filter fun m => decide (m.conversationId = conversationId)).map fun m => (m.messageId, m.sequence)

def eventsOf (conversationId : Id) (t : Table ConversationEvent.eventId) : List ConversationEvent :=
  t.rows.filter fun e => decide (e.conversationId = conversationId)

def sequencesUnder (t : Table Message.messageId) : LockName → List (Id × ℕ)
  | .conversation conversationId => sequencesOf conversationId t
  | _ => []

def eventsUnder (t : Table ConversationEvent.eventId) : LockName → List ConversationEvent
  | .conversation conversationId => eventsOf conversationId t
  | _ => []

variable (platform : Platform)

def advisory (k : CommandKey) : Int := platform.hashtextextended (lockKey k)

def commandsUnder (t : Table CommandIdempotency.key) : LockName → List CommandIdempotency
  | .advisory hash => t.rows.filter fun r => decide (advisory platform r.key = hash)
  | _ => []

def cell (n : LockName) (db : Tables) : Cell where
  conversation := match n with | .conversation id => db.conversations.find? id | _ => none
  participant := match n with | .participant id => db.conversationParticipants.find? id | _ => none
  message := match n with | .message id => db.messages.find? id | _ => none
  event := match n with | .event id => db.conversationEvents.find? id | _ => none
  command := match n with | .command key => db.commandIdempotency.find? key | _ => none
  run := match n with | .run id => db.agentRuns.find? id | _ => none
  handoff := match n with | .handoff id => db.handoffs.find? id | _ => none
  input := match n with | .input id => db.structuredInputRequests.find? id | _ => none
  sequences := sequencesUnder db.messages n
  events := eventsUnder db.conversationEvents n
  commands := commandsUnder platform db.commandIdempotency n

section Shields

variable {platform}

lemma shields_conversations : conversations.Shields (cell platform) (fun _ _ => ()) := by
  intro n base u hrow _
  cases n <;> simp [cell, conversations] at hrow ⊢
  exact hrow

lemma shields_participants : conversationParticipants.Shields (cell platform) (fun _ _ => ()) := by
  intro n base u hrow _
  cases n <;> simp [cell, conversationParticipants] at hrow ⊢
  exact hrow

lemma shields_runs : agentRuns.Shields (cell platform) (fun _ _ => ()) := by
  intro n base u hrow _
  cases n <;> simp [cell, agentRuns] at hrow ⊢
  exact hrow

lemma shields_handoffs : handoffs.Shields (cell platform) (fun _ _ => ()) := by
  intro n base u hrow _
  cases n <;> simp [cell, handoffs] at hrow ⊢
  exact hrow

lemma shields_inputs : structuredInputRequests.Shields (cell platform) (fun _ _ => ()) := by
  intro n base u hrow _
  cases n <;> simp [cell, structuredInputRequests] at hrow ⊢
  exact hrow

lemma shields_messages : messages.Shields (cell platform) (fun n t => sequencesUnder t n) := by
  intro n base u hrow hx
  cases n <;> simp [cell, messages, sequencesUnder] at hrow hx ⊢
  · exact hx
  · exact hrow

lemma shields_events : conversationEvents.Shields (cell platform) (fun n t => eventsUnder t n) := by
  intro n base u hrow hx
  cases n <;> simp [cell, conversationEvents, eventsUnder] at hrow hx ⊢
  · exact hx
  · exact hrow

lemma shields_commands : commandIdempotency.Shields (cell platform) (fun n t => commandsUnder platform t n) := by
  intro n base u hrow hx
  cases n <;> simp [cell, commandIdempotency, commandsUnder] at hrow hx ⊢
  · exact hx
  · exact hrow

end Shields

section Contents

variable {n : LockName}

lemma sequencesUnder_update {q : Message → Bool} {f : Message → Message} {hf : ∀ m, (f m).messageId = m.messageId}
    (hc : ∀ m, (f m).conversationId = m.conversationId) (hs : ∀ m, (f m).sequence = m.sequence)
    (t : Table Message.messageId) : sequencesUnder (t.update q f hf) n = sequencesUnder t n := by
  cases n <;> simp only [sequencesUnder, sequencesOf]
  have hone : ∀ m, (if q m then f m else m).conversationId = m.conversationId := by
    intro m
    split
    · exact hc m
    · rfl
  rw [Table.update_rows, List.filter_map, List.map_map]
  simp only [Function.comp_def, hone]
  apply List.map_congr_left
  intro m _
  split
  · rw [hf m, hs m]
  · rfl

lemma sequencesUnder_insert {m : Message} (hn : n ≠ .conversation m.conversationId)
    (t : Table Message.messageId) : sequencesUnder (t.insert m) n = sequencesUnder t n := by
  cases hf : t.find? m.messageId with
  | some r => rw [Table.insert_of_present hf]
  | none =>
    cases n <;> simp only [sequencesUnder, sequencesOf, Table.insert_of_absent hf]
    simp only [ne_eq, LockName.conversation.injEq] at hn
    simp [List.filter_append, Ne.symm hn]

lemma eventsUnder_insert {e : ConversationEvent} (hn : n ≠ .conversation e.conversationId)
    (t : Table ConversationEvent.eventId) : eventsUnder (t.insert e) n = eventsUnder t n := by
  cases hf : t.find? e.eventId with
  | some r => rw [Table.insert_of_present hf]
  | none =>
    cases n <;> simp only [eventsUnder, eventsOf, Table.insert_of_absent hf]
    simp only [ne_eq, LockName.conversation.injEq] at hn
    simp [List.filter_append, Ne.symm hn]

lemma eventsUnder_delete {q : ConversationEvent → Bool} {k : Id} (hq : ∀ e, q e = true → e.conversationId = k)
    (hn : n ≠ .conversation k) (t : Table ConversationEvent.eventId) :
    eventsUnder (t.delete q) n = eventsUnder t n := by
  cases n <;> simp only [eventsUnder, eventsOf]
  simp only [ne_eq, LockName.conversation.injEq] at hn
  rw [Table.delete_rows, List.filter_filter]
  refine List.filter_congr fun e _ => ?_
  by_cases he : q e = true
  · have hk := hq e he
    simp [hk, Ne.symm hn]
  · simp [he]

lemma commandsUnder_insert {platform : Platform} {r : CommandIdempotency}
    (hn : n ≠ .advisory (advisory platform r.key)) (t : Table CommandIdempotency.key) :
    commandsUnder platform (t.insert r) n = commandsUnder platform t n := by
  cases hf : t.find? r.key with
  | some s => rw [Table.insert_of_present hf]
  | none =>
    cases n <;> simp only [commandsUnder, Table.insert_of_absent hf]
    simp only [ne_eq, LockName.advisory.injEq] at hn
    simp [List.filter_append, Ne.symm hn]

end Contents

section Held

variable {platform : Platform} {held : List (Lock LockName)}

def keyLock (platform : Platform) (k : CommandKey) : Lock LockName := ⟨.advisory (advisory platform k), .update⟩

lemma ne_of_unlocked {l : Lock LockName} {n : LockName} (hl : l ∈ held) (hx : l.exclusive)
    (h : Unlocked held n) : n ≠ l.target := (h l hl hx).symm

lemma ne_advisory {k : CommandKey} {n : LockName} (hl : keyLock platform k ∈ held) (h : Unlocked held n) :
    n ≠ .advisory (advisory platform k) := ne_of_unlocked hl (by simp [keyLock, Lock.exclusive]) h

lemma ne_conversation {p : Conversation → Bool} {db : Tables} {k : Id} {n : LockName} {c : Conversation}
    (hp : ∀ c, p c = true → c.conversationId = k) (hc : c ∈ conversations.matching p db)
    (h : Unlocked (conversations.rowLocks .noKeyUpdate (conversations.matching p db) ++ held) n) :
    n ≠ .conversation k := by
  have hk := hp c (List.mem_filter.mp hc).2
  have hl : (⟨.conversation k, .noKeyUpdate⟩ : Lock LockName) ∈
      conversations.rowLocks .noKeyUpdate (conversations.matching p db) ++ held :=
    List.mem_append_left _ (List.mem_map.mpr ⟨c, hc, by simp [conversations, hk]⟩)
  exact ne_of_unlocked hl (by simp [Lock.exclusive]) h

lemma guarded_withIdempotency {α : Type} {k : CommandKey} {replay : CommandIdempotency → Query α} {fresh : Query α}
    (hreplay : ∀ previous, (replay previous).Guarded (cell platform) [])
    (hfresh : fresh.Guarded (cell platform) [keyLock platform k]) :
    (withIdempotency platform k replay fresh).Guarded (cell platform) [] := by
  intro v
  refine ⟨fun _ _ _ => rfl, fun w => ⟨fun _ _ _ => rfl, ?_⟩⟩
  dsimp only
  cases (commandIdempotency.matching (fun r => decide (r.key = k)) w.rows).head? with
  | some previous => exact (hreplay previous).mono (List.nil_subset _)
  | none => exact hfresh

lemma guarded_sameRequest (requestHash : String) (previous : CommandIdempotency) :
    (sameRequest requestHash previous).Guarded (cell platform) held := by
  unfold sameRequest
  split <;> trivial

lemma guarded_requireConversation (scope : Scope) (conversationId : Id) :
    (requireConversation scope conversationId).Guarded (cell platform) held := by
  refine (Relation.guarded_selectFirst _ _).bind fun c => ?_
  cases c <;> trivial

lemma guarded_insertCommand {r : CommandIdempotency} (h : keyLock platform r.key ∈ held) :
    (commandIdempotency.insertInto r : Query Unit).Guarded (cell platform) held :=
  shields_commands.insertInto fun _ u hn =>
    commandsUnder_insert (ne_advisory (List.mem_append_right _ h) hn) u

lemma single_requireConversation (scope : Scope) (conversationId : Id) :
    (requireConversation scope conversationId).Single := by
  refine (Relation.single_selectFirst _ _).bind fun c => ?_
  cases c <;> trivial

end Held

end ChatCore.Services
