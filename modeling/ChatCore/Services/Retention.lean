import ChatCore.Services.Commands

namespace ChatCore.Services.RetentionService

open Protocol Relational Database

structure RetentionPolicy where
  anonymousDays : ℕ
  contactValueHours : ℕ
  deriving DecidableEq, Repr

structure RetentionResult where
  conversationsDeleted : ℕ
  principalsDeleted : ℕ
  contactValuesRedacted : ℕ
  deriving DecidableEq, Repr

/-- The orders in which the two queries with a limit happen to see their rows. -/
structure Orders where
  conversations : Arrangement Conversation
  principals : Arrangement Principal

def anonymousCutoff (policy : RetentionPolicy) (now : Timestamp) : Timestamp :=
  now - milliseconds (policy.anonymousDays * 24 * 60 * 60 * 1000)

def contactCutoff (policy : RetentionPolicy) (now : Timestamp) : Timestamp :=
  now - milliseconds (policy.contactValueHours * 60 * 60 * 1000)

section Cascades

def restrict (name : String) (referring : Tables → Bool) : Query Unit := do
  if ← Program.select referring then .throw (.constraint name)

def deleteAgentRuns (p : AgentRun → Bool) : Query Unit := do
  let rows ← agentRuns.deleteFrom p
  let _ ← handoffs.deleteFrom (fun h => rows.any fun r => decide (r.runId = h.runId))
  let _ ← structuredInputRequests.deleteFrom (fun i => rows.any fun r => decide (r.runId = i.runId))

def deleteMessages (p : Message → Bool) : Query Unit := do
  let rows ← messages.deleteFrom p
  deleteAgentRuns (fun r => rows.any fun m => decide (m.messageId = r.triggerMessageId))

def deleteConversationParticipants (p : ConversationParticipant → Bool) : Query Unit := do
  let rows ← conversationParticipants.deleteFrom p
  restrict "messages_participant_foreign" (fun db => db.messages.rows.any fun m => rows.any fun r =>
    decide ((r.tenantId, r.siteId, r.conversationId, r.participantId) =
      (m.tenantId, m.siteId, m.conversationId, m.participantId)))

def sameConversation (c : Conversation) (tenantId siteId conversationId : Id) : Bool :=
  decide (tenantId = c.tenantId) && decide (siteId = c.siteId) && decide (conversationId = c.conversationId)

def deleteConversations (p : Conversation → Bool) : Query Unit := do
  let rows ← conversations.deleteFrom p
  let _ ← conversationEvents.deleteFrom
    (fun e => rows.any fun c => sameConversation c e.tenantId e.siteId e.conversationId)
  deleteAgentRuns (fun r => rows.any fun c => sameConversation c r.tenantId r.siteId r.conversationId)
  deleteConversationParticipants
    (fun p => rows.any fun c => sameConversation c p.tenantId p.siteId p.conversationId)

def deletePrincipals (p : Principal → Bool) : Query ℕ := do
  let rows ← principals.deleteFrom p
  let _ ← browserSessions.deleteFrom (fun s => rows.any fun r =>
    decide ((s.tenantId, s.siteId, s.principalId) = (r.tenantId, r.siteId, r.principalId)))
  restrict "conversations_principal_foreign" (fun db => db.conversations.rows.any fun c => rows.any fun r =>
    decide ((c.tenantId, c.siteId, c.principalId) = (r.tenantId, r.siteId, r.principalId)))
  return rows.length

end Cascades

def deleteConversation (c : Conversation) : Query Unit := do
  let _ ← structuredInputRequests.deleteFrom (fun i => sameConversation c i.tenantId i.siteId i.conversationId)
  let _ ← handoffs.deleteFrom (fun h => sameConversation c h.tenantId h.siteId h.conversationId)
  deleteAgentRuns (fun r => sameConversation c r.tenantId r.siteId r.conversationId)
  let _ ← conversationEvents.deleteFrom (fun e => sameConversation c e.tenantId e.siteId e.conversationId)
  deleteMessages (fun m => sameConversation c m.tenantId m.siteId m.conversationId)
  deleteConversationParticipants (fun p => sameConversation c p.tenantId p.siteId p.conversationId)
  deleteConversations (fun d => sameConversation c d.tenantId d.siteId d.conversationId)

def redact (r : StructuredInputRequest) : StructuredInputRequest := { r with value := none, status := .expired }

lemma redact_requestId (r : StructuredInputRequest) : (redact r).requestId = r.requestId := rfl

def ofPrincipal (c : Conversation) (p : Principal) : Bool :=
  decide (p.principalId = c.principalId) && decide (p.tenantId = c.tenantId) && decide (p.siteId = c.siteId)

/-- The join with `principals`, one row for each principal of the conversation. -/
def expiredConversations (cutoff : Timestamp) (db : Tables) : List Conversation :=
  (conversations.matching (fun c => decide (c.updatedAt < cutoff)) db).flatMap fun c =>
    (principals.matching (ofPrincipal c) db).map fun _ => c

def deletePrincipal (p : Principal) : Query ℕ := do
  match ← conversations.selectFirst (fun c => decide (c.tenantId = p.tenantId) && decide (c.siteId = p.siteId) &&
      decide (c.principalId = p.principalId)) with
  | some _ => return 0
  | none => deletePrincipals (fun q => decide (q.tenantId = p.tenantId) && decide (q.siteId = p.siteId) &&
      decide (q.principalId = p.principalId))

def runOnce (policy : RetentionPolicy) (orders : Orders) (now : Timestamp) : Query RetentionResult :=
  Program.transaction do
    let redacted ← structuredInputRequests.updateTable
      (fun r => r.value.isSome && decide (r.updatedAt < contactCutoff policy now)) redact redact_requestId
    let expired ← Program.select fun db =>
      (orders.conversations.arrange (expiredConversations (anonymousCutoff policy now) db)).take 100
    expired.forM deleteConversation
    let _ ← commandIdempotency.deleteFrom (fun r => decide (r.createdAt < anonymousCutoff policy now))
    let _ ← sessionBootstrapIdempotency.deleteFrom (fun r => decide (r.createdAt < anonymousCutoff policy now))
    let _ ← browserSessions.deleteFrom (fun s => decide (s.expiresAt < now))
    let candidates ← Program.select fun db => (orders.principals.arrange
      (principals.matching (fun p => decide (p.createdAt < anonymousCutoff policy now)) db)).take 100
    let principalsDeleted ← candidates.foldlM (fun n p => return n + (← deletePrincipal p)) 0
    return ⟨expired.length, principalsDeleted, redacted.length⟩

end ChatCore.Services.RetentionService
