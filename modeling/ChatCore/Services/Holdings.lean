import ChatCore.Relational.Solitude
import ChatCore.Services.Listing
import ChatCore.Services.Server

/-! What belongs to some visitors, or to whole tenants: the rows that carry their ids, and the programs that keep
to them. -/

namespace ChatCore.Services

open Protocol Relational Database Program

/-- The scopes of some visitors, the tenants and sites that are wholly theirs, and the ids of their principals,
sessions and conversations and of everything in them. -/
structure Holdings where
  owns : Scope → Bool
  tenants : Id → Bool
  sites : Id → Bool
  holds : Id → Bool
  entire : ∀ scope, tenants scope.tenantId = true → owns scope = true

namespace Holdings

section Shares

variable (o : Holdings)

def isOf (tenantId siteId principalId : Id) : Bool := o.owns ⟨tenantId, siteId, principalId⟩

def Within (tenantId : Id) : Prop := ∃ siteId principalId, o.isOf tenantId siteId principalId = true

def principal : Share Principal where
  part p := o.isOf p.tenantId p.siteId p.principalId || o.holds p.principalId
  whole p := o.isOf p.tenantId p.siteId p.principalId = true ∧ o.holds p.principalId = true

def session : Share BrowserSession where
  part s := o.isOf s.tenantId s.siteId s.principalId || o.holds s.sessionId
  whole s := o.isOf s.tenantId s.siteId s.principalId = true ∧ o.holds s.sessionId = true

def bootstrap : Share SessionBootstrapIdempotency := ⟨fun r => o.sites r.key.siteId, fun _ => True⟩

def conversation : Share Conversation where
  part c := o.isOf c.tenantId c.siteId c.principalId || o.holds c.conversationId
  whole c := o.isOf c.tenantId c.siteId c.principalId = true ∧ o.holds c.conversationId = true

def participant : Share ConversationParticipant where
  part p := o.holds p.conversationId || (o.holds p.participantId || o.tenants p.tenantId)
  whole p := o.holds p.conversationId = true ∧ o.holds p.participantId = true ∧ o.Within p.tenantId

def message : Share Message where
  part m := o.holds m.conversationId || (o.holds m.messageId || o.tenants m.tenantId)
  whole m := o.holds m.conversationId = true ∧ o.holds m.messageId = true ∧ o.Within m.tenantId

def command : Share CommandIdempotency where
  part r := o.isOf r.key.tenantId r.key.siteId r.key.principalId
  whole r := ∀ conversationId, r.key.operation = EmailHandoffService.operation conversationId →
    o.holds r.resourceId = true

def event : Share ConversationEvent where
  part e := o.holds e.conversationId || (o.holds e.eventId || o.tenants e.tenantId)
  whole e := o.holds e.conversationId = true ∧ o.holds e.eventId = true ∧ o.Within e.tenantId

def run : Share AgentRun where
  part r := o.holds r.conversationId || (o.holds r.runId || (o.holds r.assistantMessageId || o.tenants r.tenantId))
  whole r := o.holds r.conversationId = true ∧ o.holds r.runId = true ∧ o.holds r.assistantMessageId = true ∧
    o.Within r.tenantId

def handoff : Share Handoff where
  part h := o.holds h.conversationId || (o.holds h.handoffId || (o.holds h.runId || o.tenants h.tenantId))
  whole h := o.holds h.conversationId = true ∧ o.holds h.handoffId = true ∧ o.holds h.runId = true ∧
    o.Within h.tenantId

def input : Share StructuredInputRequest where
  part i := o.holds i.conversationId || (o.holds i.requestId || o.tenants i.tenantId)
  whole i := o.holds i.conversationId = true ∧ o.holds i.requestId = true ∧ o.holds i.runId = true ∧
    o.Within i.tenantId

/-- Databases with the same rows of theirs, in both of which those rows refer to nothing of anybody else. -/
structure Agree (db db' : Tables) : Prop where
  principals : o.principal.Same db.principals.rows db'.principals.rows
  sessions : o.session.Same db.browserSessions.rows db'.browserSessions.rows
  bootstraps : o.bootstrap.Same db.sessionBootstrapIdempotency.rows db'.sessionBootstrapIdempotency.rows
  conversations : o.conversation.Same db.conversations.rows db'.conversations.rows
  participants : o.participant.Same db.conversationParticipants.rows db'.conversationParticipants.rows
  messages : o.message.Same db.messages.rows db'.messages.rows
  commands : o.command.Same db.commandIdempotency.rows db'.commandIdempotency.rows
  events : o.event.Same db.conversationEvents.rows db'.conversationEvents.rows
  runs : o.run.Same db.agentRuns.rows db'.agentRuns.rows
  handoffs : o.handoff.Same db.handoffs.rows db'.handoffs.rows
  inputs : o.input.Same db.structuredInputRequests.rows db'.structuredInputRequests.rows

structure Spares (db db' : Tables) : Prop where
  principals : o.principal.Spared db.principals.rows db'.principals.rows
  sessions : o.session.Spared db.browserSessions.rows db'.browserSessions.rows
  bootstraps : o.bootstrap.Spared db.sessionBootstrapIdempotency.rows db'.sessionBootstrapIdempotency.rows
  conversations : o.conversation.Spared db.conversations.rows db'.conversations.rows
  participants : o.participant.Spared db.conversationParticipants.rows db'.conversationParticipants.rows
  messages : o.message.Spared db.messages.rows db'.messages.rows
  commands : o.command.Spared db.commandIdempotency.rows db'.commandIdempotency.rows
  events : o.event.Spared db.conversationEvents.rows db'.conversationEvents.rows
  runs : o.run.Spared db.agentRuns.rows db'.agentRuns.rows
  handoffs : o.handoff.Spared db.handoffs.rows db'.handoffs.rows
  inputs : o.input.Spared db.structuredInputRequests.rows db'.structuredInputRequests.rows

lemma agreement : Agreement o.Agree where
  symm h := ⟨h.principals.symm, h.sessions.symm, h.bootstraps.symm, h.conversations.symm, h.participants.symm,
    h.messages.symm, h.commands.symm, h.events.symm, h.runs.symm, h.handoffs.symm, h.inputs.symm⟩
  trans h h' := ⟨h.principals.trans h'.principals, h.sessions.trans h'.sessions, h.bootstraps.trans h'.bootstraps,
    h.conversations.trans h'.conversations, h.participants.trans h'.participants, h.messages.trans h'.messages,
    h.commands.trans h'.commands, h.events.trans h'.events, h.runs.trans h'.runs, h.handoffs.trans h'.handoffs,
    h.inputs.trans h'.inputs⟩

lemma spares_refl (db : Tables) : o.Spares db db := ⟨rfl, rfl, rfl, rfl, rfl, rfl, rfl, rfl, rfl, rfl, rfl⟩

lemma spares_trans {a b c : Tables} (h : o.Spares a b) (h' : o.Spares b c) : o.Spares a c :=
  ⟨h'.principals.trans h.principals, h'.sessions.trans h.sessions, h'.bootstraps.trans h.bootstraps,
    h'.conversations.trans h.conversations, h'.participants.trans h.participants, h'.messages.trans h.messages,
    h'.commands.trans h.commands, h'.events.trans h.events, h'.runs.trans h.runs, h'.handoffs.trans h.handoffs,
    h'.inputs.trans h.inputs⟩

end Shares

section Fences

variable (o : Holdings)

lemma fenced_principals : Database.principals.Fenced o.Agree o.Spares o.principal.part o.principal.whole where
  rows h := h.principals.rows
  whole h := h.principals.whole
  put h _ _ hx hw := { h with principals := ⟨hx, hw⟩ }
  rest db _ hx := { o.spares_refl db with principals := hx }
  refl := o.spares_refl

lemma fenced_sessions : browserSessions.Fenced o.Agree o.Spares o.session.part o.session.whole where
  rows h := h.sessions.rows
  whole h := h.sessions.whole
  put h _ _ hx hw := { h with sessions := ⟨hx, hw⟩ }
  rest db _ hx := { o.spares_refl db with sessions := hx }
  refl := o.spares_refl

lemma fenced_bootstraps :
    sessionBootstrapIdempotency.Fenced o.Agree o.Spares o.bootstrap.part o.bootstrap.whole where
  rows h := h.bootstraps.rows
  whole h := h.bootstraps.whole
  put h _ _ hx hw := { h with bootstraps := ⟨hx, hw⟩ }
  rest db _ hx := { o.spares_refl db with bootstraps := hx }
  refl := o.spares_refl

lemma fenced_conversations :
    Database.conversations.Fenced o.Agree o.Spares o.conversation.part o.conversation.whole where
  rows h := h.conversations.rows
  whole h := h.conversations.whole
  put h _ _ hx hw := { h with conversations := ⟨hx, hw⟩ }
  rest db _ hx := { o.spares_refl db with conversations := hx }
  refl := o.spares_refl

lemma fenced_participants :
    conversationParticipants.Fenced o.Agree o.Spares o.participant.part o.participant.whole where
  rows h := h.participants.rows
  whole h := h.participants.whole
  put h _ _ hx hw := { h with participants := ⟨hx, hw⟩ }
  rest db _ hx := { o.spares_refl db with participants := hx }
  refl := o.spares_refl

lemma fenced_messages : Database.messages.Fenced o.Agree o.Spares o.message.part o.message.whole where
  rows h := h.messages.rows
  whole h := h.messages.whole
  put h _ _ hx hw := { h with messages := ⟨hx, hw⟩ }
  rest db _ hx := { o.spares_refl db with messages := hx }
  refl := o.spares_refl

lemma fenced_commands : commandIdempotency.Fenced o.Agree o.Spares o.command.part o.command.whole where
  rows h := h.commands.rows
  whole h := h.commands.whole
  put h _ _ hx hw := { h with commands := ⟨hx, hw⟩ }
  rest db _ hx := { o.spares_refl db with commands := hx }
  refl := o.spares_refl

lemma fenced_events : conversationEvents.Fenced o.Agree o.Spares o.event.part o.event.whole where
  rows h := h.events.rows
  whole h := h.events.whole
  put h _ _ hx hw := { h with events := ⟨hx, hw⟩ }
  rest db _ hx := { o.spares_refl db with events := hx }
  refl := o.spares_refl

lemma fenced_runs : agentRuns.Fenced o.Agree o.Spares o.run.part o.run.whole where
  rows h := h.runs.rows
  whole h := h.runs.whole
  put h _ _ hx hw := { h with runs := ⟨hx, hw⟩ }
  rest db _ hx := { o.spares_refl db with runs := hx }
  refl := o.spares_refl

lemma fenced_handoffs : Database.handoffs.Fenced o.Agree o.Spares o.handoff.part o.handoff.whole where
  rows h := h.handoffs.rows
  whole h := h.handoffs.whole
  put h _ _ hx hw := { h with handoffs := ⟨hx, hw⟩ }
  rest db _ hx := { o.spares_refl db with handoffs := hx }
  refl := o.spares_refl

lemma fenced_inputs : structuredInputRequests.Fenced o.Agree o.Spares o.input.part o.input.whole where
  rows h := h.inputs.rows
  whole h := h.inputs.whole
  put h _ _ hx hw := { h with inputs := ⟨hx, hw⟩ }
  rest db _ hx := { o.spares_refl db with inputs := hx }
  refl := o.spares_refl

end Fences

section Admissions

-- the rows that they may add

variable {o : Holdings} {db db' : Tables} {scope : Scope}

lemma isOf_scope (h : o.owns scope = true) : o.isOf scope.tenantId scope.siteId scope.principalId = true := h

lemma within_scope (h : o.owns scope = true) : o.Within scope.tenantId := ⟨_, _, h⟩

lemma isOf_tenant {tenantId : Id} (h : o.tenants tenantId = true) (siteId principalId : Id) :
    o.isOf tenantId siteId principalId = true := o.entire _ h

lemma part_of_principal {p : Principal} {tenantId siteId principalId : Id}
    (h : o.isOf tenantId siteId principalId = true)
    (hp : (p.tenantId, p.siteId, p.principalId) = (tenantId, siteId, principalId)) :
    o.principal.part p = true := by
  rw [Prod.mk.injEq, Prod.mk.injEq] at hp
  simp [principal, hp.1, hp.2.1, hp.2.2, h]

lemma hasConversation_agree (h : o.Agree db db') {conversationId : Id} (hid : o.holds conversationId = true)
    (tenantId siteId : Id) :
    hasConversation db tenantId siteId conversationId = hasConversation db' tenantId siteId conversationId := by
  refine o.fenced_conversations.any h fun c hc => ?_
  simp only [decide_eq_true_eq, Prod.mk.injEq] at hc
  simp [conversation, hc.2.2, hid]

lemma findRun_agree (h : o.Agree db db') {runId : Id} (hid : o.holds runId = true) :
    db.agentRuns.find? runId = db'.agentRuns.find? runId :=
  o.fenced_runs.find? h fun r hr => by simp [run, hr, hid]

lemma admits_principal {r : Principal} (htenant : o.tenants r.tenantId = true)
    (hid : o.holds r.principalId = true) :
    Database.principals.Admits o.Agree o.principal.part o.principal.whole r where
  own := by simp [principal, hid]
  whole := ⟨isOf_tenant htenant _ _, hid⟩
  keys s hs := by simp [principal, hs, hid]
  violation db db' h := by
    refine congrArg (failing _) (o.fenced_principals.all h fun p hp => ?_)
    simp only [decide_eq_false_iff_not, not_not, Prod.mk.injEq] at hp
    simp [principal, hp.1, isOf_tenant htenant]

lemma admits_session {r : BrowserSession} (hscope : o.isOf r.tenantId r.siteId r.principalId = true)
    (hid : o.holds r.sessionId = true) : browserSessions.Admits o.Agree o.session.part o.session.whole r where
  own := by simp [session, hid]
  whole := ⟨hscope, hid⟩
  keys s hs := by simp [session, hs, hid]
  violation db db' h := by
    refine congrArg₂ Option.or (congrArg (failing _) (o.fenced_sessions.all h fun s hs => ?_))
      (congrArg (failing _)
        (o.fenced_principals.any h fun p hp => part_of_principal hscope (of_decide_eq_true hp)))
    simp only [decide_eq_false_iff_not, not_not, Prod.mk.injEq] at hs
    simp [session, hs.1, hs.2.1, hs.2.2, hscope]

lemma admits_bootstrap {r : SessionBootstrapIdempotency} (hsite : o.sites r.key.siteId = true) :
    sessionBootstrapIdempotency.Admits o.Agree o.bootstrap.part o.bootstrap.whole r where
  own := hsite
  whole := trivial
  keys s hs := by simp only [bootstrap, hs, hsite]
  violation _ _ _ := rfl

lemma admits_conversation {r : Conversation} (hscope : o.isOf r.tenantId r.siteId r.principalId = true)
    (hid : o.holds r.conversationId = true) :
    Database.conversations.Admits o.Agree o.conversation.part o.conversation.whole r where
  own := by simp [conversation, hid]
  whole := ⟨hscope, hid⟩
  keys s hs := by simp [conversation, hs, hid]
  violation db db' h :=
    congrArg (failing _) (o.fenced_principals.any h fun p hp => part_of_principal hscope (of_decide_eq_true hp))

lemma admits_participant {r : ConversationParticipant} (hwhole : o.participant.whole r) :
    conversationParticipants.Admits o.Agree o.participant.part o.participant.whole r where
  own := by simp [participant, hwhole.1]
  whole := hwhole
  keys s hs := by simp [participant, hs, hwhole.2.1]
  violation db db' h := by
    refine congrArg₂ Option.or (congrArg (failing _) (o.fenced_participants.all h fun p hp => ?_))
      (congrArg (failing _) (hasConversation_agree h hwhole.1 _ _))
    simp only [decide_eq_false_iff_not, not_not, Prod.mk.injEq] at hp
    simp [participant, hp.1, hwhole.1]

lemma admits_message {r : Message} (hwhole : o.message.whole r) :
    Database.messages.Admits o.Agree o.message.part o.message.whole r where
  own := by simp [message, hwhole.1]
  whole := hwhole
  keys s hs := by simp [message, hs, hwhole.2.1]
  violation db db' h := by
    refine congrArg₂ Option.or (congrArg (failing _) (o.fenced_messages.all h fun m hm => ?_))
      (congrArg (failing _) (o.fenced_participants.any h fun p hp => ?_))
    · simp only [decide_eq_false_iff_not, not_not, Prod.mk.injEq] at hm
      simp [message, hm.1, hwhole.1]
    · simp only [decide_eq_true_eq, Prod.mk.injEq] at hp
      simp [participant, hp.2.2.1, hwhole.1]

lemma admits_command {r : CommandIdempotency}
    (hscope : o.isOf r.key.tenantId r.key.siteId r.key.principalId = true) (hwhole : o.command.whole r) :
    commandIdempotency.Admits o.Agree o.command.part o.command.whole r where
  own := hscope
  whole := hwhole
  keys s hs := by simp only [command, hs, hscope]
  violation _ _ _ := rfl

lemma admits_event {r : ConversationEvent} (hwhole : o.event.whole r) :
    conversationEvents.Admits o.Agree o.event.part o.event.whole r where
  own := by simp [event, hwhole.1]
  whole := hwhole
  keys s hs := by simp [event, hs, hwhole.2.1]
  violation db db' h := by
    refine congrArg₂ Option.or (congrArg (failing _) (o.fenced_events.all h fun e he => ?_))
      (congrArg (failing _) (hasConversation_agree h hwhole.1 _ _))
    simp only [decide_eq_false_iff_not, not_not, Prod.mk.injEq] at he
    simp [event, he.1, hwhole.1]

lemma admits_run {r : AgentRun} (hwhole : o.run.whole r) (htrigger : o.holds r.triggerMessageId = true) :
    agentRuns.Admits o.Agree o.run.part o.run.whole r where
  own := by simp [run, hwhole.1]
  whole := hwhole
  keys s hs := by simp [run, hs, hwhole.2.1]
  violation db db' h := by
    have hmessage : db.messages.find? r.triggerMessageId = db'.messages.find? r.triggerMessageId :=
      o.fenced_messages.find? h fun m hm => by simp [message, hm, htrigger]
    refine congrArg₂ Option.or (congrArg (failing _) (o.fenced_runs.all h fun s hs => ?_))
      (congrArg₂ Option.or (congrArg (failing _) (hasConversation_agree h hwhole.1 _ _)) ?_)
    · simp only [decide_eq_false_iff_not, not_not] at hs
      simp [run, hs, hwhole.2.2.1]
    · rw [hmessage]

lemma admits_handoff {r : Handoff} (hwhole : o.handoff.whole r) :
    Database.handoffs.Admits o.Agree o.handoff.part o.handoff.whole r where
  own := by simp [handoff, hwhole.1]
  whole := hwhole
  keys s hs := by simp [handoff, hs, hwhole.2.1]
  violation db db' h := by
    refine congrArg₂ Option.or (congrArg (failing _) (o.fenced_handoffs.all h fun s hs => ?_)) ?_
    · simp only [decide_eq_false_iff_not, not_not] at hs
      simp [handoff, hs, hwhole.2.2.1]
    · rw [findRun_agree h hwhole.2.2.1]

lemma admits_input {r : StructuredInputRequest} (hwhole : o.input.whole r) :
    structuredInputRequests.Admits o.Agree o.input.part o.input.whole r where
  own := by simp [input, hwhole.1]
  whole := hwhole
  keys s hs := by simp [input, hs, hwhole.2.1]
  violation db db' h := by
    change failing _ _ = failing _ _
    rw [findRun_agree h hwhole.2.2.1]

end Admissions

section Disjoint

/-- They have nothing in common. -/
structure Disjoint (o u : Holdings) : Prop where
  owns : ∀ scope, o.owns scope = true → u.owns scope = false
  sites : ∀ siteId, o.sites siteId = true → u.sites siteId = false
  holds : ∀ id, o.holds id = true → u.holds id = false

variable {o u : Holdings}

lemma Disjoint.isOf (h : o.Disjoint u) {tenantId siteId principalId : Id}
    (hof : o.isOf tenantId siteId principalId = true) : u.isOf tenantId siteId principalId = false := h.owns _ hof

lemma Disjoint.tenants (h : o.Disjoint u) {tenantId : Id} (hwithin : o.Within tenantId) :
    u.tenants tenantId = false := by
  obtain ⟨siteId, principalId, hof⟩ := hwithin
  refine Bool.eq_false_iff.mpr fun htenant => ?_
  have hother := isOf_tenant htenant siteId principalId
  rw [h.isOf hof] at hother
  cases hother

lemma Disjoint.apart (h : o.Disjoint u) {a b c : Tables} (ha : o.Agree a a) (hb : o.Agree b b)
    (hspares : o.Spares a b)
    (hc : u.Agree a c) : u.Agree b c where
  principals := ha.principals.apart hb.principals hspares.principals
    (fun _ _ hw => by simp [principal, h.isOf hw.1, h.holds _ hw.2]) hc.principals
  sessions := ha.sessions.apart hb.sessions hspares.sessions
    (fun _ _ hw => by simp [session, h.isOf hw.1, h.holds _ hw.2]) hc.sessions
  bootstraps := ha.bootstraps.apart hb.bootstraps hspares.bootstraps (fun _ hp _ => h.sites _ hp) hc.bootstraps
  conversations := ha.conversations.apart hb.conversations hspares.conversations
    (fun _ _ hw => by simp [conversation, h.isOf hw.1, h.holds _ hw.2]) hc.conversations
  participants := ha.participants.apart hb.participants hspares.participants
    (fun _ _ hw => by simp [participant, h.holds _ hw.1, h.holds _ hw.2.1, h.tenants hw.2.2]) hc.participants
  messages := ha.messages.apart hb.messages hspares.messages
    (fun _ _ hw => by simp [message, h.holds _ hw.1, h.holds _ hw.2.1, h.tenants hw.2.2]) hc.messages
  commands := ha.commands.apart hb.commands hspares.commands (fun _ hp _ => h.isOf hp) hc.commands
  events := ha.events.apart hb.events hspares.events
    (fun _ _ hw => by simp [event, h.holds _ hw.1, h.holds _ hw.2.1, h.tenants hw.2.2]) hc.events
  runs := ha.runs.apart hb.runs hspares.runs (fun _ _ hw => by
    simp [run, h.holds _ hw.1, h.holds _ hw.2.1, h.holds _ hw.2.2.1, h.tenants hw.2.2.2]) hc.runs
  handoffs := ha.handoffs.apart hb.handoffs hspares.handoffs (fun _ _ hw => by
    simp [handoff, h.holds _ hw.1, h.holds _ hw.2.1, h.holds _ hw.2.2.1, h.tenants hw.2.2.2]) hc.handoffs
  inputs := ha.inputs.apart hb.inputs hspares.inputs (fun _ _ hw => by
    simp [input, h.holds _ hw.1, h.holds _ hw.2.1, h.tenants hw.2.2.2]) hc.inputs

lemma partition {ι : Type} {visitors : ι → Holdings} (h : ∀ i j, i ≠ j → (visitors i).Disjoint (visitors j)) :
    Partition (fun i => (visitors i).Agree) (fun i => (visitors i).Spares) where
  agreement i := (visitors i).agreement
  refl i := (visitors i).spares_refl
  trans i := (visitors i).spares_trans
  apart hij := (h _ _ hij).apart

end Disjoint

end Holdings

end ChatCore.Services
