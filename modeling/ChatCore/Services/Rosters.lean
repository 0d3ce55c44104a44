import ChatCore.Relational.Triples
import ChatCore.Services.Expiry
import ChatCore.Services.Listing
import ChatCore.Services.Writes

namespace ChatCore.Services

open Protocol Relational Database

def speaksAs : MessageRole → ParticipantKind → Bool
  | .user, .user | .assistant, .agent => true
  | _, _ => false

/-- The conditional rules of `MessageSchema`. -/
def wellFormed {τ : Type} (status : MessageStatus) (parts : List ContentPart) (completedAt : Option τ) : Bool :=
  match status with
  | .completed => completedAt.isSome && !parts.isEmpty
  | .pending | .streaming => completedAt.isNone
  | .failed | .cancelled => true

def validateConversationParticipantContext (conversation : ConversationService.ConversationResource) : Bool :=
  let user := conversation.participants.find? fun participant => decide (participant.kind = .user)
  let agent := conversation.participants.find? fun participant => decide (participant.kind = .agent)
  decide (conversation.participants.map fun participant => participant.participantId).Nodup &&
    decide (user.bind (fun participant => participant.principalId) = some conversation.principalId) &&
    decide (agent.bind (fun participant => participant.agentRef) = some conversation.agentRef)

def validateMessageAttribution (message : MessageResource)
    (conversation : ConversationService.ConversationResource) : Bool :=
  match conversation.participants.find? fun candidate =>
    decide (candidate.participantId = message.participantId) with
  | none => false
  | some participant => speaksAs message.role participant.kind

def seat (p : ConversationParticipant) : Id × Id × Id := (p.tenantId, p.siteId, p.conversationId)

structure Authored (m : Message) (p : ConversationParticipant) : Prop where
  home : (m.tenantId, m.siteId, m.conversationId) = seat p
  participant : p.participantId = m.participantId
  role : speaksAs m.role p.kind = true

structure Staffed (db : Tables) (c : Conversation) : Prop where
  user : ∃ p ∈ db.conversationParticipants, seat p = (c.tenantId, c.siteId, c.conversationId) ∧
    p.kind = .user ∧ p.principalId = some c.principalId
  agent : ∃ p ∈ db.conversationParticipants, seat p = (c.tenantId, c.siteId, c.conversationId) ∧
    p.kind = .agent ∧ p.agentRef = some c.agentRef

structure Roster (gone : Id → Id → Id → Bool) (db : Tables) : Prop where
  staffed : ∀ c ∈ db.conversations, gone c.tenantId c.siteId c.conversationId = false → Staffed db c
  kinds : ∀ p ∈ db.conversationParticipants, ∀ q ∈ db.conversationParticipants,
    p.conversationId = q.conversationId → p.kind = q.kind → p = q
  authored : ∀ m ∈ db.messages, ∃ p ∈ db.conversationParticipants, Authored m p
  wellFormed : ∀ m ∈ db.messages, Services.wellFormed m.status m.parts m.completedAt = true

def nowhere : Id → Id → Id → Bool := fun _ _ _ => false

structure Retains (a b : Tables) : Prop where
  participants : b.conversationParticipants = a.conversationParticipants
  conversations : ∀ c ∈ b.conversations, ∃ c' ∈ a.conversations,
    (c'.tenantId, c'.siteId, c'.conversationId, c'.principalId, c'.agentRef) =
      (c.tenantId, c.siteId, c.conversationId, c.principalId, c.agentRef)
  messages : ∀ m ∈ b.messages, ∃ m' ∈ a.messages,
    (m'.tenantId, m'.siteId, m'.conversationId, m'.participantId, m'.role) =
      (m.tenantId, m.siteId, m.conversationId, m.participantId, m.role) ∧
    (wellFormed m'.status m'.parts m'.completedAt = true → wellFormed m.status m.parts m.completedAt = true)

section Retains

variable {gone : Id → Id → Id → Bool} {a b c : Tables}

lemma retains_of_same (hp : b.conversationParticipants = a.conversationParticipants)
    (hc : b.conversations = a.conversations) (hm : b.messages = a.messages) : Retains a b :=
  ⟨hp, fun c hmem => ⟨c, hc ▸ hmem, rfl⟩, fun m hmem => ⟨m, hm ▸ hmem, rfl, id⟩⟩

lemma retains_refl (db : Tables) : Retains db db := retains_of_same rfl rfl rfl

lemma Retains.roster (h : Retains a b) (ha : Roster gone a) : Roster gone b := by
  refine ⟨fun c hc hg => ?_, ?_, fun m hm => ?_, fun m hm => ?_⟩
  · obtain ⟨c', hc', he⟩ := h.conversations c hc
    simp only [Prod.mk.injEq] at he
    obtain ⟨htenant, hsite, hconversation, hprincipal, hagent⟩ := he
    rw [← htenant, ← hsite, ← hconversation] at hg
    obtain ⟨⟨p, hp, hhome, hkind, hwho⟩, q, hq, hhome', hkind', hwho'⟩ := ha.staffed c' hc' hg
    refine ⟨⟨p, h.participants ▸ hp, ?_, hkind, hprincipal ▸ hwho⟩, q, h.participants ▸ hq, ?_, hkind',
      hagent ▸ hwho'⟩
    · rw [hhome, htenant, hsite, hconversation]
    · rw [hhome', htenant, hsite, hconversation]
  · rw [h.participants]
    exact ha.kinds
  · obtain ⟨m', hm', he, -⟩ := h.messages m hm
    simp only [Prod.mk.injEq] at he
    obtain ⟨htenant, hsite, hconversation, hparticipant, hrole⟩ := he
    obtain ⟨p, hp, hauthor⟩ := ha.authored m' hm'
    refine ⟨p, h.participants ▸ hp, ?_, hauthor.participant.trans hparticipant, hrole ▸ hauthor.role⟩
    rw [← htenant, ← hsite, ← hconversation]
    exact hauthor.home
  · obtain ⟨m', hm', -, hw⟩ := h.messages m hm
    exact hw (ha.wellFormed m' hm')

lemma retains_conversations {p : Conversation → Bool} {f : Conversation → Conversation}
    (hf : ∀ c, (f c).conversationId = c.conversationId)
    (hm : ∀ c, (c.tenantId, c.siteId, c.conversationId, c.principalId, c.agentRef) =
      ((f c).tenantId, (f c).siteId, (f c).conversationId, (f c).principalId, (f c).agentRef)) (base : Tables) :
    Retains base (conversations.put base ((conversations.get base).update p f hf)) := by
  refine ⟨rfl, fun c hc => ?_, fun m hmem => ⟨m, hmem, rfl, id⟩⟩
  replace hc : c ∈ base.conversations.update p f hf := hc
  obtain ⟨c', hc', rfl⟩ := Table.mem_update.mp hc
  refine ⟨c', hc', ?_⟩
  split
  · exact hm c'
  · rfl

lemma retains_messages {p : Message → Bool} {f : Message → Message} (hf : ∀ m, (f m).messageId = m.messageId)
    (hm : ∀ m, (m.tenantId, m.siteId, m.conversationId, m.participantId, m.role) =
      ((f m).tenantId, (f m).siteId, (f m).conversationId, (f m).participantId, (f m).role))
    (hw : ∀ m, wellFormed (f m).status (f m).parts (f m).completedAt = true) (base : Tables) :
    Retains base (messages.put base ((messages.get base).update p f hf)) := by
  refine ⟨rfl, fun c hc => ⟨c, hc, rfl⟩, fun m hmem => ?_⟩
  replace hmem : m ∈ base.messages.update p f hf := hmem
  obtain ⟨m', hm', rfl⟩ := Table.mem_update.mp hmem
  refine ⟨m', hm', ?_⟩
  split
  · exact ⟨hm m', fun _ => hw m'⟩
  · exact ⟨rfl, id⟩

lemma ensures_of_retains {α : Type} {p : Query α} (h : p.Keeps Retains) :
    p.Ensures (Roster nowhere) (Roster nowhere) fun _ => Roster nowhere :=
  Program.ensures_of_keeps h (fun _ _ => Retains.roster) fun _ hv => hv

end Retains

section Rows

variable {gone : Id → Id → Id → Bool} {db : Tables}

lemma Roster.mono {gone' : Id → Id → Id → Bool} (h : Roster gone db)
    (hg : ∀ t s k, gone' t s k = false → gone t s k = false) : Roster gone' db :=
  { h with staffed := fun c hc hk => h.staffed c hc (hg _ _ _ hk) }

lemma Roster.conversation {c : Conversation} (h : Roster gone db)
    (hc : gone c.tenantId c.siteId c.conversationId = true) :
    Roster gone { db with conversations := db.conversations.insert c } where
  staffed := by
    intro d hd hg
    rcases Table.mem_of_mem_insert hd with hd | rfl
    · obtain ⟨huser, hagent⟩ := h.staffed d hd hg
      exact ⟨huser, hagent⟩
    · rw [hc] at hg
      cases hg
  kinds := h.kinds
  authored := h.authored
  wellFormed := h.wellFormed

lemma Roster.join {p : ConversationParticipant} (h : Roster gone db)
    (hp : conversationParticipants.broken db p = none) :
    Roster gone { db with conversationParticipants := db.conversationParticipants.insert p } where
  staffed := by
    intro c hc hg
    obtain ⟨⟨u, hu, hwho⟩, q, hq, hwho'⟩ := h.staffed c hc hg
    exact ⟨⟨u, Table.mem_insert_of_mem hu, hwho⟩, q, Table.mem_insert_of_mem hq, hwho'⟩
  kinds := by
    obtain ⟨-, -, hviolation⟩ := conversationParticipants.broken_eq_none.mp hp
    have hunique := List.all_eq_true.mp (failing_eq_none.mp (Option.or_eq_none_iff.mp hviolation).1)
    have hnew : ∀ q ∈ db.conversationParticipants, q.conversationId = p.conversationId → q.kind ≠ p.kind :=
      fun q hq hc hk => of_decide_eq_true (hunique q hq) (Prod.ext hc hk)
    intro x hx y hy hc hk
    rcases Table.mem_of_mem_insert hx with hx | hx <;> rcases Table.mem_of_mem_insert hy with hy | hy
    · exact h.kinds x hx y hy hc hk
    · exact absurd (hy ▸ hk) (hnew x hx (hy ▸ hc))
    · exact absurd (hx ▸ hk.symm) (hnew y hy (hx ▸ hc.symm))
    · exact hx.trans hy.symm
  authored := by
    intro m hm
    obtain ⟨q, hq, ha⟩ := h.authored m hm
    exact ⟨q, Table.mem_insert_of_mem hq, ha⟩
  wellFormed := h.wellFormed

lemma Roster.message {m : Message} {p : ConversationParticipant} (h : Roster gone db)
    (hp : p ∈ db.conversationParticipants) (ha : Authored m p)
    (hw : Services.wellFormed m.status m.parts m.completedAt = true) :
    Roster gone { db with messages := db.messages.insert m } where
  staffed := by
    intro c hc hg
    obtain ⟨huser, hagent⟩ := h.staffed c hc hg
    exact ⟨huser, hagent⟩
  kinds := h.kinds
  authored := by
    intro x hx
    rcases Table.mem_of_mem_insert hx with hx | rfl
    · exact h.authored x hx
    · exact ⟨p, hp, ha⟩
  wellFormed := by
    intro x hx
    rcases Table.mem_of_mem_insert hx with hx | rfl
    · exact h.wellFormed x hx
    · exact hw

end Rows

section Commands

variable {platform : Platform} {scope : Scope}

lemma ensures_requireConversation {I P : Tables → Prop} (conversationId : Id) :
    (requireConversation scope conversationId).Ensures I P fun _ => P := by
  refine (Relation.ensures_selectFirst (Q := fun _ => P) fun _ h => h).bind fun found => ?_
  cases found with
  | none => exact Program.ensures_throw
  | some c => exact Program.ensures_pure fun _ h => h

lemma ensures_insertConversation (agentRef : Id) (k : CommandKey) (ids : ConversationService.CreateIds)
    (time : Timestamp) :
    (ConversationService.insertConversation platform scope agentRef k ids time).Ensures (Roster nowhere)
      (Roster nowhere) fun _ => Roster nowhere := by
  let gone : Id → Id → Id → Bool := fun _ _ k => decide (k = ids.id)
  let Only (db : Tables) : Prop := ∀ c ∈ db.conversations, c.conversationId = ids.id →
    c = ConversationService.newConversation scope agentRef ids.id time
  refine (Relation.ensures_insertInto (Q := fun _ v => Roster gone v ∧ Only v) fun v hv hb => ?_).bind fun _ => ?_
  · refine ⟨(hv.mono fun _ _ _ _ => rfl).conversation (decide_eq_true rfl), fun c hc hid => ?_⟩
    obtain ⟨-, hfind, -⟩ := conversations.broken_eq_none.mp hb
    rcases Table.mem_of_mem_insert hc with hc | rfl
    · exact absurd hid (Table.find?_eq_none.mp hfind c hc)
    · rfl
  refine (Relation.ensures_insertInto (Q := fun _ v => (Roster gone v ∧ Only v) ∧
    ConversationService.userParticipant scope ids ∈ v.conversationParticipants) fun v hv hb => ?_).bind fun _ => ?_
  · obtain ⟨-, hfind, -⟩ := conversationParticipants.broken_eq_none.mp hb
    exact ⟨⟨hv.1.join hb, hv.2⟩, (Table.mem_insert_of_absent hfind).mpr (Or.inr rfl)⟩
  refine (Relation.ensures_insertInto (Q := fun _ => Roster nowhere) fun v hv hb => ?_).bind fun _ => ?_
  · obtain ⟨⟨hv, honly⟩, huser⟩ := hv
    obtain ⟨-, hfind, -⟩ := conversationParticipants.broken_eq_none.mp hb
    have hall := hv.join hb
    refine { hall with staffed := fun c hc _ => ?_ }
    by_cases hid : c.conversationId = ids.id
    · rw [honly c hc hid]
      exact ⟨⟨_, Table.mem_insert_of_mem huser, rfl, rfl, rfl⟩,
        _, (Table.mem_insert_of_absent hfind).mpr (Or.inr rfl), rfl, rfl, rfl⟩
    · exact hall.staffed c hc (decide_eq_false hid)
  refine (ensures_of_retains (Relation.keeps_insertInto fun _ => retains_of_same rfl rfl rfl)).bind fun _ => ?_
  exact Program.ensures_pure fun _ hv => hv

lemma ensures_insertMessage (conversationId : Id) (request : MessageService.SubmitMessageRequest) (k : CommandKey)
    (ids : MessageService.SubmitIds) (now time : Timestamp) :
    (MessageService.insertMessage platform scope conversationId request k ids now time).Ensures (Roster nowhere)
      (Roster nowhere) fun _ => Roster nowhere := by
  let Chosen (p : ConversationParticipant) (db : Tables) : Prop := Roster nowhere db ∧
    p ∈ db.conversationParticipants ∧ seat p = (scope.tenantId, scope.siteId, conversationId) ∧ p.kind = .user
  refine (ensures_requireConversation conversationId).bind fun c => ?_
  refine (Relation.ensures_selectFirstOrThrow (Q := Chosen) fun v hv p hp hq => ?_).bind fun p => ?_
  · simp only [Bool.and_eq_true, decide_eq_true_eq] at hq
    obtain ⟨⟨⟨⟨htenant, hsite⟩, hconversation⟩, hkind⟩, -⟩ := hq
    refine ⟨hv, hp, ?_, hkind⟩
    rw [seat, htenant, hsite, hconversation]
  refine (Relation.ensures_updateTable (Q := fun _ => Chosen p) fun v hv => ?_).bind fun rows => ?_
  · exact ⟨(retains_conversations (MessageService.takeMessageSequence_conversationId now) (fun _ => rfl)
      v).roster hv.1,
      hv.2⟩
  refine (Relation.ensures_orThrow (Q := fun _ => Chosen p) fun _ _ _ hv => hv).bind fun updated => ?_
  refine (Relation.ensures_insertInto (Q := fun _ => Roster nowhere) fun v hv _ => ?_).bind fun _ => ?_
  · obtain ⟨hv, hp, hhome, hkind⟩ := hv
    refine hv.message hp ⟨hhome.symm, rfl, ?_⟩ ?_
    · rw [hkind]
      rfl
    · simpa [wellFormed, MessageService.newMessage] using request.nonempty
  refine (ensures_of_retains (Relation.keeps_insertInto fun _ => retains_of_same rfl rfl rfl)).bind fun _ => ?_
  refine (ensures_of_retains (Relation.keeps_insertInto fun _ => retains_of_same rfl rfl rfl)).bind fun _ => ?_
  exact Program.ensures_pure fun _ hv => hv

variable {I P : Tables → Prop} {α : Type} {Q : α → Tables → Prop}

lemma ensures_withIdempotency {k : CommandKey} {replay : CommandIdempotency → Query α} {fresh : Query α}
    (hreplay : ∀ previous, (replay previous).Ensures I P Q) (hfresh : fresh.Ensures I P Q) :
    (withIdempotency platform k replay fresh).Ensures I P Q := by
  refine Program.ensures_lock.bind fun _ => ?_
  refine (Relation.ensures_selectFirst (Q := fun _ => P) fun _ h => h).bind fun found => ?_
  cases found with
  | none => exact hfresh
  | some previous => exact hreplay previous

lemma ensures_createConversation (agentRef : Id) (key : String) (ids : ConversationService.CreateIds)
    (time : Timestamp) :
    (ConversationService.create platform scope agentRef key ids time).Ensures (Roster nowhere) (Roster nowhere)
      fun _ => Roster nowhere := by
  refine Program.Ensures.bind (Program.Ensures.transaction ?_ fun _ _ h => h) fun id => ?_
  · exact ensures_withIdempotency (fun previous => ensures_of_retains (keeps_sameRequest _ _))
      (ensures_insertConversation agentRef _ ids time)
  · exact ensures_of_retains (keeps_conversationGet retains_refl scope id)

lemma ensures_submitMessage (conversationId : Id) (request : MessageService.SubmitMessageRequest) (key : String)
    (ids : MessageService.SubmitIds) (now time : Timestamp) :
    (MessageService.submit platform scope conversationId request key ids now time).Ensures (Roster nowhere)
      (Roster nowhere) fun _ => Roster nowhere := by
  refine Program.Ensures.bind (Program.Ensures.transaction ?_ fun _ _ h => h) fun id => ?_
  · exact ensures_withIdempotency (fun previous => ensures_of_retains (keeps_sameRequest _ _))
      (ensures_insertMessage conversationId request _ ids now time)
  · exact ensures_of_retains (keeps_messageGet retains_refl scope conversationId id)

end Commands

section Worker

def IsAgent (participantId : Id) (db : Tables) : Prop :=
  ∀ p ∈ db.conversationParticipants, p.participantId = participantId → p.kind = .agent

lemma ensures_startMessage (run : AgentRun) (now : Timestamp) (participantId : Id) :
    (RunWorker.startMessage run now participantId).Ensures (Roster nowhere)
      (fun v => Roster nowhere v ∧ IsAgent participantId v) fun _ => Roster nowhere := by
  refine Program.Ensures.transaction ?_ fun _ _ h => h
  let Ready (v : Tables) : Prop := Roster nowhere v ∧ IsAgent participantId v
  refine (Relation.ensures_selectFirst (Q := fun _ => Ready) fun _ h => h).bind fun found => ?_
  cases found with
  | some m => exact Program.ensures_pure fun _ h => h.1
  | none =>
    refine (Relation.ensures_updateTable (Q := fun _ => Ready) fun v hv => ?_).bind fun rows => ?_
    · exact ⟨(retains_conversations (MessageService.takeMessageSequence_conversationId now) (fun _ => rfl)
        v).roster hv.1,
        hv.2⟩
    refine (Relation.ensures_orThrow (Q := fun _ => Ready) fun _ _ _ hv => hv).bind fun sequence => ?_
    refine Relation.ensures_insertInto fun v hv hb => ?_
    obtain ⟨-, -, hviolation⟩ := messages.broken_eq_none.mp hb
    obtain ⟨p, hp, he⟩ := List.any_eq_true.mp (failing_eq_none.mp (Option.or_eq_none_iff.mp hviolation).2)
    have hsame := of_decide_eq_true he
    simp only [Prod.mk.injEq] at hsame
    obtain ⟨htenant, hsite, hconversation, hid⟩ := hsame
    refine hv.1.message hp ⟨?_, hid, ?_⟩ rfl
    · rw [seat, htenant, hsite, hconversation]
    · rw [hv.2 p hp hid]
      rfl

end Worker

def Fit (db : Tables) : Call → Prop
  | .materialize _ _ participantId event => (event.body = .messageStarted → IsAgent participantId db) ∧
      ∀ parts, event.body = .messageCompleted parts → parts ≠ []
  | _ => True

section Calls

variable (server : Deployment) {db : Tables}

lemma roster_of_writes {call : Call} (h : Writes Retains call) (hr : Roster nowhere db) :
    Roster nowhere ((body server call).run db).2 :=
  (ensures_of_retains (keeps_body retains_refl server h)).run hr hr fun _ _ h => h

lemma answers_retains (k : CommandKey) : Answers Retains k := fun _ _ _ => retains_of_same rfl rfl rfl

lemma roster_materialize (run : AgentRun) (now : Timestamp) (participantId : Id) (event : ConnectorEvent)
    (hf : Fit db (.materialize run now participantId event)) (hr : Roster nowhere db) :
    Roster nowhere ((body server (.materialize run now participantId event)).run db).2 := by
  cases hb : event.body
  case messageStarted =>
    rw [body, Program.run_map, RunWorker.materialize, hb]
    exact (ensures_startMessage run now participantId).run hr ⟨hr, hf.1 hb⟩ fun _ _ h => h
  all_goals
    refine roster_of_writes server ?_ hr
    change MaterialWrites Retains run now event.body
    rw [hb]
  case messageCompleted parts =>
    have hne := hf.2 parts hb
    exact fun base q => retains_messages (RunWorker.finishMessage_messageId now parts) (fun _ => rfl)
      (fun _ => by simpa [wellFormed, RunWorker.finishMessage] using hne) base
  case handoffRequested id => exact fun _ => retains_of_same rfl rfl rfl
  case handoffCompleted id => exact fun _ _ => retains_of_same rfl rfl rfl
  case contactRequested id prompt required =>
    exact ⟨fun _ => retains_of_same rfl rfl rfl, fun _ _ => retains_of_same rfl rfl rfl⟩
  all_goals trivial

theorem roster_body {call : Call} (hf : Fit db call) (hr : Roster nowhere db) :
    Roster nowhere ((body server call).run db).2 := by
  cases call with
  | createConversation scope agentRef key ids time =>
    rw [body, Program.run_map]
    exact (ensures_createConversation agentRef key ids time).run hr hr fun _ _ h => h
  | submitMessage scope conversationId request key ids now time =>
    rw [body, Program.run_map]
    exact (ensures_submitMessage conversationId request key ids now time).run hr hr fun _ _ h => h
  | materialize run now participantId event => exact roster_materialize server run now participantId event hf hr
  | createEmailHandoff scope conversationId request key ids now time =>
    exact roster_of_writes server ⟨answers_retains _, fun _ _ => retains_of_same rfl rfl rfl,
      fun _ _ => retains_of_same rfl rfl rfl, fun _ => retains_of_same rfl rfl rfl⟩ hr
  | cancelRun scope conversationId key order now time =>
    exact roster_of_writes server ⟨answers_retains _, fun _ _ => retains_of_same rfl rfl rfl,
      fun _ _ => retains_of_same rfl rfl rfl⟩ hr
  | submitStructuredInput scope conversationId requestId request key now time =>
    exact roster_of_writes server ⟨answers_retains _, fun _ _ => retains_of_same rfl rfl rfl,
      fun _ _ => retains_of_same rfl rfl rfl, fun _ _ => retains_of_same rfl rfl rfl⟩ hr
  | appendEvent scope event eventId time =>
    exact roster_of_writes server ⟨fun base q =>
      retains_conversations EventStore.takeEventSequence_conversationId (fun _ => rfl) base,
        fun _ _ => retains_of_same rfl rfl rfl, fun _ _ => retains_of_same rfl rfl rfl⟩ hr
  | cancel run now =>
    exact roster_of_writes server ⟨fun _ _ => retains_of_same rfl rfl rfl,
      fun base q => retains_messages (RunWorker.cancelMessage_messageId now) (fun _ => rfl) (fun _ => rfl) base⟩ hr
  | fail runId code now =>
    exact roster_of_writes server
      ⟨fun _ _ => retains_of_same rfl rfl rfl, fun _ _ => retains_of_same rfl rfl rfl⟩ hr
  | claim options order now => exact roster_of_writes server (fun _ _ => retains_of_same rfl rfl rfl) hr
  | complete runId now => exact roster_of_writes server (fun _ _ => retains_of_same rfl rfl rfl) hr
  | waitForInput runId now => exact roster_of_writes server (fun _ _ => retains_of_same rfl rfl rfl) hr
  | renewLease options run dateNow => exact roster_of_writes server (fun _ _ => retains_of_same rfl rfl rfl) hr
  | replayEvents | loadContext | isCancellationRequested => exact roster_of_writes server trivial hr

end Calls

section Sweep

open RetentionService

variable {gone : Id → Id → Id → Bool} {d : Conversation}

structure Untouched (a b : Tables) : Prop where
  participants : b.conversationParticipants = a.conversationParticipants
  conversations : b.conversations = a.conversations
  messages : b.messages = a.messages

lemma untouched_refl (db : Tables) : Untouched db db := ⟨rfl, rfl, rfl⟩

lemma untouched_deleteAgentRuns (p : AgentRun → Bool) : (deleteAgentRuns p).Keeps Untouched := by
  unfold deleteAgentRuns
  refine Program.Keeps.bind (Relation.keeps_deleteFrom fun _ _ => ⟨rfl, rfl, rfl⟩) fun rows => ?_
  refine Program.Keeps.bind (Relation.keeps_deleteFrom fun _ _ => ⟨rfl, rfl, rfl⟩) fun _ => ?_
  exact Program.Keeps.bind (Relation.keeps_deleteFrom fun _ _ => ⟨rfl, rfl, rfl⟩) fun _ => trivial

lemma untouched_restrict (name : String) (referring : Tables → Bool) :
    (restrict name referring).Keeps Untouched := by
  refine (keeps_select untouched_refl _).bind fun found => ?_
  cases found <;> trivial

def Silent (d : Conversation) (db : Tables) : Prop :=
  ∀ m ∈ db.messages, sameConversation d m.tenantId m.siteId m.conversationId = false

def Absent (d : Conversation) (db : Tables) : Prop :=
  ∀ c ∈ db.conversations, sameConversation d c.tenantId c.siteId c.conversationId = false

structure Leaving (d : Conversation) (gone : Id → Id → Id → Bool) (db : Tables) : Prop where
  roster : Roster gone db
  silent : Silent d db

lemma Leaving.untouched {a b : Tables} (h : Untouched a b) (ha : Leaving d gone a) : Leaving d gone b :=
  ⟨(retains_of_same h.participants h.conversations h.messages).roster ha.roster, fun m hm =>
    ha.silent m (h.messages ▸ hm)⟩

lemma Roster.leave {gone' : Id → Id → Id → Bool} {db : Tables} {p : ConversationParticipant → Bool}
    (h : Roster gone' db)
    (hm : ∀ m ∈ db.messages, ∀ q, p q = true → seat q ≠ (m.tenantId, m.siteId, m.conversationId))
    (hc : ∀ c ∈ db.conversations, gone c.tenantId c.siteId c.conversationId = false →
      gone' c.tenantId c.siteId c.conversationId = false ∧
        ∀ q, p q = true → seat q ≠ (c.tenantId, c.siteId, c.conversationId)) :
    Roster gone { db with conversationParticipants := db.conversationParticipants.delete p } where
  staffed := by
    intro c hmem hg
    obtain ⟨hg', hq⟩ := hc c hmem hg
    have hstay : ∀ q, seat q = (c.tenantId, c.siteId, c.conversationId) → p q = false :=
      fun q he => eq_false_of_ne_true fun hp => hq q hp he
    obtain ⟨⟨u, hu, hhome, hwho⟩, a, ha, hhome', hwho'⟩ := h.staffed c hmem hg'
    exact ⟨⟨u, Table.mem_delete.mpr ⟨hu, hstay u hhome⟩, hhome, hwho⟩,
      a, Table.mem_delete.mpr ⟨ha, hstay a hhome'⟩, hhome', hwho'⟩
  kinds := fun x hx y hy => h.kinds x (Table.mem_delete.mp hx).1 y (Table.mem_delete.mp hy).1
  authored := by
    intro m hmem
    obtain ⟨q, hq, ha⟩ := h.authored m hmem
    exact ⟨q, Table.mem_delete.mpr ⟨hq, eq_false_of_ne_true fun hp => hm m hmem q hp ha.home.symm⟩, ha⟩
  wellFormed := h.wellFormed

lemma sameConversation_iff {t s k : Id} :
    sameConversation d t s k = true ↔ (t, s, k) = (d.tenantId, d.siteId, d.conversationId) := by
  simp [sameConversation, and_assoc]

lemma ensures_untouched {α : Type} {p : Query α} (h : p.Keeps Untouched) :
    p.Ensures (fun _ => True) (Leaving d gone) fun _ => Leaving d gone :=
  Program.ensures_of_keeps h (fun _ _ => Leaving.untouched) fun _ _ => trivial

lemma ensures_leaveMessages :
    (deleteMessages fun m => sameConversation d m.tenantId m.siteId m.conversationId).Ensures
    (fun _ => True) (Roster nowhere) fun _ => Leaving d nowhere := by
  refine (Relation.ensures_deleteFrom (Q := fun _ => Leaving d nowhere) fun v hv => ?_).bind fun rows => ?_
  · refine ⟨⟨?_, hv.kinds, ?_, ?_⟩, fun m hm => (Table.mem_delete.mp hm).2⟩
    · intro c hc hg
      obtain ⟨huser, hagent⟩ := hv.staffed c hc hg
      exact ⟨huser, hagent⟩
    · exact fun m hm => hv.authored m (Table.mem_delete.mp hm).1
    · exact fun m hm => hv.wellFormed m (Table.mem_delete.mp hm).1
  · exact ensures_untouched (untouched_deleteAgentRuns _)

lemma ensures_leaveParticipants :
    (deleteConversationParticipants fun p => sameConversation d p.tenantId p.siteId p.conversationId).Ensures
      (fun _ => True) (Leaving d nowhere) fun _ => Leaving d (sameConversation d) := by
  refine (Relation.ensures_deleteFrom (Q := fun _ => Leaving d (sameConversation d)) fun v hv => ?_).bind
    fun rows => ?_
  · refine ⟨hv.roster.leave (fun m hm q hq he => ?_) fun c hc hg => ⟨rfl, fun q hq he => ?_⟩, hv.silent⟩
    · have hsilent := hv.silent m hm
      rw [sameConversation_iff.mpr (he.symm.trans (sameConversation_iff.mp hq))] at hsilent
      cases hsilent
    · rw [sameConversation_iff.mpr (he.symm.trans (sameConversation_iff.mp hq))] at hg
      cases hg
  · exact ensures_untouched (untouched_restrict _ _)

lemma ensures_leaveConversation :
    (deleteConversations fun c => sameConversation d c.tenantId c.siteId c.conversationId).Ensures
      (fun _ => True) (Leaving d (sameConversation d)) fun _ => Roster nowhere := by
  let Left (rows : List Conversation) (v : Tables) : Prop := Leaving d nowhere v ∧ Absent d v ∧
    ∀ c ∈ rows, sameConversation d c.tenantId c.siteId c.conversationId = true
  have hleft : ∀ {α : Type} {rows : List Conversation} {p : Query α}, p.Keeps Untouched →
      p.Ensures (fun _ => True) (Left rows) fun _ => Left rows := fun h => Program.ensures_of_keeps h
    (fun _ _ hu hl => ⟨hl.1.untouched hu, fun c hc => hl.2.1 c (hu.conversations ▸ hc), hl.2.2⟩) fun _ _ => trivial
  refine (Relation.ensures_deleteFrom (Q := Left) fun v hv => ?_).bind fun rows => ?_
  · refine ⟨⟨⟨fun c hc _ => ?_, hv.roster.kinds, hv.roster.authored, hv.roster.wellFormed⟩, hv.silent⟩,
      fun c hc => (Table.mem_delete.mp hc).2, fun c hc => (List.mem_filter.mp hc).2⟩
    obtain ⟨hc, hg⟩ := Table.mem_delete.mp hc
    obtain ⟨huser, hagent⟩ := hv.roster.staffed c hc hg
    exact ⟨huser, hagent⟩
  refine (hleft (Relation.keeps_deleteFrom fun _ _ => ⟨rfl, rfl, rfl⟩)).bind fun _ => ?_
  refine (hleft (untouched_deleteAgentRuns _)).bind fun _ => ?_
  refine (Relation.ensures_deleteFrom (Q := fun _ => Leaving d nowhere) fun v hv => ?_).bind fun _ => ?_
  · obtain ⟨hv, habsent, hrows⟩ := hv
    have hseat : ∀ q : ConversationParticipant, (rows.any fun c => sameConversation c q.tenantId q.siteId
        q.conversationId) = true → seat q = (d.tenantId, d.siteId, d.conversationId) := by
      intro q hq
      obtain ⟨c, hc, hk⟩ := List.any_eq_true.mp hq
      exact (sameConversation_iff.mp hk).trans (sameConversation_iff.mp (hrows c hc))
    refine ⟨hv.roster.leave (fun m hm q hq he => ?_) fun c hc _ => ⟨rfl, fun q hq he => ?_⟩, hv.silent⟩
    · have hsilent := hv.silent m hm
      rw [sameConversation_iff.mpr (he.symm.trans (hseat q hq))] at hsilent
      cases hsilent
    · have hgone := habsent c hc
      rw [sameConversation_iff.mpr (he.symm.trans (hseat q hq))] at hgone
      cases hgone
  · exact (ensures_untouched (untouched_restrict _ _)).mono (fun _ h => h) fun _ _ h => h.roster

lemma ensures_deleteConversation (d : Conversation) :
    (deleteConversation d).Ensures (fun _ => True) (Roster nowhere) fun _ => Roster nowhere := by
  have hstep : ∀ {α : Type} {p : Query α}, p.Keeps Untouched →
      p.Ensures (fun _ => True) (Roster nowhere) fun _ => Roster nowhere := fun h => Program.ensures_of_keeps h
    (fun _ _ hu => (retains_of_same hu.participants hu.conversations hu.messages).roster) fun _ _ => trivial
  refine (hstep (Relation.keeps_deleteFrom fun _ _ => ⟨rfl, rfl, rfl⟩)).bind fun _ => ?_
  refine (hstep (Relation.keeps_deleteFrom fun _ _ => ⟨rfl, rfl, rfl⟩)).bind fun _ => ?_
  refine (hstep (untouched_deleteAgentRuns _)).bind fun _ => ?_
  refine (hstep (Relation.keeps_deleteFrom fun _ _ => ⟨rfl, rfl, rfl⟩)).bind fun _ => ?_
  exact ensures_leaveMessages.bind fun _ => ensures_leaveParticipants.bind fun _ => ensures_leaveConversation

theorem roster_sweep (server : Deployment) {db : Tables} (policy : RetentionPolicy) (orders : Orders)
    (now : Timestamp)
    (hr : Roster nowhere db) : Roster nowhere ((taskBody server (.sweep policy orders now)).run db).2 := by
  have hrest : RestWrites Retains := ⟨retains_refl, fun _ _ => retains_of_same rfl rfl rfl,
    fun _ _ => retains_of_same rfl rfl rfl, fun _ _ => retains_of_same rfl rfl rfl, fun _ _ =>
      retains_of_same rfl rfl rfl⟩
  have hsweep : (sweep policy orders now).Ensures (Roster nowhere) (Roster nowhere) fun _ => Roster nowhere := by
    unfold sweep
    refine (ensures_of_retains (Relation.keeps_updateTable fun _ _ => retains_of_same rfl rfl rfl)).bind
      fun redacted => ?_
    refine (Program.ensures_select (Q := fun _ => Roster nowhere) fun _ h => h).bind fun expired => ?_
    refine (Program.ensures_forM (fun d => ?_) expired).bind fun _ => ?_
    · exact (ensures_deleteConversation d).of_single (single_deleteConversation d)
    · exact ensures_of_retains (keeps_sweepRest policy orders now hrest _ _)
  rw [taskBody, Program.run_map, runOnce_eq]
  exact (hsweep.transaction fun _ _ h => h).run hr hr fun _ _ h => h

end Sweep

end ChatCore.Services
