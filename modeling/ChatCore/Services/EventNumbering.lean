import ChatCore.Relational.Numbering
import ChatCore.Relational.SafeRules
import ChatCore.Services.Guards
import ChatCore.Services.Writes

namespace ChatCore.Services.EventNumbering

open Protocol Relational Database

structure Appended (retentionMaxEvents : ℕ) (scope : Scope) (event : ConnectorEvent) (eventId : Id)
    (occurredAt : Timestamp) (sequence : ℕ) (before after : Tables) : Prop where
  allocated : ∃ c ∈ before.conversations, inConversation scope event.conversationId c = true ∧
    c.nextEventSequence = sequence
  fresh : before.conversationEvents.find? eventId = none
  conversations : after.conversations =
    before.conversations.update (inConversation scope event.conversationId) EventStore.takeEventSequence
      (fun _ => rfl)
  events : after.conversationEvents = (before.conversationEvents.insert
    (EventStore.newEvent scope event sequence eventId occurredAt)).delete
      (EventStore.isPruned scope event.conversationId ((sequence : Int) - retentionMaxEvents))

def Conversation.numbering (c : Conversation) : Id × Id × ℕ := (c.tenantId, c.siteId, c.nextEventSequence)

structure Numberless (before after : Tables) : Prop where
  events : after.conversationEvents = before.conversationEvents
  kept : ∀ k c, before.conversations.find? k = some c →
    ∃ c', after.conversations.find? k = some c' ∧ Conversation.numbering c' = Conversation.numbering c
  new : ∀ k c, before.conversations.find? k = none → after.conversations.find? k = some c → c.nextEventSequence = 1

lemma numberless_refl (db : Tables) : Numberless db db := by
  refine ⟨rfl, fun k c hc => ⟨c, hc, rfl⟩, fun k c hn hs => ?_⟩
  rw [hn] at hs
  cases hs

lemma Numberless.trans {a b c : Tables} (h : Numberless a b) (h' : Numberless b c) : Numberless a c := by
  refine ⟨h'.events.trans h.events, fun k r hr => ?_, fun k r hn hr => ?_⟩
  · obtain ⟨r', hr', he⟩ := h.kept k r hr
    obtain ⟨r'', hr'', he'⟩ := h'.kept k r' hr'
    exact ⟨r'', hr'', he'.trans he⟩
  · cases hb : b.conversations.find? k with
    | none => exact h'.new k r hb hr
    | some r' =>
      obtain ⟨r'', hr'', he⟩ := h'.kept k r' hb
      rw [hr] at hr''
      obtain rfl := Option.some.inj hr''
      simp only [Conversation.numbering, Prod.mk.injEq] at he
      rw [he.2.2, h.new k r' hn hb]

lemma numberless_of_same {a b : Tables} (hc : b.conversations = a.conversations)
    (he : b.conversationEvents = a.conversationEvents) : Numberless a b := by
  refine ⟨he, fun k c h => ⟨c, hc ▸ h, rfl⟩, fun k c hn hs => ?_⟩
  rw [hc, hn] at hs
  cases hs

lemma numberless_newConversation (scope : Scope) (agentRef id : Id) (time : Timestamp) :
    conversations.Inserts Numberless (ConversationService.newConversation scope agentRef id time) := by
  intro db
  have hself : ∀ k, db.conversations.find? k = none → ∀ c,
      (db.conversations.insert (ConversationService.newConversation scope agentRef id time)).find? k = some c →
        c = ConversationService.newConversation scope agentRef id time := by
    intro k hk c hc
    obtain ⟨hm, rfl⟩ := Table.find?_eq_some.mp hc
    rcases Table.mem_of_mem_insert hm with hm | rfl
    · exact absurd rfl (Table.find?_eq_none.mp hk c hm)
    · rfl
  refine ⟨rfl, fun k c hc => ⟨c, ?_, rfl⟩, fun k c hk hc => ?_⟩
  · obtain ⟨hm, rfl⟩ := Table.find?_eq_some.mp hc
    exact Table.find?_key (Table.mem_insert_of_mem hm)
  · rw [hself k hk c hc]
    rfl

lemma numberless_takeMessageSequence (now : Timestamp) :
    conversations.Updates Numberless (MessageService.takeMessageSequence now) (fun _ => rfl) := by
  intro db q
  have hfind : ∀ k, (db.conversations.update q (MessageService.takeMessageSequence now) (fun _ => rfl)).find? k =
      (db.conversations.find? k).map fun c => if q c then MessageService.takeMessageSequence now c else c :=
    fun k => Table.find?_update _ _ _ _ k
  refine ⟨rfl, fun k c hc => ?_, fun k c hk hc => ?_⟩
  · refine ⟨_, (hfind k).trans (congrArg _ hc), ?_⟩
    dsimp only
    split <;> rfl
  · have hnone := (hfind k).trans (congrArg _ hk)
    cases hnone.symm.trans hc

def Numbering (retentionMaxEvents : ℕ) : Call → Tables → Tables → Prop
  | .appendEvent scope event eventId occurredAt, before, after => before = after ∨
      ∃ sequence, Appended retentionMaxEvents scope event eventId occurredAt sequence before after
  | _, before, after => Numberless before after

def Answered (retentionMaxEvents : ℕ) (h : List ServerRecord) (id : ℕ) : Call → Except ServerError Outcome → Prop
  | .appendEvent scope event eventId occurredAt, .ok (.appended persisted) =>
      ∃ before after, .committed id (.appendEvent scope event eventId occurredAt) before after ∈ h ∧
        Appended retentionMaxEvents scope event eventId occurredAt persisted.sequence before after
  | _, _ => True

def discipline (server : Deployment) : Discipline Tables LockName ServerError Outcome Call Cell where
  inv _ := True
  good h r := match r with
    | .committed _ call before after => Numbering server.retentionMaxEvents call before after
    | .finished id call result => Answered server.retentionMaxEvents h id call result
  cell := cell server.platform

variable {server : Deployment}

lemma numberless_body {call : Call}
    (h : ∀ scope event eventId time, call ≠ .appendEvent scope event eventId time) :
    (body server call).Keeps Numberless := by
  refine keeps_body numberless_refl server ?_
  have hcommand : ∀ k, Answers Numberless k := fun k r _ db => numberless_of_same rfl rfl
  cases call with
  | createConversation scope agentRef key ids time =>
    exact ⟨hcommand _, numberless_newConversation _ _ _ _, fun p db => numberless_of_same rfl rfl⟩
  | submitMessage scope c request key ids now time =>
    exact ⟨hcommand _, numberless_takeMessageSequence now, fun m db => numberless_of_same rfl rfl,
      fun r db => numberless_of_same rfl rfl⟩
  | createEmailHandoff scope c request key ids now time =>
    exact ⟨hcommand _, fun r db => numberless_of_same rfl rfl, fun h db => numberless_of_same rfl rfl,
      fun db => numberless_of_same rfl rfl⟩
  | submitStructuredInput scope c r request key now time =>
    exact ⟨hcommand _, fun db q => numberless_of_same rfl rfl, fun db q => numberless_of_same rfl rfl,
      fun db q => numberless_of_same rfl rfl⟩
  | cancelRun scope c key order now time =>
    exact ⟨hcommand _, fun db q => numberless_of_same rfl rfl, fun db q => numberless_of_same rfl rfl⟩
  | appendEvent scope event eventId time => exact absurd rfl (h scope event eventId time)
  | materialize run now participantId event =>
    change MaterialWrites _ run now event.body
    cases event.body
    case messageStarted => exact ⟨numberless_takeMessageSequence now, fun m db => numberless_of_same rfl rfl⟩
    case contactRequested => exact ⟨fun db => numberless_of_same rfl rfl, fun db q => numberless_of_same rfl rfl⟩
    case handoffRequested => exact fun db => numberless_of_same rfl rfl
    case messageCompleted | handoffCompleted => exact fun db q => numberless_of_same rfl rfl
    all_goals trivial
  | claim | complete | waitForInput | renewLease => exact fun db q => numberless_of_same rfl rfl
  | cancel | fail => exact ⟨fun db q => numberless_of_same rfl rfl, fun db q => numberless_of_same rfl rfl⟩
  | replayEvents | loadContext | isCancellationRequested => trivial

section Append

variable {scope : Scope} {event : ConnectorEvent} {eventId : Id} {time : Timestamp}

structure Locked (scope : Scope) (event : ConnectorEvent) (c : Conversation) (stored : List ConversationEvent)
    (db : Tables) : Prop where
  conversation : db.conversations.find? event.conversationId = some c
  owned : inConversation scope event.conversationId c = true
  events : eventsOf event.conversationId db.conversationEvents = stored

lemma stable_locked {id : ℕ} {held : List (Lock LockName)} {c : Conversation} {stored : List ConversationEvent}
    (hl : (⟨.conversation event.conversationId, .noKeyUpdate⟩ : Lock LockName) ∈ held) :
    (discipline server).Stable id held fun s => Locked scope event c stored s.1 := by
  intro s s' hi hs
  have hcell := hi.cell _ hl (by simp [Lock.exclusive])
  have hc : s'.1.conversations.find? event.conversationId = s.1.conversations.find? event.conversationId :=
    congrArg Cell.conversation hcell
  have he : eventsOf event.conversationId s'.1.conversationEvents = eventsOf event.conversationId
    s.1.conversationEvents :=
    congrArg Cell.events hcell
  exact ⟨hc.trans hs.conversation, hs.owned, he.trans hs.events⟩

lemma stable_fresh {id : ℕ} {held : List (Lock LockName)}
    (hl : (⟨.event eventId, .update⟩ : Lock LockName) ∈ held) :
    (discipline server).Stable id held fun s => s.1.conversationEvents.find? eventId = none := by
  intro s s' hi hs
  have he : s'.1.conversationEvents.find? eventId = s.1.conversationEvents.find? eventId :=
    congrArg Cell.event (hi.cell _ hl (by simp [Lock.exclusive]))
  exact he.trans hs

lemma seen_eq {db base : Tables} {c : Conversation} {stored : List ConversationEvent}
    (hc : c ∈ conversations.matching (inConversation scope event.conversationId) db)
    (hbase : Locked scope event c stored base) (d : Conversation) (hd : d ∈ base.conversations) :
    conversations.seen (inConversation scope event.conversationId) db d =
      inConversation scope event.conversationId d := by
  cases hp : inConversation scope event.conversationId d with
  | false => simp [Relation.seen, hp]
  | true =>
    obtain ⟨hm, hk⟩ := Table.find?_eq_some.mp hbase.conversation
    have hdc : d = c := Table.key_injective hd hm ((conversationId_of_inConversation d hp).trans hk.symm)
    subst hdc
    simpa [Relation.seen, hp] using ⟨d, hc, rfl⟩

lemma mem_eventsOf {k : Id} {t : Table ConversationEvent.eventId} {e : ConversationEvent} :
    e ∈ eventsOf k t ↔ e ∈ t ∧ e.conversationId = k := by
  simp [eventsOf]

lemma seen_pruned_eq {db : Tables} {t : Table ConversationEvent.eventId} {bound : Int}
    (hevents : eventsOf event.conversationId t = eventsOf event.conversationId db.conversationEvents)
    (e : ConversationEvent) (he : e ∈ t) :
    conversationEvents.seen (EventStore.isPruned scope event.conversationId bound) db e =
      EventStore.isPruned scope event.conversationId bound e := by
  cases hp : EventStore.isPruned scope event.conversationId bound e with
  | false => simp [Relation.seen, hp]
  | true =>
    have hk : e.conversationId = event.conversationId := by
      simp only [EventStore.isPruned, EventStore.ofConversation, Bool.and_eq_true, decide_eq_true_eq] at hp
      exact hp.1.2
    have hm : e ∈ db.conversationEvents := by
      have he' := mem_eventsOf.mpr ⟨he, hk⟩
      rw [hevents] at he'
      exact (mem_eventsOf.mp he').1
    simpa [Relation.seen, hp] using ⟨e, List.mem_filter.mpr ⟨hm, hp⟩, rfl⟩

lemma eventsOf_insert {t : Table ConversationEvent.eventId} {e : ConversationEvent}
    (h : t.find? e.eventId = none) :
    eventsOf e.conversationId (t.insert e) = eventsOf e.conversationId t ++ [e] := by
  rw [eventsOf, eventsOf, Table.insert_of_absent h, List.filter_append]
  simp

lemma appended_of_locked {db v base : Tables} {c : Conversation} {stored : List ConversationEvent}
    (hc : c ∈ conversations.matching (inConversation scope event.conversationId) db)
    (hv : Locked scope event c stored v) (hvf : v.conversationEvents.find? eventId = none)
    (hbase : Locked scope event c stored base) (hbf : base.conversationEvents.find? eventId = none)
    {retentionMaxEvents : ℕ} {after w : Tables}
    (hconversations : after.conversations = base.conversations.update
      (conversations.seen (inConversation scope event.conversationId) db) EventStore.takeEventSequence
      (fun _ => rfl))
    (hevents : after.conversationEvents = (base.conversationEvents.insert
      (EventStore.newEvent scope event c.nextEventSequence eventId time)).delete
        (conversationEvents.seen (EventStore.isPruned scope event.conversationId
          ((c.nextEventSequence : Int) - retentionMaxEvents)) w))
    (hw : w.conversationEvents = v.conversationEvents.insert
      (EventStore.newEvent scope event c.nextEventSequence eventId time)) :
    Appended retentionMaxEvents scope event eventId time c.nextEventSequence base after := by
  obtain ⟨hm, hk⟩ := Table.find?_eq_some.mp hbase.conversation
  refine ⟨⟨c, hm, hbase.owned, rfl⟩, hbf, ?_, ?_⟩
  · rw [hconversations]
    exact Table.update_congr _ _ (seen_eq hc hbase)
  · rw [hevents]
    refine Table.delete_congr fun e he => ?_
    refine seen_pruned_eq ?_ e he
    have h₁ := eventsOf_insert (e := EventStore.newEvent scope event c.nextEventSequence eventId time) hbf
    have h₂ := eventsOf_insert (e := EventStore.newEvent scope event c.nextEventSequence eventId time) hvf
    change eventsOf event.conversationId _ = eventsOf event.conversationId _ ++ _ at h₁ h₂
    rw [hw, h₂, h₁, hbase.events, hv.events]

lemma safe_append (id : ℕ) : (discipline server).Safe id (.appendEvent scope event eventId time)
    (body server (.appendEvent scope event eventId time)) (fun base => base) [] (fun _ => True) := by
  have habort : ∀ P e, (discipline server).Abortable id (.appendEvent scope event eventId time) P e :=
    fun _ _ _ _ _ => trivial
  simp only [body, EventStore.append, Program.transaction, map_eq_pure_bind, bind_assoc]
  refine Discipline.safe_updateTable Discipline.stable_true (fun _ _ _ _ _ => habort _ _) fun s hs _ => ?_
  cases hrows : conversations.matching (inConversation scope event.conversationId) s.1 with
  | nil => exact ⟨_, trivial, Discipline.safe_throw Discipline.stable_true (habort _ _)⟩
  | cons c cs =>
    have hc : c ∈ conversations.matching (inConversation scope event.conversationId) s.1 :=
      hrows ▸ List.mem_cons_self ..
    obtain ⟨hm, hp⟩ := List.mem_filter.mp hc
    have hk := conversationId_of_inConversation c hp
    have hlock : (⟨.conversation event.conversationId, .noKeyUpdate⟩ : Lock LockName) ∈
        conversations.rowLocks .noKeyUpdate (c :: cs) := by
      rw [← hk]
      exact List.mem_cons_self ..
    simp only [List.map_cons, List.head?_cons, EventStore.takeEventSequence, Nat.add_sub_cancel, bind_assoc]
    cases event.isStorable
    · exact ⟨_, trivial, Discipline.safe_throw Discipline.stable_true (habort _ _)⟩
    simp only [storing_true, pure_bind]
    refine ⟨fun s' => Locked scope event c (eventsOf event.conversationId s.1.conversationEvents) s'.1,
      ⟨hk ▸ Table.find?_key hm, hp, rfl⟩, ?_⟩
    refine Discipline.safe_insertInto (stable_locked (List.mem_append_left _ hlock)) (fun _ _ _ => habort _ _)
      fun s₁ hs₁ hl₁ hok => ?_
    have hfresh : s₁.1.conversationEvents.find? eventId = none := (conversationEvents.broken_eq_none.mp hok).2.1
    have hst : ∀ more, (discipline server).Stable id (more ++ (conversationEvents.insertLocks
        (EventStore.newEvent scope event c.nextEventSequence eventId time) ++
          (conversations.rowLocks .noKeyUpdate (c :: cs) ++ []))) fun s' =>
        Locked scope event c (eventsOf event.conversationId s.1.conversationEvents) s'.1 ∧
          s'.1.conversationEvents.find? eventId = none := fun more =>
      (stable_locked (List.mem_append_right _ (List.mem_append_right _ (List.mem_append_left _ hlock)))).and
        (stable_fresh (List.mem_append_right _ (List.mem_append_left _ (List.mem_cons_self ..))))
    refine ⟨_, ⟨hl₁, hfresh⟩, Discipline.safe_deleteFrom (hst []) fun s₂ hs₂ hl₂ => ?_⟩
    refine ⟨_, hl₂, Discipline.safe_commitNow (hst _) fun s₃ hs₃ hl₃ => ?_⟩
    refine ⟨trivial, Or.inr ⟨c.nextEventSequence, ?appended⟩, fun s' => ∃ before after,
      Record.committed id (.appendEvent scope event eventId time) before after ∈ s'.2 ∧
        Appended server.retentionMaxEvents scope event eventId time c.nextEventSequence before after,
      ⟨_, _, List.mem_append_right _ (List.mem_singleton_self _), ?appended⟩, ?_⟩
    case appended => exact appended_of_locked hc hl₂.1 hl₂.2 hl₃.1 hl₃.2 rfl rfl rfl
    refine ⟨fun s s' hi hs => ?_, fun s₄ hs₄ hmem => ⟨trivial, Or.inl rfl, ?_⟩⟩
    · obtain ⟨before, after, hmem, happended⟩ := hs
      exact ⟨before, after, Discipline.stable_mem s s' hi hmem, happended⟩
    · obtain ⟨before, after, hmem, happended⟩ := hmem
      exact ⟨before, after, List.mem_append_left _ hmem, happended⟩

end Append

theorem sound (db : Tables) (moves : List ServerMove) :
    (discipline server).Sound ((World.initial db : ServerWorld).exec (body server) moves) := by
  refine Discipline.sound_exec (guarded_body server) (fun id call st _ _ => ⟨fun _ => True, trivial, ?_⟩)
    trivial trivial moves
  by_cases happend : ∀ scope event eventId time, call ≠ .appendEvent scope event eventId time
  · refine Discipline.safe_of_keeps _ numberless_refl (fun _ _ _ => Numberless.trans)
      (fun _ _ _ _ => trivial) ?_ ?_
      (numberless_body happend) []
    · intro h a b _ hab
      cases call
      case appendEvent scope event eventId time => exact absurd rfl (happend scope event eventId time)
      all_goals exact hab
    · intro h result
      cases call
      case appendEvent scope event eventId time => exact absurd rfl (happend scope event eventId time)
      all_goals trivial
  · push Not at happend
    obtain ⟨scope, event, eventId, time, rfl⟩ := happend
    exact safe_append id

section Log

variable {keep : ℕ} {k : Id} {all : List ConversationEvent} {db before after : Tables}

structure EventLog (keep : ℕ) (k : Id) (all : List ConversationEvent) (db : Tables) : Prop where
  counter : ∀ c, db.conversations.find? k = some c → Numbered ConversationEvent.sequence all c.nextEventSequence
  absent : db.conversations.find? k = none → all = []
  owned : ∀ e ∈ all, ∀ c, db.conversations.find? k = some c →
    e.tenantId = c.tenantId ∧ e.siteId = c.siteId ∧ e.conversationId = k
  stored : eventsOf k db.conversationEvents = retained keep all

def addedEvents (k : Id) (before after : Tables) : List ConversationEvent :=
  (eventsOf k after.conversationEvents).filter fun e => (before.conversationEvents.find? e.eventId).isNone

def committedEvents (k : Id) (h : List ServerRecord) : List ConversationEvent :=
  h.flatMap fun r => match r with
    | .committed _ _ before after => addedEvents k before after
    | .finished .. => []

lemma committedEvents_append (k : Id) (h h' : List ServerRecord) :
    committedEvents k (h ++ h') = committedEvents k h ++ committedEvents k h' := by
  simp [committedEvents]

lemma addedEvents_eq_nil (h : eventsOf k after.conversationEvents = eventsOf k before.conversationEvents) :
    addedEvents k before after = [] := by
  rw [addedEvents, h, List.filter_eq_nil_iff]
  intro e he
  rw [Table.find?_key (mem_eventsOf.mp he).1]
  simp

lemma EventLog.numberless (h : EventLog keep k all before) (hn : Numberless before after) :
    EventLog keep k all after ∧ addedEvents k before after = [] := by
  refine ⟨⟨fun c hc => ?_, fun hnone => ?_, fun e he c hc => ?_, by rw [hn.events]; exact h.stored⟩,
    addedEvents_eq_nil (by rw [hn.events])⟩
  · cases hb : before.conversations.find? k with
    | none =>
      rw [h.absent hb, hn.new k c hb hc]
      exact numbered_nil
    | some c₀ =>
      obtain ⟨c', hc', heq⟩ := hn.kept k c₀ hb
      obtain rfl := Option.some.inj (hc.symm.trans hc')
      simp only [Conversation.numbering, Prod.mk.injEq] at heq
      exact heq.2.2 ▸ h.counter c₀ hb
  · cases hb : before.conversations.find? k with
    | none => exact h.absent hb
    | some c₀ =>
      obtain ⟨c', hc', -⟩ := hn.kept k c₀ hb
      cases hnone.symm.trans hc'
  · cases hb : before.conversations.find? k with
    | none =>
      rw [h.absent hb] at he
      cases he
    | some c₀ =>
      obtain ⟨c', hc', heq⟩ := hn.kept k c₀ hb
      obtain rfl := Option.some.inj (hc.symm.trans hc')
      simp only [Conversation.numbering, Prod.mk.injEq] at heq
      obtain ⟨ht, hs, hk⟩ := h.owned e he c₀ hb
      exact ⟨ht.trans heq.1.symm, hs.trans heq.2.1.symm, hk⟩

lemma isPruned_of_owned {scope : Scope} {bound : Int} {e : ConversationEvent}
    (h : e.tenantId = scope.tenantId ∧ e.siteId = scope.siteId ∧ e.conversationId = k) :
    EventStore.isPruned scope k bound e = decide ((e.sequence : Int) ≤ bound) := by
  simp [EventStore.isPruned, EventStore.ofConversation, h]

lemma EventLog.appended {scope : Scope} {event : ConnectorEvent} {eventId : Id} {time : Timestamp} {sequence : ℕ}
    (hkeep : 1 ≤ keep) (h : EventLog keep event.conversationId all before)
    (ha : Appended keep scope event eventId time sequence before after) :
    EventLog keep event.conversationId (all ++ [EventStore.newEvent scope event sequence eventId time]) after ∧
      addedEvents event.conversationId before after = [EventStore.newEvent scope event sequence eventId time] := by
  obtain ⟨c, hc, hp, hseq⟩ := ha.allocated
  have hscope := hp
  simp only [inConversation, Bool.and_eq_true, decide_eq_true_eq] at hscope
  obtain ⟨⟨⟨htenant, hsite⟩, -⟩, hk⟩ := hscope
  have hfind : before.conversations.find? event.conversationId = some c := hk ▸ Table.find?_key hc
  have hfind' : after.conversations.find? event.conversationId = some (EventStore.takeEventSequence c) := by
    have hupdate : after.conversations.find? event.conversationId =
      (before.conversations.find? event.conversationId).map
        fun d => if inConversation scope event.conversationId d then EventStore.takeEventSequence d else d := by
      rw [ha.conversations]
      exact Table.find?_update _ _ _ _ _
    rw [hupdate, hfind, Option.map_some, if_pos hp]
  have hnumbered := h.counter c hfind
  have howned : ∀ e ∈ retained keep all ++ [EventStore.newEvent scope event sequence eventId time],
      e.tenantId = scope.tenantId ∧ e.siteId = scope.siteId ∧ e.conversationId = event.conversationId := by
    intro e he
    rcases List.mem_append.mp he with he | he
    · obtain ⟨ht, hs, hke⟩ := h.owned e (List.mem_of_mem_drop he) c hfind
      exact ⟨ht.trans htenant, hs.trans hsite, hke⟩
    · rw [List.mem_singleton.mp he]
      exact ⟨rfl, rfl, rfl⟩
  have hstored : eventsOf event.conversationId after.conversationEvents =
      retained keep (all ++ [EventStore.newEvent scope event sequence eventId time]) := by
    have hinsert : eventsOf event.conversationId (before.conversationEvents.insert
        (EventStore.newEvent scope event sequence eventId time)) =
        retained keep all ++ [EventStore.newEvent scope event sequence eventId time] := by
      rw [← h.stored]
      exact eventsOf_insert (e := EventStore.newEvent scope event sequence eventId time) ha.fresh
    rw [← hnumbered.retained_snoc (r := EventStore.newEvent scope event sequence eventId time) hseq.symm
      hkeep, ← hinsert,
      ha.events, eventsOf, Table.delete_rows, List.filter_filter, eventsOf, List.filter_filter]
    refine List.filter_congr fun e he => ?_
    by_cases hke : e.conversationId = event.conversationId
    · have hmem := mem_eventsOf.mpr ⟨he, hke⟩
      rw [hinsert] at hmem
      simp [hke, isPruned_of_owned (howned e hmem), hseq]
    · simp [hke]
  refine ⟨⟨?_, ?_, ?_, hstored⟩, ?_⟩
  · intro c' hc'
    obtain rfl := Option.some.inj (hfind'.symm.trans hc')
    exact hnumbered.snoc hseq.symm
  · intro hnone
    cases hnone.symm.trans hfind'
  · intro e he c' hc'
    obtain rfl := Option.some.inj (hfind'.symm.trans hc')
    rcases List.mem_append.mp he with he | he
    · exact h.owned e he c hfind
    · rw [List.mem_singleton.mp he]
      exact ⟨htenant.symm, hsite.symm, rfl⟩
  · rw [addedEvents, hstored, retained_concat hkeep, List.filter_append]
    have hold : (all.drop (all.length + 1 - keep)).filter
        (fun e => (before.conversationEvents.find? e.eventId).isNone) = [] := by
      rw [List.filter_eq_nil_iff]
      intro e he
      have hmem : e ∈ retained keep all := mem_retained_of_mem_drop (by omega) he
      rw [← h.stored] at hmem
      simp [Table.find?_key (mem_eventsOf.mp hmem).1]
    have hnew : before.conversationEvents.find? (EventStore.newEvent scope event sequence eventId time).eventId =
      none :=
      ha.fresh
    rw [hold, List.filter_cons_of_pos (by rw [hnew]; rfl)]
    rfl

lemma Appended.other {scope : Scope} {event : ConnectorEvent} {eventId : Id} {time : Timestamp} {sequence : ℕ}
    (ha : Appended keep scope event eventId time sequence before after) (hk : event.conversationId ≠ k) :
    eventsOf k after.conversationEvents = eventsOf k before.conversationEvents ∧
      after.conversations.find? k = before.conversations.find? k := by
  constructor
  · rw [ha.events]
    have hne : LockName.conversation k ≠ LockName.conversation event.conversationId :=
      fun he => hk (LockName.conversation.inj he).symm
    have hdelete := eventsUnder_delete (q := EventStore.isPruned scope event.conversationId
      ((sequence : Int) - keep)) (fun e he => by
        simp only [EventStore.isPruned, EventStore.ofConversation, Bool.and_eq_true, decide_eq_true_eq] at he
        exact he.1.2) hne
        (before.conversationEvents.insert (EventStore.newEvent scope event sequence eventId time))
    exact hdelete.trans (eventsUnder_insert (e := EventStore.newEvent scope event sequence eventId time) hne _)
  · have hupdate : after.conversations.find? k = (before.conversations.find? k).map
        fun d => if inConversation scope event.conversationId d then EventStore.takeEventSequence d else d := by
      rw [ha.conversations]
      exact Table.find?_update _ _ _ _ _
    rw [hupdate]
    cases hf : before.conversations.find? k with
    | none => rfl
    | some d =>
      have hd := (Table.find?_eq_some.mp hf).2
      rw [Option.map_some, if_neg fun hp => hk ((conversationId_of_inConversation d hp).symm.trans hd)]

lemma EventLog.other {scope : Scope} {event : ConnectorEvent} {eventId : Id} {time : Timestamp} {sequence : ℕ}
    (h : EventLog keep k all before) (ha : Appended keep scope event eventId time sequence before after)
    (hk : event.conversationId ≠ k) : EventLog keep k all after ∧ addedEvents k before after = [] := by
  obtain ⟨he, hf⟩ := ha.other hk
  exact ⟨⟨by rw [hf]; exact h.counter, by rw [hf]; exact h.absent, by rw [hf]; exact h.owned, he.trans h.stored⟩,
    addedEvents_eq_nil he⟩

lemma EventLog.step {call : Call} (hkeep : 1 ≤ keep) (h : EventLog keep k all before)
    (hn : Numbering keep call before after) : EventLog keep k (all ++ addedEvents k before after) after := by
  have hless : Numberless before after → EventLog keep k (all ++ addedEvents k before after) after := by
    intro hn
    obtain ⟨hlog, hnil⟩ := h.numberless hn
    rwa [hnil, List.append_nil]
  cases call
  case appendEvent scope event eventId time =>
    rcases hn with rfl | ⟨sequence, ha⟩
    · exact hless (numberless_refl _)
    · by_cases hk : event.conversationId = k
      · subst hk
        obtain ⟨hlog, hadded⟩ := h.appended hkeep ha
        rwa [hadded]
      · obtain ⟨hlog, hnil⟩ := h.other ha hk
        rwa [hnil, List.append_nil]
  all_goals exact hless hn

lemma EventLog.numbers (h : EventLog keep k all db) :
    ∃ next, Numbered ConversationEvent.sequence all next := by
  cases hf : db.conversations.find? k with
  | some c => exact ⟨_, h.counter c hf⟩
  | none => exact ⟨1, h.absent hf ▸ numbered_nil⟩

lemma eventLog_unused {principals : Table Principal.principalId} {browserSessions : Table BrowserSession.sessionId}
    {bootstraps : Table SessionBootstrapIdempotency.key} :
    EventLog keep k [] (unused principals browserSessions bootstraps) :=
  ⟨fun _ hc => by simp [unused] at hc, fun _ => rfl, fun _ he => by simp at he,
    by simp [unused, eventsOf, retained]⟩

lemma EventLog.run {h : List ServerRecord} (hkeep : 1 ≤ keep) (hlog : EventLog keep k all before)
    (hl : Leads before h after)
    (hgood : ∀ id call b a, Record.committed id call b a ∈ h → Numbering keep call b a) :
    EventLog keep k (all ++ committedEvents k h) after := by
  induction h generalizing before all with
  | nil =>
    cases hl
    simpa [committedEvents] using hlog
  | cons r h ih =>
    cases r with
    | committed id call b a =>
      obtain ⟨rfl, hl⟩ := hl
      have hstep := hlog.step hkeep (hgood id call b a (List.mem_cons_self ..))
      have hrest := ih hstep hl fun i c b a hm => hgood i c b a (List.mem_cons_of_mem _ hm)
      simpa [committedEvents] using hrest
    | finished id call result =>
      have hrest := ih hlog hl fun i c b a hm => hgood i c b a (List.mem_cons_of_mem _ hm)
      simpa [committedEvents] using hrest

end Log

section Runs

variable (server : Deployment) (principals : Table Principal.principalId)
  (browserSessions : Table BrowserSession.sessionId)
  (bootstraps : Table SessionBootstrapIdempotency.key) (moves : List ServerMove)

lemma numbering_exec {id : ℕ} {call : Call} {before after : Tables}
    (h : Record.committed id call before after ∈ ((World.initial (unused principals browserSessions bootstraps) :
      ServerWorld).exec (body server) moves).history) : Numbering server.retentionMaxEvents call before after := by
  obtain ⟨h₁, h₂, he⟩ := List.append_of_mem h
  exact (@sound server _ moves).holds.good h₁ _ h₂ he

lemma eventLog_exec (k : Id) :
    let w := (World.initial (unused principals browserSessions bootstraps) : ServerWorld).exec (body server) moves
    EventLog server.retentionMaxEvents k (committedEvents k w.history) w.db := by
  have hleads := World.exec_leads (body server) (unused principals browserSessions bootstraps) moves
  have hrun := (eventLog_unused (k := k)).run server.retentionPositive hleads fun id call b a hm =>
    numbering_exec server principals browserSessions bootstraps moves hm
  rwa [List.nil_append] at hrun

end Runs

/-- However appends are interleaved with each other and with every other call of the server, crashes
and failures included: the committed events of a conversation are numbered from one in commit order,
the counter follows them, and exactly the newest ones are stored. -/
theorem event_numbering (server : Deployment) (principals : Table Principal.principalId)
    (browserSessions : Table BrowserSession.sessionId) (bootstraps : Table SessionBootstrapIdempotency.key)
    (moves : List ServerMove) (k : Id) :
    let w := (World.initial (unused principals browserSessions bootstraps) : ServerWorld).exec (body server) moves
    let events := committedEvents k w.history
    let stored := eventsOf k w.db.conversationEvents
    (∀ c, w.db.conversations.find? k = some c → c.nextEventSequence = events.length + 1) ∧
    events.map ConversationEvent.sequence = List.range' 1 events.length ∧
    stored = events.drop (events.length - server.retentionMaxEvents) ∧
    stored.map ConversationEvent.sequence = List.range' (1 + (events.length - server.retentionMaxEvents))
      (min events.length server.retentionMaxEvents) ∧
    (∀ e, events.getLast? = some e → e ∈ stored) ∧ stored.length ≤ server.retentionMaxEvents ∧
    (∀ id scope event eventId time before after,
      .committed id (.appendEvent scope event eventId time) before after ∈ w.history →
        (before = after ∨ ∃ sequence, addedEvents event.conversationId before after =
          [EventStore.newEvent scope event sequence eventId time]) ∧
        (event.conversationId ≠ k → eventsOf k after.conversationEvents = eventsOf k before.conversationEvents ∧
          after.conversations.find? k = before.conversations.find? k)) ∧
    ∀ id scope event eventId time persisted,
      .finished id (.appendEvent scope event eventId time) (.ok (.appended persisted)) ∈ w.history →
        ∃ before after, .committed id (.appendEvent scope event eventId time) before after ∈ w.history ∧
          addedEvents event.conversationId before after =
            [EventStore.newEvent scope event persisted.sequence eventId time] := by
  intro w events stored
  have hsound := @sound server (unused principals browserSessions bootstraps) moves
  have hkeep := server.retentionPositive
  have hleads := World.exec_leads (body server) (unused principals browserSessions bootstraps) moves
  have hgood : ∀ id call b a, Record.committed id call b a ∈ w.history →
      Numbering server.retentionMaxEvents call b a :=
    fun _ _ _ _ => numbering_exec server principals browserSessions bootstraps moves
  have hlog : EventLog server.retentionMaxEvents k events w.db :=
    eventLog_exec server principals browserSessions bootstraps moves k
  obtain ⟨next, hnumbered⟩ := hlog.numbers
  have hadded : ∀ id scope event eventId time before after sequence,
      .committed id (.appendEvent scope event eventId time) before after ∈ w.history →
      Appended server.retentionMaxEvents scope event eventId time sequence before after →
      addedEvents event.conversationId before after = [EventStore.newEvent scope event sequence eventId time] := by
    intro id scope event eventId time before after sequence hm ha
    obtain ⟨h₁, h₂, he⟩ := List.append_of_mem hm
    rw [he] at hleads
    obtain ⟨middle, hl₁, hl₂⟩ := hleads.split
    obtain ⟨rfl, -⟩ := hl₂
    have hbefore := (eventLog_unused (k := event.conversationId)).run hkeep hl₁ fun i c b a hmem =>
      hgood i c b a (he ▸ List.mem_append_left _ hmem)
    exact (hbefore.appended hkeep ha).2
  refine ⟨fun c hc => (hlog.counter c hc).next_eq, hnumbered.numbers, hlog.stored, ?_, ?_, ?_, ?_, ?_⟩
  · have hmap : (retained server.retentionMaxEvents events).map ConversationEvent.sequence = _ :=
      hnumbered.retained_numbers
    have hmin : events.length - (events.length - server.retentionMaxEvents) =
        min events.length server.retentionMaxEvents := by omega
    rw [← hmin, ← hmap, ← hlog.stored]
  · intro e he
    change e ∈ eventsOf k w.db.conversationEvents
    rw [hlog.stored]
    exact getLast_mem_retained hkeep he
  · change (eventsOf k w.db.conversationEvents).length ≤ _
    rw [hlog.stored]
    exact length_retained_le
  · intro id scope event eventId time before after hm
    rcases hgood _ _ _ _ hm with rfl | ⟨sequence, ha⟩
    · exact ⟨Or.inl rfl, fun _ => ⟨rfl, rfl⟩⟩
    · exact ⟨Or.inr ⟨sequence, hadded _ _ _ _ _ _ _ _ hm ha⟩, ha.other⟩
  · intro id scope event eventId time persisted hm
    obtain ⟨h₁, h₂, he⟩ := List.append_of_mem hm
    obtain ⟨before, after, hc, ha⟩ := hsound.holds.good h₁ _ h₂ he
    have hc' : .committed id (.appendEvent scope event eventId time) before after ∈ w.history :=
      he ▸ List.mem_append_left _ hc
    exact ⟨before, after, hc', hadded _ _ _ _ _ _ _ _ hc' ha⟩

end ChatCore.Services.EventNumbering
