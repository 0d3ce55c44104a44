import ChatCore.Relational.Numbering
import ChatCore.Relational.SafeRules
import ChatCore.Services.Guards
import ChatCore.Services.Writes

namespace ChatCore.Services.MessageOrder

open Protocol Relational Database

structure Same (before after : Tables) : Prop where
  conversations : after.conversations = before.conversations
  messages : after.messages = before.messages

structure Orderless (before after : Tables) : Prop where
  sequences : ∀ k, sequencesOf k after.messages = sequencesOf k before.messages
  places : ∀ m ∈ before.messages, ∃ m' ∈ after.messages, m'.messageId = m.messageId ∧
    m'.conversationId = m.conversationId ∧ m'.sequence = m.sequence
  added : ∀ m ∈ after.messages, ∃ m' ∈ before.messages, m'.messageId = m.messageId
  kept : ∀ k c, before.conversations.find? k = some c →
    ∃ c', after.conversations.find? k = some c' ∧ c'.nextMessageSequence = c.nextMessageSequence
  new : ∀ k c, before.conversations.find? k = none → after.conversations.find? k = some c →
    c.nextMessageSequence = 1

structure Added (m : Message) (before after : Tables) : Prop where
  allocated : ∃ c, before.conversations.find? m.conversationId = some c ∧ c.nextMessageSequence = m.sequence ∧
    ∃ c', after.conversations.find? m.conversationId = some c' ∧ c'.nextMessageSequence = m.sequence + 1
  other : ∀ k, k ≠ m.conversationId → after.conversations.find? k = before.conversations.find? k
  fresh : before.messages.find? m.messageId = none
  messages : after.messages = before.messages.insert m

def Ordered (before after : Tables) : Prop := Orderless before after ∨ ∃ m, Added m before after

section Relations

variable {a b c : Tables}

lemma same_refl (db : Tables) : Same db db := ⟨rfl, rfl⟩

lemma Same.trans (h : Same a b) (h' : Same b c) : Same a c :=
  ⟨h'.conversations.trans h.conversations, h'.messages.trans h.messages⟩

lemma Same.orderless (h : Same a b) : Orderless a b := by
  refine ⟨fun k => by rw [h.messages], fun m hm => ⟨m, by rwa [h.messages], rfl, rfl, rfl⟩,
    fun m hm => ⟨m, by rwa [h.messages] at hm, rfl⟩, fun k c hc => ⟨c, by rwa [h.conversations], rfl⟩,
    fun k c hn hs => ?_⟩
  rw [h.conversations, hn] at hs
  cases hs

lemma Added.same {m : Message} (h : Added m a b) (h' : Same b c) : Added m a c := by
  obtain ⟨r, hr, hs, r', hr', hs'⟩ := h.allocated
  exact ⟨⟨r, hr, hs, r', by rwa [h'.conversations], hs'⟩, fun k hk => by rw [h'.conversations]; exact h.other k hk,
    h.fresh, h'.messages.trans h.messages⟩

lemma orderless_refl (db : Tables) : Orderless db db := (same_refl db).orderless

lemma Orderless.trans (h : Orderless a b) (h' : Orderless b c) : Orderless a c := by
  refine ⟨fun k => (h'.sequences k).trans (h.sequences k), fun m hm => ?_, fun m hm => ?_, fun k r hr => ?_,
    fun k r hn hr => ?_⟩
  · obtain ⟨m₁, hm₁, hi, hk, hs⟩ := h.places m hm
    obtain ⟨m₂, hm₂, hi', hk', hs'⟩ := h'.places m₁ hm₁
    exact ⟨m₂, hm₂, hi'.trans hi, hk'.trans hk, hs'.trans hs⟩
  · obtain ⟨m₁, hm₁, hi⟩ := h'.added m hm
    obtain ⟨m₂, hm₂, hi'⟩ := h.added m₁ hm₁
    exact ⟨m₂, hm₂, hi'.trans hi⟩
  · obtain ⟨r', hr', he⟩ := h.kept k r hr
    obtain ⟨r'', hr'', he'⟩ := h'.kept k r' hr'
    exact ⟨r'', hr'', he'.trans he⟩
  · cases hb : b.conversations.find? k with
    | none => exact h'.new k r hb hr
    | some r' =>
      obtain ⟨r'', hr'', he⟩ := h'.kept k r' hb
      obtain rfl := Option.some.inj (hr.symm.trans hr'')
      exact he.trans (h.new k r' hn hb)

lemma orderless_messages {f : Message → Message} {hf : ∀ m, (f m).messageId = m.messageId}
    (hc : ∀ m, (f m).conversationId = m.conversationId) (hs : ∀ m, (f m).sequence = m.sequence) :
    messages.Updates Orderless f hf := by
  intro db q
  have hsame := (same_refl db).orderless
  have hmem : ∀ m ∈ db.messages, (if q m then f m else m) ∈ db.messages.update q f hf :=
    fun m hm => Table.mem_update.mpr ⟨m, hm, rfl⟩
  have hback : ∀ m ∈ db.messages.update q f hf, ∃ r ∈ db.messages, m = if q r then f r else r :=
    fun m hm => Table.mem_update.mp hm
  refine ⟨fun k => ?_, fun m hm => ⟨_, hmem m hm, ?_⟩, fun m hm => ?_, hsame.kept, hsame.new⟩
  · have hsequences : sequencesUnder (db.messages.update q f hf) (.conversation k) = _ :=
      sequencesUnder_update hc hs db.messages
    exact hsequences
  · split
    · exact ⟨hf m, hc m, hs m⟩
    · exact ⟨rfl, rfl, rfl⟩
  · obtain ⟨m', hm', rfl⟩ := hback m hm
    refine ⟨m', hm', ?_⟩
    split
    · exact (hf m').symm
    · rfl

lemma orderless_conversations {f : Conversation → Conversation} {hf : ∀ c, (f c).conversationId = c.conversationId}
    (hn : ∀ c, (f c).nextMessageSequence = c.nextMessageSequence) : conversations.Updates Orderless f hf := by
  intro db q
  have hsame := (same_refl db).orderless
  have hfind : ∀ k, (db.conversations.update q f hf).find? k =
      (db.conversations.find? k).map fun c => if q c then f c else c := fun k => Table.find?_update _ _ _ _ k
  refine ⟨hsame.sequences, hsame.places, hsame.added, fun k c hc => ?_, fun k c hk hc => ?_⟩
  · refine ⟨_, (hfind k).trans (congrArg _ hc), ?_⟩
    dsimp only
    split
    · exact hn c
    · rfl
  · have hnone := (hfind k).trans (congrArg _ hk)
    cases hnone.symm.trans hc

lemma orderless_newConversation (scope : Scope) (agentRef id : Id) (time : Timestamp) :
    conversations.Inserts Orderless (ConversationService.newConversation scope agentRef id time) := by
  intro db
  have hsame := (same_refl db).orderless
  refine ⟨hsame.sequences, hsame.places, hsame.added, fun k c hc => ⟨c, ?_, rfl⟩, fun k c hk hc => ?_⟩
  · obtain ⟨hm, rfl⟩ := Table.find?_eq_some.mp hc
    exact Table.find?_key (Table.mem_insert_of_mem hm)
  · obtain ⟨hm, rfl⟩ := Table.find?_eq_some.mp hc
    rcases Table.mem_of_mem_insert hm with hm | rfl
    · exact absurd rfl (Table.find?_eq_none.mp hk c hm)
    · rfl

lemma Added.places {m : Message} (h : Added m a b) : ∀ n ∈ a.messages, n ∈ b.messages := by
  intro n hn
  rw [h.messages]
  exact Table.mem_insert_of_mem hn

lemma Ordered.places (h : Ordered a b) (m : Message) (hm : m ∈ a.messages) : ∃ m' ∈ b.messages,
    m'.messageId = m.messageId ∧ m'.conversationId = m.conversationId ∧ m'.sequence = m.sequence := by
  rcases h with h | ⟨n, h⟩
  · exact h.places m hm
  · exact ⟨m, h.places m hm, rfl, rfl, rfl⟩

end Relations

def discipline (server : Deployment) : Discipline Tables LockName ServerError Outcome Call Cell where
  inv _ := True
  good _ r := match r with
    | .committed _ _ before after => Ordered before after
    | .finished .. => True
  cell := cell server.platform

variable {server : Deployment}

def Call.numbers : Call → Prop
  | .submitMessage .. => True
  | .materialize _ _ _ event => event.body = .messageStarted
  | _ => False

lemma orderless_body {call : Call} (h : ¬ Call.numbers call) : (body server call).Keeps Orderless := by
  refine keeps_body orderless_refl server ?_
  have hother : ∀ {a b : Tables}, b.conversations = a.conversations → b.messages = a.messages → Orderless a b :=
    fun hc hm => Same.orderless ⟨hc, hm⟩
  have hcommand : ∀ k, Answers Orderless k := fun k r _ db => hother rfl rfl
  cases call with
  | createConversation scope agentRef key ids time =>
    exact ⟨hcommand _, orderless_newConversation _ _ _ _, fun p db => hother rfl rfl⟩
  | submitMessage scope c request key ids now time => exact absurd trivial h
  | createEmailHandoff scope c request key ids now time =>
    exact ⟨hcommand _, fun r db => hother rfl rfl, fun h db => hother rfl rfl, fun db => hother rfl rfl⟩
  | submitStructuredInput scope c r request key now time =>
    exact ⟨hcommand _, fun db q => hother rfl rfl, fun db q => hother rfl rfl, fun db q => hother rfl rfl⟩
  | cancelRun scope c key order now time =>
    exact ⟨hcommand _, fun db q => hother rfl rfl, fun db q => hother rfl rfl⟩
  | appendEvent scope event eventId time =>
    exact ⟨orderless_conversations fun _ => rfl, fun e db => hother rfl rfl, fun db q => hother rfl rfl⟩
  | materialize run now participantId event =>
    change MaterialWrites _ run now event.body
    change ¬ event.body = .messageStarted at h
    cases hb : event.body <;> simp only [hb] at h
    case messageStarted => exact absurd trivial h
    case messageCompleted parts => exact orderless_messages (fun _ => rfl) fun _ => rfl
    case contactRequested => exact ⟨fun db => hother rfl rfl, fun db q => hother rfl rfl⟩
    case handoffRequested => exact fun db => hother rfl rfl
    case handoffCompleted => exact fun db q => hother rfl rfl
    all_goals trivial
  | claim | complete | waitForInput | renewLease => exact fun db q => hother rfl rfl
  | cancel => exact ⟨fun db q => hother rfl rfl, orderless_messages (fun _ => rfl) fun _ => rfl⟩
  | fail => exact ⟨fun db q => hother rfl rfl, fun db q => hother rfl rfl⟩
  | replayEvents | loadContext | isCancellationRequested => trivial

section Numbered

variable {id : ℕ} {call : Call} {k : Id} {messageId : Id}

structure Locked (k messageId : Id) (c : Conversation) (db : Tables) : Prop where
  conversation : db.conversations.find? k = some c
  fresh : db.messages.find? messageId = none

lemma stable_conversation {held : List (Lock LockName)} {c : Conversation}
    (hl : (⟨.conversation k, .noKeyUpdate⟩ : Lock LockName) ∈ held) :
    (discipline server).Stable id held fun s => s.1.conversations.find? k = some c := by
  intro s s' hi hs
  have hc : s'.1.conversations.find? k = s.1.conversations.find? k :=
    congrArg Cell.conversation (hi.cell _ hl (by simp [Lock.exclusive]))
  exact hc.trans hs

lemma stable_locked {held : List (Lock LockName)} {c : Conversation}
    (hl : (⟨.conversation k, .noKeyUpdate⟩ : Lock LockName) ∈ held)
    (hm : (⟨.message messageId, .update⟩ : Lock LockName) ∈ held) :
    (discipline server).Stable id held fun s => Locked k messageId c s.1 := by
  intro s s' hi hs
  have hf : s'.1.messages.find? messageId = s.1.messages.find? messageId :=
    congrArg Cell.message (hi.cell _ hm (by simp [Lock.exclusive]))
  exact ⟨stable_conversation hl s s' hi hs.conversation, hf.trans hs.fresh⟩

lemma abortable (P : ServerStore → Prop) (e : ServerError) :
    (discipline server).Abortable id call P e := fun _ _ _ => trivial

lemma safe_same {p : Query Outcome} (hp : p.Keeps Same) {pending : Tables → Tables} {held : List (Lock LockName)}
    {P : ServerStore → Prop} (hst : (discipline server).Stable id held P)
    (hP : ∀ s, P s → Ordered s.1 (pending s.1)) : (discipline server).Safe id call p pending held P := by
  refine Discipline.safe_of_keeps_after same_refl (fun _ _ _ => Same.trans) (fun _ _ _ _ => trivial)
    (fun _ _ _ _ hab => Or.inl hab.orderless) (fun _ _ => trivial) (fun _ _ _ => trivial) hp p.raises_true hst
    fun s c _ hs hc => ⟨trivial, ?_⟩
  rcases hP s hs with h | ⟨m, h⟩
  · exact Or.inl (h.trans hc.orderless)
  · exact Or.inr ⟨m, h.same hc⟩

lemma safe_numbered (messageId : Id) {p : Conversation → Bool} {now : Timestamp} {m : Conversation → Message}
    {rest : Conversation → Query Outcome} (hp : ∀ c, p c = true → c.conversationId = k)
    (hk : ∀ c, (m c).conversationId = k) (hid : ∀ c, (m c).messageId = messageId)
    (hs : ∀ c, (m c).sequence = c.nextMessageSequence - 1) (hrest : ∀ c, (rest c).Keeps Same)
    (held : List (Lock LockName)) :
    (discipline server).Safe id call (do
      let rows ← conversations.updateTable p (MessageService.takeMessageSequence now) (fun _ => rfl)
      let updated ← Relation.orThrow rows.head?
      messages.insertInto (m updated)
      rest updated) (fun base => base) held (fun _ => True) := by
  refine Discipline.safe_updateTable Discipline.stable_true (fun _ _ _ _ _ => abortable _ _) fun s hs' _ => ?_
  cases hrows : conversations.matching p s.1 with
  | nil => exact ⟨_, trivial, Discipline.safe_throw Discipline.stable_true (abortable _ _)⟩
  | cons c cs =>
    have hc : c ∈ conversations.matching p s.1 := hrows ▸ List.mem_cons_self ..
    obtain ⟨hm, hpc⟩ := List.mem_filter.mp hc
    have hck := hp c hpc
    have hlock : (⟨.conversation k, .noKeyUpdate⟩ : Lock LockName) ∈
        conversations.rowLocks .noKeyUpdate (c :: cs) := by
      rw [← hck]
      exact List.mem_cons_self ..
    have hseq : (m (MessageService.takeMessageSequence now c)).sequence = c.nextMessageSequence := by
      rw [hs]
      rfl
    refine ⟨fun s' => s'.1.conversations.find? k = some c, hck ▸ Table.find?_key hm, ?_⟩
    refine Discipline.safe_insertInto (stable_conversation (List.mem_append_left _ hlock))
      (fun _ _ _ => abortable _ _)
      fun s₁ hs₁ hl₁ hok => ?_
    have hfresh : s₁.1.messages.find? messageId = none := by
      have habsent := (messages.broken_eq_none.mp hok).2.1
      rw [hid] at habsent
      exact habsent
    refine ⟨fun s' => Locked k messageId c s'.1, ⟨hl₁, hfresh⟩, safe_same (hrest _) ?_ fun s₂ hl₂ => ?_⟩
    · refine stable_locked (List.mem_append_right _ (List.mem_append_left _ hlock)) (List.mem_append_left _ ?_)
      rw [← hid]
      exact List.mem_cons_self ..
    · have hupdate : ∀ j, (s₂.1.conversations.update (conversations.seen p s.1)
          (MessageService.takeMessageSequence now) (fun _ => rfl)).find? j =
            (s₂.1.conversations.find? j).map fun d =>
            if conversations.seen p s.1 d then MessageService.takeMessageSequence now d else d :=
        fun j => Table.find?_update _ _ _ _ j
      have hseen : conversations.seen p s.1 c = true := by
        simpa [Relation.seen, hpc] using ⟨c, hc, rfl⟩
      refine Or.inr ⟨m (MessageService.takeMessageSequence now c), ⟨c, ?_, hseq.symm,
        MessageService.takeMessageSequence now c, ?_, ?_⟩, fun j hj => ?_, ?_, rfl⟩
      · rw [hk]
        exact hl₂.conversation
      · rw [hk]
        refine (hupdate k).trans ?_
        rw [hl₂.conversation, Option.map_some, if_pos hseen]
      · rw [hseq]
        rfl
      · refine (hupdate j).trans ?_
        cases hf : s₂.1.conversations.find? j with
        | none => rfl
        | some d =>
          have hd := (Table.find?_eq_some.mp hf).2
          rw [Option.map_some, if_neg fun hsd => ?_]
          rw [hk] at hj
          exact hj (hd.symm.trans (hp d (Relation.seen_imp d hsd)))
      · rw [hid]
        exact hl₂.fresh

lemma safe_reads {α : Type} {p : Query α} {next : α → Query Outcome} {held : List (Lock LockName)}
    (hp : p.Keeps Eq) (hs : p.Single)
    (h : ∀ a held', (discipline server).Safe id call (next a) (fun base => base) held' fun _ => True) :
    (discipline server).Safe id call (p >>= next) (fun base => base) held fun _ => True :=
  Discipline.safe_reads_bind hp hs p.raises_true Discipline.stable_true (fun e _ => abortable _ e)
    fun a held' _ => h a held'

lemma safe_idle {p : Query Outcome} (hp : p.Keeps Same) {held : List (Lock LockName)} :
    (discipline server).Safe id call p (fun base => base) held fun _ => True :=
  safe_same hp Discipline.stable_true fun _ _ => Or.inl (orderless_refl _)

lemma safe_submitMessage (scope : Scope) (conversationId : Id) (request : MessageService.SubmitMessageRequest)
    (idempotencyKey : String) (ids : MessageService.SubmitIds) (now time : Timestamp) :
    (discipline server).Safe id call
      (body server (.submitMessage scope conversationId request idempotencyKey ids now time))
      (fun base => base) [] fun _ => True := by
  have hrefl : ∀ db : Tables, db = db := fun _ => rfl
  have hget : ∀ messageId, (do
      let a ← MessageService.get scope conversationId messageId
      pure (Outcome.message a) : Query Outcome).Keeps Same :=
    fun messageId => (keeps_messageGet same_refl _ _ _).bind fun _ => trivial
  simp only [body, MessageService.submit, withIdempotency, Program.transaction, map_eq_pure_bind,
    bind_assoc, pure_bind]
  refine safe_reads (keeps_lock hrefl _) (single_lock _) fun _ _ => ?_
  refine safe_reads (Relation.keeps_selectFirst _ hrefl _) (Relation.single_selectFirst _ _) fun previous _ => ?_
  cases previous with
  | some previous =>
    refine safe_idle (Program.Keeps.bind (keeps_sameRequest _ _) fun messageId => ?_)
    exact Program.Keeps.bind keeps_commitNow fun _ => hget messageId
  | none =>
    simp only [MessageService.insertMessage, bind_assoc, pure_bind]
    refine safe_reads (keeps_requireConversation hrefl _ _) (single_requireConversation _ _) fun c _ => ?_
    refine safe_reads (Relation.keeps_selectFirstOrThrow _ hrefl _) (Relation.single_selectFirstOrThrow _ _)
      fun participant _ => ?_
    refine safe_numbered ids.id conversationId_of_inConversation ?_ ?_ ?_ (fun _ => ?_) _
    iterate 3 exact fun _ => rfl
    refine Program.Keeps.bind (Relation.keeps_insertInto fun db => ⟨rfl, rfl⟩) fun _ => ?_
    refine Program.Keeps.bind (Relation.keeps_insertInto fun db => ⟨rfl, rfl⟩) fun _ => ?_
    exact Program.Keeps.bind keeps_commitNow fun _ => hget _

lemma safe_startMessage (run : AgentRun) (now : Timestamp) (participantId : Id) (event : ConnectorEvent)
    (hb : event.body = .messageStarted) :
    (discipline server).Safe id call (body server (.materialize run now participantId event)) (fun base => base) []
      fun _ => True := by
  have hrefl : ∀ db : Tables, db = db := fun _ => rfl
  simp only [body, RunWorker.materialize, hb, RunWorker.startMessage, Program.transaction,
    map_eq_pure_bind, bind_assoc,
    pure_bind]
  refine safe_reads (Relation.keeps_selectFirst _ hrefl _) (Relation.single_selectFirst _ _) fun exists? _ => ?_
  cases exists? with
  | some m => exact safe_idle (Program.Keeps.bind keeps_commitNow fun _ => keeps_pure _)
  | none =>
    have hp : ∀ c : Conversation, RunWorker.ofConversation run c.tenantId c.siteId c.conversationId = true →
        c.conversationId = run.conversationId := by
      intro c hc
      simp only [RunWorker.ofConversation, Bool.and_eq_true, decide_eq_true_eq] at hc
      exact hc.2
    simp only [bind_assoc]
    refine safe_numbered run.assistantMessageId hp ?_ ?_ ?_
      (fun _ => Program.Keeps.bind keeps_commitNow fun _ => keeps_pure _) _
    all_goals exact fun _ => rfl

end Numbered

theorem sound (db : Tables) (moves : List ServerMove) :
    (discipline server).Sound ((World.initial db : ServerWorld).exec (body server) moves) := by
  refine Discipline.sound_exec (guarded_body server) (fun id call st _ _ => ⟨fun _ => True, trivial, ?_⟩)
    trivial trivial moves
  by_cases hn : Call.numbers call
  · cases call
    case submitMessage scope c request key ids now time =>
      exact safe_submitMessage scope c request key ids now time
    case materialize run now participantId event => exact safe_startMessage run now participantId event hn
    all_goals exact hn.elim
  · exact Discipline.safe_of_keeps _ orderless_refl (fun _ _ _ => Orderless.trans) (fun _ _ _ _ => trivial)
      (fun _ _ _ _ hab => Or.inl hab) (fun _ _ => trivial) (orderless_body hn) []

section Log

variable {k : Id} {before after : Tables}

structure MessageLog (k : Id) (db : Tables) : Prop where
  counter : ∀ c, db.conversations.find? k = some c →
    Numbered Prod.snd (sequencesOf k db.messages) c.nextMessageSequence
  absent : db.conversations.find? k = none → sequencesOf k db.messages = []

lemma MessageLog.orderless (h : MessageLog k before) (ho : Orderless before after) : MessageLog k after := by
  refine ⟨fun c hc => ?_, fun hn => ?_⟩
  · rw [ho.sequences k]
    cases hb : before.conversations.find? k with
    | none =>
      rw [h.absent hb, ho.new k c hb hc]
      exact numbered_nil
    | some c₀ =>
      obtain ⟨c', hc', he⟩ := ho.kept k c₀ hb
      obtain rfl := Option.some.inj (hc.symm.trans hc')
      exact he ▸ h.counter c₀ hb
  · rw [ho.sequences k]
    cases hb : before.conversations.find? k with
    | none => exact h.absent hb
    | some c₀ =>
      obtain ⟨c', hc', -⟩ := ho.kept k c₀ hb
      cases hn.symm.trans hc'

lemma sequencesOf_insert {t : Table Message.messageId} {m : Message} (h : t.find? m.messageId = none) :
    sequencesOf m.conversationId (t.insert m) = sequencesOf m.conversationId t ++ [(m.messageId, m.sequence)] := by
  rw [sequencesOf, sequencesOf, Table.insert_of_absent h, List.filter_append, List.map_append]
  simp

lemma MessageLog.added {m : Message} (h : MessageLog k before) (ha : Added m before after) :
    MessageLog k after := by
  obtain ⟨c, hc, hseq, c', hc', hseq'⟩ := ha.allocated
  by_cases hk : k = m.conversationId
  · subst hk
    refine ⟨fun d hd => ?_, fun hn => by cases hn.symm.trans hc'⟩
    obtain rfl := Option.some.inj (hd.symm.trans hc')
    rw [ha.messages, sequencesOf_insert ha.fresh, hseq', ← hseq]
    exact (h.counter c hc).snoc rfl
  · have hs : sequencesOf k after.messages = sequencesOf k before.messages := by
      rw [ha.messages]
      exact sequencesUnder_insert (n := .conversation k) (fun he => hk (LockName.conversation.inj he))
        before.messages
    refine ⟨?_, ?_⟩
    · rw [ha.other k hk, hs]
      exact h.counter
    · rw [ha.other k hk, hs]
      exact h.absent

lemma MessageLog.step (h : MessageLog k before) (ho : Ordered before after) : MessageLog k after := by
  rcases ho with ho | ⟨m, ha⟩
  · exact h.orderless ho
  · exact h.added ha

def addedIds (h : List ServerRecord) : List Id :=
  h.flatMap fun r => match r with
    | .committed _ _ before after =>
        (after.messages.rows.filter fun m => (before.messages.find? m.messageId).isNone).map Message.messageId
    | .finished .. => []

lemma find?_none_of_ordered (ho : Ordered before after) {id : Id} (h : after.messages.find? id = none) :
    before.messages.find? id = none := by
  refine Table.find?_eq_none.mpr fun m hm he => ?_
  obtain ⟨m', hm', hid, -⟩ := ho.places m hm
  exact Table.find?_eq_none.mp h m' hm' (hid.trans he)

lemma addedIds_fresh {h : List ServerRecord} (hl : Leads before h after)
    (hgood : ∀ id call b a, Record.committed id call b a ∈ h → Ordered b a) :
    (∀ id ∈ addedIds h, before.messages.find? id = none) ∧ (addedIds h).Nodup := by
  induction h generalizing before with
  | nil => simp [addedIds]
  | cons r h ih =>
    cases r with
    | committed id call b a =>
      obtain ⟨rfl, hl⟩ := hl
      have ho := hgood id call _ _ (List.mem_cons_self ..)
      obtain ⟨hfresh, hnodup⟩ := ih hl fun i c x y hm => hgood i c x y (List.mem_cons_of_mem _ hm)
      have hcons : addedIds (Record.committed id call b a :: h) = (a.messages.rows.filter
          fun m => (b.messages.find? m.messageId).isNone).map Message.messageId ++ addedIds h := rfl
      rw [hcons]
      refine ⟨fun i hi => ?_, ?_⟩
      · rcases List.mem_append.mp hi with hi | hi
        · obtain ⟨m, hm, rfl⟩ := List.mem_map.mp hi
          simpa using (List.mem_filter.mp hm).2
        · exact find?_none_of_ordered ho (hfresh i hi)
      · refine List.nodup_append.mpr ⟨a.messages.keys_nodup.sublist (List.filter_sublist.map _), hnodup, ?_⟩
        rintro i hi j hj rfl
        obtain ⟨m, hm, rfl⟩ := List.mem_map.mp hi
        exact Table.find?_eq_none.mp (hfresh _ hj) m (List.mem_filter.mp hm).1 rfl
    | finished id call result =>
      exact ih hl fun i c x y hm => hgood i c x y (List.mem_cons_of_mem _ hm)

end Log

/-- However submissions and starts of messages are interleaved with each other and with every other
call of the server, crashes and failures included: the messages of a conversation are numbered from one
to its counter, no message ever moves, and no message id, so no run, gets a second message. -/
theorem message_order (server : Deployment) (principals : Table Principal.principalId)
    (browserSessions : Table BrowserSession.sessionId) (bootstraps : Table SessionBootstrapIdempotency.key)
    (moves : List ServerMove) :
    let w := (World.initial (unused principals browserSessions bootstraps) : ServerWorld).exec (body server) moves
    (∀ k c, w.db.conversations.find? k = some c →
      (sequencesOf k w.db.messages).map Prod.snd = List.range' 1 (sequencesOf k w.db.messages).length ∧
        c.nextMessageSequence = (sequencesOf k w.db.messages).length + 1) ∧
    (∀ m ∈ w.db.messages, ∃ c, w.db.conversations.find? m.conversationId = some c) ∧
    (∀ id call before after, .committed id call before after ∈ w.history → ∀ m ∈ before.messages,
      ∃ m' ∈ w.db.messages, m'.messageId = m.messageId ∧ m'.conversationId = m.conversationId ∧
        m'.sequence = m.sequence) ∧
    (addedIds w.history).Nodup ∧
    ∀ r ∈ w.db.agentRuns,
      (w.db.messages.rows.filter fun m => decide (m.messageId = r.assistantMessageId)).length ≤ 1 := by
  intro w
  have hsound := @sound server (unused principals browserSessions bootstraps) moves
  have hleads := World.exec_leads (body server) (unused principals browserSessions bootstraps) moves
  have hgood : ∀ id call b a, Record.committed id call b a ∈ w.history → Ordered b a := by
    intro id call b a hm
    obtain ⟨h₁, h₂, he⟩ := List.append_of_mem hm
    exact hsound.holds.good h₁ _ h₂ he
  have hlog : ∀ k, MessageLog k w.db := fun k =>
    hleads.preserves (I := MessageLog k) ⟨fun _ hc => by simp [unused] at hc, fun _ => rfl⟩
      fun id call b a hm h => h.step (hgood id call b a hm)
  refine ⟨fun k c hc => ?_, fun m hm => ?_, fun id call before after hr m hm => ?_,
    (addedIds_fresh hleads hgood).2, fun r _ => Table.length_filter_key_le _ _⟩
  · have hn := (hlog k).counter c hc
    exact ⟨hn.numbers, hn.next_eq⟩
  · cases hf : w.db.conversations.find? m.conversationId with
    | some c => exact ⟨c, rfl⟩
    | none =>
      have hmem : (m.messageId, m.sequence) ∈ sequencesOf m.conversationId w.db.messages :=
        List.mem_map.mpr ⟨m, List.mem_filter.mpr ⟨hm, decide_eq_true rfl⟩, rfl⟩
      rw [(hlog m.conversationId).absent hf] at hmem
      cases hmem
  · obtain ⟨h₁, h₂, he⟩ := List.append_of_mem hr
    rw [he] at hleads
    obtain ⟨middle, -, hl⟩ := hleads.split
    have hb := hl.1
    subst hb
    refine hl.preserves (I := fun db => ∃ m' ∈ db.messages, m'.messageId = m.messageId ∧
      m'.conversationId = m.conversationId ∧ m'.sequence = m.sequence) ⟨m, hm, rfl, rfl, rfl⟩ ?_
    rintro i c b a hmem ⟨m₁, hm₁, hid, hk, hs⟩
    obtain ⟨m₂, hm₂, hid', hk', hs'⟩ := (hgood i c b a (he ▸ List.mem_append_right _ hmem)).places m₁ hm₁
    exact ⟨m₂, hm₂, hid'.trans hid, hk'.trans hk, hs'.trans hs⟩

end ChatCore.Services.MessageOrder
