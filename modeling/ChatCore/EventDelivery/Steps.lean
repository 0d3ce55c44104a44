import ChatCore.EventDelivery.Moves

namespace ChatCore.EventDelivery

open Transition Protocol Relational Database Services Services.EventNumbering Services.EventStore
  Services.EventStreams

section Subscriptions

def ofNotification : EventBrokerNotification → Option PublicConversationEvent
  | .event event => some event
  | _ => none

def given (b : BufferedSubscription) : List PublicConversationEvent :=
  (b.yielded ++ b.queue).filterMap ofNotification

def roomy (bufferSize : ℕ) (b : BufferedSubscription) : Bool :=
  !b.terminal && (b.waiter || decide (b.queue.length < bufferSize))

end Subscriptions

section Steps

variable {server : Deployment} {options : EventBrokerOptions} {s : State} {i : ℕ} {r r' : Response}

inductive Goes (s : State) (r : Response) : Response → Prop
  | stays : Goes s r r
  | disconnected : Goes s r { r with destroyed := true }
  | read (session : ℕ) (events : List PublicConversationEvent) (stage : r.stage = .replaying session)
      (answered : result s.world.history session = some (.ok (.replay (.events events)))) :
      Goes s r { r with stage := .sending events }
  | told (event : PublicConversationEvent) (session : ℕ) (stage : r.stage.replay = some session)
      (answered : result s.world.history session = some (.ok (.replay (.syncRequired event)))) :
      Goes s r { r.write event with stage := .ended }
  | fails (destroyed : Bool) (kept : r.destroyed = true → destroyed = true) :
      Goes s r { r with stage := .ended, destroyed := destroyed }
  | sends (event : PublicConversationEvent) (events : List PublicConversationEvent)
      (stage : r.stage = .sending (event :: events)) :
      Goes s r { r.write event with lastSequence := event.sequence, stage := .sending events }
  | sent (stage : r.stage = .sending []) : Goes s r { r with stage := .listening }
  | awaits (stage : r.stage = .listening) : Goes s r { r with stage := .awaiting }
  | overflows (session : ℕ) (stage : r.stage = .awaiting) (notified : s.notification r = some .overflow) :
      Goes s r { r with stage := .resyncing session, taken := r.taken + 1 }
  | skips (event : PublicConversationEvent) (stage : r.stage = .awaiting)
      (notified : s.notification r = some (.event event)) (old : event.sequence ≤ r.lastSequence) :
      Goes s r { r with stage := .listening, taken := r.taken + 1 }
  | receives (event : PublicConversationEvent) (stage : r.stage = .awaiting)
      (notified : s.notification r = some (.event event)) (new : r.lastSequence < event.sequence) :
      Goes s r { r.write event with lastSequence := event.sequence, stage := .listening, taken := r.taken + 1 }

def asks (s : State) (process : ℕ) (scope : Scope) (k : Id) (lastEventId : Option Id) : Response :=
  ⟨process, (s.brokers process).buffered.length, scope, k, lastEventId, named s.world.history k lastEventId,
    .replaying s.world.sessions.length, 0, 0, false, []⟩

lemma getElem?_put_response (hi : s.responses[i]? = some r) (r' : Response) (j : ℕ) :
    (s.put i r').responses[j]? = if i = j then some r' else s.responses[j]? := by
  obtain ⟨hlt, -⟩ := List.getElem?_eq_some_iff.mp hi
  rw [State.put, List.getElem?_set]
  simp only [hlt, if_true]

lemma goes_proceed (hi : s.responses[i]? = some r) (randomUUID : Id) (stamp : SyncStamp) :
    ∃ r', Goes s r r' ∧ (s.proceed server i r randomUUID stamp).responses = (s.put i r').responses := by
  have hself : (s.put i r).responses = s.responses := by
    obtain ⟨hlt, hget⟩ := List.getElem?_eq_some_iff.mp hi
    rw [State.put, ← hget]
    exact List.set_getElem_self hlt
  rw [State.proceed]
  cases hstage : r.stage with
  | replaying session =>
    dsimp only
    split
    · exact ⟨_, .read session _ hstage ‹_›, rfl⟩
    · exact ⟨_, .told _ session (by rw [hstage]; rfl) ‹_›, rfl⟩
    · exact ⟨_, .fails r.destroyed id, rfl⟩
    · exact ⟨r, .stays, hself.symm⟩
  | sending events =>
    cases events with
    | nil => exact ⟨_, .sent hstage, rfl⟩
    | cons event events => exact ⟨_, .sends event events hstage, rfl⟩
  | listening =>
    dsimp only
    split
    · exact ⟨_, .fails r.destroyed id, rfl⟩
    · exact ⟨_, .awaits hstage, rfl⟩
  | awaiting =>
    dsimp only
    split
    · exact ⟨_, .fails r.destroyed id, rfl⟩
    · exact ⟨_, .overflows _ hstage ‹_›, rfl⟩
    · split
      · exact ⟨_, .skips _ hstage ‹_› ‹_›, rfl⟩
      · exact ⟨_, .receives _ hstage ‹_› (Nat.lt_of_not_le ‹_›), rfl⟩
    · exact ⟨r, .stays, hself.symm⟩
  | resyncing session =>
    dsimp only
    split
    · exact ⟨_, .told _ session (by rw [hstage]; rfl) ‹_›, rfl⟩
    · exact ⟨_, .fails true fun _ => rfl, rfl⟩
    · exact ⟨r, .stays, hself.symm⟩
  | ended => exact ⟨r, .stays, hself.symm⟩

lemma goes_step {a : Action} (h : (s.step server options a).responses[i]? = some r') :
    (∃ r, s.responses[i]? = some r ∧ Goes s r r') ∨ ∃ process scope k lastEventId stamp,
      a = .request process scope k lastEventId stamp ∧ (isOpaqueId k && lastEventId.all isOpaqueId) = true ∧
      i = s.responses.length ∧ r' = asks s process scope k lastEventId := by
  cases a with
  | move m => exact Or.inl ⟨r', h, .stays⟩
  | publish process session =>
    have hsame : (s.publish options process session).responses = s.responses := by
      rw [State.publish]
      split
      · split
        · rfl
        · split <;> rfl
      · rfl
    change (s.publish options process session).responses[i]? = some r' at h
    rw [hsame] at h
    exact Or.inl ⟨r', h, .stays⟩
  | request process scope k lastEventId stamp =>
    rw [State.step, State.request] at h
    split at h
    · rename_i hvalid
      change (s.responses ++ [asks s process scope k lastEventId])[i]? = some r' at h
      rcases Nat.lt_trichotomy i s.responses.length with hlt | heq | hgt
      · rw [List.getElem?_append_left hlt] at h
        exact Or.inl ⟨r', h, .stays⟩
      · rw [heq, List.getElem?_concat_length] at h
        exact Or.inr ⟨process, scope, k, lastEventId, stamp, rfl, hvalid, heq, (Option.some.inj h).symm⟩
      · rw [List.getElem?_eq_none (by rw [List.length_append, List.length_singleton]; omega)] at h
        cases h
    · exact Or.inl ⟨r', h, .stays⟩
  | proceed j randomUUID stamp =>
    rw [State.step] at h
    cases hj : s.responses[j]? with
    | none =>
      rw [hj] at h
      exact Or.inl ⟨r', h, .stays⟩
    | some r =>
      rw [hj] at h
      obtain ⟨r'', hgoes, hsame⟩ := @goes_proceed server s j r hj randomUUID stamp
      change (s.proceed server j r randomUUID stamp).responses[i]? = some r' at h
      rw [hsame, getElem?_put_response hj] at h
      split at h
      · rename_i hij
        cases h
        exact Or.inl ⟨r, hij ▸ hj, hgoes⟩
      · exact Or.inl ⟨r', h, .stays⟩
  | disconnect j =>
    rw [State.step] at h
    cases hj : s.responses[j]? with
    | none =>
      rw [hj] at h
      exact Or.inl ⟨r', h, .stays⟩
    | some r =>
      rw [hj] at h
      have hput : (s.put j { r with destroyed := true }).responses[i]? = some r' →
          ∃ r, s.responses[i]? = some r ∧ Goes s r r' := by
        intro hget
        rw [getElem?_put_response hj] at hget
        split at hget
        · rename_i hij
          cases hget
          exact ⟨r, hij ▸ hj, .disconnected⟩
        · exact ⟨r', hget, .stays⟩
      dsimp only at h
      rw [State.disconnect] at h
      split at h
      · exact Or.inl ⟨r', h, .stays⟩
      · split at h
        · exact Or.inl (hput h)
        · exact Or.inl (hput h)

end Steps

structure Same (r r' : Response) : Prop where
  process : r'.process = r.process
  subscription : r'.subscription = r.subscription
  scope : r'.scope = r.scope
  conversationId : r'.conversationId = r.conversationId
  lastEventId : r'.lastEventId = r.lastEventId

lemma Same.refl (r : Response) : Same r r := ⟨rfl, rfl, rfl, rfl, rfl⟩

lemma Same.trans {r r' r'' : Response} (h : Same r r') (h' : Same r' r'') : Same r r'' :=
  ⟨h'.process.trans h.process, h'.subscription.trans h.subscription, h'.scope.trans h.scope,
    h'.conversationId.trans h.conversationId, h'.lastEventId.trans h.lastEventId⟩

lemma same_write (r : Response) (event : PublicConversationEvent) : Same r (r.write event) := by
  rw [Response.write]
  split <;> exact ⟨rfl, rfl, rfl, rfl, rfl⟩

lemma Goes.same {s : State} {r r' : Response} (h : Goes s r r') : Same r r' := by
  cases h with
  | told event | sends event | receives event =>
    exact ⟨(same_write r event).process, (same_write r event).subscription, (same_write r event).scope,
      (same_write r event).conversationId, (same_write r event).lastEventId⟩
  | _ => exact ⟨rfl, rfl, rfl, rfl, rfl⟩

structure Kept (r r' : Response) : Prop where
  destroyed : r'.destroyed = false → r.destroyed = false
  stage : r'.stage ≠ .ended → r.stage ≠ .ended

lemma destroyed_write (r : Response) (event : PublicConversationEvent) :
    (r.write event).destroyed = r.destroyed := by
  rw [Response.write]
  split <;> rfl

lemma Goes.kept {s : State} {r r' : Response} (h : Goes s r r') : Kept r r' := by
  cases h with
  | stays => exact ⟨id, id⟩
  | disconnected => exact ⟨fun hopen => (by cases hopen), id⟩
  | told event => exact ⟨(destroyed_write r event).symm.trans, fun hgoing => absurd rfl hgoing⟩
  | fails destroyed kept =>
    refine ⟨fun hopen => ?_, fun hgoing => absurd rfl hgoing⟩
    cases hd : r.destroyed with
    | false => rfl
    | true => exact absurd (hopen.symm.trans (kept hd)) (by decide)
  | sends event _ hstage | receives event hstage =>
    refine ⟨(destroyed_write r event).symm.trans, fun _ => ?_⟩
    rw [hstage]
    exact Stage.noConfusion
  | read _ _ hstage | sent hstage | awaits hstage | overflows _ hstage | skips _ hstage =>
    refine ⟨id, fun _ => ?_⟩
    rw [hstage]
    exact Stage.noConfusion

section Brokers

open EventBroker

variable {server : Deployment} {options : EventBrokerOptions} {s : State} {process j : ℕ}
  {b : BufferedSubscription}

variable (s process) in
inductive Causes : Action → EventBroker.Call → Prop
  | publish (session : ℕ) (persisted : PersistedEvent)
      (answered : result s.world.history session = some (.ok (.appended persisted)))
        (fresh : session ∉ s.published)
      (visible : persisted.event.visibility = .public) :
      Causes (.publish process session) (.publish persisted.toPublic)
  | request (scope : Scope) (k : Id) (lastEventId : Option Id) (stamp : SyncStamp) :
      Causes (.request process scope k lastEventId stamp) (.subscribe k)
  | next (a : Action) (j : ℕ) : Causes a (.next j)
  | close (a : Action) (j : ℕ) : Causes a (.close j)

lemma brokers_put (other : ℕ) (b : EventBroker) (q : ℕ) :
    (s.putBroker other b).brokers q = if q = other then b else s.brokers q := by
  rw [State.putBroker]
  exact Function.update_apply ..

lemma broker_step (a : Action) (q : ℕ) : (s.step server options a).brokers q = s.brokers q ∨
    ∃ call, (s.step server options a).brokers q = (s.brokers q).step options call ∧ Causes s q a call := by
  have hclose : ∀ (i : ℕ) (r : Response), (s.fail i r).brokers q = s.brokers q ∨
      ∃ call, (s.fail i r).brokers q = (s.brokers q).step options call ∧ Causes s q a call := by
    intro i r
    rw [State.fail, brokers_put]
    split
    · rename_i hq
      exact Or.inr ⟨.close r.subscription, by rw [hq]; rfl, .close _ _⟩
    · exact Or.inl rfl
  cases a with
  | move m => exact Or.inl rfl
  | publish other session =>
    rw [State.step, State.publish]
    split
    · rename_i persisted hresult
      split
      · exact Or.inl rfl
      · rename_i hfresh
        split
        · rename_i hvisible
          rw [brokers_put]
          split
          · rename_i hq
            subst hq
            exact Or.inr ⟨_, rfl, .publish session persisted hresult hfresh hvisible⟩
          · exact Or.inl rfl
        · exact Or.inl rfl
    · exact Or.inl rfl
  | request other scope k lastEventId stamp =>
    rw [State.step, State.request]
    split
    · change (State.putBroker _ other _).brokers q = _ ∨ ∃ call, (State.putBroker _ other _).brokers q = _ ∧ _
      rw [brokers_put]
      split
      · rename_i hq
        subst hq
        exact Or.inr ⟨_, rfl, .request scope k lastEventId stamp⟩
      · exact Or.inl rfl
    · exact Or.inl rfl
  | proceed i randomUUID stamp =>
    rw [State.step]
    cases s.responses[i]? with
    | none => exact Or.inl rfl
    | some r =>
      dsimp only
      rw [State.proceed]
      cases hstage : r.stage with
      | replaying session =>
        dsimp only
        split
        · exact Or.inl rfl
        · exact Or.inl rfl
        · exact hclose i r
        · exact Or.inl rfl
      | sending events => cases events <;> exact Or.inl rfl
      | listening =>
        dsimp only
        split
        · exact Or.inl rfl
        · rw [brokers_put]
          split
          · rename_i hq
            exact Or.inr ⟨.next r.subscription, by rw [hq]; rfl, .next _ _⟩
          · exact Or.inl rfl
      | awaiting =>
        dsimp only
        split
        · exact Or.inl rfl
        · exact Or.inl rfl
        · split <;> exact Or.inl rfl
        · exact Or.inl rfl
      | resyncing session =>
        dsimp only
        split
        · exact Or.inl rfl
        · exact hclose i _
        · exact Or.inl rfl
      | ended => exact Or.inl rfl
  | disconnect i =>
    rw [State.step]
    cases s.responses[i]? with
    | none => exact Or.inl rfl
    | some r =>
      dsimp only
      rw [State.disconnect]
      split
      · exact Or.inl rfl
      · split
        · exact Or.inl rfl
        · rw [brokers_put]
          split
          · rename_i hq
            exact Or.inr ⟨.close r.subscription, by rw [hq]; rfl, .close _ _⟩
          · exact Or.inl rfl

lemma given_push (hidle : b.terminal = false → b.waiter = true → b.queue = []) (bufferSize : ℕ)
    (event : PublicConversationEvent) : b.yielded <+: (b.push bufferSize event).1.yielded ∧
      (roomy bufferSize b = false ∧ (b.push bufferSize event).1.terminal = true ∧
        given (b.push bufferSize event).1 <+: given b ∨
        roomy bufferSize b = true ∧ (b.push bufferSize event).1.terminal = b.terminal ∧
          given (b.push bufferSize event).1 = given b ++ [event]) := by
  unfold BufferedSubscription.push
  split
  · rename_i ht
    exact ⟨List.prefix_refl _, Or.inl ⟨by simp [roomy, ht], ht, List.prefix_refl _⟩⟩
  · rename_i ht
    have hlive : b.terminal = false := by simpa using ht
    split
    · rename_i hw
      refine ⟨List.prefix_append _ _, Or.inr ⟨by simp [roomy, hlive, hw], rfl, ?_⟩⟩
      simp [given, hidle hlive hw, ofNotification]
    · rename_i hw
      split
      · rename_i hlt
        refine ⟨List.prefix_refl _, Or.inr ⟨by simp [roomy, hlive, hlt], rfl, ?_⟩⟩
        simp [given, ofNotification]
      · rename_i hfull
        refine ⟨List.prefix_refl _, Or.inl ⟨?_, rfl, ?_⟩⟩
        · simpa [roomy, hlive, hw] using hfull
        · rw [given, given, List.filterMap_append, List.filterMap_append]
          exact List.prefix_append_right_inj _ |>.mpr List.nil_prefix

lemma given_next : b.yielded <+: b.next.yielded ∧ given b.next = given b := by
  unfold BufferedSubscription.next
  split
  · rename_i notification queue hqueue
    refine ⟨List.prefix_append _ _, ?_⟩
    simp [given, hqueue]
  · rename_i hqueue
    split
    · refine ⟨List.prefix_append _ _, ?_⟩
      simp [given, hqueue, ofNotification]
    · split <;> exact ⟨List.prefix_refl _, rfl⟩

lemma given_close : b.yielded <+: b.close.1.yielded ∧ b.close.1.terminal = true ∧ given b.close.1 <+: given b := by
  unfold BufferedSubscription.close
  split
  · rename_i hshut
    rw [Bool.and_eq_true] at hshut
    exact ⟨List.prefix_refl _, hshut.1, List.prefix_refl _⟩
  · split
    · refine ⟨List.prefix_append _ _, rfl, ?_⟩
      rw [given, given, List.append_nil, List.filterMap_append, List.filterMap_append]
      exact List.prefix_append_right_inj _ |>.mpr List.nil_prefix
    · refine ⟨List.prefix_refl _, rfl, ?_⟩
      simp [given]

structure Passes (bufferSize : ℕ) (s : State) (a : Action) (process : ℕ) (b b' : BufferedSubscription) : Prop where
  conversationId : b'.conversationId = b.conversationId
  yielded : b.yielded <+: b'.yielded
  ends : b.terminal = true → b'.terminal = true
  given : given b' <+: given b ∧ (b'.terminal = false → given b' = given b) ∨ ∃ session persisted,
    a = .publish process session ∧ result s.world.history session = some (.ok (.appended persisted)) ∧
    session ∉ s.published ∧ persisted.event.visibility = .public ∧ persisted.event.conversationId =
      b.conversationId ∧
    roomy bufferSize b = true ∧ given b' = given b ++ [persisted.toPublic]

lemma idle_of_correct {calls : List EventBroker.Call} (h : Correct options calls)
    (hb : (EventBroker.run options calls).buffered[j]? = some b) : b.terminal = false → b.waiter = true →
    b.queue = [] := by
  intro hlive hw
  cases h.stands j b hb with
  | running _ _ queued _ queue _ waits => rw [queue, waits hw, List.map_nil]
  | overflowed dead =>
    rw [hlive] at dead
    cases dead
  | shut dead =>
    rw [hlive] at dead
    cases dead

lemma passes_step (hbrokers : ∀ q, ∃ calls, s.brokers q = EventBroker.run options calls) {a : Action} {q : ℕ}
    {b' : BufferedSubscription} (h : ((s.step server options a).brokers q).buffered[j]? = some b') :
    (∃ b, (s.brokers q).buffered[j]? = some b ∧ Passes options.subscriberBufferSize s a q b b') ∨
      ∃ scope k lastEventId stamp,
      a = .request q scope k lastEventId stamp ∧ j = (s.brokers q).buffered.length ∧ b'.conversationId = k ∧
        b'.yielded = [] ∧ given b' = [] := by
  have hstays : (s.brokers q).buffered[j]? = some b' →
      ∃ b, (s.brokers q).buffered[j]? = some b ∧ Passes options.subscriberBufferSize s a q b b' :=
    fun hb => ⟨b', hb, rfl, List.prefix_refl _, id, Or.inl ⟨List.prefix_refl _, fun _ => rfl⟩⟩
  obtain ⟨calls, hcalls⟩ := hbrokers q
  have hcorrect := correct options calls
  rcases @broker_step server options s a q with heq | ⟨call, heq, hcauses⟩
  · rw [heq] at h
    exact Or.inl (hstays h)
  · rw [heq] at h
    cases hcauses with
    | publish session persisted answered fresh visible =>
      have htidy : Tidy (s.brokers q) := hcalls ▸ hcorrect.tidy
      change ((s.brokers q).publish options persisted.toPublic).buffered[j]? = some b' at h
      rw [(published htidy persisted.toPublic).2 j] at h
      obtain ⟨b, hb, hpushed⟩ := Option.map_eq_some_iff.mp h
      split at hpushed
      · rename_i hk
        subst hpushed
        obtain ⟨hyielded, hgiven⟩ :=
          given_push (idle_of_correct hcorrect (hcalls ▸ hb)) options.subscriberBufferSize
          persisted.toPublic
        refine Or.inl ⟨b, hb, (proceeds_push ..).conversationId, hyielded, fun ht => ?_, ?_⟩
        · rw [push_terminal ht]
          exact ht
        · rcases hgiven with ⟨-, hfull, hstart⟩ | ⟨hroom, -, he⟩
          · exact Or.inl ⟨hstart, fun hlive => absurd (hfull.symm.trans hlive) (by decide)⟩
          · exact Or.inr ⟨session, persisted, rfl, answered, fresh, visible, hk.symm, hroom, he⟩
      · subst hpushed
        exact Or.inl (hstays hb)
    | request scope k lastEventId stamp =>
      change ((s.brokers q).buffered ++ [_])[j]? = some b' at h
      rcases Nat.lt_trichotomy j (s.brokers q).buffered.length with hlt | heq | hgt
      · rw [List.getElem?_append_left hlt] at h
        exact Or.inl (hstays h)
      · rw [heq, List.getElem?_concat_length] at h
        obtain rfl := Option.some.inj h
        exact Or.inr ⟨scope, k, lastEventId, stamp, rfl, heq, rfl, rfl, rfl⟩
      · rw [List.getElem?_eq_none (by rw [List.length_append, List.length_singleton]; omega)] at h
        cases h
    | next _ i =>
      change ((s.brokers q).next i).buffered[j]? = some b' at h
      rw [EventBroker.next] at h
      split at h
      · rename_i b hb
        rw [getElem?_put hb] at h
        split at h
        · rename_i hij
          subst hij
          obtain rfl := Option.some.inj h
          obtain ⟨hyielded, hgiven⟩ := @given_next b
          obtain ⟨hconversation, -, hterminal⟩ := next_keeps b
          exact Or.inl ⟨b, hb, hconversation, hyielded, hterminal.trans,
            Or.inl ⟨hgiven ▸ List.prefix_refl _, fun _ => hgiven⟩⟩
        · exact Or.inl (hstays h)
      · exact Or.inl (hstays h)
    | close _ i =>
      change ((s.brokers q).close i).buffered[j]? = some b' at h
      rw [EventBroker.close] at h
      split at h
      · rename_i b hb
        rw [getElem?_after hb] at h
        split at h
        · rename_i hij
          subst hij
          obtain rfl := Option.some.inj h
          obtain ⟨hyielded, hshut, hgiven⟩ := @given_close b
          refine Or.inl ⟨b, hb, close_conversationId b, hyielded, fun _ => hshut, Or.inl ⟨hgiven, fun hlive => ?_⟩⟩
          exact absurd (hshut.symm.trans hlive) (by decide)
        · exact Or.inl (hstays h)
      · exact Or.inl (hstays h)

lemma brokers_run (hbrokers : ∀ q, ∃ calls, s.brokers q = EventBroker.run options calls) (a : Action) (q : ℕ) :
    ∃ calls, (s.step server options a).brokers q = EventBroker.run options calls := by
  obtain ⟨calls, hcalls⟩ := hbrokers q
  rcases @broker_step server options s a q with heq | ⟨call, heq, -⟩
  · exact ⟨calls, heq.trans hcalls⟩
  · exact ⟨calls ++ [call], by rw [heq, hcalls, run_snoc]⟩

end Brokers

section Published

variable {server : Deployment} {options : EventBrokerOptions} {s : State} {session : ℕ}
  {persisted : PersistedEvent}

lemma published_proceed (i : ℕ) (r : Response) (randomUUID : Id) (stamp : SyncStamp) :
    (s.proceed server i r randomUUID stamp).published = s.published := by
  rw [State.proceed]
  cases r.stage with
  | replaying session =>
    dsimp only
    split <;> rfl
  | sending events => cases events <;> rfl
  | listening =>
    dsimp only
    split <;> rfl
  | awaiting =>
    dsimp only
    split
    · rfl
    · rfl
    · split <;> rfl
    · rfl
  | resyncing session =>
    dsimp only
    split <;> rfl
  | ended => rfl

lemma published_step (a : Action) (h : session ∈ s.published) : session ∈ (s.step server options a).published := by
  cases a with
  | move m => exact h
  | publish process other =>
    rw [State.step, State.publish]
    split
    · split
      · exact h
      · split <;> exact List.mem_cons_of_mem _ h
    · exact h
  | request process scope k lastEventId stamp =>
    rw [State.step, State.request]
    split <;> exact h
  | proceed i randomUUID stamp =>
    rw [State.step]
    cases s.responses[i]? with
    | none => exact h
    | some r =>
      dsimp only
      rw [published_proceed]
      exact h
  | disconnect i =>
    rw [State.step]
    cases s.responses[i]? with
    | none => exact h
    | some r =>
      dsimp only
      rw [State.disconnect]
      split
      · exact h
      · split <;> exact h

lemma published_publish {process : ℕ} (h : result s.world.history session = some (.ok (.appended persisted))) :
    session ∈ (s.step server options (.publish process session)).published := by
  rw [State.step, State.publish]
  split
  · split
    · assumption
    · split <;> exact List.mem_cons_self
  · rename_i hnone
    exact absurd h (hnone persisted)

lemma result_append {h new : List ServerRecord} {answer : Except ServerError Outcome}
    (hr : result h session = some answer) :
    result (h ++ new) session = some answer := by
  unfold result at hr ⊢
  rw [List.findSome?_append, hr]
  rfl

lemma published_of_step {a : Action} (h : session ∈ (s.step server options a).published) : session ∈ s.published ∨
    ∃ process persisted, a = .publish process session ∧ session ∉ s.published ∧
      result s.world.history session = some (.ok (.appended persisted)) := by
  cases a with
  | move m => exact Or.inl h
  | publish process other =>
    rw [State.step, State.publish] at h
    split at h
    · rename_i persisted hr
      split at h
      · exact Or.inl h
      · rename_i hfresh
        have hmem : session ∈ other :: s.published := by
          split at h <;> exact h
        rcases List.mem_cons.mp hmem with rfl | hmem
        · exact Or.inr ⟨process, persisted, rfl, hfresh, hr⟩
        · exact Or.inl hmem
    · exact Or.inl h
  | request process scope k lastEventId stamp =>
    rw [State.step, State.request] at h
    split at h <;> exact Or.inl h
  | proceed i randomUUID stamp =>
    rw [State.step] at h
    cases hi : s.responses[i]? with
    | none =>
      rw [hi] at h
      exact Or.inl h
    | some r =>
      rw [hi] at h
      dsimp only at h
      rw [published_proceed] at h
      exact Or.inl h
  | disconnect i =>
    rw [State.step] at h
    cases hi : s.responses[i]? with
    | none =>
      rw [hi] at h
      exact Or.inl h
    | some r =>
      rw [hi] at h
      dsimp only at h
      rw [State.disconnect] at h
      split at h
      · exact Or.inl h
      · split at h <;> exact Or.inl h

lemma buffered_publish (hbrokers : ∀ q, ∃ calls, s.brokers q = EventBroker.run options calls) {q j : ℕ}
    {b : BufferedSubscription} (hr : result s.world.history session = some (.ok (.appended persisted)))
    (hfresh : session ∉ s.published) (hvisible : persisted.event.visibility = .public)
    (hb : (s.brokers q).buffered[j]? = some b) (hk : persisted.event.conversationId = b.conversationId) :
    ((s.step server options (.publish q session)).brokers q).buffered[j]? =
      some (b.push options.subscriberBufferSize persisted.toPublic).1 := by
  obtain ⟨calls, hcalls⟩ := hbrokers q
  have hstep : (s.step server options (.publish q session)).brokers q = (s.brokers q).publish options
    persisted.toPublic := by
    simp only [State.step, State.publish, hr, if_neg hfresh, if_pos hvisible, brokers_put, if_true]
  have htidy : EventBroker.Tidy (s.brokers q) := hcalls ▸ (EventBroker.correct options calls).tidy
  rw [hstep, (EventBroker.published htidy persisted.toPublic).2 j, hb, Option.map_some]
  exact congrArg some (if_pos hk.symm)

end Published

namespace Setting

variable {S : Setting} {past : List Action} {a : Action} {i : ℕ} {k : Id}

variable (S past) in
structure Grounded : Prop where
  brokers : ∀ q, ∃ calls, (S.state past).brokers q = EventBroker.run S.options calls
  known : ∀ (q j : ℕ) b, ((S.state past).brokers q).buffered[j]? = some b → ∀ e ∈ given b, ∃ session persisted,
    session ∈ (S.state past).published ∧
    result (S.state past).world.history session = some (.ok (.appended persisted)) ∧
    persisted.event.visibility = .public ∧ persisted.event.conversationId = b.conversationId ∧
      e = persisted.toPublic

lemma grounded (S : Setting) (past : List Action) : S.Grounded past := by
  induction past using List.reverseRecOn with
  | nil =>
    refine ⟨fun q => ⟨[], rfl⟩, fun q j b hb => ?_⟩
    change ([] : List BufferedSubscription)[j]? = some b at hb
    cases hb
  | append_singleton past a ih =>
    refine ⟨fun q => ?_, fun q j b hb e he => ?_⟩
    · rw [state_snoc]
      exact brokers_run ih.brokers a q
    · obtain ⟨new, hnew⟩ := @history_snoc S past a
      have hkeeps : ∀ {session persisted}, session ∈ (S.state past).published →
          result (S.state past).world.history session = some (.ok (.appended persisted)) →
          session ∈ (S.state (past ++ [a])).published ∧
          result (S.state (past ++ [a])).world.history session = some (.ok (.appended persisted)) := by
        intro session persisted hpublished hresult
        refine ⟨?_, hnew ▸ result_append hresult⟩
        rw [state_snoc]
        exact published_step a hpublished
      rw [state_snoc] at hb
      rcases passes_step ih.brokers hb with ⟨b₀, hb₀, hpasses⟩ | ⟨_, _, _, _, _, _, _, _, hnil⟩
      · have hold : e ∈ given b₀ → ∃ session persisted, session ∈ (S.state (past ++ [a])).published ∧
            result (S.state (past ++ [a])).world.history session = some (.ok (.appended persisted)) ∧
            persisted.event.visibility = .public ∧ persisted.event.conversationId = b.conversationId ∧
            e = persisted.toPublic := by
          intro he
          obtain ⟨session, persisted, hpublished, hresult, hvisible, hk, heq⟩ := ih.known q j b₀ hb₀ e he
          obtain ⟨hpublished', hresult'⟩ := hkeeps hpublished hresult
          exact ⟨session, persisted, hpublished', hresult', hvisible, hk.trans hpasses.conversationId.symm, heq⟩
        rcases hpasses.given with ⟨hstart, -⟩ | ⟨session, persisted, rfl, hresult, -, hvisible, hk, -, heq⟩
        · exact hold (hstart.subset he)
        · rw [heq] at he
          rcases List.mem_append.mp he with he | he
          · exact hold he
          · refine ⟨session, persisted, ?_, hnew ▸ result_append hresult, hvisible, ?_, List.mem_singleton.mp he⟩
            · rw [state_snoc]
              exact published_publish hresult
            · exact hk.trans hpasses.conversationId.symm
      · rw [hnil] at he
        cases he

lemma committed_of_appended {session : ℕ} {persisted : PersistedEvent}
    (h : result (S.state past).world.history session = some (.ok (.appended persisted))) :
    ∃ x ∈ S.log past persisted.event.conversationId, x.visibility = persisted.event.visibility ∧
      x.sequence = persisted.sequence ∧ toConversationEvent x = normal persisted.toPublic := by
  rw [state_world] at h
  obtain ⟨call, before, after, x, hc, hadded, hsequence, hvisible, hnormal⟩ := committed_of_result h
  refine ⟨x, ?_, hvisible, hsequence, hnormal.symm⟩
  rw [log, state_world]
  exact mem_committedEvents hc (hadded ▸ List.mem_singleton_self _)

lemma known_event {q j : ℕ} {b : BufferedSubscription} (hb : ((S.state past).brokers q).buffered[j]? = some b)
    {e : PublicConversationEvent} (he : e ∈ given b) : isEvent e = true ∧ ∃ x ∈ S.log past b.conversationId,
      x.visibility = .public ∧ x.sequence = e.sequence ∧ toConversationEvent x = normal e := by
  obtain ⟨session, persisted, -, hresult, hvisible, hk, rfl⟩ := (grounded S past).known q j b hb e he
  obtain ⟨x, hx, hx', hsequence, hnormal⟩ := committed_of_appended hresult
  refine ⟨?_, x, hk ▸ hx, hx'.trans hvisible, hsequence, hnormal⟩
  simp [isEvent, PersistedEvent.toPublic]

lemma not_given {q j session : ℕ} {b : BufferedSubscription} {persisted : PersistedEvent}
    (hb : ((S.state past).brokers q).buffered[j]? = some b)
    (h : result (S.state past).world.history session = some (.ok (.appended persisted)))
    (hfresh : session ∉ (S.state past).published) (hk : persisted.event.conversationId = b.conversationId) :
    ∀ e ∈ given b, e.sequence ≠ persisted.sequence := by
  intro e he hsame
  obtain ⟨session', persisted', hpublished, hresult, -, hk', rfl⟩ := (grounded S past).known q j b hb e he
  rw [state_world] at h hresult
  obtain ⟨call, before, after, x, hc, hadded, hsequence, -⟩ := committed_of_result h
  obtain ⟨call', before', after', x', hc', hadded', hsequence', -⟩ := committed_of_result hresult
  have hsession := session_of_sequence (k := b.conversationId) hc hc' (hk ▸ hadded ▸ List.mem_singleton_self _)
    (hk' ▸ hadded' ▸ List.mem_singleton_self _) (hsequence.trans (hsame.symm.trans hsequence'.symm))
  exact hfresh (hsession ▸ hpublished)

end Setting

section Subscriptions

open EventBroker

variable {server : Deployment} {options : EventBrokerOptions} {s : State}

lemma buffered_length (hbrokers : ∀ q, ∃ calls, s.brokers q = EventBroker.run options calls) (a : Action) (q : ℕ) :
    (s.brokers q).buffered.length ≤ ((s.step server options a).brokers q).buffered.length := by
  rcases @broker_step server options s a q with heq | ⟨call, heq, -⟩
  · rw [heq]
  · rw [heq]
    cases call with
    | subscribe k =>
      change _ ≤ ((s.brokers q).buffered ++ [_]).length
      rw [List.length_append]
      exact Nat.le_add_right _ _
    | publish event =>
      obtain ⟨calls, hcalls⟩ := hbrokers q
      have htidy : Tidy (s.brokers q) := hcalls ▸ (correct options calls).tidy
      by_contra hlt
      have hlt := Nat.lt_of_not_le hlt
      have hget := (@published options _ htidy event).2 ((s.brokers q).publish options event).buffered.length
      rw [List.getElem?_eq_none (Nat.le_refl _)] at hget
      have hnone := Option.map_eq_none_iff.mp hget.symm
      rw [List.getElem?_eq_none_iff] at hnone
      change ((s.brokers q).publish options event).buffered.length < _ at hlt
      omega
    | next i =>
      change _ ≤ ((s.brokers q).next i).buffered.length
      rw [EventBroker.next]
      split
      · exact (List.length_set ..).ge
      · exact Nat.le_refl _
    | close i =>
      change _ ≤ ((s.brokers q).close i).buffered.length
      rw [EventBroker.close]
      split
      · rw [EventBroker.after]
        split <;> exact (List.length_set ..).ge
      · exact Nat.le_refl _

lemma responses_length (a : Action) : s.responses.length ≤ (s.step server options a).responses.length := by
  cases a with
  | move m => exact Nat.le_refl _
  | publish process session =>
    rw [State.step, State.publish]
    split
    · split
      · exact Nat.le_refl _
      · split <;> exact Nat.le_refl _
    · exact Nat.le_refl _
  | request process scope k lastEventId stamp =>
    rw [State.step, State.request]
    split
    · change _ ≤ (s.responses ++ [_]).length
      rw [List.length_append]
      exact Nat.le_add_right _ _
    · exact Nat.le_refl _
  | proceed i randomUUID stamp =>
    rw [State.step]
    cases hi : s.responses[i]? with
    | none => exact Nat.le_refl _
    | some r =>
      obtain ⟨r', -, hsame⟩ := @goes_proceed server s i r hi randomUUID stamp
      dsimp only
      rw [hsame]
      exact (List.length_set ..).ge
  | disconnect i =>
    rw [State.step]
    cases s.responses[i]? with
    | none => exact Nat.le_refl _
    | some r =>
      dsimp only
      rw [State.disconnect]
      split
      · exact Nat.le_refl _
      · split <;> exact (List.length_set ..).ge

end Subscriptions

namespace Setting

section Pairs

variable (S : Setting) (past : List Action) (i : ℕ)

structure Pair (r : Response) (b : BufferedSubscription) : Prop where
  response : (S.state past).responses[i]? = some r
  subscription : ((S.state past).brokers r.process).buffered[r.subscription]? = some b
  conversationId : b.conversationId = r.conversationId

variable {S past i} {r : Response} {b : BufferedSubscription} {k : Id} {process : ℕ} {scope : Scope}
  {lastEventId : Option Id} {stamp : SyncStamp}

lemma Pair.step (h : S.Pair past i r b) (a : Action) :
    ∃ r' b', S.Pair (past ++ [a]) i r' b' ∧ Goes (S.state past) r r' ∧
    Passes S.options.subscriberBufferSize (S.state past) a r.process b b' := by
  have hbrokers := (grounded S past).brokers
  obtain ⟨hlt, -⟩ := List.getElem?_eq_some_iff.mp h.response
  have hlength := Nat.lt_of_lt_of_le hlt (@responses_length S.server S.options _ a)
  obtain ⟨r', hi'⟩ : ∃ r', ((S.state past).step S.server S.options a).responses[i]? = some r' :=
    ⟨_, List.getElem?_eq_getElem hlength⟩
  obtain ⟨hblt, -⟩ := List.getElem?_eq_some_iff.mp h.subscription
  have hblength := Nat.lt_of_lt_of_le hblt (@buffered_length S.server S.options _ hbrokers a r.process)
  obtain ⟨b', hb'⟩ :
      ∃ b', (((S.state past).step S.server S.options a).brokers r.process).buffered[r.subscription]? = some b' :=
    ⟨_, List.getElem?_eq_getElem hblength⟩
  rcases goes_step hi' with ⟨r₀, hi₀, hgoes⟩ | ⟨_, _, _, _, _, _, _, hindex, _⟩
  · cases h.response.symm.trans hi₀
    rcases passes_step hbrokers hb' with ⟨b₀, hb₀, hpasses⟩ | ⟨_, _, _, _, _, hindex, _⟩
    · cases h.subscription.symm.trans hb₀
      have hsame := hgoes.same
      refine ⟨r', b', ⟨by rw [state_snoc]; exact hi', ?_, ?_⟩, hgoes, hpasses⟩
      · rw [state_snoc, hsame.process, hsame.subscription]
        exact hb'
      · exact hpasses.conversationId.trans (h.conversationId.trans hsame.conversationId.symm)
    · omega
  · omega

lemma Pair.later (h : S.Pair past i r b) (later : List Action) :
    ∃ r' b', S.Pair (past ++ later) i r' b' ∧ Same r r' := by
  induction later using List.reverseRecOn with
  | nil =>
    rw [List.append_nil]
    exact ⟨r, b, h, .refl r⟩
  | append_singleton later a ih =>
    obtain ⟨r', b', hpair, hsame⟩ := ih
    obtain ⟨r'', b'', hpair', hgoes, -⟩ := hpair.step a
    rw [← List.append_assoc]
    exact ⟨r'', b'', hpair', hsame.trans hgoes.same⟩

lemma subscribed_new (hvalid : (isOpaqueId k && lastEventId.all isOpaqueId) = true) :
    ∃ set, ((S.state (past ++ [.request process scope k lastEventId stamp])).brokers process).buffered[
      ((S.state past).brokers process).buffered.length]? = some ⟨k, set, [], false, false, []⟩ := by
  have hbroker : (S.state (past ++ [.request process scope k lastEventId stamp])).brokers process =
      ((S.state past).brokers process).subscribe k := by
    rw [state_snoc, State.step, State.request, if_pos hvalid]
    change (State.putBroker _ process _).brokers process = _
    rw [brokers_put, if_pos rfl]
  rw [hbroker]
  exact ⟨_, List.getElem?_concat_length ..⟩

lemma paired (hi : (S.state past).responses[i]? = some r) : ∃ b, S.Pair past i r b := by
  induction past using List.reverseRecOn generalizing r with
  | nil => cases hi
  | append_singleton past a ih =>
    have hstep := hi
    rw [state_snoc] at hstep
    rcases goes_step hstep with ⟨r₀, hi₀, -⟩ | ⟨process, scope, k, lastEventId, stamp, rfl, hvalid, -, rfl⟩
    · obtain ⟨b, hpair⟩ := ih hi₀
      obtain ⟨r', b', hpair', -⟩ := hpair.step a
      cases hi.symm.trans hpair'.response
      exact ⟨b', hpair'⟩
    · obtain ⟨set, hset⟩ := @subscribed_new S past k process scope lastEventId stamp hvalid
      exact ⟨_, hi, hset, rfl⟩

end Pairs

end Setting

end ChatCore.EventDelivery
