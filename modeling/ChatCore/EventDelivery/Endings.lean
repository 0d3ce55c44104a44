import ChatCore.EventDelivery.Flows

namespace ChatCore.EventDelivery

open Transition Protocol Relational Database Services Services.EventNumbering Services.EventStore
  Services.EventStreams

section Endings

def due (r : Response) (b : BufferedSubscription) : List PublicConversationEvent :=
  r.stage.coming ++ (b.yielded.drop r.taken).filterMap ofNotification

def Finishes (r₀ : Response) (b₀ : BufferedSubscription) (r : Response) : Prop :=
  ∃ events frames, r.written = r₀.written ++ events ++ frames ∧ events.Sublist (due r₀ b₀) ∧
    (frames = [] ∨ r.stage = .ended ∧ ∃ event, frames = [event] ∧ event.body = .syncRequired)

structure Winds (r₀ : Response) (b₀ : BufferedSubscription) (r : Response) (b : BufferedSubscription) : Prop where
  terminal : b.terminal = true
  answered : ∀ session, r.stage ≠ .replaying session
  written : (∃ events, r.written = r₀.written ++ events ∧ (events ++ due r b).Sublist (due r₀ b₀)) ∨
    r.stage = .ended ∧ Finishes r₀ b₀ r

variable {server : Deployment} {options : EventBrokerOptions} {s : State} {a : Action} {r₀ r r' : Response}
  {b₀ b b' : BufferedSubscription}

lemma Winds.finishes (h : Winds r₀ b₀ r b) : Finishes r₀ b₀ r := by
  rcases h.written with ⟨events, hwritten, hdue⟩ | ⟨-, h⟩
  · exact ⟨events, [], by rw [hwritten, List.append_nil], (List.sublist_append_left ..).trans hdue, Or.inl rfl⟩
  · exact h

lemma quiet_of_correct {calls : List EventBroker.Call} {j : ℕ} (h : EventBroker.Correct options calls)
    (hb : (EventBroker.run options calls).buffered[j]? = some b) (ht : b.terminal = true) :
    b.queue.filterMap ofNotification = [] := by
  cases h.stands j b hb with
  | running live =>
    rw [ht] at live
    cases live
  | overflowed _ _ front _ told =>
    rcases told with ⟨-, hqueue⟩ | ⟨hqueue, -⟩ <;> rw [hqueue] <;> rfl
  | shut _ _ empty =>
    rw [empty]
    rfl

lemma passes_silent {bufferSize process : ℕ} (h : Passes bufferSize s a process b b') (ht : b.terminal = true)
    (hquiet : b.queue.filterMap ofNotification = []) (n : ℕ) :
    (b'.yielded.drop n).filterMap ofNotification = (b.yielded.drop n).filterMap ofNotification := by
  obtain ⟨more, hmore⟩ := h.yielded
  have hgiven : given b' <+: given b := by
    rcases h.given with ⟨hstart, -⟩ | ⟨_, _, _, _, _, _, _, hroom, _⟩
    · exact hstart
    · simp [roomy, ht] at hroom
  have hnone : more.filterMap ofNotification = [] := by
    have hlength := hgiven.length_le
    rw [given, given, ← hmore, List.filterMap_append, List.filterMap_append, List.filterMap_append, hquiet]
      at hlength
    simp only [List.length_append, List.length_nil] at hlength
    exact List.length_eq_zero_iff.mp (by omega)
  rw [← hmore, List.drop_append, List.filterMap_append]
  have hrest : (more.drop (n - b.yielded.length)).filterMap ofNotification = [] :=
    List.eq_nil_of_sublist_nil (hnone ▸ (List.drop_sublist ..).filterMap _)
  rw [hrest, List.append_nil]

lemma due_next {n : EventBrokerNotification} (hn : b.yielded[r.taken]? = some n) :
    (b.yielded.drop r.taken).filterMap ofNotification =
      (ofNotification n).toList ++ (b.yielded.drop (r.taken + 1)).filterMap ofNotification := by
  obtain ⟨hlt, hget⟩ := List.getElem?_eq_some_iff.mp hn
  rw [List.drop_eq_getElem_cons hlt, hget, List.filterMap_cons]
  cases ofNotification n <;> rfl

lemma Winds.step {bufferSize : ℕ} (h : Winds r₀ b₀ r b)
    (hb : (s.brokers r.process).buffered[r.subscription]? = some b)
    (hgoes : Goes s r r') (hpasses : Passes bufferSize s a r.process b b')
    (hquiet : b.queue.filterMap ofNotification = [])
    (htold : ∀ session event, result s.world.history session = some (.ok (.replay (.syncRequired event))) →
      event.body = .syncRequired) : Winds r₀ b₀ r' b' := by
  have hsilent := passes_silent hpasses h.terminal hquiet
  have hnotified : ∀ {n}, s.notification r = some n → b.yielded[r.taken]? = some n := by
    intro n hn
    rw [State.notification, hb] at hn
    exact hn
  -- a response that has written no more than it had
  have hkeeps : ∀ {r'' : Response}, (∀ session, r''.stage ≠ .replaying session) → r''.written = r.written →
      (due r'' b').Sublist (due r b) → (r.stage = .ended → r''.stage = .ended) → Winds r₀ b₀ r'' b' := by
    intro r'' hstage hsame hdue hended
    refine ⟨hpasses.ends h.terminal, hstage, ?_⟩
    rcases h.written with ⟨events, hwritten, hpart⟩ | ⟨hend, events, frames, hwritten, hpart, hframes⟩
    · exact Or.inl ⟨events, hsame.trans hwritten, (hdue.append_left events).trans hpart⟩
    · refine Or.inr ⟨hended hend, events, frames, hsame.trans hwritten, hpart, ?_⟩
      exact hframes.imp id fun hframes => ⟨hended hend, hframes.2⟩
  -- a response that has written the next event that it was due
  have hwrites : ∀ {event : PublicConversationEvent} {r'' : Response}, r.stage ≠ .ended →
      (∀ session, r''.stage ≠ .replaying session) → r''.written = (r.write event).written →
      due r b = event :: due r'' b' → Winds r₀ b₀ r'' b' := by
    intro event r'' hgoing hstage hsame hdue
    rw [Response.write] at hsame
    split at hsame
    · exact hkeeps hstage hsame (hdue ▸ List.sublist_cons_self ..) fun hend => absurd hend hgoing
    · obtain ⟨events, hwritten, hpart⟩ := h.written.resolve_right fun hend => hgoing hend.1
      refine ⟨hpasses.ends h.terminal, hstage, Or.inl ⟨events ++ [event], ?_, ?_⟩⟩
      · rw [hsame, hwritten, List.append_assoc]
      · rw [List.append_assoc, List.singleton_append, ← hdue]
        exact hpart
  have hdue : due r b' = due r b := by rw [due, due, hsilent]
  cases hgoes with
  | stays => exact hkeeps h.answered rfl (hdue ▸ List.Sublist.refl _) id
  | disconnected => exact hkeeps h.answered rfl (hdue ▸ List.Sublist.refl _) id
  | read session _ hstage => exact absurd hstage (h.answered session)
  | told event session hstage answered =>
    have hgoing : r.stage ≠ .ended := fun hend => by
      rw [hend] at hstage
      cases hstage
    obtain ⟨events, hwritten, hpart⟩ := h.written.resolve_right fun hend => hgoing hend.1
    have hevents : events.Sublist (due r₀ b₀) := (List.sublist_append_left ..).trans hpart
    refine ⟨hpasses.ends h.terminal, fun _ hs => (by cases hs), Or.inr ⟨rfl, ?_⟩⟩
    change ∃ events frames, (r.write event).written = _ ∧ _
    rw [Response.write]
    split
    · exact ⟨events, [], by rw [hwritten, List.append_nil], hevents, Or.inl rfl⟩
    · refine ⟨events, [event], ?_, hevents, Or.inr ⟨rfl, event, rfl, htold session event answered⟩⟩
      rw [hwritten]
  | fails destroyed kept =>
    refine hkeeps (fun _ hs => by cases hs) rfl ?_ fun _ => rfl
    rw [← hdue]
    exact List.sublist_append_right ..
  | sends event events hstage =>
    refine hwrites (fun hend => by rw [hstage] at hend; cases hend) (fun _ hs => by cases hs) rfl ?_
    have htaken : (r.write event).taken = r.taken := by
      rw [Response.write]
      split <;> rfl
    rw [← hdue, due, due, hstage]
    change event :: events ++ _ = event ::
      (events ++ (b'.yielded.drop (r.write event).taken).filterMap ofNotification)
    rw [htaken]
    rfl
  | sent hstage =>
    refine hkeeps (fun _ hs => by cases hs) rfl ?_ fun hend => by rw [hstage] at hend; cases hend
    rw [← hdue, due, due, hstage]
    exact List.Sublist.refl _
  | awaits hstage =>
    refine hkeeps (fun _ hs => by cases hs) rfl ?_ fun hend => by rw [hstage] at hend; cases hend
    rw [← hdue, due, due, hstage]
    exact List.Sublist.refl _
  | overflows session hstage notified =>
    refine hkeeps (fun _ hs => by cases hs) rfl ?_ fun hend => by rw [hstage] at hend; cases hend
    rw [due, due, hstage, due_next (hnotified notified), hsilent]
    exact List.Sublist.refl _
  | skips event hstage notified =>
    refine hkeeps (fun _ hs => by cases hs) rfl ?_ fun hend => by rw [hstage] at hend; cases hend
    rw [due, due, hstage, due_next (hnotified notified), hsilent]
    exact List.sublist_cons_self ..
  | receives event hstage notified =>
    refine hwrites (fun hend => by rw [hstage] at hend; cases hend) (fun _ hs => by cases hs) rfl ?_
    have htaken : (r.write event).taken = r.taken := by
      rw [Response.write]
      split <;> rfl
    rw [due, due, hstage, due_next (hnotified notified), hsilent]
    rfl

end Endings

namespace Setting

variable {S : Setting} {past : List Action} {i : ℕ} {r₀ r : Response} {b₀ : BufferedSubscription}

lemma quiet (h : S.Pair past i r b₀) (ht : b₀.terminal = true) : b₀.queue.filterMap ofNotification = [] := by
  obtain ⟨calls, hcalls⟩ := (grounded S past).brokers r.process
  exact quiet_of_correct (EventBroker.correct S.options calls) (hcalls ▸ h.subscription) ht

lemma winds (h : S.Pair past i r₀ b₀) (hterminal : b₀.terminal = true)
    (hanswered : ∀ session, r₀.stage ≠ .replaying session)
    (later : List Action) : ∃ r b, S.Pair (past ++ later) i r b ∧ Winds r₀ b₀ r b := by
  induction later using List.reverseRecOn with
  | nil =>
    rw [List.append_nil]
    refine ⟨r₀, b₀, h, hterminal, hanswered, Or.inl ⟨[], (List.append_nil _).symm, ?_⟩⟩
    exact List.Sublist.refl _
  | append_singleton later a ih =>
    obtain ⟨r, b, hpair, hwinds⟩ := ih
    obtain ⟨r', b', hpair', hgoes, hpasses⟩ := hpair.step a
    rw [← List.append_assoc]
    exact ⟨r', b', hpair', hwinds.step hpair.subscription hgoes hpasses (quiet hpair hwinds.terminal)
      fun _ _ => body_of_told⟩

lemma finishes {later : List Action} (h : S.Pair past i r₀ b₀) (hterminal : b₀.terminal = true)
    (hanswered : ∀ session, r₀.stage ≠ .replaying session)
    (hi : (S.state (past ++ later)).responses[i]? = some r) :
    Finishes r₀ b₀ r := by
  obtain ⟨r', b, hpair, hwinds⟩ := winds h hterminal hanswered later
  cases hi.symm.trans hpair.response
  exact hwinds.finishes

end Setting

end ChatCore.EventDelivery
