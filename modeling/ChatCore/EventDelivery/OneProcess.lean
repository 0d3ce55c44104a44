import ChatCore.EventDelivery.Endings

namespace ChatCore.EventDelivery

open Transition Protocol Relational Database Services Services.EventNumbering Services.EventStore
  Services.EventStreams

def appendedNumber (k : Id) (h : List ServerRecord) (session : ℕ) : Option ℕ := match result h session with
  | some (.ok (.appended persisted)) =>
    if persisted.event.conversationId = k then some persisted.sequence else none
  | _ => none

/-- The process appends the events of the conversation one at a time: when one is committed those before it have
been published, and all are published in the process. -/
def Serial (server : Deployment) (process : ℕ) (k : Id) (s : State) : Action → Prop
  | .move m => ∀ e ∈ committedEvents k (s.world.step (body server) m).history,
      e.sequence < (committedEvents k (s.world.step (body server) m).history).length →
        some e.sequence ∈ s.published.map (appendedNumber k s.world.history)
  | .publish other session => appendedNumber k s.world.history session ≠ none → other = process
  | _ => True

instance (server : Deployment) (process : ℕ) (k : Id) (s : State) (a : Action) :
    Decidable (Serial server process k s a) :=
  match a with
  | .move _ => inferInstanceAs (Decidable (∀ e ∈ _, _ → _))
  | .publish .. => inferInstanceAs (Decidable (_ → _))
  | .request .. | .proceed .. | .disconnect _ => inferInstanceAs (Decidable True)

/-- No event of a conversation that is listened to has been pruned. -/
def Stored (keep : ℕ) (s : State) : Prop :=
  ∀ r ∈ s.responses, (committedEvents r.conversationId s.world.history).length ≤ keep

instance (keep : ℕ) (s : State) : Decidable (Stored keep s) := inferInstanceAs (Decidable (∀ r ∈ _, _))

section Numbers

variable {k : Id} {h new : List ServerRecord} {session n : ℕ} {persisted : PersistedEvent}

lemma appendedNumber_of_result (hr : result h session = some (.ok (.appended persisted)))
    (hk : persisted.event.conversationId = k) : appendedNumber k h session = some persisted.sequence := by
  rw [appendedNumber, hr]
  exact if_pos hk

lemma result_of_appendedNumber (hn : appendedNumber k h session = some n) :
    ∃ persisted, result h session = some (.ok (.appended persisted)) ∧ persisted.event.conversationId = k ∧
      persisted.sequence = n := by
  rw [appendedNumber] at hn
  split at hn
  · rename_i persisted hr
    split at hn
    · exact ⟨persisted, hr, ‹_›, Option.some.inj hn⟩
    · cases hn
  · cases hn

lemma appendedNumber_append (hn : appendedNumber k h session = some n) :
    appendedNumber k (h ++ new) session = some n := by
  obtain ⟨persisted, hr, hk, rfl⟩ := result_of_appendedNumber hn
  exact appendedNumber_of_result (result_append hr) hk

end Numbers

namespace Setting

variable (S : Setting) (past : List Action)

structure Served (process : ℕ) (k : Id) : Prop where
  known : ∀ session ∈ (S.state past).published, ∃ persisted,
    result (S.state past).world.history session = some (.ok (.appended persisted))
  published : ∀ e ∈ S.log past k, e.sequence < (S.log past k).length →
    some e.sequence ∈ (S.state past).published.map (appendedNumber k (S.state past).world.history)
  heard : ∀ session ∈ (S.state past).published, ∀ persisted,
    result (S.state past).world.history session = some (.ok (.appended persisted)) →
    persisted.event.visibility = .public → persisted.event.conversationId = k →
    ∀ i r b, S.Pair past i r b → r.process = process → r.conversationId = k → b.terminal = false →
      ∀ after earlier, S.RowsRead past i after earlier → (S.log earlier k).length < persisted.sequence →
        persisted.sequence ∈ (given b).map (·.sequence)

variable {S past} {process i : ℕ} {k : Id} {a : Action} {r : Response} {b : BufferedSubscription} {after : ℕ}
  {earlier actions : List Action}

lemma AtRows.lt {session : ℕ} (h : S.AtRows past i session r after) : i < (S.state past).responses.length :=
  (List.getElem?_eq_some_iff.mp h.1).1

lemma responses_le (later : List Action) :
    (S.state past).responses.length ≤ (S.state (past ++ later)).responses.length := by
  induction later using List.reverseRecOn with
  | nil => rw [List.append_nil]
  | append_singleton later a ih =>
    rw [← List.append_assoc, state_snoc]
    exact ih.trans (responses_length a)

lemma RowsRead.before (h : S.RowsRead (past ++ [a]) i after earlier) : i < (S.state past).responses.length := by
  rcases h.of_snoc with ⟨session, later, r, rfl, hrows⟩ | ⟨rfl, session, r, -, hrows⟩
  · exact Nat.lt_of_lt_of_le hrows.lt (responses_le _)
  · exact hrows.lt

lemma history_stays (h : ∀ m, a ≠ .move m) :
    (S.state (past ++ [a])).world.history = (S.state past).world.history := by
  rw [state_snoc, world_step]
  cases hm : moved (S.state past) a with
  | none => rfl
  | some m =>
    cases m with
    | start call => rfl
    | advance session => exact absurd (advance_of_moved hm) (h _)
    | crash session =>
      cases a with
      | move m => exact absurd rfl (h m)
      | request process scope k lastEventId stamp =>
        simp only [moved] at hm
        split at hm <;> cases hm
      | proceed j randomUUID stamp =>
        simp only [moved] at hm
        cases hj : (S.state past).responses[j]? with
        | none =>
          rw [hj] at hm
          cases hm
        | some r =>
          rw [hj, Option.bind_some] at hm
          split at hm <;> cases hm
      | publish | disconnect => cases hm

lemma Served.step (h : S.Served past process k) (hserial : Serial S.server process k (S.state past) a) :
    S.Served (past ++ [a]) process k := by
  obtain ⟨new, hnew⟩ := @history_snoc S past a
  have hresult : ∀ {session persisted}, session ∈ (S.state past).published →
      result (S.state (past ++ [a])).world.history session = some (.ok (.appended persisted)) →
      result (S.state past).world.history session = some (.ok (.appended persisted)) := by
    intro session persisted hpublished hr
    obtain ⟨persisted', hr'⟩ := h.known session hpublished
    rw [hnew, result_append hr'] at hr
    rw [hr', hr]
  have hnumber : ∀ {n : ℕ},
      some n ∈ (S.state past).published.map (appendedNumber k (S.state past).world.history) →
      some n ∈ (S.state (past ++ [a])).published.map (appendedNumber k (S.state (past ++ [a])).world.history) := by
    intro n hn
    obtain ⟨session, hpublished, hn⟩ := List.mem_map.mp hn
    refine List.mem_map.mpr ⟨session, ?_, hnew ▸ appendedNumber_append hn⟩
    rw [state_snoc]
    exact published_step a hpublished
  refine ⟨fun session hpublished => ?_, ?_, ?_⟩
  · rw [state_snoc] at hpublished
    rcases published_of_step hpublished with hpublished | ⟨_, persisted, -, -, hr⟩
    · obtain ⟨persisted, hr⟩ := h.known session hpublished
      exact ⟨persisted, hnew ▸ result_append hr⟩
    · exact ⟨persisted, hnew ▸ result_append hr⟩
  · by_cases hmove : ∃ m, a = .move m
    · obtain ⟨m, rfl⟩ := hmove
      have hlog : S.log (past ++ [.move m]) k = committedEvents k
        ((S.state past).world.step (body S.server) m).history := by
        rw [log, state_snoc]
        rfl
      rw [hlog]
      exact fun e he hlt => hnumber (hserial e he hlt)
    · have hlog : S.log (past ++ [a]) k = S.log past k := by
        rw [log, history_stays fun m hm => hmove ⟨m, hm⟩, log]
      rw [hlog]
      exact fun e he hlt => hnumber (h.published e he hlt)
  · intro session hpublished persisted hr hvisible hk i r' b' hpair' hprocess hk' hlive' after earlier hread hlarge
    obtain ⟨r, hi⟩ : ∃ r, (S.state past).responses[i]? = some r := ⟨_, List.getElem?_eq_getElem hread.before⟩
    obtain ⟨b, hpair⟩ := paired hi
    obtain ⟨r'', b'', hpair'', hgoes, hpasses⟩ := hpair.step a
    cases hpair'.response.symm.trans hpair''.response
    cases hpair'.subscription.symm.trans hpair''.subscription
    have hsame := hgoes.same
    have hlive : b.terminal = false := by
      by_contra hdead
      exact absurd ((hpasses.ends (by simpa using hdead)).symm.trans hlive') (by decide)
    have hprocess' : r.process = process := hsame.process.symm.trans hprocess
    have hk'' : r.conversationId = k := hsame.conversationId.symm.trans hk'
    rw [state_snoc] at hpublished
    rcases published_of_step hpublished with hold | ⟨other, persisted', rfl, hfresh, hr'⟩
    · have hr₀ := hresult hold hr
      rcases hread.of_snoc with hread' | ⟨rfl, -⟩
      · have hheard :=
          h.heard session hold persisted hr₀ hvisible hk i r b hpair hprocess' hk'' hlive after earlier hread'
          hlarge
        rcases hpasses.given with ⟨-, heq⟩ | ⟨_, _, _, _, _, _, _, _, heq⟩
        · rw [heq hlive']
          exact hheard
        · rw [heq, List.map_append]
          exact List.mem_append_left _ hheard
      · obtain ⟨x, hx, -, hsequence, -⟩ := committed_of_appended hr₀
        rw [hk] at hx
        have := (sequence_le hx).2
        omega
    · cases (hnew ▸ result_append hr' : result (S.state (past ++ [.publish other session])).world.history
        session = _).symm.trans hr
      obtain rfl : other = process :=
        hserial (by rw [appendedNumber_of_result hr' hk]; exact Option.some_ne_none _)
      subst hprocess'
      have hbrokers := (grounded S past).brokers
      have hpushed : (((S.state past).step S.server S.options (.publish r.process session)).brokers
        r.process).buffered[
          r.subscription]? = some (b.push S.options.subscriberBufferSize persisted.toPublic).1 :=
        buffered_publish hbrokers hr' hfresh hvisible hpair.subscription
          (hk.trans (hk''.symm.trans hpair.conversationId.symm))
      have hb' := hpair'.subscription
      rw [hsame.process, hsame.subscription, state_snoc] at hb'
      cases hpushed.symm.trans hb'
      obtain ⟨calls, hcalls⟩ := hbrokers r.process
      obtain ⟨-, hgiven⟩ :=
        given_push (idle_of_correct (EventBroker.correct S.options calls) (hcalls ▸ hpair.subscription))
        S.options.subscriberBufferSize persisted.toPublic
      rcases hgiven with ⟨-, hdead, -⟩ | ⟨-, -, heq⟩
      · exact absurd (hdead.symm.trans hlive') (by decide)
      · rw [heq, List.map_append]
        exact List.mem_append_right _ (List.mem_singleton_self _)

lemma served (h : Throughout (fun past a => Serial S.server process k (S.state past) a) past) :
    S.Served past process k := by
  induction past using List.reverseRecOn with
  | nil =>
    refine ⟨fun _ hs => absurd hs List.not_mem_nil, fun _ he => absurd he List.not_mem_nil,
      fun _ hs => absurd hs List.not_mem_nil⟩
  | append_singleton past a ih =>
    obtain ⟨h, ha⟩ := throughout_snoc.mp h
    exact (ih h).step ha

lemma eq_of_sequence {x y : ConversationEvent} (hx : x ∈ S.log past k) (hy : y ∈ S.log past k)
    (h : x.sequence = y.sequence) : x = y := by
  have hnodup : ((S.log past k).map ConversationEvent.sequence).Nodup := by
    rw [log_numbers]
    exact List.nodup_range'
  exact List.inj_on_of_nodup_map hnodup hx hy h

lemma Served.follows (h : S.Served past process k) (ha : Serial S.server process k (S.state past) a)
    (hk : ∀ r, (S.state past).responses[i]? = some r → r.conversationId = k) : S.Follows past i a := by
  cases a with
  | publish other session =>
    rintro r b persisted after earlier hi rfl hopen hgoing hb hroom hr hfresh hvisible hpk hread e he hlt
    have hrk := hk r hi
    have hpk' := hpk.trans hrk
    obtain rfl : r.process = process := ha (by rw [appendedNumber_of_result hr hpk']; exact Option.some_ne_none _)
    have hlive : b.terminal = false := by
      rw [roomy, Bool.and_eq_true] at hroom
      simpa using hroom.1
    obtain ⟨b', hpair⟩ := paired hi
    cases hb.symm.trans hpair.subscription
    obtain ⟨x, hx, hxv, hlarge, rfl⟩ := mem_publicAbove.mp he
    rw [hrk] at hx hlarge
    obtain ⟨y, hy, -, hys, -⟩ := committed_of_appended hr
    rw [hpk'] at hy
    have hylast := (sequence_le hy).2
    change x.sequence < persisted.sequence at hlt
    obtain ⟨session', hpublished, hnumber⟩ := List.mem_map.mp (h.published x hx (by omega))
    obtain ⟨persisted', hr', hk', hsequence⟩ := result_of_appendedNumber hnumber
    obtain ⟨z, hz, hzv, hzs, -⟩ := committed_of_appended hr'
    rw [hk'] at hz
    obtain rfl := eq_of_sequence hz hx (hzs.trans hsequence)
    have hheard := h.heard session' hpublished persisted' hr' (hzv.symm.trans hxv) hk' i r b hpair rfl hrk
      hlive after earlier
      hread (by omega)
    rw [hsequence] at hheard
    exact hheard
  | move | request | proceed | disconnect => trivial

lemma follows_of_serial (hserial : Throughout (fun past a => Serial S.server process k (S.state past) a) actions)
    (hi : (S.state actions).responses[i]? = some r) (hk : r.conversationId = k) :
    Throughout (fun past a => S.Follows past i a) actions := by
  refine throughout_mono hserial fun past a future hactions hpast ha => ?_
  subst hactions
  refine (served hpast).follows ha fun r₀ hi₀ => ?_
  obtain ⟨b₀, hpair₀⟩ := paired hi₀
  obtain ⟨r', b', hpair', hsame⟩ := hpair₀.later (a :: future)
  cases hi.symm.trans hpair'.response
  exact hsame.conversationId.symm.trans hk

lemma unpruned_of_stored
    (h : Throughout (fun past _ => Stored S.server.retentionMaxEvents (S.state past)) actions) :
    Throughout (fun past a => S.Unpruned past i a) actions := by
  refine throughout_mono h fun past a _ _ _ hstored => ?_
  rcases a with (call | session | session) | _ | _ | _ | _
  case move.advance =>
    intro r after hat _ _ e he _ _
    have hlog := @eventLog S past r.conversationId
    have hlength : (S.log past r.conversationId).length ≤ S.server.retentionMaxEvents :=
      hstored r (List.mem_of_getElem? hat.1)
    have hmem : e ∈ eventsOf r.conversationId (S.state past).world.db.conversationEvents := by
      rw [hlog.stored, retained, Nat.sub_eq_zero_of_le hlength]
      exact he
    exact (mem_eventsOf.mp hmem).1
  all_goals trivial

end Setting

/-- While one process appends the events of a conversation one at a time, a response of it delivers them; and
when its subscription has ended it finishes with what it was due then. -/
theorem one_process_delivery (S : Setting) (process : ℕ) (k : Id) (i : ℕ) (actions : List Action)
    (hserial : Throughout (fun past a => Serial S.server process k (S.state past) a) actions)
    (hunpruned : Throughout (fun past a => S.Unpruned past i a) actions) (r : Response)
    (hi : (S.state actions).responses[i]? = some r) (hk : r.conversationId = k) :
    S.Delivered actions i r ∧ ∀ past later r₀ b₀, actions = past ++ later → S.Pair past i r₀ b₀ →
      b₀.terminal = true →
      (∀ session, r₀.stage ≠ .replaying session) → Finishes r₀ b₀ r := by
  refine ⟨S.delivered i actions (Setting.follows_of_serial hserial hi hk) hunpruned r hi, ?_⟩
  intro past later r₀ b₀ hactions hpair hterminal hanswered
  subst hactions
  exact Setting.finishes hpair hterminal hanswered hi

section Scenario

lemma retention_positive : 1 ≤ 10 := by decide

def mindful : Deployment :=
  { Replays.forgetful with retentionMaxEvents := 10, retentionPositive := retention_positive }

def small : Setting := ⟨mindful, pairs, Replays.visitors, ∅, ∅⟩

def appends (eventId text : Id) (session process : ℕ) : List Action :=
  EventStreams.moves (.start (Replays.delta eventId text) :: List.replicate 5 (.advance session)) ++
    [.publish process session]

def begun : List Action :=
  appended ++ [.publish 0 1, ask none] ++ EventStreams.moves (List.replicate 3 (.advance 2)) ++
  proceeds 0 1

def followed : List Action := begun ++ appends "second" "two" 3 0 ++ proceeds 0 4 ++ appends "third" "three" 4 0 ++
  appends "fourth" "four" 5 0 ++ appends "fifth" "five" 6 0 ++ proceeds 0 2 ++
  EventStreams.moves (List.replicate 4 (.advance 7)) ++ proceeds 0 1

lemma serial_followed :
    Throughout (fun past a => Serial small.server 0 "conversation" (small.state past) a) followed := by
  have hserial : Along (State.step small.server small.options) (Serial small.server 0 "conversation")
      (initial small.principals small.browserSessions small.bootstraps) followed := by decide +kernel
  exact throughout_of_along hserial

lemma unpruned_followed (i : ℕ) : Throughout (fun past a => small.Unpruned past i a) followed := by
  have hstored : Along (State.step small.server small.options)
    (fun s _ => Stored small.server.retentionMaxEvents s)
      (initial small.principals small.browserSessions small.bootstraps) followed := by decide +kernel
  exact Setting.unpruned_of_stored (throughout_of_along hstored)

theorem followed_delivery : ∃ r, (small.state followed).responses[0]? = some r ∧
    r.written.map (fun e => (e.sequence, isEvent e)) = [(1, true), (2, true), (5, false)] ∧
    small.Delivered followed 0 r ∧ ∀ past later r₀ b₀, followed = past ++ later → small.Pair past 0 r₀ b₀ →
      b₀.terminal = true → (∀ session, r₀.stage ≠ .replaying session) → Finishes r₀ b₀ r := by
  have hall : ∀ r ∈ (small.state followed).responses, r.conversationId = "conversation" ∧
      r.written.map (fun e => (e.sequence, isEvent e)) = [(1, true), (2, true), (5, false)] := by decide +kernel
  obtain ⟨r, hi⟩ : ∃ r, (small.state followed).responses[0]? = some r :=
    Option.isSome_iff_exists.mp (by decide +kernel)
  obtain ⟨hk, hwritten⟩ := hall r (List.mem_of_getElem? hi)
  exact ⟨r, hi, hwritten, one_process_delivery small 0 "conversation" 0 followed serial_followed
    (unpruned_followed 0) r hi hk⟩

def filled : List Action := begun ++ appends "second" "two" 3 0 ++ appends "third" "three" 4 0 ++
  appends "fourth" "four" 5 0

theorem row_after_overflow :
    Throughout (fun past a => Serial small.server 0 "conversation" (small.state past) a) (filled ++ proceeds 0 1) ∧
    Throughout (fun past a => small.Unpruned past 0 a) (filled ++ proceeds 0 1) ∧
    ∃ r₀ b₀ r, small.Pair filled 0 r₀ b₀ ∧ r₀.conversationId = "conversation" ∧ b₀.queue = [.overflow] ∧
      (small.state (filled ++ proceeds 0 1)).responses[0]? = some r ∧
      ¬ ∃ frames, r.written = r₀.written ++ frames ∧
        (frames = [] ∨ ∃ event, frames = [event] ∧ event.body = .syncRequired) := by
  have hserial : Along (State.step small.server small.options) (Serial small.server 0 "conversation")
      (initial small.principals small.browserSessions small.bootstraps) (filled ++ proceeds 0 1) :=
        by decide +kernel
  have hstored : Along (State.step small.server small.options)
    (fun s _ => Stored small.server.retentionMaxEvents s)
      (initial small.principals small.browserSessions small.bootstraps) (filled ++ proceeds 0 1) :=
        by decide +kernel
  have hbefore : ∀ r ∈ (small.state filled).responses, r.conversationId = "conversation" ∧ r.process = 0 ∧
      r.written = [] := by decide +kernel
  have hafter : ∀ r ∈ (small.state (filled ++ proceeds 0 1)).responses, r.written.map isEvent = [true] :=
    by decide +kernel
  have hqueue : ∀ b ∈ ((small.state filled).brokers 0).buffered, b.queue = [.overflow] := by decide +kernel
  obtain ⟨r₀, hi₀⟩ : ∃ r, (small.state filled).responses[0]? = some r :=
    Option.isSome_iff_exists.mp (by decide +kernel)
  obtain ⟨r, hi⟩ : ∃ r, (small.state (filled ++ proceeds 0 1)).responses[0]? = some r :=
    Option.isSome_iff_exists.mp (by decide +kernel)
  obtain ⟨b₀, hpair⟩ := Setting.paired hi₀
  obtain ⟨hk, hprocess, hnone⟩ := hbefore r₀ (List.mem_of_getElem? hi₀)
  have hb₀ := hpair.subscription
  rw [hprocess] at hb₀
  refine ⟨throughout_of_along hserial, Setting.unpruned_of_stored (throughout_of_along hstored), r₀,
    b₀, r, hpair, hk,
    hqueue b₀ (List.mem_of_getElem? hb₀), hi, ?_⟩
  rintro ⟨frames, hwritten, hframes⟩
  have hone := hafter r (List.mem_of_getElem? hi)
  rw [hwritten, hnone, List.nil_append] at hone
  rcases hframes with rfl | ⟨event, rfl, hbody⟩
  · cases hone
  · simp [isEvent, hbody] at hone

end Scenario

end ChatCore.EventDelivery
