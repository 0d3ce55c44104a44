import ChatCore.Relational.Ghosts
import ChatCore.Services.Sessions
import ChatCore.Services.Sweeps

/-! How far a retention sweep has got: the conversations it has picked, those it has emptied of their messages,
and the principals that it has found without a conversation. -/

namespace ChatCore.Retention

open Protocol Relational Database Services RetentionService

structure Progress where
  picked : List Conversation
  emptied : List Conversation
  condemned : List Principal

namespace Progress

abbrev Sweep := Marked Progress Tables LockName ServerError

def start : Progress := ⟨[], [], []⟩

def deleteMessages (c : Conversation) : Sweep Unit := do
  let rows ← Marked.noting (fun _ g => { g with emptied := c :: g.emptied })
    (messages.deleteFrom fun m => sameConversation c m.tenantId m.siteId m.conversationId)
  Marked.plainly (deleteAgentRuns fun r => rows.any fun m => decide (m.messageId = r.triggerMessageId))

def deleteConversation (c : Conversation) : Sweep Unit := do
  Marked.plainly do
    let _ ← structuredInputRequests.deleteFrom (fun i => sameConversation c i.tenantId i.siteId i.conversationId)
    let _ ← handoffs.deleteFrom (fun h => sameConversation c h.tenantId h.siteId h.conversationId)
    deleteAgentRuns (fun r => sameConversation c r.tenantId r.siteId r.conversationId)
    let _ ← conversationEvents.deleteFrom (fun e => sameConversation c e.tenantId e.siteId e.conversationId)
  deleteMessages c
  Marked.plainly do
    deleteConversationParticipants (fun p => sameConversation c p.tenantId p.siteId p.conversationId)
    deleteConversations (fun d => sameConversation c d.tenantId d.siteId d.conversationId)

def owns (p : Principal) (tenantId siteId principalId : Id) : Bool :=
  decide (tenantId = p.tenantId) && decide (siteId = p.siteId) && decide (principalId = p.principalId)

def deletePrincipal (p : Principal) : Sweep ℕ := do
  match ← Marked.noting (fun found g => if found.isNone then { g with condemned := p :: g.condemned } else g)
      (conversations.selectFirst fun c => owns p c.tenantId c.siteId c.principalId) with
  | some _ => return 0
  | none => Marked.plainly (deletePrincipals fun q => owns p q.tenantId q.siteId q.principalId)

def runOnce (policy : RetentionPolicy) (orders : Orders) (now : Timestamp) : Sweep RetentionResult := do
  let redacted ← Marked.plainly (structuredInputRequests.updateTable
    (fun r => r.value.isSome && decide (r.updatedAt < contactCutoff policy now)) redact redact_requestId)
  let expired ← Marked.noting (fun expired g => { g with picked := expired }) (Program.select fun db =>
    (orders.conversations.arrange (expiredConversations (anonymousCutoff policy now) db)).take 100)
  expired.forM deleteConversation
  let candidates ← Marked.plainly do
    let _ ← commandIdempotency.deleteFrom (fun r => decide (r.createdAt < anonymousCutoff policy now))
    let _ ← sessionBootstrapIdempotency.deleteFrom (fun r => decide (r.createdAt < anonymousCutoff policy now))
    let _ ← browserSessions.deleteFrom (fun s => decide (s.expiresAt < now))
    Program.select fun db => (orders.principals.arrange
      (principals.matching (fun p => decide (p.createdAt < anonymousCutoff policy now)) db)).take 100
  let principalsDeleted ← candidates.foldlM (fun n p => return n + (← deletePrincipal p)) 0
  Marked.plainly Program.commitNow
  return ⟨expired.length, principalsDeleted, redacted.length⟩

lemma erase_deleteConversation (c : Conversation) :
    (deleteConversation c).erase = RetentionService.deleteConversation c := by
  simp only [deleteConversation, deleteMessages, Marked.erase_bind, Marked.erase_plainly, Marked.erase_noting,
    RetentionService.deleteConversation, RetentionService.deleteMessages, bind_assoc, pure_bind]

lemma erase_deletePrincipal (p : Principal) : (deletePrincipal p).erase = RetentionService.deletePrincipal p := by
  rw [deletePrincipal, Marked.erase_bind, Marked.erase_noting, RetentionService.deletePrincipal]
  refine congrArg _ (funext fun found => ?_)
  cases found with
  | some c => rfl
  | none => exact Marked.erase_plainly _

lemma erase_runOnce (policy : RetentionPolicy) (orders : Orders) (now : Timestamp) :
    (runOnce policy orders now).erase = RetentionService.runOnce policy orders now := by
  simp only [runOnce, Marked.erase_bind, Marked.erase_plainly, Marked.erase_noting, Marked.erase_forM,
    Marked.erase_foldlM, erase_deleteConversation, erase_deletePrincipal, Marked.erase_pure,
    RetentionService.runOnce, Program.transaction, bind_assoc, pure_bind]

end Progress

def sameHome (c : Conversation) (d : Conversation) : Bool :=
  sameConversation c d.tenantId d.siteId d.conversationId

structure Admits (policy : RetentionPolicy) (now : Timestamp)
    (O : Outline Progress Tables ServerError) : Prop where
  lawful : O.Lawful
  commits : ∀ g pending db, O.inv g pending db → O.inv g (fun base => base) (pending db)
  redacts : ∀ g q, O.Harmless g fun base =>
    structuredInputRequests.put base ((structuredInputRequests.get base).update q redact redact_requestId)
  inputs : ∀ g q, O.Harmless g fun base =>
    structuredInputRequests.put base ((structuredInputRequests.get base).delete q)
  handoffs : ∀ g q, O.Harmless g fun base => handoffs.put base ((handoffs.get base).delete q)
  runs : ∀ g q, O.Harmless g fun base => agentRuns.put base ((agentRuns.get base).delete q)
  events : ∀ g q, O.Harmless g fun base => conversationEvents.put base ((conversationEvents.get base).delete q)
  participants : ∀ g q, O.Harmless g fun base =>
    conversationParticipants.put base ((conversationParticipants.get base).delete q)
  commands : ∀ g q, O.Harmless g fun base => commandIdempotency.put base ((commandIdempotency.get base).delete q)
  bootstraps : ∀ g q, O.Harmless g fun base =>
    sessionBootstrapIdempotency.put base ((sessionBootstrapIdempotency.get base).delete q)
  expires : ∀ g q, (∀ s : BrowserSession, q s = true → s.expiresAt < now) →
    O.Harmless g fun base => browserSessions.put base ((browserSessions.get base).delete q)
  picks : ∀ g pending db picked, O.inv g pending db →
    (∀ c ∈ picked, c ∈ (pending db).conversations ∧ c.updatedAt < anonymousCutoff policy now) →
    O.inv { g with picked := picked } pending db
  empties : ∀ g pending db (c : Conversation) q, O.inv g pending db →
    (∀ m ∈ (pending db).messages, q m = sameConversation c m.tenantId m.siteId m.conversationId) →
    O.safe g db (pending db) (messages.put (pending db) ((messages.get (pending db)).delete q)) ∧
    O.inv { g with emptied := c :: g.emptied }
      (fun base => messages.put (pending base) ((messages.get (pending base)).delete q)) db
  addressed : O.raises (.constraint "messages_participant_foreign") ∨ ∀ g pending db, O.inv g pending db →
    ∀ c ∈ g.emptied, ∀ m ∈ (pending db).messages, sameConversation c m.tenantId m.siteId m.conversationId = false
  conversations : ∀ (g : Progress) q, ∀ c ∈ g.picked, (∀ d, q d = true → sameHome c d = true) →
    O.Harmless g fun base => conversations.put base ((conversations.get base).delete q)
  condemns : ∀ g pending db (p : Principal), O.inv g pending db →
    O.passes g { g with condemned := p :: g.condemned } db →
    (∀ c ∈ (pending db).conversations, Progress.owns p c.tenantId c.siteId c.principalId = false) →
    O.inv { g with condemned := p :: g.condemned } pending db
  principals : ∀ (g : Progress) q, ∀ p ∈ g.condemned,
    (∀ r : Principal, q r = true → Progress.owns p r.tenantId r.siteId r.principalId = true) →
    O.Harmless g fun base => principals.put base ((principals.get base).delete q)
  evicts : ∀ (g : Progress) q, ∀ p ∈ g.condemned,
    (∀ s : BrowserSession, q s = true → Progress.owns p s.tenantId s.siteId s.principalId = true) →
    O.Harmless g fun base => browserSessions.put base ((browserSessions.get base).delete q)
  owned : O.raises (.constraint "conversations_principal_foreign") ∨ ∀ g pending db, O.inv g pending db →
    ∀ p ∈ g.condemned, ∀ c ∈ (pending db).conversations, Progress.owns p c.tenantId c.siteId c.principalId = false

namespace Admits

variable {policy : RetentionPolicy} {now : Timestamp} {O : Outline Progress Tables ServerError}
  (h : Admits policy now O) {g : Progress}

include h

lemma calm_deleteAgentRuns (p : AgentRun → Bool) : O.Calm (fun _ => True) (deleteAgentRuns p) g := by
  unfold deleteAgentRuns
  refine (Outline.calm_deleteFrom fun q _ => h.runs g q).bind fun rows _ => ?_
  refine (Outline.calm_deleteFrom fun q _ => h.handoffs g q).bind fun _ _ => ?_
  exact (Outline.calm_deleteFrom fun q _ => h.inputs g q).bind fun _ _ => Outline.calm_pure trivial

lemma calm_restrict {name : String} {referring : Tables → Bool} (hr : O.raises (.constraint name) ∨
    ∀ pending db, O.inv g pending db → referring (pending db) = false) :
    O.Calm (fun _ => True) (restrict name referring) g := by
  unfold restrict
  refine (Outline.calm_select h.lawful referring).bind fun found hfound => ?_
  cases found with
  | false => exact Outline.calm_pure trivial
  | true =>
    rcases hr with hr | hr
    · exact hr
    · obtain ⟨pending, db, hinv, he⟩ := hfound
      rw [hr pending db hinv] at he
      cases he

lemma calm_deleteConversationParticipants {c : Conversation} (hc : c ∈ g.emptied)
    (p : ConversationParticipant → Bool)
    (hp : ∀ r, p r = true → sameConversation c r.tenantId r.siteId r.conversationId = true) :
    O.Calm (fun _ => True) (deleteConversationParticipants p) g := by
  unfold deleteConversationParticipants
  refine (Outline.calm_deleteFrom fun q _ => h.participants g q).bind fun rows hrows => h.calm_restrict ?_
  refine h.addressed.imp id fun haddressed pending db hinv => ?_
  rw [List.any_eq_false]
  intro m hm
  rw [Bool.not_eq_true, List.any_eq_false]
  intro r hr hsame
  have hm' := haddressed g pending db hinv c hc m hm
  have hr' := hp r (hrows r hr)
  simp only [decide_eq_true_eq, Prod.mk.injEq] at hsame
  obtain ⟨ht, hs, hk, -⟩ := hsame
  rw [← ht, ← hs, ← hk, hr'] at hm'
  cases hm'

lemma calm_deleteConversations {c : Conversation} (hpicked : c ∈ g.picked) (hemptied : c ∈ g.emptied) :
    O.Calm (fun _ => True)
      (deleteConversations fun d => sameConversation c d.tenantId d.siteId d.conversationId) g := by
  unfold deleteConversations
  refine (Outline.calm_deleteFrom fun q hq => h.conversations g q c hpicked hq).bind fun rows hrows => ?_
  refine (Outline.calm_deleteFrom fun q _ => h.events g q).bind fun _ _ => ?_
  refine (h.calm_deleteAgentRuns _).bind fun _ _ => h.calm_deleteConversationParticipants hemptied _ fun r hr => ?_
  obtain ⟨d, hd, hsame⟩ := List.any_eq_true.mp hr
  have hcd : sameConversation c d.tenantId d.siteId d.conversationId = true := hrows d hd
  simp only [sameConversation, Bool.and_eq_true, decide_eq_true_eq] at hcd hsame ⊢
  exact ⟨⟨hsame.1.1.trans hcd.1.1, hsame.1.2.trans hcd.1.2⟩, hsame.2.trans hcd.2⟩

lemma meets_deleteMessages {picked : List Conversation} {c : Conversation} (hg : g.picked = picked) :
    O.Meets (fun _ g' => g'.picked = picked ∧ c ∈ g'.emptied) (Progress.deleteMessages c) g := by
  unfold Progress.deleteMessages
  refine Outline.Meets.bind (Q := fun _ g' => g'.picked = picked ∧ c ∈ g'.emptied) ?_ ?_
  · intro pending db busy hinv _
    obtain ⟨hsafe, hkeeps⟩ := h.empties g pending db c
      (messages.seen (fun m => sameConversation c m.tenantId m.siteId m.conversationId) (pending db)) hinv
      fun m hm => Relation.seen_of_mem _ hm
    exact ⟨hsafe, hkeeps, hg, List.mem_cons_self ..⟩
  · rintro rows g' hq
    exact Outline.Meets.mono (h.calm_deleteAgentRuns _) fun _ _ hr => hr.2 ▸ hq

lemma meets_deleteConversation {picked : List Conversation} {c : Conversation} (hc : c ∈ picked)
    (hg : g.picked = picked) :
    O.Meets (fun _ g' => g'.picked = picked) (Progress.deleteConversation c) g := by
  unfold Progress.deleteConversation
  refine Outline.Calm.andThen (Q := fun _ => True) ?_ fun _ _ => ?_
  · refine (Outline.calm_deleteFrom fun q _ => h.inputs g q).bind fun _ _ => ?_
    refine (Outline.calm_deleteFrom fun q _ => h.handoffs g q).bind fun _ _ => ?_
    refine (h.calm_deleteAgentRuns _).bind fun _ _ => ?_
    exact (Outline.calm_deleteFrom fun q _ => h.events g q).bind fun _ _ => Outline.calm_pure trivial
  refine Outline.Meets.bind (Q := fun _ g' => g'.picked = picked ∧ c ∈ g'.emptied) (h.meets_deleteMessages hg) ?_
  rintro _ g' ⟨hpicked, hemptied⟩
  refine Outline.Meets.mono (Q := fun _ g'' => True ∧ g'' = g') ?_ fun _ _ hq => hq.2 ▸ hpicked
  refine (h.calm_deleteConversationParticipants hemptied _ fun _ hr => hr).bind fun _ _ => ?_
  exact h.calm_deleteConversations (hpicked ▸ hc) hemptied

lemma meets_deletePrincipal (p : Principal) : O.Meets (fun _ _ => True) (Progress.deletePrincipal p) g := by
  unfold Progress.deletePrincipal
  refine Outline.Meets.bind (Q := fun found g' => found = none → p ∈ g'.condemned) ?_ ?_
  · refine Outline.meets_noting_select h.lawful fun pending db hinv hpasses => ?_
    split
    · rename_i hnone
      rw [if_pos hnone] at hpasses
      refine ⟨h.condemns g pending db p hinv hpasses fun c hc => ?_, fun _ => List.mem_cons_self ..⟩
      rw [Option.isNone_iff_eq_none, List.head?_eq_none_iff, Relation.matching, List.filter_eq_nil_iff] at hnone
      simpa using hnone c hc
    · rename_i hsome
      exact ⟨hinv, fun hnone => absurd (Option.isNone_iff_eq_none.mpr hnone) hsome⟩
  · rintro found g' hfound
    cases found with
    | some c => trivial
    | none =>
      have hp := hfound rfl
      refine Outline.Meets.mono (Q := fun _ g'' => True ∧ g'' = g') ?_ fun _ _ _ => trivial
      change O.Calm _ (deletePrincipals _) g'
      unfold deletePrincipals
      refine (Outline.calm_deleteFrom fun q hq => h.principals g' q p hp hq).bind fun rows hrows => ?_
      refine (Outline.calm_deleteFrom fun q hq => h.evicts g' q p hp fun s hs => ?_).bind fun _ _ => ?_
      · obtain ⟨r, hr, hsame⟩ := List.any_eq_true.mp (hq s hs)
        simp only [decide_eq_true_eq, Prod.mk.injEq] at hsame
        rw [hsame.1, hsame.2.1, hsame.2.2]
        exact hrows r hr
      refine Outline.Calm.bind (Q := fun _ => True) (h.calm_restrict ?_) fun _ _ => Outline.calm_pure trivial
      refine h.owned.imp id fun howned pending db hinv => ?_
      rw [List.any_eq_false]
      intro c hc
      rw [Bool.not_eq_true, List.any_eq_false]
      intro r hr hsame
      have hc' := howned g' pending db hinv p hp c hc
      have hr' := hrows r hr
      simp only [decide_eq_true_eq, Prod.mk.injEq] at hsame
      rw [hsame.1, hsame.2.1, hsame.2.2, hr'] at hc'
      cases hc'

theorem meets_runOnce (orders : Orders) (g : Progress) :
    O.Meets (fun _ _ => True) (Progress.runOnce policy orders now) g := by
  unfold Progress.runOnce
  refine (Outline.calm_updateTable (fun _ => rfl) fun q => h.redacts g q).andThen fun redacted _ => ?_
  refine Outline.Meets.bind (Q := fun expired g' => g'.picked = expired) ?_ ?_
  · refine Outline.meets_noting_select h.lawful fun pending db hinv _ =>
      ⟨h.picks g pending db _ hinv fun c hc => ?_, rfl⟩
    have hc' := ((orders.conversations.perm _).mem_iff).mp (List.mem_of_mem_take hc)
    obtain ⟨d, hd, hp⟩ := List.mem_flatMap.mp hc'
    obtain ⟨p, -, rfl⟩ := List.mem_map.mp hp
    obtain ⟨hmem, hold⟩ := List.mem_filter.mp hd
    exact ⟨hmem, of_decide_eq_true hold⟩
  rintro expired g₁ hpicked
  refine Outline.Meets.bind (Q := fun _ g' => g'.picked = expired) (Outline.meets_forM
    (I := fun g' : Progress => g'.picked = expired) hpicked fun c hc g' hg => h.meets_deleteConversation hc hg)
      fun _ g₂ _ => ?_
  refine Outline.Calm.andThen (Q := fun _ => True) ?_ fun candidates _ => ?_
  · refine (Outline.calm_deleteFrom fun q _ => h.commands g₂ q).bind fun _ _ => ?_
    refine (Outline.calm_deleteFrom fun q _ => h.bootstraps g₂ q).bind fun _ _ => ?_
    refine (Outline.calm_deleteFrom fun q hq => h.expires g₂ q fun s hs => of_decide_eq_true (hq s hs)).bind
      fun _ _ => ?_
    exact (Outline.calm_select h.lawful _).mono fun _ _ => trivial
  refine Outline.Meets.bind (Q := fun _ _ => True) (Outline.meets_foldlM (I := fun _ => True) trivial
    fun p _ n g' _ => (h.meets_deletePrincipal p).bind fun _ _ _ => trivial) fun deleted g₃ _ => ?_
  exact ⟨fun pending db hinv => h.commits g₃ pending db hinv, trivial⟩

end Admits

abbrev Attendance := Attended Progress Tables LockName ServerError Served Traffic

section Traffic

variable (server : Deployment)

def marked : Traffic → Marked Progress Tables LockName ServerError Served
  | .task (.sweep policy orders now) => do
      let result ← Progress.runOnce policy orders now
      return .outcome (.swept result)
  | traffic => Marked.plainly (trafficBody server traffic)

def step : Attendance → Move Traffic → Attendance :=
  Attended.step (trafficBody server) (marked server) Progress.start

lemma erase_marked (traffic : Traffic) : (marked server traffic).erase = trafficBody server traffic := by
  cases traffic with
  | bootstrap => exact Marked.erase_plainly _
  | task task => cases task with
    | call => exact Marked.erase_plainly _
    | sweep policy orders now =>
      simp only [marked, Marked.erase_bind, Marked.erase_pure, Progress.erase_runOnce, trafficBody, taskBody,
        map_eq_pure_bind, bind_assoc, pure_bind]

def indifferent : Outline Progress Tables ServerError := ⟨fun _ _ _ => True, fun _ _ _ _ => True, fun _ => True,
  fun _ _ _ => True, fun _ _ _ => True⟩

lemma indifferent_meets {α : Type} (p : Marked Progress Tables LockName ServerError α) (g : Progress) :
    indifferent.Meets (fun _ _ => True) p g := by
  induction p generalizing g with
  | pure | throw => trivial
  | statement locks write mark next ih => exact fun _ _ _ _ _ => ⟨trivial, trivial, ih _ _⟩
  | commit next ih => exact ⟨fun _ _ _ => trivial, ih g⟩

def ofSweeps (O : RetentionPolicy → Timestamp → Outline Progress Tables ServerError) :
    Traffic → Outline Progress Tables ServerError
  | .task (.sweep policy _ now) => O policy now
  | _ => indifferent

variable {O : RetentionPolicy → Timestamp → Outline Progress Tables ServerError} {db : Tables}
  {moves : List (Move Traffic)}

theorem sweeps_keep (hO : ∀ policy now, Admits policy now (O policy now))
    (hinv : ∀ policy now db, (O policy now).inv Progress.start (fun base => base) db)
    (h : Transition.Along (step server) (fun t m =>
      Attended.Respected (trafficBody server) (marked server) Progress.start (ofSweeps O) t m)
      (Attended.initial db) moves) :
    Transition.Along (step server) (fun t m =>
      Attended.Kept (trafficBody server) (marked server) Progress.start (ofSweeps O) t m)
      (Attended.initial db) moves := by
  refine Attended.respected_keeps (fun traffic => ?_) (fun traffic db => ?_) (fun traffic => ?_)
    (erase_marked server) h
  · cases traffic with
    | bootstrap => exact ⟨fun _ _ _ _ _ _ => trivial, fun _ _ _ => trivial⟩
    | task task => cases task with
      | call => exact ⟨fun _ _ _ _ _ _ => trivial, fun _ _ _ => trivial⟩
      | sweep policy orders now => exact (hO policy now).lawful
  · cases traffic with
    | bootstrap => trivial
    | task task => cases task with
      | call => trivial
      | sweep policy orders now => exact hinv policy now db
  · cases traffic with
    | bootstrap => exact indifferent_meets _ _
    | task task => cases task with
      | call => exact indifferent_meets _ _
      | sweep policy orders now => exact ((hO policy now).meets_runOnce orders _).bind fun _ _ _ => trivial

end Traffic

end ChatCore.Retention
