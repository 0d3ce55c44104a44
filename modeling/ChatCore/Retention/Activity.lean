import ChatCore.Retention.Progress
import ChatCore.Runs.Fencing

namespace ChatCore.Retention

open Protocol Relational Database Services RetentionService

def Expired (now : Timestamp) (g : Progress) (db : Tables) : Prop := ∀ p ∈ g.condemned, ∀ s ∈ db.browserSessions,
  Progress.owns p s.tenantId s.siteId s.principalId = true → s.expiresAt < now

structure Dormant (policy : RetentionPolicy) (now : Timestamp) (g : Progress) (db : Tables) : Prop where
  conversations : ∀ c ∈ g.picked, ∀ d ∈ db.conversations, sameHome c d = true →
    d.updatedAt < anonymousCutoff policy now
  sessions : Expired now g db

structure SparesActive (policy : RetentionPolicy) (now : Timestamp) (db view view' : Tables) : Prop where
  conversations : ∀ c ∈ view.conversations, c ∉ view'.conversations → c.updatedAt < anonymousCutoff policy now
  principals : ∀ p ∈ view.principals, p ∉ view'.principals → ∀ s ∈ db.browserSessions,
    Progress.owns p s.tenantId s.siteId s.principalId = true → s.expiresAt < now

def activity (policy : RetentionPolicy) (now : Timestamp) : Outline Progress Tables ServerError where
  inv g pending db := (∀ base, (∀ c ∈ (pending base).conversations, c ∈ base.conversations) ∧
    ∀ s ∈ (pending base).browserSessions, s ∈ base.browserSessions) ∧ Dormant policy now g db
  safe _ := SparesActive policy now
  raises _ := True
  passes _ := Expired now
  bears g _ := Dormant policy now g

section Admits

variable {policy : RetentionPolicy} {now : Timestamp} {g : Progress}

lemma sparesActive_of_same {db view view' : Tables} (hc : view'.conversations = view.conversations)
    (hp : view'.principals = view.principals) : SparesActive policy now db view view' :=
  ⟨fun _ hm hn => absurd (hc ▸ hm) hn, fun _ hm hn => absurd (hp ▸ hm) hn⟩

lemma activity_deletes {write : Tables → Tables}
    (hwrite : ∀ base, (∀ c ∈ (write base).conversations, c ∈ base.conversations) ∧
      ∀ s ∈ (write base).browserSessions, s ∈ base.browserSessions)
    (hsafe : ∀ pending db, (activity policy now).inv g pending db →
      SparesActive policy now db (pending db) (write (pending db))) : (activity policy now).Harmless g write := by
  refine fun pending db hinv => ⟨hsafe pending db hinv, fun base => ⟨fun c hc => ?_, fun s hs => ?_⟩, hinv.2⟩
  · exact (hinv.1 base).1 c ((hwrite (pending base)).1 c hc)
  · exact (hinv.1 base).2 s ((hwrite (pending base)).2 s hs)

lemma activity_elsewhere {write : Tables → Tables} (hc : ∀ base, (write base).conversations = base.conversations)
    (hp : ∀ base, (write base).principals = base.principals)
    (hs : ∀ base, (write base).browserSessions = base.browserSessions) :
    (activity policy now).Harmless g write := by
  refine activity_deletes (fun base => ⟨fun c hm => ?_, fun s hm => ?_⟩) fun _ _ _ =>
    sparesActive_of_same (hc _) (hp _)
  · rwa [hc] at hm
  · rwa [hs] at hm

lemma activity_sessions (q : BrowserSession → Bool) :
    (activity policy now).Harmless g fun base => browserSessions.put base ((browserSessions.get base).delete q) :=
  activity_deletes (fun _ => ⟨fun _ hc => hc, fun _ hs => (Table.mem_delete.mp hs).1⟩)
    fun _ _ _ => sparesActive_of_same rfl rfl

lemma eq_of_sameHome {db : Tables} {c d : Conversation} (hc : c ∈ db.conversations) (hd : d ∈ db.conversations)
    (h : sameHome c d = true) : d = c := by
  simp only [sameHome, sameConversation, Bool.and_eq_true, decide_eq_true_eq] at h
  exact Table.key_injective hd hc h.2

theorem activity_admits (policy : RetentionPolicy) (now : Timestamp) :
    Admits policy now (activity policy now) where
  lawful := ⟨fun _ _ _ _ hinv hbears => ⟨hinv.1, hbears⟩, fun _ _ _ => sparesActive_of_same rfl rfl⟩
  commits g pending db hinv := ⟨fun _ => ⟨fun _ hc => hc, fun _ hs => hs⟩,
    fun c hc d hd => hinv.2.conversations c hc d ((hinv.1 db).1 d hd),
    fun p hp s hs => hinv.2.sessions p hp s ((hinv.1 db).2 s hs)⟩
  redacts _ _ := activity_elsewhere (fun _ => rfl) (fun _ => rfl) fun _ => rfl
  inputs _ _ := activity_elsewhere (fun _ => rfl) (fun _ => rfl) fun _ => rfl
  handoffs _ _ := activity_elsewhere (fun _ => rfl) (fun _ => rfl) fun _ => rfl
  runs _ _ := activity_elsewhere (fun _ => rfl) (fun _ => rfl) fun _ => rfl
  events _ _ := activity_elsewhere (fun _ => rfl) (fun _ => rfl) fun _ => rfl
  participants _ _ := activity_elsewhere (fun _ => rfl) (fun _ => rfl) fun _ => rfl
  commands _ _ := activity_elsewhere (fun _ => rfl) (fun _ => rfl) fun _ => rfl
  bootstraps _ _ := activity_elsewhere (fun _ => rfl) (fun _ => rfl) fun _ => rfl
  expires _ q _ := activity_sessions q
  picks g pending db picked hinv hpicked := by
    refine ⟨hinv.1, fun c hc d hd hsame => ?_, hinv.2.sessions⟩
    obtain ⟨hmem, hold⟩ := hpicked c hc
    rw [eq_of_sameHome ((hinv.1 db).1 c hmem) hd hsame]
    exact hold
  empties g pending db c q hinv _ := by
    have hharmless : (activity policy now).Harmless g fun base =>
      messages.put base ((messages.get base).delete q) :=
      activity_elsewhere (fun _ => rfl) (fun _ => rfl) fun _ => rfl
    obtain ⟨hsafe, hkeeps⟩ := hharmless pending db hinv
    exact ⟨hsafe, hkeeps.1, hinv.2.conversations, hinv.2.sessions⟩
  addressed := Or.inl trivial
  conversations g q c hc hq := by
    refine activity_deletes (fun _ => ⟨fun _ hd => (Table.mem_delete.mp hd).1, fun _ hs => hs⟩)
      fun pending db hinv => ?_
    refine ⟨fun d hd hgone => ?_, fun p hp hgone => absurd hp hgone⟩
    have hqd : q d = true := by
      rw [← Bool.not_eq_false]
      exact fun hq => hgone (Table.mem_delete.mpr ⟨hd, hq⟩)
    exact hinv.2.conversations c hc d ((hinv.1 db).1 d hd) (hq d hqd)
  condemns g pending db p hinv hpasses _ := ⟨hinv.1, hinv.2.conversations, hpasses⟩
  principals g q p hp hq := by
    refine activity_deletes (fun _ => ⟨fun _ hc => hc, fun _ hs => hs⟩) fun pending db hinv => ?_
    refine ⟨fun d hd hgone => absurd hd hgone, fun r hr hgone s hs howns => ?_⟩
    have hqr : q r = true := by
      rw [← Bool.not_eq_false]
      exact fun hq => hgone (Table.mem_delete.mpr ⟨hr, hq⟩)
    refine hinv.2.sessions p hp s hs ?_
    have hpr := hq r hqr
    simp only [Progress.owns, Bool.and_eq_true, decide_eq_true_eq] at hpr howns ⊢
    exact ⟨⟨howns.1.1.trans hpr.1.1, howns.1.2.trans hpr.1.2⟩, howns.2.trans hpr.2⟩
  evicts _ q _ _ _ := activity_sessions q
  owned := Or.inl trivial

end Admits

section Runs

variable (server : Deployment) (t : Attendance) (m : Move Traffic)

def LeavesDormant (i : ℕ) (g : Progress) : Traffic → Prop
  | .task (.sweep policy _ now) => (m ≠ .advance i → Dormant policy now g (step server t m).world.db) ∧
      (m = .advance i → ∀ g' ∈ ((step server t m).ghosts.map Prod.snd)[i]?, Expired now g' t.world.db)
  | _ => True

/-- While a sweep is under way nobody else commits an update of a conversation that it has picked, so that the
update is since the cutoff, or an unexpired session of a principal that it has found without a conversation; and
when it finds one, that principal has no unexpired session. -/
def Undisturbed : Prop := ∀ i s g, t.Watches i s g → LeavesDormant server t m i g s.call

instance (g : Progress) (db : Tables) (now : Timestamp) : Decidable (Expired now g db) :=
  inferInstanceAs (Decidable (∀ p ∈ g.condemned, ∀ s ∈ db.browserSessions.rows, _ → _))

instance (policy : RetentionPolicy) (g : Progress) (db : Tables) (now : Timestamp) :
    Decidable (Dormant policy now g db) :=
  decidable_of_iff ((∀ c ∈ g.picked, ∀ d ∈ db.conversations.rows, sameHome c d = true →
    d.updatedAt < anonymousCutoff policy now) ∧ Expired now g db) ⟨fun h => ⟨h.1, h.2⟩, fun h => ⟨h.1, h.2⟩⟩

instance (i : ℕ) (g : Progress) : (traffic : Traffic) → Decidable (LeavesDormant server t m i g traffic)
  | .task (.sweep ..) => inferInstanceAs (Decidable (_ ∧ _))
  | .task (.call _) | .bootstrap .. => .isTrue trivial

instance : Decidable (Undisturbed server t m) := inferInstanceAs (Decidable (∀ i s g, t.Watches i s g → _))

/-- What a sweep deletes in this step is not active. -/
def DeletesInactive : Prop := ∀ i s policy orders now, m = .advance i → t.world.sessions[i]? = some s →
  s.live = true →
  s.call = .task (.sweep policy orders now) → ∀ s' ∈ (step server t m).world.sessions[i]?, s'.live = true →
    SparesActive policy now t.world.db (s.pending t.world.db) (s'.pending (step server t m).world.db)

variable {server t m}

lemma respected_of_undisturbed (h : Undisturbed server t m) :
    Attended.Respected (trafficBody server) (marked server) Progress.start (ofSweeps activity) t m := by
  intro i s g hw
  have hleaves := h i s g hw
  cases hc : s.call with
  | bootstrap => exact ⟨fun _ _ _ => trivial, fun _ => trivial⟩
  | task task => cases task with
    | call => exact ⟨fun _ _ _ => trivial, fun _ => trivial⟩
    | sweep policy orders now =>
      rw [hc] at hleaves
      exact ⟨hleaves.2, hleaves.1⟩

end Runs

/-- In a run whose steps leave what a sweep has chosen undisturbed, no sweep deletes an active conversation or
principal. -/
theorem active_visitors_kept (server : Deployment) (db : Tables) (moves : List (Move Traffic))
    (h : Transition.Along (step server) (fun t m => Undisturbed server t m) (Attended.initial db) moves) :
    Transition.Along (step server) (fun t m => DeletesInactive server t m) (Attended.initial db) moves := by
  have hkept := sweeps_keep server activity_admits
    (fun policy now db => ⟨fun _ => ⟨fun _ hc => hc, fun _ hs => hs⟩,
    ⟨fun _ hc => absurd hc List.not_mem_nil, fun _ hp => absurd hp List.not_mem_nil⟩⟩)
      (h.mono fun t m ht => respected_of_undisturbed ht)
  refine hkept.mono fun t m ht i s policy orders now hm hs hl hc s' hs' hl' => ?_
  obtain ⟨g, -, hsafe, -⟩ := ht i s hm hs hl
  rw [hc] at hsafe
  exact hsafe s' hs' hl'

section Scenario

open Runs

def returning : Tables := unused visitors ((∅ : Table BrowserSession.sessionId).insert
  ⟨"session", "tenant", "site", "visitor", 200000000000⟩) ∅

def dayLater : Timestamp := 100000000000

def sweep : Traffic := .task (.sweep ⟨1, 1⟩ ⟨asStored, asStored⟩ dayLater)

def create : Traffic :=
  .task (.call (.createConversation Runs.visitor "agent" "" ⟨"conversation", "user", "assistant"⟩ 0))

def submit (now : Timestamp) : Traffic := .task (.call (.submitMessage Runs.visitor "conversation"
  ⟨["Hello"], greeting_ne_nil⟩ "" ⟨"message", "run", "answer"⟩ now now))

def turns (n id : ℕ) : List (Move Traffic) := List.replicate n (.advance id)

def overtaken : List (Move Traffic) :=
  .start create :: turns 20 0 ++ .start sweep :: turns 2 1 ++ .start (submit dayLater) :: turns 20 2 ++ turns 60 1

def swept (moves : List (Move Traffic)) : Attendance :=
  Transition.exec (step lone) (Attended.initial returning) moves

def lost : Record Tables ServerError Served Traffic → List Conversation × List Principal
  | .committed _ (.task (.sweep policy _ now)) before after =>
      (before.conversations.rows.filter fun c => decide (anonymousCutoff policy now ≤ c.updatedAt) &&
          (after.conversations.find? c.conversationId).isNone,
        before.principals.rows.filter fun p => (before.browserSessions.rows.any fun s =>
          Progress.owns p s.tenantId s.siteId s.principalId && decide (now ≤ s.expiresAt)) &&
          (after.principals.find? p.principalId).isNone)
  | _ => ([], [])

theorem active_visitor_deleted : ((swept overtaken).world.history.flatMap fun r =>
      (lost r).1.map Conversation.conversationId) = ["conversation"] ∧
    ((swept (.start sweep :: turns 30 0)).world.history.flatMap fun r =>
      (lost r).2.map Principal.principalId) = ["visitor"] := by
  decide +kernel

theorem returning_visitor_kept : Transition.Along (step lone) (fun t m => DeletesInactive lone t m)
    (Attended.initial returning)
    (.start create :: turns 20 0 ++ .start (submit dayLater) :: turns 20 1 ++ .start sweep :: turns 30 2) :=
  active_visitors_kept lone returning _ (by decide +kernel)

end Scenario

end ChatCore.Retention
