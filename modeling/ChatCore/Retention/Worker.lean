import ChatCore.Retention.Activity

namespace ChatCore.Retention

open Protocol Relational Database Services RetentionService

structure Vacant (g : Progress) (db db' : Tables) : Prop where
  messages : ∀ c ∈ g.emptied, ∀ m ∈ db'.messages,
    sameConversation c m.tenantId m.siteId m.conversationId = true → m ∈ db.messages
  conversations : ∀ p ∈ g.condemned, ∀ c ∈ db'.conversations,
    Progress.owns p c.tenantId c.siteId c.principalId = true → c ∈ db.conversations

structure Cleared (g : Progress) (pending : Tables → Tables) (db : Tables) : Prop where
  messages : ∃ q, ∀ base, (pending base).messages = base.messages.delete q
  conversations : ∃ q, ∀ base, (pending base).conversations = base.conversations.delete q
  emptied : ∀ c ∈ g.emptied, ∀ m ∈ (pending db).messages,
    sameConversation c m.tenantId m.siteId m.conversationId = false
  condemned : ∀ p ∈ g.condemned, ∀ c ∈ (pending db).conversations,
    Progress.owns p c.tenantId c.siteId c.principalId = false

def clearance (_ : RetentionPolicy) (_ : Timestamp) : Outline Progress Tables ServerError where
  inv := Cleared
  safe _ _ _ _ := True
  raises _ := False
  passes _ _ _ := True
  bears := Vacant

section Admits

variable {policy : RetentionPolicy} {now : Timestamp} {g : Progress} {pending : Tables → Tables} {db db' : Tables}

lemma absent_of_deleted {ρ κ : Type} {key : ρ → κ} (v t : Tables → Table key) {p : ρ → Bool}
    (hview : ∃ q, ∀ base, v base = (t base).delete q) (hempty : ∀ r ∈ v db, p r = false)
    (hold : ∀ r ∈ t db', p r = true → r ∈ t db) : ∀ r ∈ v db', p r = false := by
  obtain ⟨q, hq⟩ := hview
  intro r hr
  rw [hq] at hr
  obtain ⟨hmem, hkept⟩ := Table.mem_delete.mp hr
  cases hp : p r with
  | false => rfl
  | true =>
    have hseen : r ∈ v db := by
      rw [hq]
      exact Table.mem_delete.mpr ⟨hold r hmem hp, hkept⟩
    rw [hempty r hseen] at hp
    cases hp

lemma Cleared.stable (h : Cleared g pending db) (hv : Vacant g db db') : Cleared g pending db' where
  messages := h.messages
  conversations := h.conversations
  emptied c hc := absent_of_deleted (fun base => (pending base).messages) Tables.messages h.messages
    (h.emptied c hc) (hv.messages c hc)
  condemned p hp :=
    absent_of_deleted (fun base => (pending base).conversations) Tables.conversations h.conversations
    (h.condemned p hp) (hv.conversations p hp)

lemma Cleared.elsewhere (h : Cleared g pending db) {write : Tables → Tables}
    (hm : ∀ base, (write base).messages = base.messages)
    (hc : ∀ base, (write base).conversations = base.conversations) :
    Cleared g (fun base => write (pending base)) db where
  messages := h.messages.imp fun _ hq base => (hm _).trans (hq base)
  conversations := h.conversations.imp fun _ hq base => (hc _).trans (hq base)
  emptied c hmem m hr := h.emptied c hmem m (hm (pending db) ▸ hr)
  condemned p hmem c hr := h.condemned p hmem c (hc (pending db) ▸ hr)

lemma Cleared.deleteMessages (h : Cleared g pending db) (q : Message → Bool) :
    Cleared g (fun base => Database.messages.put (pending base)
      ((Database.messages.get (pending base)).delete q)) db where
  messages := by
    obtain ⟨p, hp⟩ := h.messages
    exact ⟨_, fun base => (congrArg (Table.delete · q) (hp base)).trans Table.delete_delete⟩
  conversations := h.conversations
  emptied c hc m hm := h.emptied c hc m (Table.mem_delete.mp hm).1
  condemned := h.condemned

lemma Cleared.deleteConversations (h : Cleared g pending db) (q : Conversation → Bool) :
    Cleared g (fun base => Database.conversations.put (pending base)
      ((Database.conversations.get (pending base)).delete q)) db where
  messages := h.messages
  conversations := by
    obtain ⟨p, hp⟩ := h.conversations
    exact ⟨_, fun base => (congrArg (Table.delete · q) (hp base)).trans Table.delete_delete⟩
  emptied := h.emptied
  condemned p hp c hc := h.condemned p hp c (Table.mem_delete.mp hc).1

lemma clearance_elsewhere {write : Tables → Tables} (hm : ∀ base, (write base).messages = base.messages)
    (hc : ∀ base, (write base).conversations = base.conversations) : (clearance policy now).Harmless g write :=
  fun _ _ h => ⟨trivial, Cleared.elsewhere h hm hc⟩

theorem clearance_admits (policy : RetentionPolicy) (now : Timestamp) :
    Admits policy now (clearance policy now) where
  lawful := ⟨fun _ _ _ _ h hv => Cleared.stable h hv, fun _ _ _ => trivial⟩
  commits g pending db h := ⟨⟨fun _ => false, fun _ => Table.delete_false.symm⟩,
    ⟨fun _ => false, fun _ => Table.delete_false.symm⟩, Cleared.emptied h, Cleared.condemned h⟩
  redacts _ _ := clearance_elsewhere (fun _ => rfl) fun _ => rfl
  inputs _ _ := clearance_elsewhere (fun _ => rfl) fun _ => rfl
  handoffs _ _ := clearance_elsewhere (fun _ => rfl) fun _ => rfl
  runs _ _ := clearance_elsewhere (fun _ => rfl) fun _ => rfl
  events _ _ := clearance_elsewhere (fun _ => rfl) fun _ => rfl
  participants _ _ := clearance_elsewhere (fun _ => rfl) fun _ => rfl
  commands _ _ := clearance_elsewhere (fun _ => rfl) fun _ => rfl
  bootstraps _ _ := clearance_elsewhere (fun _ => rfl) fun _ => rfl
  expires _ _ _ := clearance_elsewhere (fun _ => rfl) fun _ => rfl
  picks g pending db picked hinv _ := by
    have h : Cleared g pending db := hinv
    exact ⟨h.messages, h.conversations, h.emptied, h.condemned⟩
  empties g pending db c q hinv hq := by
    have h : Cleared g pending db := hinv
    have hkept := h.deleteMessages q
    refine ⟨trivial, hkept.messages, hkept.conversations, fun d hd m hm => ?_, hkept.condemned⟩
    obtain ⟨hmem, hm⟩ := Table.mem_delete.mp hm
    rcases List.mem_cons.mp hd with rfl | hd
    · exact (hq m hmem).symm.trans hm
    · exact h.emptied d hd m hmem
  addressed := Or.inr fun _ _ _ h => Cleared.emptied h
  conversations _ q _ _ _ := fun _ _ h => ⟨trivial, Cleared.deleteConversations h q⟩
  condemns g pending db p hinv _ hnone := by
    have h : Cleared g pending db := hinv
    refine ⟨h.messages, h.conversations, h.emptied, fun r hr => ?_⟩
    rcases List.mem_cons.mp hr with rfl | hr
    · exact hnone
    · exact h.condemned r hr
  principals _ _ _ _ _ := clearance_elsewhere (fun _ => rfl) fun _ => rfl
  evicts _ _ _ _ _ := clearance_elsewhere (fun _ => rfl) fun _ => rfl
  owned := Or.inr fun _ _ _ h => Cleared.condemned h

end Admits

namespace RetentionWorker

/-- One turn of the loop of `RetentionWorker.run`: whether the signal is aborted before it, and what `runOnce`
comes to. -/
structure Turn where
  aborted : Bool
  swept : Except ServerError Served

inductive Stopped
  | aborted
  | rejected
  deriving DecidableEq, Repr

def run : List Turn → Option Stopped
  | [] => none
  | turn :: turns =>
      if turn.aborted then some .aborted
      else match turn.swept with
        | .error _ => some .rejected
        | .ok _ => run turns

lemma run_goes_on {turns : List Turn} (h : ∀ t ∈ turns, ∃ served, t.swept = .ok served) :
    run turns ≠ some .rejected ∧ (run turns = some .aborted → ∃ t ∈ turns, t.aborted = true) := by
  induction turns with
  | nil => exact ⟨by simp [run], by simp [run]⟩
  | cons t turns ih =>
    obtain ⟨⟨served, ht⟩, hrest⟩ := List.forall_mem_cons.mp h
    obtain ⟨hrejected, haborted⟩ := ih hrest
    rw [run, ht]
    split
    · exact ⟨by decide, fun _ => ⟨t, List.mem_cons_self .., ‹_›⟩⟩
    · refine ⟨hrejected, fun hr => ?_⟩
      obtain ⟨u, hu, hstop⟩ := haborted hr
      exact ⟨u, List.mem_cons_of_mem _ hu, hstop⟩

end RetentionWorker

section Runs

variable (server : Deployment) (t : Attendance) (m : Move Traffic)

def LeavesVacant (i : ℕ) (g : Progress) : Traffic → Prop
  | .task (.sweep ..) => m ≠ .advance i → Vacant g t.world.db (step server t m).world.db
  | _ => True

/-- While a sweep is under way nobody else commits a message of a conversation that it has emptied, or a
conversation of a principal that it has found without one. -/
def Unobstructed : Prop := ∀ i s g, t.Watches i s g → LeavesVacant server t m i g s.call

instance (g : Progress) (db db' : Tables) : Decidable (Vacant g db db') :=
  decidable_of_iff ((∀ c ∈ g.emptied, ∀ m ∈ db'.messages.rows,
      sameConversation c m.tenantId m.siteId m.conversationId = true → m ∈ db.messages.rows) ∧
    ∀ p ∈ g.condemned, ∀ c ∈ db'.conversations.rows,
      Progress.owns p c.tenantId c.siteId c.principalId = true → c ∈ db.conversations.rows)
    ⟨fun h => ⟨h.1, h.2⟩, fun h => ⟨h.1, h.2⟩⟩

instance (i : ℕ) (g : Progress) : (traffic : Traffic) → Decidable (LeavesVacant server t m i g traffic)
  | .task (.sweep ..) => inferInstanceAs (Decidable (_ → _))
  | .task (.call _) | .bootstrap .. => .isTrue trivial

instance : Decidable (Unobstructed server t m) := inferInstanceAs (Decidable (∀ i s g, t.Watches i s g → _))

variable {server t m}

lemma respected_of_unobstructed (h : Unobstructed server t m) :
    Attended.Respected (trafficBody server) (marked server) Progress.start (ofSweeps clearance) t m := by
  intro i s g hw
  have hleaves := h i s g hw
  cases hc : s.call with
  | bootstrap => exact ⟨fun _ _ _ => trivial, fun _ => trivial⟩
  | task task => cases task with
    | call => exact ⟨fun _ _ _ => trivial, fun _ => trivial⟩
    | sweep policy orders now =>
      rw [hc] at hleaves
      exact ⟨fun _ _ _ => trivial, hleaves⟩

end Runs

def after (server : Deployment) (db : Tables) (moves : List (Move Traffic)) : Attendance :=
  Transition.exec (step server) (Attended.initial db) moves

/-- In a run whose steps do not obstruct its sweeps every sweep that comes to an end resolves, so that the loop
of the retention worker stops only when its signal is aborted. -/
theorem retention_continues (server : Deployment) (db : Tables) (moves : List (Move Traffic))
    (h : Transition.Along (step server) (fun t m => Unobstructed server t m) (Attended.initial db) moves) :
    (∀ id policy orders now result, Record.finished id (Traffic.task (.sweep policy orders now)) result ∈
      (after server db moves).world.history → ∃ served, result = .ok served) ∧
    ∀ turns : List RetentionWorker.Turn, (∀ turn ∈ turns, ∃ id policy orders now,
        Record.finished id (Traffic.task (.sweep policy orders now)) turn.swept ∈
        (after server db moves).world.history) →
      RetentionWorker.run turns ≠ some .rejected ∧
      (RetentionWorker.run turns = some .aborted → ∃ turn ∈ turns, turn.aborted = true) := by
  have hkept := sweeps_keep server clearance_admits (fun policy now db => ⟨⟨fun _ => false, fun _ =>
    Table.delete_false.symm⟩, ⟨fun _ => false, fun _ => Table.delete_false.symm⟩,
    fun _ hc => absurd hc List.not_mem_nil, fun _ hp => absurd hp List.not_mem_nil⟩)
    (h.mono fun t m ht => respected_of_unobstructed ht)
  have hall : ∀ id policy orders now result, Record.finished id (Traffic.task (.sweep policy orders now)) result ∈
      (after server db moves).world.history → ∃ served, result = .ok served := by
    intro id policy orders now result hm
    cases result with
    | ok served => exact ⟨served, rfl⟩
    | error e => exact (Attended.kept_raises hkept id _ e hm).elim
  refine ⟨hall, fun turns hturns => RetentionWorker.run_goes_on fun turn ht => ?_⟩
  obtain ⟨id, policy, orders, now, hm⟩ := hturns turn ht
  exact hall id policy orders now turn.swept hm

section Scenario

open Runs

def failure : Record Tables ServerError Served Traffic → Option ServerError
  | .finished _ (.task (.sweep ..)) (.error e) => some e
  | _ => none

def answered : List (Move Traffic) :=
  .start create :: turns 20 0 ++ .start sweep :: turns 9 1 ++ .start (submit dayLater) :: turns 20 2 ++ turns 30 1

def resumed : List (Move Traffic) := .start sweep :: turns 7 0 ++ .start create :: turns 20 1 ++ turns 20 0

theorem retention_stopped :
    (after lone returning answered).world.history.filterMap failure =
      [.constraint "messages_participant_foreign"] ∧
    (after lone returning resumed).world.history.filterMap failure =
      [.constraint "conversations_principal_foreign"] := by
  decide +kernel

def beforehand : List (Move Traffic) :=
  .start create :: turns 20 0 ++ .start sweep :: turns 8 1 ++ .start (submit dayLater) :: turns 20 2 ++ turns 40 1

theorem retention_resolves : ((after lone returning beforehand).world.history.any fun r => match r with
      | .finished 1 _ (.ok _) => true
      | _ => false) = true ∧
    ∀ id policy orders now result, Record.finished id (Traffic.task (.sweep policy orders now)) result ∈
      (after lone returning beforehand).world.history → ∃ served, result = .ok served :=
  ⟨by decide +kernel, (retention_continues lone returning beforehand (by decide +kernel)).1⟩

end Scenario

end ChatCore.Retention
