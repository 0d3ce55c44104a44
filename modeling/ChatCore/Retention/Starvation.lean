import ChatCore.Retention.Activity
import ChatCore.Retention.Sweeping
import Mathlib.Data.List.Perm.Subperm

namespace ChatCore.Retention

open Protocol Relational Database Services RetentionService

section Sweep

variable {policy : RetentionPolicy} {order : Arrangement Conversation} {orders : Orders} {now : Timestamp}
  {db : Tables}

lemma purges_untouched (conversations : List Conversation) :
    Untouched db (conversations.foldl (fun db c => purge c db) db) := by
  induction conversations generalizing db with
  | nil => exact ⟨rfl, rfl, rfl, rfl⟩
  | cons c conversations ih =>
    rw [List.foldl_cons]
    have hfirst : Untouched db (purge c db) := purge_untouched
    exact hfirst.trans (@ih (purge c db))

lemma reached_principals : (reached policy order now db).principals = db.principals := by
  have h : Untouched (redacted policy now db)
      ((picked policy order now db).foldl (fun db c => purge c db) (redacted policy now db)) := purges_untouched _
  exact h.principals

def settled (policy : RetentionPolicy) (order : Arrangement Conversation) (now : Timestamp) (db : Tables) :
    List Principal := (principals.matching (isOld policy now) db).filter (occupied (reached policy order now db))

def deletable (policy : RetentionPolicy) (order : Arrangement Conversation) (now : Timestamp) (db : Tables) :
    List Principal := vacant (reached policy order now db) (principals.matching (isOld policy now) db)

def onceSwept (policy : RetentionPolicy) (orders : Orders) (now : Timestamp) (db : Tables) : Tables :=
  ((RetentionService.runOnce policy orders now).run db).2

/-- If there is a principal to delete at the principal step, the sweep deletes one. -/
def Progresses (policy : RetentionPolicy) (orders : Orders) (now : Timestamp) (db : Tables) : Prop :=
  deletable policy orders.conversations now db ≠ [] →
    ∃ p ∈ db.principals, p ∉ (onceSwept policy orders now db).principals

/-- Too few old principals still have a conversation to fill the candidates. -/
def Uncrowded (policy : RetentionPolicy) (order : Arrangement Conversation) (now : Timestamp)
    (db : Tables) : Prop :=
  deletable policy order now db ≠ [] → (settled policy order now db).length < 100

lemma onceSwept_eq : onceSwept policy orders now db = finished policy orders now db := by
  rw [onceSwept, exec_runOnce]

lemma matching_reached : principals.matching (isOld policy now) (reached policy order now db) =
    principals.matching (isOld policy now) db :=
  congrArg (fun t : Table Principal.principalId => t.rows.filter (isOld policy now)) reached_principals

lemma evicted_mem {p : Principal} (h : p ∈ evicted policy orders now db) : p ∈ db.principals := by
  have hp := (candidates_mem (List.mem_filter.mp h).1).1
  rwa [reached_principals] at hp

lemma finished_absent {p : Principal} (h : p ∈ evicted policy orders now db) :
    p ∉ (finished policy orders now db).principals := by
  intro hp
  exact List.any_eq_false.mp (Table.mem_delete.mp hp).2 p h owns_self

lemma finished_nothing (h : evicted policy orders now db = []) :
    finished policy orders now db = reached policy orders.conversations now db := by
  rw [finished, h, evict_nil]

lemma progresses_iff : Progresses policy orders now db ↔
    (deletable policy orders.conversations now db ≠ [] → evicted policy orders now db ≠ []) := by
  rw [Progresses, onceSwept_eq]
  refine imp_congr_right fun _ => ?_
  constructor
  · rintro ⟨p, hp, hgone⟩ hnil
    rw [finished_nothing hnil, reached_principals] at hgone
    exact hgone hp
  · intro hne
    obtain ⟨p, hp⟩ := List.exists_mem_of_ne_nil _ hne
    exact ⟨p, evicted_mem hp, finished_absent hp⟩

lemma evicted_of_uncrowded (h : Uncrowded policy orders.conversations now db)
    (hd : deletable policy orders.conversations now db ≠ []) : evicted policy orders now db ≠ [] := by
  intro hnil
  have hperm := orders.principals.perm
    (principals.matching (isOld policy now) (reached policy orders.conversations now db))
  have hsettled : ∀ p ∈ candidates policy now orders.principals (reached policy orders.conversations now db),
      p ∈ settled policy orders.conversations now db := by
    intro p hp
    have hmem := hperm.mem_iff.mp (List.mem_of_mem_take hp)
    rw [matching_reached] at hmem
    refine List.mem_filter.mpr ⟨hmem, ?_⟩
    cases ho : occupied (reached policy orders.conversations now db) p with
    | true => rfl
    | false =>
      have hin : p ∈ evicted policy orders now db := List.mem_filter.mpr ⟨hp, by rw [ho]; rfl⟩
      rw [hnil] at hin
      exact absurd hin List.not_mem_nil
  have hfew :
      (candidates policy now orders.principals (reached policy orders.conversations now db)).length < 100 :=
    Nat.lt_of_le_of_lt (List.subperm_of_subset candidates_nodup hsettled).length_le (h hd)
  have hwhole : candidates policy now orders.principals (reached policy orders.conversations now db) =
      orders.principals.arrange
        (principals.matching (isOld policy now) (reached policy orders.conversations now db)) := by
    refine List.take_of_length_le ?_
    rw [candidates, List.length_take] at hfew
    omega
  obtain ⟨p, hp⟩ := List.exists_mem_of_ne_nil _ hd
  obtain ⟨hmem, ho⟩ := List.mem_filter.mp hp
  have hin : p ∈ evicted policy orders now db := by
    refine List.mem_filter.mpr ⟨?_, ho⟩
    rw [hwhole, hperm.mem_iff, matching_reached]
    exact hmem
  rw [hnil] at hin
  exact absurd hin List.not_mem_nil

def settledFirst (policy : RetentionPolicy) (order : Arrangement Conversation) (now : Timestamp) (db : Tables) :
    Arrangement Principal where
  arrange rows := rows.filter (occupied (reached policy order now db)) ++
    rows.filter fun p => !occupied (reached policy order now db) p
  perm rows := List.filter_append_perm _ rows

lemma starved_of_crowded (h : 100 ≤ (settled policy order now db).length) :
    evicted policy ⟨order, settledFirst policy order now db⟩ now db = [] := by
  rw [settled] at h
  refine List.filter_eq_nil_iff.mpr fun p hp => ?_
  change p ∈ (List.filter _ _ ++ List.filter _ _).take 100 at hp
  rw [matching_reached, List.take_append_of_le_length h] at hp
  have ho : occupied (reached policy order now db) p = true := (List.mem_filter.mp (List.mem_of_mem_take hp)).2
  change ¬ (!occupied (reached policy order now db) p) = true
  rw [ho]
  decide

lemma progress_iff_uncrowded :
    (∀ principals : Arrangement Principal, Progresses policy ⟨order, principals⟩ now db) ↔
      Uncrowded policy order now db := by
  constructor
  · intro h hd
    by_contra hcount
    have hprogress := progresses_iff.mp (h (settledFirst policy order now db)) hd
    exact hprogress (starved_of_crowded (Nat.le_of_not_lt hcount))
  · intro h principals
    have h : Uncrowded policy (Orders.mk order principals).conversations now db := h
    exact progresses_iff.mpr (evicted_of_uncrowded h)

end Sweep

section Sweeps

variable {policy : RetentionPolicy} {db : Tables}

def sweeps (policy : RetentionPolicy) (db : Tables) (choices : ℕ → Orders × Timestamp) : ℕ → Tables
  | 0 => db
  | n + 1 => onceSwept policy (choices n).1 (choices n).2 (sweeps policy db choices n)

lemma sweeps_tail {choices : ℕ → Orders × Timestamp} (n : ℕ) : sweeps policy db choices (n + 1) =
    sweeps policy (onceSwept policy (choices 0).1 (choices 0).2 db) (fun i => choices (i + 1)) n := by
  induction n with
  | zero => rfl
  | succ n ih =>
    change onceSwept policy (choices (n + 1)).1 (choices (n + 1)).2 (sweeps policy db choices (n + 1)) = _
    rw [ih]
    rfl

lemma onceSwept_fewer {orders : Orders} {now : Timestamp} (h : evicted policy orders now db ≠ []) :
    (onceSwept policy orders now db).principals.rows.length < db.principals.rows.length := by
  obtain ⟨p, hp⟩ := List.exists_mem_of_ne_nil _ h
  have hrows : (onceSwept policy orders now db).principals.rows = db.principals.rows.filter fun q =>
      !(evicted policy orders now db).any fun p => Progress.owns p q.tenantId q.siteId q.principalId := by
    rw [onceSwept_eq, finished, evict, reached_principals]
    rfl
  rw [hrows]
  refine List.length_filter_lt_length_iff_exists.mpr ⟨p, evicted_mem hp, ?_⟩
  rw [List.any_eq_true.mpr ⟨p, hp, owns_self⟩]
  decide

lemma settled_after {orders : Orders} {now : Timestamp} (h : deletable policy orders.conversations now db = []) :
    ∀ p ∈ (onceSwept policy orders now db).principals, isOld policy now p = true →
      occupied (onceSwept policy orders now db) p = true := by
  have hnil : evicted policy orders now db = [] := by
    refine List.filter_eq_nil_iff.mpr fun p hp => ?_
    have hmem := (orders.principals.perm _).mem_iff.mp (List.mem_of_mem_take hp)
    rw [matching_reached] at hmem
    exact List.filter_eq_nil_iff.mp h p hmem
  intro p hp hold
  rw [onceSwept_eq, finished_nothing hnil] at hp ⊢
  rw [reached_principals] at hp
  simpa using List.filter_eq_nil_iff.mp h p (List.mem_filter.mpr ⟨hp, hold⟩)

lemma sweeps_settle {bound : ℕ} {choices : ℕ → Orders × Timestamp} (hb : db.principals.rows.length ≤ bound)
    (h : ∀ i, Uncrowded policy (choices i).1.conversations (choices i).2 (sweeps policy db choices i)) :
    ∃ n ≤ bound, ∀ p ∈ (sweeps policy db choices (n + 1)).principals, isOld policy (choices n).2 p = true →
      occupied (sweeps policy db choices (n + 1)) p = true := by
  induction bound generalizing db choices with
  | zero =>
    refine ⟨0, Nat.le_refl 0, settled_after (List.filter_eq_nil_iff.mpr fun p hp => ?_)⟩
    have hnil := List.length_eq_zero_iff.mp (Nat.le_zero.mp hb)
    have hp := (List.mem_filter.mp hp).1
    change p ∈ db.principals.rows at hp
    rw [hnil] at hp
    exact absurd hp List.not_mem_nil
  | succ bound ih =>
    by_cases hd : deletable policy (choices 0).1.conversations (choices 0).2 db = []
    · exact ⟨0, Nat.zero_le _, settled_after hd⟩
    · have hfirst : Uncrowded policy (choices 0).1.conversations (choices 0).2 db := h 0
      have hfewer := onceSwept_fewer (evicted_of_uncrowded hfirst hd)
      have hlater : ∀ i, Uncrowded policy (choices (i + 1)).1.conversations (choices (i + 1)).2 (sweeps policy
          (onceSwept policy (choices 0).1 (choices 0).2 db) (fun i => choices (i + 1)) i) := by
        intro i
        rw [← sweeps_tail]
        exact h (i + 1)
      obtain ⟨n, hn, hall⟩ := ih (by omega) hlater
      refine ⟨n + 1, Nat.succ_le_succ hn, ?_⟩
      rw [sweeps_tail]
      exact hall

lemma onceSwept_least {orders : Orders} {now : Timestamp} :
    (onceSwept policy orders now db).principals.rows.length ≤ db.principals.rows.length := by
  by_cases h : evicted policy orders now db = []
  · rw [onceSwept_eq, finished_nothing h, reached_principals]
  · exact Nat.le_of_lt (onceSwept_fewer h)

lemma sweeps_least {choices : ℕ → Orders × Timestamp} (n : ℕ) :
    (sweeps policy db choices n).principals.rows.length ≤ db.principals.rows.length := by
  induction n with
  | zero => exact Nat.le_refl _
  | succ n ih => exact Nat.le_trans onceSwept_least ih

lemma uncrowded_of_few {order : Arrangement Conversation} {now : Timestamp} (h : db.principals.rows.length < 100) :
    Uncrowded policy order now db := by
  intro _
  have hold : (principals.matching (isOld policy now) db).length ≤ db.principals.rows.length :=
    List.length_filter_le _ _
  exact Nat.lt_of_le_of_lt (Nat.le_trans (List.length_filter_le _ _) hold) h

/-- With fewer than a hundred old principals that keep a conversation, and only then, every choice of candidates
makes progress; sweeps that all find it so leave no other old principal in the end. -/
theorem principals_deleted_iff (policy : RetentionPolicy) :
    (∀ order now db, (∀ principals, Progresses policy ⟨order, principals⟩ now db) ↔
      Uncrowded policy order now db) ∧
      ∀ db choices, (∀ i, Uncrowded policy (choices i).1.conversations (choices i).2
        (sweeps policy db choices i)) →
        ∃ n ≤ db.principals.rows.length, ∀ p ∈ (sweeps policy db choices (n + 1)).principals,
          isOld policy (choices n).2 p = true → occupied (sweeps policy db choices (n + 1)) p = true :=
  ⟨fun _ _ _ => progress_iff_uncrowded, fun _ _ h => sweeps_settle (Nat.le_refl _) h⟩

def silent : Tables :=
  unused ((∅ : Table Principal.principalId).insert ⟨"visitor", "tenant", "site", "browser", 0⟩) ∅ ∅

def daily (_ : ℕ) : Orders × Timestamp := (⟨Runs.asStored, Runs.asStored⟩, dayLater)

theorem silent_visitor_deleted :
    ∃ n ≤ 1, ∀ p ∈ (sweeps ⟨1, 1⟩ silent daily (n + 1)).principals, isOld ⟨1, 1⟩ dayLater p = true →
      occupied (sweeps ⟨1, 1⟩ silent daily (n + 1)) p = true := by
  refine (principals_deleted_iff ⟨1, 1⟩).2 silent daily fun i => ?_
  refine uncrowded_of_few (Nat.lt_of_le_of_lt (sweeps_least i) ?_)
  decide

end Sweeps

section Crowd

def name (i : ℕ) : String := String.ofList (List.replicate i 'p')

lemma name_injective : Function.Injective name := by
  intro i j h
  have hlength := congrArg String.length h
  simpa [name] using hlength

def newcomer (i : ℕ) : Principal := ⟨name i, "tenant", "site", name i, 0⟩

lemma newcomer_injective : Function.Injective newcomer :=
  fun _ _ h => name_injective (congrArg Principal.principalId h)

def ongoing (i : ℕ) : Conversation := ⟨name i, "tenant", "site", name i, "agent", .active, 1, 1, 0, dayLater⟩

def crowd : Tables :=
  { unused ⟨(List.range 101).map newcomer, by
      rw [List.map_map]
      exact List.nodup_range.map name_injective⟩ ∅ ∅ with
    conversations := ⟨(List.range 100).map ongoing, by
      rw [List.map_map]
      exact List.nodup_range.map name_injective⟩ }

lemma reached_crowd : (reached ⟨1, 1⟩ Runs.asStored dayLater crowd).conversations = crowd.conversations := by
  have hpicked : picked ⟨1, 1⟩ Runs.asStored dayLater crowd = [] := by
    have hmatching :
        conversations.matching (fun c => decide (c.updatedAt < anonymousCutoff ⟨1, 1⟩ dayLater)) crowd = [] := by
      refine List.filter_eq_nil_iff.mpr fun c hc => ?_
      obtain ⟨i, -, rfl⟩ := List.mem_map.mp hc
      change ¬ decide (dayLater < anonymousCutoff ⟨1, 1⟩ dayLater) = true
      decide
    rw [picked, expiredConversations, hmatching]
    rfl
  rw [reached, hpicked]
  rfl

lemma occupied_newcomer (i : ℕ) :
    occupied (reached ⟨1, 1⟩ Runs.asStored dayLater crowd) (newcomer i) = true ↔ i < 100 := by
  rw [occupied, reached_crowd, List.any_eq_true]
  constructor
  · rintro ⟨c, hc, hown⟩
    obtain ⟨j, hj, rfl⟩ := List.mem_map.mp hc
    have hname : name j = name i := (owns_iff.mp hown).2.2
    rw [← name_injective hname]
    exact List.mem_range.mp hj
  · intro hi
    exact ⟨ongoing i, List.mem_map.mpr ⟨i, List.mem_range.mpr hi, rfl⟩, owns_iff.mpr ⟨rfl, rfl, rfl⟩⟩

lemma newcomer_old {i : ℕ} (hi : i < 101) : newcomer i ∈ principals.matching (isOld ⟨1, 1⟩ dayLater) crowd := by
  refine List.mem_filter.mpr ⟨List.mem_map.mpr ⟨i, List.mem_range.mpr hi, rfl⟩, ?_⟩
  change decide ((0 : Timestamp) < anonymousCutoff ⟨1, 1⟩ dayLater) = true
  decide

theorem silent_visitor_starves : deletable ⟨1, 1⟩ Runs.asStored dayLater crowd ≠ [] ∧
    ¬ Progresses ⟨1, 1⟩ ⟨Runs.asStored, settledFirst ⟨1, 1⟩ Runs.asStored dayLater crowd⟩ dayLater crowd := by
  have hdeletable : deletable ⟨1, 1⟩ Runs.asStored dayLater crowd ≠ [] := by
    have hlast : newcomer 100 ∈ principals.matching (isOld ⟨1, 1⟩ dayLater) crowd := newcomer_old (by omega)
    refine List.ne_nil_of_mem (List.mem_filter.mpr ⟨hlast, ?_⟩)
    rw [Bool.eq_false_iff.mpr fun h => Nat.lt_irrefl 100 ((occupied_newcomer 100).mp h)]
    rfl
  have hcrowded : 100 ≤ (settled ⟨1, 1⟩ Runs.asStored dayLater crowd).length := by
    have hsub : (List.range 100).map newcomer ⊆ settled ⟨1, 1⟩ Runs.asStored dayLater crowd := by
      intro p hp
      obtain ⟨i, hi, rfl⟩ := List.mem_map.mp hp
      have hi := List.mem_range.mp hi
      exact List.mem_filter.mpr ⟨newcomer_old (by omega), (occupied_newcomer i).mpr hi⟩
    have hnodup : ((List.range 100).map newcomer).Nodup := List.nodup_range.map newcomer_injective
    simpa using (List.subperm_of_subset hnodup hsub).length_le
  exact ⟨hdeletable, fun h => progresses_iff.mp h hdeletable (starved_of_crowded hcrowded)⟩

end Crowd

end ChatCore.Retention
