import ChatCore.Services.EventStore
import ChatCore.Transition.Steps
import Mathlib.Data.List.Infix
import Mathlib.Data.List.Nodup
import Mathlib.Logic.Function.Basic

namespace ChatCore.Services

open Protocol EventStore

inductive EventBrokerNotification
  | event (event : PublicConversationEvent)
  | overflow
  | closed
  deriving DecidableEq, Repr

/-- `conversationId` and `set` are what `detach` deletes the subscription from; `yielded` records what the calls
of `next` have resolved to. -/
structure BufferedSubscription where
  conversationId : Id
  set : ℕ
  queue : List EventBrokerNotification
  waiter : Bool
  terminal : Bool
  yielded : List EventBrokerNotification
  deriving DecidableEq, Repr

namespace BufferedSubscription

variable (s : BufferedSubscription)

def push (bufferSize : ℕ) (event : PublicConversationEvent) : BufferedSubscription × Bool :=
  if s.terminal then (s, false)
  else if s.waiter then ({ s with waiter := false, yielded := s.yielded ++ [.event event] }, false)
  else if s.queue.length < bufferSize then ({ s with queue := s.queue ++ [.event event] }, false)
  else ({ s with queue := [.overflow], terminal := true }, true)

def next : BufferedSubscription := match s.queue with
  | notification :: queue => { s with queue := queue, yielded := s.yielded ++ [notification] }
  | [] =>
      if s.terminal then { s with yielded := s.yielded ++ [.closed] }
      else if s.waiter then s
      else { s with waiter := true }

def close : BufferedSubscription × Bool :=
  if s.terminal && !s.waiter then (s, false)
  else if s.waiter then
    ({ s with terminal := true, queue := [], waiter := false, yielded := s.yielded ++ [.closed] }, true)
  else ({ s with terminal := true, queue := [] }, true)

end BufferedSubscription

/-- `new EventBroker` throws unless the size is positive. -/
structure EventBrokerOptions where
  subscriberBufferSize : ℕ
  positive : 1 ≤ subscriberBufferSize

structure EventBroker where
  subscriptions : Id → Option ℕ
  sets : ℕ → List ℕ
  setsCreated : ℕ
  buffered : List BufferedSubscription

namespace EventBroker

variable (options : EventBrokerOptions) (b : EventBroker)

def initial : EventBroker := ⟨fun _ => none, fun _ => [], 0, []⟩

def detach (i : ℕ) (s : BufferedSubscription) : EventBroker :=
  { b with
    sets := Function.update b.sets s.set ((b.sets s.set).erase i)
    subscriptions :=
      if (b.sets s.set).erase i = [] then Function.update b.subscriptions s.conversationId none
        else b.subscriptions }

def put (i : ℕ) (s : BufferedSubscription) : EventBroker := { b with buffered := b.buffered.set i s }

def after (i : ℕ) (result : BufferedSubscription × Bool) : EventBroker :=
  if result.2 then (b.put i result.1).detach i result.1 else b.put i result.1

def subscribe (conversationId : Id) : EventBroker :=
  let set := (b.subscriptions conversationId).getD b.setsCreated
  { subscriptions := Function.update b.subscriptions conversationId (some set)
    sets := Function.update b.sets set (b.sets set ++ [b.buffered.length])
    setsCreated := if (b.subscriptions conversationId).isNone then b.setsCreated + 1 else b.setsCreated
    buffered := b.buffered ++ [⟨conversationId, set, [], false, false, []⟩] }

def push (event : PublicConversationEvent) (i : ℕ) : EventBroker := match b.buffered[i]? with
  | some s => b.after i (s.push options.subscriberBufferSize event)
  | none => b

def publish (event : PublicConversationEvent) : EventBroker := match b.subscriptions event.conversationId with
  | some set => (b.sets set).foldl (fun b i => if i ∈ b.sets set then b.push options event i else b) b
  | none => b

def next (i : ℕ) : EventBroker := match b.buffered[i]? with
  | some s => b.put i s.next
  | none => b

def close (i : ℕ) : EventBroker := match b.buffered[i]? with
  | some s => b.after i s.close
  | none => b

inductive Call
  | subscribe (conversationId : Id)
  | publish (event : PublicConversationEvent)
  | next (i : ℕ)
  | close (i : ℕ)

def step : Call → EventBroker
  | .subscribe conversationId => b.subscribe conversationId
  | .publish event => b.publish options event
  | .next i => b.next i
  | .close i => b.close i

def run (calls : List Call) : EventBroker := Transition.exec (step options) initial calls

def members (conversationId : Id) : List ℕ := ((b.subscriptions conversationId).map b.sets).getD []

end EventBroker

namespace EventBroker

section Registry

variable {options : EventBrokerOptions} {b : EventBroker} {i : ℕ} {s : BufferedSubscription}

structure Tidy (b : EventBroker) : Prop where
  listed : ∀ i s, b.buffered[i]? = some s → s.terminal = false →
    b.subscriptions s.conversationId = some s.set ∧ i ∈ b.sets s.set
  active : ∀ set, ∀ i ∈ b.sets set, ∃ s, b.buffered[i]? = some s ∧ s.terminal = false ∧ s.set = set
  nodup : ∀ set, (b.sets set).Nodup
  filled : ∀ conversationId set, b.subscriptions conversationId = some set → b.sets set ≠ [] ∧
    set < b.setsCreated ∧
    ∀ i ∈ b.sets set, ∀ s, b.buffered[i]? = some s → s.conversationId = conversationId
  unused : ∀ set, b.setsCreated ≤ set → b.sets set = []

lemma tidy_initial : Tidy initial where
  listed i s hs := by simp [initial] at hs
  active set i hi := absurd hi List.not_mem_nil
  nodup _ := List.nodup_nil
  filled c set hset := by cases hset
  unused _ _ := rfl

lemma getElem?_put (hs : b.buffered[i]? = some s) (s' : BufferedSubscription) (j : ℕ) :
    (b.put i s').buffered[j]? = if i = j then some s' else b.buffered[j]? := by
  obtain ⟨hlt, -⟩ := List.getElem?_eq_some_iff.mp hs
  rw [put, List.getElem?_set]
  simp only [hlt, if_true]

lemma Tidy.put (h : Tidy b) (hs : b.buffered[i]? = some s) {s' : BufferedSubscription}
    (hc : s'.conversationId = s.conversationId) (hset : s'.set = s.set) (ht : s'.terminal = s.terminal) :
    Tidy (b.put i s') := by
  have hget := getElem?_put hs s'
  constructor
  · intro j t hj hlive
    rw [hget] at hj
    split at hj
    · rename_i heq
      subst heq
      cases hj
      have hold := h.listed i s hs (ht ▸ hlive)
      rw [hc, hset]
      exact hold
    · exact h.listed j t hj hlive
  · intro set j hj
    obtain ⟨t, htj, hlive, htset⟩ := h.active set j hj
    rw [hget]
    split
    · rename_i heq
      subst heq
      cases hs.symm.trans htj
      exact ⟨s', rfl, ht.trans hlive, hset.trans htset⟩
    · exact ⟨t, htj, hlive, htset⟩
  · exact h.nodup
  · intro c set hcset
    obtain ⟨hne, hlt, hall⟩ := h.filled c set hcset
    refine ⟨hne, hlt, fun j hj t htj => ?_⟩
    rw [hget] at htj
    split at htj
    · rename_i heq
      subst heq
      cases htj
      rw [hc]
      exact hall i hj s hs
    · exact hall j hj t htj
  · exact h.unused

lemma Tidy.detached (h : Tidy b) (hs : b.buffered[i]? = some s) (hlive : s.terminal = false)
    {s' : BufferedSubscription}
    (hc : s'.conversationId = s.conversationId) (hset : s'.set = s.set) (ht : s'.terminal = true) :
    Tidy ((b.put i s').detach i s') := by
  have hget : ∀ j, ((b.put i s').detach i s').buffered[j]? = if i = j then some s' else b.buffered[j]? :=
    getElem?_put hs s'
  have hsets : ((b.put i s').detach i s').sets = Function.update b.sets s.set ((b.sets s.set).erase i) := by
    rw [← hset]
    rfl
  have hmap : ((b.put i s').detach i s').subscriptions = if (b.sets s.set).erase i = [] then
      Function.update b.subscriptions s.conversationId none else b.subscriptions := by
    rw [← hset, ← hc]
    rfl
  obtain ⟨hlisted, hmem⟩ := h.listed i s hs hlive
  have hother : ∀ j t, b.buffered[j]? = some t → t.set ≠ s.set → j ≠ i := by
    rintro j t htj hne rfl
    cases hs.symm.trans htj
    exact hne rfl
  refine ⟨?_, ?_, ?_, ?_, ?_⟩
  · intro j t hj hlive'
    rw [hget] at hj
    split at hj
    · cases hj
      rw [ht] at hlive'
      cases hlive'
    · rename_i hne
      obtain ⟨hlisted', hmem'⟩ := h.listed j t hj hlive'
      rw [hmap, hsets]
      by_cases hsame : t.set = s.set
      · have hkept : j ∈ (b.sets s.set).erase i := (List.mem_erase_of_ne (Ne.symm hne)).mpr (hsame ▸ hmem')
        rw [if_neg (List.ne_nil_of_mem hkept), hsame, Function.update_self]
        exact ⟨hsame ▸ hlisted', hkept⟩
      · rw [Function.update_of_ne hsame]
        refine ⟨?_, hmem'⟩
        split
        · rw [Function.update_of_ne]
          · exact hlisted'
          · intro he
            rw [he, hlisted] at hlisted'
            exact hsame (Option.some.inj hlisted').symm
        · exact hlisted'
  · intro set j hj
    rw [hsets] at hj
    by_cases hsame : set = s.set
    · rw [hsame, Function.update_self] at hj
      obtain ⟨hne, hj⟩ := (h.nodup s.set).mem_erase_iff.mp hj
      obtain ⟨t, htj, hlive', htset⟩ := h.active s.set j hj
      exact ⟨t, by rw [hget, if_neg (Ne.symm hne)]; exact htj, hlive', htset.trans hsame.symm⟩
    · rw [Function.update_of_ne hsame] at hj
      obtain ⟨t, htj, hlive', htset⟩ := h.active set j hj
      have hne := hother j t htj fun he => hsame (htset.symm.trans he)
      exact ⟨t, by rw [hget, if_neg (Ne.symm hne)]; exact htj, hlive', htset⟩
  · intro set
    rw [hsets]
    by_cases hsame : set = s.set
    · rw [hsame, Function.update_self]
      exact (h.nodup s.set).erase i
    · rw [Function.update_of_ne hsame]
      exact h.nodup set
  · intro c set hcset
    have hold : b.subscriptions c = some set ∧ (set = s.set → (b.sets s.set).erase i ≠ []) := by
      rw [hmap] at hcset
      split at hcset
      · by_cases hcs : c = s.conversationId
        · rw [hcs, Function.update_self] at hcset
          cases hcset
        · rw [Function.update_of_ne hcs] at hcset
          refine ⟨hcset, fun he => ?_⟩
          exact absurd ((h.filled c set hcset).2.2 i (he ▸ hmem) s hs).symm hcs
      · rename_i hne
        exact ⟨hcset, fun _ => hne⟩
    obtain ⟨hne, hlt, hall⟩ := h.filled c set hold.1
    rw [hsets]
    have hsub : Function.update b.sets s.set ((b.sets s.set).erase i) set ⊆ b.sets set := by
      by_cases hsame : set = s.set
      · rw [hsame, Function.update_self]
        exact List.erase_subset
      · rw [Function.update_of_ne hsame]
        exact List.Subset.refl _
    refine ⟨?_, hlt, fun j hj t htj => ?_⟩
    · by_cases hsame : set = s.set
      · rw [hsame, Function.update_self]
        exact hold.2 hsame
      · rwa [Function.update_of_ne hsame]
    · rw [hget] at htj
      split at htj
      · rename_i heq
        subst heq
        cases htj
        rw [hc]
        exact hall i (hsub hj) s hs
      · exact hall j (hsub hj) t htj
  · intro set hle
    rw [hsets]
    by_cases hsame : set = s.set
    · rw [hsame, Function.update_self, h.unused s.set (hsame ▸ hle)]
      rfl
    · rw [Function.update_of_ne hsame]
      exact h.unused set hle

structure Proceeds (s : BufferedSubscription) (result : BufferedSubscription × Bool) : Prop where
  conversationId : result.1.conversationId = s.conversationId
  set : result.1.set = s.set
  stays : result.2 = false → result.1.terminal = s.terminal
  detaches : result.2 = true → s.terminal = false ∧ result.1.terminal = true

lemma Tidy.after (h : Tidy b) (hs : b.buffered[i]? = some s) {result : BufferedSubscription × Bool}
    (hp : Proceeds s result) : Tidy (b.after i result) := by
  rw [EventBroker.after]
  split
  · rename_i hd
    obtain ⟨hlive, ht⟩ := hp.detaches hd
    exact h.detached hs hlive hp.conversationId hp.set ht
  · rename_i hd
    exact h.put hs hp.conversationId hp.set (hp.stays (by simpa using hd))

lemma getElem?_after (hs : b.buffered[i]? = some s) (result : BufferedSubscription × Bool) (j : ℕ) :
    (b.after i result).buffered[j]? = if i = j then some result.1 else b.buffered[j]? := by
  rw [← getElem?_put hs result.1 j, after]
  split <;> rfl

lemma proceeds_push (s : BufferedSubscription) (bufferSize : ℕ) (event : PublicConversationEvent) :
    Proceeds s (s.push bufferSize event) := by
  unfold BufferedSubscription.push
  split
  · exact ⟨rfl, rfl, fun _ => rfl, fun h => (by cases h)⟩
  · rename_i ht
    split
    · exact ⟨rfl, rfl, fun _ => rfl, fun h => (by cases h)⟩
    · split
      · exact ⟨rfl, rfl, fun _ => rfl, fun h => (by cases h)⟩
      · exact ⟨rfl, rfl, fun h => (by cases h), fun _ => ⟨by simpa using ht, rfl⟩⟩

lemma proceeds_close (hw : s.terminal = true → s.waiter = false) : Proceeds s s.close := by
  unfold BufferedSubscription.close
  split
  · exact ⟨rfl, rfl, fun _ => rfl, fun h => (by cases h)⟩
  · rename_i hopen
    have hlive : s.terminal = false := by
      cases ht : s.terminal with
      | false => rfl
      | true => simp [ht, hw ht] at hopen
    split
    · exact ⟨rfl, rfl, fun h => (by cases h), fun _ => ⟨hlive, rfl⟩⟩
    · exact ⟨rfl, rfl, fun h => (by cases h), fun _ => ⟨hlive, rfl⟩⟩

lemma close_conversationId (s : BufferedSubscription) : s.close.1.conversationId = s.conversationId := by
  unfold BufferedSubscription.close
  split
  · rfl
  · split <;> rfl

lemma next_keeps (s : BufferedSubscription) :
    s.next.conversationId = s.conversationId ∧ s.next.set = s.set ∧ s.next.terminal = s.terminal := by
  unfold BufferedSubscription.next
  split
  · exact ⟨rfl, rfl, rfl⟩
  · split
    · exact ⟨rfl, rfl, rfl⟩
    · split <;> exact ⟨rfl, rfl, rfl⟩

lemma Tidy.push (h : Tidy b) (event : PublicConversationEvent) (i : ℕ) : Tidy (b.push options event i) := by
  rw [EventBroker.push]
  split
  · exact h.after ‹_› (proceeds_push ..)
  · exact h

lemma getElem?_push (event : PublicConversationEvent) (i j : ℕ) : (b.push options event i).buffered[j]? =
    if i = j then b.buffered[j]?.map fun s =>
      (s.push options.subscriberBufferSize event).1 else b.buffered[j]? := by
  rw [EventBroker.push]
  split
  · rename_i s hs
    rw [getElem?_after hs]
    split
    · rename_i heq
      rw [← heq, hs]
      rfl
    · rfl
  · rename_i hs
    split
    · rename_i heq
      rw [← heq, hs]
      rfl
    · rfl

lemma mem_sets_push {set j : ℕ} (event : PublicConversationEvent) (hne : i ≠ j) (hj : j ∈ b.sets set) :
    j ∈ (b.push options event i).sets set := by
  rw [EventBroker.push]
  split
  · rename_i s hs
    rw [after]
    split
    · change j ∈ Function.update b.sets _ ((b.sets _).erase i) set
      by_cases hset : set = (s.push options.subscriberBufferSize event).1.set
      · subst hset
        rw [Function.update_self]
        exact (List.mem_erase_of_ne hne.symm).mpr hj
      · rw [Function.update_of_ne hset]
        exact hj
    · exact hj
  · exact hj

lemma iterated {set : ℕ} {event : PublicConversationEvent} {left : List ℕ} (h : Tidy b) (hl : left.Nodup)
    (hin : ∀ i ∈ left, i ∈ b.sets set) :
    let b' := left.foldl (fun b i => if i ∈ b.sets set then b.push options event i else b) b
    Tidy b' ∧ ∀ j, b'.buffered[j]? = if j ∈ left then b.buffered[j]?.map fun s =>
      (s.push options.subscriberBufferSize event).1 else b.buffered[j]? := by
  induction left generalizing b with
  | nil => exact ⟨h, fun j => (if_neg List.not_mem_nil).symm⟩
  | cons i left ih =>
    obtain ⟨hnew, hrest⟩ := List.nodup_cons.mp hl
    have hleft : ∀ j ∈ left, j ∈ (b.push options event i).sets set := fun j hj =>
      mem_sets_push event (fun he => hnew (he ▸ hj)) (hin j (List.mem_cons_of_mem _ hj))
    obtain ⟨htidy, hget⟩ := ih (h.push event i) hrest hleft
    simp only [List.foldl_cons, if_pos (hin i List.mem_cons_self)]
    refine ⟨htidy, fun j => (hget j).trans ?_⟩
    rw [getElem?_push]
    by_cases hj : j ∈ left
    · have hne : i ≠ j := fun he => hnew (he ▸ hj)
      rw [if_pos hj, if_neg hne, if_pos (List.mem_cons_of_mem _ hj)]
    · rw [if_neg hj]
      by_cases hij : i = j
      · rw [if_pos hij, if_pos (hij ▸ List.mem_cons_self)]
      · rw [if_neg hij, if_neg fun hm => (List.mem_cons.mp hm).elim (fun he => hij he.symm) hj]

lemma push_terminal (ht : s.terminal = true) (bufferSize : ℕ) (event : PublicConversationEvent) :
    s.push bufferSize event = (s, false) := if_pos ht

lemma published (h : Tidy b) (event : PublicConversationEvent) : Tidy (b.publish options event) ∧
    ∀ j : ℕ, (b.publish options event).buffered[j]? = b.buffered[j]?.map fun s =>
      if s.conversationId = event.conversationId then (s.push options.subscriberBufferSize event).1 else s := by
  rw [publish]
  split
  · rename_i set hset
    obtain ⟨-, -, hall⟩ := h.filled _ _ hset
    obtain ⟨htidy, hget⟩ := @iterated options b set event _ h (h.nodup set) fun i hi => hi
    refine ⟨htidy, fun j => (hget j).trans ?_⟩
    cases hj : b.buffered[j]? with
    | none => simp
    | some s =>
      by_cases hm : j ∈ b.sets set
      · rw [if_pos hm, Option.map_some, Option.map_some, if_pos (hall j hm s hj)]
      · rw [if_neg hm, Option.map_some]
        by_cases hc : s.conversationId = event.conversationId
        · rw [if_pos hc, push_terminal]
          by_contra hlive
          obtain ⟨hlisted, hmem⟩ := h.listed j s hj (by simpa using hlive)
          rw [hc, hset] at hlisted
          exact hm (Option.some.inj hlisted ▸ hmem)
        · rw [if_neg hc]
  · rename_i hnone
    refine ⟨h, fun j => ?_⟩
    cases hj : b.buffered[j]? with
    | none => rfl
    | some s =>
      rw [Option.map_some]
      by_cases hc : s.conversationId = event.conversationId
      · rw [if_pos hc, push_terminal]
        by_contra hlive
        obtain ⟨hlisted, -⟩ := h.listed j s hj (by simpa using hlive)
        rw [hc, hnone] at hlisted
        cases hlisted
      · rw [if_neg hc]

lemma set_subscribe (h : Tidy b) (c : Id) {j : ℕ} (hj : j ∈ b.sets ((b.subscriptions c).getD b.setsCreated)) :
    b.subscriptions c = some ((b.subscriptions c).getD b.setsCreated) := by
  cases hc : b.subscriptions c with
  | some set => rfl
  | none =>
    rw [hc, Option.getD_none, h.unused _ (Nat.le_refl _)] at hj
    exact absurd hj List.not_mem_nil

lemma lt_of_mem (h : Tidy b) {set : ℕ} (hi : i ∈ b.sets set) : i < b.buffered.length := by
  obtain ⟨s, hs, -⟩ := h.active set i hi
  exact (List.getElem?_eq_some_iff.mp hs).1

lemma Tidy.subscribe (h : Tidy b) (c : Id) : Tidy (b.subscribe c) := by
  have hget : ∀ j : ℕ, (b.subscribe c).buffered[j]? = if j < b.buffered.length then b.buffered[j]? else
      if j = b.buffered.length then some ⟨c, (b.subscriptions c).getD b.setsCreated, [], false, false, []⟩
        else none := by
    intro j
    change (b.buffered ++ [_])[j]? = _
    split
    · exact List.getElem?_append_left ‹_›
    · rename_i hge
      rw [List.getElem?_append_right (Nat.not_lt.mp hge)]
      split
      · rename_i heq
        rw [heq, Nat.sub_self]
        rfl
      · exact List.getElem?_eq_none (by rw [List.length_singleton]; omega)
  have hold : ∀ {j : ℕ} {s : BufferedSubscription}, (b.subscribe c).buffered[j]? = some s →
    b.buffered[j]? = some s ∨
      j = b.buffered.length ∧ s = ⟨c, (b.subscriptions c).getD b.setsCreated, [], false, false, []⟩ := by
    intro j s hj
    rw [hget] at hj
    split at hj
    · exact Or.inl hj
    · split at hj
      · cases hj
        exact Or.inr ⟨‹_›, rfl⟩
      · cases hj
  have hnew : ∀ {j : ℕ} {s : BufferedSubscription}, b.buffered[j]? = some s →
    (b.subscribe c).buffered[j]? = some s := by
    intro j s hj
    rw [hget, if_pos (List.getElem?_eq_some_iff.mp hj).1, hj]
  have hmem : ∀ {set j : ℕ}, j ∈ (b.subscribe c).sets set → j ∈ b.sets set ∨
      set = (b.subscriptions c).getD b.setsCreated ∧ j = b.buffered.length := by
    intro set j hj
    change j ∈ Function.update b.sets _ _ set at hj
    by_cases hset : set = (b.subscriptions c).getD b.setsCreated
    · subst hset
      rw [Function.update_self] at hj
      rcases List.mem_append.mp hj with hj | hj
      · exact Or.inl hj
      · exact Or.inr ⟨rfl, List.mem_singleton.mp hj⟩
    · rw [Function.update_of_ne hset] at hj
      exact Or.inl hj
  have hsub : ∀ {set j : ℕ}, j ∈ b.sets set → j ∈ (b.subscribe c).sets set := by
    intro set j hj
    change j ∈ Function.update b.sets _ _ set
    by_cases hset : set = (b.subscriptions c).getD b.setsCreated
    · subst hset
      rw [Function.update_self]
      exact List.mem_append_left _ hj
    · rwa [Function.update_of_ne hset]
  have hlast : b.buffered.length ∈ (b.subscribe c).sets ((b.subscriptions c).getD b.setsCreated) := by
    change _ ∈ Function.update b.sets _ _ _
    rw [Function.update_self]
    exact List.mem_append_right _ (List.mem_singleton_self _)
  have hmap : ∀ c', (b.subscribe c).subscriptions c' =
      if c' = c then some ((b.subscriptions c).getD b.setsCreated) else b.subscriptions c' := by
    intro c'
    change Function.update b.subscriptions c _ c' = _
    rw [Function.update_apply]
  have hcreated : b.setsCreated ≤ (b.subscribe c).setsCreated ∧
      (b.subscriptions c).getD b.setsCreated < (b.subscribe c).setsCreated := by
    change b.setsCreated ≤ (if _ then _ else _) ∧ _ < (if _ then _ else _)
    cases hc : b.subscriptions c with
    | none => exact ⟨Nat.le_succ _, Nat.lt_succ_self _⟩
    | some set => exact ⟨Nat.le_refl _, (h.filled c set hc).2.1⟩
  refine ⟨?_, ?_, ?_, ?_, ?_⟩
  · intro j s hj hlive
    rcases hold hj with hj | ⟨rfl, rfl⟩
    · obtain ⟨hlisted, hm⟩ := h.listed j s hj hlive
      refine ⟨?_, hsub hm⟩
      rw [hmap]
      split
      · rename_i hc
        rw [hc] at hlisted
        rw [hlisted]
        rfl
      · exact hlisted
    · exact ⟨(hmap c).trans (if_pos rfl), hlast⟩
  · intro set j hj
    rcases hmem hj with hj | ⟨rfl, rfl⟩
    · obtain ⟨s, hs, hlive, hset⟩ := h.active set j hj
      exact ⟨s, hnew hs, hlive, hset⟩
    · refine ⟨⟨c, (b.subscriptions c).getD b.setsCreated, [], false, false, []⟩, ?_, rfl, rfl⟩
      rw [hget, if_neg (Nat.lt_irrefl _), if_pos rfl]
  · intro set
    change (Function.update b.sets _ _ set).Nodup
    by_cases hset : set = (b.subscriptions c).getD b.setsCreated
    · subst hset
      rw [Function.update_self]
      refine List.nodup_append.mpr ⟨h.nodup _, List.nodup_singleton _, fun j hj k hk => ?_⟩
      rw [List.mem_singleton.mp hk]
      exact Nat.ne_of_lt (lt_of_mem h hj)
    · rw [Function.update_of_ne hset]
      exact h.nodup set
  · intro c' set hset
    rw [hmap] at hset
    split at hset
    · rename_i hc
      cases hset
      refine ⟨List.ne_nil_of_mem hlast, hcreated.2, fun j hj s hs => ?_⟩
      rcases hold hs with hs | ⟨rfl, rfl⟩
      · rcases hmem hj with hj | ⟨-, rfl⟩
        · exact ((h.filled c _ (set_subscribe h c hj)).2.2 j hj s hs).trans hc.symm
        · exact absurd (List.getElem?_eq_some_iff.mp hs).1 (Nat.lt_irrefl _)
      · exact hc.symm
    · rename_i hc
      obtain ⟨hne, hlt, hall⟩ := h.filled c' set hset
      obtain ⟨k, hk⟩ := List.exists_mem_of_ne_nil _ hne
      have hother : set ≠ (b.subscriptions c).getD b.setsCreated := by
        rintro rfl
        obtain ⟨s, hs, -⟩ := h.active _ k hk
        have hsame := (h.filled c _ (set_subscribe h c hk)).2.2 k hk s hs
        exact hc ((hall k hk s hs).symm.trans hsame)
      refine ⟨List.ne_nil_of_mem (hsub hk), Nat.lt_of_lt_of_le hlt hcreated.1, fun j hj s hs => ?_⟩
      rcases hmem hj with hj | ⟨rfl, -⟩
      · rcases hold hs with hs | ⟨rfl, -⟩
        · exact hall j hj s hs
        · exact absurd (lt_of_mem h hj) (Nat.lt_irrefl _)
      · exact absurd rfl hother
  · intro set hle
    change Function.update b.sets _ _ set = []
    rw [Function.update_of_ne (by omega)]
    exact h.unused set (Nat.le_trans hcreated.1 hle)

end Registry

def subscribed (calls : List Call) : List Id := calls.filterMap fun
  | .subscribe conversationId => some conversationId
  | _ => none

def publishedFor (conversationId : Id) (calls : List Call) : List PublicConversationEvent := calls.filterMap fun
  | .publish event => if event.conversationId = conversationId then some event else none
  | _ => none

/-- The events that are published for the conversation of a subscription after it began. -/
def heard : ℕ → List Call → List PublicConversationEvent
  | 0, .subscribe conversationId :: later => publishedFor conversationId later
  | i + 1, .subscribe _ :: later => heard i later
  | i, _ :: later => heard i later
  | _, [] => []

def Crowded (bufferSize : ℕ) (s : BufferedSubscription) : Prop :=
  s.waiter = false ∧ ∃ queued : List PublicConversationEvent, s.queue = queued.map .event ∧
    queued.length = bufferSize

def Closed (options : EventBrokerOptions) (calls : List Call) (i : ℕ) : Prop :=
  Transition.Once (step options) (fun b call => call = .close i ∧ i < b.buffered.length) initial calls

/-- An event of its conversation has arrived at a subscription while it was crowded. -/
def Overran (options : EventBrokerOptions) (calls : List Call) (i : ℕ) : Prop :=
  Transition.Once (step options) (fun b call => ∃ event s, call = .publish event ∧ b.buffered[i]? = some s ∧
    s.conversationId = event.conversationId ∧ Crowded options.subscriberBufferSize s) initial calls

section Delivery

open BufferedSubscription

variable {options : EventBrokerOptions} {calls : List Call} {c : Id} {i : ℕ} {s : BufferedSubscription}

@[simp] lemma subscribed_subscribe : subscribed (.subscribe c :: calls) = c :: subscribed calls := rfl

@[simp] lemma subscribed_publish (event : PublicConversationEvent) :
    subscribed (.publish event :: calls) = subscribed calls := rfl

@[simp] lemma subscribed_next : subscribed (.next i :: calls) = subscribed calls := rfl

@[simp] lemma subscribed_close : subscribed (.close i :: calls) = subscribed calls := rfl

lemma subscribed_append (earlier later : List Call) :
    subscribed (earlier ++ later) = subscribed earlier ++ subscribed later := List.filterMap_append

lemma publishedFor_append (c : Id) (earlier later : List Call) :
    publishedFor c (earlier ++ later) = publishedFor c earlier ++ publishedFor c later := List.filterMap_append

lemma heard_publish (event : PublicConversationEvent) (i : ℕ) (calls : List Call) :
    heard i (calls ++ [.publish event]) =
      heard i calls ++ if (subscribed calls)[i]? = some event.conversationId then [event] else [] := by
  induction calls generalizing i with
  | nil => simp [heard, subscribed]
  | cons call calls ih =>
    cases call with
    | subscribe c =>
      cases i with
      | zero =>
        by_cases hc : event.conversationId = c
        · simp [heard, publishedFor_append, hc]
          simp [publishedFor, hc]
        · simp [heard, publishedFor_append, Ne.symm hc]
          simp [publishedFor, hc]
      | succ i => exact ih i
    | publish event' =>
      simp only [List.cons_append, heard]
      exact ih i
    | next k =>
      simp only [List.cons_append, heard]
      exact ih i
    | close k =>
      simp only [List.cons_append, heard]
      exact ih i

lemma heard_snoc {call : Call} (h : ∀ event, call ≠ .publish event) (i : ℕ) (calls : List Call) :
    heard i (calls ++ [call]) = heard i calls := by
  have hnone : ∀ c, publishedFor c [call] = [] := by
    intro c
    cases call with
    | publish event => exact absurd rfl (h event)
    | _ => rfl
  induction calls generalizing i with
  | nil =>
    cases call with
    | publish event => exact absurd rfl (h event)
    | subscribe c => cases i <;> simp [heard, publishedFor]
    | _ => simp [heard]
  | cons call' calls ih =>
    cases call' with
    | subscribe c =>
      cases i with
      | zero => simp [heard, publishedFor_append, hnone]
      | succ i => simpa [heard] using ih i
    | _ => simpa [heard] using ih i

lemma heard_beyond (h : (subscribed calls).length ≤ i) : heard i calls = [] := by
  induction calls generalizing i with
  | nil => simp [heard]
  | cons call calls ih =>
    cases call with
    | subscribe c =>
      cases i with
      | zero => simp at h
      | succ i => exact ih (by simpa using h)
    | publish event => simpa [heard] using ih h
    | next k => simpa [heard] using ih h
    | close k => simpa [heard] using ih h

end Delivery

section Subscriptions

open BufferedSubscription

variable {s : BufferedSubscription}

inductive Standing (bufferSize : ℕ) (heard : List PublicConversationEvent) (closed overran : Prop)
    (s : BufferedSubscription) : Prop
  | running (live : s.terminal = false) (front queued : List PublicConversationEvent)
      (yielded : s.yielded = front.map .event) (queue : s.queue = queued.map .event)
        (all : front ++ queued = heard)
      (waits : s.waiter = true → queued = []) (fits : queued.length ≤ bufferSize) (opened : ¬ closed)
        (met : ¬ overran)
  | overflowed (dead : s.terminal = true) (idle : s.waiter = false) (front : List PublicConversationEvent)
      (part : front <+: heard) (told : s.yielded = front.map .event ∧ s.queue = [.overflow] ∨
        s.queue = [] ∧ ∃ n, s.yielded = front.map .event ++ .overflow :: List.replicate n .closed) (lost : overran)
  | shut (dead : s.terminal = true) (idle : s.waiter = false) (empty : s.queue = [])
      (front : List PublicConversationEvent) (part : front <+: heard) (n : ℕ)
      (yielded : s.yielded = front.map .event ++ List.replicate n .closed) (ended : closed)

variable {bufferSize : ℕ} {heard : List PublicConversationEvent} {closed overran : Prop}

lemma Standing.idle (h : Standing bufferSize heard closed overran s) (ht : s.terminal = true) :
    s.waiter = false := by
  cases h with
  | running live => rw [ht] at live; cases live
  | overflowed dead idle => exact idle
  | shut dead idle => exact idle

lemma Standing.push (h : Standing bufferSize heard closed overran s) (event : PublicConversationEvent) :
    Standing bufferSize (heard ++ [event]) closed (overran ∨ Crowded bufferSize s) (s.push bufferSize event).1 := by
  cases h with
  | running live front queued yielded queue all waits fits opened met =>
    unfold BufferedSubscription.push
    rw [if_neg (by simp [live])]
    split
    · rename_i hw
      have hq := waits hw
      subst hq
      rw [List.append_nil] at all
      subst all
      refine .running live (front ++ [event]) [] ?_ queue (List.append_nil _) (fun _ => rfl) fits opened ?_
      · simp [yielded]
      · rintro (h | ⟨hidle, -⟩)
        · exact met h
        · rw [hw] at hidle
          cases hidle
    · rename_i hw
      split
      · rename_i hlt
        refine .running live front (queued ++ [event]) yielded ?_ ?_ (fun h => absurd h hw) ?_ opened ?_
        · simp [queue]
        · rw [← List.append_assoc, all]
        · rw [queue, List.length_map] at hlt
          rw [List.length_append]
          exact hlt
        · rintro (h | ⟨-, queued', hq, hlen⟩)
          · exact met h
          · rw [hq, List.length_map] at hlt
            omega
      · rename_i hge
        refine .overflowed rfl (by simpa using hw) front ?_ (Or.inl ⟨yielded, rfl⟩)
          (Or.inr ⟨by simpa using hw, ?_⟩)
        · rw [← all]
          exact (List.prefix_append _ _).trans (List.prefix_append _ _)
        · refine ⟨queued, queue, ?_⟩
          rw [queue, List.length_map] at hge
          omega
  | overflowed dead idle front part told lost =>
    rw [push_terminal dead]
    exact .overflowed dead idle front (part.trans (List.prefix_append _ _)) told (Or.inl lost)
  | shut dead idle empty front part n yielded ended =>
    rw [push_terminal dead]
    exact .shut dead idle empty front (part.trans (List.prefix_append _ _)) n yielded ended

lemma Standing.next (h : Standing bufferSize heard closed overran s) :
    Standing bufferSize heard closed overran s.next := by
  unfold BufferedSubscription.next
  cases h with
  | running live front queued yielded queue all waits fits opened met =>
    cases queued with
    | nil =>
      have hq : s.queue = [] := queue
      simp only [hq]
      rw [if_neg (by simp [live])]
      split
      · exact .running live front [] yielded hq all (fun _ => rfl) fits opened met
      · exact .running live front [] yielded rfl all (fun _ => rfl) fits opened met
    | cons event queued =>
      have hq : s.queue = .event event :: queued.map .event := queue
      rw [hq]
      refine .running live (front ++ [event]) queued ?_ rfl ?_ ?_ ?_ opened met
      · simp [yielded]
      · simpa using all
      · intro hw
        cases waits hw
      · exact Nat.le_of_succ_le fits
  | overflowed dead idle front part told lost =>
    rcases told with ⟨yielded, queue⟩ | ⟨queue, n, yielded⟩
    · rw [queue]
      exact .overflowed dead idle front part (Or.inr ⟨rfl, 0, by simp [yielded]⟩) lost
    · rw [queue]
      dsimp only
      rw [if_pos dead]
      refine .overflowed dead idle front part (Or.inr ⟨rfl, n + 1, ?_⟩) lost
      simp [yielded, List.replicate_succ']
  | shut dead idle empty front part n yielded ended =>
    rw [empty]
    dsimp only
    rw [if_pos dead]
    refine .shut dead idle rfl front part (n + 1) ?_ ended
    simp [yielded, List.replicate_succ']

lemma Standing.close (h : Standing bufferSize heard closed overran s) :
    Standing bufferSize heard True overran s.close.1 := by
  unfold BufferedSubscription.close
  cases h with
  | running live front queued yielded queue all waits fits opened met =>
    have hpart : front <+: heard := all ▸ List.prefix_append _ _
    rw [if_neg (by simp [live])]
    split
    · exact .shut rfl rfl rfl front hpart 1 (by simp [yielded]) trivial
    · rename_i hw
      exact .shut rfl (by simpa using hw) rfl front hpart 0 (by simp [yielded]) trivial
  | overflowed dead idle front part told lost =>
    rw [if_pos (by simp [dead, idle])]
    exact .overflowed dead idle front part told lost
  | shut dead idle empty front part n yielded ended =>
    rw [if_pos (by simp [dead, idle])]
    exact .shut dead idle empty front part n yielded trivial

end Subscriptions

section Calls

variable {options : EventBrokerOptions} {calls : List Call} {call : Call} {i : ℕ} {s : BufferedSubscription}

lemma run_snoc : run options (calls ++ [call]) = step options (run options calls) call := by
  rw [run, Transition.exec_append]
  rfl

lemma closed_snoc : Closed options (calls ++ [call]) i ↔
    Closed options calls i ∨ call = .close i ∧ i < (run options calls).buffered.length := Transition.once_snoc

lemma overran_snoc : Overran options (calls ++ [call]) i ↔ Overran options calls i ∨ ∃ event s,
    call = .publish event ∧
    (run options calls).buffered[i]? = some s ∧ s.conversationId = event.conversationId ∧
      Crowded options.subscriberBufferSize s := Transition.once_snoc

def Stands (options : EventBrokerOptions) (calls : List Call) (i : ℕ) (s : BufferedSubscription) : Prop :=
  Standing options.subscriberBufferSize (heard i calls) (Closed options calls i) (Overran options calls i) s

structure Correct (options : EventBrokerOptions) (calls : List Call) : Prop where
  tidy : Tidy (run options calls)
  conversations : (run options calls).buffered.map (·.conversationId) = subscribed calls
  stands : ∀ i s, (run options calls).buffered[i]? = some s → Stands options calls i s
  fresh : ∀ i : ℕ, (run options calls).buffered[i]? = none → ¬ Closed options calls i ∧ ¬ Overran options calls i

lemma Standing.congr {bufferSize : ℕ} {heard heard' : List PublicConversationEvent}
    {closed closed' overran overran' : Prop}
    (h : Standing bufferSize heard closed overran s) (hh : heard = heard') (hc : closed ↔ closed')
    (ho : overran ↔ overran') : Standing bufferSize heard' closed' overran' s := by
  rw [← hh, ← propext hc, ← propext ho]
  exact h

lemma getElem?_subscribed (h : Correct options calls) (i : ℕ) :
    (subscribed calls)[i]? = (run options calls).buffered[i]?.map (·.conversationId) := by
  rw [← h.conversations, List.getElem?_map]

lemma Stands.snoc (h : Stands options calls i s) (hh : heard i (calls ++ [call]) = heard i calls)
    (hc : call ≠ .close i) (ho : ∀ event, call = .publish event → (run options calls).buffered[i]? = some s →
      s.conversationId ≠ event.conversationId) (hs : (run options calls).buffered[i]? = some s) :
    Stands options (calls ++ [call]) i s := by
  refine Standing.congr h hh.symm ?_ ?_
  · rw [closed_snoc]
    exact ⟨Or.inl, fun h => h.resolve_right fun he => hc he.1⟩
  · rw [overran_snoc]
    refine ⟨Or.inl, fun h => h.resolve_right ?_⟩
    rintro ⟨event, t, he, ht, hsame, -⟩
    cases hs.symm.trans ht
    exact ho event he hs hsame

lemma Correct.fresh_snoc (h : Correct options calls) (hnone : (run options calls).buffered[i]? = none) :
    ¬ Closed options (calls ++ [call]) i ∧ ¬ Overran options (calls ++ [call]) i := by
  obtain ⟨hclosed, hoverran⟩ := h.fresh i hnone
  rw [closed_snoc, overran_snoc, not_or, not_or]
  refine ⟨⟨hclosed, fun ⟨_, hlt⟩ => ?_⟩, hoverran, fun ⟨_, _, _, hs, _⟩ => ?_⟩
  · rw [List.getElem?_eq_none_iff] at hnone
    omega
  · rw [hnone] at hs
    cases hs

lemma Correct.subscribe (h : Correct options calls) (c : Id) : Correct options (calls ++ [.subscribe c]) := by
  have hrun : run options (calls ++ [.subscribe c]) = (run options calls).subscribe c := run_snoc
  have hbuffered : (run options (calls ++ [.subscribe c])).buffered = (run options calls).buffered ++
      [⟨c, ((run options calls).subscriptions c).getD (run options calls).setsCreated, [], false, false, []⟩] := by
    rw [hrun]
    rfl
  have hlen : (subscribed calls).length = (run options calls).buffered.length := by
    rw [← h.conversations, List.length_map]
  refine ⟨hrun ▸ h.tidy.subscribe c, ?_, fun i s hs => ?_, fun i hnone => h.fresh_snoc ?_⟩
  · rw [hbuffered, List.map_append, h.conversations, subscribed_append]
    rfl
  · rw [hbuffered] at hs
    rcases Nat.lt_or_ge i (run options calls).buffered.length with hlt | hge
    · rw [List.getElem?_append_left hlt] at hs
      exact (h.stands i s hs).snoc (heard_snoc (fun _ he => by cases he) i calls) (fun he => by cases he)
        (fun _ he => by cases he) hs
    · rw [List.getElem?_append_right hge] at hs
      obtain ⟨hclosed, hoverran⟩ :=
        @Correct.fresh_snoc options calls (.subscribe c) i h (List.getElem?_eq_none hge)
      have hfirst : i - (run options calls).buffered.length = 0 := by
        by_contra hne
        rw [List.getElem?_eq_none (by rw [List.length_singleton]; omega)] at hs
        cases hs
      rw [hfirst] at hs
      cases hs
      refine .running rfl [] [] rfl rfl ?_ (fun _ => rfl) (Nat.zero_le _) hclosed hoverran
      rw [heard_snoc (fun _ he => by cases he), heard_beyond (hlen ▸ hge)]
      rfl
  · rw [hbuffered, List.getElem?_eq_none_iff, List.length_append] at hnone
    exact List.getElem?_eq_none (by omega)

lemma Correct.mapped (h : Correct options calls) (htidy : Tidy (run options (calls ++ [call])))
    (hsub : subscribed [call] = []) {f : ℕ → BufferedSubscription → BufferedSubscription}
    (hget : ∀ j : ℕ, (run options (calls ++ [call])).buffered[j]? = (run options calls).buffered[j]?.map (f j))
    (hf : ∀ j s, (f j s).conversationId = s.conversationId)
    (hstands : ∀ j s, (run options calls).buffered[j]? = some s → Stands options (calls ++ [call]) j (f j s)) :
    Correct options (calls ++ [call]) := by
  refine ⟨htidy, ?_, fun j s hs => ?_, fun j hnone => h.fresh_snoc ?_⟩
  · rw [subscribed_append, hsub, List.append_nil]
    refine List.ext_getElem? fun j => ?_
    rw [List.getElem?_map, hget, getElem?_subscribed h, Option.map_map]
    congr 1
    exact funext fun s => hf j s
  · rw [hget] at hs
    obtain ⟨t, ht, rfl⟩ := Option.map_eq_some_iff.mp hs
    exact hstands j t ht
  · rw [hget] at hnone
    exact Option.map_eq_none_iff.mp hnone

lemma Correct.publish (h : Correct options calls) (event : PublicConversationEvent) :
    Correct options (calls ++ [.publish event]) := by
  obtain ⟨htidy, hget⟩ := @published options _ h.tidy event
  have hrun : run options (calls ++ [.publish event]) = (run options calls).publish options event := run_snoc
  refine h.mapped (hrun ▸ htidy) rfl (hrun ▸ hget) (fun j s => ?_) fun j s hs => ?_
  · split
    · exact (proceeds_push ..).conversationId
    · rfl
  · have hsub : (subscribed calls)[j]? = some s.conversationId := by
      rw [getElem?_subscribed h, hs]
      rfl
    split
    · rename_i hc
      refine Standing.congr ((h.stands j s hs).push event) ?_ ?_ ?_
      · rw [heard_publish, if_pos (hc ▸ hsub)]
      · rw [closed_snoc]
        exact ⟨Or.inl, fun h => h.resolve_right fun he => by cases he.1⟩
      · rw [overran_snoc]
        refine or_congr Iff.rfl ⟨fun hcrowded => ⟨event, s, rfl, hs, hc, hcrowded⟩, ?_⟩
        rintro ⟨event', t, he, ht, -, hcrowded⟩
        cases hs.symm.trans ht
        exact hcrowded
    · rename_i hc
      refine (h.stands j s hs).snoc ?_ (fun he => by cases he) (fun event' he _ => ?_) hs
      · rw [heard_publish, hsub, if_neg fun he => hc (Option.some.inj he), List.append_nil]
      · cases he
        exact hc

lemma Correct.next (h : Correct options calls) (i : ℕ) : Correct options (calls ++ [.next i]) := by
  have hrun : run options (calls ++ [.next i]) = (run options calls).next i := run_snoc
  have hkept : ∀ {j s}, (run options calls).buffered[j]? = some s →
    Stands options (calls ++ [.next i]) j s := fun hs =>
    (h.stands _ _ hs).snoc (heard_snoc (fun _ he => by cases he) _ _) (fun he => by cases he)
      (fun _ he => by cases he) hs
  rw [EventBroker.next] at hrun
  refine h.mapped (f := fun j s => if i = j then s.next else s) ?_ rfl (fun j => ?_) (fun j s => ?_)
    fun j s hs => ?_
  · rw [hrun]
    split
    · obtain ⟨hc, hset, ht⟩ := next_keeps _
      exact h.tidy.put ‹_› hc hset ht
    · exact h.tidy
  · rw [hrun]
    split
    · rename_i s hs
      rw [getElem?_put hs]
      by_cases hij : i = j
      · subst hij
        simp [hs]
      · simp [hij]
    · rename_i hnone
      by_cases hij : i = j
      · subst hij
        simp [hnone]
      · simp [hij]
  · split
    · exact (next_keeps s).1
    · rfl
  · split
    · exact Standing.next (hkept hs)
    · exact hkept hs

lemma Correct.close (h : Correct options calls) (i : ℕ) : Correct options (calls ++ [.close i]) := by
  have hrun : run options (calls ++ [.close i]) = (run options calls).close i := run_snoc
  have hidle : ∀ s, (run options calls).buffered[i]? = some s → s.terminal = true → s.waiter = false :=
    fun s hs => (h.stands i s hs).idle
  rw [EventBroker.close] at hrun
  cases hi : (run options calls).buffered[i]? with
  | none =>
    rw [hi] at hrun
    refine h.mapped (f := fun _ s => s) (hrun ▸ h.tidy) rfl (fun j => ?_) (fun _ _ => rfl) fun j s hs => ?_
    · rw [hrun, Option.map_id']
    · refine (h.stands j s hs).snoc (heard_snoc (fun _ he => by cases he) _ _) (fun he => ?_)
        (fun _ he => by cases he) hs
      cases he
      rw [hi] at hs
      cases hs
  | some t =>
    rw [hi] at hrun
    have hget := getElem?_after hi t.close
    refine h.mapped (f := fun j s => if i = j then s.close.1 else s) ?_ rfl (fun j => ?_) (fun j s => ?_)
      fun j s hs => ?_
    · rw [hrun]
      exact h.tidy.after hi (proceeds_close (hidle t hi))
    · rw [hrun, hget]
      by_cases hij : i = j
      · subst hij
        simp [hi]
      · simp [hij]
    · split
      · exact close_conversationId s
      · rfl
    · split
      · rename_i hij
        subst hij
        refine Standing.congr (h.stands i s hs).close ?_ ?_ ?_
        · rw [heard_snoc fun _ he => by cases he]
        · rw [closed_snoc]
          exact ⟨fun _ => Or.inr ⟨rfl, (List.getElem?_eq_some_iff.mp hs).1⟩, fun _ => trivial⟩
        · rw [overran_snoc]
          refine ⟨Or.inl, fun h => h.resolve_right ?_⟩
          rintro ⟨_, _, he, -⟩
          cases he
      · rename_i hij
        exact (h.stands j s hs).snoc (heard_snoc (fun _ he => by cases he) _ _)
          (fun he => hij (Call.close.inj he)) (fun _ he => by cases he) hs

lemma correct (options : EventBrokerOptions) (calls : List Call) : Correct options calls := by
  induction calls using List.reverseRecOn with
  | nil =>
    refine ⟨tidy_initial, rfl, fun i s hs => ?_, fun i _ => ⟨fun h => h, fun h => h⟩⟩
    simp [run, initial] at hs
  | append_singleton calls call ih =>
    cases call with
    | subscribe c => exact ih.subscribe c
    | publish event => exact ih.publish event
    | next i => exact ih.next i
    | close i => exact ih.close i

lemma Correct.mem_members (h : Correct options calls) (c : Id) (i : ℕ) : i ∈ (run options calls).members c ↔
    (subscribed calls)[i]? = some c ∧ ¬ Closed options calls i ∧ ¬ Overran options calls i := by
  rw [getElem?_subscribed h, members]
  constructor
  · intro hi
    cases hset : (run options calls).subscriptions c with
    | none =>
      rw [hset] at hi
      cases hi
    | some set =>
      rw [hset] at hi
      obtain ⟨s, hs, hlive, -⟩ := h.tidy.active set i hi
      have hc := (h.tidy.filled c set hset).2.2 i hi s hs
      refine ⟨by rw [hs, Option.map_some, hc], ?_⟩
      cases h.stands i s hs with
      | running _ _ _ _ _ _ _ _ opened met => exact ⟨opened, met⟩
      | overflowed dead => simp [hlive] at dead
      | shut dead => simp [hlive] at dead
  · rintro ⟨hc, hclosed, hoverran⟩
    obtain ⟨s, hs, rfl⟩ := Option.map_eq_some_iff.mp hc
    cases h.stands i s hs with
    | running live =>
      obtain ⟨hset, hi⟩ := h.tidy.listed i s hs live
      rw [hset]
      exact hi
    | overflowed _ _ _ _ _ lost => exact absurd lost hoverran
    | shut _ _ _ _ _ _ _ ended => exact absurd ended hclosed

theorem broker_delivery (options : EventBrokerOptions) (calls : List Call) :
    (run options calls).buffered.map (·.conversationId) = subscribed calls ∧
    (∀ i s, (run options calls).buffered[i]? = some s →
      (∃ front tail, s.yielded = front.map .event ++ tail ∧ front <+: heard i calls ∧
        (tail = [] ∨
          Overran options calls i ∧ (∃ n, tail = .overflow :: List.replicate n .closed) ∨
          Closed options calls i ∧ ∃ n, tail = List.replicate n .closed)) ∧
      s.queue.length ≤ options.subscriberBufferSize) ∧
    (∀ c i, i ∈ (run options calls).members c ↔
      (subscribed calls)[i]? = some c ∧ ¬ Closed options calls i ∧ ¬ Overran options calls i) ∧
    ∀ c set, (run options calls).subscriptions c = some set → (run options calls).sets set ≠ [] := by
  have h := correct options calls
  refine ⟨h.conversations, fun i s hs => ?_, h.mem_members, fun c set hset => (h.tidy.filled c set hset).1⟩
  cases h.stands i s hs with
  | running _ front queued yielded queue all _ fits =>
    refine ⟨⟨front, [], by rw [yielded, List.append_nil], ?_, Or.inl rfl⟩, ?_⟩
    · rw [← all]
      exact List.prefix_append _ _
    · rw [queue, List.length_map]
      exact fits
  | overflowed _ _ front part told lost =>
    rcases told with ⟨yielded, queue⟩ | ⟨queue, n, yielded⟩
    · refine ⟨⟨front, [], by rw [yielded, List.append_nil], part, Or.inl rfl⟩, ?_⟩
      rw [queue]
      exact options.positive
    · refine ⟨⟨front, _, yielded, part, Or.inr (Or.inl ⟨lost, n, rfl⟩)⟩, ?_⟩
      rw [queue]
      exact Nat.zero_le _
  | shut _ _ empty front part n yielded ended =>
    refine ⟨⟨front, _, yielded, part, Or.inr (Or.inr ⟨ended, n, rfl⟩)⟩, ?_⟩
    rw [empty]
    exact Nat.zero_le _

end Calls

end EventBroker

end ChatCore.Services
