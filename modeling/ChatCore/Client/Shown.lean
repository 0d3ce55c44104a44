import ChatCore.Client.Replies
import Mathlib.Data.List.Induction

namespace ChatCore.Client.Shown

open Cooperative ChatClient Protocol Services ConversationService EventStore ChatState Reducer Replies
  Streams Transition
open Program hiding pure

variable {options : ChatClientOptions}

section Steps

abbrev Answer (options : ChatClientOptions) :=
  ChatClient options × Σ request, Except ChatError (Request.Reply request)

def answerOf (c : ChatClient options) : Action → Option (Answer options)
  | .happens _ => none
  | .answers _ request reply => if c.admissible request reply then some (c, ⟨request, reply⟩) else none

def Knows (r : Running options) (known : Answers options) : Prop := ∀ task ∈ r.tasks, task.2.Open Allowed known

variable {known : Answers options} {last : Option (Answer options)} {c c' : ChatClient options}
  {r : Running options}

lemma allowed_of_permits (h : Traced.Permits Allowed known last c c') : Allowed (last.toList ++ known) c c' := by
  rcases h with h | ⟨x, got, rfl, hgot, h⟩
  · exact h.mono (List.nil_subset _)
  · exact h.mono (List.cons_subset_cons x hgot)

lemma step_changes (hr : Knows r known) (a : Action) :
    Relation.ReflTransGen (Allowed ((answerOf r.state a).toList ++ known)) r.state (step r a).state ∧
      Knows (step r a) ((answerOf r.state a).toList ++ known) := by
  cases a with
  | happens stimulus =>
    obtain ⟨hchanges, hopen⟩ := Traced.sources_invoke honest_body (honest_reaction stimulus) hr
    exact ⟨Relation.ReflTransGen.mono (fun _ _ h => allowed_of_permits h) _ _ hchanges, hopen⟩
  | answers task request reply =>
    by_cases hadmissible : r.state.admissible request reply = true
    · obtain ⟨hchanges, hopen⟩ := Traced.sources_resume honest_body task request reply hr
      have hstep : step r (.answers task request reply) = r.resume body task request reply := if_pos hadmissible
      have hanswer : answerOf r.state (.answers task request reply) = some (r.state, ⟨request, reply⟩) :=
        if_pos hadmissible
      rw [hstep, hanswer]
      exact ⟨Relation.ReflTransGen.mono (fun _ _ h => allowed_of_permits h) _ _ hchanges, hopen⟩
    · have hstep : step r (.answers task request reply) = r := if_neg hadmissible
      have hanswer : answerOf r.state (.answers task request reply) = none := if_neg hadmissible
      rw [hstep, hanswer]
      exact ⟨.refl, hr⟩

def Came (actions : List Action) (x : Answer options) : Prop := ∃ before task after,
  actions = before ++ .answers task x.2.1 x.2.2 :: after ∧ x.1 = (run options before).state ∧
    x.1.admissible x.2.1 x.2.2 = true

lemma Came.append {actions : List Action} {x : Answer options} (h : Came actions x) (later : List Action) :
    Came (actions ++ later) x := by
  obtain ⟨before, task, after, rfl, hrest⟩ := h
  exact ⟨before, task, after ++ later, by rw [List.append_assoc, List.cons_append], hrest⟩

lemma run_concat (actions : List Action) (a : Action) :
    run options (actions ++ [a]) = step (run options actions) a :=
  exec_append _ _ _

lemma came_concat {actions : List Action} (h : ∀ x ∈ known, Came actions x) (a : Action) :
    ∀ x ∈ (answerOf (run options actions).state a).toList ++ known, Came (actions ++ [a]) x := by
  intro x hx
  rcases List.mem_append.mp hx with hx | hx
  · cases a with
    | happens stimulus => cases hx
    | answers task request reply =>
      obtain ⟨hadmissible, hx⟩ := Option.ite_none_right_eq_some.mp (Option.mem_toList.mp hx)
      obtain rfl := Option.some.inj hx
      exact ⟨actions, task, [], rfl, rfl, hadmissible⟩
  · exact (h x hx).append [a]

lemma knows_run (options : ChatClientOptions) (actions : List Action) :
    ∃ known, (∀ x ∈ known, Came actions x) ∧ Knows (run options actions) known := by
  induction actions using List.reverseRecOn with
  | nil => exact ⟨[], fun _ hx => absurd hx List.not_mem_nil, fun _ hm => absurd hm List.not_mem_nil⟩
  | append_singleton actions a ih =>
    obtain ⟨known, hcame, hknows⟩ := ih
    refine ⟨_, came_concat hcame a, ?_⟩
    rw [run_concat]
    exact (step_changes hknows a).2

lemma run_changes (options : ChatClientOptions) (actions : List Action) (a : Action) :
    ∃ got : Answers options, (∀ x ∈ got, Came (actions ++ [a]) x) ∧
      Relation.ReflTransGen (Allowed got) (run options actions).state (run options (actions ++ [a])).state := by
  obtain ⟨known, hcame, hknows⟩ := knows_run options actions
  rw [run_concat]
  exact ⟨_, came_concat hcame a, (step_changes hknows a).1⟩

end Steps

section Vouched

variable {actions : List Action} {got : Answers options} {c c' : ChatClient options}

lemma mem_of_replied (h : ∀ x ∈ got, Came actions x) {request : Request} {a : request.Reply}
    (hr : Replied got request a) :
    ∃ task, .answers task request (.ok a) ∈ actions := by
  obtain ⟨c, hc⟩ := hr
  obtain ⟨before, task, after, hactions, -⟩ := h _ hc
  exact ⟨task, hactions ▸ List.mem_append_right _ List.mem_cons_self⟩

structure Fetched (actions : List Action) (results : ℕ → Id → Load) : Prop where
  conversation : ∀ load id conversation, (results load id).conversation = some conversation →
    ∃ task, .answers task (.getConversation id) (.ok conversation) ∈ actions
  messages : ∀ load id messages, (results load id).messages = some messages →
    ∃ task, .answers task (.listMessages id) (.ok messages) ∈ actions

lemma Fetched.noted {results results' : ℕ → Id → Load} (hf : Fetched actions results)
    (h : ∀ x ∈ got, Came actions x) (hn : Noted got results results') : Fetched actions results' where
  conversation load id conversation hsome := by
    rcases hn.conversation load id with hsame | ⟨_, hr, hnew⟩
    · exact hf.conversation load id conversation (hsame.symm.trans hsome)
    · obtain rfl := Option.some.inj (hnew.symm.trans hsome)
      exact mem_of_replied h hr
  messages load id messages hsome := by
    rcases hn.messages load id with hsame | ⟨_, hr, hnew⟩
    · exact hf.messages load id messages (hsame.symm.trans hsome)
    · obtain rfl := Option.some.inj (hnew.symm.trans hsome)
      exact mem_of_replied h hr

lemma Fetched.append {results : ℕ → Id → Load} (h : Fetched actions results) (later : List Action) :
    Fetched (actions ++ later) results where
  conversation load id conversation hsome :=
    (h.conversation load id conversation hsome).imp fun _ hm => List.mem_append_left _ hm
  messages load id messages hsome := (h.messages load id messages hsome).imp fun _ hm => List.mem_append_left _ hm

lemma fetched_run (options : ChatClientOptions) (actions : List Action) :
    Fetched actions (run options actions).state.results := by
  induction actions using List.reverseRecOn with
  | nil => exact ⟨fun _ _ _ h => (by cases h), fun _ _ _ h => by cases h⟩
  | append_singleton actions a ih =>
    obtain ⟨got, hcame, hchanges⟩ := run_changes options actions a
    generalize (run options (actions ++ [a])).state = c at hchanges ⊢
    induction hchanges with
    | refl => exact ih.append [a]
    | tail _ hlast ihchanges => exact ihchanges.noted hcame hlast.results

variable (options) in
/-- What an action carries is in answers of the run; a conversation is put away upon an answer that clears it. -/
def Vouched (actions : List Action) : ChatStateAction → Prop
  | .sessionLoaded session =>
      ∃ task identity key browser, .answers task (.bootstrap identity key) (.ok ⟨session, browser⟩) ∈ actions
  | .snapshotLoaded conversation messages =>
      (∃ task task' id, .answers task (.getConversation id) (.ok conversation) ∈ actions ∧
        .answers task' (.listMessages id) (.ok messages) ∈ actions) ∨
      (∃ task key, .answers task (.createConversation key) (.ok conversation) ∈ actions) ∧ messages = []
  | .conversationCleared =>
    ∃ before task request reply after, actions = before ++ .answers task request reply :: after ∧
      clears (run options before).state request reply = true
  | .messageSubmitted message =>
    ∃ task id parts key, .answers task (.submitMessage id parts key) (.ok message) ∈ actions
  | .eventReceived event =>
    ∃ task stream events, .answers task (.read stream) (.ok (some events)) ∈ actions ∧ event ∈ events
  | _ => True

lemma fetched_of_came {load : ℕ} {id : Id} {conversation : ConversationResource} {messages : List MessageResource}
    (h : Came actions (c, ⟨.loaded load id, .ok (conversation, messages)⟩)) :
    ∃ task task', .answers task (.getConversation id) (.ok conversation) ∈ actions ∧
      .answers task' (.listMessages id) (.ok messages) ∈ actions := by
  obtain ⟨before, task, after, rfl, rfl, hadmissible⟩ := h
  have houtcome := of_decide_eq_true hadmissible
  have hfetched :=
    (fetched_run options before).append (.answers task (.loaded load id) (.ok (conversation, messages)) :: after)
  dsimp only at houtcome
  rw [Load.outcome] at houtcome
  split at houtcome
  · cases houtcome
  · rename_i hconversation hmessages
    cases houtcome
    obtain ⟨task, htask⟩ := hfetched.conversation load id conversation hconversation
    obtain ⟨task', htask'⟩ := hfetched.messages load id messages hmessages
    exact ⟨task, task', htask, htask'⟩
  · cases houtcome

lemma vouched_told (h : ∀ x ∈ got, Came actions x) {b : ChatStateAction} (hb : Told got b) :
    Vouched options actions b := by
  cases b with
  | sessionLoaded session =>
    obtain ⟨identity, key, browser, hr⟩ := hb
    obtain ⟨task, hm⟩ := mem_of_replied h hr
    exact ⟨task, identity, key, browser, hm⟩
  | snapshotLoaded conversation messages =>
    rcases hb with ⟨load, id, c, hc⟩ | ⟨⟨key, hr⟩, hnil⟩
    · obtain ⟨task, task', hm⟩ := fetched_of_came (h _ hc)
      exact Or.inl ⟨task, task', id, hm⟩
    · obtain ⟨task, hm⟩ := mem_of_replied h hr
      exact Or.inr ⟨⟨task, key, hm⟩, hnil⟩
  | conversationCleared =>
    obtain ⟨c, request, reply, hm, hclears⟩ := hb
    obtain ⟨before, task, after, hactions, rfl, -⟩ := h _ hm
    exact ⟨before, task, request, reply, after, hactions, hclears⟩
  | messageSubmitted message =>
    obtain ⟨id, parts, key, hr⟩ := hb
    obtain ⟨task, hm⟩ := mem_of_replied h hr
    exact ⟨task, id, parts, key, hm⟩
  | eventReceived event =>
    obtain ⟨stream, events, hr, hevent⟩ := hb
    obtain ⟨task, hm⟩ := mem_of_replied h hr
    exact ⟨task, stream, events, hm, hevent⟩
  | _ => trivial

lemma vouched_append (later : List Action) {b : ChatStateAction} (hb : Vouched options actions b) :
    Vouched options (actions ++ later) b := by
  cases b with
  | sessionLoaded session =>
    obtain ⟨task, identity, key, browser, hm⟩ := hb
    exact ⟨task, identity, key, browser, List.mem_append_left _ hm⟩
  | snapshotLoaded conversation messages =>
    rcases hb with ⟨task, task', id, hm, hm'⟩ | ⟨⟨task, key, hm⟩, hnil⟩
    · exact Or.inl ⟨task, task', id, List.mem_append_left _ hm, List.mem_append_left _ hm'⟩
    · exact Or.inr ⟨⟨task, key, List.mem_append_left _ hm⟩, hnil⟩
  | conversationCleared =>
    obtain ⟨before, task, request, reply, after, rfl, hclears⟩ := hb
    exact ⟨before, task, request, reply, after ++ later, by rw [List.append_assoc, List.cons_append], hclears⟩
  | messageSubmitted message =>
    obtain ⟨task, id, parts, key, hm⟩ := hb
    exact ⟨task, id, parts, key, List.mem_append_left _ hm⟩
  | eventReceived event =>
    obtain ⟨task, stream, events, hm, hevent⟩ := hb
    exact ⟨task, stream, events, List.mem_append_left _ hm, hevent⟩
  | _ => trivial

lemma dispatched_changes (h : Relation.ReflTransGen (Allowed got) c c') :
    ∃ more, c'.screen.actions = c.screen.actions ++ more ∧ ∀ b ∈ more, Told got b := by
  induction h with
  | refl => exact ⟨[], (List.append_nil _).symm, fun _ hb => absurd hb List.not_mem_nil⟩
  | tail _ hlast ih =>
    obtain ⟨more, hmore, htold⟩ := ih
    rcases hlast.screen with hsame | ⟨b, hb, hsame⟩
    · exact ⟨more, hsame ▸ hmore, htold⟩
    · refine ⟨more ++ [b], ?_, List.forall_mem_append.mpr ⟨htold, List.forall_mem_singleton.mpr hb⟩⟩
      rw [hsame, ← List.append_assoc, ← hmore]
      rfl

/-- In every run of a client, the sessions, conversations, messages and events that it takes into its state are
in answers that the server has given before, and a conversation is put away only upon an answer. -/
theorem dispatched_answered (options : ChatClientOptions) (actions : List Action) :
    ∀ b ∈ (run options actions).state.screen.actions, Vouched options actions b := by
  induction actions using List.reverseRecOn with
  | nil => exact fun b hb => absurd hb List.not_mem_nil
  | append_singleton actions a ih =>
    obtain ⟨got, hcame, hchanges⟩ := run_changes options actions a
    obtain ⟨more, hmore, htold⟩ := dispatched_changes hchanges
    rw [hmore, List.forall_mem_append]
    exact ⟨fun b hb => vouched_append [a] (ih b hb), fun b hb => vouched_told hcame (htold b hb)⟩

lemma dispatched_grows (options : ChatClientOptions) (actions later : List Action) :
    ∃ more, (run options (actions ++ later)).state.screen.actions =
      (run options actions).state.screen.actions ++ more := by
  induction later using List.reverseRecOn with
  | nil => exact ⟨[], by rw [List.append_nil, List.append_nil]⟩
  | append_singleton later a ih =>
    obtain ⟨more, hmore⟩ := ih
    obtain ⟨got, -, hchanges⟩ := run_changes options (actions ++ later) a
    obtain ⟨last, hlast, -⟩ := dispatched_changes hchanges
    exact ⟨more ++ last, by rw [← List.append_assoc, hlast, hmore, List.append_assoc]⟩

end Vouched

section Messages

/-- The message is in what is answered. -/
def brings (message : MessageResource) : Action → Bool
  | .answers _ (.listMessages _) (.ok messages) => decide (message ∈ messages)
  | .answers _ (.submitMessage ..) (.ok submitted) => decide (message = submitted)
  | _ => false

def carries (message : MessageResource) : ChatStateAction → Bool
  | .snapshotLoaded _ messages => decide (message ∈ messages)
  | .messageSubmitted submitted => decide (message = submitted)
  | _ => false

/-- The messages of a client are replaced by others, or put away. -/
def replaces (messageId : Id) : ChatStateAction → Bool
  | .snapshotLoaded _ messages => decide (messageId ∉ ids messages)
  | .conversationCleared => true
  | _ => false

variable {locale : Collation} {state : ChatState} {messageId : Id} {message : MessageResource}

lemma mem_messages_foldl {messages kept : List MessageResource} (h : message ∈ messages.foldl setMessage kept) :
    message ∈ kept ∨ message ∈ messages := by
  induction messages generalizing kept with
  | nil => exact Or.inl h
  | cons m messages ih =>
    rcases ih h with h | h
    · rw [setMessage] at h
      split at h
      · obtain ⟨m', hm', rfl⟩ := List.mem_map.mp h
        split
        · exact Or.inr List.mem_cons_self
        · exact Or.inl hm'
      · rcases List.mem_append.mp h with h | h
        · exact Or.inl h
        · exact Or.inr (List.mem_singleton.mp h ▸ List.mem_cons_self)
    · exact Or.inr (List.mem_cons_of_mem _ h)

lemma mem_canonical {messages : List MessageResource} (h : message ∈ ChatState.canonicalMessages locale messages) :
    message ∈ messages := by
  rw [ChatState.canonicalMessages, (List.mergeSort_perm _ _).mem_iff] at h
  exact (mem_messages_foldl h).resolve_left List.not_mem_nil

def messagesAfter (locale : Collation) (messages : List MessageResource) : ChatStateAction → List MessageResource
  | .snapshotLoaded _ listed => ChatState.canonicalMessages locale listed
  | .conversationCleared => []
  | .messageSubmitted message => ChatState.canonicalMessages locale (messages ++ [message])
  | _ => messages

lemma messages_reduced (b : ChatStateAction) :
    (reduceChatState locale state b).messages = messagesAfter locale state.messages b := by
  cases b with
  | eventReceived event => exact messages_received
  | snapshotLoaded conversation messages =>
    rw [reduceChatState]
    split <;> rfl
  | structuredInputSubmitted requestId =>
    rw [reduceChatState]
    split <;> rfl
  | _ => rfl

lemma conversation_reduced (b : ChatStateAction) : (reduceChatState locale state b).conversation = match b with
    | .snapshotLoaded conversation _ => some conversation
    | .conversationCleared => none
    | _ => state.conversation := by
  cases b with
  | eventReceived event =>
    change (receiveEvent state event).conversation = _
    have hnext : ∀ body, (announced (recorded state event) event body).conversation = state.conversation := by
      intro body
      cases body <;> rfl
    rw [receiveEvent]
    split
    · rfl
    · cases event.body with
      | syncRequired => rfl
      | event body =>
        dsimp only
        split
        · exact hnext body
        · split <;> exact hnext body
  | snapshotLoaded conversation messages =>
    rw [reduceChatState]
    split <;> rfl
  | structuredInputSubmitted requestId =>
    rw [reduceChatState]
    split <;> rfl
  | _ => rfl

lemma carried_reduced {b : ChatStateAction} (h : message ∈ (reduceChatState locale state b).messages) :
    message ∈ state.messages ∨ carries message b = true := by
  rw [messages_reduced] at h
  cases b with
  | snapshotLoaded conversation messages => exact Or.inr (decide_eq_true (mem_canonical h))
  | conversationCleared => cases h
  | messageSubmitted submitted =>
    rcases List.mem_append.mp (mem_canonical h) with h | h
    · exact Or.inl h
    · exact Or.inr (decide_eq_true (List.mem_singleton.mp h))
  | _ => exact Or.inl h

lemma kept_reduced {b : ChatStateAction} (hb : replaces messageId b = false) (h : messageId ∈ ids state.messages) :
    messageId ∈ ids (reduceChatState locale state b).messages := by
  rw [messages_reduced]
  cases b with
  | snapshotLoaded conversation messages => exact mem_ids_canonical.mpr (not_not.mp (of_decide_eq_false hb))
  | conversationCleared => cases hb
  | messageSubmitted submitted =>
    refine mem_ids_canonical.mpr ?_
    rw [ids, List.map_append]
    exact List.mem_append_left _ h
  | _ => exact h

lemma carried_exec {bs : List ChatStateAction} (h : message ∈ (exec (reduceChatState locale) state bs).messages) :
    message ∈ state.messages ∨ ∃ b ∈ bs, carries message b = true := by
  induction bs generalizing state with
  | nil => exact Or.inl h
  | cons b bs ih =>
    rcases ih h with h | ⟨b', hb', hcarries⟩
    · exact (carried_reduced h).imp_right fun hcarries => ⟨b, List.mem_cons_self, hcarries⟩
    · exact Or.inr ⟨b', List.mem_cons_of_mem _ hb', hcarries⟩

lemma kept_exec {bs : List ChatStateAction} (hbs : ∀ b ∈ bs, replaces messageId b = false)
    (h : messageId ∈ ids state.messages) : messageId ∈ ids (exec (reduceChatState locale) state bs).messages := by
  induction bs generalizing state with
  | nil => exact h
  | cons b bs ih =>
    obtain ⟨hb, hrest⟩ := List.forall_mem_cons.mp hbs
    exact ih hrest (kept_reduced hb h)

lemma state_run (options : ChatClientOptions) (actions : List Action) : (run options actions).state.state =
    exec (reduceChatState options.locale) initialChatState (run options actions).state.screen.actions :=
  (run options actions).state.screen.reduced.symm

lemma brought_of_vouched {actions : List Action} {b : ChatStateAction} (hb : Vouched options actions b)
    (h : carries message b = true) : ∃ a ∈ actions, brings message a = true := by
  cases b with
  | snapshotLoaded conversation messages =>
    rcases hb with ⟨-, task, id, -, hm⟩ | ⟨-, rfl⟩
    · exact ⟨_, hm, h⟩
    · have hnil : message ∈ ([] : List MessageResource) := of_decide_eq_true h
      cases hnil
  | messageSubmitted submitted =>
    obtain ⟨task, id, parts, key, hm⟩ := hb
    exact ⟨_, hm, h⟩
  | _ => cases h

/-- In every run of a client, each message that is shown has come with an answer, and stays until an answer
replaces it: a list without it, or one upon which its conversation is put away. -/
theorem messages_shown (options : ChatClientOptions) (actions : List Action) :
    (∀ message ∈ (run options actions).state.state.messages, ∃ a ∈ actions, brings message a = true) ∧
    ∀ later, ∃ more, (run options (actions ++ later)).state.screen.actions =
        (run options actions).state.screen.actions ++ more ∧
      ∀ messageId ∈ ids (run options actions).state.state.messages,
        messageId ∉ ids (run options (actions ++ later)).state.state.messages →
        ∃ b ∈ more, replaces messageId b = true ∧ Vouched options (actions ++ later) b := by
  constructor
  · intro message hm
    rw [state_run] at hm
    rcases carried_exec hm with hm | ⟨b, hb, hcarries⟩
    · cases hm
    · exact brought_of_vouched (dispatched_answered options actions b hb) hcarries
  · intro later
    obtain ⟨more, hmore⟩ := dispatched_grows options actions later
    refine ⟨more, hmore, fun messageId hm hgone => ?_⟩
    by_contra hnone
    refine hgone ?_
    rw [state_run, hmore, exec_append, ← state_run]
    refine kept_exec (fun b hb => ?_) hm
    by_contra hreplaces
    refine hnone ⟨b, hb, by simpa using hreplaces, dispatched_answered options _ b ?_⟩
    rw [hmore]
    exact List.mem_append_right _ hb

end Messages

section Conversations

/-- The server answers with the conversation that is asked for, and with its messages. -/
def faithful : Action → Bool
  | .answers _ (.getConversation conversationId) (.ok conversation) =>
      decide (conversation.conversationId = conversationId)
  | .answers _ (.listMessages conversationId) (.ok messages) =>
      messages.all fun message => decide (message.conversationId = conversationId)
  | _ => true

/-- An acknowledged message is taken in while its conversation is shown. -/
def Placed (state : ChatState) : ChatStateAction → Prop
  | .messageSubmitted message =>
      state.conversation.map ConversationResource.conversationId = some message.conversationId
  | _ => True

instance (state : ChatState) : (b : ChatStateAction) → Decidable (Placed state b)
  | .messageSubmitted _ => inferInstanceAs (Decidable (_ = _))
  | .phaseChanged _ | .sessionLoaded _ | .snapshotLoaded
      .. | .conversationCleared | .liveCleared | .eventReceived _
  | .runCancelled .. | .runRetrying | .structuredInputSubmitted _ | .cursorRestored .. | .cursorCleared
  | .connectionFailed _ | .errorRaised _ => .isTrue trivial

/-- The messages are of the conversation that is shown. -/
def Unmixed (state : ChatState) : Prop :=
  ∀ message ∈ state.messages, state.conversation.map ConversationResource.conversationId =
    some message.conversationId

variable {locale : Collation} {state : ChatState} {actions : List Action}

lemma unmixed_reduced (hfaithful : ∀ a ∈ actions, faithful a = true) {b : ChatStateAction}
    (hb : Vouched options actions b) (hplaced : Placed state b) (h : Unmixed state) :
    Unmixed (reduceChatState locale state b) := by
  intro message hm
  rw [messages_reduced] at hm
  rw [conversation_reduced]
  cases b with
  | snapshotLoaded conversation messages =>
    have hlisted := mem_canonical hm
    rcases hb with ⟨task, task', id, hconversation, hmessages⟩ | ⟨-, rfl⟩
    · have hid : conversation.conversationId = id := of_decide_eq_true (hfaithful _ hconversation)
      have hmessage := List.all_eq_true.mp (hfaithful _ hmessages) message hlisted
      exact congrArg some (hid.trans (of_decide_eq_true hmessage).symm)
    · cases hlisted
  | conversationCleared => cases hm
  | messageSubmitted submitted =>
    rcases List.mem_append.mp (mem_canonical hm) with hm | hm
    · exact h message hm
    · rw [List.mem_singleton.mp hm]
      exact hplaced
  | _ => exact h message hm

/-- In every run of a client in which each acknowledged message is taken in while its conversation is shown, the
messages that are shown are always those of the conversation that is shown. -/
theorem messages_of_conversation (options : ChatClientOptions) (actions : List Action)
    (hfaithful : ∀ a ∈ actions, faithful a = true)
    (hplaced : Along (reduceChatState options.locale) Placed initialChatState
      (run options actions).state.screen.actions) :
    Unmixed (run options actions).state.state := by
  have hvouched := dispatched_answered options actions
  rw [state_run]
  refine ((along_of_forall hvouched).and hplaced).invariant Unmixed (fun _ hm => absurd hm List.not_mem_nil) ?_
  exact fun state b h hb => unmixed_reduced hfaithful hb.1 hb.2 h

end Conversations

section Scenario

def hello : MessageResource := ⟨"m1", "c", 1, "p", .user, .completed, [.text "Hello"], 0, some 0⟩

def acknowledging : List Streams.Action := connecting ++ [
  .happens (.sendMessage ["Hello"]), turn 5, .answers 5 (.submitMessage "c" ["Hello"] "key") (.ok hello),
    turn 5, turn 5]

def reloading : List Streams.Action := [
  .happens (.selectConversation "c"), turn 8, turn 9, .answers 9 (.listMessages "c") (.ok [hello]),
  .answers 8 (.getConversation "c") (.ok shown), .answers 7 (.loaded 1 "c") (.ok (shown, [hello]))]

theorem hello_answered : Vouched plain acknowledging (.messageSubmitted hello) :=
  dispatched_answered plain acknowledging _ (by decide +kernel)

theorem hello_stays : "m1" ∈ ids (run plain (acknowledging ++ reloading)).state.state.messages := by
  obtain ⟨more, hmore, hgone⟩ := (messages_shown plain acknowledging).2 reloading
  have hkept : ∀ b ∈ (run plain (acknowledging ++ reloading)).state.screen.actions.drop
      (run plain acknowledging).state.screen.actions.length, replaces "m1" b = false := by decide +kernel
  rw [hmore, List.drop_left] at hkept
  by_contra hnot
  obtain ⟨b, hb, hreplaces, -⟩ := hgone "m1" (by decide +kernel) hnot
  rw [hkept b hb] at hreplaces
  cases hreplaces

theorem hello_unmixed : Unmixed (run plain (acknowledging ++ reloading)).state.state :=
  messages_of_conversation plain (acknowledging ++ reloading) (by decide +kernel) (by decide +kernel)

end Scenario

end ChatCore.Client.Shown
