import ChatCore.Client.ChatClient

namespace ChatCore.Client.Destruction

open Cooperative ChatClient Protocol Services EventStore
open Program hiding pure throw

variable {options : ChatClientOptions} {α β : Type}

def transports : Request → Bool
  | .load | .save _ | .read _ | .renewal | .loaded .. | .turn => false
  | _ => true

section Careless

def Renewable (c : ChatClient options) : Prop :=
  c.renewing = false ∧ (c.persisted.browserIdentity.bind present).isSome = true

inductive Commands (c : ChatClient options) : {α : Type} → Routine options α → Prop
  | request (request : Request) (h : transports request = true) : Commands c (perform request)
  | renewal (h : Renewable c) : Commands c (settle renewSession)

/-- The places where the client goes on to a request or a timer without a look at `destroyed`. -/
inductive Headlong (c : ChatClient options) : {α : Type} → Routine options α → Prop
  | starting (persisted : Option PersistedChatState) : Headlong c (starting persisted)
  | scheduling : Headlong c scheduleRenewal
  | connecting (stream : ℕ) (conversationId : Id) (lastEventId : Option Id) :
      Headlong c (connect stream conversationId lastEventId)
  | commanding {α : Type} {command : Routine options α} (h : Commands c command) :
      Headlong c (Program.tryCatch command (reauthenticate command))
  | refused {α : Type} (command : Routine options α) (error : ChatError) (he : isAuthenticationError error = true)
      (h : Renewable c) : Headlong c (reauthenticate command error)
  | repeating {α : Type} {command : Routine options α} (h : Commands c command) : Headlong c command
  | bind {α β : Type} {p : Routine options α} (h : Headlong c p) (f : α → Routine options β) : Headlong c (p >>= f)
  | tryCatch {α : Type} {p : Routine options α} (h : Headlong c p) (handler : ChatError → Routine options α) :
      Headlong c (Program.tryCatch p handler)

def Careless (c : ChatClient options) (request : Request) (reply : Except ChatError request.Reply)
    (p : Routine options α) : Prop := ∃ next, p = .await request next ∧ Headlong c (next reply)

variable {c : ChatClient options} {request : Request} {reply : Except ChatError request.Reply}
  {p : Routine options α}

lemma Careless.bind (h : Careless c request reply p) (f : α → Routine options β) :
    Careless c request reply (p >>= f) := by
  obtain ⟨next, rfl, hnext⟩ := h
  exact ⟨_, rfl, hnext.bind f⟩

lemma Careless.tryCatch (h : Careless c request reply p) (handler : ChatError → Routine options α) :
    Careless c request reply (Program.tryCatch p handler) := by
  obtain ⟨next, rfl, hnext⟩ := h
  exact ⟨_, rfl, hnext.tryCatch handler⟩

end Careless

section Stirring

def Stirs : Routine options α → ChatClient options → Prop
  | .pure _, _ | .throw _, _ => False
  | .update write next, c => c.timersSet < (write c).timersSet ∨ Stirs (next (write c)) (write c)
  | .start _ next, c => Stirs next c
  | .await request _, _ => transports request = true

variable {c : ChatClient options}

lemma Stirs.bind {p : Routine options α} (h : Stirs p c) (f : α → Routine options β) : Stirs (p >>= f) c := by
  change Stirs (p.bind f) c
  induction p generalizing c with
  | pure a => exact h.elim
  | throw e => exact h.elim
  | update write next ih => exact h.imp_right (ih _)
  | start job next ih => exact ih h
  | await request next ih => exact h

lemma Stirs.tryCatch {p : Routine options α} (h : Stirs p c) (handler : ChatError → Routine options α) :
    Stirs (p.tryCatch handler) c := by
  induction p generalizing c with
  | pure a => exact h.elim
  | throw e => exact h.elim
  | update write next ih => exact h.imp_right (ih _)
  | start job next ih => exact ih h
  | await request next ih => exact h

lemma stirs_later {write : ChatClient options → ChatClient options} {next : ChatClient options → Routine options α}
    (h : Stirs (next (write c)) (write c)) : Stirs (.update write next) c := Or.inr h

lemma Stirs.settle {p : Routine options α} (h : Stirs p c) : Stirs (settle p) c := (h.tryCatch _).bind _

lemma stirs_request (request : Request) (h : transports request = true) :
    Stirs (perform request : Routine options _) c := h

lemma stirs_bootstrapSession (key : Id) : Stirs (bootstrapSession key : Routine options Unit) c :=
  stirs_later ((stirs_request _ rfl).bind _)

lemma stirs_renewSession (h : Renewable c) : Stirs (renewSession : Routine options Unit) c := by
  refine stirs_later ?_
  change Stirs (if c.renewing = true then _ else if _ then _ else _) c
  have hidentity : ¬ ((id c).persisted.browserIdentity.bind present).isNone = true := by
    rw [Option.isNone_iff_eq_none, ← ne_eq, Option.ne_none_iff_isSome]
    exact h.2
  rw [h.1, if_neg Bool.false_ne_true, if_neg hidentity]
  refine stirs_later (stirs_later (stirs_later ?_))
  exact ((stirs_bootstrapSession _).settle.tryCatch _).bind _

lemma Commands.stirs {command : Routine options α} (h : Commands c command) : Stirs command c := by
  cases h with
  | request request h => exact stirs_request request h
  | renewal h => exact (stirs_renewSession h).settle

lemma Headlong.stirs {p : Routine options α} (h : Headlong c p) : Stirs p c := by
  induction h with
  | starting persisted =>
    refine stirs_later (stirs_later (stirs_later ?_))
    exact (stirs_bootstrapSession _).settle.bind _
  | scheduling => exact Or.inl (Nat.lt_succ_self _)
  | connecting stream conversationId lastEventId =>
    exact ((stirs_request (.connect stream conversationId lastEventId) rfl).bind _).tryCatch _
  | commanding h => exact h.stirs.tryCatch _
  | refused command error he h =>
    rw [reauthenticate, he]
    exact (stirs_renewSession h).settle.bind _
  | repeating h => exact h.stirs
  | bind _ f ih => exact ih.bind f
  | tryCatch _ handler ih => exact ih.tryCatch handler

theorem careless_stirs {request : Request} {reply : Except ChatError request.Reply} {p : Routine options α}
    (h : Careless c request reply p) : ∃ next, p = .await request next ∧ Stirs (next reply) c := by
  obtain ⟨next, hp, hnext⟩ := h
  exact ⟨next, hp, hnext.stirs⟩

end Stirring

end ChatCore.Client.Destruction
