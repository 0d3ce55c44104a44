import ChatCore.Runs.Changes

namespace ChatCore.Runs

open Protocol Relational Database Services

structure Home where
  tenantId : Id
  siteId : Id
  conversationId : Id
  deriving DecidableEq

structure Identity where
  runId : Id
  assistantMessageId : Id
  triggerMessageId : Id
  home : Home
  deriving DecidableEq

structure Slot where
  messageId : Id
  sequence : ℕ
  home : Home

structure Part where
  runId : Id
  home : Home

def identity (r : AgentRun) : Identity :=
  ⟨r.runId, r.assistantMessageId, r.triggerMessageId, ⟨r.tenantId, r.siteId, r.conversationId⟩⟩

structure Skeleton where
  conversations : Set Home
  messages : Set Slot
  runs : Set Identity
  handoffs : Set (Id × Part)
  inputs : Set Part
  events : Set Part
  known : Set Identity

namespace Skeleton

def all (k : Skeleton) : Set Identity := k.runs ∪ k.known

def Owned (k : Skeleton) (p : Part) : Prop := ∃ r ∈ k.runs, r.runId = p.runId ∧ r.home = p.home

structure Sound (issued : List Id) (k : Skeleton) : Prop where
  homes : ∀ h ∈ k.conversations, ∀ h' ∈ k.conversations, h.conversationId = h'.conversationId → h = h'
  conversations : ∀ h ∈ k.conversations, h.conversationId ∈ issued
  messages : ∀ m ∈ k.messages, m.messageId ∈ issued ∧ 1 ≤ m.sequence
  issued : ∀ r ∈ k.all, r.runId ∈ issued ∧ r.assistantMessageId ∈ issued ∧ r.home.conversationId ∈ issued
  placed : ∀ r ∈ k.runs, r.home ∈ k.conversations
  triggers : ∀ r ∈ k.runs, ∃ m ∈ k.messages, m.messageId = r.triggerMessageId ∧ m.home = r.home
  ids : ∀ r ∈ k.all, ∀ r' ∈ k.all, r.runId = r'.runId → r = r'
  assistants : ∀ r ∈ k.all, ∀ r' ∈ k.all, r.assistantMessageId = r'.assistantMessageId → r = r'
  answers : ∀ r ∈ k.all, ∀ m ∈ k.messages, m.messageId = r.assistantMessageId → m.home = r.home
  alive : ∀ r ∈ k.known, ∀ h ∈ k.conversations, h.conversationId = r.home.conversationId → r ∈ k.runs
  handoffs : ∀ h ∈ k.handoffs, k.Owned h.2
  single : ∀ h ∈ k.handoffs, ∀ h' ∈ k.handoffs, h.2.runId = h'.2.runId → h = h'
  inputs : ∀ i ∈ k.inputs, k.Owned i
  events : ∀ e ∈ k.events, k.Owned e

variable {issued : List Id} {k : Skeleton}

lemma Sound.weaken {issued' : List Id} (h : Sound issued k) (hi : ∀ id ∈ issued, id ∈ issued') : Sound issued' k :=
  { h with
    conversations := fun x hx => hi _ (h.conversations x hx)
    messages := fun m hm => ⟨hi _ (h.messages m hm).1, (h.messages m hm).2⟩
    issued := fun r hr => ⟨hi _ (h.issued r hr).1, hi _ (h.issued r hr).2.1, hi _ (h.issued r hr).2.2⟩ }

section Steps

variable {issued' : List Id} (h : Sound issued k) (hi : ∀ id ∈ issued, id ∈ issued')

include h hi

lemma Sound.conversation {homes : Set Home} (hsub : k.conversations ⊆ homes)
    (hnew : ∀ x ∈ homes, x ∈ k.conversations ∨ x.conversationId ∉ issued ∧ x.conversationId ∈ issued')
    (hinj : ∀ x ∈ homes, ∀ y ∈ homes, x.conversationId = y.conversationId → x = y) :
    Sound issued' { k with conversations := homes } := by
  have hw := h.weaken hi
  refine { hw with homes := hinj, conversations := ?_, placed := ?_, alive := ?_ }
  · intro x hx
    rcases hnew x hx with hx | hx
    · exact hw.conversations x hx
    · exact hx.2
  · exact fun r hr => hsub (h.placed r hr)
  · intro r hr x hx he
    rcases hnew x hx with hx | hx
    · exact h.alive r hr x hx he
    · exact absurd (he ▸ (h.issued r (Or.inr hr)).2.2) hx.1

lemma Sound.message {m : Slot} (hn : m.messageId ∉ issued) (hm : m.messageId ∈ issued') (hs : 1 ≤ m.sequence) :
    Sound issued' { k with messages := k.messages ∪ {m} } := by
  have hw := h.weaken hi
  refine { hw with messages := ?_, triggers := ?_, answers := ?_ }
  · rintro x (hx | rfl)
    · exact hw.messages x hx
    · exact ⟨hm, hs⟩
  · intro r hr
    obtain ⟨x, hx, he⟩ := h.triggers r hr
    exact ⟨x, Or.inl hx, he⟩
  · rintro r hr x (hx | rfl) he
    · exact h.answers r hr x hx he
    · exact absurd (he ▸ (h.issued r hr).2.1) hn

lemma Sound.run {r : Identity} (hn : r.runId ∉ issued ∧ r.assistantMessageId ∉ issued)
    (hm : r.runId ∈ issued' ∧ r.assistantMessageId ∈ issued') (hp : r.home ∈ k.conversations)
    (ht : ∃ m ∈ k.messages, m.messageId = r.triggerMessageId ∧ m.home = r.home) :
    Sound issued' { k with runs := k.runs ∪ {r} } := by
  have hw := h.weaken hi
  have hall : ∀ x, x ∈ ({ k with runs := k.runs ∪ {r} } : Skeleton).all → x ∈ k.all ∨ x = r := by
    rintro x ((hx | rfl) | hx)
    · exact Or.inl (Or.inl hx)
    · exact Or.inr rfl
    · exact Or.inl (Or.inr hx)
  have howned : ∀ p, k.Owned p → ({ k with runs := k.runs ∪ {r} } : Skeleton).Owned p :=
    fun p ⟨x, hx, he⟩ => ⟨x, Or.inl hx, he⟩
  refine { hw with
    issued := ?_, placed := ?_, triggers := ?_, ids := ?_, assistants := ?_, answers := ?_, alive := ?_,
    handoffs := ?_, inputs := ?_, events := ?_ }
  · intro x hx
    rcases hall x hx with hx | rfl
    · exact hw.issued x hx
    · exact ⟨hm.1, hm.2, hw.conversations _ hp⟩
  · rintro x (hx | rfl)
    · exact h.placed x hx
    · exact hp
  · rintro x (hx | rfl)
    · exact h.triggers x hx
    · exact ht
  · intro x hx y hy he
    rcases hall x hx with hx' | rfl <;> rcases hall y hy with hy' | rfl
    · exact h.ids x hx' y hy' he
    · exact absurd (he ▸ (h.issued x hx').1) hn.1
    · exact absurd (he ▸ (h.issued y hy').1) hn.1
    · rfl
  · intro x hx y hy he
    rcases hall x hx with hx' | rfl <;> rcases hall y hy with hy' | rfl
    · exact h.assistants x hx' y hy' he
    · exact absurd (he ▸ (h.issued x hx').2.1) hn.2
    · exact absurd (he ▸ (h.issued y hy').2.1) hn.2
    · rfl
  · intro x hx m hmm he
    rcases hall x hx with hx | rfl
    · exact h.answers x hx m hmm he
    · exact absurd (he ▸ (h.messages m hmm).1) hn.2
  · exact fun x hx y hy he => Or.inl (h.alive x hx y hy he)
  · exact fun x hx => howned _ (h.handoffs x hx)
  · exact fun x hx => howned _ (h.inputs x hx)
  · exact fun x hx => howned _ (h.events x hx)

end Steps

section Parts

variable (h : Sound issued k)

include h

lemma Sound.answer {r : Identity} {n : ℕ} (hr : r ∈ k.all) (hn : 1 ≤ n) :
    Sound issued { k with messages := k.messages ∪ {⟨r.assistantMessageId, n, r.home⟩} } := by
  refine { h with messages := ?_, triggers := ?_, answers := ?_ }
  · rintro x (hx | rfl)
    · exact h.messages x hx
    · exact ⟨(h.issued r hr).2.1, hn⟩
  · intro x hx
    obtain ⟨m, hm, he⟩ := h.triggers x hx
    exact ⟨m, Or.inl hm, he⟩
  · rintro x hx m (hm | rfl) he
    · exact h.answers x hx m hm he
    · rw [h.assistants r hr x hx he]

lemma Sound.handoff {handoffId : Id} {p : Part} (hp : k.Owned p) (hn : ∀ x ∈ k.handoffs, x.2.runId ≠ p.runId) :
    Sound issued { k with handoffs := k.handoffs ∪ {(handoffId, p)} } := by
  refine { h with handoffs := ?_, single := ?_ }
  · rintro x (hx | rfl)
    · exact h.handoffs x hx
    · exact hp
  · rintro x (hx | rfl) y (hy | rfl) he
    · exact h.single x hx y hy he
    · exact absurd he (hn x hx)
    · exact absurd he.symm (hn y hy)
    · rfl

lemma Sound.input {p : Part} (hp : k.Owned p) : Sound issued { k with inputs := k.inputs ∪ {p} } := by
  refine { h with inputs := ?_ }
  rintro x (hx | rfl)
  · exact h.inputs x hx
  · exact hp

lemma Sound.event {events : Set Part} (he : ∀ x ∈ events, x ∈ k.events ∨ k.Owned x) :
    Sound issued { k with events := events } := by
  refine { h with events := fun x hx => ?_ }
  rcases he x hx with hx | hx
  · exact h.events x hx
  · exact hx

lemma Sound.claim {r : Identity} (hr : r ∈ k.runs) : Sound issued { k with known := k.known ∪ {r} } := by
  have hall : ({ k with known := k.known ∪ {r} } : Skeleton).all ⊆ k.all := by
    rintro x (hx | hx | rfl)
    · exact Or.inl hx
    · exact Or.inr hx
    · exact Or.inl hr
  refine { h with issued := ?_, ids := ?_, assistants := ?_, answers := ?_, alive := ?_ }
  · exact fun x hx => h.issued x (hall hx)
  · exact fun x hx y hy => h.ids x (hall hx) y (hall hy)
  · exact fun x hx y hy => h.assistants x (hall hx) y (hall hy)
  · exact fun x hx => h.answers x (hall hx)
  · rintro x (hx | rfl) y hy he
    · exact h.alive x hx y hy he
    · exact hr

def forget (gone : Home → Bool) (k : Skeleton) : Skeleton where
  conversations := {x ∈ k.conversations | gone x = false}
  messages := {x ∈ k.messages | gone x.home = false}
  runs := {x ∈ k.runs | gone x.home = false}
  handoffs := {x ∈ k.handoffs | gone x.2.home = false}
  inputs := {x ∈ k.inputs | gone x.home = false}
  events := {x ∈ k.events | gone x.home = false}
  known := k.known

lemma Sound.forget (gone : Home → Bool) : Sound issued (k.forget gone) := by
  have hall : (k.forget gone).all ⊆ k.all := by
    rintro x (hx | hx)
    · exact Or.inl hx.1
    · exact Or.inr hx
  have howned : ∀ p, k.Owned p → gone p.home = false → (k.forget gone).Owned p := by
    rintro p ⟨r, hr, he, hh⟩ hp
    exact ⟨r, ⟨hr, hh ▸ hp⟩, he, hh⟩
  constructor
  · exact fun x hx y hy => h.homes x hx.1 y hy.1
  · exact fun x hx => h.conversations x hx.1
  · exact fun x hx => h.messages x hx.1
  · exact fun x hx => h.issued x (hall hx)
  · exact fun x hx => ⟨h.placed x hx.1, hx.2⟩
  · rintro x ⟨hx, hg⟩
    obtain ⟨m, hm, he, hh⟩ := h.triggers x hx
    exact ⟨m, ⟨hm, hh ▸ hg⟩, he, hh⟩
  · exact fun x hx y hy => h.ids x (hall hx) y (hall hy)
  · exact fun x hx y hy => h.assistants x (hall hx) y (hall hy)
  · exact fun x hx m hm => h.answers x (hall hx) m hm.1
  · rintro x hx y ⟨hy, hg⟩ he
    have hr := h.alive x hx y hy he
    have hhome := h.homes _ (h.placed x hr) y hy he.symm
    exact ⟨hr, hhome ▸ hg⟩
  · exact fun x hx => howned _ (h.handoffs x hx.1) hx.2
  · exact fun x hx y hy => h.single x hx.1 y hy.1
  · exact fun x hx => howned _ (h.inputs x hx.1) hx.2
  · exact fun x hx => howned _ (h.events x hx.1) hx.2

end Parts

end Skeleton

section Rows

def conversationHome (c : Conversation) : Home := ⟨c.tenantId, c.siteId, c.conversationId⟩

def slot (m : Message) : Slot := ⟨m.messageId, m.sequence, ⟨m.tenantId, m.siteId, m.conversationId⟩⟩

def handoffPart (h : Handoff) : Id × Part := (h.handoffId, ⟨h.runId, ⟨h.tenantId, h.siteId, h.conversationId⟩⟩)

def inputPart (i : StructuredInputRequest) : Part := ⟨i.runId, ⟨i.tenantId, i.siteId, i.conversationId⟩⟩

def eventPart (e : ConversationEvent) : Part := ⟨e.runId, ⟨e.tenantId, e.siteId, e.conversationId⟩⟩

def skeleton (known : Set Identity) (db : Tables) : Skeleton where
  conversations := db.conversations.image conversationHome
  messages := db.messages.image slot
  runs := db.agentRuns.image identity
  handoffs := db.handoffs.image handoffPart
  inputs := db.structuredInputRequests.image inputPart
  events := db.conversationEvents.image eventPart
  known := known

variable {issued issued' : List Id} {known : Set Identity} {a b : Tables}

lemma conversationHome_injective {x y : Home} (hx : x ∈ a.conversations.image conversationHome)
    (hy : y ∈ a.conversations.image conversationHome) (h : x.conversationId = y.conversationId) : x = y := by
  obtain ⟨c, hc, rfl⟩ := hx
  obtain ⟨d, hd, rfl⟩ := hy
  rw [Table.key_injective hc hd h]

lemma Skeleton.Sound.lasting {ids : List Id} (h : (skeleton known a).Sound issued) (hl : Lasting ids a b)
    (hi : ∀ id ∈ issued, id ∈ issued') (hids : ∀ id ∈ ids, id ∉ issued ∧ id ∈ issued') :
    Skeleton.Sound issued' { skeleton known a with conversations := b.conversations.image conversationHome } := by
  refine h.conversation hi ?_ ?_ fun x hx y hy => conversationHome_injective hx hy
  · rintro x ⟨c, hc, rfl⟩
    obtain ⟨c', hc', hcont⟩ := hl.kept c hc
    exact ⟨c', hc', by rw [conversationHome, conversationHome, hcont.conversationId, hcont.tenantId, hcont.siteId]⟩
  · rintro x ⟨c', hc', rfl⟩
    rcases hl.origin c' hc' with ⟨c, hc, hcont⟩ | hnew
    · exact Or.inl ⟨c, hc,
        by rw [conversationHome, conversationHome, hcont.conversationId, hcont.tenantId, hcont.siteId]⟩
    · exact Or.inr (hids _ hnew)

lemma rooted_of_sound (h : (skeleton known a).Sound issued) : Rooted a := by
  have hruns : ∀ r ∈ a.agentRuns, ∀ r' ∈ a.agentRuns, r.runId = r'.runId → r = r' :=
    fun r hr r' hr' he => Table.key_injective hr hr' he
  refine ⟨fun x hx r hr he => ?_, fun x hx r hr he => ?_, fun r hr _ hm he => ?_⟩
  · obtain ⟨y, ⟨r', hr', rfl⟩, hid, hhome⟩ := h.handoffs _ (Table.mem_image hx)
    cases hruns r hr r' hr' (he.trans hid.symm)
    injection hhome with h₁ h₂ h₃
    rw [h₁, h₂, h₃]
  · obtain ⟨y, ⟨r', hr', rfl⟩, hid, hhome⟩ := h.inputs _ (Table.mem_image hx)
    cases hruns r hr r' hr' (he.trans hid.symm)
    injection hhome with h₁ h₂ h₃
    rw [h₁, h₂, h₃]
  · obtain ⟨y, ⟨m', hm', rfl⟩, hid, hhome⟩ := h.triggers _ (Table.mem_image hr)
    cases Table.key_injective hm hm' (he.trans hid.symm)
    injection hhome with h₁ h₂ h₃
    rw [h₁, h₂, h₃]

lemma sequenced_of_sound (h : (skeleton known a).Sound issued) : Sequenced a :=
  fun _ hm => (h.messages _ (Table.mem_image hm)).2

end Rows

end ChatCore.Runs
