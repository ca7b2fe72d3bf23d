import Kallichore.ExecutionQueue.Basic
import Mathlib.Data.List.Nodup

/-!
# What becomes of a submitted request

`replay` performs a list of queue operations on a new queue and keeps a log of
what the caller sees: the requests submitted, those released to the kernel, the
`remove_pending` calls that found their request, and the requests a `clear`
dropped. The ledger invariant `Ledger` ties the queue to that log. Its central
line is that the released requests followed by the pending ones form a sublist
of the submitted ones: release order, submission order and the absence of
duplicates are all read off that one sublist.
-/

namespace Kallichore

namespace ExecutionQueue

inductive Op
  | process (request : JupyterMessage)
  | next
  | remove (msgId : String)
  | clear

/-- What the caller learns from an operation. -/
inductive Event
  | submitted (request : JupyterMessage)
  | released (request : JupyterMessage)
  | removed (msgId : String)
  | cleared (dropped : List JupyterMessage)

/-- One operation, with the events it adds to the log. -/
def perform (queue : ExecutionQueue) : Op → ExecutionQueue × List Event
  | .process request =>
      let (queue', now) := queue.processRequest request
      (queue', .submitted request :: if now then [.released request] else [])
  | .next =>
      let (queue', request) := queue.nextRequest
      (queue', request.toList.map .released)
  | .remove msgId =>
      let (queue', found) := queue.removePending msgId
      (queue', if found then [.removed msgId] else [])
  | .clear => (queue.clear, [.cleared queue.pending])

/-- Perform the operations in order, from the queue and log given. -/
def replayFrom : ExecutionQueue × List Event → List Op →
    ExecutionQueue × List Event
  | state, [] => state
  | (queue, log), op :: ops =>
      let (queue', events) := queue.perform op
      replayFrom (queue', log ++ events) ops

/-- Perform the operations in order on a new queue. -/
def replay (ops : List Op) : ExecutionQueue × List Event :=
  replayFrom (new, []) ops

/-- The requests the operations submit, in order. -/
def requests (ops : List Op) : List JupyterMessage :=
  ops.filterMap fun
    | .process request => some request
    | _ => none

namespace Event

/-- The request an event submits, if it is a submission. -/
def submitted? : Event → Option JupyterMessage
  | submitted request => some request
  | _ => none

/-- The request an event releases, if it is a release. -/
def released? : Event → Option JupyterMessage
  | released request => some request
  | _ => none

/-- The event took the request out of the queue for good: a `remove_pending`
that returned true for it, or a `clear` that dropped it. -/
def Drops : Event → JupyterMessage → Prop
  | removed msgId, request => request.msgId = msgId
  | cleared dropped, request => request ∈ dropped
  | _, _ => False

end Event

/-- The requests submitted in the log, in order. -/
def submittedIn (log : List Event) : List JupyterMessage :=
  log.filterMap Event.submitted?

/-- The requests released in the log, in order. -/
def releasedIn (log : List Event) : List JupyterMessage :=
  log.filterMap Event.released?

/-- What can have become of a submitted request. -/
inductive Fate
  | released
  | pending
  | removed
  | cleared

/-- The fate of a request, read off the queue and the log. -/
def Suffers (queue : ExecutionQueue) (log : List Event)
    (request : JupyterMessage) : Fate → Prop
  | .released => .released request ∈ log
  | .pending => request ∈ queue.pending
  | .removed => .removed request.msgId ∈ log
  | .cleared => ∃ dropped, .cleared dropped ∈ log ∧ request ∈ dropped

@[simp] theorem submittedIn_append (log events : List Event) :
    submittedIn (log ++ events) = submittedIn log ++ submittedIn events :=
  List.filterMap_append

@[simp] theorem releasedIn_append (log events : List Event) :
    releasedIn (log ++ events) = releasedIn log ++ releasedIn events :=
  List.filterMap_append

@[simp] theorem submittedIn_nil : submittedIn [] = [] := rfl

@[simp] theorem releasedIn_nil : releasedIn [] = [] := rfl

@[simp] theorem submittedIn_submitted (request : JupyterMessage)
    (log : List Event) :
    submittedIn (.submitted request :: log) = request :: submittedIn log := rfl

@[simp] theorem submittedIn_released (request : JupyterMessage)
    (log : List Event) :
    submittedIn (.released request :: log) = submittedIn log := rfl

@[simp] theorem releasedIn_submitted (request : JupyterMessage)
    (log : List Event) :
    releasedIn (.submitted request :: log) = releasedIn log := rfl

@[simp] theorem releasedIn_released (request : JupyterMessage)
    (log : List Event) :
    releasedIn (.released request :: log) = request :: releasedIn log := rfl

theorem mem_releasedIn {log : List Event} {request : JupyterMessage} :
    request ∈ releasedIn log ↔ .released request ∈ log := by
  constructor
  · intro h
    obtain ⟨event, hmem, hrel⟩ := List.mem_filterMap.mp h
    cases event <;> cases hrel
    exact hmem
  · intro h
    exact List.mem_filterMap.mpr ⟨_, h, rfl⟩

/-- The queue agrees with the log of what was done to it. -/
structure Ledger (queue : ExecutionQueue) (log : List Event) : Prop where
  wellFormed : queue.WellFormed
  distinct : ((submittedIn log).map JupyterMessage.msgId).Nodup
  ordered : (releasedIn log ++ queue.pending).Sublist (submittedIn log)
  known : ∀ event ∈ log, ∀ request, event.Drops request →
    request.msgId ∈ (submittedIn log).map JupyterMessage.msgId
  held : ∀ dropped, .cleared dropped ∈ log →
    ∀ request ∈ dropped, request ∈ submittedIn log
  gone : ∀ event ∈ log, ∀ request, event.Drops request →
    request ∉ releasedIn log ++ queue.pending
  final : log.Pairwise fun earlier later =>
    ∀ request, earlier.Drops request → later ≠ .released request
  accounted : ∀ request ∈ submittedIn log, ∃ fate, queue.Suffers log request fate
  once : ∀ request, .removed request.msgId ∈ log →
    ∀ dropped, .cleared dropped ∈ log → request ∉ dropped

/-- A fate stays as the log grows; only a pending request has to be looked for
again in the new queue. -/
theorem Suffers.extend {queue queue' : ExecutionQueue} {log : List Event}
    {request : JupyterMessage} {fate : Fate} (events : List Event)
    (h : queue.Suffers log request fate)
    (hpending : request ∈ queue.pending →
      ∃ fate, queue'.Suffers (log ++ events) request fate) :
    ∃ fate, queue'.Suffers (log ++ events) request fate := by
  cases fate with
  | released => exact ⟨.released, List.mem_append_left _ h⟩
  | pending => exact hpending h
  | removed => exact ⟨.removed, List.mem_append_left _ h⟩
  | cleared =>
      obtain ⟨dropped, hlog, hmem⟩ := h
      exact ⟨.cleared, dropped, List.mem_append_left _ hlog, hmem⟩

namespace Ledger

variable {queue : ExecutionQueue} {log : List Event}

theorem new_nil : Ledger new [] where
  wellFormed := wellFormed_new
  distinct := List.nodup_nil
  ordered := List.nil_sublist _
  known := by simp
  held := by simp
  gone := by simp
  final := List.Pairwise.nil
  accounted := by simp
  once := by simp

/-- The ledger after an operation that drops nothing. What it releases or
leaves pending was pending already or has just been submitted under a new ID;
what was pending, and what it submits, is released or still pending. -/
theorem grow (h : Ledger queue log) {queue' : ExecutionQueue}
    {events : List Event} (hquiet : ∀ event ∈ events, ∀ request,
      ¬ event.Drops request)
    (hwf : queue'.WellFormed)
    (hdistinct : ((submittedIn log ++ submittedIn events).map
      JupyterMessage.msgId).Nodup)
    (hordered : (releasedIn log ++ releasedIn events ++ queue'.pending).Sublist
      (submittedIn log ++ submittedIn events))
    (horigin : ∀ request ∈ releasedIn events ++ queue'.pending,
      request ∈ queue.pending ∨
        request.msgId ∉ (submittedIn log).map JupyterMessage.msgId)
    (hkept : ∀ request ∈ queue.pending ++ submittedIn events,
      request ∈ releasedIn events ++ queue'.pending) :
    Ledger queue' (log ++ events) := by
  have hfresh : ∀ event ∈ log, ∀ request, event.Drops request →
      request ∉ releasedIn events ++ queue'.pending := by
    intro event hevent request hdrops hmem
    rcases horigin request hmem with hpending | hnew
    · exact h.gone event hevent request hdrops (List.mem_append_right _ hpending)
    · exact hnew (h.known event hevent request hdrops)
  have hold : ∀ event ∈ log ++ events, ∀ request, event.Drops request →
      event ∈ log := by
    intro event hevent request hdrops
    rcases List.mem_append.mp hevent with hlog | hnew
    · exact hlog
    · exact absurd hdrops (hquiet event hnew request)
  have hstay : ∀ request ∈ releasedIn events ++ queue'.pending,
      ∃ fate, queue'.Suffers (log ++ events) request fate := by
    intro request hmem
    rcases List.mem_append.mp hmem with hreleased | hpending
    · exact ⟨.released, List.mem_append_right _ (mem_releasedIn.mp hreleased)⟩
    · exact ⟨.pending, hpending⟩
  refine ⟨hwf, ?_, ?_, ?_, ?_, ?_, ?_, ?_, ?_⟩
  · rwa [submittedIn_append]
  · rwa [releasedIn_append, submittedIn_append]
  · intro event hevent request hdrops
    rw [submittedIn_append, List.map_append]
    exact List.mem_append_left _
      (h.known event (hold event hevent request hdrops) request hdrops)
  · intro dropped hcleared request hmem
    rw [submittedIn_append]
    exact List.mem_append_left _
      (h.held dropped (hold _ hcleared request hmem) request hmem)
  · intro event hevent request hdrops hmem
    have hlog := hold event hevent request hdrops
    rw [releasedIn_append, List.append_assoc] at hmem
    rcases List.mem_append.mp hmem with hreleased | hmem
    · exact h.gone event hlog request hdrops (List.mem_append_left _ hreleased)
    · exact hfresh event hlog request hdrops hmem
  · refine List.pairwise_append.mpr ⟨h.final, ?_, ?_⟩
    · exact List.pairwise_of_forall_mem_list fun event hevent _ _ request hdrops =>
        absurd hdrops (hquiet event hevent request)
    · rintro event hevent later hlater request hdrops rfl
      exact hfresh event hevent request hdrops
        (List.mem_append_left _ (mem_releasedIn.mpr hlater))
  · intro request hmem
    rw [submittedIn_append] at hmem
    rcases List.mem_append.mp hmem with hsub | hsub
    · obtain ⟨fate, hfate⟩ := h.accounted request hsub
      exact hfate.extend _ fun hpending =>
        hstay request (hkept request (List.mem_append_left _ hpending))
    · exact hstay request (hkept request (List.mem_append_right _ hsub))
  · intro request hremoved dropped hcleared hmem
    exact h.once request (hold _ hremoved request rfl) dropped
      (hold _ hcleared request hmem) hmem

theorem process (h : Ledger queue log) {request : JupyterMessage}
    (hfresh : request.msgId ∉ (submittedIn log).map JupyterMessage.msgId) :
    Ledger (queue.perform (.process request)).1
      (log ++ (queue.perform (.process request)).2) := by
  have hdistinct : ((submittedIn log ++ [request]).map
      JupyterMessage.msgId).Nodup := by
    rw [List.map_append, List.map_singleton]
    exact h.distinct.append (List.nodup_singleton _) (by simpa using hfresh)
  have hwf := wellFormed_processRequest queue request
  cases hactive : queue.active with
  | none =>
      rw [processRequest_of_none hactive] at hwf
      have hnil : queue.pending = [] := h.wellFormed hactive
      have hold := h.ordered.append (List.Sublist.refl [request])
      simp only [perform, processRequest_of_none hactive, if_true]
      refine h.grow (by simp [Event.Drops]) hwf (by simpa using hdistinct)
        (by simpa [hnil] using hold) ?_ (by simp [hnil])
      intro other hother
      simp only [releasedIn_submitted, releasedIn_released, releasedIn_nil, hnil,
        List.append_nil, List.mem_singleton] at hother
      exact Or.inr (hother ▸ hfresh)
  | some active =>
      rw [processRequest_of_some hactive] at hwf
      have hold := h.ordered.append (List.Sublist.refl [request])
      simp only [perform, processRequest_of_some hactive, Bool.false_eq_true,
        if_false]
      refine h.grow (by simp [Event.Drops]) hwf (by simpa using hdistinct)
        (by simpa using hold) ?_ (by simp)
      intro other hother
      simp only [releasedIn_submitted, releasedIn_nil, List.nil_append] at hother
      rcases List.mem_append.mp hother with hold | hnew
      · exact Or.inl hold
      · exact Or.inr (List.mem_singleton.mp hnew ▸ hfresh)

theorem next (h : Ledger queue log) :
    Ledger (queue.perform .next).1 (log ++ (queue.perform .next).2) := by
  have hwf := wellFormed_nextRequest queue
  cases hpending : queue.pending with
  | nil =>
      rw [nextRequest_of_nil hpending] at hwf
      simp only [perform, nextRequest_of_nil hpending]
      exact h.grow (by simp) hwf (by simpa using h.distinct)
        (by simpa using h.ordered) (fun request hmem => Or.inl hmem) (by simp)
  | cons request pending =>
      have hold := h.ordered
      rw [hpending] at hold
      rw [nextRequest_of_cons hpending] at hwf
      simp only [perform, nextRequest_of_cons hpending]
      exact h.grow (by simp [Event.Drops]) hwf (by simpa using h.distinct)
        (by simpa using hold)
        (fun other hmem => Or.inl (by rw [hpending]; exact hmem))
        (by simp [hpending])

/-- The ledger after an operation that only drops pending requests, namely the
ones its event says it drops. -/
theorem shrink (h : Ledger queue log) {queue' : ExecutionQueue} {event : Event}
    (hsub : submittedIn [event] = []) (hrel : releasedIn [event] = [])
    (hwf : queue'.WellFormed)
    (hpending : queue'.pending.Sublist queue.pending)
    (hknown : ∀ request, event.Drops request →
      request.msgId ∈ (submittedIn log).map JupyterMessage.msgId)
    (hheld : ∀ dropped, event = .cleared dropped →
      ∀ request ∈ dropped, request ∈ submittedIn log)
    (hgone : ∀ request, event.Drops request →
      request ∉ releasedIn log ++ queue'.pending)
    (haccounted : ∀ request ∈ queue.pending,
      ∃ fate, queue'.Suffers (log ++ [event]) request fate)
    (honce : ∀ request, .removed request.msgId ∈ log ++ [event] →
      ∀ dropped, .cleared dropped ∈ log ++ [event] → request ∉ dropped) :
    Ledger queue' (log ++ [event]) := by
  refine ⟨hwf, ?_, ?_, ?_, ?_, ?_, ?_, ?_, honce⟩
  · simpa [hsub] using h.distinct
  · rw [releasedIn_append, submittedIn_append, hsub, hrel, List.append_nil,
      List.append_nil]
    exact (hpending.append_left _).trans h.ordered
  · intro other hother request hdrops
    rw [submittedIn_append, hsub, List.append_nil]
    rcases List.mem_append.mp hother with hlog | hnew
    · exact h.known other hlog request hdrops
    · exact hknown request (List.mem_singleton.mp hnew ▸ hdrops)
  · intro dropped hcleared
    rw [submittedIn_append, hsub, List.append_nil]
    rcases List.mem_append.mp hcleared with hlog | hnew
    · exact h.held dropped hlog
    · exact hheld dropped (List.mem_singleton.mp hnew).symm
  · intro other hother request hdrops
    rw [releasedIn_append, hrel, List.append_nil]
    rcases List.mem_append.mp hother with hlog | hnew
    · intro hmem
      exact h.gone other hlog request hdrops ((hpending.append_left _).subset hmem)
    · exact hgone request (List.mem_singleton.mp hnew ▸ hdrops)
  · refine List.pairwise_append.mpr ⟨h.final, List.pairwise_singleton _ _, ?_⟩
    rintro earlier hearlier later hlater request hdrops rfl
    rw [← List.mem_singleton.mp hlater] at hrel
    cases hrel
  · intro request hmem
    rw [submittedIn_append, hsub, List.append_nil] at hmem
    obtain ⟨fate, hfate⟩ := h.accounted request hmem
    exact hfate.extend _ fun hpend => haccounted request hpend

theorem mem_submittedIn (h : Ledger queue log) {request : JupyterMessage}
    (hmem : request ∈ releasedIn log ++ queue.pending) :
    request ∈ submittedIn log := h.ordered.subset hmem

theorem eq_of_msgId_eq (h : Ledger queue log) {request other : JupyterMessage}
    (hrequest : request ∈ submittedIn log) (hother : other ∈ submittedIn log)
    (heq : request.msgId = other.msgId) : request = other :=
  List.inj_on_of_nodup_map h.distinct hrequest hother heq

theorem not_mem_releasedIn (h : Ledger queue log) {request : JupyterMessage}
    (hpending : request ∈ queue.pending) : request ∉ releasedIn log := by
  have hnodup := (h.distinct.of_map _).sublist h.ordered
  exact fun hreleased => List.disjoint_of_nodup_append hnodup hreleased hpending

theorem remove (h : Ledger queue log) (msgId : String) :
    Ledger (queue.perform (.remove msgId)).1
      (log ++ (queue.perform (.remove msgId)).2) := by
  have hsublist : (queue.removePending msgId).1.pending.Sublist queue.pending :=
    List.filter_sublist
  cases hfound : (queue.removePending msgId).2 with
  | false =>
      -- Nothing carried the ID, so the filter kept every pending request.
      have hall : (queue.removePending msgId).1.pending = queue.pending := by
        rw [removePending_pending, List.filter_eq_self]
        intro msg hmsg
        have hnot : ¬ (queue.removePending msgId).2 = true := by simp [hfound]
        rw [removePending_eq_true_iff] at hnot
        simpa using fun heq => hnot ⟨msg, hmsg, heq⟩
      simp only [perform, hfound, Bool.false_eq_true, if_false]
      refine h.grow (by simp) (wellFormed_removePending h.wellFormed msgId)
        (by simpa using h.distinct) (by simpa [hall] using h.ordered)
        (fun request hmem => Or.inl (by simpa [hall] using hmem)) (by simp [hall])
  | true =>
      obtain ⟨found, hmem, hid⟩ :=
        (removePending_eq_true_iff queue msgId).mp hfound
      have hsubmitted := h.mem_submittedIn (List.mem_append_right _ hmem)
      -- The only submitted request with this ID is the pending one just found.
      have hunique : ∀ request ∈ submittedIn log, request.msgId = msgId →
          request = found := fun request hrequest heq =>
        h.eq_of_msgId_eq hrequest hsubmitted (heq.trans hid.symm)
      simp only [perform, hfound, if_true]
      refine h.shrink rfl rfl (wellFormed_removePending h.wellFormed msgId)
        hsublist ?_ (by simp) ?_ ?_ ?_
      · rintro request rfl
        exact List.mem_map.mpr ⟨found, hsubmitted, hid⟩
      · rintro request rfl hrequest
        rcases List.mem_append.mp hrequest with hreleased | hpending
        · have heq := hunique request
            (h.mem_submittedIn (List.mem_append_left _ hreleased)) rfl
          exact h.not_mem_releasedIn hmem (heq ▸ hreleased)
        · simp [removePending_pending] at hpending
      · intro request hpending
        by_cases heq : request.msgId = msgId
        · exact ⟨.removed, by simp [Suffers, heq]⟩
        · exact ⟨.pending, by simp [Suffers, removePending_pending, hpending, heq]⟩
      · intro request hremoved dropped hcleared hdropped
        have hlog : .cleared dropped ∈ log := by simpa using hcleared
        rcases List.mem_append.mp hremoved with hold | hnew
        · exact h.once request hold dropped hlog hdropped
        · have heq : request.msgId = msgId := by simpa using hnew
          have hfound := hunique request (h.held dropped hlog request hdropped) heq
          exact h.gone _ hlog request hdropped
            (List.mem_append_right _ (hfound ▸ hmem))

theorem clear (h : Ledger queue log) :
    Ledger (queue.perform .clear).1 (log ++ (queue.perform .clear).2) := by
  have hsubmitted : ∀ request ∈ queue.pending, request ∈ submittedIn log :=
    fun request hmem => h.mem_submittedIn (List.mem_append_right _ hmem)
  simp only [perform]
  refine h.shrink rfl rfl (wellFormed_clear queue) (List.nil_sublist _) ?_ ?_ ?_
    ?_ ?_
  · intro request hmem
    exact List.mem_map_of_mem (hsubmitted request hmem)
  · rintro dropped heq request hmem
    cases heq
    exact hsubmitted request hmem
  · intro request hmem
    simpa using h.not_mem_releasedIn hmem
  · exact fun request hmem => ⟨.cleared, queue.pending, by simp, hmem⟩
  · intro request hremoved dropped hcleared hdropped
    have hlog : .removed request.msgId ∈ log := by simpa using hremoved
    rcases List.mem_append.mp hcleared with hold | hnew
    · exact h.once request hlog dropped hold hdropped
    · have heq : dropped = queue.pending := by simpa using hnew
      exact h.gone _ hlog request rfl (List.mem_append_right _ (heq ▸ hdropped))

theorem suffers_unique (h : Ledger queue log) {request : JupyterMessage}
    {fate fate' : Fate} (hfate : queue.Suffers log request fate)
    (hfate' : queue.Suffers log request fate') : fate = fate' := by
  have hdropped : ∀ event ∈ log, event.Drops request →
      .released request ∉ log ∧ request ∉ queue.pending := by
    intro event hevent hdrops
    have hgone := h.gone event hevent request hdrops
    rw [List.mem_append, mem_releasedIn, not_or] at hgone
    exact hgone
  have hnot : request ∈ queue.pending → .released request ∉ log := fun hmem =>
    mt mem_releasedIn.mpr (h.not_mem_releasedIn hmem)
  -- The two fates are compared pair by pair, each off-diagonal pair being one
  -- of the three exclusions above or the ledger's `once`.
  cases fate <;> cases fate' <;> try rfl
  case released.pending => exact absurd hfate (hnot hfate')
  case pending.released => exact absurd hfate' (hnot hfate)
  case released.removed => exact absurd hfate (hdropped _ hfate' rfl).1
  case removed.released => exact absurd hfate' (hdropped _ hfate rfl).1
  case pending.removed => exact absurd hfate (hdropped _ hfate' rfl).2
  case removed.pending => exact absurd hfate' (hdropped _ hfate rfl).2
  case released.cleared =>
      obtain ⟨dropped, hlog, hmem⟩ := hfate'
      exact absurd hfate (hdropped _ hlog hmem).1
  case cleared.released =>
      obtain ⟨dropped, hlog, hmem⟩ := hfate
      exact absurd hfate' (hdropped _ hlog hmem).1
  case pending.cleared =>
      obtain ⟨dropped, hlog, hmem⟩ := hfate'
      exact absurd hfate (hdropped _ hlog hmem).2
  case cleared.pending =>
      obtain ⟨dropped, hlog, hmem⟩ := hfate
      exact absurd hfate' (hdropped _ hlog hmem).2
  case removed.cleared =>
      obtain ⟨dropped, hlog, hmem⟩ := hfate'
      exact absurd hmem (h.once request hfate dropped hlog)
  case cleared.removed =>
      obtain ⟨dropped, hlog, hmem⟩ := hfate
      exact absurd hmem (h.once request hfate' dropped hlog)

theorem perform (h : Ledger queue log) (op : Op)
    (hfresh : ∀ request, op = .process request →
      request.msgId ∉ (submittedIn log).map JupyterMessage.msgId) :
    Ledger (queue.perform op).1 (log ++ (queue.perform op).2) := by
  cases op with
  | process request => exact h.process (hfresh request rfl)
  | next => exact h.next
  | remove msgId => exact h.remove msgId
  | clear => exact h.clear

end Ledger

theorem submittedIn_perform (queue : ExecutionQueue) (op : Op) :
    submittedIn (queue.perform op).2 = requests [op] := by
  cases op with
  | process request =>
      simp only [perform]
      split <;> rfl
  | next =>
      cases hpending : queue.pending with
      | nil => simp [perform, nextRequest_of_nil hpending, requests]
      | cons request pending =>
          simp [perform, nextRequest_of_cons hpending, requests]
  | remove msgId =>
      simp only [perform]
      split <;> rfl
  | clear => rfl

theorem requests_cons (op : Op) (ops : List Op) :
    requests (op :: ops) = requests [op] ++ requests ops := by
  rw [← List.singleton_append, requests, List.filterMap_append]
  rfl

theorem replayFrom_ledger (ops : List Op) {queue : ExecutionQueue}
    {log : List Event} (h : Ledger queue log)
    (hdistinct : ((submittedIn log ++ requests ops).map
      JupyterMessage.msgId).Nodup) :
    Ledger (replayFrom (queue, log) ops).1 (replayFrom (queue, log) ops).2 ∧
      submittedIn (replayFrom (queue, log) ops).2 =
        submittedIn log ++ requests ops := by
  induction ops generalizing queue log with
  | nil => exact ⟨h, by simp [replayFrom, requests]⟩
  | cons op ops ih =>
      have hsub : submittedIn (log ++ (queue.perform op).2) ++ requests ops =
          submittedIn log ++ requests (op :: ops) := by
        rw [submittedIn_append, submittedIn_perform, requests_cons op ops,
          List.append_assoc]
      have hledger := h.perform op fun request hop hmem => by
        subst hop
        rw [List.map_append] at hdistinct
        exact List.disjoint_of_nodup_append hdistinct hmem (by simp [requests])
      have hrest := ih hledger (by rwa [hsub])
      rw [hsub] at hrest
      exact hrest

/-- The queue neither loses, duplicates nor reorders work: after any operations
on a new queue with distinct request IDs, nothing waits behind an empty active
slot, releases follow submission order and never repeat, no request is released
once dropped, and every submitted request has exactly one fate. -/
theorem replay_conserves (ops : List Op)
    (hdistinct : ((requests ops).map JupyterMessage.msgId).Nodup) :
    ((replay ops).1.active = none → (replay ops).1.pending = []) ∧
      (releasedIn (replay ops).2).Sublist (requests ops) ∧
      (releasedIn (replay ops).2).Nodup ∧
      ((replay ops).2.Pairwise fun earlier later =>
        ∀ request, earlier.Drops request → later ≠ .released request) ∧
      ∀ request ∈ requests ops,
        ∃! fate, (replay ops).1.Suffers (replay ops).2 request fate := by
  obtain ⟨hledger, hsub⟩ := replayFrom_ledger ops Ledger.new_nil
    (by simpa using hdistinct)
  rw [submittedIn_nil, List.nil_append] at hsub
  have hordered : (releasedIn (replay ops).2).Sublist (requests ops) := by
    rw [← hsub]
    exact (List.sublist_append_left _ _).trans hledger.ordered
  refine ⟨hledger.wellFormed, hordered, (hdistinct.of_map _).sublist hordered,
    hledger.final, ?_⟩
  intro request hrequest
  obtain ⟨fate, hfate⟩ := hledger.accounted request (hsub ▸ hrequest)
  exact ⟨fate, hfate, fun fate' hfate' => hledger.suffers_unique hfate' hfate⟩

/-- An execution request on the shell channel with the given ID. -/
def sampleRequest (msgId : String) : JupyterMessage where
  header := { msgId, msgType := "execute_request" }
  parentHeader := none
  channel := .shell
  content := .object [("code", .string "1")]
  metadata := .object []
  buffers := []

/-- Three requests, one of them withdrawn and one cleared while pending. -/
theorem replay_conserves_three :
    let ops := [.process (sampleRequest "a"), .process (sampleRequest "b"),
      .process (sampleRequest "c"), .remove "b", .clear]
    (∀ request ∈ requests ops,
      ∃! fate, (replay ops).1.Suffers (replay ops).2 request fate) ∧
      releasedIn (replay ops).2 = [sampleRequest "a"] :=
  ⟨(replay_conserves _ (by decide)).2.2.2.2, rfl⟩

end ExecutionQueue

end Kallichore
