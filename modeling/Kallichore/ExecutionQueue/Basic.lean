import Kallichore.Jupyter.Message

/-!
# The execution queue

At most one execution request is `active`; the others wait in `pending`, oldest
first. The four operations are the ones of the source, each returning the new
queue with the value the caller sees. A queue is well formed when nothing waits
behind an empty active slot.
-/

namespace Kallichore

structure ExecutionQueue where
  active : Option JupyterMessage
  pending : List JupyterMessage

namespace ExecutionQueue

def new : ExecutionQueue where
  active := none
  pending := []

def clear (_queue : ExecutionQueue) : ExecutionQueue where
  active := none
  pending := []

/-- Process a request: `true` if it can be executed immediately, `false` if it
was queued for later execution. -/
def processRequest (queue : ExecutionQueue) (request : JupyterMessage) :
    ExecutionQueue × Bool :=
  match queue.active with
  | none => ({ queue with active := some request }, true)
  | some _ => ({ queue with pending := queue.pending ++ [request] }, false)

/-- Remove a pending request. Returns `true` if it was pending. -/
def removePending (queue : ExecutionQueue) (msgId : String) :
    ExecutionQueue × Bool :=
  let pending := queue.pending.filter fun msg => msg.msgId ≠ msgId
  ({ queue with pending }, pending.length ≠ queue.pending.length)

def nextRequest (queue : ExecutionQueue) :
    ExecutionQueue × Option JupyterMessage :=
  match queue.pending with
  | request :: pending => ({ active := some request, pending }, some request)
  | [] => ({ queue with active := none }, none)

/-- Nothing waits behind an empty active slot. -/
def WellFormed (queue : ExecutionQueue) : Prop :=
  queue.active = none → queue.pending = []

@[simp] theorem clear_active (queue : ExecutionQueue) :
    queue.clear.active = none := rfl

@[simp] theorem clear_pending (queue : ExecutionQueue) :
    queue.clear.pending = [] := rfl

theorem processRequest_of_none {queue : ExecutionQueue}
    (h : queue.active = none) (request : JupyterMessage) :
    queue.processRequest request =
      ({ queue with active := some request }, true) := by
  simp [processRequest, h]

theorem processRequest_of_some {queue : ExecutionQueue} {active : JupyterMessage}
    (h : queue.active = some active) (request : JupyterMessage) :
    queue.processRequest request =
      ({ queue with pending := queue.pending ++ [request] }, false) := by
  simp [processRequest, h]

@[simp] theorem removePending_active (queue : ExecutionQueue) (msgId : String) :
    (queue.removePending msgId).1.active = queue.active := rfl

theorem removePending_pending (queue : ExecutionQueue) (msgId : String) :
    (queue.removePending msgId).1.pending =
      queue.pending.filter fun msg => msg.msgId ≠ msgId := rfl

/-- `removePending` answers `true` exactly when the message was pending. -/
theorem removePending_eq_true_iff (queue : ExecutionQueue) (msgId : String) :
    (queue.removePending msgId).2 = true ↔
      ∃ msg ∈ queue.pending, msg.msgId = msgId := by
  have hlen : (queue.pending.filter fun msg => msg.msgId ≠ msgId).length =
      queue.pending.length ↔ ∀ msg ∈ queue.pending, msg.msgId ≠ msgId := by
    rw [List.length_filter_eq_length_iff]
    simp
  simp only [removePending, decide_eq_true_eq, ne_eq, hlen, not_forall, not_not,
    exists_prop]

theorem nextRequest_of_nil {queue : ExecutionQueue} (h : queue.pending = []) :
    queue.nextRequest = ({ queue with active := none }, none) := by
  simp [nextRequest, h]

theorem nextRequest_of_cons {queue : ExecutionQueue} {request : JupyterMessage}
    {pending : List JupyterMessage} (h : queue.pending = request :: pending) :
    queue.nextRequest =
      ({ active := some request, pending }, some request) := by
  simp [nextRequest, h]

/-! ## The operations keep the queue well formed -/

theorem wellFormed_new : new.WellFormed := fun _ => rfl

theorem wellFormed_clear (queue : ExecutionQueue) : queue.clear.WellFormed :=
  fun _ => rfl

theorem wellFormed_processRequest (queue : ExecutionQueue)
    (request : JupyterMessage) :
    (queue.processRequest request).1.WellFormed := by
  cases hactive : queue.active with
  | none =>
      rw [processRequest_of_none hactive]
      exact fun hnone => absurd hnone (by simp)
  | some active =>
      rw [processRequest_of_some hactive]
      exact fun hnone => absurd (hactive.symm.trans hnone) (by simp)

theorem wellFormed_removePending {queue : ExecutionQueue}
    (h : queue.WellFormed) (msgId : String) :
    (queue.removePending msgId).1.WellFormed := by
  intro hnone
  rw [removePending_pending, h hnone]
  rfl

theorem wellFormed_nextRequest (queue : ExecutionQueue) :
    queue.nextRequest.1.WellFormed := by
  cases hpending : queue.pending with
  | nil =>
      rw [nextRequest_of_nil hpending]
      exact fun _ => hpending
  | cons request pending =>
      rw [nextRequest_of_cons hpending]
      exact fun hnone => absurd hnone (by simp)

end ExecutionQueue

end Kallichore
