import Kallichore.Lib.Machine
import Kallichore.Workspaces.Dispatch
import Mathlib.Logic.Function.Basic

/-!
# The life of a workspace record

`Broker` is one workspace record together with the `run_command` calls made on
it. Windows attach, report focus, answer requests, lose their receivers and are
detached; calls hand their request to a window, wait for the answer and give up.
Each operation takes the registry's lock, so a run is a list of operations. Only
the receivers of the windows are outside the lock.

A record numbers the windows that attach to it, and here the connections at the
other end have the same numbers. A `detach` or a message may carry any number:
that of a window that is long gone, or of one that has not attached yet.

The record forgets what it has done. `history` and `effects` keep it: what
happened to the windows, newest first, and what was sent and replied.
-/

namespace Kallichore

/-- Where a `run_command` call stands. -/
inductive CommandPhase
  | idle
  /-- Waiting for a window to hand the request to. -/
  | connecting (request : CommandRequest)
  /-- Waiting for the reply. -/
  | waiting (request : CommandRequest)
  /-- The wait is over, and `cancel_pending` is yet to be called. -/
  | expired (request : CommandRequest)
  | replied (request : CommandRequest) (reply : CommandReply)
  | disconnected (request : CommandRequest)
  | timedOut (request : CommandRequest)

namespace CommandPhase

/-- The reply arrives. A call that has stopped waiting never sees it. -/
def receive (reply : CommandReply) : CommandPhase → CommandPhase
  | waiting request => replied request reply
  | phase => phase

def disconnect : CommandPhase → CommandPhase
  | waiting request => disconnected request
  | phase => phase

/-- What becomes of a call by the effects of an operation. -/
def hear (call : ℕ) : CommandPhase → List Effect → CommandPhase
  | phase, [] => phase
  | phase, .replied c reply :: effects =>
      hear call (if c = call then phase.receive reply else phase) effects
  | phase, .dropped c :: effects =>
      hear call (if c = call then phase.disconnect else phase) effects
  | phase, _ :: effects => hear call phase effects

end CommandPhase

inductive WindowEvent
  | attached (generation : ℕ)
  | focused (generation : ℕ)
  | receiverDropped (generation : ℕ)
  | detached (generation : ℕ)

structure Broker where
  workspace : Workspace
  history : List WindowEvent
  effects : List Effect
  calls : ℕ → CommandPhase
  /-- The request IDs of the calls so far. -/
  requestIds : List String

namespace WindowEvent

/-- A window with this generation has attached, and its detach has not been
processed since. -/
def attachedIn : List WindowEvent → ℕ → Bool
  | [], _ => false
  | attached h :: history, g => h == g || attachedIn history g
  | detached h :: history, g => h != g && attachedIn history g
  | _ :: history, g => attachedIn history g

/-- The window is attached and its receiver has not been dropped. -/
def liveIn : List WindowEvent → ℕ → Bool
  | [], _ => false
  | attached h :: history, g => h == g || liveIn history g
  | detached h :: history, g => h != g && liveIn history g
  | receiverDropped h :: history, g => h != g && liveIn history g
  | _ :: history, g => liveIn history g

def focuses : List WindowEvent → ℕ
  | [] => 0
  | focused _ :: history => focuses history + 1
  | _ :: history => focuses history

/-- The place of the window's most recent focus among all of them, counted from
one; zero if it has taken none since it attached. -/
def focusRank : List WindowEvent → ℕ → ℕ
  | [], _ => 0
  | focused h :: history, g => if h = g then focuses history + 1 else focusRank history g
  | attached h :: history, g => if h = g then 0 else focusRank history g
  | _ :: history, g => focusRank history g

def attaches : List WindowEvent → ℕ
  | [] => 0
  | attached _ :: history => attaches history + 1
  | _ :: history => attaches history

/-- The place of the window's attaching among all of them, counted from one. -/
def attachRank : List WindowEvent → ℕ → ℕ
  | [], _ => 0
  | attached h :: history, g => if h = g then attaches history + 1 else attachRank history g
  | _ :: history, g => attachRank history g

end WindowEvent

namespace Broker

def new (displayName token : String) : Broker where
  workspace := .new displayName token
  history := []
  effects := []
  calls := fun _ => .idle
  requestIds := []

inductive Act
  | attach
  | dropReceiver (generation : ℕ)
  | message (generation : ℕ) (message : FrontendMessage)
  | detach (now generation : ℕ) (orphans : List (List ℕ × String))
  /-- `run_command` is called. -/
  | call (call : ℕ) (request : CommandRequest)
  | enqueue (call now : ℕ)
  /-- No window connected in time. -/
  | giveUp (call : ℕ)
  /-- No reply came in time. -/
  | expire (call : ℕ)
  | cancelPending (call : ℕ)

/-- The state after an operation on the record. -/
def after (b : Broker) (events : List WindowEvent) (result : Workspace × List Effect) : Broker :=
  { b with
    workspace := result.1
    history := events ++ b.history
    effects := b.effects ++ result.2
    calls := fun call => (b.calls call).hear call result.2 }

def setCall (b : Broker) (call : ℕ) (phase : CommandPhase) : Broker :=
  { b with calls := Function.update b.calls call phase }

/-- What is sent to a window as it attaches. -/
def greeting (w : Workspace) : Effect :=
  .sent (w.nextGeneration + 1) (w.nextGeneration + 1) (.clientsChanged w.clientList)

def step (b : Broker) : Act → Option Broker
  | .attach =>
      let generation := b.workspace.nextGeneration + 1
      some (b.after [.attached generation]
        (b.workspace.attach generation, [greeting b.workspace]))
  | .dropReceiver generation =>
      some (b.after [.receiverDropped generation]
        (b.workspace.dropReceivers [generation], []))
  | .message generation message =>
      some (b.after (if message.focuses then [.focused generation] else [])
        (b.workspace.handleMessage generation message))
  | .detach now generation orphans =>
      if (orphans.map Prod.snd).Perm (b.workspace.orphaned generation) then
        some (b.after
          ((orphans.reverse.flatMap Prod.fst).map .receiverDropped ++ [.detached generation])
          (b.workspace.detachChannel now generation orphans))
      else none
  | .call call request =>
      match b.calls call with
      | .idle =>
          if request.id ∈ b.requestIds then none
          else
            some { b.setCall call (.connecting request) with
              requestIds := request.id :: b.requestIds }
      | _ => none
  | .enqueue call now =>
      match b.calls call with
      | .connecting request =>
          let (w, found, effects) := b.workspace.enqueue now call request
          let b := b.after [] (w, effects)
          some (if found then b.setCall call (.waiting request) else b)
      | _ => none
  | .giveUp call =>
      match b.calls call with
      | .connecting request => some (b.setCall call (.disconnected request))
      | _ => none
  | .expire call =>
      match b.calls call with
      | .waiting request => some (b.setCall call (.expired request))
      | _ => none
  | .cancelPending call =>
      match b.calls call with
      | .expired request =>
          some ((b.after [] (b.workspace.cancelPending request.id)).setCall call
            (.timedOut request))
      | _ => none

def machine : Machine Broker Act := ⟨step⟩

inductive Change (b : Broker) : Act → Broker → Prop
  | attach : Change b .attach (b.after [.attached (b.workspace.nextGeneration + 1)]
      (b.workspace.attach (b.workspace.nextGeneration + 1), [greeting b.workspace]))
  | dropReceiver (generation : ℕ) : Change b (.dropReceiver generation)
      (b.after [.receiverDropped generation] (b.workspace.dropReceivers [generation], []))
  | message (generation : ℕ) (message : FrontendMessage) :
      Change b (.message generation message)
        (b.after (if message.focuses then [.focused generation] else [])
          (b.workspace.handleMessage generation message))
  | detach {now generation : ℕ} {orphans : List (List ℕ × String)}
      (horphans : (orphans.map Prod.snd).Perm (b.workspace.orphaned generation)) :
      Change b (.detach now generation orphans) (b.after
        ((orphans.reverse.flatMap Prod.fst).map .receiverDropped ++ [.detached generation])
        (b.workspace.detachChannel now generation orphans))
  | call {call : ℕ} {request : CommandRequest} (hcall : b.calls call = .idle)
      (hfresh : request.id ∉ b.requestIds) : Change b (.call call request)
        { b.setCall call (.connecting request) with requestIds := request.id :: b.requestIds }
  | enqueued {call now : ℕ} {request : CommandRequest} (hcall : b.calls call = .connecting request)
      (hfound : (b.workspace.enqueue now call request).2.1 = true) : Change b (.enqueue call now)
        ((b.after [] ((b.workspace.enqueue now call request).1,
          (b.workspace.enqueue now call request).2.2)).setCall call (.waiting request))
  | refused {call now : ℕ} {request : CommandRequest} (hcall : b.calls call = .connecting request)
      (hfound : (b.workspace.enqueue now call request).2.1 = false) : Change b (.enqueue call now)
        (b.after [] ((b.workspace.enqueue now call request).1,
          (b.workspace.enqueue now call request).2.2))
  | giveUp {call : ℕ} {request : CommandRequest} (hcall : b.calls call = .connecting request) :
      Change b (.giveUp call) (b.setCall call (.disconnected request))
  | expire {call : ℕ} {request : CommandRequest} (hcall : b.calls call = .waiting request) :
      Change b (.expire call) (b.setCall call (.expired request))
  | cancelPending {call : ℕ} {request : CommandRequest}
      (hcall : b.calls call = .expired request) : Change b (.cancelPending call)
        ((b.after [] (b.workspace.cancelPending request.id)).setCall call (.timedOut request))

theorem change_of_step {b t : Broker} {a : Act} (h : machine.step b a = some t) :
    Change b a t := by
  change step b a = some t at h
  cases a with
  | attach =>
      cases h
      exact .attach
  | dropReceiver generation =>
      cases h
      exact .dropReceiver generation
  | message generation message =>
      cases h
      exact .message generation message
  | detach now generation orphans =>
      simp only [step] at h
      split at h
      · cases h
        exact .detach ‹_›
      · cases h
  | call call request =>
      simp only [step] at h
      split at h
      · split at h
        · cases h
        · cases h
          exact .call ‹_› ‹_›
      · cases h
  | enqueue call now =>
      simp only [step] at h
      split at h
      · cases h
        split
        · exact .enqueued ‹_› ‹_›
        · exact .refused ‹_› (eq_false_of_ne_true ‹_›)
      · cases h
  | giveUp call =>
      simp only [step] at h
      split at h
      · cases h
        exact .giveUp ‹_›
      · cases h
  | expire call =>
      simp only [step] at h
      split at h
      · cases h
        exact .expire ‹_›
      · cases h
  | cancelPending call =>
      simp only [step] at h
      split at h
      · cases h
        exact .cancelPending ‹_›
      · cases h

end Broker

end Kallichore
