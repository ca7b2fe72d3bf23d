import Kallichore.Lib.Event
import Kallichore.Startup.Move
import Kallichore.Session.Basic

/-!
# The lifetime of a session

A session outlives its kernels. Each call of `start`, each restart and each
adopted kernel brings an incarnation of its own: the call, the child process
with its `run_child`, and the proxy with its startup and its loop. What they
share is the session's: the state behind the lock, the channel to the kernel,
which every proxy reads in turn, and the exit event, by which whoever records an
exit wakes all that are registered for it at that moment. A proxy registers anew
each time it comes to its `select!`, and a restart once it has asked the kernel
to shut down.

A step is one of `Launch.step` or `ProxyLoop.step` on one incarnation with the
shared state, one of `Session.step` for the tasks that belong to no kernel, or a
step of a restart. The request that a start or a restart serves may be dropped while it
waits. Messages on the channel carry the number of kernels started before they were
posted; nothing in the steps depends on it.

What the tasks tell the client is left out, but for the proxies' own logs.
-/

namespace Kallichore

/-- One kernel of a session, with the tasks that belong to it. -/
structure Incarnation where
  /-- Adopted while running: there is no call of `start` and no child. -/
  adopted : Bool
  connection : KernelConnection
  start : StartPc
  startup : List StartupStatus
  proxy : ProxyStartPc
  child : Child
  /-- The process ID of the child, once there is one. -/
  processId : Option UInt32
  runChild : RunChildPc
  exitNotified : Bool
  /-- Where the proxy is once it listens. -/
  pc : ProxyPc
  pendingIopubMessages : List (List Bytes)
  flushing : Bool
  log : List ProxyEvent
  /-- The proxy's listener for the exit event. -/
  exitListener : Listener
  /-- How many kernels had been started when the message in hand was posted. -/
  inHand : ℕ
  /-- How many kernels had been started before this one. -/
  birth : ℕ

inductive RestartPc
  | absent
  /-- The session is marked as restarting: about to post the shutdown request. -/
  | requesting
  /-- Waiting for the exit event, or about to. -/
  | exiting (listener : Listener)
  | returned
  deriving DecidableEq, Repr

structure Lifetime where
  kernel : KernelState
  /-- The channel to the kernel. -/
  channel : List (ℕ × Posted)
  mode : InterruptMode
  call : String → CallPhase
  connection : KernelConnection
  /-- How many kernels have been started. -/
  kernels : ℕ
  incarnation : ℕ → Option Incarnation
  restart : ℕ → RestartPc

namespace Incarnation

/-- `start` has just been called. -/
def new (connection : KernelConnection) : Incarnation where
  adopted := false
  connection := connection
  start := .called
  startup := []
  proxy := .absent
  child := .absent
  processId := none
  runChild := .absent
  exitNotified := false
  pc := .listening
  pendingIopubMessages := []
  flushing := false
  log := []
  exitListener := .unregistered
  inHand := 0
  birth := 0

/-- `connect` has started the proxy of a running kernel. -/
def adopt (connection : KernelConnection) (kernels : ℕ) : Incarnation :=
  { new connection with
    adopted := true
    start := .waiting
    proxy := .connecting
    birth := kernels }

/-- `run_child` is about to notify the exit event. -/
def notifying (k : Incarnation) : Bool :=
  match k.runChild with
  | .notifying _ => true
  | _ => false

/-- The steps of `start` and its tasks that have no part outside them. -/
def takes (k : Incarnation) (a : Launch.Act) : Bool :=
  match a with
  | .handleKernelInfo _ => !k.adopted
  | .runChild _ => !k.notifying
  | _ => a.plain

/-- `start_zmq_proxy` has returned. -/
def isOver (k : Incarnation) : Bool :=
  match k.proxy, k.pc with
  | .ended, .panicked => false
  | .ended, _ => true
  | .listening, .ended => true
  | _, _ => false

/-- The proxy stands at a `select!` with a branch for the exit event. -/
def selecting (k : Incarnation) : Bool :=
  match k.proxy, k.pc, k.pendingIopubMessages with
  | .connecting, _, _ => true
  | .listening, .listening, [] => true
  | _, _, _ => false

/-- The incarnation after a step of `start` or its tasks. A proxy that leaves the
`select!` it connects in drops its listener. -/
def ofLaunch (k : Incarnation) (l : Launch) : Incarnation :=
  { k with
    start := l.start
    startup := l.startup
    proxy := l.proxy
    child := l.child
    runChild := l.runChild
    exitNotified := l.exitNotified
    exitListener := if l.proxy = k.proxy then k.exitListener else .unregistered }

/-- Whether the step takes one of the branches of the `select!` in `listen`. -/
def leavesSelect : ProxyLoop.Act → Bool
  | .receive | .arrive _ _ | .stop => true
  | _ => false

/-- The incarnation after a step of its loop, with the mark of the message in
hand. -/
def ofLoop (k : Incarnation) (a : ProxyLoop.Act) (w : ProxyLoop) (inHand : ℕ) : Incarnation :=
  { k with
    pc := w.pc
    pendingIopubMessages := w.pendingIopubMessages
    flushing := w.flushing
    log := w.log
    exitListener := if leavesSelect a then .unregistered else k.exitListener
    inHand }

def wake (k : Incarnation) : Incarnation := { k with exitListener := k.exitListener.notify }

end Incarnation

def RestartPc.wake : RestartPc → RestartPc
  | .exiting listener => .exiting listener.notify
  | pc => pc

/-- The request that shuts a kernel down. -/
def shutdownRequest (msgId : String) (restart : Bool) : JupyterMessage where
  header := { msgId, msgType := "shutdown_request" }
  parentHeader := none
  channel := .control
  content := .object [("restart", .bool restart)]
  metadata := .object []
  buffers := []

namespace Lifetime

inductive Act
  /-- `start` is called, for the kernel with this number. -/
  | start (i : ℕ)
  /-- `connect` is called for a running kernel with the given key. -/
  | adopt (i : ℕ) (key : String)
  | launch (i : ℕ) (a : Launch.Act)
  /-- `start` has spawned its child, with this process ID. -/
  | spawn (i : ℕ) (pid : UInt32)
  /-- `start` writes the process ID of its child and puts `run_child` in place. -/
  | identify (i : ℕ) (jep66 : Bool)
  /-- `run_child` notifies the exit event. -/
  | notifyExit (i : ℕ)
  /-- The proxy has the kernel info and begins to listen. -/
  | listen (i : ℕ) (pendingIopubMessages : List (List Bytes))
  /-- The proxy registers for the exit event in its `select!`. -/
  | select (i : ℕ)
  /-- The proxy hears of an exit before it has connected. -/
  | exitedBeforeConnection (i : ℕ)
  /-- The proxy panics on a message while it waits for the kernel info. -/
  | kernelInfoPanics (i : ℕ)
  | proxy (i : ℕ) (a : ProxyLoop.Act)
  /-- `connect` stores the kernel info of an adopted kernel. -/
  | storeKernelInfo (i : ℕ)
  /-- The proxy of an adopted kernel is over: notify the exit event and mark the
  kernel as exited. -/
  | adoptedEnds (i : ℕ) (host : Host)
  /-- A step of a task that belongs to no kernel. -/
  | task (a : Session.Act)
  /-- `restart` marks the session as restarting, unless it already is. -/
  | restart (j : ℕ) (workingDirectory : Option String) (host : Host)
  | restartSend (j : ℕ) (msgId : String)
  /-- The shutdown request could not be posted. -/
  | restartFails (j : ℕ)
  /-- `wait_for_exit_and_signal` registers for the exit event. -/
  | restartListen (j : ℕ)
  /-- The kernel has exited: leave the restarting state and start kernel `i`. -/
  | restartWake (j i : ℕ)
  /-- The request that a restart serves is dropped while it waits for the exit event, or
  then for the lock. -/
  | restartDrop (j : ℕ)

/-- One incarnation as `Launch` sees it. -/
def launch (s : Lifetime) (k : Incarnation) : Launch where
  kernel := s.kernel
  start := k.start
  startup := k.startup
  proxy := k.proxy
  child := k.child
  runChild := k.runChild
  exitNotified := k.exitNotified
  wsJson := []

/-- One incarnation as `ProxyLoop` sees it. -/
def loop (s : Lifetime) (k : Incarnation) : ProxyLoop where
  kernel := s.kernel
  wsZmq := s.channel.map Prod.snd
  pc := k.pc
  pendingIopubMessages := k.pendingIopubMessages
  flushing := k.flushing
  log := k.log

/-- The session as `Session` sees it, without a proxy. -/
def session (s : Lifetime) : Session where
  loop :=
    { kernel := s.kernel
      wsZmq := s.channel.map Prod.snd
      pc := .ended
      pendingIopubMessages := []
      flushing := false
      log := [] }
  mode := s.mode
  call := s.call

def setIncarnation (s : Lifetime) (i : ℕ) (k : Incarnation) : Lifetime :=
  { s with incarnation := Function.update s.incarnation i (some k) }

def setRestart (s : Lifetime) (j : ℕ) (pc : RestartPc) : Lifetime :=
  { s with restart := Function.update s.restart j pc }

/-- Notify the exit event: everyone registered for it is woken. -/
def notifyExit (s : Lifetime) : Lifetime :=
  { s with
    incarnation := fun i => (s.incarnation i).map Incarnation.wake
    restart := fun j => (s.restart j).wake }

/-- Put a message on the channel to the kernel. -/
def enqueue (s : Lifetime) (posted : Posted) : Lifetime :=
  { s with channel := s.channel ++ [(s.kernels, posted)] }

/-- The mark of the message the loop has in hand after a step. -/
def markInHand (s : Lifetime) (k : Incarnation) (a : ProxyLoop.Act) : ℕ :=
  match a, s.channel with
  | .receive, (mark, _) :: _ => mark
  | _, _ => k.inHand

def channelAfter (s : Lifetime) (a : ProxyLoop.Act) : List (ℕ × Posted) :=
  match a with
  | .receive => s.channel.tail
  | _ => s.channel

/-- The steps of tasks that belong to no kernel. -/
def ambient : Session.Act → Bool
  | .proxy _ | .exit _ _ => false
  | .status status _ _ => status ≠ .starting
  | _ => true

/-- The shared state with the directory to restart in. -/
def restartIn (kernel : KernelState) (workingDirectory : Option String) (host : Host) :
    KernelState :=
  match workingDirectory with
  | some workingDirectory => { kernel with workingDirectory }
  | none => (kernel.pollWorkingDir host).1

/-- A step that an incarnation takes if it can. -/
def withKernel (s : Lifetime) (i : ℕ) (f : Incarnation → Option Lifetime) :
    Option Lifetime :=
  (s.incarnation i).bind f

def step (D : Codecs) (s : Lifetime) : Act → Option Lifetime
  | .start i =>
      match s.incarnation i with
      | none => some (s.setIncarnation i (.new s.connection))
      | some _ => none
  | .adopt i key =>
      match s.incarnation i with
      | none => some { s.setIncarnation i (.adopt (s.connection.withKey key) s.kernels) with
          kernels := s.kernels + 1 }
      | some _ => none
  | .launch i a => s.withKernel i fun k =>
      if k.takes a then
        ((s.launch k).step a).map fun l =>
          { s.setIncarnation i (k.ofLaunch l) with kernel := l.kernel }
      else none
  | .spawn i pid => s.withKernel i fun k =>
      ((s.launch k).step .spawn).map fun l =>
        { s.setIncarnation i
            { k.ofLaunch l with processId := some pid, birth := s.kernels } with
          kernels := s.kernels + 1 }
  | .identify i jep66 => s.withKernel i fun k =>
      match k.processId with
      | none => none
      | some pid => ((s.launch k).step (.identify (some pid) jep66)).map fun l =>
          { s.setIncarnation i (k.ofLaunch l) with kernel := l.kernel }
  | .notifyExit i => s.withKernel i fun k =>
      match k.runChild with
      | .notifying code => some
          (s.setIncarnation i
            { k with exitNotified := true, runChild := .announcing code }).notifyExit
      | _ => none
  | .listen i pendingIopubMessages => s.withKernel i fun k =>
      ((s.launch k).step .proxyKernelInfo).map fun l =>
        s.setIncarnation i { k.ofLaunch l with pc := .listening, pendingIopubMessages }
  | .select i => s.withKernel i fun k =>
      if k.selecting ∧ k.exitListener = .unregistered then
        some (s.setIncarnation i { k with exitListener := .registered })
      else none
  | .exitedBeforeConnection i => s.withKernel i fun k =>
      if k.proxy = .connecting ∧ k.exitListener = .notified then
        some (s.setIncarnation i { k with proxy := .ended })
      else none
  | .kernelInfoPanics i => s.withKernel i fun k =>
      if k.proxy = .kernelInfo then
        some (s.setIncarnation i { k with proxy := .ended, pc := .panicked })
      else none
  | .proxy i a => s.withKernel i fun k =>
      if k.proxy = .listening ∧
          (Incarnation.leavesSelect a → k.exitListener ≠ .unregistered) then
        ((s.loop k).step D k.connection a).map fun w =>
          { s.setIncarnation i (k.ofLoop a w (s.markInHand k a)) with
            kernel := w.kernel
            channel := s.channelAfter a }
      else none
  | .storeKernelInfo i => s.withKernel i fun k =>
      if k.adopted ∧ k.start = .connected then
        some (s.setIncarnation i { k with start := .returned })
      else none
  | .adoptedEnds i host => s.withKernel i fun k =>
      if k.adopted ∧ k.isOver ∧ k.exitNotified = false then
        some { (s.setIncarnation i { k with exitNotified := true }).notifyExit with
          kernel := (s.kernel.setStatus .exited
            (some "all sockets disconnected from an adopted kernel") host).1 }
      else none
  | .task a =>
      if ambient a then
        (s.session.step D s.connection a).map fun t =>
          { s with
            kernel := t.loop.kernel
            channel := s.channel ++
              (t.loop.wsZmq.drop s.channel.length).map fun posted => (s.kernels, posted)
            call := t.call }
      else none
  | .restart j workingDirectory host =>
      if s.restart j = .absent then
        if s.kernel.restarting then some (s.setRestart j .returned)
        else some { s.setRestart j .requesting with
          kernel := { restartIn s.kernel workingDirectory host with restarting := true } }
      else none
  | .restartSend j msgId =>
      if s.restart j = .requesting then
        some ((s.enqueue { msg := shutdownRequest msgId true, poster := .client }).setRestart j
          (.exiting .unregistered))
      else none
  | .restartFails j =>
      if s.restart j = .requesting then
        some { s.setRestart j .returned with kernel := { s.kernel with restarting := false } }
      else none
  | .restartListen j =>
      if s.restart j = .exiting .unregistered then
        some (s.setRestart j (.exiting .registered))
      else none
  | .restartWake j i =>
      if s.restart j = .exiting .notified then
        if s.kernel.restarting then
          match s.incarnation i with
          | none => some { (s.setIncarnation i (.new s.connection)).setRestart j .returned with
              kernel := { s.kernel with restarting := false } }
          | some _ => none
        -- The session is no longer restarting; stop here.
        else some (s.setRestart j .returned)
      else none
  | .restartDrop j =>
      if s.restart j = .exiting .registered ∨ s.restart j = .exiting .notified then
        some (s.setRestart j .returned)
      else none

def machine (D : Codecs) : Machine Lifetime Act := ⟨step D⟩

/-- A session that was created and never started. -/
def init (sessionId workingDirectory : String) (host : Host) (mode : InterruptMode)
    (connection : KernelConnection) : Lifetime where
  kernel := KernelState.new sessionId workingDirectory host
  channel := []
  mode := mode
  call := fun _ => .absent
  connection := connection
  kernels := 0
  incarnation := fun _ => none
  restart := fun _ => .absent

end Lifetime

end Kallichore
