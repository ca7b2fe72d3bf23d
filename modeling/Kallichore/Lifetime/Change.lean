import Kallichore.Lifetime.Basic

/-!
# What a step of a session changes

A step touches one incarnation at most, or wakes all of them, and it changes the
shared state, the channel and the restarts in few ways. Each relation here says
what a step makes of one of these; the modules after this one reason from the
relations and not from the steps.
-/

namespace Kallichore

namespace Lifetime

open ProxyLoop

/-- The steps with the states they lead to. -/
inductive Took (D : Codecs) (s : Lifetime) : Act → Lifetime → Prop
  | start (i : ℕ) (hnone : s.incarnation i = none) :
      Took D s (.start i) (s.setIncarnation i (.new s.connection))
  | adopt (i : ℕ) (key : String) (hnone : s.incarnation i = none) :
      Took D s (.adopt i key)
        { s.setIncarnation i (.adopt (s.connection.withKey key) s.kernels) with
          kernels := s.kernels + 1 }
  | launch (i : ℕ) (a : Launch.Act) (k : Incarnation) (l : Launch)
      (hk : s.incarnation i = some k) (htakes : k.takes a = true)
      (hl : (s.launch k).step a = some l) :
      Took D s (.launch i a) { s.setIncarnation i (k.ofLaunch l) with kernel := l.kernel }
  | spawn (i : ℕ) (pid : UInt32) (k : Incarnation) (l : Launch)
      (hk : s.incarnation i = some k) (hl : (s.launch k).step .spawn = some l) :
      Took D s (.spawn i pid)
        { s.setIncarnation i
            { k.ofLaunch l with processId := some pid, birth := s.kernels } with
          kernels := s.kernels + 1 }
  | identify (i : ℕ) (jep66 : Bool) (k : Incarnation) (pid : UInt32) (l : Launch)
      (hk : s.incarnation i = some k) (hpid : k.processId = some pid)
      (hl : (s.launch k).step (.identify (some pid) jep66) = some l) :
      Took D s (.identify i jep66)
        { s.setIncarnation i (k.ofLaunch l) with kernel := l.kernel }
  | notifyExit (i : ℕ) (k : Incarnation) (code : Int) (hk : s.incarnation i = some k)
      (hpc : k.runChild = .notifying code) :
      Took D s (.notifyExit i)
        (s.setIncarnation i
          { k with exitNotified := true, runChild := .announcing code }).notifyExit
  | listen (i : ℕ) (pendingIopubMessages : List (List Bytes)) (k : Incarnation) (l : Launch)
      (hk : s.incarnation i = some k) (hl : (s.launch k).step .proxyKernelInfo = some l) :
      Took D s (.listen i pendingIopubMessages)
        (s.setIncarnation i { k.ofLaunch l with pc := .listening, pendingIopubMessages })
  | select (i : ℕ) (k : Incarnation) (hk : s.incarnation i = some k)
      (hselecting : k.selecting = true) (hlistener : k.exitListener = .unregistered) :
      Took D s (.select i) (s.setIncarnation i { k with exitListener := .registered })
  | exitedBeforeConnection (i : ℕ) (k : Incarnation) (hk : s.incarnation i = some k)
      (hproxy : k.proxy = .connecting) (hlistener : k.exitListener = .notified) :
      Took D s (.exitedBeforeConnection i) (s.setIncarnation i { k with proxy := .ended })
  | kernelInfoPanics (i : ℕ) (k : Incarnation) (hk : s.incarnation i = some k)
      (hproxy : k.proxy = .kernelInfo) :
      Took D s (.kernelInfoPanics i)
        (s.setIncarnation i { k with proxy := .ended, pc := .panicked })
  | proxy (i : ℕ) (a : ProxyLoop.Act) (k : Incarnation) (w : ProxyLoop)
      (hk : s.incarnation i = some k) (hproxy : k.proxy = .listening)
      (hselect : Incarnation.leavesSelect a → k.exitListener ≠ .unregistered)
      (hw : (s.loop k).step D k.connection a = some w) :
      Took D s (.proxy i a)
        { s.setIncarnation i (k.ofLoop a w (s.markInHand k a)) with
          kernel := w.kernel
          channel := s.channelAfter a }
  | storeKernelInfo (i : ℕ) (k : Incarnation) (hk : s.incarnation i = some k)
      (hadopted : k.adopted = true) (hstart : k.start = .connected) :
      Took D s (.storeKernelInfo i) (s.setIncarnation i { k with start := .returned })
  | adoptedEnds (i : ℕ) (host : Host) (k : Incarnation) (hk : s.incarnation i = some k)
      (hadopted : k.adopted = true) (hover : k.isOver = true)
      (hnotified : k.exitNotified = false) :
      Took D s (.adoptedEnds i host)
        { (s.setIncarnation i { k with exitNotified := true }).notifyExit with
          kernel := (s.kernel.setStatus .exited
            (some "all sockets disconnected from an adopted kernel") host).1 }
  | task (a : Session.Act) (u : Session) (ha : ambient a = true)
      (hu : s.session.step D s.connection a = some u) :
      Took D s (.task a)
        { s with
          kernel := u.loop.kernel
          channel := s.channel ++
            (u.loop.wsZmq.drop s.channel.length).map fun posted => (s.kernels, posted)
          call := u.call }
  | restartRefused (j : ℕ) (workingDirectory : Option String) (host : Host)
      (hpc : s.restart j = .absent) (hflag : s.kernel.restarting = true) :
      Took D s (.restart j workingDirectory host) (s.setRestart j .returned)
  | restart (j : ℕ) (workingDirectory : Option String) (host : Host)
      (hpc : s.restart j = .absent) (hflag : s.kernel.restarting = false) :
      Took D s (.restart j workingDirectory host)
        { s.setRestart j .requesting with
          kernel := { restartIn s.kernel workingDirectory host with restarting := true } }
  | restartSend (j : ℕ) (msgId : String) (hpc : s.restart j = .requesting) :
      Took D s (.restartSend j msgId)
        ((s.enqueue { msg := shutdownRequest msgId true, poster := .client }).setRestart j
          (.exiting .unregistered))
  | restartFails (j : ℕ) (hpc : s.restart j = .requesting) :
      Took D s (.restartFails j)
        { s.setRestart j .returned with kernel := { s.kernel with restarting := false } }
  | restartListen (j : ℕ) (hpc : s.restart j = .exiting .unregistered) :
      Took D s (.restartListen j) (s.setRestart j (.exiting .registered))
  | restartWake (j i : ℕ) (hpc : s.restart j = .exiting .notified)
      (hflag : s.kernel.restarting = true) (hnone : s.incarnation i = none) :
      Took D s (.restartWake j i)
        { (s.setIncarnation i (.new s.connection)).setRestart j .returned with
          kernel := { s.kernel with restarting := false } }
  | restartStops (j i : ℕ) (hpc : s.restart j = .exiting .notified)
      (hflag : s.kernel.restarting = false) :
      Took D s (.restartWake j i) (s.setRestart j .returned)
  | restartDrop (j : ℕ)
      (hpc : s.restart j = .exiting .registered ∨ s.restart j = .exiting .notified) :
      Took D s (.restartDrop j) (s.setRestart j .returned)

/-- The incarnation whose tasks take the step. -/
def Act.actor : Act → Option ℕ
  | .launch i _ | .spawn i _ | .identify i _ | .notifyExit i | .listen i _ | .select i
  | .exitedBeforeConnection i | .kernelInfoPanics i | .proxy i _ | .storeKernelInfo i
  | .adoptedEnds i _ => some i
  | .start _ | .adopt _ _ | .task _ | .restart _ _ _ | .restartSend _ _ | .restartFails _
  | .restartListen _ | .restartWake _ _ | .restartDrop _ => none

/-- What a step makes of one incarnation: the one there before, and the one there
after. -/
inductive IncarnationChange (D : Codecs) (s t : Lifetime) (j : ℕ) :
    Act → Option Incarnation → Option Incarnation → Prop
  | same (a : Act) (k : Option Incarnation) (hact : a.actor ≠ some j) :
      IncarnationChange D s t j a k k
  /-- Another kernel's exit was notified. -/
  | woken (a : Act) (i : ℕ) (k : Incarnation) (hother : i ≠ j)
      (hact : a = .notifyExit i ∨ ∃ host, a = .adoptedEnds i host) :
      IncarnationChange D s t j a (some k) (some k.wake)
  | begun (a : Act) (hact : a = .start j ∨ ∃ m, a = .restartWake m j) :
      IncarnationChange D s t j a none (some (.new s.connection))
  | adopted (key : String) :
      IncarnationChange D s t j (.adopt j key) none
        (some (.adopt (s.connection.withKey key) s.kernels))
  | launched (a : Launch.Act) (k : Incarnation) (l : Launch) (htakes : k.takes a = true)
      (hl : (s.launch k).step a = some l) (hkernel : t.kernel = l.kernel) :
      IncarnationChange D s t j (.launch j a) (some k) (some (k.ofLaunch l))
  | spawned (pid : UInt32) (k : Incarnation) (hpreparing : k.start = .preparing) :
      IncarnationChange D s t j (.spawn j pid) (some k) (some { k with
        start := .spawned
        child := .running
        runChild := .pending
        processId := some pid
        birth := s.kernels })
  | identified (jep66 : Bool) (k : Incarnation) (start : StartPc)
      (hspawned : k.start = .spawned) (hstart : start = .handshaking ∨ start = .connecting) :
      IncarnationChange D s t j (.identify j jep66) (some k)
        (some { k with start, runChild := .waiting })
  | notifies (k : Incarnation) (code : Int) (hpc : k.runChild = .notifying code) :
      IncarnationChange D s t j (.notifyExit j) (some k) (some { k.wake with
        exitNotified := true
        runChild := .announcing code })
  | listens (pendingIopubMessages : List (List Bytes)) (k : Incarnation)
      (startup : List StartupStatus) (hproxy : k.proxy = .kernelInfo) :
      IncarnationChange D s t j (.listen j pendingIopubMessages) (some k) (some { k with
        startup
        proxy := .listening
        exitListener := .unregistered
        pc := .listening
        pendingIopubMessages })
  | selects (k : Incarnation) (hselecting : k.selecting = true)
      (hlistener : k.exitListener = .unregistered) :
      IncarnationChange D s t j (.select j) (some k) (some { k with exitListener := .registered })
  | leaves (k : Incarnation) (hproxy : k.proxy = .connecting)
      (hlistener : k.exitListener = .notified) :
      IncarnationChange D s t j (.exitedBeforeConnection j) (some k)
        (some { k with proxy := .ended })
  | panics (k : Incarnation) (hproxy : k.proxy = .kernelInfo) :
      IncarnationChange D s t j (.kernelInfoPanics j) (some k)
        (some { k with proxy := .ended, pc := .panicked })
  | loops (a : ProxyLoop.Act) (k : Incarnation) (w : ProxyLoop) (hproxy : k.proxy = .listening)
      (hselect : Incarnation.leavesSelect a → k.exitListener ≠ .unregistered)
      (hw : (s.loop k).step D k.connection a = some w) (hkernel : t.kernel = w.kernel) :
      IncarnationChange D s t j (.proxy j a) (some k)
        (some (k.ofLoop a w (s.markInHand k a)))
  | stores (k : Incarnation) (hadopted : k.adopted = true) :
      IncarnationChange D s t j (.storeKernelInfo j) (some k) (some { k with start := .returned })
  | ends (host : Host) (k : Incarnation) (hadopted : k.adopted = true) (hover : k.isOver = true)
      (hnotified : k.exitNotified = false) :
      IncarnationChange D s t j (.adoptedEnds j host) (some k)
        (some { k.wake with exitNotified := true })

/-- The status, the queue and the process of the shared state are the same. -/
structure SameState (w v : KernelState) : Prop where
  status : v.status = w.status
  queue : v.executionQueue = w.executionQueue
  processId : v.processId = w.processId

def Writes (s : Lifetime) (status : Status) : Act → Prop
  | .launch _ (.mark _) => status = .starting
  | .launch _ (.spawnFails _ _) | .adoptedEnds _ _ => status = .exited
  | .launch i (.runChild _) => status = .exited ∧
      ∃ k code, s.incarnation i = some k ∧ k.runChild = .marking code
  | .launch _ (.handleKernelInfo _) => status = .idle
  | .proxy _ (.update _) => status = .idle ∨ status = .busy
  | .task (.status _ _ _) => status = .idle ∨ status = .offline
  | _ => False

/-- What a step makes of the shared state. -/
inductive KernelChange (s t : Lifetime) : Act → Prop
  | kept (a : Act) (h : SameState s.kernel t.kernel) : KernelChange s t a
  | wrote (a : Act) (status : Status) (reason : Option String) (host : Host)
      (hact : s.Writes status a) (h : t.kernel = (s.kernel.setStatus status reason host).1) :
      KernelChange s t a
  /-- The process ID of a child was written. -/
  | identified (i : ℕ) (jep66 : Bool) (k : Incarnation) (pid : UInt32)
      (hk : s.incarnation i = some k) (hchild : k.processId = some pid)
      (hpid : t.kernel.processId = some pid) (hstatus : t.kernel.status = s.kernel.status)
      (hqueue : t.kernel.executionQueue = s.kernel.executionQueue) :
      KernelChange s t (.identify i jep66)
  /-- A request passed the queue. -/
  | submitted (i : ℕ) (host : Host) (k : Incarnation) (posted : Posted)
      (hk : s.incarnation i = some k) (hpc : k.pc = .queueing posted)
      (hmsg : Executes posted.msg)
      (h : SameState { s.kernel with
        executionQueue := (s.kernel.executionQueue.processRequest posted.msg).1 } t.kernel) :
      KernelChange s t (.proxy i (.queue host))
  /-- An interrupt, a shutdown or a kill emptied the queue. -/
  | cleared (a : Act)
      (hact : a = .task .kill ∨ ∃ i host k posted, a = .proxy i (.queue host) ∧
        s.incarnation i = some k ∧ k.pc = .queueing posted ∧ Clears posted.msg)
      (h : SameState { s.kernel with executionQueue := s.kernel.executionQueue.clear }
        t.kernel) : KernelChange s t a
  /-- The kernel is idle: the next request, if any, is the active one. -/
  | released (i : ℕ) (host : Host) (sent : Bool) (k : Incarnation) (message : JupyterMessage)
      (hk : s.incarnation i = some k) (hpc : k.pc = .dequeuing message)
      (h : SameState { s.kernel with
        executionQueue := s.kernel.executionQueue.nextRequest.1 } t.kernel) :
      KernelChange s t (.proxy i (.dequeue host sent))
  | withdrawn (msgId : String) (hcall : s.call msgId = .gaveUp)
      (h : SameState { s.kernel with
        executionQueue := (s.kernel.executionQueue.removePending msgId).1 } t.kernel) :
      KernelChange s t (.task (.abandon msgId))

def Posts (s : Lifetime) (posted : Posted) : Act → Prop
  | .task a => s.session.Posts posted a
  | .restartSend _ msgId => posted = { msg := shutdownRequest msgId true, poster := .client }
  | _ => False

inductive ChannelChange (s t : Lifetime) : Act → Prop
  | same (a : Act) (h : t.channel = s.channel) : ChannelChange s t a
  | posted (a : Act) (posted : Posted) (hposted : s.Posts posted a)
      (h : t.channel = s.channel ++ [(s.kernels, posted)]) : ChannelChange s t a
  | taken (i mark : ℕ) (posted : Posted) (h : s.channel = (mark, posted) :: t.channel) :
      ChannelChange s t (.proxy i .receive)

/-- The listener of a restart that has not been cleared yet. -/
def listener : RestartPc → Option Listener
  | .requesting => some .unregistered
  | .exiting listener => some listener
  | .absent | .returned => none

/-- What a step makes of one restart and of the flag. -/
inductive RestartChange (s t : Lifetime) (j : ℕ) : Act → Prop
  | same (a : Act) (h : t.restart j = s.restart j) : RestartChange s t j a
  | woken (a : Act) (i : ℕ) (hact : a = .notifyExit i ∨ ∃ host, a = .adoptedEnds i host)
      (h : t.restart j = (s.restart j).wake) : RestartChange s t j a
  | refused (workingDirectory : Option String) (host : Host) (hpc : s.restart j = .absent)
      (h : t.restart j = .returned) : RestartChange s t j (.restart j workingDirectory host)
  | entered (workingDirectory : Option String) (host : Host)
      (hflag : s.kernel.restarting = false) (hpc : s.restart j = .absent)
      (h : t.restart j = .requesting) : RestartChange s t j (.restart j workingDirectory host)
  | asked (msgId : String) (hpc : s.restart j = .requesting)
      (h : t.restart j = .exiting .unregistered) : RestartChange s t j (.restartSend j msgId)
  | listens (hpc : s.restart j = .exiting .unregistered)
      (h : t.restart j = .exiting .registered) : RestartChange s t j (.restartListen j)
  | returned (a : Act) (hflag : t.kernel.restarting = false) (h : t.restart j = .returned) :
      RestartChange s t j a
  | dropped (hpc : s.restart j = .exiting .registered ∨ s.restart j = .exiting .notified)
      (h : t.restart j = .returned) : RestartChange s t j (.restartDrop j)

/-! ## One incarnation -/

theorem withKernel_eq_some_iff {s t : Lifetime} {i : ℕ} {f : Incarnation → Option Lifetime} :
    s.withKernel i f = some t ↔ ∃ k, s.incarnation i = some k ∧ f k = some t :=
  Option.bind_eq_some_iff

@[simp] theorem setIncarnation_self (s : Lifetime) (i : ℕ) (k : Incarnation) :
    (s.setIncarnation i k).incarnation i = some k := by
  simp [setIncarnation]

theorem setIncarnation_of_ne (s : Lifetime) {i j : ℕ} (k : Incarnation) (h : j ≠ i) :
    (s.setIncarnation i k).incarnation j = s.incarnation j := by
  simp [setIncarnation, h]

theorem notifyExit_incarnation (s : Lifetime) (j : ℕ) :
    s.notifyExit.incarnation j = (s.incarnation j).map Incarnation.wake := rfl

variable {D : Codecs}

def Act.ofRestart : Act → Bool
  | .restart _ _ _ | .restartSend _ _ | .restartFails _ | .restartListen _ | .restartWake _ _
  | .restartDrop _ => true
  | _ => false

def Act.ofProxy : Act → Bool
  | .listen _ _ | .select _ | .exitedBeforeConnection _ | .kernelInfoPanics _ | .proxy _ _
  | .adoptedEnds _ _ => true
  | _ => false

theorem took_of_restart {s t : Lifetime} {a : Act} (ha : a.ofRestart = true)
    (h : s.step D a = some t) : Took D s a t := by
  cases a with
  | restart j workingDirectory host =>
      obtain ⟨hpc, h⟩ := Option.ite_none_right_eq_some.mp h
      split at h
      · rename_i hflag
        cases h
        exact .restartRefused j workingDirectory host hpc hflag
      · rename_i hflag
        cases h
        exact .restart j workingDirectory host hpc (by simpa using hflag)
  | restartSend j msgId =>
      obtain ⟨hpc, h⟩ := Option.ite_none_right_eq_some.mp h
      cases h
      exact .restartSend j msgId hpc
  | restartFails j =>
      obtain ⟨hpc, h⟩ := Option.ite_none_right_eq_some.mp h
      cases h
      exact .restartFails j hpc
  | restartListen j =>
      obtain ⟨hpc, h⟩ := Option.ite_none_right_eq_some.mp h
      cases h
      exact .restartListen j hpc
  | restartWake j i =>
      obtain ⟨hpc, h⟩ := Option.ite_none_right_eq_some.mp h
      split at h
      · rename_i hflag
        split at h
        · rename_i hnone
          cases h
          exact .restartWake j i hpc hflag hnone
        · cases h
      · rename_i hflag
        cases h
        exact .restartStops j i hpc (by simpa using hflag)
  | restartDrop j =>
      obtain ⟨hpc, h⟩ := Option.ite_none_right_eq_some.mp h
      cases h
      exact .restartDrop j hpc
  | _ => cases ha

theorem took_of_proxy {s t : Lifetime} {a : Act} (ha : a.ofProxy = true)
    (h : s.step D a = some t) : Took D s a t := by
  cases a with
  | listen i pendingIopubMessages =>
      obtain ⟨k, hk, h⟩ := withKernel_eq_some_iff.mp h
      obtain ⟨l, hl, rfl⟩ := Option.map_eq_some_iff.mp h
      exact .listen i pendingIopubMessages k l hk hl
  | select i =>
      obtain ⟨k, hk, h⟩ := withKernel_eq_some_iff.mp h
      obtain ⟨⟨hselecting, hlistener⟩, h⟩ := Option.ite_none_right_eq_some.mp h
      cases h
      exact .select i k hk hselecting hlistener
  | exitedBeforeConnection i =>
      obtain ⟨k, hk, h⟩ := withKernel_eq_some_iff.mp h
      obtain ⟨⟨hproxy, hlistener⟩, h⟩ := Option.ite_none_right_eq_some.mp h
      cases h
      exact .exitedBeforeConnection i k hk hproxy hlistener
  | kernelInfoPanics i =>
      obtain ⟨k, hk, h⟩ := withKernel_eq_some_iff.mp h
      obtain ⟨hproxy, h⟩ := Option.ite_none_right_eq_some.mp h
      cases h
      exact .kernelInfoPanics i k hk hproxy
  | proxy i a =>
      obtain ⟨k, hk, h⟩ := withKernel_eq_some_iff.mp h
      obtain ⟨⟨hproxy, hselect⟩, h⟩ := Option.ite_none_right_eq_some.mp h
      obtain ⟨w, hw, rfl⟩ := Option.map_eq_some_iff.mp h
      exact .proxy i a k w hk hproxy hselect hw
  | adoptedEnds i host =>
      obtain ⟨k, hk, h⟩ := withKernel_eq_some_iff.mp h
      obtain ⟨⟨hadopted, hover, hnotified⟩, h⟩ := Option.ite_none_right_eq_some.mp h
      cases h
      exact .adoptedEnds i host k hk hadopted hover hnotified
  | _ => cases ha

theorem step_took {s t : Lifetime} {a : Act} (h : s.step D a = some t) : Took D s a t := by
  cases a with
  | start i =>
      simp only [step] at h
      split at h
      · rename_i hnone
        cases h
        exact .start i hnone
      · cases h
  | adopt i key =>
      simp only [step] at h
      split at h
      · rename_i hnone
        cases h
        exact .adopt i key hnone
      · cases h
  | launch i a =>
      obtain ⟨k, hk, h⟩ := withKernel_eq_some_iff.mp h
      obtain ⟨htakes, h⟩ := Option.ite_none_right_eq_some.mp h
      obtain ⟨l, hl, rfl⟩ := Option.map_eq_some_iff.mp h
      exact .launch i a k l hk htakes hl
  | spawn i pid =>
      obtain ⟨k, hk, h⟩ := withKernel_eq_some_iff.mp h
      obtain ⟨l, hl, rfl⟩ := Option.map_eq_some_iff.mp h
      exact .spawn i pid k l hk hl
  | identify i jep66 =>
      obtain ⟨k, hk, h⟩ := withKernel_eq_some_iff.mp h
      split at h
      · cases h
      · rename_i pid hpid
        obtain ⟨l, hl, rfl⟩ := Option.map_eq_some_iff.mp h
        exact .identify i jep66 k pid l hk hpid hl
  | notifyExit i =>
      obtain ⟨k, hk, h⟩ := withKernel_eq_some_iff.mp h
      split at h
      · rename_i code hpc
        cases h
        exact .notifyExit i k code hk hpc
      · cases h
  | storeKernelInfo i =>
      obtain ⟨k, hk, h⟩ := withKernel_eq_some_iff.mp h
      obtain ⟨⟨hadopted, hstart⟩, h⟩ := Option.ite_none_right_eq_some.mp h
      cases h
      exact .storeKernelInfo i k hk hadopted hstart
  | task a =>
      obtain ⟨ha, h⟩ := Option.ite_none_right_eq_some.mp h
      obtain ⟨u, hu, rfl⟩ := Option.map_eq_some_iff.mp h
      exact .task a u ha hu
  | listen | select | exitedBeforeConnection | kernelInfoPanics | proxy | adoptedEnds =>
      exact took_of_proxy rfl h
  | restart | restartSend | restartFails | restartListen | restartWake | restartDrop =>
      exact took_of_restart rfl h

theorem incarnationChange_of_own {s t : Lifetime} {a : Act} {i : ℕ} {k : Incarnation}
    (hact : a.actor = some i ∨ a.actor = none)
    (ht : t.incarnation = (s.setIncarnation i k).incarnation)
    (h : IncarnationChange D s t i a (s.incarnation i) (some k)) (j : ℕ) :
    IncarnationChange D s t j a (s.incarnation j) (t.incarnation j) := by
  by_cases hj : j = i
  · rw [hj, ht, setIncarnation_self]
    exact h
  · rw [ht, setIncarnation_of_ne s k hj]
    apply IncarnationChange.same
    rcases hact with hact | hact
    · rw [hact]
      exact fun heq => hj (Option.some.inj heq).symm
    · rw [hact]
      simp

theorem incarnationChange_of_notify {s t : Lifetime} {a : Act} {i : ℕ} {k : Incarnation}
    (hact : a = .notifyExit i ∨ ∃ host, a = .adoptedEnds i host)
    (ht : t.incarnation = (s.setIncarnation i k).notifyExit.incarnation)
    (h : IncarnationChange D s t i a (s.incarnation i) (some k.wake)) (j : ℕ) :
    IncarnationChange D s t j a (s.incarnation j) (t.incarnation j) := by
  by_cases hj : j = i
  · rw [hj, ht, notifyExit_incarnation, setIncarnation_self]
    exact h
  · rw [ht, notifyExit_incarnation, setIncarnation_of_ne s k hj]
    have hother : a.actor ≠ some j := by
      rcases hact with rfl | ⟨host, rfl⟩
      all_goals exact fun heq => hj (Option.some.inj heq).symm
    cases s.incarnation j with
    | none => exact .same a none hother
    | some other => exact .woken a i other (Ne.symm hj) hact

theorem step_incarnation {s t : Lifetime} {a : Act} (h : s.step D a = some t) (j : ℕ) :
    IncarnationChange D s t j a (s.incarnation j) (t.incarnation j) := by
  cases step_took h with
  | start i hnone =>
      refine incarnationChange_of_own (Or.inr rfl) (by rfl) ?_ j
      rw [hnone]
      exact .begun _ (Or.inl rfl)
  | adopt i key hnone =>
      refine incarnationChange_of_own (Or.inr rfl) (by rfl) ?_ j
      rw [hnone]
      exact .adopted key
  | launch i a k l hk htakes hl =>
      refine incarnationChange_of_own (Or.inl rfl) (by rfl) ?_ j
      rw [hk]
      exact .launched a k l htakes hl rfl
  | spawn i pid k l hk hl =>
      obtain ⟨hpreparing, heq⟩ := Launch.ite_eq_some hl
      cases heq
      let next : Incarnation := { k with
        start := .spawned
        child := .running
        runChild := .pending
        processId := some pid
        birth := s.kernels }
      refine incarnationChange_of_own (k := next) (Or.inl rfl) ?_ ?_ j
      · simp [Incarnation.ofLaunch, launch, next]
      · rw [hk]
        exact .spawned pid k hpreparing
  | identify i jep66 k pid l hk hpid hl =>
      obtain ⟨hspawned, heq⟩ := Launch.ite_eq_some hl
      cases heq
      let next : Incarnation := { k with
        start := if jep66 then .handshaking else .connecting
        runChild := .waiting }
      have hstart : next.start = .handshaking ∨ next.start = .connecting := by
        cases jep66 <;> simp [next]
      refine incarnationChange_of_own (k := next) (Or.inl rfl) ?_ ?_ j
      · simp [Incarnation.ofLaunch, launch, next]
      · rw [hk]
        exact .identified jep66 k next.start hspawned hstart
  | notifyExit i k code hk hpc =>
      refine incarnationChange_of_notify
        (k := { k with exitNotified := true, runChild := .announcing code }) (Or.inl rfl) rfl ?_ j
      rw [hk]
      exact .notifies k code hpc
  | listen i pendingIopubMessages k l hk hl =>
      obtain ⟨hproxy, heq⟩ := Launch.ite_eq_some hl
      obtain ⟨startup, hreport⟩ := (s.launch k).report_frame .connected
      rw [hreport] at heq
      cases heq
      let next : Incarnation := { k with
        startup
        proxy := .listening
        exitListener := .unregistered
        pc := .listening
        pendingIopubMessages }
      have hproxy' : k.proxy = .kernelInfo := hproxy
      refine incarnationChange_of_own (k := next) (Or.inl rfl) ?_ ?_ j
      · simp [Incarnation.ofLaunch, launch, next, hproxy']
      · rw [hk]
        exact .listens pendingIopubMessages k startup hproxy
  | select i k hk hselecting hlistener =>
      refine incarnationChange_of_own (Or.inl rfl) (by rfl) ?_ j
      rw [hk]
      exact .selects k hselecting hlistener
  | exitedBeforeConnection i k hk hproxy hlistener =>
      refine incarnationChange_of_own (Or.inl rfl) (by rfl) ?_ j
      rw [hk]
      exact .leaves k hproxy hlistener
  | kernelInfoPanics i k hk hproxy =>
      refine incarnationChange_of_own (Or.inl rfl) (by rfl) ?_ j
      rw [hk]
      exact .panics k hproxy
  | proxy i a k w hk hproxy hselect hw =>
      refine incarnationChange_of_own (Or.inl rfl) (by rfl) ?_ j
      rw [hk]
      exact .loops a k w hproxy hselect hw rfl
  | storeKernelInfo i k hk hadopted hstart =>
      refine incarnationChange_of_own (Or.inl rfl) (by rfl) ?_ j
      rw [hk]
      exact .stores k hadopted
  | adoptedEnds i host k hk hadopted hover hnotified =>
      refine incarnationChange_of_notify (k := { k with exitNotified := true })
        (Or.inr ⟨host, rfl⟩) (by rfl) ?_ j
      rw [hk]
      exact .ends host k hadopted hover hnotified
  | restartWake m i hpc hflag hnone =>
      refine incarnationChange_of_own (Or.inr rfl) (by rfl) ?_ j
      rw [hnone]
      exact .begun _ (Or.inr ⟨m, rfl⟩)
  | task a u ha hu => exact .same _ _ (by simp [Act.actor])
  | restartRefused | restart | restartSend | restartFails | restartListen | restartStops
  | restartDrop => exact .same _ _ (by simp [Act.actor])

theorem step_incarnation_of_some {s t : Lifetime} {a : Act} (h : s.step D a = some t) {j : ℕ}
    {k : Incarnation} (hk : s.incarnation j = some k) :
    ∃ k', t.incarnation j = some k' ∧ IncarnationChange D s t j a (some k) (some k') := by
  have hchange := step_incarnation h j
  rw [hk] at hchange
  cases hk' : t.incarnation j with
  | none =>
      rw [hk'] at hchange
      cases hchange
  | some k' =>
      rw [hk'] at hchange
      exact ⟨k', rfl, hchange⟩

theorem step_incarnation_to {s t : Lifetime} {a : Act} (h : s.step D a = some t) {j : ℕ}
    {k' : Incarnation} (hk' : t.incarnation j = some k') :
    ∃ before, s.incarnation j = before ∧ IncarnationChange D s t j a before (some k') := by
  have hchange := step_incarnation h j
  rw [hk'] at hchange
  exact ⟨_, rfl, hchange⟩

/-! ## The shared state -/

theorem sameState_refl (w : KernelState) : SameState w w := ⟨rfl, rfl, rfl⟩

/-- A step of a loop that writes no status, with what it makes of the queue. -/
theorem sameState_of_holder {w v : KernelState} {queue : ExecutionQueue}
    (h : SameHolder w v) (hqueue : v.executionQueue = queue) :
    SameState { w with executionQueue := queue } v :=
  ⟨h.status, hqueue, h.processId⟩

theorem kernelChange_of_loop {s t : Lifetime} {i : ℕ} {a : ProxyLoop.Act} {k : Incarnation}
    {w : ProxyLoop} (hk : s.incarnation i = some k)
    (hw : (s.loop k).step D k.connection a = some w) (ht : t.kernel = w.kernel) :
    KernelChange s t (.proxy i a) := by
  rcases step_holder hw with hsame | ⟨host, status, reason, rfl, hstatus, hkernel⟩
  · have hkept : w.executionQueue = (s.loop k).executionQueue →
        KernelChange s t (.proxy i a) := by
      intro hqueue
      exact .kept _ ⟨by rw [ht, hsame.status]; rfl, by rw [ht]; exact hqueue,
        by rw [ht, hsame.processId]; rfl⟩
    have hmoved : ∀ queue, w.executionQueue = queue →
        SameState { s.kernel with executionQueue := queue } t.kernel := by
      intro queue hqueue
      rw [ht]
      exact sameState_of_holder hsame hqueue
    cases ProxyLoop.step_change hw with
    | received posted rest hpc hchannel hchannel' hqueue hpc' hlog => exact hkept hqueue
    | admitted host posted hpc hmsg hactive hqueue hchannel hpc' hlog =>
        refine .submitted i host k posted hk hpc hmsg (hmoved _ ?_)
        have hfree : s.kernel.executionQueue.active = none := hactive
        rw [hqueue, ExecutionQueue.processRequest_of_none hfree]
        rfl
    | queued host posted active hpc hmsg hactive hqueue hchannel hpc' hlog =>
        refine .submitted i host k posted hk hpc hmsg (hmoved _ ?_)
        have htaken : s.kernel.executionQueue.active = some active := hactive
        rw [hqueue, ExecutionQueue.processRequest_of_some htaken]
        rfl
    | cleared host posted hpc hmsg hqueue hchannel hpc' hlog =>
        exact .cleared _ (Or.inr ⟨i, host, k, posted, rfl, hk, hpc, hmsg⟩) (hmoved _ hqueue)
    | passed host posted hpc hmsg hqueue hchannel hpc' hlog => exact hkept hqueue
    | sent host accepted posted frames hpc hqueue hchannel hpc' hlog => exact hkept hqueue
    | unsent host accepted posted hpc hqueue hchannel hpc' hlog => exact hkept hqueue
    | decoded a message hpc hmessage hqueue hchannel hpc' hlog => exact hkept hqueue
    | discarded a hpc hqueue hchannel hpc' hlog => exact hkept hqueue
    | updated host message executionState hpc hqueue hchannel hpc' hlog => exact hkept hqueue
    | drained host accepted message hpc hnil hqueue hchannel hpc' hlog =>
        refine .released i host accepted k message hk hpc (hmoved _ ?_)
        have hempty : s.kernel.executionQueue.pending = [] := hnil
        rw [hqueue, ExecutionQueue.nextRequest_of_nil hempty]
        rfl
    | released host accepted message request rest frames hpc hcons hqueue hchannel hpc' hlog =>
        refine .released i host accepted k message hk hpc (hmoved _ ?_)
        have hfirst : s.kernel.executionQueue.pending = request :: rest := hcons
        rw [hqueue, ExecutionQueue.nextRequest_of_cons hfirst]
    | lost host accepted message request rest hpc hcons hqueue hchannel hpc' hlog =>
        refine .released i host accepted k message hk hpc (hmoved _ ?_)
        have hfirst : s.kernel.executionQueue.pending = request :: rest := hcons
        rw [hqueue, ExecutionQueue.nextRequest_of_cons hfirst]
    | moved a hpc hqueue hchannel hpc' hlog => exact hkept hqueue
  · exact .wrote _ status reason host hstatus (by rw [ht]; exact hkernel)

theorem plain_of_takes {k : Incarnation} {a : Launch.Act} (h : k.takes a = true) :
    a.plain = true := by
  cases a <;> first | rfl | exact h

theorem kernelChange_of_launch {s t : Lifetime} {i : ℕ} {a : Launch.Act} {k : Incarnation}
    {l : Launch} (hk : s.incarnation i = some k) (htakes : k.takes a = true)
    (hl : (s.launch k).step a = some l) (ht : t.kernel = l.kernel) :
    KernelChange s t (.launch i a) := by
  cases Launch.step_write (plain_of_takes htakes) hl with
  | same a h =>
      refine .kept _ ?_
      rw [ht, h]
      exact sameState_refl _
  | starting host h => exact .wrote _ .starting _ host rfl (by rw [ht, h]; rfl)
  | spawnFails error host h => exact .wrote _ .exited _ host rfl (by rw [ht, h]; rfl)
  | promoted host hstatus h => exact .wrote _ .idle _ host rfl (by rw [ht, h]; rfl)
  | exited host code hpc h =>
      exact .wrote _ .exited _ host ⟨rfl, k, code, hk, hpc⟩ (by rw [ht, h]; rfl)

theorem sameState_restartIn (kernel : KernelState) (workingDirectory : Option String)
    (host : Host) (restarting : Bool) :
    SameState kernel { restartIn kernel workingDirectory host with restarting } := by
  unfold restartIn
  cases workingDirectory with
  | some workingDirectory => exact ⟨rfl, rfl, rfl⟩
  | none =>
      obtain ⟨workingDirectory, heq⟩ := kernel.pollWorkingDir_eq host
      simp only [heq]
      exact ⟨rfl, rfl, rfl⟩

theorem kernelChange_of_task {s t : Lifetime} {a : Session.Act} {u : Session}
    (ha : ambient a = true) (hu : s.session.step D s.connection a = some u)
    (ht : t.kernel = u.loop.kernel) : KernelChange s t (.task a) := by
  have hkept : SameState s.kernel u.loop.kernel → KernelChange s t (.task a) := by
    intro hsame
    exact .kept _ (by rw [ht]; exact hsame)
  cases Session.step_took hu with
  | proxy | exit => cases ha
  | post | register | submit | finish | giveUp | signal | message =>
      exact hkept ⟨rfl, rfl, rfl⟩
  | @abandon msgId hcall =>
      refine .withdrawn msgId hcall ?_
      have hsection : t.kernel = { s.kernel with
          executionQueue := (s.kernel.executionQueue.removePending msgId).1 } :=
        ht.trans (Session.abandonSection_fst s.kernel msgId)
      rw [hsection]
      exact ⟨rfl, rfl, rfl⟩
  | @status status reason host hstatus =>
      refine .wrote _ status reason host ?_ ht
      have hne : status ≠ .starting := by simpa [ambient] using ha
      rcases hstatus with rfl | rfl | rfl
      · exact Or.inl rfl
      · exact Or.inr rfl
      · exact absurd rfl hne
  | kill => exact .cleared _ (Or.inl rfl) (by rw [ht]; exact ⟨rfl, rfl, rfl⟩)

theorem restarting_of_task {s : Lifetime} {a : Session.Act} {u : Session}
    (ha : ambient a = true) (hu : s.session.step D s.connection a = some u) :
    u.loop.kernel.restarting = s.kernel.restarting := by
  cases Session.step_took hu with
  | proxy | exit => cases ha
  | post | register | submit | finish | giveUp | signal | message | kill => rfl
  | @abandon msgId hcall =>
      change (Session.abandonSection s.kernel msgId).1.restarting = _
      rw [Session.abandonSection_fst]
  | @status status reason host hstatus =>
      exact KernelState.setStatus_restarting s.kernel status reason host

theorem step_kernel {s t : Lifetime} {a : Act} (h : s.step D a = some t) :
    KernelChange s t a := by
  cases step_took h with
  | launch i a k l hk htakes hl => exact kernelChange_of_launch hk htakes hl rfl
  | identify i jep66 k pid l hk hpid hl =>
      obtain ⟨-, heq⟩ := Launch.ite_eq_some hl
      cases heq
      exact .identified i jep66 k pid hk hpid rfl rfl rfl
  | proxy i a k w hk hproxy hselect hw => exact kernelChange_of_loop hk hw rfl
  | adoptedEnds i host k hk hadopted hover hnotified => exact .wrote _ .exited _ host rfl rfl
  | task a u ha hu => exact kernelChange_of_task ha hu rfl
  | restart m workingDirectory host hpc hflag =>
      exact .kept _ (sameState_restartIn s.kernel workingDirectory host true)
  | start | adopt | spawn | notifyExit | listen | select | exitedBeforeConnection
  | kernelInfoPanics | storeKernelInfo | restartRefused | restartSend | restartFails
  | restartListen | restartWake | restartStops | restartDrop =>
      exact .kept _ ⟨rfl, rfl, rfl⟩

/-! ## The channel and the count of kernels -/

theorem channelChange_of_task {s t : Lifetime} {a : Session.Act} {u : Session}
    (ha : ambient a = true) (hu : s.session.step D s.connection a = some u)
    (ht : t.channel = s.channel ++
      (u.loop.wsZmq.drop s.channel.length).map fun posted => (s.kernels, posted)) :
    ChannelChange s t (.task a) := by
  have hsame : u.loop.wsZmq = s.channel.map Prod.snd → ChannelChange s t (.task a) := by
    intro hchannel
    refine .same _ ?_
    rw [ht, hchannel]
    simp
  cases Session.step_change hu with
  | proxy a hloop => cases ha
  | posted a posted hposted hloop =>
      refine .posted _ posted hposted ?_
      have hchannel : u.loop.wsZmq = s.channel.map Prod.snd ++ [posted] := hloop.channel
      rw [ht, hchannel]
      simp
  | withdrawn msgId hcall hqueue hchannel hpc hlog => exact hsame hchannel
  | cleared a hact hqueue hchannel hpc hlog => exact hsame hchannel
  | other a hloop => exact hsame hloop.channel

theorem step_channel {s t : Lifetime} {a : Act} (h : s.step D a = some t) :
    ChannelChange s t a := by
  cases step_took h with
  | proxy i a k w hk hproxy hselect hw =>
      cases a with
      | receive =>
          cases ProxyLoop.step_took hw with
          | receive hpc hflushed hchannel =>
              obtain ⟨⟨mark, posted'⟩, rest', hcons, hposted, hrest⟩ :=
                List.map_eq_cons_iff.mp hchannel
              refine .taken i mark posted' ?_
              change s.channel = _ :: s.channel.tail
              rw [hcons]
              rfl
      | _ => exact .same _ rfl
  | task a u ha hu => exact channelChange_of_task ha hu rfl
  | restartSend m msgId hpc =>
      exact .posted _ { msg := shutdownRequest msgId true, poster := .client } rfl rfl
  | start | adopt | launch | spawn | identify | notifyExit | listen | select
  | exitedBeforeConnection | kernelInfoPanics | storeKernelInfo | adoptedEnds | restartRefused
  | restart | restartFails | restartListen | restartWake | restartStops | restartDrop =>
      exact .same _ rfl

/-- A step that neither posts nor takes a message leaves the channel alone. -/
theorem step_channel_eq {s t : Lifetime} {a : Act} (h : s.step D a = some t)
    (hposts : ∀ posted, ¬ s.Posts posted a) (hreceive : ∀ i, a ≠ .proxy i .receive) :
    t.channel = s.channel := by
  cases step_channel h with
  | same a heq => exact heq
  | posted a posted hposted heq => exact absurd hposted (hposts posted)
  | taken i mark posted heq => exact absurd rfl (hreceive i)

/-- A kernel is added by a spawn or an adoption. -/
def Adds : Act → Prop
  | .spawn _ _ | .adopt _ _ => True
  | _ => False

theorem step_kernels {s t : Lifetime} {a : Act} (h : s.step D a = some t) :
    (¬ Adds a ∧ t.kernels = s.kernels) ∨ (Adds a ∧ t.kernels = s.kernels + 1) := by
  cases step_took h with
  | adopt | spawn => exact Or.inr ⟨trivial, rfl⟩
  | start | launch | identify | notifyExit | listen | select | exitedBeforeConnection
  | kernelInfoPanics | proxy | storeKernelInfo | adoptedEnds | task | restartRefused | restart
  | restartSend | restartFails | restartListen | restartWake | restartStops | restartDrop =>
      exact Or.inl ⟨id, rfl⟩

/-! ## The restarts -/

theorem restartChange_of_own {s t : Lifetime} {a : Act} {m : ℕ} {pc : RestartPc}
    (ht : t.restart = (s.setRestart m pc).restart)
    (h : t.restart m = pc → RestartChange s t m a) (j : ℕ) : RestartChange s t j a := by
  by_cases hj : j = m
  · rw [hj]
    exact h (by rw [ht]; simp [setRestart])
  · exact .same a (by rw [ht]; simp [setRestart, hj])

theorem step_restart {s t : Lifetime} {a : Act} (h : s.step D a = some t) (j : ℕ) :
    RestartChange s t j a := by
  cases step_took h with
  | notifyExit i k code hk hpc => exact .woken _ i (Or.inl rfl) rfl
  | adoptedEnds i host k hk hadopted hover hnotified => exact .woken _ i (Or.inr ⟨host, rfl⟩) rfl
  | restartRefused m workingDirectory host hpc hflag =>
      exact restartChange_of_own (by rfl) (fun hm => .refused workingDirectory host hpc hm) j
  | restart m workingDirectory host hpc hflag =>
      exact restartChange_of_own (by rfl)
        (fun hm => .entered workingDirectory host hflag hpc hm) j
  | restartSend m msgId hpc =>
      exact restartChange_of_own (by rfl) (fun hm => .asked msgId hpc hm) j
  | restartFails m hpc =>
      exact restartChange_of_own (m := m) (by rfl) (fun hm => .returned _ rfl hm) j
  | restartListen m hpc => exact restartChange_of_own (by rfl) (fun hm => .listens hpc hm) j
  | restartWake m i hpc hflag hnone =>
      exact restartChange_of_own (m := m) (by rfl) (fun hm => .returned _ rfl hm) j
  | restartStops m i hpc hflag =>
      have hstops : (s.setRestart m .returned).kernel.restarting = false := hflag
      exact restartChange_of_own (m := m) (by rfl) (fun hm => .returned _ hstops hm) j
  | restartDrop m hpc => exact restartChange_of_own (by rfl) (fun hm => .dropped hpc hm) j
  | start | adopt | launch | spawn | identify | listen | select | exitedBeforeConnection
  | kernelInfoPanics | proxy | storeKernelInfo | task => exact .same _ rfl

theorem step_restarting {s t : Lifetime} {a : Act} (h : s.step D a = some t)
    (hflag : t.kernel.restarting = true) :
    s.kernel.restarting = true ∨
      ∃ j workingDirectory host, a = .restart j workingDirectory host ∧
        t.restart j = .requesting := by
  cases step_took h with
  | launch i a k l hk htakes hl =>
      exact Or.inl ((Launch.step_write (plain_of_takes htakes) hl).restarting.symm.trans hflag)
  | identify i jep66 k pid l hk hpid hl =>
      obtain ⟨-, heq⟩ := Launch.ite_eq_some hl
      cases heq
      exact Or.inl hflag
  | proxy i a k w hk hproxy hselect hw =>
      refine Or.inl (Eq.trans ?_ hflag)
      rcases step_holder hw with hsame | ⟨host, status, reason, -, -, hkernel⟩
      · exact hsame.restarting.symm
      · rw [hkernel, KernelState.setStatus_restarting]
        rfl
  | adoptedEnds i host k hk hadopted hover hnotified =>
      rw [KernelState.setStatus_restarting] at hflag
      exact Or.inl hflag
  | task a u ha hu =>
      refine Or.inl (Eq.trans ?_ hflag)
      exact (restarting_of_task ha hu).symm
  | restart m workingDirectory host hpc hfree =>
      exact Or.inr ⟨m, workingDirectory, host, rfl, by simp [setRestart]⟩
  | restartFails | restartWake => cases hflag
  | start | adopt | spawn | notifyExit | listen | select | exitedBeforeConnection
  | kernelInfoPanics | storeKernelInfo | restartRefused | restartSend | restartListen
  | restartStops | restartDrop => exact Or.inl hflag

theorem restartIn_rpcListeners (kernel : KernelState) (workingDirectory : Option String)
    (host : Host) :
    (restartIn kernel workingDirectory host).rpcListeners = kernel.rpcListeners := by
  unfold restartIn
  cases workingDirectory with
  | some workingDirectory => rfl
  | none =>
      obtain ⟨workingDirectory, heq⟩ := kernel.pollWorkingDir_eq host
      simp only [heq]

/-! ## The proxy of a start -/

/-- There is no proxy before `start` connects to its kernel, it handles no message
before it listens, and an adopted kernel has a proxy and no child. -/
structure Orderly (k : Incarnation) : Prop where
  early : k.start = .called ∨ k.start = .preparing ∨ k.start = .spawned ∨
    k.start = .handshaking ∨ k.start = .connecting → k.proxy = .absent
  quiet : k.proxy ≠ .listening → k.pc = .listening ∨ k.pc = .panicked
  adopted : k.adopted = true → k.proxy ≠ .absent ∧ k.runChild = .absent

theorem Orderly.congr {k k' : Incarnation} (h : Orderly k) (hstart : k'.start = k.start)
    (hproxy : k'.proxy = k.proxy) (hpc : k'.pc = k.pc) (hadopted : k'.adopted = k.adopted)
    (hrunChild : k.adopted = true → k'.runChild = k.runChild) : Orderly k' := by
  refine ⟨?_, ?_, ?_⟩
  · rw [hstart, hproxy]
    exact h.early
  · rw [hproxy, hpc]
    exact h.quiet
  · intro hadopted'
    rw [hadopted] at hadopted'
    rw [hproxy, hrunChild hadopted']
    exact h.adopted hadopted'

/-- Where there is a proxy, `start` has connected. -/
theorem Orderly.of_proxy {k k' : Incarnation} (h : Orderly k) (hproxy : k.proxy ≠ .absent)
    (hproxy' : k'.proxy ≠ .absent) (hstart : k'.start = k.start)
    (hquiet : k'.proxy ≠ .listening → k'.pc = .listening ∨ k'.pc = .panicked)
    (hadopted : k'.adopted = k.adopted) (hrunChild : k'.runChild = k.runChild) :
    Orderly k' := by
  refine ⟨fun hearly => ?_, hquiet, fun hadopted' => ⟨hproxy', ?_⟩⟩
  · rw [hstart] at hearly
    exact absurd (h.early hearly) hproxy
  · rw [hrunChild]
    exact (h.adopted (hadopted ▸ hadopted')).2

theorem orderly_of_launch {s : Lifetime} {a : Launch.Act} {k : Incarnation} {l : Launch}
    (h : Orderly k) (htakes : k.takes a = true) (hl : (s.launch k).step a = some l) :
    Orderly (k.ofLaunch l) := by
  cases Launch.step_move (plain_of_takes htakes) hl with
  | start a hact hcalled hearly hspawned hlater hproxy hchild hrunChild hexit =>
      refine ⟨?_, ?_, ?_⟩
      · intro hthen
        refine hproxy.trans (h.early ?_)
        rcases hthen with hthen | hthen | hthen | hthen | hthen
        · exact Or.inl (hearly (Or.inl hthen)).1
        · exact Or.inl (hearly (Or.inr hthen)).1
        · exact absurd hthen hspawned
        · exact Or.inr (Or.inr (Or.inr (Or.inl (hlater (Or.inl hthen)))))
        · exact Or.inr (Or.inr (Or.inr (Or.inl (hlater (Or.inr hthen)))))
      · exact fun hnot => h.quiet fun heq => hnot (hproxy.trans heq)
      · intro hadopted
        obtain ⟨hthere, habsent⟩ := h.adopted hadopted
        exact ⟨fun heq => hthere (hproxy.symm.trans heq), hrunChild.trans habsent⟩
  | connect hstart hstart' hproxy hchild hrunChild hexit =>
      have habsent := h.early (Or.inr (Or.inr (Or.inr (Or.inr hstart))))
      refine ⟨?_, fun _ => h.quiet (by simp [habsent]), ?_⟩
      · intro hearly
        simp [Incarnation.ofLaunch, hstart'] at hearly
      · exact fun hadopted => absurd habsent (h.adopted hadopted).1
  | drop hcalled hstart hproxy hchild hrunChild hexit =>
      refine ⟨by simp [Incarnation.ofLaunch, hstart], ?_, ?_⟩
      · exact fun hnot => h.quiet fun heq => hnot (hproxy.trans heq)
      · intro hadopted
        obtain ⟨hthere, habsent⟩ := h.adopted hadopted
        refine ⟨fun heq => hthere (hproxy.symm.trans heq), ?_⟩
        rcases hrunChild with ⟨-, hgone⟩ | ⟨-, hsame⟩
        · exact hgone
        · exact hsame.trans habsent
  | proxy a hact hproxy hstart hchild hrunChild hexit =>
      have hbefore : k.proxy = .connecting ∨ k.proxy = .kernelInfo := by
        rcases hproxy with ⟨hconnecting, -⟩ | ⟨hconnecting, -⟩
        · exact Or.inl hconnecting
        · exact hconnecting
      have hafter : l.proxy ≠ .absent := by
        rcases hproxy with ⟨-, hinfo, -⟩ | ⟨-, hended⟩
        · simp [hinfo]
        · simp [hended]
      refine h.of_proxy ?_ hafter hstart (fun _ => h.quiet ?_) rfl hrunChild
      all_goals rcases hbefore with heq | heq <;> simp [heq]
  | childExits code hrunning hchild hstart hproxy hrunChild hexit =>
      exact h.congr hstart hproxy rfl rfl fun _ => hrunChild
  | runChild host hstep hstart hproxy hchild =>
      refine h.congr hstart hproxy rfl rfl fun hadopted => ?_
      -- An adopted kernel has no `run_child` that could take a step.
      have habsent : (s.launch k).runChild = .absent := (h.adopted hadopted).2
      simp [Launch.stepRunChild, habsent] at hstep

theorem step_orderly {s t : Lifetime} {a : Act} (h : s.step D a = some t) {j : ℕ}
    (hs : ∀ k, s.incarnation j = some k → Orderly k) {k' : Incarnation}
    (hk' : t.incarnation j = some k') : Orderly k' := by
  obtain ⟨before, hk, hchange⟩ := step_incarnation_to h hk'
  cases hchange with
  | same a k hact => exact hs k' hk
  | woken a i k hother hact => exact (hs k hk).congr rfl rfl rfl rfl fun _ => rfl
  | begun a hact =>
      exact ⟨fun _ => rfl, fun _ => Or.inl rfl, fun hadopted => by cases hadopted⟩
  | adopted key =>
      exact ⟨by simp [Incarnation.adopt], fun _ => Or.inl rfl,
        fun _ => ⟨by simp [Incarnation.adopt], rfl⟩⟩
  | launched a k l htakes hl hkernel => exact orderly_of_launch (hs k hk) htakes hl
  | spawned pid k hpreparing =>
      have habsent := (hs k hk).early (Or.inr (Or.inl hpreparing))
      exact ⟨fun _ => habsent, (hs k hk).quiet,
        fun hadopted => absurd habsent ((hs k hk).adopted hadopted).1⟩
  | identified jep66 k start hspawned hstart =>
      have habsent := (hs k hk).early (Or.inr (Or.inr (Or.inl hspawned)))
      exact ⟨fun _ => habsent, (hs k hk).quiet,
        fun hadopted => absurd habsent ((hs k hk).adopted hadopted).1⟩
  | notifies k code hpc =>
      refine (hs k hk).congr rfl rfl rfl rfl fun hadopted => ?_
      cases hpc.symm.trans ((hs k hk).adopted hadopted).2
  | listens pendingIopubMessages k startup hproxy =>
      exact (hs k hk).of_proxy (by simp [hproxy]) (by simp) rfl (fun _ => Or.inl rfl) rfl rfl
  | selects k hselecting hlistener => exact (hs k hk).congr rfl rfl rfl rfl fun _ => rfl
  | leaves k hproxy hlistener =>
      exact (hs k hk).of_proxy (by simp [hproxy]) (by simp) rfl
        (fun _ => (hs k hk).quiet (by simp [hproxy])) rfl rfl
  | panics k hproxy =>
      exact (hs k hk).of_proxy (by simp [hproxy]) (by simp) rfl (fun _ => Or.inr rfl) rfl rfl
  | loops a k w hproxy hselect hw hkernel =>
      have hthere : k.proxy ≠ .absent := by simp [hproxy]
      exact (hs k hk).of_proxy hthere hthere rfl (fun hnot => absurd hproxy hnot) rfl rfl
  | stores k hadopted => exact ⟨by simp, (hs k hk).quiet, (hs k hk).adopted⟩
  | ends host k hadopted hover hnotified => exact (hs k hk).congr rfl rfl rfl rfl fun _ => rfl

end Lifetime

end Kallichore
