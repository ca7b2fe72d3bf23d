import Kallichore.Startup.RunChild

/-!
# The steps of a start, one by one

What each step of `start` and its tasks does to the call, the proxy, the child
and `run_child`, and which status it writes. The steps of other tasks are left
out: where several starts share a session they are steps of their own. So are the spawn
and the writing of the process ID, which the session counts.
-/

namespace Kallichore

namespace Launch

/-- A step of `start` other than the spawn and the writing of the process ID, of its proxy
before that listens, or of `run_child`. -/
def Act.plain : Act → Bool
  | .spawn | .identify _ _ | .proxyKernelInfo | .proxyExited | .otherStatus _ _ _
  | .otherProcess _ | .otherQueue _ => false
  | _ => true

/-- The child exits, or `run_child` goes on. -/
def Act.ofChild : Act → Bool
  | .childExits _ | .runChild _ => true
  | _ => false

/-- What a plain step makes of the tasks. -/
inductive Move (s t : Launch) : Act → Prop
  /-- The call of `start` goes on. -/
  | start (a : Act) (hact : a.ofChild = false) (hcalled : s.start ≠ .returned)
      (hearly : t.start = .called ∨ t.start = .preparing →
        s.start = .called ∧ ∃ host, a = .mark host)
      (hspawned : t.start ≠ .spawned)
      (hlater : t.start = .handshaking ∨ t.start = .connecting → s.start = .handshaking)
      (hproxy : t.proxy = s.proxy)
      (hchild : t.child = s.child) (hrunChild : t.runChild = s.runChild)
      (hnotified : t.exitNotified = s.exitNotified) : Move s t a
  | connect (hstart : s.start = .connecting) (hstart' : t.start = .waiting)
      (hproxy : t.proxy = .connecting)
      (hchild : t.child = s.child) (hrunChild : t.runChild = s.runChild)
      (hnotified : t.exitNotified = s.exitNotified) : Move s t .connect
  | drop (hcalled : s.start ≠ .returned) (hstart : t.start = .returned)
      (hproxy : t.proxy = s.proxy) (hchild : t.child = s.child)
      (hrunChild : s.runChild = .pending ∧ t.runChild = .absent ∨
        s.runChild ≠ .pending ∧ t.runChild = s.runChild)
      (hnotified : t.exitNotified = s.exitNotified) : Move s t .drop
  /-- The proxy connects or gives up. -/
  | proxy (a : Act) (hact : a.ofChild = false)
      (hproxy : s.proxy = .connecting ∧ t.proxy = .kernelInfo ∧ a = .proxyConnected ∨
        (s.proxy = .connecting ∨ s.proxy = .kernelInfo) ∧ t.proxy = .ended)
      (hstart : t.start = s.start) (hchild : t.child = s.child)
      (hrunChild : t.runChild = s.runChild) (hnotified : t.exitNotified = s.exitNotified) :
      Move s t a
  | childExits (code : Int) (hrunning : s.child = .running) (hchild : t.child = .exited code)
      (hstart : t.start = s.start) (hproxy : t.proxy = s.proxy)
      (hrunChild : t.runChild = s.runChild) (hnotified : t.exitNotified = s.exitNotified) :
      Move s t (.childExits code)
  /-- `run_child` goes on. -/
  | runChild (host : Host) (hstep : s.stepRunChild host = some t) (hstart : t.start = s.start)
      (hproxy : t.proxy = s.proxy) (hchild : t.child = s.child) : Move s t (.runChild host)

/-- What a plain step makes of the shared state. -/
inductive Write (s t : Launch) : Act → Prop
  | same (a : Act) (h : t.kernel = s.kernel) : Write s t a
  | starting (host : Host) (h : t.kernel =
      (s.kernel.setStatus .starting (some "start API called") host).1) : Write s t (.mark host)
  | spawnFails (error : String) (host : Host) (h : t.kernel =
      (s.kernel.setStatus .exited (some ("failed to spawn process: " ++ error)) host).1) :
      Write s t (.spawnFails error host)
  | promoted (host : Host)
      (hstatus : s.kernel.status = .uninitialized ∨ s.kernel.status = .starting ∨
        s.kernel.status = .ready)
      (h : t.kernel =
        (s.kernel.setStatus .idle (some "kernel_info_reply received") host).1) :
      Write s t (.handleKernelInfo host)
  | exited (host : Host) (code : Int) (hpc : s.runChild = .marking code)
      (h : t.kernel = (s.kernel.setStatus .exited (some "child process exited") host).1) :
      Write s t (.runChild host)

theorem stepRunChild_frame {s t : Launch} {host : Host} (h : s.stepRunChild host = some t) :
    t.start = s.start ∧ t.proxy = s.proxy ∧ t.child = s.child := by
  rcases stepRunChild_cases h with ⟨code, -, -, rfl⟩ | ⟨code, startup, -, rfl⟩ |
    ⟨code, -, -, rfl⟩ | ⟨code, -, rfl⟩ | ⟨code, -, rfl⟩ | ⟨code, -, rfl⟩
  all_goals exact ⟨rfl, rfl, rfl⟩

theorem report_frame (s : Launch) (status : StartupStatus) :
    ∃ startup, s.report status = { s with startup } := by
  unfold report
  split
  · exact ⟨_, rfl⟩
  · exact ⟨s.startup, rfl⟩

theorem step_move {s t : Launch} {a : Act} (ha : a.plain = true) (h : s.step a = some t) :
    Move s t a := by
  cases a with
  | mark host | prepareFails | spawnFails error host | handshakeCompleted | handshakeFails
  | connectFails =>
      obtain ⟨hpc, heq⟩ := ite_eq_some h
      cases heq
      exact .start _ rfl (by simp [hpc]) (by simp [hpc]) (by simp) (by simp [hpc]) rfl rfl rfl rfl
  | handshakeStartup =>
      simp only [step] at h
      split at h
      · rename_i hpc _
        cases h
        exact .start _ rfl (by simp [hpc]) (by simp [hpc]) (by simp) (by simp [hpc]) rfl rfl rfl rfl
      · cases h
  | connect =>
      obtain ⟨hpc, heq⟩ := ite_eq_some h
      cases heq
      exact .connect hpc rfl rfl rfl rfl rfl
  | recv =>
      simp only [step] at h
      split at h
      · rename_i hpc _
        cases h
        exact .start _ rfl (by simp [hpc]) (by simp [hpc]) (by simp) (by simp [hpc]) rfl rfl rfl rfl
      · rename_i hpc _
        cases h
        exact .start _ rfl (by simp [hpc]) (by simp [hpc]) (by simp) (by simp [hpc]) rfl rfl rfl rfl
      · cases h
  | handleKernelInfo host =>
      obtain ⟨hpc, heq⟩ := ite_eq_some h
      split at heq
      all_goals
        cases heq
        exact .start _ rfl (by simp [hpc]) (by simp [hpc]) (by simp) (by simp [hpc]) rfl rfl rfl rfl
  | drop =>
      simp only [step] at h
      split at h
      · cases h
      · rename_i hcalled
        cases h
        refine .drop hcalled rfl rfl rfl ?_ rfl
        by_cases hpending : s.runChild = .pending
        · exact .inl ⟨hpending, if_pos hpending⟩
        · exact .inr ⟨hpending, if_neg hpending⟩
  | proxyConnected =>
      obtain ⟨hpc, heq⟩ := ite_eq_some h
      cases heq
      exact .proxy _ rfl (Or.inl ⟨hpc, rfl, rfl⟩) rfl rfl rfl rfl
  | proxyFails =>
      obtain ⟨hpc, heq⟩ := ite_eq_some h
      obtain ⟨startup, hreport⟩ := s.report_frame .connectionFailed
      rw [hreport] at heq
      cases heq
      exact .proxy _ rfl (Or.inr ⟨hpc, rfl⟩) rfl rfl rfl rfl
  | childExits code =>
      obtain ⟨hpc, heq⟩ := ite_eq_some h
      cases heq
      exact .childExits code hpc rfl rfl rfl rfl rfl
  | runChild host =>
      obtain ⟨hstart, hproxy, hchild⟩ := stepRunChild_frame h
      exact .runChild host h hstart hproxy hchild
  | spawn | identify pid jep66 | proxyKernelInfo | proxyExited
  | otherStatus status reason host | otherProcess pid | otherQueue op => cases ha

theorem step_write {s t : Launch} {a : Act} (ha : a.plain = true) (h : s.step a = some t) :
    Write s t a := by
  cases a with
  | mark host =>
      obtain ⟨-, heq⟩ := ite_eq_some h
      cases heq
      exact .starting host rfl
  | spawnFails error host =>
      obtain ⟨-, heq⟩ := ite_eq_some h
      cases heq
      exact .spawnFails error host rfl
  | prepareFails | handshakeCompleted | handshakeFails | connect | connectFails
  | proxyConnected | childExits code =>
      obtain ⟨-, heq⟩ := ite_eq_some h
      cases heq
      exact .same _ rfl
  | handshakeStartup =>
      simp only [step] at h
      split at h
      · cases h
        exact .same _ rfl
      · cases h
  | recv =>
      simp only [step] at h
      split at h
      · cases h
        exact .same _ rfl
      · cases h
        exact .same _ rfl
      · cases h
  | handleKernelInfo host =>
      obtain ⟨-, heq⟩ := ite_eq_some h
      split at heq
      · rename_i hstatus
        cases heq
        exact .promoted host hstatus rfl
      · cases heq
        exact .same _ rfl
  | drop =>
      simp only [step] at h
      split at h
      · cases h
      · cases h
        exact .same _ rfl
  | proxyFails =>
      obtain ⟨-, heq⟩ := ite_eq_some h
      obtain ⟨startup, hreport⟩ := s.report_frame .connectionFailed
      rw [hreport] at heq
      cases heq
      exact .same _ rfl
  | runChild host =>
      rcases stepRunChild_cases h with ⟨code, -, -, rfl⟩ | ⟨code, startup, -, rfl⟩ |
        ⟨code, -, -, rfl⟩ | ⟨code, hpc, rfl⟩ | ⟨code, -, rfl⟩ | ⟨code, -, rfl⟩
      · exact .same _ rfl
      · exact .same _ rfl
      · exact .same _ rfl
      · exact .exited host code hpc rfl
      · exact .same _ rfl
      · exact .same _ rfl
  | spawn | identify pid jep66 | proxyKernelInfo | proxyExited
  | otherStatus status reason host | otherProcess pid | otherQueue op => cases ha

theorem Write.restarting {s t : Launch} {a : Act} (h : Write s t a) :
    t.kernel.restarting = s.kernel.restarting := by
  cases h with
  | same a h => rw [h]
  | starting host h => rw [h, KernelState.setStatus_restarting]
  | spawnFails error host h => rw [h, KernelState.setStatus_restarting]
  | promoted host hstatus h => rw [h, KernelState.setStatus_restarting]
  | exited host code hpc h => rw [h, KernelState.setStatus_restarting]

theorem Write.rpcListeners {s t : Launch} {a : Act} (h : Write s t a) :
    t.kernel.rpcListeners = s.kernel.rpcListeners := by
  cases h with
  | same a h => rw [h]
  | starting host h => rw [h, KernelState.setStatus_rpcListeners]
  | spawnFails error host h => rw [h, KernelState.setStatus_rpcListeners]
  | promoted host hstatus h => rw [h, KernelState.setStatus_rpcListeners]
  | exited host code hpc h => rw [h, KernelState.setStatus_rpcListeners]

end Launch

end Kallichore
