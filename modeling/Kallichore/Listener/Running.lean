import Kallichore.Listener.Services

/-!
# The listener and the calls that start and stop it

What holds of the registry, the handle and the services between one step and the next, and
what is left of it when no call is under way any more.
-/

namespace Kallichore

namespace Listener

namespace McpServer

variable {s t : McpServer} {a : Act}

theorem setCall_call (s : McpServer) (c d : ℕ) (pc : CallPc) :
    (s.setCall c pc).call d = if d = c then pc else s.call d :=
  Function.update_apply _ _ _ _

/-! ## The listener, its services and the registry -/

/-- The listener with this number is running. -/
def Runs (s : McpServer) (g : ℕ) : Prop := ∃ handle, s.listener = some handle ∧ handle.cancel = g

def Registered (s : McpServer) : Prop := ∃ id, id ∈ s.workspaces

def Resting (s : McpServer) : Prop := ∀ c, (s.call c).Done

/-- Only a request to the listener is cut off by its client: the other calls come to their
end. -/
def Completes (s : McpServer) : Act → Prop
  | .disconnect c => (s.call c).IsRequest
  | _ => True

/-- A call that binds a port holds the lock of the handle, and there is none yet. -/
def Locked (s : McpServer) : Prop :=
  ∀ c registration preferredPort, s.call c = .binding registration preferredPort →
    s.listenerLock = some c ∧ s.listener = none

/-- What holds of the calls under way, between one step and the next. -/
structure Kept (s : McpServer) : Prop where
  held : ∀ c g, (s.call c).Holds g → g < s.started ∧ ¬ s.Runs g
  running : ∀ g, s.Runs g → g < s.started ∧ s.cancelled g = false
  fresh : ∀ g, s.started ≤ g → s.cancelled g = false
  /-- A service is of the running listener or of one that is being stopped. -/
  services : ∀ key service, s.services key = some service →
    s.Runs service.parent ∨ ∃ c, (s.call c).Holds service.parent
  cancelled : ∀ g < s.started, s.cancelled g = false →
    s.Runs g ∨ ∃ c port, s.call c = .cancelling ⟨port, g⟩
  /-- A listener that nobody needs is about to be needed, or stopped. -/
  pending : ¬ s.Registered → s.listener ≠ none → ∃ c, (s.call c).Pending

theorem kept_init : Kept init where
  held _ g h := absurd h (CallPc.not_holds rfl g)
  running _ h := by
    obtain ⟨handle, hlistener, -⟩ := h
    cases hlistener
  fresh _ _ := rfl
  services _ _ h := by cases h
  cancelled _ h := absurd h (Nat.not_lt_zero _)
  pending _ h := absurd rfl h

theorem locked_init : Locked init := by
  intro c registration preferredPort h
  cases h

theorem exists_setCall {P : CallPc → Prop} {c : ℕ} {pc : CallPc} (hpc : P (s.call c) → P pc)
    (h : ∃ d, P (s.call d)) : ∃ d, P ((s.setCall c pc).call d) := by
  obtain ⟨d, hd⟩ := h
  refine ⟨d, ?_⟩
  rw [setCall_call]
  split
  next heq => exact hpc (heq ▸ hd)
  next => exact hd

/-! ## The services and the requests they are for -/

def Keyed (s : McpServer) : Prop :=
  ∀ key service, s.services key = some service →
    key = (service.workspaceId, service.callerSessionId)

theorem keyed_retain (hs : Keyed s) (keep : String × Option (List Char) → Bool) :
    Keyed (s.retain keep) := by
  intro key service hkey
  simp only [retain] at hkey
  split at hkey
  next => exact hs key service hkey
  next => cases hkey

theorem step_keyed (hs : Keyed s) (h : machine.step s a = some t) : Keyed t := by
  cases change_of_step h with
  | serviceDropped => exact keyed_retain hs _
  | cleared => exact keyed_retain hs fun _ => false
  | callerServiceDropped => exact keyed_retain hs _
  | built hpc hlistener =>
      intro key service hkey
      simp only [setCall, insertService, Function.update_apply] at hkey
      split at hkey
      next heq =>
        cases hkey
        exact heq
      next => exact hs key service hkey
  | _ => exact hs

theorem run_keyed {acts : List Act} (hrun : machine.run init acts = some t) : Keyed t := by
  have hinit : Keyed init := by
    intro key service hkey
    cases hkey
  exact machine.run_of_step (fun _ _ _ => step_keyed) hinit hrun

theorem under_setCall {workspaceId : String} {caller : Option (List Char)} {c d : ℕ}
    {before after : CallPc} (hs : (s.call c).Under workspaceId caller) (hpc : s.call d = before)
    (hafter : before.Under workspaceId caller → after.Under workspaceId caller) :
    ((s.setCall d after).call c).Under workspaceId caller := by
  rw [setCall_call]
  split
  next heq =>
    rw [heq, hpc] at hs
    exact hafter hs
  next => exact hs

theorem step_under {workspaceId : String} {caller : Option (List Char)} {c : ℕ} (hkeyed : Keyed s)
    (hs : (s.call c).Under workspaceId caller) (h : machine.step s a = some t) :
    (t.call c).Under workspaceId caller := by
  cases change_of_step h with
  | serviceFound hpc hservice =>
      refine under_setCall hs hpc fun hunder => ?_
      obtain ⟨rfl, rfl⟩ := hunder
      have hkey := Prod.mk.inj (hkeyed _ _ hservice)
      exact ⟨hkey.1.symm, hkey.2.symm⟩
  | servicesLocked hpc => exact under_setCall hs hpc id
  | built hpc => exact under_setCall hs hpc id
  | notBuilt hpc => exact under_setCall hs hpc fun _ => trivial
  | requestNoted => exact hs
  | callerServiceDropped => exact hs
  | disconnected => exact under_setCall hs rfl fun _ => trivial
  | _ hpc => exact under_setCall hs hpc False.elim

/-- A request that is let through is for the session that its path names. -/
theorem caller_of_call {state : McpState} {request : Request} {workspaceId : String}
    {caller : Option (List Char)} {endpoint : Route} (hroute : route request.path = some endpoint)
    (h : Listener.call state request = .service workspaceId caller) : endpoint.caller = caller := by
  simp only [Listener.call, hroute] at h
  split at h
  next =>
    rw [cardResponse] at h
    repeat' split at h
    all_goals cases h
  next =>
    split at h
    next => cases h
    next => cases h
    next =>
      split at h
      next => cases h
      next =>
        split at h
        next => cases h
        next =>
          split at h
          next =>
            rw [presenceResponse] at h
            repeat' split at h
            all_goals cases h
          next =>
            split at h
            next => cases h
            next =>
              cases h
              rfl

/-- The system gives the port that is asked for, or another one. -/
def anyPort (port : UInt16) : Except String (Except String UInt16) :=
  .ok (.ok (if port = 0 then 40000 else port))

def sampleRegistration : McpWorkspaceRegistration := ⟨some "a", "A", none⟩

/-- A request for the endpoint of the workspace, from inside one of its kernels. -/
def sampleRequest : Request where
  isGet := false
  path := "/mcp/w/a/s/r-1".toList
  headers
    | .host => none
    | .origin => none
    | .authorization => some ("Bearer ab".toList.map fun c => UInt8.ofNat c.toNat)

def registering : List Act :=
  [.registerMcpWorkspace 0 true sampleRegistration (some 5000), .ensureListener 0,
    .bind 0 anyPort, .register 0 [] [171]]

def serving : List Act :=
  registering ++ .request 1 0 sampleRequest ["a"] :: [.serviceFor 1, .build 1]

/-- A request is served with the service of the workspace that its path names and whose token
it presented when it came in, and of the session that its path names. -/
theorem served_of_request {as bs : List Act} {c g : ℕ} {request : Request} {order : List String}
    {service : WorkspaceService}
    (hrun : machine.run init (as ++ .request c g request order :: bs) = some t)
    (hserved : t.call c = .served service) :
    ∃ u endpoint token, machine.run init as = some u ∧
      checkLoopback request.headers = .ok () ∧
      route request.path = some endpoint ∧
      String.ofList endpoint.addressed = service.workspaceId ∧
      endpoint.caller = service.callerSessionId ∧
      bearerToken request.headers = some token ∧
      u.workspaces.Holds service.workspaceId (String.ofList token) := by
  obtain ⟨u, hu, hrest⟩ := (machine.run_append_eq_some_iff init t as _).mp hrun
  obtain ⟨v, hv, hrest⟩ := (machine.run_cons_eq_some_iff u t _ bs).mp hrest
  -- What the call goes by from here on is what it was let through to.
  have hunder : ∀ workspaceId caller, (v.call c).Under workspaceId caller →
      service.workspaceId = workspaceId ∧ service.callerSessionId = caller := by
    intro workspaceId caller hbegins
    have hends : Keyed t ∧ (t.call c).Under workspaceId caller := by
      refine machine.run_of_step (I := fun s => Keyed s ∧ (s.call c).Under workspaceId caller) ?_
        ⟨step_keyed (run_keyed hu) hv, hbegins⟩ hrest
      intro s a t hs h
      exact ⟨step_keyed hs.1 h, step_under hs.1 hs.2 h⟩
    have hserved' := hends.2
    rw [hserved] at hserved'
    exact hserved'
  cases change_of_step hv with
  | @admitted _ _ _ _ workspaceId caller hpc hcall =>
      obtain ⟨rfl, rfl⟩ := hunder workspaceId caller (by
        rw [setCall_call, if_pos rfl]
        exact ⟨rfl, rfl⟩)
      have hworkspace := congrArg Answer.workspace hcall
      obtain ⟨⟨endpoint, hroute, haddressed⟩, hguards, hcard⟩ := call_guarded hworkspace
      obtain ⟨token, htoken, hholds⟩ := hcard.resolve_left (by simp [hcall, Answer.isCard])
      exact ⟨u, endpoint, token, hu, (checkLoopback_eq_ok_iff _).mpr hguards, hroute, haddressed,
        caller_of_call hroute hcall, htoken, hholds⟩
  | answered hpc hcall =>
      -- A request that was answered would be served for every workspace alike.
      have hany : ∀ workspaceId, service.workspaceId = workspaceId := by
        intro workspaceId
        refine (hunder workspaceId none ?_).1
        rw [setCall_call, if_pos rfl]
        trivial
      exact absurd ((hany "").symm.trans (hany "-")) (by decide)

theorem served_of_request_serving :
    ∃ t, machine.run init serving = some t ∧ t.call 1 = .served ⟨"a", some "r-1".toList, 0⟩ ∧
      ∃ u endpoint token, machine.run init registering = some u ∧
        checkLoopback sampleRequest.headers = .ok () ∧
        route sampleRequest.path = some endpoint ∧
        String.ofList endpoint.addressed = "a" ∧
        endpoint.caller = some "r-1".toList ∧
        bearerToken sampleRequest.headers = some token ∧
        u.workspaces.Holds "a" (String.ofList token) := by
  obtain ⟨t, hrun, hserved⟩ : ∃ t, machine.run init serving = some t ∧
      t.call 1 = .served ⟨"a", some "r-1".toList, 0⟩ := ⟨_, rfl, rfl⟩
  exact ⟨t, hrun, hserved, served_of_request hrun hserved⟩

/-! ## The lock of the handle -/

namespace Locked

theorem setCall (h : Locked s) {c : ℕ} {pc : CallPc} (hpc : pc.isBinding = false) :
    Locked (s.setCall c pc) := by
  intro d registration preferredPort hd
  rw [setCall_call] at hd
  split at hd
  next =>
    rw [hd] at hpc
    cases hpc
  next => exact h d registration preferredPort hd

theorem eq_of_binding (h : Locked s) {c d : ℕ}
    {registration registration' : McpWorkspaceRegistration}
    {preferredPort preferredPort' : Option UInt16}
    (hc : s.call c = .binding registration preferredPort)
    (hd : s.call d = .binding registration' preferredPort') : d = c := by
  have hlock := (h d _ _ hd).1.symm.trans (h c _ _ hc).1
  exact Option.some.inj hlock

theorem released (h : Locked s) {c : ℕ} {registration : McpWorkspaceRegistration}
    {preferredPort : Option UInt16} (hpc : s.call c = .binding registration preferredPort)
    {pc : CallPc} (hafter : pc.isBinding = false) (hcall : t.call = (s.setCall c pc).call) :
    Locked t := by
  intro d registration' preferredPort' hd
  rw [hcall, setCall_call] at hd
  split at hd
  next =>
    rw [hd] at hafter
    cases hafter
  next hne => exact absurd (h.eq_of_binding hpc hd) hne

end Locked

theorem step_locked (hs : Locked s) (h : machine.step s a = some t) : Locked t := by
  cases change_of_step h with
  | locked hpc hlock hlistener =>
      intro d registration preferredPort hd
      rw [show ({ s.setCall _ _ with listenerLock := _ } : McpServer).call d = _ from
        setCall_call s _ d _] at hd
      split at hd
      next heq => exact ⟨heq ▸ rfl, hlistener⟩
      next => cases hlock.symm.trans (hs d _ _ hd).1
  | bound hpc => exact hs.released hpc rfl rfl
  | bindFailed hpc => exact hs.released hpc rfl rfl
  | taken hpc hlock =>
      intro d registration preferredPort hd
      cases hlock.symm.trans (hs.setCall rfl d registration preferredPort hd).1
  | @disconnected c =>
      intro d registration preferredPort hd
      rw [show (s.drop c).call d = _ from setCall_call s c d _] at hd
      split at hd
      next => cases hd
      next hne =>
        -- The lock is not with the call whose connection goes away.
        obtain ⟨hlock, hlistener⟩ := hs d _ _ hd
        refine ⟨?_, hlistener⟩
        simp only [McpServer.drop, hlock, Option.some.injEq, if_neg hne]
  | requestNoted => exact hs
  | callerServiceDropped => exact hs
  | _ => exact hs.setCall rfl

namespace Kept

theorem of_same (h : Kept s) (hcall : t.call = s.call) (hlistener : t.listener = s.listener)
    (hservices : t.services = s.services) (hstarted : t.started = s.started)
    (hcancelled : t.cancelled = s.cancelled) (hworkspaces : t.workspaces = s.workspaces) :
    Kept t := by
  obtain ⟨hheld, hrunning, hfresh, hserved, hstopped, hpending⟩ := h
  constructor <;>
    simpa only [Runs, Registered, hcall, hlistener, hservices, hstarted, hcancelled,
      hworkspaces] using by assumption

/-- A call moves on without taking over or giving up what others rely on. -/
theorem setCall (h : Kept s) {c : ℕ} {pc : CallPc}
    (hholds : ∀ g, (s.call c).Holds g ↔ pc.Holds g)
    (hcancelling : ∀ handle, s.call c ≠ .cancelling handle)
    (hpending : (s.call c).Pending → ¬ s.Registered → s.listener ≠ none → pc.Pending) :
    Kept (s.setCall c pc) where
  held d g hd := by
    rw [setCall_call] at hd
    split at hd
    next => exact h.held c g ((hholds g).mpr hd)
    next => exact h.held d g hd
  running := h.running
  fresh := h.fresh
  services key service hkey := by
    refine (h.services key service hkey).imp_right fun hheld => ?_
    exact exists_setCall (P := CallPc.Holds service.parent) (hholds _).mp hheld
  cancelled g hg hnot := by
    refine (h.cancelled g hg hnot).imp_right ?_
    rintro ⟨d, port, hd⟩
    have hne : d ≠ c := fun heq => hcancelling _ (heq ▸ hd)
    exact ⟨d, port, by rw [setCall_call, if_neg hne, hd]⟩
  pending hnone hlistener :=
    exists_setCall (fun hold => hpending hold hnone hlistener) (h.pending hnone hlistener)

theorem setCall_of_pc (h : Kept s) {c : ℕ} {before after : CallPc} (hpc : s.call c = before)
    (hbefore : before.handle = none) (hafter : after.handle = none)
    (hpending : before.Pending → ¬ s.Registered → s.listener ≠ none → after.Pending) :
    Kept (s.setCall c after) := by
  subst hpc
  refine h.setCall ?_ ?_ hpending
  · intro g
    exact iff_of_false (CallPc.not_holds hbefore g) (CallPc.not_holds hafter g)
  · intro handle hpc
    rw [hpc] at hbefore
    cases hbefore

theorem retain (h : Kept s) (keep : String × Option (List Char) → Bool) : Kept (s.retain keep) where
  held := h.held
  running := h.running
  fresh := h.fresh
  services key service hkey := by
    simp only [McpServer.retain] at hkey
    split at hkey
    next => exact h.services key service hkey
    next => cases hkey
  cancelled := h.cancelled
  pending := h.pending

/-- The registry changes, and there is a reason for the listener all the same. -/
theorem setWorkspaces (h : Kept s) {workspaces : Workspaces}
    (hpending : ¬ { s with workspaces }.Registered → ∃ c, (s.call c).Pending) :
    Kept { s with workspaces } where
  held := h.held
  running := h.running
  fresh := h.fresh
  services := h.services
  cancelled := h.cancelled
  pending hnone _ := hpending hnone

theorem bound (h : Kept s) {c : ℕ} {registration : McpWorkspaceRegistration}
    {preferredPort : Option UInt16} (hpc : s.call c = .binding registration preferredPort)
    (hlistener : s.listener = none) (port : UInt16) :
    Kept ((s.start port).setCall c (.registering registration port)) := by
  have hrunning : ∀ g, ¬ s.Runs g := by
    rintro g ⟨handle, hsome, -⟩
    cases hlistener.symm.trans hsome
  constructor
  · intro d g hd
    rw [setCall_call] at hd
    split at hd
    next => exact absurd hd (CallPc.not_holds rfl g)
    next =>
      have hlt := (h.held d g hd).1
      refine ⟨Nat.lt_succ_of_lt hlt, ?_⟩
      rintro ⟨handle, hsome, rfl⟩
      cases hsome
      exact Nat.lt_irrefl _ hlt
  · rintro g ⟨handle, hsome, rfl⟩
    cases hsome
    exact ⟨Nat.lt_succ_self _, h.fresh _ le_rfl⟩
  · intro g hg
    exact h.fresh g (Nat.le_of_succ_le hg)
  · intro key service hkey
    refine Or.inr (exists_setCall (P := CallPc.Holds service.parent) (fun hc => ?_)
      ((h.services key service hkey).resolve_left (hrunning _)))
    exact absurd hc (CallPc.not_holds (congrArg CallPc.handle hpc) _)
  · intro g hg hnot
    rcases Nat.lt_succ_iff_lt_or_eq.mp hg with hlt | rfl
    · obtain ⟨d, port', hd⟩ := (h.cancelled g hlt hnot).resolve_left (hrunning g)
      exact Or.inr (exists_setCall (P := fun pc => ∃ port, pc = .cancelling ⟨port, g⟩)
        (fun ⟨_, hc⟩ => by cases hpc.symm.trans hc) ⟨d, port', hd⟩)
    · exact Or.inl ⟨_, rfl, rfl⟩
  · intro _ _
    refine ⟨c, ?_⟩
    rw [setCall_call, if_pos rfl]
    trivial

theorem taken (h : Kept s) {c : ℕ} {handle : ListenerHandle} (hpc : s.call c = .taking)
    (hlistener : s.listener = some handle) :
    Kept { s.setCall c (.cancelling handle) with listener := none } := by
  have hruns : s.Runs handle.cancel := ⟨handle, hlistener, rfl⟩
  have hnow : ({ s.setCall c (.cancelling handle) with listener := none } : McpServer).call c =
      .cancelling handle := Function.update_self _ _ _
  have hothers : ∀ d, d ≠ c →
      ({ s.setCall c (.cancelling handle) with listener := none } : McpServer).call d =
        s.call d := fun d hne => Function.update_of_ne hne _ _
  have hnot : ∀ g, ¬ ({ s.setCall c (.cancelling handle) with listener := none } :
      McpServer).Runs g := by
    rintro g ⟨_, hsome, -⟩
    cases hsome
  constructor
  · intro d g hd
    refine ⟨?_, hnot g⟩
    by_cases hne : d = c
    · rw [hne, hnow] at hd
      obtain ⟨_, heq, rfl⟩ := hd
      cases heq
      exact (h.running _ hruns).1
    · exact (h.held d g (hothers d hne ▸ hd)).1
  · intro g hg
    exact absurd hg (hnot g)
  · exact h.fresh
  · intro key service hkey
    refine Or.inr ?_
    rcases h.services key service hkey with ⟨_, hsome, hparent⟩ | ⟨d, hd⟩
    · cases hlistener.symm.trans hsome
      exact ⟨c, handle, congrArg CallPc.handle hnow, hparent⟩
    · have hne : d ≠ c := by
        rintro rfl
        exact CallPc.not_holds (congrArg CallPc.handle hpc) _ hd
      exact ⟨d, (hothers d hne).symm ▸ hd⟩
  · intro g hg hgoes
    refine Or.inr ?_
    rcases h.cancelled g hg hgoes with ⟨_, hsome, rfl⟩ | ⟨d, port, hd⟩
    · cases hlistener.symm.trans hsome
      exact ⟨c, handle.port, hnow⟩
    · have hne : d ≠ c := by
        rintro rfl
        cases hpc.symm.trans hd
      exact ⟨d, port, (hothers d hne).trans hd⟩
  · intro _ hsome
    exact absurd rfl hsome

theorem cancel (h : Kept s) {c : ℕ} {handle : ListenerHandle}
    (hpc : s.call c = .cancelling handle) :
    Kept { s.setCall c (.clearing handle) with
      cancelled := Function.update s.cancelled handle.cancel true } := by
  have hholds : (s.call c).Holds handle.cancel := ⟨handle, congrArg CallPc.handle hpc, rfl⟩
  have hiff : ∀ g, (s.call c).Holds g ↔ (CallPc.clearing handle).Holds g := by
    intro g
    rw [hpc]
    exact Iff.rfl
  constructor
  · intro d g hd
    rw [show ({ s.setCall c _ with cancelled := _ } : McpServer).call d = _ from
      setCall_call s c d _] at hd
    split at hd
    next => exact h.held c g ((hiff g).mpr hd)
    next => exact h.held d g hd
  · intro g hg
    refine ⟨(h.running g hg).1, ?_⟩
    have hne : g ≠ handle.cancel := by
      rintro rfl
      exact (h.held c _ hholds).2 hg
    exact (Function.update_of_ne hne _ _).trans (h.running g hg).2
  · intro g hg
    have hne : g ≠ handle.cancel := by
      rintro rfl
      exact Nat.not_le_of_lt (h.held c _ hholds).1 hg
    exact (Function.update_of_ne hne _ _).trans (h.fresh g hg)
  · intro key service hkey
    refine (h.services key service hkey).imp_right fun hheld => ?_
    exact exists_setCall (P := CallPc.Holds service.parent) (hiff _).mp hheld
  · intro g hg hgoes
    have hne : g ≠ handle.cancel := by
      rintro rfl
      cases (Function.update_self handle.cancel true s.cancelled).symm.trans hgoes
    have hbefore : s.cancelled g = false := (Function.update_of_ne hne _ _).symm.trans hgoes
    refine (h.cancelled g hg hbefore).imp_right fun hcall => ?_
    refine exists_setCall (P := fun pc => ∃ port, pc = .cancelling ⟨port, g⟩) ?_ hcall
    rintro ⟨port, hc⟩
    cases hpc.symm.trans hc
    exact absurd rfl hne
  · intro hnone hsome
    refine exists_setCall (P := CallPc.Pending) (fun hc => ?_) (h.pending hnone hsome)
    cases hpc ▸ hc

theorem cleared (h : Kept s) {c : ℕ} {handle : ListenerHandle}
    (hpc : s.call c = .clearing handle) :
    Kept ((s.retain fun _ => false).setCall c .resetting) := by
  have hempty : ∀ key, (s.retain fun _ => false).services key = none := fun _ => rfl
  constructor
  · intro d g hd
    rw [setCall_call] at hd
    split at hd
    next => exact absurd hd (CallPc.not_holds rfl g)
    next => exact h.held d g hd
  · exact h.running
  · exact h.fresh
  · intro key service hkey
    cases (hempty key).symm.trans hkey
  · intro g hg hgoes
    refine (h.cancelled g hg hgoes).imp_right fun hcall => ?_
    refine exists_setCall (P := fun pc => ∃ port, pc = .cancelling ⟨port, g⟩) ?_ hcall
    rintro ⟨port, hc⟩
    cases hpc.symm.trans hc
  · intro hnone hsome
    refine exists_setCall (P := CallPc.Pending) (fun hc => ?_) (h.pending hnone hsome)
    cases (show s.call c = _ from hpc) ▸ hc

theorem insertService (h : Kept s) {handle : ListenerHandle} (hlistener : s.listener = some handle)
    (workspaceId : String) (caller : Option (List Char)) :
    Kept (s.insertService ⟨workspaceId, caller, handle.cancel⟩) := by
  refine ⟨h.held, h.running, h.fresh, ?_, h.cancelled, h.pending⟩
  intro key service hkey
  simp only [McpServer.insertService, Function.update_apply] at hkey
  split at hkey
  next =>
    cases hkey
    exact Or.inl ⟨handle, hlistener, rfl⟩
  next => exact h.services key service hkey

theorem drop (h : Kept s) {c : ℕ} (hrequest : (s.call c).IsRequest) : Kept (s.drop c) := by
  have hfree : Kept (s.setCall c .dropped) := by
    cases hpc : s.call c with
    | finding workspaceId caller => exact h.setCall_of_pc hpc rfl rfl False.elim
    | building workspaceId caller => exact h.setCall_of_pc hpc rfl rfl False.elim
    | _ =>
        rw [hpc] at hrequest
        cases hrequest
  exact hfree.of_same rfl rfl rfl rfl rfl rfl

end Kept

theorem registered_of_register {workspaces : Workspaces} {registration : McpWorkspaceRegistration}
    {draws : List String} {bytes : List UInt8} {id token : String}
    (h : s.workspaces.register registration draws bytes = some (workspaces, id, token)) :
    ∃ id, id ∈ workspaces := by
  obtain ⟨other, w, hinsert, -⟩ := Workspaces.register_cases h
  refine ⟨other, ?_⟩
  rw [show workspaces = _ from hinsert]
  exact AList.mem_insert _ |>.mpr (Or.inl rfl)

theorem mem_of_deregister {workspaces : Workspaces} {workspaceId id : String}
    (h : id ∈ (workspaces.deregister workspaceId).1) : id ∈ workspaces := by
  rw [Workspaces.deregister] at h
  split at h
  next => exact h
  next => exact (AList.mem_erase.mp h).2

theorem registered_iff : s.Registered ↔ s.workspaces.keys.isEmpty = false := by
  rw [List.isEmpty_eq_false_iff_exists_mem]
  exact exists_congr fun id => AList.mem_keys

theorem step_kept (hlocked : Locked s) (hs : Kept s) (hC : s.Completes a)
    (h : machine.step s a = some t) : Kept t := by
  cases change_of_step h with
  | registerRefused hpc => exact hs.setCall_of_pc hpc rfl rfl False.elim
  | registerBegins hpc => exact hs.setCall_of_pc hpc rfl rfl False.elim
  | listenerFound hpc => exact hs.setCall_of_pc hpc rfl rfl False.elim
  | locked hpc =>
      exact (hs.setCall_of_pc hpc rfl rfl False.elim).of_same rfl rfl rfl rfl rfl rfl
  | bound hpc => exact hs.bound hpc (hlocked _ _ _ hpc).2 _
  | bindFailed hpc =>
      exact (hs.setCall_of_pc hpc rfl rfl False.elim).of_same rfl rfl rfl rfl rfl rfl
  | @registered c registration port _ _ workspaces id token hpc hregister =>
      -- The call gives up its place among the pending, but there is a workspace now.
      have hnow := registered_of_register hregister
      refine Kept.setCall_of_pc (s := { s with workspaces }) ?_ hpc rfl rfl ?_
      · exact hs.setWorkspaces fun hnone => absurd hnow hnone
      · intro _ hnone
        exact absurd hnow hnone
  | deregisterRefused hpc => exact hs.setCall_of_pc hpc rfl rfl False.elim
  | notFound hpc => exact hs.setCall_of_pc hpc rfl rfl False.elim
  | @deregistered c workspaceId hpc hmem =>
      have hmoved : Kept (s.setCall c (.dropping workspaceId)) :=
        hs.setCall_of_pc hpc rfl rfl False.elim
      refine hmoved.setWorkspaces fun _ => ⟨c, ?_⟩
      rw [setCall_call, if_pos rfl]
      trivial
  | serviceDropped hpc =>
      exact (hs.retain _).setCall_of_pc hpc rfl rfl fun _ _ _ => trivial
  | empty hpc => exact hs.setCall_of_pc hpc rfl rfl fun _ _ _ => trivial
  | notEmpty hpc hempty =>
      refine hs.setCall_of_pc hpc rfl rfl fun _ hnone _ => ?_
      exact absurd (registered_iff.mpr hempty) hnone
  | taken hpc _ hlistener => exact hs.taken hpc hlistener
  | nothingTaken hpc hlistener =>
      exact hs.setCall_of_pc hpc rfl rfl fun _ _ hsome => absurd hlistener hsome
  | cancelled hpc => exact hs.cancel hpc
  | cleared hpc => exact hs.cleared hpc
  | countReset hpc =>
      exact (hs.setCall_of_pc hpc rfl rfl False.elim).of_same rfl rfl rfl rfl rfl rfl
  | admitted hpc => exact hs.setCall_of_pc hpc rfl rfl False.elim
  | answered hpc => exact hs.setCall_of_pc hpc rfl rfl False.elim
  | serviceFound hpc => exact hs.setCall_of_pc hpc rfl rfl False.elim
  | servicesLocked hpc =>
      exact (hs.setCall_of_pc hpc rfl rfl False.elim).of_same rfl rfl rfl rfl rfl rfl
  | built hpc hlistener =>
      exact (hs.insertService hlistener _ _).setCall_of_pc hpc rfl rfl False.elim
  | notBuilt hpc =>
      exact (hs.setCall_of_pc hpc rfl rfl False.elim).of_same rfl rfl rfl rfl rfl rfl
  | requestNoted => exact hs.of_same rfl rfl rfl rfl rfl rfl
  | callerServiceDropped => exact hs.retain _
  | disconnected => exact hs.drop hC

theorem run_kept {acts : List Act} (hmeets : machine.Meets Completes init acts)
    (hrun : machine.run init acts = some t) : Locked t ∧ Kept t := by
  refine machine.run_invariant (I := fun s => Locked s ∧ Kept s) ?_ ⟨locked_init, kept_init⟩
    hmeets hrun
  rintro s a t ⟨hlocked, hkept⟩ hC h
  exact ⟨step_locked hlocked h, step_kept hlocked hkept hC h⟩

/-- Once every call has come to its end, the services are those of the running listener, every
other listener that was ever started is stopped, and without a workspace none runs. -/
theorem stopped_of_resting {acts : List Act} (hmeets : machine.Meets Completes init acts)
    (hrun : machine.run init acts = some t) (hrest : t.Resting) :
    (∀ key service, t.services key = some service →
      key = (service.workspaceId, service.callerSessionId) ∧ t.Runs service.parent) ∧
    (∀ g < t.started, t.cancelled g = false ↔ t.Runs g) ∧
    (¬ t.Registered → t.listener = none ∧ ∀ key, t.services key = none) := by
  have hkept : Kept t := (run_kept hmeets hrun).2
  have hservices : ∀ key service, t.services key = some service →
      key = (service.workspaceId, service.callerSessionId) ∧ t.Runs service.parent := by
    intro key service hkey
    refine ⟨run_keyed hrun key service hkey,
      (hkept.services key service hkey).resolve_right ?_⟩
    rintro ⟨c, hc⟩
    exact CallPc.not_holds (hrest c).handle _ hc
  refine ⟨hservices, fun g hg => ⟨fun hgoes => ?_, fun hruns => (hkept.running g hruns).2⟩, ?_⟩
  · refine (hkept.cancelled g hg hgoes).resolve_right ?_
    rintro ⟨c, port, hc⟩
    have hdone := hrest c
    rw [hc] at hdone
    cases hdone
  · intro hnone
    have hlistener : t.listener = none := by
      by_contra hsome
      obtain ⟨c, hc⟩ := hkept.pending hnone hsome
      exact (hrest c).not_pending hc
    refine ⟨hlistener, fun key => ?_⟩
    cases hkey : t.services key with
    | none => rfl
    | some service =>
        obtain ⟨-, handle, hsome, -⟩ := hservices key service hkey
        cases hlistener.symm.trans hsome

/-- The workspace deregisters after that. -/
def stopping : List Act :=
  serving ++ [.deregisterMcpWorkspace 2 true "a", .dropService 2, .isEmpty 2, .takeListener 2,
    .cancel 2, .clear 2, .resetCount 2]

theorem resting_of_three (h0 : (s.call 0).Done) (h1 : (s.call 1).Done) (h2 : (s.call 2).Done)
    (hrest : ∀ c, s.call (c + 3) = .absent) : s.Resting := by
  intro c
  obtain _ | _ | _ | c := c
  · exact h0
  · exact h1
  · exact h2
  · rw [hrest c]
    trivial

theorem stopped_of_resting_stopping :
    ∃ t, machine.run init stopping = some t ∧ t.started = 1 ∧ t.cancelled 0 = true ∧
      t.listener = none ∧ ∀ key, t.services key = none := by
  have hmeets : machine.Meets Completes init stopping := by
    simp [Machine.Meets, Completes, stopping, serving, registering]
  have hrest : ∀ t, machine.run init stopping = some t → t.Resting ∧ ¬ t.Registered := by
    intro t ht
    cases ht
    refine ⟨resting_of_three trivial trivial trivial fun _ => rfl, ?_⟩
    rw [registered_iff]
    decide +kernel
  refine ⟨_, rfl, rfl, rfl, ?_⟩
  exact (stopped_of_resting hmeets rfl (hrest _ rfl).1).2.2 (hrest _ rfl).2

/-! ## A workspace and its listener -/

/-- A registered workspace has a listener, and so has one that is about to register, on the
port it was told. -/
def Listened (s : McpServer) : Prop :=
  (s.Registered → s.listener ≠ none) ∧
    ∀ c registration port, s.call c = .registering registration port →
      ∃ handle, s.listener = some handle ∧ handle.port = port

/-- The handle is taken only while no workspace is registered and none is about to. -/
def Unraced (s : McpServer) : Act → Prop
  | .takeListener _ =>
      ¬ s.Registered ∧ ∀ c registration port, s.call c ≠ .registering registration port
  | _ => True

theorem listened_init : Listened init := by
  refine ⟨fun ⟨id, hid⟩ => ?_, fun c registration port h => by cases h⟩
  cases AList.mem_keys.mp hid

namespace Listened

theorem of_same (h : Listened s) (hlistener : t.listener = s.listener)
    (hregistered : t.Registered → s.Registered)
    (hcall : ∀ c registration port, t.call c = .registering registration port →
      s.call c = .registering registration port) : Listened t := by
  refine ⟨fun hnow => ?_, fun c registration port hc => ?_⟩
  · rw [hlistener]
    exact h.1 (hregistered hnow)
  · rw [hlistener]
    exact h.2 c registration port (hcall c registration port hc)

theorem setCall (h : Listened s) {c : ℕ} {pc : CallPc}
    (hpc : ∀ registration port, pc ≠ .registering registration port) :
    Listened (s.setCall c pc) := by
  refine h.of_same rfl id fun d registration port hd => ?_
  rw [setCall_call] at hd
  split at hd
  next => exact absurd hd (hpc registration port)
  next => exact hd

end Listened

theorem step_listened (hlocked : Locked s) (hs : Listened s) (hC : s.Unraced a)
    (h : machine.step s a = some t) : Listened t := by
  cases change_of_step h with
  | @listenerFound c registration _ existing hpc hlistener =>
      refine ⟨hs.1, fun d registration' port hd => ?_⟩
      rw [setCall_call] at hd
      split at hd
      next =>
        cases hd
        exact ⟨existing, hlistener, rfl⟩
      next => exact hs.2 d registration' port hd
  | @bound c registration _ _ port hpc hbind =>
      refine ⟨fun _ => Option.some_ne_none _, fun d registration' port' hd => ?_⟩
      rw [setCall_call] at hd
      split at hd
      next =>
        cases hd
        exact ⟨_, rfl, rfl⟩
      next =>
        -- No other call can have found a listener.
        obtain ⟨handle, hsome, -⟩ := hs.2 d registration' port' hd
        cases (hlocked c _ _ hpc).2.symm.trans hsome
  | @registered c registration port _ _ workspaces id token hpc hregister =>
      obtain ⟨handle, hsome, -⟩ := hs.2 c registration port hpc
      refine ⟨fun _ => ?_, (hs.setCall (c := c) (by simp)).2⟩
      rw [show ({ s.setCall c _ with workspaces } : McpServer).listener = _ from hsome]
      simp
  | @deregistered c workspaceId hpc hmem =>
      have hmoved : Listened (s.setCall c (.dropping workspaceId)) := hs.setCall (by simp)
      refine hmoved.of_same rfl ?_ fun _ _ _ => id
      rintro ⟨id, hid⟩
      exact ⟨id, mem_of_deregister hid⟩
  | taken hpc hlock hlistener =>
      obtain ⟨hnone, hidle⟩ := hC
      refine ⟨fun hnow => absurd hnow hnone, fun d registration port hd => ?_⟩
      rw [show ({ s.setCall _ _ with listener := none } : McpServer).call d = _ from
        setCall_call s _ d _] at hd
      split at hd
      next => cases hd
      next => exact absurd hd (hidle d registration port)
  | requestNoted => exact hs
  | callerServiceDropped => exact hs
  | _ => exact hs.setCall (by simp)

theorem unraced_of_listened (hs : Listened s) (h : machine.step s a = some t) (ht : Listened t) :
    s.Unraced a := by
  cases change_of_step h with
  | @taken c handle hpc hlock hlistener =>
      refine ⟨fun hnow => ht.1 hnow rfl, fun d registration port hd => ?_⟩
      have hne : d ≠ c := by
        rintro rfl
        cases hpc.symm.trans hd
      obtain ⟨_, hsome, -⟩ := ht.2 d registration port
        ((setCall_call s c d _).trans (by rw [if_neg hne, hd]))
      cases hsome
  | nothingTaken hpc hlistener =>
      refine ⟨fun hnow => hs.1 hnow hlistener, fun d registration port hd => ?_⟩
      obtain ⟨_, hsome, -⟩ := hs.2 d registration port hd
      cases hlistener.symm.trans hsome
  | _ => trivial

theorem preserves_listened :
    machine.Preserves Unraced (fun s => Locked s ∧ Listened s) := by
  rintro s a t ⟨hlocked, hs⟩ hC h
  exact ⟨step_locked hlocked h, step_listened hlocked hs hC h⟩

theorem run_listened {acts : List Act} (hmeets : machine.Meets Unraced init acts)
    (hrun : machine.run init acts = some t) : Locked t ∧ Listened t :=
  machine.run_invariant preserves_listened ⟨locked_init, listened_init⟩ hmeets hrun

/-- All along a run every registered workspace has its listener exactly if the handle is never
taken while a workspace is registered or about to be. -/
theorem listening_iff_unraced {acts : List Act} (hrun : machine.run init acts = some t) :
    (∀ bs cs u, acts = bs ++ cs → machine.run init bs = some u → u.Listened) ↔
      machine.Meets Unraced init acts :=
  machine.forall_prefix_iff_meets_of preserves_listened (fun _ hs => hs.2)
    (fun _ _ _ hs h ht => unraced_of_listened hs h ht) ⟨locked_init, listened_init⟩ hrun

/-- The workspace registers again between the moment the registry is found empty and the moment
the handle is taken. -/
def raced : List Act :=
  registering ++ [.deregisterMcpWorkspace 1 true "a", .dropService 1, .isEmpty 1,
    .registerMcpWorkspace 2 true sampleRegistration none, .ensureListener 2,
    .register 2 [] [171], .takeListener 1, .cancel 1, .clear 1, .resetCount 1]

theorem listening_iff_unraced_raced :
    ∃ t, machine.run init raced = some t ∧ t.Resting ∧ t.Registered ∧ t.listener = none ∧
      ¬ machine.Meets Unraced init raced := by
  have hregistered : ∀ t, machine.run init raced = some t → t.Registered := by
    intro t ht
    cases ht
    rw [registered_iff]
    decide +kernel
  refine ⟨_, rfl, resting_of_three trivial trivial trivial fun _ => rfl, hregistered _ rfl, rfl,
    fun hmeets => ?_⟩
  exact ((listening_iff_unraced rfl).mpr hmeets raced [] _ (by simp) rfl).1 (hregistered _ rfl) rfl

theorem step_listener_eq (hlocked : Locked s) (hs : Listened s) (hC : s.Unraced a)
    (hregistered : s.Registered) (h : machine.step s a = some t) : t.listener = s.listener := by
  cases change_of_step h with
  | bound hpc => exact absurd (hlocked _ _ _ hpc).2 (hs.1 hregistered)
  | taken => exact absurd hregistered hC.1
  | _ => rfl

/-- In such a run the listener that serves a workspace is the same, on the same port, for as long
as there is a workspace registered. -/
theorem listener_eq_of_registered {as bs : List Act} {u : McpServer}
    (hmeets : machine.Meets Unraced init (as ++ bs)) (hu : machine.run init as = some u)
    (hrun : machine.run u bs = some t)
    (hregistered : ∀ cs ds v, bs = cs ++ ds → machine.run u cs = some v → v.Registered) :
    t.listener = u.listener ∧ t.listener ≠ none := by
  obtain ⟨hlocked, hlistened⟩ := run_listened (Machine.Meets.of_append _ hmeets) hu
  have hmeets' : machine.Meets (fun v a => v.Unraced a ∧ v.Registered) u bs := by
    rw [machine.meets_iff_forall_append] at hmeets ⊢
    rintro cs a ds v rfl hv
    have hv' : machine.run init (as ++ cs) = some v :=
      (machine.run_append_eq_some_iff init v as cs).mpr ⟨u, hu, hv⟩
    exact ⟨hmeets (as ++ cs) a ds v (by simp) hv', hregistered cs (a :: ds) v rfl hv⟩
  have hsame : (Locked t ∧ Listened t) ∧ t.listener = u.listener := by
    refine machine.run_invariant
      (I := fun v => (Locked v ∧ Listened v) ∧ v.listener = u.listener) ?_
      ⟨⟨hlocked, hlistened⟩, rfl⟩ hmeets' hrun
    rintro v a w ⟨⟨hlocked, hlistened⟩, heq⟩ ⟨hC, hnow⟩ h
    refine ⟨⟨step_locked hlocked h, step_listened hlocked hlistened hC h⟩, ?_⟩
    exact (step_listener_eq hlocked hlistened hC hnow h).trans heq
  exact ⟨hsame.2, hsame.1.2.1 (hregistered bs [] t (by simp) hrun)⟩

/-- Another window registers its workspace while the first is still there. -/
def joining : List Act :=
  [.registerMcpWorkspace 1 true ⟨some "b", "B", none⟩ (some 6000), .ensureListener 1,
    .register 1 [] [205]]

theorem step_registered (hs : s.Registered)
    (hnot : ∀ c authorized workspaceId, a ≠ .deregisterMcpWorkspace c authorized workspaceId)
    (h : machine.step s a = some t) : t.Registered := by
  cases change_of_step h with
  | registered hpc hregister => exact registered_of_register hregister
  | deregistered => exact absurd rfl (hnot _ _ _)
  | _ => exact hs

theorem listener_eq_of_registered_joining :
    ∃ u t, machine.run init registering = some u ∧ machine.run u joining = some t ∧
      t.listener = u.listener ∧ t.listener ≠ none := by
  obtain ⟨u, t, hu, ht, hregistered⟩ : ∃ u t, machine.run init registering = some u ∧
      machine.run u joining = some t ∧ u.workspaces.keys.isEmpty = false := by
    refine ⟨_, _, rfl, rfl, ?_⟩
    decide +kernel
  have hmeets : machine.Meets Unraced init (registering ++ joining) := by
    simp [Machine.Meets, Unraced, registering, joining]
  refine ⟨u, t, hu, ht, listener_eq_of_registered hmeets hu ht ?_⟩
  intro cs ds v heq hv
  have hnot : machine.Meets (fun _ a => ∀ c authorized workspaceId,
      a ≠ Act.deregisterMcpWorkspace c authorized workspaceId) u (cs ++ ds) := by
    rw [← heq]
    simp [Machine.Meets, joining]
  exact machine.run_invariant (fun _ _ _ hs hnot h => step_registered hs hnot h)
    (registered_iff.mpr hregistered) (Machine.Meets.of_append _ hnot) hv

end McpServer

end Listener

end Kallichore
