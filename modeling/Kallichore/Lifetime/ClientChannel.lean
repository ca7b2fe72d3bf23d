import Kallichore.Lifetime.Process

/-!
# The channel to the client

Everything that a session has to tell its client goes over one channel, and stays there
until a client's websocket loop takes it. Whoever puts a message on it and when is left
open here: any message may be put at any moment.

There is one other reader. A start that fails collects what the kernel's process wrote
and has not been delivered, to report it to the caller. `consume_output_streams` takes
every message off the channel for that, one by one, and keeps the text of those that are
process output; the others are gone. It runs in the proxy's task, when the proxy does
not connect, and in `run_child`, when the process ends during the startup, and other
tasks may put or take messages between two of its turns.
-/

namespace Kallichore

namespace WebsocketMessage

def outputText : WebsocketMessage → Option String
  | .kernel (.output _ text) => some text
  | _ => none

def lasting (message : WebsocketMessage) : Bool := message.outputText.isNone

end WebsocketMessage

/-- A task that consumes the output streams when a start fails. -/
inductive Consumer
  /-- `start_zmq_proxy`, for the kernel with this number. -/
  | proxy (i : ℕ)
  /-- `run_child`. -/
  | child (i : ℕ)
  deriving DecidableEq, Repr

inductive ConsumePc
  | idle
  /-- Collecting, with the text so far. -/
  | collecting (output : String)
  /-- The channel was empty, and the text is to be reported. -/
  | collected (output : String)
  deriving DecidableEq, Repr

namespace Lifetime

/-- The task is on its way to consume the output streams: its proxy has not connected, or
the process has ended while the kernel was starting. -/
def consumes (s : Lifetime) : Consumer → Bool
  | .proxy i =>
      match s.incarnation i with
      | some k => k.proxy = .connecting ∨ k.proxy = .kernelInfo
      | none => false
  | .child i =>
      match s.incarnation i with
      | some k =>
          match k.runChild with
          | .checking _ => s.kernel.status = .starting
          | _ => false
      | none => false

def consumer : Act → Option Consumer
  | .launch i .proxyConnected | .launch i .proxyKernelInfo | .launch i .proxyFails
  | .launch i .proxyExited => some (.proxy i)
  | .launch i (.runChild _) | .notifyExit i => some (.child i)
  | .listen i _ | .select i | .exitedBeforeConnection i | .kernelInfoPanics i | .proxy i _ =>
      some (.proxy i)
  | _ => none

/-- The step reports a failed start, which takes the output streams. -/
def reportsFailure (s : Lifetime) : Act → Bool
  | .launch _ .proxyFails | .exitedBeforeConnection _ => true
  | .launch i (.runChild _) => s.consumes (.child i)
  | _ => false

end Lifetime

structure ClientChannel where
  life : Lifetime
  wsJson : List WebsocketMessage
  /-- Every message that was put on the channel. -/
  sent : List WebsocketMessage
  /-- The messages that clients' websocket loops took off it. -/
  taken : List (ℕ × WebsocketMessage)
  consume : Consumer → ConsumePc

namespace ClientChannel

inductive Act
  | put (message : WebsocketMessage)
  /-- The websocket loop of a client takes a message. -/
  | take (client : ℕ)
  /-- A failed start calls `consume_output_streams`. -/
  | consume (c : Consumer)
  /-- A turn of its loop. -/
  | tryRecv (c : Consumer)
  /-- A step of the session. -/
  | life (a : Lifetime.Act)

/-- A task that consumes the output streams does nothing else meanwhile, and reports the
failure once it has. -/
def admits (s : ClientChannel) (a : Lifetime.Act) : Bool :=
  match Lifetime.consumer a with
  | none => true
  | some c =>
      match s.consume c with
      | .idle => !s.life.reportsFailure a
      | .collecting _ => false
      | .collected _ => s.life.reportsFailure a

def step (D : Codecs) (s : ClientChannel) : Act → Option ClientChannel
  | .put message =>
      some { s with wsJson := s.wsJson ++ [message], sent := s.sent ++ [message] }
  | .take client =>
      match s.wsJson with
      | message :: rest =>
          some { s with wsJson := rest, taken := s.taken ++ [(client, message)] }
      | [] => none
  | .consume c =>
      if s.life.consumes c ∧ s.consume c = .idle then
        some { s with consume := Function.update s.consume c (.collecting "") }
      else none
  | .tryRecv c =>
      match s.consume c, s.wsJson with
      | .collecting output, message :: rest =>
          some { s with
            wsJson := rest
            consume := Function.update s.consume c
              (.collecting (output ++ message.outputText.getD "")) }
      | .collecting output, [] =>
          some { s with consume := Function.update s.consume c (.collected output) }
      | _, _ => none
  | .life a =>
      if s.admits a then
        (s.life.step D a).map fun life =>
          { s with
            life
            consume := match Lifetime.consumer a with
              | some c => Function.update s.consume c .idle
              | none => s.consume }
      else none

def machine (D : Codecs) : Machine ClientChannel Act := ⟨step D⟩

/-- A session that was created and never started. -/
def init (life : Lifetime) : ClientChannel where
  life := life
  wsJson := []
  sent := []
  taken := []
  consume := fun _ => .idle

/-- What is to reach a client is on the channel or was taken by a client, all of it and in
order. -/
def Keeps (s : ClientChannel) : Prop :=
  s.sent.filter WebsocketMessage.lasting =
    (s.taken.map Prod.snd).filter WebsocketMessage.lasting ++
      s.wsJson.filter WebsocketMessage.lasting

/-- A failed start that takes a message off the channel finds process output. -/
def FindsOutput (s : ClientChannel) : Act → Prop
  | .tryRecv _ => ∀ message rest, s.wsJson = message :: rest → message.lasting = false
  | _ => True

variable {D : Codecs}

/-- A step keeps what is to reach a client exactly if it finds process output. -/
theorem keeps_step_iff {s t : ClientChannel} {a : Act} (hs : s.Keeps)
    (h : s.step D a = some t) : t.Keeps ↔ s.FindsOutput a := by
  cases a with
  | put message =>
      cases h
      refine iff_of_true ?_ trivial
      simp only [Keeps, List.filter_append] at hs ⊢
      rw [hs, List.append_assoc]
  | take client =>
      simp only [step] at h
      split at h
      next message rest hchannel =>
        cases h
        refine iff_of_true ?_ trivial
        simp only [Keeps, hchannel, List.map_append, List.filter_append, List.append_assoc] at hs ⊢
        rw [hs, ← List.singleton_append, List.filter_append]
        rfl
      · cases h
  | consume c =>
      simp only [step] at h
      split at h
      · cases h
        exact iff_of_true hs trivial
      · cases h
  | tryRecv c =>
      simp only [step] at h
      split at h
      next output message rest hpc hchannel =>
        cases h
        have hfinds : s.FindsOutput (.tryRecv c) ↔ message.lasting = false := by
          constructor
          · intro hfinds
            exact hfinds message rest hchannel
          · intro hlasting message' rest' hcons
            cases hchannel.symm.trans hcons
            exact hlasting
        rw [hfinds]
        simp only [Keeps, hchannel] at hs ⊢
        cases hlasting : message.lasting with
        | false =>
            rw [List.filter_cons_of_neg (by simp [hlasting])] at hs
            exact iff_of_true hs rfl
        | true =>
            rw [List.filter_cons_of_pos hlasting] at hs
            refine iff_of_false (fun hkeeps => ?_) (by simp)
            have hlength := congrArg List.length (hs.symm.trans hkeeps)
            simp only [List.length_append, List.length_cons] at hlength
            omega
      next output hpc hchannel =>
        cases h
        refine iff_of_true hs ?_
        intro message rest hcons
        cases hchannel.symm.trans hcons
      · cases h
  | life a =>
      simp only [step] at h
      split at h
      · obtain ⟨life, hlife, rfl⟩ := Option.map_eq_some_iff.mp h
        exact iff_of_true hs trivial
      · cases h

/-- Along a run of a session, what is to reach a client is on the channel or was taken by
a client, all of it and in order, exactly if every failed start of the run that takes a
message off the channel finds process output. -/
theorem keeps_iff_findsOutput (D : Codecs) (life : Lifetime) (acts : List Act) {s : ClientChannel}
    (hrun : (machine D).run (init life) acts = some s) :
    (∀ before after u, acts = before ++ after →
      (machine D).run (init life) before = some u → u.Keeps) ↔
    (machine D).Meets FindsOutput (init life) acts := by
  refine (machine D).forall_prefix_iff_meets ?_ ?_ rfl hrun
  · intro u a v hu hfinds h
    exact (keeps_step_iff hu h).mpr hfinds
  · intro u a v hu h hv
    exact (keeps_step_iff hu h).mp hv

/-- A session is started, and its client is to be told. -/
def starting : List Act :=
  [.life (.start 0), .life (.launch 0 (.mark sampleHost)),
    .put (.kernel (.status .starting (some "start API called")))]

def ending : List Act :=
  [.life (.spawn 0 7), .life (.identify 0 false), .life (.launch 0 (.childExits 1)),
    .life (.launch 0 (.runChild sampleHost)), .consume (.child 0)]

/-- What is on the channel is taken for the report. -/
def collecting : List Act :=
  [.tryRecv (.child 0), .tryRecv (.child 0), .life (.launch 0 (.runChild sampleHost))]

/-- A client hears of the start, and the process writes something before it ends. -/
def heard : List Act := [.take 0, .put (.kernel (.output .stderr "no such file"))]

theorem keeps_iff_findsOutput_heard :
    ∃ s, (machine WireMessage.sampleCodecs).run (init (.sampleLifetime .signal))
        (starting ++ heard ++ ending ++ collecting) = some s ∧
      s.consume (.child 0) = .idle ∧ s.sent.length = 2 ∧ s.Keeps := by
  have hquiet : ∀ u, ∀ a ∈ starting ++ heard ++ ending, FindsOutput u a := by
    simp [starting, heard, ending, FindsOutput]
  have hmeets : (machine WireMessage.sampleCodecs).Meets FindsOutput
      (init (.sampleLifetime .signal)) (starting ++ heard ++ ending ++ collecting) := by
    refine Machine.meets_append _ rfl (Machine.meets_of_forall _ _ fun a ha u => hquiet u a ha) ?_
    refine ⟨fun message rest h => ?_, fun t ht => ?_⟩
    · cases h
      rfl
    · cases ht
      refine ⟨fun message rest h => ?_, fun t ht => ⟨trivial, fun _ _ => trivial⟩⟩
      cases h
  exact ⟨_, rfl, rfl, rfl, (keeps_iff_findsOutput WireMessage.sampleCodecs
    (.sampleLifetime .signal) (starting ++ heard ++ ending ++ collecting) rfl).mpr hmeets _ [] _
      (List.append_nil _).symm rfl⟩

/-- A process that ends during its startup takes the status along that no client has
heard of. -/
theorem not_keeps_unheard :
    ∃ s, (machine WireMessage.sampleCodecs).run (init (.sampleLifetime .signal))
        (starting ++ ending ++ collecting) = some s ∧
      s.taken = [] ∧ s.wsJson = [] ∧ ¬ s.Keeps := by
  refine ⟨_, rfl, rfl, rfl, fun h => ?_⟩
  cases h

end ClientChannel

end Kallichore
