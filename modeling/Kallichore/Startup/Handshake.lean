import Kallichore.Lib.Machine
import Kallichore.Wire.Decode
import Mathlib.Data.List.Infix

/-!
# Waiting for a kernel to announce its ports

A kernel that takes part in the handshake picks its ports itself, and announces them over a
registration socket that the server has bound for it. Three tasks of the server are involved.
One receives a single message from the socket, hands an announcement on, replies and closes
the socket. One makes a connection file of what is handed on. And `wait_for_handshake` takes
whichever comes first: the file, an exit of the kernel, or the timeout.

The socket is open to everyone on the machine, and the first message ends it whatever it is.
`handshake_outcome` says what the wait can come to, in every order of the tasks' steps.
-/

namespace Kallichore

namespace Handshake

/-- How to reach a kernel (`models::ConnectionInfo`). -/
structure ConnectionInfo where
  shellPort : ℕ
  iopubPort : ℕ
  stdinPort : ℕ
  controlPort : ℕ
  hbPort : ℕ
  transport : String
  signatureScheme : String
  key : String
  ip : String
  deriving DecidableEq

def connectionInfo (request : HandshakeRequest) (key : String) : ConnectionInfo where
  shellPort := request.shellPort.toNat
  iopubPort := request.iopubPort.toNat
  stdinPort := request.stdinPort.toNat
  controlPort := request.controlPort.toNat
  hbPort := request.hbPort.toNat
  transport := "tcp"
  signatureScheme := "hmac-sha256"
  key := key
  ip := "127.0.0.1"

/-- The errors of a handshake, of those of `KSError`. -/
inductive KSError
  | handshakeFailed (sessionId reason : String)
  | exitedBeforeConnection
  deriving DecidableEq

structure StartupError where
  exitCode : Option Int
  output : Option String
  error : KSError
  details : Option String
  deriving DecidableEq

inductive StartupStatus
  | abnormalExit (exitCode : Int) (output : String)
  | connectionFailed (output : String)
  | connected (kernelInfo : Value)

/-- What is sent back over the registration socket. -/
inductive Reply
  /-- A bare document that says what was wrong. -/
  | refused (error : WireError)
  /-- The frames of a message. -/
  | accepted (frames : List Bytes)

inductive RegistrationPc
  | listening
  /-- A message that could not be read is being answered. -/
  | refusing (error : WireError)
  /-- An announcement was handed on and is being answered. -/
  | accepting (message : JupyterMessage)
  | closed

/-- The channel from the registration task to the one that makes the file. -/
inductive ResultChannel
  | empty
  | sent (request : HandshakeRequest)
  /-- The sender is gone without a result. -/
  | dropped
  | taken

structure HandshakeState where
  registration : RegistrationPc
  result : ResultChannel
  /-- The task that makes the file has ended, and its end of the channel with it. -/
  monitorEnded : Bool
  file : Option ConnectionInfo
  startup : List StartupStatus
  startupOpen : Bool
  /-- What `wait_for_handshake` has returned. -/
  waiter : Option (Except StartupError ConnectionInfo)
  /-- The message received over the registration socket. -/
  received : Option (List Bytes)
  replies : List Reply
  /-- The `HandshakeCompleted` events sent to the client. -/
  completed : List ConnectionInfo

def begin : HandshakeState where
  registration := .listening
  result := .empty
  monitorEnded := false
  file := none
  startup := []
  startupOpen := true
  waiter := none
  received := none
  replies := []
  completed := []

inductive Act
  /-- A message arrives at the registration socket. -/
  | receive (frames : List Bytes)
  | receiveFails
  /-- The registration task sends its reply and closes the socket. -/
  | reply (date parentDate msgId : String)
  | monitor
  | startupStatus (status : StartupStatus)
  | startupClosed
  | waitFile
  | waitStartup
  | waitTimeout

section

variable (D : Codecs) (connection : KernelConnection) (shellUsed startupCommand : Option String)

/-- How a message to the registration socket is read. -/
def readRegistration (frames : List Bytes) : Outcome WireError JupyterMessage :=
  (WireMessage.fromZmq "registration" .registration frames).toJupyter D .registration
    connection.hmacKey

/-- The ports that a message announces, if it is an announcement. -/
def announcement (frames : List Bytes) : Option HandshakeRequest :=
  match readRegistration D connection frames with
  | .ok message =>
      match JupyterMsg.ofMessage message with
      | .handshakeRequest request => some request
      | _ => none
  | _ => none

/-- The message that answers an announcement. -/
def replyMessage (message : JupyterMessage) (msgId : String) : JupyterMessage where
  header := { msgId, msgType := "handshake_reply" }
  parentHeader := some message.header
  channel := .registration
  content := .object [("capabilities", .object []), ("status", .string "ok")]
  metadata := .null
  buffers := []

/-- One message is processed. A task that panics drops what it holds, as one that returns. -/
def receive (s : HandshakeState) (frames : List Bytes) : HandshakeState :=
  let s := { s with received := some frames }
  match readRegistration D connection frames with
  | .ok message =>
      match JupyterMsg.ofMessage message with
      | .handshakeRequest request =>
          { s with registration := .accepting message, result := .sent request }
      | _ => { s with registration := .closed, result := .dropped }
  | .err error => { s with registration := .refusing error }
  | .panic => { s with registration := .closed, result := .dropped }

def reply (s : HandshakeState) (date parentDate msgId : String) : Option HandshakeState :=
  match s.registration with
  | .refusing error =>
      some { s with
        registration := .closed
        result := .dropped
        replies := s.replies ++ [.refused error] }
  | .accepting message =>
      match WireMessage.fromJupyter D date parentDate (replyMessage message msgId) connection with
      | .ok wire =>
          some { s with
            registration := .closed
            replies := s.replies ++ [.accepted wire.toZmq] }
      | .error _ => some { s with registration := .closed }
  | .listening | .closed => none

def sessionKey : String := connection.key.getD ""

/-- The task that makes a file of an announcement. The file is lost if nobody waits. -/
def monitor (s : HandshakeState) : Option HandshakeState :=
  if s.monitorEnded then none
  else
    match s.result with
    | .sent request =>
        some { s with
          result := .taken
          monitorEnded := true
          file := if s.waiter.isNone then some (connectionInfo request (sessionKey connection))
            else none }
    | .dropped => some { s with monitorEnded := true }
    | .empty | .taken => none

def handshakeError (reason : String) : StartupError where
  exitCode := none
  output := none
  error := .handshakeFailed connection.sessionId reason
  details := none

def channelError : StartupError :=
  handshakeError connection "Channel error: receiving from an empty and closed channel"

/-- The lines of the output without those that have the markers of the startup command. -/
def stripStartupMarkers (output : String) : String :=
  let isMarked (line : List Char) : Bool :=
    decide ("KALLICHORE_STARTUP_BEGIN".toList <:+: line) ||
      decide ("KALLICHORE_STARTUP_SUCCESS".toList <:+: line)
  String.ofList (List.intercalate ['\n'] ((lines output.toList).filter fun line => !isMarked line))
where
  /-- `str::lines`: a newline, with a carriage return before it, ends a line. -/
  lines (text : List Char) : List (List Char) :=
    let parts := text.splitOn '\n'
    let parts := if parts.getLast? = some [] then parts.dropLast else parts
    parts.map fun line => if line.getLast? = some '\r' then line.dropLast else line

def errorContext : String :=
  (match shellUsed with
    | some shell => "Shell: " ++ shell ++ "\n"
    | none => "") ++
  (match startupCommand with
    | some command => "Startup command: " ++ command ++ "\n"
    | none => "") ++
  "The kernel exited before a connection could be established"

/-- `handle_startup_during_handshake`. -/
def startupError : StartupStatus → StartupError
  | .abnormalExit exitCode output =>
      { exitCode := some exitCode
        output := some (stripStartupMarkers output)
        error := .exitedBeforeConnection
        details := some (errorContext shellUsed startupCommand) }
  | .connectionFailed _ | .connected _ => handshakeError connection "Unexpected startup status"

/-- The file arrives, or there is nobody left to send one. -/
def waitFile (s : HandshakeState) : Option HandshakeState :=
  match s.file with
  | some info =>
      let info := { info with key := sessionKey connection }
      some { s with
        file := none
        waiter := some (.ok info)
        completed := s.completed ++ [info] }
  | none =>
      if s.monitorEnded then some { s with waiter := some (.error (channelError connection)) }
      else none

def waitStartup (s : HandshakeState) : Option HandshakeState :=
  match s.startup with
  | status :: rest =>
      some { s with
        startup := rest
        waiter := some (.error (startupError connection shellUsed startupCommand status)) }
  | [] =>
      if s.startupOpen then none
      else some { s with waiter := some (.error (handshakeError connection
        "Startup channel error: receiving from an empty and closed channel")) }

def step (s : HandshakeState) : Act → Option HandshakeState
  | .receive frames =>
      match s.registration with
      | .listening => some (receive D connection s frames)
      | _ => none
  | .receiveFails =>
      match s.registration with
      | .listening => some { s with registration := .closed, result := .dropped }
      | _ => none
  | .reply date parentDate msgId => reply D connection s date parentDate msgId
  | .monitor => monitor connection s
  | .startupStatus status =>
      if s.startupOpen then some { s with startup := s.startup ++ [status] } else none
  | .startupClosed => some { s with startupOpen := false }
  | .waitFile => if s.waiter.isNone then waitFile connection s else none
  | .waitStartup =>
      if s.waiter.isNone then waitStartup connection shellUsed startupCommand s else none
  | .waitTimeout =>
      if s.waiter.isNone then
        some { s with
          waiter := some (.error (handshakeError connection "Timeout waiting for handshake")) }
      else none

def machine : Machine HandshakeState Act := ⟨step D connection shellUsed startupCommand⟩

/-- The ports that were announced over the registration socket. -/
def announced (s : HandshakeState) : Option HandshakeRequest :=
  s.received.bind (announcement D connection)

/-- An announcement is being answered, or was. -/
def Answering (s : HandshakeState) : Prop :=
  (∃ message, s.registration = .accepting message ∧ s.replies = []) ∨
    s.registration = .closed ∧ s.replies.length ≤ 1 ∧
      ∀ reply ∈ s.replies, ∃ frames, reply = .accepted frames

/-- How far an announcement has come on its way to the wait. -/
inductive Stage (s : HandshakeState) : Prop
  | listening (hregistration : s.registration = .listening) (hresult : s.result = .empty)
      (hmonitor : s.monitorEnded = false) (hfile : s.file = none) (hreceived : s.received = none)
      (hreplies : s.replies = [])
  | refusing (error : WireError) (hregistration : s.registration = .refusing error)
      (hresult : s.result = .empty) (hmonitor : s.monitorEnded = false) (hfile : s.file = none)
      (hannounced : announced D connection s = none) (hreplies : s.replies = [])
  | failed (hregistration : s.registration = .closed) (hresult : s.result = .dropped)
      (hfile : s.file = none) (hannounced : announced D connection s = none)
      (hreplies : s.replies.length ≤ 1 ∧ ∀ reply ∈ s.replies, ∃ error, reply = .refused error)
  | handed (request : HandshakeRequest) (hanswering : Answering s)
      (hresult : s.result = .sent request) (hmonitor : s.monitorEnded = false)
      (hfile : s.file = none) (hannounced : announced D connection s = some request)
  | made (request : HandshakeRequest) (hanswering : Answering s) (hresult : s.result = .taken)
      (hmonitor : s.monitorEnded = true)
      (hannounced : announced D connection s = some request)
      (hfile : s.file = some (connectionInfo request (sessionKey connection)) ∨
        s.file = none ∧ s.waiter.isSome = true)

/-- What the wait has come to goes with what was announced. -/
structure Decided (s : HandshakeState) : Prop where
  ok : ∀ info, s.waiter = some (.ok info) → s.completed = [info] ∧ ∃ request,
    announced D connection s = some request ∧
      info = connectionInfo request (sessionKey connection)
  quiet : (∀ info, s.waiter ≠ some (.ok info)) → s.completed = []
  lost : s.waiter = some (.error (channelError connection)) →
    s.result = .dropped ∧ announced D connection s = none

end

variable {D : Codecs} {connection : KernelConnection} {shellUsed startupCommand : Option String}
  {s t : HandshakeState}

/-! ## One step -/

theorem readRegistration_spec (s : HandshakeState) (frames : List Bytes) :
    (∃ message request, announcement D connection frames = some request ∧
      receive D connection s frames =
        { s with
          received := some frames
          registration := .accepting message
          result := .sent request }) ∨
    (announcement D connection frames = none ∧
      receive D connection s frames =
        { s with
          received := some frames
          registration := .closed
          result := .dropped }) ∨
    (∃ error, announcement D connection frames = none ∧
      receive D connection s frames =
        { s with received := some frames, registration := .refusing error }) := by
  cases hread : readRegistration D connection frames with
  | ok message =>
      cases hmsg : JupyterMsg.ofMessage message with
      | handshakeRequest request =>
          exact Or.inl ⟨message, request, by simp [announcement, hread, hmsg],
            by simp [receive, hread, hmsg]⟩
      | _ => exact Or.inr (Or.inl (by simp [announcement, receive, hread, hmsg]))
  | err error => exact Or.inr (Or.inr ⟨error, by simp [announcement, hread],
      by simp [receive, hread]⟩)
  | panic => exact Or.inr (Or.inl (by simp [announcement, receive, hread]))

/-- A wait that has returned stays so, and the startup channel is no concern of the stage. -/
theorem Stage.wait (h : Stage D connection s) (startup : List StartupStatus) (startupOpen : Bool)
    (result : Except StartupError ConnectionInfo) :
    Stage D connection { s with startup, startupOpen, waiter := some result } := by
  cases h with
  | listening hregistration hresult hmonitor hfile hreceived hreplies =>
      exact .listening hregistration hresult hmonitor hfile hreceived hreplies
  | refusing error hregistration hresult hmonitor hfile hannounced hreplies =>
      exact .refusing error hregistration hresult hmonitor hfile hannounced hreplies
  | failed hregistration hresult hfile hannounced hreplies =>
      exact .failed hregistration hresult hfile hannounced hreplies
  | handed request hanswering hresult hmonitor hfile hannounced =>
      exact .handed request hanswering hresult hmonitor hfile hannounced
  | made request hanswering hresult hmonitor hannounced hfile =>
      exact .made request hanswering hresult hmonitor hannounced
        (hfile.imp_right fun h => ⟨h.1, rfl⟩)

theorem Stage.startup (h : Stage D connection s) (startup : List StartupStatus)
    (startupOpen : Bool) : Stage D connection { s with startup, startupOpen } := by
  cases h with
  | listening hregistration hresult hmonitor hfile hreceived hreplies =>
      exact .listening hregistration hresult hmonitor hfile hreceived hreplies
  | refusing error hregistration hresult hmonitor hfile hannounced hreplies =>
      exact .refusing error hregistration hresult hmonitor hfile hannounced hreplies
  | failed hregistration hresult hfile hannounced hreplies =>
      exact .failed hregistration hresult hfile hannounced hreplies
  | handed request hanswering hresult hmonitor hfile hannounced =>
      exact .handed request hanswering hresult hmonitor hfile hannounced
  | made request hanswering hresult hmonitor hannounced hfile =>
      exact .made request hanswering hresult hmonitor hannounced hfile

theorem Stage.eq_listening (h : Stage D connection s) (hlistening : s.registration = .listening) :
    s.result = .empty ∧ s.monitorEnded = false ∧ s.file = none ∧ s.received = none ∧
      s.replies = [] := by
  have hnot : ∀ {P : Prop}, Answering s → P := by
    rintro P (⟨message, hregistration, -⟩ | ⟨hregistration, -⟩)
    · cases hlistening.symm.trans hregistration
    · cases hlistening.symm.trans hregistration
  cases h with
  | listening hregistration hresult hmonitor hfile hreceived hreplies =>
      exact ⟨hresult, hmonitor, hfile, hreceived, hreplies⟩
  | refusing error hregistration => cases hlistening.symm.trans hregistration
  | failed hregistration => cases hlistening.symm.trans hregistration
  | handed request hanswering => exact hnot hanswering
  | made request hanswering => exact hnot hanswering

theorem Stage.receive (h : Stage D connection s) (hlistening : s.registration = .listening)
    (frames : List Bytes) : Stage D connection (Handshake.receive D connection s frames) := by
  obtain ⟨hresult, hmonitor, hfile, -, hreplies⟩ := h.eq_listening hlistening
  rcases @readRegistration_spec D connection s frames with
    ⟨message, request, hannounced, heq⟩ | ⟨hannounced, heq⟩ | ⟨error, hannounced, heq⟩
  · rw [heq]
    exact .handed request (Or.inl ⟨message, rfl, hreplies⟩) rfl hmonitor hfile hannounced
  · rw [heq]
    exact .failed rfl rfl hfile hannounced (by simp [hreplies])
  · rw [heq]
    exact .refusing error rfl hresult hmonitor hfile hannounced hreplies

/-- The step has nothing to do with the wait, nor with what was received. -/
structure Aside (s t : HandshakeState) : Prop where
  waiter : t.waiter = s.waiter
  completed : t.completed = s.completed
  received : t.received = s.received
  dropped : s.result = .dropped → t.result = .dropped

theorem Stage.reply (h : Stage D connection s) {date parentDate msgId : String}
    (ht : Handshake.reply D connection s date parentDate msgId = some t) :
    Stage D connection t ∧ Aside s t := by
  rw [Handshake.reply] at ht
  split at ht
  next error hregistration =>
    cases ht
    refine ⟨?_, rfl, rfl, rfl, fun _ => rfl⟩
    cases h with
    | refusing error' hregistration' hresult hmonitor hfile hannounced hreplies =>
        exact .failed rfl rfl hfile hannounced (by simp [hreplies])
    | listening hregistration' => cases hregistration.symm.trans hregistration'
    | failed hregistration' => cases hregistration.symm.trans hregistration'
    | handed request hanswering | made request hanswering =>
        rcases hanswering with ⟨message, hregistration', -⟩ | ⟨hregistration', -⟩
        · cases hregistration.symm.trans hregistration'
        · cases hregistration.symm.trans hregistration'
  next message hregistration =>
    -- the socket is closed, whether or not a reply could be made
    have hclosed : ∃ replies, t = { s with registration := .closed, replies } ∧
        (s.replies = [] → replies.length ≤ 1 ∧ ∀ reply ∈ replies, ∃ frames,
          reply = .accepted frames) := by
      split at ht
      next wire =>
        cases ht
        exact ⟨_, rfl, fun hnil => by simp [hnil]⟩
      next =>
        cases ht
        exact ⟨_, rfl, fun hnil => by simp [hnil]⟩
    obtain ⟨replies, rfl, hreplies⟩ := hclosed
    refine ⟨?_, rfl, rfl, rfl, fun h => h⟩
    have hanswering : Answering s →
        Answering { s with registration := .closed, replies } := by
      rintro (⟨message', -, hnil⟩ | ⟨hregistration', -⟩)
      · exact Or.inr ⟨rfl, hreplies hnil⟩
      · cases hregistration.symm.trans hregistration'
    cases h with
    | listening hregistration' => cases hregistration.symm.trans hregistration'
    | refusing error hregistration' => cases hregistration.symm.trans hregistration'
    | failed hregistration' => cases hregistration.symm.trans hregistration'
    | handed request h hresult hmonitor hfile hannounced =>
        exact .handed request (hanswering h) hresult hmonitor hfile hannounced
    | made request h hresult hmonitor hannounced hfile =>
        exact .made request (hanswering h) hresult hmonitor hannounced hfile
  next => cases ht
  next => cases ht

theorem Stage.monitor (h : Stage D connection s) (ht : Handshake.monitor connection s = some t) :
    Stage D connection t ∧ Aside s t := by
  rw [Handshake.monitor] at ht
  obtain ⟨hrunning, ht⟩ := Option.ite_none_left_eq_some.mp ht
  split at ht
  next request hresult =>
    cases ht
    refine ⟨?_, rfl, rfl, rfl, fun hdropped => by cases hresult.symm.trans hdropped⟩
    cases h with
    | handed request' hanswering hresult' hmonitor hfile hannounced =>
        cases hresult.symm.trans hresult'
        refine .made request hanswering rfl rfl hannounced ?_
        cases hwaiter : s.waiter with
        | none => exact Or.inl (by simp)
        | some result => exact Or.inr (by simp)
    | listening hregistration hresult' => cases hresult.symm.trans hresult'
    | refusing error hregistration hresult' => cases hresult.symm.trans hresult'
    | failed hregistration hresult' => cases hresult.symm.trans hresult'
    | made request' hanswering hresult' => cases hresult.symm.trans hresult'
  next hresult =>
    cases ht
    refine ⟨?_, rfl, rfl, rfl, fun h => h⟩
    cases h with
    | failed hregistration hresult' hfile hannounced hreplies =>
        exact .failed hregistration hresult' hfile hannounced hreplies
    | listening hregistration hresult' => cases hresult.symm.trans hresult'
    | refusing error hregistration hresult' => cases hresult.symm.trans hresult'
    | handed request hanswering hresult' => cases hresult.symm.trans hresult'
    | made request hanswering hresult' => cases hresult.symm.trans hresult'
  next => cases ht
  next => cases ht

theorem Decided.aside (h : Decided D connection s) (hst : Aside s t) : Decided D connection t := by
  have hannounced : announced D connection t = announced D connection s := by
    rw [announced, hst.received, announced]
  constructor
  · intro info hok
    rw [hannounced, hst.completed]
    exact h.ok info (hst.waiter ▸ hok)
  · intro hnot
    rw [hst.completed]
    exact h.quiet fun info => hst.waiter ▸ hnot info
  · intro hlost
    rw [hannounced]
    exact (h.lost (hst.waiter ▸ hlost)).imp_left hst.dropped

/-- A wait that ends without a file, and for another reason than the lack of one. -/
theorem Decided.fail (h : Decided D connection s) (hwaiter : s.waiter = none)
    (startup : List StartupStatus) {error : StartupError} (hne : error ≠ channelError connection) :
    Decided D connection { s with startup, waiter := some (.error error) } := by
  refine ⟨fun info hok => ?_, fun _ => ?_, fun hlost => ?_⟩
  · cases hok
  · exact h.quiet fun info hok => by cases hwaiter.symm.trans hok
  · cases hlost
    exact absurd rfl hne

theorem handshakeError_ne {reason : String}
    (h : reason ≠ "Channel error: receiving from an empty and closed channel") :
    handshakeError connection reason ≠ channelError connection := by
  intro heq
  simp only [channelError, handshakeError, StartupError.mk.injEq, KSError.handshakeFailed.injEq,
    true_and, and_true] at heq
  exact h heq

theorem startupError_ne (status : StartupStatus) :
    startupError connection shellUsed startupCommand status ≠ channelError connection := by
  cases status with
  | abnormalExit exitCode output =>
      intro heq
      simp [startupError, channelError, handshakeError] at heq
  | connectionFailed output => exact handshakeError_ne (by decide)
  | connected kernelInfo => exact handshakeError_ne (by decide)

theorem Decided.waitFile (hstage : Stage D connection s) (h : Decided D connection s)
    (hwaiter : s.waiter = none) (ht : Handshake.waitFile connection s = some t) :
    Stage D connection t ∧ Decided D connection t := by
  have hquiet : s.completed = [] := h.quiet fun info hok => by cases hwaiter.symm.trans hok
  rw [Handshake.waitFile] at ht
  split at ht
  next info hinfo =>
    cases ht
    have hnone : ∀ {P : Prop}, s.file = none → P := fun h => by cases hinfo.symm.trans h
    cases hstage with
    | listening hregistration hresult hmonitor hfile => exact hnone hfile
    | refusing error hregistration hresult hmonitor hfile => exact hnone hfile
    | failed hregistration hresult hfile => exact hnone hfile
    | handed request hanswering hresult hmonitor hfile => exact hnone hfile
    | made request hanswering hresult hmonitor hannounced hfile =>
        have hmade : info = connectionInfo request (sessionKey connection) := by
          rcases hfile with hfile | ⟨hfile, -⟩
          · exact Option.some.inj (hinfo.symm.trans hfile)
          · exact hnone hfile
        subst hmade
        refine ⟨.made request hanswering hresult hmonitor hannounced (Or.inr ⟨rfl, rfl⟩), ?_⟩
        refine ⟨fun info hok => ?_, fun hnot => absurd rfl (hnot _), fun hlost => by cases hlost⟩
        cases hok
        exact ⟨by rw [hquiet]; rfl, request, hannounced, rfl⟩
  next hfile =>
    obtain ⟨hended, ht⟩ := Option.ite_none_right_eq_some.mp ht
    cases ht
    refine ⟨hstage.wait s.startup s.startupOpen _, ⟨?_, fun _ => hquiet, fun _ => ?_⟩⟩
    · intro info hok
      cases hok
    have hfalse : ∀ {P : Prop}, s.monitorEnded = false → P := fun h => by
      cases hended.symm.trans h
    cases hstage with
    | listening hregistration hresult hmonitor => exact hfalse hmonitor
    | refusing error hregistration hresult hmonitor => exact hfalse hmonitor
    | failed hregistration hresult hfile hannounced hreplies => exact ⟨hresult, hannounced⟩
    | handed request hanswering hresult hmonitor => exact hfalse hmonitor
    | made request hanswering hresult hmonitor hannounced hmade =>
        rcases hmade with hmade | ⟨-, hsome⟩
        · cases hfile.symm.trans hmade
        · rw [hwaiter] at hsome
          cases hsome

theorem Decided.receive (hstage : Stage D connection s) (h : Decided D connection s)
    (hlistening : s.registration = .listening) {t : HandshakeState} (hwaiter : t.waiter = s.waiter)
    (hcompleted : t.completed = s.completed) : Decided D connection t := by
  obtain ⟨hresult, -, -, hreceived, -⟩ := hstage.eq_listening hlistening
  have hnone : announced D connection s = none := by
    rw [announced, hreceived]
    rfl
  have hnot : ∀ info, s.waiter ≠ some (.ok info) := by
    intro info hok
    obtain ⟨-, request, hannounced, -⟩ := h.ok info hok
    cases hnone.symm.trans hannounced
  refine ⟨fun info hok => absurd (hwaiter ▸ hok) (hnot info), fun _ => ?_, fun hlost => ?_⟩
  · rw [hcompleted]
    exact h.quiet hnot
  · cases hresult.symm.trans (h.lost (hwaiter ▸ hlost)).1

theorem step_consistent {act : Act}
    (h : Stage D connection s ∧ Decided D connection s)
    (ht : step D connection shellUsed startupCommand s act = some t) :
    Stage D connection t ∧ Decided D connection t := by
  obtain ⟨hstage, hdecided⟩ := h
  cases act with
  | receive frames =>
      simp only [step] at ht
      split at ht
      next hlistening =>
        cases ht
        refine ⟨hstage.receive hlistening frames, ?_⟩
        rcases @readRegistration_spec D connection s frames with
          ⟨message, request, -, heq⟩ | ⟨-, heq⟩ | ⟨error, -, heq⟩
        all_goals
          rw [heq]
          exact hdecided.receive hstage hlistening rfl rfl
      next => cases ht
  | receiveFails =>
      simp only [step] at ht
      split at ht
      next hlistening =>
        cases ht
        obtain ⟨-, -, hfile, hreceived, hreplies⟩ := hstage.eq_listening hlistening
        have hnone : announced D connection s = none := by
          rw [announced, hreceived]
          rfl
        exact ⟨.failed rfl rfl hfile hnone (by simp [hreplies]),
          hdecided.receive hstage hlistening rfl rfl⟩
      next => cases ht
  | reply date parentDate msgId =>
      obtain ⟨hstage', haside⟩ := hstage.reply ht
      exact ⟨hstage', hdecided.aside haside⟩
  | monitor =>
      obtain ⟨hstage', haside⟩ := hstage.monitor ht
      exact ⟨hstage', hdecided.aside haside⟩
  | startupStatus status =>
      obtain ⟨-, ht⟩ := Option.ite_none_right_eq_some.mp ht
      cases ht
      exact ⟨hstage.startup _ _, hdecided.aside ⟨rfl, rfl, rfl, fun h => h⟩⟩
  | startupClosed =>
      cases ht
      exact ⟨hstage.startup _ _, hdecided.aside ⟨rfl, rfl, rfl, fun h => h⟩⟩
  | waitFile =>
      obtain ⟨hwaiter, ht⟩ := Option.ite_none_right_eq_some.mp ht
      exact hdecided.waitFile hstage (Option.isNone_iff_eq_none.mp hwaiter) ht
  | waitStartup =>
      obtain ⟨hwaiter, ht⟩ := Option.ite_none_right_eq_some.mp ht
      have hwaiter := Option.isNone_iff_eq_none.mp hwaiter
      rw [waitStartup] at ht
      split at ht
      next status rest hstartup =>
        cases ht
        exact ⟨hstage.wait _ _ _, hdecided.fail hwaiter rest (startupError_ne status)⟩
      next =>
        obtain ⟨-, ht⟩ := Option.ite_none_left_eq_some.mp ht
        cases ht
        exact ⟨hstage.wait _ _ _, hdecided.fail hwaiter _ (handshakeError_ne (by decide))⟩
  | waitTimeout =>
      obtain ⟨hwaiter, ht⟩ := Option.ite_none_right_eq_some.mp ht
      cases ht
      exact ⟨hstage.wait _ _ _, hdecided.fail (Option.isNone_iff_eq_none.mp hwaiter) _
        (handshakeError_ne (by decide))⟩

/-! ## Whole runs -/

theorem consistent_of_run {acts : List Act}
    (hrun : (machine D connection shellUsed startupCommand).run begin acts = some s) :
    Stage D connection s ∧ Decided D connection s := by
  refine Machine.run_of_step (machine D connection shellUsed startupCommand)
    (I := fun s => Stage D connection s ∧ Decided D connection s)
    (fun s act t h ht => step_consistent h ht) ?_ hrun
  refine ⟨.listening rfl rfl rfl rfl rfl rfl, ?_, fun _ => rfl, ?_⟩
  · intro info hok
    cases hok
  · intro hlost
    cases hlost

/-- What was announced reaches a wait that goes on, by the server's own steps. -/
theorem Stage.reaches {request : HandshakeRequest} (h : Stage D connection s)
    (hannounced : announced D connection s = some request) (hwaiter : s.waiter = none) :
    ∃ t, (machine D connection shellUsed startupCommand).Reaches s t ∧
      t.waiter = some (.ok (connectionInfo request (sessionKey connection))) := by
  -- from the file on, one step is left
  have hlast : ∀ u : HandshakeState, u.waiter = none →
      u.file = some (connectionInfo request (sessionKey connection)) →
      ∃ t, (machine D connection shellUsed startupCommand).Reaches u t ∧
        t.waiter = some (.ok (connectionInfo request (sessionKey connection))) := by
    intro u hwaiter hfile
    let t : HandshakeState := { u with
      file := none
      waiter := some (.ok (connectionInfo request (sessionKey connection)))
      completed := u.completed ++ [connectionInfo request (sessionKey connection)] }
    have hstep : (machine D connection shellUsed startupCommand).step u .waitFile = some t := by
      simp [machine, step, Handshake.waitFile, hwaiter, hfile, connectionInfo, t]
    exact ⟨t, Machine.Reaches.head _ .waitFile hstep (Machine.reaches_refl _ _), rfl⟩
  have hnone : ∀ {P : Prop}, announced D connection s = none → P := fun h => by
    cases hannounced.symm.trans h
  cases h with
  | listening hregistration hresult hmonitor hfile hreceived hreplies =>
      apply hnone
      rw [announced, hreceived]
      rfl
  | refusing error hregistration hresult hmonitor hfile hannounced' => exact hnone hannounced'
  | failed hregistration hresult hfile hannounced' => exact hnone hannounced'
  | handed request' hanswering hresult hmonitor hfile hannounced' =>
      obtain rfl : request' = request := Option.some.inj (hannounced'.symm.trans hannounced)
      obtain ⟨t, hreaches, ht⟩ := hlast { s with
        result := .taken
        monitorEnded := true
        file := some (connectionInfo request' (sessionKey connection)) } hwaiter rfl
      refine ⟨t, Machine.Reaches.head _ .monitor ?_ hreaches, ht⟩
      simp [machine, step, Handshake.monitor, hmonitor, hresult, hwaiter]
  | made request' hanswering hresult hmonitor hannounced' hfile =>
      obtain rfl : request' = request := Option.some.inj (hannounced'.symm.trans hannounced)
      rcases hfile with hfile | ⟨-, hsome⟩
      · exact hlast s hwaiter hfile
      · rw [hwaiter] at hsome
        cases hsome

theorem Stage.replies (h : Stage D connection s) :
    s.replies.length ≤ 1 ∧ ∀ reply ∈ s.replies, (∃ frames, reply = .accepted frames) ↔
      (announced D connection s).isSome = true := by
  have hnil : s.replies = [] → s.replies.length ≤ 1 ∧ ∀ reply ∈ s.replies,
      (∃ frames, reply = .accepted frames) ↔ (announced D connection s).isSome = true := by
    intro hnil
    simp [hnil]
  have hanswered : Answering s → (announced D connection s).isSome = true →
      s.replies.length ≤ 1 ∧ ∀ reply ∈ s.replies,
        (∃ frames, reply = .accepted frames) ↔ (announced D connection s).isSome = true := by
    rintro (⟨message, -, hreplies⟩ | ⟨-, hlength, hreplies⟩) hsome
    · exact hnil hreplies
    · exact ⟨hlength, fun reply hreply => iff_of_true (hreplies reply hreply) hsome⟩
  cases h with
  | listening hregistration hresult hmonitor hfile hreceived hreplies => exact hnil hreplies
  | refusing error hregistration hresult hmonitor hfile hannounced hreplies => exact hnil hreplies
  | failed hregistration hresult hfile hannounced hreplies =>
      refine ⟨hreplies.1, fun reply hreply => iff_of_false ?_ (by simp [hannounced])⟩
      rintro ⟨frames, rfl⟩
      obtain ⟨error, herror⟩ := hreplies.2 _ hreply
      cases herror
  | handed request hanswering hresult hmonitor hfile hannounced =>
      exact hanswered hanswering (by simp [hannounced])
  | made request hanswering hresult hmonitor hannounced hfile =>
      exact hanswered hanswering (by simp [hannounced])

/-- In every order of the steps of the tasks, the kernel, and whoever else reaches the socket:
the wait ends with a file only if the one message that was received reads as an announcement
under the session's key, and then with the announced ports and that key, which is also what the
client is told, once; a wait that goes on gets an announced file by the server's own steps, and
is not told that there is none; and the socket answers at most once, with an acceptance only to
an announcement. -/
theorem handshake_outcome {acts : List Act}
    (hrun : (machine D connection shellUsed startupCommand).run begin acts = some s) :
    (∀ info, s.waiter = some (.ok info) → s.completed = [info] ∧ ∃ frames request,
      s.received = some frames ∧ announcement D connection frames = some request ∧
        info = connectionInfo request (sessionKey connection)) ∧
    ((∀ info, s.waiter ≠ some (.ok info)) → s.completed = []) ∧
    (∀ frames request, s.received = some frames →
      announcement D connection frames = some request →
        s.waiter ≠ some (.error (channelError connection)) ∧
        (s.waiter = none → ∃ t, (machine D connection shellUsed startupCommand).Reaches s t ∧
          t.waiter = some (.ok (connectionInfo request (sessionKey connection))))) ∧
    s.replies.length ≤ 1 ∧
    ∀ reply ∈ s.replies, (∃ frames, reply = .accepted frames) ↔
      ∃ frames request, s.received = some frames ∧
        announcement D connection frames = some request := by
  obtain ⟨hstage, hdecided⟩ := consistent_of_run hrun
  have hiff : ∀ request, announced D connection s = some request ↔ ∃ frames,
      s.received = some frames ∧ announcement D connection frames = some request :=
    fun request => Option.bind_eq_some_iff
  refine ⟨fun info hok => ?_, hdecided.quiet, fun frames request hframes hrequest => ?_, ?_⟩
  · obtain ⟨hcompleted, request, hannounced, hinfo⟩ := hdecided.ok info hok
    obtain ⟨frames, hframes, hrequest⟩ := (hiff request).mp hannounced
    exact ⟨hcompleted, frames, request, hframes, hrequest, hinfo⟩
  · have hannounced := (hiff request).mpr ⟨frames, hframes, hrequest⟩
    refine ⟨fun hlost => ?_, hstage.reaches hannounced⟩
    cases hannounced.symm.trans (hdecided.lost hlost).2
  · have hreplied := hstage.replies
    refine ⟨hreplied.1, fun reply hreply => ?_⟩
    rw [hreplied.2 reply hreply, Option.isSome_iff_exists]
    constructor
    · rintro ⟨request, hannounced⟩
      obtain ⟨frames, hframes, hrequest⟩ := (hiff request).mp hannounced
      exact ⟨frames, request, hframes, hrequest⟩
    · rintro ⟨frames, request, hframes, hrequest⟩
      exact ⟨request, (hiff request).mpr ⟨frames, hframes, hrequest⟩⟩

/-- The header of an announcement, and its text. -/
def announceHeader : WireMessageHeader where
  msgId := "1"
  msgType := "handshake_request"
  session := "s"
  username := "u"
  date := "2025-01-01T00:00:00.000Z"
  version := "5.5"

def announceHeaderText : String :=
  "\x7b\"msg_id\":\"1\",\"msg_type\":\"handshake_request\",\"session\":\"s\"," ++
    "\"username\":\"u\",\"date\":\"2025-01-01T00:00:00.000Z\"," ++
    "\"version\":\"5.5\"\x7d"

def announcePort (port : UInt64) : Value := .number (.posInt port)

def announceContent : Value :=
  .array [announcePort 4001, announcePort 4002, announcePort 4003, announcePort 4004,
    announcePort 4005]

/-- The library functions on the texts of the announcement. -/
def announceCodecs : Codecs where
  hmacSha256 _ _ := []
  jsonText _ := "null"
  jsonFromStr text := if text = announceHeaderText then some announceHeader.toValue else none
  jsonFromSlice bytes :=
    if bytes = asBytes "[4001,4002,4003,4004,4005]" then some announceContent
    else if bytes = asBytes "\x7b\x7d" then some (.object []) else none
  base64Encode _ := ""
  base64Decode _ := none

def announceConnection : KernelConnection where
  sessionId := "s"
  username := "u"
  key := some "k"
  protocolVersion := "5.5"
  hmacKey := some (asBytes "k")

def announceFrames : List Bytes :=
  [msgDelim, [], asBytes announceHeaderText, asBytes "\x7b\x7d", asBytes "\x7b\x7d",
    asBytes "[4001,4002,4003,4004,4005]"]

def announceInfo : ConnectionInfo := connectionInfo ⟨4001, 4002, 4003, 4004, 4005⟩ "k"

theorem readRegistration_announceFrames :
    readRegistration announceCodecs announceConnection announceFrames =
      .ok { header := announceHeader.toJupyter, parentHeader := none, channel := .registration,
            content := announceContent, metadata := .object [], buffers := [] } := by
  have hheader : announceCodecs.jsonFromStr announceHeaderText = some announceHeader.toValue := by
    simp only [announceCodecs, if_true]
  have hcontent : announceCodecs.jsonFromSlice (asBytes "[4001,4002,4003,4004,4005]") =
      some announceContent := by
    simp only [announceCodecs, if_true]
  have hmetadata : announceCodecs.jsonFromSlice (asBytes "\x7b\x7d") = some (.object []) := by
    have hne : asBytes "\x7b\x7d" ≠ asBytes "[4001,4002,4003,4004,4005]" := by decide
    simp only [announceCodecs, if_neg hne, if_true]
  have hwire : (WireMessage.fromZmq "registration" .registration announceFrames).parts =
      [] ++ msgDelim :: [] :: asBytes announceHeaderText :: [asBytes "\x7b\x7d",
        asBytes "\x7b\x7d", asBytes "[4001,4002,4003,4004,4005]"] := rfl
  rw [readRegistration, WireMessage.toJupyter_of_delim List.not_mem_nil hwire]
  rw [announceConnection, WireMessage.checkSignature, if_pos rfl, Outcome.ofExcept,
    Outcome.ok_bind, WireMessage.decodeParts_eq_ok_iff]
  refine ⟨[], asBytes announceHeaderText, asBytes "\x7b\x7d", asBytes "\x7b\x7d",
    asBytes "[4001,4002,4003,4004,4005]", [], rfl, WireMessage.parseHeader_of_json hheader,
    if_pos (by decide), ?_, ?_, rfl, rfl⟩
  · simp only [WireMessage.parseSlice, hmetadata]
  · simp only [WireMessage.parseSlice, hcontent]

/-- An announcement that arrives, is made a file, and ends the wait. -/
theorem handshake_outcome_announced :
    ∃ s, (machine announceCodecs announceConnection none none).run begin
        [.receive announceFrames, .monitor, .waitFile] = some s ∧
      s.waiter = some (.ok announceInfo) ∧ s.completed = [announceInfo] := by
  have hrun : ∃ s, (machine announceCodecs announceConnection none none).run begin
      [.receive announceFrames, .monitor, .waitFile] = some s ∧
        s.waiter = some (.ok announceInfo) := by
    have hmessage : JupyterMsg.ofMessage
        { header := announceHeader.toJupyter, parentHeader := none, channel := .registration,
          content := announceContent, metadata := .object [], buffers := [] } =
        .handshakeRequest ⟨4001, 4002, 4003, 4004, 4005⟩ := rfl
    have hkey : sessionKey announceConnection = "k" := rfl
    simp [Machine.run, machine, step, begin, receive, readRegistration_announceFrames, hmessage,
      monitor, waitFile, announceInfo, connectionInfo, hkey]
  obtain ⟨s, hrun, hok⟩ := hrun
  exact ⟨s, hrun, hok, ((handshake_outcome hrun).1 announceInfo hok).1⟩

end Handshake

end Kallichore
