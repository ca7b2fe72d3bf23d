import Kallichore.StdioBridge.Basic

/-!
# What a step does to one line of the client's

`Record` is what the bridge holds about one line: the message, the request's task, what
was written to the client for it and what came of its POSTs. A step either leaves the
record of a line as it is or advances it in one of the ways of `Advance`, whatever the
other tasks do to the link meanwhile. So what is true of the answers to a request is
shown of `Advance`, and not of the bridge's steps.
-/

namespace Kallichore

namespace StdioBridge

/-- The line a message to the client is about. -/
def Origin.line : Origin → Option ℕ
  | unparsed => none
  | relayed n => some n
  | own n => some n

/-- What the bridge holds about one line of the client's. -/
structure Record where
  message : Option Value
  request : Option Request
  written : List Entry
  statuses : List Status

namespace Bridge

def written (b : Bridge) (n : ℕ) : List Entry := b.out.filter fun e => e.origin.line == some n

def statuses (b : Bridge) (n : ℕ) : List Status :=
  (b.outcomes.filter fun o => o.1 == n).map Prod.snd

def record (b : Bridge) (n : ℕ) : Record :=
  ⟨b.lines[n]?, b.requests n, b.written n, b.statuses n⟩

end Bridge

/-- How many steps a request's task can still take. -/
def RequestPc.rank : RequestPc → ℕ
  | looking attempt => (if attempt = 0 then 4 else 0) + 5
  | posting attempt _ => (if attempt = 0 then 4 else 0) + 4
  | awaiting attempt _ => (if attempt = 0 then 4 else 0) + 3
  | refused attempt _ => (if attempt = 0 then 4 else 0) + 2
  | offline => 1
  | finished => 0

theorem RequestPc.rank_le (pc : RequestPc) : pc.rank ≤ 9 := by
  cases pc <;> simp only [rank] <;> grind

/-- The request whose task takes the step. -/
def Act.task : Act → Option ℕ
  | look n _ => some n
  | post n => some n
  | outcome n _ => some n
  | reconnect n _ => some n
  | giveUp n => some n
  | _ => none

section Record

variable (crates : Crates)

/-- A message of an entry that carries the ID. -/
def Entry.carries (id : Value) (e : Entry) : Bool := StdioBridge.carries crates id e.message

/-- The reply has at most one message that carries the ID of the message it is for. -/
def Reply.single (message : Value) : Reply → Bool
  | .response _ _ messages _ =>
      (message.get "id").all fun id => messages.countP (carries crates id) ≤ 1
  | _ => true

/-- The endpoints send at most one message carrying a request's ID in reply to it. -/
def SingleReply (b : Bridge) : Act → Prop
  | .line message attempts =>
      isInitialize message = true →
        attempts.1.handshake.single crates message = true ∧
          attempts.2.handshake.single crates message = true
  | .outcome n reply =>
      ∀ request, b.requests n = some request → reply.single crates request.message = true
  | _ => True

/-- One of the entries carries the ID, and so does every one that is the bridge's own. -/
structure AnswersOnce (id : Value) (entries : List Entry) : Prop where
  one : entries.countP (Entry.carries crates id) = 1
  own : ∀ e ∈ entries, ∀ n, e.origin = .own n → e.message.get "id" = some id

/-- What a step can do to the record of a line. -/
inductive Advance : Record → Record → Prop
  /-- The line is a notification. -/
  | noted (r : Record) (message : Value)
      (hmessage : isInitialize message = false ∧ isRequest message = false)
      (hfresh : r.message = none) :
      Advance r { r with message := some message }
  /-- The line is the client's `initialize`. -/
  | shaken (r : Record) (message : Value) (entries : List Entry)
      (hmessage : isInitialize message = true) (hfresh : r.message = none)
      (honce : ∀ id, message.get "id" = some id → AnswersOnce crates id entries) :
      Advance r { r with message := some message, written := r.written ++ entries }
  /-- The line is a request. -/
  | started (r : Record) (message : Value) (hmessage : isRequest message = true)
      (hfresh : r.message = none) :
      Advance r { r with message := some message, request := some ⟨message, .looking 0⟩ }
  /-- The request's task goes on. -/
  | moved (r : Record) (message : Value) (pc pc' : RequestPc) (statuses : List Status)
      (hrequest : r.request = some ⟨message, pc⟩) (hrank : pc'.rank < pc.rank)
      (hpc' : 0 < pc'.rank) (hrefused : ∀ status ∈ statuses, status = .refused) :
      Advance r { r with
        request := some ⟨message, pc'⟩
        statuses := r.statuses ++ statuses }
  /-- The request's task is over. -/
  | finished (r : Record) (message : Value) (pc : RequestPc) (entries : List Entry)
      (statuses : List Status)
      (hrequest : r.request = some ⟨message, pc⟩) (hpc : 0 < pc.rank)
      (honce : ∀ id, message.get "id" = some id → AnswersOnce crates id entries)
      (hstatuses : statuses.length ≤ 1) :
      Advance r { r with
        request := some ⟨message, .finished⟩
        written := r.written ++ entries
        statuses := r.statuses ++ statuses }

variable {crates}

theorem carries_of_id (hsame : ∀ v, crates.same v v = true) {message id : Value}
    (hid : message.get "id" = some id) : carries crates id message = true := by
  simp [carries, hid, hsame]

theorem errorResponse_id (id : Value) (code : Int64) (text : String) :
    (errorResponse id code text).get "id" = some id := rfl

theorem offlineReply_id {message id : Value} (hid : message.get "id" = some id)
    (offline : Offline) (version : Option String) :
    ∃ reply, (offlineReply crates message offline version).1 = some reply ∧
      reply.get "id" = some id := by
  simp only [offlineReply, hid]
  obtain ⟨result, version'⟩ := offlineResult crates message offline version
  cases result with
  | error e => exact ⟨_, rfl, rfl⟩
  | ok result => exact ⟨_, rfl, rfl⟩

theorem post_refused {message : Value} {reply : Reply}
    (h : (post crates message reply).status = .refused) :
    (post crates message reply).delivered = [] := by
  cases reply with
  | unbuilt reason => rfl
  | unconnected => rfl
  | undelivered reason => rfl
  | response code session messages lost =>
      by_cases hcode : isRefusal code
      · simp [post, hcode]
      · cases lost with
        | some e => simp [post, hcode] at h
        | none =>
            by_cases hsuccess : isSuccess code
            · simp [post, hcode, hsuccess] at h
            · simp [post, hcode, hsuccess] at h

/-- What a POST brings back answers the request as often as the outcome says. -/
theorem post_count {message id : Value} {reply : Reply} (hid : message.get "id" = some id)
    (hsingle : reply.single crates message = true) :
    (post crates message reply).delivered.countP (carries crates id) =
      if (post crates message reply).answered then 1 else 0 := by
  cases reply with
  | unbuilt reason => rfl
  | unconnected => rfl
  | undelivered reason => rfl
  | response code session messages lost =>
      have hle : messages.countP (carries crates id) ≤ 1 := by
        simpa [Reply.single, hid] using hsingle
      by_cases hcode : isRefusal code
      · simp [post, hcode]
      · simp only [post, hcode, hid, Bool.false_eq_true, if_false]
        by_cases hany : messages.any (carries crates id)
        · have hpos : 0 < messages.countP (carries crates id) := by
            simpa [List.countP_pos_iff] using hany
          rw [if_pos hany]
          omega
        · rw [if_neg hany, List.countP_eq_zero]
          simpa using hany

theorem connectLoop_count {message id : Value} (hid : message.get "id" = some id)
    {link : Link} (hhandshake : link.handshake = some message) (stale : Option Endpoint)
    {attempts : List Attempt}
    (hsingle : ∀ attempt ∈ attempts, attempt.handshake.single crates message = true) :
    (link.connectLoop crates stale attempts).delivered.countP (carries crates id) =
      if (link.connectLoop crates stale attempts).answered then 1 else 0 := by
  induction attempts generalizing link stale with
  | nil => rfl
  | cons attempt attempts ih =>
      have hpost := post_count hid (hsingle attempt (by simp))
      have hrest := fun a h => hsingle a (List.mem_cons_of_mem attempt h)
      simp only [Link.connectLoop]
      obtain ⟨resolver, endpoint⟩ := link.resolver.resolve attempt.directory stale
      cases endpoint with
      | none => rfl
      | some endpoint =>
          simp only [hhandshake]
          cases hstatus : (post crates message attempt.handshake).status with
          | done => exact hpost
          | refused => exact ih rfl (some endpoint) hrest
          | failed reason => exact hpost

theorem Link.connect_count (link : Link) {message id : Value}
    (hid : message.get "id" = some id) (hhandshake : link.handshake = some message)
    {attempts : Attempt × Attempt}
    (h₁ : attempts.1.handshake.single crates message = true)
    (h₂ : attempts.2.handshake.single crates message = true) :
    (link.connect crates attempts).delivered.countP (carries crates id) =
      if (link.connect crates attempts).answered then 1 else 0 := by
  have hcleared : { link with upstream := none, sessionId := none : Link }.handshake =
      some message := hhandshake
  exact connectLoop_count hid hcleared link.upstream (by simp [h₁, h₂])

namespace Bridge

@[simp] theorem record_written (b : Bridge) (n : ℕ) : (b.record n).written = b.written n := rfl

theorem record_send (b : Bridge) (origin : Origin) (messages : List Value) (n : ℕ) :
    (b.send origin messages).record n = { b.record n with
      written := b.written n ++
        if origin.line = some n then messages.map (Entry.mk origin) else [] } := by
  by_cases h : origin.line = some n
  · have hall : (messages.map (Entry.mk origin)).filter (fun e => e.origin.line == some n) =
        messages.map (Entry.mk origin) := by
      rw [List.filter_eq_self]
      simp [h]
    simp only [record, send, written, statuses, List.filter_append, hall, if_pos h]
  · have hnone : (messages.map (Entry.mk origin)).filter (fun e => e.origin.line == some n) =
        [] := by
      rw [List.filter_eq_nil_iff]
      simp [h]
    simp only [record, send, written, statuses, List.filter_append, hnone, if_neg h]

theorem record_setPc_self (b : Bridge) (n : ℕ) (request : Request) (pc : RequestPc) :
    (b.setPc n request pc).record n =
      { b.record n with request := some ⟨request.message, pc⟩ } := by
  simp [record, setPc, written, statuses]

theorem record_setPc_of_ne (b : Bridge) {m n : ℕ} (h : n ≠ m) (request : Request)
    (pc : RequestPc) : (b.setPc m request pc).record n = b.record n := by
  simp [record, setPc, written, statuses, Function.update_of_ne h]

theorem record_startPresence (b : Bridge) (n : ℕ) : b.startPresence.record n = b.record n := by
  cases h : b.presence <;> simp [startPresence, h, record, written, statuses]

theorem record_answerOffline (b : Bridge) (m : ℕ) (message : Value) (n : ℕ) :
    (b.answerOffline crates m message).record n = { b.record n with
      written := b.written n ++ if m = n then
        ((offlineReply crates message b.link.offline b.link.protocolVersion).1.toList.map
          (Entry.mk (.own m))) else [] } := by
  have h := record_send b (.own m)
    (offlineReply crates message b.link.offline b.link.protocolVersion).1.toList n
  simp only [Origin.line, Option.some.injEq] at h
  exact h

theorem answersOnce_relayed {n : ℕ} {id : Value} {messages : List Value}
    (hcount : messages.countP (carries crates id) = 1) :
    AnswersOnce crates id (messages.map (Entry.mk (.relayed n))) where
  one := by
    rw [List.countP_map]
    exact hcount
  own := by
    rintro e he k hk
    obtain ⟨v, -, rfl⟩ := List.mem_map.mp he
    cases hk

/-- What endpoints sent, with no answer in it, and an answer of the bridge's own. -/
theorem answersOnce_own (hsame : ∀ v, crates.same v v = true) (n : ℕ) {id reply : Value}
    {messages : List Value} (hcount : messages.countP (carries crates id) = 0)
    (hreply : reply.get "id" = some id) :
    AnswersOnce crates id (messages.map (Entry.mk (.relayed n)) ++ [⟨.own n, reply⟩]) where
  one := by
    have hrelayed : (messages.map (Entry.mk (.relayed n))).countP (Entry.carries crates id) =
        0 := by
      rw [List.countP_map]
      exact hcount
    simp [List.countP_append, hrelayed, Entry.carries, carries_of_id hsame hreply]
  own := by
    rintro e he k hk
    rcases List.mem_append.mp he with he | he
    · obtain ⟨v, -, rfl⟩ := List.mem_map.mp he
      cases hk
    · rw [List.mem_singleton.mp he]
      exact hreply

theorem answersOnce_offline (hsame : ∀ v, crates.same v v = true) (n : ℕ) {message id : Value}
    (hid : message.get "id" = some id) (offline : Offline) (version : Option String) :
    AnswersOnce crates id
      ((offlineReply crates message offline version).1.toList.map (Entry.mk (.own n))) := by
  obtain ⟨reply, hreply, hreplyId⟩ := @offlineReply_id crates message id hid offline version
  rw [hreply]
  exact @answersOnce_own crates hsame n id reply [] rfl hreplyId

/-- `relayInitialize` answers once. -/
theorem record_relayInitialize (hsame : ∀ v, crates.same v v = true) (b : Bridge) (m : ℕ)
    {message id : Value} (hid : message.get "id" = some id) {attempts : Attempt × Attempt}
    (h₁ : attempts.1.handshake.single crates message = true)
    (h₂ : attempts.2.handshake.single crates message = true) :
    ∃ entries : List Entry, AnswersOnce crates id entries ∧
      ∀ n, (b.relayInitialize crates m message attempts).record n = { b.record n with
        written := b.written n ++ if m = n then entries else [] } := by
  let link : Link := { b.link with
    handshake := some message
    initialized := false
    protocolVersion := none }
  have hcount := link.connect_count hid rfl h₁ h₂
  let relayed : Bridge := { b.send (.relayed m) (link.connect crates attempts).delivered with
    link := (link.connect crates attempts).link
    events := b.events ++ (link.connect crates attempts).events }
  have hrelayed : ∀ n, relayed.record n = { b.record n with
      written := b.written n ++ if m = n then
        (link.connect crates attempts).delivered.map (Entry.mk (.relayed m)) else [] } := by
    intro n
    have h := b.record_send (.relayed m) (link.connect crates attempts).delivered n
    simp only [Origin.line, Option.some.injEq] at h
    exact h
  have heq : b.relayInitialize crates m message attempts =
      if (link.connect crates attempts).answered then relayed
      else relayed.answerOffline crates m message := rfl
  by_cases hanswered : (link.connect crates attempts).answered
  · rw [if_pos hanswered] at hcount heq
    exact ⟨_, answersOnce_relayed hcount, fun n => heq ▸ hrelayed n⟩
  · rw [if_neg hanswered] at hcount heq
    obtain ⟨reply, hreply, hreplyId⟩ :=
      @offlineReply_id crates message id hid relayed.link.offline relayed.link.protocolVersion
    refine ⟨_, answersOnce_own hsame m hcount hreplyId, fun n => ?_⟩
    have hwritten := congrArg Record.written (hrelayed n)
    rw [record_written] at hwritten
    rw [heq, record_answerOffline, hrelayed n, hreply, hwritten]
    by_cases hmn : m = n
    · simp [hmn]
    · simp [hmn]

theorem record_deliver (b : Bridge) (m : ℕ) (outcome : Outcome) (n : ℕ) :
    (b.deliver m outcome).record n = { b.record n with
      written := b.written n ++
        if m = n then outcome.delivered.map (Entry.mk (.relayed m)) else []
      statuses := b.statuses n ++ if m = n then [outcome.status] else [] } := by
  have hsent := b.record_send (.relayed m) outcome.delivered n
  simp only [Origin.line, Option.some.injEq] at hsent
  have hstatuses : (b.deliver m outcome).statuses n =
      b.statuses n ++ if m = n then [outcome.status] else [] := by
    by_cases h : m = n
    · simp [deliver, statuses, h]
    · simp [deliver, statuses, h]
  calc (b.deliver m outcome).record n
      = { (b.send (.relayed m) outcome.delivered).record n with
          statuses := (b.deliver m outcome).statuses n } := rfl
    _ = _ := by rw [hsent, hstatuses]

theorem record_conclude_of_ne {b : Bridge} {m n : ℕ} (h : n ≠ m) (attempt : ℕ)
    (request : Request) (snapshot : Snapshot) (outcome : Outcome) :
    (b.conclude m attempt request snapshot outcome).record n = b.record n := by
  have hdeliver : (b.deliver m outcome).record n = b.record n := by
    rw [record_deliver]
    simp [h.symm, record]
  have hown : ∀ v, ((b.deliver m outcome).send (.own m) [v]).record n = b.record n := by
    intro v
    rw [← hdeliver, record_send]
    simp [Origin.line, h.symm, record]
  simp only [conclude]
  cases outcome.status with
  | done =>
      rw [record_setPc_of_ne _ h]
      split
      · exact hdeliver
      · exact hown _
  | refused =>
      rw [record_setPc_of_ne _ h]
      exact hdeliver
  | failed reason =>
      rw [record_setPc_of_ne _ h]
      split
      · exact hdeliver
      · exact hown _

theorem advance_answered {b : Bridge} {n : ℕ} {message : Value} {pc : RequestPc}
    {outcome : Outcome} (hrequest : b.requests n = some ⟨message, pc⟩) (hpc : 0 < pc.rank)
    (hcount : ∀ id, message.get "id" = some id →
      outcome.delivered.countP (carries crates id) = 1) :
    Advance crates (b.record n)
      (((b.deliver n outcome).setPc n ⟨message, pc⟩ .finished).record n) := by
  rw [record_setPc_self, record_deliver, if_pos rfl, if_pos rfl]
  exact .finished (b.record n) message pc _ [outcome.status] hrequest hpc
    (fun id hid => answersOnce_relayed (hcount id hid)) (by simp)

theorem advance_error (hsame : ∀ v, crates.same v v = true) {b : Bridge} {n : ℕ}
    {message : Value} {pc : RequestPc} {outcome : Outcome}
    (hrequest : b.requests n = some ⟨message, pc⟩) (hpc : 0 < pc.rank) (text : String)
    (hcount : ∀ id, message.get "id" = some id →
      outcome.delivered.countP (carries crates id) = 0) :
    Advance crates (b.record n)
      ((((b.deliver n outcome).send (.own n)
        [errorResponse ((message.get "id").getD .null) (-32603) text]).setPc n
          ⟨message, pc⟩ .finished).record n) := by
  have hwritten := congrArg Record.written (b.record_deliver n outcome n)
  rw [record_written, if_pos rfl] at hwritten
  rw [record_setPc_self, record_send, record_deliver, hwritten]
  simp only [Origin.line, if_true, List.append_assoc, List.map_cons, List.map_nil]
  refine .finished (b.record n) message pc _ [outcome.status] hrequest hpc (fun id hid => ?_)
    (by simp)
  rw [hid]
  exact answersOnce_own hsame n (hcount id hid) (errorResponse_id id _ text)

theorem advance_conclude (hsame : ∀ v, crates.same v v = true) {b : Bridge} {n attempt : ℕ}
    {message : Value} {snapshot : Snapshot} {reply : Reply}
    (hrequest : b.requests n = some ⟨message, .awaiting attempt snapshot⟩)
    (hsingle : reply.single crates message = true) :
    Advance crates (b.record n)
      ((b.conclude n attempt ⟨message, .awaiting attempt snapshot⟩ snapshot
        (post crates message reply)).record n) := by
  have hpc : 0 < (RequestPc.awaiting attempt snapshot).rank := by simp [RequestPc.rank]
  have hcount := fun id hid => @post_count crates message id reply hid hsingle
  simp only [conclude]
  cases hstatus : (post crates message reply).status with
  | done =>
      by_cases hanswered :
          (post crates message reply).answered = true ∨ message.get "id" = none
      · rw [if_pos (by simpa using hanswered)]
        apply advance_answered hrequest hpc
        intro id hid
        rw [hcount id hid, if_pos (by simpa [hid] using hanswered)]
      · rw [if_neg (by simpa using hanswered)]
        apply advance_error hsame hrequest hpc
        intro id hid
        rw [hcount id hid, if_neg (by simpa [hid] using hanswered)]
  | refused =>
      rw [record_setPc_self, record_deliver, if_pos rfl, if_pos rfl, post_refused hstatus,
        List.map_nil, List.append_nil, hstatus]
      refine .moved (b.record n) message _ _ [.refused] hrequest ?_ ?_ (by simp)
      · simp [RequestPc.rank]
      · simp [RequestPc.rank]
  | failed reason =>
      dsimp only
      by_cases hanswered : (post crates message reply).answered = true
      · rw [if_pos hanswered]
        apply advance_answered hrequest hpc
        intro id hid
        rw [hcount id hid, if_pos hanswered]
      · rw [if_neg hanswered]
        apply advance_error hsame hrequest hpc
        intro id hid
        rw [hcount id hid, if_neg hanswered]

theorem advance_handleLine (hsame : ∀ v, crates.same v v = true) {b : Bridge} {message : Value}
    {attempts : Attempt × Attempt}
    (hsingle : SingleReply crates b (.line message attempts)) (n : ℕ) :
    (b.handleLine crates message attempts).record n = b.record n ∨
      Advance crates (b.record n) ((b.handleLine crates message attempts).record n) := by
  let read : Bridge := { b with lines := b.lines ++ [message] }
  have hother : n ≠ b.lines.length → read.record n = b.record n := by
    intro hn
    have hline : (b.lines ++ [message])[n]? = b.lines[n]? := by
      rcases Nat.lt_or_gt_of_ne hn with h | h
      · exact List.getElem?_append_left h
      · rw [List.getElem?_eq_none (by simp; omega), List.getElem?_eq_none h.le]
    exact congrArg (fun l => (⟨l, b.requests n, b.written n, b.statuses n⟩ : Record)) hline
  have hself : read.record b.lines.length =
      { b.record b.lines.length with message := some message } := by
    simp [record, read, written, statuses]
  have hfresh : (b.record b.lines.length).message = none := by simp [record]
  simp only [handleLine, record_startPresence]
  by_cases hinit : isInitialize message = true
  · rw [if_pos hinit]
    obtain ⟨id, hid⟩ : ∃ id, message.get "id" = some id := by
      simp only [isInitialize, Bool.and_eq_true] at hinit
      exact Option.isSome_iff_exists.mp hinit.2
    obtain ⟨h₁, h₂⟩ := hsingle hinit
    obtain ⟨entries, honce, hrecord⟩ :=
      record_relayInitialize hsame read b.lines.length hid h₁ h₂
    by_cases hn : n = b.lines.length
    · subst hn
      right
      rw [hrecord, hself, if_pos rfl]
      refine .shaken (b.record b.lines.length) message entries hinit hfresh (fun id' hid' => ?_)
      obtain rfl : id' = id := Option.some.inj (hid'.symm.trans hid)
      exact honce
    · left
      rw [hrecord, if_neg (Ne.symm hn), ← hother hn]
      simp [record]
  · rw [if_neg hinit]
    by_cases hreq : isRequest message = true
    · rw [if_pos hreq]
      by_cases hn : n = b.lines.length
      · subst hn
        right
        rw [record_setPc_self, hself]
        exact .started (b.record b.lines.length) message hreq hfresh
      · left
        rw [record_setPc_of_ne _ hn]
        exact hother hn
    · rw [if_neg hreq]
      by_cases hn : n = b.lines.length
      · subst hn
        right
        have hnotify : (read.notify message).record b.lines.length =
            read.record b.lines.length := rfl
        rw [hnotify, hself]
        exact .noted (b.record b.lines.length) message
          ⟨Bool.eq_false_iff.mpr hinit, Bool.eq_false_iff.mpr hreq⟩ hfresh
      · left
        exact hother hn

theorem advance_setPc {b u : Bridge} {m : ℕ} {message : Value} {pc pc' : RequestPc}
    (hu : ∀ n, u.record n = b.record n) (hrequest : b.requests m = some ⟨message, pc⟩)
    (hrank : pc'.rank < pc.rank) (hpc' : 0 < pc'.rank) (n : ℕ) :
    (some m ≠ some n ∧ (u.setPc m ⟨message, pc⟩ pc').record n = b.record n) ∨
      Advance crates (b.record n) ((u.setPc m ⟨message, pc⟩ pc').record n) := by
  by_cases hn : n = m
  · subst hn
    right
    rw [record_setPc_self, hu]
    have h := @Advance.moved crates (b.record n) message pc pc' [] hrequest hrank hpc'
      (by simp)
    rwa [List.append_nil] at h
  · left
    rw [record_setPc_of_ne _ hn, hu]
    exact ⟨fun h => hn (Option.some.inj h).symm, rfl⟩

/-- A step advances the record of a line or leaves it as it is; a request's task
always advances its own. -/
theorem advance_step (hsame : ∀ v, crates.same v v = true) {b b' : Bridge} {act : Act}
    (hs : b.step crates act = some b') (hsingle : SingleReply crates b act) (n : ℕ) :
    (act.task ≠ some n ∧ b'.record n = b.record n) ∨
      Advance crates (b.record n) (b'.record n) := by
  cases act with
  | unparsed error =>
      cases hs
      left
      rw [record_send]
      simp [Act.task, Origin.line, record]
  | line message attempts =>
      cases hs
      exact (advance_handleLine hsame hsingle n).imp_left fun h => ⟨by simp [Act.task], h⟩
  | look m attempts =>
      simp only [step] at hs
      split at hs
      next message attempt hrequest =>
        cases hs
        have hu : ∀ n, (if b.link.upstream.isNone = true then b.reconnected crates attempts
            else b).record n = b.record n := by
          intro n
          split <;> rfl
        simp only [look]
        split
        · exact advance_setPc hu hrequest (by simp [RequestPc.rank]) (by simp [RequestPc.rank]) n
        · exact advance_setPc hu hrequest (by simp [RequestPc.rank]) (by simp [RequestPc.rank]) n
      · cases hs
  | post m =>
      simp only [step] at hs
      split at hs
      next message attempt snapshot hrequest =>
        cases hs
        exact advance_setPc (fun n => rfl) hrequest (by simp [RequestPc.rank])
          (by simp [RequestPc.rank]) n
      · cases hs
  | outcome m reply =>
      simp only [step] at hs
      split at hs
      next message attempt snapshot hrequest =>
        cases hs
        by_cases hn : n = m
        · subst hn
          right
          exact advance_conclude hsame hrequest (hsingle _ hrequest)
        · left
          rw [record_conclude_of_ne hn]
          exact ⟨fun h => hn (Option.some.inj h).symm, rfl⟩
      · cases hs
  | reconnect m attempts =>
      simp only [step] at hs
      split at hs
      next message attempt generation hrequest =>
        cases hs
        have hu : ∀ n, (if b.link.generation = generation then b.reconnected crates attempts
            else b).record n = b.record n := by
          intro n
          split <;> rfl
        apply advance_setPc hu hrequest
        · cases attempt <;> simp [nextAttempt, RequestPc.rank]
        · cases attempt <;> simp [nextAttempt, RequestPc.rank]
      · cases hs
  | giveUp m =>
      simp only [step] at hs
      split at hs
      next message hrequest =>
        cases hs
        by_cases hn : n = m
        · subst hn
          right
          rw [record_setPc_self, record_answerOffline, if_pos rfl]
          have h := @Advance.finished crates (b.record n) message _ _ [] hrequest
            (by simp [RequestPc.rank]) (fun id hid => answersOnce_offline hsame n hid
              b.link.offline b.link.protocolVersion) (by simp)
          rwa [List.append_nil] at h
        · left
          rw [record_setPc_of_ne _ hn, record_answerOffline, if_neg (Ne.symm hn), List.append_nil]
          exact ⟨fun h => hn (Option.some.inj h).symm, rfl⟩
      · cases hs
  | lookPresence attempts =>
      simp only [step] at hs
      split at hs
      next stale hpresence =>
        cases hs
        left
        refine ⟨by simp [Act.task], ?_⟩
        split <;> rfl
      · cases hs
  | presenceEnded =>
      simp only [step] at hs
      split at hs
      next connection hpresence =>
        cases hs
        exact .inl ⟨by simp [Act.task], rfl⟩
      · cases hs

end Bridge

end Record

end StdioBridge

end Kallichore
