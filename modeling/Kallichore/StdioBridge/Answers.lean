import Kallichore.StdioBridge.Record

/-!
# Every request is answered exactly once

The answer to a request comes from one of four places: the endpoint, the error for a
response that was closed without one, the error for a POST that failed, and the reply
that needs no endpoint. Which one it is depends on the link, which other tasks replace
meanwhile; how many there are does not. `Record.Sound` lists what the record of a line
can be: it moves from one of these to another, and a request's task is at the end of its
way after at most nine steps.
-/

namespace Kallichore

namespace StdioBridge

variable {crates : Crates}

variable (crates) in
inductive Record.Sound : Record → Prop
  | fresh : Sound ⟨none, none, [], []⟩
  | noted (message : Value)
      (hmessage : isInitialize message = false ∧ isRequest message = false) :
      Sound ⟨some message, none, [], []⟩
  | shaken (message : Value) (entries : List Entry) (hmessage : isInitialize message = true)
      (honce : ∀ id, message.get "id" = some id → AnswersOnce crates id entries) :
      Sound ⟨some message, none, entries, []⟩
  /-- The request's task is under way, and nothing has come of it. -/
  | underWay (message : Value) (pc : RequestPc) (statuses : List Status)
      (hmessage : isRequest message = true) (hpc : 0 < pc.rank)
      (hrefused : ∀ status ∈ statuses, status = .refused) :
      Sound ⟨some message, some ⟨message, pc⟩, [], statuses⟩
  /-- The request's task is finished. -/
  | answered (message : Value) (entries : List Entry) (statuses : List Status)
      (hmessage : isRequest message = true)
      (honce : ∀ id, message.get "id" = some id → AnswersOnce crates id entries)
      (hstatuses : statuses.countP (· ≠ .refused) ≤ 1) :
      Sound ⟨some message, some ⟨message, .finished⟩, entries, statuses⟩

theorem Advance.sound {r r' : Record} (h : Advance crates r r') (hr : r.Sound crates) :
    r'.Sound crates := by
  cases h with
  | noted message hmessage hfresh =>
      cases hr <;> cases hfresh
      exact .noted message hmessage
  | shaken message entries hmessage hfresh honce =>
      cases hr <;> cases hfresh
      exact .shaken message entries hmessage honce
  | started message hmessage hfresh =>
      cases hr <;> cases hfresh
      exact .underWay message (.looking 0) [] hmessage (by simp [RequestPc.rank]) (by simp)
  | moved message pc pc' statuses hrequest hrank hpc' hrefused =>
      cases hr with
      | fresh => cases hrequest
      | noted => cases hrequest
      | shaken => cases hrequest
      | underWay message _ old hmessage hpc hold =>
          cases hrequest
          refine .underWay message pc' (old ++ statuses) hmessage hpc' ?_
          intro status hstatus
          exact (List.mem_append.mp hstatus).elim (hold status) (hrefused status)
      | answered message entries old hmessage honce hold =>
          cases hrequest
          exact absurd hrank (by simp [RequestPc.rank])
  | finished message pc entries statuses hrequest hpc honce hstatuses =>
      cases hr with
      | fresh => cases hrequest
      | noted => cases hrequest
      | shaken => cases hrequest
      | underWay message _ old hmessage hpc hold =>
          cases hrequest
          refine .answered message ([] ++ entries) (old ++ statuses) hmessage honce ?_
          have hold : old.countP (· ≠ .refused) = 0 := by
            rw [List.countP_eq_zero]
            simpa using hold
          have hnew : statuses.countP (· ≠ .refused) ≤ statuses.length :=
            List.countP_le_length
          rw [List.countP_append]
          omega
      | answered message old olds hmessage hold =>
          cases hrequest
          exact absurd hpc (by simp [RequestPc.rank])

def Record.rank (r : Record) : ℕ := r.request.elim 0 fun request => request.pc.rank

/-- An advance of a line that was read before uses up a step of its request. -/
theorem Advance.rank_lt {r r' : Record} (h : Advance crates r r') {message : Value}
    (hr : r.message = some message) : r'.rank < r.rank := by
  cases h with
  | noted message hmessage hfresh => cases hr.symm.trans hfresh
  | shaken message entries hmessage hfresh honce => cases hr.symm.trans hfresh
  | started message hmessage hfresh => cases hr.symm.trans hfresh
  | moved message pc pc' statuses hrequest hrank hpc' hrefused =>
      simpa [Record.rank, hrequest] using hrank
  | finished message pc entries statuses hrequest hpc honce hstatuses =>
      simpa [Record.rank, hrequest, RequestPc.rank] using hpc

theorem Advance.message_eq {r r' : Record} (h : Advance crates r r') {message : Value}
    (hr : r.message = some message) : r'.message = some message := by
  cases h with
  | noted message hmessage hfresh => cases hr.symm.trans hfresh
  | shaken message entries hmessage hfresh honce => cases hr.symm.trans hfresh
  | started message hmessage hfresh => cases hr.symm.trans hfresh
  | moved message pc pc' statuses hrequest hrank hpc' hrefused => exact hr
  | finished message pc entries statuses hrequest hpc honce hstatuses => exact hr

theorem Record.Sound.own_id {r : Record} (h : r.Sound crates) {e : Entry} (he : e ∈ r.written)
    {k : ℕ} (hk : e.origin = .own k) :
    ∃ message id, r.message = some message ∧ (method message).isSome = true ∧
      message.get "id" = some id ∧ e.message.get "id" = some id := by
  cases h with
  | fresh => cases he
  | noted => cases he
  | underWay => cases he
  | shaken message entries hmessage honce =>
      simp only [isInitialize, Bool.and_eq_true, beq_iff_eq] at hmessage
      obtain ⟨id, hid⟩ := Option.isSome_iff_exists.mp hmessage.2
      exact ⟨message, id, rfl, by simp [hmessage.1], hid, (honce id hid).own e he k hk⟩
  | answered message entries statuses hmessage honce hstatuses =>
      simp only [isRequest, Bool.and_eq_true] at hmessage
      obtain ⟨id, hid⟩ := Option.isSome_iff_exists.mp hmessage.1.2
      exact ⟨message, id, rfl, hmessage.1.1, hid, (honce id hid).own e he k hk⟩

theorem Record.Sound.answersOnce {r : Record} (h : r.Sound crates) {message id : Value}
    (hmessage : r.message = some message) (hmethod : (method message).isSome = true)
    (hid : message.get "id" = some id) (hrank : r.rank = 0) :
    AnswersOnce crates id r.written := by
  cases h with
  | fresh => cases hmessage
  | noted message hnoted =>
      cases hmessage
      simp [isRequest, hmethod, hid, hnoted.1] at hnoted
  | shaken message entries hinit honce =>
      cases hmessage
      exact honce id hid
  | underWay message pc statuses hreq hpc hrefused => exact absurd hpc (Nat.not_lt.mpr hrank.le)
  | answered message entries statuses hreq honce hstatuses =>
      cases hmessage
      exact honce id hid

theorem Record.Sound.written_of_rank_pos {r : Record} (h : r.Sound crates) (hrank : 0 < r.rank) :
    r.written = [] := by
  cases h with
  | fresh => rfl
  | noted => rfl
  | shaken => exact absurd hrank (Nat.lt_irrefl 0)
  | underWay => rfl
  | answered => exact absurd hrank (Nat.lt_irrefl 0)

theorem Record.Sound.rank_of_isInitialize {r : Record} (h : r.Sound crates) {message : Value}
    (hmessage : r.message = some message) (hinit : isInitialize message = true) :
    r.rank = 0 := by
  cases h with
  | fresh => rfl
  | noted => rfl
  | shaken => rfl
  | underWay message pc statuses hreq hpc hrefused =>
      cases hmessage
      simp [isRequest, hinit] at hreq
  | answered => rfl

theorem Record.Sound.settled_le {r : Record} (h : r.Sound crates) :
    r.statuses.countP (· ≠ .refused) ≤ 1 := by
  cases h with
  | fresh => simp
  | noted => simp
  | shaken => simp
  | underWay message pc statuses hreq hpc hrefused =>
      rw [List.countP_eq_zero.mpr (by simpa using hrefused)]
      exact Nat.zero_le 1
  | answered message entries statuses hreq honce hstatuses => exact hstatuses

variable (crates) in
/-- The client's requests have distinct IDs. -/
def DistinctIds (lines : List Value) : Prop :=
  ∀ (m n : ℕ) (message message' id id' : Value), m ≠ n →
    lines[m]? = some message → (method message).isSome = true → message.get "id" = some id →
    lines[n]? = some message' → (method message').isSome = true → message'.get "id" = some id' →
    crates.same id id' = false

variable (crates) in
/-- The entry is an answer to the request with this ID on this line. What endpoints
say in reply to other requests is not the bridge's own, and a line that cannot be
parsed is answered without an ID. -/
def Entry.answers (n : ℕ) (id : Value) (e : Entry) : Bool :=
  e.carries crates id && match e.origin with
    | .unparsed => false
    | .relayed m => m == n
    | .own _ => true

namespace Bridge

/-- The message on a line has been dealt with. -/
def handled (b : Bridge) (n : ℕ) : Bool :=
  match b.requests n with
  | some ⟨_, .finished⟩ => true
  | some _ => false
  | none => true

/-- How many steps a request's task can still take. -/
def rank (b : Bridge) (n : ℕ) : ℕ := (b.record n).rank

theorem rank_eq_zero_iff (b : Bridge) (n : ℕ) : b.rank n = 0 ↔ b.handled n = true := by
  simp only [rank, Record.rank, record, handled]
  cases b.requests n with
  | none => simp
  | some request =>
      obtain ⟨message, pc⟩ := request
      cases pc <;> simp [RequestPc.rank]

theorem rank_le (b : Bridge) (n : ℕ) : b.rank n ≤ 9 := by
  simp only [rank, Record.rank, record]
  cases b.requests n with
  | none => simp
  | some request => exact request.pc.rank_le

theorem exists_step_of_rank_pos {b : Bridge} {n : ℕ} (h : 0 < b.rank n) :
    ∃ act, act.task = some n ∧ (b.step crates act).isSome = true := by
  let nowhere : Attempt := ⟨⟨fun _ => none, none⟩, .unconnected⟩
  simp only [rank, Record.rank, record] at h
  cases hrequest : b.requests n with
  | none => simp [hrequest] at h
  | some request =>
      obtain ⟨message, pc⟩ := request
      cases pc with
      | looking attempt => exact ⟨.look n (nowhere, nowhere), rfl, by simp [step, hrequest]⟩
      | posting attempt snapshot => exact ⟨.post n, rfl, by simp [step, hrequest]⟩
      | awaiting attempt snapshot =>
          exact ⟨.outcome n .unconnected, rfl, by simp [step, hrequest]⟩
      | refused attempt generation =>
          exact ⟨.reconnect n (nowhere, nowhere), rfl, by simp [step, hrequest]⟩
      | offline => exact ⟨.giveUp n, rfl, by simp [step, hrequest]⟩
      | finished => simp [hrequest, RequestPc.rank] at h

theorem sound_of_run (hsame : ∀ v, crates.same v v = true) {resolver : Resolver}
    {acts : List Act} {b : Bridge} (hrun : (machine crates).run (new resolver) acts = some b)
    (hsingle : (machine crates).Meets (SingleReply crates) (new resolver) acts) (n : ℕ) :
    (b.record n).Sound crates := by
  have hstep : (machine crates).Preserves (SingleReply crates)
      fun b => (b.record n).Sound crates := by
    intro u act v hu hsingle hs
    rcases advance_step hsame hs hsingle n with ⟨-, hrecord⟩ | hadvance
    · rwa [hrecord]
    · exact hadvance.sound hu
  exact (machine crates).run_invariant hstep .fresh hsingle hrun

/-- The steps a request's task takes in a run are paid for from its rank. -/
theorem steps_add_rank_le (hsame : ∀ v, crates.same v v = true) {b b' : Bridge}
    {acts : List Act} {n : ℕ} {message : Value} (hline : (b.record n).message = some message)
    (hsingle : (machine crates).Meets (SingleReply crates) b acts)
    (hrun : (machine crates).run b acts = some b') :
    acts.countP (fun act => act.task = some n) + b'.rank n ≤ b.rank n := by
  induction acts generalizing b with
  | nil =>
      cases hrun
      simp
  | cons act acts ih =>
      obtain ⟨u, hu, hrun⟩ := ((machine crates).run_cons_eq_some_iff b b' act acts).mp hrun
      rcases advance_step hsame hu hsingle.1 n with ⟨htask, hrecord⟩ | hadvance
      · have hrest := ih (hrecord ▸ hline) (hsingle.2 u hu) hrun
        have hrank : u.rank n = b.rank n := congrArg Record.rank hrecord
        rw [List.countP_cons_of_neg (by simpa using htask)]
        omega
      · have hrest := ih (hadvance.message_eq hline) (hsingle.2 u hu) hrun
        have hrank : u.rank n < b.rank n := hadvance.rank_lt hline
        rw [List.countP_cons]
        split <;> omega

/-- With distinct IDs, the answers to a request are those written for its line. -/
theorem countP_answers {b : Bridge} (hsound : ∀ m, (b.record m).Sound crates)
    (hdistinct : DistinctIds crates b.lines) {n : ℕ} {message id : Value}
    (hline : b.lines[n]? = some message) (hmethod : (method message).isSome = true)
    (hid : message.get "id" = some id) :
    b.out.countP (Entry.answers crates n id) = (b.written n).countP (Entry.carries crates id) := by
  rw [written, List.countP_filter]
  apply List.countP_congr
  rintro ⟨origin, v⟩ he
  cases origin with
  | unparsed => simp [Entry.answers, Origin.line]
  | relayed m => simp [Entry.answers, Origin.line]
  | own m =>
      by_cases hm : m = n
      · simp [Entry.answers, Origin.line, hm]
      · have hwritten : (⟨.own m, v⟩ : Entry) ∈ b.written m :=
          List.mem_filter.mpr ⟨he, by simp [Origin.line]⟩
        obtain ⟨message', id', hline', hmethod', hid', hv⟩ := (hsound m).own_id hwritten rfl
        have hne : crates.same id' id = false :=
          hdistinct m n message' message id' id hm hline' hmethod' hid' hline hmethod hid
        have hcarries : carries crates id v = false := by simp [carries, hv, hne]
        simp [Entry.answers, Entry.carries, hcarries]

/-- A request is refused, and answered the second time. Another one is read meanwhile. -/
def retried : List Act :=
  [.line (requestOf 1 "tools/call") (replying .unconnected), .look 0 (replying .unconnected),
    .post 0, .outcome 0 .unconnected,
    .line (requestOf 2 "tools/call") (replying .unconnected),
    .reconnect 0 (replying .unconnected), .look 0 (replying .unconnected), .post 0,
    .outcome 0 (.response 200 none
      [.object [("jsonrpc", .string "2.0"), ("id", .number (.posInt 1)), ("result", .null)]] none)]

/-- Over every run of the bridge, with whatever replies, reconnects and other requests
in between: a request that has been dealt with was answered exactly once. One that has
not was not answered yet; its task can always take its next step, and needs at most nine.
Of the POSTs of a request other than `initialize`, at most one was not refused. -/
theorem answered_exactly_once (crates : Crates) (hsame : ∀ v, crates.same v v = true)
    (resolver : Resolver) (acts : List Act) {b : Bridge}
    (hrun : (machine crates).run (new resolver) acts = some b)
    (hsingle : (machine crates).Meets (SingleReply crates) (new resolver) acts)
    (hdistinct : DistinctIds crates b.lines) (n : ℕ) (message id : Value)
    (hline : b.lines[n]? = some message) (hmethod : (method message).isSome = true)
    (hid : message.get "id" = some id) :
    (b.handled n = true → b.out.countP (Entry.answers crates n id) = 1) ∧
    (isInitialize message = true → b.handled n = true) ∧
    (b.handled n = false →
      b.out.countP (Entry.answers crates n id) = 0 ∧
      (∃ act, act.task = some n ∧ (b.step crates act).isSome = true) ∧
      ∀ acts' b', (machine crates).Meets (SingleReply crates) b acts' →
        (machine crates).run b acts' = some b' →
        9 ≤ acts'.countP (fun act => act.task = some n) → b'.handled n = true) ∧
    (isInitialize message = false → (b.statuses n).countP (· ≠ .refused) ≤ 1) := by
  have hsound := fun m => sound_of_run hsame hrun hsingle m
  rw [countP_answers hsound hdistinct hline hmethod hid]
  refine ⟨?_, ?_, ?_, fun _ => (hsound n).settled_le⟩
  · intro hhandled
    exact ((hsound n).answersOnce hline hmethod hid ((b.rank_eq_zero_iff n).mpr hhandled)).one
  · intro hinit
    exact (b.rank_eq_zero_iff n).mp ((hsound n).rank_of_isInitialize hline hinit)
  · intro hhandled
    have hrank : 0 < b.rank n := by
      rw [Nat.pos_iff_ne_zero, ne_eq, rank_eq_zero_iff, hhandled]
      simp
    refine ⟨?_, exists_step_of_rank_pos hrank, ?_⟩
    · have hwritten : b.written n = [] := (hsound n).written_of_rank_pos hrank
      rw [hwritten, List.countP_nil]
    · intro acts' b' hsingle' hrun' hsteps
      have hpaid := steps_add_rank_le hsame hline hsingle' hrun'
      have hle := b.rank_le n
      rw [← rank_eq_zero_iff]
      omega

theorem answered_exactly_once_retried :
    ∃ b : Bridge, (machine scalarCrates).run (new home) retried = some b ∧
      b.handled 0 = true ∧ b.handled 1 = false ∧ b.statuses 0 = [.refused, .done] ∧
      b.out.countP (Entry.answers scalarCrates 0 (.number (.posInt 1))) = 1 := by
  have hsame : ∀ v, scalarCrates.same v v = true := by
    intro v
    cases v <;> simp [scalarCrates]
  have hsingle : (machine scalarCrates).Meets (SingleReply scalarCrates) (new home) retried := by
    apply Machine.meets_of_forall
    have hcall : ∀ id, isInitialize (requestOf id "tools/call") = false := fun id => rfl
    have hone : ∀ message v, (Reply.response 200 none [v] none).single scalarCrates message =
        true := by
      intro message v
      cases hid : message.get "id" with
      | none => simp [Reply.single, hid]
      | some id =>
          have hle : [v].countP (carries scalarCrates id) ≤ 1 := List.countP_le_length
          simpa [Reply.single, hid] using hle
    have hnone : ∀ message, Reply.unconnected.single scalarCrates message = true :=
      fun message => rfl
    simp [retried, SingleReply, hcall, hone, hnone]
  have hdistinct : DistinctIds scalarCrates
      [requestOf 1 "tools/call", requestOf 2 "tools/call"] := by
    have hlines : ∀ (k : ℕ) v, [requestOf 1 "tools/call", requestOf 2 "tools/call"][k]? = some v →
        k = 0 ∧ v = requestOf 1 "tools/call" ∨ k = 1 ∧ v = requestOf 2 "tools/call" := by
      intro k v hk
      rcases k with _ | _ | k
      · exact .inl ⟨rfl, (Option.some.inj hk).symm⟩
      · exact .inr ⟨rfl, (Option.some.inj hk).symm⟩
      · cases hk
    intro m n message message' id id' hmn hm _ hid hn _ hid'
    rcases hlines m message hm with ⟨rfl, rfl⟩ | ⟨rfl, rfl⟩
    · rcases hlines n message' hn with ⟨rfl, rfl⟩ | ⟨rfl, rfl⟩
      · exact absurd rfl hmn
      · cases hid
        cases hid'
        rfl
    · rcases hlines n message' hn with ⟨rfl, rfl⟩ | ⟨rfl, rfl⟩
      · cases hid
        cases hid'
        rfl
      · exact absurd rfl hmn
  exact ⟨_, rfl, rfl, rfl, by decide,
    (answered_exactly_once scalarCrates hsame home retried rfl hsingle hdistinct 0
      (requestOf 1 "tools/call") (.number (.posInt 1)) rfl rfl rfl).1 rfl⟩

end Bridge

end StdioBridge

end Kallichore
