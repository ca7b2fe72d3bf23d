import Kallichore.StdioBridge.View

/-!
# The handshake comes first on every connection

The client's `initialize` is the first message on every connection that is adopted once
it is recorded, and `notifications/initialized` goes before every request that the client
sent after it. The client's own `notifications/initialized` counts only when it follows
the `initialize`, which starts the handshake anew: the bridge does not replay an earlier
one.
-/

namespace Kallichore

namespace StdioBridge

/-- A line of the client's is of this kind. -/
def IsLine (kind : Value → Bool) (lines : List Value) (k : ℕ) : Prop :=
  ∃ message, lines[k]? = some message ∧ kind message = true

/-- The client sent the line after a `notifications/initialized`. -/
def SentAfterInitialized (lines : List Value) (n : ℕ) : Prop :=
  ∃ k, k < n ∧ IsLine isInitialized lines k

/-- The client sent the line after a `notifications/initialized` that followed its
`initialize`. -/
def SentAfterHandshake (lines : List Value) (n : ℕ) : Prop :=
  ∃ j k, j < k ∧ k < n ∧ IsLine isInitialize lines j ∧ IsLine isInitialized lines k

/-- A `notifications/initialized` was posted on the connection. -/
def Greeted (c : ℕ) (events : List Event) : Prop :=
  ∃ message ∈ messagesOn c events, isInitialized message = true

/-- The client's `initialize` is the first message on every connection adopted with a
handshake. -/
def InitializesFirst (b : Bridge) : Prop :=
  ∀ c, .adopted c true ∈ b.events →
    ∃ message rest, messagesOn c b.events = message :: rest ∧
      message ∈ b.lines ∧ isInitialize message = true

/-- On such a connection no request that was sent after the greeting is posted before
one. -/
def GreetsFirst (sentAfter : List Value → ℕ → Prop) (b : Bridge) : Prop :=
  ∀ c es n message rest, .adopted c true ∈ b.events →
    b.events = es ++ .posted (some n) (some c) message :: rest → sentAfter b.lines n →
    Greeted c es

theorem isLine_append {kind : Value → Bool} {lines more : List Value} {k : ℕ}
    (hk : k < lines.length) : IsLine kind (lines ++ more) k ↔ IsLine kind lines k := by
  rw [IsLine, IsLine, List.getElem?_append_left hk]

theorem isLine_last {kind : Value → Bool} {lines : List Value} {message : Value} :
    IsLine kind (lines ++ [message]) lines.length ↔ kind message = true := by
  simp [IsLine]

theorem IsLine.exists_mem {kind : Value → Bool} {lines : List Value} {k : ℕ}
    (h : IsLine kind lines k) : ∃ message ∈ lines, kind message = true := by
  obtain ⟨message, hget, hkind⟩ := h
  exact ⟨message, List.mem_of_getElem? hget, hkind⟩

theorem sentAfterHandshake_append {lines more : List Value} {n : ℕ} (hn : n ≤ lines.length) :
    SentAfterHandshake (lines ++ more) n ↔ SentAfterHandshake lines n := by
  constructor
  · rintro ⟨j, k, hjk, hkn, hj, hk⟩
    exact ⟨j, k, hjk, hkn, (isLine_append (by omega)).mp hj, (isLine_append (by omega)).mp hk⟩
  · rintro ⟨j, k, hjk, hkn, hj, hk⟩
    exact ⟨j, k, hjk, hkn, (isLine_append (by omega)).mpr hj, (isLine_append (by omega)).mpr hk⟩

theorem SentAfterHandshake.mono {lines : List Value} {m n : ℕ} (hmn : m ≤ n)
    (h : SentAfterHandshake lines m) : SentAfterHandshake lines n := by
  obtain ⟨j, k, hjk, hkm, hj, hk⟩ := h
  exact ⟨j, k, hjk, hkm.trans_le hmn, hj, hk⟩

/-- A handshake that is complete with a further line was complete without it, or is
completed by it. -/
theorem sentAfterHandshake_last {lines : List Value} {message : Value}
    (h : SentAfterHandshake (lines ++ [message]) (lines.length + 1)) :
    SentAfterHandshake lines lines.length ∨
      (∃ m ∈ lines, isInitialize m = true) ∧ isInitialized message = true := by
  obtain ⟨j, k, hjk, hk, hinit, hnote⟩ := h
  have hj : IsLine isInitialize lines j := (isLine_append (by omega)).mp hinit
  by_cases hlast : k = lines.length
  · rw [hlast, isLine_last] at hnote
    exact .inr ⟨hj.exists_mem, hnote⟩
  · exact .inl ⟨j, k, hjk, by omega, hj, (isLine_append (by omega)).mp hnote⟩

theorem messagesOn_append (c : ℕ) (es fs : List Event) :
    messagesOn c (es ++ fs) = messagesOn c es ++ messagesOn c fs := List.filterMap_append

theorem messagesOn_eq_nil {c : ℕ} {events : List Event}
    (h : ∀ e ∈ events, e.connection ≠ some c) : messagesOn c events = [] := by
  rw [messagesOn, List.filterMap_eq_nil_iff]
  intro e he
  cases e with
  | posted request connection message => exact if_neg (h _ he)
  | adopted connection recorded => rfl

theorem messagesOn_handshakeEvents (c : ℕ) (message : Value) (initialized : Bool) :
    messagesOn c (handshakeEvents c message initialized) =
      message :: if initialized then [initializedNotification] else [] := by
  cases initialized <;> simp [messagesOn, handshakeEvents]

/-- The events of a handshake are on the new connection, and no request's. -/
theorem connection_of_handshake {c : ℕ} {message : Value} {initialized : Bool} {e : Event}
    (he : e ∈ handshakeEvents c message initialized) :
    e.connection = some c ∧ ∀ n c' m, e ≠ .posted (some n) c' m := by
  cases initialized with
  | false =>
      simp only [handshakeEvents, Bool.false_eq_true, if_false, List.append_nil, List.cons_append,
        List.nil_append, List.mem_cons, List.not_mem_nil, or_false] at he
      rcases he with rfl | rfl
      · simp [Event.connection]
      · simp [Event.connection]
  | true =>
      simp only [handshakeEvents, if_true, List.cons_append, List.nil_append, List.mem_cons,
        List.not_mem_nil, or_false] at he
      rcases he with rfl | rfl | rfl
      · simp [Event.connection]
      · simp [Event.connection]
      · simp [Event.connection]

theorem Greeted.append {c : ℕ} {es : List Event} (h : Greeted c es) (fs : List Event) :
    Greeted c (es ++ fs) := by
  obtain ⟨message, hmem, hmessage⟩ := h
  refine ⟨message, ?_, hmessage⟩
  rw [messagesOn_append]
  exact List.mem_append_left _ hmem

/-- Lines and connections are numbered from the first one on. -/
structure Numbered (v : View) : Prop where
  task : ∀ n, (v.tasks n).isSome = true → n < v.lines.length
  taken : ∀ n c, v.tasks n = some (some c) → c ≤ v.generation
  event : ∀ e ∈ v.events, ∀ c, e.connection = some c → c ≤ v.generation
  sent : ∀ n c message, .posted (some n) c message ∈ v.events → n < v.lines.length

theorem isSome_of_update {tasks : ℕ → Option (Option ℕ)} {m n : ℕ} {connection : Option ℕ}
    (hm : (tasks m).isSome = true)
    (hn : (Function.update tasks m (some connection) n).isSome = true) :
    (tasks n).isSome = true := by
  by_cases h : n = m
  · rw [h]
    exact hm
  · rwa [Function.update_of_ne h] at hn

theorem Numbered.extend {v w : View} (hv : Numbered v) (htasks : w.tasks = v.tasks)
    (hgeneration : v.generation ≤ w.generation) (hlines : v.lines.length ≤ w.lines.length)
    (fresh : List Event) (hevents : w.events = v.events ++ fresh)
    (hfresh : ∀ e ∈ fresh, (∀ c, e.connection = some c → c ≤ w.generation) ∧
      ∀ n c message, e ≠ .posted (some n) c message) : Numbered w where
  task := fun n hn => (hv.task n (htasks ▸ hn)).trans_le hlines
  taken := fun n c hn => (hv.taken n c (htasks ▸ hn)).trans hgeneration
  event := by
    intro e he c hc
    rw [hevents] at he
    rcases List.mem_append.mp he with he | he
    · exact (hv.event e he c hc).trans hgeneration
    · exact (hfresh e he).1 c hc
  sent := by
    intro n c message hmem
    rw [hevents] at hmem
    rcases List.mem_append.mp hmem with hmem | hmem
    · exact (hv.sent n c message hmem).trans_le hlines
    · exact absurd rfl ((hfresh _ hmem).2 n c message)

theorem numbered_of_move {v w : View} (h : Move v w) (hv : Numbered v) : Numbered w := by
  cases h with
  | lost events hevents =>
      refine hv.extend rfl le_rfl le_rfl events rfl (fun e he => ?_)
      obtain ⟨message, rfl⟩ := hevents e he
      simp [Event.connection]
  | adopted hhandshake =>
      refine hv.extend rfl (Nat.le_succ _) le_rfl _ rfl (fun e he => ?_)
      rw [List.mem_singleton.mp he]
      simp [Event.connection]
  | shaken message events hhandshake hevents =>
      refine hv.extend rfl (Nat.le_succ _) le_rfl _ (List.append_assoc _ _ _) (fun e he => ?_)
      rcases List.mem_append.mp he with he | he
      · obtain ⟨message, rfl⟩ := hevents e he
        simp [Event.connection]
      · obtain ⟨hconnection, hrequest⟩ := connection_of_handshake he
        refine ⟨fun c hc => ?_, hrequest⟩
        cases hconnection.symm.trans hc
        exact le_rfl
  | recorded message hmessage =>
      exact hv.extend rfl le_rfl (by simp) [] (List.append_nil _).symm (by simp)
  | request message hmessage =>
      refine ⟨fun n hn => ?_, fun n c hn => ?_, hv.event, fun n c m hmem => ?_⟩
      · rw [List.length_append]
        by_cases h : n = v.lines.length
        · rw [h]
          simp
        · have hold : (v.tasks n).isSome = true := by simpa [Function.update_of_ne h] using hn
          exact (hv.task n hold).trans_le (Nat.le_add_right _ _)
      · by_cases h : n = v.lines.length
        · simp [h] at hn
        · exact hv.taken n c (by simpa [Function.update_of_ne h] using hn)
      · rw [List.length_append]
        exact (hv.sent n c m hmem).trans_le (Nat.le_add_right _ _)
  | notified message hmessage =>
      refine hv.extend rfl le_rfl (by simp) _ rfl (fun e he => ?_)
      cases hup : v.upstream with
      | false => simp [hup] at he
      | true =>
          simp only [hup, if_true, List.mem_singleton] at he
          rw [he]
          simp [Event.connection]
  | taken n hupstream hn =>
      refine ⟨fun k hk => hv.task k (isSome_of_update hn hk), fun k c hk => ?_, hv.event, hv.sent⟩
      by_cases h : k = n
      · simp only [h, Function.update_self, Option.some.injEq] at hk
        exact hk.symm.le
      · exact hv.taken k c (by simpa [Function.update_of_ne h] using hk)
  | posted n c message hn =>
      refine ⟨hv.task, hv.taken, fun e he c' hc' => ?_, fun k c' m hmem => ?_⟩
      · rcases List.mem_append.mp he with he | he
        · exact hv.event e he c' hc'
        · rw [List.mem_singleton.mp he] at hc'
          cases hc'
          exact hv.taken n c hn
      · rcases List.mem_append.mp hmem with hmem | hmem
        · exact hv.sent k c' m hmem
        · cases List.mem_singleton.mp hmem
          exact hv.task n (by simp [hn])
  | released n hn =>
      refine ⟨fun k hk => hv.task k (isSome_of_update hn hk), fun k c hk => ?_, hv.event, hv.sent⟩
      by_cases h : k = n
      · simp [h] at hk
      · exact hv.taken k c (by simpa [Function.update_of_ne h] using hk)

/-- Every connection that is adopted with a handshake begins with it. -/
structure Begun (v : View) : Prop where
  handshake : ∀ message, v.handshake = some message →
    message ∈ v.lines ∧ isInitialize message = true
  recorded : ∀ message ∈ v.lines, isInitialize message = true → v.handshake.isSome = true
  first : ∀ c, .adopted c true ∈ v.events → ∃ message rest,
    messagesOn c v.events = message :: rest ∧ message ∈ v.lines ∧ isInitialize message = true

theorem Begun.first_append {v : View} (hv : Begun v) (lines : List Value) (fresh : List Event)
    (hfresh : ∀ c, .adopted c true ∉ fresh) (c : ℕ)
    (hc : .adopted c true ∈ v.events ++ fresh) : ∃ message rest,
      messagesOn c (v.events ++ fresh) = message :: rest ∧ message ∈ v.lines ++ lines ∧
        isInitialize message = true := by
  have hold := (List.mem_append.mp hc).resolve_right (hfresh c)
  obtain ⟨message, rest, hfirst, hmem, hmessage⟩ := hv.first c hold
  refine ⟨message, rest ++ messagesOn c fresh, ?_, List.mem_append_left lines hmem, hmessage⟩
  rw [messagesOn_append, hfirst, List.cons_append]

theorem messagesOn_next {v : View} (hv : Numbered v) {fresh : List Event}
    (hfresh : ∀ e ∈ fresh, ∃ message, e = .posted none none message) :
    messagesOn (v.generation + 1) (v.events ++ fresh) = [] := by
  apply messagesOn_eq_nil
  intro e he hc
  rcases List.mem_append.mp he with he | he
  · exact absurd (hv.event e he _ hc) (Nat.not_succ_le_self _)
  · obtain ⟨message, rfl⟩ := hfresh e he
    cases hc

theorem begun_of_move {v w : View} (h : Move v w) (hn : Numbered v) (hv : Begun v) :
    Begun w := by
  cases h with
  | lost events hevents =>
      refine ⟨hv.handshake, hv.recorded, fun c hc => ?_⟩
      have hfresh : ∀ c, .adopted c true ∉ events := by
        intro c hmem
        obtain ⟨message, heq⟩ := hevents _ hmem
        cases heq
      simpa using hv.first_append [] events hfresh c hc
  | adopted hhandshake =>
      refine ⟨hv.handshake, hv.recorded, fun c hc => ?_⟩
      simpa using hv.first_append [] [.adopted (v.generation + 1) false] (by simp) c hc
  | shaken message events hhandshake hevents =>
      refine ⟨hv.handshake, hv.recorded, fun c hc => ?_⟩
      obtain ⟨hmem, hmessage⟩ := hv.handshake message hhandshake
      by_cases hold : .adopted c true ∈ v.events
      · obtain ⟨first, rest, hfirst, hlines, hinit⟩ := hv.first c hold
        simp only [List.append_assoc]
        rw [messagesOn_append, hfirst]
        exact ⟨first, _, List.cons_append, hlines, hinit⟩
      · have hcurrent : c = v.generation + 1 := by
          rw [List.append_assoc] at hc
          have hfresh := (List.mem_append.mp hc).resolve_left hold
          rcases List.mem_append.mp hfresh with hmem | hmem
          · obtain ⟨m, heq⟩ := hevents _ hmem
            cases heq
          · exact Option.some.inj (connection_of_handshake hmem).1
        subst hcurrent
        rw [messagesOn_append, messagesOn_next hn hevents, List.nil_append,
          messagesOn_handshakeEvents]
        exact ⟨message, _, rfl, hmem, hmessage⟩
  | recorded message hmessage =>
      refine ⟨?_, ?_, ?_⟩
      · intro m hm
        cases hm
        exact ⟨by simp, hmessage⟩
      · intro m _ _
        rfl
      · simpa using hv.first_append [message] [] (by simp)
  | request message hmessage =>
      refine ⟨?_, ?_, ?_⟩
      · intro m hm
        exact ⟨List.mem_append_left _ (hv.handshake m hm).1, (hv.handshake m hm).2⟩
      · intro m hm hinit
        rcases List.mem_append.mp hm with hm | hm
        · exact hv.recorded m hm hinit
        · rw [List.mem_singleton.mp hm] at hinit
          simp [isRequest, hinit] at hmessage
      · simpa using hv.first_append [message] [] (by simp)
  | notified message hmessage =>
      refine ⟨?_, ?_, ?_⟩
      · intro m hm
        exact ⟨List.mem_append_left _ (hv.handshake m hm).1, (hv.handshake m hm).2⟩
      · intro m hm hinit
        rcases List.mem_append.mp hm with hm | hm
        · exact hv.recorded m hm hinit
        · rw [List.mem_singleton.mp hm] at hinit
          cases hinit.symm.trans hmessage.1
      · apply hv.first_append [message]
        intro c
        cases v.upstream <;> simp
  | taken n hupstream hn => exact ⟨hv.handshake, hv.recorded, hv.first⟩
  | posted n c message hn =>
      refine ⟨hv.handshake, hv.recorded, ?_⟩
      simpa using hv.first_append [] [.posted (some n) (some c) message] (by simp)
  | released n hn => exact ⟨hv.handshake, hv.recorded, hv.first⟩

/-- A request that comes after the handshake is posted where the greeting was. -/
structure Greets (v : View) : Prop where
  complete : v.lines.countP isInitialize ≤ 1 → SentAfterHandshake v.lines v.lines.length →
    v.initialized = true
  current : v.handshake.isSome = true → v.initialized = true → v.upstream = true →
    Greeted v.generation v.events
  task : v.lines.countP isInitialize ≤ 1 → ∀ n c, v.tasks n = some (some c) →
    SentAfterHandshake v.lines n → Greeted c v.events
  sent : v.lines.countP isInitialize ≤ 1 → ∀ es n c message rest,
    v.events = es ++ .posted (some n) (some c) message :: rest →
    SentAfterHandshake v.lines n → Greeted c es

theorem split_of_append {α : Type*} {old fresh es rest : List α} {e : α}
    (h : old ++ fresh = es ++ e :: rest) (he : e ∉ fresh) : ∃ rest', old = es ++ e :: rest' := by
  rcases List.append_eq_append_iff.mp h with ⟨as, -, hfresh⟩ | ⟨bs, hold, hrest⟩
  · exact absurd (hfresh ▸ by simp) he
  · cases bs with
    | nil =>
        rw [List.nil_append] at hrest
        exact absurd (hrest ▸ List.mem_cons_self) he
    | cons b bs =>
        obtain ⟨rfl, -⟩ := List.cons.inj hrest
        exact ⟨bs, hold⟩

/-- Further lines and events of no request keep what the tasks and their posts are
about. -/
theorem Greets.extend {v w : View} (hv : Greets v) (hn : Numbered v)
    (htasks : ∀ n c, w.tasks n = some (some c) → v.tasks n = some (some c))
    (lines : List Value) (hlines : w.lines = v.lines ++ lines)
    (fresh : List Event) (hevents : w.events = v.events ++ fresh)
    (hfresh : ∀ e ∈ fresh, ∀ n c message, e ≠ .posted (some n) c message)
    (hcomplete : w.lines.countP isInitialize ≤ 1 → SentAfterHandshake w.lines w.lines.length →
      w.initialized = true)
    (hcurrent : w.handshake.isSome = true → w.initialized = true → w.upstream = true →
      Greeted w.generation w.events) : Greets w := by
  have hone : w.lines.countP isInitialize ≤ 1 → v.lines.countP isInitialize ≤ 1 := by
    rw [hlines, List.countP_append]
    omega
  refine ⟨hcomplete, hcurrent, fun hw n c hc hsent => ?_, fun hw es n c message rest h hsent => ?_⟩
  · have hlt : n < v.lines.length := hn.task n (by simp [htasks n c hc])
    rw [hlines, sentAfterHandshake_append hlt.le] at hsent
    rw [hevents]
    exact (hv.task (hone hw) n c (htasks n c hc) hsent).append fresh
  · rw [hevents] at h
    obtain ⟨rest', hold⟩ := split_of_append h fun hmem => hfresh _ hmem n _ message rfl
    have hlt : n < v.lines.length := hn.sent n (some c) message (by simp [hold])
    rw [hlines, sentAfterHandshake_append hlt.le] at hsent
    exact hv.sent (hone hw) es n c message rest' hold hsent

variable {v : View}

/-- A handshake says what was recorded, the notification at its end among it. -/
theorem Greets.of_shaken (hv : Greets v) (hn : Numbered v) {message : Value}
    {events : List Event} (hevents : ∀ e ∈ events, ∃ message, e = .posted none none message) :
    Greets { v with
      upstream := true
      generation := v.generation + 1
      events := v.events ++ events ++
        handshakeEvents (v.generation + 1) message v.initialized } := by
  refine hv.extend hn (fun _ _ h => h) [] (List.append_nil _).symm _
    (List.append_assoc _ _ _) ?_ hv.complete ?_
  · intro e he n c m heq
    rcases List.mem_append.mp he with he | he
    · obtain ⟨message, rfl⟩ := hevents e he
      cases heq
    · exact (connection_of_handshake he).2 n c m heq
  · intro _ hinit _
    refine ⟨initializedNotification, ?_, rfl⟩
    have hinit : v.initialized = true := hinit
    rw [messagesOn_append, messagesOn_handshakeEvents, hinit]
    simp

theorem Greets.of_recorded (hv : Greets v) (hn : Numbered v) {message : Value}
    (hmessage : isInitialize message = true) :
    Greets { v with
      lines := v.lines ++ [message]
      handshake := some message
      initialized := false } := by
  refine hv.extend hn (fun _ _ h => h) [message] rfl [] (List.append_nil _).symm (by simp) ?_ ?_
  · intro hone hsent
    exfalso
    have hold : ∃ m ∈ v.lines, isInitialize m = true := by
      rw [List.length_append] at hsent
      rcases sentAfterHandshake_last hsent with ⟨j, k, -, -, hj, -⟩ | ⟨hmem, -⟩
      · exact hj.exists_mem
      · exact hmem
    have hpos : 0 < v.lines.countP isInitialize := List.countP_pos_iff.mpr hold
    simp only [List.countP_append, List.countP_cons_of_pos hmessage] at hone
    omega
  · intro _ hinit
    cases hinit

theorem Greets.of_request (hv : Greets v) (hn : Numbered v) {message : Value}
    (hmessage : isRequest message = true) :
    Greets { v with
      lines := v.lines ++ [message]
      tasks := Function.update v.tasks v.lines.length (some none) } := by
  refine hv.extend hn (fun n c hc => ?_) [message] rfl [] (List.append_nil _).symm (by simp) ?_
    hv.current
  · by_cases h : n = v.lines.length
    · simp [h] at hc
    · simpa [Function.update_of_ne h] using hc
  · intro hone hsent
    rw [List.length_append] at hsent
    rcases sentAfterHandshake_last hsent with hold | ⟨-, hlast⟩
    · apply hv.complete _ hold
      rw [List.countP_append] at hone
      omega
    · simp only [isRequest, isInitialized, Bool.and_eq_true] at hmessage hlast
      simp [Option.isSome_iff_ne_none.mp hmessage.1.2] at hlast

/-- The notification that ends a handshake goes to the endpoint there is. -/
theorem Greets.of_notified (hv : Greets v) (hn : Numbered v) {message : Value}
    (hmessage : isInitialize message = false ∧ isRequest message = false) :
    Greets { v with
      lines := v.lines ++ [message]
      initialized := v.initialized || method message == some "notifications/initialized"
      events := v.events ++
        (if v.upstream then [.posted none (some v.generation) message] else []) } := by
  have hgreets : method message = some "notifications/initialized" →
      isInitialized message = true := by
    intro hmethod
    simpa [isInitialized, isRequest, hmethod, hmessage.1] using hmessage.2
  refine hv.extend hn (fun _ _ h => h) [message] rfl _ rfl ?_ ?_ ?_
  · cases v.upstream <;> simp
  · intro hone hsent
    rw [List.length_append] at hsent
    rcases sentAfterHandshake_last hsent with hold | ⟨-, hlast⟩
    · rw [List.countP_append] at hone
      simp [hv.complete (by omega) hold]
    · simp only [isInitialized, Bool.and_eq_true] at hlast
      simp [hlast.1]
  · intro hsome hinit hup
    have hup : v.upstream = true := hup
    cases hold : v.initialized with
    | true => exact (hv.current hsome hold hup).append _
    | false =>
        have hmethod : method message = some "notifications/initialized" := by
          simpa [hold] using hinit
        refine ⟨message, ?_, hgreets hmethod⟩
        rw [hup, messagesOn_append]
        simp [messagesOn]

theorem Greets.of_taken (hv : Greets v) (hn : Numbered v) (hb : Begun v) {n : ℕ}
    (hupstream : v.upstream = true) (htask : (v.tasks n).isSome = true) :
    Greets { v with tasks := Function.update v.tasks n (some (some v.generation)) } := by
  refine ⟨hv.complete, hv.current, fun hone k c hk hsent => ?_, hv.sent⟩
  by_cases h : k = n
  · subst h
    simp only [Function.update_self, Option.some.injEq] at hk
    subst hk
    obtain ⟨j, i, -, -, hj, -⟩ := id hsent
    obtain ⟨message, hmem, hmessage⟩ := hj.exists_mem
    have hcomplete := hv.complete hone (hsent.mono (hn.task k htask).le)
    exact hv.current (hb.recorded message hmem hmessage) hcomplete hupstream
  · exact hv.task hone k c (by simpa [Function.update_of_ne h] using hk) hsent

theorem Greets.of_posted (hv : Greets v) {n c : ℕ} {message : Value}
    (htask : v.tasks n = some (some c)) :
    Greets { v with events := v.events ++ [.posted (some n) (some c) message] } := by
  refine ⟨hv.complete, fun hsome hinit hup => (hv.current hsome hinit hup).append _,
    fun hone k c' hk hsent => (hv.task hone k c' hk hsent).append _,
    fun hone es k c' m rest h hsent => ?_⟩
  rcases List.eq_nil_or_concat rest with rfl | ⟨before, last, rfl⟩
  · obtain ⟨rfl, heq⟩ := List.append_inj' h rfl
    cases heq
    exact hv.task hone n c htask hsent
  · rw [List.concat_eq_append, ← List.cons_append, ← List.append_assoc] at h
    obtain ⟨hold, -⟩ := List.append_inj' h rfl
    exact hv.sent hone es k c' m before hold hsent

theorem greets_of_move {v w : View} (h : Move v w) (hn : Numbered v) (hb : Begun v)
    (hv : Greets v) : Greets w := by
  cases h with
  | lost events hevents =>
      refine hv.extend hn (fun _ _ h => h) [] (List.append_nil _).symm events rfl ?_ hv.complete ?_
      · intro e he n c m heq
        obtain ⟨message, rfl⟩ := hevents e he
        cases heq
      · intro _ _ hup
        cases hup
  | adopted hhandshake =>
      refine hv.extend hn (fun _ _ h => h) [] (List.append_nil _).symm _ rfl (by simp)
        hv.complete ?_
      intro hsome
      simp [hhandshake] at hsome
  | shaken message events hhandshake hevents => exact hv.of_shaken hn hevents
  | recorded message hmessage => exact hv.of_recorded hn hmessage
  | request message hmessage => exact hv.of_request hn hmessage
  | notified message hmessage => exact hv.of_notified hn hmessage
  | taken n hupstream htask => exact hv.of_taken hn hb hupstream htask
  | posted n c message htask => exact hv.of_posted htask
  | released n htask =>
      refine ⟨hv.complete, hv.current, fun hone k c hk hsent => ?_, hv.sent⟩
      by_cases h : k = n
      · simp [h] at hk
      · exact hv.task hone k c (by simpa [Function.update_of_ne h] using hk) hsent

theorem view_of_run {crates : Crates} {resolver : Resolver} {acts : List Act} {b : Bridge}
    (hrun : (Bridge.machine crates).run (.new resolver) acts = some b) :
    Numbered b.view ∧ Begun b.view ∧ Greets b.view := by
  have hmoves : ∀ v w, Relation.ReflTransGen Move v w →
      Numbered v ∧ Begun v ∧ Greets v → Numbered w ∧ Begun w ∧ Greets w := by
    intro v w h hv
    induction h with
    | refl => exact hv
    | tail _ hmove ih =>
        exact ⟨numbered_of_move hmove ih.1, begun_of_move hmove ih.1 ih.2.1,
          greets_of_move hmove ih.1 ih.2.1 ih.2.2⟩
  refine (Bridge.machine crates).run_of_step
    (I := fun b => Numbered b.view ∧ Begun b.view ∧ Greets b.view)
    (fun s act t hs h => hmoves s.view t.view (Bridge.step_moves h) hs) ?_ hrun
  refine ⟨⟨?_, ?_, ?_, ?_⟩, ⟨?_, ?_, ?_⟩, ⟨?_, ?_, ?_, ?_⟩⟩
  all_goals simp [Bridge.view, Bridge.new, Link.new, SentAfterHandshake, IsLine]

/-- Over every run of the bridge, with whatever requests, refusals and reconnects in
between: when the client sends at most one `initialize`, it is the first message on every
connection adopted once it is recorded, and no request that followed the client's
complete handshake is posted on such a connection before a `notifications/initialized`. -/
theorem handshake_comes_first (crates : Crates) (resolver : Resolver) (acts : List Act)
    {b : Bridge} (hrun : (Bridge.machine crates).run (.new resolver) acts = some b)
    (hone : b.lines.countP isInitialize ≤ 1) :
    InitializesFirst b ∧ GreetsFirst SentAfterHandshake b := by
  obtain ⟨hnumbered, hbegun, hgreets⟩ := view_of_run hrun
  refine ⟨hbegun.first, ?_⟩
  intro c es n message rest _ h hsent
  exact hgreets.sent hone es n c message rest h hsent

def welcome : Reply := .response 200 (some "session") [] none

/-- A request after the handshake is refused on its first connection, and posted again on
the second. -/
def replayed : List Act :=
  [.line (requestOf 1 "initialize") (replying welcome),
    .line initializedNotification (replying welcome),
    .line (requestOf 2 "tools/call") (replying welcome), .look 2 (replying welcome), .post 2,
    .outcome 2 .unconnected, .reconnect 2 (replying welcome), .look 2 (replying welcome), .post 2]

theorem handshake_comes_first_replayed :
    ∃ b, (Bridge.machine scalarCrates).run (.new home) replayed = some b ∧
      messagesOn 2 b.events =
        [requestOf 1 "initialize", initializedNotification, requestOf 2 "tools/call"] ∧
      SentAfterHandshake b.lines 2 ∧ InitializesFirst b ∧ GreetsFirst SentAfterHandshake b :=
  ⟨_, rfl, rfl, ⟨0, 1, by decide, by decide, ⟨_, rfl, rfl⟩, ⟨_, rfl, rfl⟩⟩,
    handshake_comes_first scalarCrates home replayed rfl (by decide)⟩

/-- A `notifications/initialized` that precedes the `initialize` is not replayed: the
request after both is posted on a connection without one. -/
theorem not_greetsFirst_early :
    ∃ b, (Bridge.machine scalarCrates).run (.new home)
        [.line initializedNotification (replying welcome),
          .line (requestOf 1 "initialize") (replying welcome),
          .line (requestOf 2 "tools/call") (replying welcome), .look 2 (replying welcome),
          .post 2] = some b ∧
      b.lines.countP isInitialize = 1 ∧ ¬ GreetsFirst SentAfterInitialized b := by
  refine ⟨_, rfl, by decide, fun h => ?_⟩
  obtain ⟨message, hmem, hmessage⟩ := h 1
    [.posted none (some 1) (requestOf 1 "initialize"), .adopted 1 true] 2
    (requestOf 2 "tools/call") [] (List.mem_cons_of_mem _ List.mem_cons_self) rfl
    ⟨0, by decide, _, rfl, rfl⟩
  cases List.mem_singleton.mp hmem
  cases hmessage

end StdioBridge

end Kallichore
