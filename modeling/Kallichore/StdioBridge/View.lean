import Kallichore.StdioBridge.Basic
import Mathlib.Logic.Relation

/-!
# The order of messages on a connection

`View` is what the order of the messages on a connection depends on: the link without
what an endpoint is, the connection that each task took from it, the client's lines and
what was posted. `Move` says what can happen to it. A step of the bridge is a sequence of
moves, because a task may connect first and then go on; whatever holds of a view and is
kept by every move holds all along a run.
-/

namespace Kallichore

namespace StdioBridge

/-- The connection that a task is to post its request on, or has posted it on. -/
def RequestPc.connection : RequestPc → Option ℕ
  | posting _ snapshot => some snapshot.generation
  | awaiting _ snapshot => some snapshot.generation
  | _ => none

def Event.connection : Event → Option ℕ
  | posted _ connection _ => connection
  | adopted connection _ => some connection

def messagesOn (c : ℕ) (events : List Event) : List Value :=
  events.filterMap fun
    | .posted _ connection message => if connection = some c then some message else none
    | .adopted _ _ => none

def handshakeEvents (c : ℕ) (message : Value) (initialized : Bool) : List Event :=
  [.posted none (some c) message] ++
    (if initialized then [.posted none (some c) initializedNotification] else []) ++
    [.adopted c true]

/-- What the order of messages on a connection depends on. -/
structure View where
  generation : ℕ
  /-- Whether there is an endpoint. -/
  upstream : Bool
  handshake : Option Value
  initialized : Bool
  /-- The requests' tasks, with the connection that each has taken from the link. -/
  tasks : ℕ → Option (Option ℕ)
  lines : List Value
  events : List Event

def Bridge.view (b : Bridge) : View where
  generation := b.link.generation
  upstream := b.link.upstream.isSome
  handshake := b.link.handshake
  initialized := b.link.initialized
  tasks := fun n => (b.requests n).map fun request => request.pc.connection
  lines := b.lines
  events := b.events

inductive Move : View → View → Prop
  /-- An attempt to connect comes to nothing. -/
  | lost (v : View) (events : List Event)
      (hevents : ∀ e ∈ events, ∃ message, e = .posted none none message) :
      Move v { v with upstream := false, events := v.events ++ events }
  /-- A connection is adopted without a handshake. -/
  | adopted (v : View) (hhandshake : v.handshake = none) :
      Move v { v with
        upstream := true
        generation := v.generation + 1
        events := v.events ++ [.adopted (v.generation + 1) false] }
  /-- A connection is adopted after a handshake. -/
  | shaken (v : View) (message : Value) (events : List Event)
      (hhandshake : v.handshake = some message)
      (hevents : ∀ e ∈ events, ∃ message, e = .posted none none message) :
      Move v { v with
        upstream := true
        generation := v.generation + 1
        events := v.events ++ events ++
          handshakeEvents (v.generation + 1) message v.initialized }
  /-- The client's `initialize` is recorded. -/
  | recorded (v : View) (message : Value) (hmessage : isInitialize message = true) :
      Move v { v with
        lines := v.lines ++ [message]
        handshake := some message
        initialized := false }
  /-- A request is read. -/
  | request (v : View) (message : Value) (hmessage : isRequest message = true) :
      Move v { v with
        lines := v.lines ++ [message]
        tasks := Function.update v.tasks v.lines.length (some none) }
  /-- A notification is read, and relayed if there is an endpoint. -/
  | notified (v : View) (message : Value)
      (hmessage : isInitialize message = false ∧ isRequest message = false) :
      Move v { v with
        lines := v.lines ++ [message]
        initialized := v.initialized || method message == some "notifications/initialized"
        events := v.events ++
          (if v.upstream then [.posted none (some v.generation) message] else []) }
  /-- A task takes the connection from the link. -/
  | taken (v : View) (n : ℕ) (hupstream : v.upstream = true) (hn : (v.tasks n).isSome = true) :
      Move v { v with tasks := Function.update v.tasks n (some (some v.generation)) }
  /-- A task posts its request. -/
  | posted (v : View) (n c : ℕ) (message : Value) (hn : v.tasks n = some (some c)) :
      Move v { v with events := v.events ++ [.posted (some n) (some c) message] }
  /-- A task is done with its connection. -/
  | released (v : View) (n : ℕ) (hn : (v.tasks n).isSome = true) :
      Move v { v with tasks := Function.update v.tasks n (some none) }

section Steps

variable {crates : Crates}

/-- What `connect` can come to: no connection, one without a handshake, or one after a
handshake. -/
def Connect.Comes (link : Link) (result : Connect) : Prop :=
  result.link.handshake = link.handshake ∧ result.link.initialized = link.initialized ∧
    ∃ events : List Event, (∀ e ∈ events, ∃ message, e = .posted none none message) ∧
      ((result.link.upstream = none ∧ result.link.generation = link.generation ∧
          result.events = events) ∨
        (link.handshake = none ∧ result.link.upstream.isSome = true ∧
          result.link.generation = link.generation + 1 ∧
          result.events = [.adopted (link.generation + 1) false]) ∨
        (∃ message, link.handshake = some message ∧ result.link.upstream.isSome = true ∧
          result.link.generation = link.generation + 1 ∧
          result.events =
            events ++ handshakeEvents (link.generation + 1) message link.initialized))

theorem connectLoop_comes (link : Link) (stale : Option Endpoint) (attempts : List Attempt)
    (hupstream : link.upstream = none) :
    (link.connectLoop crates stale attempts).Comes link := by
  induction attempts generalizing link stale with
  | nil => exact ⟨rfl, rfl, [], by simp, .inl ⟨hupstream, rfl, rfl⟩⟩
  | cons attempt attempts ih =>
      simp only [Link.connectLoop]
      obtain ⟨resolver, endpoint⟩ := link.resolver.resolve attempt.directory stale
      cases endpoint with
      | none => exact ⟨rfl, rfl, [], by simp, .inl ⟨hupstream, rfl, rfl⟩⟩
      | some endpoint =>
          cases hhandshake : link.handshake with
          | none =>
              exact ⟨hhandshake.symm, rfl, [], by simp, .inr (.inl ⟨hhandshake, rfl, rfl, rfl⟩)⟩
          | some message =>
              dsimp only
              cases (post crates message attempt.handshake).status with
              | done =>
                  exact ⟨hhandshake.symm, rfl, [], by simp,
                    .inr (.inr ⟨message, hhandshake, rfl, rfl, rfl⟩)⟩
              | failed reason =>
                  exact ⟨hhandshake.symm, rfl, [.posted none none message], by simp,
                    .inl ⟨hupstream, rfl, rfl⟩⟩
              | refused =>
                  obtain ⟨hh, hi, events, hevents, hcomes⟩ := ih
                    { link with resolver := resolver, handshake := some message }
                    (some endpoint) hupstream
                  refine ⟨hh.trans hhandshake.symm, hi, .posted none none message :: events,
                    by simpa using hevents, ?_⟩
                  rcases hcomes with ⟨hu, hg, he⟩ | ⟨hnone, -⟩ | ⟨m, hm, hu, hg, he⟩
                  · exact .inl ⟨hu, hg, by simp only [he]⟩
                  · cases hnone
                  · exact .inr (.inr ⟨m, hhandshake.trans hm, hu, hg, by simp only [he]; rfl⟩)

theorem reconnected_move (b : Bridge) (attempts : Attempt × Attempt) :
    Move b.view (b.reconnected crates attempts).view := by
  have hcomes : (b.link.connect crates attempts).Comes b.link :=
    connectLoop_comes { b.link with upstream := none, sessionId := none } b.link.upstream
      [attempts.1, attempts.2] rfl
  obtain ⟨hh, hi, events, hevents, hcomes⟩ := hcomes
  have hview : (b.reconnected crates attempts).view = { b.view with
      generation := (b.link.connect crates attempts).link.generation
      upstream := (b.link.connect crates attempts).link.upstream.isSome
      events := b.events ++ (b.link.connect crates attempts).events } := by
    simp [Bridge.view, Bridge.reconnected, hh, hi]
  rw [hview]
  rcases hcomes with ⟨hu, hg, he⟩ | ⟨hnone, hu, hg, he⟩ | ⟨message, hm, hu, hg, he⟩
  · rw [hu, hg, he]
    exact .lost b.view events hevents
  · rw [hu, hg, he]
    exact .adopted b.view hnone
  · rw [hu, hg, he, ← List.append_assoc]
    exact .shaken b.view message events hm hevents

namespace Bridge

theorem view_setPc (b : Bridge) (n : ℕ) (request : Request) (pc : RequestPc) :
    (b.setPc n request pc).view = { b.view with
      tasks := Function.update b.view.tasks n (some pc.connection) } := by
  have htasks : (b.setPc n request pc).view.tasks =
      Function.update b.view.tasks n (some pc.connection) := by
    funext k
    by_cases hk : k = n
    · simp [view, setPc, hk]
    · simp [view, setPc, Function.update_of_ne hk]
  rw [← htasks]
  rfl

theorem view_startPresence (b : Bridge) : b.startPresence.view = b.view := by
  cases h : b.presence <;> simp [startPresence, h, view]

theorem view_conclude (b : Bridge) (n attempt : ℕ) (request : Request) (snapshot : Snapshot)
    (outcome : Outcome) :
    (b.conclude n attempt request snapshot outcome).view = { b.view with
      tasks := Function.update b.view.tasks n (some none) } := by
  simp only [conclude]
  cases outcome.status with
  | done =>
      rw [view_setPc]
      split <;> rfl
  | refused =>
      rw [view_setPc]
      rfl
  | failed reason =>
      rw [view_setPc]
      split <;> rfl

/-- `relayInitialize` records the handshake, and connects. -/
theorem relayInitialize_moves (b : Bridge) (n : ℕ) {message : Value}
    (hmessage : isInitialize message = true) (attempts : Attempt × Attempt) :
    Relation.ReflTransGen Move b.view
      (Bridge.relayInitialize crates { b with lines := b.lines ++ [message] } n message
        attempts).view := by
  let recorded : Bridge := { b with
    lines := b.lines ++ [message]
    link := { b.link with
      handshake := some message
      initialized := false
      protocolVersion := none } }
  have hview : (Bridge.relayInitialize crates { b with lines := b.lines ++ [message] } n message
      attempts).view = (recorded.reconnected crates attempts).view := by
    simp only [relayInitialize]
    split
    · rfl
    · rfl
  rw [hview]
  exact .tail (.single (.recorded b.view message hmessage)) (reconnected_move recorded attempts)

theorem handleLine_moves (b : Bridge) (message : Value) (attempts : Attempt × Attempt) :
    Relation.ReflTransGen Move b.view (b.handleLine crates message attempts).view := by
  simp only [handleLine, view_startPresence]
  by_cases hinit : isInitialize message = true
  · rw [if_pos hinit]
    exact relayInitialize_moves b b.lines.length hinit attempts
  · rw [if_neg hinit]
    by_cases hreq : isRequest message = true
    · rw [if_pos hreq, view_setPc]
      exact .single (.request b.view message hreq)
    · rw [if_neg hreq]
      have hnotify := Move.notified b.view message
        ⟨Bool.eq_false_iff.mpr hinit, Bool.eq_false_iff.mpr hreq⟩
      refine .single (Eq.subst ?_ hnotify)
      cases hupstream : b.link.upstream with
      | none => simp [view, notify, hupstream]
      | some endpoint => simp [view, notify, hupstream]

variable (crates) in
theorem reconnected_moves (b : Bridge) (p : Prop) [Decidable p] (attempts : Attempt × Attempt) :
    Relation.ReflTransGen Move b.view
      (if p then b.reconnected crates attempts else b).view := by
  split
  · exact .single (reconnected_move b attempts)
  · exact .refl

theorem tasks_of_requests {b : Bridge} {n : ℕ} {request : Request}
    (h : b.requests n = some request) : b.view.tasks n = some request.pc.connection := by
  simp [view, h]

variable (crates) in
theorem tasks_reconnected (b : Bridge) (p : Prop) [Decidable p] (attempts : Attempt × Attempt) :
    (if p then b.reconnected crates attempts else b).view.tasks = b.view.tasks := by
  split <;> rfl

theorem step_moves {b b' : Bridge} {act : Act} (hs : b.step crates act = some b') :
    Relation.ReflTransGen Move b.view b'.view := by
  cases act with
  | unparsed error =>
      cases hs
      exact .refl
  | line message attempts =>
      cases hs
      exact handleLine_moves b message attempts
  | look n attempts =>
      simp only [step] at hs
      split at hs
      next message attempt hrequest =>
        cases hs
        have hmoves := reconnected_moves crates b (b.link.upstream.isNone = true) attempts
        have htasks := tasks_reconnected crates b (b.link.upstream.isNone = true) attempts
        simp only [look]
        generalize (if b.link.upstream.isNone = true then b.reconnected crates attempts
          else b) = u at hmoves htasks
        have hn : (u.view.tasks n).isSome = true := by
          rw [htasks, tasks_of_requests hrequest]
          rfl
        cases hupstream : u.link.upstream with
        | none =>
            rw [view_setPc]
            exact hmoves.tail (.released u.view n hn)
        | some endpoint =>
            rw [view_setPc]
            exact hmoves.tail (.taken u.view n (by simp [view, hupstream]) hn)
      · cases hs
  | post n =>
      simp only [step] at hs
      split at hs
      next message attempt snapshot hrequest =>
        cases hs
        have hn : b.view.tasks n = some (some snapshot.generation) := tasks_of_requests hrequest
        rw [view_setPc]
        refine .single (Eq.subst ?_ (Move.posted b.view n snapshot.generation message hn))
        have hsame : Function.update b.view.tasks n (some (some snapshot.generation)) =
            b.view.tasks := by
          rw [← hn, Function.update_eq_self]
        simp only [RequestPc.connection]
        rw [← hsame]
        rfl
      · cases hs
  | outcome n reply =>
      simp only [step] at hs
      split at hs
      next message attempt snapshot hrequest =>
        cases hs
        rw [view_conclude]
        exact .single (.released b.view n (by simp [tasks_of_requests hrequest]))
      · cases hs
  | reconnect n attempts =>
      simp only [step] at hs
      split at hs
      next message attempt generation hrequest =>
        cases hs
        have hmoves := reconnected_moves crates b (b.link.generation = generation) attempts
        have htasks := tasks_reconnected crates b (b.link.generation = generation) attempts
        rw [view_setPc]
        have hconnection : (nextAttempt attempt).connection = none := by
          cases attempt <;> rfl
        rw [hconnection]
        refine hmoves.tail (.released _ n ?_)
        rw [htasks, tasks_of_requests hrequest]
        rfl
      · cases hs
  | giveUp n =>
      simp only [step] at hs
      split at hs
      next message hrequest =>
        cases hs
        rw [view_setPc]
        exact .single (.released b.view n (by simp [tasks_of_requests hrequest]))
      · cases hs
  | lookPresence attempts =>
      simp only [step] at hs
      split at hs
      next stale hpresence =>
        cases hs
        exact reconnected_moves crates b _ attempts
      · cases hs
  | presenceEnded =>
      simp only [step] at hs
      split at hs
      · cases hs
        exact .refl
      · cases hs

end Bridge

end Steps

end StdioBridge

end Kallichore
