import Kallichore.Workspaces.Broker

/-!
# Commands go to the window the user is in

The channel list is the part of the history that `dispatch` needs: in the order
in which windows attached, each with the rank of its latest focus. `Mirrors` says
so, every operation on the record keeps it, and the last maximum that `dispatch`
picks is then the window that took focus last, or attached last if none has.
-/

namespace Kallichore

namespace WindowEvent

/-- Commands should go to this window: it is live, no live window has taken focus
since it did, and if no live window ever has, none attached after it. -/
structure Foremost (history : List WindowEvent) (generation : ℕ) : Prop where
  live : liveIn history generation = true
  focused : ∀ other, liveIn history other = true →
    focusRank history other ≤ focusRank history generation
  attached : (∀ other, liveIn history other = true → focusRank history other = 0) →
    ∀ other, liveIn history other = true →
      attachRank history other ≤ attachRank history generation

section ReceiversDropped

variable (windows : List ℕ) (history : List WindowEvent) (generation : ℕ)

theorem liveIn_dropped : liveIn (windows.map receiverDropped ++ history) generation =
    (!windows.contains generation && liveIn history generation) := by
  induction windows with
  | nil => simp
  | cons window windows ih =>
      change (window != generation &&
        liveIn (windows.map receiverDropped ++ history) generation) = _
      rw [ih, ← Bool.and_assoc]
      congr 1
      rw [List.contains_cons, Bool.not_or, bne, BEq.comm]

theorem attachedIn_dropped :
    attachedIn (windows.map receiverDropped ++ history) generation =
      attachedIn history generation := by
  induction windows with
  | nil => rfl
  | cons window windows ih => exact ih

theorem focusRank_dropped :
    focusRank (windows.map receiverDropped ++ history) generation =
      focusRank history generation := by
  induction windows with
  | nil => rfl
  | cons window windows ih => exact ih

theorem attachRank_dropped :
    attachRank (windows.map receiverDropped ++ history) generation =
      attachRank history generation := by
  induction windows with
  | nil => rfl
  | cons window windows ih => exact ih

theorem attaches_dropped :
    attaches (windows.map receiverDropped ++ history) = attaches history := by
  induction windows with
  | nil => rfl
  | cons window windows ih => exact ih

theorem focuses_dropped :
    focuses (windows.map receiverDropped ++ history) = focuses history := by
  induction windows with
  | nil => rfl
  | cons window windows ih => exact ih

end ReceiversDropped

end WindowEvent

open WindowEvent

/-- The channels of a record are what its history says of the windows. -/
structure Mirrors (history : List WindowEvent) (w : Workspace) : Prop where
  attaches : w.nextGeneration = attaches history
  focuses : w.nextFocusSeq = focuses history
  /-- The list is in the order of attaching. -/
  sorted : w.channels.Pairwise fun c d => c.generation < d.generation
  issued : ∀ generation, attachedIn history generation = true →
    generation ≤ w.nextGeneration
  /-- Windows that are live have not been discarded. -/
  live : ∀ generation, liveIn history generation = true →
    ∃ c ∈ w.channels, c.generation = generation
  attached : ∀ c ∈ w.channels, attachedIn history c.generation = true
  window : ∀ c ∈ w.channels, c.window = c.generation
  alive : ∀ c ∈ w.channels, c.alive = liveIn history c.generation
  focusSeq : ∀ c ∈ w.channels, c.focusSeq = focusRank history c.generation
  rank : ∀ c ∈ w.channels, attachRank history c.generation = c.generation

namespace Mirrors

variable {history : List WindowEvent} {w : Workspace}

theorem new (displayName token : String) : Mirrors [] (.new displayName token) := by
  constructor <;>
    simp [Workspace.new, WindowEvent.attaches, WindowEvent.focuses, attachedIn, liveIn]

theorem of_sublist {v : Workspace} (h : Mirrors history w)
    (hgen : v.nextGeneration = w.nextGeneration) (hseq : v.nextFocusSeq = w.nextFocusSeq)
    (hsub : v.channels.Sublist w.channels)
    (hlive : ∀ c ∈ w.channels, c.alive = true → c ∈ v.channels) : Mirrors history v where
  attaches := hgen.trans h.attaches
  focuses := hseq.trans h.focuses
  sorted := h.sorted.sublist hsub
  issued generation hatt := hgen ▸ h.issued generation hatt
  live generation hgl := by
    obtain ⟨c, hc, rfl⟩ := h.live generation hgl
    exact ⟨c, hlive c hc ((h.alive c hc).trans hgl), rfl⟩
  attached c hc := h.attached c (hsub.subset hc)
  window c hc := h.window c (hsub.subset hc)
  alive c hc := h.alive c (hsub.subset hc)
  focusSeq c hc := h.focusSeq c (hsub.subset hc)
  rank c hc := h.rank c (hsub.subset hc)

/-- The channels that are left by a loop of `dispatch` still mirror the history. -/
theorem dispatched (h : Mirrors history w) {rest : List FrontendChannel}
    {taker : Option FrontendChannel} (hd : Workspace.Dispatched w.channels rest taker) :
    Mirrors history { w with channels := rest } := by
  apply h.of_sublist (v := { w with channels := rest }) rfl rfl hd.sublist
  intro c hc halive
  exact hd.mem_of_alive hc halive

theorem attach (h : Mirrors history w) :
    Mirrors (WindowEvent.attached (w.nextGeneration + 1) :: history)
      (w.attach (w.nextGeneration + 1)) := by
  have hold : ∀ c ∈ w.channels, w.nextGeneration + 1 ≠ c.generation := by
    intro c hc
    have := h.issued _ (h.attached c hc)
    omega
  constructor
  · simp [Workspace.attach, WindowEvent.attaches, h.attaches]
  · simp [Workspace.attach, WindowEvent.focuses, h.focuses]
  · exact Workspace.sorted_attach _ h.sorted fun c hc => h.issued _ (h.attached c hc)
  · intro generation hatt
    simp only [attachedIn, Bool.or_eq_true, beq_iff_eq] at hatt
    simp only [Workspace.attach]
    obtain rfl | hatt := hatt
    · exact Nat.le_refl _
    · have := h.issued generation hatt
      omega
  · intro generation hlive
    simp only [liveIn, Bool.or_eq_true, beq_iff_eq] at hlive
    obtain rfl | hlive := hlive
    · simp [Workspace.attach]
    · obtain ⟨c, hc, rfl⟩ := h.live generation hlive
      exact ⟨c, List.mem_append_left _ hc, rfl⟩
  · intro c hc
    obtain hc | rfl := Workspace.mem_channels_attach.mp hc
    · simp [attachedIn, h.attached c hc]
    · simp [attachedIn]
  · intro c hc
    obtain hc | rfl := Workspace.mem_channels_attach.mp hc
    · exact h.window c hc
    · rfl
  · intro c hc
    obtain hc | rfl := Workspace.mem_channels_attach.mp hc
    · rw [h.alive c hc]
      simp [liveIn, hold c hc]
    · simp [liveIn]
  · intro c hc
    obtain hc | rfl := Workspace.mem_channels_attach.mp hc
    · rw [h.focusSeq c hc]
      simp [focusRank, hold c hc]
    · simp [focusRank]
  · intro c hc
    obtain hc | rfl := Workspace.mem_channels_attach.mp hc
    · rw [attachRank, if_neg (hold c hc), h.rank c hc]
    · simp [attachRank, h.attaches]

theorem dropReceivers (h : Mirrors history w) (windows : List ℕ) :
    Mirrors (windows.map receiverDropped ++ history) (w.dropReceivers windows) := by
  constructor
  · rw [attaches_dropped, ← h.attaches]
    rfl
  · rw [focuses_dropped, ← h.focuses]
    rfl
  · exact Workspace.sorted_of_map_eq h.sorted (w.map_generation_dropReceivers windows)
  · intro generation hatt
    rw [attachedIn_dropped] at hatt
    exact h.issued generation hatt
  · intro generation hlive
    rw [liveIn_dropped, Bool.and_eq_true] at hlive
    obtain ⟨c, hc, rfl⟩ := h.live generation hlive.2
    refine ⟨_, List.mem_map_of_mem hc, ?_⟩
    split <;> rfl
  · intro c hc
    obtain ⟨d, hd, rfl⟩ := Workspace.exists_of_mem_dropReceivers hc
    rw [attachedIn_dropped]
    split <;> exact h.attached d hd
  · intro c hc
    obtain ⟨d, hd, rfl⟩ := Workspace.exists_of_mem_dropReceivers hc
    split <;> exact h.window d hd
  · intro c hc
    obtain ⟨d, hd, rfl⟩ := Workspace.exists_of_mem_dropReceivers hc
    rw [liveIn_dropped]
    have hwindow := h.window d hd
    split
    · simp_all
    · simp_all [h.alive d hd]
  · intro c hc
    obtain ⟨d, hd, rfl⟩ := Workspace.exists_of_mem_dropReceivers hc
    rw [focusRank_dropped]
    split <;> exact h.focusSeq d hd
  · intro c hc
    obtain ⟨d, hd, rfl⟩ := Workspace.exists_of_mem_dropReceivers hc
    rw [attachRank_dropped]
    split <;> exact h.rank d hd

theorem focus (h : Mirrors history w) (generation : ℕ) :
    Mirrors (WindowEvent.focused generation :: history) (w.focus generation) := by
  have hsame : (w.focus generation).channels.map FrontendChannel.generation =
      w.channels.map FrontendChannel.generation :=
    Workspace.map_generation_setFocusSeq _ _ _
  constructor
  · exact h.attaches
  · simp [Workspace.focus, WindowEvent.focuses, h.focuses]
  · exact Workspace.sorted_of_map_eq h.sorted hsame
  · exact h.issued
  · intro g hlive
    obtain ⟨c, hc, rfl⟩ := h.live g hlive
    have hmem : c.generation ∈ (w.focus generation).channels.map FrontendChannel.generation := by
      rw [hsame]
      exact List.mem_map_of_mem hc
    exact List.mem_map.mp hmem
  · intro c hc
    obtain ⟨d, hd, rfl⟩ := Workspace.exists_of_mem_focus h.sorted hc
    split <;> exact h.attached d hd
  · intro c hc
    obtain ⟨d, hd, rfl⟩ := Workspace.exists_of_mem_focus h.sorted hc
    split <;> exact h.window d hd
  · intro c hc
    obtain ⟨d, hd, rfl⟩ := Workspace.exists_of_mem_focus h.sorted hc
    split <;> exact h.alive d hd
  · intro c hc
    obtain ⟨d, hd, rfl⟩ := Workspace.exists_of_mem_focus h.sorted hc
    by_cases hg : d.generation = generation
    · rw [if_pos hg, focusRank, if_pos hg.symm, h.focuses]
    · rw [if_neg hg, focusRank, if_neg (Ne.symm hg)]
      exact h.focusSeq d hd
  · intro c hc
    obtain ⟨d, hd, rfl⟩ := Workspace.exists_of_mem_focus h.sorted hc
    split <;> exact h.rank d hd

theorem congr {v : Workspace} (h : Mirrors history w)
    (hgen : v.nextGeneration = w.nextGeneration) (hseq : v.nextFocusSeq = w.nextFocusSeq)
    (hchannels : v.channels = w.channels) : Mirrors history v := by
  apply h.of_sublist hgen hseq
  · rw [hchannels]
  · intro c hc _
    rwa [hchannels]

theorem leave (h : Mirrors history w) (generation : ℕ) :
    Mirrors (WindowEvent.detached generation :: history)
      { w with channels := w.channels.filter fun c => c.generation != generation } := by
  have hcases : ∀ c ∈ w.channels.filter fun c => c.generation != generation,
      c ∈ w.channels ∧ generation ≠ c.generation := by
    intro c hc
    obtain ⟨hc, hne⟩ := List.mem_filter.mp hc
    exact ⟨hc, Ne.symm (bne_iff_ne.mp hne)⟩
  constructor
  · exact h.attaches
  · exact h.focuses
  · exact h.sorted.sublist List.filter_sublist
  · intro g hatt
    rw [attachedIn, Bool.and_eq_true] at hatt
    exact h.issued g hatt.2
  · intro g hlive
    rw [liveIn, Bool.and_eq_true, bne_iff_ne] at hlive
    obtain ⟨c, hc, rfl⟩ := h.live g hlive.2
    exact ⟨c, List.mem_filter.mpr ⟨hc, bne_iff_ne.mpr (Ne.symm hlive.1)⟩, rfl⟩
  · intro c hc
    obtain ⟨hc, hne⟩ := hcases c hc
    simp [attachedIn, hne, h.attached c hc]
  · intro c hc
    exact h.window c (hcases c hc).1
  · intro c hc
    obtain ⟨hc, hne⟩ := hcases c hc
    simp [liveIn, hne, h.alive c hc]
  · intro c hc
    exact h.focusSeq c (hcases c hc).1
  · intro c hc
    exact h.rank c (hcases c hc).1

theorem redispatch (h : Mirrors history w) (id : String) :
    Mirrors history (w.redispatch id).1 := by
  unfold Workspace.redispatch
  cases w.pending.lookup id with
  | none => exact h
  | some pending =>
      obtain ⟨rest, taker, hd, heq⟩ := Workspace.dispatch_spec
        { w with pending := w.pending.erase id } pending.request
      simp only [heq]
      have hrest := h.dispatched hd
      cases taker with
      | none => exact hrest.congr rfl rfl rfl
      | some channel => exact hrest.congr rfl rfl rfl

theorem redispatchAll (h : Mirrors history w) (orphans : List (List ℕ × String)) :
    Mirrors ((orphans.reverse.flatMap Prod.fst).map receiverDropped ++ history)
      (w.redispatchAll orphans).1 := by
  induction orphans generalizing w history with
  | nil => exact h
  | cons orphan orphans ih =>
      have hnext := ih ((h.dropReceivers orphan.1).redispatch orphan.2)
      rw [← List.append_assoc, ← List.map_append] at hnext
      simpa [Workspace.redispatchAll] using hnext

theorem detachChannel (h : Mirrors history w) (now generation : ℕ)
    (orphans : List (List ℕ × String)) :
    Mirrors ((orphans.reverse.flatMap Prod.fst).map receiverDropped ++
      WindowEvent.detached generation :: history)
      (w.detachChannel now generation orphans).1 := by
  have hall := (h.leave generation).redispatchAll orphans
  simp only [Workspace.detachChannel]
  split
  · exact hall
  · exact hall.congr rfl rfl rfl

theorem handleMessage (h : Mirrors history w) (generation : ℕ) (message : FrontendMessage) :
    Mirrors ((if message.focuses then [WindowEvent.focused generation] else []) ++ history)
      (w.handleMessage generation message).1 := by
  cases message with
  | hello hello =>
      cases hfocused : hello.focused with
      | false =>
          simp only [Workspace.handleMessage, FrontendMessage.focuses, hfocused, Bool.false_eq_true,
            reduceIte]
          exact h.congr rfl rfl rfl
      | true =>
          simp only [Workspace.handleMessage, FrontendMessage.focuses, hfocused, reduceIte]
          apply Mirrors.focus
          exact h.congr rfl rfl rfl
  | commandsChanged => exact h.congr rfl rfl rfl
  | foregroundChanged => exact h.congr rfl rfl rfl
  | sessionsChanged => exact h.congr rfl rfl rfl
  | focused => exact h.focus generation
  | commandReply reply =>
      simp only [Workspace.handleMessage, FrontendMessage.focuses]
      cases w.pending.lookup reply.id with
      | none => exact h
      | some pending => exact h.congr rfl rfl rfl

theorem enqueue (h : Mirrors history w) (now call : ℕ) (request : CommandRequest) :
    Mirrors history (w.enqueue now call request).1 := by
  obtain ⟨rest, taker, hd, heq⟩ := Workspace.dispatch_spec w request
  have hrest := h.dispatched hd
  simp only [Workspace.enqueue, heq]
  cases taker with
  | none => exact hrest.congr rfl rfl rfl
  | some channel => exact hrest.congr rfl rfl rfl

end Mirrors

namespace Broker

def Kept (b : Broker) : Prop := Mirrors b.history b.workspace

theorem kept_of_step {b t : Broker} {a : Act} (hb : Kept b) (h : machine.step b a = some t) :
    Kept t := by
  cases change_of_step h with
  | attach => exact Mirrors.attach hb
  | dropReceiver generation => exact Mirrors.dropReceivers hb [generation]
  | message generation message => exact Mirrors.handleMessage hb generation message
  | detach horphans =>
      have := Mirrors.detachChannel hb
      simp only [Kept, after, List.append_assoc, List.singleton_append]
      apply this
  | call => exact hb
  | enqueued => exact Mirrors.enqueue hb _ _ _
  | refused => exact Mirrors.enqueue hb _ _ _
  | giveUp => exact hb
  | expire => exact hb
  | cancelPending => exact Mirrors.congr hb rfl rfl rfl

theorem kept_of_run {displayName token : String} {acts : List Act} {b : Broker}
    (hrun : machine.run (new displayName token) acts = some b) : Kept b := by
  have hnew : Kept (new displayName token) := Mirrors.new displayName token
  exact machine.run_of_step (fun _ _ _ => kept_of_step) hnew hrun

theorem mem_of_dispatched {b : Broker} (hb : Kept b) {rest : List FrontendChannel}
    {taker : Option FrontendChannel}
    (hd : Workspace.Dispatched b.workspace.channels rest taker) {generation : ℕ}
    (hlive : liveIn b.history generation = true) :
    ∃ c ∈ rest, c.generation = generation := Mirrors.live (hb.dispatched hd) generation hlive

/-- The last maximum of the channels is the window commands should go to. -/
theorem foremost_of_taken {b : Broker} (hb : Kept b) {rest : List FrontendChannel}
    {channel : FrontendChannel}
    (hd : Workspace.Dispatched b.workspace.channels rest (some channel)) :
    Foremost b.history channel.generation := by
  obtain ⟨halive, before, after, rfl, hbefore, hafter⟩ := hd.taken channel rfl
  have hrest : Mirrors b.history { b.workspace with channels := before ++ channel :: after } :=
    hb.dispatched hd
  have hmem : channel ∈ before ++ channel :: after := by simp
  have hmax : ∀ c ∈ before ++ channel :: after, c.focusSeq ≤ channel.focusSeq := by
    intro c hc
    obtain hc | hc := List.mem_append.mp hc
    · exact hbefore c hc
    · obtain rfl | hc := List.mem_cons.mp hc
      · exact Nat.le_refl _
      · exact Nat.le_of_lt (hafter c hc)
  refine ⟨(hrest.alive channel hmem).symm.trans halive, ?_, ?_⟩
  · intro other hlive
    obtain ⟨c, hc, rfl⟩ := mem_of_dispatched hb hd hlive
    rw [← hrest.focusSeq c hc, ← hrest.focusSeq channel hmem]
    exact hmax c hc
  · intro hnone other hlive
    obtain ⟨c, hc, rfl⟩ := mem_of_dispatched hb hd hlive
    rw [hrest.rank c hc, hrest.rank channel hmem]
    have hzero : channel.focusSeq = 0 := by
      rw [hrest.focusSeq channel hmem]
      exact hnone _ ((hrest.alive channel hmem).symm.trans halive)
    obtain hc | hc := List.mem_append.mp hc
    · exact Nat.le_of_lt ((List.pairwise_append.mp hrest.sorted).2.2 c hc channel (by simp))
    · obtain rfl | hc := List.mem_cons.mp hc
      · exact Nat.le_refl _
      · have := hafter c hc
        omega

/-- After every history of a record, `dispatch` ends; it hands the request to the
window the user is in, and finds no window only when none is live. -/
theorem dispatch_to_foremost (displayName token : String) (acts : List Act) {b : Broker}
    (hrun : machine.run (new displayName token) acts = some b) (request : CommandRequest) :
    ∃ rest taker,
      (∀ turns, b.workspace.channels.length < turns →
        Workspace.dispatchLoop turns b.workspace.channels = some (rest, taker)) ∧
      b.workspace.dispatch request =
        ({ b.workspace with channels := rest }, taker.map FrontendChannel.generation,
          taker.toList.map fun channel =>
            .sent channel.generation channel.window (.commandRequest request)) ∧
      (∀ channel, taker = some channel → Foremost b.history channel.generation) ∧
      (taker = none → ∀ generation, liveIn b.history generation = false) := by
  have hb := kept_of_run hrun
  obtain ⟨rest, taker, hloop, hd⟩ :=
    Workspace.dispatchLoop_terminates (Nat.lt_succ_self b.workspace.channels.length)
  refine ⟨rest, taker, ?_, ?_, ?_, ?_⟩
  · intro turns hturns
    exact Workspace.dispatchLoop_mono hloop hturns
  · exact Workspace.dispatch_of_loop hloop request
  · rintro channel rfl
    exact foremost_of_taken hb hd
  · intro hnone generation
    cases hlive : liveIn b.history generation with
    | false => rfl
    | true =>
        obtain ⟨c, hc, -⟩ := mem_of_dispatched hb hd hlive
        rw [hd.refused hnone] at hc
        cases hc

/-- Three windows, the last of them dead and the first one focused: the request
goes to the first. -/
theorem dispatch_to_foremost_first :
    ∃ b, machine.run (new "folder" "token")
        [.attach, .attach, .attach, .message 1 .focused, .message 9 .focused, .dropReceiver 3] =
          some b ∧
      (b.workspace.dispatch ⟨"r", "command", [], ⟨none, none⟩⟩).2.1 = some 1 ∧
      ∃ rest taker,
        (∀ turns, b.workspace.channels.length < turns →
          Workspace.dispatchLoop turns b.workspace.channels = some (rest, taker)) ∧
        b.workspace.dispatch ⟨"r", "command", [], ⟨none, none⟩⟩ =
          ({ b.workspace with channels := rest }, taker.map FrontendChannel.generation,
            taker.toList.map fun channel => .sent channel.generation channel.window
              (.commandRequest ⟨"r", "command", [], ⟨none, none⟩⟩)) ∧
        (∀ channel, taker = some channel → Foremost b.history channel.generation) ∧
        (taker = none → ∀ generation, liveIn b.history generation = false) :=
  ⟨_, rfl, by decide, dispatch_to_foremost "folder" "token" [.attach, .attach, .attach,
    .message 1 .focused, .message 9 .focused, .dropReceiver 3] rfl _⟩

end Broker

end Kallichore
