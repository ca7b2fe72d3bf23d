import Kallichore.Workspaces.Basic

/-!
# Handing a request to a window

`dispatch` tries the primary channel and discards it if it has died, until a
channel accepts the request or none is left. One turn of the loop either ends it
or makes the list shorter, so as many turns as there are channels are enough, and
one more finds the list empty (`dispatchLoop_terminates`). What a finished loop
tells is `Dispatched`: it discards dead channels only, and the channel that took
the request is the last maximum of those that are left.
-/

namespace Kallichore

namespace Workspace

theorem exists_mem_zipIdx {channels : List FrontendChannel} {channel : FrontendChannel}
    (h : channel ∈ channels) (start : ℕ) : ∃ i, (channel, i) ∈ channels.zipIdx start := by
  rw [← List.zipIdx_map_fst start channels, List.mem_map] at h
  obtain ⟨⟨_, i⟩, hmem, rfl⟩ := h
  exact ⟨i, hmem⟩

theorem exists_append_of_primary {channels : List FrontendChannel} {index : ℕ}
    (h : primary channels = some index) :
    ∃ (before : List FrontendChannel) (channel : FrontendChannel) (after : List FrontendChannel),
      channels = before ++ channel :: after ∧ before.length = index ∧
      (∀ other ∈ before, other.focusSeq ≤ channel.focusSeq) ∧
      ∀ other ∈ after, other.focusSeq < channel.focusSeq := by
  obtain ⟨⟨channel, i⟩, hmax, rfl⟩ := Option.map_eq_some_iff.mp h
  obtain ⟨before, after, hzip, hbefore, hafter⟩ := exists_append_of_lastMax hmax
  obtain ⟨before', rest, rfl, rfl, hrest⟩ := List.zipIdx_eq_append_iff.mp hzip
  obtain ⟨c, rest', rfl, hc, rfl⟩ := List.zipIdx_eq_cons_iff.mp hrest.symm
  obtain ⟨rfl, rfl⟩ := Prod.mk.inj hc
  refine ⟨before', channel, rest', rfl, by simp, ?_, ?_⟩
  · intro other hother
    obtain ⟨i, hi⟩ := exists_mem_zipIdx hother 0
    exact hbefore (other, i) hi
  · intro other hother
    obtain ⟨i, hi⟩ := exists_mem_zipIdx hother (0 + before'.length + 1)
    exact hafter (other, i) hi

theorem primary_eq_none_iff {channels : List FrontendChannel} :
    primary channels = none ↔ channels = [] := by
  simp [primary, lastMax_eq_none_iff]

/-- What the loop of `dispatch` leaves of the channels, and the channel that took
the request. -/
structure Dispatched (channels rest : List FrontendChannel) (taker : Option FrontendChannel) :
    Prop where
  sublist : rest.Sublist channels
  /-- Only dead channels are discarded. -/
  live : rest.filter FrontendChannel.alive = channels.filter FrontendChannel.alive
  refused : taker = none → rest = []
  /-- The taker is live, and the last maximum of what is left. -/
  taken : ∀ channel ∈ taker, channel.alive = true ∧
    ∃ before after, rest = before ++ channel :: after ∧
      (∀ other ∈ before, other.focusSeq ≤ channel.focusSeq) ∧
      ∀ other ∈ after, other.focusSeq < channel.focusSeq

theorem Dispatched.mem_of_alive {channels rest : List FrontendChannel}
    {taker : Option FrontendChannel} (h : Dispatched channels rest taker) {c : FrontendChannel}
    (hc : c ∈ channels) (halive : c.alive = true) : c ∈ rest := by
  have hmem : c ∈ rest.filter FrontendChannel.alive := by
    rw [h.live]
    exact List.mem_filter.mpr ⟨hc, halive⟩
  exact (List.mem_filter.mp hmem).1

theorem Dispatched.of_eraseIdx {before after rest : List FrontendChannel}
    {channel : FrontendChannel} {taker : Option FrontendChannel} (hdead : channel.alive = false)
    (h : Dispatched (before ++ after) rest taker) :
    Dispatched (before ++ channel :: after) rest taker where
  sublist := by
    have hsub : (before ++ after).Sublist (before ++ channel :: after) :=
      (List.sublist_cons_self channel after).append_left before
    exact h.sublist.trans hsub
  live := by
    rw [h.live]
    simp [hdead]
  refused := h.refused
  taken := h.taken

/-- The loop ends, whatever the channels, after one turn more than there are
channels at the latest. -/
theorem dispatchLoop_terminates {turns : ℕ} {channels : List FrontendChannel}
    (hturns : channels.length < turns) :
    ∃ rest taker, dispatchLoop turns channels = some (rest, taker) ∧
      Dispatched channels rest taker := by
  induction turns generalizing channels with
  | zero => exact absurd hturns (Nat.not_lt_zero _)
  | succ turns ih =>
      cases hprimary : primary channels with
      | none =>
          have hempty := primary_eq_none_iff.mp hprimary
          refine ⟨channels, none, by simp [dispatchLoop, hprimary], ?_⟩
          exact ⟨List.Sublist.refl _, rfl, fun _ => hempty, by simp⟩
      | some index =>
          obtain ⟨before, channel, after, rfl, rfl, hbefore, hafter⟩ :=
            exists_append_of_primary hprimary
          have hget : (before ++ channel :: after)[before.length]? = some channel := by simp
          cases halive : channel.alive with
          | true =>
              refine ⟨before ++ channel :: after, some channel, ?_, ?_⟩
              · simp [dispatchLoop, hprimary, halive]
              · refine ⟨List.Sublist.refl _, rfl, by simp, ?_⟩
                rintro _ ⟨⟩
                exact ⟨halive, before, after, rfl, hbefore, hafter⟩
          | false =>
              have herase : (before ++ channel :: after).eraseIdx before.length =
                  before ++ after := by
                rw [List.eraseIdx_append_of_length_le (Nat.le_refl _)]
                simp
              have hshort : (before ++ after).length < turns := by
                simp only [List.length_append, List.length_cons] at hturns ⊢
                omega
              obtain ⟨rest, taker, hloop, hdone⟩ := ih hshort
              refine ⟨rest, taker, ?_, hdone.of_eraseIdx halive⟩
              rw [dispatchLoop, hprimary]
              simp only [hget, halive, Bool.false_eq_true, if_false, herase]
              exact hloop

theorem dispatchLoop_mono {turns more : ℕ} {channels : List FrontendChannel}
    {result : List FrontendChannel × Option FrontendChannel}
    (h : dispatchLoop turns channels = some result) (hmore : turns ≤ more) :
    dispatchLoop more channels = some result := by
  induction turns generalizing channels more with
  | zero => cases h
  | succ turns ih =>
      obtain ⟨more, rfl⟩ := Nat.exists_eq_add_of_le' hmore
      rw [← Nat.add_assoc, dispatchLoop]
      rw [dispatchLoop] at h
      split at h
      · exact h
      · split at h
        · cases h
        · split at h
          · rw [if_pos ‹_›]
            exact h
          · rw [if_neg ‹_›]
            exact ih h (by omega)

theorem dispatch_of_loop {w : Workspace} {rest : List FrontendChannel}
    {taker : Option FrontendChannel}
    (h : dispatchLoop (w.channels.length + 1) w.channels = some (rest, taker))
    (request : CommandRequest) :
    w.dispatch request = ({ w with channels := rest }, taker.map FrontendChannel.generation,
      taker.toList.map fun channel =>
        .sent channel.generation channel.window (.commandRequest request)) := by
  simp only [dispatch, h]
  rfl

/-- What `dispatch` does: it hands the request to the taker, if there is one, and
leaves everything but the channels alone. -/
theorem dispatch_spec (w : Workspace) (request : CommandRequest) :
    ∃ rest taker, Dispatched w.channels rest taker ∧
      w.dispatch request = ({ w with channels := rest }, taker.map FrontendChannel.generation,
        taker.toList.map fun channel =>
          .sent channel.generation channel.window (.commandRequest request)) := by
  obtain ⟨rest, taker, hloop, hdone⟩ :=
    dispatchLoop_terminates (Nat.lt_succ_self w.channels.length)
  exact ⟨rest, taker, hdone, dispatch_of_loop hloop request⟩

end Workspace

end Kallichore
