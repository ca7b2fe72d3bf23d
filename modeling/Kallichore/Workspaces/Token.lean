import Kallichore.Workspaces.Registry

/-!
# Whose token it is

`workspace_for_token` goes through the records and keeps the last one whose token
matches, so it finds a workspace by its token in every order of the records exactly
if no other workspace has the same token (`reaches_iff`). No step but a
registration gives a workspace a token, and a registration may give it one that
another workspace holds: the caller supplies it, and it is checked for its form
only.
-/

namespace Kallichore

namespace Workspaces

theorem foldl_diff_eq_zero_iff (pairs : List (UInt8 × UInt8)) (diff : UInt8) :
    pairs.foldl (fun diff pair => diff ||| (pair.1 ^^^ pair.2)) diff = 0 ↔
      diff = 0 ∧ ∀ pair ∈ pairs, pair.1 = pair.2 := by
  induction pairs generalizing diff with
  | nil => simp
  | cons pair pairs ih =>
      rw [List.foldl_cons, ih, UInt8.or_eq_zero_iff, UInt8.xor_eq_zero_iff, List.forall_mem_cons,
        and_assoc]

theorem constantTimeEq_iff {a b : List UInt8} : constantTimeEq a b = true ↔ a = b := by
  unfold constantTimeEq
  split
  · rename_i hlen
    constructor
    · intro h
      cases h
    · rintro rfl
      exact absurd rfl hlen
  · rename_i hlen
    rw [beq_iff_eq, foldl_diff_eq_zero_iff]
    simp only [true_and]
    have hlen : a.length = b.length := not_not.mp hlen
    constructor
    · intro h
      apply List.ext_getElem hlen
      intro i ha hb
      have hi : i < (a.zip b).length := by
        rw [List.length_zip]
        omega
      have := h _ (List.getElem_mem hi)
      rwa [List.getElem_zip] at this
    · rintro rfl pair hpair
      obtain ⟨i, hi, rfl⟩ := List.getElem_of_mem hpair
      rw [List.getElem_zip]

theorem asBytes_inj {s t : String} : asBytes s = asBytes t ↔ s = t := by
  unfold asBytes
  rw [Array.toList_inj, ← String.toByteArray_inj]
  constructor
  · intro h
    exact ByteArray.ext h
  · intro h
    rw [h]

def Holds (workspaces : Workspaces) (id token : String) : Prop :=
  ∃ w, workspaces.lookup id = some w ∧ w.token = token

variable {workspaces : Workspaces}

/-- One turn of the loop of `workspace_for_token`. -/
theorem workspaceForToken_concat (order : List String) (id token : String) :
    (Holds workspaces id token →
      workspaceForToken workspaces (order ++ [id]) token = some id) ∧
    (¬Holds workspaces id token → workspaceForToken workspaces (order ++ [id]) token =
      workspaceForToken workspaces order token) := by
  unfold workspaceForToken
  rw [List.foldl_append, List.foldl_cons, List.foldl_nil]
  constructor
  · rintro ⟨w, hw, rfl⟩
    simp only [hw]
    rw [if_pos (constantTimeEq_iff.mpr rfl)]
  · intro hnot
    cases hw : workspaces.lookup id with
    | none => rfl
    | some w =>
        simp only
        rw [if_neg]
        intro h
        exact hnot ⟨w, hw, asBytes_inj.mp (constantTimeEq_iff.mp h)⟩

theorem holds_of_workspaceForToken {order : List String} {id token : String}
    (h : workspaceForToken workspaces order token = some id) : Holds workspaces id token := by
  induction order using List.reverseRecOn with
  | nil => cases h
  | append_singleton order last ih =>
      by_cases hlast : Holds workspaces last token
      · rw [(workspaceForToken_concat order last token).1 hlast] at h
        cases h
        exact hlast
      · rw [(workspaceForToken_concat order last token).2 hlast] at h
        exact ih h

/-- Some workspace is found if one of those gone through holds the token. -/
theorem workspaceForToken_ne_none {order : List String} {id token : String} (hmem : id ∈ order)
    (hid : Holds workspaces id token) : workspaceForToken workspaces order token ≠ none := by
  induction order using List.reverseRecOn with
  | nil => cases hmem
  | append_singleton order last ih =>
      by_cases hlast : Holds workspaces last token
      · rw [(workspaceForToken_concat order last token).1 hlast]
        simp
      · rw [(workspaceForToken_concat order last token).2 hlast]
        apply ih
        obtain hmem | hmem := List.mem_append.mp hmem
        · exact hmem
        · rw [List.mem_singleton.mp hmem] at hid
          exact absurd hid hlast

/-- A workspace's token reaches that workspace, and a token nobody holds reaches
none, in whatever order the records are gone through. -/
def TokensReach (workspaces : Workspaces) : Prop :=
  ∀ order, order.Perm workspaces.keys →
    (∀ id w, workspaces.lookup id = some w →
      workspaceForToken workspaces order w.token = some id) ∧
    ∀ token, (∀ id w, workspaces.lookup id = some w → w.token ≠ token) →
      workspaceForToken workspaces order token = none

def TokensDistinct (workspaces : Workspaces) : Prop :=
  ∀ id id' w w', workspaces.lookup id = some w → workspaces.lookup id' = some w' →
    w.token = w'.token → id = id'

theorem tokensReach_iff : TokensReach workspaces ↔ TokensDistinct workspaces := by
  constructor
  · intro h id id' w w' hw hw' htoken
    obtain ⟨hreach, -⟩ := h workspaces.keys (List.Perm.refl _)
    have hid := hreach id w hw
    rw [htoken, hreach id' w' hw'] at hid
    exact (Option.some.inj hid).symm
  · intro h order horder
    constructor
    · intro id w hw
      have hmem : id ∈ order := by
        rw [horder.mem_iff, ← AList.mem_keys, ← AList.lookup_isSome, hw]
        rfl
      obtain ⟨found, hfound⟩ :=
        Option.ne_none_iff_exists'.mp (workspaceForToken_ne_none hmem ⟨w, hw, rfl⟩)
      obtain ⟨w', hw', htoken⟩ := holds_of_workspaceForToken hfound
      rw [hfound, h found id w' w hw' hw htoken]
    · intro token hnone
      cases hfound : workspaceForToken workspaces order token with
      | none => rfl
      | some id =>
          obtain ⟨w, hw, htoken⟩ := holds_of_workspaceForToken hfound
          exact absurd htoken (hnone id w hw)

theorem tokensDistinct_insert {id : String} {w : Workspace} (h : TokensDistinct workspaces)
    (hother : ∀ id' w', id' ≠ id → workspaces.lookup id' = some w' → w'.token ≠ w.token) :
    TokensDistinct (workspaces.insert id w) := by
  intro i j u v hu hv htoken
  by_cases hi : i = id
  · by_cases hj : j = id
    · rw [hi, hj]
    · rw [hi, AList.lookup_insert] at hu
      rw [AList.lookup_insert_ne hj] at hv
      cases hu
      exact absurd htoken.symm (hother j v hj hv)
  · rw [AList.lookup_insert_ne hi] at hu
    by_cases hj : j = id
    · rw [hj, AList.lookup_insert] at hv
      cases hv
      exact absurd htoken (hother i u hi hu)
    · rw [AList.lookup_insert_ne hj] at hv
      exact h i j u v hu hv htoken

theorem other_of_tokensDistinct_insert {id : String} {w : Workspace}
    (h : TokensDistinct (workspaces.insert id w)) {id' : String} {w' : Workspace} (hne : id' ≠ id)
    (hw' : workspaces.lookup id' = some w') : w'.token ≠ w.token := by
  intro htoken
  refine hne (h id' id w' w ?_ (AList.lookup_insert _) htoken)
  rwa [AList.lookup_insert_ne hne]

/-- Where the workspaces have the tokens they had before, nothing changes. -/
theorem TokensDistinct.of_same {workspaces' : Workspaces} (h : TokensDistinct workspaces)
    (hsame : ∀ id w', workspaces'.lookup id = some w' →
      ∃ w, workspaces.lookup id = some w ∧ w'.token = w.token) : TokensDistinct workspaces' := by
  intro i j u v hu hv htoken
  obtain ⟨u', hu', hutoken⟩ := hsame i u hu
  obtain ⟨v', hv', hvtoken⟩ := hsame j v hv
  exact h i j u' v' hu' hv' (by rw [← hutoken, ← hvtoken, htoken])

theorem same_of_modify {id : String} {f : Workspace → Workspace}
    (hf : ∀ w, (f w).token = w.token) {id' : String} {w' : Workspace}
    (hw' : (workspaces.modify id f).lookup id' = some w') :
    ∃ w, workspaces.lookup id' = some w ∧ w'.token = w.token := by
  rw [lookup_modify] at hw'
  split at hw'
  · rename_i hid
    obtain ⟨w, hw, rfl⟩ := Option.map_eq_some_iff.mp hw'
    exact ⟨w, hid ▸ hw, hf w⟩
  · exact ⟨w', hw', rfl⟩

/-- The token a registration brings with it: the one that is supplied, or a new
one for a workspace that was not registered. -/
def newToken (workspaces : Workspaces) (registration : McpWorkspaceRegistration)
    (bytes : List UInt8) : Option String :=
  match suppliedToken registration, existing workspaces registration with
  | some token, _ => some token
  | none, some _ => none
  | none, none => some (generateToken bytes)

theorem lookup_of_existing {registration : McpWorkspaceRegistration} {id : String}
    {w : Workspace} (h : existing workspaces registration = some (id, w)) :
    registration.workspaceId = some id ∧ workspaces.lookup id = some w := by
  obtain ⟨i, hid, hmap⟩ := Option.bind_eq_some_iff.mp h
  obtain ⟨v, hv, heq⟩ := Option.map_eq_some_iff.mp hmap
  cases heq
  exact ⟨hid, hv⟩

theorem lookup_newId {registration : McpWorkspaceRegistration} {draws : List String}
    {id : String} (hnone : existing workspaces registration = none)
    (h : newId workspaces registration draws = some id) : workspaces.lookup id = none := by
  have hmint : mintId registration.displayName draws workspaces = some id →
      workspaces.lookup id = none := by
    intro h
    exact AList.lookup_eq_none.mpr (by simpa using List.find?_some h)
  unfold newId at h
  cases hid : registration.workspaceId with
  | none =>
      rw [hid] at h
      exact hmint h
  | some supplied =>
      simp only [hid] at h
      split at h
      · cases h
        rw [existing, hid] at hnone
        exact Option.map_eq_none_iff.mp hnone
      · exact hmint h

theorem register_cases {registration : McpWorkspaceRegistration} {draws : List String}
    {bytes : List UInt8} {result : Workspaces × String × String}
    (h : register workspaces registration draws bytes = some result) :
    ∃ id w, result.1 = workspaces.insert id w ∧
      ((registration.workspaceId = some id ∧ ∃ v, workspaces.lookup id = some v ∧
          existing workspaces registration = some (id, v) ∧
          w.token = (suppliedToken registration).getD v.token) ∨
        (existing workspaces registration = none ∧ workspaces.lookup id = none ∧
          w.token = (suppliedToken registration).getD (generateToken bytes))) := by
  unfold register at h
  cases he : existing workspaces registration with
  | some found =>
      obtain ⟨id, v⟩ := found
      rw [he] at h
      cases h
      obtain ⟨hid, hv⟩ := lookup_of_existing he
      exact ⟨id, _, rfl, Or.inl ⟨hid, v, hv, rfl, rfl⟩⟩
  | none =>
      rw [he] at h
      obtain ⟨id, hid, rfl⟩ := Option.map_eq_some_iff.mp h
      exact ⟨id, _, rfl, Or.inr ⟨rfl, lookup_newId he hid, rfl⟩⟩

end Workspaces

namespace Workspace

theorem token_redispatch (w : Workspace) (id : String) : (w.redispatch id).1.token = w.token := by
  unfold redispatch
  cases w.pending.lookup id with
  | none => rfl
  | some pending =>
      obtain ⟨rest, taker, -, heq⟩ :=
        dispatch_spec { w with pending := w.pending.erase id } pending.request
      simp only [heq]
      cases taker <;> rfl

theorem token_redispatchAll (w : Workspace) (orphans : List (List ℕ × String)) :
    (w.redispatchAll orphans).1.token = w.token := by
  induction orphans generalizing w with
  | nil => rfl
  | cons orphan orphans ih => exact (ih _).trans (token_redispatch _ _)

theorem token_detachChannel (w : Workspace) (now generation : ℕ)
    (orphans : List (List ℕ × String)) :
    (w.detachChannel now generation orphans).1.token = w.token := by
  simp only [detachChannel]
  split <;> exact token_redispatchAll _ _

theorem token_handleMessage (w : Workspace) (generation : ℕ) (message : FrontendMessage) :
    (w.handleMessage generation message).1.token = w.token := by
  cases message with
  | hello hello =>
      simp only [handleMessage]
      split <;> rfl
  | commandReply reply =>
      simp only [handleMessage]
      split <;> rfl
  | _ => rfl

theorem token_enqueue (w : Workspace) (now call : ℕ) (request : CommandRequest) :
    (w.enqueue now call request).1.token = w.token := by
  obtain ⟨rest, taker, -, heq⟩ := dispatch_spec w request
  simp only [enqueue, heq]
  cases taker <;> rfl

theorem token_removeClient (w : Workspace) (id : Int32) : (w.removeClient id).1.token = w.token := by
  unfold removeClient
  split <;> rfl

end Workspace

namespace Registry

open Workspaces

/-- No other workspace holds the token that a registration brings. -/
def TokenFree (r : Registry) : Act → Prop
  | .register registration _ bytes =>
      ∀ token ∈ r.workspaces.newToken registration bytes, ∀ id w,
        r.workspaces.lookup id = some w → registration.workspaceId ≠ some id → w.token ≠ token
  | _ => True

theorem same_of_step {r t : Registry} {a : Act} (h : machine.step r a = some t)
    (hother : ∀ registration draws bytes, a ≠ .register registration draws bytes) {id : String}
    {w' : Workspace} (hw' : t.workspaces.lookup id = some w') :
    ∃ w, r.workspaces.lookup id = some w ∧ w'.token = w.token := by
  cases change_of_step h with
  | register => exact absurd rfl (hother _ _ _)
  | deregister id' =>
      simp only [deregister] at hw'
      cases hlookup : r.workspaces.lookup id' with
      | none =>
          simp only [hlookup] at hw'
          exact ⟨w', hw', rfl⟩
      | some w =>
          simp only [hlookup] at hw'
          by_cases hid : id = id'
          · rw [hid, AList.lookup_erase] at hw'
            cases hw'
          · rw [AList.lookup_erase_ne hid] at hw'
            exact ⟨w', hw', rfl⟩
  | @attached window => exact same_of_modify (f := (·.attach window)) (fun _ => rfl) hw'
  | unknown => exact ⟨w', hw', rfl⟩
  | handleMessage => exact same_of_modify (fun w => w.token_handleMessage _ _) hw'
  | detachChannel => exact same_of_modify (fun w => w.token_detachChannel _ _ _) hw'
  | @dropReceiver window =>
      exact same_of_modify (f := (·.dropReceivers [window])) (fun _ => rfl) hw'
  | @added lease _ now info =>
      exact same_of_modify (f := fun w => (w.addClient lease now info).1) (fun _ => rfl) hw'
  | unlisted => exact ⟨w', hw', rfl⟩
  | removeClient => exact same_of_modify (fun w => w.token_removeClient _) hw'
  | enqueue => exact same_of_modify (fun w => w.token_enqueue _ _ _) hw'
  | cancelPending id' requestId =>
      exact same_of_modify (f := fun w => (w.cancelPending requestId).1) (fun _ => rfl) hw'

/-- A registration whose token is free keeps tokens apart, and no other does. -/
theorem tokensDistinct_register {r : Registry} {registration : McpWorkspaceRegistration}
    {draws : List String} {bytes : List UInt8} {result : Workspaces × String × String}
    (h : r.workspaces.register registration draws bytes = some result) :
    (TokensDistinct result.1 → TokenFree r (.register registration draws bytes)) ∧
      (TokensDistinct r.workspaces → TokenFree r (.register registration draws bytes) →
        TokensDistinct result.1) := by
  obtain ⟨id, w, heq, ⟨hid, v, hv, he, htoken⟩ | ⟨he, hnone, htoken⟩⟩ := register_cases h
  · rw [heq]
    constructor
    · intro hdistinct token hnew id' w' hw' hne
      have hne : id' ≠ id := by
        rintro rfl
        exact hne hid
      have hother := other_of_tokensDistinct_insert hdistinct hne hw'
      rw [htoken] at hother
      unfold newToken at hnew
      cases hsupplied : suppliedToken registration with
      | none =>
          rw [hsupplied, he] at hnew
          cases hnew
      | some supplied =>
          rw [hsupplied] at hnew hother
          cases hnew
          exact hother
    · intro hr hfree
      apply tokensDistinct_insert hr
      intro id' w' hne hw'
      rw [htoken]
      cases hsupplied : suppliedToken registration with
      | none =>
          intro htok
          exact hne (hr id' id w' v hw' hv htok)
      | some supplied =>
          apply hfree supplied _ id' w' hw'
          · rw [hid]
            exact fun h => hne (Option.some.inj h).symm
          · rw [newToken, hsupplied]
            rfl
  · have hnew : newToken r.workspaces registration bytes = some w.token := by
      rw [htoken, newToken, he]
      cases suppliedToken registration <;> rfl
    have hname : ∀ id' w', r.workspaces.lookup id' = some w' →
        registration.workspaceId ≠ some id' := by
      intro id' w' hw' hid'
      rw [existing, hid'] at he
      rw [Option.map_eq_none_iff.mp he] at hw'
      cases hw'
    have hne : ∀ id' w', r.workspaces.lookup id' = some w' → id' ≠ id := by
      rintro id' w' hw' rfl
      cases hnone.symm.trans hw'
    rw [heq]
    constructor
    · intro hdistinct token htok id' w' hw' _
      rw [hnew] at htok
      cases htok
      exact other_of_tokensDistinct_insert hdistinct (hne id' w' hw') hw'
    · intro hr hfree
      apply tokensDistinct_insert hr
      intro id' w' _ hw'
      exact hfree w.token hnew id' w' hw' (hname id' w' hw')

theorem tokenFree_of_step (r : Registry) (a : Act) (t : Registry)
    (h : machine.step r a = some t) (ht : TokensDistinct t.workspaces) : TokenFree r a := by
  cases change_of_step h with
  | register hresult => exact (tokensDistinct_register hresult).1 ht
  | _ => trivial

theorem tokensDistinct_of_step :
    machine.Preserves TokenFree fun r => TokensDistinct r.workspaces := by
  intro r a t hr hfree h
  cases hchange : change_of_step h with
  | register hresult => exact (tokensDistinct_register hresult).2 hr hfree
  | _ => exact hr.of_same fun id w' hw' => same_of_step h (by simp) hw'

theorem tokensDistinct_new : TokensDistinct new.workspaces := by
  intro id id' w w' hw
  cases hw

/-- Along a run, every workspace's token reaches that workspace, and a token nobody
holds reaches none, exactly if no registration of the run brings a token that
another workspace holds. -/
theorem tokensReach_iff_free (acts : List Act) {r : Registry}
    (hrun : machine.run new acts = some r) :
    (∀ before after u, acts = before ++ after → machine.run new before = some u →
      TokensReach u.workspaces) ↔ machine.Meets TokenFree new acts := by
  simp only [tokensReach_iff]
  exact machine.forall_prefix_iff_meets tokensDistinct_of_step
    (fun r a t _ => tokenFree_of_step r a t) tokensDistinct_new hrun

/-- A token may move to another workspace once the first is deregistered. -/
theorem tokensReach_iff_free_moved :
    ∃ r, machine.run new
        [.register ⟨some "a", "A", some (generateToken (List.replicate 32 7))⟩ []
          (List.replicate 32 0), .deregister "a",
        .register ⟨some "b", "B", some (generateToken (List.replicate 32 7))⟩ []
          (List.replicate 32 0)] = some r ∧
      TokensReach r.workspaces := by
  refine ⟨_, rfl, (tokensReach_iff_free
    [.register ⟨some "a", "A", some (generateToken (List.replicate 32 7))⟩ []
      (List.replicate 32 0), .deregister "a",
    .register ⟨some "b", "B", some (generateToken (List.replicate 32 7))⟩ []
      (List.replicate 32 0)] rfl).mpr ?_ _ [] _ (List.append_nil _).symm rfl⟩
  refine ⟨?_, fun t ht => ⟨trivial, fun u hu => ⟨?_, fun _ _ => trivial⟩⟩⟩
  · intro token _ id w hw
    cases hw
  · cases ht
    cases hu
    intro token _ id w hw
    cases hw

/-- Two workspaces are registered with one token, and it cannot reach both. -/
theorem not_tokensReach_shared :
    ∃ r, machine.run new
        [.register ⟨some "a", "A", some (generateToken (List.replicate 32 7))⟩ []
          (List.replicate 32 0),
        .register ⟨some "b", "B", some (generateToken (List.replicate 32 7))⟩ []
          (List.replicate 32 1)] = some r ∧
      ¬TokensReach r.workspaces := by
  refine ⟨_, rfl, fun h => ?_⟩
  rw [tokensReach_iff] at h
  have hsame : "a" = "b" := h "a" "b" _ _ rfl rfl (by decide +kernel)
  exact absurd hsame (by decide)

end Registry

end Kallichore
