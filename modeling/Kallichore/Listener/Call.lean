import Kallichore.Listener.Loopback
import Kallichore.Workspaces.Token

/-!
# What a request to the MCP listener is given

A request is routed by its path, and what it is given beyond a status depends on the guards.
The server card is read by clients that have no token yet, so it is behind the loopback
guards alone; everything else is also behind the bearer token, which says which workspace is
meant. The path has to name the same one.
-/

namespace Kallichore

namespace Listener

/-- A request, as far as it matters before it is handed on. -/
structure Request where
  isGet : Bool
  path : List Char
  headers : HeaderMap

/-- What the listener knows when a request arrives. -/
structure McpState where
  workspaces : Workspaces
  /-- The order in which the records are gone through. -/
  order : List String
  port : Option UInt16
  /-- Whether there is a service for the workspace and the caller, or one can be made. -/
  serves : String → Option (List Char) → Bool

inductive Answer
  | status (code : ℕ) (text : String)
  | card (port : UInt16) (workspaceId displayName : String) (caller : Option (List Char))
  | presence (workspaceId : String) (caller : Option (List Char))
  | service (workspaceId : String) (caller : Option (List Char))

/-- The workspace that a request is given something of. -/
def Answer.workspace : Answer → Option String
  | .status _ _ => none
  | .card _ workspaceId _ _ => some workspaceId
  | .presence workspaceId _ => some workspaceId
  | .service workspaceId _ => some workspaceId

def Answer.isCard : Answer → Bool
  | .card _ _ _ _ => true
  | _ => false

def shuttingDown : Answer := .status 503 "The MCP server is shutting down"

def cardResponse (state : McpState) (request : Request) (workspaceId : String)
    (caller : Option (List Char)) : Answer :=
  if !request.isGet then .status 405 "A server card is read with GET"
  else
    match checkLoopback request.headers with
    | .error (.forbidden reason) => .status 403 reason
    | .error (.unauthorized reason) => .status 403 reason
    | .ok () =>
        match state.workspaces.lookup workspaceId with
        | none => .status 404 "No such workspace; its window may have closed"
        | some w =>
            match state.port with
            | none => shuttingDown
            | some port => .card port workspaceId w.displayName caller

def presenceResponse (state : McpState) (request : Request) (workspaceId : String)
    (caller : Option (List Char)) : Answer :=
  if !request.isGet then .status 405 "A presence stream is opened with GET"
  else
    match state.workspaces.lookup workspaceId with
    | none => .status 404 "No such workspace; its window may have closed"
    | some _ => .presence workspaceId caller

/-- `McpConnectionService::call`, up to the service that a request is handed to. -/
def call (state : McpState) (request : Request) : Answer :=
  match route request.path with
  | none => .status 404 "Not found; a workspace's MCP endpoint is at /mcp/w/<workspace-id>"
  | some endpoint =>
      let addressed := String.ofList endpoint.addressed
      if endpoint.card then cardResponse state request addressed endpoint.caller
      else
        match checkRequest request.headers with
        | .error (.forbidden reason) => .status 403 reason
        | .error (.unauthorized reason) => .status 401 reason
        | .ok token =>
            match state.workspaces.workspaceForToken state.order (String.ofList token) with
            | none => .status 401 "Invalid bearer token"
            | some workspaceId =>
                if workspaceId ≠ addressed then
                  .status 403 ("This token belongs to a different Positron workspace. Use the " ++
                    "URL and token from the same window, which its integrated terminals " ++
                    "publish as POSITRON_MCP_URL and POSITRON_MCP_TOKEN.")
                else if endpoint.presence then
                  presenceResponse state request workspaceId endpoint.caller
                else if !state.serves workspaceId endpoint.caller then shuttingDown
                else .service workspaceId endpoint.caller

/-! ## What the guards let through -/

variable {state : McpState} {request : Request} {workspaceId : String}

theorem checkLoopback_of_checkRequest {headers : HeaderMap} {token : List Char}
    (h : checkRequest headers = .ok token) :
    checkLoopback headers = .ok () ∧ bearerToken headers = some token := by
  rw [checkRequest, andThen_eq_ok_iff] at h
  refine ⟨h.1, ?_⟩
  cases hbearer : bearerToken headers with
  | none =>
      rw [hbearer] at h
      cases h.2
  | some found =>
      rw [hbearer] at h
      exact congrArg some (Except.ok.inj h.2)

/-- A card is of the workspace that is asked for, and given to this machine only. -/
theorem of_cardResponse {asked : String} {caller : Option (List Char)}
    (h : (cardResponse state request asked caller).workspace = some workspaceId) :
    asked = workspaceId ∧ checkLoopback request.headers = .ok () ∧
      (cardResponse state request asked caller).isCard = true := by
  simp only [cardResponse] at h ⊢
  split at h
  next => cases h
  next hget =>
    rw [if_neg hget]
    split at h
    next => cases h
    next => cases h
    next hguard =>
      split at h
      next => cases h
      next w =>
        split at h
        next => cases h
        next port =>
          exact ⟨Option.some.inj h, hguard, rfl⟩

theorem of_presenceResponse {asked : String} {caller : Option (List Char)}
    (h : (presenceResponse state request asked caller).workspace = some workspaceId) :
    asked = workspaceId := by
  rw [presenceResponse] at h
  split at h
  next => cases h
  next =>
    split at h
    next => cases h
    next => exact Option.some.inj h

/-- A request is given something of a workspace only if its path names the workspace and its
headers, as far as there are any, name this machine; and only a card without the token of the
workspace. -/
theorem call_guarded (h : (call state request).workspace = some workspaceId) :
    (∃ endpoint, route request.path = some endpoint ∧
      String.ofList endpoint.addressed = workspaceId) ∧
    (Accepted (request.headers .host) isLoopbackAuthority ∧
      Accepted (request.headers .origin) isLoopbackOrigin) ∧
    ((call state request).isCard = true ∨ ∃ token, bearerToken request.headers = some token ∧
      state.workspaces.Holds workspaceId (String.ofList token)) := by
  rw [← checkLoopback_eq_ok_iff]
  simp only [call] at h ⊢
  split at h
  next => cases h
  next endpoint hroute =>
    simp only [hroute]
    split at h
    next hcard =>
      obtain ⟨hasked, hguard, hisCard⟩ := of_cardResponse h
      rw [if_pos hcard]
      exact ⟨⟨endpoint, rfl, hasked⟩, hguard, Or.inl hisCard⟩
    next hcard =>
      split at h
      next => cases h
      next => cases h
      next token htoken =>
        obtain ⟨hguard, hbearer⟩ := checkLoopback_of_checkRequest htoken
        split at h
        next => cases h
        next found hfound =>
          have hholds := Workspaces.holds_of_workspaceForToken hfound
          split at h
          next => cases h
          next hsame =>
            rw [not_not] at hsame
            have hworkspace : found = workspaceId := by
              split at h
              next => exact of_presenceResponse h
              next =>
                split at h
                next => cases h
                next => exact Option.some.inj h
            refine ⟨⟨endpoint, rfl, hsame.symm.trans hworkspace⟩, hguard, Or.inr ?_⟩
            exact ⟨token, hbearer, hworkspace ▸ hholds⟩

end Listener

end Kallichore
