import Kallichore.Lib.Machine
import Kallichore.Lib.Utf8
import Kallichore.Workspaces.Dispatch
import Mathlib.Data.List.DropRight
import Mathlib.Logic.Function.Basic

/-!
# The workspace registry

The registry maps workspace IDs to records. `Registry` is the registry together
with the tasks that hold numbers of its records: the connections of windows, which
keep the ID of their workspace and the generation they were given, and the leases
of connected agents, which keep the workspace ID and their client ID. Both hand
these numbers back later, when the record under that ID may be another one.

What is random is an argument: the suffixes drawn for a new ID and the bytes of a
new token.
-/

namespace Kallichore

/-- What a window asks for when it registers its workspace. -/
structure McpWorkspaceRegistration where
  workspaceId : Option String
  displayName : String
  token : Option String

abbrev Workspaces := AList fun _ : String => Workspace

namespace Workspaces

def maxSlugLen : ℕ := 24

def suffixLen : ℕ := 6

def maxIdLen : ℕ := 40

def fallbackSlug : List Char := "workspace".toList

def tokenBytes : ℕ := 32

def tokenLen : ℕ := tokenBytes * 2

/-- The loop of `slugify`, from the slug so far. -/
def slugChars : List Char → List Char → List Char
  | slug, [] => slug
  | slug, ch :: rest =>
      if maxSlugLen ≤ slug.length then slug
      else if ch.isAlphanum then slugChars (slug ++ [ch.toLower]) rest
      else if slug ≠ [] ∧ slug.getLast? ≠ some '-' then slugChars (slug ++ ['-']) rest
      else slugChars slug rest

/-- Reduce a display name to the readable part of an ID. -/
def slugify (displayName : String) : List Char :=
  let slug := (slugChars [] displayName.toList).rdropWhile (· == '-')
  if slug.isEmpty then fallbackSlug else slug

/-- The suffix consists of characters that `random_suffix` draws. -/
def isSuffix (suffix : String) : Bool :=
  suffix.length == suffixLen && suffix.toList.all fun ch => ch.isLower || ch.isDigit

/-- Mint an ID: the slug and the first drawn suffix that makes it a new one. There
is none while the draws go on. -/
def mintId (displayName : String) (draws : List String) (taken : Workspaces) : Option String :=
  (draws.map fun suffix =>
    String.ofList (slugify displayName ++ '-' :: suffix.toList)).find? fun id => id ∉ taken

/-- Whether an ID is safe to route on and readable enough to print. -/
def isValidId (id : String) : Bool :=
  let chars := id.toList
  !chars.isEmpty && Utf8.utf8Len chars ≤ maxIdLen && chars.head? != some '-' &&
    chars.getLast? != some '-' && chars.all fun ch => ch.isLower || ch.isDigit || ch == '-'

def hexDigit (n : ℕ) : Char := "0123456789abcdef".toList.getD n '0'

/-- The token rendered from random bytes. -/
def generateToken (bytes : List UInt8) : String :=
  String.ofList (bytes.flatMap fun byte =>
    [hexDigit (byte.toNat / 16), hexDigit (byte.toNat % 16)])

def isAsciiHexdigit (ch : Char) : Bool :=
  ch.isDigit || ('a' ≤ ch && ch ≤ 'f') || ('A' ≤ ch && ch ≤ 'F')

/-- Whether a token the caller supplied is one the server would have issued. -/
def isValidToken (token : String) : Bool :=
  Utf8.utf8Len token.toList == tokenLen && token.toList.all isAsciiHexdigit

/-- Compare two byte strings without stopping at the first difference. -/
def constantTimeEq (a b : List UInt8) : Bool :=
  if a.length ≠ b.length then false
  else (a.zip b).foldl (fun diff pair => diff ||| (pair.1 ^^^ pair.2)) 0 == 0

def asBytes (s : String) : List UInt8 := s.toByteArray.data.toList

def suppliedToken (registration : McpWorkspaceRegistration) : Option String :=
  registration.token.filter isValidToken

/-- The record the registration names, if there is one. -/
def existing (workspaces : Workspaces) (registration : McpWorkspaceRegistration) :
    Option (String × Workspace) :=
  registration.workspaceId.bind fun id => (workspaces.lookup id).map fun w => (id, w)

/-- The ID of a workspace that was not registered before. -/
def newId (workspaces : Workspaces) (registration : McpWorkspaceRegistration)
    (draws : List String) : Option String :=
  match registration.workspaceId with
  | some supplied =>
      if isValidId supplied then some supplied
      else mintId registration.displayName draws workspaces
  | none => mintId registration.displayName draws workspaces

/-- Register a workspace, or update the record when the ID is known. Gives the
workspace ID and its token. -/
def register (workspaces : Workspaces) (registration : McpWorkspaceRegistration)
    (draws : List String) (bytes : List UInt8) : Option (Workspaces × String × String) :=
  match existing workspaces registration with
  | some (id, w) =>
      let token := (suppliedToken registration).getD w.token
      let w := { w with displayName := registration.displayName, token }
      some (workspaces.insert id w, id, token)
  | none =>
      (newId workspaces registration draws).map fun id =>
        let token := (suppliedToken registration).getD (generateToken bytes)
        (workspaces.insert id (.new registration.displayName token), id, token)

/-- Remove a workspace, ending its clients' presence connections. -/
def deregister (workspaces : Workspaces) (id : String) : Workspaces × List Effect :=
  match workspaces.lookup id with
  | none => (workspaces, [])
  | some w => (workspaces.erase id, w.clients.map fun client => .cancelled client.lease)

/-- Find the workspace a bearer token belongs to, going through the records in the
given order. -/
def workspaceForToken (workspaces : Workspaces) (order : List String) (token : String) :
    Option String :=
  order.foldl (fun found id =>
    match workspaces.lookup id with
    | some w => if constantTimeEq (asBytes w.token) (asBytes token) then some id else found
    | none => found) none

/-- An operation on the record under this ID, if there is one. -/
def modify (workspaces : Workspaces) (id : String) (f : Workspace → Workspace) : Workspaces :=
  match workspaces.lookup id with
  | none => workspaces
  | some w => workspaces.insert id (f w)

theorem lookup_modify (workspaces : Workspaces) (id id' : String) (f : Workspace → Workspace) :
    (workspaces.modify id f).lookup id' =
      if id' = id then (workspaces.lookup id).map f else workspaces.lookup id' := by
  cases h : workspaces.lookup id with
  | none =>
      by_cases hid : id' = id
      · rw [hid]
        simp [modify, h]
      · simp [modify, h, hid]
  | some w =>
      by_cases hid : id' = id
      · rw [hid]
        simp [modify, h]
      · simp [modify, h, hid]

end Workspaces

/-- A task that is given a number by a record. -/
inductive Enrolment (ν : Type)
  | fresh
  | joined (workspaceId : String) (number : ν)
  | gone
  deriving DecidableEq

structure Registry where
  workspaces : Workspaces
  windows : ℕ → Enrolment ℕ
  leases : ℕ → Enrolment Int32

namespace Registry

def new : Registry where
  workspaces := ∅
  windows := fun _ => .fresh
  leases := fun _ => .fresh

inductive Act
  | register (registration : McpWorkspaceRegistration) (draws : List String)
      (bytes : List UInt8)
  | deregister (id : String)
  /-- A window connects. -/
  | attachChannel (window : ℕ) (id : String)
  /-- The connection of the window received a message. -/
  | handleMessage (window : ℕ) (message : FrontendMessage)
  /-- The connection of the window has ended. -/
  | detachChannel (window now : ℕ) (orphans : List (List ℕ × String))
  | dropReceiver (window : ℕ)
  | addClient (lease : ℕ) (id : String) (now : ℕ) (info : McpClient)
  /-- `remove_client` runs for a dropped lease. -/
  | removeClient (lease : ℕ)
  | enqueue (id : String) (now call : ℕ) (request : CommandRequest)
  | cancelPending (id requestId : String)

/-- An operation on the record under this ID. -/
def modify (r : Registry) (id : String) (f : Workspace → Workspace) : Registry :=
  { r with workspaces := r.workspaces.modify id f }

/-- What `detach_channel` iterates over are the requests of the window. -/
def detachable (workspaces : Workspaces) (id : String) (generation : ℕ)
    (orphans : List (List ℕ × String)) : Bool :=
  match workspaces.lookup id with
  | none => true
  | some w => decide ((orphans.map Prod.snd).Perm (w.orphaned generation))

def step (r : Registry) : Act → Option Registry
  | .register registration draws bytes =>
      if draws.all Workspaces.isSuffix && bytes.length == Workspaces.tokenBytes then
        (r.workspaces.register registration draws bytes).map fun result =>
          { r with workspaces := result.1 }
      else none
  | .deregister id => some { r with workspaces := (r.workspaces.deregister id).1 }
  | .attachChannel window id =>
      match r.windows window with
      | .fresh =>
          match r.workspaces.lookup id with
          | none => some { r with windows := Function.update r.windows window .gone }
          | some w =>
              some { r.modify id (·.attach window) with
                windows :=
                  Function.update r.windows window (.joined id (w.nextGeneration + 1)) }
      | _ => none
  | .handleMessage window message =>
      match r.windows window with
      | .joined id generation => some (r.modify id fun w => (w.handleMessage generation message).1)
      | _ => none
  | .detachChannel window now orphans =>
      match r.windows window with
      | .joined id generation =>
          if detachable r.workspaces id generation orphans then
            some { r.modify id fun w => (w.detachChannel now generation orphans).1 with
              windows := Function.update r.windows window .gone }
          else none
      | _ => none
  | .dropReceiver window =>
      match r.windows window with
      | .joined id _ => some (r.modify id (·.dropReceivers [window]))
      | _ => none
  | .addClient lease id now info =>
      match r.leases lease with
      | .fresh =>
          match r.workspaces.lookup id with
          | none => some { r with leases := Function.update r.leases lease .gone }
          | some w =>
              some { r.modify id fun w => (w.addClient lease now info).1 with
                leases := Function.update r.leases lease (.joined id (w.nextClientId + 1)) }
      | _ => none
  | .removeClient lease =>
      match r.leases lease with
      | .joined id client =>
          some { r.modify id fun w => (w.removeClient client).1 with
            leases := Function.update r.leases lease .gone }
      | _ => none
  | .enqueue id now call request => some (r.modify id fun w => (w.enqueue now call request).1)
  | .cancelPending id requestId => some (r.modify id fun w => (w.cancelPending requestId).1)

def machine : Machine Registry Act := ⟨step⟩

inductive Change (r : Registry) : Act → Registry → Prop
  | register {registration : McpWorkspaceRegistration} {draws : List String} {bytes : List UInt8}
      {result : Workspaces × String × String}
      (hresult : r.workspaces.register registration draws bytes = some result) :
      Change r (.register registration draws bytes) { r with workspaces := result.1 }
  | deregister (id : String) :
      Change r (.deregister id) { r with workspaces := (r.workspaces.deregister id).1 }
  | attached {window : ℕ} {id : String} {w : Workspace} (hwindow : r.windows window = .fresh)
      (hw : r.workspaces.lookup id = some w) : Change r (.attachChannel window id)
        { r.modify id (·.attach window) with
          windows := Function.update r.windows window (.joined id (w.nextGeneration + 1)) }
  | unknown {window : ℕ} {id : String} (hwindow : r.windows window = .fresh)
      (hw : r.workspaces.lookup id = none) : Change r (.attachChannel window id)
        { r with windows := Function.update r.windows window .gone }
  | handleMessage {window : ℕ} {message : FrontendMessage} {id : String} {generation : ℕ}
      (hwindow : r.windows window = .joined id generation) :
      Change r (.handleMessage window message)
        (r.modify id fun w => (w.handleMessage generation message).1)
  | detachChannel {window now : ℕ} {orphans : List (List ℕ × String)} {id : String}
      {generation : ℕ} (hwindow : r.windows window = .joined id generation)
      (horphans : detachable r.workspaces id generation orphans = true) :
      Change r (.detachChannel window now orphans)
        { r.modify id fun w => (w.detachChannel now generation orphans).1 with
          windows := Function.update r.windows window .gone }
  | dropReceiver {window : ℕ} {id : String} {generation : ℕ}
      (hwindow : r.windows window = .joined id generation) :
      Change r (.dropReceiver window) (r.modify id (·.dropReceivers [window]))
  | added {lease : ℕ} {id : String} {now : ℕ} {info : McpClient} {w : Workspace}
      (hlease : r.leases lease = .fresh) (hw : r.workspaces.lookup id = some w) :
      Change r (.addClient lease id now info)
        { r.modify id fun w => (w.addClient lease now info).1 with
          leases := Function.update r.leases lease (.joined id (w.nextClientId + 1)) }
  | unlisted {lease : ℕ} {id : String} {now : ℕ} {info : McpClient}
      (hlease : r.leases lease = .fresh) (hw : r.workspaces.lookup id = none) :
      Change r (.addClient lease id now info)
        { r with leases := Function.update r.leases lease .gone }
  | removeClient {lease : ℕ} {id : String} {client : Int32}
      (hlease : r.leases lease = .joined id client) : Change r (.removeClient lease)
        { r.modify id fun w => (w.removeClient client).1 with
          leases := Function.update r.leases lease .gone }
  | enqueue (id : String) (now call : ℕ) (request : CommandRequest) :
      Change r (.enqueue id now call request)
        (r.modify id fun w => (w.enqueue now call request).1)
  | cancelPending (id requestId : String) : Change r (.cancelPending id requestId)
      (r.modify id fun w => (w.cancelPending requestId).1)

theorem change_of_step {r t : Registry} {a : Act} (h : machine.step r a = some t) :
    Change r a t := by
  change step r a = some t at h
  cases a with
  | register registration draws bytes =>
      simp only [step] at h
      split at h
      · obtain ⟨result, hresult, rfl⟩ := Option.map_eq_some_iff.mp h
        exact .register hresult
      · cases h
  | deregister id =>
      cases h
      exact .deregister id
  | attachChannel window id =>
      simp only [step] at h
      split at h
      · split at h
        · cases h
          exact .unknown ‹_› ‹_›
        · cases h
          exact .attached ‹_› ‹_›
      · cases h
  | handleMessage window message =>
      simp only [step] at h
      split at h
      · cases h
        exact .handleMessage ‹_›
      · cases h
  | detachChannel window now orphans =>
      simp only [step] at h
      split at h
      · split at h
        · cases h
          exact .detachChannel ‹_› ‹_›
        · cases h
      · cases h
  | dropReceiver window =>
      simp only [step] at h
      split at h
      · cases h
        exact .dropReceiver ‹_›
      · cases h
  | addClient lease id now info =>
      simp only [step] at h
      split at h
      · split at h
        · cases h
          exact .unlisted ‹_› ‹_›
        · cases h
          exact .added ‹_› ‹_›
      · cases h
  | removeClient lease =>
      simp only [step] at h
      split at h
      · cases h
        exact .removeClient ‹_›
      · cases h
  | enqueue id now call request =>
      cases h
      exact .enqueue id now call request
  | cancelPending id requestId =>
      cases h
      exact .cancelPending id requestId

end Registry

end Kallichore
