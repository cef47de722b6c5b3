import FleetAgent.FileTree.Calls
import FleetAgent.Log.Event

/-!
# The host

The agent acts on its host by file calls and by reporting events. Every file call goes through
`Host.call`, which counts it, lets it fail where a fault is planted, and keeps the tree as it stood
after the call. So the trees at which an activity can be cut short are exactly those that it leaves in
`trail`, and a planted fault stands for any call that fails for a reason outside the tree.
-/

namespace FleetAgent

/-- The files, the faults planted among the coming calls, and what has been done and reported. -/
structure Host where
  tree : FileTree
  faults : Nat → Option FileError := fun _ ↦ none
  calls : Nat := 0
  /-- The trees as they stood before and after the calls so far, the latest first. -/
  trail : List FileTree := []
  /-- What has been reported so far, the latest first. -/
  log : List Log.Event := []

/-- An activity on the host that may fail, and whose effects stay when it does. -/
abbrev HostM (ε α : Type) := ExceptT ε (StateM Host) α

namespace Host

/-- Carries out one file call. -/
def call (act : FileTree → Except FileError (α × FileTree)) : HostM FileError α :=
  fun host ↦
    let next := { host with calls := host.calls + 1, trail := host.tree :: host.trail }
    match host.faults host.calls with
    | some fault => (.error fault, next)
    | none =>
      match act host.tree with
      | .error fault => (.error fault, next)
      | .ok (value, tree) => (.ok value, { next with tree, trail := tree :: host.trail })

/-- A call that gives a value and leaves the tree as it is. -/
def ask (act : FileTree → Except FileError α) : HostM FileError α :=
  call fun tree ↦ (act tree).map (·, tree)

/-- A call that only changes the tree. -/
def alter (act : FileTree → Except FileError FileTree) : HostM FileError Unit :=
  call fun tree ↦ (act tree).map ((), ·)

/-- Something that can be seen of the tree without a call that fails. -/
def look (see : FileTree → α) : HostM ε α := fun host ↦ (.ok (see host.tree), host)

def report (event : Log.Event) : HostM ε Unit :=
  fun host ↦ (.ok (), { host with log := event :: host.log })

def reportAll (events : List Log.Event) : HostM ε Unit :=
  fun host ↦ (.ok (), { host with log := events.reverse ++ host.log })

def events (host : Host) : List Log.Event := host.log.reverse

/-- The activity with its error turned into another one. -/
def mapError (f : ε → ε') (act : HostM ε α) : HostM ε' α :=
  fun host ↦
    match act host with
    | (.ok value, after) => (.ok value, after)
    | (.error fault, after) => (.error (f fault), after)

def outcome (act : HostM ε α) : HostM ε' (Except ε α) :=
  fun host ↦
    let (result, after) := act host
    (.ok result, after)

/-- Carries out an activity that cannot fail. -/
def surely (act : HostM Empty α) (host : Host) : α × Host :=
  match act host with
  | (.ok value, after) => (value, after)
  | (.error never, _) => nomatch never

end Host

end FleetAgent
