/- ADesk/Registry/Launching
   digest: The command that a launch spawns: the arguments of the entry and of the caller, in an
   environment that leads to this runtime's display and to no other one. -/

import Mathlib.Logic.Function.Basic
import ADesk.Registry.Correlate
import ADesk.Registry.Exec
import ADesk.Registry.Scan

set_option autoImplicit false

namespace ADesk.Registry.Launching

open ADesk.Registry.Correlate (LaunchRecord)
open ADesk.Registry.Exec
open ADesk.Registry.Parser (DesktopEntry)
open ADesk.Registry.Scan (Path Table)

/-! ## Commands and their environment -/

abbrev Text := List Char

def waylandDisplayVar : Text := "WAYLAND_DISPLAY".toList
def xdgRuntimeDirVar : Text := "XDG_RUNTIME_DIR".toList
def displayVar : Text := "DISPLAY".toList
def xauthorityVar : Text := "XAUTHORITY".toList

structure LaunchEnv where
  waylandDisplay : Option Text
  xdgRuntimeDir : Option Text
  extra : List (Text × Text)
  removals : List Text

/-- Later entries win. -/
def LaunchEnv.overrides (env : LaunchEnv) : List (Text × Text) :=
  (env.waylandDisplay.map (waylandDisplayVar, ·)).toList ++
    (env.xdgRuntimeDir.map (xdgRuntimeDirVar, ·)).toList ++ env.extra

structure SpawnCommand where
  program : Text
  args : List Text
  env : List (Text × Text)
  envRemove : List Text
  deriving DecidableEq

structure TerminalSpec where
  program : Text
  prefixArgs : List Text

def TerminalSpec.wrap (terminal : TerminalSpec) (command : List Text) : Option SpawnCommand :=
  if command = [] then none else some ⟨terminal.program, terminal.prefixArgs ++ command, [], []⟩

abbrev Environment := Text → Option Text

/-- `build_command` removes first, then it sets. -/
def childEnv (inherited : Environment) (command : SpawnCommand) : Environment :=
  command.env.foldl (fun env entry => Function.update env entry.1 (some entry.2))
    (command.envRemove.foldl (fun env key => Function.update env key none) inherited)

/-! ## The registry -/

inductive LaunchError
  | unknownApp (id : Text)
  | tryExecNotFound (program : Text)
  | invalidExec (app : Text) (source : ExecError)
  | noExec (app : Text)
  | spawn (reason : String)

/-- What a launch asks of the system around it. -/
structure Host where
  /-- `resolve_try_exec` finds the program. -/
  resolves : Text → Bool
  pathText : Path → Text
  spawn : SpawnCommand → Except String (Option ℤ)
  nowMs : ℕ

structure AppRegistry where
  entries : Table
  terminal : TerminalSpec
  nextLaunchId : ℕ

/-- What a launch comes to, and the command that was handed to the spawner. -/
structure Launch where
  result : Except LaunchError LaunchRecord
  registry : AppRegistry
  spawned : Option SpawnCommand

def execContext (host : Host) (entry : DesktopEntry Path) : ExecContext :=
  ⟨entry.name, entry.icon, some (host.pathText entry.path), []⟩

def expandExec (host : Host) (entry : DesktopEntry Path) : Except LaunchError (List Text) :=
  match entry.exec with
  | some exec => (expand exec (execContext host entry)).mapError (.invalidExec entry.id)
  | none => .ok []

/-- The command of the arguments, in a terminal where the entry asks for one. -/
def assemble (terminal : TerminalSpec) (entry : DesktopEntry Path) (argv : List Text) :
    Option SpawnCommand :=
  if entry.terminal then terminal.wrap argv
  else match argv with
  | program :: rest => some ⟨program, rest, [], []⟩
  | [] => none

/-- The steps before a launch id is drawn. -/
def AppRegistry.prepare (registry : AppRegistry) (host : Host) (id : Text) (args : List Text)
    (env : LaunchEnv) : Except LaunchError (DesktopEntry Path × SpawnCommand) :=
  match registry.entries.get id with
  | none => .error (.unknownApp id)
  | some entry =>
    if entry.tryExec.all host.resolves then
      match expandExec host entry with
      | .error error => .error error
      | .ok argv =>
        if argv = [] then .error (.noExec entry.id)
        else match assemble registry.terminal entry (argv ++ args) with
        | none => .error (.noExec entry.id)
        | some command =>
          .ok (entry, { command with env := env.overrides, envRemove := env.removals })
    else .error (.tryExecNotFound (entry.tryExec.getD []))

def AppRegistry.launch (registry : AppRegistry) (host : Host) (id : Text) (args : List Text)
    (env : LaunchEnv) : Launch :=
  match registry.prepare host id args env with
  | .error error => ⟨.error error, registry, none⟩
  | .ok (entry, command) =>
    -- The id is drawn even when the spawn fails.
    let counted := { registry with nextLaunchId := registry.nextLaunchId + 1 }
    match host.spawn command with
    | .error reason => ⟨.error (.spawn reason), counted, some command⟩
    | .ok pid => ⟨.ok ⟨⟨registry.nextLaunchId⟩, ⟨String.ofList entry.id⟩, pid, host.nowMs⟩, counted,
        some command⟩

/-- The toolkits' switches to Wayland. -/
def optIns : List (Text × Text) :=
  [("XDG_SESSION_TYPE".toList, "wayland".toList), ("GDK_BACKEND".toList, "wayland".toList),
    ("QT_QPA_PLATFORM".toList, "wayland".toList), ("MOZ_ENABLE_WAYLAND".toList, "1".toList),
    ("OZONE_PLATFORM".toList, "wayland".toList)]

/-- The environment of the server's launches. -/
def launchEnv (waylandDisplay xdgRuntimeDir : Option Text) : LaunchEnv :=
  ⟨waylandDisplay, xdgRuntimeDir, optIns, [displayVar, xauthorityVar]⟩

/-! ## What is spawned -/

/-- The last override of a variable wins, then its removal, then what is inherited. -/
theorem child_env (inherited : Environment) (command : SpawnCommand) (key : Text) :
    childEnv inherited command key = (command.env.reverse.lookup key).or
      (if key ∈ command.envRemove then none else inherited key) := by
  have removed : ∀ (keys : List Text) (env : Environment),
      keys.foldl (fun env key => Function.update env key none) env key =
        if key ∈ keys then none else env key := by
    intro keys
    induction keys with
    | nil => exact fun _ => rfl
    | cons first rest ih =>
      intro env
      rw [List.foldl_cons, ih, Function.update_apply]
      by_cases here : key = first <;> simp [here]
  unfold childEnv
  rw [← removed]
  generalize command.envRemove.foldl _ inherited = env
  induction command.env generalizing env with
  | nil => rfl
  | cons entry rest ih =>
    obtain ⟨name, value⟩ := entry
    rw [List.foldl_cons, ih, List.reverse_cons, List.lookup_append, Function.update_apply,
      Option.or_assoc]
    by_cases here : key = name
    · rw [if_pos here, here, List.lookup_cons_self, Option.some_or]
    · have other : (key == name) = false := beq_eq_false_iff_ne.mpr here
      rw [if_neg here, List.lookup_cons, other, List.lookup_nil, Option.none_or]

theorem overrides_lookup (env : LaunchEnv) (key : Text) :
    env.overrides.reverse.lookup key = (env.extra.reverse.lookup key).or
      ((if key = xdgRuntimeDirVar then env.xdgRuntimeDir else none).or
        (if key = waylandDisplayVar then env.waylandDisplay else none)) := by
  have one : ∀ (name : Text) (value : Option Text),
      (value.map (name, ·)).toList.reverse.lookup key = if key = name then value else none := by
    intro name value
    cases value with
    | none => exact (ite_self _).symm
    | some value => by_cases same : key = name <;> simp [same]
  unfold LaunchEnv.overrides
  rw [List.reverse_append, List.reverse_append, List.lookup_append, List.lookup_append, one, one]

/-- A program that runs inside this runtime: no other display, the toolkits' switches, the runtime's
socket where it is known, and the rest as it is inherited. -/
def inside (waylandDisplay : Option Text) (inherited : Environment) : Environment := fun key =>
  if key = displayVar ∨ key = xauthorityVar then none
  else if key = waylandDisplayVar then waylandDisplay.or (inherited key)
  else (optIns.reverse.lookup key).or (inherited key)

theorem child_inside (waylandDisplay : Option Text) (inherited : Environment)
    {command : SpawnCommand}
    (env : command.env = (launchEnv waylandDisplay (inherited xdgRuntimeDirVar)).overrides)
    (envRemove : command.envRemove = [displayVar, xauthorityVar]) :
    childEnv inherited command = inside waylandDisplay inherited := by
  funext key
  rw [child_env, env, envRemove, overrides_lookup]
  dsimp only [launchEnv]
  unfold inside
  by_cases other : key = displayVar ∨ key = xauthorityVar
  · rw [if_pos other]
    rcases other with rfl | rfl <;> rfl
  · have kept : key ∉ [displayVar, xauthorityVar] := by simpa using other
    rw [if_neg other, if_neg kept]
    by_cases socket : key = waylandDisplayVar
    · subst socket
      rfl
    · rw [if_neg socket, if_neg socket, Option.or_none]
      by_cases dir : key = xdgRuntimeDirVar
      · subst dir
        exact Option.or_self
      · rw [if_neg dir, Option.or_none]

/-- The command is the expanded `Exec` line of an available entry with the caller's arguments behind
it, as the arguments of the terminal where the entry asks for one. -/
structure Requested (registry : AppRegistry) (host : Host) (id : Text) (args : List Text)
    (command : SpawnCommand) (entry : DesktopEntry Path) : Prop where
  found : registry.entries.get id = some entry
  available : entry.tryExec.all host.resolves = true
  line : ∃ exec argv, entry.exec = some exec ∧
    expand exec (execContext host entry) = .ok argv ∧ argv ≠ [] ∧
      command.program :: command.args = if entry.terminal then
        registry.terminal.program :: registry.terminal.prefixArgs ++ (argv ++ args)
      else argv ++ args

theorem assembled {terminal : TerminalSpec} {entry : DesktopEntry Path} {argv : List Text}
    {command : SpawnCommand} (made : assemble terminal entry argv = some command) :
    command.program :: command.args =
      if entry.terminal then terminal.program :: terminal.prefixArgs ++ argv else argv := by
  unfold assemble TerminalSpec.wrap at made
  split at made
  · next wrapped =>
    split at made <;> cases made
    rw [if_pos wrapped, List.cons_append]
  · next plain =>
    rw [if_neg plain]
    split at made <;> cases made
    rfl

theorem prepared {registry : AppRegistry} {host : Host} {id : Text} {args : List Text}
    {env : LaunchEnv} {entry : DesktopEntry Path} {command : SpawnCommand}
    (prepares : registry.prepare host id args env = .ok (entry, command)) :
    Requested registry host id args command entry ∧
      command.env = env.overrides ∧ command.envRemove = env.removals := by
  unfold AppRegistry.prepare at prepares
  split at prepares
  · cases prepares
  next found =>
  split at prepares
  · next available =>
    split at prepares
    · cases prepares
    next argv expanded =>
    split at prepares
    · cases prepares
    next filled =>
    split at prepares
    · cases prepares
    next made =>
    cases prepares
    refine ⟨⟨found, available, ?_⟩, rfl, rfl⟩
    have line := assembled made
    unfold expandExec at expanded
    split at expanded
    · next exec written =>
      cases read : expand exec (execContext host entry) with
      | ok tokens =>
        rw [read] at expanded
        cases expanded
        exact ⟨exec, argv, written, read, filled, line⟩
      | error source =>
        rw [read] at expanded
        cases expanded
    · cases expanded
      exact absurd rfl filled
  · cases prepares

/-- Whatever the environment of the runtime, what a launch spawns is what the entry and the caller
ask for, verbatim, and runs inside the runtime; and the launch has drawn an id of its own. -/
theorem launched_inside {registry : AppRegistry} {host : Host} {id : Text} {args : List Text}
    {waylandDisplay : Option Text} {inherited : Environment} {command : SpawnCommand}
    (spawned : (registry.launch host id args
      (launchEnv waylandDisplay (inherited xdgRuntimeDirVar))).spawned = some command) :
    (∃ entry, Requested registry host id args command entry) ∧
      childEnv inherited command = inside waylandDisplay inherited ∧
      (registry.launch host id args
        (launchEnv waylandDisplay (inherited xdgRuntimeDirVar))).registry =
          { registry with nextLaunchId := registry.nextLaunchId + 1 } := by
  unfold AppRegistry.launch at spawned ⊢
  cases prepares : registry.prepare host id args
      (launchEnv waylandDisplay (inherited xdgRuntimeDirVar)) with
  | error error =>
    rw [prepares] at spawned
    cases spawned
  | ok made =>
    obtain ⟨entry, ready⟩ := made
    obtain ⟨requested, env, envRemove⟩ := prepared prepares
    rw [prepares] at spawned
    dsimp only at spawned ⊢
    have same : ready = command := by
      split at spawned <;> exact Option.some.inj spawned
    subst same
    refine ⟨⟨entry, requested⟩, child_inside waylandDisplay inherited env envRemove, ?_⟩
    split <;> rfl

/-- An editor in a terminal, with an argument of the caller's. -/
def editor : DesktopEntry Path :=
  ⟨"vi".toList, ⟨"/apps".toList, [], .utf8 "vi.desktop".toList⟩, "Vi".toList,
    some "vi %U -c %c".toList, none, true, false, false, [], none, false, none⟩

def editorCommand : SpawnCommand :=
  ⟨"xterm".toList, ["-e", "vi", "-c", "Vi", "a b"].map (·.toList),
    (waylandDisplayVar, "wayland-1".toList) :: (xdgRuntimeDirVar, ":0".toList) :: optIns,
    [displayVar, xauthorityVar]⟩

def editorHost : Host := ⟨fun _ => true, fun _ => [], fun _ => .ok (some 7), 0⟩

def editorRegistry : AppRegistry :=
  ⟨[("vi".toList, editor)], ⟨"xterm".toList, ["-e".toList]⟩, 1⟩

theorem launched_inside_editor :
    childEnv (fun _ => some ":0".toList) editorCommand displayVar = none ∧
      childEnv (fun _ => some ":0".toList) editorCommand waylandDisplayVar =
        some "wayland-1".toList := by
  have spawned : (editorRegistry.launch editorHost "vi".toList ["a b".toList]
      (launchEnv (some "wayland-1".toList) (some ":0".toList))).spawned = some editorCommand := by
    decide +kernel
  have launched := @launched_inside editorRegistry editorHost "vi".toList ["a b".toList]
    (some "wayland-1".toList) (fun _ => some ":0".toList) editorCommand spawned
  rw [launched.2.1]
  decide +kernel

end ADesk.Registry.Launching
