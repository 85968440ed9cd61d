/- ADesk/Machines/Host
   digest: What a machine reaches on the host, what the host grants, and the host control plane's
   `create`, which does not compare them. -/

import Mathlib.Data.List.Basic
import ADesk.Machines.Manager

set_option autoImplicit false

namespace ADesk.Machines.Host

open ADesk.Machines.Backend
open ADesk.Machines.Manager

universe u

/-! ## Paths -/

inductive Component
  | rootDir
  | curDir
  | parentDir
  | normal (name : List Char)
  deriving DecidableEq

/-- A piece between separators; empty ones and single dots are normalized away. -/
def component (piece : List Char) : Option Component :=
  if piece = [] ∨ piece = ['.'] then none
  else if piece = ['.', '.'] then some .parentDir
  else some (.normal piece)

/-- The components of a path. A dot counts only at the beginning of a relative one. -/
def components (path : String) : List Component :=
  let pieces := path.toList.splitOn '/'
  if path.toList.head? = some '/' then .rootDir :: pieces.filterMap component
  else if pieces.head? = some ['.'] then .curDir :: pieces.tail.filterMap component
  else pieces.filterMap component

/-- Whether `base` is a prefix of the path, component by component. -/
def startsWith (path base : String) : Bool := (components base).isPrefixOf (components path)

/-! ## The specification -/

/-- A bind mount from the host into the container. -/
structure Mount where
  hostPath : String
  containerPath : String
  readOnly : Bool
  deriving DecidableEq

inductive NetworkMode
  | none
  | host
  | private'
  deriving DecidableEq

/-- Everything needed to create one machine; `cpus` is the text that the number prints as. -/
structure MachineSpec extends Backend.MachineSpec where
  command : List String
  env : Std.TreeMap String String
  mounts : List Mount
  memoryMb : Option ℕ
  cpus : Option String
  network : NetworkMode
  labels : Std.TreeMap String String

def viewerPath : ViewerExposure → Option String
  | .unixSocket hostPath _ => some hostPath
  | .tcpPort .. | .none => none

/-- The port that the machine publishes on the host. -/
def publishedPort : ViewerExposure → Option UInt16
  | .tcpPort hostPort _ => some hostPort
  | .unixSocket .. | .none => none

/-- Every host path bound into the machine: its mounts and the viewer socket. -/
def MachineSpec.boundPaths (spec : MachineSpec) : List String :=
  spec.mounts.map Mount.hostPath ++ (viewerPath spec.viewer).toList

/-! ## The arguments of `podman create` -/

def volumeArgument (host container : String) (readOnly : Bool) : String :=
  if readOnly then host ++ ":" ++ container ++ ":ro" else host ++ ":" ++ container

/-- The options that follow the mounts and the limits. -/
def networkArguments : NetworkMode → List String
  | .none => ["--network", "none"]
  | .host => ["--network", "host"]
  | .private' => []

def viewerArguments : ViewerExposure → List String
  | .unixSocket hostPath containerPath =>
    ["--volume", volumeArgument hostPath containerPath false]
  | .tcpPort hostPort containerPort =>
    ["--publish", toString hostPort.toNat ++ ":" ++ toString containerPort.toNat]
  | .none => []

def buildCreateArgv (spec : MachineSpec) : List String :=
  ["create", "--name", spec.name.value] ++
    spec.labels.toList.flatMap (fun label => ["--label", label.1 ++ "=" ++ label.2]) ++
    spec.env.toList.flatMap (fun entry => ["--env", entry.1 ++ "=" ++ entry.2]) ++
    spec.mounts.flatMap (fun mount =>
      ["--volume", volumeArgument mount.hostPath mount.containerPath mount.readOnly]) ++
    (spec.memoryMb.elim [] fun memoryMb => ["--memory", toString memoryMb ++ "m"]) ++
    (spec.cpus.elim [] fun cpus => ["--cpus", cpus]) ++
    networkArguments spec.network ++ viewerArguments spec.viewer ++
    spec.image :: spec.command

/-- The command line of a list of options. -/
def written (options : List (String × String)) : List String :=
  options.flatMap fun option => [option.1, option.2]

def volumes (spec : MachineSpec) : List String :=
  spec.mounts.map (fun mount =>
      volumeArgument mount.hostPath mount.containerPath mount.readOnly) ++
    match spec.viewer with
    | .unixSocket hostPath containerPath => [volumeArgument hostPath containerPath false]
    | .tcpPort .. | .none => []

def publishes : ViewerExposure → List String
  | .tcpPort hostPort containerPort =>
    [toString hostPort.toNat ++ ":" ++ toString containerPort.toNat]
  | .unixSocket .. | .none => []

/-- The values of the options of one name. -/
def valuesOf (name : String) (options : List (String × String)) : List String :=
  (options.filter fun option => option.1 = name).map Prod.snd

/-- The command line asks for the volumes and the port of the specification, and no others. -/
structure Asks (spec : MachineSpec) (options : List (String × String)) : Prop where
  argv : buildCreateArgv spec = "create" :: written options ++ spec.image :: spec.command
  volumes : valuesOf "--volume" options = volumes spec
  publishes : valuesOf "--publish" options = publishes spec.viewer

/-- The options in the order of the command line. -/
def createOptions (spec : MachineSpec) : List (String × String) :=
  [("--name", spec.name.value)] ++
    spec.labels.toList.map (fun label => ("--label", label.1 ++ "=" ++ label.2)) ++
    spec.env.toList.map (fun entry => ("--env", entry.1 ++ "=" ++ entry.2)) ++
    spec.mounts.map (fun mount =>
      ("--volume", volumeArgument mount.hostPath mount.containerPath mount.readOnly)) ++
    (spec.memoryMb.elim [] fun memoryMb => [("--memory", toString memoryMb ++ "m")]) ++
    (spec.cpus.elim [] fun cpus => [("--cpus", cpus)]) ++
    (match spec.network with
      | .none => [("--network", "none")]
      | .host => [("--network", "host")]
      | .private' => []) ++
    match spec.viewer with
    | .unixSocket hostPath containerPath =>
      [("--volume", volumeArgument hostPath containerPath false)]
    | .tcpPort hostPort containerPort =>
      [("--publish", toString hostPort.toNat ++ ":" ++ toString containerPort.toNat)]
    | .none => []

theorem written_append (first second : List (String × String)) :
    written (first ++ second) = written first ++ written second :=
  List.flatMap_append

theorem written_map {α : Type u} (items : List α) (name : String) (value : α → String) :
    written (items.map fun item => (name, value item)) =
      items.flatMap fun item => [name, value item] := by
  unfold written
  rw [List.flatMap_map]

theorem values_append (name : String) (first second : List (String × String)) :
    valuesOf name (first ++ second) = valuesOf name first ++ valuesOf name second := by
  unfold valuesOf
  rw [List.filter_append, List.map_append]

theorem values_same {α : Type u} (items : List α) (name : String) (value : α → String) :
    valuesOf name (items.map fun item => (name, value item)) = items.map value := by
  unfold valuesOf
  rw [List.filter_eq_self.mpr, List.map_map]
  · rfl
  · intro option member
    obtain ⟨item, _, same⟩ := List.mem_map.mp member
    subst same
    exact decide_eq_true rfl

theorem values_other {α : Type u} (items : List α) {name other : String} (value : α → String)
    (differs : other ≠ name) : valuesOf name (items.map fun item => (other, value item)) = [] := by
  unfold valuesOf
  rw [List.filter_eq_nil_iff.mpr, List.map_nil]
  intro option member
  obtain ⟨item, _, same⟩ := List.mem_map.mp member
  subst same
  simpa using differs

theorem written_elim {α : Type u} (item : Option α) (name : String) (value : α → String) :
    written (item.elim [] fun item => [(name, value item)]) =
      item.elim [] fun item => [name, value item] := by
  cases item with
  | none => rfl
  | some item => rfl

theorem values_elim {α : Type u} (item : Option α) {name other : String} (value : α → String)
    (differs : other ≠ name) :
    valuesOf name (item.elim [] fun item => [(other, value item)]) = [] := by
  cases item with
  | none => rfl
  | some item => simp [valuesOf, differs]

def networkOptions : NetworkMode → List (String × String)
  | .none => [("--network", "none")]
  | .host => [("--network", "host")]
  | .private' => []

def viewerOptions : ViewerExposure → List (String × String)
  | .unixSocket hostPath containerPath =>
    [("--volume", volumeArgument hostPath containerPath false)]
  | .tcpPort hostPort containerPort =>
    [("--publish", toString hostPort.toNat ++ ":" ++ toString containerPort.toNat)]
  | .none => []

theorem create_options_parts (spec : MachineSpec) : createOptions spec =
    [("--name", spec.name.value)] ++
      spec.labels.toList.map (fun label => ("--label", label.1 ++ "=" ++ label.2)) ++
      spec.env.toList.map (fun entry => ("--env", entry.1 ++ "=" ++ entry.2)) ++
      spec.mounts.map (fun mount =>
        ("--volume", volumeArgument mount.hostPath mount.containerPath mount.readOnly)) ++
      (spec.memoryMb.elim [] fun memoryMb => [("--memory", toString memoryMb ++ "m")]) ++
      (spec.cpus.elim [] fun cpus => [("--cpus", cpus)]) ++
      networkOptions spec.network ++ viewerOptions spec.viewer := rfl

theorem written_network (mode : NetworkMode) :
    written (networkOptions mode) = networkArguments mode := by
  cases mode with
  | none => rfl
  | host => rfl
  | private' => rfl

theorem written_viewer (viewer : ViewerExposure) :
    written (viewerOptions viewer) = viewerArguments viewer := by
  cases viewer with
  | unixSocket hostPath containerPath => rfl
  | tcpPort hostPort containerPort => rfl
  | none => rfl

theorem values_network (mode : NetworkMode) {name : String} (differs : "--network" ≠ name) :
    valuesOf name (networkOptions mode) = [] := by
  cases mode with
  | none => simp [valuesOf, networkOptions, differs]
  | host => simp [valuesOf, networkOptions, differs]
  | private' => rfl

/-- Only the mounts and the viewer ask for volumes and ports. -/
theorem values_create (spec : MachineSpec) {name : String} (named : "--name" ≠ name)
    (label : "--label" ≠ name) (env : "--env" ≠ name) (memory : "--memory" ≠ name)
    (cpus : "--cpus" ≠ name) (network : "--network" ≠ name) :
    valuesOf name (createOptions spec) =
      valuesOf name (spec.mounts.map fun mount =>
        ("--volume", volumeArgument mount.hostPath mount.containerPath mount.readOnly)) ++
      valuesOf name (viewerOptions spec.viewer) := by
  have unnamed : valuesOf name [("--name", spec.name.value)] = [] := by simp [valuesOf, named]
  rw [create_options_parts]
  simp only [values_append, unnamed, values_network _ network, values_other _ _ label,
    values_other _ _ env, values_elim _ _ memory, values_elim _ _ cpus, List.nil_append,
    List.append_nil]

theorem create_asks (spec : MachineSpec) : Asks spec (createOptions spec) where
  argv := by
    have named : written [("--name", spec.name.value)] = ["--name", spec.name.value] := rfl
    unfold buildCreateArgv
    rw [create_options_parts]
    simp only [written_append, written_map, written_elim, written_network, written_viewer, named]
    simp only [List.cons_append, List.append_assoc, List.nil_append]
  volumes := by
    rw [values_create spec (by decide) (by decide) (by decide) (by decide) (by decide) (by decide),
      values_same]
    unfold volumes
    cases spec.viewer with
    | unixSocket hostPath containerPath => simp [valuesOf, viewerOptions]
    | tcpPort hostPort containerPort => simp [valuesOf, viewerOptions]
    | none => rfl
  publishes := by
    rw [values_create spec (by decide) (by decide) (by decide) (by decide) (by decide) (by decide),
      values_other _ _ (by decide), List.nil_append]
    cases spec.viewer with
    | unixSocket hostPath containerPath => simp [valuesOf, publishes, viewerOptions]
    | tcpPort hostPort containerPort => simp [valuesOf, publishes, viewerOptions]
    | none => rfl

/-! ## What the host grants -/

/-- What the host can give a machine; the default grants nothing. -/
structure HostCapabilities where
  gpu : Bool := false
  kvm : Bool := false
  allowedMounts : List String := []
  publishPorts : Bool := false
  deriving DecidableEq

namespace HostCapabilities

/-- Whether the path is an allowed root or lies in one. -/
def allowsMount (capabilities : HostCapabilities) (path : String) : Bool :=
  capabilities.allowedMounts.any fun allowed => startsWith path allowed

/-- Publishing is all or nothing. -/
def allowsPort (capabilities : HostCapabilities) (_ : UInt16) : Bool :=
  capabilities.publishPorts

end HostCapabilities

/-- The host grants every resource that the specification asks for. -/
structure Granted (capabilities : HostCapabilities) (spec : MachineSpec) : Prop where
  mounts : ∀ path ∈ spec.boundPaths, capabilities.allowsMount path = true
  port : ∀ port ∈ publishedPort spec.viewer, capabilities.allowsPort port = true

/-! ## The control plane -/

/-- The two calls of a container backend that a creation makes; the backend's state is explicit. -/
structure ContainerRuntime (B : Type u) where
  create : B → MachineSpec → B × Except MachineError MachineId
  status : B → MachineId → B × Except MachineError MachineStatus

/-- The Podman backend: `run` hands arguments to the program and returns what it prints, and
`parseInspect` reads what an inspection prints. -/
def podmanRuntime {B : Type u} (run : B → List String → B × Except MachineError String)
    (parseInspect : String → Except MachineError (List MachineStatus)) : ContainerRuntime B where
  create world spec :=
    match run world (buildCreateArgv spec) with
    | (world, .error error) => (world, .error error)
    | (world, .ok stdout) =>
      let id := stdout.trimAscii.toString
      if id = "" then
        (world, .error (.runtime "podman create produced an empty container id"))
      else (world, .ok ⟨id⟩)
  status world id :=
    match run world ["inspect", id.value] with
    | (world, .error error) => (world, .error error)
    | (world, .ok stdout) =>
      match parseInspect stdout with
      | .error error => (world, .error error)
      | .ok [status] => (world, .ok status)
      | .ok statuses =>
        (world, .error (.runtime ("podman inspect returned " ++ toString statuses.length ++
          " containers for \x60" ++ id.value ++ "\x60")))

/-- The state of a manager: the backend it drives and its registry. -/
structure MachineManager (B : Type u) where
  backend : B
  registry : MachineRegistry := {}

/-- How a creation ends, with the machine that the backend created on the way. -/
structure Creation (B : Type u) where
  manager : MachineManager B
  created : Option MachineId
  result : Except MachineError MachineStatus

section Create

variable {B : Type u}

def MachineManager.create (runtime : ContainerRuntime B) (manager : MachineManager B)
    (spec : MachineSpec) : Creation B :=
  if manager.registry.contains spec.name then
    { manager, created := none, result := .error (.duplicate spec.name.value) }
  else
    match runtime.create manager.backend spec with
    | (backend, .error error) =>
      { manager := { manager with backend }
        created := none
        result := .error (createError spec.toMachineSpec error) }
    | (backend, .ok id) =>
      match runtime.status backend id with
      | (backend, .error error) =>
        { manager := { manager with backend }, created := some id, result := .error error }
      | (backend, .ok status) =>
        { manager := { backend, registry := (manager.registry.insert status).1 }
          created := some id
          result := .ok status }

/-- The manager together with what the host grants. -/
structure HostControlPlane (B : Type u) where
  manager : MachineManager B
  capabilities : HostCapabilities := {}

def HostControlPlane.create (runtime : ContainerRuntime B) (plane : HostControlPlane B)
    (spec : MachineSpec) : Creation B :=
  plane.manager.create runtime spec

/-- A machine that was created reaches only what the host granted, and a specification that asks
for more fails and creates nothing. -/
structure Enforced (runtime : ContainerRuntime B) (plane : HostControlPlane B)
    (spec : MachineSpec) : Prop where
  reaches : (∃ status, (plane.create runtime spec).result = .ok status) →
    Granted plane.capabilities spec
  refuses : ¬ Granted plane.capabilities spec →
    (∃ error, (plane.create runtime spec).result = .error error) ∧
      (plane.create runtime spec).created = none

/-- The name is registered, or the backend refuses the machine. -/
def Refused (runtime : ContainerRuntime B) (manager : MachineManager B) (spec : MachineSpec) :
    Prop :=
  manager.registry.contains spec.name = true ∨
    ∃ error, (runtime.create manager.backend spec).2 = .error error

/-- Only a refusal keeps a creation from reaching the backend. -/
theorem created_none (runtime : ContainerRuntime B) (manager : MachineManager B)
    (spec : MachineSpec) :
    (manager.create runtime spec).created = none ↔ Refused runtime manager spec := by
  unfold MachineManager.create Refused
  by_cases known : manager.registry.contains spec.name = true
  · rw [if_pos known]
    exact ⟨fun _ => Or.inl known, fun _ => rfl⟩
  · rw [if_neg known]
    rcases called : runtime.create manager.backend spec with ⟨backend, error | id⟩
    · exact ⟨fun _ => Or.inr ⟨error, rfl⟩, fun _ => rfl⟩
    · rcases read : runtime.status backend id with ⟨later, error | status⟩
      · simp [known, read]
      · simp [known, read]

theorem error_of_created_none {runtime : ContainerRuntime B} {manager : MachineManager B}
    {spec : MachineSpec} (nothing : (manager.create runtime spec).created = none) :
    ∃ error, (manager.create runtime spec).result = .error error := by
  unfold MachineManager.create at nothing ⊢
  split
  · exact ⟨_, rfl⟩
  · next known =>
    rw [if_neg known] at nothing
    rcases called : runtime.create manager.backend spec with ⟨backend, error | id⟩
    · exact ⟨_, rfl⟩
    · rcases read : runtime.status backend id with ⟨later, error | status⟩
      · simp [called, read] at nothing
      · simp [called, read] at nothing

theorem enforced_iff (runtime : ContainerRuntime B) (plane : HostControlPlane B)
    (spec : MachineSpec) :
    Enforced runtime plane spec ↔
      Granted plane.capabilities spec ∨ Refused runtime plane.manager spec := by
  constructor
  · intro enforced
    by_cases granted : Granted plane.capabilities spec
    · exact Or.inl granted
    · exact Or.inr ((created_none runtime plane.manager spec).mp (enforced.refuses granted).2)
  · rintro (granted | refused)
    · exact ⟨fun _ => granted, fun denied => absurd granted denied⟩
    · have nothing := (created_none runtime plane.manager spec).mpr refused
      obtain ⟨error, failed⟩ := error_of_created_none nothing
      refine ⟨?_, fun _ => ⟨⟨error, failed⟩, nothing⟩⟩
      rintro ⟨status, succeeded⟩
      cases failed.symm.trans succeeded

/-- What the Podman backend asks the program for when it creates a machine. -/
theorem podman_asks (run : B → List String → B × Except MachineError String)
    (parseInspect : String → Except MachineError (List MachineStatus)) (world : B)
    (spec : MachineSpec) :
    ∃ options, Asks spec options ∧
      ((podmanRuntime run parseInspect).create world spec).1 =
        (run world ("create" :: written options ++ spec.image :: spec.command)).1 := by
  refine ⟨createOptions spec, create_asks spec, ?_⟩
  rw [← (create_asks spec).argv]
  simp only [podmanRuntime]
  rcases run world (buildCreateArgv spec) with ⟨later, error | stdout⟩
  · rfl
  · dsimp only
    split
    · rfl
    · rfl

end Create

/-- The in-memory backend at one reading of its clock. -/
def mockRuntime (now : ℕ) : ContainerRuntime MockInner where
  create inner spec := inner.create spec.toMachineSpec now
  status := MockInner.status

/-- The machine that a specification describes by default. -/
def defaultSpec : MachineSpec where
  name := ⟨"adesk"⟩
  image := "ghcr.io/adesk/machine:latest"
  command := ["adesk-server"]
  env := {}
  mounts := []
  memoryMb := some 4096
  cpus := some "2"
  network := .private'
  viewer := .unixSocket "/run/adesk/viewer.sock" "/run/adesk/viewer.sock"
  labels := Std.TreeMap.ofList [("adesk.io/role", "machine")]

private theorem default_denied : ¬ Granted {} defaultSpec := fun granted => by
  have allowed := granted.mounts "/run/adesk/viewer.sock" (by decide)
  cases allowed

end ADesk.Machines.Host
