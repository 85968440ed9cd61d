/- ADesk/Machines/Argv
   digest: What the arguments of `podman create` say of the machine, and when an image is read as an
   option. -/

import ADesk.Foundation.Scanning
import ADesk.Machines.Host

set_option autoImplicit false

namespace ADesk.Machines.Argv

open ADesk.Foundation.Scanning (digits_are_digits natural_digits)
open ADesk.Machines.Backend (ViewerExposure)
open ADesk.Machines.Host

universe u

/-! ## Reading a command line -/

/-- A single dash is an operand. -/
def isOption (argument : String) : Bool :=
  match argument.toList with
  | '-' :: _ :: _ => true
  | _ => false

/-- The options of a command line, up to the first argument that is none, and what follows them. -/
def readOptions (takesValue : String → Bool) :
    List String → List (String × Option String) × List String
  | [] => ([], [])
  | argument :: rest =>
    if isOption argument then
      if takesValue argument then
        match rest with
        | [] => ([(argument, none)], [])
        | value :: later =>
          let read := readOptions takesValue later
          ((argument, some value) :: read.1, read.2)
      else
        let read := readOptions takesValue rest
        ((argument, none) :: read.1, read.2)
    else ([], argument :: rest)

/-- The options that a machine is created with; each takes a value. -/
def knownOptions : List String :=
  ["--name", "--label", "--env", "--volume", "--memory", "--cpus", "--network", "--publish"]

/-- Whatever other options there are, the command line holds those of the specification and no
others, and then the image with its command. -/
def Unread (spec : MachineSpec) : Prop :=
  ∀ takesValue : String → Bool, (∀ name ∈ knownOptions, takesValue name = true) →
    readOptions takesValue (buildCreateArgv spec).tail =
      ((createOptions spec).map fun option => (option.1, some option.2), spec.image :: spec.command)

theorem read_operand {takesValue : String → Bool} {argument : String} (rest : List String)
    (operand : isOption argument = false) :
    readOptions takesValue (argument :: rest) = ([], argument :: rest) := by
  unfold readOptions
  rw [operand]
  rfl

theorem read_option_ne {takesValue : String → Bool} {argument : String} (rest : List String)
    (isOne : isOption argument = true) : (readOptions takesValue (argument :: rest)).1 ≠ [] := by
  unfold readOptions
  rw [if_pos isOne]
  split
  · split <;> exact List.cons_ne_nil _ _
  · exact List.cons_ne_nil _ _

theorem read_written {takesValue : String → Bool} (options : List (String × String))
    (named : ∀ option ∈ options, isOption option.1 = true ∧ takesValue option.1 = true)
    (rest : List String) :
    readOptions takesValue (written options ++ rest) =
      (options.map (fun option => (option.1, some option.2)) ++ (readOptions takesValue rest).1,
        (readOptions takesValue rest).2) := by
  induction options with
  | nil => rfl
  | cons option options ih =>
    obtain ⟨isOne, valued⟩ := named option List.mem_cons_self
    have later := ih fun other member => named other (List.mem_cons_of_mem _ member)
    change readOptions takesValue (option.1 :: option.2 :: (written options ++ rest)) = _
    rw [readOptions, if_pos isOne, if_pos valued]
    simp only [later]
    rfl

theorem known_are_options : ∀ name ∈ knownOptions, isOption name = true := by
  decide

theorem mem_elim {α : Type u} {item : Option α} {option : String × String}
    {build : α → String × String} (member : option ∈ item.elim [] fun item => [build item]) :
    ∃ item, option = build item := by
  cases item with
  | none => cases member
  | some item => exact ⟨item, List.mem_singleton.mp member⟩

/-- The options of a specification are known ones. -/
theorem create_options_known (spec : MachineSpec) :
    ∀ option ∈ createOptions spec, option.1 ∈ knownOptions := by
  intro option member
  rw [create_options_parts] at member
  simp only [List.mem_append] at member
  rcases member with ((((((member | member) | member) | member) | member) | member) | member) | member
  · rw [List.mem_singleton.mp member]
    simp [knownOptions]
  · obtain ⟨label, _, rfl⟩ := List.mem_map.mp member
    simp [knownOptions]
  · obtain ⟨entry, _, rfl⟩ := List.mem_map.mp member
    simp [knownOptions]
  · obtain ⟨mount, _, rfl⟩ := List.mem_map.mp member
    simp [knownOptions]
  · obtain ⟨memoryMb, rfl⟩ := mem_elim member
    simp [knownOptions]
  · obtain ⟨cpus, rfl⟩ := mem_elim member
    simp [knownOptions]
  · revert member
    cases spec.network <;> simp +contextual [networkOptions, knownOptions]
  · revert member
    cases spec.viewer <;> simp +contextual [viewerOptions, knownOptions]

theorem argv_tail (spec : MachineSpec) :
    (buildCreateArgv spec).tail = written (createOptions spec) ++ spec.image :: spec.command := by
  rw [(create_asks spec).argv]
  rfl

theorem read_argv {takesValue : String → Bool}
    (valued : ∀ name ∈ knownOptions, takesValue name = true) (spec : MachineSpec) :
    readOptions takesValue (buildCreateArgv spec).tail =
      ((createOptions spec).map (fun option => (option.1, some option.2)) ++
          (readOptions takesValue (spec.image :: spec.command)).1,
        (readOptions takesValue (spec.image :: spec.command)).2) := by
  rw [argv_tail]
  refine read_written _ (fun option member => ?_) _
  have known := create_options_known spec option member
  exact ⟨known_are_options _ known, valued _ known⟩

/-- Only the image stands where an option is looked for. -/
theorem unread_iff (spec : MachineSpec) : Unread spec ↔ isOption spec.image = false := by
  constructor
  · intro unread
    cases image : isOption spec.image with
    | false => rfl
    | true =>
      let takesValue := fun name => decide (name ∈ knownOptions)
      have valued : ∀ name ∈ knownOptions, takesValue name = true :=
        fun _ member => decide_eq_true member
      have read := unread takesValue valued
      rw [read_argv valued] at read
      have extra := congrArg List.length (Prod.mk.inj read).1
      rw [List.length_append, Nat.add_eq_left, List.length_eq_zero_iff] at extra
      exact absurd extra (read_option_ne spec.command image)
  · intro image takesValue valued
    rw [read_argv valued, read_operand spec.command image, List.append_nil]

/-! ## What the arguments determine -/

def viewerBinds : ViewerExposure → List Mount
  | .unixSocket hostPath containerPath => [⟨hostPath, containerPath, false⟩]
  | .tcpPort .. | .none => []

/-- Every bind, the viewer socket included. -/
def binds (spec : MachineSpec) : List Mount := spec.mounts ++ viewerBinds spec.viewer

def published : ViewerExposure → Option (UInt16 × UInt16)
  | .tcpPort hostPort containerPort => some (hostPort, containerPort)
  | .unixSocket .. | .none => none

/-- The same machine; a map is the list of its entries by key. -/
structure Same (first second : MachineSpec) : Prop where
  name : first.name = second.name
  image : first.image = second.image
  command : first.command = second.command
  env : first.env.toList = second.env.toList
  labels : first.labels.toList = second.labels.toList
  memoryMb : first.memoryMb = second.memoryMb
  cpus : first.cpus = second.cpus
  network : first.network = second.network
  published : published first.viewer = published second.viewer
  binds : binds first = binds second

/-- Equal arguments mean the same machine, and neither machine has a value that is read as an
option. -/
structure Determined (first second : MachineSpec) : Prop where
  same : buildCreateArgv first = buildCreateArgv second → Same first second
  first : Unread first
  second : Unread second

/-- What a label or a variable is spelled as. -/
def joined (entry : String × String) : String := entry.1 ++ "=" ++ entry.2

def volumeText (bind : Mount) : String :=
  volumeArgument bind.hostPath bind.containerPath bind.readOnly

/-- The labels, variables and binds are spelled the same, and the other options are the same. -/
structure SameTexts (first second : MachineSpec) : Prop where
  name : first.name = second.name
  memoryMb : first.memoryMb = second.memoryMb
  cpus : first.cpus = second.cpus
  network : first.network = second.network
  published : published first.viewer = published second.viewer
  labels : first.labels.toList.map joined = second.labels.toList.map joined
  env : first.env.toList.map joined = second.env.toList.map joined
  volumes : (binds first).map volumeText = (binds second).map volumeText
  -- The limits and the network stand between the mounts and the viewer socket.
  mounts : first.mounts.length = second.mounts.length ∨
    first.memoryMb = none ∧ first.cpus = none ∧ first.network = .private'

/-- The same texts, image and command, but labels, variables or binds that are cut out of them in
other places. -/
structure Respelled (first second : MachineSpec) : Prop extends SameTexts first second where
  image : first.image = second.image
  command : first.command = second.command
  parts : first.labels.toList ≠ second.labels.toList ∨ first.env.toList ≠ second.env.toList ∨
    binds first ≠ binds second

/-- Without a separator in a part there is one way to cut the joined text. -/
structure Separable (spec : MachineSpec) : Prop where
  labels : ∀ label ∈ spec.labels.toList, '=' ∉ label.1.toList
  env : ∀ entry ∈ spec.env.toList, '=' ∉ entry.1.toList
  binds : ∀ bind ∈ binds spec, ':' ∉ bind.hostPath.toList ∧ ':' ∉ bind.containerPath.toList

/-- Arguments whose images are operands are cut into options and command in one way. -/
theorem argv_parts {first second : MachineSpec} (imageFirst : isOption first.image = false)
    (imageSecond : isOption second.image = false)
    (same : buildCreateArgv first = buildCreateArgv second) :
    createOptions first = createOptions second ∧ first.image = second.image ∧
      first.command = second.command := by
  have valued : ∀ name ∈ knownOptions, (fun _ : String => true) name = true := fun _ _ => rfl
  have read := (unread_iff first).mpr imageFirst _ valued
  rw [same, (unread_iff second).mpr imageSecond _ valued] at read
  obtain ⟨options, rest⟩ := Prod.mk.inj read
  obtain ⟨image, command⟩ := List.cons.inj rest
  refine ⟨?_, image.symm, command.symm⟩
  refine (List.map_injective_iff.mpr (fun left right pair => ?_) options).symm
  obtain ⟨name, value⟩ := Prod.mk.inj pair
  exact Prod.ext name (Option.some.inj value)

/-! ## The values of each option -/

theorem values_map {α : Type u} (items : List α) (name other : String) (value : α → String) :
    valuesOf name (items.map fun item => (other, value item)) =
      if other = name then items.map value else [] := by
  by_cases same : other = name
  · rw [if_pos same, same, values_same]
  · rw [if_neg same, values_other items value same]

theorem values_option {α : Type u} (item : Option α) (name other : String) (value : α → String) :
    valuesOf name (item.elim [] fun item => [(other, value item)]) =
      if other = name then item.toList.map value else [] := by
  cases item with
  | none => exact (ite_self _).symm
  | some item => exact values_map [item] name other value

def networkValues : NetworkMode → List String
  | .none => ["none"]
  | .host => ["host"]
  | .private' => []

theorem values_network_eq (mode : NetworkMode) (name : String) :
    valuesOf name (networkOptions mode) =
      if "--network" = name then networkValues mode else [] := by
  cases mode with
  | none => exact values_map ["none"] name "--network" id
  | host => exact values_map ["host"] name "--network" id
  | private' => exact (ite_self _).symm

theorem values_viewer_eq (viewer : ViewerExposure) (name : String) :
    valuesOf name (viewerOptions viewer) =
      (if "--volume" = name then (viewerBinds viewer).map volumeText else []) ++
        if "--publish" = name then publishes viewer else [] := by
  cases viewer with
  | unixSocket hostPath containerPath =>
    have volume := values_map (viewerBinds (.unixSocket hostPath containerPath)) name "--volume"
      volumeText
    rw [publishes, ite_self, List.append_nil]
    exact volume
  | tcpPort hostPort containerPort =>
    have publish := values_map (publishes (.tcpPort hostPort containerPort)) name "--publish" id
    rw [viewerBinds, List.map_nil, ite_self, List.nil_append, ← List.map_id (publishes _)]
    exact publish
  | none => simp [valuesOf, viewerOptions, viewerBinds, publishes]

/-- The values of one option, whichever it is. -/
theorem values_parts (spec : MachineSpec) (name : String) :
    valuesOf name (createOptions spec) =
      (if "--name" = name then [spec.name.value] else []) ++
      (if "--label" = name then spec.labels.toList.map fun label => label.1 ++ "=" ++ label.2
        else []) ++
      (if "--env" = name then spec.env.toList.map fun entry => entry.1 ++ "=" ++ entry.2 else []) ++
      (if "--volume" = name then spec.mounts.map volumeText else []) ++
      (if "--memory" = name then spec.memoryMb.toList.map fun memoryMb => toString memoryMb ++ "m"
        else []) ++
      (if "--cpus" = name then spec.cpus.toList.map id else []) ++
      (if "--network" = name then networkValues spec.network else []) ++
      ((if "--volume" = name then (viewerBinds spec.viewer).map volumeText else []) ++
        if "--publish" = name then publishes spec.viewer else []) := by
  have named : valuesOf name [("--name", spec.name.value)] =
      if "--name" = name then [spec.name.value] else [] :=
    values_map [spec.name.value] name "--name" id
  have cores : valuesOf name (spec.cpus.elim [] fun cpus => [("--cpus", cpus)]) =
      if "--cpus" = name then spec.cpus.toList.map id else [] :=
    values_option spec.cpus name "--cpus" id
  rw [create_options_parts]
  simp only [values_append, named, cores, values_map, values_option, values_network_eq,
    values_viewer_eq]
  rfl

/-! ## The parts of equal options -/

theorem network_values_inj {first second : NetworkMode}
    (same : networkValues first = networkValues second) : first = second := by
  cases first <;> cases second <;> first | rfl | simp [networkValues] at same

theorem digits_text (value : ℕ) : (toString value).toList = Nat.toDigits 10 value := by
  rw [Nat.toString_eq_repr, Nat.toList_repr]

theorem digits_inj {first second : ℕ}
    (same : Nat.toDigits 10 first = Nat.toDigits 10 second) : first = second := by
  have read := natural_digits first
  rw [same, natural_digits] at read
  exact (Option.some.inj read).symm

theorem digits_free {letter : Char} (other : letter.isDigit = false) (value : ℕ) :
    letter ∉ Nat.toDigits 10 value := by
  intro member
  rw [digits_are_digits value letter member] at other
  cases other

/-- Texts that are spelled differently tell their items apart. -/
theorem map_eq_parts {α : Type u} {text : α → String} {first second : List α}
    (apart : ∀ left ∈ first, ∀ right ∈ second, text left = text right → left = right)
    (same : first.map text = second.map text) : first = second := by
  induction first generalizing second with
  | nil => exact (List.map_eq_nil_iff.mp same.symm).symm
  | cons left first ih =>
    cases second with
    | nil => cases same
    | cons right second =>
      obtain ⟨head, tail⟩ := List.cons.inj same
      have later := ih (fun one inFirst other inSecond => apart one (List.mem_cons_of_mem _ inFirst)
        other (List.mem_cons_of_mem _ inSecond)) tail
      rw [apart left List.mem_cons_self right List.mem_cons_self head, later]

theorem option_eq_parts {α : Type u} {text : α → String} (apart : Function.Injective text)
    {first second : Option α} (same : first.toList.map text = second.toList.map text) :
    first = second := by
  have lists := List.map_injective_iff.mpr apart same
  cases first with
  | none =>
    cases second with
    | none => rfl
    | some _ => cases lists
  | some first =>
    cases second with
    | none => cases lists
    | some second => rw [(List.cons.inj lists).1]

theorem memory_text_inj : Function.Injective fun memoryMb : ℕ => toString memoryMb ++ "m" := by
  intro first second same
  have text := congrArg String.toList same
  rw [String.toList_append, String.toList_append, digits_text, digits_text] at text
  exact digits_inj (List.append_cancel_right text)

/-- The parts before and after the first separator. -/
theorem cut_inj {separator : Char} {first second rest other : List Char}
    (freeFirst : separator ∉ first) (freeSecond : separator ∉ second)
    (same : first ++ separator :: rest = second ++ separator :: other) :
    first = second ∧ rest = other := by
  induction first generalizing second with
  | nil =>
    cases second with
    | nil => exact ⟨rfl, (List.cons.inj same).2⟩
    | cons letter second => exact absurd ((List.cons.inj same).1 ▸ List.mem_cons_self) freeSecond
  | cons letter first ih =>
    cases second with
    | nil => exact absurd ((List.cons.inj same).1 ▸ List.mem_cons_self) freeFirst
    | cons letter' second =>
      obtain ⟨head, tail⟩ := List.cons.inj same
      obtain ⟨later, after⟩ := ih (fun member => freeFirst (List.mem_cons_of_mem _ member))
        (fun member => freeSecond (List.mem_cons_of_mem _ member)) tail
      exact ⟨by rw [head, later], after⟩

def portText (ports : UInt16 × UInt16) : String :=
  toString ports.1.toNat ++ ":" ++ toString ports.2.toNat

theorem publishes_eq (viewer : ViewerExposure) :
    publishes viewer = (published viewer).toList.map portText := by
  cases viewer with
  | _ => rfl

theorem port_text_inj : Function.Injective portText := by
  intro first second same
  have text := congrArg String.toList same
  have separator : (":" : String).toList = [':'] := rfl
  simp only [portText, String.toList_append, digits_text, separator, List.append_assoc,
    List.singleton_append] at text
  obtain ⟨host, container⟩ :=
    cut_inj (digits_free (by decide) _) (digits_free (by decide) _) text
  exact Prod.ext (UInt16.toNat_inj.mp (digits_inj host))
    (UInt16.toNat_inj.mp (digits_inj container))

theorem joined_inj {first second : String × String} (freeFirst : '=' ∉ first.1.toList)
    (freeSecond : '=' ∉ second.1.toList) (same : joined first = joined second) :
    first = second := by
  have text := congrArg String.toList same
  have separator : ("=" : String).toList = ['='] := rfl
  simp only [joined, String.toList_append, separator, List.append_assoc,
    List.singleton_append] at text
  obtain ⟨key, value⟩ := cut_inj freeFirst freeSecond text
  exact Prod.ext (String.toList_inj.mp key) (String.toList_inj.mp value)

/-- What a mount's mode adds to its paths. -/
def modeText : Bool → List Char
  | true => [':', 'r', 'o']
  | false => []

theorem volume_text_eq (bind : Mount) :
    (volumeText bind).toList =
      bind.hostPath.toList ++ ':' :: (bind.containerPath.toList ++ modeText bind.readOnly) := by
  obtain ⟨host, container, readOnly⟩ := bind
  cases readOnly with
  | true => simp [volumeText, volumeArgument, modeText]
  | false => simp [volumeText, volumeArgument, modeText]

theorem volume_text_inj {first second : Mount} (hostFirst : ':' ∉ first.hostPath.toList)
    (hostSecond : ':' ∉ second.hostPath.toList) (freeFirst : ':' ∉ first.containerPath.toList)
    (freeSecond : ':' ∉ second.containerPath.toList)
    (same : volumeText first = volumeText second) : first = second := by
  have text := congrArg String.toList same
  rw [volume_text_eq, volume_text_eq] at text
  obtain ⟨host, rest⟩ := cut_inj hostFirst hostSecond text
  obtain ⟨host', container, readOnly⟩ := first
  obtain ⟨host'', container', readOnly'⟩ := second
  simp only at host rest freeFirst freeSecond
  -- A mode that only one of them has would be part of the other's container path.
  have mode : readOnly = readOnly' := by
    cases readOnly <;> cases readOnly'
    · rfl
    · have text : container.toList = container'.toList ++ [':', 'r', 'o'] :=
        (List.append_nil _).symm.trans rest
      rw [text] at freeFirst
      simp at freeFirst
    · have text : container'.toList = container.toList ++ [':', 'r', 'o'] :=
        (List.append_nil _).symm.trans rest.symm
      rw [text] at freeSecond
      simp at freeSecond
    · rfl
  subst mode
  rw [String.toList_inj.mp host, String.toList_inj.mp (List.append_cancel_right rest)]

/-! ## Equal arguments -/

section Values

variable (spec : MachineSpec)

theorem name_values : valuesOf "--name" (createOptions spec) = [spec.name.value] := by
  rw [values_parts]
  simp

theorem label_values :
    valuesOf "--label" (createOptions spec) = spec.labels.toList.map joined := by
  rw [values_parts]
  simp [joined]

theorem env_values : valuesOf "--env" (createOptions spec) = spec.env.toList.map joined := by
  rw [values_parts]
  simp [joined]

theorem volume_values : valuesOf "--volume" (createOptions spec) = (binds spec).map volumeText := by
  rw [values_parts]
  simp [binds, viewerBinds]

theorem memory_values : valuesOf "--memory" (createOptions spec) =
    spec.memoryMb.toList.map fun memoryMb => toString memoryMb ++ "m" := by
  rw [values_parts]
  simp

theorem cpus_values : valuesOf "--cpus" (createOptions spec) = spec.cpus.toList.map id := by
  rw [values_parts]
  simp

theorem network_values :
    valuesOf "--network" (createOptions spec) = networkValues spec.network := by
  rw [values_parts]
  simp

theorem publish_values : valuesOf "--publish" (createOptions spec) =
    (published spec.viewer).toList.map portText := by
  rw [values_parts, ← publishes_eq]
  simp

/-- The options between the mounts and the viewer. -/
def between (spec : MachineSpec) : List (String × String) :=
  (spec.memoryMb.elim [] fun memoryMb => [("--memory", toString memoryMb ++ "m")]) ++
    (spec.cpus.elim [] fun cpus => [("--cpus", cpus)]) ++ networkOptions spec.network

/-- The options in front of the mounts. -/
def leading (spec : MachineSpec) : List (String × String) :=
  ("--name", spec.name.value) :: (spec.labels.toList.map joined).map (Prod.mk "--label") ++
    (spec.env.toList.map joined).map (Prod.mk "--env")

theorem viewer_options_eq (viewer : ViewerExposure) :
    viewerOptions viewer = ((viewerBinds viewer).map volumeText).map (Prod.mk "--volume") ++
      ((published viewer).toList.map portText).map (Prod.mk "--publish") := by
  cases viewer with
  | unixSocket hostPath containerPath => rfl
  | tcpPort hostPort containerPort => rfl
  | none => rfl

theorem create_options_eq : createOptions spec =
    leading spec ++ ((spec.mounts.map volumeText).map (Prod.mk "--volume") ++
      (between spec ++ viewerOptions spec.viewer)) := by
  rw [create_options_parts]
  unfold leading between
  simp only [List.map_map, List.append_assoc, List.cons_append, List.nil_append]
  rfl

theorem between_names : ∀ option ∈ between spec, option.1 ≠ "--volume" := by
  intro option member
  unfold between at member
  rcases List.mem_append.mp member with limits | network
  · rcases List.mem_append.mp limits with memory | cores
    · obtain ⟨memoryMb, rfl⟩ := mem_elim memory
      simp
    · obtain ⟨cpus, rfl⟩ := mem_elim cores
      simp
  · revert network
    cases spec.network <;> simp +contextual [networkOptions]

theorem between_empty (empty : between spec = []) :
    spec.memoryMb = none ∧ spec.cpus = none ∧ spec.network = .private' := by
  unfold between at empty
  rw [List.append_eq_nil_iff, List.append_eq_nil_iff] at empty
  obtain ⟨⟨memory, cpus⟩, network⟩ := empty
  refine ⟨?_, ?_, ?_⟩
  · cases limit : spec.memoryMb with
    | none => rfl
    | some memoryMb =>
      rw [limit] at memory
      cases memory
  · cases limit : spec.cpus with
    | none => rfl
    | some cores =>
      rw [limit] at cpus
      cases cpus
  · cases mode : spec.network with
    | private' => rfl
    | none =>
      rw [mode] at network
      cases network
    | host =>
      rw [mode] at network
      cases network

end Values

variable {first second : MachineSpec}

/-- Options that follow the mounts tell how many mounts there are. -/
theorem mounts_length (options : createOptions first = createOptions second)
    (front : leading first = leading second) (middle : between first = between second)
    (filled : between first ≠ []) : first.mounts.length = second.mounts.length := by
  rw [create_options_eq, create_options_eq, ← front, List.append_cancel_left_eq, ← middle]
    at options
  obtain ⟨option, rest, split⟩ := List.exists_cons_of_ne_nil filled
  have other := between_names first option (split ▸ List.mem_cons_self)
  have taken : ∀ (texts : List String) (viewer : ViewerExposure),
      (texts.map (Prod.mk "--volume") ++ (between first ++ viewerOptions viewer)).takeWhile
        (fun option => option.1 = "--volume") = texts.map (Prod.mk "--volume") := by
    intro texts viewer
    rw [List.takeWhile_append_of_pos, split, List.cons_append, List.takeWhile_cons_of_neg,
      List.append_nil]
    · simpa using other
    · intro volume member
      obtain ⟨text, -, rfl⟩ := List.mem_map.mp member
      exact decide_eq_true rfl
  have volumes := congrArg (List.takeWhile fun option => option.1 = "--volume") options
  rw [taken, taken] at volumes
  simpa using congrArg List.length volumes

/-- Equal options have equal texts. -/
theorem texts_of_options (options : createOptions first = createOptions second) :
    SameTexts first second := by
  have values : ∀ name,
      valuesOf name (createOptions first) = valuesOf name (createOptions second) :=
    fun name => congrArg (valuesOf name) options
  have name := values "--name"
  have memoryMb := values "--memory"
  have cpus := values "--cpus"
  have network := values "--network"
  have ports := values "--publish"
  have labels := values "--label"
  have env := values "--env"
  have volumes := values "--volume"
  rw [name_values, name_values] at name
  rw [memory_values, memory_values] at memoryMb
  rw [cpus_values, cpus_values] at cpus
  rw [network_values, network_values] at network
  rw [publish_values, publish_values] at ports
  rw [label_values, label_values] at labels
  rw [env_values, env_values] at env
  rw [volume_values, volume_values] at volumes
  have memorySame := option_eq_parts memory_text_inj memoryMb
  have cpusSame := option_eq_parts Function.injective_id cpus
  have networkSame := network_values_inj network
  have front : leading first = leading second := by
    unfold leading
    rw [labels, env, (List.cons.inj name).1]
  have middle : between first = between second := by
    unfold between
    rw [memorySame, cpusSame, networkSame]
  have same : first.name = second.name :=
    calc
      first.name = ⟨first.name.value⟩ := rfl
      _ = ⟨second.name.value⟩ := by rw [(List.cons.inj name).1]
      _ = second.name := rfl
  exact {
    name := same
    memoryMb := memorySame
    cpus := cpusSame
    network := networkSame
    published := option_eq_parts port_text_inj ports
    labels
    env
    volumes
    mounts := by
      by_cases empty : between first = []
      · exact Or.inr (between_empty first empty)
      · exact Or.inl (mounts_length options front middle empty) }

/-- Equal texts make equal options. -/
theorem options_of_texts (texts : SameTexts first second) :
    createOptions first = createOptions second := by
  have front : leading first = leading second := by
    unfold leading
    rw [texts.labels, texts.env, texts.name]
  have middle : between first = between second := by
    unfold between
    rw [texts.memoryMb, texts.cpus, texts.network]
  have volumes := texts.volumes
  unfold binds at volumes
  rw [List.map_append, List.map_append] at volumes
  rw [create_options_eq, create_options_eq, front, middle, viewer_options_eq, viewer_options_eq,
    texts.published]
  rcases texts.mounts with length | ⟨memory, cpus, network⟩
  · obtain ⟨mounts, socket⟩ := List.append_inj volumes (by simpa using length)
    rw [mounts, socket]
  · have empty : between second = [] := by
      rw [← middle]
      unfold between
      rw [memory, cpus, network]
      rfl
    have spelled := congrArg (List.map (Prod.mk "--volume")) volumes
    rw [List.map_append, List.map_append] at spelled
    rw [empty, List.nil_append, List.nil_append, List.append_cancel_left_eq, ← List.append_assoc,
      spelled, List.append_assoc]

/-- Texts whose parts are separable are cut in one way. -/
theorem SameTexts.parts (texts : SameTexts first second) (separableFirst : Separable first)
    (separableSecond : Separable second) :
    first.labels.toList = second.labels.toList ∧ first.env.toList = second.env.toList ∧
      binds first = binds second := by
  refine ⟨map_eq_parts (fun one inFirst other inSecond => ?_) texts.labels,
    map_eq_parts (fun one inFirst other inSecond => ?_) texts.env,
    map_eq_parts (fun one inFirst other inSecond => ?_) texts.volumes⟩
  · exact joined_inj (separableFirst.labels one inFirst) (separableSecond.labels other inSecond)
  · exact joined_inj (separableFirst.env one inFirst) (separableSecond.env other inSecond)
  · obtain ⟨hostFirst, containerFirst⟩ := separableFirst.binds one inFirst
    obtain ⟨hostSecond, containerSecond⟩ := separableSecond.binds other inSecond
    exact volume_text_inj hostFirst hostSecond containerFirst containerSecond

/-- The default machine with one mount more. -/
def mounting (mount : Mount) : MachineSpec := { defaultSpec with mounts := [mount] }

end ADesk.Machines.Argv
