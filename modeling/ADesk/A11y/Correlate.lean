/- ADesk/A11y/Correlate
   digest: The window's accessible frame on the bus, and when the ladder that looks for it settles
   for a default. -/

import Mathlib.Data.List.Infix
import ADesk.A11y.Source
import ADesk.Compositor.Keys

set_option autoImplicit false

namespace ADesk.A11y.Correlate

open ADesk.A11y.Source
open ADesk.Compositor.Keys (isWhitespace)
open ADesk.Core.Ids (AppId WindowId)

/-! ## The accessibility bus -/

/-- A text that is empty or blank is no text at all. -/
def textValue (raw : String) : Option String :=
  if raw.toList.all isWhitespace then none else some raw

/-- A top-level frame; `label` is what it answers as its name, if it is still there to answer. -/
structure Frame where
  label : Option String
  reference : ElementHandle
  deriving DecidableEq

/-- An application registered on the bus; one that left has neither name nor pid nor frames. -/
structure Application where
  label : Option String
  reference : ElementHandle
  pid : Option ℕ
  frames : List Frame
  deriving DecidableEq

def elementName (label : Option String) : Option String := label.bind textValue

def Frame.name (frame : Frame) : Option String := elementName frame.label

def Application.name (application : Application) : Option String :=
  elementName application.label

/-- The element that roots a correlated subtree. -/
inductive Root
  | application (element : Application)
  | frame (parent : Application) (element : Frame)
  deriving DecidableEq

def Root.reference : Root → ElementHandle
  | .application element => element.reference
  | .frame _ element => element.reference

structure Correlated where
  appName : Option String
  root : Root

/-! ## The ladder -/

def applicationWithPid (bus : List Application) (pid : ℤ) : Option Application :=
  bus.find? fun application => application.pid.any fun found : ℕ => (found : ℤ) == pid

/-- The window's title when there is one. -/
def titleOf (target : WindowTarget) : Option String :=
  target.title.filter fun title => title ≠ ""

/-- The first frame with the name. -/
def Application.titled (application : Application) (title : String) : Option Frame :=
  application.frames.find? fun frame => frame.name == some title

def withinApplication (application : Application) (target : WindowTarget) : Correlated where
  appName := application.name
  root := (((titleOf target).bind application.titled).or application.frames.head?).elim
    (.application application) (.frame application)

/-- The standard library's `contains`. -/
def contains (haystack needle : String) : Bool := decide (needle.toList <:+: haystack.toList)

def eqIgnoreAsciiCase (left right : String) : Bool :=
  left.toList.map Char.toLower == right.toList.map Char.toLower

section Ladder

variable (lowercase : String → String)

def matchesAppId (application appId : String) : Bool :=
  eqIgnoreAsciiCase application appId || contains (lowercase application) (lowercase appId)

def matchesApplication (application : String) (target : WindowTarget) : Bool :=
  target.appId.any (fun appId => matchesAppId lowercase application appId.val) ||
    target.title.any fun title => title ≠ "" && contains application title

/-- The application with a matching name that publishes a frame, and that frame. -/
def identity (target : WindowTarget) (application : Application) : Option Correlated :=
  match application.name with
  | none => none
  | some name =>
    if matchesApplication lowercase name target then
      application.frames.head?.map fun frame => ⟨some name, .frame application frame⟩
    else none

/-- The frame that has the title. -/
def exactly (title : String) (application : Application) : Option Correlated :=
  (application.titled title).map fun frame => ⟨application.name, .frame application frame⟩

def correlate (bus : List Application) (target : WindowTarget) : Except A11yError Correlated :=
  match target.pid.bind (applicationWithPid bus) with
  | some application => .ok (withinApplication application target)
  | none =>
    match (titleOf target).bind fun title => bus.findSome? (exactly title) with
    | some correlated => .ok correlated
    | none =>
      match bus.findSome? (identity lowercase target) with
      | some correlated => .ok correlated
      | none => .error (.notCorrelated target.windowId)

/-! ## What may be returned -/

/-- The application is the window's, by its pid, its app id or its title. An empty text is part of
every name and identifies nothing. -/
structure ByName (target : WindowTarget) (application : Application) : Prop where
  named : ∃ name, application.name = some name ∧
    ((∃ appId, target.appId = some appId ∧ appId.val ≠ "" ∧
        matchesAppId lowercase name appId.val = true) ∨
      ∃ title, target.title = some title ∧ title ≠ "" ∧ contains name title = true)

def Identified (target : WindowTarget) (application : Application) : Prop :=
  (∃ pid : ℕ, application.pid = some pid ∧ target.pid = some (pid : ℤ)) ∨
    ByName lowercase target application

/-- The frame has the window's title, or is the only one of an application that is the window's. -/
def Justified (bus : List Application) (target : WindowTarget) : Root → Prop
  | .application _ => False
  | .frame application frame =>
    application ∈ bus ∧ frame ∈ application.frames ∧
      ((∃ title, target.title = some title ∧ frame.name = some title) ∨
        (application.frames = [frame] ∧ Identified lowercase target application))

/-- A justified frame is returned, or nothing. -/
def Unguessed (bus : List Application) (target : WindowTarget) : Prop :=
  (∃ correlated, correlate lowercase bus target = .ok correlated ∧
      Justified lowercase bus target correlated.root) ∨
    correlate lowercase bus target = .error (.notCorrelated target.windowId)

/-- The window has a title and the application a frame of that name. -/
def Titled (target : WindowTarget) (application : Application) : Prop :=
  ∃ title, titleOf target = some title ∧ ∃ frame ∈ application.frames, frame.name = some title

/-- The application has the window's title among its frames, or has one frame. -/
def Decided (target : WindowTarget) (application : Application) : Prop :=
  Titled target application ∨ application.frames.length = 1

/-- The application that the last rung settles for. -/
def candidate (bus : List Application) (target : WindowTarget) : Option Application :=
  bus.find? fun application =>
    application.name.any (matchesApplication lowercase · target) && !application.frames.isEmpty

/-- The bus decides the window's frame: inside the application with the window's pid, or else by a
frame of the window's title anywhere, or else by an application of the window's name that has one
frame, or has nothing to offer. -/
def Clear (bus : List Application) (target : WindowTarget) : Prop :=
  match target.pid.bind (applicationWithPid bus) with
  | some application => Decided target application
  | none =>
    (∃ application ∈ bus, Titled target application) ∨
      ∀ application, candidate lowercase bus target = some application →
        application.frames.length = 1 ∧ ByName lowercase target application

end Ladder

/-! ## Names and titles -/

theorem elementName_nonempty (label : Option String) : elementName label ≠ some "" := by
  intro blank
  unfold elementName at blank
  obtain ⟨raw, _, read⟩ := Option.bind_eq_some_iff.mp blank
  unfold textValue at read
  split at read
  · cases read
  · next inked =>
    cases read
    exact inked rfl

theorem titleOf_eq_some {target : WindowTarget} {title : String} :
    titleOf target = some title ↔ target.title = some title ∧ title ≠ "" := by
  simp [titleOf, Option.filter_eq_some_iff]

/-- A frame that has the window's title has a title that counts. -/
theorem titleOf_of_named {target : WindowTarget} {frame : Frame} {title : String}
    (given : target.title = some title) (named : frame.name = some title) :
    titleOf target = some title := by
  refine titleOf_eq_some.mpr ⟨given, ?_⟩
  rintro rfl
  exact elementName_nonempty _ named

theorem titled_some {application : Application} {title : String} {frame : Frame}
    (found : application.titled title = some frame) :
    frame ∈ application.frames ∧ frame.name = some title := by
  refine ⟨List.mem_of_find?_eq_some found, ?_⟩
  have named := List.find?_some found
  simpa using named

theorem titled_none {application : Application} {title : String} :
    application.titled title = none ↔ ∀ frame ∈ application.frames, frame.name ≠ some title := by
  simp [Application.titled]

/-! ## The rungs -/

section Rungs

variable {lowercase : String → String} {bus : List Application} {target : WindowTarget}
  {application : Application}

theorem pid_found (found : target.pid.bind (applicationWithPid bus) = some application) :
    application ∈ bus ∧ Identified lowercase target application := by
  obtain ⟨pid, given, there⟩ := Option.bind_eq_some_iff.mp found
  refine ⟨List.mem_of_find?_eq_some there, Or.inl ?_⟩
  have same := List.find?_some there
  obtain ⟨process, has, equal⟩ := (Option.any_eq_true _ _).mp same
  refine ⟨process, has, ?_⟩
  rw [given, beq_iff_eq.mp equal]

/-- Inside one application the title, or there being one frame, decides. -/
theorem within_justified (found : target.pid.bind (applicationWithPid bus) = some application) :
    Justified lowercase bus target (withinApplication application target).root ↔
      Decided target application := by
  obtain ⟨member, identified⟩ := pid_found found
  cases title : (titleOf target).bind application.titled with
  | some frame =>
    obtain ⟨text, given, there⟩ := Option.bind_eq_some_iff.mp title
    obtain ⟨inside, named⟩ := titled_some there
    have root : (withinApplication application target).root = .frame application frame := by
      simp [withinApplication, title]
    rw [root]
    constructor
    · intro _
      exact Or.inl ⟨text, given, frame, inside, named⟩
    · intro _
      exact ⟨member, inside, Or.inl ⟨text, (titleOf_eq_some.mp given).1, named⟩⟩
  | none =>
    have untitled : ¬ Titled target application := by
      rintro ⟨text, given, frame, inside, named⟩
      have missing : application.titled text = none := by
        rw [given] at title
        exact title
      exact titled_none.mp missing frame inside named
    cases shape : application.frames with
    | nil =>
      have root : (withinApplication application target).root = .application application := by
        simp [withinApplication, title, shape]
      rw [root]
      constructor
      · exact False.elim
      · rintro (titled | one)
        · exact untitled titled
        · simp [shape] at one
    | cons first rest =>
      have root : (withinApplication application target).root = .frame application first := by
        simp [withinApplication, title, shape]
      have inside : first ∈ application.frames := by rw [shape]; exact List.mem_cons_self
      rw [root]
      constructor
      · rintro ⟨-, -, ⟨text, given, named⟩ | ⟨single, -⟩⟩
        · exact absurd ⟨text, titleOf_of_named given named, first, inside, named⟩ untitled
        · exact Or.inr (by rw [single]; rfl)
      · rintro (titled | one)
        · exact absurd titled untitled
        · have alone : rest = [] := by
            rw [shape, List.length_cons] at one
            exact List.length_eq_zero_iff.mp (by omega)
          exact ⟨member, inside, Or.inr ⟨by rw [shape, alone], identified⟩⟩

/-- The rung by title finds a frame exactly if some application has one. -/
theorem exactly_none :
    ((titleOf target).bind fun title => bus.findSome? (exactly title)) = none ↔
      ¬ ∃ application ∈ bus, Titled target application := by
  rw [Option.bind_eq_none_iff]
  constructor
  · rintro missing ⟨application, member, title, given, frame, inside, named⟩
    have nowhere := List.findSome?_eq_none_iff.mp (missing title given) application member
    exact titled_none.mp (Option.map_eq_none_iff.mp nowhere) frame inside named
  · intro untitled title given
    refine List.findSome?_eq_none_iff.mpr fun application member => ?_
    refine Option.map_eq_none_iff.mpr (titled_none.mpr fun frame inside named => untitled ?_)
    exact ⟨application, member, title, given, frame, inside, named⟩

theorem exactly_justified {correlated : Correlated}
    (found : ((titleOf target).bind fun title => bus.findSome? (exactly title)) =
      some correlated) : Justified lowercase bus target correlated.root := by
  obtain ⟨title, given, there⟩ := Option.bind_eq_some_iff.mp found
  obtain ⟨application, member, read⟩ := List.exists_of_findSome?_eq_some there
  obtain ⟨frame, has, rfl⟩ := Option.map_eq_some_iff.mp read
  obtain ⟨inside, named⟩ := titled_some has
  exact ⟨member, inside, Or.inl ⟨title, (titleOf_eq_some.mp given).1, named⟩⟩

/-- The last rung takes the first frame of its candidate. -/
theorem identity_found (lowercase : String → String) (bus : List Application)
    (target : WindowTarget) :
    bus.findSome? (identity lowercase target) =
      (candidate lowercase bus target).bind (identity lowercase target) := by
  unfold candidate
  induction bus with
  | nil => rfl
  | cons application rest later =>
    rw [List.findSome?_cons, List.find?_cons, later]
    cases named : application.name with
    | none => simp [identity, named]
    | some name =>
      cases suits : matchesApplication lowercase name target with
      | false => simp [identity, named, suits]
      | true =>
        cases shape : application.frames with
        | nil => simp [identity, named, suits, shape]
        | cons first others => simp [identity, named, suits, shape]

theorem candidate_some (chosen : candidate lowercase bus target = some application) :
    application ∈ bus ∧ ∃ name first others, application.name = some name ∧
      matchesApplication lowercase name target = true ∧ application.frames = first :: others ∧
      identity lowercase target application = some ⟨some name, .frame application first⟩ := by
  refine ⟨List.mem_of_find?_eq_some chosen, ?_⟩
  have suits := List.find?_some chosen
  simp only [Bool.and_eq_true] at suits
  obtain ⟨name, named, matching⟩ := (Option.any_eq_true _ _).mp suits.1
  cases shape : application.frames with
  | nil => simp [shape] at suits
  | cons first others =>
    refine ⟨name, first, others, named, matching, rfl, ?_⟩
    simp [identity, named, matching, shape]

theorem correlate_pid (found : target.pid.bind (applicationWithPid bus) = some application) :
    correlate lowercase bus target = .ok (withinApplication application target) := by
  simp [correlate, found]

theorem unguessed_iff : Unguessed lowercase bus target ↔ Clear lowercase bus target := by
  cases known : target.pid.bind (applicationWithPid bus) with
  | some application =>
    have decides : Justified lowercase bus target (withinApplication application target).root ↔
        Decided target application := within_justified known
    unfold Unguessed Clear
    rw [correlate_pid known, known]
    constructor
    · rintro (⟨correlated, returned, justified⟩ | refused)
      · cases returned
        exact decides.mp justified
      · cases refused
    · intro decided
      exact Or.inl ⟨_, rfl, decides.mpr decided⟩
  | none =>
    unfold Unguessed Clear
    rw [known]
    dsimp only
    cases titled : (titleOf target).bind fun title => bus.findSome? (exactly title) with
    | some correlated =>
      have answer : correlate lowercase bus target = .ok correlated := by
        simp only [correlate, known, titled]
      have somewhere : ∃ application ∈ bus, Titled target application := by
        by_contra nowhere
        rw [exactly_none.mpr nowhere] at titled
        cases titled
      exact ⟨fun _ => Or.inl somewhere,
        fun _ => Or.inl ⟨correlated, answer, exactly_justified titled⟩⟩
    | none =>
      have untitled := exactly_none.mp titled
      have last : correlate lowercase bus target =
          match (candidate lowercase bus target).bind (identity lowercase target) with
          | some correlated => .ok correlated
          | none => .error (.notCorrelated target.windowId) := by
        simp only [correlate, known, titled, identity_found]
      rw [last]
      cases chosen : candidate lowercase bus target with
      | none =>
        refine ⟨fun _ => Or.inr fun _ absent => ?_, fun _ => Or.inr rfl⟩
        cases absent
      | some application =>
        obtain ⟨member, name, first, others, named, matching, shape, read⟩ := candidate_some chosen
        have inside : first ∈ application.frames := by rw [shape]; exact List.mem_cons_self
        rw [Option.bind_some, read]
        constructor
        · rintro (⟨correlated, returned, justified⟩ | refused)
          · cases returned
            obtain ⟨-, -, ⟨title, given, same⟩ | ⟨single, identified⟩⟩ := justified
            · exact Or.inl ⟨application, member, title, titleOf_of_named given same, first, inside,
                same⟩
            · refine Or.inr fun other again => ?_
              cases again
              refine ⟨by rw [single]; rfl, ?_⟩
              obtain ⟨pid, has, given⟩ | byName := identified
              · -- the pid rung would have found this application
                have missing := Option.bind_eq_none_iff.mp known pid given
                have apart := List.find?_eq_none.mp missing application member
                rw [has] at apart
                exact absurd (beq_self_eq_true _) apart
              · exact byName
          · cases refused
        · rintro (somewhere | decided)
          · exact absurd somewhere untitled
          · obtain ⟨one, byName⟩ := decided application rfl
            have alone : others = [] := by
              rw [shape, List.length_cons] at one
              exact List.length_eq_zero_iff.mp (by omega)
            exact Or.inl ⟨_, rfl, member, inside, Or.inr ⟨by rw [shape, alone], Or.inr byName⟩⟩

/-- Two windows of different titles share a frame only if it is the one frame there is. -/
theorem justified_apart {other : WindowTarget} {frame : Frame}
    (one : Justified lowercase bus target (.frame application frame))
    (two : Justified lowercase bus other (.frame application frame))
    (titles : target.title ≠ other.title) : application.frames = [frame] := by
  obtain ⟨-, -, ⟨title, given, named⟩ | ⟨single, -⟩⟩ := one
  · obtain ⟨-, -, ⟨text, stated, called⟩ | ⟨single, -⟩⟩ := two
    · rw [given, stated, ← named, ← called] at titles
      exact absurd rfl titles
    · exact single
  · exact single

end Rungs

/-- The ladder returns a justified frame or reports that there is none exactly if the bus decides
the window's frame; then two windows of different titles never share a frame of an application
that has several. -/
theorem correlate_never_guesses (lowercase : String → String) (bus : List Application)
    (target : WindowTarget) :
    (Unguessed lowercase bus target ↔ Clear lowercase bus target) ∧
      ∀ other application frame appName otherName,
        Clear lowercase bus target → Clear lowercase bus other → target.title ≠ other.title →
        correlate lowercase bus target = .ok ⟨appName, .frame application frame⟩ →
        correlate lowercase bus other = .ok ⟨otherName, .frame application frame⟩ →
          application.frames = [frame] := by
  refine ⟨unguessed_iff, ?_⟩
  intro other application frame appName otherName settled otherSettled titles found otherFound
  have one : Justified lowercase bus target (.frame application frame) := by
    obtain ⟨correlated, returned, justified⟩ | refused := unguessed_iff.mpr settled
    · cases found.symm.trans returned
      exact justified
    · cases found.symm.trans refused
  have two : Justified lowercase bus other (.frame application frame) := by
    obtain ⟨correlated, returned, justified⟩ | refused := unguessed_iff.mpr otherSettled
    · cases otherFound.symm.trans returned
      exact justified
    · cases otherFound.symm.trans refused
  exact justified_apart one two titles

/-- An editor with two frames, neither of which is named like the window. -/
def twoFrames : Application where
  label := some "editor"
  reference := ⟨":1.7|/root"⟩
  pid := some 4242
  frames := [⟨some "first.txt", ⟨":1.7|/frame/1"⟩⟩, ⟨some "second.txt", ⟨":1.7|/frame/2"⟩⟩]

/-- A window whose title no frame has gets the first frame of its process. -/
theorem guesses_first_frame :
    ¬ ∀ lowercase bus target, Unguessed lowercase bus target := fun every => by
  have settled := unguessed_iff.mp (every id [twoFrames] ⟨⟨4⟩, some "third.txt", none, some 4242⟩)
  have found : (some (4242 : ℤ)).bind (applicationWithPid [twoFrames]) = some twoFrames := by
    decide
  simp only [Clear, found] at settled
  obtain ⟨title, given, frame, inside, named⟩ | one := settled
  · obtain ⟨same, -⟩ := titleOf_eq_some.mp given
    cases same
    revert frame
    decide
  · exact absurd one (by decide)

end ADesk.A11y.Correlate
