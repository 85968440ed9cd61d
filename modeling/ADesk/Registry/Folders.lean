/- ADesk/Registry/Folders
   digest: Search directories with everything below them, the walk that collects their desktop
   files, and what of its order does not depend on how the file system enumerates. -/

import Mathlib.Algebra.GroupWithZero.Nat
import Mathlib.Data.List.Perm.Basic

set_option autoImplicit false

namespace ADesk.Registry.Folders

open scoped List

/-! ## Directories -/

/-- A file name; of one that is not UTF-8 only its hiding dot and its extension are looked at. -/
inductive Name
  | utf8 (text : List Char)
  | raw (key : ℕ) (hidden desktop : Bool)
  deriving DecidableEq

def desktopExtension : List Char := ".desktop".toList

def Name.isHidden : Name → Bool
  | .utf8 text => text.head? = some '.'
  | .raw _ hidden _ => hidden

def Name.isDesktopFile : Name → Bool
  | .utf8 text => desktopExtension.isSuffixOf text
  | .raw _ _ desktop => desktop

/-- What a directory lists besides directories: a file or a link to one, with what reading it
gives; a link to anything else, or one that cannot be followed; an entry of unknown type; and an
entry that cannot be read. -/
inductive Found
  | file (name : Name) (text : Except String (List Char))
  | special (name : Name) (failure : Option String)
  | unknown (name : Name) (reason : String)
  | unreadable (reason : String)

def Found.name : Found → Option Name
  | .file name _ | .special name _ | .unknown name _ => some name
  | .unreadable _ => none

/-- Why a directory is not read. -/
inductive Failure
  | notFound
  | other (reason : String)

/-- The entries of a directory in the order in which they are enumerated. -/
inductive Listing
  | nil
  | entry (found : Found) (rest : Listing)
  | directory (name : Name) (failed : Option Failure) (children rest : Listing)

namespace Listing

def names : Listing → List Name
  | .nil => []
  | .entry found rest => found.name.toList ++ rest.names
  | .directory name _ _ rest => name :: rest.names

/-- No directory has a name twice. -/
def Distinct : Listing → Prop
  | .nil => True
  | .entry found rest => (∀ name ∈ found.name, name ∉ rest.names) ∧ rest.Distinct
  | .directory name _ children rest => name ∉ rest.names ∧ children.Distinct ∧ rest.Distinct

/-- The number of directories, over all levels. -/
def count : Listing → ℕ
  | .nil => 0
  | .entry _ rest => rest.count
  | .directory _ _ children rest => 1 + children.count + rest.count

end Listing

/-- A file below a search directory. -/
structure File where
  folder : List Name
  name : Name
  text : Except String (List Char)

structure SearchDir where
  path : List Char
  failed : Option Failure
  listing : Listing
  distinct : listing.Distinct

/-! ## The walk -/

structure ScanIssue where
  dir : List Char
  folder : List Name
  name : Option Name
  reason : String

/-- A directory that is to be read. -/
structure Frame where
  folder : List Name
  failed : Option Failure
  listing : Listing

/-- The locals of the walk; the last directory pushed is the first of the stack. -/
structure Walk where
  stack : List Frame
  files : List File
  issues : List ScanIssue
  rootWalked : Bool

section Loop

variable (dir : List Char)

def Walk.report (w : Walk) (folder : List Name) (name : Option Name) (reason : String) : Walk :=
  { w with issues := w.issues ++ [⟨dir, folder, name, reason⟩] }

def Walk.note (w : Walk) (folder : List Name) : Found → Walk
  | .unreadable reason => w.report dir folder none s!"cannot read directory entry: {reason}"
  | .file name text =>
    if name.isHidden then w
    else if name.isDesktopFile then { w with files := w.files ++ [⟨folder, name, text⟩] }
    else w
  | .special name failure =>
    if name.isHidden then w
    else if !name.isDesktopFile then w
    else
      match failure with
      | none => w
      | some reason => w.report dir folder (some name) s!"cannot read file: {reason}"
  | .unknown name reason =>
    if name.isHidden then w
    else w.report dir folder (some name) s!"cannot stat directory entry: {reason}"

/-- The loop over the entries of one directory. -/
def Walk.visit (w : Walk) (folder : List Name) : Listing → Walk
  | .nil => w
  | .entry found rest => (w.note dir folder found).visit folder rest
  | .directory name failed children rest =>
    if name.isHidden then w.visit folder rest
    else Walk.visit { w with stack := ⟨folder ++ [name], failed, children⟩ :: w.stack } folder rest

def Walk.read (w : Walk) (frame : Frame) : Walk :=
  match frame.failed with
  | some .notFound => w
  | some (.other reason) => w.report dir frame.folder none s!"cannot read directory: {reason}"
  | none =>
    Walk.visit dir { w with rootWalked := w.rootWalked || frame.folder = [] } frame.folder
      frame.listing

/-- The loop over the stack. -/
def Walk.loop : ℕ → Walk → Walk
  | 0, w => w
  | fuel + 1, w =>
    match w.stack with
    | [] => w
    | frame :: rest => Walk.loop fuel (Walk.read dir { w with stack := rest } frame)

end Loop

/-- The files below a directory, unless it cannot be read, and the issues of the walk. Every
directory is read once, so that their number is fuel enough. -/
def collectDesktopFiles (dir : SearchDir) : Option (List File) × List ScanIssue :=
  let w := Walk.loop dir.path (dir.listing.count + 1)
    ⟨[⟨[], dir.failed, dir.listing⟩], [], [], false⟩
  (if w.rootWalked then some w.files else none, w.issues)

/-! ## The files in the order of the walk -/

def Found.desktopFile (folder : List Name) : Found → Option File
  | .file name text =>
    if name.isHidden = false ∧ name.isDesktopFile = true then some ⟨folder, name, text⟩ else none
  | .special .. | .unknown .. | .unreadable .. => none

namespace Listing

/-- The desktop files of the directory itself. -/
def direct (folder : List Name) : Listing → List File
  | .nil => []
  | .entry found rest => (found.desktopFile folder).toList ++ rest.direct folder
  | .directory _ _ _ rest => rest.direct folder

/-- The desktop files of the directories in it, the last directory first. -/
def deeper (folder : List Name) : Listing → List File
  | .nil => []
  | .entry _ rest => rest.deeper folder
  | .directory name failed children rest =>
    rest.deeper folder ++
      if name.isHidden ∨ failed.isSome then []
      else children.direct (folder ++ [name]) ++ children.deeper (folder ++ [name])

def files (folder : List Name) (listing : Listing) : List File :=
  listing.direct folder ++ listing.deeper folder

/-- The directories that are pushed, the last one first. -/
def frames (folder : List Name) : Listing → List Frame
  | .nil => []
  | .entry _ rest => rest.frames folder
  | .directory name failed children rest =>
    rest.frames folder ++ if name.isHidden then [] else [⟨folder ++ [name], failed, children⟩]

end Listing

def Frame.files (frame : Frame) : List File :=
  if frame.failed.isSome then [] else frame.listing.files frame.folder

/-- The desktop files below a search directory. -/
def SearchDir.files (dir : SearchDir) : List File := Frame.files ⟨[], dir.failed, dir.listing⟩

theorem frames_files (folder : List Name) (listing : Listing) :
    (listing.frames folder).flatMap Frame.files = listing.deeper folder := by
  induction listing with
  | nil => rfl
  | entry found rest ih => exact ih
  | directory name failed children rest _ ih =>
    rw [Listing.frames, List.flatMap_append, ih, Listing.deeper]
    congr 1
    by_cases hidden : name.isHidden = true
    · rw [if_pos hidden, if_pos (Or.inl hidden)]
      rfl
    · rw [if_neg hidden, List.flatMap_singleton]
      unfold Frame.files
      by_cases failing : failed.isSome = true
      · rw [if_pos failing, if_pos (Or.inr failing)]
      · rw [if_neg failing, if_neg (not_or.mpr ⟨hidden, failing⟩)]
        rfl

section Loop

variable (dir : List Char)

theorem note_spec (w : Walk) (folder : List Name) (found : Found) :
    (w.note dir folder found).files = w.files ++ (found.desktopFile folder).toList ∧
      (w.note dir folder found).stack = w.stack ∧
      (w.note dir folder found).rootWalked = w.rootWalked := by
  cases found with
  | file name text =>
    unfold Walk.note Found.desktopFile
    dsimp only
    by_cases hidden : name.isHidden = true
    · rw [if_pos hidden, if_neg (by simp [hidden])]
      exact ⟨(List.append_nil _).symm, rfl, rfl⟩
    · by_cases desktop : name.isDesktopFile = true
      · rw [if_neg hidden, if_pos desktop, if_pos ⟨by simpa using hidden, desktop⟩]
        exact ⟨rfl, rfl, rfl⟩
      · rw [if_neg hidden, if_neg desktop, if_neg (by simp [desktop])]
        exact ⟨(List.append_nil _).symm, rfl, rfl⟩
  | special name failure =>
    unfold Walk.note
    dsimp only
    have same : w.files = w.files ++ (Found.desktopFile folder (.special name failure)).toList :=
      (List.append_nil _).symm
    split
    · exact ⟨same, rfl, rfl⟩
    · split
      · exact ⟨same, rfl, rfl⟩
      · cases failure <;> exact ⟨same, rfl, rfl⟩
  | unknown name reason =>
    unfold Walk.note
    dsimp only
    split <;> exact ⟨(List.append_nil _).symm, rfl, rfl⟩
  | unreadable reason => exact ⟨(List.append_nil _).symm, rfl, rfl⟩

/-- One directory adds its own files and pushes the directories in it. -/
theorem visit_spec (w : Walk) (folder : List Name) (listing : Listing) :
    (w.visit dir folder listing).files = w.files ++ listing.direct folder ∧
      (w.visit dir folder listing).stack = listing.frames folder ++ w.stack ∧
      (w.visit dir folder listing).rootWalked = w.rootWalked := by
  induction listing generalizing w with
  | nil => exact ⟨(List.append_nil _).symm, rfl, rfl⟩
  | entry found rest ih =>
    obtain ⟨files, stack, root⟩ := ih (w.note dir folder found)
    obtain ⟨noted, kept, same⟩ := note_spec dir w folder found
    rw [noted, List.append_assoc] at files
    rw [kept] at stack
    rw [same] at root
    exact ⟨files, stack, root⟩
  | directory name failed children rest _ ih =>
    rw [Walk.visit, Listing.frames]
    by_cases hidden : name.isHidden = true
    · rw [if_pos hidden, if_pos hidden, List.append_nil]
      exact ih w
    · rw [if_neg hidden, if_neg hidden, List.append_assoc]
      exact ih _

theorem frames_count (folder : List Name) (listing : Listing) :
    ((listing.frames folder).map fun frame => frame.listing.count + 1).sum ≤ listing.count := by
  induction listing with
  | nil => exact Nat.le_refl 0
  | entry found rest ih => exact ih
  | directory name failed children rest _ ih =>
    rw [Listing.frames, List.map_append, List.sum_append, Listing.count]
    split
    · rw [List.map_nil, List.sum_nil]
      omega
    · rw [List.map_singleton, List.sum_singleton]
      dsimp only
      omega

theorem frames_below (folder : List Name) (listing : Listing) :
    ∀ frame ∈ listing.frames folder, frame.folder ≠ [] := by
  induction listing with
  | nil => intro frame member; cases member
  | entry found rest ih => exact ih
  | directory name failed children rest _ ih =>
    intro frame member
    rcases List.mem_append.mp member with earlier | own
    · exact ih frame earlier
    · split at own
      · cases own
      · rw [List.mem_singleton.mp own]
        simp

/-- What reading one directory of the stack does: its files are collected or still to come. -/
theorem read_spec (w : Walk) (frame : Frame) :
    ∃ pushed : List Frame, (w.read dir frame).stack = pushed ++ w.stack ∧
      (w.read dir frame).files ++ pushed.flatMap Frame.files = w.files ++ frame.files ∧
      (pushed.map fun frame => frame.listing.count + 1).sum ≤ frame.listing.count ∧
      (∀ frame ∈ pushed, frame.folder ≠ []) ∧
      (w.read dir frame).rootWalked =
        (w.rootWalked || (frame.failed.isNone && decide (frame.folder = []))) := by
  unfold Walk.read
  cases failed : frame.failed with
  | none =>
    obtain ⟨files, stack, root⟩ := visit_spec dir
      { w with rootWalked := w.rootWalked || frame.folder = [] } frame.folder frame.listing
    refine ⟨frame.listing.frames frame.folder, stack, ?_, frames_count _ _, frames_below _ _, ?_⟩
    · dsimp only
      rw [files, frames_files, List.append_assoc]
      unfold Frame.files
      rw [failed]
      rfl
    · dsimp only
      rw [root]
      rfl
  | some failure =>
    have none : frame.files = [] := by
      unfold Frame.files
      rw [failed]
      rfl
    have kept : ∀ read : Walk, read.stack = w.stack → read.files = w.files →
        read.rootWalked = w.rootWalked → ∃ pushed : List Frame, read.stack = pushed ++ w.stack ∧
          read.files ++ pushed.flatMap Frame.files = w.files ++ frame.files ∧
          (pushed.map fun frame => frame.listing.count + 1).sum ≤ frame.listing.count ∧
          (∀ frame ∈ pushed, frame.folder ≠ []) ∧
          read.rootWalked = (w.rootWalked || (Option.isNone (some failure) &&
            decide (frame.folder = []))) := by
      intro read stack files root
      refine ⟨[], stack, ?_, Nat.zero_le _, fun _ member => absurd member List.not_mem_nil, ?_⟩
      · rw [files, none]
        rfl
      · rw [root]
        exact (Bool.or_false _).symm
    cases failure with
    | notFound => exact kept w rfl rfl rfl
    | other reason => exact kept _ rfl rfl rfl

/-- The loop collects the files of every directory on the stack. -/
theorem loop_files {fuel : ℕ} {w : Walk}
    (enough : (w.stack.map fun frame => frame.listing.count + 1).sum ≤ fuel) :
    (w.loop dir fuel).files = w.files ++ w.stack.flatMap Frame.files := by
  induction fuel generalizing w with
  | zero =>
    cases stack : w.stack with
    | nil => exact (List.append_nil _).symm
    | cons frame rest =>
      rw [stack, List.map_cons, List.sum_cons] at enough
      omega
  | succ fuel ih =>
    unfold Walk.loop
    cases stack : w.stack with
    | nil => exact (List.append_nil _).symm
    | cons frame rest =>
      dsimp only
      obtain ⟨pushed, pushes, files, fewer, _⟩ := read_spec dir { w with stack := rest } frame
      rw [stack, List.map_cons, List.sum_cons] at enough
      rw [ih, pushes, List.flatMap_append, ← List.append_assoc, files, List.flatMap_cons,
        List.append_assoc]
      rw [pushes, List.map_append, List.sum_append]
      dsimp only
      omega

/-- The root counts as walked by nothing below it. -/
theorem loop_root {fuel : ℕ} {w : Walk} (below : ∀ frame ∈ w.stack, frame.folder ≠ []) :
    (w.loop dir fuel).rootWalked = w.rootWalked := by
  induction fuel generalizing w with
  | zero => rfl
  | succ fuel ih =>
    unfold Walk.loop
    cases stack : w.stack with
    | nil => rfl
    | cons frame rest =>
      dsimp only
      obtain ⟨pushed, pushes, _, _, deep, root⟩ := read_spec dir { w with stack := rest } frame
      rw [stack] at below
      have inside := below frame List.mem_cons_self
      rw [ih, root]
      · simp [inside]
      · intro other member
        rw [pushes] at member
        rcases List.mem_append.mp member with new | old
        · exact deep other new
        · exact below other (List.mem_cons_of_mem frame old)

end Loop

/-- The walk collects the desktop files of a directory, if it can be read at all. -/
theorem collect_files (dir : SearchDir) :
    (collectDesktopFiles dir).1 = if dir.failed.isSome then none else some dir.files := by
  have enough : ([Frame.mk [] dir.failed dir.listing].map fun frame =>
      frame.listing.count + 1).sum ≤ dir.listing.count + 1 := Nat.le_refl _
  have files := loop_files dir.path
    (w := ⟨[⟨[], dir.failed, dir.listing⟩], [], [], false⟩) enough
  have root : (Walk.loop dir.path (dir.listing.count + 1)
      ⟨[⟨[], dir.failed, dir.listing⟩], [], [], false⟩).rootWalked = dir.failed.isNone := by
    unfold Walk.loop
    dsimp only
    obtain ⟨pushed, pushes, _, _, deep, root⟩ := read_spec dir.path ⟨[], [], [], false⟩
      ⟨[], dir.failed, dir.listing⟩
    rw [loop_root, root]
    · simp
    · intro frame member
      rw [pushes, List.append_nil] at member
      exact deep frame member
  unfold collectDesktopFiles
  dsimp only
  rw [root, files]
  dsimp only
  rw [List.nil_append, List.flatMap_singleton]
  unfold SearchDir.files
  cases dir.failed <;> rfl

/-! ## The order of the walk -/

theorem direct_place {folder : List Name} {listing : Listing} {file : File}
    (member : file ∈ listing.direct folder) : file.folder = folder ∧ file.name ∈ listing.names := by
  induction listing with
  | nil => cases member
  | entry found rest ih =>
    rcases List.mem_append.mp member with own | later
    · cases found with
      | file name text =>
        rw [Option.mem_toList, Found.desktopFile] at own
        split at own
        · cases own
          exact ⟨rfl, List.mem_cons_self⟩
        · cases own
      | special => cases own
      | unknown => cases own
      | unreadable => cases own
    · obtain ⟨place, named⟩ := ih later
      exact ⟨place, List.mem_append_right _ named⟩
  | directory name failed children rest _ ih =>
    obtain ⟨place, named⟩ := ih member
    exact ⟨place, List.mem_cons_of_mem name named⟩

theorem files_place {folder : List Name} {listing : Listing} {file : File} :
    (file ∈ listing.deeper folder → ∃ name ∈ listing.names, folder ++ [name] <+: file.folder) ∧
      (file ∈ listing.files folder → folder <+: file.folder) := by
  suffices deeper : file ∈ listing.deeper folder →
      ∃ name ∈ listing.names, folder ++ [name] <+: file.folder by
    refine ⟨deeper, fun member => ?_⟩
    rcases List.mem_append.mp member with direct | below
    · exact ⟨[], (List.append_nil folder).trans (direct_place direct).1.symm⟩
    · obtain ⟨name, _, under⟩ := deeper below
      exact (List.prefix_append folder [name]).trans under
  induction listing generalizing folder with
  | nil => intro member; cases member
  | entry found rest ih =>
    intro member
    obtain ⟨name, named, under⟩ := ih member
    exact ⟨name, List.mem_append_right _ named, under⟩
  | directory name failed children rest below ih =>
    intro member
    rcases List.mem_append.mp member with later | own
    · obtain ⟨other, named, under⟩ := ih later
      exact ⟨other, List.mem_cons_of_mem name named, under⟩
    · refine ⟨name, List.mem_cons_self, ?_⟩
      split at own
      · cases own
      · rcases List.mem_append.mp own with direct | deep
        · exact ⟨[], (List.append_nil _).trans (direct_place direct).1.symm⟩
        · obtain ⟨inner, _, under⟩ := below deep
          exact (List.prefix_append (folder ++ [name]) [inner]).trans under

/-- The order in which a walk can meet two files: the later one is in no folder above that of the
earlier, and is not the same file. -/
def Meets (earlier later : File) : Prop :=
  ¬ later.folder <+: earlier.folder ∨ later.folder = earlier.folder ∧ later.name ≠ earlier.name

theorem direct_meets {folder : List Name} {listing : Listing} (distinct : listing.Distinct) :
    (listing.direct folder).Pairwise Meets := by
  induction listing with
  | nil => exact .nil
  | entry found rest ih =>
    obtain ⟨fresh, others⟩ := distinct
    refine List.pairwise_append.mpr ⟨?_, ih others, ?_⟩
    · cases found.desktopFile folder <;> simp
    · intro file own other member
      obtain ⟨place, named⟩ := direct_place member
      cases found with
      | file name text =>
        rw [Option.mem_toList, Found.desktopFile] at own
        split at own
        · cases own
          refine Or.inr ⟨place, fun same => fresh name rfl ?_⟩
          rw [same] at named
          exact named
        · cases own
      | special => cases own
      | unknown => cases own
      | unreadable => cases own
  | directory name failed children rest _ ih => exact ih distinct.2.2

/-- Files are met from the outer folders to the inner ones, and none is met twice. -/
theorem files_meet {folder : List Name} {listing : Listing} (distinct : listing.Distinct) :
    (listing.files folder).Pairwise Meets := by
  have joined : ∀ {folder : List Name} {listing : Listing}, listing.Distinct →
      (listing.deeper folder).Pairwise Meets → (listing.files folder).Pairwise Meets := by
    intro folder listing distinct deeper
    refine List.pairwise_append.mpr ⟨direct_meets distinct, deeper, ?_⟩
    intro file direct other below
    obtain ⟨name, _, under⟩ := files_place.1 below
    refine Or.inl fun above => ?_
    have longer := (under.trans above).length_le
    rw [(direct_place direct).1, List.length_append, List.length_singleton] at longer
    omega
  refine joined distinct ?_
  induction listing generalizing folder with
  | nil => exact .nil
  | entry found rest ih => exact ih distinct.2
  | directory name failed children rest below ih =>
    obtain ⟨fresh, inner, others⟩ := distinct
    refine List.pairwise_append.mpr ⟨ih others, ?_, ?_⟩
    · split
      · exact .nil
      · exact joined inner (below inner)
    · intro file earlier other own
      obtain ⟨before, named, under⟩ := files_place.1 earlier
      have place : folder ++ [name] <+: other.folder := by
        split at own
        · cases own
        · exact files_place.2 own
      refine Or.inl fun above => fresh ?_
      have same : folder ++ [name] = folder ++ [before] :=
        (List.prefix_of_prefix_length_le (place.trans above) under (by simp)).eq_of_length (by simp)
      rw [List.singleton_inj.mp (List.append_cancel_left same)]
      exact named

/-! ## Other enumerations -/

/-- The same contents, enumerated in another order on any level. -/
inductive Reordered : Listing → Listing → Prop
  | refl (listing : Listing) : Reordered listing listing
  | symm {listing other : Listing} : Reordered listing other → Reordered other listing
  | trans {listing other third : Listing} :
    Reordered listing other → Reordered other third → Reordered listing third
  | entry (found : Found) {rest rest' : Listing} :
    Reordered rest rest' → Reordered (.entry found rest) (.entry found rest')
  | directory (name : Name) (failed : Option Failure) {children children' rest rest' : Listing} :
    Reordered children children' → Reordered rest rest' →
      Reordered (.directory name failed children rest) (.directory name failed children' rest')
  | swapEntries (found other : Found) (rest : Listing) :
    Reordered (.entry found (.entry other rest)) (.entry other (.entry found rest))
  | sink (name : Name) (failed : Option Failure) (children : Listing) (found : Found)
      (rest : Listing) :
    Reordered (.directory name failed children (.entry found rest))
      (.entry found (.directory name failed children rest))
  | swapDirectories (name : Name) (failed : Option Failure) (children : Listing) (other : Name)
      (failed' : Option Failure) (children' rest : Listing) :
    Reordered (.directory name failed children (.directory other failed' children' rest))
      (.directory other failed' children' (.directory name failed children rest))

/-- The files are the same ones, if in another order. -/
theorem Reordered.perm {listing other : Listing} (reordered : Reordered listing other)
    (folder : List Name) :
    listing.direct folder ~ other.direct folder ∧ listing.deeper folder ~ other.deeper folder := by
  induction reordered generalizing folder with
  | refl listing => exact ⟨.refl _, .refl _⟩
  | symm _ ih => exact ⟨(ih folder).1.symm, (ih folder).2.symm⟩
  | trans _ _ first second =>
    exact ⟨(first folder).1.trans (second folder).1, (first folder).2.trans (second folder).2⟩
  | entry found _ ih => exact ⟨(ih folder).1.append_left _, (ih folder).2⟩
  | directory name failed _ _ below ih =>
    refine ⟨(ih folder).1, (ih folder).2.append ?_⟩
    split
    · exact .refl _
    · exact (below (folder ++ [name])).1.append (below (folder ++ [name])).2
  | swapEntries found other rest =>
    refine ⟨?_, .refl _⟩
    simp only [Listing.direct, ← List.append_assoc]
    exact List.perm_append_comm.append_right _
  | sink => exact ⟨.refl _, .refl _⟩
  | swapDirectories name failed children other failed' children' rest =>
    refine ⟨.refl _, ?_⟩
    simp only [Listing.deeper, List.append_assoc]
    exact List.perm_append_comm.append_left _

theorem Reordered.distinct {listing other : Listing} (reordered : Reordered listing other) :
    listing.names ~ other.names ∧ (listing.Distinct ↔ other.Distinct) := by
  induction reordered with
  | refl listing => exact ⟨.refl _, Iff.rfl⟩
  | symm _ ih => exact ⟨ih.1.symm, ih.2.symm⟩
  | trans _ _ first second => exact ⟨first.1.trans second.1, first.2.trans second.2⟩
  | entry found _ ih =>
    refine ⟨ih.1.append_left _, ?_⟩
    simp only [Listing.Distinct, ih.1.mem_iff, ih.2]
  | directory name failed _ _ below ih =>
    refine ⟨ih.1.cons name, ?_⟩
    simp only [Listing.Distinct, ih.1.mem_iff, below.2, ih.2]
  | swapEntries found other rest =>
    constructor
    · simp only [Listing.names, ← List.append_assoc]
      exact List.perm_append_comm.append_right _
    · have half : ∀ found other : Found, (Listing.entry found (.entry other rest)).Distinct →
          (Listing.entry other (.entry found rest)).Distinct := by
        rintro found other ⟨fresh, fresh', others⟩
        refine ⟨fun name own inside => ?_, fun name own inside =>
          fresh name own (List.mem_append_right _ inside), others⟩
        rcases List.mem_append.mp inside with same | later
        · exact fresh name (Option.mem_toList.mp same)
            (List.mem_append_left _ (Option.mem_toList.mpr own))
        · exact fresh' name own later
      exact ⟨half found other, half other found⟩
  | sink name failed children found rest =>
    constructor
    · exact List.perm_middle.symm
    · constructor
      · rintro ⟨fresh, inner, fresh', others⟩
        refine ⟨fun other own inside => ?_, fun later => fresh (List.mem_append_right _ later),
          inner, others⟩
        rcases List.mem_cons.mp inside with rfl | later
        · exact fresh (List.mem_append_left _ (Option.mem_toList.mpr own))
        · exact fresh' other own later
      · rintro ⟨fresh, fresh', inner, others⟩
        refine ⟨fun inside => ?_, inner, fun other own later =>
          fresh other own (List.mem_cons_of_mem _ later), others⟩
        rcases List.mem_append.mp inside with own | later
        · exact fresh name (Option.mem_toList.mp own) List.mem_cons_self
        · exact fresh' later
  | swapDirectories name failed children other failed' children' rest =>
    constructor
    · exact .swap _ _ _
    · simp only [Listing.Distinct, Listing.names, List.mem_cons, not_or]
      grind

/-- A directory at the end of the listing is the next one to be read. -/
def Listing.snoc (rest : Listing) (name : Name) (failed : Option Failure) (children : Listing) :
    Listing :=
  match rest with
  | .nil => .directory name failed children .nil
  | .entry found rest => .entry found (rest.snoc name failed children)
  | .directory other failed' children' rest =>
    .directory other failed' children' (rest.snoc name failed children)

theorem reordered_snoc (name : Name) (failed : Option Failure) (children rest : Listing) :
    Reordered (.directory name failed children rest) (rest.snoc name failed children) := by
  induction rest with
  | nil => exact .refl _
  | entry found rest ih =>
    exact (Reordered.sink name failed children found rest).trans (.entry found ih)
  | directory other failed' children' rest _ ih =>
    exact (Reordered.swapDirectories name failed children other failed' children' rest).trans
      (.directory other failed' (.refl _) ih)

theorem snoc_files (name : Name) (failed : Option Failure) (children : Listing)
    (folder : List Name) (rest : Listing) :
    (rest.snoc name failed children).direct folder = rest.direct folder ∧
      (rest.snoc name failed children).deeper folder =
        (if name.isHidden ∨ failed.isSome then [] else children.files (folder ++ [name])) ++
          rest.deeper folder := by
  induction rest with
  | nil => exact ⟨rfl, (List.append_nil _).symm⟩
  | entry found rest ih =>
    refine ⟨?_, ih.2⟩
    rw [Listing.snoc, Listing.direct, ih.1]
    rfl
  | directory other failed' children' rest _ ih =>
    refine ⟨ih.1, ?_⟩
    rw [Listing.snoc, Listing.deeper, ih.2, List.append_assoc]
    rfl

/-- Some enumeration meets only files of the folders above a given file, and of its own folder,
before it. -/
theorem reordered_first (listing : Listing) (folder : List Name) (file : File) :
    (file ∈ listing.deeper folder → ∃ other, Reordered listing other ∧
      other.direct folder = listing.direct folder ∧
      ∃ before after, other.deeper folder = before ++ file :: after ∧
        ∀ earlier ∈ before, earlier.folder <+: file.folder) ∧
    (file ∈ listing.files folder → ∃ other, Reordered listing other ∧
      ∃ before after, other.files folder = before ++ file :: after ∧
        ∀ earlier ∈ before, earlier.folder <+: file.folder) := by
  have joined : ∀ {listing : Listing} {folder : List Name},
      (file ∈ listing.deeper folder → ∃ other, Reordered listing other ∧
        other.direct folder = listing.direct folder ∧
        ∃ before after, other.deeper folder = before ++ file :: after ∧
          ∀ earlier ∈ before, earlier.folder <+: file.folder) →
      file ∈ listing.files folder → ∃ other, Reordered listing other ∧
        ∃ before after, other.files folder = before ++ file :: after ∧
          ∀ earlier ∈ before, earlier.folder <+: file.folder := by
    intro listing folder deeper member
    rcases List.mem_append.mp member with direct | below
    · obtain ⟨before, after, split⟩ := List.append_of_mem direct
      refine ⟨listing, .refl _, before, after ++ listing.deeper folder, ?_, fun earlier early => ?_⟩
      · rw [Listing.files, split, List.append_assoc, List.cons_append]
      · have inside : earlier ∈ listing.direct folder := by
          rw [split]
          exact List.mem_append_left _ early
        have place := (direct_place inside).1.trans (direct_place direct).1.symm
        exact ⟨[], (List.append_nil _).trans place⟩
    · obtain ⟨other, reordered, same, before, after, split, above⟩ := deeper below
      refine ⟨other, reordered, listing.direct folder ++ before, after, ?_, fun earlier early => ?_⟩
      · rw [Listing.files, same, split, List.append_assoc]
      · rcases List.mem_append.mp early with direct | deep
        · rw [(direct_place direct).1]
          exact files_place.2 member
        · exact above earlier deep
  suffices deeper : file ∈ listing.deeper folder → ∃ other, Reordered listing other ∧
      other.direct folder = listing.direct folder ∧
      ∃ before after, other.deeper folder = before ++ file :: after ∧
        ∀ earlier ∈ before, earlier.folder <+: file.folder from ⟨deeper, joined deeper⟩
  induction listing generalizing folder with
  | nil => intro member; cases member
  | entry found rest ih =>
    intro member
    obtain ⟨other, reordered, same, places⟩ := ih folder member
    refine ⟨.entry found other, .entry found reordered, ?_, places⟩
    rw [Listing.direct, same]
    rfl
  | directory name failed children rest below ih =>
    intro member
    rcases List.mem_append.mp member with later | own
    · obtain ⟨other, reordered, same, before, after, split, above⟩ := ih folder later
      refine ⟨.directory name failed children other, .directory name failed (.refl _) reordered,
        same, before, after ++ if name.isHidden ∨ failed.isSome then [] else
          children.direct (folder ++ [name]) ++ children.deeper (folder ++ [name]), ?_, above⟩
      rw [Listing.deeper, split, List.append_assoc]
      rfl
    · split at own
      · cases own
      · next visible =>
        obtain ⟨other, reordered, before, after, split, above⟩ :=
          joined (below (folder ++ [name])) own
        obtain ⟨direct, deeper⟩ := snoc_files name failed other folder rest
        refine ⟨rest.snoc name failed other,
          (Reordered.directory name failed reordered (.refl rest)).trans (reordered_snoc _ _ _ _),
          direct, before, after ++ rest.deeper folder, ?_, above⟩
        rw [deeper, if_neg visible, split, List.append_assoc]
        rfl

end ADesk.Registry.Folders
