/- ADesk/Registry/Scan
   digest: The scan of the search directories: which file decides an id, and exactly when a file
   that is no application, or the order of the entries, decides it instead. -/

import Mathlib.Data.List.Forall2
import ADesk.Registry.Folders
import ADesk.Registry.Parser

set_option autoImplicit false

namespace ADesk.Registry.Scan

open ADesk.Registry.Folders ADesk.Registry.Parser
open scoped List

/-! ## Ids -/

structure Path where
  dir : List Char
  folder : List Name
  name : Name
  deriving DecidableEq

def toStr : Name → Option (List Char)
  | .utf8 text => some text
  | .raw .. => none

def desktopFileId (folder : List Name) (name : Name) : Option (List Char) := do
  let directories ← folder.mapM toStr
  let fileName ← toStr name
  let stem ← fileName.dropSuffix? desktopExtension
  if stem = [] then none
  else some (directories.flatMap (· ++ ['.']) ++ stem)

/-! ## The scan -/

/-- The entries by their ids, in the order of their insertion. -/
abbrev Table := List (List Char × DesktopEntry Path)

namespace Table

def get (table : Table) (id : List Char) : Option (DesktopEntry Path) :=
  (table.find? fun row => row.1 = id).map Prod.snd

def orInsert (table : Table) (id : List Char) (entry : DesktopEntry Path) : Table :=
  if (table.get id).isSome then table else table ++ [(id, entry)]

/-- The entries of the list without a query, but for their order. -/
def list (table : Table) (includeHidden : Bool) : List (DesktopEntry Path) :=
  (table.map Prod.snd).filter (·.isListable includeHidden)

end Table

structure ScanReport where
  dirsScanned : ℕ
  filesScanned : ℕ
  apps : ℕ
  skipped : ℕ
  issues : List ScanIssue

/-- The locals of a scan. -/
structure Scanning where
  report : ScanReport
  table : Table

def Scanning.issue (scanning : Scanning) (dir : List Char) (file : File) (reason : String) :
    Scanning :=
  { scanning with report := { scanning.report with
      issues := scanning.report.issues ++ [⟨dir, file.folder, some file.name, reason⟩] } }

section Locale

variable (locale : Option (List Char))

def Scanning.file (dir : List Char) (scanning : Scanning) (file : File) : Scanning :=
  match file.text with
  | .error source => scanning.issue dir file s!"cannot read file: {source}"
  | .ok text =>
    let scanning := { scanning with report :=
      { scanning.report with filesScanned := scanning.report.filesScanned + 1 } }
    match parseStr text with
    | .error .missingGroup => scanning.issue dir file "missing [Desktop Entry] group"
    | .ok raw =>
      match desktopFileId file.folder file.name with
      | none => scanning.issue dir file "cannot derive a desktop-file id"
      | some id =>
        match DesktopEntry.fromRaw id (Path.mk dir file.folder file.name) raw locale with
        | .ok entry => { scanning with table := scanning.table.orInsert id entry }
        | .error (.notApplication _) =>
          { scanning with report :=
            { scanning.report with skipped := scanning.report.skipped + 1 } }
        | .error .missingType => scanning.issue dir file "missing Type key"
        | .error .missingName => scanning.issue dir file "missing Name key"

def Scanning.directory (scanning : Scanning) (dir : SearchDir) : Scanning :=
  let (files, issues) := collectDesktopFiles dir
  let scanning := { scanning with report :=
    { scanning.report with issues := scanning.report.issues ++ issues } }
  match files with
  | none => scanning
  | some files =>
    files.foldl (Scanning.file locale dir.path) { scanning with report :=
      { scanning.report with dirsScanned := scanning.report.dirsScanned + 1 } }

def scan (dirs : List SearchDir) : ScanReport × Table :=
  let scanning := dirs.foldl (Scanning.directory locale) ⟨⟨0, 0, 0, 0, []⟩, []⟩
  ({ scanning.report with apps := scanning.table.length }, scanning.table)

/-! ## The table -/

/-- The entry that a file is read as, if it is an application. -/
def entryOf (dir : List Char) (file : File) : Option (DesktopEntry Path) := do
  let text ← file.text.toOption
  let raw ← (parseStr text).toOption
  let id ← desktopFileId file.folder file.name
  (DesktopEntry.fromRaw id ⟨dir, file.folder, file.name⟩ raw locale).toOption

def entries (dir : SearchDir) : List (DesktopEntry Path) :=
  dir.files.filterMap (entryOf locale dir.path)

def insertAll (table : Table) (entries : List (DesktopEntry Path)) : Table :=
  entries.foldl (fun table entry => table.orInsert entry.id entry) table

theorem entry_of_place {dir : List Char} {file : File} {entry : DesktopEntry Path}
    (read : entryOf locale dir file = some entry) :
    entry.path = ⟨dir, file.folder, file.name⟩ ∧
      desktopFileId file.folder file.name = some entry.id := by
  unfold entryOf at read
  simp only [Option.bind_eq_bind, Option.bind_eq_some_iff] at read
  obtain ⟨text, _, raw, _, id, named, typed⟩ := read
  have typed' : DesktopEntry.fromRaw id (Path.mk dir file.folder file.name) raw locale =
      .ok entry := by
    cases made : DesktopEntry.fromRaw id (Path.mk dir file.folder file.name) raw locale with
    | ok made' =>
      rw [made] at typed
      cases typed
      rfl
    | error => rw [made] at typed; cases typed
  obtain ⟨rfl, place⟩ := DesktopEntry.from_raw_keeps typed'
  exact ⟨place, named⟩

theorem file_table (dir : List Char) (scanning : Scanning) (file : File) :
    (scanning.file locale dir file).table =
      insertAll scanning.table (entryOf locale dir file).toList := by
  unfold Scanning.file entryOf
  cases file.text with
  | error => rfl
  | ok text =>
    cases parsed : parseStr text with
    | error missing => cases missing; simp [parsed, Except.toOption]; rfl
    | ok raw =>
      cases desktopFileId file.folder file.name with
      | none => simp [parsed, Except.toOption]; rfl
      | some id =>
        cases typed : DesktopEntry.fromRaw id (Path.mk dir file.folder file.name) raw locale with
        | ok entry =>
          obtain ⟨rfl, _⟩ := DesktopEntry.from_raw_keeps typed
          simp [parsed, typed, Except.toOption]; rfl
        | error error => cases error <;> (simp [parsed, typed, Except.toOption]; rfl)

theorem files_table (dir : List Char) (scanning : Scanning) (files : List File) :
    (files.foldl (Scanning.file locale dir) scanning).table =
      insertAll scanning.table (files.filterMap (entryOf locale dir)) := by
  induction files generalizing scanning with
  | nil => rfl
  | cons file rest ih =>
    rw [List.foldl_cons, ih, file_table]
    cases read : entryOf locale dir file with
    | none => rw [List.filterMap_cons_none read]; rfl
    | some entry => rw [List.filterMap_cons_some read]; rfl

theorem directory_table (scanning : Scanning) (dir : SearchDir) :
    (scanning.directory locale dir).table = insertAll scanning.table (entries locale dir) := by
  have collected := collect_files dir
  unfold Scanning.directory
  cases result : collectDesktopFiles dir with
  | mk files issues =>
    rw [result] at collected
    dsimp only at collected ⊢
    cases failed : dir.failed with
    | some failure =>
      rw [failed, Option.isSome_some, if_pos rfl] at collected
      rw [collected]
      unfold entries SearchDir.files Frame.files
      rw [failed]
      rfl
    | none =>
      rw [failed, Option.isSome_none, if_neg Bool.false_ne_true] at collected
      rw [collected]
      exact files_table locale dir.path _ dir.files

theorem scan_table (dirs : List SearchDir) :
    (scan locale dirs).2 = insertAll [] (dirs.flatMap (entries locale)) := by
  have grown : ∀ scanning : Scanning, (dirs.foldl (Scanning.directory locale) scanning).table =
      insertAll scanning.table (dirs.flatMap (entries locale)) := by
    induction dirs with
    | nil => exact fun _ => rfl
    | cons dir rest ih =>
      intro scanning
      rw [List.foldl_cons, ih, directory_table, List.flatMap_cons]
      unfold insertAll
      rw [List.foldl_append]
  exact grown _

theorem get_or_insert (table : Table) (entry : DesktopEntry Path) (id : List Char) :
    (table.orInsert entry.id entry).get id =
      (table.get id).or (if entry.id = id then some entry else none) := by
  unfold Table.orInsert
  by_cases same : entry.id = id
  · subst same
    rw [if_pos rfl]
    cases found : table.get entry.id with
    | some old => simp [found]
    | none =>
      rw [Option.isSome_none, if_neg Bool.false_ne_true, Option.none_or]
      unfold Table.get at found ⊢
      rw [List.find?_append, Option.map_eq_none_iff.mp found]
      simp
  · rw [if_neg same, Option.or_none]
    split
    · rfl
    · unfold Table.get
      rw [List.find?_append]
      simp [same]

/-- The table has the first entry with each id. -/
theorem scan_get (dirs : List SearchDir) (id : List Char) :
    (scan locale dirs).2.get id =
      (dirs.flatMap (entries locale)).find? fun entry => entry.id = id := by
  have inserted : ∀ (entries : List (DesktopEntry Path)) (table : Table),
      (insertAll table entries).get id =
        (table.get id).or (entries.find? fun entry => entry.id = id) := by
    intro entries
    induction entries with
    | nil => exact fun table => (Option.or_none).symm
    | cons entry rest ih =>
      intro table
      change (insertAll (table.orInsert entry.id entry) rest).get id = _
      rw [ih, get_or_insert, Option.or_assoc]
      congr 1
      by_cases same : entry.id = id <;> simp [same]
  rw [scan_table, inserted]
  rfl

/-! ## What decides an id -/

/-- The file has the id. -/
def Named (id : List Char) (file : File) : Prop :=
  desktopFileId file.folder file.name = some id

/-- The file is an application with the id. -/
def Application (dir : List Char) (id : List Char) (file : File) : Prop :=
  ∃ entry, entryOf locale dir file = some entry ∧ entry.id = id

/-- The file is an application that is neither hidden nor kept from display. -/
def Visible (dir : List Char) (file : File) : Prop :=
  ∃ entry, entryOf locale dir file = some entry ∧ entry.isListable false = true

/-- The same directory, its entries enumerated in another order. -/
structure Reenumerated (dir other : SearchDir) : Prop where
  path : other.path = dir.path
  failed : other.failed = dir.failed
  listing : Reordered dir.listing other.listing

/-- The directory is the first one of the list with a file that has the id. -/
structure Decider (dirs before : List SearchDir) (dir : SearchDir) (after : List SearchDir)
    (id : List Char) : Prop where
  split : dirs = before ++ dir :: after
  first : ∀ earlier ∈ before, ∀ file ∈ earlier.files, ¬ Named id file
  named : ∃ file ∈ dir.files, Named id file

/-- What a scan is to do: an id is decided by the first directory that has a file with it, whatever
the file is, and by nothing but the contents of the directories. -/
structure Decides (dirs : List SearchDir) : Prop where
  shadows : ∀ before dir after id, Decider dirs before dir after id →
    ∀ entry, (scan locale dirs).2.get id = some entry → entry ∈ entries locale dir
  lists : ∀ before dir after id, Decider dirs before dir after id →
    (∀ file ∈ dir.files, Named id file → Visible locale dir.path file) →
      ∃ entry ∈ (scan locale dirs).2.list false, entry.id = id ∧ entry ∈ entries locale dir
  settled : ∀ others, List.Forall₂ Reenumerated dirs others →
    ∀ id, (scan locale others).2.get id = (scan locale dirs).2.get id

/-- The first directory with a file that has the id has an application with it, unless no later
directory has one. -/
def Shadowing (dirs : List SearchDir) (id : List Char) : Prop :=
  ∀ before dir after, Decider dirs before dir after id →
    (∃ file ∈ dir.files, Application locale dir.path id file) ∨
      ∀ later ∈ after, ∀ file ∈ later.files, ¬ Application locale later.path id file

/-- Of the applications with the id in the first directory that has any, one stands in a folder
with all the others further down in it. -/
def Leading (dirs : List SearchDir) (id : List Char) : Prop :=
  ∀ before dir after, dirs = before ++ dir :: after →
    (∀ earlier ∈ before, ∀ file ∈ earlier.files, ¬ Application locale earlier.path id file) →
    (∃ file ∈ dir.files, Application locale dir.path id file) →
    ∃ lead ∈ dir.files, Application locale dir.path id lead ∧
      ∀ file ∈ dir.files, Application locale dir.path id file →
        file = lead ∨ lead.folder <+: file.folder ∧ lead.folder ≠ file.folder

variable {locale}

theorem application_named {dir id : List Char} {file : File}
    (application : Application locale dir id file) : Named id file := by
  obtain ⟨entry, read, rfl⟩ := application
  exact (entry_of_place locale read).2

/-- In one folder an id belongs to one name. -/
theorem named_name {id : List Char} {file other : File} (named : Named id file)
    (same_id : Named id other) (folder : other.folder = file.folder) : other.name = file.name := by
  have cut : ∀ {file : File}, Named id file → ∃ directories stem,
      file.folder.mapM toStr = some directories ∧
      file.name = .utf8 (stem ++ desktopExtension) ∧
      id = directories.flatMap (· ++ ['.']) ++ stem := by
    intro file named
    unfold Named desktopFileId at named
    simp only [Option.bind_eq_bind, Option.bind_eq_some_iff] at named
    obtain ⟨directories, texts, fileName, text, stem, dropped, made⟩ := named
    split at made
    · cases made
    · obtain ⟨extension, whole, same⟩ := List.dropSuffix?_eq_some_iff.mp dropped
      refine ⟨directories, stem, texts, ?_, (Option.some.inj made).symm⟩
      cases name : file.name with
      | raw => rw [name] at text; cases text
      | utf8 letters =>
        rw [name] at text
        cases text
        rw [whole, eq_of_beq same]
  obtain ⟨directories, stem, texts, name, made⟩ := cut named
  obtain ⟨directories', stem', texts', name', made'⟩ := cut same_id
  rw [folder, texts] at texts'
  cases texts'
  rw [made] at made'
  rw [name, name', List.append_cancel_left made']

theorem find_none {dir : List Char} {files : List File} {id : List Char} :
    ((files.filterMap (entryOf locale dir)).find? fun entry => entry.id = id) = none ↔
      ∀ file ∈ files, ¬ Application locale dir id file := by
  rw [List.find?_eq_none]
  constructor
  · rintro none file member ⟨entry, read, same⟩
    exact none entry (List.mem_filterMap.mpr ⟨file, member, read⟩) (decide_eq_true same)
  · intro none entry member same
    obtain ⟨file, inside, read⟩ := List.mem_filterMap.mp member
    exact none file inside ⟨entry, read, of_decide_eq_true same⟩

theorem find_some {dir : List Char} {files : List File} {id : List Char}
    {entry : DesktopEntry Path}
    (found : ((files.filterMap (entryOf locale dir)).find? fun entry => entry.id = id) =
      some entry) :
    entry.id = id ∧ ∃ before file after, files = before ++ file :: after ∧
      entryOf locale dir file = some entry ∧
      ∀ earlier ∈ before, ¬ Application locale dir id earlier := by
  refine ⟨by simpa using List.find?_some found, ?_⟩
  induction files with
  | nil => cases found
  | cons file rest ih =>
    by_cases own : Application locale dir id file
    · obtain ⟨made, read, same⟩ := own
      rw [List.filterMap_cons_some read, List.find?_cons_of_pos (by simpa using same)] at found
      refine ⟨[], file, rest, rfl, ?_, fun _ member => absurd member List.not_mem_nil⟩
      rw [read, found]
    · have skipped : ((rest.filterMap (entryOf locale dir)).find? fun entry => entry.id = id) =
          some entry := by
        cases read : entryOf locale dir file with
        | none => rwa [List.filterMap_cons_none read] at found
        | some made =>
          have other : made.id ≠ id := fun same => own ⟨made, read, same⟩
          rwa [List.filterMap_cons_some read, List.find?_cons_of_neg (by simpa using other)]
            at found
      obtain ⟨before, first, after, split, reads, none⟩ := ih skipped
      refine ⟨file :: before, first, after, by rw [split, List.cons_append], reads, ?_⟩
      intro earlier member
      rcases List.mem_cons.mp member with rfl | inside
      · exact own
      · exact none earlier inside

/-- Directories without an application of the id do not matter to it. -/
theorem find_dirs {before : List SearchDir} {id : List Char}
    (none : ∀ earlier ∈ before, ∀ file ∈ earlier.files,
      ¬ Application locale earlier.path id file) (rest : List SearchDir) :
    (((before ++ rest).flatMap (entries locale)).find? fun entry => entry.id = id) =
      (rest.flatMap (entries locale)).find? fun entry => entry.id = id := by
  induction before with
  | nil => rfl
  | cons dir before ih =>
    rw [List.cons_append, List.flatMap_cons, List.find?_append]
    unfold entries
    rw [find_none.mpr (none dir List.mem_cons_self), Option.none_or]
    exact ih fun earlier member => none earlier (List.mem_cons_of_mem dir member)

theorem decider_before {dirs before after : List SearchDir} {dir : SearchDir} {id : List Char}
    (decider : Decider dirs before dir after id) :
    ∀ earlier ∈ before, ∀ file ∈ earlier.files, ¬ Application locale earlier.path id file :=
  fun earlier member file inside application =>
    decider.first earlier member file inside (application_named application)

theorem get_decided {dirs before after : List SearchDir} {dir : SearchDir} {id : List Char}
    (split : dirs = before ++ dir :: after)
    (none : ∀ earlier ∈ before, ∀ file ∈ earlier.files,
      ¬ Application locale earlier.path id file) :
    (scan locale dirs).2.get id =
      ((entries locale dir).find? fun entry => entry.id = id).or
        ((after.flatMap (entries locale)).find? fun entry => entry.id = id) := by
  rw [scan_get, split, find_dirs none, List.flatMap_cons, List.find?_append]

/-- What the directory decides is an entry of its own. -/
theorem get_own {dirs before after : List SearchDir} {dir : SearchDir} {id : List Char}
    (split : dirs = before ++ dir :: after)
    (none : ∀ earlier ∈ before, ∀ file ∈ earlier.files,
      ¬ Application locale earlier.path id file)
    (own : ∃ file ∈ dir.files, Application locale dir.path id file) :
    ∃ entry before file after, (scan locale dirs).2.get id = some entry ∧ entry.id = id ∧
      dir.files = before ++ file :: after ∧ entryOf locale dir.path file = some entry ∧
      ∀ earlier ∈ before, ¬ Application locale dir.path id earlier := by
  obtain ⟨file, member, application⟩ := own
  rw [get_decided split none]
  cases found : (entries locale dir).find? fun entry => entry.id = id with
  | none => exact absurd application (find_none.mp found file member)
  | some entry =>
    obtain ⟨same, before, first, after, cut, read, fresh⟩ := find_some found
    exact ⟨entry, before, first, after, rfl, same, cut, read, fresh⟩

/-! ## Other orders -/

theorem search_files_meet (dir : SearchDir) : dir.files.Pairwise Meets := by
  unfold SearchDir.files Frame.files
  split
  · exact .nil
  · exact files_meet dir.distinct

/-- A file is determined by where it is. -/
theorem file_unique {dir : SearchDir} {file other : File} (member : file ∈ dir.files)
    (inside : other ∈ dir.files) (folder : other.folder = file.folder)
    (name : other.name = file.name) : other = file := by
  have apart : ∀ {file other : File}, Meets file other → other.folder = file.folder →
      other.name ≠ file.name := by
    rintro file other (above | ⟨_, differs⟩) folder
    · exact absurd (folder ▸ List.prefix_refl _) above
    · exact differs
  have pairs := search_files_meet dir
  have unique := List.Pairwise.forall_of_forall_of_flip
    (R := fun file other => other.folder = file.folder → other.name = file.name → other = file)
    (fun _ _ _ _ => rfl)
    (pairs.imp fun meets folder name => absurd name (apart meets folder))
    (pairs.imp fun meets folder name => absurd name.symm (apart meets folder.symm))
  exact unique member inside folder name

theorem reenumerated_files {dir other : SearchDir} (reenumerated : Reenumerated dir other) :
    dir.files ~ other.files := by
  unfold SearchDir.files Frame.files
  rw [reenumerated.failed]
  split
  · exact .refl _
  · obtain ⟨direct, deeper⟩ := reenumerated.listing.perm []
    exact direct.append deeper

/-- The leading file is met first in every order. -/
theorem lead_found {dir : SearchDir} {id : List Char} {lead : File} {entry : DesktopEntry Path}
    (member : lead ∈ dir.files) (read : entryOf locale dir.path lead = some entry)
    (same : entry.id = id)
    (leads : ∀ file ∈ dir.files, Application locale dir.path id file →
      file = lead ∨ lead.folder <+: file.folder ∧ lead.folder ≠ file.folder) :
    ((entries locale dir).find? fun entry => entry.id = id) = some entry := by
  cases found : (entries locale dir).find? fun entry => entry.id = id with
  | none => exact absurd ⟨entry, read, same⟩ (find_none.mp found lead member)
  | some first =>
    obtain ⟨own, before, file, after, cut, reads, fresh⟩ := find_some found
    have inside : file ∈ dir.files := cut ▸ List.mem_append_right before List.mem_cons_self
    rcases leads file inside ⟨first, reads, own⟩ with rfl | ⟨above, differs⟩
    · rw [← reads, ← read]
    · rw [cut] at member
      rcases List.mem_append.mp member with early | late
      · exact absurd ⟨entry, read, same⟩ (fresh lead early)
      · rcases List.mem_cons.mp late with rfl | late
        · exact absurd rfl differs
        · have meets : Meets file lead := by
            have pairs := search_files_meet dir
            rw [cut, List.pairwise_append] at pairs
            exact (List.pairwise_cons.mp pairs.2.1).1 lead late
          rcases meets with below | ⟨equal, _⟩
          · exact absurd above below
          · exact absurd equal differs

theorem settled_of_leading {dirs others : List SearchDir} {id : List Char}
    (leading : Leading locale dirs id) (reenumerated : List.Forall₂ Reenumerated dirs others) :
    (scan locale others).2.get id = (scan locale dirs).2.get id := by
  rw [scan_get, scan_get]
  induction reenumerated with
  | nil => rfl
  | @cons dir other rest others same _ ih =>
    rw [List.flatMap_cons, List.flatMap_cons, List.find?_append, List.find?_append]
    have files := reenumerated_files same
    by_cases own : ∃ file ∈ dir.files, Application locale dir.path id file
    · obtain ⟨lead, member, ⟨entry, read, made⟩, leads⟩ :=
        leading [] dir rest rfl (fun _ member => absurd member List.not_mem_nil) own
      have found := lead_found member read made leads
      have found' : ((entries locale other).find? fun entry => entry.id = id) = some entry := by
        refine lead_found (files.mem_iff.mp member) (same.path ▸ read) made ?_
        intro file inside application
        rw [same.path] at application
        exact leads file (files.mem_iff.mpr inside) application
      rw [found, found']
      rfl
    · have none : ∀ file ∈ dir.files, ¬ Application locale dir.path id file :=
        fun file member application => own ⟨file, member, application⟩
      have none' : ∀ file ∈ other.files, ¬ Application locale other.path id file := by
        intro file member
        rw [same.path]
        exact none file (files.mem_iff.mpr member)
      unfold entries at ih ⊢
      rw [find_none.mpr none, find_none.mpr none', Option.none_or, Option.none_or]
      refine ih fun before dir' after split clear => ?_
      refine leading (dir :: before) dir' after (by rw [split, List.cons_append]) ?_
      intro earlier member
      rcases List.mem_cons.mp member with rfl | inside
      · exact none
      · exact clear earlier inside

/-- Every file is met, in some order of the entries, before all that stand in no folder above. -/
theorem reenumerated_first {dir : SearchDir} {file : File} (member : file ∈ dir.files) :
    ∃ other, Reenumerated dir other ∧ ∃ before after, other.files = before ++ file :: after ∧
      ∀ earlier ∈ before, earlier.folder <+: file.folder := by
  cases failed : dir.failed with
  | some failure =>
    unfold SearchDir.files Frame.files at member
    rw [failed] at member
    cases member
  | none =>
    have whole : dir.files = dir.listing.files [] := by
      unfold SearchDir.files Frame.files
      rw [failed]
      rfl
    rw [whole] at member
    obtain ⟨listing, reordered, before, after, cut, above⟩ :=
      (reordered_first dir.listing [] file).2 member
    refine ⟨⟨dir.path, dir.failed, listing, reordered.distinct.2.mp dir.distinct⟩,
      ⟨rfl, rfl, reordered⟩, before, after, ?_, above⟩
    rw [← cut]
    unfold SearchDir.files Frame.files
    rw [failed]
    rfl

theorem leading_of_settled {dirs : List SearchDir} {id : List Char}
    (settled : ∀ others, List.Forall₂ Reenumerated dirs others →
      (scan locale others).2.get id = (scan locale dirs).2.get id) :
    Leading locale dirs id := by
  intro before dir after split clear own
  obtain ⟨entry, early, lead, late, got, made, cut, read, _⟩ := get_own split clear own
  have member : lead ∈ dir.files := cut ▸ List.mem_append_right early List.mem_cons_self
  refine ⟨lead, member, ⟨entry, read, made⟩, fun file inside application => ?_⟩
  obtain ⟨other, same, before', after', cut', above⟩ := reenumerated_first inside
  have reenumerated : List.Forall₂ Reenumerated dirs (before ++ other :: after) := by
    have refl : ∀ dirs, List.Forall₂ Reenumerated dirs dirs :=
      fun dirs => List.forall₂_same.mpr fun dir _ => ⟨rfl, rfl, .refl _⟩
    rw [split]
    exact List.rel_append (refl before) (.cons same (refl after))
  have own' : ∃ file ∈ other.files, Application locale other.path id file :=
    ⟨file, (reenumerated_files same).mem_iff.mp inside, same.path ▸ application⟩
  obtain ⟨entry', early', first, late', got', _, cut'', read', fresh⟩ := get_own rfl clear own'
  rw [settled _ reenumerated, got] at got'
  cases got'
  have place := (entry_of_place locale read).1.symm.trans (entry_of_place locale read').1
  obtain ⟨_, folder, name⟩ := Path.mk.injEq .. ▸ place
  have first_member : first ∈ dir.files := (reenumerated_files same).mem_iff.mpr
    (cut'' ▸ List.mem_append_right early' List.mem_cons_self)
  have lead_first : first = lead := file_unique member first_member folder.symm name.symm
  subst lead_first
  have reached : first.folder <+: file.folder := by
    rcases List.append_eq_append_iff.mp (cut'.symm.trans cut'') with
      ⟨between, longer, rest⟩ | ⟨between, longer, rest⟩
    · cases between with
      | nil =>
        cases rest
        exact List.prefix_refl _
      | cons other between =>
        cases rest
        refine absurd (same.path ▸ application) (fresh file ?_)
        rw [longer]
        exact List.mem_append_right before' List.mem_cons_self
    · cases between with
      | nil =>
        cases rest
        exact List.prefix_refl _
      | cons other between =>
        cases rest
        refine above first ?_
        rw [longer]
        exact List.mem_append_right early' List.mem_cons_self
  by_cases equal : first.folder = file.folder
  · refine Or.inl (file_unique member inside equal.symm ?_)
    exact named_name (application_named ⟨entry, read, made⟩) (application_named application)
      equal.symm
  · exact Or.inr ⟨reached, equal⟩

/-! ## What the scan does -/

theorem shadows_iff {dirs before after : List SearchDir} {dir : SearchDir} {id : List Char}
    (decider : Decider dirs before dir after id) :
    (∀ entry, (scan locale dirs).2.get id = some entry → entry ∈ entries locale dir) ↔
      (∃ file ∈ dir.files, Application locale dir.path id file) ∨
        ∀ later ∈ after, ∀ file ∈ later.files, ¬ Application locale later.path id file := by
  by_cases own : ∃ file ∈ dir.files, Application locale dir.path id file
  · refine iff_of_true (fun entry got => ?_) (Or.inl own)
    obtain ⟨first, before', file, _, got', _, cut, read, _⟩ :=
      get_own decider.split (decider_before decider) own
    rw [got] at got'
    cases got'
    exact List.mem_filterMap.mpr
      ⟨file, cut ▸ List.mem_append_right before' List.mem_cons_self, read⟩
  · have none : ∀ file ∈ dir.files, ¬ Application locale dir.path id file :=
      fun file member application => own ⟨file, member, application⟩
    have later : (scan locale dirs).2.get id =
        (after.flatMap (entries locale)).find? fun entry => entry.id = id := by
      rw [get_decided decider.split (decider_before decider)]
      unfold entries
      rw [find_none.mpr none, Option.none_or]
    constructor
    · intro shadows
      refine Or.inr fun last member file inside application => own ?_
      obtain ⟨entry, read, made⟩ := application
      have some : ((scan locale dirs).2.get id).isSome := by
        rw [later, List.find?_isSome]
        exact ⟨entry, List.mem_flatMap.mpr ⟨last, member, List.mem_filterMap.mpr
          ⟨file, inside, read⟩⟩, decide_eq_true made⟩
      obtain ⟨first, got⟩ := Option.isSome_iff_exists.mp some
      obtain ⟨file, member, reads⟩ := List.mem_filterMap.mp (shadows first got)
      rw [later] at got
      exact ⟨file, member, first, reads, by simpa using List.find?_some got⟩
    · rintro (some | clear) entry got
      · exact absurd some own
      · have missing := find_dirs clear []
        rw [List.append_nil, ← later, got] at missing
        cases missing

/-- The listed entry of an id whose files in its directory are all visible. -/
theorem lists_visible {dirs before after : List SearchDir} {dir : SearchDir} {id : List Char}
    (decider : Decider dirs before dir after id)
    (visible : ∀ file ∈ dir.files, Named id file → Visible locale dir.path file) :
    ∃ entry ∈ (scan locale dirs).2.list false, entry.id = id ∧ entry ∈ entries locale dir := by
  have own : ∃ file ∈ dir.files, Application locale dir.path id file := by
    obtain ⟨file, member, named⟩ := decider.named
    obtain ⟨entry, read, _⟩ := visible file member named
    have same := (entry_of_place locale read).2
    rw [named] at same
    exact ⟨file, member, entry, read, (Option.some.inj same).symm⟩
  obtain ⟨entry, before', file, _, got, made, cut, read, _⟩ :=
    get_own decider.split (decider_before decider) own
  have member : file ∈ dir.files := cut ▸ List.mem_append_right before' List.mem_cons_self
  refine ⟨entry, ?_, made, List.mem_filterMap.mpr ⟨file, member, read⟩⟩
  obtain ⟨entry', read', listable⟩ :=
    visible file member (application_named ⟨entry, read, made⟩)
  rw [read] at read'
  cases read'
  obtain ⟨row, found, rfl⟩ := Option.map_eq_some_iff.mp got
  exact List.mem_filter.mpr
    ⟨List.mem_map.mpr ⟨row, List.mem_of_find?_eq_some found, rfl⟩, listable⟩

end Locale

/-- A scan decides every id by its first directory, and in every order of the entries alike,
exactly when no file that is no application stands in front of an application, and the
applications of one directory with one id have a leading one. -/
theorem decides_iff (locale : Option (List Char)) (dirs : List SearchDir) :
    Decides locale dirs ↔ ∀ id, Shadowing locale dirs id ∧ Leading locale dirs id := by
  constructor
  · intro decides id
    refine ⟨fun before dir after decider => ?_, ?_⟩
    · exact (shadows_iff decider).mp (decides.shadows before dir after id decider)
    · exact leading_of_settled fun others reenumerated => decides.settled others reenumerated id
  · intro conditions
    constructor
    · intro before dir after id decider
      exact (shadows_iff decider).mpr ((conditions id).1 before dir after decider)
    · intro before dir after id decider visible
      exact lists_visible decider visible
    · intro others reenumerated id
      exact settled_of_leading (conditions id).2 reenumerated

/-- A directory with the one file `app.desktop`. -/
def appDirectory (path text : String) : SearchDir where
  path := path.toList
  failed := none
  listing := .entry (.file (.utf8 "app.desktop".toList) (.ok text.toList)) .nil
  distinct := ⟨fun _ _ => List.not_mem_nil, trivial⟩

/-- A file of the user that only says `Hidden=true` does not hide the application of the system. -/
theorem hidden_file_shadows_nothing :
    ¬ ∀ (locale : Option (List Char)) (dirs : List SearchDir), Decides locale dirs := by
  intro all
  let user := appDirectory "/home/.local/share/applications" "[Desktop Entry]\nHidden=true\n"
  let system := appDirectory "/usr/share/applications"
    "[Desktop Entry]\nType=Application\nName=App\n"
  have decider : Decider [user, system] [] user [system] "app".toList := by
    refine ⟨rfl, fun _ member => absurd member List.not_mem_nil, ?_⟩
    exact ⟨⟨[], .utf8 "app.desktop".toList, .ok "[Desktop Entry]\nHidden=true\n".toList⟩,
      List.mem_cons_self, rfl⟩
  have got : ((scan none [user, system]).2.get "app".toList).isSome = true := by
    rw [scan_get]
    decide +kernel
  have none_own : entries none user = [] := by decide +kernel
  obtain ⟨entry, found⟩ := Option.isSome_iff_exists.mp got
  have own := (all none [user, system]).shadows [] user [system] _ decider entry found
  rw [none_own] at own
  cases own

end ADesk.Registry.Scan
