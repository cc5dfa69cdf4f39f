import Shelley.Server.SkillPreamble
import Shelley.Db.Migrate

/-! # The codebase part of the system prompt

`collectCodebaseInfo` gathers what the system prompt says about the codebase: the files whose
contents are injected (the user's `AGENTS.md` files, then the guidance files at the top of the
search root and of the working directory), the installed skills' preambles, and the listing of
every guidance file of the search root (`findAllGuidanceFiles`, a `filepath.Walk`).

Paths and file names are compared lowered, so that a case-insensitive file system does not give
a file twice. `strings.ToLower` and `filepath.Join` are library code: every result below holds
for any functions in their place (`toLower`, `join`). The machine is what `os.UserHomeDir`,
`os.ReadFile`, `os.ReadDir` and `os.Lstat` report (`Machine`).

The walk lists, up to case, exactly the guidance files of the directories it enters, each once
(`findAllGuidanceFiles_spec`). The injected files are distinct up to case, and the contents map
holds exactly the non-empty contents read for them (`collectCodebaseInfo_injectFiles`). -/

namespace Shelley.Server
open Db (DirEntry)
open Go (RuntimeError)

/-! ## The walk -/

/-- What `filepath.Walk` finds at a path: a file (anything `os.Lstat` does not report as a
directory, symbolic links included), a directory with its entries in the sorted order
`readDirNames` returns them, or a directory whose entries cannot be read. -/
inductive FileNode where
  | file (name : String)
  | dir (name : String) (entries : List FileNode)
  | unreadableDir (name : String)

/-- `info.Name()`. -/
def FileNode.name : FileNode → String
  | .file name | .dir name _ | .unreadableDir name => name

/-- The keys of `findAllGuidanceFiles`'s `guidanceNames`. -/
def walkGuidanceNames : List String := ["agent.md", "agents.md", "claude.md", "dear_llm.md"]

/-- The keys of `findGuidanceFilesInDir`'s `guidanceNames`: `readme.md` besides. -/
def dirGuidanceNames : List String :=
  ["agent.md", "agents.md", "claude.md", "dear_llm.md", "readme.md"]

/-- The directories the walk does not enter: hidden ones (`strings.HasPrefix(name, ".")`),
`node_modules` and `vendor`. -/
def skippedDir (name : String) : Bool :=
  name.data.head? == some '.' || name == "node_modules" || name == "vendor"

section
variable (toLower : String → String) (join : String → String → String)

/-- `found`, and the keys `seen` maps to true, of `findAllGuidanceFiles`. -/
structure GuidanceWalk where
  found : List String := []
  seen : List String := []

/-- The walk function on a file at `path` named `name`. -/
def GuidanceWalk.visit (st : GuidanceWalk) (path name : String) : GuidanceWalk :=
  if walkGuidanceNames.contains (toLower name) then
    if st.seen.contains (toLower path) then st
    else { found := st.found ++ [path], seen := st.seen ++ [toLower path] }
  else st

mutual
/-- `walk` of `filepath.Walk` with `findAllGuidanceFiles`'s function, at `path`. The function
returns `SkipDir` for a directory it skips; for one whose entries cannot be read it is called
with the error and returns nil, and `walk` goes no deeper. -/
def walkGuidance : String → FileNode → GuidanceWalk → GuidanceWalk
  | path, .file name, st => st.visit toLower path name
  | path, .dir name entries, st =>
    if skippedDir name then st else walkGuidanceEntries path entries st
  | _, .unreadableDir _, st => st

/-- The loop of `walk` over a directory's entries. -/
def walkGuidanceEntries : String → List FileNode → GuidanceWalk → GuidanceWalk
  | _, [], st => st
  | path, node :: nodes, st =>
    walkGuidanceEntries path nodes (walkGuidance (join path node.name) node st)
end

/-- `findAllGuidanceFiles(root)`; `node` is what `os.Lstat(root)` finds, `none` for an error,
which the function ignores. -/
def findAllGuidanceFiles (root : String) (node : Option FileNode) : List String :=
  match node with
  | none => []
  | some node => (walkGuidance toLower join root node {}).found

mutual
/-- The files below `path` in the directories the walk enters, with their paths, in walk
order. -/
def walkedFiles : String → FileNode → List (String × String)
  | path, .file name => [(path, name)]
  | path, .dir name entries => if skippedDir name then [] else walkedEntries path entries
  | _, .unreadableDir _ => []

/-- The files of a directory's entries. -/
def walkedEntries : String → List FileNode → List (String × String)
  | _, [] => []
  | path, node :: nodes => walkedFiles (join path node.name) node ++ walkedEntries path nodes
end

section
variable {path : String} {node : FileNode} {nodes : List FileNode} {st : GuidanceWalk}

theorem walkGuidance_dir {name : String} :
    walkGuidance toLower join path (.dir name nodes) st =
      if skippedDir name then st else walkGuidanceEntries toLower join path nodes st := rfl

theorem walkGuidanceEntries_cons :
    walkGuidanceEntries toLower join path (node :: nodes) st =
      walkGuidanceEntries toLower join path nodes
        (walkGuidance toLower join (join path node.name) node st) := rfl

theorem walkedFiles_dir {name : String} :
    walkedFiles join path (.dir name nodes) =
      if skippedDir name then [] else walkedEntries join path nodes := rfl

theorem walkedEntries_cons :
    walkedEntries join path (node :: nodes) =
      walkedFiles join (join path node.name) node ++ walkedEntries join path nodes := rfl

end

/-- The walk calls its function on the files it reaches, in order: the function never decides
what the walk enters. -/
def visitAll (st : GuidanceWalk) (files : List (String × String)) : GuidanceWalk :=
  files.foldl (fun st f => st.visit toLower f.1 f.2) st

mutual
theorem walkGuidance_eq (path : String) : ∀ (node : FileNode) (st : GuidanceWalk),
    walkGuidance toLower join path node st = visitAll toLower st (walkedFiles join path node)
  | .file _, _ => rfl
  | .dir name entries, st => by
    rw [walkGuidance_dir, walkedFiles_dir]
    split
    · rfl
    · exact walkGuidanceEntries_eq path entries st
  | .unreadableDir _, _ => rfl

theorem walkGuidanceEntries_eq (path : String) : ∀ (nodes : List FileNode) (st : GuidanceWalk),
    walkGuidanceEntries toLower join path nodes st =
      visitAll toLower st (walkedEntries join path nodes)
  | [], _ => rfl
  | node :: nodes, st => by
    rw [walkGuidanceEntries_cons, walkedEntries_cons, walkGuidance_eq, walkGuidanceEntries_eq,
      visitAll, visitAll, visitAll, List.foldl_append]
end

/-! ## What the walk function keeps -/

/-- `seen` holds the lowered paths of `found`, without repetition. -/
structure GuidanceWalk.Inv (st : GuidanceWalk) : Prop where
  seen_eq : st.seen = st.found.map toLower
  nodup : st.seen.Nodup

theorem GuidanceWalk.Inv.visit {st : GuidanceWalk} (h : st.Inv toLower) (path name : String) :
    (st.visit toLower path name).Inv toLower := by
  unfold GuidanceWalk.visit
  split_ifs with hname hseen
  · exact h
  · refine ⟨by simp [h.seen_eq], h.nodup.append (List.nodup_singleton _) ?_⟩
    simpa using hseen
  · exact h

theorem seen_subset_visit (st : GuidanceWalk) (path name : String) :
    st.seen ⊆ (st.visit toLower path name).seen := by
  unfold GuidanceWalk.visit
  split_ifs
  · exact List.Subset.refl _
  · exact List.subset_append_left _ _
  · exact List.Subset.refl _

theorem mem_found_visit {st : GuidanceWalk} {path name p : String}
    (h : p ∈ (st.visit toLower path name).found) :
    p ∈ st.found ∨ p = path ∧ toLower name ∈ walkGuidanceNames := by
  unfold GuidanceWalk.visit at h
  split_ifs at h with hname
  · exact .inl h
  · rcases List.mem_append.1 h with h | h
    · exact .inl h
    · exact .inr ⟨List.mem_singleton.1 h, by simpa using hname⟩
  · exact .inl h

theorem mem_seen_visit (st : GuidanceWalk) {path name : String}
    (h : toLower name ∈ walkGuidanceNames) : toLower path ∈ (st.visit toLower path name).seen := by
  unfold GuidanceWalk.visit
  split_ifs with hname hseen
  · simpa using hseen
  · simp
  · exact absurd (List.elem_iff.2 h) hname

theorem GuidanceWalk.Inv.visitAll {st : GuidanceWalk} (h : st.Inv toLower)
    (files : List (String × String)) : (visitAll toLower st files).Inv toLower := by
  induction files generalizing st with
  | nil => exact h
  | cons f files ih => exact ih (GuidanceWalk.Inv.visit toLower h f.1 f.2)

theorem seen_subset_visitAll (st : GuidanceWalk) (files : List (String × String)) :
    st.seen ⊆ (visitAll toLower st files).seen := by
  induction files generalizing st with
  | nil => exact List.Subset.refl _
  | cons f files ih => exact (seen_subset_visit toLower st f.1 f.2).trans (ih _)

theorem mem_found_visitAll {st : GuidanceWalk} {files : List (String × String)} {p : String}
    (h : p ∈ (visitAll toLower st files).found) :
    p ∈ st.found ∨ ∃ name, (p, name) ∈ files ∧ toLower name ∈ walkGuidanceNames := by
  induction files generalizing st with
  | nil => exact .inl h
  | cons f files ih =>
    rcases ih h with h | ⟨name, hmem, hname⟩
    · rcases mem_found_visit toLower h with h | ⟨rfl, hname⟩
      · exact .inl h
      · exact .inr ⟨f.2, .head _, hname⟩
    · exact .inr ⟨name, .tail _ hmem, hname⟩

theorem mem_seen_visitAll (st : GuidanceWalk) {files : List (String × String)}
    {f : String × String} (hf : f ∈ files) (h : toLower f.2 ∈ walkGuidanceNames) :
    toLower f.1 ∈ (visitAll toLower st files).seen := by
  induction files generalizing st with
  | nil => cases hf
  | cons g files ih =>
    rcases List.mem_cons.1 hf with rfl | hf
    · exact seen_subset_visitAll toLower _ files (mem_seen_visit toLower st h)
    · exact ih _ hf

/-- **The guidance listing.** For any tree the walk finds at the root: no two listed paths are
equal up to case; every listed path is a file whose lowered name is a guidance name, in a
directory the walk enters (none hidden, `node_modules` or `vendor`, the root included); and every
such file is listed, up to case. -/
theorem findAllGuidanceFiles_spec (root : String) (node : FileNode) :
    ((findAllGuidanceFiles toLower join root (some node)).map toLower).Nodup ∧
    (∀ p ∈ findAllGuidanceFiles toLower join root (some node), ∃ name,
      (p, name) ∈ walkedFiles join root node ∧ toLower name ∈ walkGuidanceNames) ∧
    ∀ f ∈ walkedFiles join root node, toLower f.2 ∈ walkGuidanceNames →
      ∃ p ∈ findAllGuidanceFiles toLower join root (some node), toLower p = toLower f.1 := by
  have hinv : (visitAll toLower {} (walkedFiles join root node)).Inv toLower :=
    GuidanceWalk.Inv.visitAll toLower ⟨rfl, List.nodup_nil⟩ _
  simp only [findAllGuidanceFiles, walkGuidance_eq]
  refine ⟨hinv.seen_eq ▸ hinv.nodup, fun p hp => ?_, fun f hf hname => ?_⟩
  · rcases mem_found_visitAll toLower hp with h | h
    · cases h
    · exact h
  · have := mem_seen_visitAll toLower {} hf hname
    rw [hinv.seen_eq] at this
    simpa using this

/-- A hidden directory is not entered, and of two files whose paths are equal up to case only
the first is listed. -/
example : findAllGuidanceFiles (fun s => ⟨s.data.map Char.toLower⟩) (· ++ "/" ++ ·) "/r"
    (some (.dir "r" [.file "AGENTS.md", .dir ".git" [.file "claude.md"],
      .dir "sub" [.file "Agents.md", .file "README.md"], .file "agents.md"])) =
    ["/r/AGENTS.md", "/r/sub/Agents.md"] := by decide

/-! ## The injected files -/

/-- `findGuidanceFilesInDir(dir)`; `entries` is what `os.ReadDir(dir)` returns, `none` for an
error. Directories are passed over; of the entries whose lowered names are equal, only the first
is kept. -/
def findGuidanceFilesInDir (dir : String) (entries : Option (List DirEntry)) : List String :=
  match entries with
  | none => []
  | some entries =>
    (entries.foldl (fun (acc : List String × List String) entry =>
      if entry.isDir then acc
      else if dirGuidanceNames.contains (toLower entry.name) &&
          !acc.2.contains (toLower entry.name) then
        (acc.1 ++ [join dir entry.name], acc.2 ++ [toLower entry.name])
      else acc) ([], [])).1

/-- What `collectCodebaseInfo` reads of the machine: `os.UserHomeDir()`, `os.ReadFile`,
`os.ReadDir`, what `os.Lstat` and `filepath.Walk` find at a root (`none` for an error), and for
`loadSkillPreambles(home)` the entries of the skills directory. -/
structure Machine where
  home : Option String
  readFile : String → Option String
  readDir : String → Option (List DirEntry)
  walkRoot : String → Option FileNode
  skills : String → Option (List SkillEntry)

/-- `CodebaseInfo`; `injectFileContents` is the map, as the list of its entries. -/
structure CodebaseInfo where
  injectFiles : List String := []
  injectFileContents : List (String × String) := []
  guidanceFiles : List String := []
  skillPreambles : List (List UInt8) := []

/-- `m[key] = value` on a map kept as the list of its entries. -/
def mapSet (m : List (String × String)) (key value : String) : List (String × String) :=
  m.filter (·.1 != key) ++ [(key, value)]

/-- A file appended to `InjectFiles`, its contents set in `InjectFileContents`. -/
def CodebaseInfo.inject (info : CodebaseInfo) (file content : String) : CodebaseInfo :=
  { info with injectFiles := info.injectFiles ++ [file],
              injectFileContents := mapSet info.injectFileContents file content }

/-- One pass of the loops over the guidance files of the search root and of the working
directory, with the keys `seenFiles` maps to true: a file whose lowered path is seen is passed
over; otherwise it is marked seen, and injected when it reads without error and is not empty. -/
def injectGuidanceFile (m : Machine) (acc : CodebaseInfo × List String) (file : String) :
    CodebaseInfo × List String :=
  if acc.2.contains (toLower file) then acc
  else
    match m.readFile file with
    | some content =>
      if content ≠ "" then (acc.1.inject file content, acc.2 ++ [toLower file])
      else (acc.1, acc.2 ++ [toLower file])
    | none => (acc.1, acc.2 ++ [toLower file])

/-- The first block under the home directory: `~/.config/shelley/AGENTS.md`, injected when it
reads without error and is not empty, its lowered path then seen. -/
def injectConfigAgents (m : Machine) (file : String) : CodebaseInfo × List String :=
  match m.readFile file with
  | some content =>
    if content ≠ "" then (({} : CodebaseInfo).inject file content, [toLower file]) else ({}, [])
  | none => ({}, [])

/-- The second block: the legacy `~/.shelley/AGENTS.md`, injected when it reads without error,
is not empty and its lowered path is not seen. -/
def injectLegacyAgents (m : Machine) (acc : CodebaseInfo × List String) (file : String) :
    CodebaseInfo × List String :=
  match m.readFile file with
  | some content =>
    if content ≠ "" then
      if acc.2.contains (toLower file) then acc
      else (acc.1.inject file content, acc.2 ++ [toLower file])
    else acc
  | none => acc

/-- The user-level instructions. -/
def injectUserAgents (m : Machine) (home : String) : CodebaseInfo × List String :=
  injectLegacyAgents toLower m
    (injectConfigAgents toLower m (join (join (join home ".config") "shelley") "AGENTS.md"))
    (join (join home ".shelley") "AGENTS.md")

/-- The block of `collectCodebaseInfo` under the home directory, when `os.UserHomeDir()`
succeeds: the user-level instructions, then the skills' preambles. -/
def collectUserInfo (m : Machine) : Except RuntimeError (CodebaseInfo × List String) :=
  match m.home with
  | none => .ok ({}, [])
  | some home =>
    (loadSkillPreambles (m.skills home)).map fun preambles =>
      ({ (injectUserAgents toLower join m home).1 with skillPreambles := preambles },
        (injectUserAgents toLower join m home).2)

/-- The loops over the guidance files at the top of the search root, then of the working
directory when it is another one. -/
def injectGuidanceDirs (m : Machine) (wd searchRoot : String) (acc : CodebaseInfo × List String) :
    CodebaseInfo × List String :=
  let acc := (findGuidanceFilesInDir toLower join searchRoot (m.readDir searchRoot)).foldl
    (injectGuidanceFile toLower m) acc
  if wd ≠ searchRoot then
    (findGuidanceFilesInDir toLower join wd (m.readDir wd)).foldl (injectGuidanceFile toLower m) acc
  else acc

/-- `collectCodebaseInfo(wd, gitInfo)`, `gitRoot` being `gitInfo.Root` (`none` for a nil
`gitInfo`). It returns no error, but `loadSkillPreambles` may panic. -/
def collectCodebaseInfo (m : Machine) (wd : String) (gitRoot : Option String) :
    Except RuntimeError CodebaseInfo :=
  (collectUserInfo toLower join m).map fun acc =>
    { (injectGuidanceDirs toLower join m wd (gitRoot.getD wd) acc).1 with
      guidanceFiles := findAllGuidanceFiles toLower join (gitRoot.getD wd)
        (m.walkRoot (gitRoot.getD wd)) }

/-- What the injection keeps: the injected files are distinct up to case and their lowered paths
are seen; each read without error and not empty, and the contents map holds exactly what was
read for them. -/
structure InjectInv (m : Machine) (acc : CodebaseInfo × List String) : Prop where
  seen : ∀ f ∈ acc.1.injectFiles, toLower f ∈ acc.2
  nodup : (acc.1.injectFiles.map toLower).Nodup
  nonempty : ∀ f ∈ acc.1.injectFiles, ∃ c, m.readFile f = some c ∧ c ≠ ""
  contents : ∀ f c, (f, c) ∈ acc.1.injectFileContents ↔
    f ∈ acc.1.injectFiles ∧ m.readFile f = some c

theorem mem_mapSet {m : List (String × String)} {key value f c : String} :
    (f, c) ∈ mapSet m key value ↔ (f, c) ∈ m ∧ f ≠ key ∨ f = key ∧ c = value := by
  simp [mapSet]

section
variable {m : Machine} {acc : CodebaseInfo × List String}

theorem InjectInv.empty (m : Machine) (seen : List String) : InjectInv toLower m ({}, seen) :=
  ⟨(fun _ h => by cases h), List.nodup_nil, (fun _ h => by cases h), fun _ _ => by simp⟩

theorem InjectInv.see (h : InjectInv toLower m acc) (key : String) :
    InjectInv toLower m (acc.1, acc.2 ++ [key]) :=
  ⟨fun f hf => List.mem_append_left _ (h.seen f hf), h.nodup, h.nonempty, h.contents⟩

/-- Injecting a file whose lowered path is not seen, with the non-empty contents read for it. -/
theorem InjectInv.inject (h : InjectInv toLower m acc) {file content : String}
    (hseen : toLower file ∉ acc.2) (hread : m.readFile file = some content)
    (hne : content ≠ "") :
    InjectInv toLower m (acc.1.inject file content, acc.2 ++ [toLower file]) := by
  refine ⟨fun f hf => ?_, ?_, fun f hf => ?_, fun f c => ?_⟩
  · rcases List.mem_append.1 hf with hf | hf
    · exact List.mem_append_left _ (h.seen f hf)
    · rw [List.mem_singleton.1 hf]
      exact List.mem_append_right _ (List.mem_singleton_self _)
  · rw [CodebaseInfo.inject, List.map_append]
    refine h.nodup.append (List.nodup_singleton _) (List.disjoint_singleton.2 fun hmem => ?_)
    obtain ⟨f, hf, hlow⟩ := List.mem_map.1 hmem
    exact hseen (hlow ▸ h.seen f hf)
  · rcases List.mem_append.1 hf with hf | hf
    · exact h.nonempty f hf
    · exact ⟨content, List.mem_singleton.1 hf ▸ hread, hne⟩
  · rw [CodebaseInfo.inject, mem_mapSet, h.contents, List.mem_append, List.mem_singleton]
    by_cases hf : f = file
    · subst hf
      rw [hread]
      simp [eq_comm]
    · simp [hf]

theorem InjectInv.injectGuidanceFile (h : InjectInv toLower m acc) (file : String) :
    InjectInv toLower m (injectGuidanceFile toLower m acc file) := by
  unfold Shelley.Server.injectGuidanceFile
  split_ifs with hseen
  · exact h
  · split
    · next content hread =>
      split_ifs with hne
      · exact h.inject toLower (by simpa using hseen) hread hne
      · exact h.see toLower _
    · exact h.see toLower _

theorem InjectInv.foldl (h : InjectInv toLower m acc) (files : List String) :
    InjectInv toLower m (files.foldl (Shelley.Server.injectGuidanceFile toLower m) acc) := by
  induction files generalizing acc with
  | nil => exact h
  | cons file files ih => exact ih (h.injectGuidanceFile toLower file)

theorem InjectInv.injectGuidanceDirs (h : InjectInv toLower m acc) (wd searchRoot : String) :
    InjectInv toLower m (injectGuidanceDirs toLower join m wd searchRoot acc) := by
  unfold Shelley.Server.injectGuidanceDirs
  split
  · exact (h.foldl toLower _).foldl toLower _
  · exact h.foldl toLower _

theorem injectInv_injectConfigAgents (m : Machine) (file : String) :
    InjectInv toLower m (injectConfigAgents toLower m file) := by
  unfold injectConfigAgents
  split
  · next content hread =>
    split_ifs with hne
    · exact (InjectInv.empty toLower m []).inject toLower (List.not_mem_nil _) hread hne
    · exact InjectInv.empty toLower m []
  · exact InjectInv.empty toLower m []

theorem InjectInv.injectLegacyAgents (h : InjectInv toLower m acc) (file : String) :
    InjectInv toLower m (injectLegacyAgents toLower m acc file) := by
  unfold Shelley.Server.injectLegacyAgents
  split
  · next content hread =>
    split_ifs with hne hseen
    · exact h
    · exact h.inject toLower (by simpa using hseen) hread hne
    · exact h
  · exact h

theorem InjectInv.collectUserInfo (h : collectUserInfo toLower join m = .ok acc) :
    InjectInv toLower m acc := by
  unfold Shelley.Server.collectUserInfo at h
  split at h
  · cases h
    exact InjectInv.empty toLower m []
  · next home _ =>
    rcases hl : loadSkillPreambles (m.skills home) with e | preambles <;>
      rw [hl] at h <;> cases h
    have h : InjectInv toLower m (injectUserAgents toLower join m home) :=
      (injectInv_injectConfigAgents toLower m _).injectLegacyAgents toLower _
    exact ⟨h.seen, h.nodup, h.nonempty, h.contents⟩

end

/-- **The injected files.** Whenever `collectCodebaseInfo` returns, no two injected files are
equal up to case (the user's `AGENTS.md` files and the guidance files of the search root and of
the working directory alike); each was read without error and is not empty; and the contents
map holds exactly the contents read for the injected files. -/
theorem collectCodebaseInfo_injectFiles {m : Machine} {wd : String} {gitRoot : Option String}
    {info : CodebaseInfo} (h : collectCodebaseInfo toLower join m wd gitRoot = .ok info) :
    (info.injectFiles.map toLower).Nodup ∧
    (∀ f ∈ info.injectFiles, ∃ c, m.readFile f = some c ∧ c ≠ "") ∧
    ∀ f c, (f, c) ∈ info.injectFileContents ↔ f ∈ info.injectFiles ∧ m.readFile f = some c := by
  unfold collectCodebaseInfo at h
  rcases hu : collectUserInfo toLower join m with e | acc <;> rw [hu] at h <;> cases h
  have hinv := (InjectInv.collectUserInfo toLower join hu).injectGuidanceDirs toLower join wd
    (gitRoot.getD wd)
  exact ⟨hinv.nodup, hinv.nonempty, hinv.contents⟩

end

/-- A machine with the user's `AGENTS.md` and, on a case-sensitive file system, both
`AGENTS.md` and `agents.md` at the top of the repository. -/
def sampleMachine : Machine where
  home := some "/h"
  readFile f := if f = "/h/.config/shelley/AGENTS.md" then some "be brief"
    else if f = "/r/AGENTS.md" then some "rules" else none
  readDir d := if d = "/r" then some [⟨"AGENTS.md", false⟩, ⟨"agents.md", false⟩, ⟨"src", true⟩]
    else none
  walkRoot _ := none
  skills _ := none

theorem collectCodebaseInfo_injectFiles_sample : ∃ info,
    collectCodebaseInfo (fun s => ⟨s.data.map Char.toLower⟩) (· ++ "/" ++ ·) sampleMachine "/r"
      none = .ok info ∧
    (info.injectFiles.map fun s => ⟨s.data.map Char.toLower⟩ : List String).Nodup ∧
    (∀ f ∈ info.injectFiles, ∃ c, sampleMachine.readFile f = some c ∧ c ≠ "") ∧
    ∀ f c, (f, c) ∈ info.injectFileContents ↔
      f ∈ info.injectFiles ∧ sampleMachine.readFile f = some c :=
  ⟨_, rfl, collectCodebaseInfo_injectFiles (fun s => ⟨s.data.map Char.toLower⟩) (· ++ "/" ++ ·)
    rfl⟩

end Shelley.Server
