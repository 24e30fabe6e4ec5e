import Questionnaire.Filename
import Questionnaire.Proofs.FileTree.Frame
import Questionnaire.Proofs.Saved
import Questionnaire.Store

namespace Questionnaire

/-!
# The store of saved configurations

* `Store.pathFor_injective` — configurations of different names are in different files.
* `Store.save_keeps` — a configuration that has been saved is listed, and is restored as it was.
* `Store.save_failed`, `Store.save_done` — saving changes one file, or none if it fails.
* `Store.head_list` — the latest configuration comes first in the list.
-/

/-- A name that passes the check is not empty and has no slash. -/
theorem Filename.check_ok {v : Value} {name : String} (h : Filename.check v = .ok name) :
    v = .str name ∧ name ≠ "" ∧ '/' ∉ name.toList := by
  unfold check at h
  split at h
  · cases h
  · rename_i s hs
    split at h
    · cases h
    · rename_i hempty
      split at h
      · cases h
      · rename_i hreserved
        obtain rfl := Except.ok.inj h
        refine ⟨?_, by simpa using hempty, ?_⟩
        · cases v <;> cases hs
          rfl
        · intro hslash
          apply hreserved
          -- The slash is one of the reserved characters.
          exact List.any_eq_true.mpr ⟨'/', hslash, by decide⟩

namespace Store

/-! ### Paths -/

/-- The directory of a store can stand in front of a name. -/
theorem isBase_below (root function : String) :
    Path.IsBase (below root function).directory := by
  -- Whatever the names are, the path of the directory ends with the `s` of `-saves`.
  have hlast : (function ++ "-saves").toList.getLast? = some 's' := by
    rw [String.toList_append, List.getLast?_append_of_ne_nil _ (by decide)]
    rfl
  have hjoin : (Path.join root (function ++ "-saves")).toList.getLast? = some 's' := by
    unfold Path.join
    split
    · exact hlast
    · split
      · rw [String.toList_append, List.getLast?_append_of_ne_nil, hlast]
        intro hnil
        rw [hnil] at hlast
        cases hlast
      · rw [String.toList_append, List.getLast?_append_of_ne_nil, hlast]
        intro hnil
        rw [hnil] at hlast
        cases hlast
  constructor
  · intro hempty
    have hnil : (below root function).directory.toList = [] := by rw [hempty]; rfl
    have hsome : (below root function).directory.toList.getLast? = some 's' := hjoin
    rw [hnil] at hsome
    cases hsome
  · have hsome : (below root function).directory.toList.getLast? = some 's' := hjoin
    rw [hsome]
    decide

/-- The file of a configuration has a name of its own. -/
theorem isStep_fileName {s : Store} (hfunction : s.function ≠ "")
    (hslash : '/' ∉ s.function.toList) {name : String} (hname : name ≠ "")
    (hnameSlash : '/' ∉ name.toList) : Path.IsStep (name ++ s.ending) := by
  have htext : (name ++ s.ending).toList = name.toList ++ '.' :: s.function.toList := by
    simp [ending]
  -- A name, the dot and the function have three characters, so this is neither `.` nor `..`.
  have hlong : 3 ≤ (name ++ s.ending).toList.length := by
    have hn : 0 < name.toList.length := List.length_pos_of_ne_nil (by simpa using hname)
    have hf : 0 < s.function.toList.length := List.length_pos_of_ne_nil (by simpa using hfunction)
    rw [htext]
    simp only [List.length_append, List.length_cons]
    omega
  have hshort {other : String} (hother : other.toList.length < 3) : name ++ s.ending ≠ other := by
    rintro rfl
    omega
  refine ⟨hshort (by decide), ?_, hshort (by decide), hshort (by decide)⟩
  rw [htext]
  simp [hslash, hnameSlash]

/-- Only one name of those that do not start with a slash has a given path. -/
theorem pathFor_injective {s : Store} (hbase : Path.IsBase s.directory) {name other : String}
    (hname : name.toList.head? ≠ some '/') (hother : other.toList.head? ≠ some '/')
    (h : s.pathFor name = s.pathFor other) : name = other := by
  -- An absolute name would be a path of its own, and then the directory would not matter.
  have hhead {name : String} (hname : name.toList.head? ≠ some '/') :
      (name ++ s.ending).toList.head? ≠ some '/' := by
    cases hcs : name.toList with
    | nil => simp [hcs, ending]
    | cons c cs =>
      rw [hcs] at hname
      simpa [hcs] using hname
  have htext := congrArg String.toList h
  rw [pathFor, pathFor, Path.toList_join hbase (hhead hname),
    Path.toList_join hbase (hhead hother)] at htext
  have hsame : name.toList ++ s.ending.toList = other.toList ++ s.ending.toList := by
    simpa using htext
  exact String.toList_injective (List.append_cancel_right hsame)

/-! ### Listing -/

/-- A configuration is listed if its file is in the directory. -/
theorem mem_list_of_entries {s : Store} {files : FileTree} {entries : List (String × FileNode)}
    {name : String} {content : ByteArray} {time : Int}
    (hentries : files.entries s.directory = .ok entries)
    (hmem : (name ++ s.ending, .file content time) ∈ entries) : name ∈ s.list files := by
  have hentry : s.entry? (name ++ s.ending, .file content time) = some (time, name) := by
    unfold entry?
    simp [Text.before_append]
  unfold list
  rw [hentries]
  simp only [List.mem_map, List.mem_mergeSort, List.mem_filterMap]
  exact ⟨_, ⟨_, hmem, hentry⟩, rfl⟩

/-! ### Saving -/

/-- A configuration that has been saved is listed with a time, its path leads to a file, and it is
    restored as it was. -/
structure Keeps (s : Store) (files : FileTree) (name : String) (saved : Saved) : Prop where
  listed : name ∈ s.list files
  isFile : files.isFile (s.pathFor name) = true
  restored : s.restore files name = .ok saved

/-- A configuration that is saved is written to the path of its name. -/
theorem save_path {s : Store} {files files' : FileTree} {name path : String} {saved : Saved}
    (h : s.save files name saved = (.ok path, files')) :
    path = s.pathFor name
      ∧ ∃ t : FileTree,
        t.write (s.pathFor name) (saved.document s.function).toUTF8 = .ok files' := by
  unfold save at h
  split at h
  · cases h
  · rename_i t _
    dsimp only at h
    -- The directories are made first, and only then is the file written.
    split at h
    · rename_i written hwrite
      obtain ⟨hpath, rfl⟩ := Prod.mk.inj h
      exact ⟨(Except.ok.inj hpath).symm, t, hwrite⟩
    · cases h

/-- The path of what has been saved leads to its document. -/
theorem find_save {s : Store} {files files' : FileTree} {name path : String} {saved : Saved}
    (h : s.save files name saved = (.ok path, files')) :
    ∃ time, files'.find path = .ok (.file (saved.document s.function).toUTF8 time) := by
  obtain ⟨rfl, t, hwrite⟩ := save_path h
  exact ⟨t.clock, FileTree.find_write hwrite⟩

/-- **Saving.** What has been saved is kept. -/
theorem save_keeps {s : Store} (hbase : Path.IsBase s.directory) (hfunction : s.function ≠ "")
    (hslash : '/' ∉ s.function.toList) {name : String} (hname : name ≠ "")
    (hnameSlash : '/' ∉ name.toList) {pairs : List (String × String)}
    (hnodup : (Keyed.keys pairs).Nodup) {files files' : FileTree} {path : String}
    (h : s.save files name ⟨pairs⟩ = (.ok path, files')) : s.Keeps files' name ⟨pairs⟩ := by
  obtain ⟨-, t, hwrite⟩ := save_path h
  have hstep := isStep_fileName hfunction hslash hname hnameSlash
  obtain ⟨hfind, entries, hentries, hmem⟩ := FileTree.write_below hbase hstep hwrite
  -- `pathFor` is the joined path that `write_below` speaks about.
  replace hfind : files'.find (s.pathFor name) = _ := hfind
  constructor
  · exact mem_list_of_entries hentries hmem
  · rw [FileTree.isFile, hfind]
  · unfold restore
    dsimp only
    rw [FileTree.readText_of_find hfind]
    dsimp only
    rw [Saved.read_document s.function hnodup]
    rfl

/-- What is restored has been read from the text of the file. -/
theorem restore_eq_ok {s : Store} {files : FileTree} {name : String} {saved : Saved} :
    s.restore files name = .ok saved
      ↔ ∃ text, files.readText (s.pathFor name) = .ok text
        ∧ Saved.read s.function text = .ok saved := by
  unfold restore
  dsimp only
  cases files.readText (s.pathFor name) <;> simp [Except.mapError_eq_ok]

/-! ### What saving leaves alone -/

/-- Preparing a store makes directories at most. -/
theorem addsDirectories_prepare (s : Store) (t : FileTree) :
    t.AddsDirectories (s.prepare t).2 := by
  unfold prepare
  split
  · exact .refl
  · exact FileTree.addsDirectories_makeDirectories t s.directory

/-- Saving that fails may have made directories, and has done nothing else. -/
theorem save_failed {s : Store} {t t' : FileTree} {name : String} {saved : Saved} {e : StoreError}
    (h : s.save t name saved = (.error e, t')) :
    t.AddsDirectories t' := by
  have hprepare := s.addsDirectories_prepare t
  unfold save at h
  split at h
  · rename_i hfailed
    rw [hfailed] at hprepare
    obtain ⟨-, rfl⟩ := Prod.mk.inj h
    exact hprepare
  · rename_i made hmade
    rw [hmade] at hprepare
    dsimp only at h
    split at h
    · cases (Prod.mk.inj h).1
    · obtain ⟨-, rfl⟩ := Prod.mk.inj h
      exact hprepare

/-- Saving makes the directory if it is missing, and then puts one file into the tree. -/
theorem save_done {s : Store} {t t' : FileTree} {name path : String} {saved : Saved}
    (h : s.save t name saved = (.ok path, t')) :
    path = s.pathFor name ∧ ∃ made place, t.AddsDirectories made
      ∧ made.locate (s.pathFor name) = .ok place ∧ made.node? place ≠ some .directory
      ∧ t' = made.setNode place (.file (saved.document s.function).toUTF8 t.clock) := by
  have hprepare := s.addsDirectories_prepare t
  unfold save at h
  split at h
  · cases (Prod.mk.inj h).1
  · rename_i made hmade
    rw [hmade] at hprepare
    dsimp only at h
    -- Making directories does not move the clock, so the file has the time from before.
    split at h
    · rename_i written hwrite
      obtain ⟨hpath, rfl⟩ := Prod.mk.inj h
      obtain ⟨place, hlocate, hnode, hset⟩ := FileTree.write_eq_ok hwrite
      rw [hprepare.clock_eq] at hset
      exact ⟨(Except.ok.inj hpath).symm, made, place, hprepare, hlocate, hnode, hset⟩
    · cases (Prod.mk.inj h).1

/-- The file of a saved configuration is one of those in the directory.  It is put there after the
    directory has been made, and nothing else is. -/
theorem save_below {s : Store} (hbase : Path.IsBase s.directory) (hfunction : s.function ≠ "")
    (hslash : '/' ∉ s.function.toList) {name : String} (hname : name ≠ "")
    (hnameSlash : '/' ∉ name.toList) {t t' : FileTree} {path : String} {saved : Saved}
    (h : s.save t name saved = (.ok path, t')) :
    path = s.pathFor name ∧ ∃ made directory, t.AddsDirectories made
      ∧ made.locate s.directory = .ok directory ∧ made.node? directory = some .directory
      ∧ made.locate (s.pathFor name) = .ok (directory ++ [name ++ s.ending])
      ∧ made.node? (directory ++ [name ++ s.ending]) ≠ some .directory
      ∧ t' = made.setNode (directory ++ [name ++ s.ending])
        (.file (saved.document s.function).toUTF8 t.clock) := by
  obtain ⟨hpath, made, place, hmade, hlocate, hnode, hput⟩ := save_done h
  obtain ⟨directory, hbelow, hdirectory, rfl⟩ := FileTree.locate_below hbase
    (isStep_fileName hfunction hslash hname hnameSlash) hlocate
  exact ⟨hpath, made, directory, hmade, hbelow, hdirectory, hlocate, hnode, hput⟩

/-! ### The latest configuration -/

/-- The configurations in the directory, with their times. -/
def listed (s : Store) (files : FileTree) : List (Int × String) :=
  match files.entries s.directory with
  | .ok entries => entries.filterMap s.entry?
  | .error _ => []

/-- Configurations are listed by time and name. -/
theorem list_eq (s : Store) (files : FileTree) :
    s.list files = ((s.listed files).mergeSort precedes).map (·.2) := by
  unfold list listed
  cases files.entries s.directory <;> simp

/-- The file of a configuration has changed later than those of all others. -/
def IsLatest (s : Store) (files : FileTree) (name : String) : Prop :=
  ∃ time, (time, name) ∈ s.listed files
    ∧ ∀ other ∈ s.listed files, other.2 ≠ name → other.1 < time

/-- One configuration precedes another if it is later, or of the same time and first by name. -/
theorem precedes_iff {a b : Int × String} :
    precedes a b = true ↔ b.1 < a.1 ∨ (a.1 = b.1 ∧ a.2 ≤ b.2) := by
  simp [precedes]

/-- Precedence is transitive. -/
theorem precedes_trans (a b c : Int × String) (hab : precedes a b = true)
    (hbc : precedes b c = true) : precedes a c = true := by
  rw [precedes_iff] at *
  rcases hab with hab | ⟨hab, hab'⟩ <;> rcases hbc with hbc | ⟨hbc, hbc'⟩
  · exact Or.inl (by omega)
  · exact Or.inl (by omega)
  · exact Or.inl (by omega)
  · exact Or.inr ⟨by omega, String.le_trans hab' hbc'⟩

/-- Of two configurations, one precedes the other. -/
theorem precedes_total (a b : Int × String) : (precedes a b || precedes b a) = true := by
  rw [Bool.or_eq_true, precedes_iff, precedes_iff]
  rcases Int.lt_trichotomy a.1 b.1 with hlt | heq | hgt
  · exact Or.inr (Or.inl hlt)
  · rcases String.le_total a.2 b.2 with hle | hge
    · exact Or.inl (Or.inr ⟨heq, hle⟩)
    · exact Or.inr (Or.inr ⟨heq.symm, hge⟩)
  · exact Or.inl (Or.inl hgt)

/-- The latest configuration comes first. -/
theorem head_list {s : Store} {files : FileTree} {name : String} (h : s.IsLatest files name) :
    (s.list files).head? = some name := by
  obtain ⟨time, hmem, hlater⟩ := h
  have hsorted := List.pairwise_mergeSort precedes_trans precedes_total (s.listed files)
  have hmem' : (time, name) ∈ (s.listed files).mergeSort precedes := List.mem_mergeSort.mpr hmem
  have hsubset : ∀ a ∈ (s.listed files).mergeSort precedes, a ∈ s.listed files := fun a ha =>
    List.mem_mergeSort.mp ha
  rw [list_eq]
  generalize (s.listed files).mergeSort precedes = sorted at hsorted hmem' hsubset ⊢
  cases sorted with
  | nil => cases hmem'
  | cons first rest =>
    by_cases hfirst : first.2 = name
    · simp [hfirst]
    · have hearlier := hlater first (hsubset first (by simp)) hfirst
      -- The latest one is in the rest, and nothing in the rest is later than what is first.
      rcases List.mem_cons.mp hmem' with rfl | hrest
      · exact absurd rfl hfirst
      · have hprecedes := precedes_iff.mp ((List.pairwise_cons.mp hsorted).1 _ hrest)
        dsimp only at hprecedes
        omega

/-! ### A single configuration -/

/-- A tree with nothing but one configuration: that of `f` under the name `a`, whose file holds a
    text. -/
def single (text : String) : FileTree :=
  ⟨[(["f-saves"], .directory), (["f-saves", "a.f"], .file text.toUTF8 0)], 1⟩

/-- The store of a single configuration lists it. -/
theorem list_single (text : String) : (below "." "f").list (single text) = ["a"] := by
  have hlisted : (below "." "f").listed (single text) = [(0, "a")] := rfl
  rw [list_eq, hlisted, List.mergeSort_singleton]
  rfl

/-- Its path leads to its text. -/
theorem find_single (text : String) :
    (single text).find ((below "." "f").pathFor "a") = .ok (.file text.toUTF8 0) := rfl

/-- The file is restored as its text is read. -/
theorem restore_single {text : String} {saved : Saved} :
    (below "." "f").restore (single text) "a" = .ok saved ↔ Saved.read "f" text = .ok saved := by
  have htext := FileTree.readText_of_find (find_single text)
  rw [restore_eq_ok]
  constructor
  · rintro ⟨found, hfound, hread⟩
    obtain rfl := Except.ok.inj (htext.symm.trans hfound)
    exact hread
  · exact fun hread => ⟨text, htext, hread⟩

/-- The single configuration is kept if its text can be read. -/
theorem keeps_single {text : String} {saved : Saved} (h : Saved.read "f" text = .ok saved) :
    (below "." "f").Keeps (single text) "a" saved where
  listed := by simp [list_single]
  isFile := by rw [FileTree.isFile, find_single]
  restored := restore_single.mpr h

/-! ### Two configurations -/

/-- Two configurations of `f`. -/
def pair : FileTree :=
  ⟨[(["f-saves"], .directory), (["f-saves", "a.f"], .file "function = 'f'\n".toUTF8 0),
    (["f-saves", "bb.f"], .file "function = 'f'\n".toUTF8 0)], 1⟩

variable {n : Nat}

/-- The directory of a function lies behind a detour of the root. -/
theorem directory_detour (n : Nat) :
    (below (Path.detour n ".") "f").directory = Path.detour n "./f-saves" := by
  have hbase : Path.IsBase (Path.detour n ".") := Path.isBase_detour n ⟨by decide, by decide⟩
  have hdirectory : (below (Path.detour n ".") "f").directory
      = Path.join (Path.detour n ".") "f-saves" := rfl
  rw [hdirectory, Path.join_eq hbase (by decide), Path.detour_append, Path.detour_append]
  rfl

/-- The path of a configuration lies behind a detour of the root. -/
theorem pathFor_detour (n : Nat) {name path : String}
    (hname : (name ++ ".f").toList.head? ≠ some '/')
    (hpath : "./f-saves/" ++ (name ++ ".f") = path) :
    (below (Path.detour n ".") "f").pathFor name = Path.detour n path := by
  have hending : (below (Path.detour n ".") "f").pathFor name
      = Path.join (below (Path.detour n ".") "f").directory (name ++ ".f") := rfl
  rw [hending, Path.join_eq (isBase_below _ _) hname, directory_detour, Path.detour_append,
    Path.detour_append, ← hpath]
  rfl

/-- Both configurations of the pair are listed if the directory can be reached. -/
theorem mem_pair (h : 2 * n + 9 ≤ Path.longestPath) {name : String}
    (hname : name = "a" ∨ name = "bb") :
    name ∈ (below (Path.detour n ".") "f").list pair := by
  have hlocate : pair.locate (below (Path.detour n ".") "f").directory = .ok ["f-saves"] := by
    rw [directory_detour, FileTree.locate_detour ⟨by decide, by decide⟩ (by decide) h]
    rfl
  have hentries : pair.entriesAt ["f-saves"] = [("a.f", .file "function = 'f'\n".toUTF8 0),
      ("bb.f", .file "function = 'f'\n".toUTF8 0)] := rfl
  have hmem : (name ++ (below (Path.detour n ".") "f").ending,
      .file "function = 'f'\n".toUTF8 0) ∈ pair.entriesAt ["f-saves"] := by
    -- Both names stand in the directory, whatever the length of their paths.
    rw [hentries]
    rcases hname with rfl | rfl
    · exact List.mem_cons_self
    · exact List.mem_cons_of_mem _ List.mem_cons_self
  exact mem_list_of_entries (FileTree.entries_of_locate hlocate rfl) hmem

/-- The one with the short name is kept if its path can be reached. -/
theorem keeps_pair (h : 2 * n + 13 ≤ Path.longestPath) :
    (below (Path.detour n ".") "f").Keeps pair "a" ⟨[]⟩ := by
  have hpath : (below (Path.detour n ".") "f").pathFor "a"
      = Path.detour n "./f-saves/a.f" := pathFor_detour n (by decide) (by decide)
  have hfind : pair.find ((below (Path.detour n ".") "f").pathFor "a")
      = .ok (.file "function = 'f'\n".toUTF8 0) := by
    rw [hpath, FileTree.find, FileTree.locate_detour ⟨by decide, by decide⟩ (by decide) h]
    rfl
  have hread : Saved.read "f" "function = 'f'\n" = .ok ⟨[]⟩ := by decide +kernel
  exact ⟨mem_pair (by omega) (.inl rfl), by rw [FileTree.isFile, hfind],
    restore_eq_ok.mpr ⟨_, FileTree.readText_of_find hfind, hread⟩⟩

/-- The one with the long name is no file if its path is too long. -/
theorem isFile_pair (h : Path.longestPath < 2 * n + 14) :
    pair.isFile ((below (Path.detour n ".") "f").pathFor "bb") = false := by
  have hpath : (below (Path.detour n ".") "f").pathFor "bb"
      = Path.detour n "./f-saves/bb.f" := pathFor_detour n (by decide) (by decide)
  rw [hpath]
  apply FileTree.isFile_of_long
  rw [Path.size_detour]
  exact h

end Store

end Questionnaire
