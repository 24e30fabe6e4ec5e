import Questionnaire.Proofs.FileTree.Entries
import Questionnaire.Proofs.FileTree.Place
import Questionnaire.Proofs.Store

namespace Questionnaire.Store

/-!
# What a store recalls

Configurations are saved for several functions below one root, their times are set, and other files
come and go.  Whatever happens, the store of a function recalls what has been saved for it.

* `Change`, `Change.run?` — what may happen.
* `ledger` — what has been saved for a function, the latest first, as a list by name.
* `Reflects` — the files agree with a ledger; `Reflects.change` is the step.
* `Recalls` — reading and listing agree with a ledger.
* `run_recalls` — this is so after all changes.
-/

open FileTree (Alters placeOf)

variable {root function : String} {t t' : FileTree} {n : String}

/-! ### Changes -/

/-- What may happen to the files. -/
inductive Change where
  /-- A configuration of a function is saved. -/
  | save (function name : String) (saved : Saved) (time : Int)
  /-- The time of the file of a configuration is set. -/
  | touch (function name : String) (time : Int)
  /-- Another file is written. -/
  | write (path : String) (content : ByteArray) (time : Int)
  /-- Another file is taken away. -/
  | remove (path : String)

namespace Change

/-- The files after a change.  There are none if the file system does not accept it. -/
def run? (root : String) (t : FileTree) : Change → Option FileTree
  | .save g n saved time =>
    let (path, t') := (below root g).save { t with clock := time } n saved
    path.toOption.map fun _ => t'
  | .touch g n time => (t.touch ((below root g).pathFor n) time).toOption
  | .write path content time => ({ t with clock := time }.write path content).toOption
  | .remove path => (t.remove path).toOption

/-- The names of functions and configurations are as they have to be, and no other file is named
    like the configurations of the function. -/
def IsProper (function : String) : Change → Prop
  | .save g n _ _ | .touch g n _ =>
    g ≠ "" ∧ '/' ∉ g.toList ∧ Filename.check (.str n) = .ok n
  | .write path _ _ | .remove path =>
    ∀ name ∈ (placeOf path).getLast?, ¬ ("." ++ function).toList <:+ name.toList

/-- The time of a configuration of the function is set. -/
def touches (function : String) : Change → Bool
  | .touch g _ _ => g == function
  | _ => false

/-- The time at which a configuration of the function is saved. -/
def savedAt? (function : String) : Change → Option Int
  | .save g _ _ time => if g = function then some time else none
  | _ => none

end Change

/-! ### Ledgers -/

/-- What has been saved under a name, and the time of its file. -/
structure Entry where
  time : Int
  saved : Saved

/-- What has been saved by name, the latest first. -/
abbrev Ledger := List (String × Entry)

/-- A configuration that is saved comes to the front, and replaces an older one of its name. -/
def Change.record (function : String) (ledger : Ledger) : Change → Ledger
  | .save g n saved time =>
    if g = function then (n, ⟨time, saved⟩) :: ledger.filter (·.1 ≠ n) else ledger
  | .touch g n time =>
    if g = function then ledger.map fun (m, e) => (m, if m = n then { e with time } else e)
    else ledger
  | .write _ _ _ | .remove _ => ledger

/-- What has been saved for a function by several changes. -/
def ledger (function : String) (changes : List Change) : Ledger :=
  changes.foldl (Change.record function) []

/-- Setting the time of one configuration leaves what has been saved. -/
theorem lookup_touched (ledger : Ledger) (n m : String) (time : Int) :
    (ledger.map fun (k, e) => (k, if k = n then { e with time } else e)).lookup m
      = (ledger.lookup m).map fun e => if m = n then { e with time } else e := by
  induction ledger with
  | nil => rfl
  | cons entry ledger ih =>
    obtain ⟨k, e⟩ := entry
    rw [List.map_cons, List.lookup_cons, List.lookup_cons, ih]
    by_cases h : m = k
    · simp [h]
    · simp [show (m == k) = false by simpa using h]

/-- Setting a time leaves the names and their order. -/
theorem keys_touched (ledger : Ledger) (n : String) (time : Int) :
    Keyed.keys (ledger.map fun (k, e) => (k, if k = n then { e with time } else e))
      = Keyed.keys ledger := by
  simp [Keyed.keys, Function.comp_def]

/-- A name that is dropped is gone, and the others stay. -/
theorem keys_filter (ledger : Ledger) (n : String) :
    Keyed.keys (ledger.filter (·.1 ≠ n)) = (Keyed.keys ledger).filter (· ≠ n) := by
  simp [Keyed.keys, List.filter_map, Function.comp_def]

/-! ### Places -/

/-- The place of the directory. -/
def place (s : Store) : Place := placeOf s.directory

/-- The place of the file of a configuration. -/
def placeFor (s : Store) (name : String) : Place := s.place ++ [name ++ s.ending]

/-- The directory of a function is one step of a path if the name of the function has no slash. -/
theorem isStep_directory (hslash : '/' ∉ function.toList) :
    Path.IsStep (function ++ "-saves") := by
  have htext : (function ++ "-saves").toList = function.toList ++ "-saves".toList := by simp
  have hne {other : String} (hother : other.toList.length < 6) : function ++ "-saves" ≠ other := by
    rintro rfl
    rw [htext, List.length_append] at hother
    have hlength : "-saves".toList.length = 6 := rfl
    omega
  refine ⟨hne (by decide), ?_, hne (by decide), hne (by decide)⟩
  rw [htext, List.mem_append]
  exact fun h => h.elim hslash (by decide)

/-- The directory of a function lies directly below the root. -/
theorem place_below (hslash : '/' ∉ function.toList) :
    (below root function).place = placeOf root ++ [function ++ "-saves"] :=
  FileTree.placeOf_join root (isStep_directory hslash)

/-- The file of a configuration lies directly in it. -/
theorem placeFor_below (hslash : '/' ∉ function.toList) (n : String) :
    (below root function).placeFor n
      = placeOf root ++ [function ++ "-saves", n ++ ("." ++ function)] := by
  rw [placeFor, place_below hslash, List.append_assoc]
  rfl

/-- Different configurations are in different places. -/
theorem placeFor_inj {g m : String} (hslash : '/' ∉ function.toList) (hg : '/' ∉ g.toList)
    (h : (below root function).placeFor n = (below root g).placeFor m) : function = g ∧ n = m := by
  rw [placeFor_below hslash, placeFor_below hg] at h
  obtain ⟨hdirectory, hname⟩ : function ++ "-saves" = g ++ "-saves"
      ∧ n ++ ("." ++ function) = m ++ ("." ++ g) := by
    simpa using List.append_cancel_left h
  obtain rfl : function = g :=
    String.toList_injective (by simpa using congrArg String.toList hdirectory)
  exact ⟨rfl, String.toList_injective (by simpa using congrArg String.toList hname)⟩

/-- No file of a configuration is in the place of a base. -/
theorem isBase_placeFor (hslash : '/' ∉ function.toList) (n : String) :
    FileTree.isBase ((below root function).placeFor n) = false := by
  rw [placeFor_below hslash]
  exact FileTree.isBase_below (isStep_directory hslash) _ _

/-- The path of a configuration leads to its place. -/
theorem locate_pathFor (hfunction : function ≠ "") (hslash : '/' ∉ function.toList) (hn : n ≠ "")
    (hnSlash : '/' ∉ n.toList) {found : Place}
    (h : t.locate ((below root function).pathFor n) = .ok found) :
    found = (below root function).placeFor n := by
  rw [FileTree.locate_eq_placeOf h, pathFor, FileTree.placeOf_join _
    (isStep_fileName (s := below root function) hfunction hslash hn hnSlash)]
  rfl

/-! ### Agreement of the files -/

/-- The files of a function are those of a ledger. -/
structure Reflects (root function : String) (t : FileTree) (ledger : Ledger) : Prop where
  distinct : t.Distinct (below root function).place
  once : (Keyed.keys ledger).Nodup
  valid : ∀ n ∈ Keyed.keys ledger, n ≠ "" ∧ '/' ∉ n.toList
  located : ∀ n ∈ Keyed.keys ledger,
    t.locate ((below root function).pathFor n) = .ok ((below root function).placeFor n)
  files : ∀ n, t.file? ((below root function).placeFor n)
    = (ledger.lookup n).map fun e => ((e.saved.document function).toUTF8, e.time)

/-- The time of the clock is no matter. -/
theorem Reflects.clock {ledger : Ledger} (h : Reflects root function t ledger) (time : Int) :
    Reflects root function { t with clock := time } ledger := by
  have hsame (place : Place) (hnode : t.node? place = some .directory) :
      ({ t with clock := time } : FileTree).node? place = some .directory := hnode
  exact ⟨h.distinct, h.once, h.valid,
    fun n hn => FileTree.locate_of_directories hsame (h.located n hn), h.files⟩

/-- What alters a file that is none of the function's leaves all agreement. -/
theorem Reflects.alters {ledger : Ledger} (h : Reflects root function t ledger) {place : Place}
    (halters : Alters place t t') (hplace : ∀ n, (below root function).placeFor n ≠ place) :
    Reflects root function t' ledger where
  distinct := halters.distinct _ h.distinct
  once := h.once
  valid := h.valid
  located n hn := FileTree.locate_of_directories halters.directory (h.located n hn)
  files n := (halters.file _ (hplace n)).trans (h.files n)

/-- A saved configuration is in its place, and at most one other file has been altered. -/
theorem save_alters {g : String} (hg : g ≠ "") (hslash : '/' ∉ g.toList) (hn : n ≠ "")
    (hnSlash : '/' ∉ n.toList) {saved : Saved} {path : String}
    (h : (below root g).save t n saved = (.ok path, t')) :
    Alters ((below root g).placeFor n) t t'
      ∧ t'.locate ((below root g).pathFor n) = .ok ((below root g).placeFor n)
      ∧ t'.file? ((below root g).placeFor n) = some ((saved.document g).toUTF8, t.clock) := by
  -- The place of the file lies directly below the directory of the store, whichever way its path
  -- goes.
  obtain ⟨-, made, directory, hmade, hbelow, -, hlocate, hnode, rfl⟩ :=
    save_below (isBase_below root g) hg hslash hn hnSlash h
  have hplace : directory ++ [n ++ (below root g).ending] = (below root g).placeFor n :=
    locate_pathFor hg hslash hn hnSlash hlocate
  rw [hplace] at hnode hlocate ⊢
  have hbase := FileTree.isBase_of_node hnode
  refine ⟨(hmade.alters _).trans (FileTree.alters_setNode hnode _ _),
    FileTree.locate_setNode hbase hnode _ hlocate, ?_⟩
  rw [FileTree.file_setNode hbase, if_pos rfl]
  rfl

/-- Saving under a name puts what has been saved in front, with the time of the clock. -/
theorem Reflects.save {ledger : Ledger} (h : Reflects root function t ledger)
    (hfunction : function ≠ "") (hslash : '/' ∉ function.toList) (hn : n ≠ "")
    (hnSlash : '/' ∉ n.toList) {saved : Saved} {path : String}
    (hsave : (below root function).save t n saved = (.ok path, t')) :
    Reflects root function t' ((n, ⟨t.clock, saved⟩) :: ledger.filter (·.1 ≠ n)) := by
  -- One file is put in a place that no other entry of the ledger has.
  obtain ⟨halters, hlocate, hfile⟩ := save_alters hfunction hslash hn hnSlash hsave
  have hkeys : Keyed.keys ((n, ⟨t.clock, saved⟩) :: ledger.filter (·.1 ≠ n))
      = n :: (Keyed.keys ledger).filter (· ≠ n) := by
    rw [← keys_filter]
    rfl
  constructor
  case distinct => exact halters.distinct _ h.distinct
  case once =>
    rw [hkeys, List.nodup_cons]
    exact ⟨by simp, h.once.filter _⟩
  case valid =>
    intro m hm
    rw [hkeys] at hm
    rcases List.mem_cons.mp hm with rfl | hm
    · exact ⟨hn, hnSlash⟩
    · exact h.valid m (List.mem_of_mem_filter hm)
  case located =>
    intro m hm
    rw [hkeys] at hm
    rcases List.mem_cons.mp hm with rfl | hm
    · exact hlocate
    · exact FileTree.locate_of_directories halters.directory
        (h.located m (List.mem_of_mem_filter hm))
  case files =>
    intro m
    by_cases hm : m = n
    · subst hm
      -- The new entry is that of `n`; every other file is where it was, with the content it had.
      rw [hfile]
      simp
    · have hplace : (below root function).placeFor m ≠ (below root function).placeFor n :=
        fun heq => hm (placeFor_inj hslash hslash heq).2
      rw [halters.file _ hplace, h.files m, List.lookup_cons,
        show (m == n) = false by simpa using hm, Keyed.lookup_filter_ne hm]

/-- Setting a time changes it in the ledger and nothing else. -/
theorem Reflects.touch {ledger : Ledger} (h : Reflects root function t ledger)
    (hfunction : function ≠ "") (hslash : '/' ∉ function.toList) (hn : n ≠ "")
    (hnSlash : '/' ∉ n.toList) {time : Int}
    (htouch : t.touch ((below root function).pathFor n) time = .ok t') :
    Reflects root function t'
      (ledger.map fun (m, e) => (m, if m = n then { e with time } else e)) := by
  obtain ⟨place, hlocate, halters, hfile⟩ := FileTree.touch_eq_ok htouch
  obtain rfl := locate_pathFor hfunction hslash hn hnSlash hlocate
  constructor
  case distinct => exact halters.distinct _ h.distinct
  case once => rw [keys_touched]; exact h.once
  case valid => rw [keys_touched]; exact h.valid
  case located =>
    rw [keys_touched]
    exact fun m hm => FileTree.locate_of_directories halters.directory (h.located m hm)
  case files =>
    -- The content stays, and only the time of `n` becomes another.
    intro m
    rw [lookup_touched, Option.map_map]
    by_cases hm : m = n
    · subst hm
      rw [hfile, h.files m, Option.map_map]
      cases ledger.lookup m <;> simp
    · have hplace : (below root function).placeFor m ≠ (below root function).placeFor n :=
        fun heq => hm (placeFor_inj hslash hslash heq).2
      rw [halters.file _ hplace, h.files m]
      cases ledger.lookup m <;> simp [hm]

/-- A file that is not named like a configuration is in none of their places. -/
theorem placeFor_ne {path : String}
    (h : ∀ name ∈ (placeOf path).getLast?, ¬ ("." ++ function).toList <:+ name.toList) (n : String) :
    (below root function).placeFor n ≠ placeOf path := by
  intro heq
  apply h (n ++ ("." ++ function))
  · rw [← heq, placeFor]
    simp [ending, below]
  · rw [String.toList_append (s := n)]
    exact List.suffix_append _ _

/-- A save that the file system accepts gives a path. -/
theorem run_save {g : String} {saved : Saved} {time : Int}
    (h : (Change.save g n saved time).run? root t = some t') :
    ∃ path, (below root g).save { t with clock := time } n saved = (.ok path, t') := by
  obtain ⟨path, hpath, ht'⟩ := Option.map_eq_some_iff.mp h
  exact ⟨path, Prod.ext (Except.toOption_eq_some.mp hpath) ht'⟩

/-- **One change.** A change that is recorded is reflected. -/
theorem Reflects.change {ledger : Ledger} (h : Reflects root function t ledger)
    (hfunction : function ≠ "") (hslash : '/' ∉ function.toList) {c : Change}
    (hproper : c.IsProper function) (hrun' : c.run? root t = some t') :
    Reflects root function t' (c.record function ledger) := by
  -- A change of another function, and a foreign one, happens in another place.
  cases c with
  | save g n saved time =>
    obtain ⟨hg, hgSlash, hcheck⟩ := hproper
    obtain ⟨-, hn, hnSlash⟩ := Filename.check_ok hcheck
    obtain ⟨path, hsave⟩ := run_save hrun'
    by_cases hsame : g = function
    · subst hsame
      rw [Change.record, if_pos rfl]
      exact (h.clock time).save hfunction hslash hn hnSlash hsave
    · rw [Change.record, if_neg hsame]
      exact (h.clock time).alters (save_alters hg hgSlash hn hnSlash hsave).1 fun m heq =>
        hsame (placeFor_inj hslash hgSlash heq).1.symm
  | touch g n time =>
    obtain ⟨hg, hgSlash, hcheck⟩ := hproper
    obtain ⟨-, hn, hnSlash⟩ := Filename.check_ok hcheck
    have htouch := Except.toOption_eq_some.mp hrun'
    rw [Change.record]
    split
    · rename_i hsame
      subst hsame
      exact h.touch hfunction hslash hn hnSlash htouch
    · rename_i hother
      obtain ⟨place, hlocate, halters, -⟩ := FileTree.touch_eq_ok htouch
      obtain rfl := locate_pathFor hg hgSlash hn hnSlash hlocate
      exact h.alters halters fun m heq => hother (placeFor_inj hslash hgSlash heq).1.symm
  | write path content time =>
    obtain ⟨place, hlocate, hnode, rfl⟩ :=
      FileTree.write_eq_ok (Except.toOption_eq_some.mp hrun')
    obtain rfl := FileTree.locate_eq_placeOf hlocate
    exact (h.clock time).alters (FileTree.alters_setNode hnode _ _) (placeFor_ne hproper)
  | remove path =>
    obtain ⟨place, hlocate, halters⟩ :=
      FileTree.remove_eq_ok (Except.toOption_eq_some.mp hrun')
    obtain rfl := FileTree.locate_eq_placeOf hlocate
    exact h.alters halters (placeFor_ne hproper)

/-- **All changes.** From files that agree with a ledger, changes lead to files that agree with what
    they have recorded in it. -/
theorem Reflects.run {ledger : Ledger} (h : Reflects root function t ledger)
    (hfunction : function ≠ "") (hslash : '/' ∉ function.toList) {changes : List Change}
    (hproper : ∀ c ∈ changes, c.IsProper function)
    (hrun : changes.foldlM (Change.run? root) t = some t') :
    Reflects root function t' (changes.foldl (Change.record function) ledger) := by
  -- The induction is on the changes, with the tree and the ledger left open.
  induction changes generalizing t ledger with
  | nil =>
    obtain rfl := Option.some.inj hrun
    exact h
  | cons c changes ih =>
    rw [List.foldlM_cons] at hrun
    obtain ⟨next, hrun', hrest⟩ := Option.bind_eq_some_iff.mp hrun
    exact ih (h.change hfunction hslash (hproper c List.mem_cons_self) hrun')
      (fun d hd => hproper d (List.mem_cons_of_mem c hd)) hrest

/-- Nothing is below the place of a path. -/
def IsEmptyBelow (t : FileTree) (path : String) : Prop :=
  ∀ pair ∈ t.nodes, ∀ step rest, Path.IsStep step → pair.1 ≠ placeOf path ++ step :: rest

/-- With nothing below the root, nothing has been saved. -/
theorem reflects_empty (hslash : '/' ∉ function.toList) (hempty : IsEmptyBelow t root) :
    Reflects root function t [] where
  distinct := by
    apply FileTree.distinct_of_empty
    intro pair hpair n
    rw [place_below hslash, List.append_assoc]
    exact hempty pair hpair _ _ (isStep_directory hslash)
  once := List.nodup_nil
  valid _ hn := nomatch hn
  located _ hn := nomatch hn
  files n := by
    have hnone : t.nodes.lookup ((below root function).placeFor n) = none := by
      rw [List.lookup_eq_none_iff]
      intro pair hpair
      rw [placeFor_below hslash]
      simpa using (hempty pair hpair _ _ (isStep_directory hslash)).symm
    rw [FileTree.file?, FileTree.node?, if_neg (by simp [isBase_placeFor hslash]), hnone]
    rfl

/-! ### Listing -/

/-- An entry of a directory is listed if it is a file whose name has the ending of the function. -/
theorem entry_eq_some {s : Store} {name : String} {node : FileNode} {time : Int} :
    s.entry? (name, node) = some (time, n)
      ↔ ∃ content, node = .file content time ∧ name = n ++ s.ending := by
  constructor
  · intro h
    cases node with
    | directory => cases h
    | file content found =>
      obtain ⟨cs, hbefore, heq⟩ := Option.map_eq_some_iff.mp h
      obtain ⟨rfl, rfl⟩ := Prod.mk.inj heq
      refine ⟨content, rfl, String.toList_injective ?_⟩
      rw [Text.eq_of_before hbefore]
      simp
  · rintro ⟨content, rfl, rfl⟩
    unfold entry?
    simp [Text.before_append]

/-- What is listed of a directory in which each name stands once. -/
theorem mem_listed {s : Store} (hdistinct : t.Distinct s.place)
    (hbase : FileTree.isBase (s.placeFor n) = false) {time : Int} :
    (time, n) ∈ (t.entriesAt s.place).filterMap s.entry?
      ↔ ∃ content, t.file? (s.placeFor n) = some (content, time) := by
  rw [List.mem_filterMap]
  constructor
  · rintro ⟨⟨name, node⟩, hmem, hentry⟩
    obtain ⟨content, rfl, rfl⟩ := entry_eq_some.mp hentry
    rw [FileTree.mem_entriesAt hdistinct hbase] at hmem
    refine ⟨content, ?_⟩
    rw [FileTree.file?, placeFor, hmem]
    rfl
  · rintro ⟨content, hfile⟩
    exact ⟨_, (FileTree.mem_entriesAt hdistinct hbase).mpr (FileTree.node_of_file hfile),
      entry_eq_some.mpr ⟨content, rfl, rfl⟩⟩

/-- No name is listed twice. -/
theorem listed_once {s : Store} (hdistinct : t.Distinct s.place) :
    ((t.entriesAt s.place).filterMap s.entry?).Pairwise fun a b => a.2 ≠ b.2 := by
  rw [List.pairwise_filterMap]
  refine hdistinct.entriesAt.imp ?_
  rintro ⟨name, node⟩ ⟨name', node'⟩ hne ⟨time, n⟩ ha ⟨time', n'⟩ hb heq
  obtain ⟨-, -, rfl⟩ := entry_eq_some.mp ha
  obtain ⟨-, -, rfl⟩ := entry_eq_some.mp hb
  exact hne (by rw [show n = n' from heq])

/-- The configurations in the directory are those of the ledger. -/
theorem Reflects.entries {ledger : Ledger} (h : Reflects root function t ledger)
    (hslash : '/' ∉ function.toList) :
    ((t.entriesAt (below root function).place).filterMap (Store.entry? (below root function))).Perm
      (ledger.map fun (n, e) => (e.time, n)) := by
  have hnames : (ledger.map fun (n, e) => (e.time, n)).map (·.2) = Keyed.keys ledger := by
    simp [Keyed.keys, Function.comp_def]
  have honce : (ledger.map fun (n, e) => (e.time, n)).Nodup := by
    apply List.Nodup.of_map (·.2)
    rw [hnames]
    exact h.once
  rw [List.perm_ext_iff_of_nodup ((listed_once h.distinct).imp fun hne heq => hne (by rw [heq]))
    honce]
  rintro ⟨time, n⟩
  rw [mem_listed h.distinct (isBase_placeFor hslash n), h.files n, List.mem_map]
  constructor
  · rintro ⟨content, hfile⟩
    obtain ⟨e, he, heq⟩ := Option.map_eq_some_iff.mp hfile
    exact ⟨(n, e), Keyed.mem_of_lookup he, by rw [← (Prod.mk.inj heq).2]⟩
  · rintro ⟨⟨m, e⟩, hmem, heq⟩
    obtain ⟨rfl, rfl⟩ := Prod.mk.inj heq
    exact ⟨_, by rw [Keyed.lookup_of_mem h.once hmem]; rfl⟩

/-- What is listed is the ledger, in some order. -/
theorem Reflects.listed {ledger : Ledger} (h : Reflects root function t ledger)
    (hfunction : function ≠ "") (hslash : '/' ∉ function.toList) :
    ((below root function).listed t).Perm (ledger.map fun (n, e) => (e.time, n)) := by
  have hentries := h.entries hslash
  cases ledger with
  | nil =>
    -- Nothing is in the directory, if it is there at all.
    rw [List.map_nil, List.perm_nil] at hentries ⊢
    unfold Store.listed FileTree.entries
    cases hlocate : t.locate (below root function).directory with
    | error e => rfl
    | ok directory =>
      obtain rfl := FileTree.locate_eq_placeOf hlocate
      simp only [bind, Except.bind]
      split
      · rename_i heq
        split at heq
        · cases heq
          exact hentries
        · cases heq
        · cases heq
      · rfl
  | cons entry rest =>
    obtain ⟨n, e⟩ := entry
    have hn : n ∈ Keyed.keys ((n, e) :: rest) := List.mem_cons_self
    obtain ⟨hne, hnSlash⟩ := h.valid n hn
    obtain ⟨directory, hlocate, hnode, -⟩ := FileTree.locate_below (isBase_below root function)
      (isStep_fileName (s := below root function) hfunction hslash hne hnSlash) (h.located n hn)
    obtain rfl := FileTree.locate_eq_placeOf hlocate
    unfold Store.listed
    rw [FileTree.entries_of_locate hlocate hnode]
    exact hentries

/-! ### The order of the list -/

/-- Two configurations, each of which precedes the other, are the same. -/
theorem precedes_antisymm (a b : Int × String) (hab : precedes a b = true)
    (hba : precedes b a = true) : a = b := by
  rw [precedes_iff] at hab hba
  rcases hab with hab | ⟨hab, hab'⟩ <;> rcases hba with hba | ⟨hba, hba'⟩
  · omega
  · omega
  · omega
  · exact Prod.ext hab (String.le_antisymm hab' hba')

/-- There is one order of what is listed. -/
theorem mergeSort_eq {found sorted : List (Int × String)} (hperm : found.Perm sorted)
    (hsorted : sorted.Pairwise fun a b => precedes a b = true) :
    found.mergeSort precedes = sorted :=
  List.Perm.eq_of_pairwise (fun a b _ _ => precedes_antisymm a b)
    (List.pairwise_mergeSort precedes_trans precedes_total found) hsorted
    ((List.mergeSort_perm found precedes).trans hperm)

/-- The list depends only on what there is to be listed, in whatever order it is found. -/
theorem list_of_listed {s : Store} (h : (s.listed t').Perm (s.listed t)) : s.list t' = s.list t := by
  rw [list_eq, list_eq, mergeSort_eq (h.trans (List.mergeSort_perm _ _).symm)
    (List.pairwise_mergeSort precedes_trans precedes_total (s.listed t))]

/-- The times in a ledger, each later than all that follow. -/
def IsDescending (ledger : Ledger) : Prop := ledger.Pairwise fun d e => e.2.time < d.2.time

/-- A ledger stays in the order of the times, if each configuration is saved later than all before
    and no time is set. -/
theorem isDescending_record {ledger : Ledger} {changes : List Change}
    (h : IsDescending ledger)
    (hlater : ∀ e ∈ ledger, ∀ time ∈ changes.filterMap (Change.savedAt? function), e.2.time < time)
    (htouches : ∀ c ∈ changes, c.touches function = false)
    (htimes : (changes.filterMap (Change.savedAt? function)).Pairwise (· < ·)) :
    IsDescending (changes.foldl (Change.record function) ledger) := by
  induction changes generalizing ledger with
  | nil => exact h
  | cons c changes ih =>
    have hrest := fun d hd => htouches d (List.mem_cons_of_mem c hd)
    have hno : c.touches function = false := htouches c List.mem_cons_self
    rw [List.foldl_cons]
    by_cases hown : ∃ n saved time, c = .save function n saved time
    · obtain ⟨n, saved, time, rfl⟩ := hown
      have hsaved : (Change.save function n saved time).savedAt? function = some time := if_pos rfl
      rw [List.filterMap_cons_some hsaved] at hlater htimes
      obtain ⟨hfirst, htimes⟩ := List.pairwise_cons.mp htimes
      rw [Change.record, if_pos rfl]
      apply ih _ _ hrest htimes
      · -- all that stay have been saved earlier
        refine List.pairwise_cons.mpr ⟨fun e he => ?_, List.Pairwise.filter _ h⟩
        exact hlater e (List.mem_of_mem_filter he) time List.mem_cons_self
      · intro e he later hmem
        rcases List.mem_cons.mp he with rfl | he
        · exact hfirst later hmem
        · exact hlater e (List.mem_of_mem_filter he) later (List.mem_cons_of_mem _ hmem)
    · have hsame : c.record function ledger = ledger ∧ c.savedAt? function = none := by
        cases c with
        | save g n saved time =>
          have hg : g ≠ function := by
            rintro rfl
            exact hown ⟨n, saved, time, rfl⟩
          exact ⟨if_neg hg, if_neg hg⟩
        | touch g n time => exact ⟨if_neg (by simpa [Change.touches] using hno), rfl⟩
        | write path content time => exact ⟨rfl, rfl⟩
        | remove path => exact ⟨rfl, rfl⟩
      rw [List.filterMap_cons_none hsame.2] at hlater htimes
      rw [hsame.1]
      exact ih h hlater hrest htimes

/-! ### Recalling -/

/-- A store gives what a ledger holds. -/
structure Recalls (s : Store) (t : FileTree) (ledger : Ledger) : Prop where
  restored : ∀ n e, ledger.lookup n = some e →
    ∃ merged, s.restore t n = .ok merged ∧ e.saved.IsMerged merged
  unsaved : ∀ n, n ≠ "" → '/' ∉ n.toList → ledger.lookup n = none → ∃ e, s.restore t n = .error e
  listed : (s.list t).Perm (Keyed.keys ledger)
  once : (s.list t).Nodup
  /-- The latest time comes first, and names decide where times are the same. -/
  sorted : (s.list t).Pairwise fun m n => ∃ d e, ledger.lookup m = some d ∧ ledger.lookup n = some e
    ∧ (e.time < d.time ∨ (d.time = e.time ∧ m ≤ n))
  /-- The order in which the directory gives its entries does not matter. -/
  anyOrder : ∀ t' entries entries', t.entries s.directory = .ok entries →
    t'.entries s.directory = .ok entries' → entries'.Perm entries → s.list t' = s.list t

/-- A store whose files are those of a ledger gives what the ledger holds. -/
theorem Reflects.recalls {ledger : Ledger} (h : Reflects root function t ledger)
    (hfunction : function ≠ "") (hslash : '/' ∉ function.toList) :
    (below root function).Recalls t ledger := by
  have hlisted := h.listed hfunction hslash
  have hnames : ((below root function).list t).Perm (Keyed.keys ledger) := by
    have hkeys : Keyed.keys ledger = (ledger.map fun (n, e) => (e.time, n)).map (·.2) := by
      simp [Keyed.keys, Function.comp_def]
    rw [list_eq, hkeys]
    exact ((List.mergeSort_perm _ _).trans hlisted).map _
  constructor
  case restored =>
    intro n e he
    have hn : n ∈ Keyed.keys ledger := Keyed.isSome_lookup_iff.mp (by simp [he])
    have hfile := h.files n
    rw [he] at hfile
    have htext := FileTree.readText_of_find
      (FileTree.find_of_locate (h.located n hn) (FileTree.node_of_file hfile))
    obtain ⟨merged, hread, hmerged⟩ := Saved.read_document_merged function e.saved
    exact ⟨merged, restore_eq_ok.mpr ⟨_, htext, hread⟩, hmerged⟩
  case unsaved =>
    intro n hn hnSlash hnone
    cases hrestore : (below root function).restore t n with
    | error e => exact ⟨e, rfl⟩
    | ok saved =>
      -- what is restored would be a file in the place of the name
      obtain ⟨text, htext, -⟩ := restore_eq_ok.mp hrestore
      obtain ⟨place, file, hlocate, hfile⟩ := FileTree.file_of_readText htext
      rw [locate_pathFor hfunction hslash hn hnSlash hlocate, h.files n, hnone] at hfile
      cases hfile
  case listed => exact hnames
  case once => exact hnames.nodup_iff.mpr h.once
  case sorted =>
    rw [list_eq, List.pairwise_map]
    refine (List.pairwise_mergeSort precedes_trans precedes_total _).imp_of_mem ?_
    intro a b ha hb hab
    have hfound (c : Int × String)
        (hc : c ∈ ((below root function).listed t).mergeSort precedes) :
        ∃ e, ledger.lookup c.2 = some e ∧ e.time = c.1 := by
      rw [List.mem_mergeSort, hlisted.mem_iff, List.mem_map] at hc
      obtain ⟨⟨n, e⟩, hmem, rfl⟩ := hc
      exact ⟨e, Keyed.lookup_of_mem h.once hmem, rfl⟩
    obtain ⟨d, hd, hdtime⟩ := hfound a ha
    obtain ⟨e, he, hetime⟩ := hfound b hb
    exact ⟨d, e, hd, he, by rw [hdtime, hetime]; exact precedes_iff.mp hab⟩
  case anyOrder =>
    intro t' entries entries' hentries hentries' hperm
    apply list_of_listed
    unfold Store.listed
    rw [hentries, hentries']
    exact hperm.filterMap _

/-- Where the times descend, the list is the ledger. -/
theorem Reflects.list_eq_keys {ledger : Ledger} (h : Reflects root function t ledger)
    (hfunction : function ≠ "") (hslash : '/' ∉ function.toList) (hdescending : IsDescending ledger) :
    (below root function).list t = Keyed.keys ledger := by
  have hsorted : (ledger.map fun (n, e) => (e.time, n)).Pairwise fun a b => precedes a b = true := by
    refine List.pairwise_map.mpr (List.Pairwise.imp ?_ hdescending)
    exact fun hlater => precedes_iff.mpr (.inl hlater)
  rw [list_eq, mergeSort_eq (h.listed hfunction hslash) hsorted]
  simp [Keyed.keys, Function.comp_def]

/-- **History.** Whatever has happened below a root that was empty, the store of a function recalls
    what has been saved last for each name, and nothing else.  As long as no time is set and each
    configuration of the function is saved later than those before, the latest one comes first. -/
theorem run_recalls (hfunction : function ≠ "") (hslash : '/' ∉ function.toList)
    (hempty : IsEmptyBelow t root) {changes : List Change}
    (hproper : ∀ c ∈ changes, c.IsProper function)
    (hrun : changes.foldlM (Change.run? root) t = some t') :
    (below root function).Recalls t' (ledger function changes)
      ∧ ((∀ c ∈ changes, c.touches function = false) →
        (changes.filterMap (Change.savedAt? function)).Pairwise (· < ·) →
          (below root function).list t' = Keyed.keys (ledger function changes)) := by
  have hreflects : Reflects root function t' (ledger function changes) :=
    (reflects_empty hslash hempty).run hfunction hslash hproper hrun
  refine ⟨hreflects.recalls hfunction hslash, fun htouches htimes => ?_⟩
  exact hreflects.list_eq_keys hfunction hslash
    (isDescending_record List.Pairwise.nil (fun _ he => nomatch he) htouches htimes)

/-- Two functions with names that end alike, a name that ends like the function, a configuration that
    is replaced, an answer that is given twice, and another file. -/
theorem run_recalls_replaced :
    ∃ (changes : List Change) (t' : FileTree),
      changes = [.save "f" "a" ⟨[("m", "1"), ("n", "2"), ("m", "3")]⟩ 1, .save "e.f" "a" ⟨[]⟩ 2,
        .save "f" "b.f" ⟨[]⟩ 3, .write "./f-saves/a" .empty 4,
        .save "f" "a" ⟨[("n", "4"), ("m", "5"), ("n", "6")]⟩ 5]
      ∧ changes.foldlM (Change.run? ".") FileTree.empty = some t'
      ∧ (below "." "f").Recalls t' (ledger "f" changes)
      ∧ (below "." "f").list t' = ["a", "b.f"] := by
  obtain ⟨changes, hchanges⟩ : ∃ changes : List Change,
      changes = [.save "f" "a" ⟨[("m", "1"), ("n", "2"), ("m", "3")]⟩ 1, .save "e.f" "a" ⟨[]⟩ 2,
        .save "f" "b.f" ⟨[]⟩ 3, .write "./f-saves/a" .empty 4,
        .save "f" "a" ⟨[("n", "4"), ("m", "5"), ("n", "6")]⟩ 5] := ⟨_, rfl⟩
  obtain ⟨t', hrun⟩ : ∃ t', changes.foldlM (Change.run? ".") FileTree.empty = some t' := by
    rw [hchanges]
    exact ⟨_, rfl⟩
  have hproper : ∀ c ∈ changes, c.IsProper "f" := by
    have hother : ∀ name ∈ (placeOf "./f-saves/a").getLast?,
        ¬ ("." ++ "f").toList <:+ name.toList := by decide
    rw [hchanges]
    simp only [List.forall_mem_cons, List.not_mem_nil, false_imp_iff, implies_true, and_true]
    exact ⟨⟨by decide, by decide, rfl⟩, ⟨by decide, by decide, rfl⟩, ⟨by decide, by decide, rfl⟩,
      hother, ⟨by decide, by decide, rfl⟩⟩
  have hempty : IsEmptyBelow FileTree.empty "." := by
    intro pair hpair
    cases hpair
  obtain ⟨hrecalls, hlist⟩ := run_recalls (by decide) (by decide) hempty hproper hrun
  refine ⟨changes, t', hchanges, hrun, hrecalls, ?_⟩
  rw [hlist]
  · rw [hchanges]
    rfl
  · rw [hchanges]
    decide
  · rw [hchanges]
    decide

end Questionnaire.Store
