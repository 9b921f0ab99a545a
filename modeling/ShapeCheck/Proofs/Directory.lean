import Mathlib.Data.String.Basic
import Mathlib.Tactic
import ShapeCheck.FileTree
import ShapeCheck.Proofs.Reordering

/-!
# Paths into directories

A file that the walk of a directory comes to is read at the path that the walk gives it.

* `splitOn_slash`, `splitOn_slash_append`: a path is cut at its slashes, name by name;
* `FileTree.Proper`: the names of entries are names, and none stands twice in a directory;
* `FileTree.follow_append`: the steps along a path that is continued;
* `FileSystem.find_join`: a path one name further leads to the entry of this name;
* `FileSystem.readBytes_of_mem_walk`: files are read at the paths that a walk gives them.

A path may end with a slash, so that a name is put behind it with or without one more.
-/

namespace ShapeCheck

/-! ### Slashes -/

section Slashes

open String

theorem splitOnAux_slash (s : String) (b i : Pos.Raw) (done : List String) :
    splitOnAux s "/" b i 0 done = splitAux s (· == '/') b i done := by
  fun_induction splitAux s (· == '/') b i done with
  | case1 b i done h =>
    rw [splitOnAux, if_pos h]
  | case2 b i done h _ hp i' ih =>
    have hc : Pos.Raw.get s i = '/' := eq_of_beq hp
    have hback : (Pos.Raw.next s i).unoffsetBy (Pos.Raw.next "/" 0) = i := by
      unfold Pos.Raw.next
      rw [hc]
      rfl
    have hend : Pos.Raw.atEnd "/" (Pos.Raw.next "/" 0) = true := by decide
    have hs : (Pos.Raw.get s i == Pos.Raw.get "/" 0) = true := hp
    rw [splitOnAux, if_neg h, if_pos hs]
    simp only [hend, if_true, hback]
    exact ih
  | case3 b i done h _ hp ih =>
    have hs : ¬ (Pos.Raw.get s i == Pos.Raw.get "/" 0) = true := hp
    rw [splitOnAux, if_neg h, if_neg hs]
    exact ih

/-- A path is cut into the parts between its slashes. -/
theorem splitOn_slash (s : String) :
    s.splitOn "/" = (s.toList.splitOnP (· == '/')).map ofList := by
  rw [← splitToList_of_valid, splitToList, ← splitOnAux_slash]
  rfl

/-- What stands behind a slash is cut on its own. -/
theorem splitOn_slash_append (s t : String) :
    (s ++ "/" ++ t).splitOn "/" = s.splitOn "/" ++ t.splitOn "/" := by
  have hl : (s ++ "/" ++ t).toList = s.toList ++ '/' :: t.toList := by simp
  rw [splitOn_slash, splitOn_slash, splitOn_slash, hl, ← List.map_append]
  exact congrArg _ (List.splitOnP_append_cons _ _ (beq_self_eq_true '/'))

theorem splitOn_slash_of_notMem {s : String} (h : '/' ∉ s.toList) : s.splitOn "/" = [s] := by
  rw [splitOn_slash, List.splitOnP_eq_singleton, List.map_singleton, ofList_toList]
  intro c hc
  refine beq_eq_false_iff_ne.2 ?_
  rintro rfl
  exact h hc

theorem endsWith_slash_iff {s : String} : s.endsWith "/" = true ↔ ∃ t, s = t ++ "/" := by
  rw [endsWith_eq_endsWith_toSlice, Slice.endsWith_string_iff, copy_toSlice]
  constructor
  · rintro ⟨cs, h⟩
    exact ⟨ofList cs, String.toList_inj.1 (by rw [toList_append, toList_ofList, h])⟩
  · rintro ⟨t, rfl⟩
    exact ⟨t.toList, toList_append.symm⟩

/-- Whether a path starts at the root is seen before anything is put behind it. -/
theorem startsWith_slash_append {s : String} (hs : s ≠ "") (t : String) :
    (s ++ t).startsWith "/" = s.startsWith "/" := by
  rw [Bool.eq_iff_iff, startsWith_string_iff, startsWith_string_iff, toList_append]
  cases hl : s.toList with
  | nil => exact absurd (String.toList_inj.1 hl) hs
  | cons c cs => simp

end Slashes

/-! ### Trees -/

/-- A name that an entry of a directory can have. -/
structure FileName.Proper (name : String) : Prop where
  ne_empty : name ≠ ""
  ne_dot : name ≠ "."
  ne_dots : name ≠ ".."
  no_slash : '/' ∉ name.toList

instance (name : String) : Decidable (FileName.Proper name) :=
  decidable_of_iff (name ≠ "" ∧ name ≠ "." ∧ name ≠ ".." ∧ '/' ∉ name.toList)
    ⟨fun h => ⟨h.1, h.2.1, h.2.2.1, h.2.2.2⟩, fun h => ⟨h.1, h.2, h.3, h.4⟩⟩

namespace FileTree

/-- The entries of all directories have names that entries can have, and none twice in one
directory. -/
inductive Proper : FileTree → Prop where
  | file (content : ByteArray) : Proper (.file content)
  | directory {entries : List (String × FileTree)} (distinct : (entries.map Prod.fst).Nodup)
      (names : ∀ name t, (name, t) ∈ entries → FileName.Proper name)
      (below : ∀ name t, (name, t) ∈ entries → Proper t) : Proper (.directory entries)

variable {above above' : List FileTree} {here here' t : FileTree} {name path : String}
  {entries : List (String × FileTree)}

theorem Proper.of_entries (distinct : (entries.map Prod.fst).Nodup)
    (h : ∀ entry ∈ entries, FileName.Proper entry.1 ∧ entry.2.Proper) :
    (FileTree.directory entries).Proper :=
  .directory distinct (fun _ _ hm => (h _ hm).1) fun _ _ hm => (h _ hm).2

/-! ### Steps -/

/-- A name leads to the entry of this name. -/
theorem step_name (hn : FileName.Proper name) (ht : entries.lookup name = some t) :
    step above (.directory entries) name = .ok (.directory entries :: above, t) := by
  simp only [step, if_neg (not_or.2 ⟨hn.ne_empty, hn.ne_dot⟩), if_neg hn.ne_dots, ht]

/-- An empty name leads nowhere else, and stands in directories only. -/
theorem step_empty (h : step above here "" = .ok (above', here')) :
    above' = above ∧ here' = here := by
  cases here with
  | file content => cases h
  | directory entries =>
    cases h
    exact ⟨rfl, rfl⟩

theorem follow_append (xs ys : List String) :
    follow above here (xs ++ ys) = (follow above here xs).bind fun s => follow s.1 s.2 ys := by
  induction xs generalizing above here with
  | nil => rfl
  | cons name rest ih =>
    rw [List.cons_append, follow, follow]
    cases step above here name with
    | error fault => rfl
    | ok s => exact ih

theorem follow_of_append_empty {xs : List String}
    (h : follow above here (xs ++ [""]) = .ok (above', here')) :
    follow above here xs = .ok (above', here') := by
  rw [follow_append] at h
  cases hs : follow above here xs with
  | error fault =>
    rw [hs] at h
    cases h
  | ok s =>
    obtain ⟨above₁, here₁⟩ := s
    rw [hs] at h
    simp only [Except.bind, follow] at h
    cases ht : step above₁ here₁ "" with
    | error fault =>
      rw [ht] at h
      cases h
    | ok s =>
      obtain ⟨above₂, here₂⟩ := s
      obtain ⟨rfl, rfl⟩ := step_empty ht
      rw [ht] at h
      exact h

/-- From proper trees each step leads to proper trees. -/
theorem step_proper (ha : ∀ t ∈ above, t.Proper) (hh : here.Proper)
    (h : step above here name = .ok (above', here')) :
    (∀ t ∈ above', t.Proper) ∧ here'.Proper := by
  cases hh with
  | file content => cases h
  | @directory entries distinct names below =>
    have hd : (directory entries).Proper := .directory distinct names below
    unfold step at h
    dsimp only at h
    split at h
    · cases h
      exact ⟨ha, hd⟩
    split at h
    · split at h
      · cases h
        exact ⟨List.forall_mem_nil _, hd⟩
      · cases h
        rw [List.forall_mem_cons] at ha
        exact ⟨ha.2, ha.1⟩
    · split at h
      · cases h
      · rename_i ht
        cases h
        exact ⟨List.forall_mem_cons.2 ⟨hd, ha⟩, below _ _ (mem_of_lookup ht)⟩

theorem follow_proper {names : List String} (ha : ∀ t ∈ above, t.Proper) (hh : here.Proper)
    (h : follow above here names = .ok (above', here')) : here'.Proper := by
  induction names generalizing above here with
  | nil =>
    cases h
    exact hh
  | cons name rest ih =>
    rw [follow] at h
    cases hs : step above here name with
    | error fault =>
      rw [hs] at h
      cases h
    | ok s =>
      rw [hs] at h
      obtain ⟨ha', hh'⟩ := step_proper ha hh hs
      exact ih ha' hh' h

/-! ### Walks -/

theorem walkEntries_eq_map (path : String) (entries : List (String × FileTree)) :
    walkEntries path entries =
      entries.map fun entry => (entry.1, walk (join path entry.1) entry.2) := by
  induction entries with
  | nil => rfl
  | cons entry rest ih =>
    obtain ⟨name, t⟩ := entry
    rw [walkEntries, ih, List.map_cons]

/-- The files of a directory are those of its entries. -/
theorem mem_walk_directory {file : String × ByteArray} :
    file ∈ walk path (.directory entries) ↔
      ∃ name t, (name, t) ∈ entries ∧ file ∈ walk (join path name) t := by
  simp only [walk, List.mem_flatMap, List.mem_mergeSort, walkEntries_eq_map, List.mem_map]
  constructor
  · rintro ⟨-, ⟨⟨name, t⟩, hm, rfl⟩, hf⟩
    exact ⟨name, t, hm, hf⟩
  · rintro ⟨name, t, hm, hf⟩
    exact ⟨_, ⟨(name, t), hm, rfl⟩, hf⟩

end FileTree

/-! ### Paths -/

namespace FileSystem

variable {fs : FileSystem} {path name : String} {t : FileTree}
  {entries : List (String × FileTree)}

/-- A path is continued behind a slash. -/
theorem names_append_slash (hp : path ≠ "") (rest : String) :
    fs.names (path ++ "/" ++ rest) = fs.names path ++ rest.splitOn "/" := by
  have hs : (path ++ "/" ++ rest).startsWith "/" = path.startsWith "/" := by
    rw [String.append_assoc, startsWith_slash_append hp]
  unfold names
  rw [hs, splitOn_slash_append]
  split
  · rfl
  · exact (List.append_assoc _ _ _).symm

/-- The names behind a slash follow the same names, whatever they are. -/
theorem exists_names (fs : FileSystem) (path : String) :
    ∃ xs, ∀ rest, fs.names (path ++ "/" ++ rest) = xs ++ rest.splitOn "/" := by
  by_cases hp : path = ""
  · refine ⟨[""], fun rest => ?_⟩
    have hs : (path ++ "/" ++ rest).startsWith "/" = true := by
      rw [String.startsWith_string_iff]
      simp [hp]
    rw [names, hs, splitOn_slash_append, hp, splitOn_slash_of_notMem (by decide)]
    rfl
  · exact ⟨fs.names path, names_append_slash hp⟩

theorem find_eq_ok (h : fs.find path = .ok t) :
    path ≠ "" ∧ ∃ above, FileTree.follow [] fs.root (fs.names path) = .ok (above, t) := by
  rw [find] at h
  split at h
  · cases h
  · rename_i hp
    refine ⟨hp, ?_⟩
    cases hf : FileTree.follow [] fs.root (fs.names path) with
    | error fault =>
      rw [hf] at h
      cases h
    | ok s =>
      rw [hf] at h
      cases h
      exact ⟨s.1, rfl⟩

theorem find_of_follow {s : List FileTree × FileTree} (hp : path ≠ "")
    (h : FileTree.follow [] fs.root (fs.names path) = .ok s) : fs.find path = .ok s.2 := by
  rw [find, if_neg hp, h]
  rfl

/-- Names that lead to a directory lead to its entries, one name further. -/
theorem follow_entry {xs : List String} {above : List FileTree}
    (h : FileTree.follow [] fs.root xs = .ok (above, .directory entries))
    (hn : FileName.Proper name) (ht : entries.lookup name = some t) :
    FileTree.follow [] fs.root (xs ++ [name]) = .ok (.directory entries :: above, t) := by
  rw [FileTree.follow_append, h]
  simp only [Except.bind, FileTree.follow, FileTree.step_name hn ht]

/-- A path one name further leads to the entry of this name. -/
theorem find_join (h : fs.find path = .ok (.directory entries)) (hn : FileName.Proper name)
    (ht : entries.lookup name = some t) : fs.find (FileTree.join path name) = .ok t := by
  obtain ⟨hp, above, hf⟩ := find_eq_ok h
  have hname : name.splitOn "/" = [name] := splitOn_slash_of_notMem hn.no_slash
  unfold FileTree.join
  split
  · rename_i he
    obtain ⟨start, rfl⟩ := endsWith_slash_iff.1 he
    obtain ⟨xs, hx⟩ := fs.exists_names start
    -- the slash at the end is one step that stays where it is
    have hslash : fs.names (start ++ "/") = xs ++ [""] := by
      have hx' := hx ""
      rwa [String.append_empty, splitOn_slash_of_notMem (by decide)] at hx'
    rw [hslash] at hf
    have hd := FileTree.follow_of_append_empty hf
    refine find_of_follow (s := (.directory entries :: above, t)) (by simp [hn.ne_empty]) ?_
    rw [hx, hname]
    exact follow_entry hd hn ht
  · refine find_of_follow (s := (.directory entries :: above, t)) (by simp) ?_
    rw [names_append_slash hp, hname]
    exact follow_entry hf hn ht

theorem find_proper (hr : fs.root.Proper) (h : fs.find path = .ok t) : t.Proper := by
  obtain ⟨-, above, hf⟩ := find_eq_ok h
  exact FileTree.follow_proper (List.forall_mem_nil _) hr hf

/-- The files that a walk comes to are found at their paths. -/
theorem find_of_mem_walk (ht : t.Proper) (h : fs.find path = .ok t) {file : String × ByteArray}
    (hm : file ∈ FileTree.walk path t) : fs.find file.1 = .ok (.file file.2) := by
  -- on the tree, for the paths further down
  induction ht generalizing path with
  | file content =>
    obtain rfl := List.mem_singleton.1 hm
    exact h
  | directory distinct names below ih =>
    obtain ⟨name, t, he, hf⟩ := FileTree.mem_walk_directory.1 hm
    exact ih name t he (find_join h (names name t he) ((lookup_eq_some_iff_mem distinct).2 he)) hf

/-- Files are read at the paths that a walk gives them. -/
theorem readBytes_of_mem_walk (hr : fs.root.Proper) {dir : String}
    {files : List (String × ByteArray)} (h : fs.walk dir = .ok files)
    {file : String × ByteArray} (hm : file ∈ files) : fs.readBytes file.1 = .ok file.2 := by
  cases hf : fs.find dir with
  | error fault =>
    rw [walk, hf] at h
    cases h
  | ok t =>
    rw [walk, hf] at h
    cases h
    rw [readBytes, find_of_mem_walk (find_proper hr hf) hf hm]

theorem fromUTF8?_toUTF8 (text : String) : String.fromUTF8? text.toUTF8 = some text := by
  unfold String.fromUTF8?
  exact dif_pos text.isValidUTF8

/-- The bytes of a text are read as this text. -/
theorem textOf_toUTF8 (text : String) : textOf text.toUTF8 = .ok text := by
  rw [textOf, fromUTF8?_toUTF8]

theorem readText_of_find {fs : FileSystem} {path text : String}
    (h : fs.find path = .ok (.file text.toUTF8)) : fs.readText path = .ok text := by
  rw [readText, readBytes, h]
  exact textOf_toUTF8 text

end FileSystem

end ShapeCheck
