import Mathlib.Data.List.TakeWhile
import ShapeCheck.Proofs.Directory

/-!
# Files that have been written

A text that has been written is found at its path, and at every other path that comes to the same
place and leads anywhere.

* `FileTree.follow_canonical`: names lead to the same tree without their detours;
* `FileTree.Changed`: a tree, and the same tree with a file put into it; `follow_changed`: names
  that lead somewhere in the first lead to what has become of it in the second;
* `FileSystem.find_write`: a path leads to the text that has been written for it;
* `FileSystem.SamePlace`: paths that are the same without their detours, and so have the same last
  name and lead to the same tree;
* `FileName.extension?_extended`: the extension of a path to which one has been added.
-/

namespace ShapeCheck

/-! ### Detours -/

/-- A name that leads further down. -/
structure FileName.Down (name : String) : Prop where
  ne_empty : name ≠ ""
  ne_dot : name ≠ "."
  ne_dots : name ≠ ".."

open FileName (Down)
open FileSystem (canonical)

namespace FileTree

variable {above above' : List FileTree} {root here here' t t' : FileTree} {name : String}
  {names done : List String} {entries : List (String × FileTree)} {s : List FileTree × FileTree}
  {content : ByteArray}

/-- Some names stay where they are. -/
theorem step_stay (hn : name = "" ∨ name = ".") :
    step above (.directory entries) name = .ok (above, .directory entries) := by
  simp only [step, if_pos hn]

/-- Two dots lead back. -/
theorem step_back : step above (.directory entries) ".." =
    .ok (above.tail, above.headD (.directory entries)) := by
  cases above <;> rfl

theorem step_down (hn : Down name) :
    step above here name = .ok s ↔
      ∃ entries t, here = .directory entries ∧ entries.lookup name = some t ∧
        s = (here :: above, t) := by
  cases here with
  | file content => simp [step]
  | directory entries =>
    simp only [step, if_neg (not_or.2 ⟨hn.ne_empty, hn.ne_dot⟩), if_neg hn.ne_dots]
    cases h : entries.lookup name with
    | none => simp [h]
    | some t => simp [h, eq_comm]

theorem follow_cons : follow above here (name :: names) =
    (step above here name).bind fun s => follow s.1 s.2 names := by
  rw [follow]
  cases step above here name <;> rfl

theorem follow_concat : follow above here (names ++ [name]) =
    (follow above here names).bind fun s => step s.1 s.2 name := by
  rw [follow_append]
  cases follow above here names with
  | error fault => rfl
  | ok s =>
    change follow s.1 s.2 [name] = step s.1 s.2 name
    rw [follow_cons]
    cases step s.1 s.2 name <;> rfl

theorem bind_eq_ok {ε α β : Type} {x : Except ε α} {f : α → Except ε β} {b : β} :
    x.bind f = .ok b ↔ ∃ a, x = .ok a ∧ f a = .ok b := by
  cases x <;> simp [Except.bind]

/-- Behind names that lead down, the detours of names can be left out. -/
theorem follow_canonical_from (done : List String)
    (hdone : follow [] root done.reverse = .ok (above, here))
    (hdown : ∀ name ∈ done, Down name) (h : follow above here names = .ok s) :
    follow [] root (canonical done names) = .ok s := by
  -- `done` leads to where the steps have come to
  induction names generalizing done above here with
  | nil =>
    obtain rfl : (above, here) = s := by simpa [follow] using h
    rwa [canonical]
  | cons name rest ih =>
    rw [follow_cons, bind_eq_ok] at h
    obtain ⟨⟨above', here'⟩, hstep, h⟩ := h
    rw [canonical]
    split
    · rename_i hstay
      cases here with
      | file content => cases hstep
      | directory entries =>
        rw [step_stay hstay] at hstep
        cases hstep
        exact ih done hdone hdown h
    split
    · rename_i hback
      subst hback
      refine ih done.tail ?_ (fun n hn => hdown n (List.mem_of_mem_tail hn)) h
      cases here with
      | file content => cases hstep
      | directory entries =>
        rw [step_back] at hstep
        cases done with
        | nil =>
          cases hdone
          cases hstep
          rfl
        | cons last done =>
          -- the last step down is the one that is taken back
          rw [List.reverse_cons, follow_concat, bind_eq_ok] at hdone
          obtain ⟨⟨above₀, here₀⟩, hdone, hlast⟩ := hdone
          obtain ⟨entries₀, t, rfl, -, he⟩ :=
            (step_down (hdown last List.mem_cons_self)).1 hlast
          cases he
          cases hstep
          exact hdone
    · rename_i hstay hback
      rw [not_or] at hstay
      refine ih (name :: done) ?_ ?_ h
      · rw [List.reverse_cons, follow_concat, hdone]
        exact hstep
      · exact List.forall_mem_cons.2 ⟨⟨hstay.1, hstay.2, hback⟩, hdown⟩

/-- Names lead to the same tree without their detours. -/
theorem follow_canonical (h : follow [] root names = .ok s) :
    follow [] root (canonical [] names) = .ok s :=
  follow_canonical_from [] rfl nofun h

theorem down_of_mem_canonical (hdone : ∀ name ∈ done, Down name) :
    ∀ name ∈ canonical done names, Down name := by
  induction names generalizing done with
  | nil => exact fun name hn => hdone name (List.mem_reverse.1 hn)
  | cons name rest ih =>
    rw [canonical]
    split
    · exact ih hdone
    split
    · exact ih fun n hn => hdone n (List.mem_of_mem_tail hn)
    · rename_i hstay hback
      rw [not_or] at hstay
      exact ih (List.forall_mem_cons.2 ⟨⟨hstay.1, hstay.2, hback⟩, hdone⟩)

/-! ### Files put into a tree -/

theorem lookup_setEntry (name key : String) (t : FileTree) (entries : List (String × FileTree)) :
    (setEntry name t entries).lookup key = if key = name then some t else entries.lookup key := by
  have hput : setEntry name t entries = ShapeCheck.put name t entries := by
    induction entries with
    | nil => rfl
    | cons entry rest ih => rw [setEntry, ShapeCheck.put, ih]
  rw [hput, lookup_put]

/-- A file is put into a directory, under a name that was free, or else further down. -/
theorem put_directory (h : put false (.file content) names (.directory entries) = .ok t') :
    ∃ name rest new, names = name :: rest ∧ t' = .directory (setEntry name new entries) ∧
      (entries.lookup name = none ∧ rest = [] ∧ new = .file content ∨
        ∃ old, entries.lookup name = some old ∧ put false (.file content) rest old = .ok new) := by
  match names with
  | [] => cases h
  | [name] =>
    rw [put] at h
    cases hl : entries.lookup name with
    | none =>
      rw [hl] at h
      cases h
      exact ⟨name, [], _, rfl, rfl, .inl ⟨hl, rfl, rfl⟩⟩
    | some old =>
      rw [hl] at h
      obtain ⟨new, hnew, h⟩ := bind_eq_ok.1 h
      cases h
      exact ⟨name, [], new, rfl, rfl, .inr ⟨old, hl, hnew⟩⟩
  | name :: next :: rest =>
    rw [put] at h
    cases hl : entries.lookup name with
    | none =>
      rw [hl] at h
      cases h
    | some old =>
      rw [hl] at h
      obtain ⟨new, hnew, h⟩ := bind_eq_ok.1 h
      cases h
      exact ⟨name, next :: rest, new, rfl, rfl, .inr ⟨old, hl, hnew⟩⟩

/-- The names at whose end a file has been put lead to this file. -/
theorem follow_put (hn : ∀ name ∈ names, Down name)
    (h : put false (.file content) names t = .ok t') (above : List FileTree) :
    ∃ above', follow above t' names = .ok (above', .file content) := by
  induction names generalizing t t' above with
  | nil =>
    cases t with
    | file old =>
      cases h
      exact ⟨above, rfl⟩
    | directory entries => cases h
  | cons name rest ih =>
    cases t with
    | file old => cases rest <;> cases h
    | directory entries =>
      obtain ⟨_, _, new, he, rfl, hnew⟩ := put_directory h
      obtain ⟨rfl, rfl⟩ := List.cons.inj he
      have hstep : step above (.directory (setEntry name new entries)) name =
          .ok (.directory (setEntry name new entries) :: above, new) :=
        (step_down (hn name List.mem_cons_self)).2
          ⟨_, new, rfl, by rw [lookup_setEntry, if_pos rfl], rfl⟩
      rw [follow_cons, hstep]
      rcases hnew with ⟨-, rfl, rfl⟩ | ⟨old, -, hput⟩
      · exact ⟨_, rfl⟩
      · exact ih (fun n h => hn n (List.mem_cons_of_mem _ h)) hput _

/-- A tree, and the same tree with a file put into it, or nothing changed. -/
inductive Changed (content : ByteArray) : FileTree → FileTree → Prop where
  | same (t : FileTree) : Changed content t t
  | put {names : List String} {t t' : FileTree}
      (h : FileTree.put false (.file content) names t = .ok t') : Changed content t t'

/-- A directory stays one, and keeps its entries but for changes further down. -/
theorem Changed.directory (h : Changed content (.directory entries) t') :
    ∃ entries', t' = .directory entries' ∧ ∀ name t, entries.lookup name = some t →
      ∃ t', entries'.lookup name = some t' ∧ Changed content t t' := by
  cases h with
  | same => exact ⟨entries, rfl, fun name t ht => ⟨t, ht, .same t⟩⟩
  | put h =>
    obtain ⟨name, rest, new, -, rfl, hnew⟩ := put_directory h
    refine ⟨_, rfl, fun key t ht => ?_⟩
    rw [lookup_setEntry]
    by_cases hk : key = name
    · subst hk
      rcases hnew with ⟨hnone, -⟩ | ⟨old, hold, hput⟩
      · rw [hnone] at ht
        cases ht
      · obtain rfl := Option.some.inj (hold.symm.trans ht)
        exact ⟨new, if_pos rfl, .put hput⟩
    · exact ⟨t, by rw [if_neg hk, ht], .same t⟩

/-- A step in a tree is a step in the changed tree. -/
theorem step_changed (ha : List.Forall₂ (Changed content) above above')
    (hh : Changed content here here') (h : step above here name = .ok s) :
    ∃ s', step above' here' name = .ok s' ∧ List.Forall₂ (Changed content) s.1 s'.1 ∧
      Changed content s.2 s'.2 := by
  cases here with
  | file old => cases h
  | directory entries =>
    obtain ⟨entries', rfl, hl⟩ := hh.directory
    by_cases hstay : name = "" ∨ name = "."
    · rw [step_stay hstay] at h ⊢
      cases h
      exact ⟨_, rfl, ha, hh⟩
    by_cases hback : name = ".."
    · subst hback
      rw [step_back] at h ⊢
      cases ha with
      | nil =>
        cases h
        exact ⟨_, rfl, .nil, hh⟩
      | cons hp hm =>
        cases h
        exact ⟨_, rfl, hm, hp⟩
    · have hn : Down name := ⟨(not_or.1 hstay).1, (not_or.1 hstay).2, hback⟩
      obtain ⟨_, t, he, ht, rfl⟩ := (step_down hn).1 h
      cases he
      obtain ⟨t', ht', hc⟩ := hl name t ht
      exact ⟨_, (step_down hn).2 ⟨entries', t', rfl, ht', rfl⟩, .cons hh ha, hc⟩

/-- Names that lead somewhere in a tree lead to what has become of it in the changed tree. -/
theorem follow_changed (ha : List.Forall₂ (Changed content) above above')
    (hh : Changed content here here') (h : follow above here names = .ok s) :
    ∃ s', follow above' here' names = .ok s' ∧ List.Forall₂ (Changed content) s.1 s'.1 ∧
      Changed content s.2 s'.2 := by
  induction names generalizing above above' here here' with
  | nil =>
    cases h
    exact ⟨_, rfl, ha, hh⟩
  | cons name rest ih =>
    rw [follow_cons, bind_eq_ok] at h
    obtain ⟨s₁, hs, h⟩ := h
    obtain ⟨s₁', hs', ha', hh'⟩ := step_changed ha hh hs
    rw [follow_cons, hs']
    exact ih ha' hh' h

end FileTree

/-! ### Last names -/

/-- The parts of a path make it up. -/
theorem intercalate_splitOn_slash (s : String) : "/".intercalate (s.splitOn "/") = s := by
  rw [← String.toList_inj, String.toList_intercalate, splitOn_slash, List.map_map]
  have hid : (s.toList.splitOnP (· == '/')).map (String.toList ∘ String.ofList) =
      s.toList.splitOn '/' := by
    rw [List.splitOn_eq_splitOnP, List.map_congr_left (g := id), List.map_id]
    exact fun cs _ => String.toList_ofList
  rw [hid]
  exact List.intercalate_splitOn '/'

theorem splitOn_slash_ne_nil (s : String) : s.splitOn "/" ≠ [] := by
  rw [splitOn_slash]
  simp

theorem not_of_mem_splitOnP {α : Type} {p : α → Bool} {xs part : List α}
    (h : part ∈ xs.splitOnP p) : ∀ x ∈ part, p x = false := by
  induction xs generalizing part with
  | nil =>
    rw [List.splitOnP_nil, List.mem_singleton] at h
    exact h ▸ List.forall_mem_nil _
  | cons x rest ih =>
    rw [List.splitOnP_cons_eq_if_modifyHead] at h
    split at h
    · rcases List.mem_cons.1 h with rfl | h
      · exact List.forall_mem_nil _
      · exact ih h
    · rename_i hx
      obtain ⟨first, more, hparts⟩ := List.exists_cons_of_ne_nil (List.splitOnP_ne_nil p rest)
      rw [hparts] at h ih
      rcases List.mem_cons.1 h with rfl | h
      · exact List.forall_mem_cons.2 ⟨by simpa using hx, ih List.mem_cons_self⟩
      · exact ih (List.mem_cons_of_mem _ h)

/-- No part of a path has a slash. -/
theorem notMem_of_mem_splitOn {s part : String} (h : part ∈ s.splitOn "/") :
    '/' ∉ part.toList := by
  rw [splitOn_slash, List.mem_map] at h
  obtain ⟨cs, hcs, rfl⟩ := h
  rw [String.toList_ofList]
  exact fun hm => absurd (not_of_mem_splitOnP hcs '/' hm) (by decide)

/-- A path that does not end with a slash has a last name. -/
theorem splitOn_of_not_endsWith {path : String} (hp : path ≠ "") (hs : path.endsWith "/" = false) :
    ∃ xs name, path.splitOn "/" = xs ++ [name] ∧ name ≠ "" := by
  rcases List.eq_nil_or_concat' (path.splitOn "/") with hnil | ⟨xs, name, hparts⟩
  · exact absurd hnil (splitOn_slash_ne_nil path)
  refine ⟨xs, name, hparts, ?_⟩
  rintro rfl
  have hpath := intercalate_splitOn_slash path
  rw [hparts] at hpath
  by_cases hx : xs = []
  · exact hp (by rw [← hpath, hx]; rfl)
  · rw [String.intercalate_append_of_ne_nil hx (by simp), String.intercalate_singleton,
      String.append_empty] at hpath
    rw [endsWith_slash_iff.2 ⟨_, hpath.symm⟩] at hs
    cases hs

namespace FileName

variable {path longer extension name : String}

/-- The last name of a path is a name that leads further down, and only names that stay where they
are follow it. -/
theorem parts_of_ofPath? (h : ofPath? path = some name) :
    Down name ∧ (∃ xs, parts path = xs ++ [name]) ∧
      ∃ xs ys, path.splitOn "/" = xs ++ name :: ys ∧ ∀ n ∈ ys, n = "" ∨ n = "." := by
  rw [ofPath?, Option.filter_eq_some_iff, parts, List.getLast?_reverse] at h
  obtain ⟨hhead, hdots⟩ := h
  rw [parts]
  generalize hq : (fun part => decide (part = "" ∨ part = ".")) = q at hhead ⊢
  have hsplit := List.takeWhile_append_dropWhile (p := q) (l := (path.splitOn "/").reverse)
  have hnot := List.head?_dropWhile_not q (path.splitOn "/").reverse
  rw [hhead] at hnot
  obtain ⟨more, hmore⟩ := List.head?_eq_some_iff.1 hhead
  rw [hmore] at hsplit ⊢
  have hname : name ≠ "" ∧ name ≠ "." := by simpa [← hq] using hnot
  refine ⟨⟨hname.1, hname.2, by simpa using hdots⟩, ⟨_, List.reverse_cons⟩, more.reverse,
    ((path.splitOn "/").reverse.takeWhile q).reverse, ?_, fun n hn => ?_⟩
  · have hback := congrArg List.reverse hsplit
    rw [List.reverse_reverse, List.reverse_append, List.reverse_cons, List.append_assoc] at hback
    exact hback.symm
  · have hstay := List.mem_takeWhile_imp (List.mem_reverse.1 hn)
    simpa [← hq] using hstay

theorem ofPath?_of_splitOn {xs : List String} (h : path.splitOn "/" = xs ++ [name])
    (hn : Down name) : ofPath? path = some name := by
  rw [ofPath?, parts, h, List.getLast?_reverse, List.reverse_append, List.reverse_singleton,
    List.singleton_append, List.dropWhile_cons_of_neg (by simp [hn.ne_empty, hn.ne_dot]),
    List.head?_cons, Option.filter_some, if_pos (by simpa using hn.ne_dots)]

/-- A name is cut in front of its extension. -/
theorem cut?_append (hn : name ≠ "") (hdot : '.' ∉ extension.toList) :
    cut? (name ++ "." ++ extension) = some (name, extension) := by
  obtain ⟨last, before, hl⟩ := List.exists_cons_of_ne_nil (l := name.toList.reverse) (by simpa)
  have hcs : (name ++ "." ++ extension).toList.reverse =
      extension.toList.reverse ++ '.' :: last :: before := by
    simp [hl]
  have hpos : ∀ c ∈ extension.toList.reverse, decide (c ≠ '.') = true := by
    intro c hc
    simp only [decide_eq_true_eq]
    rintro rfl
    exact hdot (List.mem_reverse.1 hc)
  rw [cut?, hcs, List.dropWhile_append_of_pos hpos, List.takeWhile_append_of_pos hpos,
    List.dropWhile_cons_of_neg (by simp), List.takeWhile_cons_of_neg (by simp), List.append_nil,
    List.reverse_reverse, String.ofList_toList]
  change some (String.ofList (last :: before).reverse, _) = _
  rw [← hl, List.reverse_reverse, String.ofList_toList]

/-- The extension of a path to which one has been added. -/
theorem extension?_extended (h : extended? path extension = some longer) (hne : extension ≠ "")
    (hdot : '.' ∉ extension.toList) (hslash : '/' ∉ extension.toList) :
    extension? longer = some extension := by
  rw [extended?, Option.map_eq_some_iff] at h
  obtain ⟨name, hname, rfl⟩ := h
  obtain ⟨hdown, ⟨xs, hparts⟩, ys, zs, hsplit, -⟩ := parts_of_ofPath? hname
  have hslash' : '/' ∉ (name ++ "." ++ extension).toList := by
    have hn : '/' ∉ name.toList := notMem_of_mem_splitOn (s := path) (by simp [hsplit])
    simp [hn, hslash]
  have hlast : Down (name ++ "." ++ extension) := by
    have hname : name.length ≠ 0 := fun e => hdown.ne_empty (String.length_eq_zero_iff.1 e)
    have hext : extension.length ≠ 0 := fun e => hne (String.length_eq_zero_iff.1 e)
    have hlen : 2 < (name ++ "." ++ extension).length := by
      rw [String.length_append, String.length_append, show ".".length = 1 from rfl]
      omega
    constructor <;>
    · rintro e
      rw [e] at hlen
      exact absurd hlen (by decide)
  have hlonger : ∃ start, ("/".intercalate (parts path) ++ "." ++ extension).splitOn "/" =
      start ++ [name ++ "." ++ extension] := by
    rw [hparts]
    by_cases hx : xs = []
    · refine ⟨[], ?_⟩
      rw [hx, List.nil_append, String.intercalate_singleton, splitOn_slash_of_notMem hslash']
      rfl
    · refine ⟨("/".intercalate xs).splitOn "/", ?_⟩
      rw [String.intercalate_append_of_ne_nil hx (by simp), String.intercalate_singleton,
        String.append_assoc, String.append_assoc, splitOn_slash_append, ← String.append_assoc,
        splitOn_slash_of_notMem hslash']
  obtain ⟨start, hstart⟩ := hlonger
  rw [extension?, ofPath?_of_splitOn hstart hlast, Option.bind_some,
    cut?_append hdown.ne_empty hdot, Option.map_some]

end FileName

/-! ### Paths -/

namespace FileSystem

variable {fs fs' : FileSystem} {p q path text : String} {t t' : FileTree}

theorem canonical_append (done xs ys : List String) :
    canonical done (xs ++ ys) = canonical (canonical done xs).reverse ys := by
  induction xs generalizing done with
  | nil => rw [List.nil_append, canonical, List.reverse_reverse]
  | cons name rest ih =>
    rw [List.cons_append, canonical, canonical]
    split
    · exact ih _
    split <;> exact ih _

/-- A name that leads further down comes last, whatever stays where it is behind it. -/
theorem canonical_down {xs ys : List String} {name : String} (hn : Down name)
    (hy : ∀ n ∈ ys, n = "" ∨ n = ".") :
    canonical [] (xs ++ name :: ys) = canonical [] xs ++ [name] := by
  have hstay (done : List String) : canonical done ys = done.reverse := by
    induction ys with
    | nil => rfl
    | cons n ys ih =>
      rw [canonical, if_pos (hy n List.mem_cons_self)]
      exact ih fun n h => hy n (List.mem_cons_of_mem _ h)
  rw [canonical_append, canonical, if_neg (not_or.2 ⟨hn.ne_empty, hn.ne_dot⟩), if_neg hn.ne_dots,
    hstay, List.reverse_cons, List.reverse_reverse]

theorem exists_names_eq (fs : FileSystem) (path : String) :
    ∃ start, fs.names path = start ++ path.splitOn "/" := by
  rw [names]
  split
  · exact ⟨[], rfl⟩
  · exact ⟨fs.current, rfl⟩

/-- A path leads to the text that has been written for it. -/
theorem find_write (h : fs.write path text = .ok fs') :
    fs'.find path = .ok (.file text.toUTF8) := by
  rw [write] at h
  split at h
  · cases h
  rename_i hp
  split at h
  · cases h
  · cases h
  rename_i above entries hdir
  split at h
  · cases h
  rename_i hend
  obtain ⟨start, hstart⟩ := fs.exists_names_eq path
  obtain ⟨xs, name, hparts, hname⟩ := splitOn_of_not_endsWith hp (by simpa using hend)
  rw [hparts, ← List.append_assoc] at hstart
  have habove : fs.above path = start ++ xs := by
    rw [FileSystem.above, hstart, List.reverse_append, List.reverse_singleton,
      List.singleton_append, List.dropWhile_cons_of_neg (by simpa using hname),
      List.reverse_cons, List.reverse_reverse, List.dropLast_concat]
  rw [habove] at hdir
  cases hput : FileTree.put false (.file text.toUTF8) (canonical [] (fs.names path)) fs.root with
  | error fault =>
    rw [plant, hput] at h
    cases h
  | ok root =>
    rw [plant, hput] at h
    cases h
    -- the directory of the file is still there, and one step further there is something
    obtain ⟨⟨above', here'⟩, hdir', -, hhere⟩ := FileTree.follow_changed .nil (.put hput) hdir
    obtain ⟨entries', rfl, -⟩ := hhere.directory
    obtain ⟨above'', hfile⟩ :=
      FileTree.follow_put (FileTree.down_of_mem_canonical (List.forall_mem_nil _)) hput []
    obtain ⟨s, hs⟩ : ∃ s, FileTree.follow [] root (fs.names path) = .ok s := by
      rw [hstart, FileTree.follow_concat, hdir']
      change ∃ s, FileTree.step above' (.directory entries') name = .ok s
      by_cases hstay : name = "" ∨ name = "."
      · exact ⟨_, FileTree.step_stay hstay⟩
      by_cases hback : name = ".."
      · exact ⟨_, hback ▸ FileTree.step_back⟩
      · have hn : Down name := ⟨hname, (not_or.1 hstay).2, hback⟩
        rw [hstart, canonical_down hn (List.forall_mem_nil _), FileTree.follow_concat,
          FileTree.follow_canonical hdir'] at hfile
        exact ⟨_, hfile⟩
    have hcanonical := FileTree.follow_canonical hs
    rw [hfile] at hcanonical
    cases hcanonical
    exact @find_of_follow { fs with root := root } _ _ hp hs

/-! ### Places -/

/-- Whether two paths are the same without their detours. -/
def SamePlace (fs : FileSystem) (p q : String) : Prop :=
  canonical [] (fs.names p) = canonical [] (fs.names q)

instance (fs : FileSystem) (p q : String) : Decidable (fs.SamePlace p q) :=
  inferInstanceAs (Decidable (_ = _))

/-- At one place there is one thing. -/
theorem SamePlace.find_eq (h : fs.SamePlace p q) (hp : fs.find p = .ok t)
    (hq : fs.find q = .ok t') : t = t' := by
  obtain ⟨-, above, hf⟩ := find_eq_ok hp
  obtain ⟨-, above', hf'⟩ := find_eq_ok hq
  have hs := FileTree.follow_canonical hf
  rw [h, FileTree.follow_canonical hf'] at hs
  cases hs
  rfl

theorem canonical_of_ofPath? (fs : FileSystem) {name : String}
    (h : FileName.ofPath? path = some name) :
    ∃ xs, canonical [] (fs.names path) = xs ++ [name] := by
  obtain ⟨hn, -, xs, ys, hparts, hy⟩ := FileName.parts_of_ofPath? h
  obtain ⟨start, hstart⟩ := fs.exists_names_eq path
  rw [hstart, hparts, ← List.append_assoc, canonical_down hn hy]
  exact ⟨_, rfl⟩

/-- Paths to one place have the same last name. -/
theorem SamePlace.ofPath?_eq (h : fs.SamePlace p q) (hp : (FileName.ofPath? p).isSome)
    (hq : (FileName.ofPath? q).isSome) : FileName.ofPath? p = FileName.ofPath? q := by
  obtain ⟨m, hm⟩ := Option.isSome_iff_exists.1 hp
  obtain ⟨n, hn⟩ := Option.isSome_iff_exists.1 hq
  obtain ⟨xs, hx⟩ := fs.canonical_of_ofPath? hm
  obtain ⟨ys, hy⟩ := fs.canonical_of_ofPath? hn
  rw [SamePlace, hx, hy] at h
  rw [hm, hn, List.head_eq_of_cons_eq (List.append_inj' h rfl).2]

end FileSystem

end ShapeCheck
