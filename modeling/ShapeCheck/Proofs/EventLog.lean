import ShapeCheck.Log.Emission
import ShapeCheck.Proofs.Registration
import ShapeCheck.Proofs.Tree
import ShapeCheck.Proofs.Walk

/-!
# What events tell

The events of a run are told in the order in which they happen, and tell what the run comes to.

* `Environment.getLast?_branchEvents`: the last that is told of alternatives is which of them takes
  the value;
* `Environment.level_of_mem_events`: what happens while a value is walked is told as a trace only;
* `Event.registered?`, `Event.rejected?`: what an event tells of a document;
* `Validator.registered_directoryEvents`: the documents that are told of as registered are those
  that are accepted, whether or not a directory is loaded to its end;
* `Validator.directoryEvents_of_loaded`: a directory that is loaded to its end is told of as its
  summary says;
* `Validator.directory_unheard_iff`: who asks for a level hears nothing of such a directory exactly
  if the level is that of errors, or no more than information is asked for and no file is rejected;
* `Validator.validate_unheard`: nothing is heard of the judging of a value below traces.
-/

namespace ShapeCheck

/-! ### Values -/

namespace Environment

variable {env : Environment} {loc : String} {e : Event}

/-- The last that is told of alternatives, counted from an index, is which of them takes the value,
the first that does; and it is of none if none does. -/
theorem getLast?_branchEvents {nodes : List Node} {v : Json} {index j : Nat} :
    (env.branchEvents loc nodes index v).getLast? = some (.alternativeMatched loc j) ↔
      ∃ i, nodes.findIdx? (fun n => (env.violations loc n v).isEmpty) = some i ∧ j = index + i := by
  induction nodes generalizing index with
  | nil => simp [branchEvents]
  | cons n rest ih =>
    rw [branchEvents, List.findIdx?_cons]
    by_cases hn : (env.violations loc n v).isEmpty = true
    · simp [hn, eq_comm]
    · have hlast (last : Option Event) (errors : Nat) :
          last.getD (.alternativeFailed loc index errors) = .alternativeMatched loc j ↔
            last = some (.alternativeMatched loc j) := by
        cases last <;> simp
      simp only [hn, if_false, Bool.false_eq_true, List.getLast?_append, List.getLast?_cons,
        Option.some_or, Option.some.injEq, hlast, ih, Option.map_eq_some_iff]
      constructor
      · rintro ⟨i, hi, rfl⟩
        exact ⟨i + 1, ⟨i, hi, rfl⟩, by omega⟩
      · rintro ⟨-, ⟨i, hi, rfl⟩, rfl⟩
        exact ⟨i, hi, by omega⟩

theorem declaredEvents_eq_map (properties : List (String × Node)) (name : String) (v : Json) :
    env.declaredEvents loc properties name v =
      (properties.lookup name).map fun n => env.events loc n v := by
  induction properties with
  | nil => rfl
  | cons entry rest ih =>
    obtain ⟨declared, n⟩ := entry
    rw [declaredEvents, lookup_entry, ih]
    by_cases h : declared = name
    · simp [h]
    · simp [h, Ne.symm h]

/-- What is told of alternatives is said of one of them, or happens inside one. -/
theorem mem_branchEvents {nodes : List Node} {v : Json} {index : Nat}
    (h : e ∈ env.branchEvents loc nodes index v) :
    e.level = .trace ∨ ∃ n ∈ nodes, e ∈ env.events loc n v := by
  induction nodes generalizing index with
  | nil => cases h
  | cons n rest ih =>
    rw [branchEvents, List.mem_append] at h
    rcases h with h | h
    · exact .inr ⟨n, List.mem_cons_self, h⟩
    split at h
    · obtain rfl := List.mem_singleton.1 h
      exact .inl rfl
    · rcases List.mem_cons.1 h with rfl | h
      · exact .inl rfl
      · refine (ih h).imp_right ?_
        rintro ⟨m, hm, he⟩
        exact ⟨m, List.mem_cons_of_mem n hm, he⟩

theorem mem_allEvents {nodes : List Node} {v : Json} (h : e ∈ env.allEvents loc nodes v) :
    ∃ n ∈ nodes, e ∈ env.events loc n v := by
  induction nodes with
  | nil => cases h
  | cons n rest ih =>
    rw [allEvents, List.mem_append] at h
    rcases h with h | h
    · exact ⟨n, List.mem_cons_self, h⟩
    · obtain ⟨m, hm, he⟩ := ih h
      exact ⟨m, List.mem_cons_of_mem n hm, he⟩

/-- What happens while rules are looked at is said of an alternative, or happens directly below. -/
theorem mem_ruleEvents {rules : Rules} {v : Json} (h : e ∈ env.ruleEvents loc rules v) :
    e.level = .trace ∨ ∃ child ∈ rules.children, ∃ below w, e ∈ env.events below child w := by
  cases rules with
  | object properties additional oneOf =>
    cases v with
    | object ms =>
      cases oneOf with
      | some nodes =>
        refine (mem_branchEvents h).imp_right ?_
        rintro ⟨n, hn, he⟩
        exact ⟨n, mem_children_of_oneOf hn, _, _, he⟩
      | none =>
        simp only [ruleEvents, declaredEvents_eq_map, List.mem_flatMap] at h
        obtain ⟨⟨name, member⟩, -, h⟩ := h
        cases hl : properties.lookup name with
        | some n =>
          simp only [hl, Option.map_some] at h
          exact .inr ⟨n, mem_children_of_declared hl, _, _, h⟩
        | none =>
          simp only [hl, Option.map_none] at h
          cases additional with
          | schema n =>
            exact .inr ⟨n, mem_children_of_additional (List.mem_singleton_self n), _, _, h⟩
          | _ => cases h
    | _ => cases h
  | array items least most =>
    cases v with
    | array vs =>
      simp only [ruleEvents, List.mem_flatMap] at h
      obtain ⟨⟨x, i⟩, -, h⟩ := h
      cases items with
      | free => cases h
      | single n => exact .inr ⟨n, List.mem_singleton_self n, _, _, h⟩
      | alternatives nodes =>
        obtain ⟨n, hn, he⟩ := mem_allEvents h
        exact .inr ⟨n, hn, _, _, he⟩
    | _ => cases h
  | _ => cases h

/-- What happens while a value is walked is told as a trace only. -/
theorem level_of_mem_events {n : Node} {v : Json} (h : e ∈ env.events loc n v) :
    e.level = .trace := by
  induction n using Node.inductionOn generalizing loc v with
  | step n ih =>
    obtain ⟨required, source, rules⟩ := n
    rw [events] at h
    split at h
    · cases h
    · rcases mem_ruleEvents h with h | ⟨child, hc, below, w, h⟩
      · exact h
      · exact ih child hc h

end Environment

/-! ### Documents -/

namespace Event

/-- The name of a document that an event tells of as registered. -/
def registered? : Event → Option String
  | schemaRegistered name _ => some name
  | _ => none

/-- The path of a file that an event tells of as rejected, with the number of errors. -/
def rejected? : Event → Option (String × Nat)
  | fileRejected path errors => some (path, errors)
  | _ => none

theorem warn_le_rank (e : Event) : Level.warn.rank ≤ e.level.rank := by
  cases e <;> simp [level, Level.rank]

/-- Between warnings and information, all that is told is what files are rejected. -/
theorem rejected?_eq_none_iff {e : Event} {l : Level} (hw : Level.warn.rank ≤ l.rank)
    (hi : l.rank ≤ Level.info.rank) : e.rejected? = none ↔ l.rank < e.level.rank := by
  simp only [Level.rank] at hw hi
  cases e <;> simp [level, Level.rank, rejected?] <;> omega

end Event

/-- The files that have been rejected, with the numbers of errors. -/
def Summary.rejections (s : Summary) : List (String × Nat) :=
  s.rejected.map fun entry => (entry.1, entry.2.length)

namespace Validator

variable {v : Validator} {fs : FileSystem} {dir : String} {summary : Summary}

theorem registered_documentEvents (path : String) (document : Json) :
    (v.documentEvents path document).filterMap Event.registered? =
      (v.accepted [((FileName.stem? path).getD "", document)]).map Prod.fst := by
  cases hc : v.compile document with
  | ok s =>
    simp [documentEvents, registerEvents, accepted, register_of_ok hc, hc, Event.registered?]
  | bad first rest =>
    simp [documentEvents, registerEvents, accepted, register_of_bad hc, hc, Event.registered?]

theorem rejections_loadDocument (done : Summary) (path : String) (document : Json) :
    (v.loadDocument done path document).1.rejections =
      done.rejections ++ (v.documentEvents path document).filterMap Event.rejected? := by
  cases hc : v.compile document with
  | ok s =>
    simp [loadDocument, documentEvents, registerEvents, register_of_ok hc, hc, Event.rejected?,
      List.filterMap_cons, Summary.rejections]
  | bad first rest =>
    simp [loadDocument, documentEvents, registerEvents, register_of_bad hc, hc, Event.rejected?,
      List.filterMap_cons, Summary.rejections]

/-- The documents that are told of as registered are those that are accepted. -/
theorem registered_filesEvents (files : List (String × ByteArray)) :
    (v.filesEvents files).filterMap Event.registered? =
      (v.accepted (readable files)).map Prod.fst := by
  induction files generalizing v with
  | nil => rfl
  | cons file rest ih =>
    obtain ⟨path, content⟩ := file
    rw [filesEvents, readable]
    cases readDocument path content with
    | error failure => rfl
    | ok document =>
      rw [accepted_cons, List.filterMap_append, List.map_append, ← ih,
        ← registered_documentEvents]

/-- The files that are told of as rejected are those of the summary. -/
theorem rejections_loadFiles {done : Summary} {files : List (String × ByteArray)}
    (h : (v.loadFiles done files).1 = .ok summary) :
    summary.rejections = done.rejections ++ (v.filesEvents files).filterMap Event.rejected? := by
  induction files generalizing v done with
  | nil =>
    cases h
    simp [filesEvents]
  | cons file rest ih =>
    obtain ⟨path, content⟩ := file
    rw [loadFiles] at h
    rw [filesEvents]
    cases hd : readDocument path content with
    | error failure =>
      rw [hd] at h
      cases h
    | ok document =>
      rw [hd] at h
      change ((v.loadDocument done path document).2.loadFiles
        (v.loadDocument done path document).1 rest).1 = .ok summary at h
      have hs := ih h
      rw [rejections_loadDocument, loadDocument_snd, List.append_assoc] at hs
      rw [List.filterMap_append]
      exact hs

/-- The documents that are told of as registered are those that are accepted from a directory,
whether or not it is loaded to its end. -/
theorem registered_directoryEvents :
    (v.directoryEvents fs dir).filterMap Event.registered? =
      (v.accepted (documents fs dir)).map Prod.fst := by
  rw [directoryEvents, documents]
  cases fs.walk dir with
  | error fault => rfl
  | ok files =>
    rw [List.filterMap_append, registered_filesEvents]
    cases (v.loadDirectory fs dir).1 <;> simp [Event.registered?]

/-- A directory that is loaded to its end is told of file by file, and then as a whole. -/
theorem exists_directoryEvents (h : (v.loadDirectory fs dir).1 = .ok summary) :
    ∃ files, (v.loadFiles ⟨[], []⟩ files).1 = .ok summary ∧
      v.directoryEvents fs dir =
        v.filesEvents files ++ [.directoryWalked dir summary.loaded.length] := by
  rw [directoryEvents, h]
  rw [loadDirectory] at h
  cases hw : fs.walk dir with
  | error fault =>
    rw [hw] at h
    cases h
  | ok files =>
    rw [hw] at h
    exact ⟨_, h, rfl⟩

/-- A directory that is loaded to its end is told of as its summary says. -/
theorem directoryEvents_of_loaded (h : (v.loadDirectory fs dir).1 = .ok summary) :
    (v.directoryEvents fs dir).filterMap Event.registered? = summary.loaded ∧
      (v.directoryEvents fs dir).filterMap Event.rejected? = summary.rejections ∧
      (v.directoryEvents fs dir).getLast? =
        some (.directoryWalked dir summary.loaded.length) := by
  obtain ⟨files, hl, he⟩ := exists_directoryEvents h
  refine ⟨?_, ?_, ?_⟩
  · rw [registered_directoryEvents, loaded_loadDirectory h]
  · rw [he, rejections_loadFiles hl]
    simp [Event.rejected?, Summary.rejections]
  · rw [he]
    simp

/-- Who asks for a level hears nothing of a directory that is loaded to its end exactly if the level
is that of errors, or no more than information is asked for and no file is rejected. -/
theorem directory_unheard_iff (h : (v.loadDirectory fs dir).1 = .ok summary) (listener : Listener)
    (l : Level) :
    (∀ e ∈ v.directoryEvents fs dir, listener.shows (some l.name) e = false) ↔
      l = .error ∨ l.rank ≤ Level.info.rank ∧ summary.rejected = [] := by
  obtain ⟨-, hrejected, hlast⟩ := directoryEvents_of_loaded h
  have quiet (hw : Level.warn.rank ≤ l.rank) (hi : l.rank ≤ Level.info.rank) :
      summary.rejected = [] ↔ ∀ e ∈ v.directoryEvents fs dir, l.rank < e.level.rank := by
    rw [← List.map_eq_nil_iff, ← Summary.rejections, ← hrejected, List.filterMap_eq_nil_iff]
    exact forall₂_congr fun e _ => Event.rejected?_eq_none_iff hw hi
  -- beyond information there is always the word about the directory as a whole
  have loud (hd : Level.debug.rank ≤ l.rank) :
      ¬ ∀ e ∈ v.directoryEvents fs dir, l.rank < e.level.rank := fun hq =>
    absurd (hq _ (List.mem_of_getLast? hlast)) (not_lt.2 hd)
  simp only [listener.asked, decide_eq_false_iff_not, not_le]
  cases l with
  | error => exact iff_of_true (fun e _ => e.warn_le_rank) (.inl rfl)
  | warn => simpa [Level.rank] using (quiet (by decide) (by decide)).symm
  | info => simpa [Level.rank] using (quiet (by decide) (by decide)).symm
  | debug => simpa [Level.rank] using loud (by decide)
  | trace => simpa [Level.rank] using loud (by decide)

theorem level_of_mem_validateEvents {r : Reference} {value : Json} {e : Event}
    (h : e ∈ v.validateEvents r value) : e.level = .trace := by
  cases r with
  | named name =>
    simp only [validateEvents] at h
    split at h
    · exact Environment.level_of_mem_events h
    · cases h
  | inline document =>
    simp only [validateEvents] at h
    split at h
    · exact Environment.level_of_mem_events h
    · cases h

/-- A value is judged in silence, unless traces are asked for. -/
theorem validate_unheard (v : Validator) (r : Reference) (value : Json) (listener : Listener)
    {l : Level} (h : l ≠ .trace) :
    ∀ e ∈ v.validateEvents r value, listener.shows (some l.name) e = false := by
  intro e he
  rw [listener.asked, level_of_mem_validateEvents he, decide_eq_false_iff_not, not_le]
  cases l with
  | trace => exact absurd rfl h
  | _ => decide

end Validator

end ShapeCheck
