import ShapeCheck.Proofs.TomlText
import ShapeCheck.Settings.Document

/-!
# Settings read back from their document

* `Toml.Reads`: what the lines of a text say;
* `Toml.reads_header`, `Toml.reads_line`: a header or an assignment in front of other lines;
* `Settings.read?_document`: the document of settings is read as what they say.

The only names that are not read back are those of dates: a table is taken for a date if its first
name is a certain mark.
-/

namespace ShapeCheck.Toml

open Settings (line)

/-! ### Values -/

/-- A text that starts with a string starts with a quote. -/
theorem quote_of_string? {cs : List Char} {r : String × List Char} (h : string? cs = some r) :
    ∃ q rest, cs = q :: rest ∧ (q = '"' ∨ q = '\'') := by
  unfold string? at h
  split at h
  · exact ⟨_, _, rfl, .inl rfl⟩
  · exact ⟨_, _, rfl, .inl rfl⟩
  · exact ⟨_, _, rfl, .inr rfl⟩
  · exact ⟨_, _, rfl, .inr rfl⟩
  · cases h

theorem writtenChars_head (cs : List Char) :
    ∃ q rest, writtenChars cs = q :: rest ∧ (q = '"' ∨ q = '\'') :=
  quote_of_string? (by simpa using string?_writtenChars cs [] nofun nofun)

theorem value?_writtenChars (depth : Nat) (cs : List Char) {rest : List Char}
    (hd : rest.head? ≠ some '"') (hs : rest.head? ≠ some '\'') :
    value? depth (writtenChars cs ++ rest) = some (.string (String.ofList cs), rest) := by
  have hread := string?_writtenChars cs rest hd hs
  obtain ⟨q, body, hq, hquote⟩ := writtenChars_head cs
  rw [hq, List.cons_append] at hread ⊢
  cases depth <;>
  · rw [value?, if_pos hquote, hread]
    · rfl
    · rintro rfl; simp at hquote
    · rintro rfl; simp at hquote

/-- A flag at the end of a line. -/
theorem value?_flagText (depth : Nat) (b : Bool) (rest : List Char) :
    value? depth ((Setting.flagText b).toList ++ '\n' :: rest) = some (.bool b, '\n' :: rest) := by
  cases b <;> cases depth <;> rfl

section Elements

variable {depth fuel : Nat} {s : String} {cs rest more : List Char}

/-- Behind blanks and line ends, a string that is the last element of an array. -/
theorem elements?_last (h : skipLines false cs = writtenChars s.toList ++ rest)
    (hd : rest.head? ≠ some '"') (hs : rest.head? ≠ some '\'')
    (hr : skipLines false rest = ']' :: more) :
    elements? (value? depth) (fuel + 1) cs = some ([.string s], more) := by
  have hvalue := value?_writtenChars depth s.toList hd hs
  obtain ⟨q, body, hq, hquote⟩ := writtenChars_head s.toList
  rw [hq, List.cons_append] at h hvalue
  rw [elements?, h]
  split
  · rename_i hm
    obtain rfl := (List.cons.inj hm).1
    simp at hquote
  · simp only [hvalue, Option.bind_eq_bind, Option.bind_some, hr, String.ofList_toList]

/-- Behind blanks and line ends, a string in front of more elements of an array. -/
theorem elements?_cons (h : skipLines false cs = writtenChars s.toList ++ rest)
    (hd : rest.head? ≠ some '"') (hs : rest.head? ≠ some '\'')
    (hr : skipLines false rest = ',' :: more) {vs : List Value} {last : List Char}
    (hm : elements? (value? depth) fuel more = some (vs, last)) :
    elements? (value? depth) (fuel + 1) cs = some (.string s :: vs, last) := by
  have hvalue := value?_writtenChars depth s.toList hd hs
  obtain ⟨q, body, hq, hquote⟩ := writtenChars_head s.toList
  rw [hq, List.cons_append] at h hvalue
  rw [elements?, h]
  split
  · rename_i hm
    obtain rfl := (List.cons.inj hm).1
    simp at hquote
  · simp only [hvalue, Option.bind_eq_bind, Option.bind_some, hr, hm, String.ofList_toList]

theorem skipLines_writtenChars (cs rest : List Char) :
    skipLines false (writtenChars cs ++ rest) = writtenChars cs ++ rest := by
  obtain ⟨q, body, hq, rfl | rfl⟩ := writtenChars_head cs <;>
  · rw [hq]
    rfl

/-- An element of an array on a line of its own. -/
def elementLine (s : String) : List Char :=
  '\n' :: ' ' :: ' ' :: ' ' :: ' ' :: (writtenChars s.toList ++ [','])

theorem elements?_lines (depth : Nat) (ss : List String) (rest : List Char) {fuel : Nat}
    (hf : ss.length < fuel) :
    elements? (value? depth) fuel (ss.flatMap elementLine ++ '\n' :: ']' :: rest) =
      some (ss.map .string, rest) := by
  induction ss generalizing fuel with
  | nil =>
    obtain ⟨fuel, rfl⟩ := Nat.exists_eq_add_one_of_ne_zero (by omega : fuel ≠ 0)
    rfl
  | cons s ss ih =>
    obtain ⟨fuel, rfl⟩ := Nat.exists_eq_add_one_of_ne_zero (by omega : fuel ≠ 0)
    have hcs : (s :: ss).flatMap elementLine ++ '\n' :: ']' :: rest =
        '\n' :: ' ' :: ' ' :: ' ' :: ' ' :: (writtenChars s.toList ++
          ',' :: (ss.flatMap elementLine ++ '\n' :: ']' :: rest)) := by
      simp [elementLine]
    rw [hcs]
    exact elements?_cons (skipLines_writtenChars _ _) (by simp) (by simp) rfl
      (ih (by simpa using hf))

theorem length_le_flatMap_elementLine (ss : List String) :
    ss.length ≤ (ss.flatMap elementLine).length := by
  induction ss with
  | nil => exact Nat.le_refl 0
  | cons s ss ih =>
    rw [List.flatMap_cons, List.length_append, List.length_cons, elementLine, List.length_cons]
    omega

end Elements

theorem toList_writtenStrings (s t : String) (ss : List String) :
    (writtenStrings (s :: t :: ss)).toList =
      '[' :: ((s :: t :: ss).flatMap elementLine ++ ['\n', ']']) := by
  have hline (s : String) : ("\n    " ++ writtenString s ++ ",").toList = elementLine s := by
    simp [elementLine, writtenString]
  rw [writtenStrings]
  · rw [String.toList_append, String.toList_append, String.toList_join, List.flatMap_map]
    simp only [hline]
    simp
  · exact nofun
  · exact nofun

theorem value?_writtenStrings (depth : Nat) (ss : List String) (rest : List Char) :
    value? (depth + 1) ((writtenStrings ss).toList ++ rest) =
      some (.array (ss.map .string), rest) := by
  match ss with
  | [] => rfl
  | [s] =>
    have hcs : (writtenStrings [s]).toList ++ rest =
        '[' :: (writtenChars s.toList ++ ']' :: rest) := by
      simp [writtenStrings, writtenString]
    rw [hcs, value?, elements?_last (skipLines_writtenChars _ _) (by simp) (by simp) rfl]
    rfl
  | s :: t :: ss =>
    have hlen := length_le_flatMap_elementLine (s :: t :: ss)
    rw [toList_writtenStrings, List.cons_append, List.append_assoc, List.cons_append,
      List.singleton_append, value?, elements?_lines depth (s :: t :: ss) rest]
    · rfl
    · rw [List.length_append]
      omega

/-! ### Lines -/

/-- What the lines of a text say, however many more there could be. -/
def Reads (cs : List Char) (said : List Statement) : Prop :=
  ∀ fuel, cs.length < fuel → statements? fuel cs = some said

theorem reads_nil : Reads [] [] := by
  intro fuel hf
  obtain ⟨fuel, rfl⟩ := Nat.exists_eq_add_one_of_ne_zero (by omega : fuel ≠ 0)
  rfl

/-- A line end in front says nothing. -/
theorem Reads.newline {cs : List Char} {said : List Statement} (h : Reads cs said) :
    Reads ('\n' :: cs) said := by
  intro fuel hf
  rw [List.length_cons] at hf
  obtain ⟨fuel, rfl⟩ := Nat.exists_eq_add_one_of_ne_zero (by omega : fuel ≠ 0)
  exact h (fuel + 1) (by omega)

theorem Reads.cons {c : Char} {cs rest : List Char} {s : Statement} {said : List Statement}
    (h : Reads rest said) (hs : skipLines false (c :: cs) = c :: cs)
    (hst : statement? (c :: cs) = some (s, rest)) (hlen : rest.length ≤ cs.length) :
    Reads (c :: cs) (s :: said) := by
  intro fuel hf
  rw [List.length_cons] at hf
  obtain ⟨fuel, rfl⟩ := Nat.exists_eq_add_one_of_ne_zero (by omega : fuel ≠ 0)
  rw [statements?, hs]
  simp only [hst, Option.bind_eq_bind, Option.bind_some, h fuel (by omega)]

/-! ### Names -/

/-- A text that starts with a name starts with a quote or a bare character. -/
theorem bare_of_key? {cs : List Char} {r : String × List Char} (h : key? cs = some r) :
    ∃ c rest, cs = c :: rest ∧ (isBare c = true ∨ c = '"' ∨ c = '\'') := by
  unfold key? at h
  split at h
  · exact ⟨_, _, rfl, .inr (.inl rfl)⟩
  · exact ⟨_, _, rfl, .inr (.inr rfl)⟩
  · simp only at h
    split at h
    · cases h
    · rename_i hne
      cases cs with
      | nil => simp at hne
      | cons c cs =>
        refine ⟨c, cs, rfl, .inl (Decidable.byContradiction fun hc => hne ?_)⟩
        rw [List.takeWhile_cons_of_neg hc]
        rfl

/-- The characters with which a line cannot go on as it starts. -/
theorem ne_of_bare {c : Char} (h : isBare c = true ∨ c = '"' ∨ c = '\'') :
    c ∉ [' ', '\t', '\n', '\r', '#', '[', '.'] := by
  intro hm
  simp only [List.mem_cons, List.not_mem_nil, or_false] at hm
  rcases hm with rfl | rfl | rfl | rfl | rfl | rfl | rfl <;> revert h <;> decide

theorem writtenKey_head (name : String) :
    ∃ c rest, (writtenKey name).toList = c :: rest ∧
      c ∉ [' ', '\t', '\n', '\r', '#', '[', '.'] := by
  obtain ⟨c, rest, h, hc⟩ := bare_of_key? (key?_writtenKey name [] nofun)
  exact ⟨c, rest, by simpa using h, ne_of_bare hc⟩

/-- A single name up to something that is neither bare nor a dot. -/
theorem keyPath?_writtenKey (name : String) (rest : List Char) {c : Char} {more : List Char}
    (hr : ∀ c ∈ rest.head?, isBare c = false) (hskip : skipBlank rest = c :: more) (hc : c ≠ '.') :
    keyPath? ((writtenKey name).toList ++ rest) = some (([], name), c :: more) := by
  have hkey := key?_writtenKey name rest hr
  obtain ⟨d, body, hd, hn⟩ := writtenKey_head name
  rw [hd, List.cons_append] at hkey ⊢
  have hblank : skipBlank (d :: (body ++ rest)) = d :: (body ++ rest) := by
    rw [skipBlank, List.dropWhile_cons_of_neg]
    simp only [List.mem_cons, not_or] at hn
    simp [isBlank, hn.1, hn.2.1]
  rw [keyPath?, maxDepth, dotted?, hblank, hkey]
  simp only [Option.bind_eq_bind, Option.bind_some, hskip]
  split
  · rename_i hm
    exact absurd (List.cons.inj hm).1 hc
  · rfl

/-- A header on a line of its own. -/
theorem reads_header {name : String} (hn : writtenKey name = name) (text : List Char)
    (ht : text = '[' :: (name.toList ++ [']', '\n'])) {rest : List Char} {said : List Statement}
    (h : Reads rest said) :
    Reads (text ++ rest) (.declare [] name :: said) := by
  have hpath := keyPath?_writtenKey name (']' :: '\n' :: rest) (by simp; decide) rfl
    (by decide)
  obtain ⟨d, body, hd, hnot⟩ := writtenKey_head name
  rw [hn] at hpath hd
  have hcs : text ++ rest = '[' :: (name.toList ++ ']' :: '\n' :: rest) := by simp [ht]
  rw [hcs]
  refine h.cons rfl ?_ (by simp; omega)
  rw [statement?]
  · rw [header?, hpath]
    rfl
  · intro more hm
    rw [hd] at hm
    obtain rfl := (List.cons.inj hm).1
    exact hnot (by decide)

/-- A name with its value on a line of its own. -/
theorem reads_line (name value : String) {rest : List Char} {said : List Statement} {v : Value}
    (h : Reads rest said)
    (hv : value? maxDepth (value.toList ++ '\n' :: rest) = some (v, '\n' :: rest))
    (hb : skipBlank (value.toList ++ '\n' :: rest) = value.toList ++ '\n' :: rest) :
    Reads ((line (writtenKey name) value).toList ++ rest) (.assign [] name v :: said) := by
  have hcs : (line (writtenKey name) value).toList ++ rest =
      (writtenKey name).toList ++ ' ' :: '=' :: ' ' :: (value.toList ++ '\n' :: rest) := by
    simp [line]
  have hpath := keyPath?_writtenKey name
    (' ' :: '=' :: ' ' :: (value.toList ++ '\n' :: rest)) (by simp; decide) rfl (by decide)
  obtain ⟨d, body, hd, hn⟩ := writtenKey_head name
  rw [hcs]
  rw [hd, List.cons_append] at hpath ⊢
  simp only [List.mem_cons, List.not_mem_nil, or_false, not_or] at hn
  obtain ⟨hspace, htab, hline, hreturn, hhash, hbracket, -⟩ := hn
  refine h.cons ?_ ?_ (by simp; omega)
  · rw [skipLines, if_neg Bool.false_ne_true, if_neg (by simp [isBlank, hspace, htab]),
      if_neg hhash]
    · exact hline
    · exact fun _ h => absurd h hreturn
  · rw [statement?, assignment?, hpath]
    · simp only [Option.bind_eq_bind, Option.bind_some]
      have hskip : skipBlank (' ' :: (value.toList ++ '\n' :: rest)) =
          skipBlank (value.toList ++ '\n' :: rest) := rfl
      rw [hskip, hb, hv]
      rfl
    · exact fun _ h => hbracket (List.cons.inj h).1
    · exact fun _ h => hbracket (List.cons.inj h).1

/-! ### Documents -/

theorem skipBlank_of_head {c : Char} (h : isBlank c = false) (cs : List Char) :
    skipBlank (c :: cs) = c :: cs := by
  rw [skipBlank, List.dropWhile_cons_of_neg (by simp [h])]

/-- A name with a string on a line of its own. -/
theorem reads_stringLine (name s : String) {rest : List Char} {said : List Statement}
    (h : Reads rest said) :
    Reads ((line (writtenKey name) (writtenString s)).toList ++ rest)
      (.assign [] name (.string s) :: said) := by
  refine reads_line name (writtenString s) h ?_ ?_
  · rw [writtenString, String.toList_ofList, value?_writtenChars _ _ (by simp) (by simp),
      String.ofList_toList]
  · rw [writtenString, String.toList_ofList]
    obtain ⟨q, body, hq, rfl | rfl⟩ := writtenChars_head s.toList <;>
    · rw [hq]
      exact skipBlank_of_head (by decide) _

theorem reads_stringLines (entries : List (String × String)) :
    Reads (String.join (entries.map fun (name, s) =>
        line (writtenKey name) (writtenString s))).toList
      (entries.map fun (name, s) => .assign [] name (.string s)) := by
  induction entries with
  | nil => exact reads_nil
  | cons entry rest ih =>
    rw [List.map_cons, String.join_cons, String.toList_append]
    exact reads_stringLine entry.1 entry.2 ih

theorem reads_flagLine {name : String} (hn : writtenKey name = name) (b : Bool) {rest : List Char}
    {said : List Statement} (h : Reads rest said) :
    Reads ((line name (Setting.flagText b)).toList ++ rest)
      (.assign [] name (.bool b) :: said) := by
  have hline := reads_line name (Setting.flagText b) h (value?_flagText _ b rest) <| by
    cases b <;> rfl
  rwa [hn] at hline

theorem reads_arrayLine {name : String} (hn : writtenKey name = name) (ss : List String)
    {rest : List Char} {said : List Statement} (h : Reads rest said) :
    Reads ((line name (writtenStrings ss)).toList ++ rest)
      (.assign [] name (.array (ss.map .string)) :: said) := by
  have hline := reads_line name (writtenStrings ss) h (value?_writtenStrings _ ss _) <| by
    match ss with
    | [] => rfl
    | [s] =>
      rw [writtenStrings, String.toList_append, String.toList_append]
      exact skipBlank_of_head (by decide) _
    | s :: t :: ss =>
      rw [toList_writtenStrings]
      exact skipBlank_of_head (by decide) _
  rwa [hn] at hline

/-- The statements of the document of settings. -/
def statementsOf (s : Settings) : List Statement :=
  [.declare [] "validation", .assign [] "check_schema" (.bool s.checkSchema),
    .assign [] "reject_unsupported_keywords" (.bool s.rejectUnsupported), .declare [] "store",
    .assign [] "schema_dirs" (.array (s.schemaDirs.map .string)), .declare [] "formats"] ++
  s.formats.entries.map fun (name, p) => .assign [] name (.string p)

theorem toList_document (s : Settings) :
    s.document.toList = "[validation]\n".toList ++
      ((line "check_schema" (Setting.flagText s.checkSchema)).toList ++
      ((line "reject_unsupported_keywords" (Setting.flagText s.rejectUnsupported)).toList ++
      ("\n[store]\n".toList ++ ((line "schema_dirs" (writtenStrings s.schemaDirs)).toList ++
      ("\n[formats]\n".toList ++ (String.join (s.formats.entries.map fun (name, p) =>
        line (writtenKey name) (writtenString p))).toList))))) := by
  -- the texts are left out of sight, since comparing them with each other takes long
  have happ (a b c d e f g : String) : (a ++ b ++ c ++ d ++ e ++ f ++ g).toList = a.toList ++
      (b.toList ++ (c.toList ++ (d.toList ++ (e.toList ++ (f.toList ++ g.toList))))) := by
    simp only [String.toList_append, List.append_assoc]
  exact happ _ _ _ _ _ _ _

theorem reads_document (s : Settings) : Reads s.document.toList (statementsOf s) := by
  have hnames : ∀ name ∈ ["validation", "check_schema", "reject_unsupported_keywords", "store",
      "schema_dirs", "formats"], writtenKey name = name := by decide +kernel
  have hformats : Reads ("\n[formats]\n".toList ++ _) _ :=
    (reads_header (hnames "formats" (by simp)) "[formats]\n".toList (by decide)
      (reads_stringLines s.formats.entries)).newline
  have hstore : Reads ("\n[store]\n".toList ++ _) _ :=
    (reads_header (hnames "store" (by simp)) "[store]\n".toList (by decide)
      (reads_arrayLine (hnames "schema_dirs" (by simp)) s.schemaDirs hformats)).newline
  rw [toList_document]
  exact reads_header (hnames "validation" (by simp)) _ (by decide)
    (reads_flagLine (hnames "check_schema" (by simp)) _
      (reads_flagLine (hnames "reject_unsupported_keywords" (by simp)) _ hstore))

/-! ### Tables -/

/-- The tables of settings under construction. -/
def branchesOf (s : Settings) (formats : Branches) : Branches :=
  [("validation", .table .declared [("check_schema", .value (.bool s.checkSchema)),
      ("reject_unsupported_keywords", .value (.bool s.rejectUnsupported))]),
    ("store", .table .declared
      [("schema_dirs", .value (.array (s.schemaDirs.map .string)))]),
    ("formats", .table .declared formats)]

theorem assignIn_formats (s : Settings) {formats : Branches} {name : String} (v : Value)
    (h : formats.lookup name = none) :
    Tree.assignIn ["formats"] [] name v (branchesOf s formats) =
      some (branchesOf s (formats ++ [(name, .value v)])) := by
  have hl : (branchesOf s formats).lookup "formats" = some (.table .declared formats) := rfl
  have hp (t : Tree) : put "formats" t (branchesOf s formats) =
      (branchesOf s formats).take 2 ++ [("formats", t)] := rfl
  rw [Tree.assignIn, Tree.descend, hl]
  simp only [Tree.descend, Tree.assign, hp, h, reduceCtorEq, false_and, if_false, ne_eq,
    not_true_eq_false, and_self, if_true, Option.map_some, Option.bind_eq_bind, Option.bind_some]
  rfl

theorem build?_formats (s : Settings) {entries : List (String × String)} {formats : Branches}
    (hd : (entries.map Prod.fst).Nodup) (hn : ∀ e ∈ entries, formats.lookup e.1 = none) :
    build? ["formats"] (branchesOf s formats)
        (entries.map fun (name, p) => .assign [] name (.string p)) =
      some (branchesOf s (formats ++ entries.map fun (name, p) => (name, .value (.string p)))) := by
  induction entries generalizing formats with
  | nil => rw [List.map_nil, List.map_nil, List.append_nil, build?]
  | cons entry rest ih =>
    obtain ⟨name, p⟩ := entry
    rw [List.map_cons, List.nodup_cons] at hd
    rw [List.map_cons, build?, assignIn_formats s _ (hn _ List.mem_cons_self)]
    simp only [Option.bind_eq_bind, Option.bind_some]
    rw [ih hd.2]
    · simp
    · intro e he
      rw [List.lookup_append, hn e (List.mem_cons_of_mem _ he)]
      have hne : e.1 ≠ name := by
        rintro rfl
        exact hd.1 (List.mem_map.2 ⟨e, he, rfl⟩)
      simp [lookup_entry, hne]

theorem build?_statementsOf (s : Settings) :
    build? [] [] (statementsOf s) = some (branchesOf s
      (s.formats.entries.map fun (name, p) => (name, .value (.string p)))) := by
  have hfront (rest : List Statement) :
      build? [] [] ([.declare [] "validation", .assign [] "check_schema" (.bool s.checkSchema),
        .assign [] "reject_unsupported_keywords" (.bool s.rejectUnsupported), .declare [] "store",
        .assign [] "schema_dirs" (.array (s.schemaDirs.map .string)), .declare [] "formats"] ++
          rest) = build? ["formats"] (branchesOf s []) rest := rfl
  rw [statementsOf, hfront, build?_formats s s.formats.nodup fun _ _ => rfl, List.nil_append]

/-- The tables of settings. -/
def tablesOf (s : Settings) : Entries :=
  [("validation", .table [("check_schema", .bool s.checkSchema),
      ("reject_unsupported_keywords", .bool s.rejectUnsupported)]),
    ("store", .table [("schema_dirs", .array (s.schemaDirs.map .string))]),
    ("formats", .table (s.formats.entries.map fun (name, p) => (name, .string p)))]

theorem toEntries_values (entries : List (String × String)) :
    Tree.toEntries (entries.map fun (name, p) => (name, .value (.string p))) =
      entries.map fun (name, p) => (name, .string p) := by
  induction entries with
  | nil => rfl
  | cons entry rest ih =>
    rw [List.map_cons, List.map_cons, Tree.toEntries, ih]
    rfl

theorem settledElements?_strings (ss : List String) :
    settledElements? (ss.map .string) = some (ss.map .string) := by
  induction ss with
  | nil => rfl
  | cons s ss ih =>
    rw [List.map_cons, settledElements?, ih]
    rfl

theorem settledEntries?_strings (entries : List (String × String)) :
    settledEntries? (entries.map fun (name, p) => (name, .string p)) =
      some (entries.map fun (name, p) => (name, .string p)) := by
  induction entries with
  | nil => rfl
  | cons entry rest ih =>
    rw [List.map_cons, settledEntries?, ih]
    rfl

/-- A table of strings is no date unless its first name says so. -/
theorem settled?_strings {entries : List (String × String)}
    (h : (entries.map Prod.fst).head? ≠ some dateMark) :
    (Value.table (entries.map fun (name, p) => (name, .string p))).settled? =
      some (.table (entries.map fun (name, p) => (name, .string p))) := by
  cases entries with
  | nil => rfl
  | cons entry rest =>
    have hname : entry.1 ≠ dateMark := fun e => h (congrArg some e)
    rw [List.map_cons, Value.settled?, if_neg hname, settledEntries?_strings]
    rfl

theorem settled?_tablesOf {s : Settings} (h : s.formats.names.head? ≠ some dateMark) :
    (Value.table (tablesOf s)).settled? = some (.table (tablesOf s)) := by
  have hdirs : (Value.table [("schema_dirs", .array (s.schemaDirs.map .string))]).settled? =
      some (.table [("schema_dirs", .array (s.schemaDirs.map .string))]) := by
    rw [Value.settled?, if_neg (by decide), Value.settled?, settledElements?_strings]
    · rfl
    · exact nofun
  rw [tablesOf, Value.settled?, if_neg (by decide), settledEntries?, settledEntries?, hdirs,
    settled?_strings h]
  · rfl
  · exact nofun

/-- The document of settings is read as their tables, unless its first format has the name of a
date. -/
theorem read?_document {s : Settings} (h : s.formats.names.head? ≠ some dateMark) :
    read? s.document = some (tablesOf s) := by
  have hmark : withoutMark s.document.toList = s.document.toList := by
    rw [toList_document]
    rfl
  have hentries : Tree.toEntries (branchesOf s
      (s.formats.entries.map fun (name, p) => (name, .value (.string p)))) = tablesOf s := by
    rw [tablesOf, ← toEntries_values]
    rfl
  rw [read?]
  simp only [hmark, reads_document s _ (Nat.lt_succ_self _), Option.bind_eq_bind, Option.bind_some,
    build?_statementsOf, hentries, settled?_tablesOf h]

end ShapeCheck.Toml
