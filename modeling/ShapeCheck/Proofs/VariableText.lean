import ShapeCheck.Proofs.SettingSources

/-!
# Formats in environment variables

The text of a variable is read as a flag or as a number where it can be, and a pattern is what that
is printed as.  In a file the text of a pattern stands as it is.

* `Variables.layer_format`: what a variable for a format says;
* `Variables.verbatim_of_mem`: texts that are read as neither, and so are printed as they stand;
* `Settings.load_format_iff`: a variable and a file agree on a format exactly for those texts that
  are printed as they stand.
-/

namespace ShapeCheck

open Unicode (lowerCase forall_ascii)

/-! ### Names -/

/-- Some lower case letters of ASCII. -/
structure IsWord (s : String) : Prop where
  ne_empty : s ≠ ""
  letter : ∀ c ∈ s.toList, 'a' ≤ c ∧ c ≤ 'z'

namespace IsWord

variable {s : String}

theorem toNat_lt (h : IsWord s) {c : Char} (hc : c ∈ s.toList) : c.toNat < 128 := by
  have hz : c.toNat ≤ 'z'.toNat := (h.letter c hc).2
  exact lt_of_le_of_lt hz (by decide)

theorem isNameChar (h : IsWord s) : ∀ c ∈ s.toList, KeyPath.isNameChar c = true := fun c hc =>
  forall_ascii (P := fun c => 'a' ≤ c ∧ c ≤ 'z' → KeyPath.isNameChar c = true) (by decide +kernel)
    (h.toNat_lt hc) (h.letter c hc)

theorem underscore_notMem (h : IsWord s) : '_' ∉ s.toList := fun hc =>
  absurd (h.letter '_' hc) (by decide)

theorem lowerCase_toUpper (h : IsWord s) (start : String)
    (hs : ∀ c ∈ start.toList, c.toNat < 128) :
    (lowerCase (start ++ s.toUpper)).toList = start.toList.map Char.toLower ++ s.toList := by
  have hup : s.toUpper.toList = s.toList.map Char.toUpper := String.toList_map
  have hletter : ∀ c ∈ s.toList, c.toUpper.toNat < 128 ∧ c.toUpper.toLower = c := fun c hc =>
    forall_ascii
      (P := fun c => 'a' ≤ c ∧ c ≤ 'z' → c.toUpper.toNat < 128 ∧ c.toUpper.toLower = c)
      (by decide +kernel) (h.toNat_lt hc) (h.letter c hc)
  rw [Unicode.lowerCase_ascii, String.toList_ofList, String.toList_append, List.map_append, hup,
    List.map_map]
  · exact congrArg _ ((List.map_congr_left fun c hc => (hletter c hc).2).trans (List.map_id _))
  · rw [String.toList_append, hup]
    intro c hc
    rcases List.mem_append.1 hc with hc | hc
    · exact hs c hc
    · obtain ⟨d, hd, rfl⟩ := List.mem_map.1 hc
      exact (hletter d hd).1

theorem lowerCase_eq (h : IsWord s) : lowerCase s = s := by
  have hlower : ∀ c ∈ s.toList, c.toLower = c := fun c hc =>
    forall_ascii (P := fun c => 'a' ≤ c ∧ c ≤ 'z' → c.toLower = c)
      (by decide +kernel) (h.toNat_lt hc) (h.letter c hc)
  rw [Unicode.lowerCase_ascii fun c hc => h.toNat_lt hc, List.map_congr_left hlower, List.map_id',
    String.ofList_toList]

end IsWord

namespace Variables

theorem dots_of_notMem {cs : List Char} (h : '_' ∉ cs) : dots cs = cs := by
  induction cs with
  | nil => rfl
  | cons c rest ih =>
    rw [List.mem_cons, not_or] at h
    rw [dots, ih h.2]
    rintro _ rfl
    exact absurd rfl h.1

theorem dots_append {cs rest : List Char} (h : '_' ∉ cs) :
    dots (cs ++ '_' :: '_' :: rest) = cs ++ '.' :: dots rest := by
  induction cs with
  | nil => rfl
  | cons c cs ih =>
    rw [List.mem_cons, not_or] at h
    rw [List.cons_append, dots, ih h.2, List.cons_append]
    rintro _ rfl
    exact absurd rfl h.1

/-- The name of the variable for a format. -/
def formatVariable (name : String) : String := "VALIDATOR__FORMATS__" ++ name.toUpper

theorem path?_formatVariable {name : String} (h : IsWord name) :
    path? (formatVariable name) = some ("formats" ++ "." ++ name) := by
  have hlow := h.lowerCase_toUpper "VALIDATOR__FORMATS__"
    (List.all_iff_forall_prop.1 (by decide))
  have hstart : "VALIDATOR__FORMATS__".toList.map Char.toLower =
      start ++ ("formats".toList ++ ['_', '_']) := by decide +kernel
  have hcs : (lowerCase (formatVariable name)).toList =
      start ++ ("formats".toList ++ '_' :: '_' :: name.toList) := by
    refine (hlow.trans (congrArg (· ++ name.toList) hstart)).trans ?_
    generalize start = first
    simp
  rw [path?]
  simp only [hcs]
  rw [if_pos (List.isPrefixOf_iff_prefix.2 (List.prefix_append _ _)), List.drop_left,
    dots_append (by decide), dots_of_notMem h.underscore_notMem, String.append_assoc]
  simp [← String.toList_inj]

theorem ofText_format {name : String} (h : IsWord name) :
    KeyPath.ofText ("formats" ++ "." ++ name) = ⟨"formats", [.entry name]⟩ :=
  KeyPath.ofText_dot (by decide) (List.all_eq_true.1 (by decide +kernel))
    (by simpa using h.ne_empty) h.isNameChar

/-- What a variable for a format says if no other has a setting. -/
theorem layer_format {name p : String} (h : IsWord name) {before after : Variables}
    (hothers : ∀ v ∈ before ++ after, path? v.1 = none) :
    layer (before ++ (formatVariable name, p) :: after) =
      [("formats" ++ "." ++ name, value p)] := by
  have hb := layer_of_none fun v hv => hothers v (List.mem_append_left _ hv)
  have ha := layer_of_none fun v hv => hothers v (List.mem_append_right _ hv)
  rw [layer] at hb ha ⊢
  rw [List.filterMap_append, hb, List.filterMap_cons, ha, path?_formatVariable h]
  rfl

/-! ### Values -/

/-- Every value of a variable is read as a text. -/
theorem isSome_text?_value (p : String) : (value p).text?.isSome := by
  unfold value
  simp only
  split
  · rfl
  · split
    · rfl
    · split
      · rfl
      · split <;> rfl

/-- A text that is printed as it stands once it has been read. -/
def Verbatim (p : String) : Prop := (value p).text? = some p

theorem mem_lowerChars {cs : List Char} {c : Char} (hl : Unicode.IsLower c) (hc : c ∈ cs)
    (before : List Char) : c ∈ Unicode.lowerChars before cs := by
  induction cs generalizing before with
  | nil => cases hc
  | cons d rest ih =>
    rw [Unicode.lowerChars, List.mem_append]
    rcases List.mem_cons.1 hc with rfl | hc
    · exact .inl (by rw [Unicode.lowerChar_of_isLower hl]; exact List.mem_singleton_self _)
    · exact .inr (ih hc _)

/-- The characters of numbers apart from digits. -/
def numberMarks : List Char := ['.', '+', '-', 'e', 'E']

theorem mem_of_signed {cs : List Char} {c : Char} (hc : c ∈ cs) (hm : c ∉ numberMarks) :
    c ∈ (Text.signed cs).2 := by
  unfold Text.signed
  split
  · exact (List.mem_cons.1 hc).resolve_left (by rintro rfl; exact hm (by decide))
  · exact (List.mem_cons.1 hc).resolve_left (by rintro rfl; exact hm (by decide))
  · exact hc

theorem integer?_eq_none {cs : List Char} {c : Char} (hc : c ∈ cs) (hd : c.isDigit = false)
    (hm : c ∉ numberMarks) : Text.integer? cs = none := by
  have hall : (Text.signed cs).2.all Char.isDigit = false :=
    List.all_eq_false.2 ⟨c, mem_of_signed hc hm, by simp [hd]⟩
  unfold Text.integer?
  simp only [hall, Bool.and_false]
  rfl

theorem exponent?_eq_none {cs : List Char} {c : Char} (hc : c ∈ cs) (hd : c.isDigit = false)
    (hm : c ∉ numberMarks) : Extended.exponent? cs = none := by
  cases cs with
  | nil => cases hc
  | cons mark rest =>
    by_cases hmark : mark = 'e' ∨ mark = 'E'
    · have hrest : c ∈ rest := (List.mem_cons.1 hc).resolve_left <| by
        rintro rfl
        rcases hmark with rfl | rfl <;> exact hm (by decide)
      have hall : (Text.signed rest).2.all Char.isDigit = false :=
        List.all_eq_false.2 ⟨c, mem_of_signed hrest hm, by simp [hd]⟩
      simp [Extended.exponent?, hall]
    · simp [Extended.exponent?, if_neg hmark]

theorem ofDigits?_eq_none {cs : List Char} {c : Char} (hc : c ∈ cs) (hd : c.isDigit = false)
    (hm : c ∉ numberMarks) (negative : Bool) : Extended.ofDigits? negative cs = none := by
  have hdrop {ds : List Char} (h : c ∈ ds) : c ∈ ds.dropWhile Char.isDigit := by
    rw [← List.takeWhile_append_dropWhile (p := Char.isDigit) (l := ds), List.mem_append] at h
    refine h.resolve_left fun ht => ?_
    rw [List.mem_takeWhile_imp ht] at hd
    cases hd
  have htail := hdrop hc
  simp only [Extended.ofDigits?]
  split
  · rename_i rest hrest
    rw [hrest] at htail
    have hmem := (List.mem_cons.1 htail).resolve_left (by rintro rfl; exact hm (by decide))
    simp [exponent?_eq_none (hdrop hmem) hd hm]
  · simp [exponent?_eq_none htail hd hm]

/-- A text is kept as it is if one of its characters is neither a letter or digit nor a mark of
numbers, like those of which regular expressions are made. -/
theorem verbatim_of_mem {p : String} {c : Char} (hc : c ∈ p.toList) (hl : Unicode.IsLower c)
    (ha : c.isAlphanum = false) (hm : c ∉ numberMarks) : Verbatim p := by
  -- the character stays in lower case, and no word for a flag or a number has it
  have hd : c.isDigit = false := (Bool.or_eq_false_iff.1 ha).2
  have hu : c.isUpper = false := (Bool.or_eq_false_iff.1 (Bool.or_eq_false_iff.1 ha).1).1
  have hlow : c ∈ (lowerCase p).toList := by
    rw [lowerCase, String.toList_ofList]
    exact mem_lowerChars hl hc []
  have hword {word : String} (hw : word.toList.all Char.isAlphanum = true) :
      c ∉ word.toList := fun h => by
    rw [List.all_eq_true.1 hw c h] at ha
    cases ha
  have hflag (word : String) (hw : word.toList.all Char.isAlphanum = true) : lowerCase p ≠ word :=
    fun h => hword hw (h ▸ hlow)
  have hfloat : Extended.ofText? p = none := by
    have hmem := mem_of_signed hc hm
    have hname (word : String) (hw : word.toList.all Char.isAlphanum = true) :
        String.ofList ((Text.signed p.toList).2.map Char.toLower) ≠ word := fun h => by
      refine hword hw (h ▸ ?_)
      rw [String.toList_ofList]
      refine List.mem_map.2 ⟨c, hmem, ?_⟩
      rw [Char.toLower, dif_neg]
      simpa [Char.isUpper] using hu
    simp only [Extended.ofText?, hname "inf" (by decide), hname "infinity" (by decide),
      hname "nan" (by decide), or_self, if_false, ofDigits?_eq_none hmem hd hm]
  rw [Verbatim, value]
  simp only [hflag "true" (by decide), hflag "false" (by decide), if_false,
    integer?_eq_none hc hd hm, hfloat, Setting.text?]

end Variables

/-! ### Sources with one format -/

namespace Layer

open Setting

theorem wellTyped_path {name : String} (h : IsWord name) {v : Setting} (hv : v.text?.isSome) :
    WellTyped [("formats" ++ "." ++ name, v)] :=
  List.forall_mem_singleton.2 <| .value (Variables.ofText_format h) <| by
    rw [(ofText_of_mem_partNames (show "formats" ∈ partNames by decide)).2]
    exact fits_of_reads (wanted?_formats _) hv

theorem pattern?_path {name : String} (h : IsWord name) (v : Setting) (key : String) :
    pattern? key [("formats" ++ "." ++ name, v)] = if key = name then v.text? else none := by
  have hl := (ofText_of_mem_partNames (show "formats" ∈ partNames by decide)).2
  rw [pattern?, value?, List.flatMap_singleton, said, Variables.ofText_format h, if_pos hl]
  simp only [named, List.filterMap_cons, List.filterMap_nil, h.lowerCase_eq]
  by_cases hk : key = name
  · simp [hk]
  · simp [hk, Ne.symm hk]

/-- What a file says whose only setting is the pattern of a format. -/
def ofFormat (name p : String) : Layer := [("formats", .table [(name, .text p)])]

theorem wellTyped_ofFormat (name p : String) : WellTyped (ofFormat name p) :=
  List.forall_mem_singleton.2 <| .of_part (by decide) <| List.forall_mem_singleton.2 <|
    fits_of_reads (wanted?_formats _) rfl

theorem pattern?_ofFormat {name : String} (h : IsWord name) (p key : String) :
    pattern? key (ofFormat name p) = if key = name then some p else none := by
  rw [pattern?, value?, ofFormat, List.flatMap_singleton, said_part (by decide)]
  simp only [named, List.filterMap_cons, List.filterMap_nil, h.lowerCase_eq]
  by_cases hk : key = name
  · simp [hk, Setting.text?]
  · simp [hk, Ne.symm hk]

end Layer

namespace Settings

variable {fs : FileSystem} {userFile explicit : Option String} {vars : Variables} {name p : String}

/-- Without files, a variable for a format gives what its text is printed as. -/
theorem load_formatVariable (h : IsWord name)
    (hnone : ∀ path ∈ sourceFiles fs userFile none, ConfigFile.find? fs path = none)
    {before after : Variables} (hothers : ∀ v ∈ before ++ after, Variables.path? v.1 = none) :
    ∃ s, load fs userFile none (before ++ (Variables.formatVariable name, p) :: after) = .ok s ∧
      ∀ key, s.formats.get? key = if key = name then (Variables.value p).text? else none := by
  have hfiles : List.Forall₂ (ConfigFile.Holds fs) (sourceFiles fs userFile none)
      ((sourceFiles fs userFile none).map fun _ => []) :=
    List.forall₂_map_right_iff.2 (List.forall₂_same.2 fun path hp => .missing (hnone path hp))
  have hlayers := layers_of_holds (before ++ (Variables.formatVariable name, p) :: after)
    hfiles nofun
  rw [Variables.layer_format h hothers] at hlayers
  have hempty : ∀ l ∈ (sourceFiles fs userFile none).map fun _ => ([] : Layer), l = [] :=
    List.forall_mem_map.2 fun _ _ => rfl
  have htyped := Layer.wellTyped_path h (Variables.isSome_text?_value p)
  obtain ⟨s, hs, hl⟩ := load_of_layers hlayers fun l hl => by
    rcases List.mem_append.1 hl with hl | hl
    · rw [hempty l hl]
      exact nofun
    · rwa [List.mem_singleton.1 hl]
  have hone := hl.of_alike (List.mem_append_right _ (List.mem_singleton_self _)) fun l hl =>
    (List.mem_append.1 hl).imp (hempty l) List.mem_singleton.1
  exact ⟨s, hs, fun key => by
    rw [hone.formats, getLast?_filterMap_singleton, Layer.pattern?_path h]⟩

/-- Without variables, a file with a format gives its pattern as it stands. -/
theorem load_formatFile (h : IsWord name) {files : List Layer}
    (hfiles : List.Forall₂ (ConfigFile.Holds fs) (sourceFiles fs userFile explicit) files)
    (hexplicit : ∀ path ∈ explicit, (ConfigFile.find? fs path).isSome)
    (hfile : Layer.ofFormat name p ∈ files)
    (hothers : ∀ layer ∈ files, layer = [] ∨ layer = Layer.ofFormat name p)
    (hvars : ∀ v ∈ vars, Variables.path? v.1 = none) :
    ∃ s, load fs userFile explicit vars = .ok s ∧
      ∀ key, s.formats.get? key = if key = name then some p else none := by
  obtain ⟨s, hs, hone⟩ :=
    load_of_alike hfiles hexplicit hfile hothers (Layer.wellTyped_ofFormat name p) hvars
  exact ⟨s, hs, fun key => by
    rw [hone.formats, getLast?_filterMap_singleton, Layer.pattern?_ofFormat h]⟩

/-- A format that a variable sets and one that a file sets are the same exactly if the text of the
pattern is printed as it stands: in the file it is kept, in the variable it is read as a flag or a
number first. -/
theorem load_format_iff (h : IsWord name)
    (hnone : ∀ path ∈ sourceFiles fs userFile none, ConfigFile.find? fs path = none)
    {before after : Variables} (hothers : ∀ v ∈ before ++ after, Variables.path? v.1 = none)
    {fs' : FileSystem} {userFile' explicit' : Option String} {files : List Layer}
    (hfiles : List.Forall₂ (ConfigFile.Holds fs') (sourceFiles fs' userFile' explicit') files)
    (hexplicit : ∀ path ∈ explicit', (ConfigFile.find? fs' path).isSome)
    (hfile : Layer.ofFormat name p ∈ files)
    (hrest : ∀ layer ∈ files, layer = [] ∨ layer = Layer.ofFormat name p)
    (hvars : ∀ v ∈ vars, Variables.path? v.1 = none) :
    ∃ s s', load fs userFile none (before ++ (Variables.formatVariable name, p) :: after) = .ok s ∧
      load fs' userFile' explicit' vars = .ok s' ∧
      (∀ key, s.formats.get? key = if key = name then (Variables.value p).text? else none) ∧
      (∀ key, s'.formats.get? key = if key = name then some p else none) ∧
      ((∀ key, s.formats.get? key = s'.formats.get? key) ↔ Variables.Verbatim p) := by
  obtain ⟨s, hs, hget⟩ := load_formatVariable (p := p) h hnone hothers
  obtain ⟨s', hs', hget'⟩ := load_formatFile h hfiles hexplicit hfile hrest hvars
  refine ⟨s, s', hs, hs', hget, hget', fun hall => ?_, fun hv key => ?_⟩
  · have hname := hall name
    rwa [hget, hget', if_pos rfl, if_pos rfl] at hname
  · rw [hget, hget', hv]

/-- A file with a pattern of digits. -/
def digitsFile : FileSystem :=
  ⟨.directory [("validator.toml", .file "[formats]\nzip = \"007\"\n".toUTF8)], []⟩

theorem find?_noFiles :
    ∀ path ∈ sourceFiles noFiles none none, ConfigFile.find? noFiles path = none := by
  simp only [ConfigFile.find?, FileName.extended?, FileName.ofPath?, FileName.parts,
    FileSystem.isFile, FileSystem.find, FileSystem.names, splitOn_slash]
  decide +kernel

theorem holds_digitsFile : List.Forall₂ (ConfigFile.Holds digitsFile)
    (sourceFiles digitsFile none none) [.ofFormat "zip" "007", [], []] := by
  have hfind : ConfigFile.find? digitsFile "validator.toml" = some ("validator.toml", .toml) ∧
      ConfigFile.find? digitsFile ".validator.toml" = none ∧
      ConfigFile.find? digitsFile "config/validator.toml" = none := by
    simp only [ConfigFile.find?, ConfigFormat.ofPath?, FileName.extension?, FileName.extended?,
      FileName.ofPath?, FileName.parts, FileSystem.isFile, FileSystem.find, FileSystem.names,
      splitOn_slash]
    decide +kernel
  have htext : digitsFile.readText "validator.toml" = .ok "[formats]\nzip = \"007\"\n" := by
    refine FileSystem.readText_of_find ?_
    rw [FileSystem.find, if_neg (by decide), FileSystem.names,
      show "validator.toml".startsWith "/" = false by decide +kernel,
      splitOn_slash_of_notMem (by decide)]
    rfl
  have hlayer : ConfigFormat.layer? .toml "[formats]\nzip = \"007\"\n" =
      some (.ofFormat "zip" "007") := by
    rw [ConfigFormat.layer?, Layer.ofFormat]
    cbv
  exact .cons (.found hfind.1 htext hlayer)
    (.cons (.missing hfind.2.1) (.cons (.missing hfind.2.2) .nil))

theorem isWord_zip : IsWord "zip" := ⟨by decide, List.all_iff_forall_prop.1 (by decide)⟩

/-- Of a pattern of digits a variable drops zeros that a file keeps. -/
theorem digits_load_apart : ∃ s s',
    load noFiles none none [(Variables.formatVariable "zip", "007")] = .ok s ∧
      load digitsFile none none [] = .ok s' ∧
      s.formats.get? "zip" = some "7" ∧ s'.formats.get? "zip" = some "007" := by
  obtain ⟨s, hs, hget⟩ := @load_formatVariable noFiles none "zip" "007" isWord_zip find?_noFiles
    [] [] nofun
  obtain ⟨s', hs', hget'⟩ := @load_formatFile digitsFile none none [] "zip" "007" isWord_zip _
    holds_digitsFile nofun (by simp) (by simp) nofun
  refine ⟨s, s', hs, hs', ?_, ?_⟩
  · rw [hget]
    decide +kernel
  · rw [hget', if_pos rfl]

/-- Digits are no text for which a variable and a file agree. -/
theorem load_format_iff_digits : ∃ s s',
    load noFiles none none [(Variables.formatVariable "zip", "007")] = .ok s ∧
      load digitsFile none none [] = .ok s' ∧
      ¬ ∀ key, s.formats.get? key = s'.formats.get? key := by
  obtain ⟨s, s', hs, hs', -, -, hiff⟩ := @load_format_iff noFiles none [] "zip" "007" isWord_zip
    find?_noFiles [] [] nofun digitsFile none none _ holds_digitsFile nofun (by simp) (by simp)
    nofun
  exact ⟨s, s', hs, hs', fun h => absurd (hiff.1 h) (by unfold Variables.Verbatim; decide +kernel)⟩

/-- A regular expression is kept. -/
example : Variables.Verbatim "^[0-9]+$" :=
  Variables.verbatim_of_mem (c := '^') (by decide) (by decide +kernel) (by decide) (by decide)

end Settings

end ShapeCheck
