import Mathlib.Tactic
import ShapeCheck.Command.Arguments

/-!
# Command lines that are understood

* `Command.Reads`: arguments are read as certain words, whatever stands behind them;
* `Command.Flags`: arguments that are options for all commands, with their words;
* `Command.settings?`: what the options on both sides of the name of a command come to;
* `Request.ofArguments?_byName`, `Request.ofArguments?_byFile`: the requests of the command lines
  that validate a file, with the schema by name and with the schema in a file.
-/

namespace ShapeCheck

namespace Command

/-! ### Single arguments -/

/-- The argument is no option. -/
def Plain (arg : String) : Prop := looksLikeOption arg = false

instance (arg : String) : Decidable (Plain arg) :=
  inferInstanceAs (Decidable (looksLikeOption arg = false))

theorem looksLikeOption_of_dashes {arg : String} (cs : List Char)
    (h : arg.toList = '-' :: '-' :: cs) : looksLikeOption arg = true := by
  have hs : arg.startsWith "-" = true := by
    rw [String.startsWith_string_iff, h]
    exact ⟨'-' :: cs, rfl⟩
  rw [looksLikeOption, hs, Bool.true_and, decide_eq_true_iff]
  rintro rfl
  cases h

theorem Plain.ne_dashes {arg : String} (h : Plain arg) : arg ≠ "--" := by
  rintro rfl
  rw [Plain, looksLikeOption_of_dashes [] rfl] at h
  cases h

/-- The arguments are read as the words, whatever stands behind them. -/
def Reads (specs : List OptionSpec) (all : Bool) (args : List String) (ws : List Word) : Prop :=
  ∀ rest, words? specs all (args ++ rest) =
    (words? specs all rest).map fun r => (ws ++ r.1, r.2)

section Reads

variable {specs : List OptionSpec} {all : Bool} {arg value : String} {args args' : List String}
  {ws ws' : List Word} {spec : OptionSpec}

theorem Reads.nil (specs : List OptionSpec) (all : Bool) : Reads specs all [] [] := by
  intro rest
  simp

theorem Reads.append (h : Reads specs all args ws) (h' : Reads specs all args' ws') :
    Reads specs all (args ++ args') (ws ++ ws') := by
  intro rest
  rw [List.append_assoc, h, h', Option.map_map]
  simp [Function.comp_def]

theorem reads_plain (h : Plain arg) : Reads specs true [arg] [.other arg] := by
  intro rest
  have hl : ¬ looksLikeOption arg = true := Bool.eq_false_iff.1 h
  rw [List.singleton_append, words?, if_neg h.ne_dashes, if_neg hl, if_pos rfl]
  cases words? specs true rest <;> rfl

theorem reads_flag (spec : OptionSpec) (hl : looksLikeOption arg = true) (hne : arg ≠ "--")
    (ho : option? specs arg = some (spec, none)) (ht : spec.takesValue = false) :
    Reads specs all [arg] [.option spec.long none] := by
  intro rest
  rw [List.singleton_append, words?, if_neg hne, if_pos hl, ho]
  simp only [Option.bind_eq_bind, Option.bind_some, ht, Bool.false_eq_true, if_false,
    Option.isSome_none]
  cases words? specs all rest <;> rfl

theorem reads_attached (hl : looksLikeOption arg = true) (hne : arg ≠ "--")
    (ho : option? specs arg = some (spec, some value)) (ht : spec.takesValue = true) :
    Reads specs all [arg] [.option spec.long (some value)] := by
  intro rest
  rw [List.singleton_append, words?, if_neg hne, if_pos hl, ho]
  simp only [Option.bind_eq_bind, Option.bind_some, ht, if_true]
  cases words? specs all rest <;> rfl

theorem reads_value (spec : OptionSpec) (hl : looksLikeOption arg = true) (hne : arg ≠ "--")
    (ho : option? specs arg = some (spec, none)) (ht : spec.takesValue = true)
    (hv : Plain value) : Reads specs all [arg, value] [.option spec.long (some value)] := by
  intro rest
  have hv' : ¬ looksLikeOption value = true := Bool.eq_false_iff.1 hv
  rw [List.cons_append, List.singleton_append, words?, if_neg hne, if_pos hl, ho]
  simp only [Option.bind_eq_bind, Option.bind_some, ht, if_true, if_neg hv']
  cases words? specs all rest <;> rfl

end Reads

/-! ### Options for all commands -/

/-- Arguments that are options for all commands, and the words that they are read as. -/
inductive Flags : List String → List Word → Prop where
  | nil : Flags [] []
  | config {path : String} {args : List String} {ws : List Word} (plain : Plain path)
      (h : Flags args ws) :
      Flags (["--config", path] ++ args) ([.option "config" (some path)] ++ ws)
  | configAttached {path : String} {args : List String} {ws : List Word} (h : Flags args ws) :
      Flags (["--config=" ++ path] ++ args) ([.option "config" (some path)] ++ ws)
  | shortConfig {path : String} {args : List String} {ws : List Word} (plain : Plain path)
      (h : Flags args ws) : Flags (["-c", path] ++ args) ([.option "config" (some path)] ++ ws)
  | json {args : List String} {ws : List Word} (h : Flags args ws) :
      Flags (["--json"] ++ args) ([.option "json" none] ++ ws)

theorem option?_configAttached (more : List OptionSpec) (path : String) :
    option? (globalOptions ++ more) ("--config=" ++ path) =
      some (⟨"config", some 'c', true⟩, some path) := by
  have hl : ("--config=" ++ path).toList = "--config=".toList ++ path.toList := String.toList_append
  unfold option?
  rw [hl]
  show some (_, some (String.ofList path.toList)) = _
  rw [String.ofList_toList]

theorem Flags.reads {args : List String} {ws : List Word} (h : Flags args ws)
    (more : List OptionSpec) (all : Bool) : Reads (globalOptions ++ more) all args ws := by
  induction h with
  | nil => exact .nil _ _
  | config plain _ ih =>
    exact (reads_value ⟨"config", some 'c', true⟩ (by decide +kernel) (by decide) rfl rfl
      plain).append ih
  | @configAttached path _ _ _ ih =>
    have hl : looksLikeOption ("--config=" ++ path) = true :=
      looksLikeOption_of_dashes ("config=".toList ++ path.toList) String.toList_append
    refine (reads_attached hl ?_ (option?_configAttached more path) rfl).append ih
    intro he
    have hs := congrArg String.toList he
    simp at hs
  | shortConfig plain _ ih =>
    exact (reads_value ⟨"config", some 'c', true⟩ (by decide +kernel) (by decide) rfl rfl
      plain).append ih
  | json _ ih =>
    exact (reads_flag ⟨"json", none, false⟩ (by decide +kernel) (by decide) rfl rfl).append ih

/-- Options for all commands give no other options and no other arguments. -/
theorem Flags.forall_mem {args : List String} {ws : List Word} (h : Flags args ws) :
    ∀ w ∈ ws, (∃ path, w = .option "config" (some path)) ∨ w = .option "json" none := by
  induction h with
  | nil => exact List.forall_mem_nil _
  | config _ _ ih | configAttached _ ih | shortConfig _ _ ih =>
    rw [List.singleton_append, List.forall_mem_cons]
    exact ⟨.inl ⟨_, rfl⟩, ih⟩
  | json _ ih =>
    rw [List.singleton_append, List.forall_mem_cons]
    exact ⟨.inr rfl, ih⟩

/-! ### Words one after the other -/

theorem others_append (ws bw : List Word) : others (ws ++ bw) = others ws ++ others bw :=
  List.filterMap_append

theorem values_append (long : String) (ws bw : List Word) :
    values long (ws ++ bw) = values long ws ++ values long bw :=
  List.filterMap_append

theorem occurrences_append (long : String) (ws bw : List Word) :
    occurrences long (ws ++ bw) = occurrences long ws + occurrences long bw :=
  List.countP_append

/-- Words that do not give an option do not count for it, in front of others. -/
theorem single?_append {long : String} {ws bw : List Word} (ho : occurrences long ws = 0)
    (hv : values long ws = []) : single? long (ws ++ bw) = single? long bw := by
  rw [single?, single?, occurrences_append, values_append, ho, hv, Nat.zero_add, List.nil_append]

/-- Words that do not give an option do not count for it, behind others. -/
theorem single?_append_of_back {long : String} {ws bw : List Word} (ho : occurrences long bw = 0)
    (hv : values long bw = []) : single? long (ws ++ bw) = single? long ws := by
  rw [single?, single?, occurrences_append, values_append, ho, hv, Nat.add_zero, List.append_nil]

theorem flag?_append {long : String} {ws bw : List Word} (ho : occurrences long ws = 0) :
    flag? long (ws ++ bw) = flag? long bw := by
  rw [flag?, flag?, occurrences_append, ho, Nat.zero_add]

namespace Flags

variable {args : List String} {bw : List Word} {long : String}

theorem others_eq_nil (h : Flags args bw) : others bw = [] := by
  refine List.filterMap_eq_nil_iff.2 fun w hw => ?_
  rcases h.forall_mem w hw with ⟨path, rfl⟩ | rfl <;> rfl

theorem values_eq_nil (h : Flags args bw) (hc : long ≠ "config") (hj : long ≠ "json") :
    values long bw = [] := by
  refine List.filterMap_eq_nil_iff.2 fun w hw => ?_
  rcases h.forall_mem w hw with ⟨path, rfl⟩ | rfl
  · exact if_neg hc.symm
  · exact if_neg hj.symm

theorem occurrences_eq_zero (h : Flags args bw) (hc : long ≠ "config") (hj : long ≠ "json") :
    occurrences long bw = 0 := by
  refine List.countP_eq_zero.2 fun w hw => ?_
  rcases h.forall_mem w hw with ⟨path, rfl⟩ | rfl
  · simpa using hc.symm
  · simpa using hj.symm

/-- Options for all commands say nothing about the command. -/
theorem ofWords?_append (h : Flags args bw) (name : String) (ws : List Word) :
    ofWords? name (ws ++ bw) = ofWords? name ws := by
  have hv : values "schema-dir" bw = [] := h.values_eq_nil (by decide) (by decide)
  have hn : single? "name" (ws ++ bw) = single? "name" ws :=
    single?_append_of_back (h.occurrences_eq_zero (by decide) (by decide))
      (h.values_eq_nil (by decide) (by decide))
  rw [ofWords?, ofWords?, others_append, h.others_eq_nil, List.append_nil, hn, values_append, hv,
    List.append_nil]

end Flags

/-! ### Options on both sides -/

/-- What the options on both sides of the name of a command come to: the settings file, and whether
reports are printed as documents. -/
def settings? (front back : List Word) : Option (Option String × Bool) := do
  let frontConfig ← single? "config" front
  let frontJson ← flag? "json" front
  let config ← single? "config" back
  let json ← flag? "json" back
  some (config.or frontConfig, json || frontJson)

end Command

namespace Request

open Command

variable {front back : List String} {fw bw : List Word}

/-- A command line that asks for a validation, with options for all commands on both sides. -/
theorem ofArguments?_validate (hf : Flags front fw) (hb : Flags back bw) {args : List String}
    {ws : List Word} (hr : Reads (optionsOf "validate") true args ws)
    (hc : occurrences "config" ws = 0) (hv : values "config" ws = [])
    (hj : occurrences "json" ws = 0) {command : Command}
    (hw : ofWords? "validate" ws = some command) :
    ofArguments? (front ++ ("validate" :: (args ++ back))) =
      (settings? fw bw).map fun s => ⟨s.1, s.2, command⟩ := by
  have hfront : words? globalOptions false (front ++ ("validate" :: (args ++ back))) =
      some (fw, "validate" :: (args ++ back)) := by
    have hplain : looksLikeOption "validate" = false := by decide +kernel
    have hname : words? globalOptions false ("validate" :: (args ++ back)) =
        some ([], "validate" :: (args ++ back)) := by
      rw [words?, if_neg (by decide), hplain, if_neg Bool.false_ne_true, if_neg Bool.false_ne_true]
    have hreads := hf.reads [] false ("validate" :: (args ++ back))
    rw [List.append_nil, hname] at hreads
    rw [hreads, Option.map_some, List.append_nil]
  have hback : words? (optionsOf "validate") true (args ++ back) = some (ws ++ bw, []) := by
    have hreads := hr.append (hb.reads validateOptions true) []
    rw [List.append_nil] at hreads
    rw [hreads, words?, Option.map_some, List.append_nil]
  rw [ofArguments?, hfront, settings?]
  simp only [Option.bind_eq_bind, Option.bind_some, hback, single?_append hc hv, flag?_append hj,
    hb.ofWords?_append, hw]
  cases single? "config" fw <;> cases flag? "json" fw <;> cases single? "config" bw <;>
    cases flag? "json" bw <;> rfl

/-- The request of a command line that gives the name of a schema and the directory with it. -/
theorem ofArguments?_byName (hf : Flags front fw) (hb : Flags back bw) {name dir value : String}
    (hn : Plain name) (hd : Plain dir) (hv : Plain value) (hdne : dir ≠ "") (hvne : value ≠ "") :
    ofArguments? (front ++ ("validate" ::
        (["--name", name, "--schema-dir", dir, value] ++ back))) =
      (settings? fw bw).map fun s => ⟨s.1, s.2, .validate [value] (some name) [dir]⟩ := by
  have hr : Reads (optionsOf "validate") true
      (["--name", name] ++ (["--schema-dir", dir] ++ [value]))
      [.option "name" (some name), .option "schema-dir" (some dir), .other value] :=
    (reads_value ⟨"name", some 'n', true⟩ (by decide +kernel) (by decide) rfl rfl hn).append
      ((reads_value ⟨"schema-dir", some 'd', true⟩ (by decide +kernel) (by decide) rfl rfl
        hd).append (reads_plain hv))
  refine ofArguments?_validate hf hb hr rfl rfl rfl ?_
  simp [ofWords?, others, values, single?, occurrences, paths?, hdne, hvne]

/-- The request of a command line that gives the file of a schema. -/
theorem ofArguments?_byFile (hf : Flags front fw) (hb : Flags back bw) {schema value : String}
    (hs : Plain schema) (hv : Plain value) (hsne : schema ≠ "") (hvne : value ≠ "") :
    ofArguments? (front ++ ("validate" :: ([schema, value] ++ back))) =
      (settings? fw bw).map fun s => ⟨s.1, s.2, .validate [schema, value] none []⟩ := by
  have hr : Reads (optionsOf "validate") true ([schema] ++ [value])
      [.other schema, .other value] :=
    (reads_plain hs).append (reads_plain hv)
  refine ofArguments?_validate hf hb hr rfl rfl rfl ?_
  simp [ofWords?, others, values, single?, occurrences, paths?, hsne, hvne]

end Request

end ShapeCheck
