import Mathlib
import ShapeCheck.Proofs.CaseMapping
import ShapeCheck.Proofs.Reordering
import ShapeCheck.Settings.Source

/-!
# Layers laid over one another

What there is after layers have been laid over one another, place by place.  A place is an entry of
one of the tables that settings are read from.

* `Setting.wanted?`: what is read at a place;
* `Layer.WellTyped`: at the places a layer speaks of there is what is read there;
* `Setting.Laid`: the shape of everything that well-typed layers come to;
* `Layer.value?`: what a layer given of a place;
* `merged?_of_wellTyped`: well-typed layers come to something, in which every place has the value
  that the last layer gives it.

One entry is a step (`Entry.store`), a layer is a run of them (`WellTyped.overlay`), and all layers
are a run of layers (`overlays`).
-/

namespace ShapeCheck

open Unicode (lowerCase)

/-- Where no name stands twice, what is taken from the entries of one name alone is taken from the
entry that a look-up finds. -/
theorem flatMap_eq_of_nodup {α β : Type} {entries : List (String × α)} (name : String)
    {f : String × α → List β} (hd : (entries.map Prod.fst).Nodup)
    (hf : ∀ entry ∈ entries, entry.1 ≠ name → f entry = []) :
    entries.flatMap f = ((entries.lookup name).map fun a => f (name, a)).getD [] := by
  induction entries with
  | nil => rfl
  | cons entry rest ih =>
    obtain ⟨other, a⟩ := entry
    rw [List.map_cons, List.nodup_cons] at hd
    have hrest := ih hd.2 fun entry he => hf entry (List.mem_cons_of_mem _ he)
    rw [List.flatMap_cons, lookup_entry]
    by_cases h : other = name
    · subst h
      have hnone : rest.lookup other = none :=
        List.lookup_eq_none_iff.2 fun entry he => bne_iff_ne.2 fun e =>
          hd.1 (List.mem_map.2 ⟨entry, he, e.symm⟩)
      rw [hrest, hnone, if_pos rfl]
      exact List.append_nil _
    · rw [hf _ List.mem_cons_self h, List.nil_append, hrest, if_neg (Ne.symm h)]

/-! ### Names in paths -/

namespace KeyPath

theorem toNat_lt_of_isNameChar {c : Char} (h : isNameChar c = true) : c.toNat < 128 := by
  simp only [isNameChar, Bool.or_eq_true, decide_eq_true_eq] at h
  rcases h with ((h | rfl) | rfl) | rfl
  · simp only [Char.isAlphanum, Char.isAlpha, Char.isUpper, Char.isLower, Char.isDigit,
      Bool.or_eq_true, Bool.and_eq_true, decide_eq_true_eq, UInt32.le_iff_toNat_le] at h
    have h₁ : c.toNat = c.val.toNat := rfl
    have h₂ : 'z'.val.toNat = 122 := rfl
    have h₃ : 'Z'.val.toNat = 90 := rfl
    have h₄ : '9'.val.toNat = 57 := rfl
    omega
  all_goals decide

theorem isNameChar_toLower {c : Char} (h : isNameChar c = true) : isNameChar c.toLower = true :=
  Unicode.forall_ascii (P := fun c => isNameChar c = true → isNameChar c.toLower = true)
    (by decide +kernel) (toNat_lt_of_isNameChar h) h

theorem name?_append {cs : List Char} (hne : cs ≠ []) (h : ∀ c ∈ cs, isNameChar c = true)
    (rest : List Char) (hr : ∀ c ∈ rest.head?, isNameChar c = false) :
    name? (cs ++ rest) = some (String.ofList cs, rest) := by
  obtain ⟨ht, hd⟩ := Text.span_append h rest hr
  rw [name?, ht, hd, if_neg (by simpa using hne)]

/-- A name of characters for names is the path to the entry of that name. -/
theorem ofText_of_isNameChar {s : String} (hne : s.toList ≠ [])
    (h : ∀ c ∈ s.toList, isNameChar c = true) : ofText s = ⟨s, []⟩ := by
  have hn := name?_append hne h [] nofun
  rw [List.append_nil] at hn
  rw [ofText, ofText?, hn]
  simp [steps?, String.ofList_toList]

/-- Two names with a dot between them are the path to an entry of a table. -/
theorem ofText_dot {s t : String} (hne : s.toList ≠ []) (h : ∀ c ∈ s.toList, isNameChar c = true)
    (hne' : t.toList ≠ []) (h' : ∀ c ∈ t.toList, isNameChar c = true) :
    ofText (s ++ "." ++ t) = ⟨s, [.entry t]⟩ := by
  have hdot : (s ++ "." ++ t).toList = s.toList ++ '.' :: t.toList := by simp
  have hs := name?_append hne h ('.' :: t.toList) (by simp; decide)
  have ht := name?_append hne' h' [] nofun
  rw [List.append_nil] at ht
  rw [ofText, ofText?, hdot, hs]
  simp [steps?, ht, String.ofList_toList]

/-- A name with steps behind it is made of characters for names. -/
theorem first_of_steps {s : String} (h : (ofText s).steps ≠ []) :
    (ofText s).first.toList ≠ [] ∧ ∀ c ∈ (ofText s).first.toList, isNameChar c = true := by
  cases hp : ofText? s with
  | none => simp [ofText, hp] at h
  | some path =>
    have he : ofText s = path := by rw [ofText, hp, Option.getD_some]
    rw [he]
    simp only [ofText?, Option.bind_eq_bind, Option.bind_eq_some_iff] at hp
    obtain ⟨⟨first, rest⟩, hn, steps, -, hs⟩ := hp
    obtain rfl := Option.some.inj hs
    rw [name?] at hn
    split at hn
    · cases hn
    · rename_i hne
      simp only [Option.some.injEq, Prod.mk.injEq] at hn
      obtain ⟨rfl, -⟩ := hn
      rw [String.toList_ofList]
      exact ⟨by simpa using hne, fun c hc => List.mem_takeWhile_imp hc⟩

theorem eq_nil_of_steps?_eq_nil {fuel : Nat} {cs : List Char} (h : steps? fuel cs = some []) :
    cs = [] := by
  cases fuel with
  | zero => cases h
  | succ fuel =>
    unfold steps? at h
    split at h
    · rfl
    · simp [Option.bind_eq_some_iff] at h
    · simp [Option.bind_eq_some_iff] at h
    · cases h

/-- A path without steps is all of its text. -/
theorem first_of_no_steps {s : String} (h : (ofText s).steps = []) : (ofText s).first = s := by
  cases hp : ofText? s with
  | none => rw [ofText, hp, Option.getD_none]
  | some path =>
    have he : ofText s = path := by rw [ofText, hp, Option.getD_some]
    rw [he] at h ⊢
    simp only [ofText?, Option.bind_eq_bind, Option.bind_eq_some_iff] at hp
    obtain ⟨⟨first, rest⟩, hn, steps, hr, hs⟩ := hp
    obtain rfl := Option.some.inj hs
    obtain rfl : steps = [] := h
    have hnil : rest = [] := eq_nil_of_steps?_eq_nil hr
    rw [name?] at hn
    split at hn
    · cases hn
    · simp only [Option.some.injEq, Prod.mk.injEq] at hn
      obtain ⟨rfl, hdrop⟩ := hn
      rw [hnil, List.dropWhile_eq_nil_iff, ← List.takeWhile_eq_self_iff] at hdrop
      rw [hdrop, String.ofList_toList]

theorem ofText_lowerCase_first {s : String} (h : (ofText s).steps ≠ []) :
    ofText (lowerCase (ofText s).first) = ⟨lowerCase (ofText s).first, []⟩ := by
  obtain ⟨hne, hc⟩ := first_of_steps h
  rw [Unicode.lowerCase_ascii fun c h => toNat_lt_of_isNameChar (hc c h)]
  refine ofText_of_isNameChar ?_ ?_
  · simpa using hne
  · rw [String.toList_ofList]
    exact List.forall_mem_map.2 fun c h => isNameChar_toLower (hc c h)

end KeyPath

namespace Setting

/-! ### Places -/

/-- What is read at a place: a flag, a list of texts, or a text. -/
inductive Wanted where
  | flag
  | texts
  | text
  deriving DecidableEq, Repr

/-- The tables with places. -/
def partNames : List String := ["validation", "store", "formats"]

/-- What is read at an entry of a table, if anything. -/
def wanted? (part name : String) : Option Wanted :=
  if part = "validation" ∧ (name = "check_schema" ∨ name = "reject_unsupported_keywords") then
    some .flag
  else if part = "store" ∧ name = "schema_dirs" then some .texts
  else if part = "formats" then some .text
  else none

/-- Whether a value can be read as what is wanted. -/
def Wanted.Reads : Wanted → Setting → Prop
  | flag, v => v.truth?.isSome
  | texts, v => (Settings.texts? v).isSome
  | text, v => v.text?.isSome

/-- Whether a value can stand at an entry of a table. -/
def Fits (part name : String) (v : Setting) : Prop := ∀ k, wanted? part name = some k → k.Reads v

theorem mem_partNames_of_wanted? {part name : String} (h : (wanted? part name).isSome) :
    part ∈ partNames := by
  unfold wanted? at h
  split at h
  · rename_i hp
    simp [partNames, hp.1]
  · split at h
    · rename_i hp
      simp [partNames, hp.1]
    · split at h
      · rename_i hp
        simp [partNames, hp]
      · cases h

theorem ne_table_of_reads {k : Wanted} {v : Setting} (h : k.Reads v)
    (entries : List (String × Setting)) : v ≠ table entries := by
  rintro rfl
  cases k <;> cases h

theorem fits_of_reads {part name : String} {k : Wanted} (hk : wanted? part name = some k)
    {v : Setting} (h : k.Reads v) : Fits part name v := by
  intro k' hk'
  obtain rfl := Option.some.inj (hk.symm.trans hk')
  exact h

@[simp] theorem wanted?_formats (name : String) : wanted? "formats" name = some .text := by
  simp [wanted?]

/-- Where a table can stand, anything can. -/
theorem fits_of_fits_table {part name : String} {entries : List (String × Setting)}
    (h : Fits part name (table entries)) (v : Setting) : Fits part name v :=
  fun k hk => absurd rfl (ne_table_of_reads (h k hk) entries)

/-- The value of an entry of a table. -/
def at? (part name : String) (v : Setting) : Option Setting :=
  ((v.entries.lookup part).getD empty).entries.lookup name

theorem at?_of_none {part : String} {v : Setting} (h : v.entries.lookup part = none)
    (name : String) : v.at? part name = none := by
  rw [at?, h]
  rfl

theorem at?_of_some {part : String} {v t : Setting} (h : v.entries.lookup part = some t)
    (name : String) : v.at? part name = t.entries.lookup name := by
  rw [at?, h, Option.getD_some]

/-- The value at an entry of a table after a new table has been put somewhere. -/
theorem at?_put (part name other : String) (t : Setting) (entries : List (String × Setting)) :
    (table (put other t entries)).at? part name =
      if part = other then t.entries.lookup name else (table entries).at? part name := by
  rw [at?, Setting.entries, lookup_put]
  split
  · rfl
  · rfl

/-! ### One table -/

/-- The values of those entries whose name is, in lower case, the given one. -/
def named (name : String) (entries : List (String × Setting)) : List Setting :=
  entries.filterMap fun entry => if lowerCase entry.1 = name then some entry.2 else none

/-- The shape of a table with places: its names are in lower case, none stands twice, and every
value can stand where it does. -/
structure Part (part : String) (v : Setting) : Prop where
  isTable : v = table v.entries
  nodup : (v.entries.map Prod.fst).Nodup
  lower : ∀ entry ∈ v.entries, lowerCase entry.1 = entry.1
  fits : ∀ entry ∈ v.entries, Fits part entry.1 entry.2

namespace Part

variable {part name : String} {t v : Setting}

theorem empty (part : String) : Part part .empty := ⟨rfl, List.nodup_nil, nofun, nofun⟩

theorem put_entry (ht : Part part t) (hv : Fits part (lowerCase name) v) :
    Part part (table (put (lowerCase name) v t.entries)) where
  isTable := rfl
  nodup := nodup_put ht.nodup
  lower entry he := (mem_of_mem_put he).elim (fun h => by simp [h]) (ht.lower entry)
  fits entry he := (mem_of_mem_put he).elim (fun h => h ▸ hv) (ht.fits entry)

/-- What a named value laid over a table changes. -/
theorem assign (ht : Part part t) (hv : Fits part (lowerCase name) v) :
    Part part (assign name v t) ∧ ∀ key, (wanted? part key).isSome →
      (Setting.assign name v t).entries.lookup key =
        (named key [(name, v)]).getLast?.or (t.entries.lookup key) := by
  -- a table is merged into what was there before, but no table stands at a place
  obtain ⟨w, hw, hfits, hplain⟩ : ∃ w, Setting.assign name v t =
      table (put (lowerCase name) w t.entries) ∧ Fits part (lowerCase name) w ∧
        ((wanted? part (lowerCase name)).isSome → w = v) := by
    cases v with
    | table incoming =>
      refine ⟨_, by rw [Setting.assign], fits_of_fits_table hv _, fun hk => ?_⟩
      obtain ⟨k, hk⟩ := Option.isSome_iff_exists.1 hk
      exact absurd rfl (ne_table_of_reads (hv k hk) incoming)
    | _ => exact ⟨_, by rw [Setting.assign]; exact nofun, hv, fun _ => rfl⟩
  refine ⟨hw ▸ ht.put_entry hfits, fun key hk => ?_⟩
  rw [hw, entries, lookup_put]
  by_cases h : key = lowerCase name
  · subst h
    simp [named, hplain hk]
  · simp [named, h, Ne.symm h]

/-- What named values laid over a table one after the other change. -/
theorem assignAll (ht : Part part t) {incoming : List (String × Setting)}
    (hi : ∀ entry ∈ incoming, Fits part (lowerCase entry.1) entry.2) :
    Part part (assignAll incoming t) ∧ ∀ key, (wanted? part key).isSome →
      (Setting.assignAll incoming t).entries.lookup key =
        (named key incoming).getLast?.or (t.entries.lookup key) := by
  induction incoming generalizing t with
  | nil => exact ⟨by rwa [Setting.assignAll], fun key _ => by simp [Setting.assignAll, named]⟩
  | cons entry rest ih =>
    obtain ⟨name, v⟩ := entry
    obtain ⟨hp, hl⟩ := ht.assign (hi _ List.mem_cons_self)
    obtain ⟨hp', hl'⟩ := ih hp fun entry he => hi entry (List.mem_cons_of_mem _ he)
    rw [Setting.assignAll]
    refine ⟨hp', fun key hk => ?_⟩
    have happ : named key ((name, v) :: rest) = named key [(name, v)] ++ named key rest := by
      simp only [named, ← List.filterMap_append, List.singleton_append]
    rw [hl' key hk, hl key hk, happ, List.getLast?_append, Option.or_assoc]

/-- A name of a table with places is there once. -/
theorem named_entries (ht : Part part t) (name : String) :
    named name t.entries = (t.entries.lookup name).toList := by
  rw [named, List.filterMap_eq_flatMap_toList, flatMap_eq_of_nodup name ht.nodup]
  · cases h : t.entries.lookup name with
    | none => rfl
    | some v => simp [ht.lower _ (mem_of_lookup h)]
  · intro entry he hne
    rw [ht.lower entry he, if_neg hne]
    rfl

end Part

/-! ### All tables -/

/-- A name at the top that is no table with places, and does not become one when it is taken for a
path. -/
structure Foreign (name : String) : Prop where
  lower : lowerCase name = name
  first : lowerCase (KeyPath.ofText name).first ∉ partNames
  steps : ∀ step ∈ (KeyPath.ofText name).steps, ∃ name, step = .entry name

/-- The shape of what layers come to: no name stands twice, and the tables with places have their
shape. -/
structure Laid (v : Setting) : Prop where
  isTable : v = table v.entries
  nodup : (v.entries.map Prod.fst).Nodup
  entry : ∀ e ∈ v.entries, e.1 ∈ partNames ∧ Part e.1 e.2 ∨ Foreign e.1

theorem ofText_of_mem_partNames {name : String} (h : name ∈ partNames) :
    KeyPath.ofText name = ⟨name, []⟩ ∧ lowerCase name = name := by
  have hall : ∀ name ∈ partNames, name.toList ≠ [] ∧
      name.toList.all KeyPath.isNameChar = true ∧
        name.toList.all (fun c => Unicode.IsLower c) = true := by decide +kernel
  obtain ⟨hne, hn, hl⟩ := hall name h
  exact ⟨KeyPath.ofText_of_isNameChar hne (List.all_eq_true.1 hn),
    Unicode.lowerCase_of_isLower (List.all_iff_forall_prop.1 hl)⟩

theorem Foreign.not_mem {name : String} (h : Foreign name) : name ∉ partNames := by
  intro hm
  obtain ⟨hp, hl⟩ := ofText_of_mem_partNames hm
  have hf := h.first
  rw [hp, hl] at hf
  exact hf hm

/-- In front of steps, a name that is no table with places is foreign. -/
theorem foreign_of_steps {path first : String} {step : Step} {steps : List Step}
    (hpath : KeyPath.ofText path = ⟨first, step :: steps⟩) (h : lowerCase first ∉ partNames) :
    Foreign (lowerCase first) := by
  have hp := KeyPath.ofText_lowerCase_first (s := path) (by simp [hpath])
  rw [hpath] at hp
  exact ⟨Unicode.lowerCase_lowerCase _, by rwa [hp, Unicode.lowerCase_lowerCase], by
    rw [hp]
    exact nofun⟩

namespace Laid

variable {part name : String} {t v : Setting}

theorem empty : Laid .empty := ⟨rfl, List.nodup_nil, nofun⟩

theorem part_getD (hv : Laid v) (h : part ∈ partNames) :
    Part part ((v.entries.lookup part).getD .empty) := by
  cases hl : v.entries.lookup part with
  | none => exact .empty part
  | some t => exact ((hv.entry _ (mem_of_lookup hl)).resolve_right fun hf => hf.not_mem h).2

theorem put_part (hv : Laid v) (ht : name ∈ partNames ∧ Part name t ∨ Foreign name) :
    Laid (table (put name t v.entries)) where
  isTable := rfl
  nodup := nodup_put hv.nodup
  entry e he := (mem_of_mem_put he).elim (fun h => h ▸ ht) (hv.entry e)

end Laid

end Setting

/-! ### Layers -/

namespace Layer

open Setting

/-- The values that an entry of a layer given an entry of a table has. -/
def said (part name : String) (entry : String × Setting) : List Setting :=
  let path := KeyPath.ofText entry.1
  if lowerCase path.first = part then
    match path.steps with
    | [] => named name entry.2.entries
    | [.entry last] => named name [(last, entry.2)]
    | _ => []
  else []

/-- What a layer given of an entry of a table. -/
def value? (part name : String) (layer : Layer) : Option Setting :=
  (layer.flatMap (said part name)).getLast?

/-- An entry of a layer that is well-typed: a table with places, the value at one entry of a table,
or something that settings are not read from. -/
inductive Entry : String × Setting → Prop where
  | part {path first : String} {entries : List (String × Setting)}
      (hpath : KeyPath.ofText path = ⟨first, []⟩) (hpart : lowerCase first ∈ partNames)
      (hfits : ∀ e ∈ entries, Fits (lowerCase first) (lowerCase e.1) e.2) :
      Entry (path, .table entries)
  | value {path first name : String} {v : Setting}
      (hpath : KeyPath.ofText path = ⟨first, [.entry name]⟩)
      (hfits : Fits (lowerCase first) (lowerCase name) v) : Entry (path, v)
  | below {path first name : String} {steps : List Step} {v : Setting}
      (hpath : KeyPath.ofText path = ⟨first, .entry name :: steps⟩)
      (hsteps : ∀ step ∈ steps, ∃ name, step = .entry name)
      (hwanted : wanted? (lowerCase first) (lowerCase name) = none) : Entry (path, v)
  | foreign {path first : String} {v : Setting} (hpath : KeyPath.ofText path = ⟨first, []⟩)
      (hforeign : Foreign (lowerCase first)) : Entry (path, v)

/-- A table is well-typed if its values fit. -/
theorem Entry.of_part {part : String} {entries : List (String × Setting)} (hp : part ∈ partNames)
    (h : ∀ e ∈ entries, Fits part (lowerCase e.1) e.2) : Entry (part, .table entries) := by
  obtain ⟨hpath, hl⟩ := ofText_of_mem_partNames hp
  exact .part hpath (by rwa [hl]) (by rwa [hl])

/-- Every entry of a layer is well-typed. -/
def WellTyped (layer : Layer) : Prop := ∀ entry ∈ layer, Entry entry

end Layer

namespace Setting

/-- A value is put where names lead, whatever was there before. -/
theorem storeAt?_entry (name : String) {steps : List Step} (v here : Setting)
    (hs : ∀ step ∈ steps, ∃ name, step = .entry name) :
    ∃ w, storeAt? v (.entry name :: steps) here =
      some (table (put (lowerCase name) w here.entries)) := by
  induction steps generalizing name here with
  | nil =>
    rw [storeAt?]
    cases v with
    | table incoming => exact ⟨_, by rw [assign]⟩
    | _ => exact ⟨_, by rw [assign]; exact nofun⟩
  | cons step rest ih =>
    obtain ⟨next, rfl⟩ := hs _ List.mem_cons_self
    obtain ⟨w, hw⟩ := ih next ((here.entries.lookup (lowerCase name)).getD null)
      fun step h => hs step (List.mem_cons_of_mem _ h)
    rw [storeAt?, hw]
    · exact ⟨_, rfl⟩
    · exact nofun

/-- Only the entries of what was there before matter. -/
theorem assign_table_entries (name : String) (v here : Setting) :
    assign name v (table here.entries) = assign name v here := by
  cases v with
  | table incoming => rw [assign, assign, entries]
  | _ => rw [assign, assign, entries] <;> exact nofun

theorem entries_getD_null (o : Option Setting) :
    (o.getD null).entries = (o.getD empty).entries := by
  cases o <;> rfl

/-- What has been laid over a value is at the places it speaks of, and elsewhere nothing has
changed. -/
structure Becomes (v : Setting) (given : String → String → Option Setting) (v' : Setting) :
    Prop where
  laid : Laid v'
  at_eq : ∀ part name, (wanted? part name).isSome →
    v'.at? part name = (given part name).or (v.at? part name)

theorem Becomes.trans {v v' v'' : Setting} {f g : String → String → Option Setting}
    (h : Becomes v f v') (h' : Becomes v' g v'') :
    Becomes v (fun part name => (g part name).or (f part name)) v'' :=
  ⟨h'.laid, fun part name hk => by
    rw [h'.at_eq part name hk, h.at_eq part name hk, Option.or_assoc]⟩

theorem Laid.becomes_put {v t : Setting} {first : String} {given : String → String → Option Setting}
    (hv : Laid v) (ht : first ∈ partNames → Part first t) (hf : first ∉ partNames → Foreign first)
    (hfirst : first ∈ partNames → ∀ name, (wanted? first name).isSome →
      t.entries.lookup name = (given first name).or (v.at? first name))
    (hother : ∀ part name, part ≠ first → given part name = none) :
    Becomes v given (table (put first t v.entries)) := by
  have hself : v = table v.entries := hv.isTable
  refine ⟨hv.put_part ?_, fun part name hk => ?_⟩
  · by_cases hp : first ∈ partNames
    · exact .inl ⟨hp, ht hp⟩
    · exact .inr (hf hp)
  · rw [at?_put, ← hself]
    by_cases h : part = first
    · subst h
      rw [if_pos rfl, hfirst (mem_partNames_of_wanted? hk) name hk]
    · rw [if_neg h, hother part name h, Option.none_or]

end Setting

namespace Layer

open Setting

variable {v : Setting}

theorem said_of_ne {part name : String} {entry : String × Setting}
    (h : part ≠ lowerCase (KeyPath.ofText entry.1).first) :
    (said part name entry).getLast? = none := by
  rw [said, if_neg (Ne.symm h)]
  rfl

theorem said_part {part : String} (hp : part ∈ partNames) (name : String)
    (entries : List (String × Setting)) :
    said part name (part, table entries) = named name entries := by
  obtain ⟨hpath, hl⟩ := ofText_of_mem_partNames hp
  rw [said, hpath, if_pos hl]
  rfl

/-- What a single entry changes. -/
theorem Entry.store {entry : String × Setting} (he : Entry entry) (hv : Laid v) :
    ∃ v', store? (.ofText entry.1) entry.2 v = some v' ∧
      Becomes v (fun part name => (said part name entry).getLast?) v' := by
  cases he with
  | @part path first incoming hpath hpart hfits =>
    have ht := (hv.part_getD hpart).assignAll hfits
    refine ⟨_, by rw [store?, hpath, storeAt?, assign], hv.becomes_put (fun _ => ht.1)
      (fun h => absurd hpart h) (fun _ name hk => ?_)
      fun part name h => said_of_ne (by rwa [hpath])⟩
    rw [ht.2 name hk, said, hpath, if_pos rfl]
    rfl
  | @value path first name w hpath hfits =>
    let t := assign name w ((v.entries.lookup (lowerCase first)).getD .empty)
    have hs : store? (.ofText path) w v = some (table (put (lowerCase first) t v.entries)) := by
      rw [store?, hpath, storeAt?, storeAt?, ← assign_table_entries, entries_getD_null,
        assign_table_entries]
      · rfl
      · exact nofun
    refine ⟨_, hs, hv.becomes_put (fun hp => ((hv.part_getD hp).assign hfits).1)
      (foreign_of_steps hpath) (fun hp key hk => ?_) fun part name h => said_of_ne (by rwa [hpath])⟩
    rw [((hv.part_getD hp).assign hfits).2 key hk, said, hpath, if_pos rfl]
    rfl
  | @below path first name steps w hpath hsteps hwanted =>
    let old := (v.entries.lookup (lowerCase first)).getD .empty
    obtain ⟨u, hu⟩ := storeAt?_entry name w
      ((v.entries.lookup (lowerCase first)).getD null) hsteps
    rw [entries_getD_null] at hu
    let t := table (put (lowerCase name) u old.entries)
    have hs : store? (.ofText path) w v = some (table (put (lowerCase first) t v.entries)) := by
      rw [store?, hpath, storeAt?, hu]
      · rfl
      · exact nofun
    have hfits : Fits (lowerCase first) (lowerCase name) u := fun k hk => by simp [hwanted] at hk
    refine ⟨_, hs, hv.becomes_put (fun hp => (hv.part_getD hp).put_entry hfits)
      (foreign_of_steps hpath) (fun hp key hk => ?_) fun part name h => said_of_ne (by rwa [hpath])⟩
    have hne : lowerCase name ≠ key := by
      rintro rfl
      simp [hwanted] at hk
    have hsaid : said (lowerCase first) key (path, w) = [] := by
      rw [said, hpath, if_pos rfl]
      cases steps <;> simp [named, hne]
    rw [hsaid, entries, lookup_put, if_neg (Ne.symm hne)]
    rfl
  | @foreign path first w hpath hforeign =>
    obtain ⟨u, hu⟩ := storeAt?_entry first w v (List.forall_mem_nil _)
    exact ⟨_, by rw [store?, hpath, hu], hv.becomes_put (fun h => absurd h hforeign.not_mem)
      (fun _ => hforeign) (fun h => absurd h hforeign.not_mem)
      fun part name h => said_of_ne (by rwa [hpath])⟩

/-- What a layer changes. -/
theorem WellTyped.overlay {layer : Layer} (h : WellTyped layer) (hv : Laid v) :
    ∃ v', overlay? v layer = some v' ∧
      Becomes v (fun part name => value? part name layer) v' := by
  induction layer generalizing v with
  | nil => exact ⟨v, rfl, hv, fun _ _ _ => by simp [value?]⟩
  | cons entry rest ih =>
    obtain ⟨v₁, hs, h₁⟩ := (h entry List.mem_cons_self).store hv
    obtain ⟨v₂, ho, h₂⟩ := ih (fun e he => h e (List.mem_cons_of_mem _ he)) h₁.laid
    refine ⟨v₂, ?_, ?_⟩
    · rw [overlay?, List.foldlM_cons]
      change (store? (.ofText entry.1) entry.2 v).bind (overlay? · rest) = _
      rw [hs, Option.bind_some, ho]
    · simpa only [value?, List.flatMap_cons, List.getLast?_append] using h₁.trans h₂

/-- What all layers change. -/
theorem overlays {layers : List Layer} (h : ∀ layer ∈ layers, WellTyped layer) (hv : Laid v) :
    ∃ v', layers.foldlM overlay? v = some v' ∧
      Becomes v (fun part name => (layers.filterMap (value? part name)).getLast?) v' := by
  induction layers generalizing v with
  | nil => exact ⟨v, rfl, hv, fun _ _ _ => by simp⟩
  | cons layer rest ih =>
    obtain ⟨v₁, ho, h₁⟩ := (h layer List.mem_cons_self).overlay hv
    obtain ⟨v₂, hr, h₂⟩ := ih (fun l hl => h l (List.mem_cons_of_mem _ hl)) h₁.laid
    refine ⟨v₂, by rw [List.foldlM_cons, ho]; exact hr, ?_⟩
    have happ (part name : String) : ((layer :: rest).filterMap (value? part name)).getLast? =
        ((rest.filterMap (value? part name)).getLast?).or (value? part name layer) := by
      rw [List.filterMap_cons]
      cases value? part name layer <;> simp [List.getLast?_cons]
    simpa only [happ] using h₁.trans h₂

end Layer

namespace Setting.Laid

open Layer

variable {v : Setting}

/-- What layers come to is a well-typed layer itself. -/
theorem wellTyped_entries (hv : Laid v) : WellTyped v.entries := by
  rintro ⟨name, t⟩ he
  rcases hv.entry _ he with ⟨hn, ht⟩ | hf
  · rw [show t = table t.entries from ht.isTable]
    exact .of_part hn fun e he => by rw [ht.lower e he]; exact ht.fits e he
  · cases hs : (KeyPath.ofText name).steps with
    | nil =>
      have hfirst := KeyPath.first_of_no_steps hs
      have hpath : KeyPath.ofText name = ⟨name, []⟩ := by
        rw [← hs, ← congrArg (KeyPath.mk · _) hfirst]
      exact .foreign hpath (by rwa [hf.lower])
    | cons step rest =>
      have hsteps := hf.steps
      rw [hs] at hsteps
      obtain ⟨next, rfl⟩ := hsteps step List.mem_cons_self
      have hpath : KeyPath.ofText name = ⟨(KeyPath.ofText name).first, .entry next :: rest⟩ := by
        rw [← hs]
      refine .below hpath (fun step h => hsteps step (List.mem_cons_of_mem _ h)) ?_
      rw [← Option.not_isSome_iff_eq_none]
      exact fun h => hf.first (mem_partNames_of_wanted? h)

/-- What layers come to, taken as a layer, gives every place the value it has. -/
theorem value?_entries (hv : Laid v) {part name : String} (h : part ∈ partNames) :
    value? part name v.entries = v.at? part name := by
  rw [value?, flatMap_eq_of_nodup part hv.nodup]
  · rw [at?]
    cases hl : v.entries.lookup part with
    | none => rfl
    | some t =>
      have ht : Part part t :=
        ((hv.entry _ (mem_of_lookup hl)).resolve_right fun hf => hf.not_mem h).2
      have hsaid : said part name (part, t) = (t.entries.lookup name).toList := by
        rw [show (part, t) = (part, table t.entries) by rw [← ht.isTable], said_part h,
          ht.named_entries]
      rw [Option.map_some, Option.getD_some, Option.getD_some, hsaid]
      cases t.entries.lookup name <;> rfl
  · rintro ⟨other, t⟩ he hne
    rw [said, if_neg]
    rcases hv.entry _ he with ⟨hn, -⟩ | hf
    · obtain ⟨hp, hlow⟩ := ofText_of_mem_partNames hn
      rwa [hp, hlow]
    · exact fun e => hf.first (e ▸ h)

theorem fits_of_at? (hv : Laid v) {part name : String} {w : Setting}
    (h : v.at? part name = some w) : Fits part name w := by
  intro k hk
  have hp : part ∈ partNames := mem_partNames_of_wanted? (by rw [hk]; rfl)
  exact (hv.part_getD hp).fits _ (mem_of_lookup h) k hk

end Setting.Laid

/-! ### All sources -/

namespace Layer

open Setting

theorem Entry.fits_of_mem_said {entry : String × Setting} (he : Entry entry) {part name : String}
    {w : Setting} (hw : w ∈ said part name entry) : Fits part name w := by
  rw [said] at hw
  split at hw
  · rename_i hp
    subst hp
    cases he with
    | part hpath _ hfits =>
      rw [hpath] at hw ⊢
      obtain ⟨e, he, hn⟩ := List.mem_filterMap.1 hw
      split at hn
      · rename_i hname
        exact hname ▸ Option.some.inj hn ▸ hfits e he
      · cases hn
    | value hpath hfits =>
      rw [hpath] at hw ⊢
      obtain ⟨e, he, hn⟩ := List.mem_filterMap.1 hw
      obtain rfl := List.mem_singleton.1 he
      split at hn
      · rename_i hname
        exact hname ▸ Option.some.inj hn ▸ hfits
      · cases hn
    | @below _ _ _ steps _ hpath _ hwanted =>
      rw [hpath] at hw ⊢
      cases steps with
      | nil =>
        obtain ⟨e, he, hn⟩ := List.mem_filterMap.1 hw
        obtain rfl := List.mem_singleton.1 he
        split at hn
        · rename_i hname
          exact fun k hk => by simp [← hname, hwanted] at hk
        · cases hn
      | cons => cases hw
    | foreign hpath hforeign =>
      rw [hpath] at hw ⊢
      exact fun k hk => absurd (mem_partNames_of_wanted? (by rw [hk]; rfl)) hforeign.not_mem
  · cases hw

theorem WellTyped.fits {layer : Layer} (h : WellTyped layer) {part name : String} {w : Setting}
    (hw : value? part name layer = some w) : Fits part name w := by
  obtain ⟨entry, he, hs⟩ := List.mem_flatMap.1 (List.mem_of_getLast? hw)
  exact (h entry he).fits_of_mem_said hs

/-- Well-typed layers come to something, in which every place has the value that the last layer
gives it. -/
theorem merged?_of_wellTyped {layers : List Layer} (h : ∀ layer ∈ layers, WellTyped layer) :
    ∃ v, Settings.merged? layers = some v ∧ Laid v ∧ ∀ part name, (wanted? part name).isSome →
      v.at? part name = (layers.filterMap (value? part name)).getLast? := by
  obtain ⟨v, hv, hb⟩ := overlays h Laid.empty
  obtain ⟨v', hv', hb'⟩ := hb.laid.wellTyped_entries.overlay Laid.empty
  refine ⟨v', ?_, hb'.laid, fun part name hk => ?_⟩
  · rw [Settings.merged?, hv]
    exact hv'
  · have hnone : Setting.empty.at? part name = none := rfl
    rw [hb'.at_eq part name hk, hnone, Option.or_none,
      hb.laid.value?_entries (mem_partNames_of_wanted? hk), hb.at_eq part name hk, hnone,
      Option.or_none]

end Layer

end ShapeCheck
