import ShapeCheck.Proofs.CaseMapping
import ShapeCheck.Toml.Writer

/-!
# TOML strings and names read back

A string is written in one of six forms, and a name in one of three.  Each is read back as what was
written, whatever follows it, as long as no quote does.

* `basicBody?_escaped`, `literalBody?_plain`: strings on one line;
* `basicLines?_escaped`, `literalLines?_plain`: strings over several lines, whose last quotes stand
  in front of the closing ones;
* `string?_writtenChars`, `key?_writtenKey`: strings and names.
-/

namespace ShapeCheck.Toml

open Text (push)

/-! ### Characters -/

theorem isPlain_of_not_isControl {c : Char} (h : isControl c = false) (hn : c ≠ '\n') :
    isPlain c = true := by
  simp only [isControl, Bool.or_eq_false_iff, Bool.and_eq_false_iff, decide_eq_false_iff_not,
    ne_eq, decide_not, Bool.not_eq_false', decide_eq_true_eq] at h
  simp only [isPlain, Bool.or_eq_true, Bool.and_eq_true, decide_eq_true_eq]
  obtain ⟨hl, h127⟩ := h
  rcases hl with (hl | rfl) | rfl
  · exact .inr ⟨by omega, by simpa using h127⟩
  · exact .inl rfl
  · exact absurd rfl hn

/-- A control character is read back from its four digits. -/
theorem codePoint?_fourHex {c : Char} (h : isControl c = true) :
    codePoint? (fourHex c.toNat) = some c := by
  have hc : c.toNat < 128 := by
    simp only [isControl, Bool.or_eq_true, Bool.and_eq_true, decide_eq_true_eq] at h
    omega
  exact Unicode.forall_ascii (P := fun c => codePoint? (fourHex c.toNat) = some c)
    (by decide +kernel) hc

/-- What is written for a character starts with a backslash, or is the character itself, which needs
no escape. -/
theorem escapedChar_cases (c : Char) :
    (∃ d, escapedChar c = ['\\', d] ∧ escaped? d = some c ∧ d ∉ ['u', 'U', ' ', '\t', '\n', '\r']) ∨
    (escapedChar c = '\\' :: 'u' :: fourHex c.toNat ∧ isControl c = true) ∨
    (escapedChar c = [c] ∧ isPlain c = true ∧ c ∉ ['"', '\\', '\n', '\r', '\t']) := by
  unfold escapedChar
  split
  · exact .inl ⟨'b', rfl, rfl, by decide⟩
  · exact .inl ⟨'t', rfl, rfl, by decide⟩
  · exact .inl ⟨'n', rfl, rfl, by decide⟩
  · exact .inl ⟨'f', rfl, rfl, by decide⟩
  · exact .inl ⟨'r', rfl, rfl, by decide⟩
  · exact .inl ⟨'"', rfl, rfl, by decide⟩
  · exact .inl ⟨'\\', rfl, rfl, by decide⟩
  · split
    · rename_i h
      exact .inr (.inl ⟨rfl, h⟩)
    · rename_i h
      simp only [Bool.not_eq_true] at h
      refine .inr (.inr ⟨rfl, isPlain_of_not_isControl h (by assumption), ?_⟩)
      simp_all

/-- No character is written with a quote first. -/
theorem head?_escapedChar (c : Char) (rest : List Char) :
    (escapedChar c ++ rest).head? ≠ some '"' := by
  rcases escapedChar_cases c with ⟨d, h, -⟩ | ⟨h, -⟩ | ⟨h, -, hn⟩
  · simp [h]
  · simp [h]
  · rw [h]
    simp only [List.singleton_append, List.head?_cons, ne_eq, Option.some.injEq]
    rintro rfl
    exact hn (by decide)

/-! ### Strings on one line -/

theorem basicBody?_escapedChar (c : Char) (rest : List Char) :
    basicBody? (escapedChar c ++ rest) = push (some c) (basicBody? rest) := by
  rcases escapedChar_cases c with ⟨d, h, hd, hn⟩ | ⟨h, hc⟩ | ⟨h, hp, hn⟩
  · rw [h]
    simp only [List.cons_append, List.nil_append]
    rw [basicBody?, hd]
    · rintro _ _ _ _ _ rfl
      exact absurd hn (by decide)
    · rintro _ _ _ _ _ _ _ _ _ rfl
      exact absurd hn (by decide)
  · rw [h]
    have hhex := codePoint?_fourHex hc
    simp only [fourHex, List.map_cons, List.map_nil, List.cons_append, List.nil_append] at hhex ⊢
    rw [basicBody?, hhex]
  · rw [h, List.singleton_append, basicBody?, plain?, if_pos hp]
    all_goals
      intros
      simp_all

/-- A string between double quotes. -/
theorem basicBody?_escaped (cs rest : List Char) :
    basicBody? (cs.flatMap escapedChar ++ '"' :: rest) = some (cs, rest) := by
  induction cs with
  | nil => rfl
  | cons c cs ih =>
    rw [List.flatMap_cons, List.append_assoc, basicBody?_escapedChar, ih]
    rfl

/-- A string between single quotes. -/
theorem literalBody?_plain {cs : List Char} (h : ∀ c ∈ cs, isPlain c = true ∧ c ≠ '\'')
    (rest : List Char) : literalBody? (cs ++ '\'' :: rest) = some (cs, rest) := by
  induction cs with
  | nil => rfl
  | cons c cs ih =>
    obtain ⟨hp, hq⟩ := h c List.mem_cons_self
    rw [List.cons_append, literalBody?, plain?, if_pos hp,
      ih fun c hc => h c (List.mem_cons_of_mem _ hc)]
    · rfl
    · exact hq

/-! ### Strings over several lines -/

/-- Up to two quotes in front of what follows belong to the string. -/
theorem closing_quotes {quote : Char} {rest : List Char} (h : rest.head? ≠ some quote) {k : Nat}
    (hk : k ≤ 2) :
    closing quote (List.replicate k quote ++ rest) = (List.replicate k quote, rest) := by
  have hrest : ∀ c ∈ rest.head?, c ≠ quote := fun c hc he => h (he ▸ hc)
  obtain rfl | rfl | rfl : k = 0 ∨ k = 1 ∨ k = 2 := by omega
  · cases rest with
    | nil => rfl
    | cons c rest => cases rest <;> simp [closing, hrest c rfl]
  · cases rest with
    | nil => simp [closing]
    | cons c rest => simp [closing, hrest c rfl]
  · simp [closing]

theorem basicLines?_escapedChar (c : Char) (rest : List Char) :
    basicLines? .text (escapedChar c ++ rest) = push (some c) (basicLines? .text rest) := by
  rcases escapedChar_cases c with ⟨d, h, hd, hn⟩ | ⟨h, hc⟩ | ⟨h, hp, hn⟩
  · rw [h]
    simp only [List.cons_append, List.nil_append]
    have hblank : isBlank d = false := by
      simp only [isBlank, Bool.or_eq_false_iff, decide_eq_false_iff_not]
      exact ⟨by rintro rfl; exact hn (by decide), by rintro rfl; exact hn (by decide)⟩
    have hline : d ≠ '\n' := by
      rintro rfl
      exact hn (by decide)
    rw [basicLines?, if_neg nofun, hblank, if_neg Bool.false_ne_true, if_neg hline, hd]
    all_goals
      intros
      subst_vars
      exact absurd hn (by decide)
  · rw [h]
    have hhex := codePoint?_fourHex hc
    simp only [fourHex, List.map_cons, List.map_nil, List.cons_append, List.nil_append] at hhex ⊢
    rw [basicLines?, if_neg nofun, hhex]
  · rw [h, List.singleton_append, basicLines?, if_neg (by simp), if_neg nofun, plain?, if_pos hp]
    all_goals
      intros
      simp_all

theorem basicLines?_quote {rest : List Char} (h : ∀ more, rest ≠ '"' :: '"' :: more) :
    basicLines? .text ('"' :: rest) = push (some '"') (basicLines? .text rest) := by
  rw [basicLines?, if_neg (by simp), if_neg nofun]
  · rfl
  all_goals
    intros
    simp_all

/-- Text over several lines starts with a quote only if the text does, and quotes may be bare. -/
theorem head?_escapedLines {bare : Nat} {c : Char} (h : c ≠ '"' ∨ bare = 0) (cs rest : List Char) :
    (escapedLines bare (c :: cs) ++ rest).head? ≠ some '"' := by
  by_cases hq : c = '"'
  · obtain rfl := hq
    obtain rfl := h.resolve_left (fun h => h rfl)
    simp [escapedLines]
  · by_cases hn : c = '\n'
    · subst hn
      simp [escapedLines]
    · rw [escapedLines, List.append_assoc]
      · exact head?_escapedChar c _
      · exact hq
      · exact hn

/-- Behind a bare quote, two more quotes come only at the end of the text. -/
theorem escapedLines_quotes {bare : Nat} (hb : bare ≤ 1) {cs rest more : List Char}
    (h : escapedLines bare cs ++ '"' :: '"' :: '"' :: rest = '"' :: '"' :: more) :
    ∃ k ≤ 1, cs = List.replicate k '"' ∧ escapedLines bare cs = List.replicate k '"' := by
  cases cs with
  | nil => exact ⟨0, by omega, rfl, rfl⟩
  | cons c cs =>
    have hhead := congrArg List.head? h
    obtain rfl : c = '"' := Decidable.byContradiction fun hc =>
      head?_escapedLines (.inl hc) _ _ hhead
    obtain rfl : bare = 1 := Decidable.byContradiction fun hbare =>
      head?_escapedLines (.inr (by omega)) _ _ hhead
    cases cs with
    | nil => exact ⟨1, by omega, rfl, rfl⟩
    | cons d cs =>
      simp only [escapedLines, List.cons_append, List.cons.injEq, true_and] at h
      exact absurd (congrArg List.head? h) (head?_escapedLines (.inr rfl) _ _)

/-- A string between three double quotes on each side. -/
theorem basicLines?_escaped {rest : List Char} (h : rest.head? ≠ some '"') (cs : List Char)
    {bare : Nat} (hb : bare ≤ 2) :
    basicLines? .text (escapedLines bare cs ++ '"' :: '"' :: '"' :: rest) = some (cs, rest) := by
  induction cs generalizing bare with
  | nil => exact congrArg some (closing_quotes (k := 0) h (by omega))
  | cons c cs ih =>
    by_cases hq : c = '"'
    · subst hq
      cases bare with
      | zero =>
        have hstep := basicLines?_escapedChar '"'
          (escapedLines 2 cs ++ '"' :: '"' :: '"' :: rest)
        rw [ih (by omega)] at hstep
        exact hstep
      | succ bare =>
        rw [escapedLines, List.cons_append]
        by_cases hend : ∃ more,
            escapedLines bare cs ++ '"' :: '"' :: '"' :: rest = '"' :: '"' :: more
        · -- the closing quotes are found at the first quote of a row that leads up to them
          obtain ⟨more, hmore⟩ := hend
          obtain ⟨k, hk, rfl, hrow⟩ := escapedLines_quotes (by omega) hmore
          have hclose := closing_quotes (k := k + 1) h (by omega)
          have hquotes : '"' :: (List.replicate k '"' ++ '"' :: '"' :: '"' :: rest) =
              '"' :: '"' :: '"' :: (List.replicate (k + 1) '"' ++ rest) := by
            obtain rfl | rfl : k = 0 ∨ k = 1 := by omega
            · rfl
            · rfl
          rw [hrow, hquotes]
          exact congrArg some hclose
        · rw [basicLines?_quote (not_exists.1 hend), ih (by omega)]
          rfl
    · by_cases hn : c = '\n'
      · subst hn
        rw [escapedLines, List.cons_append, basicLines?, if_pos rfl, ih (by omega)]
        rfl
      · rw [escapedLines, List.append_assoc, basicLines?_escapedChar, ih (by omega)]
        · rfl
        · exact hq
        · exact hn

theorem hasThree_of_le {quote : Char} {cs : List Char} {m n : Nat} (hmn : m ≤ n)
    (h : hasThree quote n cs = false) : hasThree quote m cs = false := by
  induction cs generalizing m n with
  | nil => rfl
  | cons c cs ih =>
    rw [hasThree] at h ⊢
    split
    · rename_i hc
      rw [if_pos hc, Bool.or_eq_false_iff, decide_eq_false_iff_not] at h
      rw [Bool.or_eq_false_iff, decide_eq_false_iff_not]
      exact ⟨by omega, ih (by omega) h.2⟩
    · rename_i hc
      rwa [if_neg hc] at h

theorem hasThree_tail {quote : Char} {c : Char} {cs : List Char} {n : Nat}
    (h : hasThree quote n (c :: cs) = false) : hasThree quote 0 cs = false := by
  rw [hasThree] at h
  split at h
  · exact hasThree_of_le (by omega) (Bool.or_eq_false_iff.1 h).2
  · exact h

/-- A string between three single quotes on each side. -/
theorem literalLines?_plain {rest : List Char} (h : rest.head? ≠ some '\'') {cs : List Char}
    (hp : ∀ c ∈ cs, c ≠ '\n' → isPlain c = true) (ht : hasThree '\'' 0 cs = false) :
    literalLines? (cs ++ '\'' :: '\'' :: '\'' :: rest) = some (cs, rest) := by
  induction cs with
  | nil => exact congrArg some (closing_quotes (k := 0) h (by omega))
  | cons c cs ih =>
    have ih := ih (fun c hc => hp c (List.mem_cons_of_mem _ hc)) (hasThree_tail ht)
    by_cases hn : c = '\n'
    · subst hn
      rw [List.cons_append, literalLines?, ih]
      rfl
    · have hc := hp c List.mem_cons_self hn
      have hr : c ≠ '\r' := by
        rintro rfl
        exact absurd hc (by decide)
      by_cases hend : c :: cs = ['\''] ∨ c :: cs = ['\'', '\'']
      · -- the closing quotes are found at the first quote of a row that leads up to them
        rcases hend with he | he
        · rw [he]
          exact congrArg some (closing_quotes (k := 1) h (by omega))
        · rw [he]
          exact congrArg some (closing_quotes (k := 2) h (by omega))
      · rw [List.cons_append, literalLines?, plain?, if_pos hc, ih]
        · rfl
        · exact hn
        · exact fun _ h => absurd h hr
        · rintro more rfl hmore
          rw [not_or] at hend
          match cs, hmore with
          | [], _ => exact hend.1 rfl
          | [d], hmore => exact hend.2 (by simp_all)
          | d :: e :: cs, hmore =>
            obtain ⟨rfl, rfl, -⟩ : d = '\'' ∧ e = '\'' ∧ _ := by simpa using hmore
            simp [hasThree] at ht

/-! ### Strings -/

theorem isPlain_of_fitsLine {cs : List Char} (h : fitsLine '\'' cs = true) :
    ∀ c ∈ cs, isPlain c = true ∧ c ≠ '\'' := by
  simp only [fitsLine, Bool.and_eq_true, Bool.not_eq_true', List.any_eq_false,
    List.contains_eq_mem, decide_eq_false_iff_not] at h
  obtain ⟨⟨⟨hc, hn⟩, hq⟩, -⟩ := h
  exact fun c hm => ⟨isPlain_of_not_isControl (by simpa using hc c hm) (by rintro rfl; exact hn hm),
    by rintro rfl; exact hq hm⟩

theorem isPlain_of_fitsLines {cs : List Char} (h : fitsLines '\'' cs = true) :
    (∀ c ∈ cs, c ≠ '\n' → isPlain c = true) ∧ hasThree '\'' 0 cs = false := by
  simp only [fitsLines, Bool.and_eq_true, Bool.not_eq_true', List.any_eq_false] at h
  exact ⟨fun c hm hn => isPlain_of_not_isControl (by simpa using h.1.1 c hm) hn, h.1.2⟩

theorem between_append (quote : Char) (body rest : List Char) :
    between quote body ++ rest = quote :: (body ++ quote :: rest) := by
  simp [between]

theorem string?_double {cs rest : List Char} (h : rest.head? ≠ some '"') :
    string? (between '"' (cs.flatMap escapedChar) ++ rest) = some (String.ofList cs, rest) := by
  rw [between_append, string?, basicBody?_escaped]
  · rfl
  · -- two quotes in front are those around no text
    intro more hm
    cases cs with
    | nil => exact h (congrArg List.head? (List.cons.inj hm).2)
    | cons c cs =>
      rw [List.flatMap_cons, List.append_assoc] at hm
      exact head?_escapedChar c _ (congrArg List.head? hm)

theorem string?_single {cs rest : List Char} (hp : ∀ c ∈ cs, isPlain c = true ∧ c ≠ '\'')
    (h : rest.head? ≠ some '\'') :
    string? (between '\'' cs ++ rest) = some (String.ofList cs, rest) := by
  rw [between_append, string?, literalBody?_plain hp]
  · rfl
  · intro more hm
    cases cs with
    | nil => exact h (congrArg List.head? (List.cons.inj hm).2)
    | cons c cs => exact (hp c List.mem_cons_self).2 (List.cons.inj hm).1

/-- The line end in front of text over several lines is left out, and nothing else. -/
theorem dropLineEnd_marked (body : List Char) {quote : Char} (hq : quote ≠ '\n' ∧ quote ≠ '\r')
    (rest : List Char) :
    dropLineEnd ((if body.contains '\n' then ['\n'] else []) ++ (body ++ quote :: rest)) =
      body ++ quote :: rest := by
  split
  · rfl
  · rename_i hn
    rw [List.contains_eq_mem, decide_eq_true_eq] at hn
    rw [List.nil_append, dropLineEnd]
    · intro more hm
      cases body with
      | nil => exact hq.1 (List.cons.inj hm).1
      | cons c body => exact hn ((List.cons.inj hm).1 ▸ List.mem_cons_self)
    · intro more hm
      match body with
      | [] => exact hq.2 (List.cons.inj hm).1
      | [c] => exact hq.1 (List.cons.inj (List.cons.inj hm).2).1
      | c :: d :: body =>
        have hd : d = '\n' := (List.cons.inj (List.cons.inj hm).2).1
        exact hn (by simp [hd])

theorem betweenThree_append (quote : Char) (body rest : List Char) :
    betweenThree quote body ++ rest = quote :: quote :: quote ::
      ((if body.contains '\n' then ['\n'] else []) ++
        (body ++ quote :: quote :: quote :: rest)) := by
  simp [betweenThree, List.replicate]

theorem string?_doubleLines {cs rest : List Char} (h : rest.head? ≠ some '"') :
    string? (betweenThree '"' (escapedLines 2 cs) ++ rest) = some (String.ofList cs, rest) := by
  rw [betweenThree_append, string?, dropLineEnd_marked _ (by decide),
    basicLines?_escaped h cs (by omega)]
  rfl

theorem string?_singleLines {cs rest : List Char} (hf : fitsLines '\'' cs = true)
    (h : rest.head? ≠ some '\'') :
    string? (betweenThree '\'' cs ++ rest) = some (String.ofList cs, rest) := by
  obtain ⟨hp, ht⟩ := isPlain_of_fitsLines hf
  rw [betweenThree_append, string?, dropLineEnd_marked _ (by decide), literalLines?_plain h hp ht]
  rfl

/-- A string is read back from whichever form it is written in. -/
theorem string?_writtenChars (cs rest : List Char) (hd : rest.head? ≠ some '"')
    (hs : rest.head? ≠ some '\'') :
    string? (writtenChars cs ++ rest) = some (String.ofList cs, rest) := by
  unfold writtenChars
  split
  · exact string?_double hd
  · split
    · exact string?_single (isPlain_of_fitsLine (by assumption)) hs
    · split
      · exact string?_doubleLines hd
      · split
        · exact string?_singleLines (by assumption) hs
        · split
          · exact string?_doubleLines hd
          · exact string?_double hd

/-! ### Names -/

/-- A name is read back from whichever form it is written in. -/
theorem key?_writtenKey (name : String) (rest : List Char)
    (h : ∀ c ∈ rest.head?, isBare c = false) :
    key? ((writtenKey name).toList ++ rest) = some (name, rest) := by
  unfold writtenKey
  simp only
  split
  · -- a bare name does not start with a quote, and ends where what is bare ends
    rename_i hb
    rw [Bool.and_eq_true, List.all_eq_true] at hb
    obtain ⟨hne, hb⟩ := hb
    obtain ⟨ht, hd⟩ := Text.span_append hb rest h
    have hquote : ∀ c, isBare c = false → ∀ more, name.toList ++ rest ≠ c :: more := by
      intro c hc more hm
      cases hcs : name.toList with
      | nil => simp [hcs] at hne
      | cons d ds =>
        rw [hcs] at hm hb
        rw [← (List.cons.inj hm).1, hb d List.mem_cons_self] at hc
        cases hc
    rw [key?, ht, hd, if_neg (by simpa using hne), String.ofList_toList]
    · exact hquote '"' (by decide)
    · exact hquote '\'' (by decide)
  · rw [String.toList_ofList]
    split
    · rename_i hf
      have hp := isPlain_of_fitsLine (Bool.and_eq_true_iff.1 hf).2
      rw [between_append, key?, literalBody?_plain hp, Option.map_some]
      simp only [String.ofList_toList]
    · rw [between_append, key?, basicBody?_escaped, Option.map_some]
      simp only [String.ofList_toList]

end ShapeCheck.Toml
