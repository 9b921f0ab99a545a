import ShapeCheck.Json.Reader
import ShapeCheck.Proofs.Tree

/-!
# Distinct names

In an object that is read no name stands twice, so that the order of its members is all that can
differ between two ways of writing it.

* `Json.Distinct`: in no object inside a value a name stands twice;
* `Json.distinct_of_read`: every value that is read is such a value.
-/

namespace ShapeCheck.Json

/-- In no object inside the value a name stands twice. -/
inductive Distinct : Json → Prop where
  | mk {v : Json} (names : ∀ ms, v = .object ms → (ms.map Prod.fst).Nodup)
      (below : ∀ w ∈ v.children, Distinct w) : Distinct v

namespace Distinct

variable {ms : Members}

theorem names_nodup (h : Distinct (.object ms)) : (ms.map Prod.fst).Nodup := by
  cases h with
  | mk names _ => exact names ms rfl

theorem of_mem_children {v w : Json} (h : v.Distinct) (hw : w ∈ v.children) : w.Distinct := by
  cases h with
  | mk _ below => exact below w hw

theorem of_member (h : Distinct (.object ms)) {name : String} {v : Json} (hm : (name, v) ∈ ms) :
    v.Distinct :=
  h.of_mem_children (mem_children_of_mem hm)

@[simp] theorem null : Distinct .null := .mk nofun nofun

@[simp] theorem bool (b : Bool) : Distinct (.bool b) := .mk nofun nofun

@[simp] theorem number (n : Number) : Distinct (.number n) := .mk nofun nofun

@[simp] theorem string (s : String) : Distinct (.string s) := .mk nofun nofun

@[simp] theorem array_iff {vs : List Json} : Distinct (.array vs) ↔ ∀ v ∈ vs, v.Distinct :=
  ⟨fun h _ hv => h.of_mem_children hv, fun h => .mk nofun h⟩

@[simp] theorem object_iff :
    Distinct (.object ms) ↔ (ms.map Prod.fst).Nodup ∧ ∀ m ∈ ms, m.2.Distinct := by
  refine ⟨fun h => ⟨h.names_nodup, fun m hm => h.of_member hm⟩, fun ⟨hn, h⟩ => .mk ?_ ?_⟩
  · rintro _ ⟨⟩
    exact hn
  · intro w hw
    obtain ⟨m, hm, rfl⟩ := List.mem_map.1 hw
    exact h m hm

/-- Members can be left out. -/
theorem of_sublist {ns : Members} (h : Distinct (.object ms)) (hs : ns.Sublist ms) :
    Distinct (.object ns) :=
  object_iff.2 ⟨h.names_nodup.sublist (hs.map Prod.fst), fun _ hm => h.of_member (hs.subset hm)⟩

end Distinct

/-! ### Values that are read -/

/-- Whatever is read has some property. -/
def Gives {α : Type} (P : α → Prop) (o : Except Stop α) : Prop := ∀ a, o = .ok a → P a

namespace Gives

variable {α β : Type} {P : α → Prop} {Q : β → Prop} {o : Except Stop α}

theorem ok {a : α} (h : P a) : Gives P (.ok a) := by
  rintro _ ⟨⟩
  exact h

theorem error (stop : Stop) : Gives P (.error stop) := nofun

theorem bind (h : Gives P o) {f : α → Except Stop β} (hf : ∀ a, P a → Gives Q (f a)) :
    Gives Q (o >>= f) := by
  intro b hb
  cases o with
  | error stop => cases hb
  | ok a => exact hf a (h a rfl) b hb

theorem map (h : Gives P o) {f : α → β} (hf : ∀ a, P a → Q (f a)) : Gives Q (o.map f) := by
  intro b hb
  cases o with
  | error stop => cases hb
  | ok a =>
    cases hb
    exact hf a (h a rfl)

theorem trivial (o : Except Stop α) : Gives (fun _ => True) o := fun _ _ => .intro

end Gives

theorem elements_gives {element : List Char → Outcome Json}
    (he : ∀ cs, Gives (·.1.Distinct) (element cs)) (fuel : Nat) {done : List Json}
    (hd : ∀ v ∈ done, v.Distinct) (cs : List Char) :
    Gives (fun p => ∀ v ∈ p.1, v.Distinct) (elements element fuel done cs) := by
  induction fuel generalizing done cs with
  | zero => exact .error _
  | succ fuel ih =>
    have hn (cs : List Char) : Gives (fun p => ∀ v ∈ p.1, v.Distinct)
        (element cs >>= fun p => elements element fuel (p.1 :: done) p.2) :=
      (he cs).bind fun p hp => ih (List.forall_mem_cons.2 ⟨hp, hd⟩) p.2
    unfold elements
    split
    · exact .error _
    · exact .ok fun v hv => hd v (List.mem_reverse.1 hv)
    · split
      · exact hn _
      · split
        · split
          · exact .error _
          · exact .error _
          · exact hn _
        · exact .error _

theorem distinct_put {ms : Members} (h : Distinct (.object ms)) (name : String) {v : Json}
    (hv : v.Distinct) : Distinct (.object (put name v ms)) := by
  refine Distinct.object_iff.2 ⟨nodup_put h.names_nodup, fun m hm => ?_⟩
  rcases mem_of_mem_put hm with rfl | hm
  · exact hv
  · exact h.of_member hm

theorem members_gives {element : List Char → Outcome Json}
    (he : ∀ cs, Gives (·.1.Distinct) (element cs)) (fuel : Nat) {done : Members}
    (hd : Distinct (.object done)) (cs : List Char) :
    Gives (fun p => Distinct (.object p.1)) (members element fuel done cs) := by
  induction fuel generalizing done cs with
  | zero => exact .error _
  | succ fuel ih =>
    have hn (cs : List Char) : Gives (fun p => Distinct (.object p.1)) (do
        let p ← stringTail cs
        let rest ← colon p.2
        let q ← element rest
        members element fuel (put p.1 q.1 done) q.2) :=
      (Gives.trivial _).bind fun p _ => (Gives.trivial _).bind fun rest _ =>
        (he rest).bind fun q hq => ih (distinct_put hd p.1 hq) q.2
    unfold members
    split
    · exact .error _
    · exact .ok hd
    · split
      · split
        · exact hn _
        · exact .error _
      · split
        · split
          · exact .error _
          · exact hn _
          · exact .error _
          · exact .error _
        · exact .error _

theorem ident_gives {v : Json} (hv : v.Distinct) (wanted cs : List Char) :
    Gives (·.1.Distinct) (ident v wanted cs) := by
  induction wanted generalizing cs with
  | nil => exact .ok hv
  | cons c more ih =>
    cases cs with
    | nil => exact .error _
    | cons d rest =>
      unfold ident
      split
      · exact ih rest
      · exact .error _

theorem value_gives (depth : Nat) (cs : List Char) : Gives (·.1.Distinct) (value depth cs) := by
  -- only lists and objects look at the depth, so the cases of it come after those of the text
  induction depth using Nat.strongRecOn generalizing cs with
  | ind depth ih =>
    unfold value
    split
    · exact .error _
    · exact ident_gives .null _ _
    · exact ident_gives (.bool _) _ _
    · exact ident_gives (.bool _) _ _
    · exact (Gives.trivial _).map fun p _ => .string p.1
    · cases depth with
      | zero => exact .error _
      | succ depth =>
        have he := elements_gives (ih depth (Nat.lt_succ_self depth))
        exact (he _ (List.forall_mem_nil _) _).map fun p hp => Distinct.array_iff.2 hp
    · cases depth with
      | zero => exact .error _
      | succ depth =>
        have he := members_gives (ih depth (Nat.lt_succ_self depth))
        exact (he _ (by simp) _).map fun p hp => hp
    · split
      · exact (Gives.trivial _).map fun p _ => .number p.1
      · exact .error _

theorem document_gives (cs : List Char) : Gives Distinct (document cs) := by
  refine (value_gives maxDepth cs).bind fun p hp => ?_
  dsimp only
  split
  · exact .ok hp
  · exact .error _

/-- In a value that is read no name stands twice. -/
theorem distinct_of_read {text : String} {v : Json} (h : read text = .ok v) : v.Distinct := by
  unfold read at h
  dsimp only at h
  split at h
  · rename_i w hw
    cases h
    exact document_gives _ _ hw
  · cases h

end ShapeCheck.Json
