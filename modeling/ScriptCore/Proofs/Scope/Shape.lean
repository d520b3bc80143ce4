import ScriptCore.Proofs.Scope.Search

/-!
# What does not depend on values

The marks of a scope are its names, each with whether it is constant.  A store extends another one if
every scope of that is in it, inside the same scopes and with the same marks.  Then all that can be
asked about the scope is answered as before, except for values.

* `Bindings.marks_update`: another value leaves the marks;
* `Extends.resolve_eq`, `Extends.isConstant_eq` and those before them: what is asked about scopes and
  names;
* `Extends.lookup_eq`: the values, if bindings are kept.
-/

namespace ScriptCore

namespace Bindings

/-- The names, each with whether it is constant. -/
def marks (bs : Bindings) : List (String × Mutability) :=
  bs.toList.map fun b => (b.name, b.mutability)

variable {bs bs' : Bindings}

/-- `marks` stay when a name has another value. -/
theorem marks_update (bs : Bindings) (name : String) (value : Value) :
    (bs.update name value).marks = bs.marks := by
  have hmark (b : Binding) : ((withValue name value b).name, (withValue name value b).mutability) =
      (b.name, b.mutability) := by
    unfold withValue
    split <;> rfl
  rw [marks, marks, update, List.map_map]
  exact List.map_congr_left fun b _ => hmark b

/-- `marks` tell the names. -/
theorem names_eq_of_marks (h : bs'.marks = bs.marks) :
    bs'.toList.map Binding.name = bs.toList.map Binding.name := by
  have hnames (bs : Bindings) : bs.toList.map Binding.name = bs.marks.map Prod.fst := by
    rw [marks, List.map_map]
    rfl
  rw [hnames, hnames, h]

/-- `marks` tell whether a name is bound. -/
theorem contains_eq_of_marks (h : bs'.marks = bs.marks) (name : String) :
    bs'.contains name = bs.contains name := by
  have hcontains (bs : Bindings) : bs.contains name = bs.marks.any (·.1 == name) := by
    rw [marks, List.any_map]
    rfl
  rw [hcontains, hcontains, h]

/-- `marks` tell how many names there are. -/
theorem size_eq_of_marks (h : bs'.marks = bs.marks) : bs'.size = bs.size := by
  have hsize (bs : Bindings) : bs.size = bs.marks.length := (List.length_map _).symm
  rw [hsize, hsize, h]

/-- `marks` tell what the names are in order. -/
theorem sortedNames_eq_of_marks (h : bs'.marks = bs.marks) : bs'.sortedNames = bs.sortedNames := by
  rw [sortedNames, sortedNames, names_eq_of_marks h]

/-- `marks` tell the mutability of a name. -/
theorem mutability_eq_of_marks (h : bs'.marks = bs.marks) (name : String) :
    (bs'.get? name).map Binding.mutability = (bs.get? name).map Binding.mutability := by
  -- The first binding of a name is where the first mark of the name is.
  have hmutability (bs : Bindings) : (bs.get? name).map Binding.mutability =
      (bs.marks.find? (·.1 == name)).map Prod.snd := by
    rw [marks, List.find?_map, Option.map_map]
    rfl
  rw [hmutability, hmutability, h]

end Bindings

namespace Store

/-- Every scope of the first store is in the second one, inside the same scopes, and declares the
same names, with the same ones constant. -/
structure Extends (s s' : Store) : Prop where
  live : ∀ {x}, s.Live x → s'.Live x
  chain_eq : ∀ {x}, s.Live x → s'.chain x = s.chain x
  marks_eq : ∀ {x}, s.Live x → (s'.bindings x).marks = (s.bindings x).marks

variable {s s' : Store} {x owner : ScopeId} {name : String} {handles : Multiset ScopeId}

/-- `hasLocal` is the same in a store that extends another one. -/
theorem Extends.hasLocal_eq (h : s.Extends s') (hx : s.Live x) (name : String) :
    s'.hasLocal x name = s.hasLocal x name :=
  Bindings.contains_eq_of_marks (h.marks_eq hx) name

/-- `localSize` is the same. -/
theorem Extends.localSize_eq (h : s.Extends s') (hx : s.Live x) : s'.localSize x = s.localSize x :=
  Bindings.size_eq_of_marks (h.marks_eq hx)

/-- `depth` is the same. -/
theorem Extends.depth_eq (h : s.Extends s') (hx : s.Live x) : s'.depth x = s.depth x := by
  rw [depth, depth, h.chain_eq hx]

/-- `parent?` is the same. -/
theorem Extends.parent?_eq (h : s.Extends s') (hx : s.Live x) : s'.parent? x = s.parent? x := by
  rw [parent?, parent?, h.chain_eq hx]

/-- `inspect` is the same: names in order and the number of scopes around. -/
theorem Extends.inspect_eq (h : s.Extends s') (hx : s.Live x) : s'.inspect x = s.inspect x := by
  have hnames := Bindings.sortedNames_eq_of_marks (h.marks_eq hx)
  unfold inspect
  dsimp only
  rw [hnames, h.depth_eq hx]

/-- `constants` are the same. -/
theorem Extends.constants_eq (h : s.Extends s') (hx : s.Live x) :
    s'.constants x = s.constants x := by
  have hconstants (s : Store) : s.constants x =
      ((s.bindings x).marks.filter (·.2.isConstant)).map Prod.fst := by
    rw [constants, Bindings.marks, List.filter_map, List.map_map]
    rfl
  rw [hconstants, hconstants, h.marks_eq hx]

/-- `resolve` gives the same scope. -/
theorem Extends.resolve_eq (h : s.Extends s') (hs : s.Held handles) (hx : s.Live x)
    (name : String) : s'.resolve x name = s.resolve x name :=
  -- The search goes through the same scopes, and each declares the same names.
  resolve_congr (h.chain_eq hx) fun _ hy =>
    h.hasLocal_eq (hs.live_of_mem_chain hy.mem_chain) name

/-- `isConstant` answers the same. -/
theorem Extends.isConstant_eq (h : s.Extends s') (hs : s.Held handles) (hx : s.Live x)
    (name : String) : s'.isConstant x name = s.isConstant x name := by
  have hresolve' := h.resolve_eq hs hx name
  cases hresolve : s.resolve x name with
  | error e =>
    rw [isConstant, isConstant, lookupBinding_of_unresolved hresolve,
      lookupBinding_of_unresolved (hresolve'.trans hresolve)]
  | ok owner =>
    -- The binding may have another value, but its mutability is among the marks.
    obtain ⟨b, hb⟩ := exists_binding_of_resolve hresolve
    have hmutability := Bindings.mutability_eq_of_marks (h.marks_eq (live_of_binding? hb)) name
    rw [← binding?, ← binding?, hb, Option.map_some, Option.map_eq_some_iff] at hmutability
    obtain ⟨b', hb', hm⟩ := hmutability
    rw [isConstant_of_resolve hresolve hb, isConstant_of_resolve (hresolve'.trans hresolve) hb', hm]

/-- `lookup` gives the same value, if the scopes that declare the name have kept its binding. -/
theorem Extends.lookup_eq (h : s.Extends s') (hs : s.Held handles) (hx : s.Live x)
    (hbinding : ∀ {y}, s.Live y → s'.binding? y name = s.binding? y name) :
    s'.lookup x name = s.lookup x name := by
  have hsame : s'.lookupBinding x name = s.lookupBinding x name := by
    refine lookupBinding_congr (h.resolve_eq hs hx name) fun owner howner => ?_
    obtain ⟨b, hb⟩ := exists_binding_of_resolve howner
    exact hbinding (live_of_binding? hb)
  rw [lookup, lookup, hsame]

end Store

end ScriptCore
