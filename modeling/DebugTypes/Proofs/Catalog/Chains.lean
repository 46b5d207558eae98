import DebugTypes.Catalog.Resolution
import Mathlib.Data.List.Perm.Subperm
import Mathlib.Logic.Function.Iterate

/-!
# Chains of references

A reference leads to the entry of its name, which may be a reference again.  What a type stands for
is the end of the chain that starts with it.  Here chains have any length.  A chain that ends at
something other than a reference goes through each entry at most once, so that it has at most as
many steps as there are entries, and the steps that `Catalog.resolve?` allows itself are enough for
every such chain.

## Main definitions

* `Catalog.Chain c t names u` — references lead from `t` to `u` through the entries of `names`.
* `Catalog.Endless c t` — references lead from `t` to references for ever.

## Main statements

* `Catalog.Chain.length_le_size` — how long a chain is that ends.
* `Catalog.resolve?_eq_some_iff` — a type stands for what is at the end of its chain.
* `Catalog.resolve?_eq_none_iff` — it stands for nothing if the chain breaks off or has no end.
* `Catalog.resolution_of_chains` — the two together, for every entrance and every order of entries.
-/

namespace DebugTypes.Catalog

/-- References lead from one type to another, through the entries of the names in their order. -/
inductive Chain (c : Catalog) : CType → List String → CType → Prop
  | stay (t : CType) : Chain c t [] t
  | step {name : String} {t u : CType} {names : List String} (h : c.get? name = some t)
      (rest : Chain c t names u) : Chain c (.named name) (name :: names) u

/-- References lead from a type to references for ever. -/
def Endless (c : Catalog) (t : CType) : Prop :=
  ∃ name : Nat → String, t = .named (name 0) ∧
    ∀ i, c.get? (name i) = some (.named (name (i + 1)))

variable {c : Catalog} {t u v : CType} {name : String} {names names' : List String}

namespace Chain

/-- From a type that is no reference there is nowhere to go. -/
theorem eq_of_not_named (h : c.Chain t names u) (ht : t.isNamed = false) : names = [] ∧ t = u := by
  cases h with
  | stay => exact ⟨rfl, rfl⟩
  | step => cases ht

/-- From a name without an entry there is nowhere to go. -/
theorem eq_of_get?_eq_none (h : c.Chain (.named name) names u) (hname : c.get? name = none) :
    .named name = u := by
  cases h with
  | stay => rfl
  | step hget => rw [hname] at hget; cases hget

/-- A chain goes on where another one ends. -/
theorem trans (h : c.Chain t names u) (h' : c.Chain u names' v) :
    c.Chain t (names ++ names') v := by
  induction h with
  | stay => exact h'
  | step hget _ ih => exact .step hget (ih h')

/-- Of two chains from one type, one goes on where the other ends. -/
theorem linear (h : c.Chain t names u) (h' : c.Chain t names' v) :
    (∃ rest, names' = names ++ rest ∧ c.Chain u rest v) ∨
      ∃ rest, names = names' ++ rest ∧ c.Chain v rest u := by
  induction h generalizing names' with
  | stay => exact .inl ⟨names', rfl, h'⟩
  | step hget hrest ih =>
      cases h' with
      | stay => exact .inr ⟨_, rfl, .step hget hrest⟩
      | step hget' hrest' =>
          obtain rfl := Option.some.inj (hget.symm.trans hget')
          rcases ih hrest' with ⟨rest, rfl, hon⟩ | ⟨rest, rfl, hon⟩
          · exact .inl ⟨rest, rfl, hon⟩
          · exact .inr ⟨rest, rfl, hon⟩

/-- A type has at most one chain to an end. -/
theorem unique (h : c.Chain t names u) (hu : u.isNamed = false) (h' : c.Chain t names' v)
    (hv : v.isNamed = false) : names = names' ∧ u = v := by
  rcases h.linear h' with ⟨rest, rfl, hon⟩ | ⟨rest, rfl, hon⟩
  · obtain ⟨rfl, rfl⟩ := hon.eq_of_not_named hu
    exact ⟨(List.append_nil _).symm, rfl⟩
  · obtain ⟨rfl, rfl⟩ := hon.eq_of_not_named hv
    exact ⟨List.append_nil _, rfl⟩

/-- Every name on a chain has an entry. -/
theorem mem_names (h : c.Chain t names u) (hname : name ∈ names) : name ∈ c.names := by
  induction h with
  | stay => cases hname
  | step hget _ ih =>
      rcases List.mem_cons.1 hname with rfl | hname
      · exact has_iff.1 (by rw [has, hget]; rfl)
      · exact ih hname

/-- From each of its names on, the rest of a chain is a chain. -/
theorem exists_from (h : c.Chain t names u) (hname : name ∈ names) :
    ∃ rest, c.Chain (.named name) (name :: rest) u ∧ rest.length < names.length := by
  induction h with
  | stay => cases hname
  | step hget hrest ih =>
      rcases List.mem_cons.1 hname with rfl | hname
      · exact ⟨_, .step hget hrest, Nat.lt_succ_self _⟩
      · obtain ⟨rest, hchain, hlength⟩ := ih hname
        exact ⟨rest, hchain, Nat.lt_succ_of_lt hlength⟩

/-- A chain that ends repeats no name, since from there on it would have two lengths. -/
theorem nodup (h : c.Chain t names u) (hu : u.isNamed = false) : names.Nodup := by
  induction h with
  | stay => exact List.nodup_nil
  | step hget hrest ih =>
      refine List.nodup_cons.2 ⟨fun hmem => ?_, ih hu⟩
      obtain ⟨rest, hchain, hlength⟩ := hrest.exists_from hmem
      obtain ⟨hnames, -⟩ := (Chain.step hget hrest).unique hu hchain hu
      rw [List.cons.injEq] at hnames
      rw [hnames.2] at hlength
      exact Nat.lt_irrefl _ hlength

/-- A chain that ends has no more steps than there are entries. -/
theorem length_le_size (h : c.Chain t names u) (hu : u.isNamed = false) :
    names.length ≤ c.size := by
  have hsub : names ⊆ c.names := fun _ hname => h.mem_names hname
  have hlength := (List.subperm_of_subset (h.nodup hu) hsub).length_le
  rwa [Catalog.names, List.length_map] at hlength

end Chain

/-! ## Chains that end -/

theorem follow?_of_not_named (h : t.isNamed = false) (n : Nat) :
    c.follow? (n + 1) t = some t := by
  cases t with
  | named => cases h
  | _ => rfl

/-- Following references gets to the end of a chain of fewer steps. -/
theorem Chain.follow?_eq (h : c.Chain t names u) (hu : u.isNamed = false) {n : Nat}
    (hn : names.length < n) : c.follow? n t = some u := by
  induction h generalizing n with
  | stay u =>
      obtain ⟨n, rfl⟩ := Nat.exists_eq_succ_of_ne_zero (Nat.ne_zero_of_lt hn)
      exact follow?_of_not_named hu n
  | step hget _ ih =>
      obtain ⟨n, rfl⟩ := Nat.exists_eq_succ_of_ne_zero (Nat.ne_zero_of_lt hn)
      rw [follow?, hget, Option.bind_some]
      exact ih hu (Nat.lt_of_succ_lt_succ hn)

/-- Following references gets nowhere but to the end of a chain. -/
theorem exists_chain_of_follow? {n : Nat} (h : c.follow? n t = some u) :
    u.isNamed = false ∧ ∃ names, c.Chain t names u := by
  induction n generalizing t with
  | zero => cases h
  | succ n ih =>
      match t with
      | .named name =>
          rw [follow?] at h
          obtain ⟨next, hget, h⟩ := Option.bind_eq_some_iff.1 h
          obtain ⟨hu, names, hchain⟩ := ih h
          exact ⟨hu, name :: names, .step hget hchain⟩
      | .primitive _ | .pointer _ | .array _ _ | .struct _ | .union _ | .enum _
      | .function _ _ _ | .bitField _ _ | .qualified _ _ =>
          cases h
          exact ⟨rfl, [], .stay _⟩

/-- **A type stands for what is at the end of its chain,** however long that is. -/
theorem resolve?_eq_some_iff :
    c.resolve? t = some u ↔ u.isNamed = false ∧ ∃ names, c.Chain t names u := by
  constructor
  · exact exists_chain_of_follow?
  · rintro ⟨hu, names, hchain⟩
    exact hchain.follow?_eq hu (Nat.lt_succ_of_le (hchain.length_le_size hu))

/-- A chain may go through every entry. -/
example : (ofList [("A", .named "B"), ("C", .enum []), ("B", .named "C")]).resolve? (.named "A") =
    some (.enum []) := by decide

/-! ## Chains that do not end -/

/-- No chain ends that starts where references go on for ever. -/
theorem Endless.isNamed_of_chain (h : c.Endless t) (hchain : c.Chain t names u) :
    u.isNamed = true := by
  obtain ⟨name, ht, hname⟩ := h
  induction hchain generalizing name with
  | stay => rw [ht]; rfl
  | step hget _ ih =>
      obtain rfl := CType.named.inj ht
      exact ih (fun i => name (i + 1)) (Option.some.inj (hget.symm.trans (hname 0)))
        fun i => hname (i + 1)

/-- The name that the entry of a name refers to, where that is a reference. -/
def nextName (c : Catalog) (name : String) : String :=
  match c.get? name with
  | some (.named next) => next
  | _ => name

/-- References go on for ever where every chain leads to a name with an entry. -/
theorem endless_of_forall
    (h : ∀ names u, c.Chain t names u → ∃ name next, u = .named name ∧ c.get? name = some next) :
    c.Endless t := by
  obtain ⟨first, _, rfl, -⟩ := h [] t (.stay t)
  have hnext : ∀ {names name}, c.Chain (.named first) names (.named name) →
      c.get? name = some (.named (c.nextName name)) := by
    intro names name hchain
    obtain ⟨_, next, hname, hget⟩ := h _ _ hchain
    obtain rfl := CType.named.inj hname
    obtain ⟨_, _, rfl, -⟩ := h _ _ (hchain.trans (.step hget (.stay next)))
    rw [nextName, hget]
  have hreached : ∀ i, ∃ names, c.Chain (.named first) names (.named (c.nextName^[i] first)) := by
    intro i
    induction i with
    | zero => exact ⟨[], .stay _⟩
    | succ i ih =>
        obtain ⟨names, hchain⟩ := ih
        rw [Function.iterate_succ_apply']
        exact ⟨_, hchain.trans (.step (hnext hchain) (.stay _))⟩
  refine ⟨fun i => c.nextName^[i] first, rfl, fun i => ?_⟩
  obtain ⟨names, hchain⟩ := hreached i
  calc
    c.get? (c.nextName^[i] first) = some (.named (c.nextName (c.nextName^[i] first))) :=
      hnext hchain
    _ = some (.named (c.nextName^[i + 1] first)) := by rw [Function.iterate_succ_apply']

/-- **A type stands for nothing** exactly if references lead from it to a name without an entry, or
to references for ever. -/
theorem resolve?_eq_none_iff :
    c.resolve? t = none ↔
      (∃ names name, c.Chain t names (.named name) ∧ c.get? name = none) ∨ c.Endless t := by
  rw [Option.eq_none_iff_forall_ne_some]
  constructor
  · intro hnone
    by_cases hdangling : ∃ names name, c.Chain t names (.named name) ∧ c.get? name = none
    · exact .inl hdangling
    · refine .inr (endless_of_forall fun names u hchain => ?_)
      have hu : u.isNamed ≠ false := fun hu =>
        hnone u (resolve?_eq_some_iff.2 ⟨hu, names, hchain⟩)
      match u with
      | .named name =>
          obtain ⟨next, hget⟩ := Option.ne_none_iff_exists'.1 fun hget =>
            hdangling ⟨names, name, hchain, hget⟩
          exact ⟨name, next, rfl, hget⟩
      | .primitive _ | .pointer _ | .array _ _ | .struct _ | .union _ | .enum _
      | .function _ _ _ | .bitField _ _ | .qualified _ _ => exact absurd rfl hu
  · intro h u hsome
    obtain ⟨hu, names', hchain'⟩ := resolve?_eq_some_iff.1 hsome
    rcases h with ⟨names, name, hchain, hget⟩ | hendless
    · rcases hchain.linear hchain' with ⟨_, -, hon⟩ | ⟨_, -, hon⟩
      · rw [← hon.eq_of_get?_eq_none hget] at hu
        cases hu
      · obtain ⟨-, rfl⟩ := hon.eq_of_not_named hu
        cases hu
    · rw [hendless.isNamed_of_chain hchain'] at hu
      cases hu

/-! ## Entrances and orders -/

/-- A name stands for what the reference to it stands for. -/
theorem resolveName?_eq_resolve?_named (c : Catalog) (name : String) :
    c.resolveName? name = c.resolve? (.named name) := by
  ext u
  rw [resolveName?, Option.bind_eq_some_iff, resolve?_eq_some_iff]
  constructor
  · rintro ⟨t, hget, h⟩
    obtain ⟨hu, names, hchain⟩ := resolve?_eq_some_iff.1 h
    exact ⟨hu, name :: names, .step hget hchain⟩
  · rintro ⟨hu, names, hchain⟩
    cases hchain with
    | stay => cases hu
    | step hget hrest => exact ⟨_, hget, resolve?_eq_some_iff.2 ⟨hu, _, hrest⟩⟩

/-- Chains through the entries of a catalog are chains in every catalog that has these entries. -/
theorem Chain.of_subset {d : Catalog} (hsub : c.entries ⊆ d.entries)
    (h : c.Chain t names u) : d.Chain t names u := by
  induction h with
  | stay => exact .stay _
  | step hget _ ih =>
      have hmem := hsub (get?_eq_some_iff.1 hget)
      exact .step (get?_eq_some_iff.2 hmem) ih

/-- What a type stands for, it stands for in every catalog that has the same entries and more. -/
theorem resolve?_of_subset {d : Catalog} (hsub : c.entries ⊆ d.entries)
    (h : c.resolve? t = some u) : d.resolve? t = some u := by
  obtain ⟨hu, names, hchain⟩ := resolve?_eq_some_iff.1 h
  exact resolve?_eq_some_iff.2 ⟨hu, names, hchain.of_subset hsub⟩

theorem resolve?_of_perm {d : Catalog} (hperm : c.entries.Perm d.entries) (t : CType) :
    d.resolve? t = c.resolve? t := by
  ext u
  exact ⟨resolve?_of_subset hperm.symm.subset, resolve?_of_subset hperm.subset⟩

/-- **What a type stands for** is at the end of its chain of references, and it stands for nothing
if the chain comes to a name without an entry or goes on for ever.  No number of steps leads
further than those that are taken, which is one more than there are entries.  It makes no difference
whether one begins with a name or with the reference to it, nor in which order the entries were
added. -/
theorem resolution_of_chains (c : Catalog) (t : CType) :
    (∀ u, c.resolve? t = some u ↔ u.isNamed = false ∧ ∃ names, c.Chain t names u) ∧
      (c.resolve? t = none ↔
        (∃ names name, c.Chain t names (.named name) ∧ c.get? name = none) ∨ c.Endless t) ∧
      (∀ steps u, c.follow? steps t = some u → c.resolve? t = some u) ∧
      (∀ names u, c.Chain t names u → u.isNamed = false → names.length ≤ c.size) ∧
      (∀ name, c.resolveName? name = c.resolve? (.named name)) ∧
      ∀ d : Catalog, c.entries.Perm d.entries → d.resolve? t = c.resolve? t :=
  ⟨fun _ => resolve?_eq_some_iff, resolve?_eq_none_iff,
    fun _ _ h => resolve?_eq_some_iff.2 (exists_chain_of_follow? h),
    fun _ _ h hu => h.length_le_size hu, c.resolveName?_eq_resolve?_named,
    fun _ hperm => resolve?_of_perm hperm t⟩

end DebugTypes.Catalog
