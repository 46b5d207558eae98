import DebugTypes.Proofs.CType.Occurrences
import DebugTypes.Proofs.Catalog.Resolution
import Mathlib.Data.List.Sort

/-!
# Unresolved names

Which names a catalog leaves unresolved depends on what is stored and not on when it was added: a
name is unresolved if there is a reference to it anywhere inside a stored type and nothing is stored
under it.  The list has the names in the order of their code points, each once, and no other list
has the same names in this way.

## Main statements

* `Catalog.mem_unresolved_iff_exists_refersAt` — which names are unresolved, by their places.
* `Catalog.eq_unresolved_of_mem_iff` — the only increasing list of them.
* `Catalog.mem_unresolved_of_subset` — what remains unresolved where more is stored.
* `Catalog.unresolved_of_places` — the list, its order and its length.
-/

namespace DebugTypes.Catalog

variable {c d : Catalog} {name : String}

/-- A name is unresolved if it has no entry and there is a reference to it inside a stored type. -/
theorem mem_unresolved_iff_exists_refersAt :
    name ∈ c.unresolved ↔
      c.get? name = none ∧ ∃ entry ∈ c.entries, ∃ path, entry.2.RefersAt path name := by
  rw [mem_unresolved_iff, has_eq_false_iff, and_comm]
  simp only [CType.contains_iff_exists_typeAt?, CType.RefersAt]

theorem pairwise_unresolved (c : Catalog) : c.unresolved.Pairwise (· < ·) :=
  pairwise_sortedNames _

/-- An increasing list of the unresolved names is the list of the unresolved names. -/
theorem eq_unresolved_of_mem_iff {names : List String} (hsorted : names.Pairwise (· < ·))
    (h : ∀ name, name ∈ names ↔ name ∈ c.unresolved) : names = c.unresolved :=
  hsorted.eq_of_mem_iff c.pairwise_unresolved h

/-- A catalog with more entries resolves a name only if it has an entry for it. -/
theorem mem_unresolved_of_subset (hsub : c.entries ⊆ d.entries) (h : name ∈ c.unresolved)
    (hname : d.has name = false) : name ∈ d.unresolved := by
  obtain ⟨⟨entry, hentry, hcontains⟩, -⟩ := mem_unresolved_iff.1 h
  exact mem_unresolved_iff.2 ⟨⟨entry, hsub hentry, hcontains⟩, hname⟩

/-- The order of the entries makes no difference to the unresolved names. -/
theorem unresolved_of_perm (hperm : c.entries.Perm d.entries) : d.unresolved = c.unresolved := by
  have hnames : c.names.Perm d.names := hperm.map Prod.fst
  have hhas : ∀ name, d.has name = c.has name := by
    intro name
    rw [Bool.eq_iff_iff, has_iff, has_iff]
    exact hnames.mem_iff.symm
  refine eq_unresolved_of_mem_iff d.pairwise_unresolved fun name => ⟨fun h => ?_, fun h => ?_⟩
  · have hname := (mem_unresolved_iff.1 h).2
    rw [hhas] at hname
    exact mem_unresolved_of_subset hperm.symm.subset h hname
  · have hname := (mem_unresolved_iff.1 h).2
    rw [← hhas] at hname
    exact mem_unresolved_of_subset hperm.subset h hname

/-- **The unresolved names of a catalog** are those that have no entry and that a stored type refers
to at some place inside it.  They come in the order of their code points and each once, in whatever
order the entries were added, and the statistics count them.  The references of each type come from
left to right, one for each place. -/
theorem unresolved_of_places (c : Catalog) :
    (∀ name, name ∈ c.unresolved ↔
        c.get? name = none ∧ ∃ entry ∈ c.entries, ∃ path, entry.2.RefersAt path name) ∧
      c.unresolved.Pairwise (· < ·) ∧ c.unresolved.Nodup ∧
      (∀ d : Catalog, c.entries.Perm d.entries → d.unresolved = c.unresolved) ∧
      c.statistics.unresolved = c.unresolved.length ∧
      ∀ t : CType, ∃ places : List (List Nat × String),
        places.Pairwise (fun place later => place.1 < later.1) ∧
          (∀ path name, (path, name) ∈ places ↔ t.RefersAt path name) ∧
          places.map Prod.snd = t.references := by
  refine ⟨fun name => mem_unresolved_iff_exists_refersAt, c.pairwise_unresolved,
    c.pairwise_unresolved.imp String.ne_of_lt, fun d => unresolved_of_perm, rfl, fun t => ?_⟩
  obtain ⟨places, hplaces, hnames⟩ := t.exists_locates
  exact ⟨places, hplaces.increasing, hplaces.mem_iff, hnames⟩

/-- The result of a function comes before its parameters. -/
example : (CType.function (.pointer (.named "R")) .stdcall [.named "P", .named "R"]).references =
    ["R", "P", "R"] := by decide

end DebugTypes.Catalog
