import DebugTypes.CommandLine.Run
import DebugTypes.Proofs.CType.References
import DebugTypes.Proofs.Decoding.Replay
import DebugTypes.Proofs.Decoding.Shape

/-!
# References in decoded catalogs

A catalog may hold a type that is only a reference, and then references may lead to references.  No
document decodes to such a catalog: what is stored under a name is a struct, union or enum, so that
a reference leads to a stored type in one step or nowhere.  Where no name is left unresolved, every
reference at any depth of a stored type leads to a stored type.

## Main definitions

* `Catalog.Closed c` — every name inside a stored type has an entry.

## Main statements

* `Catalog.mem_unresolved_iff`, `Catalog.unresolved_eq_nil_iff` — which names are unresolved.
* `Catalog.resolve?_named` — a reference in a catalog without stored references.
* `Catalog.resolution_ofDocument` — references in the catalog of a document.
-/

namespace DebugTypes

theorem CType.isNamed_of_isComposite {t : CType} (h : t.isComposite = true) :
    t.isNamed = false := by
  cases t with
  | named => exact absurd h Bool.false_ne_true
  | _ => rfl

namespace Catalog

variable {c : Catalog}

/-! ## Unresolved names -/

/-- A name with an entry has a type, and a name without one has none. -/
theorem has_eq_false_iff {name : String} : c.has name = false ↔ c.get? name = none := by
  rw [has, Option.isSome_eq_false_iff, Option.isNone_iff_eq_none]

/-- Every name inside a stored type has an entry. -/
def Closed (c : Catalog) : Prop :=
  ∀ entry ∈ c.entries, ∀ name, entry.2.Contains (.named name) → c.has name = true

/-- The unresolved names are those that occur inside a stored type and have no entry. -/
theorem mem_unresolved_iff {name : String} :
    name ∈ c.unresolved ↔
      (∃ entry ∈ c.entries, entry.2.Contains (.named name)) ∧ c.has name = false := by
  simp [unresolved, referencedNames, CType.mem_references_iff]

theorem unresolved_eq_nil_iff : c.unresolved = [] ↔ c.Closed := by
  constructor
  · intro h entry hentry name hname
    by_contra hhas
    have hmem : name ∈ c.unresolved :=
      mem_unresolved_iff.2 ⟨⟨entry, hentry, hname⟩, Bool.eq_false_iff.2 hhas⟩
    rw [h] at hmem
    cases hmem
  · intro h
    rw [List.eq_nil_iff_forall_not_mem]
    intro name hmem
    obtain ⟨⟨entry, hentry, hname⟩, hhas⟩ := mem_unresolved_iff.1 hmem
    rw [h entry hentry name hname] at hhas
    cases hhas

/-! ## Following references -/

/-- A type that is no reference stands for itself. -/
theorem resolve?_of_not_named {t : CType} (h : t.isNamed = false) : c.resolve? t = some t := by
  rw [resolve?]
  cases t with
  | named => cases h
  | _ => rfl

/-- A reference stands for the entry of its name, if no entry is a reference again. -/
theorem resolve?_named (hc : ∀ entry ∈ c.entries, entry.2.isNamed = false) (name : String) :
    c.resolve? (.named name) = c.get? name := by
  rw [resolve?, follow?]
  cases hget : c.get? name with
  | none => rfl
  | some t =>
      have hmem : (name, t) ∈ c.entries := get?_eq_some_iff.1 hget
      -- The entry itself takes up one step of those that the catalog allows.
      have hpos : 0 < c.size := List.length_pos_of_mem hmem
      obtain ⟨n, hn⟩ := Nat.exists_eq_succ_of_ne_zero (Nat.ne_of_gt hpos)
      have ht := hc _ hmem
      rw [Option.bind_some, hn]
      cases t with
      | named => cases ht
      | _ => rfl

theorem resolveName?_eq (hc : ∀ entry ∈ c.entries, entry.2.isNamed = false) (name : String) :
    c.resolveName? name = c.get? name := by
  rw [resolveName?]
  cases hget : c.get? name with
  | none => rfl
  | some t => exact resolve?_of_not_named (hc _ (get?_eq_some_iff.1 hget))

/-- Where no entry is a reference, a reference leads nowhere only if its name has no entry. -/
theorem eq_named_of_resolve?_eq_none (hc : ∀ entry ∈ c.entries, entry.2.isNamed = false)
    {t : CType} (h : c.resolve? t = none) : ∃ name, t = .named name ∧ c.has name = false := by
  cases t with
  | named name =>
      rw [resolve?_named hc] at h
      exact ⟨name, rfl, has_eq_false_iff.2 h⟩
  | _ =>
      rw [resolve?_of_not_named rfl] at h
      cases h

/-! ## Catalogs of documents -/

/-- What a document stores under a name is a struct, union or enum. -/
theorem isGroup_of_ofDocument {d : Document} {strict : Bool}
    (h : (ofDocument d strict).1 = .ok c) : ∀ entry ∈ c.entries, entry.2.isGroup = true := by
  intro entry hentry
  rw [ofDocument_eq_reading] at h
  obtain ⟨trace, hreads⟩ := Session.reads_readRecords Store.catalog d.named.children empty
    (Session.start d strict)
  obtain ⟨entries, hcontents, hruns⟩ := hreads.exists_entries (I := fun _ => True)
    (fun _ _ _ _ => trivial) (fun _ _ _ => trivial) trivial
  rw [Store.addAll_catalog] at hcontents
  have hc : c = empty.insertAll entries := by
    rw [← hcontents]
    cases hr : (d.reading strict Store.catalog empty).result with
    | error e => rw [hr] at h; cases h
    | ok n => rw [hr] at h; exact (Except.ok.inj h).symm
  rw [hc] at hentry
  rcases mem_entries_insertAll hentry with hnone | hmem
  · cases hnone
  · obtain ⟨record, -, _, _, _, -, hrun⟩ := hruns entry hmem
    exact hrun.yields Record.shape_content (Record.shape_namedGroup record)

/-- **References in the catalog of a document.**  Only structs, unions and enums are stored, so that
a reference stands for the entry of its name and for nothing if there is none: no chain of
references goes in a circle.  The check of a document succeeds exactly if no name is unresolved, and
then every reference inside a stored type, at any depth, stands for a stored struct, union or
enum. -/
theorem resolution_ofDocument {d : Document} {strict : Bool}
    (h : (ofDocument d strict).1 = .ok c) :
    (∀ entry ∈ c.entries, entry.2.isComposite = true) ∧
      (∀ name, c.resolve? (.named name) = c.get? name ∧ c.resolveName? name = c.get? name) ∧
      (∀ t, c.resolve? t = none → ∃ name, t = .named name ∧ c.has name = false) ∧
      (∀ {m : Type → Type} [Monad m] (files : CommandLine.Files m) (path : String),
        ∃ outcome, CommandLine.perform files (.checkTypes path) c = pure outcome ∧
          (outcome.exitCode = 0 ↔ c.unresolved = [])) ∧
      (c.unresolved = [] → ∀ entry ∈ c.entries, ∀ name, entry.2.Contains (.named name) →
        ∃ t, c.resolve? (.named name) = some t ∧ t.isComposite = true ∧
          (name, t) ∈ c.entries) := by
  have hcomposite : ∀ entry ∈ c.entries, entry.2.isComposite = true := by
    intro entry hentry
    have hgroup := isGroup_of_ofDocument h entry hentry
    rw [CType.isGroup, Bool.and_eq_true] at hgroup
    exact hgroup.1
  have hc : ∀ entry ∈ c.entries, entry.2.isNamed = false := fun entry hentry =>
    CType.isNamed_of_isComposite (hcomposite entry hentry)
  refine ⟨hcomposite, fun name => ⟨resolve?_named hc name, resolveName?_eq hc name⟩,
    fun t => eq_named_of_resolve?_eq_none hc, ?_, ?_⟩
  · intro m _ files path
    refine ⟨_, rfl, ?_⟩
    by_cases hnil : c.unresolved = []
    · simp [CommandLine.Outcome.exitCode, hnil]
    · simp [CommandLine.Outcome.exitCode, hnil]
  · intro hnil entry hentry name hname
    have hhas := unresolved_eq_nil_iff.1 hnil entry hentry name hname
    obtain ⟨t, hget⟩ := Option.isSome_iff_exists.1 hhas
    have hmem := get?_eq_some_iff.1 hget
    exact ⟨t, by rw [resolve?_named hc, hget], hcomposite _ hmem, hmem⟩

end Catalog

/-- A document of a struct and a union that refer to each other, the union by the parameter of a
function and with qualifiers. -/
def Document.linked : Document where
  root := .mk "types" [] [
    .mk "funcs" [] [.mk "func" [("id", "0")] [.mk "arg" [("base", "$A"), ("attr", "CONST")] []]],
    .mk "unnamed" [] [],
    .mk "named" [] [
      .mk "struct" [("name", "A")]
        [.mk "field" [("name", "b"), ("base", "$B"), ("wrap", "p a 2")] []],
      .mk "union" [("name", "B")]
        [.mk "field" [("name", "a"), ("base", ".VOID"), ("wrap", "F 0 p")] []]]]
  complete := by decide

/-- The catalog of this document. -/
def Catalog.linked : Catalog where
  entries := [
    ("A", .struct [("b", .array (.pointer (.named "B")) 2)]),
    ("B", .union [("a", .pointer (.function (.primitive .void) .stdcall
      [.qualified (.named "A") { const := true }]))])]
  distinct := by decide

/-- The name in the parameter of the union stands for the struct. -/
theorem Catalog.resolution_ofDocument_linked :
    (ofDocument .linked true).1 = .ok linked ∧ linked.unresolved = [] ∧
      linked.resolve? (.named "A") = linked.get? "A" ∧
      ∃ t, linked.resolve? (.named "A") = some t ∧ t.isComposite = true ∧
        ("A", t) ∈ linked.entries := by
  have hdecoded : (ofDocument .linked true).1 = .ok linked := by decide +kernel
  obtain ⟨-, hresolve, -, -, hclosed⟩ := resolution_ofDocument hdecoded
  have hnil : linked.unresolved = [] := by decide +kernel
  have hentry : ("B", CType.union [("a", .pointer (.function (.primitive .void) .stdcall
      [.qualified (.named "A") { const := true }]))]) ∈ linked.entries := by decide
  refine ⟨hdecoded, hnil, (hresolve "A").1, hclosed hnil _ hentry "A" ?_⟩
  exact CType.mem_references_iff.1 (by decide)

end DebugTypes
