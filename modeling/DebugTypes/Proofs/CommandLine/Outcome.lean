import DebugTypes.CommandLine.Run
import DebugTypes.Proofs.Catalog.Resolution
import Mathlib.Data.String.Basic

/-!
# The outcome of a command line

Every command loads its document first.  Until the catalog is there nothing is printed and no file
is written, so that a document that does not load leaves nothing behind but the report of the
failure.  With the catalog at hand, a command needs at most one thing more, and the exit code tells
whether it had it.

The files are any that are read and written one operation after the other: `W` is what they make up,
and a command leaves it as its reading and its writing do.

## Main definitions

* `firstLine` — the first line of a text.
* `Invocation.Loads` — a file holds a document that decodes to a catalog.
* `Command.Succeeds` — what a command needs besides the catalog.
* `Outcome.Refuses` — a failure before anything was printed.
* `Folder.IsName` — a path that is the name of a file in a folder.

## Main statements

* `Failure.firstLine_report` — a report begins with what was tried.
* `failure_perform` — a command fails exactly if it does not have what it needs.
* `Folder.IsName.of_notMem` — a text without a slash is a name.
* `Folder.IsName.read_eq`, `Folder.IsName.write_eq` — files of a folder under their names.
* `run_of_arguments` — exit code, output and files after any command line.
-/

namespace DebugTypes.CommandLine

/-! ## Reports -/

/-- The text before the first line break. -/
def firstLine (text : String) : String := String.ofList (text.toList.takeWhile (· != '\n'))

/-- What follows a line break is no part of the first line. -/
theorem firstLine_append {a b : String} {cs : List Char} (h : b.toList = '\n' :: cs) :
    firstLine (a ++ b) = firstLine a := by
  have htake : ∀ l : List Char,
      (l ++ '\n' :: cs).takeWhile (· != '\n') = l.takeWhile (· != '\n') := by
    intro l
    induction l with
    | nil => rfl
    | cons c l ih => simp only [List.cons_append, List.takeWhile_cons, ih]
  rw [firstLine, firstLine, String.toList_append, h, htake]

/-- The report of a failure begins with what was tried. -/
theorem Failure.firstLine_report (f : Failure) :
    firstLine f.report = firstLine ("Error: " ++ f.summary) := by
  rw [report]
  split
  · rfl
  · rw [String.append_assoc]
    apply firstLine_append
    rw [String.toList_append]
    rfl

namespace Outcome

variable {o : Outcome}

theorem exitCode_eq_zero_iff : o.exitCode = 0 ↔ o.failure = none := by
  rw [exitCode]
  cases o.failure <;> simp

theorem exitCode_zero_or_one (o : Outcome) : o.exitCode = 0 ∨ o.exitCode = 1 := by
  rw [exitCode]
  cases o.failure <;> simp

/-- Nothing was printed, and the report of the failure begins with what was tried. -/
def Refuses (o : Outcome) (tried : String) : Prop :=
  o.exitCode = 1 ∧ o.output = "" ∧ firstLine o.report = firstLine ("Error: " ++ tried)

/-- A failure without output is a refusal that says what was tried. -/
theorem refuses_of_failure {f : Failure} {tried : String} (hf : o.failure = some f)
    (ho : o.output = "") (hs : f.summary = tried) : o.Refuses tried := by
  refine ⟨by rw [exitCode, hf]; rfl, ho, ?_⟩
  rw [report, hf, ← hs]
  exact f.firstLine_report

end Outcome

/-! ## Commands -/

section

variable {W : Type} (files : Files (StateM W))

/-- What a command needs of a catalog, and of the files. -/
def Command.Succeeds (command : Command) (c : Catalog) (w : W) : Prop :=
  match command with
  | .listTypes _ _ => True
  | .showType _ name => c.has name = true
  | .writeJson _ none => True
  | .writeJson _ (some output) => (files.write output (c.toJsonText ++ "\n") w).1 = .ok ()
  | .checkTypes _ => c.Closed

theorem perform_writeJson_of_ok {output : String} {c : Catalog} {w w₁ : W}
    (h : files.write output (c.toJsonText ++ "\n") w = (.ok (), w₁)) (path : String) :
    perform files (.writeJson path (some output)) c w =
      ({ log := [.wrote c.size output] }, w₁) := by
  simp only [perform, bind, StateT.bind, h]
  rfl

theorem perform_writeJson_of_error {output : String} {c : Catalog} {fault : FileFault} {w w₁ : W}
    (h : files.write output (c.toJsonText ++ "\n") w = (.error fault, w₁)) (path : String) :
    perform files (.writeJson path (some output)) c w =
      ({ failure := some (.cannotWrite output fault) }, w₁) := by
  simp only [perform, bind, StateT.bind, h]
  rfl

/-- A command with an output file prints nothing, and writes what it would print without one. -/
theorem perform_writeJson (path output : String) (c : Catalog) (w : W) :
    (perform files (.writeJson path (some output)) c w).1.output = "" ∧
      (perform files (.writeJson path (some output)) c w).2 =
        (files.write output (perform files (.writeJson path none) c w).1.output w).2 := by
  change _ ∧ _ = (files.write output (c.toJsonText ++ "\n") w).2
  rcases h : files.write output (c.toJsonText ++ "\n") w with ⟨fault | ⟨⟩, w₁⟩
  · rw [perform_writeJson_of_error files h]
    exact ⟨rfl, rfl⟩
  · rw [perform_writeJson_of_ok files h]
    exact ⟨rfl, rfl⟩

/-- A command fails exactly if it does not have what it needs. -/
theorem failure_perform (command : Command) (c : Catalog) (w : W) :
    (perform files command c w).1.failure = none ↔ command.Succeeds files c w := by
  match command with
  | .listTypes path f => exact iff_of_true rfl trivial
  | .showType path name =>
      simp only [perform, Command.Succeeds, Catalog.has]
      cases c.get? name with
      | none => exact iff_of_false (Option.some_ne_none _) Bool.false_ne_true
      | some t => exact iff_of_true rfl rfl
  | .writeJson path none => exact iff_of_true rfl trivial
  | .writeJson path (some output) =>
      rw [Command.Succeeds]
      rcases h : files.write output (c.toJsonText ++ "\n") w with ⟨fault | ⟨⟩, w₁⟩
      · simp [perform_writeJson_of_error files h]
      · simp [perform_writeJson_of_ok files h]
  | .checkTypes path =>
      simp only [perform, Command.Succeeds, ← Catalog.unresolved_eq_nil_iff]
      cases c.unresolved with
      | nil => exact iff_of_true rfl rfl
      | cons name names => exact iff_of_false (Option.some_ne_none _) (List.cons_ne_nil _ _)

/-- A command without an output file leaves the files alone. -/
theorem world_perform {command : Command}
    (h : ∀ path output, command ≠ .writeJson path (some output)) (c : Catalog) (w : W) :
    (perform files command c w).2 = w := by
  match command with
  | .listTypes path f => rfl
  | .showType path name =>
      simp only [perform]
      cases c.get? name <;> rfl
  | .writeJson path none => rfl
  | .writeJson path (some output) => exact absurd rfl (h path output)
  | .checkTypes path => rfl

/-! ## Invocations -/

/-- A file holds a document that decodes to a catalog. -/
def Invocation.Loads (inv : Invocation) (file : Except FileFault ByteArray) (c : Catalog) : Prop :=
  ∃ d, Document.load file = .ok d ∧ (Catalog.ofDocument d inv.strict).1 = .ok c

section

variable {strict : Bool} {file : Except FileFault ByteArray} {d : Document}

theorem loadCatalog_of_load_error {e : ReadError} (h : Document.load file = .error e)
    (path : String) : loadCatalog path strict file = (.error (.cannotLoad path e), []) := by
  rw [loadCatalog, h]

theorem loadCatalog_of_decode_error {e : ReadError} (h : Document.load file = .ok d)
    (hd : (Catalog.ofDocument d strict).1 = .error e) (path : String) :
    ∃ log, loadCatalog path strict file = (.error (.cannotDecode path e), log) := by
  rcases hr : Catalog.ofDocument d strict with ⟨r, log⟩
  rw [hr] at hd
  cases hd
  simp [loadCatalog, h, hr]

theorem loadCatalog_of_ok {c : Catalog} (h : Document.load file = .ok d)
    (hd : (Catalog.ofDocument d strict).1 = .ok c) (path : String) :
    ∃ log, loadCatalog path strict file = (.ok c, log) := by
  rcases hr : Catalog.ofDocument d strict with ⟨r, log⟩
  rw [hr] at hd
  cases hd
  simp [loadCatalog, h, hr]

end

namespace Invocation

variable {files} {inv : Invocation} {file : Except FileFault ByteArray} {w w₁ : W}
  {log : List Event}

/-- Without a catalog, reading the document is all that is done. -/
theorem run_of_error {f : Failure} (hread : files.read inv.command.path w = (file, w₁))
    (h : loadCatalog inv.command.path inv.strict file = (.error f, log)) :
    inv.run files w =
      (({ log, failure := some f } : Outcome).atVerbosity inv.verbosity, w₁) := by
  simp only [Invocation.run, bind, StateT.bind, hread, h]
  rfl

/-- With a catalog the command is performed. -/
theorem run_of_ok {c : Catalog} (hread : files.read inv.command.path w = (file, w₁))
    (h : loadCatalog inv.command.path inv.strict file = (.ok c, log)) :
    inv.run files w =
      let performed := perform files inv.command c w₁
      ({ performed.1 with log := log ++ performed.1.log }.atVerbosity inv.verbosity,
        performed.2) := by
  simp only [Invocation.run, bind, StateT.bind, hread, h]
  rfl

/-- A document does not load, or does not decode, or there is its catalog. -/
theorem loads_cases (inv : Invocation) (file : Except FileFault ByteArray) :
    (∃ e, Document.load file = .error e) ∨
      (∃ d e, Document.load file = .ok d ∧ (Catalog.ofDocument d inv.strict).1 = .error e) ∨
      ∃ c, inv.Loads file c := by
  cases hl : Document.load file with
  | error e => exact .inl ⟨e, rfl⟩
  | ok d =>
      cases hd : (Catalog.ofDocument d inv.strict).1 with
      | error e => exact .inr (.inl ⟨d, e, rfl, hd⟩)
      | ok c => exact .inr (.inr ⟨c, d, hl, hd⟩)

theorem not_loads_of_load_error {e : ReadError} (h : Document.load file = .error e)
    (c : Catalog) : ¬ inv.Loads file c := by
  rintro ⟨d, hl, -⟩
  rw [h] at hl
  cases hl

theorem not_loads_of_decode_error {d : Document} {e : ReadError} (h : Document.load file = .ok d)
    (hd : (Catalog.ofDocument d inv.strict).1 = .error e) (c : Catalog) : ¬ inv.Loads file c := by
  rintro ⟨d', hl, hc⟩
  rw [h] at hl
  cases hl
  rw [hd] at hc
  cases hc

theorem Loads.unique {c c' : Catalog} (h : inv.Loads file c) (h' : inv.Loads file c') :
    c = c' := by
  obtain ⟨d, hl, hd⟩ := h
  obtain ⟨d', hl', hd'⟩ := h'
  rw [hl] at hl'
  cases hl'
  rw [hd] at hd'
  cases hd'
  rfl

/-- A document that does not load is refused. -/
theorem run_of_load_error {e : ReadError} (hread : files.read inv.command.path w = (file, w₁))
    (h : Document.load file = .error e) :
    (inv.run files w).1.Refuses s!"Failed to load type database: {inv.command.path}" ∧
      (inv.run files w).2 = w₁ := by
  rw [run_of_error hread (loadCatalog_of_load_error h _)]
  exact ⟨Outcome.refuses_of_failure rfl rfl (by dsimp only [Failure.summary]), rfl⟩

/-- A document that does not decode is refused. -/
theorem run_of_decode_error {d : Document} {e : ReadError}
    (hread : files.read inv.command.path w = (file, w₁)) (h : Document.load file = .ok d)
    (hd : (Catalog.ofDocument d inv.strict).1 = .error e) :
    (inv.run files w).1.Refuses s!"Failed to decode types from {inv.command.path}" ∧
      (inv.run files w).2 = w₁ := by
  obtain ⟨log, hload⟩ := loadCatalog_of_decode_error h hd inv.command.path
  rw [run_of_error hread hload]
  exact ⟨Outcome.refuses_of_failure rfl rfl (by dsimp only [Failure.summary]), rfl⟩

/-- With a catalog, the command decides over failure, output and files. -/
theorem run_of_loads {c : Catalog} (hread : files.read inv.command.path w = (file, w₁))
    (h : inv.Loads file c) :
    let performed := perform files inv.command c w₁
    (inv.run files w).1.failure = performed.1.failure ∧
      (inv.run files w).1.output = performed.1.output ∧ (inv.run files w).2 = performed.2 := by
  obtain ⟨d, hl, hd⟩ := h
  obtain ⟨log, hload⟩ := loadCatalog_of_ok hl hd inv.command.path
  rw [run_of_ok hread hload]
  exact ⟨rfl, rfl, rfl⟩

/-- The exit code is zero exactly if the command had all that it needs. -/
theorem exitCode_run_eq_zero_iff (hread : files.read inv.command.path w = (file, w₁)) :
    (inv.run files w).1.exitCode = 0 ↔
      ∃ c, inv.Loads file c ∧ inv.command.Succeeds files c w₁ := by
  rcases loads_cases inv file with ⟨e, hl⟩ | ⟨d, e, hl, hd⟩ | ⟨c, hc⟩
  · have hone := (run_of_load_error hread hl).1.1
    simp [hone, not_loads_of_load_error hl]
  · have hone := (run_of_decode_error hread hl hd).1.1
    simp [hone, not_loads_of_decode_error hl hd]
  · rw [Outcome.exitCode_eq_zero_iff, (run_of_loads hread hc).1, failure_perform]
    constructor
    · intro h
      exact ⟨c, hc, h⟩
    · rintro ⟨c', hc', h⟩
      rwa [hc.unique hc']

/-- A type that is not there is refused. -/
theorem run_of_missing {c : Catalog} {path name : String}
    (hread : files.read path w = (file, w₁)) (hcommand : inv.command = .showType path name)
    (hc : inv.Loads file c) (hname : c.has name = false) :
    (inv.run files w).1.Refuses s!"Type '{name}' not found in {path}" ∧
      (inv.run files w).2 = w₁ := by
  have hread : files.read inv.command.path w = (file, w₁) := by rwa [hcommand]
  obtain ⟨hfailure, houtput, hworld⟩ := run_of_loads hread hc
  have hperform : perform files inv.command c w₁ =
      ({ failure := some (.noSuchType name path) }, w₁) := by
    rw [hcommand, perform, Catalog.has_eq_false_iff.1 hname]
    rfl
  rw [hperform] at hfailure houtput hworld
  exact ⟨Outcome.refuses_of_failure hfailure houtput (by dsimp only [Failure.summary]), hworld⟩

/-- Without an output file nothing is written. -/
theorem world_run (hread : files.read inv.command.path w = (file, w₁))
    (h : ∀ path output, inv.command ≠ .writeJson path (some output)) :
    (inv.run files w).2 = w₁ := by
  rcases loads_cases inv file with ⟨e, hl⟩ | ⟨d, e, hl, hd⟩ | ⟨c, hc⟩
  · exact (run_of_load_error hread hl).2
  · exact (run_of_decode_error hread hl hd).2
  · rw [(run_of_loads hread hc).2.2, world_perform files h]

/-- With an output file nothing is printed. -/
theorem output_run_writeJson {path output : String} (hread : files.read path w = (file, w₁))
    (h : inv.command = .writeJson path (some output)) : (inv.run files w).1.output = "" := by
  have hread : files.read inv.command.path w = (file, w₁) := by rwa [h]
  rcases loads_cases inv file with ⟨e, hl⟩ | ⟨d, e, hl, hd⟩ | ⟨c, hc⟩
  · exact (run_of_load_error hread hl).1.2.1
  · exact (run_of_decode_error hread hl hd).1.2.1
  · rw [(run_of_loads hread hc).2.1, h, (perform_writeJson files path output c w₁).1]

/-- What is written to the output file is what is printed without one. -/
theorem world_run_writeJson {c : Catalog} {path output : String}
    (hread : files.read path w = (file, w₁)) (h : inv.command = .writeJson path (some output))
    (hc : inv.Loads file c) :
    let printed := ({ inv with command := .writeJson path none }.run files w).1.output
    (inv.run files w).2 = (files.write output printed w₁).2 := by
  let plain : Invocation := { inv with command := .writeJson path none }
  have hplain : plain.Loads file c := hc
  have hprinted := run_of_loads hread hplain
  have hread : files.read inv.command.path w = (file, w₁) := by rwa [h]
  intro printed
  rw [(run_of_loads hread hc).2.2, h, (perform_writeJson files path output c w₁).2,
    ← hprinted.2.1]

end Invocation

end

/-! ## A folder -/

/-- What is left of a text is not split at a character that does not occur in it. -/
theorem splitOnAux_of_notMem {c : Char} (l r : List Char) (h : c ∉ r) :
    (String.ofList (l ++ r)).splitOnAux (String.singleton c) 0 ⟨String.utf8Len l⟩ 0 [] =
      [String.ofList (l ++ r)] := by
  -- On what is behind the position.  No separator begins there, so that the part stays open from
  -- the front on and the position in the separator stays zero.
  induction r generalizing l with
  | nil =>
      have hextract := String.extract_of_valid [] l []
      rw [String.splitOnAux, if_pos ((String.atEnd_of_valid l []).2 rfl)]
      simpa using hextract
  | cons d r ih =>
      obtain ⟨hd, hr⟩ : c ≠ d ∧ c ∉ r := by simpa using h
      have hend : ¬ String.Pos.Raw.atEnd (String.ofList (l ++ d :: r)) ⟨String.utf8Len l⟩ :=
        fun hend => List.cons_ne_nil d r ((String.atEnd_of_valid l (d :: r)).1 hend)
      have hget : String.Pos.Raw.get (String.ofList (l ++ d :: r)) ⟨String.utf8Len l⟩ = d :=
        String.get_of_valid l (d :: r)
      have hsep : String.Pos.Raw.get (String.singleton c) 0 = c := String.get_of_valid [] [c]
      have hnext : String.Pos.Raw.next (String.ofList (l ++ d :: r)) ⟨String.utf8Len l⟩ =
          ⟨String.utf8Len (l ++ [d])⟩ := by
        rw [String.next_of_valid, String.utf8Len_append]
        simp
      have hrest := ih (l ++ [d]) hr
      rw [List.append_assoc, List.singleton_append, ← hnext] at hrest
      rw [String.splitOnAux, if_neg hend, hget, hsep, if_neg (by simpa using Ne.symm hd)]
      exact hrest

/-- A text is not split at a character that does not occur in it. -/
theorem splitOn_of_notMem {c : Char} {s : String} (h : c ∉ s.toList) :
    s.splitOn (String.singleton c) = [s] := by
  have haux := splitOnAux_of_notMem [] s.toList h
  rw [List.nil_append, String.ofList_toList] at haux
  rw [String.splitOn, if_neg (by simp)]
  exact haux

namespace Folder

/-- A path that is the name of a file in the folder itself. -/
structure IsName (name : String) : Prop where
  names : (name.splitOn "/").filter (fun part => !part.isEmpty) = [name]
  relative : name.startsWith "/" = false
  asFile : name.endsWith "/" = false
  notInside : name ≠ "."
  notAround : name ≠ ".."
  short : name.utf8ByteSize ≤ nameLimit

namespace IsName

variable {folder : Folder} {name : String}

/-- A text without a slash is the name of a file, unless it leads to a folder or is too long. -/
theorem of_notMem (hslash : '/' ∉ name.toList) (hempty : name ≠ "") (hinside : name ≠ ".")
    (haround : name ≠ "..") (hshort : name.utf8ByteSize ≤ nameLimit) : IsName name where
  names := by
    have hsplit : name.splitOn "/" = [name] := splitOn_of_notMem hslash
    rw [hsplit, List.filter_singleton, String.isEmpty_eq_false_iff.2 hempty]
    rfl
  relative := by
    rw [String.startsWith_string_eq_false_iff]
    exact fun hstart => hslash (hstart.subset (List.mem_singleton_self '/'))
  asFile := by
    rw [String.endsWith_eq_endsWith_toSlice, String.Slice.endsWith_string_eq_false_iff,
      String.copy_toSlice]
    exact fun hend => hslash (hend.subset (List.mem_singleton_self '/'))
  notInside := hinside
  notAround := haround
  short := hshort

theorem target_eq (h : IsName name) (folder : Folder) :
    folder.target name = .ok (.entry .inside name false) := by
  have hempty : name.isEmpty = false := by
    have hmem : name ∈ (name.splitOn "/").filter fun part => !part.isEmpty := by
      rw [h.names]
      exact List.mem_singleton_self name
    simpa using List.of_mem_filter hmem
  have hlimit : ¬ pathLimit ≤ name.utf8ByteSize := by
    have hshort := h.short
    rw [nameLimit] at hshort
    rw [pathLimit]
    omega
  rw [target, hempty, if_neg hlimit, h.names, h.relative, h.asFile]
  simp [follow, h.notInside, h.notAround, Location.child?]

/-- The file of a name is read. -/
theorem read_eq (h : IsName name) {contents : ByteArray} (hget : folder.get? name = some contents) :
    files.read name folder = (.ok contents, folder) := by
  have hread : folder.read name = .ok contents := by
    simp [read, h.target_eq, bind, Except.bind, h.short, contents?, hget]
  change (folder.read name, folder) = _
  rw [hread]

/-- The file of a name holds what was written to it. -/
theorem write_eq (h : IsName name) (text : String) :
    files.write name text folder = (.ok (), folder.put name text.toUTF8) := by
  have hwrite : folder.write name text = .ok (folder.put name text.toUTF8) := by
    simp [write, h.target_eq, bind, Except.bind, h.short]
  simp only [files, bind, StateT.bind, get, getThe, MonadStateOf.get, StateT.get, pure, hwrite]
  rfl

end IsName

end Folder

/-- The file of a document with one enum, which has no constants. -/
def oneEnum : ByteArray := "<d><f/><u/><n><enum name=\"E\"/></n></d>".toUTF8

theorem eq_ok_of_toOption {ε α : Type} {r : Except ε α} {a : α} (h : r.toOption = some a) :
    r = .ok a := by
  cases r with
  | error e => cases h
  | ok b =>
      cases h
      rfl

theorem loads_oneEnum (command : Command) (verbosity : Nat) :
    Invocation.Loads ⟨command, false, verbosity⟩ (.ok oneEnum)
      (Catalog.ofList [("E", .enum [])]) := by
  have hdecoded : (Document.load (.ok oneEnum)).toOption.bind
      (fun d => (Catalog.ofDocument d false).1.toOption) =
        some (Catalog.ofList [("E", .enum [])]) := by decide +kernel
  obtain ⟨d, hload, hdecode⟩ := Option.bind_eq_some_iff.1 hdecoded
  exact ⟨d, eq_ok_of_toOption hload, eq_ok_of_toOption hdecode⟩

/-! ## Command lines -/

/-- **The exit code is exact, and a failure leaves nothing half done.**  It is zero exactly if the
document loads and decodes and the command has what it needs besides, and one otherwise.  A document
that does not load or decode, or does not have the type to be shown, is refused with nothing printed
and no file written.  A command with an output file prints nothing and writes what it would print
without one, and no other command writes to any file. -/
theorem run_of_arguments {W : Type} (files : Files (StateM W)) {args : List String}
    {inv : Invocation} (h : Invocation.ofArguments? args = some inv) (w : W) :
    let path := inv.command.path
    let file := (files.read path w).1
    let w₁ := (files.read path w).2
    ∃ outcome w₂, run files args w = (some outcome, w₂) ∧
      (outcome.exitCode = 0 ↔ ∃ c, inv.Loads file c ∧ inv.command.Succeeds files c w₁) ∧
      (outcome.exitCode = 0 ∨ outcome.exitCode = 1) ∧
      (∀ e, Document.load file = .error e →
        outcome.Refuses s!"Failed to load type database: {path}" ∧ w₂ = w₁) ∧
      (∀ d e, Document.load file = .ok d → (Catalog.ofDocument d inv.strict).1 = .error e →
        outcome.Refuses s!"Failed to decode types from {path}" ∧ w₂ = w₁) ∧
      (∀ c name, inv.Loads file c → inv.command = .showType path name → c.has name = false →
        outcome.Refuses s!"Type '{name}' not found in {path}" ∧ w₂ = w₁) ∧
      (∀ output, inv.command = .writeJson path (some output) → outcome.output = "" ∧
        ∀ c, inv.Loads file c →
          let plain : Invocation := { inv with command := .writeJson path none }
          ∃ printed, plain.run files w = (printed, w₁) ∧
            (∀ others, Invocation.ofArguments? others = some plain →
              run files others w = (some printed, w₁)) ∧
            w₂ = (files.write output printed.output w₁).2) ∧
      ((∀ output, inv.command ≠ .writeJson path (some output)) → w₂ = w₁) := by
  have hrun : ∀ {args inv}, Invocation.ofArguments? args = some inv →
      run files args w = (some (inv.run files w).1, (inv.run files w).2) := by
    intro args inv h
    rw [run, h]
    rfl
  refine ⟨_, _, hrun h, Invocation.exitCode_run_eq_zero_iff rfl, Outcome.exitCode_zero_or_one _,
    fun e he => Invocation.run_of_load_error rfl he,
    fun d e hl hd => Invocation.run_of_decode_error rfl hl hd,
    fun c name hc hcommand hname => Invocation.run_of_missing rfl hcommand hc hname,
    fun output hcommand => ⟨Invocation.output_run_writeJson rfl hcommand, fun c hc => ?_⟩,
    fun hcommand => Invocation.world_run rfl ?_⟩
  · have hplain : (({ inv with command := .writeJson inv.command.path none } : Invocation).run
        files w).2 = (files.read inv.command.path w).2 := Invocation.world_run rfl (by simp)
    refine ⟨_, Prod.ext rfl hplain, fun others hothers => ?_,
      Invocation.world_run_writeJson rfl hcommand hc⟩
    rw [hrun hothers, hplain]
  · intro path output hpath
    apply hcommand output
    rw [hpath]
    rfl

/-- A catalog is written to a file of its folder as it is printed without one. -/
theorem run_of_arguments_oneEnum :
    let folder : Folder := [("t", oneEnum)]
    ∃ outcome after, run Folder.files ["json", "t", "-o", "o"] folder = (some outcome, after) ∧
      outcome.exitCode = 0 ∧ outcome.output = "" ∧
      ∃ printed, run Folder.files ["json", "t"] folder = (some printed, folder) ∧
        after = folder.put "o" printed.output.toUTF8 := by
  intro folder
  let inv : Invocation := ⟨.writeJson "t" (some "o"), false, 0⟩
  have hargs : Invocation.ofArguments? ["json", "t", "-o", "o"] = some inv := rfl
  have hothers : Invocation.ofArguments? ["json", "t"] =
      some { inv with command := .writeJson "t" none } := rfl
  have hname : Folder.IsName "t" :=
    Folder.IsName.of_notMem (by decide) (by decide) (by decide) (by decide) (by decide)
  have hout : Folder.IsName "o" :=
    Folder.IsName.of_notMem (by decide) (by decide) (by decide) (by decide) (by decide)
  have hread : Folder.files.read inv.command.path folder = (.ok oneEnum, folder) :=
    hname.read_eq rfl
  have hloads := loads_oneEnum inv.command inv.verbosity
  obtain ⟨outcome, after, hrun, hexit, -, -, -, -, hjson, -⟩ :=
    run_of_arguments Folder.files hargs folder
  rw [hread] at hexit hjson
  obtain ⟨houtput, hjson⟩ := hjson "o" rfl
  obtain ⟨printed, -, hprinted, hafter⟩ := hjson _ hloads
  rw [hout.write_eq] at hafter
  refine ⟨outcome, after, hrun, hexit.2 ⟨_, hloads, ?_⟩, houtput, printed,
    hprinted _ hothers, hafter⟩
  exact congrArg Prod.fst (hout.write_eq _)

end DebugTypes.CommandLine
