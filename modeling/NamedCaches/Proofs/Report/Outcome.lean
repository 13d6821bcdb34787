import NamedCaches.Proofs.Report.Shutdown
import NamedCaches.Proofs.Json.Order
import NamedCaches.Proofs.Registry.Failures
set_option autoImplicit false
/-!
# How a report ends

A run of the report on given files and environment (`Report.run (Host.ofFiles files env)`)
reads its variables from the environment, or from the `.env` file for those the environment
leaves unset (`Report.setting`). It then ends in one of two ways.

* It fails, with exit code 1, exactly when the configured path names no regular file, the
  file is not UTF-8 text, the text is no configuration document (a configuration error of
  source `document`), or the document's registry cannot give the selected manager
  (`Report.Refusal`). Whether the registry gives a manager does not depend on what the log
  holds: the properties loaders and their factory answer by what they are given alone.
* Otherwise it succeeds (`Report.Resolved`): after the lines it wrote while resolving, the log
  holds one settings line per usable cache, then one warning per failed cache, each group in
  strictly increasing name order, since the document's caches are read in key order; shutting
  the manager down adds lines after these and leaves every usable cache disposed.

The manager is the variable `CACHE_BRIDGE_MANAGER`, trimmed; it is the default manager when the
variable is unset, blank or `default` in any ASCII case (`String.toLower` changes only ASCII
letters). The main statement is `Report.run_outcome`.
-/

namespace NamedCaches

open Json

/-! ## The usable and failed caches of a build -/

namespace Built

variable {L E H S : Type} {manager : Option String} {ds : Declarations}
  {us : List (String × Cache L E H S)} {fs : List (String × Failure)}

/-- The usable caches are declared caches, in declaration order. -/
theorem sublist_caches (h : Built manager ds us fs) :
    (us.map Prod.fst).Sublist (ds.map Prod.fst) := by
  induction h with
  | nil => exact List.Sublist.slnil
  | usable _ _ ih => exact ih.cons_cons _
  | failed _ ih => exact ih.cons _

/-- The failed caches are declared caches, in declaration order. -/
theorem sublist_failed (h : Built manager ds us fs) :
    (fs.map Prod.fst).Sublist (ds.map Prod.fst) := by
  induction h with
  | nil => exact List.Sublist.slnil
  | usable _ _ ih => exact ih.cons _
  | failed _ ih => exact ih.cons_cons _

end Built

namespace Report

/-! ## What the report reads -/

/-- The variables a `.env` file in the working directory sets for those the environment leaves
unset; none without such a file. -/
def envFileVars (files : Files) (env : List (String × String)) : List (String × String) :=
  match files.lookup ".env" with
  | .ok (.file bytes) =>
    EnvFile.load (m := Id) (fun k => pure (Host.lookupVar env k)) (EnvFile.ofBytes bytes)
  | _ => []

/-- A variable as the report reads it: the environment's value, or else the `.env` file's. -/
def setting (files : Files) (env : List (String × String)) (k : String) : Option String :=
  (Host.lookupVar env k).or ((envFileVars files env).lookup k)

/-- The path of the document: `CACHE_BRIDGE_CONFIG`, or `cache-bridge.json`. -/
def configPath (files : Files) (env : List (String × String)) : String :=
  (setting files env "CACHE_BRIDGE_CONFIG").getD defaultPath

/-- The manager the report asks for. -/
def selectedManager (files : Files) (env : List (String × String)) : Option String :=
  managerOf (setting files env "CACHE_BRIDGE_MANAGER")

/-- The filter of the log lines the report prints. -/
def filterOf (files : Files) (env : List (String × String)) : Filter :=
  Filter.ofSetting (setting files env "RUST_LOG")

/-- Reading a variable in the report is reading it from the environment, then from `.env`. -/
theorem run_ofFiles (files : Files) (env : List (String × String)) :
    run (Host.ofFiles files env) =
      runWith (Host.ofFiles files env) fun k => pure (setting files env k) := by
  unfold run setting envFileVars
  simp only [Host.ofFiles, pure_bind]
  -- whatever the `.env` file gives, a variable is the environment's or else the file's
  rcases files.lookup ".env" with e | bytes | _ | bytes
  all_goals
    refine congrArg (runWith _) (funext fun k => ?_)
    cases Host.lookupVar env k <;> rfl

/-! ## The manager asked for -/

/-- No manager is named when the variable is unset, blank or `default` in any ASCII case. -/
theorem managerOf_eq_none_iff (v : Option String) :
    managerOf v = none ↔
      ∀ raw, v = some raw → Text.trim raw = "" ∨ (Text.trim raw).toLower = "default" := by
  cases v with
  | none => simp [managerOf]
  | some raw =>
    simp only [managerOf, Option.bind_some, Option.some.injEq, forall_eq']
    split
    · rename_i h
      simp only [Bool.or_eq_true, String.isEmpty_iff, beq_iff_eq] at h
      simpa using h
    · rename_i h
      simp only [Bool.or_eq_true, String.isEmpty_iff, beq_iff_eq] at h
      simpa using h

/-- A manager is named by the variable's trimmed value when that is not blank and not
`default` in any ASCII case. -/
theorem managerOf_eq_some_iff (v : Option String) (n : String) :
    managerOf v = some n ↔
      ∃ raw, v = some raw ∧ Text.trim raw = n ∧ n ≠ "" ∧ n.toLower ≠ "default" := by
  cases v with
  | none => simp [managerOf]
  | some raw =>
    simp only [managerOf, Option.bind_some, Option.some.injEq, exists_eq_left']
    split
    · rename_i h
      simp only [Bool.or_eq_true, String.isEmpty_iff, beq_iff_eq] at h
      constructor
      · intro h'
        cases h'
      · rintro ⟨rfl, hn, hd⟩
        exact absurd h (by simp [hn, hd])
    · rename_i h
      simp only [Bool.or_eq_true, String.isEmpty_iff, beq_iff_eq, not_or] at h
      rw [Option.some_inj]
      constructor
      · rintro rfl
        exact ⟨rfl, h⟩
      · rintro ⟨rfl, -⟩
        rfl

/-! ## The report's registry -/

/-- The manager a report can resolve. -/
abbrev ReportManager := Manager PropertiesLoader NullSink LoggingHandler Engine

/-- A properties loader answers its clone and its `init` by itself and the cache's name alone. -/
theorem propertiesLoader_steady : SteadyLoaders PropertiesLoader Console :=
  fun _ _ => ⟨fun _ _ => rfl, fun _ _ => rfl⟩

/-- A document's registry has only the properties loaders' factory, which answers by what it is
given alone, and no handler factory. -/
theorem registryOf_steady (doc : Document) : (registryOf doc).SteadyFactories where
  handlers _ _ h := by cases h
  loaders k f h := by
    have hmem := mem_of_lookup_eq_some h
    simp only [registryOf, List.mem_singleton, Prod.mk.injEq] at hmem
    obtain ⟨-, rfl⟩ := hmem
    exact ⟨fun _ _ _ => rfl, fun _ _ _ _ => rfl⟩

/-- Whether a document's registry gives the manager of a name, and with which failure, does not
depend on what the log holds. -/
theorem getManager_failure_eq (doc : Document) (n : Option String) (w w' : Console) :
    failureOf (((Registry.getManager n).run (registryOf doc)).run w).1.1 =
      failureOf (((Registry.getManager n).run (registryOf doc)).run w').1.1 := by
  have hl : (registryOf doc).managers.lookup n = none := rfl
  rw [Registry.getManager_miss_result _ hl, Registry.getManager_miss_result _ hl]
  have h := Registry.build_outcome (registryOf doc) (registryOf_steady doc)
    propertiesLoader_steady n w'
  rw [(h w).1, (h w').1]

/-- A manager a document's registry gives holds its usable caches and its failed caches each
in strictly increasing name order, and its usable caches are alive. -/
theorem getManager_ordered {doc : Document} {n : Option String} {w : Console} {m : ReportManager}
    (h : (((Registry.getManager n).run (registryOf doc)).run w).1.1 = .ok m) :
    m.cacheNames.Pairwise (· < ·) ∧ (m.failed.map Prod.fst).Pairwise (· < ·) ∧
      ∀ p ∈ m.caches, p.2.status = .alive := by
  have hl : (registryOf doc).managers.lookup n = none := rfl
  rw [Registry.getManager_miss_result _ hl] at h
  obtain ⟨ds, hds, ho⟩ := (Registry.build_outcome (registryOf doc) (registryOf_steady doc)
    propertiesLoader_steady n w w).2 m h
  have hsorted : (ds.map Prod.fst).Pairwise (· < ·) := Registry.declarationsFor_sorted _ hds
  exact ⟨hsorted.sublist ho.built.sublist_caches, hsorted.sublist ho.built.sublist_failed,
    ho.alive⟩

/-! ## Resolving the manager -/

/-- The lines the report writes about a manager: one settings line per usable cache, then one
warning per failed cache, each in the manager's order. -/
def reportLines (m : ReportManager) : List LogLine :=
  m.caches.map (fun p => ⟨.info, Target.root, settingsLine m.label p.1 p.2⟩) ++
    m.failed.map fun p =>
      ⟨.warn, Target.root, "[" ++ m.label ++ "] " ++ p.1 ++ ": unusable: " ++ p.2.message⟩

/-- Logging one line per item adds those lines after the log's, in order. -/
theorem forM_logLine_lines {γ : Type} (level : Level) (target : String) (g : γ → String) :
    ∀ (l : List γ) (c : Console),
      ((l.forM fun p => logLine level target (g p)).run c).2.lines.toList =
        c.lines.toList ++ l.map fun p => ⟨level, target, g p⟩
  | [], c => by
    simp
    rfl
  | a :: l, c => by
    rw [List.forM_eq_forM, List.forM_cons, StateT.run_bind]
    show ((forM l fun p => logLine level target (g p)).run
      ((logLine level target (g a)).run c).2).2.lines.toList = _
    rw [← List.forM_eq_forM, forM_logLine_lines level target g l]
    show (c.lines.push _).toList ++ _ = _
    simp

section
variable {doc : Document} {manager : Option String} {c₀ : Console}

/-- When the registry gives the manager, resolving writes the report's lines about it after
the lines written so far, and then shuts the manager down. -/
theorem resolve_ok {m : ReportManager}
    (h : (((Registry.getManager manager).run (registryOf doc)).run
      ((registryOf doc).announce.run c₀).2).1.1 = .ok m) :
    ∃ c : Console, c.lines.toList = (((Registry.getManager manager).run (registryOf doc)).run
        ((registryOf doc).announce.run c₀).2).2.lines.toList ++ reportLines m ∧
      (resolve doc manager).run c₀ = (.ok (), (m.shutdown.run c).2) := by
  rcases hq : ((Registry.getManager manager).run (registryOf doc)).run
    ((registryOf doc).announce.run c₀).2 with ⟨⟨res, r'⟩, c₂⟩
  rw [hq] at h
  cases h
  -- the log after the settings lines and then the warnings
  let c₃ := ((m.failed.forM fun x => logLine Level.warn Target.root
    ("[" ++ m.label ++ "] " ++ x.fst ++ ": unusable: " ++ x.snd.message)).run
      ((m.caches.forM fun x => logLine Level.info Target.root
        (settingsLine m.label x.fst x.snd)).run c₂).2).2
  refine ⟨c₃, ?_, ?_⟩
  · rw [forM_logLine_lines, forM_logLine_lines, reportLines, List.append_assoc]
  · show Id.run ((resolve doc manager).run c₀) = _
    unfold resolve
    simp only [StateT.run_bind, StateT.run'_eq, StateT.run_map, Id.run_bind, Id.run_map]
    simp only [Id.run]
    rw [hq]
    rfl

/-- When the registry cannot give the manager, resolving fails with its failure. -/
theorem resolve_error {e : Failure}
    (h : (((Registry.getManager manager).run (registryOf doc)).run
      ((registryOf doc).announce.run c₀).2).1.1 = .error e) :
    ((resolve doc manager).run c₀).1 = .error e := by
  rcases hq : ((Registry.getManager manager).run (registryOf doc)).run
    ((registryOf doc).announce.run c₀).2 with ⟨⟨res, r'⟩, c₂⟩
  rw [hq] at h
  cases h
  show (Id.run ((resolve doc manager).run c₀)).1 = _
  unfold resolve
  simp only [StateT.run_bind, StateT.run'_eq, StateT.run_map, Id.run_bind, Id.run_map]
  simp only [Id.run]
  rw [hq]
  rfl

end

/-! ## The run, document by document -/

/-- The log the report starts with, naming the document it reads. -/
def startLog (path : String) : Console :=
  { lines := #[⟨.info, Target.root, "Using cache configuration " ++ path⟩] }

section
variable (files : Files) (env : List (String × String))

theorem run_missing (h : ∀ bytes, files.lookup (configPath files env) ≠ .ok (.file bytes)) :
    (run (Host.ofFiles files env)).code = 1 := by
  rw [run_ofFiles]
  unfold runWith
  simp only [Host.ofFiles, pure_bind]
  split
  · rename_i bytes hf
    exact absurd hf (h bytes)
  · rfl

theorem run_notText {bytes : ByteArray}
    (hf : files.lookup (configPath files env) = .ok (.file bytes))
    (ht : String.fromUTF8? bytes = none) : (run (Host.ofFiles files env)).code = 1 := by
  rw [run_ofFiles]
  unfold runWith
  simp only [Host.ofFiles, pure_bind]
  rw [show files.lookup ((setting files env "CACHE_BRIDGE_CONFIG").getD defaultPath) = _ from hf]
  dsimp only
  rw [ht]
  rfl

theorem run_unparsed {bytes : ByteArray} {text : String} {f : Failure}
    (hf : files.lookup (configPath files env) = .ok (.file bytes))
    (ht : String.fromUTF8? bytes = some text) (hd : Document.parse text = .error f) :
    (run (Host.ofFiles files env)).code = 1 := by
  rw [run_ofFiles]
  unfold runWith
  simp only [Host.ofFiles, pure_bind]
  rw [show files.lookup ((setting files env "CACHE_BRIDGE_CONFIG").getD defaultPath) = _ from hf]
  dsimp only
  rw [ht]
  dsimp only
  rw [hd]
  rfl

/-- A run that reads a document ends as resolving the selected manager from it does. -/
theorem run_document {bytes : ByteArray} {text : String} {doc : Document}
    (hf : files.lookup (configPath files env) = .ok (.file bytes))
    (ht : String.fromUTF8? bytes = some text) (hd : Document.parse text = .ok doc) :
    run (Host.ofFiles files env) =
      finish (filterOf files env)
        ((resolve doc (selectedManager files env)).run (startLog (configPath files env))).2.lines
        ((failureOf ((resolve doc (selectedManager files env)).run
          (startLog (configPath files env))).1).map fun f => (f.message, none)) := by
  rw [run_ofFiles]
  unfold runWith
  simp only [Host.ofFiles, pure_bind]
  rw [show files.lookup ((setting files env "CACHE_BRIDGE_CONFIG").getD defaultPath) = _ from hf]
  dsimp only
  rw [ht]
  dsimp only
  rw [hd]
  dsimp only
  split
  rename_i r console hr
  rw [show (resolve doc (selectedManager files env)).run (startLog (configPath files env)) =
    (r, console) from hr]
  cases r <;> rfl

end

/-! ## How a run ends -/

/-- Reading a document fails only as a configuration error of source `document`. -/
theorem parse_eq_error {text : String} {f : Failure} (h : Document.parse text = .error f) :
    ∃ message, f = .config "document" message := by
  unfold Document.parse at h
  split at h
  · cases h
  · cases h
    exact ⟨_, rfl⟩

/-- Why a report on files and an environment fails: the configured path names no regular file,
the file is not UTF-8 text, the text is no configuration document, or the document's registry
cannot give the selected manager, whatever the log holds. -/
inductive Refusal (files : Files) (env : List (String × String)) : Prop
  | missing : (∀ bytes, files.lookup (configPath files env) ≠ .ok (.file bytes)) →
      Refusal files env
  | notText {bytes : ByteArray} : files.lookup (configPath files env) = .ok (.file bytes) →
      String.fromUTF8? bytes = none → Refusal files env
  | unparsed {bytes : ByteArray} {text message : String} :
      files.lookup (configPath files env) = .ok (.file bytes) →
      String.fromUTF8? bytes = some text →
      Document.parse text = .error (.config "document" message) → Refusal files env
  | unresolved {bytes : ByteArray} {text : String} {doc : Document} {e : Failure} :
      files.lookup (configPath files env) = .ok (.file bytes) →
      String.fromUTF8? bytes = some text → Document.parse text = .ok doc →
      (∀ w : Console, (((Registry.getManager (selectedManager files env)).run
        (registryOf doc)).run w).1.1 = .error e) → Refusal files env

/-- A report that resolved manager `m` from document `doc` and ended with `o`: the document is
the configured file's text and its registry gives `m`; the usable caches and the failed ones
are each in strictly increasing name order; the log holds, after the lines written until then,
the report's lines about `m`, and shutting `m` down adds lines after these and leaves each
usable cache disposed; the run succeeds, printing the lines its filter lets through. -/
structure Resolved (files : Files) (env : List (String × String)) (doc : Document)
    (m : ReportManager) (o : Outcome) : Prop where
  document : ∃ bytes text, files.lookup (configPath files env) = .ok (.file bytes) ∧
    String.fromUTF8? bytes = some text ∧ Document.parse text = .ok doc
  resolved : ∃ w : Console,
    (((Registry.getManager (selectedManager files env)).run (registryOf doc)).run w).1.1 = .ok m
  caches_sorted : m.cacheNames.Pairwise (· < ·)
  failed_sorted : (m.failed.map Prod.fst).Pairwise (· < ·)
  logged : ∃ (before : List LogLine) (c : Console), c.lines.toList = before ++ reportLines m ∧
    Console.Grows c (m.shutdown.run c).2 ∧
    (∀ p ∈ (m.shutdown.run c).1.caches, p.2.status = .disposed) ∧
    o.out = (((m.shutdown.run c).2.lines.toList).filter (filterOf files env).allows).map
      LogLine.text
  code : o.code = 0
  err : o.err = []

section
variable (files : Files) (env : List (String × String))

/-- The configured file reads as one text only. -/
theorem text_of_read {bytes bytes' : ByteArray} {text : String}
    (hf : files.lookup (configPath files env) = .ok (.file bytes))
    (ht : String.fromUTF8? bytes = some text)
    (hf' : files.lookup (configPath files env) = .ok (.file bytes')) :
    String.fromUTF8? bytes' = some text := by
  rw [hf] at hf'
  cases hf'
  exact ht

/-- A report that reads a document whose registry gives the selected manager is resolved. -/
theorem resolved_of_document {bytes : ByteArray} {text : String} {doc : Document}
    {m : ReportManager} (hf : files.lookup (configPath files env) = .ok (.file bytes))
    (ht : String.fromUTF8? bytes = some text) (hd : Document.parse text = .ok doc)
    (hm : (((Registry.getManager (selectedManager files env)).run (registryOf doc)).run
      ((registryOf doc).announce.run (startLog (configPath files env))).2).1.1 = .ok m) :
    Resolved files env doc m (run (Host.ofFiles files env)) := by
  obtain ⟨c, hc, hres⟩ := resolve_ok hm
  obtain ⟨hcaches, hfailed, halive⟩ := getManager_ordered hm
  have hrun := run_document files env hf ht hd
  rw [hres] at hrun
  refine ⟨⟨bytes, text, hf, ht, hd⟩, ⟨_, hm⟩, hcaches, hfailed, ?_, by rw [hrun]; rfl,
    by rw [hrun]; rfl⟩
  exact ⟨_, c, hc, Manager.appends_shutdown Cache.LogsOnly.report m c,
    (Manager.shutdown_disposes m halive c).2, by rw [hrun]; rfl⟩

/-- A report either fails with one of the refusals and exit code 1, or fits none of them and
is resolved. -/
theorem run_cases :
    (Refusal files env ∧ (run (Host.ofFiles files env)).code = 1) ∨
      (¬ Refusal files env ∧
        ∃ doc m, Resolved files env doc m (run (Host.ofFiles files env))) := by
  by_cases hfile : ∃ bytes, files.lookup (configPath files env) = .ok (.file bytes)
  swap
  · have hmissing : ∀ bytes, files.lookup (configPath files env) ≠ .ok (.file bytes) :=
      fun bytes hb => hfile ⟨bytes, hb⟩
    exact .inl ⟨.missing hmissing, run_missing files env hmissing⟩
  obtain ⟨bytes, hf⟩ := hfile
  rcases ht : String.fromUTF8? bytes with _ | text
  · exact .inl ⟨.notText hf ht, run_notText files env hf ht⟩
  rcases hd : Document.parse text with f | doc
  · obtain ⟨message, rfl⟩ := parse_eq_error hd
    exact .inl ⟨.unparsed hf ht hd, run_unparsed files env hf ht hd⟩
  -- the document is read; the run ends as the request for the manager does
  rcases hm : (((Registry.getManager (selectedManager files env)).run (registryOf doc)).run
    ((registryOf doc).announce.run (startLog (configPath files env))).2).1.1 with e | m
  · -- the registry refuses the manager in the report's log, hence in every log
    have hall : ∀ w : Console, (((Registry.getManager (selectedManager files env)).run
        (registryOf doc)).run w).1.1 = .error e := fun w => by
      rw [← failureOf_eq_some, getManager_failure_eq doc _ w, hm]
      rfl
    refine .inl ⟨.unresolved hf ht hd hall, ?_⟩
    rw [run_document files env hf ht hd, resolve_error hm]
    rfl
  · refine .inr ⟨fun hr => ?_, doc, m, resolved_of_document files env hf ht hd hm⟩
    -- no refusal fits a document whose registry gives the manager
    cases hr with
    | missing h => exact h bytes hf
    | notText hf' ht' =>
      rw [text_of_read files env hf ht hf'] at ht'
      cases ht'
    | unparsed hf' ht' hd' =>
      rw [text_of_read files env hf ht hf'] at ht'
      cases ht'
      rw [hd] at hd'
      cases hd'
    | unresolved hf' ht' hd' hall =>
      rw [text_of_read files env hf ht hf'] at ht'
      cases ht'
      rw [hd] at hd'
      cases hd'
      rw [hall] at hm
      cases hm

end

/-- A report on files and an environment asks for no manager when `CACHE_BRIDGE_MANAGER`,
from the environment or else from `.env`, is unset, blank or `default` in any ASCII case, and
otherwise for the manager its trimmed value names. It fails with exit code 1 exactly when the
configured path names no regular file, the file is not UTF-8 text, the text is no configuration
document (a configuration error of source `document`), or the document's registry cannot give
that manager. Otherwise it succeeds with no error output; after the lines written while
resolving, its log holds one settings line per usable cache and then one warning per failed
cache, each group in strictly increasing name order, and shutting the manager down adds lines
after these and leaves every usable cache disposed. -/
theorem run_outcome (files : Files) (env : List (String × String)) :
    (selectedManager files env = none ↔
      ∀ raw, setting files env "CACHE_BRIDGE_MANAGER" = some raw →
        Text.trim raw = "" ∨ (Text.trim raw).toLower = "default") ∧
    (∀ n, selectedManager files env = some n ↔
      ∃ raw, setting files env "CACHE_BRIDGE_MANAGER" = some raw ∧ Text.trim raw = n ∧
        n ≠ "" ∧ n.toLower ≠ "default") ∧
    ((run (Host.ofFiles files env)).code = 1 ↔ Refusal files env) ∧
    (¬ Refusal files env →
      ∃ doc m, Resolved files env doc m (run (Host.ofFiles files env))) := by
  refine ⟨managerOf_eq_none_iff _, managerOf_eq_some_iff _, ?_, ?_⟩
  · rcases run_cases files env with ⟨hr, hcode⟩ | ⟨hr, doc, m, hres⟩
    · exact ⟨fun _ => hr, fun _ => hcode⟩
    · rw [hres.code]
      exact ⟨fun h => absurd h (by decide), fun h => absurd h hr⟩
  · intro hr
    rcases run_cases files env with ⟨hr', -⟩ | ⟨-, hres⟩
    · exact absurd hr' hr
    · exact hres

end Report

end NamedCaches
