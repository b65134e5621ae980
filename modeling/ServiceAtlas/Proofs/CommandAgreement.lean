import ServiceAtlas.Proofs.JsonReading
import ServiceAtlas.Proofs.ScanRun

/-!
What the commands have in common. Each command opens a directory and settles the settings in its own
way, but which files it then sees hangs on one flag only (`Surroundings.openTree_congr`). So the list
of URLs is the one of the report, and both ways to a drawing lead to the same drawing or to the same
failure (`Surroundings.commands_agree`).
-/

namespace ServiceAtlas

/-! ### Results of work -/

namespace Work

variable {α β : Type}

/-- The result of work, without the messages. -/
def outcome (x : Work α) : Except Failure α := (ExceptT.run x).value

theorem outcome_bind (x : Work α) (f : α → Work β) :
    (x >>= f).outcome = x.outcome.bind fun a => (f a).outcome := by
  change (ExceptT.bindCont f x.outcome : Logged (Except Failure β)).value = _
  cases x.outcome with
  | ok a => rfl
  | error e => rfl

/-- Work that goes well goes well at every step. -/
theorem exists_of_outcome_bind {x : Work α} {f : α → Work β} {b : β}
    (h : (x >>= f).outcome = .ok b) : ∃ a, x.outcome = .ok a ∧ (f a).outcome = .ok b := by
  rw [outcome_bind] at h
  cases hx : x.outcome with
  | ok a =>
    rw [hx] at h
    exact ⟨a, rfl, h⟩
  | error e =>
    rw [hx] at h
    cases h

/-- Work whose last steps cannot fail. -/
theorem outcome_bind_eq_map (x : Work α) {f : α → Work β} {g : α → β}
    (h : ∀ a, (f a).outcome = .ok (g a)) : (x >>= f).outcome = x.outcome.map g := by
  rw [outcome_bind]
  cases x.outcome with
  | ok a => exact h a
  | error e => rfl

theorem outcome_ofResult (x : Except Failure α) : (ofResult x).outcome = x := rfl

theorem outcome_ofLogged (x : Except Failure (Logged α)) :
    (ofLogged x).outcome = x.map Logged.value := by
  cases x with
  | ok r => rfl
  | error e => rfl

end Work

/-- Of the flags only one bears on whether ignore files are respected. -/
theorem ResolvedSettings.respectGitignore_layFlags (r : ResolvedSettings) (o : Overrides) :
    (r.layFlags o).respectGitignore = (o.respectGitignore || r.respectGitignore) := by
  obtain ⟨format, quiet, exclude, respect⟩ := o
  cases format <;> cases quiet <;> cases exclude <;> cases respect <;> rfl

/-- A scan and a graph take the same arguments and make the same of them. -/
theorem Command.ofArguments_scan_iff_graph (args : List String) (path : Path) (o : Overrides) :
    ofArguments ("scan" :: args) = .ok (.scan path o) ↔
      ofArguments ("graph" :: args) = .ok (.graph path o) := by
  have hparsed : ∃ (signature : Signature) (path : Accepted → Path) (flags : Accepted → Overrides),
      ofArguments ("scan" :: args) =
        (signature.accept args).map (fun a => .scan (path a) (flags a)) ∧
      ofArguments ("graph" :: args) =
        (signature.accept args).map (fun a => .graph (path a) (flags a)) := ⟨_, _, _, rfl, rfl⟩
  obtain ⟨signature, path, flags, hscan, hgraph⟩ := hparsed
  rw [hscan, hgraph]
  cases signature.accept args with
  | error e => simp [Except.map]
  | ok a => simp [Except.map]

theorem exists_of_map_eq_ok {ε α β : Type} {x : Except ε α} {f : α → β} {b : β}
    (h : x.map f = .ok b) : ∃ a, x = .ok a ∧ f a = b := by
  cases x with
  | error e => cases h
  | ok a =>
    cases h
    exact ⟨a, rfl, rfl⟩

namespace Surroundings

variable (s : Surroundings) (path : Path)

/-- The settings of a directory, before the flags are laid over them, hang on the files and the
environment only. -/
theorem settings_eq_map (dir : Path) (o : Overrides) : s.settings dir o =
    ((s.layUser .default).bind (s.layProject dir)).map fun r =>
      ⟨{ (r.layEnvironment s.environment).layFlags o with
          ignorePatterns := (s.disk.ignorePatterns dir.ancestors).value },
        (s.disk.ignorePatterns dir.ancestors).log⟩ := by
  rw [settings]
  cases s.layUser .default with
  | error e => rfl
  | ok r =>
    change (s.layProject dir r).bind _ = (s.layProject dir r).map _
    cases s.layProject dir r with
    | error e => rfl
    | ok r => rfl

theorem outcome_openTree (o : Overrides) : (s.openTree path o).outcome =
    (s.disk.openDirectory path).bind fun place =>
      ((s.settings place.1 o).map Logged.value).map fun r =>
        (place.2.sourceTree place.1 r.respectGitignore, r) := by
  rw [openTree, Work.outcome_bind, Work.outcome_ofResult]
  congr 1
  funext ⟨root, node⟩
  rw [Work.outcome_bind_eq_map _ fun _ => rfl, Work.outcome_ofLogged]

/-- Flags that agree on ignore files lead to the same tree, or to the same failure. -/
theorem openTree_congr {o o' : Overrides} (h : o.respectGitignore = o'.respectGitignore) :
    (s.openTree path o).outcome.map Prod.fst = (s.openTree path o').outcome.map Prod.fst := by
  rw [outcome_openTree, outcome_openTree]
  cases s.disk.openDirectory path with
  | error e => rfl
  | ok place =>
    change Except.map _ (Except.map _ (Except.map _ (s.settings place.1 o))) =
      Except.map _ (Except.map _ (Except.map _ (s.settings place.1 o')))
    rw [settings_eq_map, settings_eq_map]
    cases (s.layUser .default).bind (s.layProject place.1) with
    | error e => rfl
    | ok r =>
      have hrespect : ((r.layEnvironment s.environment).layFlags o).respectGitignore =
          ((r.layEnvironment s.environment).layFlags o').respectGitignore := by
        rw [ResolvedSettings.respectGitignore_layFlags, ResolvedSettings.respectGitignore_layFlags, h]
      exact congrArg (fun respect => Except.ok (place.2.sourceTree place.1 respect)) hrespect

/-! ### Commands by format -/

/-- A scan that goes well finds the URLs of the tree that it opens. -/
theorem exists_tree_of_scanTree {o : Overrides} {root : Path} {r : ResolvedSettings} {found : Scan}
    (h : (s.scanTree path o).outcome = .ok (root, r, found)) :
    ∃ tree, (s.openTree path o).outcome = .ok (tree, r) ∧
      found.urls = (UrlSurvey.ofTree tree).value.table := by
  obtain ⟨⟨tree, r'⟩, hopen, h⟩ := Work.exists_of_outcome_bind h
  obtain ⟨plan, hplan, h⟩ := Work.exists_of_outcome_bind h
  obtain ⟨found', hrun, h⟩ := Work.exists_of_outcome_bind h
  cases h
  cases hrun
  exact ⟨tree, hopen, by rw [Scan.value_run hplan]⟩

theorem outcome_scan_json {o : Overrides} (h : o.format = some .json) :
    (s.scan path o).outcome = (s.scanTree path o).outcome.map fun found =>
      (found.2.2.toJson found.1).document := by
  refine Work.outcome_bind_eq_map _ fun ⟨root, r, found⟩ => ?_
  rw [h]
  rfl

/-- As a drawing, both commands print that of the graph of the scan. -/
theorem outcome_graph_dot {o : Overrides} (h : o.format = some .dot) :
    (s.graph path o).outcome = (s.scan path o).outcome := by
  calc (s.graph path o).outcome
    _ = (s.scanTree path o).outcome.map fun found => Dot.render found.2.2.graph := by
      refine Work.outcome_bind_eq_map _ fun ⟨root, r, found⟩ => ?_
      rw [h]
      rfl
    _ = (s.scan path o).outcome := by
      refine (Work.outcome_bind_eq_map _ fun ⟨root, r, found⟩ => ?_).symm
      rw [h]
      rfl

theorem outcome_urls_json {o : Overrides} (h : o.format = some .json) :
    (s.urls path o).outcome = (s.openTree path o).outcome.map fun found =>
      (UrlSurvey.ofTree found.1).value.table.toJson.document := by
  refine Work.outcome_bind_eq_map _ fun ⟨tree, r⟩ => ?_
  rw [h]
  rfl

theorem member?_urlTable (scan : Scan) (root : Path) :
    Json.member? "url_table" some (scan.toJson root) = some scan.urls.toJson := by
  simp [Scan.toJson, Json.member?, List.lookup_cons]

/-- The commands agree. Whenever a scan prints its report, the list of URLs of the same directory, with
the same word on ignore files, is printed too and is the URL table of the report. A scan and a graph
take the same arguments, and as drawings they print the same text or fail for the same reason. -/
theorem commands_agree (o : Overrides) :
    (∀ report, (s.run (.scan path { o with format := some .json })).value = .ok report →
      ∃ listing entries, (s.run (.urls path
          { format := some .json, respectGitignore := o.respectGitignore })).value = .ok listing ∧
        Json.read? listing = some (.list entries) ∧
        (Json.read? report).bind (Json.member? "url_table" some) = some (.list entries)) ∧
    (∀ args, Command.ofArguments ("scan" :: args) = .ok (.scan path { o with format := some .dot }) ↔
      Command.ofArguments ("graph" :: args) = .ok (.graph path { o with format := some .dot })) ∧
    (s.run (.graph path { o with format := some .dot })).value =
      (s.run (.scan path { o with format := some .dot })).value := by
  refine ⟨fun report hreport => ?_, fun args => Command.ofArguments_scan_iff_graph args path _, ?_⟩
  · change (s.scan path { o with format := some .json }).outcome = .ok report at hreport
    rw [outcome_scan_json s path rfl] at hreport
    obtain ⟨⟨root, r, found⟩, hscan, rfl⟩ := exists_of_map_eq_ok hreport
    obtain ⟨tree, hopen, hurls⟩ := s.exists_tree_of_scanTree path hscan
    have htree : (s.openTree path { o with format := some .json }).outcome.map Prod.fst =
        (s.openTree path { format := some .json, respectGitignore := o.respectGitignore }).outcome.map
          Prod.fst := s.openTree_congr path rfl
    rw [hopen] at htree
    obtain ⟨⟨tree', r'⟩, hopen', rfl⟩ := exists_of_map_eq_ok htree.symm
    refine ⟨(UrlSurvey.ofTree tree').value.table.toJson.document, _, ?_, Json.read?_document _, ?_⟩
    · change (s.urls path _).outcome = _
      rw [outcome_urls_json s path rfl, hopen']
      rfl
    · rw [Json.read?_document, Option.bind_some, member?_urlTable, hurls]
      rfl
  · change (s.graph path _).outcome = (s.scan path _).outcome
    exact outcome_graph_dot s path rfl

/-- Two files name URLs, of which one is ignored, and there is a pattern that only a scan knows. -/
theorem commands_agree_ignored :
    let bytes (text : String) : List Nat := text.toList.map Char.toNat
    let disk : Disk := ⟨.directory [("shop", .directory [
      ("app.properties", .file (bytes "userUrl=http://u\n")),
      ("old.properties", .file (bytes "oldUrl=http://o\n")),
      (".gitignore", .file (bytes "old.properties\n"))])], ["shop"]⟩
    let s : Surroundings := ⟨disk, {}, none⟩
    let flags : Overrides := { format := some .json, exclude := ["*.py"], respectGitignore := true }
    ∃ report listing entries,
      (s.run (.scan ⟨"."⟩ flags)).value = .ok report ∧
      (s.run (.urls ⟨"."⟩ { format := some .json, respectGitignore := true })).value = .ok listing ∧
      Json.read? listing = some (.list entries) ∧
      (Json.read? report).bind (Json.member? "url_table" some) = some (.list entries) := by
  intro bytes disk s flags
  have hsome : (s.run (.scan ⟨"."⟩ flags)).value.toOption.isSome = true := by decide +kernel
  cases hscan : (s.run (.scan ⟨"."⟩ flags)).value with
  | error e =>
    rw [hscan] at hsome
    cases hsome
  | ok report =>
    obtain ⟨listing, entries, hurls, hlisting, htable⟩ :=
      (commands_agree s ⟨"."⟩ flags).1 report hscan
    exact ⟨report, listing, entries, rfl, hurls, hlisting, htable⟩

end Surroundings

end ServiceAtlas
