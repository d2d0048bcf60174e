import ClassCatalog.Generation
import ClassCatalog.Proofs.FileTree.AtomicWrite

/-!
# Runs are all or nothing

A run that fails leaves every file as it was, except for the one under the temporary name of the
output.  It prints nothing unless it is standard output that fails, in the midst of the document.  A
run that succeeds has written the whole document (`generate_all_or_nothing`).
-/

namespace ClassCatalog

open FileTree

theorem Target.ofPath_eq_file {path target : Path} (h : ofPath path = .file target) :
    target = path := by
  rw [ofPath] at h
  split at h
  · cases h
  · exact (Target.file.inj h).symm

theorem StandardOutput.write_ok {standard : StandardOutput} {text : String}
    (h : (standard.write text).1 = .ok ()) : (standard.write text).2 = text := by
  rw [write] at h ⊢
  split at h
  · rfl
  · split at h
    · rename_i fits
      exact congrArg Prod.snd (if_pos fits)
    · cases h

section Emission

variable {report : Report} {path : Path} {document : String} {tree : FileTree}
  {standard : StandardOutput}

theorem emit_standardOutput (aim : report.target = .standardOutput) :
    emit report document tree standard =
      { result := ((standard.write (document ++ "\n")).1.mapError (.file none)).map fun _ => report
        files := tree
        printed := (standard.write (document ++ "\n")).2 } := by
  rw [emit, aim]
  dsimp only
  rcases standard.write (document ++ "\n") with ⟨_ | _, printed⟩ <;> rfl

theorem emit_file (aim : report.target = .file path) :
    emit report document tree standard =
      { result := (tree.writeAtomic path document).1.map fun _ => report
        files := (tree.writeAtomic path document).2 } := by
  rw [emit, aim]
  dsimp only
  rcases tree.writeAtomic path document with ⟨_ | _, after⟩ <;> rfl

/-- Either a file or standard output fails, and then only standard output has taken anything. -/
theorem emit_error {e : Error} (failed : (emit report document tree standard).result = .error e) :
    (∃ path, report.target = .file path ∧
      tree.writeAtomic path document = (.error e, (emit report document tree standard).files) ∧
      (emit report document tree standard).printed = "") ∨
    report.target = .standardOutput ∧ (emit report document tree standard).files = tree ∧
      ∃ reason, e = .file none reason ∧ standard.write (document ++ "\n") =
        (.error reason, (emit report document tree standard).printed) := by
  cases aim : report.target with
  | standardOutput =>
    rw [emit_standardOutput aim] at failed ⊢
    refine .inr ⟨rfl, rfl, ?_⟩
    cases h : (standard.write (document ++ "\n")).1 with
    | ok done =>
      simp only [h] at failed
      cases failed
    | error reason =>
      simp only [h] at failed
      exact ⟨reason, (Except.error.inj failed).symm, Prod.ext h rfl⟩
  | file path =>
    rw [emit_file aim] at failed ⊢
    exact .inl ⟨path, rfl, Prod.ext (map_eq_error_iff.1 failed) rfl, rfl⟩

theorem emit_ok {done : Report} (succeeded : (emit report document tree standard).result = .ok done)
    (file : done.target = .file path) :
    report.target = .file path ∧
      tree.writeAtomic path document = (.ok (), (emit report document tree standard).files) := by
  cases aim : report.target with
  | standardOutput =>
    rw [emit_standardOutput aim] at succeeded
    obtain ⟨-, -, rfl⟩ := map_eq_ok_iff.1 succeeded
    cases aim.symm.trans file
  | file target =>
    rw [emit_file aim] at succeeded ⊢
    obtain ⟨⟨⟩, written, rfl⟩ := map_eq_ok_iff.1 succeeded
    obtain rfl := Target.file.inj (aim.symm.trans file)
    exact ⟨rfl, Prod.ext written rfl⟩

theorem emit_ok_standardOutput {done : Report}
    (succeeded : (emit report document tree standard).result = .ok done)
    (toStandard : done.target = .standardOutput) :
    (emit report document tree standard).files = tree ∧
      (emit report document tree standard).printed = document ++ "\n" := by
  cases aim : report.target with
  | standardOutput =>
    rw [emit_standardOutput aim] at succeeded ⊢
    refine ⟨rfl, StandardOutput.write_ok ?_⟩
    cases h : (standard.write (document ++ "\n")).1 with
    | ok done => rfl
    | error reason =>
      simp only [h] at succeeded
      cases succeeded
  | file target =>
    rw [emit_file aim] at succeeded
    obtain ⟨-, -, rfl⟩ := map_eq_ok_iff.1 succeeded
    cases aim.symm.trans toStandard

end Emission

section Runs

variable {arguments : Arguments} {config : Config} {tree : FileTree} {standard : StandardOutput}

theorem generate_of_error {e : Error}
    (failed : documentTree (config.override arguments) tree (.ofText arguments.sourceRoot) =
      .error e) :
    ∃ shown, generate arguments config tree standard =
      { result := .error e, files := tree, shown } := by
  simp only [generate, failed]
  exact ⟨_, rfl⟩

theorem generate_of_ok {extraction : Extraction}
    (documented : documentTree (config.override arguments) tree (.ofText arguments.sourceRoot) =
      .ok extraction) :
    ∃ (report : Report) (shown : List (String × Java.Tree)),
      report.target = .ofPath (.ofText (config.override arguments).output) ∧
      generate arguments config tree standard =
        { emit report (ClassDoc.document arguments.layout extraction.classes) tree standard with
          shown } := by
  simp only [generate, documented]
  exact ⟨_, _, rfl, rfl⟩

end Runs

/-- A run that fails keeps all files but the temporary one, the output file included, and prints
nothing unless all was documented and standard output fails to take the document.  After one that
succeeds the output file is the document of the sources, nothing is at the temporary path, and all
other files are as before; or the document was printed and all files are as before. -/
theorem generate_all_or_nothing (arguments : Arguments) (config : Config) (tree : FileTree)
    (standard : StandardOutput) :
    let run := generate arguments config tree standard
    let settings := config.override arguments
    let output := Path.ofText settings.output
    let documented := documentTree settings tree (.ofText arguments.sourceRoot)
    let document := ClassDoc.document arguments.layout
    (∀ e, run.result = .error e →
      (∀ location content, tree.content? location = some content →
        run.files.content? location = some content ∨
          run.files.locate output.temporary = .ok location) ∧
      (∀ content, tree.readBytes output = .ok content →
        run.files.readBytes output = .ok content) ∧
      (run.printed = "" ∨ ∃ extraction reason, documented = .ok extraction ∧
        Target.ofPath output = .standardOutput ∧ e = .file none reason ∧
        standard.write (document extraction.classes ++ "\n") = (.error reason, run.printed))) ∧
    (∀ report path, run.result = .ok report → report.target = .file path →
      path = output ∧
      (∃ extraction, documented = .ok extraction ∧
        run.files.readBytes output = .ok (document extraction.classes).toUTF8) ∧
      run.files.pathExists output.temporary = false ∧
      ∃ folder name, run.files.locate output = .ok (folder ++ [name]) ∧
        ∀ location content, tree.content? location = some content →
          run.files.content? location = some content ∨
            location = folder ++ [name] ∨ location = folder ++ [name ++ ".tmp"]) ∧
    ∀ report, run.result = .ok report → report.target = .standardOutput →
      run.files = tree ∧
      ∃ extraction, documented = .ok extraction ∧
        run.printed = document extraction.classes ++ "\n" := by
  intro run settings output documented document
  cases isDocumented : documented with
  | error e =>
    obtain ⟨shown, ran⟩ := @generate_of_error _ _ _ standard _ isDocumented
    replace ran : run = _ := ran
    rw [ran]
    refine ⟨fun _ _ => ⟨fun _ _ there => .inl there, fun _ readable => readable, .inl rfl⟩, ?_, ?_⟩
    · intro report path succeeded
      cases succeeded
    · intro report succeeded
      cases succeeded
  | ok extraction =>
    obtain ⟨intent, shown, aim, ran⟩ := @generate_of_ok _ _ _ standard _ isDocumented
    replace ran : run = _ := ran
    rw [ran]
    refine ⟨fun e failed => ?_, fun report path succeeded file => ?_,
      fun report succeeded toStandard => ?_⟩
    · rcases emit_error failed with ⟨path, target, written, silent⟩ | ⟨target, kept, reason, rest⟩
      · obtain rfl := Target.ofPath_eq_file (aim.symm.trans target)
        have kept := writeAtomic_error written
        exact ⟨fun _ _ => kept.content?, fun _ => readBytes_of_keeps kept, .inl silent⟩
      · dsimp only
        rw [kept]
        exact ⟨fun _ _ there => .inl there, fun _ readable => readable,
          .inr ⟨extraction, reason, rfl, aim.symm.trans target, rest⟩⟩
    · obtain ⟨target, written⟩ := emit_ok succeeded file
      obtain rfl := Target.ofPath_eq_file (aim.symm.trans target)
      obtain ⟨folder, name, replaced⟩ := writeAtomic_ok written
      have located := locate_of_place replaced.placed
      rw [replaced.there] at located
      refine ⟨rfl, ⟨extraction, rfl, readBytes_eq_ok_iff.2 ⟨_, located, replaced.there⟩⟩, ?_,
        folder, name, located, fun _ _ => replaced.kept.content?⟩
      rw [pathExists, locate_of_place (place_temporary replaced.placed), replaced.gone]
      rfl
    · obtain ⟨kept, printed⟩ := emit_ok_standardOutput succeeded toStandard
      exact ⟨kept, extraction, rfl, printed⟩

/-! ## Two runs over a folder without sources -/

/-- A folder without sources, a file, and a file under the temporary name of each. -/
def beforeRun : FileTree :=
  .folder [("s", .folder []), ("s.tmp", .file "1".toUTF8), ("o", .file "2".toUTF8),
    ("o.tmp", .file "3".toUTF8)]

theorem ofText_letters : Path.ofText "s" = ⟨["s"]⟩ ∧ Path.ofText "o" = ⟨["o"]⟩ := by
  constructor
  all_goals
    rw [Path.ofText, String.splitOn, if_neg (by decide), String.splitOnAux, if_neg (by decide),
      if_neg (by decide), String.splitOnAux, if_pos (by decide)]
    decide

theorem documentTree_beforeRun (config : Config) :
    documentTree config beforeRun ⟨["s"]⟩ = .ok {} := by
  have folder : beforeRun.isFolder ⟨["s"]⟩ := by rfl
  have ordinary : SourceFiles.isStandardInput ⟨["s"]⟩ = false := by decide
  have walked : SourceFiles.walk beforeRun ⟨["s"]⟩ = [] := by rfl
  rw [documentTree, SourceFiles.collect, folder, ordinary, walked, SourceFiles.ofWalk,
    List.filter_nil, List.mergeSort_nil]
  rfl

/-- The run with the given output. -/
def runOnto (output : String) : Generation :=
  generate { sourceRoot := "s", output := some output } {} beforeRun

theorem runOnto_eq {output : String} {path : Path} (named : Path.ofText output = path)
    (file : Target.ofPath path = .file path) :
    ∃ (report : Report) (shown : List (String × Java.Tree)), report.target = .file path ∧
      runOnto output =
        { result := (beforeRun.writeAtomic path "[]").1.map fun _ => report
          files := (beforeRun.writeAtomic path "[]").2
          shown } := by
  have documented : documentTree (Config.override {} { sourceRoot := "s", output := some output })
      beforeRun (.ofText "s") = .ok {} := by
    rw [ofText_letters.1, documentTree_beforeRun]
  obtain ⟨report, shown, aim, ran⟩ := @generate_of_ok _ _ _ {} _ documented
  have target : report.target = .file path := by
    rw [aim, ← file, ← named]
    rfl
  rw [emit_file target] at ran
  exact ⟨report, shown, target, ran⟩

/-- One run cannot put its output in place of a folder, the other one replaces a file. -/
theorem generate_onto_folder_and_file :
    (∃ e, (runOnto "s").result = .error e ∧
      (runOnto "s").files.content? ["o"] = some "2".toUTF8 ∧ (runOnto "s").printed = "") ∧
    ∃ report, (runOnto "o").result = .ok report ∧
      (runOnto "o").files.readBytes (.ofText "o") = .ok "[]".toUTF8 ∧
      (runOnto "o").files.pathExists (Path.ofText "o").temporary = false := by
  constructor
  · obtain ⟨report, shown, -, ran⟩ := runOnto_eq ofText_letters.1 rfl
    have failed : (runOnto "s").result = .error (.file (some "s") .isAFolder) := by
      rw [ran]
      rfl
    obtain ⟨kept, -, silent⟩ := (generate_all_or_nothing _ _ _ _).1 _ failed
    have printed : (runOnto "s").printed = "" :=
      silent.resolve_right fun ⟨_, _, _, _, other, _⟩ => by cases other
    refine ⟨_, failed, (kept ["o"] "2".toUTF8 rfl).resolve_right fun temporary => ?_, printed⟩
    have elsewhere : (runOnto "s").files.locate (Path.ofText "s").temporary = .ok ["s.tmp"] := by
      rw [ran, ofText_letters.1]
      rfl
    exact absurd (Except.ok.inj (elsewhere.symm.trans temporary)) (by decide)
  · obtain ⟨report, shown, target, ran⟩ := runOnto_eq ofText_letters.2 rfl
    have succeeded : (runOnto "o").result = .ok report := by
      rw [ran]
      rfl
    obtain ⟨-, ⟨extraction, documented, document⟩, gone, -⟩ :=
      (generate_all_or_nothing _ _ _ _).2.1 report _ succeeded target
    have none : documentTree _ beforeRun (.ofText "s") = .ok extraction := documented
    rw [ofText_letters.1, documentTree_beforeRun] at none
    obtain rfl := Except.ok.inj none
    exact ⟨report, succeeded, document, gone⟩

end ClassCatalog
