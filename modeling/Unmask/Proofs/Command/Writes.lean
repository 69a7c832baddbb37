import Unmask.Command.Run
import Unmask.Files.Tree

/-!
# What a command writes

A command reads, asks its host and computes before it writes anything, and then writes the result
first and the report after it. Its writes are seen through a file system that records them, which
makes no difference to the run. A run that fails has written nothing, unless it is the report that
could not be written: then the result stays. A run that succeeds has written these files and no
others.
-/

namespace Unmask

variable {φ : Type}

/-! ## Recording writes -/

/-- The file system with a record of the writes that took place, oldest first. -/
def FileSystem.recording (files : FileSystem φ) : FileSystem (φ × List (String × ByteArray)) where
  read path s := files.read path s.1
  isDirectory path s := files.isDirectory path s.1
  isFile path s := files.isFile path s.1
  write path content s :=
    (files.write path content s.1).map fun fs => (fs, s.2 ++ [(path, content)])

/-- The state after some writes, one after the other, if all of them succeed. -/
def FileSystem.writeAll (files : FileSystem φ) (writes : List (String × ByteArray)) (fs : φ) :
    Option φ :=
  writes.foldlM (fun fs w => files.write w.1 w.2 fs) fs

namespace Command

def Environment.recording (env : Environment φ) : Environment (φ × List (String × ByteArray)) where
  files := env.files.recording
  searchPath := env.searchPath
  launch program s := env.launch program s.1
  nanos := env.nanos

def Delivery.mapFiles {ψ : Type} (f : φ → ψ) (d : Delivery φ) : Delivery ψ :=
  { files := f d.files, stdout := d.stdout, stderr := d.stderr, result := d.result }

def Outcome.mapFiles {ψ : Type} (f : φ → ψ) (o : Outcome φ) : Outcome ψ :=
  { files := f o.files, bridge := o.bridge, log := o.log, stdout := o.stdout, stderr := o.stderr
    result := o.result }

variable (env : Environment φ) (o : Options)

/-! ## The two files of a run -/

/-- The file that takes the result. -/
def outputFile (fs : φ) : String :=
  outputPath (fun p => env.files.isDirectory p fs) o.path o.output o.suffix

/-- What goes into the report file. -/
def reportBytes (fs : φ) (events : EventLog) : ByteArray :=
  (report env o (outputFile env o fs) events).toJson.pretty.toUTF8

/-- The end of a delivery that succeeds: the report is shown, below the lines that are there. -/
def Delivery.shown (r : Report) (lines : List String) (fs : φ) : Delivery φ :=
  if o.json then
    { files := fs, stdout := r.toJson.pretty ++ "\n", stderr := lines, result := .ok () }
  else { files := fs, stderr := lines ++ r.lines, result := .ok () }

theorem deliver_eq (data : ByteArray) (events : EventLog) (fs : φ) :
    deliver env o data events fs =
      match env.files.write (outputFile env o fs) data fs with
      | none =>
        { files := fs
          result := .error ⟨"failed to write output: " ++ outputFile env o fs, none⟩ }
      | some fs₁ =>
        match o.report with
        | none => .shown o (report env o (outputFile env o fs) events) [] fs₁
        | some file =>
          match env.files.write file (reportBytes env o fs events) fs₁ with
          | none => { files := fs₁, result := .error ⟨"failed to write report: " ++ file, none⟩ }
          | some fs₂ =>
            .shown o (report env o (outputFile env o fs) events) ["Report written to " ++ file]
              fs₂ :=
  rfl

@[simp] theorem Delivery.files_shown (r : Report) (lines : List String) (fs : φ) :
    (Delivery.shown o r lines fs).files = fs := by
  unfold shown
  split <;> rfl

@[simp] theorem Delivery.result_shown (r : Report) (lines : List String) (fs : φ) :
    (Delivery.shown o r lines fs).result = .ok () := by
  unfold shown
  split <;> rfl

@[simp] theorem Delivery.mapFiles_shown {ψ : Type} (f : φ → ψ) (r : Report) (lines : List String)
    (fs : φ) : (Delivery.shown o r lines fs).mapFiles f = .shown o r lines (f fs) := by
  unfold shown
  split <;> rfl

/-! ## A recorded run -/

theorem loadReferences_recording (s : φ × List (String × ByteArray)) (paths : List String)
    (b : Bridge) : loadReferences env.recording s paths b = loadReferences env s.1 paths b := by
  induction paths generalizing b with
  | nil => rfl
  | cons path rest ih =>
    have himage : loadImage env.recording path s = loadImage env path s.1 := rfl
    simp only [loadReferences, himage, ih]

theorem deobfuscate_recording (image : Image) (s : φ × List (String × ByteArray)) (b : Bridge) :
    deobfuscate env.recording o image s b = deobfuscate env o image s.1 b := by
  simp only [deobfuscate, loadReferences_recording]

theorem write_recording (path : String) (content : ByteArray)
    (s : φ × List (String × ByteArray)) :
    env.recording.files.write path content s =
      (env.files.write path content s.1).map fun fs => (fs, s.2 ++ [(path, content)]) :=
  rfl

theorem deliver_recording (data : ByteArray) (events : EventLog)
    (s : φ × List (String × ByteArray)) :
    (deliver env.recording o data events s).mapFiles Prod.fst = deliver env o data events s.1 := by
  have hfile : outputFile env.recording o s = outputFile env o s.1 := rfl
  have hbytes : reportBytes env.recording o s events = reportBytes env o s.1 events := rfl
  simp only [deliver_eq, hfile, hbytes, write_recording]
  cases env.files.write (outputFile env o s.1) data s.1 with
  | none => rfl
  | some fs₁ =>
    cases o.report with
    | none => exact Delivery.mapFiles_shown o Prod.fst _ _ _
    | some file =>
      simp only [Option.map_some]
      cases env.files.write file (reportBytes env o s.1 events) fs₁ with
      | none => rfl
      | some fs₂ => exact Delivery.mapFiles_shown o Prod.fst _ _ _

/-- Recording the writes makes no difference to a run. -/
theorem run_recording (s : φ × List (String × ByteArray)) :
    (run env.recording o s).mapFiles Prod.fst = run env o s.1 := by
  have himage : loadImage env.recording o.path s = loadImage env o.path s.1 := rfl
  have hhost : locateHost env.recording o.host s = locateHost env o.host s.1 := rfl
  have hlaunch (program : String) : env.recording.launch program s = env.launch program s.1 := rfl
  simp only [run, himage, hhost, hlaunch, deobfuscate_recording]
  cases loadImage env o.path s.1 with
  | error f => rfl
  | ok image =>
    rcases locateHost env o.host s.1 with ⟨f | program, log⟩
    · rfl
    · simp only
      cases (deobfuscate env o image s.1 { program, launch := env.launch program s.1 }).value with
      | error f => rfl
      | ok done =>
        simp only [← deliver_recording]
        rfl

/-! ## How a run ends -/

/-- What a run has for its files: the new image and the events, unless it stops before. -/
def prepare (fs : φ) : Except Failure (ByteArray × EventLog) := do
  let image ← loadImage env o.path fs
  let program ← (locateHost env o.host fs).1
  (deobfuscate env o image fs { program, launch := env.launch program fs }).value

/-- What is left to do once a run has its result or has failed. -/
def finish (fs : φ) : Delivery φ :=
  match prepare env o fs with
  | .error f => { files := fs, result := .error f }
  | .ok (data, events) => deliver env o data events fs

theorem run_finish (fs : φ) :
    (run env o fs).files = (finish env o fs).files ∧
      (run env o fs).result = (finish env o fs).result := by
  unfold run finish prepare
  cases loadImage env o.path fs with
  | error f => exact ⟨rfl, rfl⟩
  | ok image =>
    rcases locateHost env o.host fs with ⟨f | program, log⟩
    · exact ⟨rfl, rfl⟩
    · exact ⟨rfl, rfl⟩

/-- The writes of a run, oldest first. -/
def written (fs : φ) : List (String × ByteArray) := (run env.recording o (fs, [])).files.2

/-- All ways for a run to end, by its writes, the files it leaves and its result. -/
inductive Ending (fs : φ) : List (String × ByteArray) → φ → Except Failure Unit → Prop where
  | stopped {f : Failure} (hprepare : prepare env o fs = .error f) : Ending fs [] fs (.error f)
  | outputRefused {data : ByteArray} {events : EventLog}
      (hprepare : prepare env o fs = .ok (data, events))
      (hout : env.files.write (outputFile env o fs) data fs = none) :
      Ending fs [] fs (.error ⟨"failed to write output: " ++ outputFile env o fs, none⟩)
  | reportRefused {data : ByteArray} {events : EventLog} {fs₁ : φ} {file : String}
      (hprepare : prepare env o fs = .ok (data, events))
      (hout : env.files.write (outputFile env o fs) data fs = some fs₁)
      (hfile : o.report = some file)
      (hreport : env.files.write file (reportBytes env o fs events) fs₁ = none) :
      Ending fs [(outputFile env o fs, data)] fs₁
        (.error ⟨"failed to write report: " ++ file, none⟩)
  | unreported {data : ByteArray} {events : EventLog} {fs₁ : φ}
      (hprepare : prepare env o fs = .ok (data, events))
      (hout : env.files.write (outputFile env o fs) data fs = some fs₁)
      (hfile : o.report = none) :
      Ending fs [(outputFile env o fs, data)] fs₁ (.ok ())
  | reported {data : ByteArray} {events : EventLog} {fs₁ fs₂ : φ} {file : String}
      (hprepare : prepare env o fs = .ok (data, events))
      (hout : env.files.write (outputFile env o fs) data fs = some fs₁)
      (hfile : o.report = some file)
      (hreport : env.files.write file (reportBytes env o fs events) fs₁ = some fs₂) :
      Ending fs [(outputFile env o fs, data), (file, reportBytes env o fs events)] fs₂ (.ok ())

theorem prepare_recording (s : φ × List (String × ByteArray)) :
    prepare env.recording o s = prepare env o s.1 := by
  have himage : loadImage env.recording o.path s = loadImage env o.path s.1 := rfl
  have hhost : locateHost env.recording o.host s = locateHost env o.host s.1 := rfl
  have hlaunch (program : String) : env.recording.launch program s = env.launch program s.1 := rfl
  simp only [prepare, himage, hhost, hlaunch, deobfuscate_recording]

theorem deliver_ending {data : ByteArray} {events : EventLog} {fs : φ}
    (hprepare : prepare env o fs = .ok (data, events)) :
    let d := deliver env.recording o data events (fs, [])
    Ending env o fs d.files.2 d.files.1 d.result := by
  have hfile : outputFile env.recording o (fs, []) = outputFile env o fs := rfl
  have hbytes : reportBytes env.recording o (fs, []) events = reportBytes env o fs events := rfl
  simp only [deliver_eq, hfile, hbytes, write_recording]
  cases hout : env.files.write (outputFile env o fs) data fs with
  | none => exact .outputRefused hprepare hout
  | some fs₁ =>
    cases hfile : o.report with
    | none => simpa using Ending.unreported hprepare hout hfile
    | some file =>
      simp only [Option.map_some]
      cases hreport : env.files.write file (reportBytes env o fs events) fs₁ with
      | none => exact .reportRefused hprepare hout hfile hreport
      | some fs₂ => simpa using Ending.reported hprepare hout hfile hreport

theorem run_ending (fs : φ) :
    Ending env o fs (written env o fs) (run env o fs).files (run env o fs).result := by
  obtain ⟨hfiles, hresult⟩ := run_finish env.recording o (fs, [])
  rw [← run_recording env o (fs, []), written, Outcome.mapFiles, hfiles, hresult, finish,
    prepare_recording]
  cases hprepare : prepare env o fs with
  | error f => exact .stopped hprepare
  | ok done => exact deliver_ending env o hprepare

/-- The files that a run leaves are those after its writes. -/
theorem writeAll_written (fs : φ) :
    env.files.writeAll (written env o fs) fs = some (run env o fs).files := by
  have hending := run_ending env o fs
  generalize written env o fs = writes, (run env o fs).files = files,
    (run env o fs).result = result at hending
  cases hending with
  | stopped | outputRefused => rfl
  | reportRefused _ hout | unreported _ hout => simp [FileSystem.writeAll, hout]
  | reported _ hout _ hreport => simp [FileSystem.writeAll, hout, hreport]

/-! ## Failed runs -/

/-- The result is written, which leaves the files `fs₁`, and then the report cannot be. -/
def ReportRefused (fs fs₁ : φ) : Prop :=
  ∃ data events, prepare env o fs = .ok (data, events) ∧
    env.files.write (outputFile env o fs) data fs = some fs₁ ∧
    ∃ file ∈ o.report, env.files.write file (reportBytes env o fs events) fs₁ = none

variable {env o}

/-- A run whose report is refused fails for that, with its result written. -/
theorem ReportRefused.run {fs fs₁ : φ} (h : ReportRefused env o fs fs₁) :
    (∃ file ∈ o.report,
      (run env o fs).result = .error ⟨"failed to write report: " ++ file, none⟩) ∧
    (run env o fs).files = fs₁ ∧
    (written env o fs).map Prod.fst = [outputFile env o fs] := by
  obtain ⟨data, events, hprepare, hout, file, hfile, hreport⟩ := h
  have hending := run_ending env o fs
  generalize written env o fs = writes, (Command.run env o fs).files = files,
    (Command.run env o fs).result = result at hending
  -- every other ending contradicts what is known of one of the two writes
  cases hending <;> simp_all

theorem reportRefused_or_of_error {fs : φ} {f : Failure} (h : (run env o fs).result = .error f) :
    ReportRefused env o fs (run env o fs).files ∨
      written env o fs = [] ∧ (run env o fs).files = fs := by
  have hending := run_ending env o fs
  generalize written env o fs = writes, (run env o fs).files = files at *
  rw [h] at hending
  cases hending with
  | stopped | outputRefused => exact .inr ⟨rfl, rfl⟩
  | reportRefused hprepare hout hfile hreport =>
    exact .inl ⟨_, _, hprepare, hout, _, hfile, hreport⟩

theorem written_of_ok {fs : φ} (h : (run env o fs).result = .ok ()) :
    ∃ data events, prepare env o fs = .ok (data, events) ∧
      written env o fs = (outputFile env o fs, data) ::
        o.report.toList.map fun file => (file, reportBytes env o fs events) := by
  have hending := run_ending env o fs
  generalize written env o fs = writes, (run env o fs).files = files at *
  rw [h] at hending
  cases hending with
  | unreported hprepare _ hfile => exact ⟨_, _, hprepare, by simp [hfile]⟩
  | reported hprepare _ hfile _ => exact ⟨_, _, hprepare, by simp [hfile]⟩

/-- A run that fails has written nothing and leaves the files as they were, exactly unless its
result is written and then its report cannot be. Even then the files are the same if the write of
the result changed nothing. A run that succeeds has written the result and the report that is asked
for, in this order, and nothing else. -/
theorem run_writes_iff (env : Environment φ) (o : Options) (fs : φ) :
    (run env.recording o (fs, [])).mapFiles Prod.fst = run env o fs ∧
    env.files.writeAll (written env o fs) fs = some (run env o fs).files ∧
    ((∀ f, (run env o fs).result = .error f → written env o fs = [] ∧ (run env o fs).files = fs) ↔
      ∀ fs₁, ¬ ReportRefused env o fs fs₁) ∧
    ((∀ f, (run env o fs).result = .error f → (run env o fs).files = fs) ↔
      ∀ fs₁, ReportRefused env o fs fs₁ → fs₁ = fs) ∧
    ((run env o fs).result = .ok () →
      ∃ data events, prepare env o fs = .ok (data, events) ∧
        written env o fs = (outputFile env o fs, data) ::
          o.report.toList.map fun file => (file, reportBytes env o fs events)) := by
  refine ⟨run_recording env o (fs, []), writeAll_written env o fs, ⟨?_, ?_⟩, ⟨?_, ?_⟩,
    written_of_ok⟩
  · intro hclean fs₁ hrefused
    obtain ⟨⟨_, -, hresult⟩, -, hwritten⟩ := hrefused.run
    simp [(hclean _ hresult).1] at hwritten
  · intro hnone f hresult
    exact (reportRefused_or_of_error hresult).resolve_left (hnone _)
  · intro hsame fs₁ hrefused
    obtain ⟨⟨_, -, hresult⟩, hfiles, -⟩ := hrefused.run
    exact hfiles.symm.trans (hsame _ hresult)
  · intro hsame f hresult
    rcases reportRefused_or_of_error hresult with hrefused | ⟨-, hfiles⟩
    · exact hsame _ hrefused
    · exact hfiles

/-! ## A project without any types -/

/-- The bytes at their places, and zeros between and after them. -/
def layOut (size : Nat) (parts : List (Nat × List UInt8)) : ByteArray :=
  let byte (i : Nat) : Option UInt8 :=
    parts.findSome? fun part => if part.1 ≤ i then part.2[i - part.1]? else none
  ⟨((List.range size).map fun i => (byte i).getD 0).toArray⟩

/-- An image of managed code with nothing in it. -/
def emptyImage : ByteArray :=
  layOut 1024
    [(0x000, [0x4d, 0x5a]), (0x03c, [0x80]), (0x080, [0x50, 0x45, 0, 0, 0x4c, 1, 1]),
     -- the optional header, with its size in front and room for sixteen directories
     (0x094, [0xe0, 0, 2, 1, 0x0b, 1, 8, 0, 0, 2]),
     (0x0a9, [0x20, 0, 0, 0, 0x20, 0, 0, 0, 0x40, 0, 0, 0, 0, 0x40, 0, 0, 0x20]),
     (0x0bd, [2, 0, 0, 4]), (0x0c8, [4]), (0x0d1, [0x40, 0, 0, 0, 2]), (0x0dc, [3]),
     (0x0e2, [0x10, 0, 0, 0x10]), (0x0ea, [0x10, 0, 0, 0x10]), (0x0f4, [0x10]),
     -- the directory of the managed runtime
     (0x168, [8, 0x20, 0, 0, 0x48]),
     -- the one section
     (0x178, [0x2e, 0x74, 0x65, 0x78, 0x74, 0, 0, 0, 0, 2, 0, 0, 0, 0x20, 0, 0, 0, 2, 0, 0, 0, 2]),
     (0x19c, [0x20, 0, 0, 0x60]),
     -- the header of the managed runtime, and the metadata root
     (0x208, [0x48, 0, 0, 0, 2, 0, 5, 0, 0x50, 0x20, 0, 0, 0, 1, 0, 0, 1]),
     (0x250, [0x42, 0x53, 0x4a, 0x42, 1, 0, 1, 0, 0, 0, 0, 0, 0x0c]),
     (0x260, [0x76, 0x34, 0x2e, 0x30, 0x2e, 0x33, 0x30, 0x33, 0x31, 0x39])]

/-- A host that knows one module without any types, and writes it as two bytes. -/
def emptyHost : Environment Tree where
  files := Tree.fileSystem
  launch _ _ :=
    let lines := ["\x7b\"ok\":true,\"result\":\x7b\x7d\x7d\n",
      "\x7b\"ok\":true,\"result\":\"QUI=\"\x7d\n"]
    .ok { unread := lines.map fun line => line.toUTF8.data.toList }

def emptyProject : Tree := { files := [(["app.exe"], emptyImage), (["plain"], ⟨#[0]⟩)] }

def projectOptions : Options := { path := "app.exe", host := some "./host" }

/-- The options with a file for the report. -/
def reportTo (file : String) : Options := { projectOptions with report := some file }

theorem exists_prepare_of_toOption {fs : φ} {data : ByteArray}
    (h : (prepare env o fs).toOption.map Prod.fst = some data) :
    ∃ events, prepare env o fs = .ok (data, events) := by
  cases hprepare : prepare env o fs with
  | error f => simp [hprepare, Except.toOption] at h
  | ok done => exact ⟨done.2, by simp_all [Except.toOption, Prod.ext_iff]⟩

theorem prepare_report (env : Environment φ) (o : Options) (report : Option String) (fs : φ) :
    prepare env { o with report } fs = prepare env o fs :=
  rfl

theorem outputFile_report (env : Environment φ) (o : Options) (report : Option String) (fs : φ) :
    outputFile env { o with report } fs = outputFile env o fs :=
  rfl

theorem prepare_emptyProject (file : String) :
    ∃ events, prepare emptyHost (reportTo file) emptyProject = .ok (⟨#[65, 66]⟩, events) := by
  rw [reportTo, prepare_report]
  exact exists_prepare_of_toOption (by decide +kernel)

theorem write_emptyProject (file : String) (data : ByteArray) :
    emptyHost.files.write (outputFile emptyHost (reportTo file) emptyProject) data emptyProject =
      some (emptyProject.put ["app-deobf.exe"] data) := by
  have hfile : outputFile emptyHost (reportTo file) emptyProject = "app-deobf.exe" := by
    rw [reportTo, outputFile_report]
    decide +kernel
  rw [hfile]
  rfl

theorem result_of_writes {fs fs₁ fs₂ : φ} {data : ByteArray} {events : EventLog} {file : String}
    (hprepare : prepare env o fs = .ok (data, events))
    (hout : env.files.write (outputFile env o fs) data fs = some fs₁) (hfile : o.report = some file)
    (hreport : env.files.write file (reportBytes env o fs events) fs₁ = some fs₂) :
    (run env o fs).result = .ok () := by
  rw [(run_finish env o fs).2, finish, hprepare]
  simp only [deliver_eq, hout, hfile, hreport, Delivery.result_shown]

/-- The two writes of a run over the project. -/
theorem run_writes_emptyProject :
    (run emptyHost (reportTo "r.json") emptyProject).result = .ok () ∧
      (written emptyHost (reportTo "r.json") emptyProject).map Prod.fst =
        ["app-deobf.exe", "r.json"] := by
  obtain ⟨events, hprepare⟩ := prepare_emptyProject "r.json"
  have hresult := result_of_writes hprepare (write_emptyProject "r.json" _) rfl rfl
  obtain ⟨-, -, -, -, hok⟩ := run_writes_iff emptyHost (reportTo "r.json") emptyProject
  obtain ⟨data, events, -, hwritten⟩ := hok hresult
  exact ⟨hresult, congrArg (List.map Prod.fst) hwritten⟩

theorem reportRefused_below_file :
    ReportRefused emptyHost (reportTo "plain/x") emptyProject
      (emptyProject.put ["app-deobf.exe"] ⟨#[65, 66]⟩) := by
  obtain ⟨events, hprepare⟩ := prepare_emptyProject "plain/x"
  exact ⟨_, events, hprepare, write_emptyProject _ _, "plain/x", rfl, rfl⟩

/-- A report that is to go below a file fails the run, and the result stays. -/
theorem result_left_by_failed_run :
    (∃ f, (run emptyHost (reportTo "plain/x") emptyProject).result = .error f) ∧
      (run emptyHost (reportTo "plain/x") emptyProject).files ≠ emptyProject ∧
      (written emptyHost (reportTo "plain/x") emptyProject).map Prod.fst = ["app-deobf.exe"] := by
  obtain ⟨⟨_, -, hresult⟩, hfiles, hwritten⟩ := reportRefused_below_file.run
  refine ⟨⟨_, hresult⟩, ?_, hwritten⟩
  rw [hfiles]
  intro hsame
  have hlength := congrArg (fun t : Tree => t.files.length) hsame
  revert hlength
  decide

end Command
end Unmask
