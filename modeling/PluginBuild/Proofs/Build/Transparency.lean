/-
# Proofs.Build.Transparency -- a build does not see that it talks to a process

What a build gets from a helper is what compiling gives without one: the frames of its plan
applied to a session in order, and then the request to compile (`Session.inProcess`).  Along
the way every frame is taken in order (`sendAll_ok`), the one answer is read whole (`compile_ok`),
and the helper ends well if it is given the time for that (`session_ok`).
-/
import PluginBuild.Build
import PluginBuild.Proofs.Host.Discovery
import PluginBuild.Proofs.Launch.Stream

namespace PluginBuild.Build

set_option autoImplicit false

open PluginBuild.Wire
open PluginBuild.Supervisor (quietFiles quietHelper quietLauncher quietPath isHelper_quiet
  endsWithin_quiet start_quiet)

variable {setting : Helper.Setting} {b : Behaviour} {c : Child} {s : Supervisor}
  {w frames : List Frame}

/-! ## Plans -/

theorem findIn_cons {files : FileSystem} {root : Path} {roots : List Path} {pattern : Pattern}
    {here others : List Path}
    (found : (Discovery.findFiles files pattern root ()).result = .ok here)
    (foundOthers : (Discovery.findIn files pattern roots ()).result = .ok others) :
    (Discovery.findIn files pattern (root :: roots) ()).result = .ok (here ++ others) := by
  simp [Discovery.findIn, found, foundOthers]

/-- A plan tells the helper the symbols, the sources and the references. -/
theorem plan_of_found {b : Build} {files : FileSystem} {symbols : List String}
    {sources references : List Path} (known : b.host.symbols = .ok symbols)
    (found : (Discovery.findSources files b.install b.app ()).result = .ok sources)
    (referred : (Discovery.findReferences files b.install b.app ()).result = .ok references) :
    (b.plan files ()).result = .ok (symbolFrames symbols ++ runtimeFrames b.host
      ++ sources.map (fun path => ⟨.addSource, [path.text]⟩)
      ++ references.map fun path => ⟨.addReference, [path.text]⟩) := by
  simp [plan, known, found, referred]

/-- A plan only configures the session. -/
theorem configures_of_plan {b : Build} {files : FileSystem}
    (planned : (b.plan files ()).result = .ok frames) :
    ∀ f ∈ frames, f.WellShaped ∧ f.action.isConfiguration = true := by
  simp only [plan, Act.result_bind_eq_ok, Act.result_pure, Except.ok.injEq] at planned
  obtain ⟨symbols, -, sources, -, references, -, rfl⟩ := planned
  intro f hf
  simp only [List.mem_append, symbolFrames, runtimeFrames, List.mem_map] at hf
  rcases hf with ((⟨symbol, -, rfl⟩ | micro) | ⟨source, -, rfl⟩) | ⟨reference, -, rfl⟩
  · exact ⟨rfl, rfl⟩
  · split at micro
    · simp only [List.mem_cons, List.not_mem_nil, or_false] at micro
      rcases micro with rfl | rfl <;> exact ⟨rfl, rfl⟩
    · cases micro
  · exact ⟨rfl, rfl⟩
  · exact ⟨rfl, rfl⟩

theorem sendable_of_plan {b : Build} {files : FileSystem}
    (planned : (b.plan files ()).result = .ok frames)
    (short : ∀ f ∈ frames, ∀ t ∈ f.payload, ShortText t) :
    ∀ f ∈ frames, f.Sendable ∧ f.action.isConfiguration = true := by
  intro f hf
  obtain ⟨shaped, configures⟩ := configures_of_plan planned f hf
  exact ⟨⟨shaped, short f hf⟩, configures⟩

theorem not_mem_of_configures (configures : ∀ f ∈ frames, f.action.isConfiguration = true)
    {a : Action} (other : a.isConfiguration = false) : a ∉ frames.map Frame.action := by
  intro present
  obtain ⟨f, hf, rfl⟩ := List.mem_map.1 present
  rw [configures f hf] at other
  cases other

/-! ## Talking to a helper -/

/-- What is asked for with the action and the texts of a frame is the frame. -/
theorem configuration?_of_sendable {f : Frame} (sendable : f.Sendable)
    (configures : f.action.isConfiguration = true) :
    Supervisor.configuration? f.action (f.payload.map Argument.text) = some f := by
  rw [Supervisor.configuration?, if_pos configures, f.action.payload?_text sendable.shaped]
  rfl

/-- Frames that are sent to a helper are on their way in order, and nothing else changes. -/
theorem sendAll_ok (tends : s.Tends b setting c) (disciplined : s.Disciplined w)
    (unfinished : s.finished = false)
    (fine : ∀ f ∈ frames, f.Sendable ∧ f.action.isConfiguration = true)
    (handles : setting.session.HandlesAll setting.compiler (w ++ frames)) :
    (sendAll frames s).result = .ok () ∧ ∃ c', (sendAll frames s).state = s.withChild c' ∧
      (s.withChild c').Tends b setting c' ∧ (s.withChild c').Disciplined (w ++ frames) ∧
      c'.outputRead = c.outputRead := by
  induction frames generalizing s c w with
  | nil =>
      have same := Supervisor.withChild_self tends.child
      refine ⟨rfl, c, same.symm, ?_, ?_, rfl⟩
      · rw [same]
        exact tends
      · rw [same, List.append_nil]
        exact disciplined
  | cons f frames ih =>
      obtain ⟨sendable, configures⟩ := fine f List.mem_cons_self
      have asked := configuration?_of_sendable sendable configures
      have short : ∀ t, Argument.text t ∈ f.payload.map Argument.text → ShortText t := by
        intro t ht
        obtain ⟨t', present, same⟩ := List.mem_map.1 ht
        cases same
        exact sendable.short t present
      have listens := tends.listener? unfinished
      have handlesBefore := Session.handlesAll_of_prefix handles (List.prefix_append w _)
      obtain ⟨put, free⟩ := tends.goes disciplined handlesBefore unfinished sendable
        (Child.goes_put f)
      have moves := (Child.writes_put f c).moves
      obtain ⟨sent, state⟩ := Supervisor.send_eq listens asked sendable.short
      rw [put] at sent
      have disciplined' := disciplined.send f.action (f.payload.map Argument.text) short
      rw [state, Call.written_of_some (.send _ _) listens asked] at disciplined'
      have tends' : (s.withChild (Child.put f c).state).Tends b setting (Child.put f c).state :=
        tends.exchange rfl moves.behaviour moves.code moves.inputOpen free
      rw [List.append_cons] at handles
      obtain ⟨others, c', state', tends'', disciplined'', unread⟩ :=
        ih tends' disciplined' unfinished (fun g hg => fine g (List.mem_cons_of_mem _ hg)) handles
      rw [← List.append_cons] at disciplined''
      refine ⟨?_, c', ?_, tends'', disciplined'', unread.trans moves.outputRead⟩
      · rw [sendAll, Act.result_bind, sent, state]
        exact others
      · rw [sendAll, Act.state_bind, sent, state]
        exact state'

/-- The request to compile is answered with what compiling gives without a pipe. -/
theorem compile_ok (tends : s.Tends b setting c) (disciplined : s.Disciplined w)
    (unfinished : s.finished = false) (first : s.compileRequested = false)
    (unread : c.outputRead = 0) (configures : ∀ f ∈ w, f.action.isConfiguration = true)
    (handles : setting.session.HandlesAll setting.compiler (w ++ [.bare .compile])) :
    ∃ r, (Session.inProcess setting.compiler w setting.session).result = .ok r ∧
      (Supervisor.compile s).result = .ok r ∧
      ∃ c', (Supervisor.compile s).state = { s.withChild c' with compileRequested := true } := by
  have handlesBefore := Session.handlesAll_of_prefix handles (List.prefix_append w _)
  have listens := tends.listener? unfinished
  have helper := tends.serves.isHelper
  obtain ⟨told, free⟩ := tends.tell disciplined handlesBefore unfinished
    (Frame.sendable_bare (a := .compile) rfl)
  obtain ⟨result, state⟩ := Supervisor.compile_eq first listens
  have moves := (Child.writes_tell [.bare .compile] c).moves
  have empty := Child.buffer_of_tell told
  have disciplined' := disciplined.compile
  rw [Call.written_of_some _ listens (Call.frame?_compile first), state, told] at disciplined'
  -- the child behind the request has been given the plan and the request, and nothing waits
  generalize Child.tell [.bare .compile] c = o at *
  let answered := (o.state.read Reader.result).2
  have given : o.state.given = framesBytes (w ++ [.bare .compile]) :=
    disciplined'.given_eq (c := answered) rfl free empty
  have accepts : setting.session.Accepts (w ++ [.bare .compile]) :=
    disciplined'.accepts (c := answered) rfl free
  have cut : Cut (w ++ [.bare .compile]) o.state.given (w ++ [.bare .compile]) [] :=
    given ▸ cut_framesBytes _
  obtain ⟨-, answers, replayed, output⟩ := status_helper helper.level
    (cut.wholeFrames_eq accepts.sendable) accepts handles
  have status : o.state.status = (Program.helper setting).status o.state.deliveries false := by
    rw [Child.status, moves.behaviour, tends.serves.behaviour, helper.program, moves.inputOpen,
      tends.inputOpen]
    rfl
  rw [← status] at output
  obtain ⟨answers', replayed', fine⟩ := Session.exists_answers_of_accepts accepts handles
  -- the plan itself has no answer, so there is but one
  have acceptsPlan := accepts.of_prefix (List.prefix_append w _)
  have silent := Session.result_replay_of_configures acceptsPlan handlesBefore
    (not_mem_of_configures configures rfl)
  rw [Session.result_replay_compile silent] at replayed replayed'
  cases compiled : (Session.inProcess setting.compiler w setting.session).result with
  | error e =>
      rw [compiled] at replayed
      cases replayed
  | ok r =>
      rw [compiled] at replayed replayed'
      cases replayed
      cases replayed'
      obtain ⟨fits, plain⟩ := fine r List.mem_cons_self
      have read := Child.read_result (moves.outputRead.trans unread) output fits plain
      refine ⟨r, rfl, ?_, answered, ?_⟩
      · rw [result, told]
        exact congrArg (Except.mapError _) read
      · rw [state, told]

/-- A helper that is talked to has been told to finish, behind the request to compile. -/
theorem talk_ok (tends : s.Tends b setting c) (disciplined : s.Disciplined [])
    (unfinished : s.finished = false) (first : s.compileRequested = false)
    (unread : c.outputRead = 0)
    (fine : ∀ f ∈ frames, f.Sendable ∧ f.action.isConfiguration = true)
    (handles : setting.session.HandlesAll setting.compiler (frames ++ [.bare .compile])) :
    ∃ r, (Session.inProcess setting.compiler frames setting.session).result = .ok r ∧
      (talk frames s).result = .ok r ∧ (talk frames s).state.finished = true ∧
      (talk frames s).state.exitTimeout = s.exitTimeout ∧
      (talk frames s).state.former = s.former ∧
      (∃ c', (talk frames s).state.Tends b setting c') ∧
      (talk frames s).state.Disciplined (frames ++ [.bare .compile] ++ [.bare .finish]) := by
  have handlesPlan := Session.handlesAll_of_prefix handles (List.prefix_append frames _)
  obtain ⟨sent, c₂, state₂, tends₂, disciplined₂, unread₂⟩ :=
    sendAll_ok tends disciplined unfinished fine handlesPlan
  rw [List.nil_append] at disciplined₂
  -- the request to compile
  have first₂ : (s.withChild c₂).compileRequested = false := first
  obtain ⟨r, inProcess, compiled, c₃, state₃⟩ :=
    compile_ok tends₂ disciplined₂ unfinished first₂ (unread₂.trans unread)
      (fun f hf => (fine f hf).2) handles
  obtain ⟨c₃', tends₃⟩ := tends₂.compile disciplined₂ handlesPlan
  have disciplined₃ := disciplined₂.compile
  rw [Call.written_of_some _ (tends₂.listener? unfinished) (Call.frame?_compile first₂)]
    at disciplined₃
  have unfinished₃ : (Supervisor.compile (s.withChild c₂)).state.finished = false := by
    rw [state₃]
    exact unfinished
  -- the end
  have listens₃ := tends₃.listener? unfinished₃
  obtain ⟨told, -⟩ := tends₃.tell disciplined₃ handles unfinished₃
    (Frame.sendable_bare (a := .finish) rfl)
  obtain ⟨result₄, state₄⟩ := Supervisor.finish_eq listens₃
  rw [told] at result₄ state₄
  obtain ⟨tends₄, finished₄⟩ := tends₃.finish disciplined₃ handles
  have disciplined₄ := disciplined₃.finish
  rw [Call.written_of_some .finish listens₃ rfl] at disciplined₄
  have done : (Supervisor.finish (Supervisor.compile (s.withChild c₂)).state).result = .ok () :=
    result₄
  have result : (talk frames s).result = .ok r := by
    simp only [talk, Act.result_bind, sent, state₂, compiled, done, Act.result_pure]
  have state : (talk frames s).state =
      (Supervisor.finish (Supervisor.compile (s.withChild c₂)).state).state := by
    simp only [talk, Act.state_bind, sent, state₂, compiled, done, Act.state_pure]
  rw [state]
  refine ⟨r, inProcess, result, finished₄, ?_, ?_, tends₄, disciplined₄⟩
  · rw [state₄, state₃]
    rfl
  · rw [state₄, state₃]
    rfl

/-- A helper that starts well compiles what it is sent, and ends well if it is given the time for
that. -/
theorem session_ok {files : FileSystem} {l : Launcher} (idle : s.former = [])
    (fresh : s.Disciplined []) (first : s.compileRequested = false)
    (isHelper : (l.behaviour files).IsHelper setting)
    (started : (Supervisor.start files l s).result = .ok ())
    (fine : ∀ f ∈ frames, f.Sendable ∧ f.action.isConfiguration = true)
    (handles : setting.session.HandlesAll setting.compiler (frames ++ [.bare .compile])) :
    ∃ r c, (Session.inProcess setting.compiler frames setting.session).result = .ok r ∧
      (session files l frames s).result = .ok r ∧
      (session files l frames s).state.attempts = [.started c] ∧
      ((l.behaviour files).EndsWithin (patience s.exitTimeout) → c.code = some 0) := by
  obtain ⟨childless, arguments, state, -⟩ := Supervisor.exists_fresh_of_start started
  obtain ⟨c, tends⟩ := Supervisor.exists_tends_of_start started isHelper
  have disciplined := fresh.start files l
  have unfinished := (fresh.idle childless).2
  rw [state] at tends disciplined
  cases tends.child
  obtain ⟨r, inProcess, talked, told, timeout, former, ⟨c₂, tends₂⟩, disciplined₂⟩ :=
    talk_ok tends disciplined unfinished first rfl fine handles
  -- the end has been told, so closing writes nothing
  have deaf : (talk frames (s.withChild (.fresh arguments (l.behaviour files)))).state.listener? =
      none := by rw [Supervisor.listener?, told, if_pos rfl]
  have handlesClose : setting.session.HandlesAll setting.compiler
      (frames ++ [.bare .compile] ++ [.bare .finish] ++ Call.close.written
        (talk frames (s.withChild (.fresh arguments (l.behaviour files)))).state) := by
    rw [Call.written_of_deaf .close deaf, List.append_nil]
    exact Session.handlesAll_concat_finish handles
  obtain ⟨closed, c₃, deliveries, state₃, -, -, code⟩ := tends₂.close disciplined₂ handlesClose
  obtain ⟨-, former₃, -⟩ := Supervisor.finishOwed_keeps tends₂.child
  have back : (talk frames (s.withChild (.fresh arguments (l.behaviour files)))).result ≠
      .error .never := by
    rw [talked]
    exact fun same => by cases same
  obtain ⟨ensured, ends⟩ := Supervisor.ensuring_eq Supervisor.close back
  rw [talked, closed] at ends
  have result : (session files l frames s).result = .ok r := by
    simp only [session, Act.result_bind, started, state, ends]
  have left : (session files l frames s).state = (Supervisor.close
      (talk frames (s.withChild (.fresh arguments (l.behaviour files)))).state).state := by
    simp only [session, Act.state_bind, started, state, ensured]
  have attempts : (session files l frames s).state.attempts = [.started c₃] := by
    rw [left, state₃, Supervisor.attempts, Supervisor.former_withChild, former₃, former,
      Supervisor.former_withChild, idle]
    rfl
  refine ⟨r, c₃, inProcess, result, attempts, fun prompt => ?_⟩
  rw [code, timeout]
  exact congrArg some (if_pos (prompt deliveries))

/-! ## A build -/

/-- A build with a helper that never finds anything to say. -/
def quietBuild : Build where
  host := ⟨"5.3", .linux, false, none⟩
  install := ⟨⟨.single, []⟩⟩
  app := ⟨⟨.single, []⟩⟩
  helper := some quietPath
  readyTimeout := none

/-- What it is done in. -/
def quietWorkshop : Workshop := ⟨quietFiles, ⟨[], "linux"⟩, quietLauncher⟩

/-- Its source. -/
def quietSource : Path := ⟨.single, ["Plugins", "a.py"]⟩

/-- What it tells the helper. -/
def quietPlan : List Frame :=
  symbolFrames ["UNITY_STANDALONE", "UNITY_STANDALONE_LINUX", "UNITY_5", "UNITY_5_3",
    "UNITY_5_3_OR_NEWER"] ++ [⟨.addSource, ["/Plugins/a.py"]⟩]

theorem status_quiet (names : List String)
    (h : names ∈ [["Mods"], ["Core"], ["Managed"], ["Plugins"], ["Plugins", "a.py"]]) :
    quietFiles.status ⟨.single, names⟩ = .ok (quietFiles.root.at? names) := by
  have fine : ∀ names ∈ [["Mods"], ["Core"], ["Managed"], ["Plugins"], ["Plugins", "a.py"]],
      (∀ name ∈ names, Node.IsName name) ∧ quietFiles.root.unlinked names = true ∧
        ¬FileSystem.maxPath < (Path.mk .single names).text.utf8ByteSize := by decide +kernel
  obtain ⟨areNames, unlinked, short⟩ := fine names h
  exact FileSystem.status_of_unlinked areNames unlinked short

theorem symbols_quiet : quietBuild.host.symbols = .ok ["UNITY_STANDALONE",
    "UNITY_STANDALONE_LINUX", "UNITY_5", "UNITY_5_3", "UNITY_5_3_OR_NEWER"] := by
  have version : Version.parse quietBuild.host.version = .ok ⟨5, 3, 0, 0⟩ := rfl
  have parts : Host.versionSymbols quietBuild.host.version = ["UNITY_5", "UNITY_5_3"] := by
    decide +kernel
  have reached : Host.reachedSymbols ⟨5, 3, 0, 0⟩ = ["UNITY_5_3_OR_NEWER"] := by decide +kernel
  rw [Host.symbols, version]
  show Except.ok (_ ++ Host.versionSymbols quietBuild.host.version
    ++ Host.reachedSymbols ⟨5, 3, 0, 0⟩) = _
  rw [parts, reached]
  rfl

theorem isSound_quiet : quietFiles.IsSound where
  root := by
    simp only [quietFiles, Node.IsSound, Node.AreSound]
    decide +kernel
  current := ⟨_, rfl⟩

theorem findFiles_quiet {pattern : Pattern} {name : String} {found : List Path}
    (among : name ∈ ["Mods", "Plugins", "Core", "Managed"])
    (listed : FileSystem.filesListed pattern ⟨.single, [name]⟩
      ((quietFiles.root.at? [name]).getD (.dir [])) = found)
    (increasing : found.Pairwise fun q q' => q.components < q'.components) :
    (Discovery.findFiles quietFiles pattern ⟨.single, [name]⟩ ()).result = .ok found := by
  have unlinked : ∀ name ∈ ["Mods", "Plugins", "Core", "Managed"],
      ∀ e ∈ ((quietFiles.root.at? [name]).getD (.dir [])).listing, ¬e.2.IsLink ∧
        ¬FileSystem.maxPath < (Path.below ⟨.single, [name]⟩ e.1).text.utf8ByteSize := by
    decide +kernel
  exact Discovery.search_unlinked isSound_quiet (status_quiet [name] (by simp at among ⊢; tauto))
    rfl (unlinked name among) listed increasing

theorem found_quiet :
    (Discovery.findSources quietFiles quietBuild.install quietBuild.app ()).result =
        .ok [quietSource] ∧
      (Discovery.findReferences quietFiles quietBuild.install quietBuild.app ()).result =
        .ok [] := by
  have mods (pattern : Pattern) : (Discovery.findFiles quietFiles pattern
      quietBuild.app.mods ()).result = .ok [] := findFiles_quiet (by decide) rfl .nil
  have managed (pattern : Pattern) : (Discovery.findFiles quietFiles pattern
      quietBuild.app.managed ()).result = .ok [] := findFiles_quiet (by decide) rfl .nil
  have core (pattern : Pattern) : (Discovery.findFiles quietFiles pattern
      quietBuild.install.core ()).result = .ok [] := findFiles_quiet (by decide) rfl .nil
  have source : (Discovery.findFiles quietFiles Discovery.sources
      quietBuild.install.plugins ()).result = .ok [quietSource] :=
    findFiles_quiet (by decide) (by decide +kernel) (List.pairwise_singleton _ _)
  have archives : (Discovery.findFiles quietFiles Discovery.references
      quietBuild.install.plugins ()).result = .ok [] :=
    findFiles_quiet (by decide) (by decide +kernel) .nil
  constructor
  · exact findIn_cons (mods _) (findIn_cons source rfl)
  · exact findIn_cons (core _) (findIn_cons archives
      (findIn_cons (mods _) (findIn_cons (managed _) rfl)))

theorem plan_quiet : (quietBuild.plan quietFiles ()).result = .ok quietPlan := by
  have text : quietSource.text = "/Plugins/a.py" := by decide +kernel
  rw [plan_of_found symbols_quiet found_quiet.1 found_quiet.2, List.map_singleton, text, quietPlan,
    runtimeFrames, if_neg (by decide), List.append_nil, List.map_nil, List.append_nil]

/-! ## Building -/

/-- A build whose plan fits, and whose helper starts well and gets through it, has the result
that the plan gives without a process, and its one child has ended well, as long as it ends within
the time that it is given. -/
theorem compile_transparent (b : Build) (w : Workshop) (attempts : List Attempt)
    {helper : Path} {timeout : Number.Binary64}
    (planned : (b.plan w.files ()).result = .ok frames)
    (short : ∀ f ∈ frames, ∀ t ∈ f.payload, ShortText t)
    (located : b.helperPath w.settings = .ok helper)
    (patient : b.timeout w.settings = .ok timeout)
    (isHelper : (w.launcher.behaviour w.files).IsHelper setting)
    (started : (Supervisor.start w.files w.launcher
      (.fresh helper b.host.platform timeout Supervisor.defaultExitTimeout)).result = .ok ())
    (handles : setting.session.HandlesAll setting.compiler (frames ++ [.bare .compile])) :
    ∃ r c, (Session.inProcess setting.compiler frames setting.session).result = .ok r ∧
      (b.compile w attempts).result = .ok (some r) ∧
      (b.compile w attempts).state = attempts ++ [.started c] ∧
      ((w.launcher.behaviour w.files).EndsWithin (patience Supervisor.defaultExitTimeout) →
        c.code = some 0) := by
  have fresh := Supervisor.disciplined_fresh helper b.host.platform timeout
    Supervisor.defaultExitTimeout
  obtain ⟨r, c, inProcess, result, child, code⟩ :=
    session_ok rfl fresh rfl isHelper started (sendable_of_plan planned short) handles
  have prepared : (b.prepare w.files attempts).result = .ok (some frames) ∧
      (b.prepare w.files attempts).state = attempts := by
    simp [prepare, planned]
  refine ⟨r, c, inProcess, ?_, ?_, code⟩
  · simp [compile, prepared, compileFrames, located, patient, supervised, result]
  · simp [compile, prepared, compileFrames, located, patient, supervised, result,
      child]

theorem compile_transparent_quiet :
    ∃ r c, (Session.inProcess quietHelper.compiler quietPlan quietHelper.session).result = .ok r ∧
      (quietBuild.compile quietWorkshop []).result = .ok (some r) ∧
      (quietBuild.compile quietWorkshop []).state = [] ++ [.started c] ∧ c.code = some 0 := by
  have short : ∀ f ∈ quietPlan, ∀ t ∈ f.payload, ShortText t := by decide +kernel
  have located : quietBuild.helperPath quietWorkshop.settings = .ok quietPath := rfl
  have patient : quietBuild.timeout quietWorkshop.settings = .ok Settings.defaultTimeout := rfl
  have handles := Session.handlesAll_of_answers Compiler.answers_quiet quietHelper.session
    (quietPlan ++ [.bare .compile])
  obtain ⟨r, c, inProcess, result, state, code⟩ := compile_transparent quietBuild quietWorkshop []
    plan_quiet short located patient isHelper_quiet (start_quiet _) handles
  exact ⟨r, c, inProcess, result, state, code (endsWithin_quiet _)⟩

end PluginBuild.Build
