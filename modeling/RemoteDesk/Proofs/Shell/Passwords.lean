import RemoteDesk.Proofs.Registry.Outline
import RemoteDesk.Proofs.Session.Passwords
import RemoteDesk.Proofs.Shell.Rounds

/-! # Two shells that differ in passwords

A password that is given flows into the session, the output, the scripts and the files that are
written, and from there possibly into subtasks. Nothing that the log is handed depends on any of
these, and whether the log takes it depends on the outline of the files alone. So the shells of two
operators who differ in passwords only record the same deeds.
-/

namespace RemoteDesk

namespace Desk

/-- What the disk leaves of the changes that it breaks off, without the texts. -/
def remains (faults : List (Option DiskFault)) : List (Option FileTree) :=
  faults.map (·.map (·.left.outline))

/-- Desks that agree in all that a password cannot get into, with operators who answer the coming
    questions alike, passwords aside. -/
structure Twins (questions : List String) (d d' : Desk) : Prop where
  config : d'.config = d.config
  session : d'.session.veiled = d.session.veiled
  ids : d'.registry.ids = d.registry.ids
  counter : d'.counter = d.counter
  tree : d'.tree.outline = d.tree.outline
  faults : remains d'.faults = remains d.faults
  operator : d.operator.Twins questions d'.operator
  deeds : d'.recorded.map (·.deed) = d.recorded.map (·.deed)
  accepts : d.sink.Accepts
  accepts' : d'.sink.Accepts

namespace Twins

variable {questions : List String} {d d' e e' : Desk}

theorem echoed (h : Twins questions d d') (first : d.Echoed e) (second : d'.Echoed e') :
    Twins questions e e' := by
  have accepts := Frame.accepts first h.accepts
  have accepts' := Frame.accepts second h.accepts'
  obtain ⟨sink, -, rfl⟩ := first
  obtain ⟨sink', -, rfl⟩ := second
  exact { h with accepts, accepts' }

/-- Changes of files that are the same without the texts are carried out at both desks or at
    neither. -/
theorem change {α : Type} (h : Twins questions d d')
    (f f' : FileTree → Except DeskError α × FileTree)
    (same : ∀ t t' : FileTree, t'.outline = t.outline →
      Prod.map Except.isOk FileTree.outline (f' t') = Prod.map Except.isOk FileTree.outline (f t)) :
    (d'.change f').1.isOk = (d.change f).1.isOk ∧
      Twins questions (d.change f).2 (d'.change f').2 := by
  have done (faults : remains d'.faults.tail = remains d.faults.tail) :
      (f' d'.tree).1.isOk = (f d.tree).1.isOk ∧
        Twins questions { d with tree := (f d.tree).2, faults := d.faults.tail }
          { d' with tree := (f' d'.tree).2, faults := d'.faults.tail } := by
    obtain ⟨answer, tree⟩ := Prod.mk.inj (same d.tree d'.tree h.tree)
    exact ⟨answer, { h with tree, faults }⟩
  have faults := h.faults
  unfold Desk.change
  rcases first : d.faults with _ | ⟨_ | fault, later⟩ <;>
    rcases second : d'.faults with _ | ⟨_ | fault', later'⟩ <;>
    simp only [first, second, remains, List.map_nil, List.map_cons, Option.map_none,
      Option.map_some, List.cons.injEq, Option.some.injEq, reduceCtorEq, false_and, true_and]
      at faults
  · rw [first, second] at done
    exact done rfl
  · rw [first, second] at done
    exact done faults
  · exact ⟨rfl, { h with tree := faults.1, faults := faults.2 }⟩

theorem record (h : Twins questions d d') (deed : Audit.Deed) :
    Twins questions (d.record deed) (d'.record deed) := by
  unfold Desk.record
  rw [h.config]
  cases d.config.eventsFile with
  | none => exact h
  | some file =>
      obtain ⟨answer, onward⟩ := h.change
        (fun t => Audit.append t (Path.ofString file) ⟨d.stamp, deed⟩)
        (fun t => Audit.append t (Path.ofString file) ⟨d'.stamp, deed⟩)
        fun t t' same => congrArg (Prod.map Except.isOk id) <|
          Audit.append_of_outline same (Path.ofString file) ⟨d.stamp, deed⟩ ⟨d'.stamp, deed⟩
      rcases first : d.change fun t => Audit.append t (Path.ofString file) ⟨d.stamp, deed⟩ with
        ⟨e | ⟨⟩, d₁⟩ <;>
        rcases second : d'.change fun t => Audit.append t (Path.ofString file) ⟨d'.stamp, deed⟩ with
          ⟨e' | ⟨⟩, d₁'⟩ <;>
        rw [first, second] at answer onward <;>
        simp only [first, second]
      · exact onward
      · cases answer
      · cases answer
      · have deeds : (d₁'.recorded ++ [(⟨d'.stamp, deed⟩ : Audit.Event)]).map (·.deed) =
            (d₁.recorded ++ [(⟨d.stamp, deed⟩ : Audit.Event)]).map (·.deed) := by
          rw [List.map_append, List.map_append, onward.deeds]
          rfl
        exact { onward with deeds }

end Twins

namespace Action

/-- From such desks the action leads to such desks, having put its questions. -/
def Discreet (puts : Desk → List String) (a : Action Unit) : Prop :=
  ∀ rest d d', Twins (puts d ++ rest) d d' → Twins rest (a.on d).2 (a.on d').2

/-- No questions. -/
def silent (_ : Desk) : List String :=
  []

theorem Discreet.of_talk {a : Action Unit} (talk : Talk false a) : Discreet silent a :=
  fun _ _ _ h => h.echoed (talk.within_echoed.leads _) (talk.within_echoed.leads _)

theorem Discreet.record (deed : Audit.Deed) : Discreet silent (record deed) :=
  fun _ _ _ h => h.record deed

theorem Discreet.bind {a : Action Unit} {f : Unit → Action Unit} (talk : Talk true a)
    (first : Discreet silent a) (rest : Discreet silent (f ())) : Discreet silent (a >>= f) := by
  intro questions d d' h
  obtain ⟨⟨⟩, done⟩ := talk.told.done d h.accepts
  obtain ⟨⟨⟩, done'⟩ := talk.told.done d' h.accepts'
  rw [on_bind_ok (Prod.ext done rfl), on_bind_ok (Prod.ext done' rfl)]
  exact rest _ _ _ (first _ _ _ h)

theorem Discreet.after {α : Type} {f : Desk → Except DeskError α × Desk} {g : α → Action Unit}
    {puts : Desk → List String}
    (first : ∀ rest d d', Twins (puts d ++ rest) d d' →
      (f d').1 = (f d).1 ∧ Twins rest (f d).2 (f d').2)
    (rest : ∀ x, Discreet silent (g x)) : Discreet puts (.of f >>= g) := by
  intro questions d d' h
  obtain ⟨answer, onward⟩ := first questions d d' h
  rw [on_bind, on_bind, on_of, on_of]
  generalize f d = x at answer onward ⊢
  generalize f d' = x' at answer onward ⊢
  obtain ⟨answered, d₁⟩ := x
  obtain ⟨answered', d₁'⟩ := x'
  obtain rfl : answered' = answered := answer
  cases answered' with
  | error e => exact onward
  | ok x => exact rest x questions _ _ onward

end Action

end Desk

namespace Shell

open Desk Desk.Action

/-! ## Commands one by one -/

theorem startTask_discreet : Discreet silent startTask := by
  refine .after (fun rest d d' h => ?_) fun index => .bind (.record _ rfl) (.record _)
    (.of_talk (.emitLine _))
  have started := Session.start_veiled h.session d'.counter
  nth_rewrite 2 [h.counter] at started
  obtain ⟨answer, session⟩ := Prod.mk.inj started
  exact ⟨congrArg (Except.mapError _) answer, { h with session }⟩

theorem discardTask_discreet : Discreet silent discardTask := by
  refine .after (fun rest d d' h => ?_) fun index => .bind (.record _ rfl) (.record _)
    (.of_talk (.emitLine _))
  obtain ⟨answer, session⟩ := Prod.mk.inj (Session.discard_veiled h.session)
  exact ⟨congrArg (Except.mapError _) answer, { h with session }⟩

/-- The questions that a command puts. -/
def puts (d : Desk) : Command → List String
  | .credentials => d.session.asks d.operator
  | _ => []

/-- A capture records the session without its password. -/
theorem credentialsDeed_of_veiled {s s' : Session} (same : s'.veiled = s.veiled)
    (overwrite : Bool) : credentialsDeed s' overwrite = credentialsDeed s overwrite := by
  obtain ⟨password, rfl⟩ := Session.eq_of_veiled same
  rfl

theorem captureCredentials_discreet : Discreet (puts · .credentials) captureCredentials := by
  refine .after (fun rest d d' h => ?_) fun outcome => ?_
  · obtain ⟨answer, session, operator⟩ := Session.capture_twins h.session h.operator
    exact ⟨congrArg (Except.mapError _) answer, { h with session, operator }⟩
  · have recorded {rest : Unit → Action Unit} (overwrite : Bool)
        (talk : Discreet silent (rest ())) :
        Discreet silent (do
          let s ← look (·.session)
          record (credentialsDeed s overwrite) >>= rest) := by
      intro questions d d' h
      rw [on_bind_ok (show (look (·.session)).on d = (.ok d.session, d) from rfl),
        on_bind_ok (show (look (·.session)).on d' = (.ok d'.session, d') from rfl),
        on_bind_ok (on_record _ _), on_bind_ok (on_record _ _),
        credentialsDeed_of_veiled h.session]
      exact talk _ _ _ (h.record _)
    cases outcome with
    | captured => exact recorded false (.of_talk (.pure ()))
    | overwritten => exact recorded true (.of_talk details_talk)
    | kept => exact .of_talk details_talk

theorem announceSubtask_discreet (id : String) (source : Path) :
    Discreet silent (announceSubtask id source) :=
  .bind (.record _ rfl) (.record _) (.of_talk (.emitLine _))

theorem announceAll_discreet (source : Path) (ids : List String) :
    Discreet silent (announceAll source ids) := by
  induction ids with
  | nil => exact .of_talk (.pure ())
  | cons id rest ih =>
      exact .bind (announceSubtask_talk id source) (announceSubtask_discreet id source) ih

theorem addSubtask_discreet (id : String) (path : Path) : Discreet silent (addSubtask id path) := by
  refine .after (fun rest d d' h => ?_) fun _ => announceSubtask_discreet id path
  rcases cases_of_map_eq (Registry.loadFile_of_outline h.tree h.ids id path) with
    ⟨e, second, first⟩ | ⟨registry', registry, second, first, ids⟩
  · simp only [first, second]
    exact ⟨trivial, h⟩
  · simp only [first, second]
    exact ⟨trivial, { h with ids }⟩

theorem addDirectory_discreet (directory : Path) : Discreet silent (addDirectory directory) := by
  refine .after (fun rest d d' h => ?_) fun loaded => ?_
  · have loaded := Registry.loadDirectory_of_outline h.tree h.ids directory d'.config.fragmentGlob
    nth_rewrite 2 [h.config] at loaded
    obtain ⟨answer, ids⟩ := Prod.mk.inj loaded
    exact ⟨answer, { h with ids }⟩
  · cases loaded with
    | nil => exact .of_talk (.bind (.look fun _ _ => rfl) fun _ => .emitPainted _ _)
    | cons id rest => exact announceAll_discreet directory (id :: rest)

/-! ## Completing a task -/

/-- Two such desks complete a task under one key and with one row of subtasks, or neither does. -/
theorem completed?_twins {questions : List String} {d d' : Desk} (h : Twins questions d d') :
    (completed? d').map completeDeed = (completed? d).map completeDeed := by
  have indexed : d'.session.taskIndex = d.session.taskIndex := congrArg (·.taskIndex) h.session
  have assigned : d'.session.assigned = d.session.assigned := congrArg (·.assigned) h.session
  unfold completed? Session.complete
  rw [indexed, assigned]
  rcases d.session.taskIndex with _ | index
  · rfl
  · cases d.session.assigned with
    | false => rfl
    | true => simp [completeDeed, Script.assemble, Except.toOption, h.ids]

theorem writeScript_twins {questions : List String} {d d' : Desk} (h : Twins questions d d')
    {key text text' : String} (kept : d.store.get? key = some text)
    (kept' : d'.store.get? key = some text') :
    Twins questions ((writeScript key).on d).2 ((writeScript key).on d').2 := by
  unfold writeScript
  rw [on_of, on_of, h.config]
  cases d.config.outputDirectory with
  | none => exact h
  | some directory =>
      have write (t t' : FileTree) (same : t'.outline = t.outline) :
          Prod.map Except.isOk FileTree.outline
              (d'.store.write t' key (Path.ofString directory) d.config.scriptExtension) =
            Prod.map Except.isOk FileTree.outline
              (d.store.write t key (Path.ofString directory) d.config.scriptExtension) := by
        simp only [Store.write, kept, kept']
        generalize Store.scriptPath (Path.ofString directory) key d.config.scriptExtension = path
        have replaced := t'.replace_outline path (Utf8.encode text')
        rw [same, gist_encode, ← gist_encode text, FileTree.replace_outline] at replaced
        exact congrArg
          (Prod.map (fun written => (written.map fun () => some path).isOk) id) replaced.symm
      obtain ⟨-, onward⟩ := h.change
        (fun t => d.store.write t key (Path.ofString directory) d.config.scriptExtension)
        (fun t => d'.store.write t key (Path.ofString directory) d.config.scriptExtension) write
      simp only
      generalize d.change _ = x at onward ⊢
      generalize d'.change _ = x' at onward ⊢
      obtain ⟨_ | _ | path, d₁⟩ := x <;> obtain ⟨_ | _ | path', d₁'⟩ := x' <;>
        exact { onward with }

/-- What a completion records are its key and its subtasks, whatever the script says. -/
theorem completeTask_discreet : Discreet silent completeTask := by
  intro rest d d' h
  have same := completed?_twins h
  rcases completeTask_cases d with ⟨task, completed, echoed⟩ | ⟨refused, still⟩ <;>
    rcases completeTask_cases d' with ⟨task', completed', echoed'⟩ | ⟨refused', still'⟩
  · have deed : completeDeed task' = completeDeed task := by
      simpa [completed, completed'] using same
    have key : task'.script.key = task.script.key := Option.some.inj (congrArg (·.task) deed)
    have scripted : Twins rest (scripted d task) (scripted d' task') :=
      { h with session := rfl, ids := rfl, counter := congrArg Counter.advance h.counter }
    have finished : Twins rest (finished d task) (finished d' task') := by
      unfold finished
      rw [deed]
      exact scripted.record _
    have kept := finished_get? d' task'
    rw [key] at kept echoed'
    exact (writeScript_twins finished (finished_get? d task) kept).echoed echoed echoed'
  · simp [completed, refused'] at same
  · simp [completed', refused] at same
  · rw [still, still']
    exact h

/-! ## Rounds -/

theorem execute_discreet (command : Command) {rest : List String} {d d' : Desk}
    (h : Twins (puts d command ++ rest) d d') :
    Twins rest ((execute command).on d).2 ((execute command).on d').2 := by
  have done {a : Action Unit} (discreet : Discreet (puts · command) a) :
      Twins rest ((do a; return Flow.goOn : Action Flow).on d).2
        ((do a; return Flow.goOn : Action Flow).on d').2 := by
    rw [on_then, on_then]
    exact discreet rest d d' h
  cases command with
  | exit => exact h
  | new => exact done startTask_discreet
  | credentials => exact done captureCredentials_discreet
  | showCredentials => exact done (.of_talk showCredentials_talk)
  | subtask id path => exact done (addSubtask_discreet id (Path.ofString path))
  | subtaskDir directory => exact done (addDirectory_discreet (Path.ofString directory))
  | assigned => exact done (.of_talk listSubtasks_talk)
  | complete => exact done completeTask_discreet
  | discard => exact done discardTask_discreet
  | tasks => exact done (.of_talk listTasks_talk)
  | help => exact done (.of_talk (.emit _))
  | unknown word => exact done (.of_talk (.emitPainted _ _))

namespace Round

/-- The questions that the round puts. -/
def puts (x : Round) : List String :=
  x.reading.command?.elim [] (Shell.puts x.before)

end Round

theorem twins_next {rest : List String} {d d' : Desk} {r : Reading}
    (h : Twins ((Round.mk d r).puts ++ rest) d d') : Twins rest (next d r) (next d' r) := by
  refine .echoed ?_ (next_echoes d r) (next_echoes d' r)
  unfold Round.puts at h
  unfold carried
  cases brings : r.command? with
  | none =>
      rw [brings] at h
      exact h
  | some command =>
      rw [brings] at h
      exact execute_discreet command h

/-- The questions that a row of rounds puts, in order. -/
def posed (rounds : List Round) : List String :=
  rounds.flatMap (·.puts)

theorem twins_stand {rest : List String} {d d' : Desk} {readings : List Reading}
    (h : Twins (posed (rounds d readings) ++ rest) d d') :
    Twins rest (stand d readings) (stand d' readings) := by
  induction readings generalizing d d' with
  | nil => exact h
  | cons r later ih =>
      rw [rounds, posed, List.flatMap_cons, List.append_assoc] at h
      exact ih (twins_next h)

/-! ## The questions of a run -/

theorem asked_execute (d : Desk) (command : Command) :
    ((execute command).on d).2.operator.asked = d.operator.asked ++ puts d command := by
  have unasked {e : Desk} (same : e.operator = d.operator) :
      e.operator.asked = d.operator.asked ++ [] := by
    rw [same, List.append_nil]
  refine @execute_cases d (fun command e => e.operator.asked = d.operator.asked ++ puts d command)
    ?talk ?new ?credentials ?subtask ?subtaskDir ?complete ?discard command
  case talk =>
    intro command e talks echoed
    cases talks <;> exact unasked echoed.alike.operator
  case new => exact unasked (startTask_speaks.talksAfter.leads d).alike.operator
  case credentials =>
    rw [(captureCredentials_speaks.talksAfter.leads d).alike.operator]
    exact d.session.asked_capture d.operator
  case subtask =>
    intro id path
    have told := (addSubtask_speaks id (Path.ofString path)).talksAfter.leads d
    refine unasked (told.alike.operator.trans ?_)
    cases d.registry.loadFile d.tree id (Path.ofString path) <;> rfl
  case subtaskDir =>
    intro directory
    have told := (addDirectory_speaks (Path.ofString directory)).talksAfter.leads d
    exact unasked told.alike.operator
  case complete =>
    rcases completeTask_cases d with ⟨task, -, echoed⟩ | ⟨-, same⟩
    · exact unasked (alike_of_completes echoed).operator
    · exact unasked (by rw [same])
  case discard => exact unasked (discardTask_speaks.talksAfter.leads d).alike.operator

theorem asked_stand (d : Desk) (readings : List Reading) :
    (stand d readings).operator.asked = d.operator.asked ++ posed (rounds d readings) := by
  induction readings generalizing d with
  | nil => exact (List.append_nil _).symm
  | cons r later ih =>
      have asked : (next d r).operator.asked = d.operator.asked ++ (Round.mk d r).puts := by
        rw [(next_echoes d r).alike.operator]
        unfold carried Round.puts
        cases r.command? with
        | none => exact (List.append_nil _).symm
        | some command => exact asked_execute d command
      change (stand (next d r) later).operator.asked = _
      rw [ih, asked, List.append_assoc]
      rfl

/-- The questions that a run puts to its operator, in order. -/
def questions (d : Desk) (readings : List Reading) : List String :=
  (run d readings).desk.operator.asked.drop d.operator.asked.length

theorem questions_of_accepts {d : Desk} (accepts : d.sink.Accepts) (readings : List Reading) :
    questions d readings = posed (rounds (introduced d) (heard readings)) := by
  obtain ⟨-, -, -, ends⟩ := run_of_accepts accepts readings
  unfold questions
  rw [ends, (finish_within.leads _).alike.operator, asked_stand,
    (introduced_echoed d).alike.operator, List.drop_left]

/-- If the outputs refuse nothing, two such desks record the same deeds over a whole run. -/
theorem deeds_of_twins {d d' : Desk} {readings : List Reading}
    (h : Twins (questions d readings) d d') :
    (run d' readings).desk.recorded.map (·.deed) = (run d readings).desk.recorded.map (·.deed) := by
  have twins := h.echoed (introduced_echoed d) (introduced_echoed d')
  rw [questions_of_accepts h.accepts, ← List.append_nil (posed _)] at twins
  obtain ⟨-, -, -, ends⟩ := run_of_accepts h.accepts readings
  obtain ⟨-, -, -, ends'⟩ := run_of_accepts h.accepts' readings
  rw [ends, ends']
  exact ((twins_stand twins).echoed (finish_within.leads _) (finish_within.leads _)).deeds

end Shell

end RemoteDesk
