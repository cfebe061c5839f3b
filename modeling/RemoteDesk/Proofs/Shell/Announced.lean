import RemoteDesk.Proofs.Audit.Waiting
import RemoteDesk.Proofs.Registry.Directory
import RemoteDesk.Proofs.Shell.Record

/-! # Which subtasks the log hears of

A subtask is registered first and handed to the log afterwards, and a directory registers all its
files before it hands any of them over. So what a command registers and what it hands over can differ:
a directory that stops at a file hands over nothing, and a refused text ends the row of the rest.
-/

namespace RemoteDesk

namespace Registry

open Audit

theorem ids_put (r : Registry) (id fragment : String) :
    Registry.ids ⟨r.subtasks.put id fragment⟩ = added r.ids id :=
  Catalog.names_put id fragment r.subtasks

theorem ids_fill (r : Registry) (fragments : Catalog) :
    (r.fill fragments).ids = (fragments.map (·.1)).foldl added r.ids := by
  induction fragments generalizing r with
  | nil => rfl
  | cons f rest ih =>
      rw [fill_cons, ih, List.map_cons, List.foldl_cons, ← ids_put r f.1 f.2]
      rfl

end Registry

namespace Shell

open Audit Desk Desk.Action

/-! ## What commands hand to the log -/

/-- What announcing subtasks hands to the log, each deed with the desk at which it does. -/
def announcements (source : Path) (d : Desk) : List String → List (Desk × Deed)
  | [] => []
  | id :: rest =>
    (d, subtaskDeed id source) ::
      match (announceSubtask id source).on d with
      | (.ok (), d') => announcements source d' rest
      | (.error _, _) => []

def handed (d : Desk) : Command → List (Desk × Deed)
  | .subtask id path =>
    match d.registry.loadFile d.tree id (Path.ofString path) with
    | .ok registry => [({ d with registry }, subtaskDeed id (Path.ofString path))]
    | .error _ => []
  | .subtaskDir directory =>
    match d.registry.loadDirectory d.tree (Path.ofString directory) d.config.fragmentGlob with
    | (.ok ids, registry) => announcements (Path.ofString directory) { d with registry } ids
    | (.error _, _) => []
  | command => (accepted? d command).toList.map fun t => (d, t.deed)

/-- The events of what the log takes. -/
def taken (handed : List (Desk × Deed)) : List Event :=
  (handed.filter fun p => p.1.logs p.2).map fun p => ⟨p.1.stamp, p.2⟩

theorem taken_cons (p : Desk × Deed) (later : List (Desk × Deed)) :
    taken (p :: later) = taken [p] ++ taken later := by
  simp only [taken, ← List.map_append, ← List.filter_append, List.singleton_append]

theorem recorded_announceSubtask (id : String) (source : Path) (d : Desk) :
    ((announceSubtask id source).on d).2.recorded =
      d.recorded ++ taken [(d, subtaskDeed id source)] := by
  unfold announceSubtask taken
  rw [on_bind_ok (on_record _ _), ((Within.emitLine _).leads _).recorded, recorded_record]
  cases logs : d.logs (subtaskDeed id source) <;> simp [logs]

theorem recorded_announceAll (source : Path) (ids : List String) (d : Desk) :
    ((announceAll source ids).on d).2.recorded =
      d.recorded ++ taken (announcements source d ids) := by
  induction ids generalizing d with
  | nil => exact (List.append_nil _).symm
  | cons id rest ih =>
      have first := recorded_announceSubtask id source d
      unfold announceAll announcements
      rw [taken_cons]
      rcases told : (announceSubtask id source).on d with ⟨e | ⟨⟩, d'⟩ <;> rw [told] at first
      · rw [on_bind_error told]
        simpa [taken] using first
      · rw [on_bind_ok told, ih d', first, List.append_assoc]

theorem Enters.taken {d d' : Desk} {t : Option Transition} (h : Enters d d' t) :
    d'.recorded = d.recorded ++ taken (t.toList.map fun t => (d, t.deed)) := by
  rw [h.recorded]
  cases t with
  | none => rfl
  | some t =>
      unfold Shell.taken
      cases logs : d.logs t.deed <;> simp [logs]

theorem recorded_addSubtask (id : String) (path : String) (d : Desk) :
    ((addSubtask id (Path.ofString path)).on d).2.recorded =
      d.recorded ++ taken (handed d (.subtask id path)) := by
  simp only [addSubtask, handed]
  rw [on_bind, on_of]
  cases loaded : d.registry.loadFile d.tree id (Path.ofString path) with
  | error e => exact (List.append_nil _).symm
  | ok registry => exact recorded_announceSubtask id (Path.ofString path) { d with registry }

theorem recorded_addDirectory (directory : String) (d : Desk) :
    ((addDirectory (Path.ofString directory)).on d).2.recorded =
      d.recorded ++ taken (handed d (.subtaskDir directory)) := by
  simp only [addDirectory, handed]
  rw [on_bind, on_of]
  rcases loaded : d.registry.loadDirectory d.tree (Path.ofString directory) d.config.fragmentGlob
    with ⟨e | _ | ⟨id, rest⟩, registry⟩
  · exact (List.append_nil _).symm
  · have silent : Talk false (do
        let pattern ← look (·.config.fragmentGlob)
        emitPainted .yellow ("[!] No files matching '" ++ pattern ++ "' in " ++
          (Path.ofString directory).display)) :=
      .bind (.look fun _ _ => rfl) fun _ => .emitPainted _ _
    exact (silent.within_echoed.leads { d with registry }).recorded.trans
      (List.append_nil _).symm
  · exact recorded_announceAll (Path.ofString directory) (id :: rest) { d with registry }

/-- What a command leaves in the log is what it hands over, as far as the log takes it. -/
theorem recorded_execute {d : Desk} (coherent : d.session.Coherent) (command : Command) :
    ((execute command).on d).2.recorded = d.recorded ++ taken (handed d command) := by
  refine @execute_cases d (fun command d' => d'.recorded = d.recorded ++ taken (handed d command))
    ?_ (startTask_enters d).taken (captureCredentials_enters coherent).taken
    (fun id path => recorded_addSubtask id path d)
    (fun directory => recorded_addDirectory directory d)
    (completeTask_enters coherent).taken (discardTask_enters d).taken command
  intro command d' talks echoed
  cases talks <;> exact echoed.recorded.trans (List.append_nil _).symm

/-! ## What is registered and what is announced -/

/-- The ids that a row of deeds announces. -/
def announced (handed : List (Desk × Deed)) : List String :=
  handed.filterMap (·.2.subtask?)

theorem subtask?_transition (t : Transition) : t.deed.subtask? = none := by
  cases t <;> rfl

/-- Subtasks are announced in order, and all of them unless the output refuses a text. -/
theorem announcements_prefix (source : Path) (ids : List String) (d : Desk) :
    announced (announcements source d ids) <+: ids ∧
      (announced (announcements source d ids) = ids ∨
        ∃ e, ((announceAll source ids).on d).1 = .error e) ∧
      ∀ p ∈ announcements source d ids, p.2.action ≠ .complete := by
  induction ids generalizing d with
  | nil => exact ⟨List.prefix_rfl, .inl rfl, by simp [announcements]⟩
  | cons id rest ih =>
      have listed (later : List (Desk × Deed)) :
          announced ((d, subtaskDeed id source) :: later) = id :: announced later :=
        List.filterMap_cons_some rfl
      unfold announcements announceAll
      rcases told : (announceSubtask id source).on d with ⟨e | ⟨⟩, d'⟩
      · refine ⟨⟨rest, rfl⟩, .inr ⟨e, ?_⟩, ?_⟩
        · rw [on_bind_error told]
        · simp [subtaskDeed]
      · obtain ⟨first, all, goes⟩ := ih d'
        rw [listed, on_bind_ok told]
        refine ⟨(List.prefix_cons_inj id).mpr first, all.imp_left (congrArg (id :: ·)), ?_⟩
        rintro p (_ | ⟨_, member⟩)
        · simp [subtaskDeed]
        · exact goes p member

/-- A directory command that fails. -/
def Stops (d : Desk) (command : Command) : Prop :=
  ∃ directory e, command = .subtaskDir directory ∧
    ((addDirectory (Path.ofString directory)).on d).1 = .error e

/-- What a command does to the subtasks that wait, and what it tells the log of it. -/
inductive Assigns (d : Desk) (command : Command) (d' : Desk) : Prop where
  | clears (registry : d'.registry = .empty)
      (ends : (handed d command).map (·.2.action) = [.complete])
  | adds (registered : List String)
      (registry : d'.registry.ids = registered.foldl added d.registry.ids)
      (first : announced (handed d command) <+: registered)
      (all : announced (handed d command) = registered ∨ Stops d command)
      (goes : ∀ p ∈ handed d command, p.2.action ≠ .complete)

theorem Assigns.of_silent {d d' : Desk} {command : Command}
    (registry : d'.registry = d.registry) (silent : announced (handed d command) = [])
    (goes : ∀ p ∈ handed d command, p.2.action ≠ .complete) : Assigns d command d' := by
  exact .adds [] (by rw [registry]; rfl) (List.prefix_nil.mpr silent) (.inl silent) goes

theorem announced_transition (d : Desk) (t : Option Transition) :
    announced (t.toList.map fun t => (d, t.deed)) = [] := by
  cases t with
  | none => rfl
  | some t => exact List.filterMap_cons_none (subtask?_transition t)

theorem startTask_assigns (d : Desk) : Assigns d .new (startTask.on d).2 := by
  refine .of_silent (startTask_speaks.talksAfter.leads d).alike.registry
    (announced_transition d _) ?_
  simp only [handed, accepted?]
  cases (d.session.start d.counter).1.toOption <;> simp [Transition.deed, Transition.action]

theorem discardTask_assigns (d : Desk) : Assigns d .discard (discardTask.on d).2 := by
  refine .of_silent (discardTask_speaks.talksAfter.leads d).alike.registry
    (announced_transition d _) ?_
  simp only [handed, accepted?]
  cases d.session.discard.1.toOption <;> simp [Transition.deed, Transition.action]

theorem captureCredentials_assigns (d : Desk) :
    Assigns d .credentials (captureCredentials.on d).2 := by
  refine .of_silent (captureCredentials_speaks.talksAfter.leads d).alike.registry
    (announced_transition d _) ?_
  intro p member
  simp only [handed, accepted?, List.mem_map, Option.mem_toList] at member
  obtain ⟨t, made, rfl⟩ := member
  split at made <;> simp only [Option.map_eq_some_iff, reduceCtorEq] at made
  all_goals
    obtain ⟨index, -, rfl⟩ := made
    simp [Transition.deed, Transition.action]

theorem completeTask_assigns (d : Desk) : Assigns d .complete (completeTask.on d).2 := by
  rcases completeTask_cases d with ⟨task, completed, echoed⟩ | ⟨refused, same⟩
  · refine .clears (alike_of_completes echoed).registry ?_
    simp only [handed, accepted?, completed]
    rfl
  · have silent : handed d .complete = [] := by simp [handed, accepted?, refused]
    exact .of_silent (by rw [same]) (by rw [silent]; rfl) (by simp [silent])

theorem addSubtask_assigns (id path : String) (d : Desk) :
    Assigns d (.subtask id path) ((addSubtask id (Path.ofString path)).on d).2 := by
  have registry := ((addSubtask_speaks id (Path.ofString path)).talksAfter.leads d).alike.registry
  rcases d.registry.loadFile_cases d.tree id (Path.ofString path) with
    ⟨fragment, -, -, loaded⟩ | ⟨e, refused⟩
  · have told : handed d (.subtask id path) =
        [({ d with registry := ⟨d.registry.subtasks.put id fragment⟩ },
          subtaskDeed id (Path.ofString path))] := by
      simp only [handed, loaded]
    have one : announced (handed d (.subtask id path)) = [id] := by
      rw [told]
      rfl
    have first : announced (handed d (.subtask id path)) <+: [id] :=
      ⟨[], (List.append_nil _).trans one⟩
    refine .adds [id] ?_ first (.inl one) (by simp [told, subtaskDeed])
    rw [registry]
    simp only [loaded]
    exact d.registry.ids_put id fragment
  · have silent : handed d (.subtask id path) = [] := by simp only [handed, refused]
    refine .of_silent ?_ (by rw [silent]; rfl) (by simp [silent])
    rw [registry]
    simp only [refused]

theorem addDirectory_assigns (directory : String) (d : Desk) :
    Assigns d (.subtaskDir directory) ((addDirectory (Path.ofString directory)).on d).2 := by
  have registry :=
    ((addDirectory_speaks (Path.ofString directory)).talksAfter.leads d).alike.registry
  -- A directory that fails hands over nothing, whatever it has registered by then.
  have stops {e : DeskError} {fragments : Catalog}
      (refused : d.registry.loadDirectory d.tree (Path.ofString directory)
        d.config.fragmentGlob = (.error e, d.registry.fill fragments)) :
      Assigns d (.subtaskDir directory) ((addDirectory (Path.ofString directory)).on d).2 := by
    have silent : handed d (.subtaskDir directory) = [] := by simp only [handed, refused]
    have unannounced : announced (handed d (.subtaskDir directory)) = [] := by rw [silent]; rfl
    refine .adds (fragments.map (·.1)) ?_ (by rw [unannounced]; exact List.nil_prefix)
      (.inr ⟨directory, e, rfl, ?_⟩) (by simp [silent])
    · rw [registry, refused, Registry.ids_fill]
    · rw [on_addDirectory_of_error refused]
  rcases d.registry.loadDirectory_cases d.tree (Path.ofString directory) d.config.fragmentGlob with
    ⟨fragments, loaded⟩ | ⟨e, -, refused⟩ | ⟨e, fragments, -, refused⟩
  · have told : handed d (.subtaskDir directory) =
        announcements (Path.ofString directory) { d with registry := d.registry.fill fragments }
          (fragments.map (·.1)) := by
      simp only [handed, loaded]
    obtain ⟨first, all, goes⟩ := announcements_prefix (Path.ofString directory)
      (fragments.map (·.1)) { d with registry := d.registry.fill fragments }
    rw [← told] at first all goes
    refine .adds (fragments.map (·.1)) ?_ first (all.imp_right ?_) goes
    · rw [registry, loaded, Registry.ids_fill]
    · rintro ⟨e, broken⟩
      refine ⟨directory, e, rfl, ?_⟩
      cases ids : fragments.map (·.1) with
      | nil => simp [ids, announceAll, on_pure] at broken
      | cons id rest =>
          rw [ids] at loaded broken
          rw [on_addDirectory_of_cons loaded, broken]
  · exact @stops e [] refused
  · exact stops refused

theorem execute_assigns (d : Desk) (command : Command) :
    Assigns d command ((execute command).on d).2 := by
  refine @execute_cases d (Assigns d) ?_ (startTask_assigns d) (captureCredentials_assigns d)
    (fun id path => addSubtask_assigns id path d)
    (fun directory => addDirectory_assigns directory d)
    (completeTask_assigns d) (discardTask_assigns d) command
  intro command d' talks echoed
  cases talks <;> exact .of_silent echoed.alike.registry rfl (by simp [handed, accepted?])

end Shell

end RemoteDesk
