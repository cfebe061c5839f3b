import Mathlib.Data.List.Induction
import RemoteDesk.Audit.Event
import RemoteDesk.Proofs.Script.Key

/-! # The life of tasks in the audit log

The log tells of a task when it starts, each time it gets credentials and when it ends. Every such
deed can be read back as the transition that it records, and from the transitions follows which task
is being authored: a row of transitions that fit each other is a row of whole lives, with at most
one task at the end that goes on.
-/

namespace RemoteDesk

/-- What is read item by item is what was written item by item. -/
theorem mapM_map_eq_some {α β : Type} {write : α → β} {read : β → Option α}
    (h : ∀ x, read (write x) = some x) (items : List α) :
    (items.map write).mapM read = some items := by
  induction items with
  | nil => rfl
  | cons x rest ih =>
      rw [List.map_cons, List.mapM_cons, h, ih]
      rfl

namespace Json

def text? : Json → Option String
  | .string s => some s
  | _ => none

def truth? : Json → Option Bool
  | .bool b => some b
  | _ => none

def texts? : Json → Option (List String)
  | .array items => items.mapM text?
  | _ => none

def field? (name : String) : Json → Option Json
  | .object fields => fields.lookup name
  | _ => none

theorem texts?_ofStrings (texts : List String) : (ofStrings texts).texts? = some texts :=
  @mapM_map_eq_some _ _ string text? (fun _ => rfl) texts

end Json

namespace Audit

/-- What happens to a task, as far as the log tells. -/
inductive Transition where
  | start (index : UInt32)
  | credentials (index : UInt32) (computer username : String) (overwrite : Bool)
  | complete (index : UInt32) (subtasks : List String)
  | discard (index : UInt32)
  deriving DecidableEq

namespace Transition

def index : Transition → UInt32
  | .start index | .credentials index _ _ _ | .complete index _ | .discard index => index

def action : Transition → Action
  | .start _ => .start
  | .credentials _ _ _ _ => .credentials
  | .complete _ _ => .complete
  | .discard _ => .discard

def details : Transition → Json
  | .start _ | .discard _ => .object []
  | .credentials _ computer username overwrite =>
    .ofFields [("computer", .string computer), ("username", .string username),
      ("overwrite", .bool overwrite)]
  | .complete _ subtasks => .ofFields [("subtasks", .ofStrings subtasks)]

/-- The deed that a transition leaves in the log. -/
def deed (t : Transition) : Deed :=
  ⟨t.action, some (Script.taskKey t.index), t.details⟩

def ofDeed? (x : Deed) : Option Transition := do
  let index ← x.task.bind Script.keyIndex?
  match x.action with
  | .start => return .start index
  | .credentials =>
    let computer ← (x.details.field? "computer").bind Json.text?
    let username ← (x.details.field? "username").bind Json.text?
    let overwrite ← (x.details.field? "overwrite").bind Json.truth?
    return .credentials index computer username overwrite
  | .complete =>
    let subtasks ← (x.details.field? "subtasks").bind Json.texts?
    return .complete index subtasks
  | .discard => return .discard index
  | .subtaskAdd => none

theorem field?_subtasks (index : UInt32) (subtasks : List String) :
    (complete index subtasks).details.field? "subtasks" = some (.ofStrings subtasks) :=
  rfl

theorem fields_credentials (index : UInt32) (computer username : String) (overwrite : Bool) :
    (credentials index computer username overwrite).details =
      .object [("computer", .string computer), ("overwrite", .bool overwrite),
        ("username", .string username)] :=
  rfl

theorem ofDeed?_deed (t : Transition) : ofDeed? t.deed = some t := by
  have key : (t.deed.task.bind Script.keyIndex?) = some t.index := Script.keyIndex?_taskKey t.index
  unfold ofDeed?
  rw [key]
  cases t with
  | start index => rfl
  | credentials index computer username overwrite =>
      simp only [deed, action, fields_credentials]
      rfl
  | complete index subtasks =>
      simp only [deed, action, field?_subtasks, Option.bind_some, Json.texts?_ofStrings]
      rfl
  | discard index => rfl

end Transition

/-! ## Following the log -/

/-- A task that is being authored: its index, and the computer and user name that it was given
    last. -/
structure Standing where
  index : UInt32
  given : Option (String × String)
  deriving DecidableEq

/-- What a transition leads to. A task starts where none is being authored, later transitions carry
    its index, credentials overwrite those before them, and a task is completed with credentials. -/
def follow : Option Standing → Transition → Option (Option Standing)
  | none, .start index => some (some ⟨index, none⟩)
  | some s, .credentials index computer username overwrite =>
    if index = s.index ∧ overwrite = s.given.isSome then
      some (some ⟨index, some (computer, username)⟩)
    else none
  | some s, .complete index _ => if index = s.index ∧ s.given.isSome then some none else none
  | some s, .discard index => if index = s.index then some none else none
  | _, _ => none

def followAll (transitions : List Transition) : Option (Option Standing) :=
  transitions.foldlM follow none

/-- The deeds of a log that are about a task. -/
def taskDeeds (log : List Event) : List Deed :=
  (log.map (·.deed)).filter (·.action ≠ .subtaskAdd)

/-- The task that a log leaves being authored, provided that its deeds fit each other. -/
def replay? (log : List Event) : Option (Option Standing) := do
  followAll (← (taskDeeds log).mapM Transition.ofDeed?)

theorem taskDeeds_append (log later : List Event) :
    taskDeeds (log ++ later) = taskDeeds log ++ taskDeeds later := by
  simp only [taskDeeds, List.map_append, List.filter_append]

theorem taskDeeds_transition (stamp : Stamp) (t : Transition) :
    taskDeeds [⟨stamp, t.deed⟩] = [t.deed] := by
  have about : t.action ≠ .subtaskAdd := by
    cases t <;> exact fun same => by cases same
  exact List.filter_cons_of_pos (decide_eq_true about)

theorem followAll_append (transitions : List Transition) (t : Transition) :
    followAll (transitions ++ [t]) = (followAll transitions).bind (follow · t) := by
  rw [followAll, List.foldlM_append]
  cases same : transitions.foldlM follow none with
  | none => rw [followAll, same]; rfl
  | some st =>
      rw [followAll, same]
      exact bind_pure (follow st t)

theorem replay?_eq {log : List Event} {transitions : List Transition}
    (told : taskDeeds log = transitions.map (·.deed)) : replay? log = followAll transitions := by
  rw [replay?, told, mapM_map_eq_some Transition.ofDeed?_deed]
  rfl

inductive Follows : Option Standing → Transition → Option Standing → Prop where
  | start (index : UInt32) : Follows none (.start index) (some ⟨index, none⟩)
  | credentials (s : Standing) (computer username : String) :
      Follows (some s) (.credentials s.index computer username s.given.isSome)
        (some ⟨s.index, some (computer, username)⟩)
  | complete (s : Standing) (subtasks : List String) (assigned : s.given.isSome) :
      Follows (some s) (.complete s.index subtasks) none
  | discard (s : Standing) : Follows (some s) (.discard s.index) none

theorem follow_eq_some {st st' : Option Standing} {t : Transition} :
    follow st t = some st' ↔ Follows st t st' := by
  constructor
  · intro h
    cases st with
    | none =>
        cases t with
        | start index =>
            cases h
            exact .start index
        | credentials | complete | discard => cases h
    | some s =>
        cases t with
        | start => cases h
        | credentials index computer username overwrite =>
            obtain ⟨⟨rfl, rfl⟩, same⟩ := Option.ite_none_right_eq_some.mp h
            cases same
            exact .credentials s computer username
        | complete index subtasks =>
            obtain ⟨⟨rfl, assigned⟩, same⟩ := Option.ite_none_right_eq_some.mp h
            cases same
            exact .complete s subtasks assigned
        | discard index =>
            obtain ⟨rfl, same⟩ := Option.ite_none_right_eq_some.mp h
            cases same
            exact .discard s
  · intro h
    cases h with
    | start index => rfl
    | credentials s computer username => exact if_pos ⟨rfl, rfl⟩
    | complete s subtasks assigned => exact if_pos ⟨rfl, assigned⟩
    | discard s => exact if_pos rfl

/-! ## Lives -/

/-- A task from its start on, with the computers and user names that it was given in turn. -/
structure Opening where
  index : UInt32
  given : List (String × String)

namespace Opening

def captures (o : Opening) : List Transition :=
  o.given.mapIdx fun n (computer, username) => .credentials o.index computer username (n ≠ 0)

/-- The first credentials overwrite nothing, all later ones do. -/
def transitions (o : Opening) : List Transition :=
  .start o.index :: o.captures

def standing (o : Opening) : Standing :=
  ⟨o.index, o.given.getLast?⟩

def give (o : Opening) (computer username : String) : Opening :=
  ⟨o.index, o.given ++ [(computer, username)]⟩

theorem transitions_give (o : Opening) (computer username : String) :
    (o.give computer username).transitions =
      o.transitions ++
        [.credentials o.index computer username (o.standing.given.isSome)] := by
  have overwrites : decide (o.given.length ≠ 0) = o.given.getLast?.isSome := by
    rw [Bool.eq_iff_iff, List.getLast?_isSome, decide_eq_true_iff]
    exact not_congr List.length_eq_zero_iff
  simp only [transitions, captures, give, List.mapIdx_concat, List.cons_append, standing,
    overwrites]

theorem standing_give (o : Opening) (computer username : String) :
    (o.give computer username).standing = ⟨o.index, some (computer, username)⟩ := by
  simp only [standing, give, List.getLast?_concat]

theorem index_of_mem {o : Opening} {t : Transition} (h : t ∈ o.transitions) :
    t.index = o.index := by
  rcases List.mem_cons.mp h with rfl | later
  · rfl
  · obtain ⟨n, within, rfl⟩ := List.mem_mapIdx.mp later
    rfl

end Opening

inductive Ending where
  | completed (subtasks : List String)
  | discarded

def Ending.transition (index : UInt32) : Ending → Transition
  | .completed subtasks => .complete index subtasks
  | .discarded => .discard index

/-- The whole life of a task; only a task with credentials is completed. -/
structure Life where
  opening : Opening
  ending : Ending
  assigned : ∀ subtasks, ending = .completed subtasks → opening.given ≠ []

namespace Life

def transitions (l : Life) : List Transition :=
  l.opening.transitions ++ [l.ending.transition l.opening.index]

theorem index_of_mem {l : Life} {t : Transition} (h : t ∈ l.transitions) :
    t.index = l.opening.index := by
  rcases List.mem_append.mp h with earlier | last
  · exact Opening.index_of_mem earlier
  · rw [List.mem_singleton.mp last]
    cases l.ending <;> rfl

end Life

/-- Whole lives, and one that goes on. -/
def chronicle (ended : List Life) (unfinished : Option Opening) : List Transition :=
  ended.flatMap (·.transitions) ++ (unfinished.elim [] (·.transitions))

theorem chronicle_concat (ended : List Life) (l : Life) :
    chronicle (ended ++ [l]) none = chronicle ended (some l.opening) ++
      [l.ending.transition l.opening.index] := by
  simp only [chronicle, List.flatMap_append, List.flatMap_cons, List.flatMap_nil, List.append_nil,
    Option.elim_none, Option.elim_some, Life.transitions, List.append_assoc]

/-- Transitions that fit each other are a row of lives, the last of which may go on. -/
theorem lives_of_followAll {transitions : List Transition} {st : Option Standing}
    (followed : followAll transitions = some st) :
    ∃ ended unfinished, transitions = chronicle ended unfinished ∧
      unfinished.map Opening.standing = st := by
  -- From the end: the last transition starts a life, or it goes on with or ends the open one.
  induction transitions using List.reverseRecOn generalizing st with
  | nil => exact ⟨[], none, rfl, Option.some.inj followed⟩
  | append_singleton earlier t ih =>
      rw [followAll_append, Option.bind_eq_some_iff] at followed
      obtain ⟨before, reached, step⟩ := followed
      obtain ⟨ended, unfinished, rfl, stands⟩ := ih reached
      cases follow_eq_some.mp step with
      | start index =>
          obtain rfl := Option.map_eq_none_iff.mp stands
          refine ⟨ended, some ⟨index, []⟩, ?_, rfl⟩
          simp [chronicle, Opening.transitions, Opening.captures]
      | credentials s computer username =>
          obtain ⟨o, rfl, rfl⟩ := Option.map_eq_some_iff.mp stands
          refine ⟨ended, some (o.give computer username), ?_, ?_⟩
          · simp only [chronicle, Option.elim_some, o.transitions_give, List.append_assoc]
            rfl
          · rw [Option.map_some, o.standing_give]
            rfl
      | complete s subtasks assigned =>
          obtain ⟨o, rfl, rfl⟩ := Option.map_eq_some_iff.mp stands
          have given : o.given ≠ [] := List.getLast?_isSome.mp assigned
          let life : Life := ⟨o, .completed subtasks, fun _ _ => given⟩
          exact ⟨ended ++ [life], none, (chronicle_concat ended life).symm, rfl⟩
      | discard s =>
          obtain ⟨o, rfl, rfl⟩ := Option.map_eq_some_iff.mp stands
          let life : Life := ⟨o, .discarded, fun _ same => by cases same⟩
          exact ⟨ended ++ [life], none, (chronicle_concat ended life).symm, rfl⟩

end Audit

end RemoteDesk
