import Mathlib.Logic.Relation
import RemoteDesk.Shell

/-! # What actions say, and what they do

Most of what a command does is talk: it hands texts to the output and deeds to the audit log. Talk
changes nothing about the task, the subtasks and the scripts, and it is only broken off by the
output. How much may change is a relation on desks; a row of actions that each stay within it stays
within it, so what a command does besides talking is what its first action does.
-/

namespace RemoteDesk

/-- Every message is taken in. -/
def Sink.Accepts (s : Sink) : Prop :=
  ∀ tried taken text, s.refusal tried taken text = none

theorem Sink.write_of_accepts {s : Sink} (h : s.Accepts) (text : String) :
    s.write text = (.ok (), { s with tried := s.tried + 1, taken := s.taken ++ text }) := by
  simp only [write, h s.tried s.taken text]

theorem Sink.refusal_write (s : Sink) (text : String) : (s.write text).2.refusal = s.refusal := by
  unfold write
  split <;> rfl

namespace Desk

/-- At most the files, the output so far and the audit log have changed. -/
structure Alike (d d' : Desk) : Prop where
  config : d'.config = d.config
  palette : d'.palette = d.palette
  session : d'.session = d.session
  registry : d'.registry = d.registry
  counter : d'.counter = d.counter
  store : d'.store = d.store
  written : d'.written = d.written
  operator : d'.operator = d.operator
  stamp : d'.stamp = d.stamp
  refusal : d'.sink.refusal = d.sink.refusal

theorem Alike.of_surroundings (d : Desk) {tree : FileTree} {faults : List (Option DiskFault)}
    {sink : Sink} {recorded : List Audit.Event} (refusal : sink.refusal = d.sink.refusal) :
    d.Alike { d with tree, faults, sink, recorded } :=
  ⟨rfl, rfl, rfl, rfl, rfl, rfl, rfl, rfl, rfl, refusal⟩

theorem Alike.refl (d : Desk) : d.Alike d :=
  .of_surroundings d rfl

theorem Alike.trans {d₁ d₂ d₃ : Desk} (h : d₁.Alike d₂) (h' : d₂.Alike d₃) : d₁.Alike d₃ where
  config := h'.config.trans h.config
  palette := h'.palette.trans h.palette
  session := h'.session.trans h.session
  registry := h'.registry.trans h.registry
  counter := h'.counter.trans h.counter
  store := h'.store.trans h.store
  written := h'.written.trans h.written
  operator := h'.operator.trans h.operator
  stamp := h'.stamp.trans h.stamp
  refusal := h'.refusal.trans h.refusal

/-- At most the output so far has changed. -/
def Echoed (d d' : Desk) : Prop :=
  ∃ sink, sink.refusal = d.sink.refusal ∧ d' = { d with sink }

theorem Echoed.alike {d d' : Desk} (h : d.Echoed d') : d.Alike d' := by
  obtain ⟨sink, refusal, rfl⟩ := h
  exact .of_surroundings d refusal

/-- The files before and after events are added to the log, if one is kept. -/
def Logged (log : Option String) : FileTree → FileTree → Prop :=
  Relation.ReflTransGen fun t t' =>
    ∃ file event, log = some file ∧ t' = (Audit.append t (Path.ofString file) event).2

/-- At most the output so far and the audit log have changed, and with them the files; unless the
    disk breaks changes off, that is by what the log took in. -/
structure Told (d d' : Desk) : Prop where
  alike : d.Alike d'
  logged : d.faults = [] → d'.faults = [] ∧ Logged d.config.eventsFile d.tree d'.tree

theorem Told.refl (d : Desk) : d.Told d :=
  ⟨.refl d, fun sound => ⟨sound, .refl⟩⟩

theorem Told.trans {d₁ d₂ d₃ : Desk} (h : d₁.Told d₂) (h' : d₂.Told d₃) : d₁.Told d₃ := by
  refine ⟨h.alike.trans h'.alike, fun sound => ?_⟩
  obtain ⟨sound₂, logged⟩ := h.logged sound
  obtain ⟨sound₃, logged'⟩ := h'.logged sound₂
  rw [h.alike.config] at logged'
  exact ⟨sound₃, Relation.ReflTransGen.trans logged logged'⟩

theorem Echoed.told {d d' : Desk} (h : d.Echoed d') : d.Told d' := by
  refine ⟨h.alike, ?_⟩
  obtain ⟨sink, -, rfl⟩ := h
  exact (Told.refl d).logged

/-- A measure of what may change: nothing has to, changes add up, and what the output refuses stays
    the same. -/
class Frame (R : Desk → Desk → Prop) : Prop where
  refl : ∀ d, R d d
  trans : ∀ {d₁ d₂ d₃}, R d₁ d₂ → R d₂ d₃ → R d₁ d₃
  refusal : ∀ {d d'}, R d d' → d'.sink.refusal = d.sink.refusal

instance : Frame Told := ⟨.refl, .trans, fun h => h.alike.refusal⟩

instance : Frame Echoed where
  refl := fun d => ⟨d.sink, rfl, rfl⟩
  trans := by
    rintro d₁ _ _ ⟨sink, refusal, rfl⟩ ⟨sink', refusal', rfl⟩
    exact ⟨sink', refusal'.trans refusal, rfl⟩
  refusal := by
    rintro d _ ⟨sink, refusal, rfl⟩
    exact refusal

theorem accepts_of_refusal {d d' : Desk} (refusal : d'.sink.refusal = d.sink.refusal)
    (accepts : d.sink.Accepts) : d'.sink.Accepts := by
  unfold Sink.Accepts
  rw [refusal]
  exact accepts

theorem Frame.accepts {R : Desk → Desk → Prop} [Frame R] {d d' : Desk} (h : R d d')
    (accepts : d.sink.Accepts) : d'.sink.Accepts :=
  accepts_of_refusal (Frame.refusal h) accepts

theorem change_cases {α : Type} (d : Desk) (f : FileTree → Except DeskError α × FileTree) :
    (∃ fault later, d.faults = some fault :: later ∧
      d.change f =
        (.error (.reported .io fault.message), { d with tree := fault.left, faults := later })) ∨
    d.change f = ((f d.tree).1, { d with tree := (f d.tree).2, faults := d.faults.tail }) := by
  unfold change
  split
  · next fault later same => exact .inl ⟨fault, later, same, rfl⟩
  · exact .inr rfl

/-- A change of files changes nothing else but what the disk does next. -/
theorem change_alike {α : Type} (d : Desk) (f : FileTree → Except DeskError α × FileTree) :
    d.Alike (d.change f).2 := by
  rcases d.change_cases f with ⟨fault, later, -, broken⟩ | carried
  · rw [broken]
    exact .of_surroundings d rfl
  · rw [carried]
    exact .of_surroundings d rfl

theorem record_alike (d : Desk) (deed : Audit.Deed) : d.Alike (d.record deed) := by
  unfold record
  split
  · exact .refl d
  · next file _ =>
      have same := d.change_alike fun t => Audit.append t (Path.ofString file) ⟨d.stamp, deed⟩
      rcases appended : d.change fun t => Audit.append t (Path.ofString file) ⟨d.stamp, deed⟩ with
        ⟨e | ⟨⟩, d'⟩
      · rw [appended] at same
        simpa only [appended] using same
      · rw [appended] at same
        simpa only [appended] using same.trans (.of_surroundings d' rfl)

theorem record_told (d : Desk) (deed : Audit.Deed) : d.Told (d.record deed) := by
  refine ⟨d.record_alike deed, fun sound => ?_⟩
  unfold record
  cases log : d.config.eventsFile with
  | none => exact ⟨sound, .refl⟩
  | some file =>
      rcases d.change_cases fun t => Audit.append t (Path.ofString file) ⟨d.stamp, deed⟩ with
        ⟨fault, later, faults, -⟩ | carried
      · rw [sound] at faults
        cases faults
      · have logged : Logged (some file) d.tree
            (Audit.append d.tree (Path.ofString file) ⟨d.stamp, deed⟩).2 :=
          .single ⟨file, _, rfl, rfl⟩
        simp only [carried, sound]
        rcases (Audit.append d.tree (Path.ofString file) ⟨d.stamp, deed⟩).1 with e | ⟨⟩
        · exact ⟨rfl, logged⟩
        · exact ⟨rfl, logged⟩

namespace Action

variable {α β : Type}

theorem on_of (f : Desk → Except DeskError α × Desk) (d : Desk) : (of f).on d = f d :=
  rfl

theorem on_pure (x : α) (d : Desk) : (pure x : Action α).on d = (.ok x, d) :=
  rfl

/-- A row of two actions ends with the first if that fails, and goes on where it leads if not. -/
theorem on_bind (a : Action α) (f : α → Action β) (d : Desk) :
    (a >>= f).on d =
      match a.on d with
      | (.ok x, d') => (f x).on d'
      | (.error e, d') => (.error e, d') := by
  change (ExceptT.bind a f).run d = _
  simp only [ExceptT.bind, ExceptT.run, ExceptT.mk, on]
  change (match a d with | (x, d') => (ExceptT.bindCont f x) d') = _
  rcases a d with ⟨_ | x, d'⟩ <;> rfl

theorem on_bind_ok {a : Action α} {d d' : Desk} {x : α} (h : a.on d = (.ok x, d'))
    (f : α → Action β) : (a >>= f).on d = (f x).on d' := by
  rw [on_bind, h]

theorem on_bind_error {a : Action α} {d d' : Desk} {e : DeskError} (h : a.on d = (.error e, d'))
    (f : α → Action β) : (a >>= f).on d = (.error e, d') := by
  rw [on_bind, h]

theorem on_record (deed : Audit.Deed) (d : Desk) :
    (record deed).on d = (.ok (), d.record deed) :=
  rfl

theorem on_emit {d : Desk} (accepts : d.sink.Accepts) (text : String) :
    (emit text).on d =
      (.ok (), { d with sink := ⟨d.sink.refusal, d.sink.tried + 1, d.sink.taken ++ text⟩ }) := by
  rw [emit, on_of, Sink.write_of_accepts accepts]

theorem on_outcome (a : Action α) (d : Desk) : (outcome a).on d = (.ok (a.on d).1, (a.on d).2) :=
  rfl

/-! ## Talk -/

/-- An action that changes no more than `R` says, and that is done unless the output refuses a
    text. -/
structure Within (R : Desk → Desk → Prop) (a : Action α) : Prop where
  leads : ∀ d, R d (a.on d).2
  done : ∀ d : Desk, d.sink.Accepts → ∃ x, (a.on d).1 = .ok x

namespace Within

section Rows

variable {R : Desk → Desk → Prop} [Frame R]

theorem pure (x : α) : Within R (pure x : Action α) :=
  ⟨Frame.refl, fun _ _ => ⟨x, rfl⟩⟩

theorem look (f : Desk → α) : Within R (look f) :=
  ⟨Frame.refl, fun d _ => ⟨f d, rfl⟩⟩

theorem bind {a : Action α} {f : α → Action β} (first : Within R a) (rest : ∀ x, Within R (f x)) :
    Within R (a >>= f) := by
  constructor
  · intro d
    have same := first.leads d
    rcases answered : a.on d with ⟨e | x, d'⟩
    · rw [on_bind_error answered]
      rwa [answered] at same
    · rw [on_bind_ok answered]
      rw [answered] at same
      exact Frame.trans same ((rest x).leads d')
  · intro d accepts
    obtain ⟨x, succeeds⟩ := first.done d accepts
    rw [on_bind_ok (Prod.ext succeeds rfl)]
    exact (rest x).done _ (Frame.accepts (first.leads d) accepts)

/-- What follows the first action changes no more than `R` says: all else is done by then. -/
theorem after_of {f : Desk → Except DeskError α × Desk} {g : α → Action β}
    (rest : ∀ x, Within R (g x)) (d : Desk) : R (f d).2 ((of f >>= g).on d).2 := by
  rcases answered : f d with ⟨e | x, d'⟩
  · rw [on_bind_error (show (of f).on d = _ from answered)]
    exact Frame.refl d'
  · rw [on_bind_ok (show (of f).on d = _ from answered)]
    exact (rest x).leads d'

end Rows

theorem told {a : Action α} (h : Within Echoed a) : Within Told a :=
  ⟨fun d => (h.leads d).told, h.done⟩

theorem emit (text : String) : Within Echoed (emit text) := by
  constructor
  · intro d
    exact ⟨_, d.sink.refusal_write text, rfl⟩
  · intro d accepts
    exact ⟨(), by rw [on_emit accepts]⟩

theorem emitLine (text : String) : Within Echoed (emitLine text) :=
  bind (emit text) fun _ => emit "\n"

theorem emitPainted (color : Color) (text : String) : Within Echoed (emitPainted color text) :=
  bind (look _) fun _ => emitLine _

theorem record (deed : Audit.Deed) : Within Told (record deed) :=
  ⟨fun d => d.record_told deed, fun _ _ => ⟨(), rfl⟩⟩

end Within

/-- The action makes a change first and only talks afterwards. -/
def TalksAfter (f : Desk → Except DeskError α × Desk) (a : Action β) : Prop :=
  ∃ talk : α → Action β, (∀ x, Within Told (talk x)) ∧ a = .of f >>= talk

namespace TalksAfter

variable {f : Desk → Except DeskError α × Desk} {a : Action β} {d d' : Desk}

theorem leads (h : TalksAfter f a) (d : Desk) : (f d).2.Told (a.on d).2 := by
  obtain ⟨talk, within, rfl⟩ := h
  exact Within.after_of within d

theorem fails (h : TalksAfter f a) {e : DeskError} (first : (f d).1 = .error e) :
    (a.on d).1 = .error e := by
  obtain ⟨talk, -, rfl⟩ := h
  rw [on_bind_error (show (of f).on d = _ from Prod.ext first rfl)]

theorem succeeds (h : TalksAfter f a) {x : α} (first : f d = (.ok x, d'))
    (accepts : d'.sink.Accepts) : ∃ y, (a.on d).1 = .ok y := by
  obtain ⟨talk, within, rfl⟩ := h
  rw [on_bind_ok (show (of f).on d = _ from first)]
  exact (within x).done d' accepts

end TalksAfter

end Action

end Desk

end RemoteDesk
