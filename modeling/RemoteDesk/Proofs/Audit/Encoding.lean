import RemoteDesk.Audit.Event
import RemoteDesk.Proofs.Json.Values
import RemoteDesk.Proofs.Timestamp.Printing

/-! # The line of an event

An event is printed as the JSON object of its fields, so its line is one line and a JSON text. The
line is read as the event again if the event is sound: its time is one of the calendar, and its
details are nested no deeper than allowed and have no doubles. What is read from a line is sound but
for doubles, whatever the order of the fields was and whichever of them were not known.
-/

namespace RemoteDesk.Audit

open Json

namespace Event

/-! ## Printing -/

def taskFields (task : Option String) : List (String × Json) :=
  task.toList.map fun key => ("task", .string key)

/-- The fields that an event is printed with. -/
def fields (e : Event) : List (String × Json) :=
  ("ts", .string (String.ofList e.stamp.time.print)) :: ("action", .string e.deed.action.name) ::
    ("actor", .string e.stamp.actor) :: (taskFields e.deed.task ++ [("details", e.deed.details)])

theorem print_eq (e : Event) : e.print = Json.print (.object e.fields) := by
  unfold Event.print fields taskFields
  cases e.deed.task <;> simp [Json.print, printFields]

theorem clean_line (e : Event) : Clean e.line.toList := by
  rw [line, String.toList_ofList, print_eq]
  exact clean_print (.object e.fields)

/-- The line of an event is a JSON text, whatever its details are. -/
theorem parse_line_source (e : Event) :
    Source.parse e.line = some (.object (fieldSources e.fields)) := by
  rw [line, print_eq, Json.parse_print, source]

/-! ## Reading -/

/-- Everything about the event can be read back from its line. -/
structure Sound (e : Event) : Prop where
  time : e.stamp.time.Valid
  fits : Fits depth e.deed.details
  whole : e.deed.details.isWhole

theorem ofName?_name (a : Action) : Action.ofName? a.name = some a := by
  cases a <;> decide

theorem takeAll_cons {p p' : Partial} {name : String} {s : Source} (h : p.take name s = some p')
    (rest : List (List Letter × Source)) :
    p.takeAll ((letters name, s) :: rest) = p'.takeAll rest := by
  simp [Partial.takeAll, text?_letters, h]

theorem readText_source (s : String) : readText (source (.string s)) = some s := by
  rw [source, readText, text?_letters]

theorem readTime_source {t : Timestamp} (h : t.Valid) :
    readTime (source (.string (String.ofList t.print))) = some t := by
  rw [readTime, readText_source, Option.bind_some, Timestamp.parse_print h]

theorem readAction_source (a : Action) : readAction (source (.string a.name)) = some a := by
  rw [source, readAction, text?_letters, Option.bind_some, ofName?_name]

theorem readTask_source (s : String) : readTask (source (.string s)) = some (some s) := by
  simp [source, readTask, readText, text?_letters]

theorem takeAll_fields {e : Event} (h : e.Sound) :
    ({} : Partial).takeAll (fieldSources e.fields) =
      some ⟨some e.stamp.time, some e.deed.action, some e.stamp.actor, e.deed.task.map some,
        some e.deed.details⟩ := by
  obtain ⟨⟨time, actor⟩, ⟨action, task, details⟩⟩ := e
  obtain ⟨valid, fits, whole⟩ := h
  have first : ({} : Partial).take "ts" (source (.string (String.ofList time.print))) =
      some { time := some time } := by
    simp [Partial.take, readTime_source valid]
  have second : ({ time := some time } : Partial).take "action" (source (.string action.name)) =
      some { time := some time, action := some action } := by
    simp [Partial.take, readAction_source]
  have third : ({ time := some time, action := some action } : Partial).take "actor"
      (source (.string actor)) =
        some { time := some time, action := some action, actor := some actor } := by
    simp [Partial.take, readText_source]
  have last (task : Option (Option String)) :
      (⟨some time, some action, some actor, task, none⟩ : Partial).take "details" (source details) =
        some ⟨some time, some action, some actor, task, some details⟩ := by
    simp [Partial.take, value_source fits whole]
  simp only [fields, fieldSources]
  rw [takeAll_cons first, takeAll_cons second, takeAll_cons third]
  cases task with
  | none => exact takeAll_cons (last none) []
  | some key =>
      have fourth : (⟨some time, some action, some actor, none, none⟩ : Partial).take "task"
          (source (.string key)) =
            some ⟨some time, some action, some actor, some (some key), none⟩ := by
        simp [Partial.take, readTask_source]
      exact (takeAll_cons fourth _).trans (takeAll_cons (last (some (some key))) [])

/-- The line of a sound event is read as the event. -/
theorem Sound.parse_line {e : Event} (h : e.Sound) : parse e.line = some e := by
  unfold parse
  rw [parse_line_source]
  simp only [bind, Option.bind_some, takeAll_fields h]
  obtain ⟨stamp, ⟨action, task, details⟩⟩ := e
  cases task <;> rfl

/-! ## What is read -/

theorem readTime_valid {s : Source} {t : Timestamp} (h : readTime s = some t) : t.Valid := by
  obtain ⟨text, -, parsed⟩ := Option.bind_eq_some_iff.mp h
  exact Timestamp.parse_valid parsed

/-- A field brings a time or details that it holds, or leaves both as they are. -/
theorem Partial.take_cases {p p' : Partial} {name : String} {s : Source}
    (h : p.take name s = some p') :
    (∃ t, readTime s = some t ∧ p'.time = some t ∧ p'.details = p.details) ∨
    (∃ v, Source.value depth s = some v ∧ p'.details = some v ∧ p'.time = p.time) ∨
    (p'.time = p.time ∧ p'.details = p.details) := by
  unfold Partial.take at h
  -- A field that is known comes once, so what it brings is what is read from it.
  repeat' split at h
  all_goals simp only [reduceCtorEq, Option.map_eq_some_iff, Option.some.injEq] at h
  · obtain ⟨t, read, rfl⟩ := h
    exact .inl ⟨t, read, rfl, rfl⟩
  · obtain ⟨a, -, rfl⟩ := h
    exact .inr (.inr ⟨rfl, rfl⟩)
  · obtain ⟨actor, -, rfl⟩ := h
    exact .inr (.inr ⟨rfl, rfl⟩)
  · obtain ⟨task, -, rfl⟩ := h
    exact .inr (.inr ⟨rfl, rfl⟩)
  · obtain ⟨v, read, rfl⟩ := h
    exact .inr (.inl ⟨v, read, rfl, rfl⟩)
  · obtain rfl := h
    exact .inr (.inr ⟨rfl, rfl⟩)

/-- What has been read so far is fit to be printed, but for doubles. -/
structure Partial.Fit (p : Partial) : Prop where
  time : ∀ t ∈ p.time, t.Valid
  details : ∀ v ∈ p.details, Fits depth v

theorem Partial.Fit.take {p p' : Partial} (h : p.Fit) {name : String} {s : Source}
    (taken : p.take name s = some p') : p'.Fit := by
  rcases Partial.take_cases taken with
    ⟨t, read, time, details⟩ | ⟨v, read, details, time⟩ | ⟨time, details⟩
  · refine ⟨?_, details ▸ h.details⟩
    intro t' same
    obtain rfl := Option.some.inj (time.symm.trans same)
    exact readTime_valid read
  · refine ⟨time ▸ h.time, ?_⟩
    intro v' same
    obtain rfl := Option.some.inj (details.symm.trans same)
    exact fits_of_value read
  · exact ⟨time ▸ h.time, details ▸ h.details⟩

theorem Partial.Fit.takeAll {p p' : Partial} (h : p.Fit)
    {fields : List (List Letter × Source)} (taken : p.takeAll fields = some p') : p'.Fit := by
  induction fields generalizing p with
  | nil =>
      obtain rfl := Option.some.inj taken
      exact h
  | cons field rest ih =>
      obtain ⟨name, s⟩ := field
      simp only [Partial.takeAll, bind, Option.bind_eq_some_iff] at taken
      obtain ⟨name, -, p'', first, later⟩ := taken
      exact ih (h.take first) later

/-- An event that was read is sound if its details have no doubles. -/
theorem sound_of_parse {text : String} {e : Event} (h : parse text = some e)
    (whole : e.deed.details.isWhole) : e.Sound := by
  unfold parse at h
  obtain ⟨s, -, read⟩ := Option.bind_eq_some_iff.mp h
  split at read
  · next fields =>
      obtain ⟨p, taken, complete⟩ := Option.bind_eq_some_iff.mp read
      have fit : p.Fit := Partial.Fit.takeAll ⟨by simp, by simp⟩ taken
      simp only [Partial.event?, bind, Option.bind_eq_some_iff, pure, Option.some.injEq] at complete
      obtain ⟨time, hasTime, action, -, actor, -, details, hasDetails, rfl⟩ := complete
      exact ⟨fit.time time hasTime, fit.details details hasDetails, whole⟩
  · simp only [bind, Option.bind_eq_some_iff, pure, Option.some.injEq] at read
    obtain ⟨time, readTime, actor, -, action, -, task, -, details, readDetails, rfl⟩ := read
    exact ⟨readTime_valid readTime, fits_of_value readDetails, whole⟩
  · cases read

end Event

end RemoteDesk.Audit
