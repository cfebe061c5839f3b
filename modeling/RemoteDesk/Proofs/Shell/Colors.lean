import Mathlib.Data.List.Forall2
import RemoteDesk.Proofs.Shell.Palette
import RemoteDesk.Proofs.Shell.Rounds
import RemoteDesk.Proofs.Text.Utf8

/-! # Colors are presentation

A color is put around a text right before the text is handed to the output or shown as a prompt.
Nothing else looks at the palette. So two shells that differ in their palettes stay beside each
other: they do the same, and what the one says is what the other says with colors put in.
-/

namespace RemoteDesk

open Palette

namespace Desk

/-- The first desk has no colors, and the second differs from it in palette and output only. Since
    the outputs stood at `start` and `start'` they have taken in the same, up to colors. -/
structure Dyed (start start' : String) (d d' : Desk) : Prop where
  same : ∃ palette sink, d' = { d with palette, sink }
  plain : d.palette.enabled = false
  accepts : d.sink.Accepts
  accepts' : d'.sink.Accepts
  said : ∃ more more', d.sink.taken = start ++ more ∧ d'.sink.taken = start' ++ more' ∧
    Tinted more more'

namespace Dyed

variable {start start' : String} {d d' : Desk}

/-- The outputs are compared from here on. -/
theorem fromHere (h : Dyed start start' d d') : Dyed d.sink.taken d'.sink.taken d d' :=
  { h with said := ⟨"", "", String.append_empty.symm, String.append_empty.symm, .refl ""⟩ }

/-- Looking at anything but palette and output gives the same at both desks. -/
theorem look {α : Type} (h : Dyed start start' d d') {f : Desk → α}
    (blind : ∀ d palette sink, f { d with palette, sink } = f d) : f d' = f d := by
  obtain ⟨palette, sink, rfl⟩ := h.same
  exact blind d palette sink

theorem emit (h : Dyed start start' d d') {text text' : String} (tinted : Tinted text text') :
    Dyed start start' ((Action.emit text).on d).2 ((Action.emit text').on d').2 := by
  obtain ⟨palette, sink, rfl⟩ := h.same
  obtain ⟨more, more', first, second, alike⟩ := h.said
  replace second : sink.taken = start' ++ more' := second
  rw [Action.on_emit h.accepts, Action.on_emit h.accepts']
  refine ⟨⟨_, _, rfl⟩, h.plain, h.accepts, h.accepts', more ++ text, more' ++ text', ?_, ?_,
    alike.append tinted⟩
  · simp only [first, String.append_assoc]
  · simp only [second, String.append_assoc]

end Dyed

namespace Action

variable {α β : Type}

/-- From such desks the action leads to such desks, with the same answer. -/
def ColorBlind (a : Action α) : Prop :=
  ∀ start start' d d', Dyed start start' d d' →
    (a.on d').1 = (a.on d).1 ∧ Dyed start start' (a.on d).2 (a.on d').2

namespace ColorBlind

theorem pure (x : α) : ColorBlind (Pure.pure x : Action α) :=
  fun _ _ _ _ h => ⟨rfl, h⟩

theorem bind {a : Action α} {f : α → Action β} (first : ColorBlind a)
    (rest : ∀ x, ColorBlind (f x)) : ColorBlind (a >>= f) := by
  intro start start' d d' h
  obtain ⟨answer, onward⟩ := first start start' d d' h
  rcases one : a.on d with ⟨e | x, d₁⟩ <;> rcases other : a.on d' with ⟨e' | x', d₁'⟩ <;>
    rw [one, other] at answer onward <;> cases answer
  · rw [on_bind_error one, on_bind_error other]
    exact ⟨rfl, onward⟩
  · rw [on_bind_ok one, on_bind_ok other]
    exact rest x start start' _ _ onward

/-- What neither looks at palette and output nor changes them. -/
theorem of {f : Desk → Except DeskError α × Desk}
    (blind : ∀ d palette sink,
      f { d with palette, sink } = ((f d).1, { (f d).2 with palette, sink })) :
    ColorBlind (.of f) := by
  intro start start' d d' h
  obtain ⟨palette, sink, rfl⟩ := h.same
  have still : f d = ((f d).1, { (f d).2 with palette := d.palette, sink := d.sink }) :=
    blind d d.palette d.sink
  rw [on_of, on_of, blind, still]
  exact ⟨rfl, ⟨palette, sink, rfl⟩, h.plain, h.accepts, h.accepts', h.said⟩

theorem look {f : Desk → α} (blind : ∀ d palette sink, f { d with palette, sink } = f d) :
    ColorBlind (look f) := by
  refine .of fun d palette sink => ?_
  rw [blind]

/-- Texts that are the same at both desks up to colors may be said. -/
theorem emitWith {f : Desk → String}
    (tinted : ∀ start start' d d', Dyed start start' d d' → Tinted (f d) (f d')) :
    ColorBlind (Action.look f >>= emit) := by
  intro start start' d d' h
  have said := h.emit (tinted start start' d d' h)
  rw [on_bind_ok (show (Action.look f).on d = (.ok (f d), d) from rfl),
    on_bind_ok (show (Action.look f).on d' = (.ok (f d'), d') from rfl)]
  refine ⟨?_, said⟩
  rw [on_emit h.accepts, on_emit h.accepts']

theorem emit (text : String) : ColorBlind (emit text) :=
  emitWith (f := fun _ => text) fun _ _ _ _ _ => .refl text

theorem emitLine (text : String) : ColorBlind (emitLine text) :=
  .bind (emit text) fun _ => emit "\n"

theorem emitPainted (color : Color) (text : String) : ColorBlind (emitPainted color text) := by
  have painted : ColorBlind (Action.look (fun d => d.palette.paint color text) >>= Action.emit) :=
    emitWith fun _ _ d d' h => .paint h.plain d'.palette color text
  have row : Action.emitPainted color text =
      (Action.look (fun d => d.palette.paint color text) >>= Action.emit) >>=
        fun _ => Action.emit "\n" := (bind_assoc _ _ _).symm
  rw [row]
  exact painted.bind fun _ => emit "\n"

theorem outcome {a : Action α} (h : ColorBlind a) : ColorBlind (outcome a) := by
  intro start start' d d' dyed
  obtain ⟨answer, onward⟩ := h start start' d d' dyed
  rw [on_outcome, on_outcome]
  exact ⟨congrArg Except.ok answer, onward⟩

end ColorBlind

end Action

end Desk

namespace Shell

open Desk Desk.Action

/-! ## Commands one by one -/

theorem change_presented {α : Type} (d : Desk) (palette : Palette) (sink : Sink)
    (f : FileTree → Except DeskError α × FileTree) :
    ({ d with palette, sink } : Desk).change f =
      ((d.change f).1, { (d.change f).2 with palette, sink }) := by
  unfold change
  rcases d.faults with _ | ⟨_ | fault, later⟩ <;> rfl

theorem record_colorBlind (deed : Audit.Deed) : ColorBlind (record deed) := by
  refine .of fun d palette sink => Prod.ext rfl ?_
  simp only [Desk.record, change_presented]
  cases d.config.eventsFile with
  | none => rfl
  | some file =>
      simp only
      rcases d.change _ with ⟨_ | _, d'⟩ <;> rfl

theorem startTask_colorBlind : ColorBlind startTask :=
  .bind (.of fun _ _ _ => rfl) fun _ => .bind (record_colorBlind _) fun _ => .emitLine _

theorem discardTask_colorBlind : ColorBlind discardTask :=
  .bind (.of fun _ _ _ => rfl) fun _ => .bind (record_colorBlind _) fun _ => .emitLine _

theorem credentialLines_tinted {p : Palette} (plain : p.enabled = false) (p' : Palette)
    (c : Credentials) : Tinted (credentialLines p c) (credentialLines p' c) := by
  have painted (text : String) : Tinted (p.paint .green text) (p'.paint .green text) :=
    .paint plain p' .green text
  have line {before before' : String} (h : Tinted before before') (label text : String) :
      Tinted (before ++ label ++ p.paint .green text ++ "\n")
        (before' ++ label ++ p'.paint .green text ++ "\n") :=
    ((h.append (.refl label)).append (painted text)).append (.refl "\n")
  exact line (line (((Tinted.refl _).append (painted _)).append (.refl "\n")) _ _) _ _

theorem listing_tinted {heading heading' : String} (h : Tinted heading heading')
    (names : List String) : Tinted (listing heading names) (listing heading' names) :=
  (h.append (.refl _)).append (.refl _)

theorem showUnder_colorBlind (heading : String) (c : Credentials) :
    ColorBlind (showUnder heading c) :=
  .bind (.emitLine heading) fun _ =>
    .emitWith fun _ _ _ d' h => credentialLines_tinted h.plain d'.palette c

theorem showing_colorBlind {rest : Option Credentials → Action Unit}
    (blind : ∀ shown, ColorBlind (rest shown)) : ColorBlind (look (·.session.shown?) >>= rest) :=
  .bind (.look fun _ _ _ => rfl) blind

theorem showCredentials_colorBlind : ColorBlind showCredentials := by
  refine showing_colorBlind fun shown => ?_
  cases shown with
  | some c => exact showUnder_colorBlind _ c
  | none => exact .emitPainted _ _

theorem details_colorBlind :
    ColorBlind (do
      match ← look (·.session.shown?) with
      | some c => showUnder "[!] RemoteDesktop Details" c
      | none => pure ()) := by
  refine showing_colorBlind fun shown => ?_
  cases shown with
  | some c => exact showUnder_colorBlind _ c
  | none => exact .pure ()

theorem captureCredentials_colorBlind : ColorBlind captureCredentials := by
  have recorded {rest : Unit → Action Unit} (overwrite : Bool) (blind : ∀ x, ColorBlind (rest x)) :
      ColorBlind (do
        let s ← look (·.session)
        record (credentialsDeed s overwrite) >>= rest) :=
    .bind (.look fun _ _ _ => rfl) fun _ => .bind (record_colorBlind _) blind
  refine .bind (.of fun _ _ _ => rfl) fun outcome => ?_
  cases outcome with
  | captured => exact recorded false fun _ => .pure ()
  | overwritten => exact recorded true fun _ => details_colorBlind
  | kept => exact details_colorBlind

theorem announceSubtask_colorBlind (id : String) (source : Path) :
    ColorBlind (announceSubtask id source) :=
  .bind (record_colorBlind _) fun _ => .emitLine _

theorem announceAll_colorBlind (source : Path) (ids : List String) :
    ColorBlind (announceAll source ids) := by
  induction ids with
  | nil => exact .pure ()
  | cons id rest ih => exact .bind (announceSubtask_colorBlind id source) fun _ => ih

theorem addSubtask_colorBlind (id : String) (path : Path) : ColorBlind (addSubtask id path) := by
  refine .bind (.of fun d _ _ => ?_) fun _ => announceSubtask_colorBlind id path
  simp only
  cases d.registry.loadFile d.tree id path <;> rfl

theorem addDirectory_colorBlind (directory : Path) : ColorBlind (addDirectory directory) := by
  refine .bind (.of fun _ _ _ => rfl) fun ids => ?_
  cases ids with
  | nil => exact .bind (.look fun _ _ _ => rfl) fun _ => .emitPainted _ _
  | cons id rest => exact announceAll_colorBlind directory (id :: rest)

theorem listSubtasks_colorBlind : ColorBlind listSubtasks := by
  refine .emitWith fun start start' d d' h => ?_
  rw [h.look (f := fun d => d.registry.ids) fun _ _ _ => rfl]
  exact listing_tinted (.paint h.plain d'.palette .green _) _

theorem listTasks_colorBlind : ColorBlind listTasks := by
  refine .bind (.look fun _ _ _ => rfl) fun keys => ?_
  cases keys with
  | nil => exact .emitLine _
  | cons key rest =>
      exact .emitWith fun _ _ _ d' h => listing_tinted (.paint h.plain d'.palette .green _) _

theorem writeScript_colorBlind (key : String) : ColorBlind (writeScript key) := by
  refine .of fun d palette sink => ?_
  simp only [change_presented]
  cases d.config.outputDirectory with
  | none => rfl
  | some directory =>
      simp only
      rcases d.change _ with ⟨_ | _ | path, d'⟩ <;> rfl

theorem completeTask_colorBlind : ColorBlind completeTask := by
  have made : ColorBlind (.of turnIn) := by
    refine .of fun d _ _ => ?_
    rcases completes : d.session.complete d.registry d.store d.config.escapeCredentials with
      ⟨_ | _, _⟩ <;> simp only [turnIn, completes]
  have closes (task : CompletedTask) (path : Option Path) : ColorBlind (closing task path) := by
    cases path with
    | some path => exact .bind (.emitLine _) fun _ => .emitPainted _ _
    | none => exact .emitPainted _ _
  rw [completeTask_eq]
  exact .bind made fun task => .bind (record_colorBlind _) fun _ =>
    .bind (writeScript_colorBlind _) fun path => closes task path

theorem execute_colorBlind (command : Command) : ColorBlind (execute command) := by
  have done {a : Action Unit} (blind : ColorBlind a) :
      ColorBlind (do a; return Flow.goOn : Action Flow) :=
    .bind blind fun _ => .pure Flow.goOn
  cases command with
  | exit => exact .pure Flow.leave
  | new => exact done startTask_colorBlind
  | credentials => exact done captureCredentials_colorBlind
  | showCredentials => exact done showCredentials_colorBlind
  | subtask id path => exact done (addSubtask_colorBlind id (Path.ofString path))
  | subtaskDir directory => exact done (addDirectory_colorBlind (Path.ofString directory))
  | assigned => exact done listSubtasks_colorBlind
  | complete => exact done completeTask_colorBlind
  | discard => exact done discardTask_colorBlind
  | tasks => exact done listTasks_colorBlind
  | help => exact done (.emit _)
  | unknown word => exact done (.emitPainted _ _)

theorem handleLine_colorBlind (line : String) : ColorBlind (handleLine line) := by
  refine .bind (.of fun _ _ _ => rfl) fun command => ?_
  cases command with
  | some command => exact execute_colorBlind command
  | none => exact .pure Flow.goOn

theorem complain_colorBlind (e : DeskError) : ColorBlind (complain e) :=
  .emitPainted _ _

theorem turn_colorBlind (r : Reading) : ColorBlind (turn r) := by
  cases r with
  | endOfInput => exact .pure Flow.leave
  | failed e => exact .bind (complain_colorBlind e) fun _ => .pure Flow.leave
  | line text =>
      refine .bind (.outcome (handleLine_colorBlind text)) fun answer => ?_
      cases answer with
      | ok flow => exact .pure flow
      | error e => exact .bind (complain_colorBlind e) fun _ => .pure Flow.goOn

theorem finish_colorBlind : ColorBlind finish := by
  refine .bind (.look fun _ _ _ => rfl) fun scripts => ?_
  induction scripts with
  | nil => exact .pure ()
  | cons script rest ih => exact .bind (.emit script) fun _ => ih

/-! ## Transcripts -/

/-- The exchanges differ only in colors of what was shown. -/
structure Exchange.Dyed (e e' : Exchange) : Prop where
  reading : e'.reading = e.reading
  asked : e'.asked = e.asked
  prompt : Tinted e.prompt e'.prompt
  output : Tinted e.output e'.output

/-- The exchange without colors. -/
def Exchange.uncolored (e : Exchange) : Exchange :=
  { e with prompt := Palette.uncolored e.prompt, output := Palette.uncolored e.output }

theorem Exchange.Dyed.uncolored {e e' : Exchange} (h : e.Dyed e')
    (prompt : '\x1b' ∉ e.prompt.toList) (output : '\x1b' ∉ e.output.toList) :
    e'.uncolored = e := by
  rw [Exchange.uncolored, h.reading, h.asked, h.prompt.uncolored prompt, h.output.uncolored output]

/-- The transcripts differ only in colors of what was shown, and the desks in palette and output. -/
structure Transcript.Dyed (start start' : String) (t t' : Transcript) : Prop where
  introduction : t'.introduction = t.introduction
  exchanges : List.Forall₂ Exchange.Dyed t.exchanges t'.exchanges
  unread : t'.unread = t.unread
  result : t'.result = t.result
  desk : Desk.Dyed start start' t.desk t'.desk

theorem prompt_tinted {start start' : String} {d d' : Desk} (h : Desk.Dyed start start' d d') :
    Tinted d.prompt d'.prompt := by
  have painted (color : Color) (text : String) :
      Tinted (d.palette.paint color text) (d'.palette.paint color text) :=
    .paint h.plain d'.palette color text
  unfold prompt
  rw [h.look (f := fun d => d.session.activeIndex?) fun _ _ _ => rfl,
    h.look (f := fun d => d.config.operatorName) fun _ _ _ => rfl]
  cases d.session.activeIndex? with
  | none => exact painted .yellow _
  | some index => exact ((painted .blue _).append (.refl "\n")).append (painted .yellow _)

theorem between_dyed {start start' : String} {d d' later later' : Desk}
    (h : Desk.Dyed start start' d d')
    (onward : Desk.Dyed d.sink.taken d'.sink.taken later later') (r : Reading) :
    (Exchange.between d r later).Dyed (.between d' r later') := by
  obtain ⟨more, more', first, second, tinted⟩ := onward.said
  refine ⟨rfl, ?_, prompt_tinted h, ?_⟩
  · simp only [Exchange.between, h.look (f := fun d => d.operator) fun _ _ _ => rfl,
      onward.look (f := fun d => d.operator) fun _ _ _ => rfl]
  · simpa [Exchange.between, first, second] using tinted

theorem converse_dyed {start start' : String} {d d' : Desk} (h : Desk.Dyed start start' d d')
    (readings : List Reading) :
    Transcript.Dyed start start' (converse d readings) (converse d' readings) := by
  have left {d d' later later' : Desk} (h : Desk.Dyed start start' d d')
      (here : Desk.Dyed d.sink.taken d'.sink.taken later later')
      (since : Desk.Dyed start start' later later') (r : Reading) (unread : List Reading) :
      Transcript.Dyed start start' (leave d r unread later) (leave d' r unread later') := by
    obtain ⟨result, last⟩ := finish_colorBlind _ _ _ _ here
    exact ⟨rfl, .cons (between_dyed h last r) .nil, rfl, result,
      (finish_colorBlind _ _ _ _ since).2⟩
  induction readings generalizing d d' with
  | nil => exact left h h.fromHere h .endOfInput []
  | cons r rest ih =>
      obtain ⟨answer, here⟩ := turn_colorBlind r _ _ _ _ h.fromHere
      obtain ⟨-, since⟩ := turn_colorBlind r _ _ _ _ h
      unfold converse
      rcases one : (turn r).on d with ⟨e | flow, later⟩ <;>
        rcases other : (turn r).on d' with ⟨e' | flow', later'⟩ <;>
        rw [one, other] at answer here since <;> cases answer
      · exact ⟨rfl, .cons (between_dyed h here r) .nil, rfl, rfl, since⟩
      · cases flow with
        | goOn =>
            have onward := ih since
            exact { onward with exchanges := .cons (between_dyed h here r) onward.exchanges }
        | leave => exact left h here since r rest

theorem taken_between {d later : Desk} (grown : ∃ more, later.sink.taken = d.sink.taken ++ more)
    (r : Reading) :
    later.sink.taken = d.sink.taken ++ (Exchange.between d r later).output := by
  obtain ⟨more, same⟩ := grown
  simp [Exchange.between, same]

/-- What the output takes in of a conversation are the outputs of its exchanges. -/
theorem taken_converse {d : Desk} (plain : d.palette.enabled = false) (accepts : d.sink.Accepts)
    (readings : List Reading) :
    (converse d readings).desk.sink.taken =
      d.sink.taken ++ String.join ((converse d readings).exchanges.map (·.output)) := by
  -- A turn is compared with itself: what it says comes after what was said before.
  have turned {d : Desk} (plain : d.palette.enabled = false) (accepts : d.sink.Accepts)
      (r : Reading) : ∃ more, (next d r).sink.taken = d.sink.taken ++ more := by
    have itself : Desk.Dyed d.sink.taken d.sink.taken d d :=
      ⟨⟨_, _, rfl⟩, plain, accepts, accepts, "", "", String.append_empty.symm,
        String.append_empty.symm, .refl ""⟩
    obtain ⟨more, -, same, -⟩ := (turn_colorBlind r _ _ _ _ itself).2.said
    exact ⟨more, same⟩
  have last {d later : Desk} (accepts : later.sink.Accepts)
      (grown : ∃ more, later.sink.taken = d.sink.taken ++ more) (r : Reading)
      (unread : List Reading) :
      (leave d r unread later).desk.sink.taken =
        d.sink.taken ++ String.join ((leave d r unread later).exchanges.map (·.output)) := by
    obtain ⟨more, same⟩ := grown
    have ended := taken_finish accepts
    rw [same, String.append_assoc] at ended
    simpa [leave] using taken_between ⟨_, ended⟩ r
  induction readings generalizing d with
  | nil => exact last accepts ⟨"", String.append_empty.symm⟩ .endOfInput []
  | cons r rest ih =>
      have onward : (next d r).sink.Accepts :=
        accepts_of_refusal (setting_next d r).refusal accepts
      have done : (turn r).on d = (.ok r.flow, next d r) := Prod.ext (turn_done accepts r) rfl
      unfold converse
      rw [done]
      cases r.flow with
      | goOn =>
          have later := ih ((setting_next d r).palette ▸ plain) onward
          rw [taken_between (turned plain accepts r) r, String.append_assoc] at later
          simpa using later
      | leave => exact last onward (turned plain accepts r) r rest

theorem run_dyed {start start' : String} {d d' : Desk} (h : Desk.Dyed start start' d d')
    (level : d'.sink.taken = d.sink.taken) (readings : List Reading) :
    Transcript.Dyed start start' (run d readings) (run d' readings) := by
  have begun := h.emit (.refl introduction)
  unfold run
  rw [on_emit h.accepts, on_emit h.accepts'] at begun ⊢
  have onward := converse_dyed begun readings
  exact { onward with introduction := congrArg (· ++ introduction) level }

theorem Transcript.Dyed.exchanges_alike {start start' : String} {t t' : Transcript}
    (h : t.Dyed start start' t') :
    t'.exchanges.map (fun e => (e.reading, e.asked)) =
      t.exchanges.map (fun e => (e.reading, e.asked)) := by
  have exchanges := h.exchanges
  generalize t.exchanges = es, t'.exchanges = es' at exchanges
  induction exchanges with
  | nil => rfl
  | cons first _ ih => rw [List.map_cons, List.map_cons, ih, first.reading, first.asked]

theorem Transcript.Dyed.shown {start start' : String} {t t' : Transcript}
    (h : t.Dyed start start' t') : Tinted t.shown t'.shown := by
  unfold Transcript.shown
  rw [h.introduction]
  refine Tinted.append (.refl _) ?_
  have exchanges := h.exchanges
  generalize t.exchanges = es, t'.exchanges = es' at exchanges
  induction exchanges with
  | nil => exact .refl ""
  | cons first _ ih =>
      rw [List.map_cons, List.map_cons, String.join_cons, String.join_cons]
      exact (first.prompt.append first.output).append ih

theorem Transcript.Dyed.uncolored {start start' : String} {t t' : Transcript}
    (h : t.Dyed start start' t') (introduction : '\x1b' ∉ t.introduction.toList)
    (exchanges : ∀ e ∈ t.exchanges, '\x1b' ∉ e.prompt.toList ∧ '\x1b' ∉ e.output.toList) :
    Palette.uncolored t'.shown = t.shown ∧ t'.exchanges.map (·.uncolored) = t.exchanges := by
  constructor
  · refine h.shown.uncolored fun escaped => ?_
    rw [Transcript.shown, String.toList_append, String.toList_join, List.mem_append,
      List.mem_flatMap] at escaped
    rcases escaped with early | ⟨text, member, late⟩
    · exact introduction early
    · obtain ⟨e, among, rfl⟩ := List.mem_map.mp member
      rw [String.toList_append, List.mem_append] at late
      exact late.elim (exchanges e among).1 (exchanges e among).2
  · have pairs := h.exchanges
    generalize t.exchanges = es, t'.exchanges = es' at pairs exchanges
    induction pairs with
    | nil => rfl
    | cons first _ ih =>
        obtain ⟨⟨prompt, output⟩, others⟩ := List.forall_mem_cons.mp exchanges
        rw [List.map_cons, first.uncolored prompt output, ih others]

/-- What the output takes in of a run are the introduction and the outputs of the exchanges. -/
theorem taken_run {d : Desk} (plain : d.palette.enabled = false) (accepts : d.sink.Accepts)
    (readings : List Reading) :
    (run d readings).desk.sink.taken =
      (run d readings).introduction ++ String.join ((run d readings).exchanges.map (·.output)) := by
  let begun : Desk :=
    { d with sink := ⟨d.sink.refusal, d.sink.tried + 1, d.sink.taken ++ introduction⟩ }
  have taken := taken_converse (d := begun) plain accepts readings
  unfold run
  rw [on_emit accepts]
  exact taken

/-- At the end of a run the pending scripts are printed as they are. -/
theorem taken_run_of_pending {d : Desk} (accepts : d.sink.Accepts) (readings : List Reading) :
    (run d readings).desk.sink.taken =
      (stand (introduced d) (heard readings)).sink.taken ++
        String.join (pending (run d readings).desk) := by
  obtain ⟨-, -, -, desk⟩ := run_of_accepts accepts readings
  have onward : (stand (introduced d) (heard readings)).sink.Accepts :=
    accepts_of_refusal
      ((setting_stand _ _).refusal.trans (introduced_echoed d).alike.refusal) accepts
  have ended := (finish_within.leads (stand (introduced d) (heard readings))).alike
  rw [desk, taken_finish onward, pending, pending, ended.store, ended.written]

/-- Two runs that differ in whether there are colors come to the same readings, put the same
    questions, have the same result and leave the same desk but for palette and output, so the same
    events in the log and the same files. Both print the same scripts at the end. If the run without
    colors shows no escape character, what it shows is what the other run shows without the sequences
    that switch colors. -/
theorem colors_are_presentation (config : Config) (tree : FileTree)
    (faults : List (Option DiskFault)) (operator : Operator) (sink : Sink) (stamp : Audit.Stamp)
    (readings : List Reading) (accepts : sink.Accepts) :
    let start := opened config false tree faults operator sink stamp
    let start' := opened config true tree faults operator sink stamp
    let plain := run start readings
    let colored := run start' readings
    let scripts := String.join (pending plain.desk)
    colored.result = plain.result ∧
    colored.unread = plain.unread ∧
    colored.exchanges.map (fun e => (e.reading, e.asked)) =
      plain.exchanges.map (fun e => (e.reading, e.asked)) ∧
    colored.desk.recorded = plain.desk.recorded ∧
    colored.desk.tree = plain.desk.tree ∧
    (∃ palette sink', colored.desk = { plain.desk with palette, sink := sink' }) ∧
    plain.desk.sink.taken = (stand (introduced start) (heard readings)).sink.taken ++ scripts ∧
    colored.desk.sink.taken = (stand (introduced start') (heard readings)).sink.taken ++ scripts ∧
    ('\x1b' ∉ plain.desk.sink.taken.toList →
      (∀ e ∈ plain.exchanges, '\x1b' ∉ e.prompt.toList) →
        Palette.uncolored colored.desk.sink.taken = plain.desk.sink.taken ∧
        Palette.uncolored colored.shown = plain.shown ∧
        colored.introduction = plain.introduction ∧
        colored.exchanges.map (·.uncolored) = plain.exchanges) := by
  intro start start' plain colored scripts
  have beside : Desk.Dyed sink.taken sink.taken start start' :=
    ⟨⟨⟨true⟩, sink, rfl⟩, rfl, accepts, accepts, "", "", String.append_empty.symm,
      String.append_empty.symm, .refl ""⟩
  have dyed : Transcript.Dyed sink.taken sink.taken plain colored := run_dyed beside rfl readings
  have same : pending colored.desk = pending plain.desk := dyed.desk.look fun _ _ _ => rfl
  refine ⟨dyed.result, dyed.unread, dyed.exchanges_alike, dyed.desk.look fun _ _ _ => rfl,
    dyed.desk.look fun _ _ _ => rfl, dyed.desk.same, taken_run_of_pending accepts readings, ?_, ?_⟩
  · rw [taken_run_of_pending (d := start') accepts readings, same]
  · intro output prompts
    obtain ⟨more, more', first, second, tinted⟩ := dyed.desk.said
    have outputs : Tinted plain.desk.sink.taken colored.desk.sink.taken := by
      rw [first, second]
      exact Tinted.append (.refl _) tinted
    have parts := taken_run (d := start) rfl accepts readings
    have each : ∀ c, c ∈ plain.introduction.toList ∨
        (∃ e ∈ plain.exchanges, c ∈ e.output.toList) → c ∈ plain.desk.sink.taken.toList := by
      intro c has
      rw [parts, String.toList_append, String.toList_join, List.mem_append]
      exact has.imp_right fun ⟨e, member, inside⟩ =>
        List.mem_flatMap.mpr ⟨_, List.mem_map_of_mem member, inside⟩
    obtain ⟨shown, exchanges⟩ := dyed.uncolored (fun has => output (each _ (.inl has)))
      fun e member => ⟨prompts e member, fun has => output (each _ (.inr ⟨e, member, has⟩))⟩
    exact ⟨outputs.uncolored output, shown, dyed.introduction, exchanges⟩

/-- A task whose credentials are shown, and a command that fails. -/
theorem colors_are_presentation_of_shown_credentials :
    ∃ operator readings,
      operator = Operator.scripted [.ok "host", .ok "", .ok "word"] [] ∧
      readings = [.line "new", .line "credentials", .line "show_credentials", .line "new"] ∧
      let plain := run
        (opened .default false ⟨[], []⟩ [] operator .unlimited ⟨⟨0, 0, 0⟩, "me"⟩) readings
      let colored := run
        (opened .default true ⟨[], []⟩ [] operator .unlimited ⟨⟨0, 0, 0⟩, "me"⟩) readings
      '\x1b' ∉ plain.desk.sink.taken.toList ∧ colored.desk.sink.taken ≠ plain.desk.sink.taken ∧
        Palette.uncolored colored.shown = plain.shown := by
  -- The values are named first, so that no step of the proof carries the runs out but those that
  -- look for the escape character; they look for its byte.
  obtain ⟨operator, answers⟩ : ∃ o, o = Operator.scripted [.ok "host", .ok "", .ok "word"] [] :=
    ⟨_, rfl⟩
  obtain ⟨readings, typed⟩ : ∃ r : List Reading, r = [.line "new", .line "credentials",
      .line "show_credentials", .line "new"] := ⟨_, rfl⟩
  obtain ⟨-, -, -, -, -, -, -, -, uncolored⟩ := colors_are_presentation .default ⟨[], []⟩ []
    operator .unlimited ⟨⟨0, 0, 0⟩, "me"⟩ readings (fun _ _ _ => rfl)
  have single : String.utf8EncodeChar '\x1b' = [0x1b] := by decide
  have output : 0x1b ∉ (run (opened .default false ⟨[], []⟩ [] operator .unlimited
      ⟨⟨0, 0, 0⟩, "me"⟩) readings).desk.sink.taken.toByteArray.data.toList := by
    rw [answers, typed]
    decide +kernel
  have prompts : ∀ e ∈ (run (opened .default false ⟨[], []⟩ [] operator .unlimited
      ⟨⟨0, 0, 0⟩, "me"⟩) readings).exchanges, 0x1b ∉ e.prompt.toByteArray.data.toList := by
    rw [answers, typed]
    decide +kernel
  replace output := Utf8.not_mem_of_bytes single output
  obtain ⟨-, shown, -⟩ := uncolored output fun e member =>
    Utf8.not_mem_of_bytes single (prompts e member)
  have differ : (run (opened .default true ⟨[], []⟩ [] operator .unlimited
      ⟨⟨0, 0, 0⟩, "me"⟩) readings).desk.sink.taken.toByteArray.data.toList.length ≠
      (run (opened .default false ⟨[], []⟩ [] operator .unlimited
        ⟨⟨0, 0, 0⟩, "me"⟩) readings).desk.sink.taken.toByteArray.data.toList.length := by
    rw [answers, typed]
    decide +kernel
  exact ⟨operator, readings, answers, typed, output, fun same => differ (by rw [same]), shown⟩

end Shell

end RemoteDesk
