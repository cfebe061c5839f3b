import RemoteDesk.Proofs.Workbench

/-! # Where a script comes from

A script is made of an index, three credentials and the waiting subtasks. In any history the index
is the one that the latest accepted start read off the counter, and the credentials are those that
the latest storing capture since that start was answered. Both are read off the history alone, from
its end: an earlier task, a declined overwriting or a capture that failed midway leaves nothing
behind that a later script could take up.
-/

namespace RemoteDesk.Workbench

variable {σ : Type}

/-- The task of `index` is being authored: its start is the latest that was accepted, the counter
    showed `index` then, and nothing has ended the task since. -/
def Running (past : List (Record σ)) (index : UInt32) : Prop :=
  ∃ earlier start since, past = earlier ++ start :: since ∧
    start.Starts index ∧ start.before.counter.value = index ∧
    ∀ r ∈ since, (∀ other, ¬ r.Starts other) ∧ ¬ r.Ends

/-- The task of `index` is being authored, and `c` is what the latest capture that stored anything
    for it was answered. -/
def Effective (past : List (Record σ)) (index : UInt32) (c : Credentials) : Prop :=
  ∃ earlier capture since, past = earlier ++ capture :: since ∧
    Running earlier index ∧ capture.Captures ∧ capture.Answered c ∧ ∀ r ∈ since, r.Quiet

/-! ## One more record -/

/-- A split of a longer list falls on its last element or splits what stands before. -/
theorem snoc_eq_split {α : Type} {xs earlier since : List α} {x y : α} :
    xs ++ [x] = earlier ++ y :: since ↔
      (since = [] ∧ xs = earlier ∧ x = y) ∨
      ∃ rest, since = rest ++ [x] ∧ xs = earlier ++ y :: rest := by
  constructor
  · intro same
    rcases List.eq_nil_or_concat since with rfl | ⟨rest, last, rfl⟩
    · obtain ⟨init, tail⟩ := List.append_inj' same rfl
      exact .inl ⟨rfl, init, List.singleton_inj.mp tail⟩
    · rw [List.concat_eq_append, ← List.cons_append, ← List.append_assoc] at same
      obtain ⟨init, tail⟩ := List.append_inj' same rfl
      rw [List.concat_eq_append, List.singleton_inj.mp tail]
      exact .inr ⟨rest, rfl, init⟩
  · rintro (⟨rfl, rfl, rfl⟩ | ⟨rest, rfl, rfl⟩)
    · rfl
    · rw [List.append_assoc, List.cons_append]

theorem running_snoc {past : List (Record σ)} {r : Record σ} {index : UInt32} :
    Running (past ++ [r]) index ↔
      (r.Starts index ∧ r.before.counter.value = index) ∨
      (Running past index ∧ (∀ other, ¬ r.Starts other) ∧ ¬ r.Ends) := by
  constructor
  · rintro ⟨earlier, start, since, split, starts, value, calm⟩
    rcases snoc_eq_split.mp split with ⟨-, -, rfl⟩ | ⟨rest, rfl, rfl⟩
    · exact .inl ⟨starts, value⟩
    · refine .inr ⟨⟨earlier, start, rest, rfl, starts, value, ?_⟩, calm r (by simp)⟩
      intro x member
      exact calm x (List.mem_append_left _ member)
  · rintro (⟨starts, value⟩ | ⟨⟨earlier, start, since, rfl, starts, value, calm⟩, still⟩)
    · exact ⟨past, r, [], rfl, starts, value, by simp⟩
    · refine ⟨earlier, start, since ++ [r], by simp, starts, value, ?_⟩
      exact List.forall_mem_append.mpr ⟨calm, List.forall_mem_singleton.mpr still⟩

theorem effective_snoc {past : List (Record σ)} {r : Record σ} {index : UInt32} {c : Credentials} :
    Effective (past ++ [r]) index c ↔
      (Running past index ∧ r.Captures ∧ r.Answered c) ∨ (Effective past index c ∧ r.Quiet) := by
  constructor
  · rintro ⟨earlier, capture, since, split, running, captures, answered, calm⟩
    rcases snoc_eq_split.mp split with ⟨-, rfl, rfl⟩ | ⟨rest, rfl, rfl⟩
    · exact .inl ⟨running, captures, answered⟩
    · refine .inr ⟨⟨earlier, capture, rest, rfl, running, captures, answered, ?_⟩,
        calm r (by simp)⟩
      intro x member
      exact calm x (List.mem_append_left _ member)
  · rintro (⟨running, captures, answered⟩ |
      ⟨⟨earlier, capture, since, rfl, running, captures, answered, calm⟩, quiet⟩)
    · exact ⟨past, r, [], rfl, running, captures, answered, by simp⟩
    · refine ⟨earlier, capture, since ++ [r], by simp, running, captures, answered, ?_⟩
      exact List.forall_mem_append.mpr ⟨calm, List.forall_mem_singleton.mpr quiet⟩

/-! ## The session is what the history says -/

/-- A session stands where a history has led it. -/
structure Explains (past : List (Record σ)) (s : Session) : Prop where
  coherent : s.Coherent
  running : ∀ index, s.taskIndex = some index ↔ Running past index
  effective : ∀ index c,
    (s.taskIndex = some index ∧ s.assigned = true ∧ s.stored = c) ↔ Effective past index c

theorem Explains.new : Explains ([] : List (Record σ)) .new where
  coherent := .new
  running := by simp [Session.new, Running]
  effective := by simp [Session.new, Effective]

/-- One step leads the session to where the longer history says. -/
theorem Explains.step {past : List (Record σ)} {r : Record σ} (effect : r.Effect)
    (h : Explains past r.before.session) : Explains (past ++ [r]) r.after.session := by
  cases effect with
  | starts idle starts session =>
      rw [session]
      refine ⟨.started _, ?_, ?_⟩
      · intro index
        rw [running_snoc]
        constructor
        · intro same
          obtain rfl : r.before.counter.value = index := by simpa [Session.started] using same
          exact .inl ⟨starts, rfl⟩
        · rintro (⟨-, value⟩ | ⟨-, noStart, -⟩)
          · simp [Session.started, value]
          · exact (noStart _ starts).elim
      · intro index c
        rw [effective_snoc]
        constructor
        · rintro ⟨-, assigned, -⟩
          cases assigned
        · rintro (⟨-, captures, -⟩ | ⟨-, quiet⟩)
          · exact (captures.not_starts _ starts).elim
          · exact (quiet.noStart _ starts).elim
  | captures c active captures answered session =>
      rw [session]
      refine ⟨h.coherent.given active c, ?_, ?_⟩
      · intro index
        rw [running_snoc]
        constructor
        · intro same
          exact .inr ⟨(h.running index).mp same, captures.not_starts, captures.not_ends⟩
        · rintro (⟨starts, -⟩ | ⟨running, -⟩)
          · exact (captures.not_starts index starts).elim
          · exact (h.running index).mpr running
      · intro index c'
        rw [effective_snoc]
        constructor
        · rintro ⟨same, -, rfl⟩
          exact .inl ⟨(h.running index).mp same, captures, answered⟩
        · rintro (⟨running, -, answered'⟩ | ⟨-, quiet⟩)
          · exact ⟨(h.running index).mpr running, rfl, answered.credentials_eq answered'⟩
          · exact (quiet.noCapture captures).elim
  | ends phase ended ends session =>
      rw [session]
      refine ⟨.cleared ended, ?_, ?_⟩
      · intro index
        rw [running_snoc]
        constructor
        · intro same
          cases same
        · rintro (⟨starts, -⟩ | ⟨-, -, noEnd⟩)
          · exact (starts.not_ends ends).elim
          · exact (noEnd ends).elim
      · intro index c
        rw [effective_snoc]
        constructor
        · rintro ⟨same, -⟩
          cases same
        · rintro (⟨-, captures, -⟩ | ⟨-, quiet⟩)
          · exact (captures.not_ends ends).elim
          · exact (quiet.noEnd ends).elim
  | quiet quiet session =>
      rw [session]
      refine ⟨h.coherent, ?_, ?_⟩
      · intro index
        rw [running_snoc, h.running index]
        constructor
        · intro running
          exact .inr ⟨running, quiet.noStart, quiet.noEnd⟩
        · rintro (⟨starts, -⟩ | ⟨running, -⟩)
          · exact (quiet.noStart index starts).elim
          · exact running
      · intro index c
        rw [effective_snoc, h.effective index c]
        constructor
        · intro effective
          exact .inr ⟨effective, quiet⟩
        · rintro (⟨-, captures, -⟩ | ⟨effective, -⟩)
          · exact (quiet.noCapture captures).elim
          · exact effective

variable [TaskSink σ]

theorem explains_before {w : Workbench σ} {steps : List Step} {past later : List (Record σ)}
    {r : Record σ} (fresh : w.session = .new) (split : w.history steps = past ++ r :: later) :
    r = r.before.record r.step ∧ Explains past r.before.session := by
  have keeps (past : List (Record σ)) (w : Workbench σ) (step : Step)
      (h : Explains past w.session) :
      Explains (past ++ [w.record step]) (w.record step).after.session :=
    Explains.step (w.record_effect step) h
  exact history_invariant (I := fun past w => Explains past w.session) keeps
    (fresh ▸ Explains.new) split

/-! ## The script of a completed task -/

/-- Completing succeeds exactly when a task is being authored that has been given credentials. The
    answer, and the one script that reaches the sink, are then assembled from the index and the
    credentials that are effective by the history, and from the waiting subtasks. No other step
    hands anything to the sink. -/
theorem completes_iff_effective (counter : Counter) (registry : Registry) (sink : σ)
    (steps : List Step) {past later : List (Record σ)} {r : Record σ}
    (split : (Workbench.mk .new counter registry sink).history steps = past ++ r :: later) :
    (∀ task, r.Completes task ↔
      ∃ escaped index c, r.step = .complete escaped ∧ Effective past index c ∧
        task = ⟨index, Script.assemble index c r.before.registry.subtasks escaped,
          r.before.registry.subtasks.map (·.1)⟩) ∧
    (∀ task, r.Completes task →
      task.script.key = "RemoteDesktop_" ++ Nat.repr task.index.toNat ∧
        r.after.sink = TaskSink.add r.before.sink task.script.key task.script.text) ∧
    ((∀ task, ¬ r.Completes task) → r.after.sink = r.before.sink) := by
  obtain ⟨made, explains⟩ := explains_before rfl split
  refine ⟨fun task => ⟨fun completes => ?_, ?_⟩, fun task completes => ?_, fun scriptless => ?_⟩
  · rw [made] at completes
    obtain ⟨escaped, index, step, indexed, assigned, rfl, -⟩ := record_completes completes
    exact ⟨escaped, index, r.before.session.stored, step,
      (explains.effective index _).mp ⟨indexed, assigned, rfl⟩, rfl⟩
  · rintro ⟨escaped, index, c, step, effective, rfl⟩
    obtain ⟨indexed, assigned, rfl⟩ := (explains.effective index c).mpr effective
    rw [made, step]
    exact completes_of_assigned indexed assigned
  · rw [made] at completes
    obtain ⟨escaped, index, -, -, -, rfl, -, added⟩ := record_completes completes
    rw [← made] at added
    exact ⟨rfl, added⟩
  · rw [made] at scriptless
    have same := sink_of_not_completes scriptless
    rwa [← made] at same

/-- The second task of a history, whose first one was given up: neither the first credentials, nor a
    capture that failed midway, nor a declined one reaches its script. -/
theorem completes_after_discarded_task :
    let bench : Workbench Store := ⟨.new, ⟨7⟩, .empty, .empty⟩
    let first := Operator.scripted [.ok "old", .ok "old", .ok "old"] []
    let second := Operator.scripted [.ok "host", .ok "user", .ok "word"] []
    let halfway := Operator.scripted [.ok "other"] [.ok true]
    let declining := Operator.scripted [] [.ok false]
    let steps := [.start, .capture first, .discard, .advance, .start, .capture second,
      .capture halfway, .capture declining]
    let past := bench.history steps
    let task : CompletedTask := ⟨8, Script.assemble 8 ⟨"host", "user", "word"⟩ [] true, []⟩
    ∃ r, bench.history (steps ++ [.complete true]) = past ++ r :: [] ∧ r.Completes task ∧
      ∃ escaped index c, r.step = .complete escaped ∧ Effective past index c ∧
        task = ⟨index, Script.assemble index c r.before.registry.subtasks escaped,
          r.before.registry.subtasks.map (·.1)⟩ := by
  intro bench first second halfway declining steps past task
  obtain ⟨r, split, completes⟩ : ∃ r,
      bench.history (steps ++ [.complete true]) = past ++ r :: [] ∧ r.Completes task :=
    ⟨_, rfl, rfl⟩
  exact ⟨r, split, completes, ((completes_iff_effective _ _ _ _ split).1 task).mp completes⟩

end RemoteDesk.Workbench
