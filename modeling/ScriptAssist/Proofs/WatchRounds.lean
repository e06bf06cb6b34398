import Mathlib.Data.List.Induction
import Mathlib.Tactic.Lemma
import Mathlib.Tactic.SplitIfs
import ScriptAssist.Service.Watch

/-!
# Rounds of a watch

The ticks divide what happens into rounds. After a tick those clients are watched who were
registered in some round and were running at every tick from the end of that round on; and the end
of the watch is announced once, and only after a tick has left nobody.
-/

namespace ScriptAssist

namespace Happening

/-! ### Rounds -/

/-- What happens before tick `j` and not before an earlier one. Ticks are numbered from zero. -/
def roundBefore : List Happening → Nat → List Happening
  | [], _ => []
  | .tick :: _, 0 => []
  | .tick :: rest, j + 1 => roundBefore rest j
  | happening :: rest, 0 => happening :: roundBefore rest 0
  | _ :: rest, j + 1 => roundBefore rest (j + 1)

/-- Everything that happens before tick `j`. -/
def untilTick : List Happening → Nat → List Happening
  | [], _ => []
  | .tick :: _, 0 => []
  | .tick :: rest, j + 1 => .tick :: untilTick rest j
  | happening :: rest, j => happening :: untilTick rest j

/-- Whether a process is running after something has happened, if it was or was not before. -/
def runsAfter (pid : UInt32) (runs : Bool) : Happening → Bool
  | .exits other => runs && other != pid
  | .starts other => runs || other == pid
  | _ => runs

/-- Whether a process is running at tick `j`, if the processes in `running` were at the start. -/
def runsAt (running : List UInt32) (history : List Happening) (pid : UInt32) (j : Nat) : Bool :=
  (untilTick history j).foldl (runsAfter pid) (running.contains pid)

/-- Whether a client is registered in round `j`. The one known from the start is in round zero. -/
def RegisteredIn (client : Option UInt32) (history : List Happening) (pid : UInt32) (j : Nat) :
    Prop :=
  .register pid ∈ roundBefore history j ∨ j = 0 ∧ client = some pid

variable {history : List Happening} {happening : Happening} {j : Nat}

lemma roundBefore_append_tick (history : List Happening) (j : Nat) :
    roundBefore (history ++ [.tick]) j = roundBefore history j := by
  induction history generalizing j with
  | nil => cases j <;> rfl
  | cons first rest ih =>
    cases first <;> cases j <;> simp [roundBefore, ih]

lemma roundBefore_append_of_ne (h : happening ≠ .tick) (history : List Happening) (j : Nat) :
    roundBefore (history ++ [happening]) j =
      if j = history.count .tick then roundBefore history j ++ [happening]
      else roundBefore history j := by
  induction history generalizing j with
  | nil =>
    cases j with
    | zero => cases happening <;> simp_all [roundBefore]
    | succ j => cases happening <;> simp_all [roundBefore]
  | cons first rest ih =>
    cases first <;> cases j <;> simp [roundBefore, ih, apply_ite]

lemma roundBefore_count_append_tick (history : List Happening) :
    roundBefore (history ++ [.tick]) (history.count .tick + 1) = [] := by
  induction history with
  | nil => rfl
  | cons first rest ih => cases first <;> simpa [roundBefore] using ih

lemma untilTick_append (h : j < history.count .tick) (more : List Happening) :
    untilTick (history ++ more) j = untilTick history j := by
  induction history generalizing j with
  | nil => simp at h
  | cons first rest ih =>
    cases first <;> cases j <;> simp_all [untilTick]

lemma untilTick_append_tick (h : j ≤ history.count .tick) :
    untilTick (history ++ [.tick]) j = untilTick history j := by
  induction history generalizing j with
  | nil =>
    obtain rfl : j = 0 := by simpa using h
    rfl
  | cons first rest ih =>
    cases first <;> cases j <;> simp_all [untilTick]

lemma untilTick_count (history : List Happening) :
    untilTick history (history.count .tick) = history := by
  induction history with
  | nil => rfl
  | cons first rest ih => cases first <;> simpa [untilTick] using ih

lemma runsAt_append {running : List UInt32} (h : j < history.count .tick) (pid : UInt32)
    (more : List Happening) :
    runsAt running (history ++ more) pid j = runsAt running history pid j := by
  rw [runsAt, untilTick_append h, runsAt]

lemma runsAt_append_tick {running : List UInt32} (h : j ≤ history.count .tick) (pid : UInt32) :
    runsAt running (history ++ [.tick]) pid j = runsAt running history pid j := by
  rw [runsAt, untilTick_append_tick h, runsAt]

lemma registeredIn_append_tick {client : Option UInt32} {pid : UInt32} :
    RegisteredIn client (history ++ [.tick]) pid j ↔ RegisteredIn client history pid j := by
  rw [RegisteredIn, roundBefore_append_tick, RegisteredIn]

lemma not_registeredIn_append_tick {client : Option UInt32} {pid : UInt32} :
    ¬ RegisteredIn client (history ++ [.tick]) pid (history.count .tick + 1) := by
  rintro (hregister | ⟨hzero, -⟩)
  · rw [roundBefore_count_append_tick] at hregister
    exact absurd hregister (by simp)
  · omega

lemma registeredIn_append_of_ne {client : Option UInt32} {pid : UInt32}
    (h : happening ≠ .tick) :
    RegisteredIn client (history ++ [happening]) pid j ↔
      RegisteredIn client history pid j ∨ j = history.count .tick ∧ happening = .register pid := by
  rw [RegisteredIn, roundBefore_append_of_ne h, RegisteredIn]
  split_ifs with hj
  · rw [List.mem_append, List.mem_singleton, or_right_comm]
    simp [hj, eq_comm]
  · simp [hj]

end Happening

namespace Monitor

variable {client : Option UInt32} {running : List UInt32} {past : List Happening} {pid : UInt32}

/-! ### Watching on and on -/

/-- The monitor after something has happened, if ticks go on when nobody is left. -/
def keepWatch (monitor : Monitor) : Happening → Monitor
  | .tick => { monitor with watch := (monitor.watch.tick monitor.isRunning).2 }
  | happening => monitor.step happening

/-- The monitor after a history, if ticks go on when nobody is left. -/
def watchOn (client : Option UInt32) (running : List UInt32) (history : List Happening) : Monitor :=
  history.foldl keepWatch (.start client running)

/-- Whether a client is watched or will be from the next tick on. -/
def IsCandidate (monitor : Monitor) (pid : UInt32) : Prop :=
  pid ∈ monitor.watch.watched ∨ pid ∈ monitor.watch.registered

instance (monitor : Monitor) (pid : UInt32) : Decidable (monitor.IsCandidate pid) :=
  inferInstanceAs (Decidable (_ ∨ _))

lemma watchOn_append (history : List Happening) (happening : Happening) :
    watchOn client running (history ++ [happening]) =
      (watchOn client running history).keepWatch happening := by
  rw [watchOn, List.foldl_append]
  rfl

lemma going_keepWatch {monitor : Monitor} (hstage : monitor.stage = .watching)
    (happening : Happening) :
    (monitor.keepWatch happening).stage = .watching ∧
      (monitor.keepWatch happening).announced = monitor.announced := by
  cases happening with
  | starts pid =>
    simp only [keepWatch, step]
    split_ifs
    · exact ⟨hstage, rfl⟩
    · exact ⟨hstage, rfl⟩
  | _ => simp [keepWatch, step, hstage]

lemma going_watchOn (client : Option UInt32) (running : List UInt32)
    (history : List Happening) :
    (watchOn client running history).stage = .watching ∧
      (watchOn client running history).announced = 0 := by
  induction history using List.reverseRecOn with
  | nil => exact ⟨rfl, rfl⟩
  | append_singleton past happening ih =>
    obtain ⟨hstage, hannounced⟩ := going_keepWatch ih.1 happening
    rw [watchOn_append]
    exact ⟨hstage, hannounced.trans ih.2⟩

lemma isRunning_keepWatch (monitor : Monitor) (happening : Happening) (pid : UInt32) :
    (monitor.keepWatch happening).isRunning pid =
      happening.runsAfter pid (monitor.isRunning pid) := by
  cases happening with
  | register other =>
    simp only [keepWatch, step, Happening.runsAfter]
    split_ifs
    · rfl
    · rfl
  | exits other =>
    rw [Bool.eq_iff_iff]
    simp [keepWatch, step, isRunning, Happening.runsAfter, ne_comm]
  | starts other =>
    simp only [keepWatch, step]
    split_ifs with hother
    · by_cases heq : other = pid
      · subst heq
        simp [Happening.runsAfter, hother]
      · simp [Happening.runsAfter, heq]
    · rw [Bool.eq_iff_iff]
      simp [isRunning, Happening.runsAfter, or_comm, eq_comm (a := pid)]
  | tick => rfl
  | announce =>
    simp only [keepWatch, step]
    split_ifs
    · rfl
    · rfl
  | close =>
    simp only [keepWatch, step]
    split_ifs
    · rfl
    · rfl

lemma isRunning_watchOn (history : List Happening) (pid : UInt32) :
    (watchOn client running history).isRunning pid =
      history.foldl (Happening.runsAfter pid) (running.contains pid) := by
  induction history using List.reverseRecOn with
  | nil => rfl
  | append_singleton past happening ih =>
    rw [watchOn_append, isRunning_keepWatch, ih, List.foldl_append]
    rfl

lemma mem_foldl_enter (watched : List UInt32) (registered : List UInt32) (pid : UInt32) :
    pid ∈ registered.foldl Watch.enter watched ↔ pid ∈ watched ∨ pid ∈ registered := by
  induction registered generalizing watched with
  | nil => simp
  | cons first rest ih =>
    rw [List.foldl_cons, ih, List.mem_cons, ← or_assoc]
    refine or_congr_left ?_
    rw [Watch.enter]
    split_ifs with hfirst
    · have hmem : first ∈ watched := by simpa using hfirst
      exact ⟨.inl, fun h => h.elim id fun heq => heq ▸ hmem⟩
    · simp

lemma mem_watched_tick (monitor : Monitor) (pid : UInt32) :
    pid ∈ (monitor.watch.tick monitor.isRunning).2.watched ↔
      monitor.IsCandidate pid ∧ monitor.isRunning pid = true := by
  rw [Watch.tick, List.mem_filter, mem_foldl_enter]
  rfl

lemma isCandidate_keepWatch_tick (monitor : Monitor) (pid : UInt32) :
    (monitor.keepWatch .tick).IsCandidate pid ↔
      monitor.IsCandidate pid ∧ monitor.isRunning pid = true := by
  rw [← mem_watched_tick]
  exact or_iff_left (List.not_mem_nil)

lemma isCandidate_keepWatch_of_ne {monitor : Monitor} {happening : Happening}
    (hstage : monitor.stage = .watching) (h : happening ≠ .tick) (pid : UInt32) :
    (monitor.keepWatch happening).IsCandidate pid ↔
      monitor.IsCandidate pid ∨ happening = .register pid := by
  cases happening with
  | register other =>
    simp [keepWatch, step, hstage, IsCandidate, Watch.register, or_assoc, eq_comm]
  | exits other => simp [keepWatch, step, IsCandidate]
  | starts other =>
    simp only [keepWatch, step]
    split_ifs
    · simp
    · simp [IsCandidate]
  | tick => exact absurd rfl h
  | announce | close => simp [keepWatch, step, hstage]

/-! ### Who is watched -/

lemma runsAt_count (client : Option UInt32) (running : List UInt32) (past : List Happening)
    (pid : UInt32) :
    Happening.runsAt running past pid (past.count .tick) =
      (watchOn client running past).isRunning pid := by
  rw [Happening.runsAt, Happening.untilTick_count, isRunning_watchOn]

/-- Before each tick those come into question who were registered in some round and were running at
every tick since. -/
lemma isCandidate_watchOn (past : List Happening) (pid : UInt32) :
    (watchOn client running past).IsCandidate pid ↔
      ∃ j ≤ past.count .tick, Happening.RegisteredIn client past pid j ∧
        ∀ i, j ≤ i → i < past.count .tick → Happening.runsAt running past pid i = true := by
  induction past using List.reverseRecOn with
  | nil =>
    simp [watchOn, IsCandidate, start, Watch.start, Happening.RegisteredIn,
      Happening.roundBefore]
  | append_singleton past happening ih =>
    have hcount : (past ++ [happening]).count .tick =
        past.count .tick + if happening = .tick then 1 else 0 := by
      rw [List.count_append, List.count_singleton]
      simp
    by_cases htick : happening = .tick
    · subst htick
      rw [watchOn_append, isCandidate_keepWatch_tick, ih, hcount, if_pos rfl,
        ← runsAt_count]
      constructor
      · rintro ⟨⟨j, hj, hregistered, hruns⟩, hnow⟩
        refine ⟨j, by omega, Happening.registeredIn_append_tick.2 hregistered, fun i hji hi => ?_⟩
        rw [Happening.runsAt_append_tick (by omega)]
        obtain hbefore | rfl := Nat.lt_succ_iff_lt_or_eq.1 hi
        · exact hruns i hji hbefore
        · exact hnow
      · rintro ⟨j, hj, hregistered, hruns⟩
        have hround : j ≠ past.count .tick + 1 := fun heq =>
          Happening.not_registeredIn_append_tick (heq ▸ hregistered)
        have hsince : ∀ i, j ≤ i → i ≤ past.count .tick →
            Happening.runsAt running past pid i = true := by
          intro i hji hi
          rw [← Happening.runsAt_append_tick hi]
          exact hruns i hji (by omega)
        exact ⟨⟨j, by omega, Happening.registeredIn_append_tick.1 hregistered,
          fun i hji hi => hsince i hji (Nat.le_of_lt hi)⟩, hsince _ (by omega) (Nat.le_refl _)⟩
    · rw [watchOn_append, isCandidate_keepWatch_of_ne (going_watchOn _ _ past).1 htick, ih, hcount,
        if_neg htick, Nat.add_zero]
      constructor
      · rintro (⟨j, hj, hregistered, hruns⟩ | hregister)
        · refine ⟨j, hj, (Happening.registeredIn_append_of_ne htick).2 (.inl hregistered),
            fun i hji hi => ?_⟩
          rw [Happening.runsAt_append hi]
          exact hruns i hji hi
        · exact ⟨past.count .tick, Nat.le_refl _,
            (Happening.registeredIn_append_of_ne htick).2 (.inr ⟨rfl, hregister⟩),
            fun i hji hi => absurd hi (by omega)⟩
      · rintro ⟨j, hj, hregistered, hruns⟩
        obtain hbefore | ⟨-, hregister⟩ :=
          (Happening.registeredIn_append_of_ne htick).1 hregistered
        · refine .inl ⟨j, hj, hbefore, fun i hji hi => ?_⟩
          rw [← Happening.runsAt_append hi]
          exact hruns i hji hi
        · exact .inr hregister

lemma mem_watched_tick_watchOn (client : Option UInt32) (running : List UInt32)
    (past : List Happening) (pid : UInt32) :
    let monitor := watchOn client running past
    pid ∈ (monitor.watch.tick monitor.isRunning).2.watched ↔
      ∃ j ≤ past.count .tick, Happening.RegisteredIn client past pid j ∧
        ∀ i, j ≤ i → i ≤ past.count .tick → Happening.runsAt running past pid i = true := by
  intro monitor
  rw [mem_watched_tick, isCandidate_watchOn, ← runsAt_count]
  constructor
  · rintro ⟨⟨j, hj, hregistered, hruns⟩, hnow⟩
    refine ⟨j, hj, hregistered, fun i hji hi => ?_⟩
    obtain hbefore | rfl := Nat.lt_or_eq_of_le hi
    · exact hruns i hji hbefore
    · exact hnow
  · rintro ⟨j, hj, hregistered, hruns⟩
    exact ⟨⟨j, hj, hregistered, fun i hji hi => hruns i hji (Nat.le_of_lt hi)⟩,
      hruns _ hj (Nat.le_refl _)⟩

/-! ### The end of the watch -/

lemma exists_prefix_append_iff {P : List Happening → Prop} {history : List Happening}
    {happening sought : Happening} :
    (∃ past, past ++ [sought] <+: history ++ [happening] ∧ P past) ↔
      (∃ past, past ++ [sought] <+: history ∧ P past) ∨ happening = sought ∧ P history := by
  constructor
  · rintro ⟨past, hpast, hholds⟩
    obtain heq | hbefore := List.prefix_concat_iff.1 hpast
    · obtain ⟨rfl, hhappening⟩ := List.append_inj' heq rfl
      exact .inr ⟨(List.singleton_inj.1 hhappening).symm, hholds⟩
    · exact .inl ⟨past, hbefore, hholds⟩
  · rintro (⟨past, hpast, hholds⟩ | ⟨rfl, hholds⟩)
    · exact ⟨past, hpast.trans (List.prefix_append _ _), hholds⟩
    · exact ⟨history, List.prefix_rfl, hholds⟩

/-- Whether some tick of a history leaves nobody to watch. -/
def Deserts (client : Option UInt32) (running : List UInt32) (history : List Happening) : Prop :=
  ∃ past, past ++ [.tick] <+: history ∧
    (watchOn client running (past ++ [.tick])).watch.watched = []

lemma deserts_append {history : List Happening} {happening : Happening} :
    Deserts client running (history ++ [happening]) ↔ Deserts client running history ∨
      happening = .tick ∧ (watchOn client running (history ++ [.tick])).watch.watched = [] :=
  exists_prefix_append_iff

lemma run_append (monitor : Monitor) (history : List Happening) (happening : Happening) :
    monitor.run (history ++ [happening]) = (monitor.run history).step happening := by
  rw [run, List.foldl_append]
  rfl

/-- Whether the end is announced in the course of a history: when that happens, some tick has left
nobody. -/
def Announces (client : Option UInt32) (running : List UInt32) (history : List Happening) : Prop :=
  ∃ past, past ++ [.announce] <+: history ∧ Deserts client running past

lemma announces_append {history : List Happening} {happening : Happening} :
    Announces client running (history ++ [happening]) ↔ Announces client running history ∨
      happening = .announce ∧ Deserts client running history :=
  exists_prefix_append_iff

lemma Announces.deserts {history : List Happening} (h : Announces client running history) :
    Deserts client running history := by
  obtain ⟨past, hpast, before, hbefore, hnobody⟩ := h
  exact ⟨before, hbefore.trans ((List.prefix_append _ _).trans hpast), hnobody⟩

/-- A monitor whose watch has come to its end, with or without its having been announced. -/
structure Ended (monitor : Monitor) (hasAnnounced : Prop) : Prop where
  nobody : monitor.watch.watched = []
  silent : ¬ hasAnnounced → monitor.stage = .deserted ∧ monitor.announced = 0
  once : hasAnnounced →
    (monitor.stage = .announced ∨ monitor.stage = .closed) ∧ monitor.announced = 1

lemma Ended.stage_ne {monitor : Monitor} {hasAnnounced : Prop} (h : monitor.Ended hasAnnounced) :
    monitor.stage ≠ .watching := by
  by_cases hannounced : hasAnnounced
  · obtain hstage | hstage := (h.once hannounced).1
    · simp [hstage]
    · simp [hstage]
  · simp [(h.silent hannounced).1]

lemma Ended.step {monitor : Monitor} {hasAnnounced : Prop} (h : monitor.Ended hasAnnounced)
    (happening : Happening) :
    (monitor.step happening).Ended (hasAnnounced ∨ happening = .announce) := by
  cases happening with
  | register pid =>
    simp only [Monitor.step]
    split_ifs
    · simpa using h
    · exact ⟨h.nobody, by simpa using h.silent, by simpa using h.once⟩
  | exits pid => exact ⟨h.nobody, by simpa [Monitor.step] using h.silent,
      by simpa [Monitor.step] using h.once⟩
  | starts pid =>
    simp only [Monitor.step]
    split_ifs
    · simpa using h
    · exact ⟨h.nobody, by simpa using h.silent, by simpa using h.once⟩
  | tick => simpa [Monitor.step, h.stage_ne] using h
  | announce =>
    by_cases hannounced : hasAnnounced
    · have hstage : monitor.stage ≠ .deserted := by
        obtain hstage | hstage := (h.once hannounced).1
        · simp [hstage]
        · simp [hstage]
      simpa [Monitor.step, hstage, hannounced] using h
    · obtain ⟨hstage, hzero⟩ := h.silent hannounced
      simp only [Monitor.step, hstage, if_true]
      exact ⟨h.nobody, by simp, fun _ => ⟨.inl rfl, by rw [hzero]⟩⟩
  | close =>
    simp only [Monitor.step]
    split_ifs with hstage
    · have hannounced : hasAnnounced := by
        by_contra hnot
        simp [(h.silent hnot).1] at hstage
      exact ⟨h.nobody, by simp [hannounced], fun _ => ⟨.inr rfl, (h.once hannounced).2⟩⟩
    · simpa using h

/-- A monitor that has ticks does what one does that has them for ever, unless this was the last
one. -/
lemma step_eq_keepWatch {monitor : Monitor} (hstage : monitor.stage = .watching)
    {happening : Happening}
    (hleft : happening = .tick → (monitor.keepWatch .tick).watch.watched ≠ []) :
    monitor.step happening = monitor.keepWatch happening := by
  cases happening with
  | tick =>
    have hanyLeft : (monitor.watch.tick monitor.isRunning).1 = true := by
      have hnonempty := hleft rfl
      rw [Watch.tick, Bool.not_eq_true', List.isEmpty_eq_false_iff]
      exact hnonempty
    simp [step, keepWatch, hstage, hanyLeft]
  | _ => rfl

lemma ended_step_tick {monitor : Monitor} (hstage : monitor.stage = .watching)
    (hzero : monitor.announced = 0) (hnobody : (monitor.keepWatch .tick).watch.watched = []) :
    (monitor.step .tick).Ended False := by
  have hnone : (monitor.watch.tick monitor.isRunning).1 = false := by
    rw [Watch.tick, Bool.not_eq_false', List.isEmpty_iff]
    exact hnobody
  simp only [step, hstage, if_true, hnone]
  exact ⟨hnobody, fun _ => ⟨rfl, hzero⟩, False.elim⟩

lemma run_of_deserts (client : Option UInt32) (running : List UInt32)
    (history : List Happening) :
    (¬ Deserts client running history →
      (start client running).run history = watchOn client running history) ∧
    (Deserts client running history →
      ((start client running).run history).Ended (Announces client running history)) := by
  induction history using List.reverseRecOn with
  | nil =>
    refine ⟨fun _ => rfl, ?_⟩
    rintro ⟨past, hpast, -⟩
    exact absurd hpast (by simp)
  | append_singleton past happening ih =>
    rw [deserts_append, run_append, announces_append]
    by_cases hbefore : Deserts client running past
    · refine ⟨fun h => absurd (.inl hbefore) h, fun _ => ?_⟩
      simpa [hbefore] using (ih.2 hbefore).step happening
    · obtain ⟨hstage, hzero⟩ := going_watchOn client running past
      rw [ih.1 hbefore, watchOn_append, watchOn_append]
      refine ⟨fun h => ?_, fun h => ?_⟩
      · refine step_eq_keepWatch hstage fun htick hnobody => ?_
        exact h (.inr ⟨htick, hnobody⟩)
      · obtain ⟨rfl, hnobody⟩ := h.resolve_left hbefore
        have hsilent : ¬ Announces client running past := fun h => hbefore h.deserts
        simpa [hsilent] using ended_step_tick hstage hzero hnobody

/-- After each tick, with `past` before it, those are watched who were registered in some round and
were running at every tick since, and the tick tells whether there is anyone. So nobody is lost who
was registered, and nobody is watched who was not running at a tick and has not been registered
again. Up to the first tick that leaves nobody the monitor watches whom one watches that goes on and
on. From that tick on it watches nobody, and the next time it gets to announce the end it does so,
once and for all. -/
theorem watched_iff_registered_and_running (client : Option UInt32) (running : List UInt32) :
    (∀ past pid,
      let monitor := watchOn client running past
      let ticked := monitor.watch.tick monitor.isRunning
      let last := past.count .tick
      (pid ∈ ticked.2.watched ↔ ∃ j ≤ last, Happening.RegisteredIn client past pid j ∧
        ∀ i, j ≤ i → i ≤ last → Happening.runsAt running past pid i = true) ∧
      (ticked.1 = true ↔ ticked.2.watched ≠ []) ∧
      (Happening.RegisteredIn client past pid last →
        Happening.runsAt running past pid last = true → pid ∈ ticked.2.watched) ∧
      ∀ i ≤ last, Happening.runsAt running past pid i = false →
        (∀ j, i < j → j ≤ last → ¬ Happening.RegisteredIn client past pid j) →
        pid ∉ ticked.2.watched) ∧
    ∀ history,
      (¬ Deserts client running history →
        ((start client running).run history).announced = 0 ∧
          ((start client running).run history).watch = (watchOn client running history).watch) ∧
      (Deserts client running history →
        ((start client running).run history).watch.watched = [] ∧
          ((start client running).run (history ++ [.announce])).announced = 1) ∧
      (Announces client running history →
        ((start client running).run history).announced = 1) ∧
      (¬ Announces client running history →
        ((start client running).run history).announced = 0) := by
  refine ⟨fun past pid => ?_, fun history => ?_⟩
  · intro monitor ticked last
    have hwatched := mem_watched_tick_watchOn client running past pid
    refine ⟨hwatched, ?_, fun hregistered hruns => ?_, fun i hi hgone hafter hwatch => ?_⟩
    · change (!ticked.2.watched.isEmpty) = true ↔ ticked.2.watched ≠ []
      rw [Bool.not_eq_true', List.isEmpty_eq_false_iff]
    · refine hwatched.2 ⟨last, Nat.le_refl _, hregistered, fun i hji hi => ?_⟩
      rwa [Nat.le_antisymm hi hji]
    · obtain ⟨j, hj, hregistered, hruns⟩ := hwatched.1 hwatch
      have hij : i < j := by
        by_contra hji
        have hrunning := hruns i (by omega) hi
        rw [hgone] at hrunning
        exact absurd hrunning (by decide)
      exact hafter j hij hj hregistered
  · obtain ⟨hgoing, hended⟩ := run_of_deserts client running history
    obtain ⟨-, hzero⟩ := going_watchOn client running history
    refine ⟨fun h => ?_, fun h => ⟨(hended h).nobody, ?_⟩, fun h => ((hended h.deserts).once h).2,
      fun h => ?_⟩
    · rw [hgoing h]
      exact ⟨hzero, rfl⟩
    · rw [run_append]
      exact (((hended h).step .announce).once (.inr rfl)).2
    · by_cases hdeserts : Deserts client running history
      · exact ((hended hdeserts).silent h).2
      · rw [hgoing hdeserts, hzero]

end Monitor

end ScriptAssist
