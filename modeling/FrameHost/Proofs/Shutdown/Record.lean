import FrameHost.Proofs.Shutdown.Run

/-! The record that a run keeps of each call.

The happenings of a call fall into two kinds: those of the stop of one frame, and its course, which
is all the rest. `Begun` reads the former off the call as it stands. -/

set_option autoImplicit false

namespace FrameHost.Shutdown

def Happening.stop? : Happening → Option (Nat × Nat)
  | .invoked k i _ | .returned k i _ _ | .panicked k i => some (k, i)
  | _ => none

def stopTrace (past : List Moment) (k i : Nat) : List Happening :=
  (trace past).filter fun h => h.stop? = some (k, i)

/-- The happenings of a call apart from stops. -/
def course (past : List Moment) (k : Nat) : List Happening :=
  (trace past).filter fun h => h.call? = some k ∧ h.stop? = none

def occurrences (past : List Moment) (e : Event) : List Moment :=
  past.filter fun m => m.event = e

/-- What a stop has left in the trace. -/
def Stop.history (k i deadline : Nat) (id : FrameId) : Stop → List Happening
  | .spawned => []
  | .invoked => [.invoked k i deadline]
  | .returned graceful => [.invoked k i deadline, .returned k i graceful id]
  | .panicked _ => [.invoked k i deadline, .panicked k i]

theorem Stop.history_of_ended {stop : Stop} (ended : stop.ended = true) (k i deadline : Nat)
    (id : FrameId) :
    ∃ ending, stop.history k i deadline id = [.invoked k i deadline, ending] ∧
      (ending = .panicked k i ∨ ∃ graceful, ending = .returned k i graceful id) := by
  cases stop with
  | returned graceful => exact ⟨_, rfl, .inr ⟨graceful, rfl⟩⟩
  | panicked message => exact ⟨_, rfl, .inl rfl⟩
  | spawned => cases ended
  | invoked => cases ended

section
variable {past : List Moment} {m : Moment} {k i : Nat} {e : Event}

theorem stopTrace_concat :
    stopTrace (past ++ [m]) k i =
      stopTrace past k i ++ m.happenings.filter fun h => h.stop? = some (k, i) := by
  simp [stopTrace]

theorem course_concat :
    course (past ++ [m]) k =
      course past k ++ m.happenings.filter fun h => h.call? = some k ∧ h.stop? = none := by
  simp [course]

theorem occurrences_concat :
    occurrences (past ++ [m]) e = occurrences past e ++ if m.event = e then [m] else [] := by
  by_cases same : m.event = e <;> simp [occurrences, same]

theorem call?_of_stop? {h : Happening} (stop : h.stop? = some (k, i)) : h.call? = some k := by
  cases h <;> simp_all [Happening.stop?, Happening.call?]

theorem stopTrace_left (quiet : ∀ h ∈ m.happenings, h.call? ≠ some k) :
    stopTrace (past ++ [m]) k i = stopTrace past k i := by
  rw [stopTrace_concat, List.append_right_eq_self]
  refine List.filter_eq_nil_iff.mpr fun h member => ?_
  simpa using fun stop => quiet h member (call?_of_stop? stop)

theorem stopTrace_course (plain : ∀ h ∈ m.happenings, h.stop? = none) :
    stopTrace (past ++ [m]) k i = stopTrace past k i := by
  rw [stopTrace_concat, List.append_right_eq_self]
  exact List.filter_eq_nil_iff.mpr fun h member => by simp [plain h member]

theorem course_left (quiet : ∀ h ∈ m.happenings, h.call? ≠ some k) :
    course (past ++ [m]) k = course past k := by
  rw [course_concat, List.append_right_eq_self]
  exact List.filter_eq_nil_iff.mpr fun h member => by simp [quiet h member]

theorem occurrences_left (other : m.event ≠ e) :
    occurrences (past ++ [m]) e = occurrences past e := by
  simp [occurrences_concat, other]

theorem mem_of_occurrences (found : occurrences past e = [m]) : m ∈ past ∧ m.event = e := by
  have member : m ∈ occurrences past e := by simp [found]
  simpa [occurrences] using member

end

section
variable {registry : Registry} {finalizer : Option Nat} {k i deadline : Nat} {c c' : Call} {e : Event}
  {stop next : Stop} {h : Happening} {happenings : List Happening}

theorem Stop.Move.stop? (move : stop.Move registry k i deadline e next h) :
    h.stop? = some (k, i) := by
  cases move <;> rfl

theorem Stop.Move.pending (move : stop.Move registry k i deadline e next h) :
    stop.ended = false ∧ stop.clean = true := by
  cases move <;> exact ⟨rfl, rfl⟩

theorem Stop.Move.event_ne (move : stop.Move registry k i deadline e next h) :
    e ≠ .acquire k ∧ e ≠ .passBarrier k := by
  cases move <;> exact ⟨nofun, nofun⟩

theorem Stop.Move.history (move : stop.Move registry k i deadline e next h) {id : FrameId}
    (registered : registry.frames[i]? = some id) :
    next.history k i deadline id = stop.history k i deadline id ++ [h] := by
  cases move with
  | finish found =>
    cases Option.some.inj (found.symm.trans registered)
    rfl
  | _ => rfl

theorem stop?_of_mem_failures {stops : List Stop} (failed : h ∈ Controller.failures k stops) :
    h.stop? = none := by
  obtain ⟨i, message, -, rfl⟩ := mem_failures.mp failed
  rfl

/-- A step of a call that has begun moves one stop on, or leaves all stops alone. -/
theorem Call.Step.stop_cases (step : c.Step registry finalizer k e c' happenings)
    (begun : c.phase ≠ .queued) :
    (c'.stops = c.stops ∧ c'.phase ≠ .queued ∧ c'.token.deadline = c.token.deadline ∧
      e ≠ .acquire k ∧ ∀ h ∈ happenings, h.stop? = none) ∨
    ∃ i stop next h, c.stops[i]? = some stop ∧ stop.Move registry k i c.token.deadline e next h ∧
      c' = { c with stops := c.stops.set i next, graceful := c.graceful && next.clean } ∧
      happenings = [h] := by
  cases step with
  | acquire queued => exact (begun queued).elim
  | withdraw queued => exact (begun queued).elim
  | leave => exact .inl ⟨rfl, nofun, rfl, nofun, List.forall_mem_singleton.mpr rfl⟩
  | @close next closing =>
    cases next <;> exact .inl ⟨rfl, nofun, rfl, nofun, List.forall_mem_singleton.mpr rfl⟩
  | work work =>
    cases work with
    | stop found move => exact .inr ⟨_, _, _, _, found, move, rfl, rfl⟩
    | finalize =>
      refine .inl ⟨rfl, nofun, rfl, nofun, fun h member => ?_⟩
      rcases List.mem_append.mp member with failed | called
      · exact stop?_of_mem_failures failed
      · rw [List.mem_singleton.mp called]
        rfl
    | skip => exact .inl ⟨rfl, nofun, rfl, nofun, fun h => stop?_of_mem_failures⟩
    | endFinalizer => exact .inl ⟨rfl, nofun, rfl, nofun, List.forall_mem_singleton.mpr rfl⟩

end

theorem Call.Step.unbegun_cases {registry : Registry} {finalizer : Option Nat} {k : Nat} {c c' : Call}
    {e : Event} {happenings : List Happening} (step : c.Step registry finalizer k e c' happenings)
    (stops : c.stops = []) (outside : c.phase = .queued ∨ c.phase = .abandoned) :
    (e = .acquire k ∧ c' = c.begun registry.size ∧ happenings = [.began k registry.size c.timeout]) ∨
    (e = .abandon k ∧ c' = { c with phase := .abandoned } ∧ happenings = []) := by
  cases step with
  | acquire => exact .inl ⟨rfl, rfl, rfl⟩
  | withdraw => exact .inr ⟨rfl, rfl, rfl⟩
  | leave inside =>
    rcases outside with phase | phase <;> simp [phase] at inside
  | close closing =>
    rcases outside with phase | phase <;> simp [phase] at closing
  | work work =>
    cases work with
    | stop found => simp [stops] at found
    | finalize inside => rcases outside with phase | phase <;> simp [phase] at inside
    | skip inside => rcases outside with phase | phase <;> simp [phase] at inside
    | endFinalizer inside => rcases outside with phase | phase <;> simp [phase] at inside

/-- What a run says of the beginning of a call and of its stops. -/
inductive Begun (past : List Moment) (k : Nat) (c : Call) : Prop where
  | never (unbegun : occurrences past (.acquire k) = []) (stops : c.stops = [])
      (outside : c.phase = .queued ∨ c.phase = .abandoned)
      (quiet : ∀ h ∈ trace past, h.call? ≠ some k)
  | once {m : Moment} (begun : occurrences past (.acquire k) = [m])
      (size : c.stops.length = m.registry.size) (inside : c.phase ≠ .queued)
      (stops : ∀ i id, m.registry.frames[i]? = some id →
        ∃ stop, c.stops[i]? = some stop ∧
          stopTrace past k i = stop.history k i c.token.deadline id)
      (others : ∀ i, m.registry.size ≤ i → stopTrace past k i = [])

theorem stopTrace_quiet {past : List Moment} {k : Nat} (quiet : ∀ h ∈ trace past, h.call? ≠ some k)
    (i : Nat) : stopTrace past k i = [] := by
  refine List.filter_eq_nil_iff.mpr fun h member => ?_
  simpa using fun stop => quiet h member (call?_of_stop? stop)

theorem Begun.acquire {past : List Moment} {m : Moment} {k : Nat} {c : Call}
    (event : m.event = .acquire k)
    (happenings : m.happenings = [.began k m.registry.size c.timeout])
    (unbegun : occurrences past (.acquire k) = []) (quiet : ∀ h ∈ trace past, h.call? ≠ some k) :
    Begun (past ++ [m]) k (c.begun m.registry.size) := by
  have silent (i : Nat) : stopTrace (past ++ [m]) k i = [] := by
    rw [stopTrace_course (by simp [happenings, Happening.stop?])]
    exact stopTrace_quiet quiet i
  refine .once (m := m) ?_ ?_ nofun (fun i id found => ⟨.spawned, ?_, silent i⟩) fun i _ => silent i
  · simp [occurrences_concat, event, unbegun]
  · simp [Call.begun]
  · have bound : i < m.registry.size := (List.getElem?_eq_some_iff.mp found).1
    simp [Call.begun, bound]

theorem Begun.worked {past : List Moment} {registry : Registry} {clock : Clock} {before : Controller}
    {e : Event} {happenings : List Happening} {k : Nat} {c c' : Call}
    (begun : Begun past k c) (later : ∀ m ∈ past, m.registry.frames <+: registry.frames)
    (step : c.Step registry before.finalizer k e c' happenings) :
    Begun (past ++ [⟨registry, clock, before, e, happenings⟩]) k c' := by
  cases begun with
  | never unbegun stops outside quiet =>
    rcases step.unbegun_cases stops outside with ⟨rfl, rfl, rfl⟩ | ⟨rfl, rfl, rfl⟩
    · exact .acquire rfl rfl unbegun quiet
    · refine .never ?_ stops (.inr rfl) (by simpa using quiet)
      rw [occurrences_left (by simp), unbegun]
  | @once first begun size inside stops others =>
    rcases step.stop_cases inside with ⟨same, still, kept, other, plain⟩ |
        ⟨j, stop, next, h, found, move, rfl, rfl⟩
    · refine .once (m := first) ?_ (by rw [same, size]) still (fun i id found => ?_) fun i bound => ?_
      · rw [occurrences_left other, begun]
      · rw [stopTrace_course plain, same, kept]
        exact stops i id found
      · rw [stopTrace_course plain, others i bound]
    · -- The registry may have grown since the sequence began, but its first frames are the same.
      obtain ⟨added, grown⟩ := later first (mem_of_occurrences begun).1
      -- A move of one stop leaves the traces of all others alone.
      have apart {i : Nat} (ne : i ≠ j) :
          stopTrace (past ++ [⟨registry, clock, before, e, [h]⟩]) k i = stopTrace past k i := by
        simp [stopTrace_concat, move.stop?, ne.symm]
      refine .once (m := first) ?_ (by simpa using size) inside (fun i id registered => ?_)
        fun i bound => ?_
      · rw [occurrences_left move.event_ne.1, begun]
      · obtain ⟨stop', found', before⟩ := stops i id registered
        by_cases same : i = j
        · subst same
          cases Option.some.inj (found.symm.trans found')
          have bound := (List.getElem?_eq_some_iff.mp found).1
          refine ⟨next, by simp [bound], ?_⟩
          have still : registry.frames[i]? = some id := by
            rw [← grown, List.getElem?_append_left (List.getElem?_eq_some_iff.mp registered).1,
              registered]
          simp [stopTrace_concat, move.stop?, before, move.history still]
        · exact ⟨stop', by simp [Ne.symm same, found'], (apart same).trans before⟩
      · have ne : i ≠ j := by
          rintro rfl
          have := (List.getElem?_eq_some_iff.mp found).1
          omega
        rw [apart ne, others i bound]

theorem Controller.Run.begun {start s : Controller} {past : List Moment}
    (run : Controller.Run start past s) (unused : start.calls = []) :
    ∀ k c, s.call? k = some c → Begun past k c := by
  refine Controller.Run.calls unused ?_ ?_ ?_ run
  · intro past m timeout deadline event none _ fresh quiet
    refine .never ?_ rfl (.inl rfl) (by simpa [none] using quiet)
    rw [occurrences_left (by simp [event])]
    refine List.filter_eq_nil_iff.mpr fun m' member => ?_
    simpa using fun same => fresh m' member (by rw [same]; rfl)
  · intro past m k c begun other quiet
    have kept : occurrences (past ++ [m]) (.acquire k) = occurrences past (.acquire k) :=
      occurrences_left fun same => other (by rw [same]; rfl)
    cases begun with
    | never unbegun stops outside silent =>
      refine .never (by rw [kept, unbegun]) stops outside fun h member => ?_
      rcases List.mem_append.mp (trace_concat past m ▸ member) with before | now
      · exact silent h before
      · exact quiet h now
    | once begun size inside stops others =>
      refine .once (by rw [kept, begun]) size inside (fun i id found => ?_) fun i bound => ?_
      · rw [stopTrace_left quiet]
        exact stops i id found
      · rw [stopTrace_left quiet, others i bound]
  · exact fun _ _ _ _ _ _ _ _ _ begun later step => begun.worked later step

end FrameHost.Shutdown
