import FrameHost.Service
import FrameHost.Proofs.Host.Run
import FrameHost.Proofs.Registry

/-! The registry of the running program.

Hosting the frames of a configuration is registering them one after another, where each refusal would
be fatal. None is refused if a caller that goes on after refusals would have met none. -/

set_option autoImplicit false

namespace FrameHost

namespace Registry

variable {r : Registry} {id : FrameId}

theorem perform_of_fresh (named : id.name ≠ "") (fresh : id.key ∉ r.keys) :
    r.perform (.register id) = (⟨r.frames ++ [id]⟩, .accepted) ∧
      r.perform (.tryRegister id) = (⟨r.frames ++ [id]⟩, .accepted) :=
  perform_of_ok ((tryRegister_eq_ok_iff r _ id).mpr ⟨named, fresh, rfl⟩)

theorem perform_of_refused (refused : id.name = "" ∨ id.key ∈ r.keys) :
    r.perform (.tryRegister id) = (r, .refused (rejectionOf id)) :=
  (perform_of_error (tryRegister_eq_error_iff.mpr ⟨refused, rfl⟩)).2

@[simp] theorem keys_concat (r : Registry) (id : FrameId) :
    (⟨r.frames ++ [id]⟩ : Registry).keys = r.keys ++ [id.key] := by
  simp [keys]

/-- Where every frame could be registered, none of the registrations that are fatal when refused is
refused, and the frames are added in their order. -/
theorem register_of_accepted (ids : List FrameId)
    (accepted : ∀ a ∈ r.answersTo (ids.map .tryRegister), a = .accepted) :
    (∀ a ∈ r.answersTo (ids.map .register), a = .accepted) ∧
      (r.performAll (ids.map .register)).frames = r.frames ++ ids := by
  induction ids generalizing r with
  | nil => exact ⟨fun a member => (List.not_mem_nil member).elim, (List.append_nil _).symm⟩
  | cons id rest ih =>
    have first : (r.perform (.tryRegister id)).2 = .accepted := accepted _ List.mem_cons_self
    have possible : ¬(id.name = "" ∨ id.key ∈ r.keys) := by
      intro refused
      rw [perform_of_refused refused] at first
      cases first
    obtain ⟨named, fresh⟩ := not_or.mp possible
    obtain ⟨registered, tried⟩ := perform_of_fresh named fresh
    have later : ∀ a ∈ Registry.answersTo ⟨r.frames ++ [id]⟩ (rest.map .tryRegister), a = .accepted := by
      intro a member
      refine accepted a (List.mem_cons_of_mem _ ?_)
      rw [tried]
      exact member
    obtain ⟨answers, frames⟩ := ih later
    constructor
    · intro a member
      simp only [List.map_cons, answersTo, registered, List.mem_cons] at member
      rcases member with rfl | member
      · rfl
      · exact answers a member
    · simp only [List.map_cons, performAll, List.foldl_cons, registered]
      exact frames.trans (by simp)

end Registry

namespace Host

def happen (h : Host) (e : Event) : Host := ((h.step e).map Prod.fst).getD h

theorem registry_happen_attempt (h : Host) (id : FrameId) :
    (h.happen (.registration (.attempt id))).registry = (h.registry.perform (.register id)).1 := by
  cases tried : h.registry.tryRegister id with
  | ok r =>
    have tried' : h.registrar.registry.tryRegister id = .ok r := tried
    simp [happen, step, stepParts, Registrar.step, tried', Registry.perform, registry]
  | error error =>
    have tried' : h.registrar.registry.tryRegister id = .error error := tried
    simp [happen, step, stepParts, Registrar.step, tried', Registry.perform, registry]

theorem registry_happen {e : Event} (other : ∀ id, e ≠ .registration (.attempt id)) (h : Host) :
    (h.happen e).registry = h.registry := by
  unfold happen
  cases stepped : h.step e with
  | none => rfl
  | some result =>
    obtain ⟨h', happenings⟩ := result
    obtain ⟨parts, metrics, moved, rfl⟩ := Parts.of_step stepped
    cases moved with
    | @registration e _ _ moved =>
      cases e with
      | attempt id => exact (other id rfl).elim
      | publish place =>
        obtain ⟨count, -, moved⟩ := Option.bind_eq_some_iff.mp moved
        cases moved
        rfl
    | _ => rfl

end Host

theorem Logged.host_steps (s : Logged) (time : String) (events : List Host.Event) :
    (s.steps time events).host = events.foldl Host.happen s.host := by
  induction events generalizing s with
  | nil => rfl
  | cons e rest ih =>
    have first : (s.steps time [e]).host = s.host.happen e := by
      cases stepped : s.host.step e <;> simp [steps, step, Host.happen, stepped]
    have whole : s.steps time (e :: rest) = (s.steps time [e]).steps time rest := rfl
    rw [whole, ih, first, List.foldl_cons]

namespace Service

theorem host_happen (s : Service) (time : String) (events : List Host.Event) :
    (s.happen time events).host = events.foldl Host.happen s.host :=
  Logged.host_steps s.logged time events

/-- Hosting the frames of a configuration is registering them one after another. -/
theorem registry_register (s : Service) (time : String) (entries : List Config.FrameEntry) :
    (s.register time entries).host.registry =
      s.host.registry.performAll (entries.map fun f => .register f.id) := by
  have finalizer (s : Service) : (s.happen time [.shutdown 0 (.setFinalizer 0)]).host.registry =
      s.host.registry := by
    rw [host_happen]
    exact Host.registry_happen (by simp) s.host
  unfold register
  rw [finalizer]
  induction entries generalizing s with
  | nil => rfl
  | cons entry rest ih =>
    rw [List.foldl_cons, ih, List.map_cons]
    have one : ({ s with frames := s.frames ++
          [({ id := entry.id, bindAddress := entry.bindAddress } : Http.Frame)] }.happen time
        [.registration (.attempt entry.id), .registration (.publish 0)]).host.registry =
        (s.host.registry.perform (.register entry.id)).1 := by
      rw [host_happen]
      simp only [List.foldl_cons, List.foldl_nil]
      rw [Host.registry_happen (by simp), Host.registry_happen_attempt]
      rfl
    rw [one]
    rfl

end Service

end FrameHost
