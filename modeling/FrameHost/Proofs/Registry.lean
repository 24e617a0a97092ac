import FrameHost.Registry

/-! Calls to a registry by any number of callers, in the order in which they get its lock.

A registry only grows, by frames with a name whose keys are free. Hence a key stands for one frame and
keeps standing for it. -/

set_option autoImplicit false

namespace FrameHost.Registry

inductive Call where
  | register (id : FrameId)
  | tryRegister (id : FrameId)
  | list
  | lookup (name : String) (version : Option String)
  | size
  deriving DecidableEq

inductive Answer where
  | accepted
  | refused (error : RegistrationError)
  | panicked (message : String)
  | listed (frames : List FrameId)
  | found (frame : Option FrameId)
  | size (n : Nat)
  deriving DecidableEq

/-- What a call does under the lock. A refusal is fatal to the caller of `register`. -/
def perform (r : Registry) : Call → Registry × Answer
  | .register id =>
    match r.tryRegister id with
    | .ok r' => (r', .accepted)
    | .error e => (r, .panicked e.message)
  | .tryRegister id =>
    match r.tryRegister id with
    | .ok r' => (r', .accepted)
    | .error e => (r, .refused e)
  | .list => (r, .listed r.frames)
  | .lookup name version => (r, .found (r.lookup name version))
  | .size => (r, .size r.size)

def answersTo (r : Registry) : List Call → List Answer
  | [] => []
  | call :: rest => (r.perform call).2 :: (r.perform call).1.answersTo rest

def performAll (r : Registry) (calls : List Call) : Registry :=
  calls.foldl (fun r call => (r.perform call).1) r

def after (calls : List Call) : Registry := ({} : Registry).performAll calls

def answer (calls : List Call) (call : Call) : Answer := ((after calls).perform call).2

def Call.frame? : Call → Option FrameId
  | .register id | .tryRegister id => some id
  | _ => none

/-- The frames of the calls that are accepted, in the order of these calls. -/
def enrolled (r : Registry) (calls : List Call) : List FrameId :=
  (calls.zip (r.answersTo calls)).filterMap fun (call, answer) =>
    if answer = .accepted then call.frame? else none

def Call.rejection (e : RegistrationError) : Call → Answer
  | .register _ => .panicked e.message
  | _ => .refused e

/-- Why a frame is refused: a missing name comes before a key that is taken. -/
def rejectionOf (id : FrameId) : RegistrationError :=
  if id.name = "" then .emptyName else .duplicate id.key

/-- What holds of a registry however it came about. -/
structure Valid (r : Registry) : Prop where
  named : ∀ id ∈ r.frames, id.name ≠ ""
  distinct : r.keys.Nodup

variable {r r' : Registry} {id : FrameId} {call : Call} {name : String} {version : Option String}

theorem tryRegister_eq_error_iff {e : RegistrationError} :
    r.tryRegister id = .error e ↔ (id.name = "" ∨ id.key ∈ r.keys) ∧ e = rejectionOf id := by
  unfold tryRegister rejectionOf
  by_cases unnamed : id.name = ""
  · simp [unnamed, eq_comm]
  · by_cases taken : id.key ∈ r.keys
    · simp [unnamed, taken, eq_comm]
    · simp [unnamed, taken]

theorem perform_of_ok (accepted : r.tryRegister id = .ok r') :
    r.perform (.register id) = (r', .accepted) ∧ r.perform (.tryRegister id) = (r', .accepted) := by
  simp [perform, accepted]

theorem perform_of_error {e : RegistrationError} (refused : r.tryRegister id = .error e) :
    r.perform (.register id) = (r, .panicked e.message) ∧ r.perform (.tryRegister id) = (r, .refused e) := by
  simp [perform, refused]

theorem performAll_singleton (r : Registry) (call : Call) : r.performAll [call] = (r.perform call).1 := rfl

theorem performAll_cons (r : Registry) (call : Call) (rest : List Call) :
    r.performAll (call :: rest) = (r.perform call).1.performAll rest := rfl

theorem answersTo_singleton (r : Registry) (call : Call) : r.answersTo [call] = [(r.perform call).2] := rfl

theorem Valid.tryRegister (valid : r.Valid) (accepted : r.tryRegister id = .ok r') : r'.Valid := by
  obtain ⟨named, fresh, rfl⟩ := (tryRegister_eq_ok_iff r r' id).mp accepted
  constructor
  · intro other member
    rcases List.mem_append.mp member with old | new
    · exact valid.named other old
    · rw [List.mem_singleton.mp new]
      exact named
  · have keys : (⟨r.frames ++ [id]⟩ : Registry).keys = r.keys ++ [id.key] := by simp [Registry.keys]
    rw [keys, List.nodup_append]
    refine ⟨valid.distinct, List.nodup_cons.mpr ⟨List.not_mem_nil, List.nodup_nil⟩, ?_⟩
    intro key old other new same
    rw [List.mem_singleton.mp new] at same
    exact fresh (same ▸ old)

/-- A call registers its frame, or is refused and leaves the registry alone, or only reads. -/
theorem perform_cases (r : Registry) (call : Call) :
    (∃ id, call.frame? = some id ∧ r.tryRegister id = .ok ⟨r.frames ++ [id]⟩ ∧
      r.perform call = (⟨r.frames ++ [id]⟩, .accepted)) ∨
    (∃ id, call.frame? = some id ∧ r.tryRegister id = .error (rejectionOf id) ∧
      r.perform call = (r, call.rejection (rejectionOf id))) ∨
    call.frame? = none ∧ (r.perform call).1 = r := by
  have attempt (id : FrameId) : r.tryRegister id = .ok ⟨r.frames ++ [id]⟩ ∨
      r.tryRegister id = .error (rejectionOf id) := by
    cases tried : r.tryRegister id with
    | ok r' =>
      obtain ⟨-, -, rfl⟩ := (tryRegister_eq_ok_iff r r' id).mp tried
      exact .inl rfl
    | error e =>
      obtain ⟨-, rfl⟩ := tryRegister_eq_error_iff.mp tried
      exact .inr rfl
  cases call with
  | register id =>
    rcases attempt id with accepted | refused
    · exact .inl ⟨id, rfl, accepted, (perform_of_ok accepted).1⟩
    · exact .inr (.inl ⟨id, rfl, refused, (perform_of_error refused).1⟩)
  | tryRegister id =>
    rcases attempt id with accepted | refused
    · exact .inl ⟨id, rfl, accepted, (perform_of_ok accepted).2⟩
    · exact .inr (.inl ⟨id, rfl, refused, (perform_of_error refused).2⟩)
  | _ => exact .inr (.inr ⟨rfl, rfl⟩)

theorem Valid.perform (valid : r.Valid) (call : Call) : (r.perform call).1.Valid := by
  rcases perform_cases r call with ⟨id, -, accepted, performed⟩ | ⟨id, -, -, performed⟩ | ⟨-, same⟩
  · rw [performed]
    exact valid.tryRegister accepted
  · rw [performed]
    exact valid
  · rw [same]
    exact valid

theorem perform_grows (r : Registry) (call : Call) : r.frames <+: (r.perform call).1.frames := by
  rcases perform_cases r call with ⟨id, -, -, performed⟩ | ⟨id, -, -, performed⟩ | ⟨-, same⟩
  · simp [performed]
  · simp [performed]
  · simp [same]

theorem after_concat (calls : List Call) (call : Call) :
    after (calls ++ [call]) = ((after calls).perform call).1 := by
  simp [after, performAll]

theorem after_valid (calls : List Call) : (after calls).Valid := by
  suffices kept : ∀ r : Registry, r.Valid → (r.performAll calls).Valid from
    kept {} ⟨fun _ member => (List.not_mem_nil member).elim, List.nodup_nil⟩
  induction calls with
  | nil => exact fun r valid => valid
  | cons call rest ih => exact fun r valid => ih _ (valid.perform call)

theorem after_grows (calls later : List Call) :
    (after calls).frames <+: (after (calls ++ later)).frames := by
  induction later generalizing calls with
  | nil => simp
  | cons call rest ih =>
    have next := ih (calls ++ [call])
    rw [List.append_assoc, List.singleton_append] at next
    rw [after_concat] at next
    exact (perform_grows _ call).trans next

theorem Call.rejection_ne_accepted (e : RegistrationError) (call : Call) :
    call.rejection e ≠ .accepted := by
  cases call <;> nofun

theorem enrolled_cons (r : Registry) (call : Call) (rest : List Call) :
    r.enrolled (call :: rest) =
      (if (r.perform call).2 = .accepted then call.frame?.toList else []) ++ (r.perform call).1.enrolled rest := by
  simp only [enrolled, answersTo, List.zip_cons_cons, List.filterMap_cons]
  by_cases accepted : (r.perform call).2 = .accepted
  · cases call.frame? <;> simp [accepted]
  · simp [accepted]

/-- Calls add the frames that they have accepted, and no others. -/
theorem frames_performAll (r : Registry) (calls : List Call) :
    (r.performAll calls).frames = r.frames ++ r.enrolled calls := by
  induction calls generalizing r with
  | nil => exact (List.append_nil _).symm
  | cons call rest ih =>
    have later : (r.performAll (call :: rest)).frames = _ := ih (r.perform call).1
    rw [later, enrolled_cons]
    rcases perform_cases r call with ⟨id, wanted, -, performed⟩ | ⟨id, -, -, performed⟩ | ⟨none, same⟩
    · simp [performed, wanted]
    · simp [performed, Call.rejection_ne_accepted]
    · simp [same, none]

theorem Valid.place_unique (valid : r.Valid) {i j : Nat} {a b : FrameId} (first : r.frames[i]? = some a)
    (second : r.frames[j]? = some b) (same : a.key = b.key) : i = j := by
  have bound : i < r.keys.length := by
    rw [keys, List.length_map]
    exact (List.getElem?_eq_some_iff.mp first).1
  have equal : r.keys[i]? = r.keys[j]? := by simp [keys, first, second, same]
  exact (List.getElem?_inj bound valid.distinct).mp equal

theorem Valid.lookup_iff (valid : r.Valid) :
    r.lookup name version = some id ↔ id ∈ r.frames ∧ id.key = keyFor name version := by
  constructor
  · intro found
    exact ⟨List.mem_of_find?_eq_some found, by simpa using List.find?_some found⟩
  · rintro ⟨member, key⟩
    cases found : r.lookup name version with
    | none =>
      have absent := List.find?_eq_none.mp found id member
      simp [key] at absent
    | some other =>
      obtain ⟨j, second⟩ := List.mem_iff_getElem?.mp (List.mem_of_find?_eq_some found)
      obtain ⟨i, first⟩ := List.mem_iff_getElem?.mp member
      -- The frame found first has the same key, so it stands in the same place.
      have otherKey : other.key = keyFor name version := by simpa using List.find?_some found
      have place := valid.place_unique first second (key.trans otherKey.symm)
      rw [place] at first
      exact second.symm.trans first

/-- The rules that calls to a registry obey, whatever was called before. -/
structure Lawful (calls : List Call) : Prop where
  /-- All frames have names, and keys that differ. -/
  valid : (after calls).Valid
  /-- A frame is accepted exactly if it has a name and its key is free. -/
  accepted : ∀ call id, call.frame? = some id → (answer calls call = .accepted ↔
    id.name ≠ "" ∧ ∀ other ∈ (after calls).frames, other.key ≠ id.key)
  /-- An accepted frame is added at the end, and nothing else changes. -/
  added : ∀ call id, call.frame? = some id → answer calls call = .accepted →
    (after (calls ++ [call])).frames = (after calls).frames ++ [id]
  /-- A refused frame leaves everything as it was, and its caller learns why. -/
  refused : ∀ call id, call.frame? = some id → answer calls call ≠ .accepted →
    after (calls ++ [call]) = after calls ∧ answer calls call = call.rejection (rejectionOf id)
  /-- Other calls only read. -/
  read : ∀ call, call.frame? = none → after (calls ++ [call]) = after calls
  /-- A list tells of all frames that were accepted, in the order in which they were. -/
  lists : answer calls .list = .listed (({} : Registry).enrolled calls)
  sizes : answer calls .size = .size (({} : Registry).enrolled calls).length
  frames : (after calls).frames = ({} : Registry).enrolled calls
  /-- What was listed once begins whatever is listed later. -/
  listed : ∀ later frames frames', answer calls .list = .listed frames →
    answer (calls ++ later) .list = .listed frames' → frames <+: frames'
  /-- A frame is found exactly if one has the key, and it is found where no other could be. -/
  found : ∀ name version, (∃ id, answer calls (.lookup name version) = .found (some id)) ↔
    ∃ id ∈ (after calls).frames, id.key = keyFor name version
  unique : ∀ name version id, answer calls (.lookup name version) = .found (some id) →
    ∃ place : Nat, (after calls).frames[place]? = some id ∧ id.key = keyFor name version ∧
      ∀ (place' : Nat) (other : FrameId), (after calls).frames[place']? = some other →
        other.key = keyFor name version → place' = place
  /-- What was found once is found ever after, in the same place. -/
  stays : ∀ name version id, answer calls (.lookup name version) = .found (some id) →
    ∀ later, answer (calls ++ later) (.lookup name version) = .found (some id) ∧
      ∀ place : Nat, (after calls).frames[place]? = some id →
        (after (calls ++ later)).frames[place]? = some id

theorem answer_registration (calls : List Call) (wanted : call.frame? = some id) :
    (answer calls call = .accepted ∧ (after calls).tryRegister id = .ok ⟨(after calls).frames ++ [id]⟩ ∧
      after (calls ++ [call]) = ⟨(after calls).frames ++ [id]⟩) ∨
    (answer calls call = call.rejection (rejectionOf id) ∧
      (after calls).tryRegister id = .error (rejectionOf id) ∧ after (calls ++ [call]) = after calls) := by
  rw [after_concat, answer]
  rcases perform_cases (after calls) call with ⟨id', same, accepted, performed⟩ |
      ⟨id', same, refused, performed⟩ | ⟨none, -⟩
  · cases wanted.symm.trans same
    exact .inl ⟨by rw [performed], accepted, by rw [performed]⟩
  · cases wanted.symm.trans same
    exact .inr ⟨by rw [performed], refused, by rw [performed]⟩
  · cases wanted.symm.trans none

theorem answer_eq_accepted_iff {calls : List Call} (wanted : call.frame? = some id) :
    answer calls call = .accepted ↔ id.name ≠ "" ∧ ∀ other ∈ (after calls).frames, other.key ≠ id.key := by
  have free : id.key ∉ (after calls).keys ↔ ∀ other ∈ (after calls).frames, other.key ≠ id.key := by
    simp [keys]
  rw [← free]
  rcases answer_registration calls wanted with ⟨accepted, tried, -⟩ | ⟨refused, tried, -⟩
  · obtain ⟨named, fresh, -⟩ := (tryRegister_eq_ok_iff _ _ _).mp tried
    exact iff_of_true accepted ⟨named, fresh⟩
  · obtain ⟨reason, -⟩ := tryRegister_eq_error_iff.mp tried
    refine iff_of_false (refused ▸ Call.rejection_ne_accepted _ _) ?_
    rintro ⟨named, fresh⟩
    rcases reason with unnamed | taken
    · exact named unnamed
    · exact fresh taken

theorem answer_lookup {calls : List Call} {frame : Option FrameId}
    (found : answer calls (.lookup name version) = .found frame) :
    (after calls).lookup name version = frame := by
  cases found
  rfl

/-- Any calls in any order obey the rules. -/
theorem lawful (calls : List Call) : Lawful calls := by
  have valid := after_valid calls
  have frames : (after calls).frames = ({} : Registry).enrolled calls := frames_performAll {} calls
  refine ⟨valid, fun call id wanted => answer_eq_accepted_iff wanted, fun call id wanted accepted => ?_,
    fun call id wanted unaccepted => ?_, fun call reads => ?_, ?_, ?_, frames,
    fun later frames frames' first second => ?_, fun name version => ?_, fun name version id found => ?_,
    fun name version id found later => ?_⟩
  · rcases answer_registration calls wanted with ⟨-, -, now⟩ | ⟨refused, -, -⟩
    · rw [now]
    · exact (Call.rejection_ne_accepted _ _ (refused.symm.trans accepted)).elim
  · rcases answer_registration calls wanted with ⟨accepted, -, -⟩ | ⟨refused, -, now⟩
    · exact (unaccepted accepted).elim
    · exact ⟨now, refused⟩
  · rw [after_concat]
    rcases perform_cases (after calls) call with ⟨id, wanted, -⟩ | ⟨id, wanted, -⟩ | ⟨-, same⟩
    · cases reads.symm.trans wanted
    · cases reads.symm.trans wanted
    · exact same
  · rw [← frames]
    rfl
  · rw [← frames]
    rfl
  · cases first
    cases second
    exact after_grows calls later
  · constructor
    · rintro ⟨id, found⟩
      exact ⟨id, valid.lookup_iff.mp (answer_lookup found)⟩
    · rintro ⟨id, registered⟩
      exact ⟨id, congrArg Answer.found (valid.lookup_iff.mpr registered)⟩
  · obtain ⟨member, key⟩ := valid.lookup_iff.mp (answer_lookup found)
    obtain ⟨place, first⟩ := List.mem_iff_getElem?.mp member
    exact ⟨place, first, key, fun place' other second otherKey =>
      valid.place_unique second first (otherKey.trans key.symm)⟩
  · have grown := after_grows calls later
    refine ⟨congrArg Answer.found (grown.find?_eq_some (answer_lookup found)), fun place here => ?_⟩
    obtain ⟨bound, same⟩ := List.getElem?_eq_some_iff.mp here
    exact (List.prefix_iff_getElem?.mp grown place bound).trans (congrArg some same)

end FrameHost.Registry
