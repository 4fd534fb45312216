import Mathlib
import Testbed.Proofs.Presence

/-!
Clients that install objects in one cluster at the same time.

Each client makes its calls one after the other. The cluster answers one request at a time, of
any client, and between two of them as much time may pass as it likes, so a new type may take
any time to be served.
-/

namespace Testbed.Clients

open Rehearsal
open Install (Outcome)
open Naming (Names Accepted settle)

variable {ι τ : Type}

/-- A manifest that is accepted, with the object that it names. -/
structure Job where
  manifest : Manifest
  route : Route
  ns : Option String
  name : String
  accepted : Accepted manifest route ns name

namespace Job

def key (job : Job) : ObjectKey := Store.readKey job.route job.ns job.name

/-- The call that installs the object. -/
def call (job : Job) : Program τ Outcome := Install.ensure job.manifest.ref job.manifest.body

end Job

structure Client (τ : Type) where
  /-- The calls that have ended, and how. -/
  past : List (Job × Except (Failure τ) Outcome)
  /-- The call that is being made, as far as it is still to do. -/
  current : Option (Job × Program τ Outcome)
  todo : List Job

/-- An object was created for a call: the client and how many calls of it had ended before. -/
structure Creation (ι : Type) where
  client : ι
  number : Nat
  key : ObjectKey

structure System (ι τ : Type) where
  world : Rehearsal τ
  clients : ι → Client τ
  /-- What has been created, oldest first. -/
  creations : List (Creation ι)

namespace System

def initial (world : Rehearsal τ) (plan : ι → List Job) : System ι τ :=
  ⟨world, fun i => ⟨[], none, plan i⟩, []⟩

variable [DecidableEq ι]

/-- The system with another state of one client. -/
def put (s : System ι τ) (i : ι) (c : Client τ) : System ι τ :=
  { s with clients := Function.update s.clients i c }

/-- The world at some time, with some time until new types are served. -/
def worldAt (s : System ι τ) (clock delay : τ) : Rehearsal τ :=
  { s.world with clock, serveDelay := delay }

end System

variable [DecidableEq ι] [Seconds τ]

/-- The object that a request adds when the cluster serves it. -/
def creates (request : Request) (world : Rehearsal τ) : Option ObjectKey :=
  Call.created? ⟨world.clock, request, (world.serve request).1, world.clock⟩

omit [DecidableEq ι] in
lemma objects_serve (request : Request) (world : Rehearsal τ) :
    (world.serve request).2.store.objects =
      world.store.objects ++ (creates request world).toList :=
  serve_objects request world world.clock world.clock

/-- The system when the cluster has served a request of a client, who is then in a given state. -/
def System.answered (s : System ι τ) (i : ι) (world : Rehearsal τ) (request : Request)
    (c : Client τ) : System ι τ where
  world := (world.serve request).2
  clients := Function.update s.clients i c
  creations := s.creations ++
    (creates request world).toList.map fun key => ⟨i, (s.clients i).past.length, key⟩

/-- One step of a client: it starts its next call, has a request served at some time, writes a
log record, or ends its call. -/
inductive Step (s : System ι τ) (i : ι) : System ι τ → Prop where
  | start {job : Job} {rest : List Job} (idle : (s.clients i).current = none)
    (next : (s.clients i).todo = job :: rest) :
    Step s i (s.put i ⟨(s.clients i).past, some (job, job.call), rest⟩)
  | request {job : Job} {request : Request}
    {next : Except Fault request.Reply → Program τ Outcome}
    (h : (s.clients i).current = some (job, .ask request next)) (clock delay : τ) :
    Step s i (s.answered i (s.worldAt clock delay) request ⟨(s.clients i).past,
      some (job, next ((s.worldAt clock delay).serve request).1), (s.clients i).todo⟩)
  | note {job : Job} {level : Level} {message : String} {next : Program τ Outcome}
    (h : (s.clients i).current = some (job, .note level message next)) :
    Step s i (s.put i ⟨(s.clients i).past, some (job, next), (s.clients i).todo⟩)
  | finish {job : Job} {result : Except (Failure τ) Outcome}
    (h : (s.clients i).current = some (job, .done result)) :
    Step s i (s.put i ⟨(s.clients i).past ++ [(job, result)], none, (s.clients i).todo⟩)

/-- A run of the system. The schedule tells which client takes each step. -/
inductive Run (s : System ι τ) : List ι → System ι τ → Prop where
  | nil : Run s [] s
  | snoc {schedule : List ι} {s' s'' : System ι τ} {i : ι} (h : Run s schedule s')
    (step : Step s' i s'') : Run s (schedule ++ [i]) s''

/-! ### The course of one call -/

/-- Nothing is left but to write some log records. -/
inductive Ends (outcome : Outcome) : Nat → Program τ Outcome → Prop where
  | done : Ends outcome 0 (.done (.ok outcome))
  | note {n : Nat} {level : Level} {message : String} {next : Program τ Outcome}
    (h : Ends outcome n next) : Ends outcome (n + 1) (.note level message next)

section

variable (job : Job)

/-- A call begins with a check that changes nothing. -/
lemma Job.call_asks : ∃ request next, (job.call : Program τ Outcome) = .ask request next ∧
    ∀ world : Rehearsal τ, (world.serve request).2 = world ∧ creates request world = none ∧
      ∃ present, next (world.serve request).1 = settle job.manifest.ref job.manifest.body present ∧
        (present = true → job.route ≠ .definition → job.key ∈ world.store.objects) := by
  obtain ⟨request, accept, hcheck, htells⟩ := Presence.check_eq (τ := τ) job.accepted.names
  have heq : (job.call : Program τ Outcome) = (Presence.look request accept).bind
      (settle job.manifest.ref job.manifest.body) := by
    unfold Job.call
    rw [Naming.ensure_eq, hcheck]
  refine ⟨request, _, heq, fun world => ⟨htells.stays world, ?_, ?_⟩⟩
  · have hobjects := objects_serve request world
    rw [htells.stays, List.self_eq_append_right, Option.toList_eq_nil_iff] at hobjects
    exact hobjects
  · beta_reduce
    rcases htells.tells world with ⟨hv, hfound⟩ | ⟨hv, -⟩
    · rw [hv]
      refine ⟨true, rfl, fun _ hr => ?_⟩
      unfold Presence.Found at hfound
      rwa [if_neg hr] at hfound
    · rw [hv]
      exact ⟨false, rfl, nofun⟩

/-- What the cluster answers to the creation of an object decides how the call ends. -/
lemma Job.settle_asks : ∃ request next,
    (settle job.manifest.ref job.manifest.body false : Program τ Outcome) = .ask request next ∧
    ∀ world : Rehearsal τ,
      (job.key ∈ world.store.objects ∧ creates request world = none ∧
          Ends .alreadyPresent 2 (next (world.serve request).1)) ∨
        (job.key ∉ world.store.objects ∧ creates request world = some job.key ∧
          Ends .installed 1 (next (world.serve request).1)) := by
  have hn := job.accepted.names
  unfold settle
  rw [hn.create]
  refine ⟨.create _ _ _, _, rfl, fun world => ?_⟩
  unfold creates
  rw [serve_create, hn.key]
  by_cases hk : Store.readKey job.route job.ns job.name ∈ world.store.objects
  · rw [if_pos hk]
    exact Or.inl ⟨hk, rfl, .note (.note .done)⟩
  · rw [if_neg hk]
    exact Or.inr ⟨hk, congrArg some hn.key, .note .done⟩

end

/-- How a call ends fits to what it did: it has installed the object if and only if it has
created it, and but for a definition the object is there. -/
structure Fits (job : Job) (stored mine : Prop) (outcome : Outcome) : Prop where
  notCollected : outcome ≠ .collected
  installed : outcome = .installed ↔ mine
  stored : job.route ≠ .definition → stored

/-- Where a call stands, given whether its object is stored and whether the call has created it.
The number is that of the steps that are left at most. -/
inductive Course (job : Job) (stored mine : Prop) : Nat → Program τ Outcome → Prop where
  | checking (h : ¬ mine) : Course job stored mine 5 job.call
  | creating (h : ¬ mine) :
    Course job stored mine 4 (settle job.manifest.ref job.manifest.body false)
  | ending {outcome : Outcome} {n : Nat} {p : Program τ Outcome} (h : Ends outcome n p)
    (fits : Fits job stored mine outcome) : Course job stored mine (n + 1) p

namespace Course

variable {job : Job} {stored stored' mine mine' : Prop} {left : Nat}

omit [Seconds τ] in
lemma mono {p : Program τ Outcome} (h : Course job stored mine left p) (hs : stored → stored')
    (hm : mine ↔ mine') : Course job stored' mine' left p := by
  cases h with
  | checking h => exact checking (mt hm.2 h)
  | creating h => exact creating (mt hm.2 h)
  | ending h fits =>
    exact ending h ⟨fits.notCollected, fits.installed.trans hm, fun hr => hs (fits.stored hr)⟩

/-- A call that is not about to ask has nothing left but log records. -/
lemma asks_or_ends {p : Program τ Outcome} (h : Course job stored mine left p) :
    (∃ request next, p = .ask request next) ∨
      ∃ outcome n, left = n + 1 ∧ Ends outcome n p ∧ Fits job stored mine outcome := by
  cases h with
  | checking =>
    obtain ⟨request, next, h, -⟩ := job.call_asks (τ := τ)
    exact Or.inl ⟨request, next, h⟩
  | creating =>
    obtain ⟨request, next, h, -⟩ := job.settle_asks (τ := τ)
    exact Or.inl ⟨request, next, h⟩
  | ending h fits => exact Or.inr ⟨_, _, rfl, h, fits⟩

lemma note {level : Level} {message : String} {next : Program τ Outcome}
    (h : Course job stored mine left (.note level message next)) :
    ∃ left' < left, Course job stored mine left' next := by
  rcases h.asks_or_ends with ⟨request, next, h⟩ | ⟨outcome, n, rfl, h, fits⟩
  · cases h
  · cases h with
    | note h => exact ⟨_, Nat.lt_succ_self _, ending h fits⟩

lemma finish {result : Except (Failure τ) Outcome}
    (h : Course job stored mine left (.done result)) :
    0 < left ∧ ∃ outcome, result = .ok outcome ∧ Fits job stored mine outcome := by
  rcases h.asks_or_ends with ⟨request, next, h⟩ | ⟨outcome, n, rfl, h, fits⟩
  · cases h
  · cases h
    exact ⟨Nat.succ_pos _, outcome, rfl, fits⟩

/-- A request creates the object of the call or nothing, and the call goes on as it should. -/
lemma request {world : Rehearsal τ} {request : Request}
    {next : Except Fault request.Reply → Program τ Outcome}
    (h : Course job (job.key ∈ world.store.objects) mine left (.ask request next)) :
    (creates request world = none ∨
        creates request world = some job.key ∧ job.key ∉ world.store.objects) ∧
      ∃ left' < left,
        Course job (job.key ∈ (world.serve request).2.store.objects)
          (mine ∨ creates request world = some job.key) left' (next (world.serve request).1) := by
  generalize hp : Program.ask request next = p at h
  cases h with
  | checking hm =>
    obtain ⟨request', next', hask, hserve⟩ := job.call_asks (τ := τ)
    rw [hask] at hp
    cases hp
    obtain ⟨hworld, hnone, present, hnext, hstored⟩ := hserve world
    rw [hworld, hnone, hnext]
    have hmine : ¬ (mine ∨ none = some job.key) := by simpa using hm
    refine ⟨Or.inl rfl, ?_⟩
    cases present
    · exact ⟨4, by decide, .creating hmine⟩
    · exact ⟨2, by decide, .ending (.note .done)
        ⟨by simp, iff_of_false (by simp) hmine, hstored rfl⟩⟩
  | creating hm =>
    obtain ⟨request', next', hask, hserve⟩ := job.settle_asks (τ := τ)
    rw [hask] at hp
    cases hp
    rw [objects_serve]
    rcases hserve world with ⟨hstored, hnone, hends⟩ | ⟨hstored, hsome, hends⟩
    · have hmine : ¬ (mine ∨ creates request world = some job.key) := by
        rw [hnone]
        simpa using hm
      exact ⟨Or.inl hnone, 3, by decide, .ending hends ⟨by simp, iff_of_false (by simp) hmine,
        fun _ => List.mem_append_left _ hstored⟩⟩
    · refine ⟨Or.inr ⟨hsome, hstored⟩, 2, by decide, .ending hends ⟨by simp,
        iff_of_true rfl (Or.inr hsome), fun _ => ?_⟩⟩
      rw [hsome]
      simp
  | ending h => cases h <;> cases hp

end Course

end Testbed.Clients
