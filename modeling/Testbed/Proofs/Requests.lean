import Mathlib
import Testbed.Install.Setup
import Testbed.Proofs.Naming
import Testbed.Proofs.Trace
import Testbed.Verify

/-!
What the operations ask of a cluster.

For each operation: a property of requests that its own requests have, it asks only requests
with that property.
-/

namespace Testbed.Requests

open Rehearsal
open Install (Target Serving)
open Polling (Poll)
open Yaml (Value)

variable {τ α : Type} [Seconds τ] {P : Request → Prop}

/-! ### Installing -/

lemma asks_isServed {kind version group : String} (h : P (.kinds group version)) :
    Asks P (Install.isServed kind version group : Program τ _) := by
  refine .bind (.sendOr h _ _) fun kinds => ?_
  cases kinds <;> exact .done _

lemma asks_isInstalled {ref : ResourceRef} {body : Value} (hk : P (.kinds ref.group ref.version))
    (hr : ∀ route ns, P (.read route ns ref.name)) :
    Asks P (Install.isInstalled ref body : Program τ _) := by
  refine .bind (.ofExcept _ _) fun kind => ?_
  split
  · exact asks_isServed hk
  · exact .bind (.done _) fun route => .sendOr (hr route _) _ _

lemma asks_create {body : Value} {ns : Option String}
    (h : ∀ route ns, P (.create route ns body)) :
    Asks P (Cluster.create body ns : Program τ _) := by
  refine .bind (.ofExcept _ _) fun kind => .bind (.done _) fun route => .bind (.done _) fun ns =>
    .ask (h route ns) fun answer => ?_
  split
  · exact .done _
  · exact .note (.done _)
  · exact .done _

lemma asks_settle {ref : ResourceRef} {body : Value} (h : ∀ route ns, P (.create route ns body))
    (present : Bool) : Asks P (Naming.settle ref body present : Program τ _) := by
  cases present
  · refine .bind (asks_create h) fun creation => ?_
    cases creation <;> exact .note (.done _)
  · exact .note (.done _)

lemma asks_ensure {ref : ResourceRef} {body : Value} (hk : P (.kinds ref.group ref.version))
    (hr : ∀ route ns, P (.read route ns ref.name)) (hc : ∀ route ns, P (.create route ns body)) :
    Asks P (Install.ensure ref body : Program τ _) := by
  rw [Naming.ensure_eq]
  exact .bind (asks_isInstalled hk hr) fun present => asks_settle hc present

/-- An object that a manifest names is read and created as that object. -/
lemma asks_ensure_named {m : Manifest} {route : Route} {ns : Option String} {name : String}
    (h : Naming.Names m route ns name) (hk : P (.kinds m.ref.group m.ref.version))
    (hr : P (.read route ns name)) (hc : P (.create route (ns.map Value.text) m.body)) :
    Asks P (Install.ensure m.ref m.body : Program τ _) := by
  rw [Naming.ensure_eq, h.isInstalled]
  refine .bind ?_ fun present => ?_
  · unfold Naming.presence
    split
    · exact asks_isServed hk
    · exact .sendOr hr _ _
  · cases present with
    | true => exact .note (.done _)
    | false =>
      unfold Naming.settle
      rw [h.create]
      refine .bind (.ask hc fun answer => ?_) fun creation => ?_
      · split
        · exact .done _
        · exact .note (.done _)
        · exact .done _
      · cases creation <;> exact .note (.done _)

lemma asks_ensureIn {target : Target} {ref : ResourceRef} {body : Value}
    (h : Asks P (Install.ensure ref body : Program τ _)) :
    Asks P (Install.ensureIn target ref body : Program τ _) := by
  cases target with
  | cluster => exact .bind h fun _ => .done _
  | collection c => exact .bind (.log _ _) fun _ => .done _
  | nowhere => exact .done _

lemma asks_add {m : Manifest} {d : Install.Outcomes × Target}
    (h : Asks P (Install.ensure m.ref m.body : Program τ _)) :
    Asks P (Install.add m d : Program τ _) :=
  .bind (asks_ensureIn h) fun _ => .done _

/-! ### Waiting -/

lemma asks_sleep (length : τ) : Asks P (Polling.sleep length) := by
  refine .isCancelled fun cancelled => ?_
  cases cancelled
  · simp only
    split
    · exact .done _
    · rename_i pos
      refine .pause pos fun cancelled => ?_
      cases cancelled <;> exact .done _
  · exact .done _

lemma asks_expire (s : Serving τ) (start : τ) (attempts : Nat) :
    Asks P (s.expire start attempts : Program τ α) := .now fun _ => .done _

lemma asks_turn {s : Serving τ} (h : P (.kinds s.group s.version)) (start : τ) (attempts : Nat) :
    Asks P (s.turn start attempts) := by
  refine .bind (asks_isServed h) fun served => ?_
  cases served
  · refine .bind .clock fun now => ?_
    simp only
    split
    · exact asks_expire _ _ _
    · refine .bind (.log _ _) fun _ => .bind (asks_sleep _) fun _ => .bind .clock fun now => ?_
      split
      · exact .bind (asks_expire s start attempts) fun _ => .done _
      · exact .done _
  · exact .bind (.log _ _) fun _ => .done _

lemma asks_turns {s : Serving τ} (h : P (.kinds s.group s.version)) (start : τ)
    (left attempts : Nat) : Asks P (s.turns start left attempts) := by
  induction left generalizing attempts with
  | zero =>
    refine .bind (asks_turn h _ _) fun served => ?_
    cases served
    · exact asks_expire _ _ _
    · exact .done _
  | succ left ih =>
    refine .bind (asks_turn h _ _) fun served => ?_
    cases served
    · exact ih _
    · exact .done _

lemma asks_awaitServed {s : Serving τ} (h : P (.kinds s.group s.version)) :
    Asks P (Install.awaitServed s) := .now fun _ => asks_turns h _ _ _

lemma asks_awaitType {timeout : τ} {m : Manifest} {target : Target}
    (h : P (.kinds m.ref.group m.ref.version)) :
    Asks P (Install.awaitType timeout m target) := by
  cases target with
  | collection c => exact .done _
  | cluster => exact asks_awaitServed h
  | nowhere => exact asks_awaitServed h

/-! ### Polling -/

lemma asks_await (p : Poll τ α) (start : τ) (attempts : Nat) : Asks P (p.await start attempts) :=
  .now fun _ => asks_sleep _

lemma asks_timeout (p : Poll τ α) (start : τ) (attempts : Nat) :
    Asks P (p.timeout start attempts : Program τ α) := .now fun _ => .done _

lemma asks_attempt {p : Poll τ α} (hc : Asks P p.check) (start : τ) (left attempts : Nat) :
    Asks P (p.attempt start left attempts) := by
  induction left generalizing attempts with
  | zero =>
    refine .bind hc fun found => ?_
    cases found
    · exact .bind (asks_await _ _ _) fun _ => asks_timeout _ _ _
    · exact .done _
  | succ left ih =>
    refine .bind hc fun found => ?_
    cases found
    · refine .bind (.log _ _) fun _ => .bind (asks_await _ _ _) fun _ => .bind ?_ fun ended => ?_
      · unfold Poll.isOver
        split
        · exact .now fun _ => .done _
        · exact .done _
      · cases ended
        · exact ih _
        · exact .bind (.log _ _) fun _ => asks_timeout _ _ _
    · exact .done _

lemma asks_pollUntil {p : Poll τ α} (hc : Asks P p.check) : Asks P (Polling.pollUntil p) := by
  refine .bind .clock fun start => ?_
  split
  · exact .done _
  · exact asks_attempt hc _ _ _

lemma asks_awaitRunning {ns selector : String} (h : P (.pods ns selector)) (policy : Policy τ) :
    Asks P (Verify.awaitRunning ns selector policy) := by
  refine .bind (asks_pollUntil ?_) fun _ => .bind (.log _ _) fun _ => .done _
  refine .bind (.bind (.bind (.ask h fun answer => ?_) fun _ => .done _) fun _ =>
    .ofExcept _ _) fun _ => .done _
  cases answer <;> exact .done _

lemma asks_awaitLog {pod : Observation} (h : ∀ container, P (.log pod.name pod.ns container))
    (text : String) (policy : Policy τ) (container : Option String) :
    Asks P (Verify.awaitLog pod text policy container) := by
  have read : Asks P (Verify.readLog pod container : Program τ _) := .sendOr (h _) _ _
  exact .bind (asks_pollUntil (.bind read fun _ => .done _)) fun _ => .log _ _

end Testbed.Requests
