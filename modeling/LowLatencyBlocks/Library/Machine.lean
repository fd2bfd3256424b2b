import Mathlib.Data.List.Induction
import Mathlib.Logic.Relation

/-!
# Machines, interleavings and call sequences

Two ways to run a system.  A `Machine` is a step relation whose labels name the
party that moves: its reachable states are those of all interleavings, and a
side condition `allowed` cuts the interleavings down to the ones a statement is
about.  A partial step function instead runs a list of calls in order, and
`none` marks a call that does not return.

For each of the two there is one induction rule, so that a safety statement is
an initial goal and a step goal.
-/

namespace Library

universe u v w

/-- A labelled step relation with a start state. -/
structure Machine (State : Type u) (Label : Type v) where
  start : State
  step : Label → State → State → Prop

namespace Machine

variable {State : Type u} {Label : Type v}

def StepWithin
    (machine : Machine State Label)
    (allowed : Label → State → State → Prop)
    (before after : State) : Prop :=
  ∃ label, machine.step label before after ∧ allowed label before after

/-- Reachable from the start by steps that the side condition admits. -/
def Reachable
    (machine : Machine State Label)
    (allowed : Label → State → State → Prop)
    (state : State) : Prop :=
  Relation.ReflTransGen (machine.StepWithin allowed) machine.start state

/-- The side condition of a statement about every interleaving. -/
def anyStep : Label → State → State → Prop :=
  fun _ _ _ => True

/-- The side condition of a statement about the interleavings whose states all
satisfy `bound`. -/
def staying (bound : State → Prop) : Label → State → State → Prop :=
  fun _ _ after => bound after

variable {machine : Machine State Label}
  {allowed : Label → State → State → Prop}

theorem Reachable.start : machine.Reachable allowed machine.start :=
  Relation.ReflTransGen.refl

theorem Reachable.next
    {label : Label} {before after : State}
    (reached : machine.Reachable allowed before)
    (step : machine.step label before after)
    (admitted : allowed label before after) :
    machine.Reachable allowed after :=
  Relation.ReflTransGen.tail reached ⟨label, step, admitted⟩

theorem Reachable.next_any
    {label : Label} {before after : State}
    (reached : machine.Reachable anyStep before)
    (step : machine.step label before after) :
    machine.Reachable anyStep after :=
  reached.next step trivial

/-- The step goal may use that the state before the step is reachable, that is
every invariant proved earlier. -/
theorem Reachable.strong_invariant
    (holds : State → Prop)
    (initial : holds machine.start)
    (preserved :
      ∀ {label before after},
        machine.Reachable allowed before →
        holds before →
        machine.step label before after →
        allowed label before after →
        holds after)
    {state : State}
    (reached : machine.Reachable allowed state) :
    holds state := by
  induction reached with
  | refl =>
      exact initial
  | tail earlier lastStep inductionHypothesis =>
      obtain ⟨label, step, admitted⟩ := lastStep
      exact preserved earlier inductionHypothesis step admitted

theorem Reachable.invariant
    (holds : State → Prop)
    (initial : holds machine.start)
    (preserved :
      ∀ {label before after},
        holds before →
        machine.step label before after →
        allowed label before after →
        holds after)
    {state : State}
    (reached : machine.Reachable allowed state) :
    holds state :=
  reached.strong_invariant holds initial fun _ => preserved

theorem Reachable.weaken
    {weaker : Label → State → State → Prop}
    (implied :
      ∀ label before after,
        allowed label before after → weaker label before after)
    {state : State}
    (reached : machine.Reachable allowed state) :
    machine.Reachable weaker state :=
  reached.invariant (machine.Reachable weaker) Reachable.start
    fun earlier step admitted =>
      earlier.next step (implied _ _ _ admitted)

theorem Reachable.any
    {state : State} (reached : machine.Reachable allowed state) :
    machine.Reachable anyStep state :=
  reached.weaken fun _ _ _ _ => trivial

theorem Reachable.within
    {bound : State → Prop} (initial : bound machine.start)
    {state : State}
    (reached : machine.Reachable (staying bound) state) :
    bound state :=
  reached.invariant bound initial fun _ _ admitted => admitted

/-- Forward simulation: when every admitted step is matched by one step of the
abstract machine or by none, every reachable state is related to a reachable
abstract state. -/
theorem Reachable.simulated
    {Abstract : Type w} {Event : Type*}
    (abstract : Machine Abstract Event)
    (related : State → Abstract → Prop)
    (initial : related machine.start abstract.start)
    (matched :
      ∀ {label before after image},
        related before image →
        machine.step label before after →
        allowed label before after →
        related after image ∨
          ∃ event next,
            abstract.step event image next ∧ related after next)
    {state : State}
    (reached : machine.Reachable allowed state) :
    ∃ image, abstract.Reachable anyStep image ∧ related state image := by
  refine reached.invariant
    (fun state =>
      ∃ image, abstract.Reachable anyStep image ∧ related state image)
    ⟨abstract.start, Reachable.start, initial⟩ ?_
  rintro label before after ⟨image, imageReached, relation⟩ step admitted
  rcases matched relation step admitted with
    stuttered | ⟨event, next, abstractStep, relationAfter⟩
  · exact ⟨image, imageReached, stuttered⟩
  · exact ⟨next, imageReached.next_any abstractStep, relationAfter⟩

end Machine

/-! ## Call sequences -/

/-- A list that ends in one more element, cut at an earlier one. -/
theorem cut_append_singleton
    {α : Type u} {history earlier later : List α} {last cutAt : α}
    (cut : history ++ [last] = earlier ++ cutAt :: later) :
    (later = [] ∧ last = cutAt ∧ history = earlier) ∨
      ∃ shorter,
        later = shorter ++ [last] ∧
          history = earlier ++ cutAt :: shorter := by
  rcases List.eq_nil_or_concat later with rfl | ⟨shorter, final, rfl⟩
  · obtain ⟨sameHistory, sameLast⟩ :=
      List.append_inj' cut rfl
    exact .inl ⟨rfl, List.singleton_inj.mp sameLast, sameHistory⟩
  · rw [List.concat_eq_append] at cut ⊢
    rw [← List.cons_append, ← List.append_assoc] at cut
    obtain ⟨sameHistory, sameLast⟩ :=
      List.append_inj' cut rfl
    rw [← List.singleton_inj.mp sameLast]
    exact .inr ⟨shorter, rfl, sameHistory⟩

/-- What a prefix has at a position, the whole list has there. -/
theorem getElem?_of_prefix
    {α : Type u} {first whole : List α} {position : Nat} {found : α}
    (isPrefix : first <+: whole) (here : first[position]? = some found) :
    whole[position]? = some found := by
  obtain ⟨more, rfl⟩ := isPrefix
  obtain ⟨inside, _⟩ := List.getElem?_eq_some_iff.mp here
  rw [List.getElem?_append_left inside]
  exact here

section CallSequences

variable {State : Type u} {Call : Type v}
  {step : State → Call → Option State}

/-- Run the calls in order; `none` once a call does not return. -/
def exec
    (step : State → Call → Option State)
    (calls : List Call) (start : State) : Option State :=
  calls.foldlM step start

@[simp]
theorem exec_nil (start : State) : exec step [] start = some start :=
  rfl

@[simp]
theorem exec_cons (call : Call) (calls : List Call) (start : State) :
    exec step (call :: calls) start =
      (step start call).bind (exec step calls) := by
  simp only [exec, List.foldlM_cons]
  rfl

theorem exec_append (first second : List Call) (start : State) :
    exec step (first ++ second) start =
      (exec step first start).bind (exec step second) := by
  simp only [exec, List.foldlM_append]
  rfl

theorem exec_induction
    {start : State} (holds : List Call → State → Prop)
    (initial : holds [] start)
    (preserved :
      ∀ {calls before call after},
        holds calls before →
        step before call = some after →
        holds (calls ++ [call]) after) :
    ∀ {calls : List Call} {state : State},
      exec step calls start = some state → holds calls state := by
  -- the last call is split off, since `holds` grows at the end
  intro calls
  induction calls using List.reverseRecOn with
  | nil =>
      intro state ran
      cases ran
      exact initial
  | append_singleton earlier call inductionHypothesis =>
      intro state ran
      rw [exec_append] at ran
      obtain ⟨before, ranEarlier, last⟩ := Option.bind_eq_some_iff.mp ran
      rw [exec_cons] at last
      obtain ⟨after, stepped, finished⟩ :=
        Option.bind_eq_some_iff.mp last
      cases finished
      exact preserved (inductionHypothesis ranEarlier) stepped

/-- What every call preserves. -/
theorem exec_invariant
    (holds : State → Prop)
    (preserved :
      ∀ before call after,
        holds before → step before call = some after → holds after)
    {calls : List Call} {start state : State}
    (initial : holds start)
    (ran : exec step calls start = some state) : holds state := by
  apply exec_induction (fun _ state => holds state) initial _ ran
  intro _ before call after held stepped
  exact preserved before call after held stepped

/-- When every admissible call returns, so does every run of such calls. -/
theorem exec_returns
    {start : State} {admissible : Call → Prop}
    (holds : List Call → State → Prop)
    (initial : holds [] start)
    (returns :
      ∀ {calls before call},
        holds calls before →
        admissible call →
        ∃ after,
          step before call = some after ∧ holds (calls ++ [call]) after)
    (calls : List Call) (admitted : ∀ call ∈ calls, admissible call) :
    ∃ state, exec step calls start = some state ∧ holds calls state := by
  induction calls using List.reverseRecOn with
  | nil =>
      exact ⟨start, rfl, initial⟩
  | append_singleton earlier call inductionHypothesis =>
      obtain ⟨before, ranEarlier, held⟩ :=
        inductionHypothesis fun call member =>
          admitted call (List.mem_append_left _ member)
      obtain ⟨after, stepped, heldAfter⟩ :=
        returns held (admitted call (List.mem_append_right _
          (List.mem_singleton_self call)))
      refine ⟨after, ?_, heldAfter⟩
      rw [exec_append, ranEarlier, Option.bind_some, exec_cons, stepped]
      rfl

/-- Every step of the run of `calls` from a state satisfies `holds`. -/
def EachStep
    (step : State → Call → Option State)
    (holds : State → Call → State → Prop) :
    List Call → State → Prop
  | [], _ => True
  | call :: calls, before =>
      ∀ after, step before call = some after →
        holds before call after ∧ EachStep step holds calls after

theorem EachStep.mono
    {first second : State → Call → State → Prop}
    (implied :
      ∀ {before call after},
        first before call after → second before call after)
    {calls : List Call} {start : State}
    (each : EachStep step first calls start) :
    EachStep step second calls start := by
  induction calls generalizing start with
  | nil =>
      exact trivial
  | cons call calls inductionHypothesis =>
      intro after stepped
      obtain ⟨now, later⟩ := each after stepped
      exact ⟨implied now, inductionHypothesis later⟩

/-- What every step that keeps its promise preserves. -/
theorem EachStep.invariant
    {promised : State → Call → State → Prop} (holds : State → Prop)
    (preserved :
      ∀ before call after,
        holds before →
        step before call = some after →
        promised before call after →
        holds after)
    {calls : List Call} {start final : State}
    (each : EachStep step promised calls start) (initial : holds start)
    (ran : exec step calls start = some final) : holds final := by
  induction calls generalizing start with
  | nil =>
      cases ran
      exact initial
  | cons call calls inductionHypothesis =>
      rw [exec_cons] at ran
      obtain ⟨next, stepped, ranLater⟩ := Option.bind_eq_some_iff.mp ran
      obtain ⟨promise, later⟩ := each next stepped
      exact
        inductionHypothesis later
          (preserved start call next initial stepped promise) ranLater

/-- In a run whose steps keep a promise, two step properties that agree under an
invariant, which either of them keeps, hold together. -/
theorem EachStep.congr
    {invariant : State → Prop}
    {promised first second : State → Call → State → Prop}
    (agree :
      ∀ before call after,
        invariant before →
        step before call = some after →
        promised before call after →
        (first before call after ↔ second before call after))
    (kept :
      ∀ before call after,
        invariant before →
        step before call = some after →
        promised before call after →
        first before call after →
        invariant after)
    {calls : List Call} {start : State}
    (each : EachStep step promised calls start)
    (initial : invariant start) :
    EachStep step first calls start ↔ EachStep step second calls start := by
  induction calls generalizing start with
  | nil =>
      exact Iff.rfl
  | cons call calls inductionHypothesis =>
      constructor
      · intro eachFirst after stepped
        obtain ⟨promise, promises⟩ := each after stepped
        obtain ⟨now, later⟩ := eachFirst after stepped
        have keptAfter := kept start call after initial stepped promise now
        exact
          ⟨(agree start call after initial stepped promise).mp now,
            (inductionHypothesis promises keptAfter).mp later⟩
      · intro eachSecond after stepped
        obtain ⟨promise, promises⟩ := each after stepped
        obtain ⟨now, later⟩ := eachSecond after stepped
        have nowFirst :=
          (agree start call after initial stepped promise).mpr now
        have keptAfter :=
          kept start call after initial stepped promise nowFirst
        exact
          ⟨nowFirst, (inductionHypothesis promises keptAfter).mpr later⟩

theorem eachStep_of_forall
    {holds : State → Call → State → Prop}
    (always : ∀ before call after, holds before call after)
    (calls : List Call) (start : State) :
    EachStep step holds calls start := by
  induction calls generalizing start with
  | nil =>
      exact trivial
  | cons call calls inductionHypothesis =>
      intro after _
      exact ⟨always start call after, inductionHypothesis after⟩

/-- Two step properties that agree under an invariant, which either of them
keeps, hold of the same runs. -/
theorem eachStep_congr
    {invariant : State → Prop}
    {first second : State → Call → State → Prop}
    (agree :
      ∀ {before call after},
        invariant before →
        step before call = some after →
        (first before call after ↔ second before call after))
    (kept :
      ∀ {before call after},
        invariant before →
        step before call = some after →
        first before call after →
        invariant after)
    (calls : List Call) {start : State} (initial : invariant start) :
    EachStep step first calls start ↔ EachStep step second calls start := by
  have nothingPromised :
      EachStep step (fun _ _ _ => True) calls start :=
    eachStep_of_forall (fun _ _ _ => trivial) calls start
  apply nothingPromised.congr _ _ initial
  · intro before call after holds stepped _
    exact agree holds stepped
  · intro before call after holds stepped _ now
    exact kept holds stepped now

/-- Every call of the run of `calls` is made in a state that satisfies `holds`,
whether it returns or not. -/
def EachCall
    (step : State → Call → Option State)
    (holds : State → Call → Prop) :
    List Call → State → Prop
  | [], _ => True
  | call :: calls, before =>
      holds before call ∧
        ∀ after, step before call = some after →
          EachCall step holds calls after

/-- Two properties of a call that agree under an invariant, which either of them
keeps, hold of the same runs. -/
theorem eachCall_congr
    {invariant : State → Prop} {first second : State → Call → Prop}
    (agree :
      ∀ {before call},
        invariant before → (first before call ↔ second before call))
    (kept :
      ∀ {before call after},
        invariant before →
        first before call →
        step before call = some after →
        invariant after)
    (calls : List Call) {start : State} (initial : invariant start) :
    EachCall step first calls start ↔ EachCall step second calls start := by
  induction calls generalizing start with
  | nil =>
      exact Iff.rfl
  | cons call calls inductionHypothesis =>
      constructor
      · rintro ⟨now, later⟩
        refine ⟨(agree initial).mp now, ?_⟩
        intro after stepped
        exact
          (inductionHypothesis (kept initial now stepped)).mp
            (later after stepped)
      · rintro ⟨now, later⟩
        have nowFirst := (agree initial).mpr now
        refine ⟨nowFirst, ?_⟩
        intro after stepped
        exact
          (inductionHypothesis (kept initial nowFirst stepped)).mpr
            (later after stepped)

/-- When every call that satisfies `holds` returns and keeps the invariant, so
does the run. -/
theorem EachCall.returns
    {invariant : State → Prop} {holds : State → Call → Prop}
    (returns :
      ∀ before call,
        invariant before →
        holds before call →
        ∃ after, step before call = some after ∧ invariant after)
    {calls : List Call} {start : State}
    (each : EachCall step holds calls start) (initial : invariant start) :
    ∃ state, exec step calls start = some state ∧ invariant state := by
  induction calls generalizing start with
  | nil =>
      exact ⟨start, exec_nil start, initial⟩
  | cons call calls inductionHypothesis =>
      obtain ⟨now, later⟩ := each
      obtain ⟨after, stepped, kept⟩ := returns start call initial now
      rw [exec_cons, stepped]
      exact inductionHypothesis (later after stepped) kept

theorem eachCall_of_invariant
    {invariant : State → Prop} {holds : State → Call → Prop}
    (now : ∀ before call, invariant before → holds before call)
    (kept :
      ∀ before call after,
        invariant before → step before call = some after → invariant after)
    (calls : List Call) {start : State} (initial : invariant start) :
    EachCall step holds calls start := by
  induction calls generalizing start with
  | nil =>
      exact trivial
  | cons call calls inductionHypothesis =>
      refine ⟨now start call initial, ?_⟩
      intro after stepped
      exact inductionHypothesis (kept start call after initial stepped)

/-- Two step functions of which one is the image of the other make the same runs,
image for image, and stop at the same calls. -/
theorem exec_image
    {Image : Type w} {imageStep : Image → Call → Option Image}
    (image : State → Image) (holds : State → Prop)
    (commutes :
      ∀ state call,
        holds state →
        imageStep (image state) call = (step state call).map image)
    (kept :
      ∀ before call after,
        holds before → step before call = some after → holds after)
    (calls : List Call) {start : State} (initial : holds start) :
    exec imageStep calls (image start) =
      (exec step calls start).map image := by
  induction calls generalizing start with
  | nil =>
      rfl
  | cons call calls inductionHypothesis =>
      rw [exec_cons, exec_cons, commutes start call initial]
      cases stepped : step start call with
      | none =>
          rfl
      | some next =>
          exact inductionHypothesis (kept start call next initial stepped)

end CallSequences

end Library
