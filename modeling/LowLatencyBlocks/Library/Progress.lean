import LowLatencyBlocks.Library.Machine

/-!
# What a machine can still reach

`before` leads to `after` when some admitted steps take the machine from the one
to the other.  That a goal can be reached from every state of an invariant needs
one rule: while it is not, a step exists that keeps the invariant and takes a
measure down.
-/

namespace Library

universe u v

namespace Machine

variable {State : Type u} {Label : Type v}

def Leads
    (machine : Machine State Label)
    (allowed : Label → State → State → Prop)
    (before after : State) : Prop :=
  Relation.ReflTransGen (machine.StepWithin allowed) before after

variable {machine : Machine State Label}
  {allowed : Label → State → State → Prop} {before middle after : State}

theorem Leads.refl (state : State) : machine.Leads allowed state state :=
  Relation.ReflTransGen.refl

theorem Leads.trans
    (earlier : machine.Leads allowed before middle)
    (later : machine.Leads allowed middle after) :
    machine.Leads allowed before after :=
  Relation.ReflTransGen.trans earlier later

theorem leads_of_step
    {label : Label} (step : machine.step label before after)
    (admitted : allowed label before after) :
    machine.Leads allowed before after :=
  Relation.ReflTransGen.single ⟨label, step, admitted⟩

/-- An admitted step in front of a run. -/
theorem Leads.head
    {label : Label} (step : machine.step label before middle)
    (admitted : allowed label before middle)
    (later : machine.Leads allowed middle after) :
    machine.Leads allowed before after :=
  (leads_of_step step admitted).trans later

theorem Reachable.leads
    (reached : machine.Reachable allowed before)
    (later : machine.Leads allowed before after) :
    machine.Reachable allowed after :=
  Relation.ReflTransGen.trans reached later

/-- What every admitted step keeps, a run keeps. -/
theorem Leads.invariant
    (holds : State → Prop)
    (preserved :
      ∀ {label before after},
        holds before →
        machine.step label before after →
        allowed label before after →
        holds after)
    (run : machine.Leads allowed before after) (initial : holds before) :
    holds after := by
  induction run with
  | refl =>
      exact initial
  | tail earlier lastStep inductionHypothesis =>
      obtain ⟨label, step, admitted⟩ := lastStep
      exact preserved inductionHypothesis step admitted

theorem Leads.weaken
    {weaker : Label → State → State → Prop}
    (implied :
      ∀ label before after,
        allowed label before after → weaker label before after)
    (run : machine.Leads allowed before after) :
    machine.Leads weaker before after := by
  apply Relation.ReflTransGen.mono _ _ _ run
  rintro before after ⟨label, step, admitted⟩
  exact ⟨label, step, implied label before after admitted⟩

/-- The side condition that a run stays where `inside` holds, too. -/
def keeping
    (allowed : Label → State → State → Prop) (inside : State → Prop) :
    Label → State → State → Prop :=
  fun label before after => allowed label before after ∧ inside after

/-- A run stays where it began, or there is a first step that leaves. -/
theorem Leads.stays_or_leaves
    (inside : State → Prop) (initial : inside before)
    (run : machine.Leads allowed before after) :
    (machine.Leads (keeping allowed inside) before after ∧ inside after) ∨
      ∃ label last next,
        machine.Leads (keeping allowed inside) before last ∧ inside last ∧
          machine.step label last next ∧ ¬ inside next := by
  induction run with
  | refl =>
      exact .inl ⟨Leads.refl before, initial⟩
  | @tail last next earlier lastStep inductionHypothesis =>
      obtain ⟨label, step, admitted⟩ := lastStep
      rcases inductionHypothesis with ⟨stays, insideLast⟩ | leaves
      · by_cases insideNext : inside next
        · have further :
              machine.Leads (keeping allowed inside) last next :=
            leads_of_step step ⟨admitted, insideNext⟩
          exact .inl ⟨stays.trans further, insideNext⟩
        · exact .inr ⟨label, last, next, stays, insideLast, step, insideNext⟩
      · exact .inr leaves

/-- A goal that is not reached yet is reached by steps that take the measure
down. -/
theorem leads_of_measure
    (holds goal : State → Prop) (measure : State → Nat)
    (progress :
      ∀ {state},
        holds state →
        ¬ goal state →
        ∃ label next,
          machine.step label state next ∧
            allowed label state next ∧
            holds next ∧ measure next < measure state)
    {state : State} (initial : holds state) :
    ∃ final,
      machine.Leads allowed state final ∧ holds final ∧ goal final := by
  induction bound : measure state using Nat.strongRecOn
    generalizing state with
  | _ bound inductionHypothesis =>
      by_cases finished : goal state
      · exact ⟨state, Leads.refl state, initial, finished⟩
      · obtain ⟨label, next, step, admitted, kept, lower⟩ :=
          progress initial finished
        obtain ⟨final, run, keptFinal, reached⟩ :=
          inductionHypothesis (measure next) (by omega) kept rfl
        exact ⟨final, Leads.head step admitted run, keptFinal, reached⟩

end Machine

end Library
