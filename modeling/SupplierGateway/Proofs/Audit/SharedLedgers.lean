import Mathlib.Data.List.Forall2
import SupplierGateway.Audit.Sharers

/-!
# Ledgers lose and duplicate nothing

Tasks that share ledgers take turns in any order, and merge ledgers into each other in any way, also
in cycles.  A merge reads one ledger in one turn and appends the entries read to another in a later
turn, when the first ledger may have grown.

* `Access` and `Sharers.accesses` — the accesses to ledgers, in the order of the locks;
* `Action.Done` and `Progress` — the accesses of an action, and of a task at a given moment;
* `Sharers.entries_run` — a ledger holds the batches that were appended to it, in that order;
* `Sharers.progress_run` — each task carries out its actions in order;
* `nothing_lost_or_duplicated` — both together, for any number of ledgers, tasks and turns.
-/

namespace SupplierGateway
namespace Audit

variable {α : Type}

/-! ## Accesses -/

/-- The accesses to a ledger, each under its lock. -/
inductive Access (α : Type) where
  | saw (source : Nat) (entries : List α)
  | appended (target : Nat) (batch : List α)

/-- The batch that an access appends, if any. -/
def Access.batch (ledger : Nat) : Access α → List α
  | saw _ _ => []
  | appended target batch => if target = ledger then batch else []

/-- The batches that accesses append to a ledger. -/
def appendedTo (ledger : Nat) (accesses : List (Nat × Access α)) : List α :=
  accesses.flatMap fun access => access.2.batch ledger

/-- The accesses of one task among those of all. -/
def own (task : Nat) (accesses : List (Nat × Access α)) : List (Access α) :=
  accesses.filterMap fun access => if access.1 = task then some access.2 else none

/-- The access of a turn; a delivery without a preceding read has none. -/
def Shared.access? (s : Shared α) : Turn α → Option (Access α)
  | .append target batch => some (.appended target batch)
  | .read _ source => some (.saw source (s.ledger source).entries)
  | .deliver task target => (s.held task).map (.appended target)

/-- A turn appends the batch of its access. -/
theorem Shared.entries_step (s : Shared α) (turn : Turn α) (ledger : Nat) :
    ((s.step turn).ledger ledger).entries =
      (s.ledger ledger).entries ++ (s.access? turn).toList.flatMap (Access.batch ledger) := by
  have happend : ∀ target batch, ((s.append target batch).ledger ledger).entries =
      (s.ledger ledger).entries ++ (Access.appended target batch).batch ledger := by
    intro target batch
    simp only [Shared.append, Access.batch, eq_comm (a := ledger)]
    split
    · rfl
    · exact (List.append_nil _).symm
  cases turn with
  | append target batch => simp [step, access?, happend]
  | read task source => simp [step, access?, Access.batch]
  | deliver task target =>
      simp only [step, access?]
      cases s.held task with
      | none => simp
      | some batch => simp [happend]

theorem Shared.entries_of_saw {s : Shared α} {turn : Turn α} {source : Nat} {entries : List α}
    (haccess : s.access? turn = some (.saw source entries)) :
    entries = (s.ledger source).entries := by
  cases turn with
  | append target batch => simp [access?] at haccess
  | read task other =>
      obtain ⟨rfl, hentries⟩ := Access.saw.inj (Option.some.inj haccess)
      exact hentries.symm
  | deliver task target => simp [access?] at haccess

namespace Sharers

/-- The access of the next turn of a task. -/
def access? (c : Sharers α) (task : Nat) : Option (Access α) :=
  (c.left task).head?.bind c.shared.access?

/-- The accesses when tasks take turns in a given order. -/
def accesses (c : Sharers α) : List Nat → List (Nat × Access α)
  | [] => []
  | task :: schedule =>
      ((c.access? task).map (task, ·)).toList ++ (c.take task).accesses schedule

variable {c : Sharers α} {task : Nat} {schedule : List Nat}

/-- A ledger grows by the batches that a turn appends to it. -/
theorem entries_take (c : Sharers α) (task ledger : Nat) :
    ((c.take task).shared.ledger ledger).entries =
      (c.shared.ledger ledger).entries ++
        appendedTo ledger ((c.access? task).map (task, ·)).toList := by
  unfold take access?
  cases c.left task with
  | nil => simp [appendedTo]
  | cons turn rest =>
      simp only [List.head?_cons, Option.bind_some, c.shared.entries_step turn ledger]
      cases c.shared.access? turn <;> simp [appendedTo]

/-- A ledger holds its entries at the start, and then the batches that were appended to it, in the
order of the locks. -/
theorem entries_run (c : Sharers α) (schedule : List Nat) (ledger : Nat) :
    ((c.run schedule).shared.ledger ledger).entries =
      (c.shared.ledger ledger).entries ++ appendedTo ledger (c.accesses schedule) := by
  induction schedule generalizing c with
  | nil => exact (List.append_nil _).symm
  | cons task schedule ih =>
      calc (((c.take task).run schedule).shared.ledger ledger).entries
          = ((c.take task).shared.ledger ledger).entries ++
              appendedTo ledger ((c.take task).accesses schedule) := ih (c.take task)
        _ = (c.shared.ledger ledger).entries ++
              appendedTo ledger (c.accesses (task :: schedule)) := by
          rw [entries_take, List.append_assoc]
          simp only [accesses, appendedTo, List.flatMap_append]

/-- A read of a ledger sees the batches that were appended to it before. -/
theorem saw_accesses {before after : List (Nat × Access α)} {source : Nat} {entries : List α}
    (hsplit : c.accesses schedule = before ++ (task, .saw source entries) :: after) :
    entries = (c.shared.ledger source).entries ++ appendedTo source before := by
  induction schedule generalizing c before with
  | nil => simp [accesses] at hsplit
  | cons who schedule ih =>
      -- Either it was seen in this turn, or in a later one, before which the ledger grew.
      simp only [accesses] at hsplit
      have hgrown := entries_take c who source
      cases haccess : c.access? who with
      | none =>
          simp only [haccess, Option.map_none, Option.toList_none, List.nil_append] at hsplit hgrown
          rw [ih hsplit, hgrown]
          simp [appendedTo]
      | some access =>
          simp only [haccess, Option.map_some, Option.toList_some, List.singleton_append]
            at hsplit hgrown
          cases before with
          | nil =>
              obtain ⟨hfirst, -⟩ := List.cons.inj hsplit
              obtain ⟨-, rfl⟩ := Prod.mk.inj hfirst
              obtain ⟨turn, -, hturn⟩ := Option.bind_eq_some_iff.mp haccess
              simpa [appendedTo] using Shared.entries_of_saw hturn
          | cons first before =>
              obtain ⟨rfl, hrest⟩ := List.cons.inj hsplit
              rw [ih hrest, hgrown, List.append_assoc]
              simp [appendedTo]

end Sharers

/-! ## Actions -/

/-- The accesses of a completed action.  A merge appends the entries that it read, and accesses of
other tasks may lie between the two. -/
inductive Action.Done : Action α → List (Access α) → Prop
  | add (target : Nat) (entry : α) : Done (.add target entry) [.appended target [entry]]
  | nothing (target : Nat) : Done (.addAll target []) []
  | addAll (target : Nat) {batch : List α} (hbatch : batch ≠ []) :
      Done (.addAll target batch) [.appended target batch]
  | snapshot (source : Nat) (entries : List α) : Done (.snapshot source) [.saw source entries]
  | merge {source target : Nat} (hother : source ≠ target) (entries : List α) :
      Done (.merge source target) [.saw source entries, .appended target entries]
  | itself (ledger : Nat) : Done (.merge ledger ledger) []

/-- A task with given actions has made these accesses and has these turns left.  Between the two
turns of a merge it holds the entries that it read. -/
inductive Progress (task : Nat) (held : Option (List α)) :
    List (Action α) → List (Access α) → List (Turn α) → Prop
  | ahead (actions : List (Action α)) :
      Progress task held actions [] (actions.flatMap (Action.turns task))
  | done {action : Action α} {accesses : List (Access α)} (hdone : action.Done accesses)
      {actions : List (Action α)} {others : List (Access α)} {left : List (Turn α)}
      (hrest : Progress task held actions others left) :
      Progress task held (action :: actions) (accesses ++ others) left
  | halfway {source target : Nat} (hother : source ≠ target) {entries : List α}
      (hheld : held = some entries) (actions : List (Action α)) :
      Progress task held (.merge source target :: actions) [.saw source entries]
        (.deliver task target :: actions.flatMap (Action.turns task))

/-- The access of the next turn of a task, and its progress after the turn. -/
structure Advance (s : Shared α) (task : Nat) (actions : List (Action α))
    (accesses : List (Access α)) (turn : Turn α) (left : List (Turn α)) : Prop where
  access : ∃ access, s.access? turn = some access ∧
    Progress task ((s.step turn).held task) actions (accesses ++ [access]) left
  others : ∀ other, other ≠ task → (s.step turn).held other = s.held other

theorem Advance.after {s : Shared α} {task : Nat} {action : Action α} {accesses : List (Access α)}
    (hdone : action.Done accesses) {actions : List (Action α)} {others : List (Access α)}
    {turn : Turn α} {left : List (Turn α)} (hadvance : Advance s task actions others turn left) :
    Advance s task (action :: actions) (accesses ++ others) turn left where
  access := by
    obtain ⟨access, haccess, hprogress⟩ := hadvance.access
    refine ⟨access, haccess, ?_⟩
    rw [List.append_assoc]
    exact .done hdone hprogress
  others := hadvance.others

/-- The first turn of a task belongs to the first of its actions that takes turns. -/
theorem advance_ahead (s : Shared α) {task : Nat} {actions : List (Action α)} {turn : Turn α}
    {left : List (Turn α)} (hturns : actions.flatMap (Action.turns task) = turn :: left) :
    Advance s task actions [] turn left := by
  induction actions with
  | nil => exact nomatch hturns
  | cons action actions ih =>
      -- Empty batches and merges of a ledger into itself are passed over.
      rw [List.flatMap_cons] at hturns
      cases action with
      | add target entry =>
          obtain ⟨rfl, rfl⟩ := List.cons.inj hturns
          exact ⟨⟨_, rfl, .done (.add target entry) (.ahead actions)⟩, fun _ _ => rfl⟩
      | addAll target batch =>
          cases batch with
          | nil => exact (ih hturns).after (.nothing target)
          | cons entry batch =>
              obtain ⟨rfl, rfl⟩ := List.cons.inj hturns
              have hbatch := List.cons_ne_nil entry batch
              exact ⟨⟨_, rfl, .done (.addAll target hbatch) (.ahead actions)⟩, fun _ _ => rfl⟩
      | snapshot source =>
          obtain ⟨rfl, rfl⟩ := List.cons.inj hturns
          exact ⟨⟨_, rfl, .done (.snapshot source _) (.ahead actions)⟩, fun _ hne => if_neg hne⟩
      | merge source target =>
          by_cases hsame : source = target
          · subst hsame
            rw [Action.turns, Shared.mergeTurns, if_pos rfl] at hturns
            exact (ih hturns).after (.itself source)
          · rw [Action.turns, Shared.mergeTurns, if_neg hsame] at hturns
            obtain ⟨rfl, rfl⟩ := List.cons.inj hturns
            exact ⟨⟨_, rfl, .halfway hsame (if_pos rfl) actions⟩, fun _ hne => if_neg hne⟩

/-- A turn of a task adds one access to its progress. -/
theorem Progress.advance {s : Shared α} {task : Nat} {actions : List (Action α)}
    {accesses : List (Access α)} {turn : Turn α} {left : List (Turn α)}
    (hprogress : Progress task (s.held task) actions accesses (turn :: left)) :
    Advance s task actions accesses turn left := by
  generalize hturns : turn :: left = turns at hprogress
  induction hprogress with
  | ahead actions => exact advance_ahead s hturns.symm
  | done hdone _ ih => exact (ih hturns).after hdone
  | halfway hother hheld actions =>
      obtain ⟨rfl, rfl⟩ := List.cons.inj hturns
      refine ⟨⟨_, by rw [Shared.access?, hheld, Option.map_some], ?_⟩, fun other hne => ?_⟩
      · exact .done (.merge hother _) (.ahead actions)
      · simp only [Shared.step, hheld]
        exact if_neg hne

/-- An action without turns is completed without accesses. -/
theorem done_of_turns_eq_nil {task : Nat} {action : Action α} (hturns : action.turns task = []) :
    action.Done [] := by
  cases action with
  | add target entry => exact nomatch hturns
  | addAll target batch =>
      cases batch with
      | nil => exact .nothing target
      | cons entry batch => exact nomatch hturns
  | snapshot source => exact nomatch hturns
  | merge source target =>
      by_cases hsame : source = target
      · exact hsame ▸ .itself source
      · rw [Action.turns, Shared.mergeTurns, if_neg hsame] at hturns
        exact nomatch hturns

/-- A task that has no turns left has completed all its actions, one after another. -/
theorem Progress.finished {task : Nat} {held : Option (List α)} {actions : List (Action α)}
    {accesses : List (Access α)} (hprogress : Progress task held actions accesses []) :
    ∃ parts, List.Forall₂ Action.Done actions parts ∧ accesses = parts.flatten := by
  generalize hturns : [] = turns at hprogress
  induction hprogress with
  | ahead actions =>
      have hnone := List.flatMap_eq_nil_iff.mp hturns.symm
      refine ⟨actions.map fun _ => [], ?_, ?_⟩
      · rw [List.forall₂_map_right_iff]
        exact List.forall₂_same.mpr fun action haction =>
          done_of_turns_eq_nil (hnone action haction)
      · simp
  | @done action accesses hdone actions others left _ ih =>
      obtain ⟨parts, hparts, rfl⟩ := ih hturns
      exact ⟨accesses :: parts, .cons hdone hparts, rfl⟩
  | halfway hother hheld actions => exact nomatch hturns

namespace Sharers

variable {c : Sharers α} {actions : Nat → List (Action α)} {accesses : Nat → List (Access α)}

/-- A turn of one task keeps the progress of all tasks. -/
theorem progress_take
    (hprogress : ∀ task,
      Progress task (c.shared.held task) (actions task) (accesses task) (c.left task))
    (who task : Nat) :
    Progress task ((c.take who).shared.held task) (actions task)
      (accesses task ++ own task ((c.access? who).map (who, ·)).toList)
      ((c.take who).left task) := by
  have hwho := hprogress who
  unfold take access?
  cases hleft : c.left who with
  | nil => simpa [own] using hprogress task
  | cons turn rest =>
      rw [hleft] at hwho
      obtain ⟨⟨access, haccess, hadvanced⟩, hothers⟩ := hwho.advance
      simp only [List.head?_cons, Option.bind_some, haccess, Option.map_some, Option.toList_some]
      by_cases hsame : task = who
      · subst hsame
        simpa [own] using hadvanced
      · -- The turn of another task leaves alone what this one holds.
        simpa [own, hothers task hsame, hsame, Ne.symm hsame] using hprogress task

/-- In whatever order tasks take turns, each of them carries out its actions in order. -/
theorem progress_run
    (hprogress : ∀ task,
      Progress task (c.shared.held task) (actions task) (accesses task) (c.left task))
    (schedule : List Nat) (task : Nat) :
    Progress task ((c.run schedule).shared.held task) (actions task)
      (accesses task ++ own task (c.accesses schedule)) ((c.run schedule).left task) := by
  induction schedule generalizing c accesses with
  | nil => simpa [own, Sharers.accesses, run] using hprogress task
  | cons who schedule ih =>
      have hrun := ih (progress_take hprogress who)
      rw [List.append_assoc, own, own, ← List.filterMap_append] at hrun
      exact hrun

end Sharers

/-! ## The property -/

/-- The contents of ledgers and the progress of tasks, given all accesses in the order of the
locks. -/
structure Accounted (s : Shared α) (actions : Nat → List (Action α)) (c : Sharers α)
    (accesses : List (Nat × Access α)) : Prop where
  /-- A ledger holds its entries at the start and the batches that were appended to it, each of them
  whole and in the order of the locks. -/
  content : ∀ ledger, (c.shared.ledger ledger).entries =
    (s.ledger ledger).entries ++ appendedTo ledger accesses
  /-- The accesses of each task are those of its actions, in order, up to its progress. -/
  progress : ∀ task,
    Progress task (c.shared.held task) (actions task) (own task accesses) (c.left task)
  /-- A task without turns has completed all its actions. -/
  finished : ∀ task, c.left task = [] →
    ∃ parts, List.Forall₂ Action.Done (actions task) parts ∧ own task accesses = parts.flatten
  /-- A snapshot or the first turn of a merge sees the entries of the ledger at that moment. -/
  saw : ∀ before task source entries after,
    accesses = before ++ (task, .saw source entries) :: after →
      entries = (s.ledger source).entries ++ appendedTo source before
  /-- The entries seen by an access are a prefix of those seen by a later access to the same
  ledger. -/
  grows : ∀ before task task' source entries entries' between after,
    accesses = before ++ (task, .saw source entries) ::
        (between ++ (task', .saw source entries') :: after) →
      entries <+: entries'

/-- A merge appends nothing to its source. -/
theorem Action.Done.spares {source target : Nat} {accesses : List (Access α)}
    (hdone : Action.Done (.merge source target) accesses) {access : Access α}
    (haccess : access ∈ accesses) : access.batch source = [] := by
  cases hdone with
  | merge hother entries =>
      rcases List.mem_pair.mp haccess with rfl | rfl
      · rfl
      · exact if_neg (Ne.symm hother)
  | itself ledger => exact nomatch haccess

/-- A merge of a ledger into itself. -/
def Action.ontoItself : Action α → Bool
  | merge source target => source == target
  | add _ _ | addAll _ _ | snapshot _ => false

theorem Action.turns_of_ontoItself {action : Action α} (hitself : action.ontoItself = true)
    (task : Nat) : action.turns task = [] := by
  cases action with
  | merge source target => exact if_pos (beq_iff_eq.mp hitself)
  | add target entry => exact nomatch hitself
  | addAll target batch => exact nomatch hitself
  | snapshot source => exact nomatch hitself

/-- Without the merges of ledgers into themselves, tasks have the same turns. -/
theorem start_without_ontoItself (s : Shared α) (actions : Nat → List (Action α)) :
    Sharers.start s (fun task => (actions task).filter (!·.ontoItself)) =
      Sharers.start s actions := by
  refine congrArg (Sharers.mk s) (funext fun task => ?_)
  show ((actions task).filter (!·.ontoItself)).flatMap (Action.turns task) = _
  induction actions task with
  | nil => rfl
  | cons action rest ih =>
      rw [List.filter_cons, List.flatMap_cons, ← ih]
      cases hitself : action.ontoItself with
      | true => rw [action.turns_of_ontoItself hitself]; rfl
      | false => rfl

/-- The contents and the progress are as stated after any turns in any order. -/
theorem accounted_run (s : Shared α) (actions : Nat → List (Action α)) (schedule : List Nat) :
    Accounted s actions ((Sharers.start s actions).run schedule)
      ((Sharers.start s actions).accesses schedule) := by
  have hahead : ∀ task, Progress task ((Sharers.start s actions).shared.held task) (actions task) []
      ((Sharers.start s actions).left task) := fun task => .ahead (actions task)
  have hprogress := Sharers.progress_run hahead schedule
  have hsaw : ∀ before task source entries after,
      (Sharers.start s actions).accesses schedule = before ++ (task, .saw source entries) :: after →
        entries = (s.ledger source).entries ++ appendedTo source before :=
    fun before task source entries after hsplit => Sharers.saw_accesses hsplit
  exact
    { content := Sharers.entries_run (Sharers.start s actions) schedule
      progress := hprogress
      finished := fun task hleft => (hleft ▸ hprogress task).finished
      saw := hsaw
      grows := fun before task task' source entries entries' between after hsplit => by
        have hlater := hsaw (before ++ (task, .saw source entries) :: between) task' source entries'
          after (by rw [hsplit, List.append_assoc, List.cons_append])
        rw [hsaw _ _ _ _ _ hsplit, hlater, appendedTo, appendedTo, List.flatMap_append,
          ← List.append_assoc]
        exact List.prefix_append _ _ }

/-- Ledgers that any number of tasks share, and that they merge into each other in any way, lose and
duplicate no entries, in any order of turns.  A merge appends to its target the entries that it read
from its source, leaves the source unchanged, and takes no turns if the two are the same ledger. -/
theorem nothing_lost_or_duplicated (s : Shared α) (actions : Nat → List (Action α))
    (schedule : List Nat) :
    Accounted s actions ((Sharers.start s actions).run schedule)
        ((Sharers.start s actions).accesses schedule) ∧
      (∀ source target (accesses : List (Access α)), Action.Done (.merge source target) accesses →
        ∀ access ∈ accesses, access.batch source = []) ∧
      Sharers.start s (fun task => (actions task).filter (!·.ontoItself)) =
        Sharers.start s actions :=
  ⟨accounted_run s actions schedule, fun _ _ _ hdone _ haccess => hdone.spares haccess,
    start_without_ontoItself s actions⟩

/-- Two ledgers that hold one number each. -/
def twoNumbers : Shared Nat :=
  { Shared.empty with ledger := fun ledger => { entries := [ledger] } }

/-- Two tasks merge the ledgers into each other. -/
def eachOther : Nat → List (Action Nat)
  | 0 => [.merge 1 0]
  | 1 => [.merge 0 1]
  | _ => []

-- Both tasks have read before either of them appends.
example : ((Sharers.start twoNumbers eachOther).run [0, 1, 1, 0]).shared.ledger 0 = ⟨[0, 1]⟩ :=
  rfl

-- The second task reads what the first one has appended.
example : ((Sharers.start twoNumbers eachOther).run [0, 0, 1, 1]).shared.ledger 1 = ⟨[1, 0, 1]⟩ :=
  rfl

/-! ## Without interruption -/

/-- A merge that is not interrupted appends all entries of the other ledger. -/
theorem Shared.ledger_merge (s : Shared α) {source target : Nat} (hother : source ≠ target) :
    (s.merge source target).ledger target =
      (s.ledger target).addAll (s.ledger source).entries := by
  simp [merge, mergeTurns, hother, run, step, append]

/-- The ledgers of an operation are merged by two such merges. -/
theorem Ledgers.merge_eq (calls : Shared CallRecord) (errors : Shared Failure)
    {source target : Nat} (hother : source ≠ target) :
    Ledgers.merge ⟨calls.ledger target, errors.ledger target⟩
        ⟨calls.ledger source, errors.ledger source⟩ =
      ⟨(calls.merge source target).ledger target, (errors.merge source target).ledger target⟩ := by
  rw [Shared.ledger_merge calls hother, Shared.ledger_merge errors hother, Ledgers.merge]

end Audit
end SupplierGateway
