import HostErrorMonitor.Guarantees.EdgeLogging
import HostErrorMonitor.Guarantees.ProcessStart
import HostErrorMonitor.Spec.MonitorClasses

/-!
# What the other monitors of the process log

An edge-driven monitor does not hear of the host: its log is the entries of its
reports, whatever is delivered. The monitors that check their CPU do so once when they are constructed
and once for each notification.
-/
namespace HostErrorMonitor.Guarantees
open HostErrorMonitor.Source HostErrorMonitor.Spec Reactive

section edge
variable {π : Type} {h : GPIOHandlers π}

theorem exec_edgesMet (n : Nat) (s : BaseGPIOMonitor π) (tr : List GPIOEvent) :
    (gpioMachine h).exec (s, tr) (List.replicate n .edge) =
      some ((edgesMet n s).1, tr ++ (edgesMet n s).2) := by
  induction n generalizing s tr with
  | zero => simp [edgesMet]
  | succ n ih =>
    rw [List.replicate_succ]
    refine (gpioMachine h).exec_cons.mpr
      ⟨((BaseGPIOMonitor.edge s).1, tr ++ (BaseGPIOMonitor.edge s).2), rfl, ?_⟩
    rw [ih]
    simp [edgesMet]

theorem edgesMet_idle (n : Nat) (s : BaseGPIOMonitor π) :
    (edgesMet n s).1.valid = s.valid ∧ (edgesMet n s).1.monitoring = s.monitoring := by
  induction n generalizing s with
  | zero => exact ⟨rfl, rfl⟩
  | succ n ih => exact ih (BaseGPIOMonitor.edge s).1

/-- The constructor of an edge-driven monitor as a run: the edges that it meets, and
`startMonitoring`. -/
theorem constructEdge_run (l : ValidLine) (assertValue : AssertValue) (published : π) (edges : Nat) :
    (gpioMachine h).exec (l.initial assertValue published)
      (List.replicate edges .edge ++ [.startMonitoring]) =
        some (constructEdge h edges (l.initial assertValue published).1) := by
  obtain ⟨valid, idle⟩ := edgesMet_idle edges (l.initial assertValue published).1
  have requested : (l.initial assertValue published).1.valid = true := l.valid
  rw [requested] at valid
  have starts : constructEdge h edges (l.initial assertValue published).1 =
      ((BaseGPIOMonitor.startMonitoring h
          { (edgesMet edges (l.initial assertValue published).1).1 with monitoring := true }).1,
        (edgesMet edges (l.initial assertValue published).1).2 ++
          (BaseGPIOMonitor.startMonitoring h
            { (edgesMet edges (l.initial assertValue published).1).1 with monitoring := true }).2) :=
    if_pos valid
  rw [starts]
  refine (gpioMachine h).exec_concat.mpr ⟨_, exec_edgesMet edges _ _, ?_⟩
  exact (gpioMachine h).next_some.mpr ⟨_, _, if_pos ⟨valid, idle⟩, rfl⟩

/-- The monitor runs as it would alone. -/
def RunsAlone (h : GPIOHandlers π) (requested : BaseGPIOMonitor π × List GPIOEvent) (edges : Nat)
    (s : BaseGPIOMonitor π) (tr : List GPIOEvent) (_ : Nat) : Prop :=
  ∃ post, (gpioMachine h).exec requested (List.replicate edges .edge ++ .startMonitoring :: post) =
    some (s, tr)

theorem runsAlone_step {requested : BaseGPIOMonitor π × List GPIOEvent} {edges : Nat}
    {s s' : BaseGPIOMonitor π} {tr out : List GPIOEvent} {n : Nat} {i : GPIOInput}
    (alone : RunsAlone h requested edges s tr n)
    (step : (gpioMachine h).step s i = some (s', out)) :
    RunsAlone h requested edges s' (tr ++ out) n := by
  obtain ⟨post, run⟩ := alone
  refine ⟨post ++ [i], ?_⟩
  rw [← List.cons_append, ← List.append_assoc]
  exact (gpioMachine h).exec_concat.mpr ⟨_, run, (gpioMachine h).next_some.mpr ⟨s', out, step, rfl⟩⟩

theorem edge_keeps {requested : BaseGPIOMonitor π × List GPIOEvent} {l : ValidLine}
    {assertValue : AssertValue} {published : π} (same : requested = l.initial assertValue published)
    (edges : Nat) : Keeps (edgeClass h edges requested.1) (RunsAlone h requested edges) where
  constructed _ _ := by
    subst same
    exact ⟨[], constructEdge_run l assertValue published edges⟩
  hostState _ _ _ _ alone := alone
  notified _ s _ _ tr _ alone same := by
    cases same
    exact (List.append_nil tr).symm ▸ alone
  own _ _ _ _ _ _ alone step := runsAlone_step alone step

end edge

/-- The presence was read once; each check since then acts on what was read. -/
def ChecksPresence (cpuNum : Nat) (l : InputLine) (s : CPUPresenceMonitor) (tr : List CheckEvent)
    (n : Nat) : Prop :=
  ∃ present, CPUPresenceMonitor.getCPUPresence l = some present ∧ s.cpuPresent = some present ∧
    tr = .getValue present :: (List.replicate (n + 1)
      (if present then [] else CPUPresenceMonitor.cpuPresenceAssertHandler cpuNum)).flatten

theorem checkCPUPresence_eq {cpuNum : Nat} {s : CPUPresenceMonitor} {present : Bool}
    (read : s.cpuPresent = some present) : CPUPresenceMonitor.checkCPUPresence cpuNum s =
      if present then [] else CPUPresenceMonitor.cpuPresenceAssertHandler cpuNum := by
  unfold CPUPresenceMonitor.checkCPUPresence
  rw [read]
  cases present <;> rfl

theorem presence_constructed {cpuNum : Nat} {l : InputLine}
    (valid : (CPUPresenceMonitor.construct cpuNum l).1.valid = true) :
    ChecksPresence cpuNum l (CPUPresenceMonitor.construct cpuNum l).1
      (CPUPresenceMonitor.construct cpuNum l).2 0 := by
  unfold CPUPresenceMonitor.construct at valid ⊢
  cases read : CPUPresenceMonitor.getCPUPresence l with
  | none =>
    rw [read] at valid
    cases valid
  | some present =>
    have checked := @checkCPUPresence_eq cpuNum ⟨false, some present, l.high⟩ present rfl
    refine ⟨present, read, rfl, ?_⟩
    simp only [Nat.zero_add, List.replicate_one, List.flatten_singleton]
    rw [checked]

theorem presence_notified {cpuNum : Nat} {l : InputLine} {s : CPUPresenceMonitor}
    {tr : List CheckEvent} {n : Nat} (checks : ChecksPresence cpuNum l s tr n) :
    ChecksPresence cpuNum l s (tr ++ CPUPresenceMonitor.checkCPUPresence cpuNum s) (n + 1) := by
  obtain ⟨present, read, kept, rfl⟩ := checks
  refine ⟨present, read, kept, ?_⟩
  have again : ∀ entries : List CheckEvent, (List.replicate (n + 1 + 1) entries).flatten =
      (List.replicate (n + 1) entries).flatten ++ entries := by
    intro entries
    rw [List.replicate_succ', List.flatten_append, List.flatten_singleton]
  rw [checkCPUPresence_eq kept, again, List.cons_append]

theorem presence_keeps (cpuNum : Nat) (l : InputLine) :
    Keeps (cpuPresenceClass cpuNum l) (ChecksPresence cpuNum l) where
  constructed _ valid := presence_constructed valid
  hostState _ _ _ _ checks := checks
  notified _ _ _ _ _ _ checks step := by
    cases step
    exact presence_notified checks
  own _ i _ _ tr _ checks step := by
    cases i with
    | edge =>
      cases step
      exact (List.append_nil tr).symm ▸ checks
    | hostOn => cases step

/-- Each check acts on the level that it reads. -/
def ChecksMismatch (cpuNum : Nat) (s : CPUMismatchMonitor) (tr : List CheckEvent) (n : Nat) : Prop :=
  s.valid = true ∧ ∃ levels : List Bool, levels.length = n + 1 ∧
    tr = levels.flatMap fun mismatch =>
      if mismatch then [.getValue true, .logMessage (CPUMismatchMonitor.cpuMismatchLog cpuNum)]
      else [.getValue false]

theorem mismatch_constructed {cpuNum : Nat} {l : InputLine}
    (valid : (CPUMismatchMonitor.construct cpuNum l).1.valid = true) :
    ChecksMismatch cpuNum (CPUMismatchMonitor.construct cpuNum l).1
      (CPUMismatchMonitor.construct cpuNum l).2 0 := by
  refine ⟨valid, ?_⟩
  unfold CPUMismatchMonitor.construct at valid ⊢
  split
  next requested =>
    refine ⟨[CPUMismatchMonitor.cpuMismatchAsserted ⟨false, l.high⟩], rfl, ?_⟩
    rw [List.flatMap_singleton]
    rfl
  next invalid =>
    rw [if_neg invalid] at valid
    cases valid

theorem mismatch_notified {cpuNum : Nat} {s : CPUMismatchMonitor} {tr : List CheckEvent} {n : Nat}
    (checks : ChecksMismatch cpuNum s tr n) :
    ChecksMismatch cpuNum s (tr ++ CPUMismatchMonitor.checkCPUMismatch cpuNum s) (n + 1) := by
  obtain ⟨valid, levels, length, rfl⟩ := checks
  refine ⟨valid, levels ++ [CPUMismatchMonitor.cpuMismatchAsserted s], ?_, ?_⟩
  · rw [List.length_append, length]
    rfl
  · rw [List.flatMap_append, List.flatMap_singleton]
    rfl

theorem mismatch_keeps (cpuNum : Nat) (l : InputLine) :
    Keeps (cpuMismatchClass cpuNum l) (ChecksMismatch cpuNum) where
  constructed _ valid := mismatch_constructed valid
  hostState _ _ _ _ checks := checks
  notified _ s _ _ _ _ checks step := by
    have checked : (CPUMismatchMonitor.machine cpuNum).step s .hostOn =
        some (s, CPUMismatchMonitor.checkCPUMismatch cpuNum s) := if_pos checks.1
    have both := Option.some.inj (checked.symm.trans step)
    cases both
    exact mismatch_notified checks
  own _ i _ _ tr _ checks step := by
    cases i with
    | edge =>
      cases step
      exact (List.append_nil tr).symm ▸ checks
    | hostOn => cases step

variable {κ : Type} [DecidableEq κ]

/-- In every state of every run of the process in which its queue is empty, the log of
an edge-driven monitor is the entries of its class for each report that the code makes,
whatever is delivered and whichever monitors run beside it. -/
theorem process_log_follows_reports (listing : Listing (Option κ)) (others : κ → MonitorClass)
    (cls : EdgeClass) (l : ValidLine) (edges : Nat)
    (is : List (ProcessInput (listing.among (edgeClass cls.logger.handlers edges (cls.initial l).1)
      others))) :
    (listing.among (edgeClass cls.logger.handlers edges (cls.initial l).1) others).process.Always
      (fun c => ∀ s : BaseGPIOMonitor cls.logger.π, c.1.monitors none = some s → s.unread = [] →
        logOf (ownEvents (eventsOf none c.2)) =
          (List.range (reportsMade l cls.logger.assertValue (List.replicate edges .edge)
            (ownEvents (eventsOf none c.2)))).flatMap cls.logger.entries) ({}, []) is := by
  intro pre post c split run s present processed
  have kept := @always_kept _ _
    (listing.among (edgeClass cls.logger.handlers edges (cls.initial l).1) others) none _
    (edge_keeps (h := cls.logger.handlers) (cls.initial_eq l) edges) is
  obtain ⟨_, alone⟩ := kept pre post c split run s present
  obtain ⟨logged, reports⟩ := logged_reports cls alone processed
  exact logged.log.trans
    (congrArg (fun made => (List.range made).flatMap cls.logger.entries) reports)

end HostErrorMonitor.Guarantees
