import HostErrorMonitor.Guarantees.EdgeReports
import HostErrorMonitor.Guarantees.ErrPinAttribution
import HostErrorMonitor.Source.LogMonitors

/-!
# The log of an edge-driven monitor

A monitor of this kind logs in `assertHandler` and nowhere else, so its log is the
entries of its reports, one report after the other. Once the queue is empty it has
made `reportsMade` of them: one for each edge to the asserted level, those from
before the level read included, and one more if that read found the line asserted.
-/
namespace HostErrorMonitor.Guarantees
open Reactive Source BaseGPIOMonitor

variable {π : Type} {h : GPIOHandlers π}

/-- The `k`-th `assertHandler` logs `entries k`, and `deassertHandler` nothing;
`after` is what is published then. -/
structure LogsOnAssert (h : GPIOHandlers π) (entries : Nat → List LogEntry) (after : π → Nat → Prop) :
    Prop where
  asserting : ∀ p k, after p k →
    (h.assertHandler p).2 = entries k ∧ after (h.assertHandler p).1 (k + 1)
  deasserting : ∀ p k, after p k → (h.deassertHandler p).2 = [] ∧ after (h.deassertHandler p).1 k

def entryOf : GPIOEvent → Option LogEntry
  | .logMessage entry => some entry
  | _ => none

/-- The entries of a trace. -/
def logOf (tr : List GPIOEvent) : List LogEntry := tr.filterMap entryOf

theorem logOf_append (tr out : List GPIOEvent) : logOf (tr ++ out) = logOf tr ++ logOf out :=
  List.filterMap_append

theorem logOf_handling (level : Bool) (published : π) :
    logOf (handling h level published) = (handled h level published).2 := by
  have logged : ∀ entries : List LogEntry, logOf (entries.map .logMessage) = entries := by
    intro entries
    unfold logOf
    rw [List.filterMap_map]
    exact List.filterMap_some
  unfold handling
  rw [← List.singleton_append, logOf_append, logOf_append, logged]
  cases level <;> exact List.append_nil _

theorem count_handling (level : Bool) (published : π) :
    (handling h level published).count .assertHandler = level.toNat := by
  have unreported : ∀ entries : List LogEntry,
      (entries.map GPIOEvent.logMessage).count .assertHandler = 0 := by
    intro entries
    rw [List.count_eq_zero]
    intro member
    obtain ⟨_, _, same⟩ := List.mem_map.mp member
    cases same
  unfold handling
  rw [List.count_append, List.count_cons, unreported]
  cases level <;> rfl

/-- The log is the entries of the reports so far. -/
structure Logged (entries : Nat → List LogEntry) (after : π → Nat → Prop)
    (c : BaseGPIOMonitor π × List GPIOEvent) : Prop where
  published : after c.1.published (c.2.count .assertHandler)
  log : logOf c.2 = (List.range (c.2.count .assertHandler)).flatMap entries

theorem logged_handling {entries : Nat → List LogEntry} {after : π → Nat → Prop}
    (logs : LogsOnAssert h entries after) {c : BaseGPIOMonitor π × List GPIOEvent}
    (before : Logged entries after c) (level : Bool) {s : BaseGPIOMonitor π}
    (wrote : s.published = (handled h level c.1.published).1) :
    Logged entries after (s, c.2 ++ handling h level c.1.published) := by
  obtain ⟨published, log⟩ := before
  cases level with
  | true =>
    obtain ⟨logged, later⟩ := logs.asserting _ _ published
    constructor
    · rw [List.count_append, count_handling, wrote]
      exact later
    · rw [logOf_append, logOf_handling, log, List.count_append, count_handling]
      show _ ++ (h.assertHandler c.1.published).2 = _
      rw [logged, Bool.toNat_true, List.range_succ, List.flatMap_append, List.flatMap_singleton]
  | false =>
    obtain ⟨silent, same⟩ := logs.deasserting _ _ published
    constructor
    · rw [List.count_append, count_handling, wrote]
      exact same
    · rw [logOf_append, logOf_handling, log, List.count_append, count_handling]
      show _ ++ (h.deassertHandler c.1.published).2 = _
      rw [silent, List.append_nil, Bool.toNat_false, Nat.add_zero]

theorem logged_step {entries : Nat → List LogEntry} {after : π → Nat → Prop}
    (logs : LogsOnAssert h entries after) {c c' : BaseGPIOMonitor π × List GPIOEvent} {i : GPIOInput}
    (before : Logged entries after c) (next : (gpioMachine h).next c i = some c') :
    Logged entries after c' := by
  obtain ⟨s', out, step, rfl⟩ := (gpioMachine h).next_some.mp next
  rcases gpio_step_cases step with ⟨_, rfl, rfl⟩ | ⟨_, _, _, rfl, rfl⟩ | ⟨_, _, _, rfl, rfl⟩ |
    ⟨_, _, rfl, rfl⟩ | ⟨event, rest, _, _, _, rfl, rfl⟩
  · obtain ⟨published, log⟩ := before
    constructor
    · simpa [List.count_append] using published
    · rw [logOf_append, log, List.count_append]
      exact List.append_nil _
  · exact logged_handling logs before _ rfl
  · rw [List.append_nil]
    exact ⟨before.published, before.log⟩
  · rw [List.append_nil]
    exact ⟨before.published, before.log⟩
  · exact logged_handling logs before _ rfl

theorem logged_of_run {entries : Nat → List LogEntry} {after : π → Nat → Prop}
    (logs : LogsOnAssert h entries after) {c₀ c : BaseGPIOMonitor π × List GPIOEvent}
    {is : List GPIOInput} (begins : after c₀.1.published 0) (silent : c₀.2 = [])
    (run : (gpioMachine h).exec c₀ is = some c) : Logged entries after c :=
  (gpioMachine h).invariant (fun _ _ _ before _ next => logged_step logs before next)
    ⟨by rw [silent]; exact begins, by rw [silent]; rfl⟩ ((gpioMachine h).along_true _ is) run

/-- A class of these monitors, with what its reports log. -/
structure EdgeLogger where
  π : Type
  handlers : GPIOHandlers π
  assertValue : AssertValue
  published : π
  entries : Nat → List LogEntry
  after : π → Nat → Prop
  begins : after published 0
  logs : LogsOnAssert handlers entries after

/-- All reports log the same, whatever is published. -/
def alike {π : Type} (handlers : GPIOHandlers π) (assertValue : AssertValue) (published : π)
    (entries : List LogEntry) (asserting : ∀ p, (handlers.assertHandler p).2 = entries)
    (deasserting : ∀ p, (handlers.deassertHandler p).2 = []) : EdgeLogger where
  π := π
  handlers := handlers
  assertValue := assertValue
  published := published
  entries := fun _ => entries
  after := fun _ _ => True
  begins := trivial
  logs := ⟨fun p _ _ => ⟨asserting p, trivial⟩, fun p _ _ => ⟨deasserting p, trivial⟩⟩

/-- The presence that was read does not change. -/
def cpldCRCLogger (cpuNum : Nat) (present : Bool) : EdgeLogger where
  π := Option Bool
  handlers := CPLDCRCMonitor.handlers cpuNum
  assertValue := CPLDCRCMonitor.assertValue
  published := some present
  entries := fun _ => if present then [CPLDCRCMonitor.logEvent cpuNum] else []
  after := fun p _ => p = some present
  begins := rfl
  logs := by
    constructor
    · rintro p k rfl
      cases present <;> exact ⟨rfl, rfl⟩
    · rintro p k rfl
      exact ⟨rfl, rfl⟩

/-- Each report samples the CPUs anew. -/
def errPinLogger (n : Nat) (lib : Libpeci) (pecis : Nat → Peci) (errPin : Nat) : EdgeLogger where
  π := ErrPinMonitor n
  handlers := ErrPinMonitor.handlers n lib pecis errPin
  assertValue := ErrPinMonitor.assertValue
  published := ⟨0#n, 0⟩
  entries := fun k => (ErrPinMonitor.logEvent lib (pecis k) errPin 0#n).2
  after := fun m k => m.samples = k
  begins := rfl
  logs := by
    constructor
    · rintro m k rfl
      exact ⟨rfl, rfl⟩
    · rintro m k rfl
      exact ⟨rfl, rfl⟩

/-- The classes, with what their constructors are given. A monitor of CPLD CRC errors
whose `getCPUPresence` fails is not valid, and an ERR pin is a bit of ERRPINSTS. -/
inductive EdgeClass where
  | memhot (cpuNum : Nat)
  | prochot (cpuNum : Nat)
  | vrHot (vrName : String)
  | cpuEarlyError (cpuNum : Nat)
  | mcerr (assertValue : AssertValue) (cpuNum : Nat)
  | cpuThermtrip (cpuNum : Nat) (signalName customName : String)
  | memThermtrip (cpuNum : Nat) (signalName customName : String)
  | pchThermtrip
  | cpldCRC (cpuNum : Nat) (cpuPresenceLine : InputLine) (present : Bool)
      (read : CPLDCRCMonitor.getCPUPresence cpuPresenceLine = some present)
  | errPin (n : Nat) (lib : Libpeci) (pecis : Nat → Peci) (errPin : Nat) (errPin_lt : errPin < 32)

namespace EdgeClass

def logger : EdgeClass → EdgeLogger
  | .memhot cpuNum => alike (MemhotMonitor.handlers cpuNum) MemhotMonitor.assertValue ()
      [MemhotMonitor.logEvent cpuNum] (fun _ => rfl) fun _ => rfl
  | .prochot cpuNum => alike (ProchotMonitor.handlers cpuNum) ProchotMonitor.assertValue ()
      [ProchotMonitor.logEvent cpuNum] (fun _ => rfl) fun _ => rfl
  | .vrHot vrName => alike (VRHotMonitor.handlers vrName) VRHotMonitor.assertValue ()
      [VRHotMonitor.logEvent vrName] (fun _ => rfl) fun _ => rfl
  | .cpuEarlyError cpuNum => alike (CPUEarlyErrorMonitor.handlers cpuNum)
      CPUEarlyErrorMonitor.assertValue () [CPUEarlyErrorMonitor.logEvent cpuNum] (fun _ => rfl)
      fun _ => rfl
  | .mcerr assertValue cpuNum => alike (MCERRMonitor.handlers cpuNum) assertValue ()
      [MCERRMonitor.logEvent cpuNum] (fun _ => rfl) fun _ => rfl
  | .cpuThermtrip cpuNum signalName customName => alike (CPUThermtripMonitor.handlers cpuNum)
      CPUThermtripMonitor.assertValue (addAssertInterface signalName customName thermalTripInterface)
      [CPUThermtripMonitor.cpuThermTripLog cpuNum] (fun _ => rfl) fun _ => rfl
  | .memThermtrip cpuNum signalName customName => alike (MemThermtripMonitor.handlers cpuNum)
      MemThermtripMonitor.assertValue (addAssertInterface signalName customName thermalTripInterface)
      (MemThermtripMonitor.logEvent cpuNum (addAssertInterface signalName customName
        thermalTripInterface)).2 (fun _ => rfl) fun _ => rfl
  | .pchThermtrip => alike PCHThermtripMonitor.handlers PCHThermtripMonitor.assertValue noAssociations
      (PCHThermtripMonitor.logEvent noAssociations).2 (fun _ => rfl) fun _ => rfl
  | .cpldCRC cpuNum _ present _ => cpldCRCLogger cpuNum present
  | .errPin n lib pecis pin _ => errPinLogger n lib pecis pin

/-- The monitor as its constructor calls `startMonitoring`. -/
def initial (l : ValidLine) : (cls : EdgeClass) → BaseGPIOMonitor cls.logger.π × List GPIOEvent
  | .memhot _ => l.initial MemhotMonitor.assertValue ()
  | .prochot _ => l.initial ProchotMonitor.assertValue ()
  | .vrHot _ => l.initial VRHotMonitor.assertValue ()
  | .cpuEarlyError _ => l.initial CPUEarlyErrorMonitor.assertValue ()
  | .mcerr assertValue _ => l.initial assertValue ()
  | .cpuThermtrip _ signalName customName => CPUThermtripMonitor.initial l signalName customName
  | .memThermtrip _ signalName customName => MemThermtripMonitor.initial l signalName customName
  | .pchThermtrip => PCHThermtripMonitor.initial l
  | .cpldCRC _ cpuPresenceLine _ _ => CPLDCRCMonitor.initial l cpuPresenceLine
  | .errPin n _ _ _ _ => ErrPinMonitor.initial n l

end EdgeClass

/-- A monitor of CPLD CRC errors starts with the presence that it has read. -/
theorem cpldCRC_initial {cpuPresenceLine : InputLine} {present : Bool} (l : ValidLine)
    (read : CPLDCRCMonitor.getCPUPresence cpuPresenceLine = some present) :
    CPLDCRCMonitor.initial l cpuPresenceLine =
      l.initial CPLDCRCMonitor.assertValue (some present) := by
  unfold CPLDCRCMonitor.initial CPLDCRCMonitor.construct
  rw [read]
  rfl

theorem EdgeClass.initial_eq (cls : EdgeClass) (l : ValidLine) :
    cls.initial l = l.initial cls.logger.assertValue cls.logger.published := by
  cases cls with
  | cpldCRC cpuNum cpuPresenceLine present read => exact cpldCRC_initial l read
  | _ => rfl

/-- The reports that the code makes: one for each edge to the asserted level, and one if
the level that `startMonitoring` reads, after the edges of `pre`, is asserted. So an
assertion that begins in between and lasts is reported twice, and one that the request
met and the level read does not is never reported. -/
def reportsMade (l : ValidLine) (assertValue : AssertValue) (pre : List GPIOInput)
    (tr : List GPIOEvent) : Nat :=
  tr.count (.edge true) + (l.assertedAtRequest assertValue ^^ (pre.count .edge % 2 == 1)).toNat

/-- The monitor has logged as it reported, and it has made these reports. -/
theorem logged_reports (cls : EdgeClass) {l : ValidLine} {pre post : List GPIOInput}
    {c : BaseGPIOMonitor cls.logger.π × List GPIOEvent}
    (run : (gpioMachine cls.logger.handlers).exec (cls.initial l)
      (pre ++ .startMonitoring :: post) = some c) (processed : c.1.unread = []) :
    Logged cls.logger.entries cls.logger.after c ∧
      c.2.count .assertHandler = reportsMade l cls.logger.assertValue pre c.2 := by
  rw [cls.initial_eq] at run
  exact ⟨logged_of_run cls.logger.logs cls.logger.begins rfl run, reports_of_run run processed⟩

/-- Once the queue is empty the log of a monitor is the entries of its class for each
report that the code makes, in their order, and nothing else. -/
theorem log_follows_reports (cls : EdgeClass) (l : ValidLine) (pre post : List GPIOInput)
    (c : BaseGPIOMonitor cls.logger.π × List GPIOEvent)
    (run : (gpioMachine cls.logger.handlers).exec (cls.initial l)
      (pre ++ .startMonitoring :: post) = some c)
    (processed : c.1.unread = []) :
    logOf c.2 = (List.range (reportsMade l cls.logger.assertValue pre c.2)).flatMap
      cls.logger.entries := by
  obtain ⟨logged, reports⟩ := logged_reports cls run processed
  rw [logged.log, reports]

/-- The monitor of ERR31, which CPU 0 shows at every sample. -/
def idlePin : EdgeClass := .errPin 8 libpeci (fun _ => showsErr31) 31 (Nat.lt_succ_self 31)

/-- The edge from before the level read is handled, then the pin is deasserted. -/
def deassertedLater : List GPIOInput :=
  [.eventCompletes, .eventHandler, .edge, .eventCompletes, .eventHandler]

/-- The pin is asserted once, between the line request and the level read, and that
assertion is reported twice, by the level and by its edge. -/
theorem log_follows_two_reports : ∃ c,
    (gpioMachine idlePin.logger.handlers).exec (idlePin.initial idleThermtripLine)
      ([.edge] ++ .startMonitoring :: deassertedLater) = some c ∧
    reportsMade idleThermtripLine idlePin.logger.assertValue [.edge] c.2 = 2 ∧
    logOf c.2 = (List.range (reportsMade idleThermtripLine idlePin.logger.assertValue [.edge] c.2)).flatMap
      idlePin.logger.entries :=
  ⟨_, rfl, by decide,
    log_follows_reports idlePin idleThermtripLine [.edge] deassertedLater _ rfl rfl⟩

end HostErrorMonitor.Guarantees
