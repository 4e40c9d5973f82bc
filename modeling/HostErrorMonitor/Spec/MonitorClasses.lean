import HostErrorMonitor.Source.Err2Monitor
import HostErrorMonitor.Source.IerrOverrides
import HostErrorMonitor.Source.PresenceMonitors
import HostErrorMonitor.Source.SmiMonitor
import HostErrorMonitor.Spec.HostedMonitor
import HostErrorMonitor.Spec.MonitorProcess

/-!
The classes of monitors as the template would list them. Only the polling monitors
read the host state, and only they and the two that check their CPU override
`hostOn`.
-/
namespace HostErrorMonitor.Spec
open HostErrorMonitor.Source Reactive

theorem pollMachine_valid {cfg : PollConfig} {s s' : BaseGPIOPollMonitor} {i : PollInput}
    {out : List PollEvent} (step : (pollMachine cfg).step s i = some (s', out)) :
    s'.valid = s.valid := by
  have polls : ∀ env s, (BaseGPIOPollMonitor.poll cfg env s).1.valid = s.valid := by
    intro env s
    rcases BaseGPIOPollMonitor.poll_cases cfg env s with ⟨_, result⟩ | ⟨_, _, result⟩ |
      ⟨_, _, result⟩ <;>
      simp [result, BaseGPIOPollMonitor.waitForEvent, BaseGPIOPollMonitor.armTimer,
        BaseGPIOPollMonitor.polled, BaseGPIOPollMonitor.elapse, BaseGPIOPollMonitor.edges,
        BaseGPIOPollMonitor.flushEvents_eq]
  rcases poll_step_cases step with ⟨_, rfl, _⟩ | ⟨_, _, rfl, _⟩ | ⟨_, _, rfl, _⟩ |
    ⟨_, _, rfl, _⟩ | ⟨_, _, _, _, rfl⟩ | ⟨_, _, _, _, _, rfl⟩ |
    ⟨env, off, _, run⟩ | ⟨env, _, _, run⟩ | ⟨env, _, _, run⟩
  · rfl
  · rfl
  · rfl
  · rfl
  · rfl
  · rfl
  · rw [BaseGPIOPollMonitor.hostOn_eq] at run
    cases run
    exact polls env _
  · rw [BaseGPIOPollMonitor.startPolling_eq] at run
    cases run
    exact polls env _
  · have kept := polls env { s with timerReady := s.timerReady - 1 }
    rw [run] at kept
    exact kept

theorem derivedMachine_valid {σ ε : Type} {o : PollOverrides σ ε} {cfg : PollConfig}
    {m m' : DerivedMonitor σ} {i : DerivedInput} {out : List (DerivedEvent ε)}
    (step : (derivedMachine o cfg).step m i = some (m', out)) : m'.base.valid = m.base.valid := by
  obtain ⟨events, answered⟩ := derived_step_base step
  rw [pollMachine_valid answered]
  cases i <;> rfl

/-- The line of a polling monitor as its constructor meets it. -/
structure PollLine where
  setup : LineSetup
  clock : Int
  line : Bool
  unread : Nat
  start : Surroundings

/-- A derived constructor: on a line that was set up it starts to poll. -/
def PollLine.construct {σ ε : Type} (l : PollLine)
    (initial : ValidPollLine → DerivedMonitor σ × List (DerivedEvent ε)) (timeoutMs : Nat) (own : σ)
    (hostOff : Bool) : DerivedMonitor σ × List (DerivedEvent ε) :=
  if valid : BaseGPIOPollMonitor.requestEvents l.setup = true then
    initial ⟨l.setup, valid, l.clock, l.line, l.unread, hostOff, l.start⟩
  else
    (⟨BaseGPIOPollMonitor.construct l.setup timeoutMs l.clock l.line l.unread hostOff, own⟩, [])

/-- A class of polling monitors. -/
def pollingClass {σ ε : Type} (o : PollOverrides σ ε) (cfg : PollConfig)
    (construct : Bool → DerivedMonitor σ × List (DerivedEvent ε)) : MonitorClass where
  State := DerivedMonitor σ
  Input := DerivedInput
  Event := DerivedEvent ε
  Meets := Surroundings
  construct := construct
  isValid m := m.base.valid
  hostState off m := { m with base := { m.base with hostOff := off } }
  hostOn w m := (derivedMachine o cfg).step m (.hostOn w)
  own :=
    { step := fun m i =>
        if fromHost i.toBase || fromProperty i then none else (derivedMachine o cfg).step m i }
  hostState_valid _ _ := rfl
  hostOn_valid _ _ _ _ step := derivedMachine_valid step
  hostOn_total w m _ := ⟨_, _, rfl⟩
  own_valid m i m' out step := by
    simp only at step
    split at step
    · cases step
    · exact derivedMachine_valid step

def smiClass (intBits : Nat) (intBits_ge : 32 ≤ intBits) (l : PollLine) : MonitorClass :=
  let cfg := SMIMonitor.config intBits intBits_ge
  pollingClass SMIMonitor.overrides cfg
    (l.construct (SMIMonitor.initial cfg) SMIMonitor.smiTimeoutMs ())

def errPinTimeoutClass (lib : Libpeci) (errPin intBits : Nat) (intBits_ge : 32 ≤ intBits)
    (l : PollLine) : MonitorClass :=
  let cfg := ErrPinTimeoutMonitor.config intBits intBits_ge
  pollingClass (ErrPinTimeoutMonitor.overrides lib.maxCPUs lib errPin) cfg
    (l.construct (ErrPinTimeoutMonitor.initial lib.maxCPUs lib errPin cfg)
      ErrPinTimeoutMonitor.errPinTimeoutMs (BitVec.ofNat lib.maxCPUs 0))

def err2Class (lib : Libpeci) (intBits : Nat) (intBits_ge : 32 ≤ intBits) (l : PollLine) :
    MonitorClass :=
  let cfg := ErrPinTimeoutMonitor.config intBits intBits_ge
  pollingClass (Err2Monitor.overrides lib.maxCPUs lib) cfg
    (l.construct (Err2Monitor.initial lib.maxCPUs lib cfg) ErrPinTimeoutMonitor.errPinTimeoutMs
      ⟨BitVec.ofNat lib.maxCPUs 0, noAssociations⟩)

/-- The inputs of the monitor of IERR that are the host's to give. -/
def ierrFromHost : IERRInput → Bool
  | .monitor i => fromHost i.toBase
  | .ierrTimeoutMs _ => false

theorem ierrMachine_valid {lib : Libpeci} {cfg : PollConfig} {m m' : DerivedMonitor IERRMonitor}
    {i : IERRInput} {out : List (DerivedEvent IERREffect)}
    (step : (ierrMachine lib cfg).step m i = some (m', out)) : m'.base.valid = m.base.valid := by
  rcases ierr_step_cases step with ⟨_, _, _, derived⟩ | ⟨_, _, _, rfl, _⟩ | ⟨_, _, _, rfl, _⟩
  · exact derivedMachine_valid derived
  · rfl
  · rfl

/-- The monitor of IERR; its property may be written at any time. -/
def ierrClass (lib : Libpeci) (intBits : Nat) (intBits_ge : 32 ≤ intBits) (l : PollLine)
    (signalName customName : String) : MonitorClass where
  State := DerivedMonitor IERRMonitor
  Input := IERRInput
  Event := DerivedEvent IERREffect
  Meets := Surroundings
  construct :=
    l.construct (fun v => IERRMonitor.initial lib (IERRMonitor.config intBits intBits_ge) v
      signalName customName) IERRMonitor.ierrTimeoutMsDefault
      { assertIERR := addAssertInterface signalName customName
          "xyz.openbmc_project.HostErrorMonitor.Processor.IERR"
        associationIERR := noAssociations
        ierrTimeoutMs := IERRMonitor.ierrTimeoutMsDefault }
  isValid m := m.base.valid
  hostState off m := { m with base := { m.base with hostOff := off } }
  hostOn w m := (ierrMachine lib (IERRMonitor.config intBits intBits_ge)).step m (.monitor (.hostOn w))
  own :=
    { step := fun m i =>
        if ierrFromHost i then none
        else (ierrMachine lib (IERRMonitor.config intBits intBits_ge)).step m i }
  hostState_valid _ _ := rfl
  hostOn_valid _ _ _ _ step := ierrMachine_valid step
  hostOn_total w m _ := ⟨_, _, rfl⟩
  own_valid m i m' out step := by
    simp only at step
    split at step
    · cases step
    · exact ierrMachine_valid step

/-- Edges that come between the request of a line and `startMonitoring`. -/
def edgesMet {π : Type} : Nat → BaseGPIOMonitor π → BaseGPIOMonitor π × List GPIOEvent
  | 0, s => (s, [])
  | n + 1, s =>
    let (s, first) := BaseGPIOMonitor.edge s
    let (s, rest) := edgesMet n s
    (s, first ++ rest)

/-- A derived constructor, when its line has been requested. -/
def constructEdge {π : Type} (h : GPIOHandlers π) (edges : Nat) (requested : BaseGPIOMonitor π) :
    BaseGPIOMonitor π × List GPIOEvent :=
  let (s, seen) := edgesMet edges requested
  if s.valid then
    let (s, out) := BaseGPIOMonitor.startMonitoring h { s with monitoring := true }
    (s, seen ++ out)
  else (s, seen)

theorem gpioMachine_valid {π : Type} {h : GPIOHandlers π} {s s' : BaseGPIOMonitor π} {i : GPIOInput}
    {out : List GPIOEvent} (step : (gpioMachine h).step s i = some (s', out)) :
    s'.valid = s.valid := by
  rcases gpio_step_cases step with ⟨_, _, rfl⟩ | ⟨_, _, _, _, rfl⟩ | ⟨_, _, _, _, rfl⟩ |
    ⟨_, _, _, rfl⟩ | ⟨_, _, _, _, _, _, rfl⟩ <;> rfl

/-- A class of edge-driven monitors; `hostOn` is that of `BaseMonitor`. -/
def edgeClass {π : Type} (h : GPIOHandlers π) (edges : Nat) (requested : BaseGPIOMonitor π) :
    MonitorClass where
  State := BaseGPIOMonitor π
  Input := GPIOInput
  Event := GPIOEvent
  Meets := Unit
  construct _ := constructEdge h edges requested
  isValid s := s.valid
  hostState _ s := s
  hostOn _ s := some (s, [])
  own := gpioMachine h
  hostState_valid _ _ := rfl
  hostOn_valid _ _ _ _ same := by
    cases same
    rfl
  hostOn_total _ s _ := ⟨s, [], rfl⟩
  own_valid _ _ _ _ step := gpioMachine_valid step

/-- The edges of a line, apart from the notifications. -/
def lineOnly {σ : Type} (m : Machine σ CheckInput CheckEvent) : Machine σ CheckInput CheckEvent where
  step s i := if i = .hostOn then none else m.step s i

def cpuPresenceClass (cpuNum : Nat) (l : InputLine) : MonitorClass where
  State := CPUPresenceMonitor
  Input := CheckInput
  Event := CheckEvent
  Meets := Unit
  construct _ := CPUPresenceMonitor.construct cpuNum l
  isValid s := s.valid
  hostState _ s := s
  hostOn _ s := (CPUPresenceMonitor.machine cpuNum).step s .hostOn
  own := lineOnly (CPUPresenceMonitor.machine cpuNum)
  hostState_valid _ _ := rfl
  hostOn_valid _ _ _ _ step := by
    cases step
    rfl
  hostOn_total _ s _ := ⟨_, _, rfl⟩
  own_valid s i s' out step := by
    cases i with
    | edge =>
      cases step
      rfl
    | hostOn => cases step

def cpuMismatchClass (cpuNum : Nat) (l : InputLine) : MonitorClass where
  State := CPUMismatchMonitor
  Input := CheckInput
  Event := CheckEvent
  Meets := Unit
  construct _ := CPUMismatchMonitor.construct cpuNum l
  isValid s := s.valid
  hostState _ s := s
  hostOn _ s := (CPUMismatchMonitor.machine cpuNum).step s .hostOn
  own := lineOnly (CPUMismatchMonitor.machine cpuNum)
  hostState_valid _ _ := rfl
  hostOn_valid _ s s' out step := by
    simp only [CPUMismatchMonitor.machine] at step
    split at step
    · cases step
      rfl
    · cases step
  hostOn_total _ s valid := ⟨s, _, if_pos valid⟩
  own_valid s i s' out step := by
    cases i with
    | edge =>
      cases step
      rfl
    | hostOn => cases step

end HostErrorMonitor.Spec
