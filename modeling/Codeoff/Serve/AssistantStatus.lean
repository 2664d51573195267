import Mathlib.Logic.Function.Basic
import Codeoff.Serve.CodexStream

/-!
# 会話に出す状態

会話（`AssistantStatusTarget`）ごとに、状態を送る係（dispatcher）が一つ、要るときに作られ、
済めば表から外される。
-/

namespace Codeoff.Serve

structure AssistantStatusTarget where
  channelId : String
  threadTs : String
deriving DecidableEq, Repr

inductive AssistantStatusCommand where
  | flushSet
  | clear (sessionId : Nat)
deriving DecidableEq, Repr

inductive StatusWorker where
  | idle
  | takingPending
  | checkingCurrent (sessionId : Nat) (state : AssistantState)
  /-- 状態を送っている。 -/
  | setting (sessionId : Nat) (state : AssistantState)
  | recordingVisible (sessionId : Nat)
  | checkingVisible (sessionId : Nat)
  /-- 状態を消している。 -/
  | clearing (sessionId : Nat)
  | settling (sessionId : Nat)
  | removing
deriving DecidableEq, Repr

/-- 係の状態、送られた命令、作業。番号 `0` は、セッションのないこと。 -/
structure AssistantStatusDispatcher where
  currentSessionId : Nat
  visibleSessionId : Nat
  pendingSet : Option (Nat × AssistantState)
  setFlushScheduled : Bool
  queue : List AssistantStatusCommand
  worker : StatusWorker
deriving DecidableEq

def AssistantStatusDispatcher.new : AssistantStatusDispatcher where
  currentSessionId := 0
  visibleSessionId := 0
  pendingSet := none
  setFlushScheduled := false
  queue := []
  worker := .idle

inductive StatusCall where
  | set (sessionId : Nat) (state : AssistantState)
  | clear (sessionId : Nat)
deriving DecidableEq, Repr

structure StatusDispatchers where
  entry : Option Nat
  nextDispatcher : Nat
  dispatchers : Nat → AssistantStatusDispatcher
  calls : List StatusCall

/-! ## セッション -/

inductive GuardPhase where
  /-- まだ始まっていない。 -/
  | absent
  | starting
  | activating (dispatcher : Nat)
  | registering
  | held
  | unregistering
  | readingShouldClear
  | retireLookup
  | retireClosing (dispatcher : Nat)
  | retiring (dispatcher : Nat)
  | retireRemoving (dispatcher : Nat)
  | finishing
  | dropped
deriving DecidableEq, Repr

/-- `finish_session` の進み具合。一つのセッションについて一度だけ先へ進む。 -/
inductive FinishPhase where
  | notQueued
  | lookup
  | closing (dispatcher : Nat)
  | sending (dispatcher : Nat)
  /-- 消す命令を、この係に送った。 -/
  | sent (dispatcher : Nat)
deriving DecidableEq, Repr

def FinishPhase.over : FinishPhase → Bool
  | .notQueued | .sent _ => true
  | _ => false

structure ActiveAssistantStatus where
  target : AssistantStatusTarget
  thread : Nat
  closed : Bool
  shouldClear : Bool
  finish : FinishPhase
  guard : GuardPhase
  /-- 遅れて出す状態を待っている。 -/
  timerArmed : Bool
  /-- 現在のセッションにされた係。 -/
  activatedOn : Option Nat
  /-- 番人が、消すものはないと読んだ。 -/
  silent : Bool
  /-- 消す命令が、列から取り出された。 -/
  cleared : Bool

def ActiveAssistantStatus.terminalClearQueued (a : ActiveAssistantStatus) : Bool := a.finish != .notQueued

def ActiveAssistantStatus.absent : ActiveAssistantStatus where
  target := ⟨"", ""⟩
  thread := 0
  closed := false
  shouldClear := false
  finish := .notQueued
  guard := .absent
  timerArmed := false
  activatedOn := none
  silent := false
  cleared := false

inductive StatusTask where
  | storingShouldClear (sessionId : Nat) (state : AssistantState)
  | lookup (sessionId : Nat) (state : AssistantState)
  | checkingClosed (sessionId : Nat) (state : AssistantState) (dispatcher : Nat)
  | settingPending (sessionId : Nat) (state : AssistantState) (dispatcher : Nat)
  | sendingFlush (target : AssistantStatusTarget) (dispatcher : Nat)
  /-- `clear_active_now` の `finish_session` の始め。 -/
  | swappingQueued (sessionId : Nat)
deriving DecidableEq

structure AssistantStatusController where
  nextSessionId : Nat
  sessions : Nat → ActiveAssistantStatus
  activeSessions : Nat → Option Nat
  tasks : List StatusTask
  targets : AssistantStatusTarget → StatusDispatchers

namespace AssistantStatusController

def new : AssistantStatusController where
  nextSessionId := 1
  sessions := fun _ => .absent
  activeSessions := fun _ => none
  tasks := []
  targets := fun _ => ⟨none, 0, fun _ => .new, []⟩

variable (c : AssistantStatusController)

def target (sessionId : Nat) : AssistantStatusTarget := (c.sessions sessionId).target

def dispatcher (target : AssistantStatusTarget) (d : Nat) : AssistantStatusDispatcher :=
  (c.targets target).dispatchers d

def onSession (sessionId : Nat) (f : ActiveAssistantStatus → ActiveAssistantStatus) : AssistantStatusController :=
  { c with sessions := Function.update c.sessions sessionId (f (c.sessions sessionId)) }

def onTarget (target : AssistantStatusTarget) (f : StatusDispatchers → StatusDispatchers) :
    AssistantStatusController :=
  { c with targets := Function.update c.targets target (f (c.targets target)) }

def onDispatcher (target : AssistantStatusTarget) (d : Nat)
    (f : AssistantStatusDispatcher → AssistantStatusDispatcher) : AssistantStatusController :=
  c.onTarget target fun t => { t with dispatchers := Function.update t.dispatchers d (f (t.dispatchers d)) }

def record (target : AssistantStatusTarget) (call : StatusCall) : AssistantStatusController :=
  c.onTarget target fun t => { t with calls := t.calls ++ [call] }

def send (target : AssistantStatusTarget) (d : Nat) (command : AssistantStatusCommand) : AssistantStatusController :=
  c.onDispatcher target d fun x => { x with queue := x.queue ++ [command] }

def setGuard (sessionId : Nat) (phase : GuardPhase) : AssistantStatusController :=
  c.onSession sessionId fun a => { a with guard := phase }

def setWorker (target : AssistantStatusTarget) (d : Nat) (worker : StatusWorker) : AssistantStatusController :=
  c.onDispatcher target d fun x => { x with worker }

/-- `dispatcher_for` が返す係。表になければ、新しく作る。 -/
def lookupId (target : AssistantStatusTarget) : Nat :=
  (c.targets target).entry.getD (c.targets target).nextDispatcher

def dispatcherFor (target : AssistantStatusTarget) : AssistantStatusController :=
  match (c.targets target).entry with
  | some _ => c
  | none => c.onTarget target fun t => { t with entry := some t.nextDispatcher, nextDispatcher := t.nextDispatcher + 1 }

/-- `remove_dispatcher_if_current` -/
def removeDispatcherIfCurrent (target : AssistantStatusTarget) (d : Nat) : AssistantStatusController :=
  if (c.targets target).entry = some d then c.onTarget target fun t => { t with entry := none } else c

/-- `start` の始め。番号を取る。 -/
def begin (thread : Nat) (target : AssistantStatusTarget) : AssistantStatusController :=
  { c with
    nextSessionId := c.nextSessionId + 1
    sessions := Function.update c.sessions c.nextSessionId
      { ActiveAssistantStatus.absent with target, thread, guard := .starting } }

def activate (s d : Nat) : AssistantStatusController :=
  ((c.onDispatcher (c.target s) d fun x => { x with currentSessionId := s }).onSession s
    fun a => { a with activatedOn := some d, guard := .registering })

def register (s : Nat) : AssistantStatusController :=
  { c with activeSessions := Function.update c.activeSessions (c.sessions s).thread (some s) }.onSession s
    fun a => { a with guard := .held, timerArmed := true }

def unregister (s : Nat) : AssistantStatusController :=
  { c with
    activeSessions :=
      if c.activeSessions (c.sessions s).thread = some s then
        Function.update c.activeSessions (c.sessions s).thread none
      else c.activeSessions }.setGuard s .readingShouldClear

def readShouldClear (s : Nat) : AssistantStatusController :=
  if (c.sessions s).shouldClear then c.setGuard s .finishing
  else c.onSession s fun a => { a with guard := .retireLookup, silent := true }

/-- `retire_session` の錠の区間。 -/
def retire (s d : Nat) : AssistantStatusController :=
  let x := c.dispatcher (c.target s) d
  if x.currentSessionId = s then
    (c.onDispatcher (c.target s) d fun x => { x with currentSessionId := 0 }).setGuard s
      (if x.visibleSessionId = 0 then .retireRemoving d else .dropped)
  else c.setGuard s .dropped

/-- `terminal_clear_queued.swap(true)`。 -/
def swapQueued (s : Nat) : AssistantStatusController :=
  if (c.sessions s).terminalClearQueued then c else c.onSession s fun a => { a with finish := .lookup }

def guardStep (s : Nat) : AssistantStatusController :=
  match (c.sessions s).guard with
  | .starting => (c.dispatcherFor (c.target s)).setGuard s (.activating (c.lookupId (c.target s)))
  | .activating d => c.activate s d
  | .registering => c.register s
  | .unregistering => c.unregister s
  | .readingShouldClear => c.readShouldClear s
  | .retireLookup => (c.dispatcherFor (c.target s)).setGuard s (.retireClosing (c.lookupId (c.target s)))
  | .retireClosing d => c.onSession s fun a => { a with closed := true, guard := .retiring d }
  | .retiring d => c.retire s d
  | .retireRemoving d => (c.removeDispatcherIfCurrent (c.target s) d).setGuard s .dropped
  | .finishing => (c.swapQueued s).setGuard s .dropped
  | .absent | .held | .dropped => c

def finishStep (s : Nat) : AssistantStatusController :=
  match (c.sessions s).finish with
  | .lookup =>
    (c.dispatcherFor (c.target s)).onSession s fun a => { a with finish := .closing (c.lookupId (c.target s)) }
  | .closing d => c.onSession s fun a => { a with closed := true, finish := .sending d }
  | .sending d => (c.send (c.target s) d (.clear s)).onSession s fun a => { a with finish := .sent d }
  | .notQueued | .sent _ => c

/-- `set` の錠の区間。 -/
def setPending (s : Nat) (state : AssistantState) (d : Nat) : AssistantStatusController :=
  if (c.dispatcher (c.target s) d).currentSessionId = s then
    c.onDispatcher (c.target s) d fun x => { x with pendingSet := some (s, state), setFlushScheduled := true }
  else c

/-- 錠の区間の後に `FlushSet` を送るか。 -/
def schedulesFlush (s d : Nat) : Bool :=
  (c.dispatcher (c.target s) d).currentSessionId == s && !(c.dispatcher (c.target s) d).setFlushScheduled

def taskStep : StatusTask → AssistantStatusController × Option StatusTask
  | .storingShouldClear s state => (c.onSession s fun a => { a with shouldClear := true }, some (.lookup s state))
  | .lookup s state =>
    (c.dispatcherFor (c.target s), some (.checkingClosed s state (c.lookupId (c.target s))))
  | .checkingClosed s state d =>
    (c, if (c.sessions s).closed then none else some (.settingPending s state d))
  | .settingPending s state d =>
    (c.setPending s state d, if c.schedulesFlush s d then some (.sendingFlush (c.target s) d) else none)
  | .sendingFlush target d => (c.send target d .flushSet, none)
  | .swappingQueued s => (c.swapQueued s, none)

/-- `k` 番の処理が一歩進む。 -/
def runTask (k : Nat) : AssistantStatusController :=
  match c.tasks[k]? with
  | some t =>
    { (c.taskStep t).1 with
      tasks := match (c.taskStep t).2 with
        | some next => c.tasks.set k next
        | none => c.tasks.eraseIdx k }
  | none => c

def receive (target : AssistantStatusTarget) (d : Nat) : AssistantStatusController :=
  match (c.dispatcher target d).queue with
  | .flushSet :: rest => c.onDispatcher target d fun x => { x with queue := rest, worker := .takingPending }
  | .clear s :: rest =>
    (c.onDispatcher target d fun x => { x with queue := rest, worker := .checkingVisible s }).onSession s
      fun a => { a with cleared := true }
  | [] => c

def takePending (target : AssistantStatusTarget) (d : Nat) : AssistantStatusController :=
  c.onDispatcher target d fun x =>
    { x with
      pendingSet := none
      setFlushScheduled := false
      worker := match x.pendingSet with
        | some (s, state) => .checkingCurrent s state
        | none => .idle }

def settle (target : AssistantStatusTarget) (d s : Nat) : AssistantStatusController :=
  c.onDispatcher target d fun x =>
    let visible := if x.visibleSessionId = s then 0 else x.visibleSessionId
    let current := if x.currentSessionId = s then 0 else x.currentSessionId
    { x with
      visibleSessionId := visible
      currentSessionId := current
      worker := if current = 0 ∧ visible = 0 then .removing else .idle }

/-- 係の一歩。`ok` は、終わる呼び出しの成否。 -/
def workerStep (target : AssistantStatusTarget) (d : Nat) (ok : Bool) : AssistantStatusController :=
  match (c.dispatcher target d).worker with
  | .idle => c.receive target d
  | .takingPending => c.takePending target d
  | .checkingCurrent s state =>
    c.setWorker target d (if (c.dispatcher target d).currentSessionId = s then .setting s state else .idle)
  | .setting s state =>
    if ok then (c.record target (.set s state)).setWorker target d (.recordingVisible s)
    else c.setWorker target d .idle
  | .recordingVisible s => c.onDispatcher target d fun x => { x with visibleSessionId := s, worker := .idle }
  | .checkingVisible s =>
    c.setWorker target d (if (c.dispatcher target d).visibleSessionId = s then .clearing s else .idle)
  | .clearing s =>
    if ok then (c.record target (.clear s)).setWorker target d (.settling s)
    else c.setWorker target d (.settling s)
  | .settling s => c.settle target d s
  | .removing => (c.removeDispatcherIfCurrent target d).setWorker target d .idle

end AssistantStatusController

inductive StatusEvent where
  | start (thread : Nat) (target : AssistantStatusTarget)
  /-- 番人を持つ処理が一歩進む。 -/
  | guard (sessionId : Nat)
  | drop (sessionId : Nat)
  | finish (sessionId : Nat)
  | timer (sessionId : Nat)
  /-- 番人が落ちたことを知り、待つのをやめる。 -/
  | timerCancelled (sessionId : Nat)
  /-- `update_for_tool` と `update_for_agent_phase`。 -/
  | update (thread : Nat) (state : AssistantState)
  | clearActiveNow (thread : Nat)
  | task (k : Nat)
  | worker (target : AssistantStatusTarget) (dispatcher : Nat) (ok : Bool)
deriving DecidableEq

namespace AssistantStatusController

def spawn (c : AssistantStatusController) (t : StatusTask) : AssistantStatusController :=
  { c with tasks := c.tasks ++ [t] }

def step (c : AssistantStatusController) : StatusEvent → AssistantStatusController
  | .start thread target => c.begin thread target
  | .guard s => c.guardStep s
  | .drop s => if (c.sessions s).guard = .held then c.setGuard s .unregistering else c
  | .finish s => c.finishStep s
  | .timer s =>
    if (c.sessions s).timerArmed then
      (c.onSession s fun a => { a with timerArmed := false }).spawn (.storingShouldClear s .reviewingFindings)
    else c
  | .timerCancelled s => c.onSession s fun a => { a with timerArmed := a.timerArmed && a.guard == .held }
  | .update thread state =>
    match c.activeSessions thread with
    | some s => c.spawn (.storingShouldClear s state)
    | none => c
  | .clearActiveNow thread =>
    match c.activeSessions thread with
    | some s => c.spawn (.swappingQueued s)
    | none => c
  | .task k => c.runTask k
  | .worker target d ok => c.workerStep target d ok

/-- 番人がすべて落ち、列も処理も残っていない。 -/
structure Quiescent (c : AssistantStatusController) : Prop where
  guards : ∀ s < c.nextSessionId, (c.sessions s).guard = .absent ∨ (c.sessions s).guard = .dropped
  timers : ∀ s < c.nextSessionId, (c.sessions s).timerArmed = false
  finishes : ∀ s < c.nextSessionId, (c.sessions s).finish.over = true
  tasks : c.tasks = []
  dispatchers : ∀ s < c.nextSessionId, ∀ d < (c.targets (c.target s)).nextDispatcher,
    (c.dispatcher (c.target s) d).queue = [] ∧ (c.dispatcher (c.target s) d).worker = .idle

instance (c : AssistantStatusController) : Decidable c.Quiescent :=
  decidable_of_iff
    ((∀ s < c.nextSessionId, (c.sessions s).guard = .absent ∨ (c.sessions s).guard = .dropped) ∧
      (∀ s < c.nextSessionId, (c.sessions s).timerArmed = false) ∧
      (∀ s < c.nextSessionId, (c.sessions s).finish.over = true) ∧ c.tasks = [] ∧
      ∀ s < c.nextSessionId, ∀ d < (c.targets (c.target s)).nextDispatcher,
        (c.dispatcher (c.target s) d).queue = [] ∧ (c.dispatcher (c.target s) d).worker = .idle)
    ⟨fun ⟨guards, timers, finishes, tasks, dispatchers⟩ => ⟨guards, timers, finishes, tasks, dispatchers⟩,
      fun ⟨guards, timers, finishes, tasks, dispatchers⟩ => ⟨guards, timers, finishes, tasks, dispatchers⟩⟩

end AssistantStatusController

end Codeoff.Serve
